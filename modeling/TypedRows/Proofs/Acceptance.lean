import TypedRows.Proofs.Inheritance
import TypedRows.Proofs.Sessions

/-! Which classes a root accepts as types, and what an accepted type shares with its root. -/
namespace TypedRows

namespace Class

theorem isMarked_of_descends {root cls : Class} (coherent : Coherent [root, cls])
    (descends : root.isAssignableFrom cls = true) (marked : root.isMarked .root = true) :
    cls.isMarked .type = true := by
  refine List.any_eq_true.mpr ⟨root.own, ?_, marked⟩
  rw [lineage_eq_append coherent descends]
  exact List.mem_append_right _ List.mem_cons_self

end Class

namespace Entity

section

variable {root : Entity} {cls : Class} (coherent : Class.Coherent [root.cls, cls])
  (descends : root.cls.isAssignableFrom cls = true) (rooted : root.Describes .root)

include coherent descends rooted

theorem Governs.exists_describes (governs : root.Governs cls) (settings : Settings)
    (distinct : (cls.columns.map (·.columnName)).Nodup)
    (known : ∀ decl ∈ Class.declsBelow root.cls cls,
      Class.BindsOnly (root.tables.map (·.name)) decl) :
    ∃ entity : Entity, entity.cls = cls ∧ entity.settings = settings ∧ entity.Describes .type := by
  obtain ⟨tables, widened⟩ := Table.exists_widened rooted.tables governs.plain
  have keys := governs.keyFields_eq coherent descends
  rw [← Class.fields_eq_append coherent descends] at widened
  refine ⟨{ root with cls, settings, tables, columns := cls.columns }, rfl, rfl, ?_⟩
  refine {
    marked := Class.isMarked_of_descends coherent descends rooted.marked
    keyspaceHolder := ?_
    tableHolder := ?_
    distinctColumns := distinct
    knownTables := ?_
    tables := widened
    distinctKeys := ?_
    keyspaceKeys := ?_
    suppliedSuffixes := rooted.suppliedSuffixes
    columns := rfl }
  · exact (governs.keyspaceHolder?_eq coherent descends).trans rooted.keyspaceHolder
  · exact (governs.tableHolder?_eq coherent descends).trans rooted.tableHolder
  · intro decl inherited
    rw [Class.lineage_eq_append coherent descends] at inherited
    rcases List.mem_append.mp inherited with below | above
    · exact map_name_tables rooted ▸ known decl below
    · exact rooted.knownTables decl above
  · exact keys ▸ rooted.distinctKeys
  · exact rooted.keyspaceKeys.trans (by rw [keys])

end

theorem columns_eq_append {root entity : Entity} {rootBoundary boundary : Boundary}
    (coherent : Class.Coherent [root.cls, entity.cls])
    (descends : root.cls.isAssignableFrom entity.cls = true) (rooted : root.Describes rootBoundary)
    (described : entity.Describes boundary) :
    entity.columns =
      root.columns ++ (Class.fieldsBelow root.cls entity.cls).filter (·.isColumn) := by
  rw [described.columns, rooted.columns, Class.columns, Class.columns,
    Class.fields_eq_append coherent descends, List.filter_append]

theorem SameSteering.resolveKeyspace_eq_ok_iff {entity other : Entity}
    (same : entity.SameSteering other) (naming : entity.settings.naming = other.settings.naming)
    (keys : KeyValues) (name : String) :
    entity.resolveKeyspace keys = .ok name ↔ other.resolveKeyspace keys = .ok name := by
  unfold resolveKeyspace
  rw [same.keyspace_eq, naming]
  refine Keyspace.resolve_eq_ok_iff_of_values ?_ _ _ _
  intro suffixType value
  simp only [suffixValue_eq_ok_iff, same.keyspaceKeys_eq]

end Entity

/-! ### A small hierarchy -/

namespace Menagerie

/-- Stores a truth value as a word. -/
def yesNo : Persister where
  storedKind := .text
  encode
    | .bool true => .ok (.text "yes")
    | .bool false => .ok (.text "no")
    | _ => .error "not a truth value"
  decode
    | .text "yes" => .ok (.bool true)
    | .text "no" => .ok (.bool false)
    | _ => .error "neither yes nor no"

/-- An abstract root with a type key and a keyspace for each region. -/
def animal : Class := .top
  { path := "zoo::Animal"
    isRoot := true
    keyspace := some ⟨"zoo", ["region"]⟩
    tables := ["animals"]
    fields := [(FieldDecl.ofColumn "id" .text).asPartitionKey 0,
      (FieldDecl.ofColumn "kind" .text).asTypeKey, .ofSuffix "region" .text "region"] }

/-- The shape of an animal with some attributes of its own. -/
def shape (name path : String) (own : List Attribute) : Shape :=
  ⟨name, path, path, [⟨"id", .string⟩, ⟨"kind", .option .string⟩, ⟨"region", .string⟩] ++ own⟩

/-- An animal of which nothing is known yet but what it holds in attributes of its own. -/
def newborn (name path : String) (own : List Attribute) (held : Slots own) : Object :=
  ⟨shape name path own, .cons "" (.cons none (.cons "" held))⟩

/-- The attributes of a dog. Its voice is kept nowhere. -/
def dogOwn : List Attribute := [⟨"good", .bool⟩, ⟨"voice", .string⟩]

def dog : Class := .below
  { path := "zoo::Dog"
    factory := some (newborn "Dog" "zoo::Dog" dogOwn (.cons false (.cons "bark" .nil)))
    discriminator := some "dog"
    fields := [(FieldDecl.ofColumn "good" .bool).persistedBy yesNo] } animal

def puppy : Class := .below
  { path := "zoo::Puppy"
    factory := some (newborn "Puppy" "zoo::Puppy" [⟨"good", .bool⟩, ⟨"weeks", .unsigned .w8⟩]
      (.cons true (.cons ⟨1, by decide⟩ .nil)))
    discriminator := some "puppy"
    fields := [.ofColumn "weeks" .uint] } dog

def cat : Class := .below
  { path := "zoo::Cat"
    factory := some (newborn "Cat" "zoo::Cat" [] .nil)
    discriminator := some "cat" } animal

theorem coherent : Class.Coherent [animal, dog, puppy, cat] := by
  refine Class.coherent_of_nodup (by decide : ([animal, dog, puppy, cat].map (·.path)).Nodup) ?_
  have all : [animal, dog, puppy, cat].flatMap Class.ancestors =
      [animal, dog, animal, puppy, dog, animal, cat, animal] := rfl
  intro cls member
  rw [all] at member
  grind

/-- A session with one manager, which keeps the root and its three types. -/
def opened : Session :=
  ((({} : Session).run ⟨.addManager none, some "manager"⟩).2.2.run
    ⟨.rootEntity "manager" animal [dog, puppy, cat], some "animals"⟩).2.2

theorem reachable_opened : opened.Reachable := .step (.step .start _) _

def root : Root := opened.store.roots.head (by decide)

theorem root_cls : root.cls = animal := rfl

theorem root_live : root ∈ opened.store.roots := List.head_mem _

/-- The second of the types, after the one for cats. -/
def dogType : TypeEntity := root.types.get ⟨1, by decide⟩

theorem dogType_cls : dogType.cls = dog := rfl

theorem dogType_registered : dogType ∈ root.types := List.get_mem _ _

end Menagerie

namespace TypeEntity

/-- A concrete class with a discriminator that descends from a root is accepted as a type exactly if
the root declares its keyspace keys itself, nothing below the root steers, the columns have names of
their own, and every table that is named below the root is one of the root's. -/
theorem exists_validate_eq_ok_iff {rootSettings settings : Settings} {rootId typeId : Identity}
    {rootClass cls : Class} {types : List Class} {root : Root} {fresh : Object} (isDynamic : Bool)
    (built : (Root.build rootSettings rootId rootClass types).result = .ok root)
    (coherent : Class.Coherent [root.cls, cls]) (made : cls.own.factory = some fresh)
    (own : fresh.classPath = cls.path) (tagged : cls.own.discriminator.isSome = true)
    (descends : root.cls.isAssignableFrom cls = true) :
    (∃ type, (validate settings typeId root.id root.cls cls isDynamic).result = .ok type) ↔
      (∀ key ∈ root.entity.keyspaceKeys, key.declaredIn = root.path) ∧
        root.entity.Governs cls ∧ (cls.columns.map (·.columnName)).Nodup ∧
        ∀ decl ∈ Class.declsBelow root.cls cls,
          Class.BindsOnly (root.entity.tables.map (·.name)) decl := by
  have rooted := (Root.sound_of_build built).1.described
  constructor
  · intro ⟨type, accepted⟩
    obtain ⟨valid, rfl, _⟩ := (validate_result_eq_ok_iff _ _ _ _ _ _ _).mp accepted
    have described := valid.described
    obtain ⟨keys, governs⟩ :=
      (Entity.steeredFrom_iff coherent descends rooted described).mp valid.steered
    refine ⟨keys, governs, described.distinctColumns, ?_⟩
    have same := governs.sameSteering coherent descends rooted described
    intro decl below
    rw [Entity.map_name_tables rooted, ← same.tableHolder_eq]
    have inherited : decl ∈ type.cls.lineage := by
      rw [Class.lineage_eq_append coherent descends]
      exact List.mem_append_left _ below
    exact described.knownTables decl inherited
  · intro ⟨keys, governs, distinct, known⟩
    obtain ⟨entity, rfl, configured, described⟩ :=
      governs.exists_describes coherent descends rooted settings distinct known
    obtain ⟨discriminator, tag⟩ := Option.isSome_iff_exists.mp tagged
    have steered := (Entity.steeredFrom_iff coherent descends rooted described).mpr ⟨keys, governs⟩
    refine ⟨⟨typeId, root.id, root.cls.path, entity, discriminator, isDynamic⟩, ?_⟩
    exact (validate_result_eq_ok_iff _ _ _ _ _ _ _).mpr
      ⟨⟨⟨fresh, made, own⟩, described, tag, descends, steered, rfl⟩, rfl, configured, rfl, rfl, rfl⟩

theorem exists_validate_puppy :
    ∃ type, (validate {} 9 Menagerie.root.id Menagerie.root.cls Menagerie.puppy true).result =
      .ok type := by
  have built : (Root.build {} 1 Menagerie.animal
      [Menagerie.dog, Menagerie.puppy, Menagerie.cat]).result = .ok Menagerie.root := rfl
  have coherent : Class.Coherent [Menagerie.root.cls, Menagerie.puppy] :=
    Menagerie.coherent.mono (by simp [Menagerie.root_cls])
  refine (exists_validate_eq_ok_iff true built coherent rfl rfl rfl rfl).mpr ⟨?_, ?_, ?_, ?_⟩
  · decide
  · refine ⟨?_, ?_, ?_, ?_⟩ <;> decide
  · decide
  · decide

/-- A type that its root accepts under the root's own settings is steered like the root, has the
columns of the root before its own, and resolves the same keyspaces. -/
theorem agrees_of_validate {session : Session} {root : Root} {typeId : Identity} {cls : Class}
    {isDynamic : Bool} {type : TypeEntity} (reached : session.Reachable)
    (live : root ∈ session.store.roots) (coherent : Class.Coherent [root.cls, cls])
    (accepted : (validate root.entity.settings typeId root.id root.cls cls isDynamic).result =
      .ok type) :
    type.entity.SameSteering root.entity ∧
      type.entity.columns =
        root.entity.columns ++ (Class.fieldsBelow root.cls cls).filter (·.isColumn) ∧
      ∀ keys name, type.entity.resolveKeyspace keys = .ok name ↔
        root.entity.resolveKeyspace keys = .ok name := by
  have rooted := (reached.sound.store.roots root live).described
  obtain ⟨valid, rfl, configured, _⟩ := (validate_result_eq_ok_iff _ _ _ _ _ _ _).mp accepted
  have described := valid.described
  have descends := valid.descends
  have governs := Entity.governs_of_steeredFrom coherent descends rooted described valid.steered
  have same := governs.sameSteering coherent descends rooted described
  refine ⟨same, Entity.columns_eq_append coherent descends rooted described, ?_⟩
  exact same.resolveKeyspace_eq_ok_iff (congrArg Settings.naming configured)

theorem agrees_of_validate_puppy :
    ∃ type : TypeEntity, type.cls = Menagerie.puppy ∧
      type.entity.SameSteering Menagerie.root.entity ∧
      type.entity.columns = Menagerie.root.entity.columns ++
        (Class.fieldsBelow Menagerie.root.cls Menagerie.puppy).filter (·.isColumn) := by
  have coherent : Class.Coherent [Menagerie.root.cls, Menagerie.puppy] :=
    Menagerie.coherent.mono (by simp [Menagerie.root_cls])
  obtain ⟨type, accepted, cls⟩ : ∃ type, (validate Menagerie.root.entity.settings 9
      Menagerie.root.id Menagerie.root.cls Menagerie.puppy true).result = .ok type ∧
        type.cls = Menagerie.puppy := ⟨_, rfl, rfl⟩
  obtain ⟨same, columns, _⟩ :=
    agrees_of_validate Menagerie.reachable_opened Menagerie.root_live coherent accepted
  exact ⟨type, cls, same, columns⟩

end TypeEntity

end TypedRows
