import TypedRows.Proofs.Consistency

/-! What a type has from its root. A type is steered from the root exactly if no class below the
root has a say in where rows go, and then it has the tables, keys and keyspace of the root. -/
namespace TypedRows

namespace Keyspace

/-- Which values are found decides the name; why one is missing does not. -/
theorem resolve_eq_ok_iff_of_values {ε : Type} {valueOf other : String → Except ε String}
    (alike : ∀ suffixType value, valueOf suffixType = .ok value ↔ other suffixType = .ok value)
    (keyspace : Keyspace) (naming : Naming) (name : String) :
    keyspace.resolve naming valueOf = .ok name ↔ keyspace.resolve naming other = .ok name := by
  refine foldlM_eq_ok_iff_of_steps ?_ _ _ _
  intro state suffixType next
  simp only [map_eq_ok_iff, alike]

end Keyspace

namespace Entity

/-- The value for a suffix type is the text of the first key that supplies it, if not excluded. -/
theorem suffixValue_eq_ok_iff (entity : Entity) (keys : KeyValues) (suffixType value : String) :
    entity.suffixValue keys suffixType = .ok value ↔
      ∃ field, entity.keyspaceKeys.find? (·.supplies suffixType) = some field ∧
        (keys.lookup field.columnName >>= keyText?) = some value ∧
          field.excludes value = false := by
  simp only [suffixValue, bind_eq_ok_iff, required_eq_ok_iff, require_eq_ok_iff, Bool.not_eq_true']
  constructor
  · intro holds
    obtain ⟨field, found, text, held, _, free, same⟩ := holds
    cases same
    exact ⟨field, found, held, free⟩
  · intro holds
    obtain ⟨field, found, held, free⟩ := holds
    exact ⟨field, found, value, held, (), free, rfl⟩

/-- Of the key values only those count that a suffix type takes its text from. -/
theorem resolveKeyspace_congr {entity : Entity} {keys others : KeyValues}
    (same : ∀ suffixType ∈ entity.keyspace.suffixes, ∀ field,
      entity.keyspaceKeys.find? (·.supplies suffixType) = some field →
        keys.lookup field.columnName = others.lookup field.columnName) :
    entity.resolveKeyspace keys = entity.resolveKeyspace others := by
  refine foldlM_congr_of_mem ?_ _
  intro suffixType listed name
  have values : entity.suffixValue keys suffixType = entity.suffixValue others suffixType := by
    unfold suffixValue
    cases found : entity.keyspaceKeys.find? (·.supplies suffixType) with
    | none => rfl
    | some field => simp only [required, ok_bind, same suffixType listed field found]
  rw [values]

/-- No class strictly below the class of the entity has a say in where its rows go: none has a
keyspace, tables or keyspace keys of its own, or a column with a part in one of the tables. -/
structure Governs (entity : Entity) (cls : Class) : Prop where
  keyspaces : ∀ decl ∈ Class.declsBelow entity.cls cls, decl.keyspace = none
  tables : ∀ decl ∈ Class.declsBelow entity.cls cls, decl.tables = []
  keys : ∀ decl ∈ Class.declsBelow entity.cls cls, ∀ field ∈ decl.fields, field.keyspaceKey = none
  parts : ∀ decl ∈ Class.declsBelow entity.cls cls, ∀ field ∈ decl.fields, ∀ table ∈ entity.tables,
    field.appliesTo table.name = true → ¬field.PlaysPart

/-- Two entities that send the same rows to the same places. -/
structure SameSteering (entity other : Entity) : Prop where
  keyspaceHolder_eq : entity.keyspaceHolder = other.keyspaceHolder
  keyspace_eq : entity.keyspace = other.keyspace
  tableHolder_eq : entity.tableHolder = other.tableHolder
  tables : List.Forall₂ Table.SameKeys entity.tables other.tables
  keyspaceKeys_eq : entity.keyspaceKeys = other.keyspaceKeys

section

variable {root : Entity} {cls : Class} (governs : root.Governs cls)

include governs

theorem Governs.plain : ∀ table ∈ root.tables, ∀ field ∈ Class.fieldsBelow root.cls cls,
    field.appliesTo table.name = true → ¬field.decl.PlaysPart := by
  intro table listed field member applies
  obtain ⟨owner, below, decl, declared, rfl⟩ := Class.mem_fieldsBelow_iff.mp member
  exact governs.parts owner below decl declared table listed applies

variable (coherent : Class.Coherent [root.cls, cls])
  (descends : root.cls.isAssignableFrom cls = true)

include coherent descends

theorem Governs.keyFields_eq : cls.keyFields = root.cls.keyFields := by
  have none : (Class.fieldsBelow root.cls cls).filter (·.decl.keyspaceKey.isSome) = [] := by
    apply List.filter_eq_nil_iff.mpr
    intro field member
    obtain ⟨owner, below, decl, declared, rfl⟩ := Class.mem_fieldsBelow_iff.mp member
    simp [governs.keys owner below decl declared]
  rw [Class.keyFields, Class.fields_eq_append coherent descends, List.filter_append, none,
    List.append_nil, Class.keyFields]

theorem Governs.tableHolder?_eq : cls.tableHolder? = root.cls.tableHolder? := by
  refine Class.nearest?_eq_of_none_below coherent descends ?_
  intro decl below
  simp [governs.tables decl below]

theorem Governs.keyspaceHolder?_eq : cls.keyspaceHolder? = root.cls.keyspaceHolder? := by
  have absent : ∀ decl ∈ Class.declsBelow root.cls cls, decl.keyspace.isSome = false := by
    intro decl below
    simp [governs.keyspaces decl below]
  have nearest : cls.nearest? (·.keyspace.isSome) = root.cls.nearest? (·.keyspace.isSome) :=
    Class.nearest?_eq_of_none_below coherent descends absent
  ext ⟨holder, keyspace⟩
  simp only [Class.keyspaceHolder?_eq_some_iff, nearest]

end

section

variable {root entity : Entity} (coherent : Class.Coherent [root.cls, entity.cls])
  (descends : root.cls.isAssignableFrom entity.cls = true) (rooted : root.Describes .root)
  (described : entity.Describes .type)

include coherent descends rooted described

theorem Governs.sameSteering (governs : root.Governs entity.cls) : entity.SameSteering root := by
  have holders : some (entity.keyspaceHolder, entity.keyspace) =
      some (root.keyspaceHolder, root.keyspace) := by
    rw [← described.keyspaceHolder, ← rooted.keyspaceHolder]
    exact governs.keyspaceHolder?_eq coherent descends
  have tableHolder : some entity.tableHolder = some root.tableHolder := by
    rw [← described.tableHolder, ← rooted.tableHolder]
    exact governs.tableHolder?_eq coherent descends
  obtain ⟨keyspaceHolder, keyspace⟩ := Prod.mk.inj (Option.some.inj holders)
  have widened := described.tables
  rw [Option.some.inj tableHolder, Class.fields_eq_append coherent descends] at widened
  refine ⟨keyspaceHolder, keyspace, Option.some.inj tableHolder, ?_, ?_⟩
  · exact Table.sameKeys_of_widened rooted.tables governs.plain widened
  · rw [described.keyspaceKeys, rooted.keyspaceKeys, governs.keyFields_eq coherent descends]

theorem governs_of_steeredFrom (steered : entity.SteeredFrom root.cls) :
    root.Governs entity.cls := by
  have hidden : ∀ decl ∈ Class.declsBelow root.cls entity.cls,
      Class.visibleFrom decl.path root.cls = false :=
    fun decl below => Class.not_visible_of_mem_declsBelow coherent descends below
  have inherited : ∀ decl ∈ Class.declsBelow root.cls entity.cls, ∀ field ∈ decl.fields,
      (⟨field, decl.path⟩ : Field) ∈ entity.cls.fields := by
    intro decl below field declared
    rw [Class.fields_eq_append coherent descends]
    apply List.mem_append_right
    exact Class.mem_fieldsBelow_iff.mpr ⟨decl, below, field, declared, rfl⟩
  have keyspaces := (Class.nearest?_visible_iff coherent descends
    (Class.keyspaceHolder?_eq_some_iff.mp described.keyspaceHolder).1).mp steered.keyspace
  have tables := (Class.nearest?_visible_iff coherent descends described.tableHolder).mp
    steered.tables
  refine ⟨?_, ?_, ?_, ?_⟩
  · intro decl below
    simpa using keyspaces decl below
  · intro decl below
    simpa using tables decl below
  · intro decl below field declared
    by_contra isKey
    have key : (⟨field, decl.path⟩ : Field) ∈ entity.keyspaceKeys := by
      refine (mem_keyspaceKeys_iff described).mpr (List.mem_filter.mpr ?_)
      exact ⟨inherited decl below field declared, by simpa [Option.isSome_iff_ne_none] using isKey⟩
    have own : decl.path = root.cls.path := steered.keys _ key
    have visible : Class.visibleFrom decl.path root.cls = true := by
      simp [Class.visibleFrom, Class.lineage, own, Class.path]
    rw [hidden decl below] at visible
    exact Bool.false_ne_true visible
  · intro decl below field declared table listed applies part
    have holder : entity.cls.tableHolder? = root.cls.tableHolder? :=
      Class.nearest?_eq_of_none_below coherent descends tables
    rw [described.tableHolder, rooted.tableHolder] at holder
    have named : table.name ∈ entity.tables.map (·.name) := by
      rw [map_name_tables described, Option.some.inj holder, ← map_name_tables rooted]
      exact List.mem_map.mpr ⟨table, listed, rfl⟩
    obtain ⟨twin, twinListed, same⟩ := List.mem_map.mp named
    have column : (⟨field, decl.path⟩ : Field) ∈ twin.fields := by
      apply (Table.mem_fields_iff (builtFrom_of_mem_tables described twinListed)).mpr
      exact ⟨inherited decl below field declared, by rw [same]; exact applies⟩
    have visible := steered.parts twin twinListed _ column part
    rw [hidden decl below] at visible
    exact Bool.false_ne_true visible

/-- A type is steered from the root exactly if the root declares its keyspace keys itself and
nothing below the root steers. -/
theorem steeredFrom_iff :
    entity.SteeredFrom root.cls ↔
      (∀ key ∈ root.keyspaceKeys, key.declaredIn = root.cls.path) ∧ root.Governs entity.cls := by
  constructor
  · intro steered
    have governs := governs_of_steeredFrom coherent descends rooted described steered
    refine ⟨?_, governs⟩
    rw [← (governs.sameSteering coherent descends rooted described).keyspaceKeys_eq]
    exact steered.keys
  · intro ⟨own, governs⟩
    have same := governs.sameSteering coherent descends rooted described
    refine ⟨?_, ?_, ?_, ?_⟩
    · rw [same.keyspaceKeys_eq]
      exact own
    · refine (Class.nearest?_visible_iff coherent descends
        (Class.keyspaceHolder?_eq_some_iff.mp described.keyspaceHolder).1).mpr ?_
      intro decl below
      simp [governs.keyspaces decl below]
    · refine (Class.nearest?_visible_iff coherent descends described.tableHolder).mpr ?_
      intro decl below
      simp [governs.tables decl below]
    · intro table listed field member part
      obtain ⟨declared, applies⟩ :=
        (Table.mem_fields_iff (builtFrom_of_mem_tables described listed)).mp member
      rw [Class.fields_eq_append coherent descends] at declared
      rcases List.mem_append.mp declared with above | below
      · obtain ⟨owner, inLineage, decl, _, rfl⟩ : ∃ owner ∈ root.cls.lineage,
            ∃ decl ∈ owner.fields, ⟨decl, owner.path⟩ = field := by
          simpa [Class.fields] using above
        exact List.any_eq_true.mpr ⟨owner, inLineage, by simp⟩
      · have named : table.name ∈ root.tables.map (·.name) := by
          rw [map_name_tables rooted, ← same.tableHolder_eq, ← map_name_tables described]
          exact List.mem_map.mpr ⟨table, listed, rfl⟩
        obtain ⟨twin, twinListed, sameName⟩ := List.mem_map.mp named
        exact absurd part (governs.plain twin twinListed field below (sameName ▸ applies))

end

end Entity

end TypedRows
