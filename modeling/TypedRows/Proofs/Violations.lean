import TypedRows.Proofs.RoundTrip

/-! What is reported of a class that does not agree with its root. The offences are laid down by
what the class and the root declare, and the report lists each of them once. The mode of validation
shortens the report and decides nothing. -/
namespace TypedRows

theorem eq_of_sublist_of_mem_iff {α : Type} {items first second : List α} (distinct : items.Nodup)
    (firstPart : first.Sublist items) (secondPart : second.Sublist items)
    (same : ∀ item, item ∈ first ↔ item ∈ second) : first = second := by
  induction items generalizing first second with
  | nil => rw [List.sublist_nil.mp firstPart, List.sublist_nil.mp secondPart]
  | cons item rest ih =>
    obtain ⟨fresh, distinct⟩ := List.nodup_cons.mp distinct
    cases firstPart with
    | cons _ firstRest =>
      have absent : item ∉ second := fun member =>
        fresh (firstRest.subset ((same item).mpr member))
      cases secondPart with
      | cons _ secondRest => exact ih distinct firstRest secondRest same
      | cons_cons _ _ => exact absurd List.mem_cons_self absent
    | @cons_cons firstTail _ _ firstRest =>
      cases secondPart with
      | cons _ secondRest =>
        exact absurd (secondRest.subset ((same item).mp List.mem_cons_self)) fresh
      | @cons_cons secondTail _ _ secondRest =>
        refine congrArg _ (ih distinct firstRest secondRest fun other => ?_)
        have either := same other
        rw [List.mem_cons, List.mem_cons] at either
        by_cases here : other = item
        · subst here
          exact iff_of_false (fun member => fresh (firstRest.subset member))
            (fun member => fresh (secondRest.subset member))
        · simpa [here] using either

/-- The ordinal of a field in a part that has ordinals. -/
def Field.position (role : KeyRole) (field : Field) : Nat := (field.ordinal? role).getD 0

namespace Table

/-- The order in which the fields of a part stand: that of the ordinals for partition and clustering
keys, and that of the declarations otherwise. -/
def InPartOrder (table : Table) (fields : List Field) : KeyRole → Prop
  | .partitionKey => Keyed.Ascending (Field.position .partitionKey) fields
  | .clusteringKey => Keyed.Ascending (Field.position .clusteringKey) fields
  | .typeKey => fields.Sublist table.fields
  | .index => fields.Sublist table.fields

theorem InPartOrder.sublist {table : Table} {fields fewer : List Field} {role : KeyRole}
    (ordered : table.InPartOrder fields role) (part : fewer.Sublist fields) :
    table.InPartOrder fewer role := by
  cases role with
  | partitionKey => exact List.Pairwise.sublist part ordered
  | clusteringKey => exact List.Pairwise.sublist part ordered
  | typeKey => exact part.trans ordered
  | index => exact part.trans ordered

theorem InPartOrder.eq_of_mem_iff {table : Table} {fields others : List Field} {role : KeyRole}
    (distinct : table.fields.Nodup) (ordered : table.InPartOrder fields role)
    (otherOrdered : table.InPartOrder others role)
    (same : ∀ field, field ∈ fields ↔ field ∈ others) : fields = others := by
  cases role with
  | partitionKey => exact Keyed.Ascending.eq_of_mem_iff ordered otherOrdered same
  | clusteringKey => exact Keyed.Ascending.eq_of_mem_iff ordered otherOrdered same
  | typeKey => exact eq_of_sublist_of_mem_iff distinct ordered otherOrdered same
  | index => exact eq_of_sublist_of_mem_iff distinct ordered otherOrdered same

theorem InPartOrder.nodup {table : Table} {fields : List Field} {role : KeyRole}
    (distinct : table.fields.Nodup) (ordered : table.InPartOrder fields role) : fields.Nodup := by
  have ascending {key : Field → Nat} (ascends : Keyed.Ascending key fields) : fields.Nodup :=
    ascends.imp fun less same => (ne_of_lt less) (congrArg key same)
  cases role with
  | partitionKey => exact ascending ordered
  | clusteringKey => exact ascending ordered
  | typeKey => exact distinct.sublist ordered
  | index => exact distinct.sublist ordered

theorem ascending_inOrder {role : KeyRole} {fields : List Field}
    (distinct : DistinctOrdinals role fields) :
    Keyed.Ascending (Field.position role) (inOrder role fields) := by
  have ordered : Keyed.Ascending (·.1) (Keyed.placeAll (·.1) (withOrdinals role fields) []) :=
    Keyed.ascending_placeAll _ List.Pairwise.nil
  refine List.pairwise_map.mpr (List.Pairwise.imp_of_mem ?_ ordered)
  have position : ∀ entry ∈ Keyed.placeAll (·.1) (withOrdinals role fields) [],
      entry.2.position role = entry.1 := by
    intro entry member
    obtain ⟨_, found⟩ :=
      mem_withOrdinals_iff.mp ((mem_placeAll_withOrdinals_iff distinct).mp member)
    simp [Field.position, found]
  intro first second firstMember secondMember less
  rwa [position first firstMember, position second secondMember]

theorem inPartOrder_players {table : Table} {name : String} {all : List Field}
    (built : table.BuiltFrom name all) (role : KeyRole) :
    table.InPartOrder (table.players role) role := by
  cases role with
  | partitionKey =>
    rw [players, built.partitionKeys_eq]
    exact ascending_inOrder built.partitionOrdinals
  | clusteringKey =>
    rw [players, built.clusteringKeys_eq]
    exact ascending_inOrder built.clusteringOrdinals
  | typeKey =>
    rw [players, ← built.typeKey_eq]
    exact List.filter_sublist
  | index =>
    rw [players, built.indexes_eq]
    exact List.filter_sublist

/-- The fields that play a part in the table and that the root does not see, each once and in the
order of the part. -/
structure Strays (table : Table) (root : Class) (role : KeyRole) (fields : List Field) : Prop where
  mem_iff : ∀ field, field ∈ fields ↔ field ∈ table.fields ∧ field.decl.Plays role ∧
    Class.visibleFrom field.declaredIn root = false
  once : fields.Nodup
  inOrder : table.InPartOrder fields role

theorem strays_filter_players {table : Table} {name : String} {all : List Field}
    (built : table.BuiltFrom name all) (distinct : table.fields.Nodup) (root : Class)
    (role : KeyRole) :
    table.Strays root role
      ((table.players role).filter fun field => !Class.visibleFrom field.declaredIn root) where
  mem_iff field := by
    rw [List.mem_filter, mem_players_iff built, and_assoc, Bool.not_eq_true']
  once := ((inPartOrder_players built role).nodup distinct).filter _
  inOrder := (inPartOrder_players built role).sublist List.filter_sublist

end Table

namespace Entity

/-- What of an entity the root of its hierarchy does not see: the keyspace keys by name that some
other class declares, and for each table the fields in each part. -/
structure Offences (entity : Entity) (root : Class) where
  keys : List Field
  mem_keys_iff : ∀ field, field ∈ keys ↔
    field ∈ entity.cls.keyFields ∧ field.declaredIn ≠ root.path
  keys_ascending : Keyed.Ascending Field.columnName keys
  strays : Table → KeyRole → List Field
  strays_of_mem : ∀ table ∈ entity.tables, ∀ role, table.Strays root role (strays table role)

theorem nodup_fields {entity : Entity} {boundary : Boundary} {table : Table}
    (described : entity.Describes boundary) (listed : table ∈ entity.tables) :
    table.fields.Nodup := (nodup_columnNames described listed).of_map

namespace Offences

variable {entity : Entity} {root : Class}

/-- One violation for each offence: the keyspace keys, the keyspace, the tables, and then table by
table the fields in their parts. -/
def report (offences : entity.Offences root) : List Violation :=
  offences.keys.map (fun key =>
      .keyspaceKeyOutside key.columnName key.declaredIn root.path) ++
    (if entity.keyspaceHolder.isAssignableFrom root then []
      else [.keyspaceOutside entity.keyspaceHolder.path root.path]) ++
    (if entity.tableHolder.isAssignableFrom root then []
      else entity.tables.map fun table =>
        .tableOutside table.name entity.tableHolder.path root.path) ++
    entity.tables.flatMap fun table => KeyRole.all.flatMap fun role =>
      (offences.strays table role).map fun field =>
        .keyFieldOutside role table.name field.columnName field.declaredIn root.path

variable {boundary : Boundary} (described : entity.Describes boundary)

/-- The offences of an entity, as they are found in its keyspace keys and its tables. -/
def ofDescribed : entity.Offences root where
  keys := entity.keyspaceKeys.filter (·.declaredIn ≠ root.path)
  mem_keys_iff field := by
    rw [List.mem_filter, mem_keyspaceKeys_iff described, decide_eq_true_eq]
  keys_ascending := (ascending_keyspaceKeys described).sublist List.filter_sublist
  strays table role :=
    (table.players role).filter fun field => !Class.visibleFrom field.declaredIn root
  strays_of_mem _ member :=
    Table.strays_filter_players (builtFrom_of_mem_tables described member)
      (nodup_fields described member) root

include described

theorem keys_eq (offences : entity.Offences root) :
    offences.keys = entity.keyspaceKeys.filter (·.declaredIn ≠ root.path) := by
  refine offences.keys_ascending.eq_of_mem_iff (ofDescribed described).keys_ascending ?_
  intro field
  rw [offences.mem_keys_iff, ← (ofDescribed described).mem_keys_iff]
  rfl

theorem strays_eq (offences : entity.Offences root) {table : Table} (member : table ∈ entity.tables)
    (role : KeyRole) :
    offences.strays table role =
      (table.players role).filter fun field => !Class.visibleFrom field.declaredIn root := by
  have found := offences.strays_of_mem table member role
  have distinct := nodup_fields described member
  have expected :=
    Table.strays_filter_players (builtFrom_of_mem_tables described member) distinct root role
  refine found.inOrder.eq_of_mem_iff distinct expected.inOrder ?_
  intro field
  rw [found.mem_iff, expected.mem_iff]

/-- Whatever the offences of an entity are, the violations are their report. -/
theorem allViolations_eq_report (offences : entity.Offences root) :
    entity.allViolations root = offences.report := by
  have parts : entity.tables.flatMap (keyFieldViolations root) =
      entity.tables.flatMap fun table => KeyRole.all.flatMap fun role =>
        (offences.strays table role).map fun field =>
          .keyFieldOutside role table.name field.columnName field.declaredIn root.path := by
    refine List.flatMap_congr fun table member => ?_
    simp only [strays_eq described offences member, keyFieldViolations,
      Table.keyFields_eq_flatMap, List.filter_flatMap, List.map_flatMap, List.filter_map,
      List.map_map, Function.comp_def]
  rw [allViolations, parts, keyspaceKeyViolations, ← keys_eq described offences]
  rfl

end Offences

end Entity

/-! ### The two modes -/

namespace Table

variable {path name : String} {cause : ModelError}

theorem violations_of_orderedKeys {role : KeyRole} {fields : List Field}
    (failed : orderedKeys path name role fields = .error cause) : cause.violations = [] := by
  simp only [orderedKeys, bind_eq_error_iff, foldlM_eq_error_iff] at failed
  rcases failed with ⟨_, field, _, keys, _, _, refused⟩ | ⟨_, _, done⟩
  · unfold orderedKeys.accept at refused
    cases ordinal : field.ordinal? role with
    | none => simp [ordinal] at refused
    | some n =>
      simp only [ordinal, required_eq_error_iff] at refused
      obtain ⟨_, rfl⟩ := refused
      rfl
  · cases done

theorem violations_of_findTypeKey {found : Option Field} {fields : List Field}
    (failed : findTypeKey path name found fields = .error cause) : cause.violations = [] := by
  induction fields generalizing found with
  | nil => cases failed
  | cons field rest ih =>
    unfold findTypeKey at failed
    -- Either the search goes on, or it ends with one of two causes that list no violations.
    repeat' split at failed
    all_goals first | exact ih failed | (cases failed; rfl)

theorem violations_of_build {all : List Field} (failed : build path name all = .error cause) :
    cause.violations = [] := by
  simp only [build, bind_eq_error_iff, require_eq_error_iff] at failed
  rcases failed with partitions | ⟨_, _, ⟨_, rfl⟩ | ⟨_, _, clusterings | ⟨_, _, key |
    ⟨_, _, done⟩⟩⟩⟩
  · exact violations_of_orderedKeys partitions
  · rfl
  · exact violations_of_orderedKeys clusterings
  · exact violations_of_findTypeKey key
  · cases done

end Table

theorem Class.violations_of_keyspaceKeys {cls : Class} {cause : ModelError}
    (failed : cls.keyspaceKeys = .error cause) : cause.violations = [] := by
  obtain ⟨_, field, _, keys, _, _, refused⟩ := foldlM_eq_error_iff.mp failed
  obtain ⟨_, rfl⟩ := (required_eq_error_iff _ _ _).mp refused
  rfl

namespace Entity

/-- A class that cannot be introspected is not refused for violations. -/
theorem violations_of_introspect {settings : Settings} {boundary : Boundary} {cls : Class}
    {cause : ModelError} (failed : introspect settings boundary cls = .error cause) :
    cause.violations = [] := by
  simp only [introspect, bind_eq_error_iff, require_eq_error_iff, required_eq_error_iff] at failed
  rcases failed with ⟨_, rfl⟩ | ⟨_, _, ⟨_, rfl⟩ | ⟨_, _, ⟨_, rfl⟩ | ⟨_, _, columns | ⟨_, _, known |
    ⟨_, _, tables | ⟨_, _, keys | ⟨_, _, suffixes | ⟨_, _, done⟩⟩⟩⟩⟩⟩⟩⟩
  · rfl
  · rfl
  · rfl
  · unfold Class.requireDistinctColumns at columns
    split at columns <;> cases columns
    rfl
  · unfold Class.requireKnownTables at known
    split at known <;> cases known
    rfl
  · obtain ⟨name, _, refused⟩ := exists_mem_of_mapM_eq_error tables
    exact Table.violations_of_build refused
  · exact Class.violations_of_keyspaceKeys keys
  · unfold Class.requireSuppliedSuffixes at suffixes
    split at suffixes <;> cases suffixes
    rfl
  · cases done

/-- The settings of an entity decide nothing about it. -/
theorem introspect_eq_map (settings other : Settings) (boundary : Boundary) (cls : Class) :
    introspect other boundary cls =
      (fun entity => { entity with settings := other }) <$> introspect settings boundary cls := by
  simp only [introspect, map_bind, map_pure]

theorem violations_first (entity : Entity) (root : Class) :
    entity.violations root .first = (entity.violations root .all).head?.toList := by
  simp only [violations]
  cases entity.allViolations root <;> rfl

end Entity

namespace TypeEntity

/-- What a class comes to when only the first violation is reported, next to what it comes to when
all of them are: the same type, but for the mode in its settings, or the same refusal, but for the
violations that it lists. -/
inductive ModeOutcomes (naming : Naming) :
    Except ModelError TypeEntity → Except ModelError TypeEntity → Prop
  | accepted (type : TypeEntity) (configured : type.entity.settings = ⟨naming, .all⟩) :
    ModeOutcomes naming
      (.ok { type with entity := { type.entity with settings := ⟨naming, .first⟩ } }) (.ok type)
  | refused (cause : ModelError) (plain : cause.violations = []) :
    ModeOutcomes naming (.error cause) (.error cause)
  | offending (path root : String) (first : Violation) (others : List Violation) :
    ModeOutcomes naming (.error (.invalidTypeEntity path root [first]))
      (.error (.invalidTypeEntity path root (first :: others)))

namespace ModeOutcomes

variable {naming : Naming} {first all : Except ModelError TypeEntity}

theorem exists_ok_iff (outcomes : ModeOutcomes naming first all) :
    (∃ type, first = .ok type) ↔ ∃ type, all = .ok type := by
  cases outcomes with
  | accepted type _ => exact iff_of_true ⟨_, rfl⟩ ⟨_, rfl⟩
  | refused cause _ => exact Iff.rfl
  | offending path root first others => exact iff_of_false (by simp) (by simp)

/-- A check that does not look at the mode can come first. -/
theorem bind {α : Type} {shared : Except ModelError α}
    {next other : α → Except ModelError TypeEntity}
    (plain : ∀ cause, shared = .error cause → cause.violations = [])
    (later : ∀ a, shared = .ok a → ModeOutcomes naming (next a) (other a)) :
    ModeOutcomes naming (shared >>= next) (shared >>= other) := by
  cases result : shared with
  | error cause => exact .refused cause (plain cause result)
  | ok a => exact later a result

end ModeOutcomes

theorem modeOutcomes_validate (naming : Naming) (id rootId : Identity) (root cls : Class)
    (isDynamic : Bool) :
    ModeOutcomes naming (validate ⟨naming, .first⟩ id rootId root cls isDynamic).result
      (validate ⟨naming, .all⟩ id rootId root cls isDynamic).result := by
  simp only [validate, check, Traced.result_bind, Traced.result_lift, bind_assoc, bind_map_left,
    Entity.introspect_eq_map ⟨naming, .all⟩ ⟨naming, .first⟩]
  refine .bind ?abstract fun shape _ => .bind ?foreign fun _ _ => .bind ?shapeless
    fun entity introspected => .bind ?untagged fun discriminator _ => .bind ?elsewhere fun _ _ => ?_
  case abstract | foreign | untagged | elsewhere =>
    intro cause failed
    simp only [required_eq_error_iff, require_eq_error_iff] at failed
    obtain ⟨_, rfl⟩ := failed
    rfl
  case shapeless => exact fun _ => Entity.violations_of_introspect
  obtain ⟨_, configured, _⟩ := (Entity.introspect_eq_ok_iff _ _ _ _).mp introspected
  -- The entity of the shorter report differs in its settings only, which no violation looks at.
  change ModeOutcomes naming
    (require ((entity.allViolations root).take 1).isEmpty
      (.invalidTypeEntity cls.path root.path ((entity.allViolations root).take 1)) >>= _)
    (require (entity.allViolations root).isEmpty
      (.invalidTypeEntity cls.path root.path (entity.allViolations root)) >>= _)
  cases entity.allViolations root with
  | nil => exact .accepted ⟨id, rootId, root.path, entity, discriminator, isDynamic⟩ configured
  | cons violation others => exact .offending _ _ _ _

/-- The violations of a class that can be introspected are the report of its offences, of which the
first mode gives the first one. Whether a class is accepted as a type does not depend on the mode,
and neither does anything else about it but the length of the report. -/
theorem reports_exactly (root : Class) :
    (∀ settings boundary cls entity, Entity.introspect settings boundary cls = .ok entity →
      (∀ violations, entity.violations root .all = violations ↔
        ∃ offences : entity.Offences root, offences.report = violations) ∧
      entity.violations root .first = (entity.violations root .all).head?.toList) ∧
    ∀ naming id rootId cls isDynamic,
      let first := (validate ⟨naming, .first⟩ id rootId root cls isDynamic).result
      let all := (validate ⟨naming, .all⟩ id rootId root cls isDynamic).result
      ((∃ type, first = .ok type) ↔ ∃ type, all = .ok type) ∧ ModeOutcomes naming first all := by
  refine ⟨?_, ?_⟩
  · intro settings boundary cls entity introspected
    obtain ⟨_, _, described⟩ := (Entity.introspect_eq_ok_iff _ _ _ _).mp introspected
    refine ⟨fun violations => ?_, entity.violations_first root⟩
    constructor
    · rintro rfl
      exact ⟨.ofDescribed described, (Entity.Offences.allViolations_eq_report described _).symm⟩
    · rintro ⟨offences, rfl⟩
      exact offences.allViolations_eq_report described
  · intro naming id rootId cls isDynamic
    have outcomes := modeOutcomes_validate naming id rootId root cls isDynamic
    exact ⟨outcomes.exists_ok_iff, outcomes⟩

end TypeEntity

namespace Menagerie

/-- Fishes, which have a table of their own and are found in it by their pond. -/
def fish : Class := .below
  { path := "zoo::Fish"
    factory := some (newborn "Fish" "zoo::Fish" [⟨"pond", .string⟩] (.cons "" .nil))
    discriminator := some "fish"
    tables := ["fishes"]
    fields := [((FieldDecl.ofColumn "pond" .text).asPartitionKey 1).asIndex] } animal

/-- The pond plays two parts in the table, and both are reported. -/
def fishViolations : List Violation :=
  [.tableOutside "fishes" "zoo::Fish" "zoo::Animal",
    .keyFieldOutside .partitionKey "fishes" "pond" "zoo::Fish" "zoo::Animal",
    .keyFieldOutside .index "fishes" "pond" "zoo::Fish" "zoo::Animal"]

end Menagerie

theorem TypeEntity.reports_exactly_fish :
    ∃ entity, Entity.introspect {} .type Menagerie.fish = .ok entity ∧
      (∃ offences : entity.Offences Menagerie.animal,
        offences.report = Menagerie.fishViolations) ∧
      entity.violations Menagerie.animal .first = Menagerie.fishViolations.take 1 ∧
      ¬∃ type, (validate ⟨{}, .first⟩ 2 1 Menagerie.animal Menagerie.fish false).result =
        .ok type := by
  obtain ⟨reports, modes⟩ := reports_exactly Menagerie.animal
  have introspected : ∃ entity, Entity.introspect {} .type Menagerie.fish = .ok entity ∧
      entity.violations Menagerie.animal .all = Menagerie.fishViolations := ⟨_, rfl, rfl⟩
  obtain ⟨entity, introspected, violations⟩ := introspected
  obtain ⟨exact, first⟩ := reports {} .type Menagerie.fish entity introspected
  refine ⟨entity, introspected, (exact _).mp violations, ?_, ?_⟩
  · rw [first, violations]
    rfl
  · rw [(modes {} 2 1 Menagerie.fish false).1]
    rintro ⟨type, accepted⟩
    cases accepted

end TypedRows
