import TypedRows.Proofs.Sequences
import TypedRows.Proofs.TableKeys
import TypedRows.Entity

/-! When a class can be introspected, and what the entity then says about it. Every entity that is
built describes its class, and every description of a class is the entity that is built. -/
namespace TypedRows

theorem firstRepeated?_eq_none_iff (seen names : List String) :
    firstRepeated? seen names = none ↔ names.Nodup ∧ ∀ name ∈ names, name ∉ seen := by
  induction names generalizing seen with
  | nil => simp [firstRepeated?]
  | cons name rest ih =>
    by_cases repeated : name ∈ seen
    · simp [firstRepeated?, repeated]
    · have walk : firstRepeated? seen (name :: rest) = firstRepeated? (name :: seen) rest := by
        simp [firstRepeated?, repeated]
      rw [walk, ih, List.nodup_cons]
      constructor
      · intro ⟨distinct, free⟩
        refine ⟨⟨fun later => free name later List.mem_cons_self, distinct⟩, ?_⟩
        intro other member
        rcases List.mem_cons.mp member with rfl | later
        · exact repeated
        · exact fun present => free other later (List.mem_cons_of_mem _ present)
      · intro ⟨⟨fresh, distinct⟩, free⟩
        refine ⟨distinct, ?_⟩
        intro other later present
        rcases List.mem_cons.mp present with rfl | present
        · exact fresh later
        · exact free other (List.mem_cons_of_mem _ later) present

namespace Class

/-- Whether every table that a field names is among the given ones. -/
def BindsOnly (tables : List String) (decl : ClassDecl) : Prop :=
  ∀ field ∈ decl.fields, ∀ table ∈ field.boundTables, table ∈ tables

instance (tables : List String) : DecidablePred (BindsOnly tables) := fun decl =>
  inferInstanceAs (Decidable (∀ field ∈ decl.fields, ∀ table ∈ field.boundTables, table ∈ tables))

/-- The keyspace keys among the fields of a class, the top of the hierarchy first. -/
def keyFields (cls : Class) : List Field := cls.fields.filter (·.decl.keyspaceKey.isSome)

theorem requireDistinctColumns_eq_ok_iff (cls : Class) (done : Unit) :
    cls.requireDistinctColumns = .ok done ↔ (cls.columns.map (·.columnName)).Nodup := by
  have exact := firstRepeated?_eq_none_iff [] (cls.columns.map (·.columnName))
  simp only [List.not_mem_nil, not_false_eq_true, implies_true, and_true] at exact
  unfold requireDistinctColumns
  cases repeated : firstRepeated? [] (cls.columns.map (·.columnName)) with
  | none => simpa using exact.mp repeated
  | some column => simp [← exact, repeated]

theorem requireKnownTables_eq_ok_iff (cls : Class) (tables : List String) (done : Unit) :
    cls.requireKnownTables tables = .ok done ↔ ∀ decl ∈ cls.lineage, BindsOnly tables decl := by
  have exact : cls.strayTable? tables = none ↔ ∀ decl ∈ cls.lineage, BindsOnly tables decl := by
    simp only [strayTable?, List.findSome?_eq_none_iff, Option.map_eq_none_iff, List.find?_eq_none,
      List.mem_flatMap, BindsOnly]
    constructor
    · intro known decl member field present table bound
      simpa using known field ⟨decl, member, present⟩ table bound
    · intro known field ⟨decl, member, present⟩ table bound
      simpa using known decl member field present table bound
  unfold requireKnownTables
  cases stray : cls.strayTable? tables with
  | none => simpa using exact.mp stray
  | some found => simp [← exact, stray]

theorem keyspaceKeys_eq_ok_iff (cls : Class) (keys : List Field) :
    cls.keyspaceKeys = .ok keys ↔
      (cls.keyFields.map (·.columnName)).Nodup ∧
        keys = Keyed.placeAll Field.columnName cls.keyFields [] := by
  have walk := Keyed.foldlM_placeNew?_eq_ok_iff
    (fun field => ModelError.duplicateKeyspaceKey cls.path field.columnName) cls.keyFields [] keys
    (List.Pairwise.nil : Keyed.Ascending Field.columnName [])
  have free : ∀ field ∈ cls.keyFields, ∀ old ∈ ([] : List Field),
      old.columnName ≠ field.columnName := by
    simp
  constructor
  · intro accepted
    obtain ⟨distinct, _, placed⟩ := walk.mp accepted
    exact ⟨distinct, placed⟩
  · intro ⟨distinct, placed⟩
    exact walk.mpr ⟨distinct, free, placed⟩

theorem requireSuppliedSuffixes_eq_ok_iff (cls : Class) (keyspace : Keyspace) (keys : List Field)
    (done : Unit) :
    cls.requireSuppliedSuffixes keyspace keys = .ok done ↔
      ∀ suffixType ∈ keyspace.suffixes, ∃ key ∈ keys, key.supplies suffixType = true := by
  have exact :
      (keyspace.suffixes.find? fun suffixType => !keys.any (·.supplies suffixType)) = none ↔
      ∀ suffixType ∈ keyspace.suffixes, ∃ key ∈ keys, key.supplies suffixType = true := by
    simp
  unfold requireSuppliedSuffixes
  cases missing : keyspace.suffixes.find? fun suffixType => !keys.any (·.supplies suffixType) with
  | none => simpa only [true_iff] using exact.mp missing
  | some suffixType => simpa [missing] using exact

end Class

namespace Entity

/-- An entity that says of its class what the declarations of the class and its ancestors say. -/
structure Describes (entity : Entity) (boundary : Boundary) : Prop where
  marked : entity.cls.isMarked boundary = true
  keyspaceHolder : entity.cls.keyspaceHolder? = some (entity.keyspaceHolder, entity.keyspace)
  tableHolder : entity.cls.tableHolder? = some entity.tableHolder
  distinctColumns : (entity.cls.columns.map (·.columnName)).Nodup
  knownTables : ∀ decl ∈ entity.cls.lineage, Class.BindsOnly entity.tableHolder.own.tables decl
  tables : List.Forall₂ (fun name table => Table.BuiltFrom table name entity.cls.fields)
    entity.tableHolder.own.tables entity.tables
  distinctKeys : (entity.cls.keyFields.map (·.columnName)).Nodup
  keyspaceKeys : entity.keyspaceKeys = Keyed.placeAll Field.columnName entity.cls.keyFields []
  suppliedSuffixes : ∀ suffixType ∈ entity.keyspace.suffixes,
    ∃ key ∈ entity.keyspaceKeys, key.supplies suffixType = true
  columns : entity.columns = entity.cls.columns

/-- Introspection yields the one description of a class, if there is one. -/
theorem introspect_eq_ok_iff (settings : Settings) (boundary : Boundary) (cls : Class)
    (entity : Entity) :
    introspect settings boundary cls = .ok entity ↔
      entity.cls = cls ∧ entity.settings = settings ∧ entity.Describes boundary := by
  simp only [introspect, bind_eq_ok_iff, require_eq_ok_iff, required_eq_ok_iff, mapM_eq_ok_iff,
    Class.requireDistinctColumns_eq_ok_iff, Class.requireKnownTables_eq_ok_iff,
    Class.keyspaceKeys_eq_ok_iff, Class.requireSuppliedSuffixes_eq_ok_iff, Table.build_eq_ok_iff]
  constructor
  · intro holds
    obtain ⟨_, marked, ⟨holder, keyspace⟩, held, tableHolder, tabled, _, distinct, _, known,
      tables, built, keys, ⟨distinctKeys, rfl⟩, _, supplied, same⟩ := holds
    cases same
    exact ⟨rfl, rfl, marked, held, tabled, distinct, known, built, distinctKeys, rfl, supplied, rfl⟩
  · intro holds
    obtain ⟨rfl, rfl, described⟩ := holds
    refine ⟨(), described.marked, _, described.keyspaceHolder, _, described.tableHolder, (),
      described.distinctColumns, (), described.knownTables, _, described.tables, _,
      ⟨described.distinctKeys, described.keyspaceKeys⟩, (), described.suppliedSuffixes, ?_⟩
    rw [← described.columns]
    rfl

end Entity

end TypedRows
