import TypedRows.Proofs.TableConstruction

/-! Which classes can be introspected. What is asked of a class is asked of the chain of its
ancestors: a marker, a keyspace and tables somewhere on it, names of their own for columns and
keyspace keys, and tables and suffix types that fit together. The entity then tells of the chain
what stands nearest and what stands first. -/
namespace TypedRows

namespace Class

/-- The holder is the first class from the given one upwards whose own declaration has a
property. -/
inductive Nearest (property : ClassDecl → Prop) : Class → Class → Prop where
  | here {cls : Class} (holds : property cls.own) : Nearest property cls cls
  | above {own parent : ClassDecl} {above : List ClassDecl} {holder : Class}
      (lacks : ¬property own) (nearest : Nearest property ⟨parent, above⟩ holder) :
      Nearest property ⟨own, parent :: above⟩ holder

/-- Whether a class of the chain that the boundary allows carries the marker of a root entity. -/
def MarkedAt (cls : Class) : Boundary → Prop
  | .root => cls.own.isRoot = true
  | .type => ∃ decl ∈ cls.lineage, decl.isRoot = true

/-- The names of the columns that a class and its ancestors declare, nearest first. -/
def columnNames (cls : Class) : List String :=
  cls.lineage.flatMap fun decl => decl.fields.filterMap (·.column)

/-- The names of the keyspace keys that a class and its ancestors declare, nearest first. -/
def keyNames (cls : Class) : List String :=
  cls.lineage.flatMap fun decl => (decl.fields.filter (·.keyspaceKey.isSome)).map (·.columnName)

/-- A class whose chain of ancestors has everything that an entity is made of. -/
structure WellFormed (cls : Class) (boundary : Boundary) : Prop where
  marked : cls.MarkedAt boundary
  keyspace : ∃ decl ∈ cls.lineage, decl.keyspace.isSome = true
  tables : ∃ decl ∈ cls.lineage, decl.tables ≠ []
  columnNames : cls.columnNames.Nodup
  boundTables : ∀ holder, Nearest (·.tables ≠ []) cls holder → ∀ decl ∈ cls.lineage,
    ∀ field ∈ decl.fields, ∀ table ∈ field.boundTables, table ∈ holder.own.tables
  tablesBuild : ∀ holder, Nearest (·.tables ≠ []) cls holder → ∀ name ∈ holder.own.tables,
    ∃ table, Table.build cls.path name cls.fields = .ok table
  keyNames : cls.keyNames.Nodup
  suffixes : ∀ holder keyspace, Nearest (·.keyspace.isSome = true) cls holder →
    holder.own.keyspace = some keyspace → ∀ suffixType ∈ keyspace.suffixes,
      ∃ decl ∈ cls.lineage, ∃ field ∈ decl.fields, ∃ key, field.keyspaceKey = some key ∧
        key.suffixType = suffixType

/-! ### The nearest class with a property -/

section

variable {property : ClassDecl → Bool} {cls holder : Class}

theorem nearest?_eq_some_iff :
    cls.nearest? property = some holder ↔ Nearest (property · = true) cls holder := by
  obtain ⟨own, above⟩ := cls
  simp only [nearest?, nearestWith?, ancestors]
  induction above generalizing own with
  | nil =>
    rw [ancestors.go, List.find?_cons]
    cases holds : property own with
    | true =>
      constructor
      · rintro ⟨⟩
        exact .here holds
      · rintro ⟨_⟩
        rfl
    | false =>
      constructor
      · rintro ⟨⟩
      · rintro ⟨other⟩
        exact absurd (holds.symm.trans other) Bool.false_ne_true
  | cons parent above ih =>
    rw [ancestors.go, List.find?_cons]
    cases holds : property own with
    | true =>
      constructor
      · rintro ⟨⟩
        exact .here holds
      · intro nearest
        cases nearest with
        | here _ => rfl
        | above lacks _ => exact absurd holds lacks
    | false =>
      refine (ih parent).trans ⟨fun nearest => .above (by simp [holds]) nearest, fun nearest => ?_⟩
      cases nearest with
      | here other => exact absurd (holds.symm.trans other) Bool.false_ne_true
      | above _ nearest => exact nearest

theorem exists_nearest?_iff :
    (∃ holder, cls.nearest? property = some holder) ↔
      ∃ decl ∈ cls.lineage, property decl = true := by
  rw [← Option.isSome_iff_exists, nearest?, nearestWith?, List.find?_isSome, ← map_own_ancestors]
  simp

end

/-! ### What is declared along a chain -/

theorem mem_fields_iff {cls : Class} {field : Field} :
    field ∈ cls.fields ↔ ∃ decl ∈ cls.lineage, ∃ own ∈ decl.fields, ⟨own, decl.path⟩ = field := by
  simp [fields]

/-- Nearest first or top first, a chain declares the same fields. -/
theorem fields_perm (cls : Class) :
    cls.fields.Perm (cls.lineage.flatMap fun decl => decl.fields.map (⟨·, decl.path⟩)) :=
  (List.reverse_perm cls.lineage).flatMap_right _

theorem map_columnName_perm (cls : Class) :
    (cls.columns.map (·.columnName)).Perm cls.columnNames := by
  have each (decl : ClassDecl) :
      ((decl.fields.map (Field.mk · decl.path)).filter (·.isColumn)).map (·.columnName) =
        decl.fields.filterMap (·.column) := by
    induction decl.fields with
    | nil => rfl
    | cons field rest ih =>
      cases column : field.column <;>
        simp_all [Field.isColumn, Field.columnName, FieldDecl.columnName]
  refine ((cls.fields_perm.filter _).map _).trans (List.Perm.of_eq ?_)
  simp only [List.filter_flatMap, List.map_flatMap, each]
  rfl

theorem map_keyName_perm (cls : Class) :
    (cls.keyFields.map (·.columnName)).Perm cls.keyNames := by
  refine ((cls.fields_perm.filter _).map _).trans (List.Perm.of_eq ?_)
  simp only [List.filter_flatMap, List.map_flatMap, List.filter_map, List.map_map]
  rfl

theorem isMarked_iff (cls : Class) (boundary : Boundary) :
    cls.isMarked boundary = true ↔ cls.MarkedAt boundary := by
  cases boundary with
  | root => exact Iff.rfl
  | type => exact List.any_eq_true

theorem exists_supplies_iff {cls : Class} {suffixType : String} :
    (∃ key ∈ cls.keyFields, key.supplies suffixType = true) ↔
      ∃ decl ∈ cls.lineage, ∃ field ∈ decl.fields, ∃ key, field.keyspaceKey = some key ∧
        key.suffixType = suffixType := by
  simp only [keyFields, List.mem_filter, mem_fields_iff, Field.supplies, Option.any_eq_true,
    decide_eq_true_eq]
  constructor
  · rintro ⟨_, ⟨⟨decl, above, field, own, rfl⟩, _⟩, key, keyed, same⟩
    exact ⟨decl, above, field, own, key, keyed, same⟩
  · rintro ⟨decl, above, field, own, key, keyed, same⟩
    exact ⟨_, ⟨⟨decl, above, field, own, rfl⟩, Option.isSome_iff_exists.mpr ⟨key, keyed⟩⟩, key,
      keyed, same⟩

theorem keyspaceHolder?_eq_some_iff_nearest {cls holder : Class} {keyspace : Keyspace} :
    cls.keyspaceHolder? = some (holder, keyspace) ↔
      Nearest (·.keyspace.isSome = true) cls holder ∧ holder.own.keyspace = some keyspace := by
  rw [keyspaceHolder?_eq_some_iff, nearest?_eq_some_iff]

theorem tableHolder?_eq_some_iff {cls holder : Class} :
    cls.tableHolder? = some holder ↔ Nearest (·.tables ≠ []) cls holder := by
  simp [tableHolder?, nearest?_eq_some_iff]

theorem exists_tableHolder?_iff {cls : Class} :
    (∃ holder, cls.tableHolder? = some holder) ↔ ∃ decl ∈ cls.lineage, decl.tables ≠ [] := by
  simp [tableHolder?, exists_nearest?_iff]

end Class

namespace Entity

/-- An entity that has of the chain of its class what stands nearest and what stands first: the
nearest keyspace and tables, and every column and keyspace key of the chain. -/
structure Reflects (entity : Entity) : Prop where
  keyspaceHolder : Class.Nearest (·.keyspace.isSome = true) entity.cls entity.keyspaceHolder
  keyspace : entity.keyspaceHolder.own.keyspace = some entity.keyspace
  tableHolder : Class.Nearest (·.tables ≠ []) entity.cls entity.tableHolder
  columns : entity.columns = entity.cls.lineage.reverse.flatMap fun decl =>
    (decl.fields.filter (·.column.isSome)).map (⟨·, decl.path⟩)
  tables : List.Forall₂
    (fun name table => Table.Arranges table name (entity.columns.filter (·.appliesTo name)))
    entity.tableHolder.own.tables entity.tables
  mem_keyspaceKeys_iff : ∀ key, key ∈ entity.keyspaceKeys ↔ ∃ decl ∈ entity.cls.lineage,
    ∃ field ∈ decl.fields, field.keyspaceKey.isSome = true ∧ ⟨field, decl.path⟩ = key
  keyspaceKeys_ascending : Keyed.Ascending Field.columnName entity.keyspaceKeys

theorem wellFormed_of_describes {entity : Entity} {boundary : Boundary}
    (described : entity.Describes boundary) : entity.cls.WellFormed boundary := by
  have keyspaces := Class.keyspaceHolder?_eq_some_iff.mp described.keyspaceHolder
  have tabled (holder : Class) (nearest : Class.Nearest (·.tables ≠ []) entity.cls holder) :
      entity.tableHolder = holder :=
    Option.some.inj (described.tableHolder.symm.trans (Class.tableHolder?_eq_some_iff.mpr nearest))
  refine {
    marked := (Class.isMarked_iff _ _).mp described.marked
    keyspace := Class.exists_nearest?_iff.mp ⟨_, keyspaces.1⟩
    tables := Class.exists_tableHolder?_iff.mp ⟨_, described.tableHolder⟩
    columnNames := entity.cls.map_columnName_perm.nodup_iff.mp described.distinctColumns
    boundTables := ?_
    tablesBuild := ?_
    keyNames := entity.cls.map_keyName_perm.nodup_iff.mp described.distinctKeys
    suffixes := ?_ }
  · intro holder nearest
    exact tabled holder nearest ▸ described.knownTables
  · intro holder nearest name annotated
    rw [← tabled holder nearest, ← map_name_tables described] at annotated
    obtain ⟨table, listed, rfl⟩ := List.mem_map.mp annotated
    exact ⟨table, (Table.build_eq_ok_iff _ _ _ _).mpr (builtFrom_of_mem_tables described listed)⟩
  · intro holder keyspace nearest held suffixType asked
    have found := Class.keyspaceHolder?_eq_some_iff_nearest.mpr ⟨nearest, held⟩
    cases described.keyspaceHolder.symm.trans found
    obtain ⟨key, member, supplied⟩ := described.suppliedSuffixes suffixType asked
    exact Class.exists_supplies_iff.mp ⟨key, (mem_keyspaceKeys_iff described).mp member, supplied⟩

theorem exists_describes_of_wellFormed {cls : Class} {boundary : Boundary} (settings : Settings)
    (formed : cls.WellFormed boundary) :
    ∃ entity : Entity, entity.cls = cls ∧ entity.settings = settings ∧ entity.Describes boundary := by
  obtain ⟨keyspaceHolder, keyspaced⟩ := Class.exists_nearest?_iff.mpr formed.keyspace
  have annotated : keyspaceHolder.own.keyspace.isSome = true := by
    simpa using List.find?_some keyspaced
  obtain ⟨keyspace, held⟩ := Option.isSome_iff_exists.mp annotated
  obtain ⟨tableHolder, tabled⟩ := Class.exists_tableHolder?_iff.mpr formed.tables
  have nearest := Class.tableHolder?_eq_some_iff.mp tabled
  obtain ⟨tables, built⟩ := exists_mapM_eq_ok_iff.mpr (formed.tablesBuild tableHolder nearest)
  simp only [mapM_eq_ok_iff, Table.build_eq_ok_iff] at built
  have distinctKeys := cls.map_keyName_perm.nodup_iff.mpr formed.keyNames
  refine ⟨{ cls, settings, keyspace, keyspaceHolder, tableHolder, tables, columns := cls.columns,
            keyspaceKeys := Keyed.placeAll Field.columnName cls.keyFields [] }, rfl, rfl, {
    marked := (Class.isMarked_iff _ _).mpr formed.marked
    keyspaceHolder := Class.keyspaceHolder?_eq_some_iff.mpr ⟨keyspaced, held⟩
    tableHolder := tabled
    distinctColumns := cls.map_columnName_perm.nodup_iff.mpr formed.columnNames
    knownTables := formed.boundTables tableHolder nearest
    tables := built
    distinctKeys := distinctKeys
    keyspaceKeys := rfl
    suppliedSuffixes := ?_
    columns := rfl }⟩
  intro suffixType asked
  have nearest := Class.nearest?_eq_some_iff.mp keyspaced
  obtain ⟨key, listed, supplied⟩ := Class.exists_supplies_iff.mpr
    (formed.suffixes keyspaceHolder keyspace nearest held suffixType asked)
  refine ⟨key, ?_, supplied⟩
  rw [Keyed.mem_placeAll_iff List.Pairwise.nil distinctKeys (by simp)]
  exact .inl listed

theorem reflects_of_describes {entity : Entity} {boundary : Boundary}
    (described : entity.Describes boundary) : entity.Reflects := by
  have keyspaces := Class.keyspaceHolder?_eq_some_iff_nearest.mp described.keyspaceHolder
  refine {
    keyspaceHolder := keyspaces.1
    keyspace := keyspaces.2
    tableHolder := Class.tableHolder?_eq_some_iff.mp described.tableHolder
    columns := ?_
    tables := described.tables.imp fun name table built => ?_
    mem_keyspaceKeys_iff := fun key => ?_
    keyspaceKeys_ascending := ascending_keyspaceKeys described }
  · rw [described.columns, Class.columns, Class.fields, List.filter_flatMap]
    simp only [List.filter_map]
    rfl
  · rw [described.columns, ← Class.filter_appliesTo_fields]
    exact Table.arranges_of_builtFrom built
  · rw [mem_keyspaceKeys_iff described, Class.keyFields, List.mem_filter, Class.mem_fields_iff]
    constructor
    · rintro ⟨⟨decl, above, field, own, rfl⟩, keyed⟩
      exact ⟨decl, above, field, own, keyed, rfl⟩
    · rintro ⟨decl, above, field, own, keyed, rfl⟩
      exact ⟨⟨decl, above, field, own, rfl⟩, keyed⟩

/-- A class can be introspected exactly if its chain is well formed for the boundary, and the entity
then reflects the chain. -/
theorem introspect_exactly (settings : Settings) (boundary : Boundary) (cls : Class) :
    ((∃ entity, introspect settings boundary cls = .ok entity) ↔ cls.WellFormed boundary) ∧
    ∀ entity, introspect settings boundary cls = .ok entity →
      entity.cls = cls ∧ entity.settings = settings ∧ entity.Reflects := by
  simp only [introspect_eq_ok_iff]
  constructor
  · constructor
    · rintro ⟨entity, rfl, _, described⟩
      exact wellFormed_of_describes described
    · exact exists_describes_of_wellFormed settings
  · rintro entity ⟨same, configured, described⟩
    exact ⟨same, configured, reflects_of_describes described⟩

end Entity

/-- The fishes have their keyspace from the animals, and tables of their own. They can be types, and
no roots. -/
theorem Entity.introspect_exactly_fish :
    ∃ entity, introspect {} .type Menagerie.fish = .ok entity ∧
      Menagerie.fish.WellFormed .type ∧
      entity.keyspaceHolder = Menagerie.animal ∧ entity.tableHolder = Menagerie.fish ∧
      entity.columns.map (·.columnName) = ["id", "kind", "pond"] ∧
      ¬∃ refused, introspect {} .root Menagerie.fish = .ok refused := by
  obtain ⟨accepts, reflects⟩ := introspect_exactly {} .type Menagerie.fish
  have introspected : ∃ entity, introspect {} .type Menagerie.fish = .ok entity := ⟨_, rfl⟩
  have formed := accepts.mp introspected
  obtain ⟨entity, introspected⟩ := introspected
  obtain ⟨same, _, reflected⟩ := reflects entity introspected
  have keyspaceHolder := reflected.keyspaceHolder
  have tableHolder := reflected.tableHolder
  have columns := reflected.columns
  rw [same] at keyspaceHolder tableHolder columns
  refine ⟨entity, introspected, formed, ?_, ?_, ?_, ?_⟩
  · exact (Option.some.inj (Class.nearest?_eq_some_iff.mpr keyspaceHolder)).symm
  · exact (Option.some.inj (Class.tableHolder?_eq_some_iff.mpr tableHolder)).symm
  · rw [columns]
    rfl
  · intro accepted
    exact Bool.false_ne_true ((introspect_exactly {} .root Menagerie.fish).1.mp accepted).marked

end TypedRows
