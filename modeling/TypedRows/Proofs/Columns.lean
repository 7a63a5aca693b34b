import TypedRows.Proofs.Dispatch
import TypedRows.Registry.Context

/-! One column on its way through a row: which columns a table has, where a row carries them, and
what a field reads back from the value that it has written. -/
namespace TypedRows

/-- The row of a table that holds some named values. -/
def Row.ofColumns (keyspace table : String) (columns : List (String × Value)) : Row :=
  .ofCells keyspace table (columns.map fun (name, value) => ⟨name, value, none⟩)

namespace Row

variable {keyspace table : String} {columns : List (String × Value)} {name : String} {index : Nat}

theorem table?_ofColumns (listed : index < columns.length) :
    (ofColumns keyspace table columns).table? index = some table := by
  simp [ofColumns, ofCells, table?, listed]

theorem table?_ofColumns_eq {other : String}
    (carried : (ofColumns keyspace table columns).table? index = some other) : other = table := by
  by_cases listed : index < columns.length
  · rw [table?_ofColumns listed] at carried
    exact (Option.some.inj carried).symm
  · simp [ofColumns, ofCells, table?, Nat.le_of_not_lt listed] at carried

theorem indexOf?_ofColumns_eq_none (absent : name ∉ columns.map (·.1)) :
    (ofColumns keyspace table columns).indexOf? name = none := by
  apply List.findIdx?_eq_none_iff.mpr
  intro definition member
  have named : definition.name ∈ columns.map (·.1) := by
    simp only [ofColumns, ofCells, List.map_map, List.mem_map] at member
    obtain ⟨column, listed, rfl⟩ := member
    exact List.mem_map.mpr ⟨column, listed, rfl⟩
  have other : definition.name ≠ name := fun same => absent (same ▸ named)
  simpa using other

/-- A row with distinct column names carries each of its columns at a place of its own. -/
theorem exists_indexOf?_ofColumns (keyspace table : String) {value : Value}
    (distinct : (columns.map (·.1)).Nodup) (listed : (name, value) ∈ columns) :
    ∃ index, (ofColumns keyspace table columns).indexOf? name = some index ∧
      (ofColumns keyspace table columns).value? index = some value ∧
      (ofColumns keyspace table columns).table? index = some table := by
  cases found : (ofColumns keyspace table columns).indexOf? name with
  | none =>
    have missing := List.findIdx?_eq_none_iff.mp found ⟨keyspace, table, name⟩ ?_
    · simp at missing
    · simp only [ofColumns, ofCells, List.map_map]
      exact List.mem_map.mpr ⟨(name, value), listed, rfl⟩
  | some index =>
    obtain ⟨bound, named, _⟩ := List.findIdx?_eq_some_iff_getElem.mp found
    have inside : index < columns.length := by simpa [ofColumns, ofCells] using bound
    have column : columns[index] = (name, value) := by
      refine List.inj_on_of_nodup_map distinct (List.getElem_mem inside) listed ?_
      simpa [ofColumns, ofCells] using named
    refine ⟨index, rfl, ?_, table?_ofColumns inside⟩
    simp [ofColumns, ofCells, value?, List.getElem?_eq_getElem inside, column]

end Row

theorem Class.filter_appliesTo_fields (cls : Class) (table : String) :
    cls.fields.filter (·.appliesTo table) = cls.columns.filter (·.appliesTo table) := by
  have isColumn : ∀ field ∈ cls.fields,
      (field.appliesTo table && field.isColumn) = field.appliesTo table := by
    intro field _
    cases column : field.decl.column <;>
      simp [Field.appliesTo, FieldDecl.appliesTo, Field.isColumn, column]
  rw [columns, List.filter_filter]
  exact (List.filter_congr isColumn).symm

namespace Entity

variable {entity : Entity} {boundary : Boundary} {field other : Field}
  (described : entity.Describes boundary)

include described

theorem eq_of_columnName (member : field ∈ entity.columns) (otherMember : other ∈ entity.columns)
    (same : field.columnName = other.columnName) : field = other := by
  have distinct := described.distinctColumns
  rw [← described.columns] at distinct
  exact List.inj_on_of_nodup_map distinct member otherMember same

variable {table : Table} (listed : table ∈ entity.tables)

include listed

theorem fields_eq_filter_columns : table.fields = entity.columns.filter (·.appliesTo table.name) := by
  rw [(builtFrom_of_mem_tables described listed).fields_eq, described.columns,
    Class.filter_appliesTo_fields]

theorem mem_columns_of_mem_fields (member : field ∈ table.fields) : field ∈ entity.columns := by
  rw [fields_eq_filter_columns described listed] at member
  exact (List.mem_filter.mp member).1

theorem nodup_columnNames : (table.fields.map (·.columnName)).Nodup := by
  have distinct := described.distinctColumns
  rw [← described.columns] at distinct
  rw [fields_eq_filter_columns described listed]
  exact distinct.sublist (List.filter_sublist.map _)

theorem mem_typeKey_iff {key : Field} (typeKey : table.typeKey = some key) :
    field ∈ table.fields ∧ field.decl.typeKey = true ↔ field = key := by
  have single : field ∈ table.fields.filter (·.decl.typeKey) ↔ field = key := by
    rw [(builtFrom_of_mem_tables described listed).typeKey_eq, typeKey]
    simp
  rw [← single, List.mem_filter]

end Entity

namespace Table

/-- A table finds its type key in a row where the first column of that name comes from this table. -/
theorem typeKeyAt?_eq_some_iff {table : Table} {row : Row} {key : Field} {index : Nat} :
    table.typeKeyAt? row = some (key, index) ↔ table.typeKey = some key ∧
      row.indexOf? key.columnName = some index ∧ row.table? index = some table.name := by
  simp only [typeKeyAt?, Option.bind_eq_bind, Option.bind_eq_some_iff]
  constructor
  · intro ⟨typeKey, keyed, position, found, placed⟩
    by_cases own : row.table? position = some table.name
    · obtain ⟨rfl, rfl⟩ : typeKey = key ∧ position = index := by simpa [own] using placed
      exact ⟨keyed, found, own⟩
    · rw [if_neg own] at placed
      cases placed
  · intro ⟨keyed, found, own⟩
    exact ⟨key, keyed, index, found, if_pos own⟩

/-- A row names one table, and only that table finds its type key there. -/
theorem name_eq_of_typeKeyAt? {table : Table} {keyspace name : String}
    {columns : List (String × Value)} {hit : Field × Nat}
    (found : table.typeKeyAt? (Row.ofColumns keyspace name columns) = some hit) :
    table.name = name := by
  obtain ⟨_, _, own⟩ := typeKeyAt?_eq_some_iff.mp found
  exact Row.table?_ofColumns_eq own

end Table

namespace Field

/-- Whatever non-null value the persister of the field stores for a held one is not null and is read
back as the held one. -/
def Restores (field : Field) (held : Value) : Prop :=
  ∀ persister, field.decl.persister = some persister → held.isNull = false →
    ∀ stored, persister.encode held = .ok stored →
      stored.isNull = false ∧ persister.decode stored = .ok held

theorem check_eq_ok_iff (field : Field) (value : Value) (done : Unit) :
    field.check value = .ok done ↔ field.kind.accepts value = true ∧
      (field.decl.mandatory = true → value.isNull = false) := by
  cases mandatory : field.decl.mandatory <;>
    simp [check, checkKind, checkMandatory, bind_eq_ok_iff, require_eq_ok_iff, mandatory]

theorem decode_eq_ok_iff (field : Field) (stored held : Value) :
    field.decode stored = .ok held ↔
      field.restore stored = .ok held ∧ ∃ done, field.check held = .ok done := by
  simp only [decode, bind_eq_ok_iff]
  constructor
  · intro holds
    obtain ⟨_, restored, done, checked, same⟩ := holds
    cases same
    exact ⟨restored, done, checked⟩
  · intro holds
    obtain ⟨restored, done, checked⟩ := holds
    exact ⟨held, restored, done, checked, rfl⟩

theorem encode_eq_ok_iff (field : Field) (object : Object) (stored : Value) :
    field.encode object = .ok stored ↔
      ∃ held, object.get? field.attributeName = some held ∧
        (∃ done, field.check held = .ok done) ∧ field.store held = .ok stored := by
  simp only [encode, valueOf, bind_eq_ok_iff, required_eq_ok_iff]
  constructor
  · intro holds
    obtain ⟨held, read, done, checked, wrote⟩ := holds
    exact ⟨held, read, ⟨done, checked⟩, wrote⟩
  · intro holds
    obtain ⟨held, read, ⟨done, checked⟩, wrote⟩ := holds
    exact ⟨held, read, done, checked, wrote⟩

theorem restore_of_store {field : Field} {held stored : Value} (restores : field.Restores held)
    (wrote : field.store held = .ok stored) : field.restore stored = .ok held := by
  unfold store at wrote
  unfold restore
  cases persisted : field.decl.persister with
  | none =>
    rw [persisted] at wrote
    cases wrote
    rfl
  | some persister =>
    rw [persisted] at wrote
    cases null : held.isNull with
    | true =>
      simp only [null, if_true] at wrote
      cases wrote
      simp [null]
    | false =>
      simp only [null, Bool.false_eq_true, if_false, bind_eq_ok_iff, mapError_eq_ok_iff] at wrote
      obtain ⟨encoded, encodes, done, fits, same⟩ := wrote
      cases same
      obtain ⟨present, decodes⟩ := restores persister persisted null stored encodes
      simp only [present, Bool.false_eq_true, if_false, bind_eq_ok_iff, mapError_eq_ok_iff]
      exact ⟨done, fits, decodes⟩

theorem decode_of_encode {field : Field} {object : Object} {stored : Value}
    (restores : ∀ held, object.get? field.attributeName = some held → field.Restores held)
    (encoded : field.encode object = .ok stored) :
    ∃ held, object.get? field.attributeName = some held ∧ field.decode stored = .ok held := by
  obtain ⟨held, read, checked, wrote⟩ := (encode_eq_ok_iff _ _ _).mp encoded
  refine ⟨held, read, (decode_eq_ok_iff _ _ _).mpr ⟨?_, checked⟩⟩
  exact restore_of_store (restores held read) wrote

theorem decode_eq_ok_iff_of_plain {field : Field} (plain : field.decl.persister = none)
    (stored held : Value) :
    field.decode stored = .ok held ↔ held = stored ∧ ∃ done, field.check held = .ok done := by
  rw [decode_eq_ok_iff, restore, plain]
  simp [eq_comm]

theorem encode_eq_ok_of_plain {field : Field} {object : Object} {held : Value}
    (plain : field.decl.persister = none) (read : object.get? field.attributeName = some held)
    (checked : ∃ done, field.check held = .ok done) : field.encode object = .ok held := by
  refine (encode_eq_ok_iff _ _ _).mpr ⟨held, read, checked, ?_⟩
  rw [store, plain]

end Field

end TypedRows
