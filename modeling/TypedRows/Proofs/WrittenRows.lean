import TypedRows.Proofs.Violations

/-! The three views of an object that is written into a table: the columns, the primary key and the
whole row. They are worked out separately, and they tell the same of every column that they share. -/
namespace TypedRows

namespace Row

theorem definitions_ofColumns (keyspace table : String) (columns : List (String × Value)) :
    (ofColumns keyspace table columns).definitions =
      (columns.map (·.1)).map fun name => ⟨keyspace, table, name⟩ := by
  simp [ofColumns, ofCells]

theorem values_ofColumns (keyspace table : String) (columns : List (String × Value)) :
    (ofColumns keyspace table columns).values = columns.map (·.2) := by
  simp [ofColumns, ofCells]

theorem get?_ofColumns (keyspace table name : String) (columns : List (String × Value)) :
    (ofColumns keyspace table columns).get? name = columns.lookup name := by
  induction columns with
  | nil => rfl
  | cons column rest ih =>
    rw [List.lookup_cons, ← ih]
    simp only [get?, indexOf?, definitions_ofColumns, List.map_cons, List.findIdx?_cons]
    by_cases same : column.1 = name
    · simp [same, value?, values_ofColumns]
    · cases List.findIdx? _ _ <;>
        simp [same, beq_false_of_ne (Ne.symm same), value?, values_ofColumns]

end Row

/-- The fields that play a part in the table, in the order of the part. -/
structure Table.Part (table : Table) (role : KeyRole) (fields : List Field) : Prop where
  mem_iff : ∀ field, field ∈ fields ↔ field ∈ table.fields ∧ field.decl.Plays role
  inOrder : table.InPartOrder fields role

namespace Table

variable {table : Table} {name : String} {all : List Field} (built : table.BuiltFrom name all)

include built

theorem part_of_builtFrom (role : KeyRole) : table.Part role (table.players role) where
  mem_iff _ := mem_players_iff built role
  inOrder := inPartOrder_players built role

theorem primaryKey_subset : table.primaryKey ⊆ table.fields := by
  intro field member
  rcases List.mem_append.mp member with partition | clustering
  · exact ((mem_players_iff built .partitionKey).mp partition).1
  · exact ((mem_players_iff built .clusteringKey).mp clustering).1

end Table

namespace Context

variable {context : Context} {boundary : Boundary} {table : Table} {field : Field}
  {columns : List (String × Value)}

/-- What the stored columns of a table come to in its rows and in its primary key. -/
structure Writes (context : Context) (table : Table) (columns : List (String × Value)) : Prop where
  /-- The columns are those of the table, in its order. -/
  named : columns.map (·.1) = table.fields.map (·.columnName)
  row : ∀ row, context.toRow table.name = .ok row → ∃ keyspace,
    context.keyspaceName = .ok keyspace ∧
    row.definitions = table.fields.map (fun field => ⟨keyspace, table.name, field.columnName⟩) ∧
    row.values = columns.map (·.2) ∧
    ∀ field ∈ table.fields, ∃ value, row.get? field.columnName = some value ∧
      columns.lookup field.columnName = some value
  primaryKey : ∃ partitions clusterings entries, table.Part .partitionKey partitions ∧
    table.Part .clusteringKey clusterings ∧ context.primaryKeyValues table.name = .ok entries ∧
    List.Forall₂ (fun key entry => entry.1 = key.columnName ∧
      columns.lookup key.columnName = some entry.2) (partitions ++ clusterings) entries

/-- Wherever the type key is written, it is written as the discriminator. -/
structure Tags (context : Context) (table : Table) (key : Field) : Prop where
  columns : ∀ columns, context.columnValues table.name = .ok columns →
    columns.lookup key.columnName = some (.text context.type.discriminator)
  primaryKey : ∀ entries, context.primaryKeyValues table.name = .ok entries →
    key ∈ table.primaryKey →
    entries.lookup key.columnName = some (.text context.type.discriminator)
  row : ∀ row, context.toRow table.name = .ok row →
    row.get? key.columnName = some (.text context.type.discriminator)

section

variable (described : context.entity.Describes boundary) (listed : table ∈ context.entity.tables)

include described listed

theorem part_players (role : KeyRole) : table.Part role (table.players role) :=
  Table.part_of_builtFrom (Entity.builtFrom_of_mem_tables described listed) role

theorem primaryKey_subset : table.primaryKey ⊆ table.fields :=
  Table.primaryKey_subset (Entity.builtFrom_of_mem_tables described listed)

theorem valuesOf_eq_ok_iff (fields : Table → List Field) :
    context.valuesOf table.name fields = .ok columns ↔
      (fields table).mapM context.columnValue = .ok columns := by
  simp only [valuesOf, Context.table, bind_eq_ok_iff, mapError_eq_ok_iff, required_eq_ok_iff,
    Entity.table?_eq_of_mem described listed, Option.some.injEq, exists_eq_left']

theorem lookup_valuesOf {fields : Table → List Field} (part : fields table ⊆ table.fields)
    (stored : context.valuesOf table.name fields = .ok columns) (member : field ∈ fields table) :
    ∃ value, context.columnValue field = .ok (field.columnName, value) ∧
      columns.lookup field.columnName = some value := by
  have related : List.Forall₂ (fun field entry => ∃ value,
      context.columnValue field = .ok (field.columnName, value) ∧
        (field.columnName, value) = entry) (fields table) columns := by
    refine (mapM_eq_ok_iff_forall₂ (fun key _ entry => ?_) columns).mp
      ((valuesOf_eq_ok_iff described listed fields).mp stored)
    constructor
    · intro written
      have named : entry.1 = key.columnName := fst_of_columnValue written
      exact ⟨entry.2, named ▸ written, named ▸ rfl⟩
    · rintro ⟨_, written, rfl⟩
      exact written
  refine exists_lookup_of_forall₂ related member fun other otherMember same => ?_
  exact List.inj_on_of_nodup_map (Entity.nodup_columnNames described listed) (part otherMember)
    (part member) same

theorem lookup_columnValues (stored : context.columnValues table.name = .ok columns)
    (member : field ∈ table.fields) :
    ∃ value, context.columnValue field = .ok (field.columnName, value) ∧
      columns.lookup field.columnName = some value :=
  lookup_valuesOf described listed (List.Subset.refl _) stored member

theorem lookup_primaryKeyValues (stored : context.primaryKeyValues table.name = .ok columns)
    (member : field ∈ table.primaryKey) :
    ∃ value, context.columnValue field = .ok (field.columnName, value) ∧
      columns.lookup field.columnName = some value :=
  lookup_valuesOf described listed (primaryKey_subset described listed) stored member

theorem get?_toRow {row : Row} (written : context.toRow table.name = .ok row)
    (member : field ∈ table.fields) :
    ∃ value, context.columnValue field = .ok (field.columnName, value) ∧
      row.get? field.columnName = some value := by
  obtain ⟨keyspace, columns, _, stored, rfl⟩ := (toRow_eq_ok_iff_columnValues _ _ _).mp written
  rw [Row.get?_ofColumns]
  exact lookup_columnValues described listed stored member

theorem exists_primaryKeyValues (stored : context.columnValues table.name = .ok columns) :
    ∃ entries, context.primaryKeyValues table.name = .ok entries ∧
      List.Forall₂ (fun key entry => entry.1 = key.columnName ∧
        columns.lookup key.columnName = some entry.2) table.primaryKey entries := by
  have each (key : Field) (member : key ∈ table.primaryKey) :=
    lookup_columnValues described listed stored (primaryKey_subset described listed member)
  obtain ⟨entries, done⟩ := exists_mapM_eq_ok_iff.mpr fun key member =>
    let ⟨_, written, _⟩ := each key member
    ⟨_, written⟩
  refine ⟨entries, (valuesOf_eq_ok_iff described listed _).mpr done, ?_⟩
  refine (mapM_eq_ok_iff_forall₂ (fun key member entry => ?_) entries).mp done
  obtain ⟨value, written, found⟩ := each key member
  rw [written, found]
  obtain ⟨name, other⟩ := entry
  simp [eq_comm]

theorem writes_of_columnValues (stored : context.columnValues table.name = .ok columns) :
    context.Writes table columns where
  named := map_fst_of_columnValues ((valuesOf_eq_ok_iff described listed _).mp stored)
  row row written := by
    obtain ⟨keyspace, again, known, twice, rfl⟩ := (toRow_eq_ok_iff_columnValues _ _ _).mp written
    obtain rfl := Except.ok.inj (stored.symm.trans twice)
    refine ⟨keyspace, known, ?_, ?_, ?_⟩
    · rw [Row.definitions_ofColumns,
        map_fst_of_columnValues ((valuesOf_eq_ok_iff described listed _).mp stored), List.map_map]
      rfl
    · exact Row.values_ofColumns _ _ _
    · intro field member
      obtain ⟨value, _, found⟩ := lookup_columnValues described listed stored member
      exact ⟨value, (Row.get?_ofColumns _ _ _ _).trans found, found⟩
  primaryKey := by
    obtain ⟨entries, done, agree⟩ := exists_primaryKeyValues described listed stored
    exact ⟨table.partitionKeys, table.clusteringKeys, entries,
      part_players described listed .partitionKey, part_players described listed .clusteringKey,
      done, agree⟩

theorem tags_of_typeKey {key : Field} (typeKey : table.typeKey = some key) :
    context.Tags table key := by
  obtain ⟨member, typed⟩ := (Entity.mem_typeKey_iff described listed typeKey).mpr rfl
  have tagged {value : Value} (written : context.columnValue key = .ok (key.columnName, value)) :
      value = .text context.type.discriminator := by
    rw [columnValue, if_pos typed] at written
    cases written
    rfl
  constructor
  · intro columns stored
    obtain ⟨value, written, found⟩ := lookup_columnValues described listed stored member
    exact tagged written ▸ found
  · intro entries stored isKey
    obtain ⟨value, written, found⟩ := lookup_primaryKeyValues described listed stored isKey
    exact tagged written ▸ found
  · intro row rowWritten
    obtain ⟨value, written, found⟩ := get?_toRow described listed rowWritten member
    exact tagged written ▸ found

end

/-- The key that addresses a row is the key that is stored in it. A row is written exactly if the
keyspace is known and the columns can be stored; the row and the primary key then agree with the
columns, and in all of them the type key is the discriminator, whatever the object holds. -/
theorem toRow_of_introspect {settings : Settings} {boundary : Boundary} {cls : Class}
    {context : Context} (introspected : Entity.introspect settings boundary cls = .ok context.entity)
    (name : String) :
    ((∃ row, context.toRow name = .ok row) ↔ (∃ keyspace, context.keyspaceName = .ok keyspace) ∧
      ∃ columns, context.columnValues name = .ok columns) ∧
    (∀ columns, context.columnValues name = .ok columns →
      ∃ table ∈ context.entity.tables, table.name = name ∧ context.Writes table columns) ∧
    ∀ table ∈ context.entity.tables, ∀ key, table.typeKey = some key → context.Tags table key := by
  obtain ⟨_, _, described⟩ := (Entity.introspect_eq_ok_iff _ _ _ _).mp introspected
  refine ⟨?_, ?_, fun table listed key typeKey => tags_of_typeKey described listed typeKey⟩
  · simp only [toRow_eq_ok_iff_columnValues]
    constructor
    · rintro ⟨_, keyspace, columns, known, stored, _⟩
      exact ⟨⟨keyspace, known⟩, columns, stored⟩
    · rintro ⟨⟨keyspace, known⟩, columns, stored⟩
      exact ⟨_, keyspace, columns, known, stored, rfl⟩
  · intro columns stored
    obtain ⟨table, found, _⟩ := (columnValues_eq_ok_iff _ _ _).mp stored
    have named : table.name = name := by simpa using List.find?_some found
    have listed : table ∈ context.entity.tables := List.mem_of_find?_eq_some found
    exact ⟨table, listed, named, writes_of_columnValues described listed (named ▸ stored)⟩

end Context

namespace Logbook

/-- Stores nothing. -/
def forgetful : Persister where
  storedKind := .text
  encode _ := .ok .null
  decode := .ok

/-- What a port writes down: entries by day and then by berth, those of one kind together. -/
def entry : Class := .top
  { path := "port::Entry"
    isRoot := true
    keyspace := some ⟨"port", []⟩
    tables := ["log"]
    fields := [(FieldDecl.ofColumn "berth" .text).asPartitionKey 1,
      (FieldDecl.ofColumn "day" .text).asPartitionKey 0,
      ((FieldDecl.ofColumn "kind" .text).asClusteringKey 0 .asc).asTypeKey,
      (FieldDecl.ofColumn "remark" .text).asMandatory.persistedBy forgetful] }

def shape : Shape :=
  ⟨"Arrival", "port::Arrival", "port::Arrival",
    [⟨"berth", .string⟩, ⟨"day", .string⟩, ⟨"kind", .string⟩, ⟨"remark", .string⟩]⟩

def arrival : Class := .below
  { path := "port::Arrival"
    factory := some ⟨shape, .cons "" (.cons "" (.cons "arrival" (.cons "" .nil)))⟩
    discriminator := some "arrival" } entry

/-- A session whose root has registered the arrivals. -/
def opened : Session :=
  ((({} : Session).run ⟨.addManager none, some "manager"⟩).2.2.run
    ⟨.rootEntity "manager" entry [arrival], some "entries"⟩).2.2

def root : Root := opened.store.roots.head (by decide)

def arrivalType : TypeEntity := root.types.head (by decide)

/-- An arrival that takes itself for a departure. -/
def context : Context :=
  ⟨arrivalType, ⟨shape, .cons "north" (.cons "monday" (.cons "departure" (.cons "late" .nil)))⟩, rfl⟩

def kindField : Field :=
  ⟨((FieldDecl.ofColumn "kind" .text).asClusteringKey 0 .asc).asTypeKey, "port::Entry"⟩

def log : Table := arrivalType.entity.tables.head (by decide)

theorem log_listed : log ∈ context.entity.tables := List.head_mem _

theorem introspect_arrival : Entity.introspect {} .type arrival = .ok context.entity := rfl

end Logbook

/-- The kind is a clustering key of the log, and in its place the arrival holds a departure. -/
theorem Context.toRow_of_introspect_arrival :
    ∃ row entries, Logbook.context.toRow "log" = .ok row ∧
      Logbook.context.primaryKeyValues "log" = .ok entries ∧
      Logbook.context.object.get? "kind" = some (.text "departure") ∧
      row.get? "berth" = some (.text "north") ∧
      row.get? "kind" = some (.text "arrival") ∧
      entries.lookup "kind" = some (.text "arrival") := by
  obtain ⟨written, writes, tags⟩ := toRow_of_introspect Logbook.introspect_arrival "log"
  obtain ⟨columns, stored, berth⟩ : ∃ columns,
      Logbook.context.columnValues "log" = .ok columns ∧
        columns.lookup "berth" = some (.text "north") := ⟨_, rfl, rfl⟩
  obtain ⟨row, done⟩ := written.mpr ⟨⟨"port", rfl⟩, columns, stored⟩
  obtain ⟨table, listed, named, wrote⟩ := writes columns stored
  obtain ⟨_, _, entries, _, _, keyed, _⟩ := wrote.primaryKey
  rw [named] at keyed
  have kind := tags Logbook.log Logbook.log_listed Logbook.kindField rfl
  refine ⟨row, entries, done, keyed, rfl, ?_, kind.row row done, kind.primaryKey entries keyed ?_⟩
  · obtain rfl : table = Logbook.log := List.mem_singleton.mp listed
    obtain ⟨_, _, _, _, each⟩ := wrote.row row done
    obtain ⟨value, carries, found⟩ := each Logbook.log.fields[0] (List.getElem_mem _)
    exact carries.trans (found.symm.trans berth)
  · exact List.mem_append_right _ List.mem_cons_self

end TypedRows
