import TypedRows.Proofs.TableConstruction

/-! How often a column stands in a primary key. The partition keys name a column at most once, and
so do the clustering keys; nothing keeps a column from being a key of both sorts, and then the
primary key names it twice. -/
namespace TypedRows

/-- No column of the table is a partition key and a clustering key at once. -/
def Table.SplitsKeys (table : Table) : Prop :=
  ∀ field ∈ table.fields, ¬(field.decl.Plays .partitionKey ∧ field.decl.Plays .clusteringKey)

instance : DecidablePred Table.SplitsKeys := fun table =>
  inferInstanceAs (Decidable (∀ field ∈ table.fields, ¬(_ ∧ _)))

namespace Entity

variable {entity : Entity} {boundary : Boundary} {table : Table} {field : Field}
  (described : entity.Describes boundary) (listed : table ∈ entity.tables)

include described listed

theorem nodup_columnNames_players (role : KeyRole) :
    ((table.players role).map (·.columnName)).Nodup := by
  have built := builtFrom_of_mem_tables described listed
  have distinct := nodup_columnNames described listed
  refine List.Nodup.map_on ?_
    ((Table.inPartOrder_players built role).nodup (nodup_fields described listed))
  intro first firstMember second secondMember same
  exact List.inj_on_of_nodup_map distinct ((Table.mem_players_iff built role).mp firstMember).1
    ((Table.mem_players_iff built role).mp secondMember).1 same

theorem count_players (role : KeyRole) (member : field ∈ table.fields) :
    ((table.players role).map (·.columnName)).count field.columnName =
      if field.decl.Plays role then 1 else 0 := by
  have built := builtFrom_of_mem_tables described listed
  by_cases part : field.decl.Plays role
  · rw [if_pos part]
    exact List.count_eq_one_of_mem (nodup_columnNames_players described listed role)
      (List.mem_map.mpr ⟨field, (Table.mem_players_iff built role).mpr ⟨member, part⟩, rfl⟩)
  · rw [if_neg part]
    refine List.count_eq_zero.mpr fun named => part ?_
    obtain ⟨other, otherMember, same⟩ := List.mem_map.mp named
    obtain ⟨otherListed, otherPart⟩ := (Table.mem_players_iff built role).mp otherMember
    obtain rfl := List.inj_on_of_nodup_map (nodup_columnNames described listed) otherListed member
      same
    exact otherPart

/-- A column stands in the primary key once for each sort of keys that it belongs to. -/
theorem count_primaryKey (member : field ∈ table.fields) :
    (table.primaryKey.map (·.columnName)).count field.columnName =
      (if field.decl.Plays .partitionKey then 1 else 0) +
        if field.decl.Plays .clusteringKey then 1 else 0 := by
  rw [Table.primaryKey, List.map_append, List.count_append,
    ← count_players described listed .partitionKey member,
    ← count_players described listed .clusteringKey member]
  rfl

theorem nodup_primaryKey_iff :
    (table.primaryKey.map (·.columnName)).Nodup ↔ table.SplitsKeys := by
  rw [List.nodup_iff_count_le_one]
  constructor
  · rintro once field member ⟨partition, clustering⟩
    have twice := once field.columnName
    rw [count_primaryKey described listed member, if_pos partition, if_pos clustering] at twice
    omega
  · intro split name
    by_cases named : name ∈ table.primaryKey.map (·.columnName)
    · obtain ⟨field, keyed, rfl⟩ := List.mem_map.mp named
      have member := Table.primaryKey_subset (builtFrom_of_mem_tables described listed) keyed
      have apart := split field member
      rw [count_primaryKey described listed member]
      split_ifs with partition clustering
      · exact absurd ⟨partition, clustering⟩ apart
      all_goals omega
    · rw [List.count_eq_zero.mpr named]
      omega

omit described listed in
/-- The primary key of a table names a column once for each sort of keys that it belongs to. So it
names every column once, and so does what a context stores for it, exactly if no column belongs to
both sorts. -/
theorem nodup_primaryKey_of_introspect {settings : Settings} {cls : Class}
    (introspected : introspect settings boundary cls = .ok entity) :
    ∀ table ∈ entity.tables,
      (∀ field ∈ table.fields,
        (table.primaryKey.map (·.columnName)).count field.columnName =
          (if field.decl.Plays .partitionKey then 1 else 0) +
            if field.decl.Plays .clusteringKey then 1 else 0) ∧
      ((table.primaryKey.map (·.columnName)).Nodup ↔ table.SplitsKeys) ∧
      ∀ context : Context, context.entity = entity → ∀ entries,
        context.primaryKeyValues table.name = .ok entries →
          ((entries.map (·.1)).Nodup ↔ table.SplitsKeys) := by
  obtain ⟨_, _, described⟩ := (introspect_eq_ok_iff _ _ _ _).mp introspected
  intro table listed
  refine ⟨fun field member => count_primaryKey described listed member,
    nodup_primaryKey_iff described listed, ?_⟩
  rintro context rfl entries stored
  have named : entries.map (·.1) = table.primaryKey.map (·.columnName) :=
    Context.map_fst_of_columnValues
      ((Context.valuesOf_eq_ok_iff described listed _).mp stored)
  rw [named, nodup_primaryKey_iff described listed]

end Entity

namespace Timetable

/-- Departures that are kept apart by the hour, and ordered by it once more. -/
def departure : Class := .top
  { path := "port::Departure"
    isRoot := true
    keyspace := some ⟨"port", []⟩
    tables := ["timetable"]
    fields := [((FieldDecl.ofColumn "hour" .text).asPartitionKey 0).asClusteringKey 0 .asc,
      (FieldDecl.ofColumn "kind" .text).asTypeKey] }

def shape : Shape :=
  ⟨"Ferry", "port::Ferry", "port::Ferry", [⟨"hour", .string⟩, ⟨"kind", .string⟩]⟩

/-- Ferries leave at noon. -/
def noon : Object := ⟨shape, .cons "noon" (.cons "ferry" .nil)⟩

def ferry : Class := .below
  { path := "port::Ferry"
    factory := some noon
    discriminator := some "ferry" } departure

/-- A session whose root has registered the ferries. -/
def opened : Session :=
  ((({} : Session).run ⟨.addManager none, some "manager"⟩).2.2.run
    ⟨.rootEntity "manager" departure [ferry], some "departures"⟩).2.2

def root : Root := opened.store.roots.head (by decide)

def ferryType : TypeEntity := root.types.head (by decide)

def context : Context := ⟨ferryType, noon, rfl⟩

def timetable : Table := context.entity.tables.head (by decide)

theorem timetable_listed : timetable ∈ context.entity.tables := List.head_mem _

theorem introspect_ferry : Entity.introspect {} .type ferry = .ok context.entity := rfl

theorem primaryKeyValues_timetable :
    context.primaryKeyValues "timetable" = .ok [("hour", .text "noon"), ("hour", .text "noon")] :=
  rfl

end Timetable

/-- The key of the log names every column once, while that of the timetable names the hour twice. -/
theorem Entity.nodup_primaryKey_of_introspect_log :
    (∃ entries, Logbook.context.primaryKeyValues "log" = .ok entries ∧
      (entries.map (·.1)).Nodup) ∧
    (Timetable.timetable.primaryKey.map (·.columnName)).count "hour" = 2 := by
  obtain ⟨_, _, stored⟩ := nodup_primaryKey_of_introspect Logbook.introspect_arrival
    Logbook.log Logbook.log_listed
  obtain ⟨counted, _, _⟩ := nodup_primaryKey_of_introspect Timetable.introspect_ferry
    Timetable.timetable Timetable.timetable_listed
  constructor
  · have split : Logbook.log.SplitsKeys := by decide
    obtain ⟨entries, done⟩ :
      ∃ entries, Logbook.context.primaryKeyValues "log" = .ok entries := ⟨_, rfl⟩
    exact ⟨entries, done, (stored Logbook.context rfl entries done).mpr split⟩
  · exact counted _ List.mem_cons_self

/-- Neither the primary key of a table nor what a context stores for it names every column once. -/
theorem Entity.not_forall_nodup_primaryKey :
    ¬∀ (settings : Settings) (boundary : Boundary) (cls : Class) (entity : Entity),
      introspect settings boundary cls = .ok entity →
      ∀ table ∈ entity.tables, ∀ context : Context, context.entity = entity →
        ∀ entries, context.primaryKeyValues table.name = .ok entries →
          (table.primaryKey.map (·.columnName)).Nodup ∨ (entries.map (·.1)).Nodup := by
  intro always
  have either := always {} .type Timetable.ferry Timetable.context.entity
    Timetable.introspect_ferry Timetable.timetable Timetable.timetable_listed Timetable.context rfl _
    Timetable.primaryKeyValues_timetable
  revert either
  decide

end TypedRows
