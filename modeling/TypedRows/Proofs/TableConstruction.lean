import TypedRows.Proofs.WrittenRows

/-! Which fields make up a table. A table is built exactly from fields that do not compete for a
part. Its keys stand in the order of their ordinals, whatever the order of the declarations, and the
first field that stands in the way of a table is the one that is reported. -/
namespace TypedRows

namespace Table

instance (role : KeyRole) (fields : List Field) : Decidable (DistinctOrdinals role fields) :=
  inferInstanceAs (Decidable (List.Nodup _))

/-- Fields that make up a table: some of them are partition keys, no two have the same ordinal among
the keys of one sort, and at most one is a type key, which holds text. -/
structure WellFormed (fields : List Field) : Prop where
  partitioned : ∃ field ∈ fields, field.decl.Plays .partitionKey
  partitionOrdinals : DistinctOrdinals .partitionKey fields
  clusteringOrdinals : DistinctOrdinals .clusteringKey fields
  singleTypeKey : (fields.filter (·.decl.typeKey)).length ≤ 1
  textTypeKey : ∀ field ∈ fields, field.decl.typeKey = true → field.kind = .text

instance : DecidablePred WellFormed := fun fields =>
  decidable_of_iff
    ((∃ field ∈ fields, field.decl.Plays .partitionKey) ∧ DistinctOrdinals .partitionKey fields ∧
      DistinctOrdinals .clusteringKey fields ∧ (fields.filter (·.decl.typeKey)).length ≤ 1 ∧
      ∀ field ∈ fields, field.decl.typeKey = true → field.kind = .text)
    ⟨fun ⟨partitioned, partitions, clusterings, single, text⟩ =>
        ⟨partitioned, partitions, clusterings, single, text⟩,
      fun ⟨partitioned, partitions, clusterings, single, text⟩ =>
        ⟨partitioned, partitions, clusterings, single, text⟩⟩

/-- What a table makes of the fields that apply to it. -/
structure Arranges (table : Table) (name : String) (fields : List Field) : Prop where
  name_eq : table.name = name
  fields_eq : table.fields = fields
  partitionKeys : table.Part .partitionKey table.partitionKeys
  clusteringKeys : table.Part .clusteringKey table.clusteringKeys
  typeKey_eq_some_iff : ∀ field,
    table.typeKey = some field ↔ field ∈ fields ∧ field.decl.typeKey = true
  indexes_eq : table.indexes = fields.filter (·.decl.index)

/-- The field is the first in the list whose ordinal in the role is used before it. -/
def FirstRepeat (role : KeyRole) (fields : List Field) (field : Field) (ordinal : Nat) : Prop :=
  ∃ before after, fields = before ++ field :: after ∧ DistinctOrdinals role before ∧
    field.ordinal? role = some ordinal ∧ ∃ earlier ∈ before, earlier.ordinal? role = some ordinal

/-- Why there is no table of a name over the fields that apply to it: the first thing that is wrong
with the partition keys, then with the clustering keys and then with the type keys. -/
inductive Refused (path name : String) (fields : List Field) : ModelError → Prop where
  | partitionOrdinal {field : Field} {ordinal : Nat}
      (repeated : FirstRepeat .partitionKey fields field ordinal) :
      Refused path name fields
        (.duplicateKeyOrdinal path name .partitionKey field.columnName ordinal)
  | unpartitioned (absent : ∀ field ∈ fields, ¬field.decl.Plays .partitionKey) :
      Refused path name fields (.missingPartitionKey path name)
  | clusteringOrdinal {field : Field} {ordinal : Nat}
      (partitioned : ∃ field ∈ fields, field.decl.Plays .partitionKey)
      (partitionOrdinals : DistinctOrdinals .partitionKey fields)
      (repeated : FirstRepeat .clusteringKey fields field ordinal) :
      Refused path name fields
        (.duplicateKeyOrdinal path name .clusteringKey field.columnName ordinal)
  | typeKeyNotText {first : Field} {others : List Field}
      (partitioned : ∃ field ∈ fields, field.decl.Plays .partitionKey)
      (partitionOrdinals : DistinctOrdinals .partitionKey fields)
      (clusteringOrdinals : DistinctOrdinals .clusteringKey fields)
      (typeKeys : fields.filter (·.decl.typeKey) = first :: others) (kind : first.kind ≠ .text) :
      Refused path name fields (.typeKeyNotText path name first.columnName)
  | multipleTypeKeys {first second : Field} {others : List Field}
      (partitioned : ∃ field ∈ fields, field.decl.Plays .partitionKey)
      (partitionOrdinals : DistinctOrdinals .partitionKey fields)
      (clusteringOrdinals : DistinctOrdinals .clusteringKey fields)
      (typeKeys : fields.filter (·.decl.typeKey) = first :: second :: others)
      (kind : first.kind = .text) :
      Refused path name fields
        (.multipleTypeKeys path name first.columnName second.columnName)

/-! ### Acceptance -/

section

variable {name : String} {all others : List Field}

theorem wellFormed_of_builtFrom {table : Table} (built : table.BuiltFrom name all) :
    WellFormed (all.filter (·.appliesTo name)) := by
  rw [← built.fields_eq]
  refine ⟨?_, built.partitionOrdinals, built.clusteringOrdinals, ?_, ?_⟩
  · obtain ⟨key, member⟩ := List.exists_mem_of_ne_nil _ built.partitionKeys_ne
    exact ⟨key, (mem_players_iff built .partitionKey).mp member⟩
  · rw [built.typeKey_eq]
    cases table.typeKey <;> simp
  · intro field member typed
    have single : field ∈ table.typeKey.toList :=
      built.typeKey_eq ▸ List.mem_filter.mpr ⟨member, typed⟩
    exact built.typeKey_text field (Option.mem_toList.mp single)

theorem exists_builtFrom_of_wellFormed (formed : WellFormed (all.filter (·.appliesTo name))) :
    ∃ table : Table, table.BuiltFrom name all := by
  let fields := all.filter (·.appliesTo name)
  have single : fields.filter (·.decl.typeKey) = (fields.filter (·.decl.typeKey)).head?.toList := by
    have few := formed.singleTypeKey
    cases typeKeys : fields.filter (·.decl.typeKey) with
    | nil => rfl
    | cons first rest =>
      obtain rfl : rest = [] := by simpa [fields, typeKeys] using few
      rfl
  refine ⟨{ name, fields, partitionKeys := inOrder .partitionKey fields,
            clusteringKeys := inOrder .clusteringKey fields,
            typeKey := (fields.filter (·.decl.typeKey)).head?,
            indexes := fields.filter (·.decl.index) },
    rfl, rfl, formed.partitionOrdinals, rfl, ?_, formed.clusteringOrdinals, rfl, single, ?_, rfl⟩
  · obtain ⟨key, member, part⟩ := formed.partitioned
    exact List.ne_nil_of_mem ((mem_inOrder_iff formed.partitionOrdinals).mpr ⟨member, part⟩)
  · intro key first
    obtain ⟨member, typed⟩ := List.mem_filter.mp (List.mem_of_mem_head? first)
    exact formed.textTypeKey key member typed

theorem exists_build_eq_ok_iff (path name : String) (all : List Field) :
    (∃ table, build path name all = .ok table) ↔ WellFormed (all.filter (·.appliesTo name)) := by
  simp only [build_eq_ok_iff]
  constructor
  · rintro ⟨table, built⟩
    exact wellFormed_of_builtFrom built
  · exact exists_builtFrom_of_wellFormed

theorem arranges_of_builtFrom {table : Table} (built : table.BuiltFrom name all) :
    table.Arranges name (all.filter (·.appliesTo name)) where
  name_eq := built.name_eq
  fields_eq := built.fields_eq
  partitionKeys := part_of_builtFrom built .partitionKey
  clusteringKeys := part_of_builtFrom built .clusteringKey
  typeKey_eq_some_iff field := by
    have single : field ∈ table.fields.filter (·.decl.typeKey) ↔ table.typeKey = some field := by
      rw [built.typeKey_eq, Option.mem_toList]
    rw [← built.fields_eq, ← single, List.mem_filter]
  indexes_eq := built.fields_eq ▸ built.indexes_eq

/-! ### The order of declaration -/

theorem WellFormed.of_perm {fields : List Field} (formed : WellFormed fields)
    (rearranged : others.Perm fields) : WellFormed others where
  partitioned := by
    obtain ⟨field, member, part⟩ := formed.partitioned
    exact ⟨field, rearranged.mem_iff.mpr member, part⟩
  partitionOrdinals := ((rearranged.filterMap _).map _).nodup_iff.mpr formed.partitionOrdinals
  clusteringOrdinals := ((rearranged.filterMap _).map _).nodup_iff.mpr formed.clusteringOrdinals
  singleTypeKey := (rearranged.filter _).length_eq ▸ formed.singleTypeKey
  textTypeKey field member := formed.textTypeKey field (rearranged.mem_iff.mp member)

/-- The keys of a table do not depend on the order in which the fields are declared. -/
theorem keys_eq_of_perm {table other : Table} (built : table.BuiltFrom name all)
    (otherBuilt : other.BuiltFrom name others) (rearranged : others.Perm all) :
    other.partitionKeys = table.partitionKeys ∧ other.clusteringKeys = table.clusteringKeys := by
  have same (role : KeyRole) (field : Field) :
      field ∈ other.players role ↔ field ∈ table.players role := by
    rw [mem_players_iff otherBuilt, mem_players_iff built, mem_fields_iff otherBuilt,
      mem_fields_iff built, rearranged.mem_iff]
  constructor
  · exact Keyed.Ascending.eq_of_mem_iff (inPartOrder_players otherBuilt .partitionKey)
      (inPartOrder_players built .partitionKey) (same .partitionKey)
  · exact Keyed.Ascending.eq_of_mem_iff (inPartOrder_players otherBuilt .clusteringKey)
      (inPartOrder_players built .clusteringKey) (same .clusteringKey)

end

/-! ### Refusal -/

theorem accept_eq_error_iff {path table : String} {role : KeyRole} {before : List Field}
    {field : Field} {cause : ModelError} (distinct : DistinctOrdinals role before) :
    orderedKeys.accept path table role
        (Keyed.placeAll (·.1) (withOrdinals role before) []) field = .error cause ↔
      ∃ ordinal, field.ordinal? role = some ordinal ∧
        (∃ earlier ∈ before, earlier.ordinal? role = some ordinal) ∧
        cause = .duplicateKeyOrdinal path table role field.columnName ordinal := by
  unfold orderedKeys.accept
  cases found : field.ordinal? role with
  | none => simp
  | some ordinal =>
    simp only [required_eq_error_iff, Keyed.placeNew?_eq_none_iff,
      mem_placeAll_withOrdinals_iff distinct, Prod.exists, mem_withOrdinals_iff]
    constructor
    · rintro ⟨⟨_, earlier, ⟨member, taken⟩, rfl⟩, rfl⟩
      exact ⟨_, rfl, ⟨earlier, member, taken⟩, rfl⟩
    · rintro ⟨_, same, ⟨earlier, member, taken⟩, rfl⟩
      cases same
      exact ⟨⟨_, earlier, ⟨member, taken⟩, rfl⟩, rfl⟩

/-- Of the fields that repeat an ordinal the first one is refused. -/
theorem orderedKeys_eq_error_iff (path table : String) (role : KeyRole) (fields : List Field)
    (cause : ModelError) :
    orderedKeys path table role fields = .error cause ↔
      ∃ field ordinal, FirstRepeat role fields field ordinal ∧
        cause = .duplicateKeyOrdinal path table role field.columnName ordinal := by
  have walk : orderedKeys path table role fields = .error cause ↔
      fields.foldlM (orderedKeys.accept path table role) [] = .error cause := by
    rw [orderedKeys, bind_eq_error_iff]
    refine or_iff_left ?_
    rintro ⟨_, _, done⟩
    cases done
  rw [walk, foldlM_eq_error_iff]
  simp only [foldlM_accept_eq_ok_iff]
  constructor
  · rintro ⟨before, field, after, _, split, ⟨distinct, rfl⟩, refused⟩
    obtain ⟨ordinal, found, taken, rfl⟩ := (accept_eq_error_iff distinct).mp refused
    exact ⟨field, ordinal, ⟨before, after, split, distinct, found, taken⟩, rfl⟩
  · rintro ⟨field, ordinal, ⟨before, after, split, distinct, found, taken⟩, rfl⟩
    exact ⟨before, field, after, _, split, ⟨distinct, rfl⟩,
      (accept_eq_error_iff distinct).mpr ⟨ordinal, found, taken, rfl⟩⟩

private theorem findTypeKey_some_eq_error_iff (path table : String) (first : Field)
    (fields : List Field) (cause : ModelError) :
    findTypeKey path table (some first) fields = .error cause ↔
      ∃ second others, fields.filter (·.decl.typeKey) = second :: others ∧
        cause = .multipleTypeKeys path table first.columnName second.columnName := by
  induction fields with
  | nil => simp [findTypeKey]
  | cons field rest ih =>
    by_cases typed : field.decl.typeKey = true
    · simp [findTypeKey, typed, eq_comm]
    · simp [findTypeKey, typed, ih]

/-- The first type key is refused if it does not hold text, and otherwise the second one is. -/
theorem findTypeKey_eq_error_iff (path table : String) (fields : List Field) (cause : ModelError) :
    findTypeKey path table none fields = .error cause ↔
      ∃ first others, fields.filter (·.decl.typeKey) = first :: others ∧
        (first.kind ≠ .text ∧ cause = .typeKeyNotText path table first.columnName ∨
          first.kind = .text ∧ ∃ second more, others = second :: more ∧
            cause = .multipleTypeKeys path table first.columnName second.columnName) := by
  induction fields with
  | nil => simp [findTypeKey]
  | cons field rest ih =>
    by_cases typed : field.decl.typeKey = true
    · simp only [findTypeKey, typed, if_true, List.filter_cons]
      by_cases text : field.kind = .text
      · simp [text, findTypeKey_some_eq_error_iff]
      · simp [text, eq_comm (a := cause)]
    · simp [findTypeKey, typed, ih]

theorem distinctOrdinals_of_absent {fields : List Field}
    (absent : ∀ field ∈ fields, ¬field.decl.Plays .partitionKey) :
    DistinctOrdinals .partitionKey fields := by
  have none : withOrdinals .partitionKey fields = [] := by
    refine List.eq_nil_iff_forall_not_mem.mpr fun (ordinal, field) listed => ?_
    obtain ⟨member, found⟩ := mem_withOrdinals_iff.mp listed
    exact absent field member (Option.isSome_iff_exists.mpr ⟨ordinal, found⟩)
  rw [DistinctOrdinals, none]
  exact .nil

theorem isEmpty_inOrder_iff {fields : List Field}
    (distinct : DistinctOrdinals .partitionKey fields) :
    (inOrder .partitionKey fields).isEmpty = true ↔
      ∀ field ∈ fields, ¬field.decl.Plays .partitionKey := by
  simp only [List.isEmpty_iff, List.eq_nil_iff_forall_not_mem, mem_inOrder_iff distinct, not_and]
  rfl

theorem build_eq_error_iff (path name : String) (all : List Field) (cause : ModelError) :
    build path name all = .error cause ↔
      Refused path name (all.filter (·.appliesTo name)) cause := by
  simp only [build, bind_eq_error_iff, orderedKeys_eq_ok_iff, orderedKeys_eq_error_iff,
    require_eq_ok_iff, require_eq_error_iff, findTypeKey_eq_error_iff, Bool.not_eq_false']
  generalize all.filter (·.appliesTo name) = fields
  have partitioned (distinct : DistinctOrdinals .partitionKey fields) :
      (!(inOrder .partitionKey fields).isEmpty) = true ↔
        ∃ field ∈ fields, field.decl.Plays .partitionKey := by
    rw [Bool.not_eq_true', ← Bool.not_eq_true, isEmpty_inOrder_iff distinct]
    simp
  constructor
  · rintro (⟨_, _, repeated, rfl⟩ | ⟨_, ⟨partitions, rfl⟩, ⟨empty, rfl⟩ | ⟨_, nonempty,
      ⟨_, _, repeated, rfl⟩ | ⟨_, ⟨clusterings, rfl⟩, ⟨first, others, typeKeys, wrong⟩ |
        ⟨_, _, done⟩⟩⟩⟩)
    · exact .partitionOrdinal repeated
    · exact .unpartitioned ((isEmpty_inOrder_iff partitions).mp empty)
    · exact .clusteringOrdinal ((partitioned partitions).mp nonempty) partitions repeated
    · have nonempty := (partitioned partitions).mp nonempty
      rcases wrong with ⟨kind, rfl⟩ | ⟨kind, second, more, rfl, rfl⟩
      · exact .typeKeyNotText nonempty partitions clusterings typeKeys kind
      · exact .multipleTypeKeys nonempty partitions clusterings typeKeys kind
    · cases done
  · intro refused
    cases refused with
    | partitionOrdinal repeated => exact .inl ⟨_, _, repeated, rfl⟩
    | unpartitioned absent =>
      have partitions := distinctOrdinals_of_absent absent
      exact .inr ⟨_, ⟨partitions, rfl⟩, .inl ⟨(isEmpty_inOrder_iff partitions).mpr absent, rfl⟩⟩
    | clusteringOrdinal nonempty partitions repeated =>
      exact .inr ⟨_, ⟨partitions, rfl⟩, .inr ⟨(), (partitioned partitions).mpr nonempty,
        .inl ⟨_, _, repeated, rfl⟩⟩⟩
    | typeKeyNotText nonempty partitions clusterings typeKeys kind =>
      exact .inr ⟨_, ⟨partitions, rfl⟩, .inr ⟨(), (partitioned partitions).mpr nonempty,
        .inr ⟨_, ⟨clusterings, rfl⟩, .inl ⟨_, _, typeKeys, .inl ⟨kind, rfl⟩⟩⟩⟩⟩
    | multipleTypeKeys nonempty partitions clusterings typeKeys kind =>
      exact .inr ⟨_, ⟨partitions, rfl⟩, .inr ⟨(), (partitioned partitions).mpr nonempty,
        .inr ⟨_, ⟨clusterings, rfl⟩, .inl ⟨_, _, typeKeys, .inr ⟨kind, _, _, rfl, rfl⟩⟩⟩⟩⟩

/-- A table is built exactly from well-formed fields, and it has them in their parts: those of the
index as they are declared, and the keys by their ordinals, so that another order of declaration
gives the same keys. What is refused is refused for the first thing that is wrong with it; of the
fields that repeat an ordinal that is the first in the order of declaration. -/
theorem build_exactly (path name : String) (all : List Field) :
    ((∃ table, build path name all = .ok table) ↔
      WellFormed (all.filter (·.appliesTo name))) ∧
    (∀ table, build path name all = .ok table →
      table.Arranges name (all.filter (·.appliesTo name)) ∧
      ∀ others : List Field, others.Perm all → ∃ other, build path name others = .ok other ∧
        other.partitionKeys = table.partitionKeys ∧
        other.clusteringKeys = table.clusteringKeys) ∧
    ∀ cause, build path name all = .error cause ↔
      Refused path name (all.filter (·.appliesTo name)) cause := by
  refine ⟨exists_build_eq_ok_iff path name all, ?_, build_eq_error_iff path name all⟩
  intro table done
  have built := (build_eq_ok_iff _ _ _ _).mp done
  refine ⟨arranges_of_builtFrom built, fun others rearranged => ?_⟩
  have formed := (wellFormed_of_builtFrom built).of_perm (rearranged.filter _)
  obtain ⟨other, otherDone⟩ := (exists_build_eq_ok_iff path name others).mpr formed
  exact ⟨other, otherDone,
    keys_eq_of_perm built ((build_eq_ok_iff _ _ _ _).mp otherDone) rearranged⟩

end Table

namespace Logbook

/-- A field that competes with the berth for the second place in the partition key. -/
def tide : Field := ⟨(FieldDecl.ofColumn "tide" .text).asPartitionKey 1, "port::Entry"⟩

end Logbook

theorem Table.build_exactly_log :
    ∃ table, build "port::Entry" "log" Logbook.entry.fields = .ok table ∧
      table.partitionKeys.map (·.columnName) = ["day", "berth"] ∧
      (∃ other, build "port::Entry" "log" Logbook.entry.fields.reverse = .ok other ∧
        other.partitionKeys = table.partitionKeys) ∧
      build "port::Entry" "log" (Logbook.entry.fields ++ [Logbook.tide]) =
        .error (.duplicateKeyOrdinal "port::Entry" "log" .partitionKey "tide" 1) := by
  obtain ⟨accepts, arranges, _⟩ := build_exactly "port::Entry" "log" Logbook.entry.fields
  obtain ⟨table, built⟩ := accepts.mpr (by decide)
  obtain ⟨_, rearranges⟩ := arranges table built
  obtain ⟨other, otherBuilt, same, _⟩ := rearranges _ (List.reverse_perm _)
  have repeated : FirstRepeat .partitionKey
      ((Logbook.entry.fields ++ [Logbook.tide]).filter (·.appliesTo "log")) Logbook.tide 1 :=
    ⟨Logbook.entry.fields, [], rfl, by decide, rfl, _, List.mem_cons_self, rfl⟩
  obtain ⟨_, _, refuses⟩ :=
    build_exactly "port::Entry" "log" (Logbook.entry.fields ++ [Logbook.tide])
  refine ⟨table, built, ?_, ⟨other, otherBuilt, same⟩,
    (refuses _).mpr (.partitionOrdinal repeated)⟩
  cases built
  rfl

end TypedRows
