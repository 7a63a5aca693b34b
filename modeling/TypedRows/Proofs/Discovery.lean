import TypedRows.Proofs.RoundTrip

/-! Where the type key of a row is discovered. The first table whose type key the row carries from
that very table tells the discriminator, and no other value is read. Only the first column of a name
is looked at, so a column of another table that stands before keeps the type key from being found.
-/
namespace TypedRows

namespace Row

/-- The position of the first column of a name that comes from a table. -/
def indexFrom? (row : Row) (table name : String) : Option Nat :=
  row.definitions.findIdx? fun column => column.name = name && column.table = table

/-- The first column of the name comes from some other table. -/
def Hides (row : Row) (table name : String) : Prop :=
  ∃ index other, row.indexOf? name = some index ∧ row.table? index = some other ∧ other ≠ table

variable {row : Row} {table name : String} {index : Nat}

theorem table?_eq_some_iff :
    row.table? index = some table ↔
      ∃ inside : index < row.definitions.length, row.definitions[index].table = table := by
  simp [table?, List.getElem?_eq_some_iff]

theorem indexFrom?_eq_some_of_indexOf? (first : row.indexOf? name = some index)
    (own : row.table? index = some table) : row.indexFrom? table name = some index := by
  obtain ⟨inside, named, before⟩ := List.findIdx?_eq_some_iff_getElem.mp first
  obtain ⟨_, placed⟩ := table?_eq_some_iff.mp own
  refine List.findIdx?_eq_some_iff_getElem.mpr ⟨inside, by simpa [placed] using named, ?_⟩
  intro earlier less
  have other := before earlier less
  simp only [decide_eq_true_eq] at other
  simp [other]

/-- A column that the row carries from the table is found by its name alone unless it is hidden. -/
theorem indexFrom?_eq_some_iff_of_not_hides (plain : ¬row.Hides table name) :
    row.indexFrom? table name = some index ↔
      row.indexOf? name = some index ∧ row.table? index = some table := by
  refine ⟨fun carried => ?_, fun ⟨first, own⟩ => indexFrom?_eq_some_of_indexOf? first own⟩
  obtain ⟨inside, matched, _⟩ := List.findIdx?_eq_some_iff_getElem.mp carried
  have named : row.definitions[index].name = name := by
    simp only [Bool.and_eq_true, decide_eq_true_eq] at matched
    exact matched.1
  cases first : row.indexOf? name with
  | none =>
    have absent := List.findIdx?_eq_none_iff.mp first _ (List.getElem_mem inside)
    simp [named] at absent
  | some position =>
    obtain ⟨bound, _, _⟩ := List.findIdx?_eq_some_iff_getElem.mp first
    have own : row.table? position = some table := by
      by_contra foreign
      have there : row.table? position = some row.definitions[position].table :=
        table?_eq_some_iff.mpr ⟨bound, rfl⟩
      refine plain ⟨position, _, first, there, ?_⟩
      exact fun same => foreign (same ▸ there)
    have same := (indexFrom?_eq_some_of_indexOf? first own).symm.trans carried
    obtain rfl := Option.some.inj same
    exact ⟨rfl, own⟩

theorem not_hides_of_table? (first : row.indexOf? name = some index)
    (own : row.table? index = some table) : ¬row.Hides table name := by
  rintro ⟨position, other, found, placed, foreign⟩
  obtain rfl := Option.some.inj (first.symm.trans found)
  exact foreign (Option.some.inj (placed.symm.trans own))

end Row

namespace Table

/-- The row carries the type key of the table from the table itself, first at this position. -/
def Carries (table : Table) (row : Row) (key : Field) (index : Nat) : Prop :=
  table.typeKey = some key ∧ row.indexFrom? table.name key.columnName = some index

/-- The row carries the type key of the table, and no column of another table hides it. -/
def Shows (table : Table) (row : Row) (key : Field) (index : Nat) : Prop :=
  table.Carries row key index ∧ ¬row.Hides table.name key.columnName

theorem typeKeyAt?_eq_some_iff_shows {table : Table} {row : Row} {key : Field} {index : Nat} :
    table.typeKeyAt? row = some (key, index) ↔ table.Shows row key index := by
  rw [typeKeyAt?_eq_some_iff]
  constructor
  · intro ⟨keyed, first, own⟩
    exact ⟨⟨keyed, Row.indexFrom?_eq_some_of_indexOf? first own⟩, Row.not_hides_of_table? first own⟩
  · intro ⟨⟨keyed, carried⟩, plain⟩
    exact ⟨keyed, (Row.indexFrom?_eq_some_iff_of_not_hides plain).mp carried⟩

end Table

/-- The type key that is read for the discriminator of a row, with its position. Without one no
value of the row is read. -/
def typeKeyRead? (tables : List Table) (row : Row) : Option (Field × Nat) :=
  tables.findSome? (·.typeKeyAt? row)

/-- The discriminator is the text that the type key holds in a column, and there is none if it is
null there. -/
structure Field.Tells (key : Field) (row : Row) (index : Nat)
    (outcome : Except ConversionError (Option String)) : Prop where
  text : ∀ text, outcome = .ok (some text) ↔ key.decodeAt row index = .ok (.text text)
  null : outcome = .ok none ↔ key.decodeAt row index = .ok .null
  error : ∀ cause, outcome = .error cause ↔ key.decodeAt row index = .error cause

theorem Field.null_or_text_of_decodeAt {key : Field} (kind : key.kind = .text) {row : Row}
    {index : Nat} {value : Value} (decoded : key.decodeAt row index = .ok value) :
    value = .null ∨ ∃ text, value = .text text := by
  obtain ⟨_, _, checked⟩ := (decode_eq_ok_iff _ _ _).mp decoded
  obtain ⟨fits, _⟩ := (check_eq_ok_iff _ _ _).mp checked
  rw [kind] at fits
  cases value with
  | null => exact .inl rfl
  | text text => exact .inr ⟨text, rfl⟩
  | _ => cases fits

theorem Field.tells_map_asText? {key : Field} (kind : key.kind = .text) (row : Row) (index : Nat) :
    key.Tells row index ((key.decodeAt row index).map (·.asText?)) := by
  cases decoded : key.decodeAt row index with
  | error cause => constructor <;> simp [decoded, Except.map]
  | ok value =>
    rcases null_or_text_of_decodeAt kind decoded with rfl | ⟨text, rfl⟩ <;>
      constructor <;> simp [decoded, Except.map, Value.asText?]

/-- Discovery reads the type key of the first of the tables that has it in the row, in one sense of
having it, and reads nothing if there is no such table. -/
structure Discovers (tables : List Table) (row : Row) (has : Table → Field → Nat → Prop) :
    Prop where
  told : ∀ before table after key index, tables = before ++ table :: after →
    (∀ earlier ∈ before, ∀ key index, ¬has earlier key index) → has table key index →
    typeKeyRead? tables row = some (key, index) ∧
      key.Tells row index (discoverDiscriminator tables row)
  unread : typeKeyRead? tables row = none ↔ ∀ table ∈ tables, ∀ key index, ¬has table key index
  untold : typeKeyRead? tables row = none →
    ∀ values, discoverDiscriminator tables { row with values } = .ok none

theorem Discovers.congr {tables : List Table} {row : Row} {has other : Table → Field → Nat → Prop}
    (discovers : Discovers tables row has)
    (same : ∀ table ∈ tables, ∀ key index, has table key index ↔ other table key index) :
    Discovers tables row other where
  told := by
    rintro before table after key index rfl untold here
    refine discovers.told before table after key index rfl ?_ ?_
    · intro earlier member key index
      rw [same earlier (List.mem_append_left _ member)]
      exact untold earlier member key index
    · exact (same table (by simp) key index).mpr here
  unread := by
    rw [discovers.unread]
    exact forall₂_congr fun table member => forall₂_congr fun key index =>
      not_congr (same table member key index)
  untold := discovers.untold

/-- Discovery over the tables of classes reads the first type key that the row carries from its own
table, if no column of another table hides it. A table whose type key is hidden is passed over like
one whose type key the row does not carry. -/
theorem discovers_of_build {tables : List Table}
    (built : ∀ table ∈ tables, ∃ path all, Table.build path table.name all = .ok table)
    (row : Row) :
    Discovers tables row (·.Shows row) ∧
      ((∀ table ∈ tables, ∀ key index, table.Carries row key index →
          ¬row.Hides table.name key.columnName) →
        Discovers tables row (·.Carries row)) := by
  have silent (table : Table) :
      table.typeKeyAt? row = none ↔ ∀ key index, ¬table.Shows row key index := by
    simp only [← Table.typeKeyAt?_eq_some_iff_shows, Option.eq_none_iff_forall_ne_some, Prod.forall,
      ne_eq]
  have discovers : Discovers tables row (·.Shows row) := by
    refine ⟨?_, ?_, ?_⟩
    · rintro before table after key index split untold here
      have read : typeKeyRead? tables row = some (key, index) :=
        List.findSome?_eq_some_iff.mpr ⟨before, table, after, split,
          Table.typeKeyAt?_eq_some_iff_shows.mpr here, fun earlier member =>
            (silent earlier).mpr (untold earlier member)⟩
      obtain ⟨path, all, build⟩ := built table (by simp [split])
      have kind : key.kind = .text :=
        ((Table.build_eq_ok_iff _ _ _ _).mp build).typeKey_text key here.1.1
      have told : discoverDiscriminator tables row = (key.decodeAt row index).map (·.asText?) := by
        rw [discoverDiscriminator, ← typeKeyRead?, read]
      exact ⟨read, told ▸ key.tells_map_asText? kind row index⟩
    · rw [typeKeyRead?, List.findSome?_eq_none_iff]
      exact forall₂_congr fun table _ => silent table
    · intro unread values
      -- Where the type key stands does not depend on the values.
      have same : typeKeyRead? tables { row with values } = none := unread
      rw [discoverDiscriminator, ← typeKeyRead?, same]
  refine ⟨discovers, fun plain => discovers.congr fun table member key index => ?_⟩
  exact ⟨fun shown => shown.1, fun carried => ⟨carried, plain table member key index carried⟩⟩

theorem Entity.exists_build_of_mem_tables {entity : Entity} {boundary : Boundary} {table : Table}
    (described : entity.Describes boundary) (member : table ∈ entity.tables) :
    ∃ path all, Table.build path table.name all = .ok table :=
  ⟨entity.path, _, (Table.build_eq_ok_iff _ _ _ _).mpr (builtFrom_of_mem_tables described member)⟩

namespace Menagerie

theorem exists_build {table : Table} (member : table ∈ dogType.entity.tables) :
    ∃ path all, Table.build path table.name all = .ok table := by
  have sound := reachable_opened.sound.store.roots root root_live
  exact Entity.exists_build_of_mem_tables (sound.valid dogType dogType_registered).described member

/-- A row of the animals in which a column of an audit has the name of the type key and comes
first. -/
def audited : Row :=
  .ofCells "zoo" "animals"
    [⟨"kind", .text "dog", some "audit"⟩, ⟨"id", .text "rex", none⟩, ⟨"kind", .text "dog", none⟩]

/-- The row has the kind of the animal all the same. -/
theorem animals_carries_audited : animals.Carries audited kindField 2 := ⟨rfl, rfl⟩

end Menagerie

/-- The kind of a dog is found where no other column of the name stands before it. -/
theorem discovers_of_build_dog :
    Discovers Menagerie.dogType.entity.tables (Menagerie.row "dog")
      (·.Carries (Menagerie.row "dog")) := by
  refine (discovers_of_build (fun _ => Menagerie.exists_build) _).2 ?_
  have tables : Menagerie.dogType.entity.tables = [Menagerie.animals] := rfl
  rw [tables]
  intro table member key index carried
  obtain rfl := List.mem_singleton.mp member
  obtain rfl : Menagerie.kindField = key := Option.some.inj carried.1
  exact Row.not_hides_of_table? (rfl : _ = some 1) rfl

/-- A row can carry the type key from its own table without its being found. -/
theorem not_forall_discovers :
    ¬∀ (tables : List Table) (row : Row),
      (∀ table ∈ tables, ∃ path all, Table.build path table.name all = .ok table) →
      Discovers tables row (·.Carries row) := by
  intro always
  have discovers := always Menagerie.dogType.entity.tables Menagerie.audited
    (fun _ => Menagerie.exists_build)
  have unread : typeKeyRead? Menagerie.dogType.entity.tables Menagerie.audited = none := rfl
  exact discovers.unread.mp unread Menagerie.animals (List.head_mem _) _ _
    Menagerie.animals_carries_audited

end TypedRows
