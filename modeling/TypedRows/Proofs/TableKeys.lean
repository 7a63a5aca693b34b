import Mathlib.Data.List.Forall2
import TypedRows.Proofs.Keyed
import TypedRows.Schema.Table

/-! What a table is made of: which lists of fields make up a table, which fields play which part in
it, and that fields without a part change none of its keys. -/
namespace TypedRows

/-- Whether the declaration asks for a part in the tables of its column. -/
def FieldDecl.PlaysPart (decl : FieldDecl) : Prop :=
  decl.partitionKey.isSome ∨ decl.clusteringKey.isSome ∨ decl.typeKey = true ∨ decl.index = true

instance : DecidablePred FieldDecl.PlaysPart := fun _ => inferInstanceAs (Decidable (_ ∨ _))

/-- The parts in the order in which a table lists them. -/
def KeyRole.all : List KeyRole := [.partitionKey, .clusteringKey, .typeKey, .index]

theorem KeyRole.mem_all (role : KeyRole) : role ∈ KeyRole.all := by
  cases role <;> simp [KeyRole.all]

/-- Whether the declaration asks for this part in the tables of its column. -/
def FieldDecl.Plays (decl : FieldDecl) : KeyRole → Prop
  | .partitionKey => decl.partitionKey.isSome
  | .clusteringKey => decl.clusteringKey.isSome
  | .typeKey => decl.typeKey = true
  | .index => decl.index = true

instance (decl : FieldDecl) : DecidablePred decl.Plays
  | .partitionKey => inferInstanceAs (Decidable (_ = true))
  | .clusteringKey => inferInstanceAs (Decidable (_ = true))
  | .typeKey => inferInstanceAs (Decidable (_ = true))
  | .index => inferInstanceAs (Decidable (_ = true))

theorem FieldDecl.playsPart_iff (decl : FieldDecl) : decl.PlaysPart ↔ ∃ role, decl.Plays role := by
  constructor
  · rintro (part | part | part | part)
    · exact ⟨.partitionKey, part⟩
    · exact ⟨.clusteringKey, part⟩
    · exact ⟨.typeKey, part⟩
    · exact ⟨.index, part⟩
  · rintro ⟨role, part⟩
    cases role with
    | partitionKey => exact .inl part
    | clusteringKey => exact .inr (.inl part)
    | typeKey => exact .inr (.inr (.inl part))
    | index => exact .inr (.inr (.inr part))

namespace Table

/-- The fields that have an ordinal in a role, each with its ordinal. -/
def withOrdinals (role : KeyRole) (fields : List Field) : List (Nat × Field) :=
  fields.filterMap fun field => (field.ordinal? role).map (·, field)

/-- The fields that have an ordinal in a role, in ascending order of it. -/
def inOrder (role : KeyRole) (fields : List Field) : List Field :=
  (Keyed.placeAll (·.1) (withOrdinals role fields) []).map (·.2)

/-- The ordinals of a role, each used once. -/
def DistinctOrdinals (role : KeyRole) (fields : List Field) : Prop :=
  ((withOrdinals role fields).map (·.1)).Nodup

theorem foldlM_accept_eq_ok_iff (path table : String) (role : KeyRole) (fields : List Field)
    (placed : List (Nat × Field)) :
    fields.foldlM (orderedKeys.accept path table role) [] = .ok placed ↔
      DistinctOrdinals role fields ∧
        placed = Keyed.placeAll (·.1) (withOrdinals role fields) [] := by
  let cause : Nat × Field → ModelError :=
    fun entry => .duplicateKeyOrdinal path table role entry.2.columnName entry.1
  have walk : fields.foldlM (orderedKeys.accept path table role) ([] : List (Nat × Field)) =
      (withOrdinals role fields).foldlM
        (fun taken entry => required (Keyed.placeNew? (·.1) entry taken) (cause entry)) [] := by
    rw [withOrdinals, List.foldlM_filterMap]
    congr 1
    funext taken field
    cases ordinal : field.ordinal? role <;>
      simp [orderedKeys.accept, ordinal, cause, pure, Except.pure]
  rw [walk, Keyed.foldlM_placeNew?_eq_ok_iff cause _ _ _ List.Pairwise.nil]
  simp [DistinctOrdinals]

theorem orderedKeys_eq_ok_iff (path table : String) (role : KeyRole) (fields keys : List Field) :
    orderedKeys path table role fields = .ok keys ↔
      DistinctOrdinals role fields ∧ keys = inOrder role fields := by
  simp only [orderedKeys, bind_eq_ok_iff, foldlM_accept_eq_ok_iff]
  constructor
  · rintro ⟨_, ⟨distinct, rfl⟩, same⟩
    cases same
    exact ⟨distinct, rfl⟩
  · rintro ⟨distinct, rfl⟩
    exact ⟨_, ⟨distinct, rfl⟩, rfl⟩

theorem mem_withOrdinals_iff {role : KeyRole} {fields : List Field} {ordinal : Nat}
    {field : Field} :
    (ordinal, field) ∈ withOrdinals role fields ↔
      field ∈ fields ∧ field.ordinal? role = some ordinal := by
  simp only [withOrdinals, List.mem_filterMap, Option.map_eq_some_iff, Prod.mk.injEq]
  constructor
  · rintro ⟨listed, member, _, found, rfl, rfl⟩
    exact ⟨member, found⟩
  · rintro ⟨member, found⟩
    exact ⟨field, member, ordinal, found, rfl, rfl⟩

theorem mem_placeAll_withOrdinals_iff {role : KeyRole} {fields : List Field} {entry : Nat × Field}
    (distinct : DistinctOrdinals role fields) :
    entry ∈ Keyed.placeAll (·.1) (withOrdinals role fields) [] ↔
      entry ∈ withOrdinals role fields := by
  rw [Keyed.mem_placeAll_iff List.Pairwise.nil distinct (by simp)]
  simp

theorem mem_inOrder_iff {role : KeyRole} {fields : List Field} {field : Field}
    (distinct : DistinctOrdinals role fields) :
    field ∈ inOrder role fields ↔ field ∈ fields ∧ (field.ordinal? role).isSome := by
  simp only [inOrder, List.mem_map, mem_placeAll_withOrdinals_iff distinct, Prod.exists,
    mem_withOrdinals_iff, Option.isSome_iff_exists]
  constructor
  · rintro ⟨ordinal, _, ⟨member, found⟩, rfl⟩
    exact ⟨member, ordinal, found⟩
  · rintro ⟨member, ordinal, found⟩
    exact ⟨ordinal, field, ⟨member, found⟩, rfl⟩

private theorem findTypeKey_some_eq_ok_iff (path table : String) (first : Field)
    (fields : List Field) (found : Option Field) :
    findTypeKey path table (some first) fields = .ok found ↔
      found = some first ∧ fields.filter (·.decl.typeKey) = [] := by
  induction fields with
  | nil => simp [findTypeKey, eq_comm]
  | cons field rest ih =>
    by_cases typed : field.decl.typeKey = true
    · simp [findTypeKey, typed]
    · simp [findTypeKey, typed, ih]

theorem findTypeKey_eq_ok_iff (path table : String) (fields : List Field) (found : Option Field) :
    findTypeKey path table none fields = .ok found ↔
      fields.filter (·.decl.typeKey) = found.toList ∧ ∀ key ∈ found, key.kind = .text := by
  induction fields with
  | nil => cases found <;> simp [findTypeKey]
  | cons field rest ih =>
    by_cases typed : field.decl.typeKey = true
    · by_cases text : field.kind = .text
      · simp only [findTypeKey, typed, text, if_true, findTypeKey_some_eq_ok_iff, List.filter_cons]
        constructor
        · intro holds
          obtain ⟨rfl, alone⟩ := holds
          simp [alone, text]
        · intro holds
          obtain ⟨listed, _⟩ := holds
          cases found with
          | none => simp at listed
          | some key =>
            obtain ⟨rfl, alone⟩ : field = key ∧ rest.filter (·.decl.typeKey) = [] := by
              simpa using listed
            exact ⟨rfl, alone⟩
      · simp only [findTypeKey, typed, text, if_true, if_false, List.filter_cons]
        constructor
        · intro failed
          cases failed
        · intro holds
          obtain ⟨listed, holdsText⟩ := holds
          cases found with
          | none => simp at listed
          | some key =>
            obtain ⟨rfl, _⟩ : field = key ∧ rest.filter (·.decl.typeKey) = [] := by
              simpa using listed
            exact absurd (holdsText field rfl) text
    · simp [findTypeKey, typed, ih]

/-- The table of a name over the fields of a class: the parts are played by the fields that ask for
them, in their order, and no two fields compete for one. -/
structure BuiltFrom (table : Table) (name : String) (all : List Field) : Prop where
  name_eq : table.name = name
  fields_eq : table.fields = all.filter (·.appliesTo name)
  partitionOrdinals : DistinctOrdinals .partitionKey table.fields
  partitionKeys_eq : table.partitionKeys = inOrder .partitionKey table.fields
  partitionKeys_ne : table.partitionKeys ≠ []
  clusteringOrdinals : DistinctOrdinals .clusteringKey table.fields
  clusteringKeys_eq : table.clusteringKeys = inOrder .clusteringKey table.fields
  typeKey_eq : table.fields.filter (·.decl.typeKey) = table.typeKey.toList
  typeKey_text : ∀ key ∈ table.typeKey, key.kind = .text
  indexes_eq : table.indexes = table.fields.filter (·.decl.index)

/-- Whose class is asking has no bearing on whether a table can be built. -/
theorem build_eq_ok_iff (path name : String) (all : List Field) (table : Table) :
    build path name all = .ok table ↔ table.BuiltFrom name all := by
  simp only [build, bind_eq_ok_iff, orderedKeys_eq_ok_iff, findTypeKey_eq_ok_iff,
    require_eq_ok_iff]
  constructor
  · intro holds
    obtain ⟨_, ⟨partitions, rfl⟩, _, nonempty, _, ⟨clusterings, rfl⟩, key, ⟨single, text⟩,
      same⟩ := holds
    cases same
    exact ⟨rfl, rfl, partitions, rfl, by simpa using nonempty, clusterings, rfl, single, text, rfl⟩
  · intro built
    obtain ⟨_, fields, partitionKeys, clusteringKeys, key, indexes⟩ := table
    obtain ⟨rfl, listed, partitions, partitioned, nonempty, clusterings, clustered, single, text,
      indexed⟩ := built
    dsimp only at listed partitions partitioned nonempty clusterings clustered single text indexed
    subst listed partitioned clustered indexed
    exact ⟨_, ⟨partitions, rfl⟩, (), by simpa using nonempty, _, ⟨clusterings, rfl⟩, key,
      ⟨single, text⟩, rfl⟩

theorem mem_fields_iff {table : Table} {name : String} {all : List Field} {field : Field}
    (built : table.BuiltFrom name all) :
    field ∈ table.fields ↔ field ∈ all ∧ field.appliesTo name = true := by
  rw [built.fields_eq, List.mem_filter]

section

variable {names : List String} {tables : List Table} {all : List Field}
  (built : List.Forall₂ (fun name table => BuiltFrom table name all) names tables)

include built

theorem map_name_of_builtFrom : tables.map (·.name) = names := by
  induction built with
  | nil => rfl
  | cons first rest ih => rw [List.map_cons, first.name_eq, ih]

theorem builtFrom_of_mem {table : Table} (member : table ∈ tables) :
    table.BuiltFrom table.name all := by
  induction built with
  | nil => simp at member
  | cons first rest ih =>
    rcases List.mem_cons.mp member with rfl | later
    · exact first.name_eq.symm ▸ first
    · exact ih later

end

/-- The fields that play a part in the table, in the order of the part. -/
def players (table : Table) : KeyRole → List Field
  | .partitionKey => table.partitionKeys
  | .clusteringKey => table.clusteringKeys
  | .typeKey => table.typeKey.toList
  | .index => table.indexes

theorem keyFields_eq_flatMap (table : Table) :
    table.keyFields = KeyRole.all.flatMap fun role => (table.players role).map (role, ·) := by
  simp [keyFields, KeyRole.all, players]

/-- A part of a table is played by those of its columns that ask for it. -/
theorem mem_players_iff {table : Table} {name : String} {all : List Field} {field : Field}
    (built : table.BuiltFrom name all) (role : KeyRole) :
    field ∈ table.players role ↔ field ∈ table.fields ∧ field.decl.Plays role := by
  cases role with
  | partitionKey =>
    rw [players, built.partitionKeys_eq, mem_inOrder_iff built.partitionOrdinals]
    rfl
  | clusteringKey =>
    rw [players, built.clusteringKeys_eq, mem_inOrder_iff built.clusteringOrdinals]
    simp [Field.ordinal?, FieldDecl.Plays]
  | typeKey =>
    rw [players, ← built.typeKey_eq, List.mem_filter]
    rfl
  | index =>
    rw [players, built.indexes_eq, List.mem_filter]
    rfl

/-- Every part of a table is played by one of its columns, and every column that asks for a part
plays it. -/
theorem exists_mem_keyFields_iff {table : Table} {name : String} {all : List Field} {field : Field}
    (built : table.BuiltFrom name all) :
    (∃ role, (role, field) ∈ table.keyFields) ↔ field ∈ table.fields ∧ field.decl.PlaysPart := by
  have listed (role : KeyRole) : (role, field) ∈ table.keyFields ↔ field ∈ table.players role := by
    simp [keyFields_eq_flatMap, KeyRole.mem_all]
  simp only [listed, mem_players_iff built, FieldDecl.playsPart_iff, exists_and_left]

/-- Two tables of one name with the same fields in every part. -/
structure SameKeys (table other : Table) : Prop where
  name_eq : table.name = other.name
  partitionKeys_eq : table.partitionKeys = other.partitionKeys
  clusteringKeys_eq : table.clusteringKeys = other.clusteringKeys
  typeKey_eq : table.typeKey = other.typeKey
  indexes_eq : table.indexes = other.indexes

section

variable {name : String} {all extra : List Field}
  (plain : ∀ field ∈ extra, field.appliesTo name = true → ¬field.decl.PlaysPart)

include plain

private theorem filter_extra_eq_nil {part : Field → Bool}
    (asks : ∀ field, part field = true → field.decl.PlaysPart) :
    (extra.filter (·.appliesTo name)).filter part = [] := by
  apply List.filter_eq_nil_iff.mpr
  intro field member played
  obtain ⟨listed, applies⟩ := List.mem_filter.mp member
  exact plain field listed applies (asks field played)

private theorem withOrdinals_append_plain {role : KeyRole} :
    withOrdinals role ((all ++ extra).filter (·.appliesTo name)) =
      withOrdinals role (all.filter (·.appliesTo name)) := by
  have none : withOrdinals role (extra.filter (·.appliesTo name)) = [] := by
    apply List.filterMap_eq_nil_iff.mpr
    intro field member
    obtain ⟨listed, applies⟩ := List.mem_filter.mp member
    have idle := plain field listed applies
    simp only [FieldDecl.PlaysPart, not_or, Option.not_isSome_iff_eq_none] at idle
    cases role <;> simp [Field.ordinal?, idle]
  rw [List.filter_append, withOrdinals, List.filterMap_append]
  exact (congrArg (_ ++ ·) none).trans (List.append_nil _)

private theorem filter_append_plain {part : Field → Bool}
    (asks : ∀ field, part field = true → field.decl.PlaysPart) :
    ((all ++ extra).filter (·.appliesTo name)).filter part =
      (all.filter (·.appliesTo name)).filter part := by
  rw [List.filter_append, List.filter_append, filter_extra_eq_nil plain asks, List.append_nil]

/-- Further fields that play no part leave the keys of a table as they are. -/
theorem BuiltFrom.sameKeys {table wider : Table} (built : table.BuiltFrom name all)
    (widened : wider.BuiltFrom name (all ++ extra)) : wider.SameKeys table where
  name_eq := widened.name_eq.trans built.name_eq.symm
  partitionKeys_eq := by
    rw [widened.partitionKeys_eq, built.partitionKeys_eq, widened.fields_eq, built.fields_eq,
      inOrder, inOrder, withOrdinals_append_plain plain]
  clusteringKeys_eq := by
    rw [widened.clusteringKeys_eq, built.clusteringKeys_eq, widened.fields_eq, built.fields_eq,
      inOrder, inOrder, withOrdinals_append_plain plain]
  typeKey_eq := by
    have listed : wider.typeKey.toList = table.typeKey.toList := by
      rw [← widened.typeKey_eq, ← built.typeKey_eq, widened.fields_eq, built.fields_eq]
      exact filter_append_plain plain fun _ typed => .inr (.inr (.inl typed))
    ext key
    rw [← Option.mem_toList, listed, Option.mem_toList]
  indexes_eq := by
    rw [widened.indexes_eq, built.indexes_eq, widened.fields_eq, built.fields_eq]
    exact filter_append_plain plain fun _ indexed => .inr (.inr (.inr indexed))

omit plain in
theorem BuiltFrom.unique {table other : Table} (built : table.BuiltFrom name all)
    (otherBuilt : other.BuiltFrom name all) : table = other := by
  have again : table.BuiltFrom name (all ++ []) := (List.append_nil all).symm ▸ built
  obtain ⟨names, partitions, clusterings, typeKeys, indexes⟩ :=
    otherBuilt.sameKeys (by simp) again
  have fields : table.fields = other.fields := built.fields_eq.trans otherBuilt.fields_eq.symm
  cases table
  cases other
  simp only at names partitions clusterings typeKeys indexes fields
  rw [names, partitions, clusterings, typeKeys, indexes, fields]

theorem BuiltFrom.widen {table : Table} (built : table.BuiltFrom name all) :
    ∃ wider : Table, wider.BuiltFrom name (all ++ extra) := by
  refine ⟨{ table with fields := (all ++ extra).filter (·.appliesTo name) }, ?_⟩
  obtain ⟨name_eq, fields, partitions, partitionKeys, nonempty, clusterings, clusteringKeys, single,
    text, indexes⟩ := built
  rw [fields] at partitions partitionKeys clusterings clusteringKeys single indexes
  refine ⟨name_eq, rfl, ?_, ?_, nonempty, ?_, ?_, ?_, text, ?_⟩
  · rwa [DistinctOrdinals, withOrdinals_append_plain plain]
  · rwa [inOrder, withOrdinals_append_plain plain]
  · rwa [DistinctOrdinals, withOrdinals_append_plain plain]
  · rwa [inOrder, withOrdinals_append_plain plain]
  · rwa [filter_append_plain plain fun _ typed => .inr (.inr (.inl typed))]
  · rwa [filter_append_plain plain fun _ indexed => .inr (.inr (.inr indexed))]

end

section

variable {names : List String} {tables : List Table} {all extra : List Field}
  (built : List.Forall₂ (fun name table => BuiltFrom table name all) names tables)
  (plain : ∀ table ∈ tables, ∀ field ∈ extra, field.appliesTo table.name = true →
    ¬field.decl.PlaysPart)

include built plain

theorem sameKeys_of_widened {wider : List Table}
    (widened : List.Forall₂ (fun name table => BuiltFrom table name (all ++ extra)) names wider) :
    List.Forall₂ SameKeys wider tables := by
  induction built generalizing wider with
  | nil =>
    cases widened
    exact .nil
  | @cons name table names tables first rest ih =>
    cases widened with
    | cons firstWidened restWidened =>
      have idle : ∀ field ∈ extra, field.appliesTo name = true → ¬field.decl.PlaysPart := by
        intro field member applies
        exact plain table List.mem_cons_self field member (first.name_eq.symm ▸ applies)
      refine .cons (first.sameKeys idle firstWidened) (ih ?_ restWidened)
      intro other member
      exact plain other (List.mem_cons_of_mem _ member)

theorem exists_widened :
    ∃ wider, List.Forall₂ (fun name table => BuiltFrom table name (all ++ extra)) names wider := by
  induction built with
  | nil => exact ⟨[], .nil⟩
  | @cons name table names tables first rest ih =>
    have idle : ∀ field ∈ extra, field.appliesTo name = true → ¬field.decl.PlaysPart := by
      intro field member applies
      exact plain table List.mem_cons_self field member (first.name_eq.symm ▸ applies)
    obtain ⟨wide, firstWidened⟩ := first.widen idle
    obtain ⟨wider, restWidened⟩ :=
      ih fun other member => plain other (List.mem_cons_of_mem _ member)
    exact ⟨wide :: wider, .cons firstWidened restWidened⟩

end

end Table

end TypedRows
