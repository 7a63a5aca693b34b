import TypedRows.Proofs.Outcomes

/-! What decoding takes from a row. Of a declared column name it looks at the table and the value of
the first column of that name, and of nothing else, so rows that agree in these come to the same,
whatever the order of their columns and whatever else they carry. -/
namespace TypedRows

/-- The table and the value of the first column of a name; a column without a value has a null. -/
def Row.first? (row : Row) (name : String) : Option (String × Value) := do
  let index ← row.indexOf? name
  let table ← row.table? index
  return (table, (row.value? index).getD .null)

/-- Two rows have the same first columns of these names. -/
def Row.AgreesOn (row : Row) (names : List String) (other : Row) : Prop :=
  ∀ name ∈ names, row.first? name = other.first? name

namespace Row

variable {row : Row} {name : String}

theorem first?_eq_none (absent : row.indexOf? name = none) : row.first? name = none := by
  rw [first?, absent]
  rfl

theorem exists_first?_of_indexOf? {index : Nat} (found : row.indexOf? name = some index) :
    ∃ table, row.table? index = some table ∧
      row.first? name = some (table, (row.value? index).getD .null) := by
  obtain ⟨inside, _⟩ := List.findIdx?_eq_some_iff_getElem.mp found
  have carried : row.table? index = some row.definitions[index].table := by
    simp [table?, List.getElem?_eq_getElem inside]
  refine ⟨_, carried, ?_⟩
  rw [first?, found]
  change (row.table? index >>= fun table => some (table, (row.value? index).getD .null)) = _
  rw [carried]
  rfl

theorem isSome_indexOf? : (row.indexOf? name).isSome = (row.first? name).isSome := by
  cases found : row.indexOf? name with
  | none =>
    rw [first?_eq_none found]
    rfl
  | some index =>
    obtain ⟨table, _, first⟩ := exists_first?_of_indexOf? found
    rw [first]
    rfl

end Row

/-! ### What is looked at -/

namespace Entity

def columnNames (entity : Entity) : List String := entity.columns.map (·.columnName)

theorem fillColumn_eq (entity : Entity) (row : Row) (object : Object) (field : Field) :
    entity.fillColumn row object field =
      match row.first? field.columnName with
      | none => .ok object
      | some (_, value) => field.decode value >>= entity.assign field object := by
  unfold fillColumn
  cases found : row.indexOf? field.columnName with
  | none => rw [Row.first?_eq_none found]
  | some index =>
    obtain ⟨table, _, first⟩ := Row.exists_first?_of_indexOf? found
    rw [first]
    rfl

end Entity

/-- The type key of a table with what the row has for it, if that comes from this very table. -/
def Table.typeKeyValue? (table : Table) (row : Row) : Option (Field × Value) := do
  let key ← table.typeKey
  let (source, value) ← row.first? key.columnName
  if source = table.name then some (key, value) else none

theorem Table.map_typeKeyAt? (table : Table) (row : Row) :
    (table.typeKeyAt? row).map (fun hit => (hit.1, (row.value? hit.2).getD .null)) =
      table.typeKeyValue? row := by
  unfold typeKeyAt? typeKeyValue?
  cases table.typeKey with
  | none => rfl
  | some key =>
    change Option.map _ (row.indexOf? key.columnName >>= _) = row.first? key.columnName >>= _
    cases found : row.indexOf? key.columnName with
    | none =>
      rw [Row.first?_eq_none found]
      rfl
    | some index =>
      obtain ⟨source, carried, first⟩ := Row.exists_first?_of_indexOf? found
      rw [first]
      change Option.map _ (if row.table? index = some table.name then some (key, index) else none) =
        if source = table.name then some (key, (row.value? index).getD .null) else none
      rw [carried]
      by_cases own : source = table.name <;> simp [own]

theorem discoverDiscriminator_eq (tables : List Table) (row : Row) :
    discoverDiscriminator tables row =
      match tables.findSome? (·.typeKeyValue? row) with
      | none => .ok none
      | some (key, value) => (key.decode value).map (·.asText?) := by
  have read : (tables.findSome? (·.typeKeyAt? row)).map
      (fun hit => (hit.1, (row.value? hit.2).getD .null)) =
        tables.findSome? (·.typeKeyValue? row) := by
    rw [List.map_findSome?]
    exact congrArg (List.findSome? · tables) (funext fun table => table.map_typeKeyAt? row)
  rw [← read, discoverDiscriminator]
  cases tables.findSome? (·.typeKeyAt? row) <;> rfl

namespace Entity

variable {entity : Entity} {boundary : Boundary} (described : entity.Describes boundary)
  {row other : Row} (agrees : row.AgreesOn entity.columnNames other)

include described agrees

theorem discoverDiscriminator_eq_of_agreesOn :
    discoverDiscriminator entity.tables row = discoverDiscriminator entity.tables other := by
  have told : ∀ table ∈ entity.tables, table.typeKeyValue? row = table.typeKeyValue? other := by
    intro table listed
    unfold Table.typeKeyValue?
    cases typeKey : table.typeKey with
    | none => rfl
    | some key =>
      have stored := mem_columns_of_mem_fields described listed
        ((mem_typeKey_iff described listed typeKey).mpr rfl).1
      have same := agrees key.columnName (List.mem_map.mpr ⟨key, stored, rfl⟩)
      simp only [Option.bind_eq_bind, Option.bind_some, same]
  rw [discoverDiscriminator_eq, discoverDiscriminator_eq, ← List.head?_filterMap,
    ← List.head?_filterMap, List.filterMap_congr told]

theorem decode_eq_of_agreesOn (keys : KeyValues) :
    entity.decode row keys = entity.decode other keys := by
  have columns : ∀ field ∈ entity.columns, ∀ object,
      entity.fillColumn row object field = entity.fillColumn other object field := by
    intro field member object
    rw [fillColumn_eq, fillColumn_eq, agrees _ (List.mem_map.mpr ⟨field, member, rfl⟩)]
  have filled : ∀ field ∈ entity.keyspaceKeys, ∀ object,
      entity.fillKey row keys object field = entity.fillKey other keys object field := by
    intro field member object
    unfold fillKey
    cases keys.lookup field.columnName with
    | some value => rfl
    | none =>
      cases stored : field.isColumn with
      | false => rfl
      | true =>
        have listed := (List.mem_filter.mp ((mem_keyspaceKeys_iff described).mp member)).1
        have column : field ∈ entity.columns := by
          rw [described.columns]
          exact List.mem_filter.mpr ⟨listed, stored⟩
        have same := agrees _ (List.mem_map.mpr ⟨field, column, rfl⟩)
        simp only [Row.isSome_indexOf?, same]
  simp only [decode, foldlM_congr_of_mem columns, foldlM_congr_of_mem filled]

end Entity

/-! ### Decoding through types and roots -/

namespace Root

/-- The entities that may have a part in decoding a row through a root or one of its types: those of
the root, of its registered types, and of the type itself, which need not be registered any more. -/
def readers (root : Root) (type : TypeEntity) : List Entity :=
  root.entity :: type.entity :: root.types.map (·.entity)

/-- The column names that a root, its registered types and one more type declare. -/
def declaredNames (root : Root) (type : TypeEntity) : List String :=
  (root.readers type).flatMap (·.columnNames)

theorem mem_readers_of_mem_types {root : Root} {target : TypeEntity}
    (registered : target ∈ root.types) (type : TypeEntity) : target.entity ∈ root.readers type :=
  List.mem_cons_of_mem _ (List.mem_cons_of_mem _ (List.mem_map.mpr ⟨target, registered, rfl⟩))

end Root

/-- Decoding two rows through a root, or through one of its types, comes to the same: the same
object, the same refusal or the same unrelated discriminator, with the same events. -/
structure Store.ReadsAlike (store : Store) (root : Root) (type : TypeEntity) (row other : Row) :
    Prop where
  decode : ∀ keys, root.decode (some row) keys = root.decode (some other) keys
  decodeAs : ∀ discriminator keys,
    root.decodeAs (some row) discriminator keys = root.decodeAs (some other) discriminator keys
  typeDecode : ∀ keys, type.decode (store.rootOf? type) (some row) keys =
    type.decode (store.rootOf? type) (some other) keys
  typeDecodeAs : ∀ discriminator keys,
    type.decodeAs (store.rootOf? type) (some row) discriminator keys =
      type.decodeAs (store.rootOf? type) (some other) discriminator keys

section

variable {row other : Row}

theorem Entity.discriminatorOf_eq_of_agreesOn {entity : Entity} {boundary : Boundary}
    (described : entity.Describes boundary) (agrees : row.AgreesOn entity.columnNames other) :
    entity.discriminatorOf row = entity.discriminatorOf other := by
  rw [discriminatorOf, discriminatorOf, discoverDiscriminator_eq_of_agreesOn described agrees]

variable {root : Root} {type : TypeEntity} (sound : root.Sound)
  (agrees : ∀ entity ∈ root.readers type, row.AgreesOn entity.columnNames other)

include sound agrees

/-- Whichever type it is that decodes the row in the end, it sees the same of both rows. -/
theorem TypeEntity.dispatch_eq_of_agreesOn (described : type.entity.Describes .type)
    (discriminator : String) (keys : KeyValues) :
    type.dispatch (some root) row discriminator keys =
      type.dispatch (some root) other discriminator keys := by
  have decodes {target : TypeEntity} (targetDescribed : target.entity.Describes .type)
      (reader : target.entity ∈ root.readers type) :
      target.entity.decodeObject row keys = target.entity.decodeObject other keys := by
    have same := Entity.decode_eq_of_agreesOn targetDescribed (agrees _ reader) keys
    rw [Entity.decodeObject, Entity.decodeObject, same]
  unfold dispatch
  split
  · exact decodes described (List.mem_cons_of_mem _ List.mem_cons_self)
  · refine Traced.lift_bind_congr fun target looked => ?_
    have found := (required_eq_ok_iff _ _ _).mp ((mapError_eq_ok_iff _ _ _).mp looked)
    obtain ⟨registered, _⟩ := (sound.find?_eq_some_iff _ _).mp found
    rw [decodes (sound.valid target registered).described
      (Root.mem_readers_of_mem_types registered type)]

theorem Root.dispatch_found_eq_of_agreesOn (discriminator : String) (keys : KeyValues) :
    (do let target ← (root.lookup discriminator).mapError Fault.registry
        target.dispatch (some root) row discriminator keys : Traced Fault Resolved) =
      (do let target ← (root.lookup discriminator).mapError Fault.registry
          target.dispatch (some root) other discriminator keys) := by
  refine Traced.lift_bind_congr fun target looked => ?_
  have found := (required_eq_ok_iff _ _ _).mp ((mapError_eq_ok_iff _ _ _).mp looked)
  obtain ⟨registered, _⟩ := (sound.find?_eq_some_iff _ _).mp found
  refine target.dispatch_eq_of_agreesOn sound ?_ (sound.valid target registered).described _ _
  intro entity reader
  refine agrees entity ?_
  rcases List.mem_cons.mp reader with rfl | reader
  · exact List.mem_cons_self
  · rcases List.mem_cons.mp reader with rfl | reader
    · exact Root.mem_readers_of_mem_types registered type
    · exact List.mem_cons_of_mem _ (List.mem_cons_of_mem _ reader)

theorem Root.Sound.readsAlike {store : Store} (here : store.rootOf? type = some root)
    (described : type.entity.Describes .type) : store.ReadsAlike root type row other := by
  have typeTold : type.entity.discriminatorOf row = type.entity.discriminatorOf other :=
    Entity.discriminatorOf_eq_of_agreesOn described
      (agrees _ (List.mem_cons_of_mem _ List.mem_cons_self))
  have rootTold : root.entity.discriminatorOf row = root.entity.discriminatorOf other :=
    Entity.discriminatorOf_eq_of_agreesOn sound.described (agrees _ List.mem_cons_self)
  have dispatched := TypeEntity.dispatch_eq_of_agreesOn sound agrees described
  have found := Root.dispatch_found_eq_of_agreesOn sound agrees
  refine ⟨fun keys => ?_, fun discriminator keys => ?_, fun keys => ?_,
    fun discriminator keys => ?_⟩
  · simp only [Root.decode, rootTold, found]
  · simp only [Root.decodeAs, found]
  · simp only [TypeEntity.decode, typeTold, here, dispatched]
  · simp only [TypeEntity.decodeAs, here, dispatched]

end

/-! ### Rearranged rows -/

namespace Row

/-- Every column with its value, or with a null where the values have come to an end. -/
def columns (row : Row) : List (ColumnDefinition × Value) := go row.definitions row.values
where
  go : List ColumnDefinition → List Value → List (ColumnDefinition × Value)
    | [], _ => []
    | column :: rest, [] => (column, .null) :: go rest []
    | column :: rest, value :: values => (column, value) :: go rest values

theorem map_fst_columns (row : Row) : row.columns.map (·.1) = row.definitions := by
  obtain ⟨definitions, values⟩ := row
  simp only [columns]
  induction definitions generalizing values with
  | nil => rfl
  | cons column rest ih => cases values <;> simp [columns.go, ih]

theorem first?_cons_of_ne {column : ColumnDefinition} {name : String} (apart : column.name ≠ name)
    (rest : List ColumnDefinition) (values : List Value) :
    first? ⟨column :: rest, values⟩ name = first? ⟨rest, values.tail⟩ name := by
  have later : indexOf? ⟨column :: rest, values⟩ name =
      (indexOf? ⟨rest, values.tail⟩ name).map (· + 1) := by
    simp [indexOf?, List.findIdx?_cons, apart]
  unfold first?
  rw [later]
  cases indexOf? ⟨rest, values.tail⟩ name with
  | none => rfl
  | some index => simp [table?, value?]

theorem first?_eq_find?_columns (row : Row) (name : String) :
    row.first? name =
      (row.columns.find? (·.1.name = name)).map fun column => (column.1.table, column.2) := by
  obtain ⟨definitions, values⟩ := row
  induction definitions generalizing values with
  | nil => rfl
  | cons column rest ih =>
    by_cases own : column.name = name
    · cases values <;>
        simp [first?, indexOf?, table?, value?, columns, columns.go, own, List.findIdx?_cons]
    · rw [first?_cons_of_ne own, ih]
      cases values <;> simp [columns, columns.go, own]

/-- Ways of giving a row in another form: with its columns in another order, if each name occurs
once; with other columns of names that do not matter; and with other keyspaces. -/
inductive Rearranges (names : List String) (row other : Row) : Prop where
  | reorders (distinct : (row.definitions.map (·.name)).Nodup)
    (same : row.columns.Perm other.columns)
  | ignores (same : row.columns.filter (·.1.name ∈ names) = other.columns.filter (·.1.name ∈ names))
  | moves (same : row.columns.map (fun column => (column.1.table, column.1.name, column.2)) =
      other.columns.map fun column => (column.1.table, column.1.name, column.2))

/-- Among columns of different names a look-up does not depend on their order. -/
theorem find?_eq_of_perm {columns others : List (ColumnDefinition × Value)}
    (distinct : (columns.map (·.1.name)).Nodup) (same : columns.Perm others) (name : String) :
    columns.find? (·.1.name = name) = others.find? (·.1.name = name) := by
  cases found : columns.find? (·.1.name = name) with
  | none =>
    refine (List.find?_eq_none.mpr fun column member => ?_).symm
    exact List.find?_eq_none.mp found column (same.mem_iff.mpr member)
  | some column =>
    have named : column.1.name = name := by simpa using List.find?_some found
    have listed := same.mem_iff.mp (List.mem_of_find?_eq_some found)
    cases otherFound : others.find? (·.1.name = name) with
    | none =>
      have absent := List.find?_eq_none.mp otherFound column listed
      simp [named] at absent
    | some other =>
      have otherNamed : other.1.name = name := by simpa using List.find?_some otherFound
      have otherListed := List.mem_of_find?_eq_some otherFound
      have otherDistinct := (same.map (·.1.name)).nodup_iff.mp distinct
      rw [List.inj_on_of_nodup_map otherDistinct listed otherListed (named.trans otherNamed.symm)]

theorem Rearranges.agreesOn {names : List String} {row other : Row}
    (rearranges : Rearranges names row other) : row.AgreesOn names other := by
  intro name declared
  rw [first?_eq_find?_columns, first?_eq_find?_columns]
  cases rearranges with
  | reorders distinct same =>
    have columns : (row.columns.map (·.1.name)).Nodup := by
      rw [← map_fst_columns, List.map_map] at distinct
      exact distinct
    rw [find?_eq_of_perm columns same]
  | ignores same =>
    have kept (columns : List (ColumnDefinition × Value)) :
        (columns.filter (·.1.name ∈ names)).find? (·.1.name = name) =
          columns.find? (·.1.name = name) := by
      rw [List.find?_filter]
      refine congrArg (List.find? · columns) (funext fun column => ?_)
      by_cases own : column.1.name = name
      · simp [own, declared]
      · simp [own]
    rw [← kept row.columns, same, kept]
  | moves same =>
    have found (columns : List (ColumnDefinition × Value)) :
        (columns.find? (·.1.name = name)).map (fun column => (column.1.table, column.2)) =
          ((columns.map fun column => (column.1.table, column.1.name, column.2)).find?
            (·.2.1 = name)).map fun column => (column.1, column.2.2) := by
      rw [List.find?_map, Option.map_map]
      rfl
    rw [found, found, same]

end Row

namespace Menagerie

/-- The row of a dog with its columns the other way round. -/
def shuffled : Row :=
  .ofCells "zoo" "animals" [⟨"kind", .text "dog", none⟩, ⟨"id", .text "rex", none⟩]

end Menagerie

namespace Session

/-- Whatever is requested, rows that agree in the first columns of all declared names are decoded
alike through every live root and through every type that was ever published on it. So are rows that
have the same columns in another order, among other columns of undeclared names, or in other
keyspaces. -/
theorem readsAlike_of_agreesOn (requests : List Request) {root : Root} {type : TypeEntity}
    (live : root ∈ (({} : Session).after requests).store.roots)
    (published : ⟨root.id, type⟩ ∈ ({} : Session).published requests) :
    let store := (({} : Session).after requests).store
    let names := root.declaredNames type
    (∀ row other, row.AgreesOn names other → store.ReadsAlike root type row other) ∧
      ∀ row other, Row.Rearranges names row other → store.ReadsAlike root type row other := by
  intro store names
  obtain ⟨⟨sound, _⟩, records, _⟩ := recorded_after requests
  have genuine := records.genuine _ published
  have here : store.rootOf? type = some root := by
    rw [Store.rootOf?, show type.rootId = root.id from genuine.belongs]
    exact sound.root?_eq live
  obtain ⟨_, valid⟩ := genuine.valid
  have alike : ∀ row other, row.AgreesOn names other → store.ReadsAlike root type row other := by
    intro row other agrees
    refine (sound.roots root live).readsAlike ?_ here valid.described
    intro entity reader name member
    exact agrees name (List.mem_flatMap.mpr ⟨entity, reader, member⟩)
  exact ⟨alike, fun row other rearranges => alike row other rearranges.agreesOn⟩

theorem readsAlike_of_agreesOn_dogs :
    let store := (({} : Session).after Menagerie.displaced).store
    ∃ root ∈ store.roots, Menagerie.formerDog ∉ root.types ∧
      store.ReadsAlike root Menagerie.formerDog (Menagerie.row "dog") Menagerie.shuffled := by
  intro store
  have live : store.roots.head (by decide) ∈ store.roots := List.head_mem _
  have replaced : Menagerie.formerDog.path ∉
      (store.roots.head (by decide)).types.map (·.path) := by decide
  refine ⟨_, live, fun registered => replaced (List.mem_map.mpr ⟨_, registered, rfl⟩), ?_⟩
  refine (readsAlike_of_agreesOn Menagerie.displaced live (List.head_mem (by decide))).2 _ _ ?_
  exact .reorders (by decide) (List.Perm.swap _ _ _)

end Session

end TypedRows
