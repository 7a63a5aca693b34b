import TypedRows.Proofs.Outcomes
import TypedRows.Proofs.RoundTrip

/-! The way of a row into an object and back. A root wraps what it has decoded with the type that
has decoded it, and what that type writes is what it has read: each column of the row as it was, and
the keyspace keys that were supplied. -/
namespace TypedRows

namespace Root

variable {root : Root} (sound : root.Sound)

include sound

theorem Sound.typeForClass?_path {type : TypeEntity}
    (coherent : Class.Coherent (root.types.map (·.cls))) (registered : type ∈ root.types) :
    root.typeForClass? type.path = some type := by
  cases found : root.typeForClass? type.path with
  | none =>
    have missing := List.find?_eq_none.mp found type registered
    simp at missing
  | some other =>
    have listed : other ∈ root.types := List.mem_of_find?_eq_some found
    have same : other.path = type.path := by simpa using List.find?_some found
    rw [sound.eq_of_path coherent listed registered same]

theorem Sound.exists_wrap {type : TypeEntity} {object : Object}
    (coherent : Class.Coherent (root.types.map (·.cls))) (registered : type ∈ root.types)
    (own : object.classPath = type.path) :
    ∃ context, root.wrap object = .ok context ∧ context.type = type ∧ context.object = object := by
  have found := sound.typeForClass?_path coherent registered
  rw [← own] at found
  exact ⟨⟨type, object, own⟩, (wrap_eq_ok_iff _ _ _).mpr ⟨found, rfl⟩, rfl, rfl⟩

end Root

/-- What lets a type write the rows of a table as it has read them: their columns are stored as they
are held, and each attribute belongs to one field and holds values exactly. -/
structure TypeEntity.Rewrites (type : TypeEntity) (table : Table) : Prop where
  listed : table ∈ type.entity.tables
  plain : ∀ field ∈ table.fields, field.decl.persister = none
  apart : ∀ field ∈ type.entity.columns ++ type.entity.keyspaceKeys,
    ∀ other ∈ type.entity.columns ++ type.entity.keyspaceKeys,
      field.attributeName = other.attributeName → field = other
  exact : ∀ fresh, type.cls.own.factory = some fresh →
    ∀ field ∈ type.entity.columns ++ type.entity.keyspaceKeys,
      fresh.shape.Exact field.attributeName

namespace TypeEntity

section

variable {type : TypeEntity} {table : Table} {boundary : Boundary} {keyspace : String}
  {columns : List (String × Value)} {keys : KeyValues} {object : Object}
  (rewrites : type.Rewrites table) (described : type.entity.Describes boundary)
  (named : columns.map (·.1) = table.fields.map (·.columnName))

include rewrites described named

theorem Rewrites.distinct : (columns.map (·.1)).Nodup := by
  rw [named]
  exact Entity.nodup_columnNames described rewrites.listed

/-- The row has one value for each column of the table. -/
theorem Rewrites.eq_of_mem {name : String} {value other : Value} (listed : (name, value) ∈ columns)
    (otherListed : (name, other) ∈ columns) : value = other :=
  congrArg Prod.snd
    (List.inj_on_of_nodup_map (rewrites.distinct described named) listed otherListed rfl)

/-- Nothing is changed where a column of the table is read from the row. -/
theorem Rewrites.decodeAt_eq_ok_iff {field : Field} {value held : Value} {index : Nat}
    (member : field ∈ table.fields) (listed : (field.columnName, value) ∈ columns)
    (found : (Row.ofColumns keyspace table.name columns).indexOf? field.columnName = some index) :
    field.decodeAt (Row.ofColumns keyspace table.name columns) index = .ok held ↔
      held = value ∧ ∃ done, field.check held = .ok done := by
  obtain ⟨position, placed, carried, _⟩ := Row.exists_indexOf?_ofColumns keyspace table.name
    (rewrites.distinct described named) listed
  obtain rfl : index = position := Option.some.inj (found.symm.trans placed)
  rw [Field.decodeAt, carried]
  exact Field.decode_eq_ok_iff_of_plain (rewrites.plain field member) value held

theorem Rewrites.get?_of_decode
    (agree : ∀ key ∈ type.entity.keyspaceKeys, key ∈ table.fields →
      ∀ value, keys.lookup key.columnName = some value → (key.columnName, value) ∈ columns)
    (decoded : type.entity.decode (Row.ofColumns keyspace table.name columns) keys = .ok object)
    {field : Field} {value : Value} (member : field ∈ table.fields)
    (listed : (field.columnName, value) ∈ columns) :
    object.get? field.attributeName = some value ∧ ∃ done, field.check value = .ok done := by
  obtain ⟨⟨fresh, made, shaped⟩, reads, column, _⟩ := Entity.decoded_of_decode decoded
  have declared : field ∈ type.entity.columns :=
    Entity.mem_columns_of_mem_fields described rewrites.listed member
  have either : field ∈ type.entity.columns ++ type.entity.keyspaceKeys :=
    List.mem_append_left _ declared
  obtain ⟨index, found, _⟩ := Row.exists_indexOf?_ofColumns keyspace table.name
    (rewrites.distinct described named) listed
  obtain ⟨held, decodes, read⟩ := reads field declared index found
  obtain ⟨rfl, checked⟩ :=
    (rewrites.decodeAt_eq_ok_iff described named member listed found).mp decodes
  have exact : object.shape.Exact field.attributeName :=
    shaped ▸ rewrites.exact fresh made field either
  refine ⟨column field declared held read exact ?_ ?_, checked⟩
  · intro other otherDeclared same written otherRead
    obtain rfl := rewrites.apart other (List.mem_append_left _ otherDeclared) field either same
    exact Option.some.inj (otherRead.symm.trans read)
  · intro key isKey same written supplied
    obtain rfl := rewrites.apart key (List.mem_append_right _ isKey) field either same
    have told := agree key isKey member written supplied
    exact rewrites.eq_of_mem described named told listed

theorem Rewrites.eq_text_of_discovered {field : Field} {value : Value} {discriminator : String}
    (discovered : discoverDiscriminator type.entity.tables
      (Row.ofColumns keyspace table.name columns) = .ok (some discriminator))
    (member : field ∈ table.fields) (typed : field.decl.typeKey = true)
    (listed : (field.columnName, value) ∈ columns) : value = .text discriminator := by
  unfold discoverDiscriminator at discovered
  cases search : type.entity.tables.findSome?
      (·.typeKeyAt? (Row.ofColumns keyspace table.name columns)) with
  | none =>
    rw [search] at discovered
    cases discovered
  | some hit =>
    obtain ⟨key, index⟩ := hit
    rw [search] at discovered
    obtain ⟨held, decodes, isText⟩ := (map_eq_ok_iff _ _ _).mp discovered
    obtain ⟨other, otherListed, hits⟩ := List.exists_of_findSome?_eq_some search
    -- The row names one table, so the discriminator was found through that table and no other.
    have same : other = table := by
      have first := Entity.table?_eq_of_mem described otherListed
      rw [Table.name_eq_of_typeKeyAt? hits,
        Entity.table?_eq_of_mem described rewrites.listed] at first
      exact (Option.some.inj first).symm
    subst same
    obtain ⟨keyed, found, _⟩ := Table.typeKeyAt?_eq_some_iff.mp hits
    obtain rfl := (Entity.mem_typeKey_iff described otherListed keyed).mp ⟨member, typed⟩
    obtain ⟨rfl, _⟩ := (rewrites.decodeAt_eq_ok_iff described named member listed found).mp decodes
    exact (Value.asText?_eq_some_iff _ _).mp isText

end

end TypeEntity

/-- Columns that carry the names of some fields are what a context writes if it writes each of those
fields as the columns have it. -/
theorem Context.mapM_columnValue_eq_ok {context : Context} {fields : List Field}
    {columns : List (String × Value)} (named : columns.map (·.1) = fields.map (·.columnName))
    (stored : ∀ field ∈ fields, ∀ value, (field.columnName, value) ∈ columns →
      context.columnValue field = .ok (field.columnName, value)) :
    fields.mapM context.columnValue = .ok columns := by
  induction fields generalizing columns with
  | nil =>
    obtain rfl := List.map_eq_nil_iff.mp named
    rfl
  | cons field rest ih =>
    obtain ⟨⟨name, value⟩, others, rfl, same, remaining⟩ := List.map_eq_cons_iff.mp named
    obtain rfl : name = field.columnName := same
    have first := stored field List.mem_cons_self value List.mem_cons_self
    have later := ih remaining fun other member written listed =>
      stored other (List.mem_cons_of_mem _ member) written (List.mem_cons_of_mem _ listed)
    rw [List.mapM_cons, first, later]
    rfl

/-! ### A hierarchy whose keyspace key is a column -/

namespace Greenhouse

def plant : Class := .top
  { path := "garden::Plant"
    isRoot := true
    keyspace := some ⟨"garden", ["region"]⟩
    tables := ["plants"]
    fields := [(FieldDecl.ofColumn "id" .text).asPartitionKey 0,
      (FieldDecl.ofColumn "kind" .text).asTypeKey,
      (FieldDecl.ofColumn "region" .text).asKeyspaceKey "region"] }

def shape : Shape :=
  ⟨"Fern", "garden::Fern", "garden::Fern",
    [⟨"id", .string⟩, ⟨"kind", .option .string⟩, ⟨"region", .string⟩]⟩

def fern : Class := .below
  { path := "garden::Fern"
    factory := some ⟨shape, .cons "" (.cons none (.cons "" .nil))⟩
    discriminator := some "fern" } plant

/-- A session with one manager, which keeps the root and its one type. -/
def opened : Session :=
  ((({} : Session).run ⟨.addManager none, some "manager"⟩).2.2.run
    ⟨.rootEntity "manager" plant [fern], some "plants"⟩).2.2

theorem reachable_opened : opened.Reachable := .step (.step .start _) _

def root : Root := opened.store.roots.head (by decide)

theorem root_live : root ∈ opened.store.roots := List.head_mem _

theorem coherent : Class.Coherent (root.cls :: root.types.map (·.cls)) := by
  have classes : root.cls :: root.types.map (·.cls) = [plant, fern] := rfl
  rw [classes]
  refine Class.coherent_of_nodup (by decide : ([plant, fern].map (·.path)).Nodup) ?_
  have all : [plant, fern].flatMap Class.ancestors = [plant, fern, plant] := rfl
  intro cls member
  rw [all] at member
  grind

def fernType : TypeEntity := root.types.head (by decide)

theorem fernType_registered : fernType ∈ root.types := List.head_mem _

/-- The table of ferns. -/
def plants : Table := fernType.entity.tables.head (by decide)

theorem fernType_rewrites : fernType.Rewrites plants where
  listed := List.head_mem _
  plain := by
    have plain : plants.fields.map (fun field => field.decl.persister.isNone) =
        [true, true, true] := rfl
    intro field member
    have here : field.decl.persister.isNone ∈ [true, true, true] :=
      plain ▸ List.mem_map.mpr ⟨field, member, rfl⟩
    simpa using here
  apart := by
    have columns : fernType.entity.columns ++ fernType.entity.keyspaceKeys =
        plants.fields ++ [plants.fields[2]] := rfl
    have fields {field : Field}
        (either : field ∈ fernType.entity.columns ++ fernType.entity.keyspaceKeys) :
        field ∈ plants.fields := by
      rw [columns] at either
      rcases List.mem_append.mp either with listed | single
      · exact listed
      · exact List.mem_singleton.mp single ▸ List.getElem_mem _
    intro field member other otherMember
    exact List.inj_on_of_nodup_map (by decide : (plants.fields.map (·.attributeName)).Nodup)
      (fields member) (fields otherMember)
  exact := by
    intro fresh made
    cases made
    exact fun field _ => Shape.exact_of_singleFree (by decide) field.attributeName

/-- A fern of the north. -/
def boston : List (String × Value) :=
  [("id", .text "boston"), ("kind", .text "fern"), ("region", .text "north")]

end Greenhouse

namespace Session

/-- A row of a table that a root decodes is written again as it was. The root wraps the object with
the type that has decoded the row, whose columns for the table are those of the row. -/
theorem columnValues_of_decode {session : Session} {root : Root} {type : TypeEntity} {table : Table}
    {keyspace : String} {columns : List (String × Value)} {keys : KeyValues} {object : Object}
    (reached : session.Reachable) (live : root ∈ session.store.roots)
    (coherent : Class.Coherent (root.cls :: root.types.map (·.cls)))
    (registered : type ∈ root.types) (rewrites : type.Rewrites table)
    (named : columns.map (·.1) = table.fields.map (·.columnName))
    (agree : ∀ key ∈ type.entity.keyspaceKeys, key ∈ table.fields →
      ∀ value, keys.lookup key.columnName = some value → (key.columnName, value) ∈ columns)
    (decoded : (root.decode (some (Row.ofColumns keyspace table.name columns)) keys).result =
      .ok (.decoded object))
    (own : object.classPath = type.path) :
    ∃ context, root.wrap object = .ok context ∧ context.type = type ∧ context.object = object ∧
      context.columnValues table.name = .ok columns := by
  have sound := reached.sound.store.roots root live
  have described := (sound.valid type registered).described
  have classes : Class.Coherent (root.types.map (·.cls)) :=
    coherent.mono fun cls member => List.mem_cons_of_mem _ member
  obtain ⟨_, target, ⟨⟩, listed, discovered, yields⟩ := (sound.decodes keys).yields _ _ decoded
  obtain rfl : target = type :=
    sound.eq_of_path classes listed registered (yields.classPath_eq.symm.trans own)
  have steering := sound.sameSteering registered (Root.coherent_pair coherent registered)
  rw [← discoverDiscriminator_eq_of_sameKeys steering.tables] at discovered
  obtain ⟨context, wrapped, rfl, rfl⟩ := sound.exists_wrap classes registered own
  refine ⟨context, wrapped, rfl, rfl, (Context.columnValues_eq_ok_iff _ _ _).mpr ⟨table, ?_, ?_⟩⟩
  · exact Entity.table?_eq_of_mem described rewrites.listed
  · apply Context.mapM_columnValue_eq_ok named
    intro field member value present
    unfold Context.columnValue
    -- The type key is written from the type, any other column from what the object holds.
    by_cases typed : field.decl.typeKey = true
    · rw [if_pos typed, rewrites.eq_text_of_discovered described named discovered member typed
        present]
    · obtain ⟨read, checked⟩ :=
        rewrites.get?_of_decode described named agree yields.decoded member present
      rw [if_neg typed, Field.encode_eq_ok_of_plain (rewrites.plain field member) read checked]
      rfl

theorem columnValues_of_decode_boston :
    ∃ object context,
      (Greenhouse.root.decode
        (some (Row.ofColumns "garden_north" Greenhouse.plants.name Greenhouse.boston))
          [("region", .text "north")]).result = .ok (.decoded object) ∧
      Greenhouse.root.wrap object = .ok context ∧
      context.columnValues Greenhouse.plants.name = .ok Greenhouse.boston := by
  obtain ⟨object, decoded, own⟩ : ∃ object,
      (Greenhouse.root.decode
        (some (Row.ofColumns "garden_north" Greenhouse.plants.name Greenhouse.boston))
          [("region", .text "north")]).result = .ok (.decoded object) ∧
      object.classPath = Greenhouse.fernType.path := ⟨_, rfl, rfl⟩
  have agree : ∀ key ∈ Greenhouse.fernType.entity.keyspaceKeys, key ∈ Greenhouse.plants.fields →
      ∀ value, [("region", Value.text "north")].lookup key.columnName = some value →
        (key.columnName, value) ∈ Greenhouse.boston := by
    have only : ∀ key ∈ Greenhouse.fernType.entity.keyspaceKeys, key.columnName = "region" := by
      decide
    intro key isKey _ value told
    rw [only key isKey] at told ⊢
    cases told
    simp [Greenhouse.boston]
  obtain ⟨context, wrapped, _, _, stored⟩ :=
    columnValues_of_decode Greenhouse.reachable_opened Greenhouse.root_live Greenhouse.coherent
      Greenhouse.fernType_registered Greenhouse.fernType_rewrites rfl agree decoded own
  exact ⟨object, context, decoded, wrapped, stored⟩

end Session

end TypedRows
