import TypedRows.Proofs.Decoding

/-! The way of an object into a row and back. The row that an object is written as carries the
discriminator of its type and every column of its table, so every type that may decode it arrives at
the same object. -/
namespace TypedRows

namespace Entity

theorem table?_eq_of_mem {entity : Entity} {boundary : Boundary} {table : Table}
    (described : entity.Describes boundary) (listed : table ∈ entity.tables) :
    entity.table? table.name = some table := by
  cases found : entity.table? table.name with
  | none =>
    have missing := List.find?_eq_none.mp found table listed
    simp at missing
  | some other =>
    have named : other.name = table.name := by simpa using List.find?_some found
    have otherBuilt := builtFrom_of_mem_tables described (List.mem_of_find?_eq_some found)
    rw [named] at otherBuilt
    rw [otherBuilt.unique (builtFrom_of_mem_tables described listed)]

theorem ascending_keyspaceKeys {entity : Entity} {boundary : Boundary}
    (described : entity.Describes boundary) :
    Keyed.Ascending Field.columnName entity.keyspaceKeys := by
  rw [described.keyspaceKeys]
  exact Keyed.ascending_placeAll _ List.Pairwise.nil

end Entity

namespace Context

/-- Of entries that are made from fields one by one, each is found under the name of its field, if
no other field has that name. -/
theorem exists_lookup_of_forall₂ {made : Field → Value → Prop} {fields : List Field}
    {entries : List (String × Value)} {field : Field}
    (related : List.Forall₂ (fun field entry => ∃ value, made field value ∧
      (field.columnName, value) = entry) fields entries)
    (member : field ∈ fields)
    (single : ∀ other ∈ fields, other.columnName = field.columnName → other = field) :
    ∃ value, made field value ∧ entries.lookup field.columnName = some value := by
  induction related with
  | nil => cases member
  | @cons first entry rest entries here _ ih =>
    obtain ⟨value, held, rfl⟩ := here
    by_cases same : field.columnName = first.columnName
    · obtain rfl := single first List.mem_cons_self same.symm
      exact ⟨value, held, List.lookup_cons_self⟩
    · have later : field ∈ rest :=
        (List.mem_cons.mp member).resolve_left fun equal => same (congrArg _ equal)
      rw [List.lookup_cons, beq_false_of_ne same]
      exact ih later fun other present => single other (List.mem_cons_of_mem _ present)

theorem exists_lookup_keyValues {context : Context} {keys : KeyValues} {field : Field}
    (ascending : Keyed.Ascending Field.columnName context.entity.keyspaceKeys)
    (held : context.keyValues = .ok keys) (member : field ∈ context.entity.keyspaceKeys) :
    ∃ value, keys.lookup field.columnName = some value ∧
      context.object.get? field.attributeName = some value := by
  have related := (mapM_eq_ok_iff _ _ _).mp held
  simp only [map_eq_ok_iff, Field.valueOf, required_eq_ok_iff] at related
  have distinct : (context.entity.keyspaceKeys.map (·.columnName)).Nodup :=
    List.pairwise_map.mpr (ascending.imp fun less => ne_of_lt less)
  obtain ⟨value, read, found⟩ := exists_lookup_of_forall₂ related member
    fun other otherMember same => List.inj_on_of_nodup_map distinct otherMember member same
  exact ⟨value, found, read⟩

theorem columnValues_eq_ok_iff (context : Context) (name : String)
    (columns : List (String × Value)) :
    context.columnValues name = .ok columns ↔
      ∃ table, context.entity.table? name = some table ∧
        table.fields.mapM context.columnValue = .ok columns := by
  simp only [columnValues, valuesOf, Context.table, bind_eq_ok_iff, mapError_eq_ok_iff,
    required_eq_ok_iff]

theorem toRow_eq_ok_iff_columnValues (context : Context) (name : String) (row : Row) :
    context.toRow name = .ok row ↔ ∃ keyspace columns, context.keyspaceName = .ok keyspace ∧
      context.columnValues name = .ok columns ∧ row = Row.ofColumns keyspace name columns := by
  simp only [toRow, bind_eq_ok_iff, mapError_eq_ok_iff]
  constructor
  · rintro ⟨keyspace, known, columns, stored, same⟩
    cases same
    exact ⟨keyspace, columns, known, stored, rfl⟩
  · rintro ⟨keyspace, columns, known, stored, rfl⟩
    exact ⟨keyspace, known, columns, stored, rfl⟩

theorem toRow_eq_ok_iff (context : Context) (name : String) (row : Row) :
    context.toRow name = .ok row ↔
      ∃ keys keyspace table columns, context.keyValues = .ok keys ∧
        context.entity.resolveKeyspace keys = .ok keyspace ∧
        context.entity.table? name = some table ∧
        table.fields.mapM context.columnValue = .ok columns ∧
        row = Row.ofColumns keyspace name columns := by
  simp only [toRow_eq_ok_iff_columnValues, keyspaceName, bind_eq_ok_iff, columnValues_eq_ok_iff]
  constructor
  · rintro ⟨keyspace, columns, ⟨keys, held, resolved⟩, ⟨table, named, stored⟩, rfl⟩
    exact ⟨keys, keyspace, table, columns, held, resolved, named, stored, rfl⟩
  · rintro ⟨keys, keyspace, table, columns, held, resolved, named, stored, rfl⟩
    exact ⟨keyspace, columns, ⟨keys, held, resolved⟩, ⟨table, named, stored⟩, rfl⟩

theorem fst_of_columnValue {context : Context} {field : Field} {column : String × Value}
    (stored : context.columnValue field = .ok column) : column.1 = field.columnName := by
  unfold columnValue at stored
  by_cases typed : field.decl.typeKey = true
  · rw [if_pos typed] at stored
    cases stored
    rfl
  · rw [if_neg typed] at stored
    obtain ⟨value, _, rfl⟩ := (map_eq_ok_iff _ _ _).mp stored
    rfl

theorem map_fst_of_columnValues {context : Context} {fields : List Field}
    {columns : List (String × Value)} (stored : fields.mapM context.columnValue = .ok columns) :
    columns.map (·.1) = fields.map (·.columnName) := by
  have related := (mapM_eq_ok_iff _ _ _).mp stored
  clear stored
  induction related with
  | nil => rfl
  | cons first _ ih => rw [List.map_cons, List.map_cons, fst_of_columnValue first, ih]

/-- What is discovered in a row is what the type key of its table reads in place of the
discriminator, through whichever table it is looked for. -/
theorem discoverDiscriminator_ofColumns {context : Context} {table : Table} {key : Field}
    {boundary : Boundary} {columns : List (String × Value)}
    (described : context.entity.Describes boundary) (listed : table ∈ context.entity.tables)
    (typeKey : table.typeKey = some key)
    (stored : table.fields.mapM context.columnValue = .ok columns) (keyspace : String) :
    discoverDiscriminator context.entity.tables (Row.ofColumns keyspace table.name columns) =
      (key.decode (.text context.type.discriminator)).map (·.asText?) := by
  obtain ⟨keyListed, keyTyped⟩ := (Entity.mem_typeKey_iff described listed typeKey).mpr rfl
  obtain ⟨column, carries, written⟩ := exists_mem_of_mapM_eq_ok stored keyListed
  rw [columnValue, if_pos keyTyped] at written
  cases written
  have distinct : (columns.map (·.1)).Nodup := by
    rw [map_fst_of_columnValues stored]
    exact Entity.nodup_columnNames described listed
  obtain ⟨index, found, carried, place⟩ :=
    Row.exists_indexOf?_ofColumns keyspace table.name distinct carries
  have here : table.typeKeyAt? (Row.ofColumns keyspace table.name columns) = some (key, index) :=
    Table.typeKeyAt?_eq_some_iff.mpr ⟨typeKey, found, place⟩
  have first : context.entity.tables.findSome?
      (·.typeKeyAt? (Row.ofColumns keyspace table.name columns)) = some (key, index) := by
    cases search : context.entity.tables.findSome?
        (·.typeKeyAt? (Row.ofColumns keyspace table.name columns)) with
    | none =>
      rw [List.findSome?_eq_none_iff.mp search table listed] at here
      cases here
    | some hit =>
      obtain ⟨other, otherListed, hits⟩ := List.exists_of_findSome?_eq_some search
      have named : other.name = table.name := Table.name_eq_of_typeKeyAt? hits
      have otherBuilt := Entity.builtFrom_of_mem_tables described otherListed
      rw [named] at otherBuilt
      rw [otherBuilt.unique (Entity.builtFrom_of_mem_tables described listed), here] at hits
      exact hits.symm
  rw [discoverDiscriminator, first]
  change (key.decodeAt _ index).map _ = _
  rw [Field.decodeAt, carried]
  rfl

end Context

namespace TypeEntity

/-- What lets an object of a type come back from its row in a table: the type key is stored as it
is, in an attribute of its own that holds text, and the persisters of the other columns read back
what they have written. -/
structure Returns (type : TypeEntity) (object : Object) (table : Table) (key : Field) : Prop where
  /-- The object is one of the type's class. -/
  made : type.cls.own.Makes object
  listed : table ∈ type.entity.tables
  typeKey : table.typeKey = some key
  plain : key.decl.persister = none
  holdsText : typeOf? object.shape.attributes key.attributeName = some .string ∨
    typeOf? object.shape.attributes key.attributeName = some (.option .string)
  ownColumn : ∀ field ∈ table.fields, field.columnName ≠ key.columnName →
    field.attributeName ≠ key.attributeName
  ownKey : ∀ field ∈ type.entity.keyspaceKeys, field.attributeName ≠ key.attributeName
  restores : ∀ field ∈ table.fields, field.columnName ≠ key.columnName →
    ∀ held, object.get? field.attributeName = some held → field.Restores held

/-- What the returned object holds wherever something is written into it. -/
def returned (type : TypeEntity) (object : Object) (key : Field) (name : String) : Option Value :=
  if name = key.attributeName then some (.text type.discriminator) else object.get? name

variable {type : TypeEntity} {object : Object} {table : Table} {key : Field}

theorem returned_eq_get? {name : String} (other : name ≠ key.attributeName) :
    type.returned object key name = object.get? name := if_neg other

section

variable (returns : type.Returns object table key)

include returns

theorem Returns.takes {name : String} {value : Value}
    (want : type.returned object key name = some value) : object.shape.Takes name value := by
  by_cases same : name = key.attributeName
  · rw [returned, if_pos same] at want
    cases want
    exact same ▸ Shape.takes_text type.discriminator returns.holdsText
  · rw [returned_eq_get? same] at want
    exact Object.takes_of_get? want

variable {boundary : Boundary} (described : type.entity.Describes boundary)

include described

theorem Returns.builtFrom : table.BuiltFrom table.name type.cls.fields :=
  Entity.builtFrom_of_mem_tables described returns.listed

theorem Returns.mem_columns {field : Field} (member : field ∈ table.fields) :
    field ∈ type.entity.columns :=
  Entity.mem_columns_of_mem_fields described returns.listed member

theorem Returns.eq_of_columnName {field other : Field} (member : field ∈ type.entity.columns)
    (otherMember : other ∈ table.fields) (same : field.columnName = other.columnName) :
    field = other :=
  Entity.eq_of_columnName described member (returns.mem_columns described otherMember) same

theorem Returns.mem_typeKey_iff {field : Field} :
    field ∈ table.fields ∧ field.decl.typeKey = true ↔ field = key :=
  Entity.mem_typeKey_iff described returns.listed returns.typeKey

theorem Returns.decode_typeKey : key.decode (.text type.discriminator) =
    .ok (.text type.discriminator) := by
  have text : key.kind = .text := (returns.builtFrom described).typeKey_text key returns.typeKey
  refine (Field.decode_eq_ok_iff _ _ _).mpr ⟨?_, (), (Field.check_eq_ok_iff _ _ _).mpr ⟨?_, ?_⟩⟩
  · rw [Field.restore, returns.plain]
  · rw [text]
    rfl
  · intro _
    rfl

end

end TypeEntity

namespace Context

open TypeEntity (Returns)

variable {context : Context} {table : Table} {key : Field} {boundary : Boundary}
  {columns : List (String × Value)} (returns : context.type.Returns context.object table key)
  (described : context.entity.Describes boundary)
  (stored : table.fields.mapM context.columnValue = .ok columns)

include returns described stored

theorem distinct_columns : (columns.map (·.1)).Nodup := by
  rw [map_fst_of_columnValues stored]
  exact Entity.nodup_columnNames described returns.listed

/-- Each column of the table stands in the row, and what the row has there reads back as what the
returned object holds. -/
theorem exists_carried (keyspace : String) {field : Field} (member : field ∈ table.fields) :
    ∃ index held, (Row.ofColumns keyspace table.name columns).indexOf? field.columnName =
        some index ∧
      (Row.ofColumns keyspace table.name columns).table? index = some table.name ∧
      field.decodeAt (Row.ofColumns keyspace table.name columns) index = .ok held ∧
      context.type.returned context.object key field.attributeName = some held := by
  obtain ⟨⟨name, value⟩, listed, written⟩ := exists_mem_of_mapM_eq_ok stored member
  obtain rfl : name = field.columnName := fst_of_columnValue written
  obtain ⟨index, found, carried, place⟩ :=
    Row.exists_indexOf?_ofColumns keyspace table.name
      (distinct_columns returns described stored) listed
  have read : ∃ held, field.decode value = .ok held ∧
      context.type.returned context.object key field.attributeName = some held := by
    unfold columnValue at written
    by_cases typed : field.decl.typeKey = true
    · obtain rfl : field = key := (returns.mem_typeKey_iff described).mp ⟨member, typed⟩
      rw [if_pos typed] at written
      cases written
      exact ⟨_, returns.decode_typeKey described, if_pos rfl⟩
    · rw [if_neg typed] at written
      obtain ⟨encoded, encodes, same⟩ := (map_eq_ok_iff _ _ _).mp written
      cases same
      obtain ⟨keyListed, keyTyped⟩ := (returns.mem_typeKey_iff described).mpr rfl
      have other : field.columnName ≠ key.columnName := by
        intro same
        have isKey := returns.eq_of_columnName described
          (returns.mem_columns described member) keyListed same
        exact typed (isKey ▸ keyTyped)
      obtain ⟨held, read, decodes⟩ :=
        Field.decode_of_encode (returns.restores field member other) encodes
      refine ⟨held, decodes, ?_⟩
      rw [TypeEntity.returned_eq_get? (returns.ownColumn field member other), read]
  obtain ⟨held, decodes, want⟩ := read
  refine ⟨index, held, found, place, ?_, want⟩
  rw [Field.decodeAt, carried]
  exact decodes

/-- The row tells the discriminator of the type, through whichever table it is looked for. -/
theorem discoverDiscriminator_row (keyspace : String) :
    discoverDiscriminator context.entity.tables (Row.ofColumns keyspace table.name columns) =
      .ok (some context.type.discriminator) := by
  rw [discoverDiscriminator_ofColumns described returns.listed returns.typeKey stored,
    returns.decode_typeKey described]
  rfl

/-- Filling in one column writes what is wanted if the table has the column, and nothing else. -/
theorem exists_fillColumn (keyspace : String) {field : Field}
    (member : field ∈ context.entity.columns) {object : Object}
    (sameShape : object.shape = context.object.shape) :
    ∃ next, context.entity.fillColumn (Row.ofColumns keyspace table.name columns) object field =
        .ok next ∧
      object.Assigned (context.type.returned context.object key)
        (fun name => field ∈ table.fields ∧ name = field.attributeName) next := by
  by_cases listed : field ∈ table.fields
  · obtain ⟨index, held, found, _, decodes, want⟩ :=
      exists_carried returns described stored keyspace listed
    have takes : object.shape.Takes field.attributeName held := sameShape ▸ returns.takes want
    obtain ⟨next, done, assigned⟩ := Object.exists_set_of_takes takes want
    refine ⟨next, ?_, assigned.congr (by simp [listed])⟩
    rw [Entity.fillColumn, found]
    change field.decodeAt _ index >>= _ = _
    rw [decodes, ok_bind, Entity.assign, done]
    rfl
  · refine ⟨object, ?_, object.assigned_self.congr (by simp [listed])⟩
    have absent : field.columnName ∉ columns.map (·.1) := by
      rw [map_fst_of_columnValues stored]
      intro taken
      obtain ⟨other, otherListed, same⟩ := List.mem_map.mp taken
      have equal := returns.eq_of_columnName described member otherListed same.symm
      exact listed (equal ▸ otherListed)
    rw [Entity.fillColumn, Row.indexOf?_ofColumns_eq_none absent]

omit stored in
theorem exists_fillKey {keys : KeyValues} (held : context.keyValues = .ok keys) (row : Row)
    {field : Field} (member : field ∈ context.entity.keyspaceKeys) {object : Object}
    (sameShape : object.shape = context.object.shape) :
    ∃ next, context.entity.fillKey row keys object field = .ok next ∧
      object.Assigned (context.type.returned context.object key)
        (fun name => name = field.attributeName) next := by
  obtain ⟨value, kept, read⟩ :=
    exists_lookup_keyValues (Entity.ascending_keyspaceKeys described) held member
  have want : context.type.returned context.object key field.attributeName = some value := by
    rw [TypeEntity.returned_eq_get? (returns.ownKey field member), read]
  have takes : object.shape.Takes field.attributeName value := sameShape ▸ returns.takes want
  obtain ⟨next, done, assigned⟩ := Object.exists_set_of_takes takes want
  refine ⟨next, ?_, assigned⟩
  rw [Entity.fillKey, kept]
  change Entity.assign _ _ _ _ = _
  rw [Entity.assign, done]
  rfl

/-- The type reads its own object back from the row, into the new object that it starts from. -/
theorem exists_decode {keys : KeyValues} (held : context.keyValues = .ok keys)
    (keyspace : String) :
    ∃ fresh decoded, context.entity.cls.own.factory = some fresh ∧
      fresh.shape = context.object.shape ∧
      context.entity.decode (Row.ofColumns keyspace table.name columns) keys = .ok decoded ∧
      fresh.Assigned (context.type.returned context.object key)
        (fun name => (∃ field ∈ table.fields, name = field.attributeName) ∨
          ∃ field ∈ context.entity.keyspaceKeys, name = field.attributeName) decoded := by
  obtain ⟨fresh, made, shaped⟩ := returns.made
  obtain ⟨filled, columnsDone, columnsAssigned⟩ :=
    Object.foldlM_assigned context.entity.columns fresh
      fun field member object sameShape =>
        exists_fillColumn returns described stored keyspace member (sameShape.trans shaped)
  obtain ⟨decoded, keysDone, keysAssigned⟩ :=
    Object.foldlM_assigned context.entity.keyspaceKeys filled
      fun field member object sameShape =>
        exists_fillKey returns described held (Row.ofColumns keyspace table.name columns) member
          (sameShape.trans (columnsAssigned.shape_eq.trans shaped))
  refine ⟨fresh, decoded, made, shaped, ?_, (columnsAssigned.trans keysAssigned).congr ?_⟩
  · exact Entity.decode_eq_ok_iff.mpr ⟨fresh, filled, made, columnsDone, keysDone⟩
  · intro name
    constructor
    · intro either
      rcases either with ⟨field, _, listed, same⟩ | isKey
      · exact .inl ⟨field, listed, same⟩
      · exact .inr isKey
    · intro either
      rcases either with ⟨field, listed, same⟩ | isKey
      · exact .inl ⟨field, returns.mem_columns described listed, listed, same⟩
      · exact .inr isKey

end Context

/-- Whether a type keeps an attribute in a column of a table or in a keyspace key. -/
def TypeEntity.Binds (type : TypeEntity) (table : Table) (name : String) : Prop :=
  (∃ field ∈ table.fields, name = field.attributeName) ∨
    ∃ field ∈ type.entity.keyspaceKeys, name = field.attributeName

theorem Root.Sound.type_of_wrap {root : Root} {type : TypeEntity} {object : Object}
    {context : Context} (sound : root.Sound)
    (coherent : Class.Coherent (root.types.map (·.cls))) (registered : type ∈ root.types)
    (made : type.cls.own.Makes object) (wrapped : root.wrap object = .ok context) :
    context.type = type ∧ context.object = object := by
  have own : object.classPath = type.path :=
    made.classPath_eq (sound.valid type registered).made
  obtain ⟨found, rfl⟩ := (Root.wrap_eq_ok_iff _ _ _).mp wrapped
  have listed : context.type ∈ root.types := List.mem_of_find?_eq_some found
  exact ⟨sound.eq_of_path coherent listed registered (context.classPath_eq.symm.trans own), rfl⟩

namespace Menagerie

/-- A dog without a kind, which its row will have, and with a voice that no row has. -/
def rex : Object :=
  ⟨shape "Dog" "zoo::Dog" dogOwn,
    .cons "rex" (.cons none (.cons "south" (.cons true (.cons "howl" .nil))))⟩

def kindField : Field := ⟨(FieldDecl.ofColumn "kind" .text).asTypeKey, "zoo::Animal"⟩

def goodField : Field := ⟨(FieldDecl.ofColumn "good" .bool).persistedBy yesNo, "zoo::Dog"⟩

/-- The table of dogs. -/
def animals : Table := dogType.entity.tables.head (by decide)

theorem goodField_restores (truth : Bool) : goodField.Restores (.bool truth) := by
  intro persister persists _ stored encodes
  cases persists
  cases truth <;> cases encodes <;> exact ⟨rfl, rfl⟩

theorem rex_returns : dogType.Returns rex animals kindField where
  made := ⟨_, rfl, rfl⟩
  listed := List.head_mem _
  typeKey := rfl
  plain := rfl
  holdsText := .inr rfl
  ownColumn := by decide
  ownKey := by decide
  restores := by
    have fields : animals.fields =
        [⟨(FieldDecl.ofColumn "id" .text).asPartitionKey 0, "zoo::Animal"⟩, kindField,
          goodField] := rfl
    intro field member other held read
    rw [fields] at member
    rcases List.mem_cons.mp member with rfl | later
    · intro persister persists
      cases persists
    · rcases List.mem_pair.mp later with rfl | rfl
      · exact absurd rfl other
      · cases read
        exact goodField_restores true

end Menagerie

namespace Session

/-- An object comes back from its row through the root, through its type and through every type
above it. It then holds the discriminator in the attribute of the type key, what it held before in
every other attribute that is kept in the table or in a keyspace key, and what a new object of its
class holds in the rest. -/
theorem decode_toRow {session : Session} {root : Root} {type : TypeEntity} {object : Object}
    {context : Context} {table : Table} {key : Field} {row : Row} (reached : session.Reachable)
    (live : root ∈ session.store.roots)
    (coherent : Class.Coherent (root.cls :: root.types.map (·.cls)))
    (registered : type ∈ root.types) (returns : type.Returns object table key)
    (wrapped : root.wrap object = .ok context) (written : context.toRow table.name = .ok row) :
    ∃ keys decoded fresh, context.keyValues = .ok keys ∧
      type.cls.own.factory = some fresh ∧
      (root.decode (some row) keys).result = .ok (.decoded decoded) ∧
      (type.decode (session.store.rootOf? type) (some row) keys).result =
        .ok (.decoded decoded) ∧
      (∀ ancestor ∈ root.types, ancestor.cls.isAssignableFrom type.cls = true →
        (ancestor.decode (session.store.rootOf? ancestor) (some row) keys).result =
          .ok (.decoded decoded)) ∧
      decoded.shape = object.shape ∧
      decoded.get? key.attributeName = some (.text type.discriminator) ∧
      (∀ name, name ≠ key.attributeName → type.Binds table name →
        decoded.get? name = object.get? name) ∧
      ∀ name, ¬type.Binds table name → decoded.get? name = fresh.get? name := by
  have sound := reached.sound.store.roots root live
  have classes : Class.Coherent (root.types.map (·.cls)) :=
    coherent.mono fun cls member => List.mem_cons_of_mem _ member
  obtain ⟨rfl, rfl⟩ := sound.type_of_wrap classes registered returns.made wrapped
  have described := (sound.valid context.type registered).described
  obtain ⟨keys, keyspace, twin, columns, held, _, named, stored, rfl⟩ :=
    (Context.toRow_eq_ok_iff _ _ _).mp written
  obtain rfl : table = twin :=
    Option.some.inj ((Entity.table?_eq_of_mem described returns.listed).symm.trans named)
  obtain ⟨fresh, decoded, made, shaped, decodes, assigned⟩ :=
    Context.exists_decode returns described stored held keyspace
  have discovered : discoverDiscriminator root.entity.tables
      (Row.ofColumns keyspace table.name columns) = .ok (some context.type.discriminator) := by
    have same := (sound.sameSteering registered (Root.coherent_pair coherent registered)).tables
    rw [← discoverDiscriminator_eq_of_sameKeys same]
    exact Context.discoverDiscriminator_row returns described stored keyspace
  have throughType {ancestor : TypeEntity} (member : ancestor ∈ root.types)
      (above : ancestor.cls.isAssignableFrom context.type.cls = true) :
      (ancestor.decode (session.store.rootOf? ancestor)
        (some (Row.ofColumns keyspace table.name columns)) keys).result =
          .ok (.decoded decoded) := by
    rw [reached.sound.store.rootOf?_eq live member]
    exact sound.decode_above_of_discovered registered discovered decodes member
      (Root.coherent_pair coherent member) above
  refine ⟨keys, decoded, fresh, held, made,
    sound.decode_of_discovered registered discovered decodes,
    throughType registered (Class.isAssignableFrom_self _), fun ancestor => throughType,
    assigned.shape_eq.trans shaped, ?_, ?_, ?_⟩
  · obtain ⟨keyListed, _⟩ := (returns.mem_typeKey_iff described).mpr rfl
    rw [assigned.get?_written key.attributeName (.inl ⟨key, keyListed, rfl⟩)]
    exact if_pos rfl
  · intro name other binds
    rw [assigned.get?_written name binds, TypeEntity.returned_eq_get? other]
  · intro name unbound
    exact assigned.get?_other name unbound

theorem decode_toRow_rex :
    ∃ context row keys decoded, Menagerie.root.wrap Menagerie.rex = .ok context ∧
      context.toRow Menagerie.animals.name = .ok row ∧
      (Menagerie.root.decode (some row) keys).result = .ok (.decoded decoded) ∧
      decoded.get? "kind" = some (.text "dog") ∧ decoded.get? "good" = some (.bool true) ∧
      Menagerie.rex.get? "voice" = some (.text "howl") ∧
      decoded.get? "voice" = some (.text "bark") := by
  have coherent : Class.Coherent (Menagerie.root.cls :: Menagerie.root.types.map (·.cls)) := by
    have classes : Menagerie.root.cls :: Menagerie.root.types.map (·.cls) =
        [Menagerie.animal, Menagerie.cat, Menagerie.dog, Menagerie.puppy] := rfl
    rw [classes]
    exact Menagerie.coherent.mono (by simp)
  obtain ⟨context, row, wrapped, written⟩ : ∃ context row,
      Menagerie.root.wrap Menagerie.rex = .ok context ∧
        context.toRow Menagerie.animals.name = .ok row :=
    ⟨⟨Menagerie.dogType, Menagerie.rex, rfl⟩, _, rfl, rfl⟩
  obtain ⟨keys, decoded, fresh, _, made, throughRoot, _, _, _, tagged, kept, rest⟩ :=
    decode_toRow Menagerie.reachable_opened Menagerie.root_live coherent
      Menagerie.dogType_registered Menagerie.rex_returns wrapped written
  refine ⟨context, row, keys, decoded, wrapped, written, throughRoot, tagged, ?_, rfl, ?_⟩
  · refine kept "good" (by decide) (.inl ⟨Menagerie.goodField, ?_, rfl⟩)
    exact List.mem_cons_of_mem _ (List.mem_cons_of_mem _ List.mem_cons_self)
  · rw [rest "voice" (by unfold TypeEntity.Binds; decide)]
    cases made
    rfl

end Session

end TypedRows
