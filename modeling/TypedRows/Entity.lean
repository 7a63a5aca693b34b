import TypedRows.Schema.Table

/-! Entities: the persistence shape of one class, worked out from its declarations and those of its
ancestors. An entity resolves keyspace names and decodes rows into objects of its own class, without
asking which class a row belongs to. -/
namespace TypedRows

/-- Values of keyspace keys by key name, in ascending order of the name. -/
abbrev KeyValues := List (String × Value)

/-- Where the marker of a root entity has to stand. -/
inductive Boundary where
  /-- On the class itself. -/
  | root
  /-- On the class or one of its ancestors. -/
  | type
  deriving DecidableEq, Repr

/-- The persistence shape of a class. -/
structure Entity where
  cls : Class
  settings : Settings
  keyspace : Keyspace
  /-- The nearest class with a keyspace annotation. -/
  keyspaceHolder : Class
  /-- The nearest class with table annotations. -/
  tableHolder : Class
  tables : List Table
  /-- The columns of the class, the top of the hierarchy first. -/
  columns : List Field
  /-- The keyspace keys in ascending order of their names. -/
  keyspaceKeys : List Field

/-- The first name that occurs a second time, at its second occurrence. -/
def firstRepeated? : (seen names : List String) → Option String
  | _, [] => none
  | seen, name :: rest =>
    if seen.contains name then some name else firstRepeated? (name :: seen) rest

namespace Class

/-- Whether the marker of a root entity stands where the boundary wants it. -/
def isMarked (cls : Class) : Boundary → Bool
  | .root => cls.own.isRoot
  | .type => cls.lineage.any (·.isRoot)

/-- The nearest class from this one upwards that has a keyspace annotation, with the keyspace. -/
def keyspaceHolder? (cls : Class) : Option (Class × Keyspace) :=
  cls.ancestors.findSome? fun holder => holder.own.keyspace.map (holder, ·)

/-- The nearest class from this one upwards that has table annotations. -/
def tableHolder? (cls : Class) : Option Class := cls.nearest? (!·.tables.isEmpty)

/-- The columns of a class and its ancestors, the top of the hierarchy first. -/
def columns (cls : Class) : List Field := cls.fields.filter (·.isColumn)

def requireDistinctColumns (cls : Class) : Except ModelError Unit :=
  match firstRepeated? [] (cls.columns.map (·.columnName)) with
  | some column => .error (.duplicateColumn cls.path column)
  | none => .ok ()

/-- The first field from the class upwards that is bound to a table which is not among the given
ones, with that table. -/
def strayTable? (cls : Class) (tables : List String) : Option (FieldDecl × String) :=
  (cls.lineage.flatMap (·.fields)).findSome? fun decl =>
    (decl.boundTables.find? fun table => !tables.contains table).map (decl, ·)

def requireKnownTables (cls : Class) (tables : List String) : Except ModelError Unit :=
  match cls.strayTable? tables with
  | some (decl, table) => .error (.unknownTable cls.path decl.columnName table)
  | none => .ok ()

/-- The keyspace keys of a class by name. The first field whose name is taken is refused. -/
def keyspaceKeys (cls : Class) : Except ModelError (List Field) :=
  (cls.fields.filter (·.decl.keyspaceKey.isSome)).foldlM accept []
where
  accept (keys : List Field) (field : Field) : Except ModelError (List Field) :=
    required (Keyed.placeNew? Field.columnName field keys)
      (.duplicateKeyspaceKey cls.path field.columnName)

/-- Every suffix type of the keyspace has to be supplied by some key. -/
def requireSuppliedSuffixes (cls : Class) (keyspace : Keyspace) (keys : List Field) :
    Except ModelError Unit :=
  match keyspace.suffixes.find? fun suffixType => !keys.any (·.supplies suffixType) with
  | some suffixType => .error (.missingSuffixKey cls.path suffixType)
  | none => .ok ()

end Class

namespace Entity

/-- Works out the shape of a class, or finds the first thing wrong with its declarations. -/
def introspect (settings : Settings) (boundary : Boundary) (cls : Class) :
    Except ModelError Entity := do
  require (cls.isMarked boundary) (.missingRootEntity cls.path)
  let (keyspaceHolder, keyspace) ← required cls.keyspaceHolder? (.missingKeyspace cls.path)
  let tableHolder ← required cls.tableHolder? (.missingTable cls.path)
  cls.requireDistinctColumns
  cls.requireKnownTables tableHolder.own.tables
  let tables ← tableHolder.own.tables.mapM (Table.build cls.path · cls.fields)
  let keyspaceKeys ← cls.keyspaceKeys
  cls.requireSuppliedSuffixes keyspace keyspaceKeys
  return { cls, settings, keyspace, keyspaceHolder, tableHolder, tables,
           columns := cls.columns, keyspaceKeys }

def path (entity : Entity) : String := entity.cls.path

/-- The keyspace name before any suffix. -/
def keyspaceName (entity : Entity) : String :=
  entity.keyspace.baseName entity.settings.naming

def table? (entity : Entity) (name : String) : Option Table :=
  entity.tables.find? (·.name = name)

/-- The text that a key value contributes to a keyspace name; a null contributes none. -/
def keyText? : Value → Option String
  | .null => none
  | value => some value.render

/-- The value for a suffix type: the text of the first keyspace key that supplies it, unless that
key excludes it. -/
def suffixValue (entity : Entity) (keys : KeyValues) (suffixType : String) :
    Except ConversionError String := do
  let field ← required (entity.keyspaceKeys.find? (·.supplies suffixType))
    (.missingKeyspaceKey entity.path suffixType)
  let value ← required (keys.lookup field.columnName >>= keyText?)
    (.missingKeyspaceKey entity.path field.columnName)
  require (!field.excludes value) (.excludedKeyspaceKey entity.path field.columnName value)
  return value

/-- The full keyspace name for the given key values. -/
def resolveKeyspace (entity : Entity) (keys : KeyValues) : Except ConversionError String :=
  entity.keyspace.resolve entity.settings.naming (entity.suffixValue keys)

def assign (entity : Entity) (field : Field) (object : Object) (value : Value) :
    Except ConversionError Object :=
  (object.set field.attributeName value).mapError (.unassignable entity.path field.columnName)

/-- Fills in one column, if the row carries it. -/
def fillColumn (entity : Entity) (row : Row) (object : Object) (field : Field) :
    Except ConversionError Object :=
  match row.indexOf? field.columnName with
  | none => .ok object
  | some index => field.decodeAt row index >>= entity.assign field object

/-- Reports one keyspace key back into the object. A key without a value is tolerated only where the
row carries it as a column. -/
def fillKey (entity : Entity) (row : Row) (keys : KeyValues) (object : Object) (field : Field) :
    Except ConversionError Object :=
  match keys.lookup field.columnName with
  | some value => entity.assign field object value
  | none =>
    (require (field.isColumn && (row.indexOf? field.columnName).isSome)
      (.missingKeyspaceKey entity.path field.columnName)).map fun _ => object

/-- A new object of the entity's class, filled from the columns in declaration order and then from
the keyspace keys in the order of their names. -/
def decode (entity : Entity) (row : Row) (keys : KeyValues) : Except ConversionError Object := do
  let fresh ← required entity.cls.own.factory (.abstractClass entity.path)
  let filled ← entity.columns.foldlM (entity.fillColumn row) fresh
  entity.keyspaceKeys.foldlM (entity.fillKey row keys) filled

end Entity

end TypedRows
