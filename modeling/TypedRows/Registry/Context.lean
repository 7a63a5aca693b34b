import TypedRows.Registry.Root

/-! Contexts: an object together with the type entity of its exact class, from which column values,
keys and whole rows are taken. -/
namespace TypedRows

/-- An object with the type entity of its class. -/
structure Context where
  type : TypeEntity
  object : Object
  classPath_eq : object.classPath = type.path

/-- Wraps an object that is exactly of the type's class. -/
def TypeEntity.wrap (type : TypeEntity) (object : Object) : Except ContextError Context :=
  if same : object.classPath = type.path then .ok ⟨type, object, same⟩
  else .error (.classMismatch type.path object.classPath)

/-- Wraps an object with the type registered for its class. -/
def Root.wrap (root : Root) (object : Object) : Except ContextError Context := do
  let type ← required (root.typeForClass? object.classPath)
    (.unregisteredClass root.path object.classPath)
  type.wrap object

namespace Context

def entity (context : Context) : Entity := context.type.entity

/-- What the object holds for each keyspace key, by key name. -/
def keyValues (context : Context) : Except ConversionError KeyValues :=
  context.entity.keyspaceKeys.mapM fun field =>
    (field.valueOf context.object).map (field.columnName, ·)

/-- The keyspace that the object lives in. -/
def keyspaceName (context : Context) : Except ConversionError String :=
  context.keyValues >>= context.entity.resolveKeyspace

/-- The stored value of one column. A type key column always holds the discriminator of the type,
whatever the object holds there. -/
def columnValue (context : Context) (field : Field) : Except ConversionError (String × Value) :=
  if field.decl.typeKey then .ok (field.columnName, .text context.type.discriminator)
  else (field.encode context.object).map (field.columnName, ·)

def table (context : Context) (name : String) : Except ContextError Table :=
  required (context.entity.table? name) (.unknownTable context.entity.path name)

/-- The stored values of some columns of a table. -/
def valuesOf (context : Context) (name : String) (fields : Table → List Field) :
    Except Fault (List (String × Value)) := do
  let table ← (context.table name).mapError Fault.context
  ((fields table).mapM context.columnValue).mapError Fault.conversion

/-- Every column of a table with its stored value, in table order. -/
def columnValues (context : Context) (table : String) : Except Fault (List (String × Value)) :=
  context.valuesOf table (·.fields)

/-- The partition key columns of a table and then its clustering key columns, each by ordinal, with
their stored values. -/
def primaryKeyValues (context : Context) (table : String) :
    Except Fault (List (String × Value)) :=
  context.valuesOf table (·.primaryKey)

/-- The object as a row of a table in its keyspace. -/
def toRow (context : Context) (table : String) : Except Fault Row := do
  let keyspace ← context.keyspaceName.mapError Fault.conversion
  let columns ← context.columnValues table
  return Row.ofCells keyspace table (columns.map fun (name, value) => ⟨name, value, none⟩)

end Context

end TypedRows
