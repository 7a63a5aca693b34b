import TypedRows.Registry.Report
import TypedRows.Session.Basic
import TypedRows.Settings.Document

/-! What can be asked of a session, and the answers. Everything that is asked for is named; only
rows and objects can also be given outright. -/
namespace TypedRows

/-- A row to be decoded: none at all, one that a name stands for, or one given outright. -/
inductive RowSource where
  | absent
  | named (name : String)
  | given (row : Row)

/-- An object to be wrapped: one that a name stands for, which loses its name, or one given
outright. -/
inductive ObjectSource where
  | named (name : String)
  | given (object : Object)

/-- The discriminator under which a row is decoded. -/
inductive Tag where
  /-- The one that the row carries. -/
  | discovered
  | known (discriminator : String)

/-- Something to be asked of a session. -/
inductive Action where
  /-- A new manager, with default settings if none are given. -/
  | addManager (source : Option Settings.Source)
  | rootEntity (manager : String) (cls : Class) (types : List Class)
  | newRoot (manager : String) (cls : Class) (types : List Class)
  | registerDynamic (root manager : String) (cls : Class)
  | register (root type : String)
  | lookup (root discriminator : String)
  | typeForClass (root path : String)
  | types (root : String)
  | findRoot (manager path : String)
  | roots (manager : String)
  | report (manager : String)
  | snapshot (holder : String)
  | same (first second : String)
  | type (type : String)
  | rootOf (type : String)
  | render (type : String)
  | describe (holder : String)
  | table (holder name : String) (columns : List String)
  | resolveKeyspace (holder : String) (keys : KeyValues)
  /-- Decodes a row as an object of the holder's own class, whatever its discriminator. -/
  | decodePlain (holder : String) (row : RowSource) (keys : KeyValues)
  | decode (holder : String) (row : RowSource) (tag : Tag) (keys : KeyValues) (shape : Option Shape)
  | wrap (holder : String) (object : ObjectSource)
  | contextObject (context : String)
  | contextKeys (context : String)
  | contextKeyspace (context : String)
  | contextColumns (context table : String)
  | contextPrimaryKey (context table : String)
  | contextRow (context table : String)
  | contextType (context : String)
  /-- Takes the object out of a context, which loses its name. -/
  | unwrap (context : String)
  | row (source : RowSource)
  | forget (name : String)

/-- The name that an action takes out of the session first, whatever it stands for. -/
def Action.takes? : Action → Option String
  | .wrap _ (.named name) => some name
  | .unwrap name => some name
  | .forget name => some name
  | _ => none

/-- A type with whether its root is still there. -/
structure TypeView where
  type : TypeEntity
  isRootAlive : Bool

/-- What a session answers. -/
inductive Answer where
  /-- A name stands for nothing, or for something of the wrong sort. -/
  | noHandle
  | failed (fault : Fault)
  /-- What was looked for is not there. -/
  | nothing
  | flag (truth : Bool)
  | text (text : String)
  | settings (settings : Settings)
  | root (root : Root)
  | roots (roots : List Root)
  | type (view : TypeView)
  | types (views : List TypeView)
  | snapshot (report : EntityReport)
  | report (reports : List EntityReport)
  | entity (entity : Entity)
  | table (table : Table) (found : List (Option Field))
  | object (object : Object)
  | resolved (outcome : Resolved)
  /-- A decoded row with the object in it that has the wanted shape. -/
  | downcast (outcome : Resolved) (object : Option Object)
  | keys (values : KeyValues)
  | columns (values : List (String × Value))
  | row (row : Row)

/-- An action, with the name that its result is to be kept under. -/
structure Request where
  action : Action
  keepAs : Option String := none

end TypedRows
