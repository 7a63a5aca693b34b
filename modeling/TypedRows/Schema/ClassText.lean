import TypedRows.Schema.Class
import TypedRows.Text.Quoted

/-! The one-line text of a class for diagnostics. Its parent appears by path and its fields by
number only. -/
namespace TypedRows

open Text (quoted quotedList optional record)

def Keyspace.render (keyspace : Keyspace) : String :=
  record "KeyspaceModel"
    [("name", quoted keyspace.name), ("suffixes", quotedList keyspace.suffixes)]

def Class.render (cls : Class) : String :=
  record "ClassModel"
    [("path", quoted cls.path),
      ("parent", optional (cls.parent?.map fun parent => quoted parent.path)),
      ("abstract", toString cls.isAbstract),
      ("root_entity", toString cls.own.isRoot),
      ("type_entity", optional (cls.own.discriminator.map quoted)),
      ("keyspace", optional (cls.own.keyspace.map (·.render))),
      ("tables", quotedList cls.own.tables),
      ("fields", toString cls.own.fields.length)]

end TypedRows
