import TypedRows.Registry.Store

/-! Reports: plain data about roots and types, for display. Nothing in a report feeds back into
decoding. -/
namespace TypedRows

/-- What a report says about a column. -/
structure ColumnReport where
  name : String
  kind : String
  declaredIn : String
  /-- The parts that the column plays, as text. -/
  roles : List String
  deriving DecidableEq, Repr

/-- What a report says about a table. -/
structure TableReport where
  name : String
  columns : List ColumnReport
  deriving DecidableEq, Repr

/-- What a report says about a root or a type. -/
structure EntityReport where
  path : String
  /-- The class path of the root, which for a root is its own. -/
  root : String
  /-- The discriminator; a root has none. -/
  discriminator : Option String
  isDynamic : Bool
  /-- The keyspace name before any suffix. -/
  keyspace : String
  keyspaceKeys : List String
  tables : List TableReport
  deriving DecidableEq, Repr

/-- The parts that a field plays, as text. -/
def FieldDecl.roles (decl : FieldDecl) : List String :=
  (decl.partitionKey.map fun ordinal => s!"partition key {ordinal}").toList ++
    (decl.clusteringKey.map fun (ordinal, order) =>
      s!"clustering key {ordinal} {order.label}").toList ++
    (if decl.typeKey then ["type key"] else []) ++
    (if decl.index then ["index"] else []) ++
    (if decl.mandatory then ["mandatory"] else []) ++
    (decl.keyspaceKey.map fun key => s!"keyspace key {key.suffixType}").toList

def Field.report (field : Field) : ColumnReport :=
  ⟨field.columnName, field.kind.render, field.declaredIn, field.decl.roles⟩

def Table.report (table : Table) : TableReport := ⟨table.name, table.fields.map (·.report)⟩

namespace EntityReport

def ofRoot (root : Root) : EntityReport where
  path := root.path
  root := root.path
  discriminator := none
  isDynamic := false
  keyspace := root.entity.keyspaceName
  keyspaceKeys := root.entity.keyspaceKeys.map (·.columnName)
  tables := root.entity.tables.map (·.report)

def ofType (type : TypeEntity) : EntityReport where
  path := type.path
  root := type.rootPath
  discriminator := some type.discriminator
  isDynamic := type.isDynamic
  keyspace := type.entity.keyspaceName
  keyspaceKeys := type.entity.keyspaceKeys.map (·.columnName)
  tables := type.entity.tables.map (·.report)

end EntityReport

/-- Every root that a manager keeps, each followed by its types. -/
def Store.report (store : Store) (manager : Manager) : List EntityReport :=
  (store.keptRoots manager).flatMap fun root =>
    EntityReport.ofRoot root :: root.types.map EntityReport.ofType

end TypedRows
