import TypedRows.Kind

/-! Fields as a class declares them: which attribute is stored, under which column name, in which
tables, and in which parts. A declaration starts from `column` or `suffix` and is refined step by
step; where two steps touch the same property the later one counts. -/
namespace TypedRows

/-- Stores an attribute in a form of its own. -/
structure Persister where
  /-- The kind of the stored form. -/
  storedKind : Kind
  encode : Value → Except String Value
  decode : Value → Except String Value

/-- The direction in which rows are ordered by a clustering key. -/
inductive ClusteringOrder where
  | asc
  | desc
  deriving DecidableEq, Repr, Inhabited

def ClusteringOrder.label : ClusteringOrder → String
  | .asc => "asc"
  | .desc => "desc"

/-- The part of a field as a keyspace key: the suffix type that it supplies, and the values for
which there is no keyspace. -/
structure KeyspaceKey where
  suffixType : String
  exclude : List String
  deriving DecidableEq, Repr

/-- A field as declared by a class. -/
structure FieldDecl where
  attributeName : String
  /-- The name of the column; a field without one is a keyspace key that is not stored. -/
  column : Option String
  kind : Kind
  /-- The tables that have the column; without a list it is all of them. -/
  tables : Option (List String) := none
  partitionKey : Option Nat := none
  clusteringKey : Option (Nat × ClusteringOrder) := none
  typeKey : Bool := false
  index : Bool := false
  mandatory : Bool := false
  keyspaceKey : Option KeyspaceKey := none
  persister : Option Persister := none

namespace FieldDecl

/-- A column that is named after the attribute. -/
def ofColumn (attributeName : String) (kind : Kind) : FieldDecl :=
  { attributeName, column := some attributeName, kind }

/-- A keyspace key that is not stored in any column. -/
def ofSuffix (attributeName : String) (kind : Kind) (suffixType : String) : FieldDecl :=
  { attributeName, column := none, kind, keyspaceKey := some ⟨suffixType, []⟩ }

/-- Names the column. A keyspace key that was not stored becomes a column by this. -/
def named (decl : FieldDecl) (column : String) : FieldDecl := { decl with column := some column }

def inTables (decl : FieldDecl) (tables : List String) : FieldDecl :=
  { decl with tables := some tables }

/-- Makes the field a partition key, which is mandatory. -/
def asPartitionKey (decl : FieldDecl) (ordinal : Nat) : FieldDecl :=
  { decl with partitionKey := some ordinal, mandatory := true }

/-- Makes the field a clustering key, which is mandatory. -/
def asClusteringKey (decl : FieldDecl) (ordinal : Nat) (order : ClusteringOrder) : FieldDecl :=
  { decl with clusteringKey := some (ordinal, order), mandatory := true }

def asTypeKey (decl : FieldDecl) : FieldDecl := { decl with typeKey := true }

def asIndex (decl : FieldDecl) : FieldDecl := { decl with index := true }

def asMandatory (decl : FieldDecl) : FieldDecl := { decl with mandatory := true }

/-- Makes the field a keyspace key for which no value is excluded. -/
def asKeyspaceKey (decl : FieldDecl) (suffixType : String) : FieldDecl :=
  { decl with keyspaceKey := some ⟨suffixType, []⟩ }

/-- Sets the excluded values of a keyspace key; any other field stays as it is. -/
def excluding (decl : FieldDecl) (values : List String) : FieldDecl :=
  { decl with keyspaceKey := decl.keyspaceKey.map ({ · with exclude := values }) }

def persistedBy (decl : FieldDecl) (persister : Persister) : FieldDecl :=
  { decl with persister := some persister }

/-- Whether the field is a column of the table. -/
def appliesTo (decl : FieldDecl) (table : String) : Bool :=
  decl.column.isSome && match decl.tables with
    | none => true
    | some tables => tables.contains table

/-- The tables that the declaration names. -/
def boundTables (decl : FieldDecl) : List String := decl.tables.getD []

/-- The name of the column, or of the attribute where there is no column. -/
def columnName (decl : FieldDecl) : String := decl.column.getD decl.attributeName

end FieldDecl

end TypedRows
