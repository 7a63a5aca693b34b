import TypedRows.Keyed
import TypedRows.Schema.Field

/-! Tables: the columns of one table and the parts that some of them play. Partition and clustering
keys are ordered by ordinal, whatever the order of declaration. -/
namespace TypedRows

/-- A table of a class. -/
structure Table where
  name : String
  fields : List Field
  partitionKeys : List Field
  clusteringKeys : List Field
  typeKey : Option Field
  indexes : List Field

namespace Table

/-- The fields that have an ordinal in a role, in ascending order of it. The first field in list
order whose ordinal is taken is refused. -/
def orderedKeys (path table : String) (role : KeyRole) (fields : List Field) :
    Except ModelError (List Field) := do
  let keys ← fields.foldlM (fun keys field => accept keys field) ([] : List (Nat × Field))
  return keys.map (·.2)
where
  accept (keys : List (Nat × Field)) (field : Field) : Except ModelError (List (Nat × Field)) :=
    match field.ordinal? role with
    | none => .ok keys
    | some ordinal => required (Keyed.placeNew? (·.1) (ordinal, field) keys)
        (.duplicateKeyOrdinal path table role field.columnName ordinal)

/-- The type key among the fields. Each one is looked at in list order: a second one is refused as
such, and a first one for holding anything but text. -/
def findTypeKey (path table : String) : Option Field → List Field →
    Except ModelError (Option Field)
  | found, [] => .ok found
  | found, field :: rest =>
    if field.decl.typeKey then
      match found with
      | some first =>
        .error (.multipleTypeKeys path table first.columnName field.columnName)
      | none =>
        if field.kind = .text then findTypeKey path table (some field) rest
        else .error (.typeKeyNotText path table field.columnName)
    else findTypeKey path table found rest

/-- The table of a class, from all of its fields in declaration order. -/
def build (path name : String) (all : List Field) : Except ModelError Table := do
  let fields := all.filter (·.appliesTo name)
  let partitionKeys ← orderedKeys path name .partitionKey fields
  require (!partitionKeys.isEmpty) (.missingPartitionKey path name)
  let clusteringKeys ← orderedKeys path name .clusteringKey fields
  let typeKey ← findTypeKey path name none fields
  return { name, fields, partitionKeys, clusteringKeys, typeKey,
           indexes := fields.filter (·.decl.index) }

/-- The partition keys followed by the clustering keys. -/
def primaryKey (table : Table) : List Field := table.partitionKeys ++ table.clusteringKeys

/-- The field of a column. -/
def column? (table : Table) (name : String) : Option Field :=
  table.fields.find? (·.columnName = name)

/-- Every field that plays a part in the table, with the part. -/
def keyFields (table : Table) : List (KeyRole × Field) :=
  table.partitionKeys.map (.partitionKey, ·) ++ table.clusteringKeys.map (.clusteringKey, ·) ++
    table.typeKey.toList.map (.typeKey, ·) ++ table.indexes.map (.index, ·)

end Table

end TypedRows
