import TypedRows.Entity

/-! Agreement of an entity with the root of its hierarchy. Everything that steers where a row goes
and how it is found again has to be visible from the root class, so that a row can be located
without knowing its type. -/
namespace TypedRows.Entity

/-- Keyspace keys have to be declared by the root class itself. -/
def keyspaceKeyViolations (entity : Entity) (root : Class) : List Violation :=
  (entity.keyspaceKeys.filter (·.declaredIn ≠ root.path)).map fun field =>
    .keyspaceKeyOutside field.columnName field.declaredIn root.path

/-- The keyspace has to be annotated on the root or one of its ancestors. -/
def keyspaceViolations (entity : Entity) (root : Class) : List Violation :=
  if entity.keyspaceHolder.isAssignableFrom root then []
  else [.keyspaceOutside entity.keyspaceHolder.path root.path]

/-- So have the tables; each of them is reported. -/
def tableViolations (entity : Entity) (root : Class) : List Violation :=
  if entity.tableHolder.isAssignableFrom root then []
  else entity.tables.map fun table =>
    .tableOutside table.name entity.tableHolder.path root.path

/-- A column that plays a part in a table has to be declared by the root or one of its ancestors. -/
def keyFieldViolations (root : Class) (table : Table) : List Violation :=
  (table.keyFields.filter fun (_, field) => !Class.visibleFrom field.declaredIn root).map
    fun (role, field) =>
      .keyFieldOutside role table.name field.columnName field.declaredIn root.path

/-- Every disagreement: keyspace keys by name, the keyspace, the tables, and then table by table the
columns in their parts. -/
def allViolations (entity : Entity) (root : Class) : List Violation :=
  entity.keyspaceKeyViolations root ++ entity.keyspaceViolations root ++
    entity.tableViolations root ++ entity.tables.flatMap (keyFieldViolations root)

/-- The disagreements that a validation mode reports. -/
def violations (entity : Entity) (root : Class) : ValidationMode → List Violation
  | .all => entity.allViolations root
  | .first => (entity.allViolations root).take 1

theorem violations_eq_nil_iff (entity : Entity) (root : Class) (mode : ValidationMode) :
    entity.violations root mode = [] ↔ entity.allViolations root = [] := by
  cases mode with
  | all => rfl
  | first => simp [violations]

end TypedRows.Entity
