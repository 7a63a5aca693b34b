import TypedRows.Value

/-! Rows as a store hands them over: definitions that name each column and the table and keyspace it
comes from, and the values by position. A column name may occur more than once, and then its first
definition counts. -/
namespace TypedRows

/-- Where a column of a row comes from. -/
structure ColumnDefinition where
  keyspace : String
  table : String
  name : String
  deriving DecidableEq, Repr

/-- A row. There may be fewer values than definitions, and then the last columns have none. -/
structure Row where
  definitions : List ColumnDefinition
  values : List Value
  deriving Repr, Inhabited

namespace Row

/-- A cell of a row under construction; without a table of its own it comes from the row's table. -/
structure Cell where
  name : String
  value : Value
  table : Option String
  deriving Repr

/-- A row of one keyspace, one column for each cell. -/
def ofCells (keyspace table : String) (cells : List Cell) : Row where
  definitions := cells.map fun cell => ⟨keyspace, cell.table.getD table, cell.name⟩
  values := cells.map (·.value)

/-- The position of the first column of the name. -/
def indexOf? (row : Row) (name : String) : Option Nat :=
  row.definitions.findIdx? (·.name = name)

def table? (row : Row) (index : Nat) : Option String := row.definitions[index]?.map (·.table)

def keyspace? (row : Row) (index : Nat) : Option String := row.definitions[index]?.map (·.keyspace)

def value? (row : Row) (index : Nat) : Option Value := row.values[index]?

/-- The value of the first column of the name. -/
def get? (row : Row) (name : String) : Option Value := row.indexOf? name >>= row.value?

/-- Whether two rows have the same columns and agree in their values as data. -/
def same (row other : Row) : Bool :=
  row.definitions = other.definitions && Value.sameAll row.values other.values

end Row

end TypedRows
