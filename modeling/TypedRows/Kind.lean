import TypedRows.Value

/-! Column kinds. A null fits every column, since being mandatory is a rule of its own; inside a
list there is no room for one. -/
namespace TypedRows

/-- The declared type of a column. -/
inductive Kind where
  | blob
  | bool
  | float
  | int
  | text
  | uint
  | ulid
  | list (item : Kind)
  deriving DecidableEq, Repr, Inhabited

namespace Kind

def render : Kind → String
  | .blob => "blob"
  | .bool => "bool"
  | .float => "float"
  | .int => "int"
  | .text => "text"
  | .uint => "uint"
  | .ulid => "ulid"
  | .list item => "list<" ++ item.render ++ ">"

/-- Whether a column of this kind can hold the value. -/
def accepts : Kind → Value → Bool
  | _, .null => true
  | .blob, .blob _ => true
  | .bool, .bool _ => true
  | .float, .float _ => true
  | .int, .int _ => true
  | .text, .text _ => true
  | .uint, .uint _ => true
  | .ulid, .ulid _ => true
  | .list item, .list values => values.all fun value => !value.isNull && item.accepts value
  | _, _ => false

theorem accepts_null (kind : Kind) : kind.accepts .null = true := by
  cases kind <;> rfl

theorem accepts_list (item : Kind) (values : List Value) :
    (list item).accepts (.list values) = true ↔
      ∀ value ∈ values, value.isNull = false ∧ item.accepts value = true := by
  simp [accepts]

end Kind

end TypedRows
