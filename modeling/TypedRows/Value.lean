import TypedRows.Numeric.Decimal

/-! Column values: what a row carries in one column, their labels in messages, their text, and the
comparison of two values as data, in which numbers compare as numbers. -/
namespace TypedRows

open Numeric (Double)

/-- A 128-bit sortable identifier. -/
abbrev Ulid := BitVec 128

/-- The value of one column. -/
inductive Value where
  | null
  | blob (bytes : List UInt8)
  | bool (truth : Bool)
  | float (number : Double)
  | int (number : Int64)
  | list (items : List Value)
  | text (text : String)
  | uint (number : UInt64)
  | ulid (id : Ulid)
  deriving Repr, Inhabited

/-- Hexadecimal digits in lower case, padded with zeros to a width. -/
def hexadecimal (width n : Nat) : String :=
  let digits := Nat.toDigits 16 n
  String.ofList (List.replicate (width - digits.length) '0' ++ digits)

namespace Value

def isNull : Value → Bool
  | .null => true
  | _ => false

def asText? : Value → Option String
  | .text s => some s
  | _ => none

/-- The word for the sort of a value in messages. -/
def label : Value → String
  | .null => "null"
  | .blob _ => "blob"
  | .bool _ => "bool"
  | .float _ => "float"
  | .int _ => "int"
  | .list _ => "list"
  | .text _ => "text"
  | .uint _ => "uint"
  | .ulid _ => "ulid"

mutual

/-- The text of a value. A text stands for itself, without quotes, also inside a list. -/
def render : Value → String
  | .null => "null"
  | .blob bytes => "0x" ++ String.join (bytes.map fun byte => hexadecimal 2 byte.toNat)
  | .bool true => "true"
  | .bool false => "false"
  | .float number => number.render
  | .int number => toString number.toInt
  | .list items => "[" ++ String.intercalate ", " (renderAll items) ++ "]"
  | .text s => s
  | .uint number => toString number.toNat
  | .ulid id => hexadecimal 32 id.toNat

/-- The texts of several values, in order. -/
def renderAll : List Value → List String
  | [] => []
  | item :: rest => item.render :: renderAll rest

end

mutual

/-- Whether two values are the same data. A NaN differs from every value, itself included, and so
does a list that holds one; the two zeros agree. -/
def same : Value → Value → Bool
  | .null, .null => true
  | .blob first, .blob second => first = second
  | .bool first, .bool second => first = second
  | .float first, .float second => first.equals second
  | .int first, .int second => first = second
  | .list first, .list second => sameAll first second
  | .text first, .text second => first = second
  | .uint first, .uint second => first = second
  | .ulid first, .ulid second => first = second
  | _, _ => false

/-- Whether two lists of values agree item by item. -/
def sameAll : List Value → List Value → Bool
  | [], [] => true
  | first :: firsts, second :: seconds => first.same second && sameAll firsts seconds
  | _, _ => false

end

theorem isNull_iff (value : Value) : value.isNull = true ↔ value = .null := by
  cases value <;> simp [isNull]

theorem asText?_eq_some_iff (value : Value) (s : String) :
    value.asText? = some s ↔ value = .text s := by
  cases value <;> simp [asText?]

end Value

end TypedRows
