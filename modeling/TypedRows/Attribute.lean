import TypedRows.Value

/-! The types that an attribute of an object can have, what an attribute of each type holds, and
the passage between that and column values. -/
namespace TypedRows

open Numeric (Double Single)

/-- The width of a whole-number attribute in bits. -/
inductive Width where
  | w8
  | w16
  | w32
  | w64
  deriving DecidableEq, Repr

namespace Width

-- Powers are those of the core library, whatever else is in scope.
attribute [local instance (high)] instPowNat

def bits : Width → Nat
  | .w8 => 8
  | .w16 => 16
  | .w32 => 32
  | .w64 => 64

/-- Whether a signed number of this width can be the given one. -/
def HoldsSigned (width : Width) (n : Int64) : Prop :=
  -2 ^ (width.bits - 1) ≤ n.toInt ∧ n.toInt < 2 ^ (width.bits - 1)

/-- Whether an unsigned number of this width can be the given one. -/
def HoldsUnsigned (width : Width) (n : UInt64) : Prop := n.toNat < 2 ^ width.bits

instance (width : Width) (n : Int64) : Decidable (width.HoldsSigned n) :=
  inferInstanceAs (Decidable (_ ∧ _))

instance (width : Width) (n : UInt64) : Decidable (width.HoldsUnsigned n) :=
  inferInstanceAs (Decidable (_ < _))

end Width

/-- The type of an attribute. -/
inductive AttributeType where
  | bool
  | signed (width : Width)
  | unsigned (width : Width)
  | single
  | double
  | string
  | ulid
  | option (inner : AttributeType)
  | list (item : AttributeType)
  deriving DecidableEq, Repr

namespace AttributeType

/-- What an attribute of the type holds. -/
def Carrier : AttributeType → Type
  | .bool => Bool
  | .signed width => { n : Int64 // width.HoldsSigned n }
  | .unsigned width => { n : UInt64 // width.HoldsUnsigned n }
  | .single => Single
  | .double => Double
  | .string => String
  | .ulid => Ulid
  | .option inner => Option inner.Carrier
  | .list item => List item.Carrier

/-- The column value of what an attribute holds. -/
def toValue : (type : AttributeType) → type.Carrier → Value
  | .bool, b => .bool b
  | .signed _, n => .int n.val
  | .unsigned _, n => .uint n.val
  | .single, x => .float x.widen
  | .double, x => .float x
  | .string, s => .text s
  | .ulid, id => .ulid id
  | .option _, none => .null
  | .option inner, some held => inner.toValue held
  | .list item, helds => .list (helds.map item.toValue)

/-- What an attribute of the type holds for a column value, if the value fits. Only a double that
goes into a single is changed on the way. -/
def ofValue? : (type : AttributeType) → Value → Option type.Carrier
  | .bool, .bool b => some b
  | .signed width, .int n => if fits : width.HoldsSigned n then some ⟨n, fits⟩ else none
  | .unsigned width, .uint n => if fits : width.HoldsUnsigned n then some ⟨n, fits⟩ else none
  | .single, .float x => some x.narrow
  | .double, .float x => some x
  | .string, .text s => some s
  | .ulid, .ulid id => some id
  | .option _, .null => some none
  | .option inner, value => (inner.ofValue? value).map some
  | .list item, .list values => values.mapM item.ofValue?
  | _, _ => none

end AttributeType

end TypedRows
