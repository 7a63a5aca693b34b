/-! Binary floating-point words read and written exactly. A word is a sign, an exponent field and a
fraction field; a finite one stands for a whole number times a power of two, and every rounding is
done on those whole numbers. -/
namespace TypedRows.Numeric

-- Powers are those of the core library, whatever else is in scope.
attribute [local instance (high)] instPowNat

/-- The widths of the fraction and exponent fields of a binary floating-point format. -/
structure Format where
  fraction : Nat
  exponent : Nat
  deriving DecidableEq, Repr

/-- What a word stands for, its sign apart. -/
inductive Magnitude where
  | nan (payload : Nat)
  | infinite
  /-- The number `significand * 2 ^ scale`. -/
  | finite (significand : Nat) (scale : Int)
  deriving DecidableEq, Repr

/-- The quotient of `n` by `2 ^ shift` to the nearest whole number; a half goes to the even one. -/
def halfEven (n shift : Nat) : Nat :=
  let quotient := n / 2 ^ shift
  let twice := 2 * (n % 2 ^ shift)
  if 2 ^ shift < twice ∨ (twice = 2 ^ shift ∧ quotient % 2 = 1) then quotient + 1 else quotient

namespace Format

def single : Format := ⟨23, 8⟩

def double : Format := ⟨52, 11⟩

/-- The exponent field of infinities and NaNs. -/
def special (format : Format) : Nat := 2 ^ format.exponent - 1

/-- Every finite value is a multiple of `2 ^ leastScale`. -/
def leastScale (format : Format) : Int := 2 - 2 ^ (format.exponent - 1) - format.fraction

def isNegative (format : Format) (word : Nat) : Bool :=
  word / 2 ^ (format.fraction + format.exponent) % 2 = 1

def magnitude (format : Format) (word : Nat) : Magnitude :=
  let fraction := word % 2 ^ format.fraction
  let exponent := word / 2 ^ format.fraction % 2 ^ format.exponent
  if exponent = format.special then
    if fraction = 0 then .infinite else .nan fraction
  else if exponent = 0 then .finite fraction format.leastScale
  else .finite (fraction + 2 ^ format.fraction) (format.leastScale + exponent - 1)

/-- The word of the value nearest to `significand * 2 ^ scale`, a tie going to the even significand
and anything past the greatest finite value to infinity. A carry out of the fraction field lands in
the exponent field, which is where the next binade begins. -/
def nearest (format : Format) (significand : Nat) (scale : Int) : Nat :=
  if significand = 0 then 0 else
    let target := max format.leastScale (scale + significand.log2 - format.fraction)
    let units :=
      if target ≤ scale then significand * 2 ^ (scale - target).toNat
      else halfEven significand (target - scale).toNat
    min (format.special * 2 ^ format.fraction)
      ((target - format.leastScale).toNat * 2 ^ format.fraction + units)

/-- A word of one format as a word of another. A NaN keeps its sign and the leading bits of its
payload and becomes quiet. -/
def convert (source target : Format) (word : Nat) : Nat :=
  let sign := if source.isNegative word then 2 ^ (target.fraction + target.exponent) else 0
  let rest := match source.magnitude word with
    | .nan payload =>
      let leading := payload * 2 ^ target.fraction / 2 ^ source.fraction
      target.special * 2 ^ target.fraction + (leading ||| 2 ^ (target.fraction - 1))
    | .infinite => target.special * 2 ^ target.fraction
    | .finite significand scale => target.nearest significand scale
  sign + rest

end Format

/-- A binary64 number, by its bits. Equality of this type is equality of bits. -/
structure Double where
  bits : UInt64
  deriving DecidableEq, Repr, Inhabited

/-- A binary32 number, by its bits. -/
structure Single where
  bits : UInt32
  deriving DecidableEq, Repr, Inhabited

def Single.widen (x : Single) : Double :=
  ⟨UInt64.ofNat (Format.single.convert .double x.bits.toNat)⟩

def Double.narrow (x : Double) : Single :=
  ⟨UInt32.ofNat (Format.double.convert .single x.bits.toNat)⟩

namespace Double

def magnitude (x : Double) : Magnitude := Format.double.magnitude x.bits.toNat

def isNegative (x : Double) : Bool := Format.double.isNegative x.bits.toNat

def isNaN (x : Double) : Bool := match x.magnitude with
  | .nan _ => true
  | _ => false

def isZero (x : Double) : Bool := x.bits.toNat % 2 ^ (63 : Nat) = 0

/-- Numerical equality: a NaN equals nothing, and the two zeros equal each other. -/
def equals (x y : Double) : Bool :=
  !x.isNaN && !y.isNaN && (x = y || (x.isZero && y.isZero))

end Double

end TypedRows.Numeric
