import TypedRows.Numeric.Format

/-! The decimal text of a double: the fewest significant digits that read back as the same number,
of those the nearest to it, written positionally. All comparisons are between whole numbers. -/
namespace TypedRows.Numeric

-- Powers are those of the core library, whatever else is in scope.
attribute [local instance (high)] instPowNat

/-- The number `digits * 10 ^ exponent`. -/
structure Decimal where
  digits : Nat
  exponent : Int
  deriving DecidableEq, Repr

/-- The positive reals that round to one double: three numerators over one denominator. -/
structure Span where
  low : Nat
  exact : Nat
  high : Nat
  denominator : Nat
  /-- Whether the two ends belong to the span. -/
  closed : Bool
  deriving Repr

namespace Span

/-- The span of `significand * 2 ^ scale`. Its ends lie half way to the two neighbours, which is
half as far below a power of two; they round to it when its significand is even. -/
def ofFinite (significand : Nat) (scale : Int) : Span :=
  let below := if significand = 2 ^ Format.double.fraction then 1 else 2
  let factor := 2 ^ (scale - 2).toNat
  { low := (4 * significand - below) * factor
    exact := 4 * significand * factor
    high := (4 * significand + 2) * factor
    denominator := 2 ^ (2 - scale).toNat
    closed := significand % 2 = 0 }

/-- Whether `units * 10 ^ exponent` lies in the span. -/
def holds (span : Span) (units : Nat) (exponent : Int) : Bool :=
  let point := units * 10 ^ exponent.toNat * span.denominator
  let low := span.low * 10 ^ (-exponent).toNat
  let high := span.high * 10 ^ (-exponent).toNat
  if span.closed then low ≤ point ∧ point ≤ high else low < point ∧ point < high

/-- The greatest multiple of `10 ^ exponent` that is not above the exact value, in those units. -/
def below (span : Span) (exponent : Int) : Nat :=
  span.exact * 10 ^ (-exponent).toNat / (10 ^ exponent.toNat * span.denominator)

/-- Whether the exact value is nearer to `below` than to the next multiple of `10 ^ exponent`. -/
def leansDown (span : Span) (exponent : Int) : Bool :=
  2 * span.exact * 10 ^ (-exponent).toNat <
    (2 * span.below exponent + 1) * 10 ^ exponent.toNat * span.denominator

/-- The multiple of `10 ^ exponent` nearest to the exact value; a tie goes up. -/
def nearest (span : Span) (exponent : Int) : Decimal :=
  ⟨if span.leansDown exponent then span.below exponent else span.below exponent + 1, exponent⟩

/-- The multiple of `10 ^ exponent` in the span that is nearest to the exact value, if one is. -/
def pick? (span : Span) (exponent : Int) : Option Decimal :=
  let down := span.holds (span.below exponent) exponent
  let up := span.holds (span.below exponent + 1) exponent
  match down, up with
  | true, true => some (span.nearest exponent)
  | true, false => some ⟨span.below exponent, exponent⟩
  | false, true => some ⟨span.below exponent + 1, exponent⟩
  | false, false => none

/-- The number of digits before the point, or, for a value below one, the negated number of zeros
that follow the point. -/
def pointPosition (span : Span) : Int :=
  if span.denominator ≤ span.exact then (Nat.toDigits 10 (span.exact / span.denominator)).length
  else
    let reciprocal := (span.denominator + span.exact - 1) / span.exact
    1 - (Nat.toDigits 10 (reciprocal - 1)).length

/-- The shortest decimal in the span. Seventeen digits always tell a double from its neighbours, so
the last grid needs no test. -/
def shortest (span : Span) : Decimal :=
  let grid (count : Nat) : Int := span.pointPosition - count
  match (List.range' 1 16).findSome? fun count => span.pick? (grid count) with
  | some decimal => decimal
  | none => span.nearest (grid 17)

end Span

namespace Decimal

/-- The digits without trailing zeros, and the exponent that goes with them. -/
def trimmed (decimal : Decimal) : List Char × Int :=
  let all := Nat.toDigits 10 decimal.digits
  let kept := (all.reverse.dropWhile (· = '0')).reverse
  (kept, decimal.exponent + (all.length - kept.length : Nat))

/-- The number written out with a point where one is needed and no exponent. -/
def positional (decimal : Decimal) : String :=
  let (digits, exponent) := decimal.trimmed
  let places := (-exponent).toNat
  String.ofList <|
    if 0 ≤ exponent then digits ++ List.replicate exponent.toNat '0'
    else if places < digits.length then
      digits.take (digits.length - places) ++ '.' :: digits.drop (digits.length - places)
    else '0' :: '.' :: (List.replicate (places - digits.length) '0' ++ digits)

end Decimal

/-- The text of a double. Both zeros are written, a whole number has no point, and no number has an
exponent. -/
def Double.render (x : Double) : String :=
  let sign := if x.isNegative then "-" else ""
  match x.magnitude with
  | .nan _ => "NaN"
  | .infinite => sign ++ "inf"
  | .finite 0 _ => sign ++ "0"
  | .finite significand scale => sign ++ (Span.ofFinite significand scale).shortest.positional

end TypedRows.Numeric
