import Mathlib.Tactic.Ring
import TypedRows.Numeric.Format

/-! Singles inside doubles. A double has room for every number that a single holds, so nothing is
rounded on the way there, and the way back rounds nothing either. -/
namespace TypedRows.Numeric

theorem halfEven_mul_pow (n shift : Nat) : halfEven (n * 2 ^ shift) shift = n := by
  have positive : 0 < 2 ^ shift := Nat.two_pow_pos shift
  have quotient : n * 2 ^ shift / 2 ^ shift = n := Nat.mul_div_cancel n positive
  have remainder : n * 2 ^ shift % 2 ^ shift = 0 := Nat.mul_mod_left n (2 ^ shift)
  simp only [halfEven, quotient, remainder]
  rw [if_neg]
  omega

namespace Format

section

variable (format : Format) {sign exponent fraction : Nat}

/-- The word of a sign and of what stands below it. -/
def signed (sign rest : Nat) : Nat := sign * 2 ^ (format.fraction + format.exponent) + rest

theorem isNegative_signed {rest : Nat} (signs : sign < 2)
    (fits : rest < 2 ^ (format.fraction + format.exponent)) :
    format.isNegative (format.signed sign rest) = decide (sign = 1) := by
  have quotient : format.signed sign rest / 2 ^ (format.fraction + format.exponent) = sign := by
    rw [signed, Nat.mul_comm, Nat.mul_add_div (Nat.two_pow_pos _), Nat.div_eq_of_lt fits,
      Nat.add_zero]
  rw [isNegative, quotient, Nat.mod_eq_of_lt signs]

theorem magnitude_signed (exponents : exponent < 2 ^ format.exponent)
    (fractions : fraction < 2 ^ format.fraction) :
    format.magnitude (format.signed sign (exponent * 2 ^ format.fraction + fraction)) =
      if exponent = format.special then
        if fraction = 0 then .infinite else .nan fraction
      else if exponent = 0 then .finite fraction format.leastScale
      else .finite (fraction + 2 ^ format.fraction) (format.leastScale + exponent - 1) := by
  have word : format.signed sign (exponent * 2 ^ format.fraction + fraction) =
      2 ^ format.fraction * (2 ^ format.exponent * sign + exponent) + fraction := by
    rw [signed, Nat.pow_add]
    ring
  have remainder : (2 ^ format.fraction * (2 ^ format.exponent * sign + exponent) + fraction) %
      2 ^ format.fraction = fraction := by
    rw [Nat.mul_add_mod, Nat.mod_eq_of_lt fractions]
  have quotient : (2 ^ format.fraction * (2 ^ format.exponent * sign + exponent) + fraction) /
      2 ^ format.fraction % 2 ^ format.exponent = exponent := by
    rw [Nat.mul_add_div (Nat.two_pow_pos _), Nat.div_eq_of_lt fractions, Nat.add_zero,
      Nat.mul_add_mod, Nat.mod_eq_of_lt exponents]
  simp only [magnitude, word, remainder, quotient]

/-- What stands below the sign of a converted word. -/
def rounded (target source : Format) : Magnitude → Nat
  | .nan payload => target.special * 2 ^ target.fraction +
      (payload * 2 ^ target.fraction / 2 ^ source.fraction ||| 2 ^ (target.fraction - 1))
  | .infinite => target.special * 2 ^ target.fraction
  | .finite significand scale => target.nearest significand scale

theorem convert_signed (target : Format) {rest : Nat} (signs : sign < 2)
    (fits : rest < 2 ^ (format.fraction + format.exponent)) :
    format.convert target (format.signed sign rest) =
      target.signed sign (target.rounded format (format.magnitude (format.signed sign rest))) := by
  have flag : (if format.isNegative (format.signed sign rest) then
      2 ^ (target.fraction + target.exponent) else 0) =
      sign * 2 ^ (target.fraction + target.exponent) := by
    rw [isNegative_signed format signs fits]
    rcases Nat.lt_succ_iff_lt_or_eq.mp signs with none | rfl
    · obtain rfl : sign = 0 := by omega
      simp
    · simp
  exact congrArg₂ (· + ·) flag rfl

end

/-- A number as a single stores it: the significand fills the fraction field and the bit above it,
unless the scale is the least one. -/
structure FitsSingle (significand : Nat) (scale : Int) : Prop where
  nonzero : significand ≠ 0
  bounded : significand < 2 ^ 24
  least : -149 ≤ scale
  greatest : scale ≤ 104
  filled : scale = -149 ∨ 2 ^ 23 ≤ significand

section

variable {significand : Nat} {scale : Int} (fits : FitsSingle significand scale)

include fits

theorem FitsSingle.log2_le : significand.log2 ≤ 23 :=
  Nat.le_of_lt_succ ((Nat.log2_lt fits.nonzero).mpr fits.bounded)

-- A double stores the significand with zeros below it.
theorem FitsSingle.stretched :
    2 ^ 52 ≤ significand * 2 ^ (52 - significand.log2) ∧
      significand * 2 ^ (52 - significand.log2) < 2 ^ 53 := by
  have small := fits.log2_le
  have lower : 2 ^ significand.log2 ≤ significand := Nat.log2_self_le fits.nonzero
  have upper : significand < 2 ^ (significand.log2 + 1) := Nat.lt_log2_self
  constructor
  · calc 2 ^ 52 = 2 ^ significand.log2 * 2 ^ (52 - significand.log2) := by
          rw [← Nat.pow_add, Nat.add_sub_of_le (Nat.le_trans small (by decide))]
      _ ≤ significand * 2 ^ (52 - significand.log2) := Nat.mul_le_mul_right _ lower
  · calc significand * 2 ^ (52 - significand.log2)
        < 2 ^ (significand.log2 + 1) * 2 ^ (52 - significand.log2) :=
          Nat.mul_lt_mul_of_pos_right upper (Nat.two_pow_pos _)
      _ = 2 ^ 53 := by
          rw [← Nat.pow_add]
          congr 1
          omega

theorem FitsSingle.nearest_double :
    double.nearest significand scale =
      (scale + significand.log2 + 1022).toNat * 2 ^ 52 +
        significand * 2 ^ (52 - significand.log2) := by
  obtain ⟨lower, upper⟩ := fits.stretched
  have small := fits.log2_le
  obtain ⟨nonzero, bounded, least, greatest, filled⟩ := fits
  have leastScale : double.leastScale = -1074 := rfl
  have target : max (-1074) (scale + significand.log2 - 52) = scale + significand.log2 - 52 := by
    omega
  have gap : (scale - (scale + significand.log2 - 52)).toNat = 52 - significand.log2 := by omega
  have below : scale + significand.log2 - 52 ≤ scale := by omega
  have offset : scale + significand.log2 - 52 - -1074 = scale + significand.log2 + 1022 := by omega
  have fraction : ((double.fraction : Nat) : Int) = 52 := rfl
  simp only [nearest, if_neg nonzero, leastScale, fraction, target, if_pos below, gap, offset]
  have special : double.special * 2 ^ double.fraction = 2047 * 2 ^ 52 := rfl
  rw [special]
  apply Nat.min_eq_right
  change _ * 2 ^ 52 + _ ≤ _
  omega

theorem FitsSingle.nearest_single :
    single.nearest (significand * 2 ^ (52 - significand.log2)) (scale + significand.log2 - 52) =
      (scale + 149).toNat * 2 ^ 23 + significand := by
  obtain ⟨lower, upper⟩ := fits.stretched
  have small := fits.log2_le
  have nonzero : significand * 2 ^ (52 - significand.log2) ≠ 0 := by omega
  have length : (significand * 2 ^ (52 - significand.log2)).log2 = 52 :=
    (Nat.log2_eq_iff nonzero).mpr ⟨lower, upper⟩
  have filled : scale = -149 ∨ significand.log2 = 23 := by
    rcases fits.filled with least | large
    · exact .inl least
    · exact .inr ((Nat.log2_eq_iff fits.nonzero).mpr ⟨large, fits.bounded⟩)
  obtain ⟨_, bounded, least, greatest, _⟩ := fits
  have leastScale : single.leastScale = -149 := rfl
  have fraction : ((single.fraction : Nat) : Int) = 23 := rfl
  have target : max (-149) (scale + significand.log2 - 52 + (52 : Nat) - 23) = scale := by omega
  have gap : (scale - (scale + significand.log2 - 52)).toNat = 52 - significand.log2 := by omega
  have above : ¬scale ≤ scale + significand.log2 - 52 := by omega
  have offset : scale - -149 = scale + 149 := by omega
  simp only [nearest, if_neg nonzero, leastScale, length, fraction, target, if_neg above, gap,
    halfEven_mul_pow, offset]
  have special : single.special * 2 ^ single.fraction = 255 * 2 ^ 23 := rfl
  rw [special]
  apply Nat.min_eq_right
  change _ * 2 ^ 23 + _ ≤ _
  omega

end

/-- A double holds the very number that a single holds. -/
theorem FitsSingle.magnitude_nearest {significand : Nat} {scale : Int}
    (fits : FitsSingle significand scale) (sign : Nat) :
    double.magnitude (double.signed sign (double.nearest significand scale)) =
      .finite (significand * 2 ^ (52 - significand.log2)) (scale + significand.log2 - 52) := by
  obtain ⟨lower, upper⟩ := fits.stretched
  have small := fits.log2_le
  have least := fits.least
  have greatest := fits.greatest
  have word : double.nearest significand scale =
      ((scale + significand.log2 + 1022).toNat + 1) * 2 ^ double.fraction +
        (significand * 2 ^ (52 - significand.log2) - 2 ^ 52) := by
    rw [fits.nearest_double]
    change _ = _ * 2 ^ 52 + _
    omega
  have exponents : (scale + significand.log2 + 1022).toNat + 1 < 2 ^ double.exponent := by
    change _ < 2 ^ 11
    omega
  have fractions : significand * 2 ^ (52 - significand.log2) - 2 ^ 52 < 2 ^ double.fraction := by
    change _ < 2 ^ 52
    omega
  have special : (scale + significand.log2 + 1022).toNat + 1 ≠ double.special := by
    change _ ≠ 2047
    omega
  rw [word, magnitude_signed double exponents fractions, if_neg special,
    if_neg (Nat.succ_ne_zero _)]
  have leastScale : double.leastScale = -1074 := rfl
  have hidden : significand * 2 ^ (52 - significand.log2) - 2 ^ 52 + 2 ^ double.fraction =
      significand * 2 ^ (52 - significand.log2) := Nat.sub_add_cancel lower
  rw [hidden, leastScale]
  congr 1
  omega

theorem FitsSingle.nearest_lt {significand : Nat} {scale : Int}
    (fits : FitsSingle significand scale) : double.nearest significand scale < 2 ^ 63 := by
  obtain ⟨_, upper⟩ := fits.stretched
  have small := fits.log2_le
  have least := fits.least
  have greatest := fits.greatest
  rw [fits.nearest_double]
  omega

theorem magnitude_single_cases {exponent fraction : Nat} (sign : Nat) (exponents : exponent < 2 ^ 8)
    (fractions : fraction < 2 ^ 23) :
    let held := single.magnitude (single.signed sign (exponent * 2 ^ 23 + fraction))
    (held = .finite 0 (-149) ∧ exponent = 0 ∧ fraction = 0) ∨
      (∃ significand scale, held = .finite significand scale ∧ FitsSingle significand scale ∧
        (scale + 149).toNat * 2 ^ 23 + significand = exponent * 2 ^ 23 + fraction) ∨
      (held = .infinite ∧ exponent = 255 ∧ fraction = 0) ∨
      (held = .nan fraction ∧ exponent = 255) := by
  intro held
  have fields : held = _ := magnitude_signed single exponents fractions
  have special : single.special = 255 := rfl
  have leastScale : single.leastScale = -149 := rfl
  have unit : 2 ^ single.fraction = 2 ^ 23 := rfl
  rw [special, leastScale, unit] at fields
  by_cases isSpecial : exponent = 255
  · by_cases infinite : fraction = 0
    · simp only [isSpecial, infinite, if_true] at fields
      exact .inr (.inr (.inl ⟨fields, isSpecial, infinite⟩))
    · simp only [isSpecial, infinite, if_true, if_false] at fields
      exact .inr (.inr (.inr ⟨fields, isSpecial⟩))
  · rw [if_neg isSpecial] at fields
    by_cases subnormal : exponent = 0
    · rw [if_pos subnormal] at fields
      by_cases zero : fraction = 0
      · exact .inl ⟨zero ▸ fields, subnormal, zero⟩
      · refine .inr (.inl ⟨_, _, fields, ⟨zero, ?_, ?_, ?_, .inl rfl⟩, ?_⟩) <;> omega
    · rw [if_neg subnormal] at fields
      refine .inr (.inl ⟨_, _, fields, ⟨?_, ?_, ?_, ?_, .inr ?_⟩, ?_⟩) <;> omega

private theorem mul_div_eq_shiftLeft (payload : Nat) :
    payload * 2 ^ 52 / 2 ^ 23 = payload <<< 29 := by
  rw [Nat.shiftLeft_eq]
  omega

/-- The payload of a NaN, which a double makes quiet, is as quiet in a single. -/
theorem quiet_payload_back (payload : Nat) :
    (payload * 2 ^ 52 / 2 ^ 23 ||| 2 ^ 51) * 2 ^ 23 / 2 ^ 52 ||| 2 ^ 22 = payload ||| 2 ^ 22 := by
  have cut (n : Nat) : n * 2 ^ 23 / 2 ^ 52 = n >>> 29 := by
    rw [Nat.shiftRight_eq_div_pow]
    omega
  have quiet : 2 ^ 51 >>> 29 ||| 2 ^ 22 = 2 ^ 22 := by decide
  rw [mul_div_eq_shiftLeft, cut, Nat.shiftRight_or_distrib, Nat.shiftLeft_shiftRight, Nat.or_assoc,
    quiet]

theorem quiet_payload_again (payload : Nat) :
    (payload ||| 2 ^ 22) * 2 ^ 52 / 2 ^ 23 ||| 2 ^ 51 = payload * 2 ^ 52 / 2 ^ 23 ||| 2 ^ 51 := by
  have quiet : 2 ^ 22 <<< 29 ||| 2 ^ 51 = 2 ^ 51 := by decide
  rw [mul_div_eq_shiftLeft, mul_div_eq_shiftLeft, Nat.shiftLeft_or_distrib, Nat.or_assoc, quiet]

theorem quiet_payload_lt {payload : Nat} (fits : payload < 2 ^ 23) :
    (payload * 2 ^ 52 / 2 ^ 23 ||| 2 ^ 51) < 2 ^ 52 := by
  refine Nat.or_lt_two_pow ?_ (by decide)
  omega

/-- The word of a single that a way through a double and back leaves with the same double. -/
structure ComesBack (word : Nat) : Prop where
  wide : single.convert double word < 2 ^ 64
  back : double.convert single (single.convert double word) < 2 ^ 32
  again : single.convert double (double.convert single (single.convert double word)) =
    single.convert double word

section

variable {sign : Nat} (signs : sign < 2)

include signs

theorem comesBack_of_rounded {rest wide back : Nat} (rests : rest < 2 ^ 31) (wides : wide < 2 ^ 63)
    (backs : back < 2 ^ 31)
    (widened : double.rounded single (single.magnitude (single.signed sign rest)) = wide)
    (narrowed : single.rounded double (double.magnitude (double.signed sign wide)) = back)
    (again : double.rounded single (single.magnitude (single.signed sign back)) = wide) :
    ComesBack (single.signed sign rest) := by
  have wide_eq : single.convert double (single.signed sign rest) = double.signed sign wide :=
    widened ▸ convert_signed single double signs rests
  have back_eq : double.convert single (double.signed sign wide) = single.signed sign back :=
    narrowed ▸ convert_signed double single signs wides
  have again_eq : single.convert double (single.signed sign back) = double.signed sign wide :=
    again ▸ convert_signed single double signs backs
  constructor
  · rw [wide_eq]
    change sign * 2 ^ 63 + wide < 2 ^ 64
    omega
  · rw [wide_eq, back_eq]
    change sign * 2 ^ 31 + back < 2 ^ 32
    omega
  · rw [wide_eq, back_eq, again_eq]

theorem comesBack_zero : ComesBack (single.signed sign 0) := by
  have held : single.magnitude (single.signed sign 0) = .finite 0 (-149) :=
    @magnitude_signed single sign 0 0 (by decide) (by decide)
  have wide : double.magnitude (double.signed sign 0) = .finite 0 (-1074) :=
    @magnitude_signed double sign 0 0 (by decide) (by decide)
  have widened : double.rounded single (single.magnitude (single.signed sign 0)) = 0 := by
    rw [held]
    rfl
  refine comesBack_of_rounded signs (by decide) (by decide) (by decide) widened ?_ widened
  rw [wide]
  rfl

theorem comesBack_infinite : ComesBack (single.signed sign (255 * 2 ^ 23)) := by
  have held : single.magnitude (single.signed sign (255 * 2 ^ 23)) = .infinite :=
    @magnitude_signed single sign 255 0 (by decide) (by decide)
  have wide : double.magnitude (double.signed sign (2047 * 2 ^ 52)) = .infinite :=
    @magnitude_signed double sign 2047 0 (by decide) (by decide)
  have widened : double.rounded single (single.magnitude (single.signed sign (255 * 2 ^ 23))) =
      2047 * 2 ^ 52 := by
    rw [held]
    rfl
  refine comesBack_of_rounded signs (by decide) (by decide) (by decide) widened ?_ widened
  rw [wide]
  rfl

theorem FitsSingle.comesBack {significand rest : Nat} {scale : Int}
    (fits : FitsSingle significand scale) (rests : rest < 2 ^ 31)
    (held : single.magnitude (single.signed sign rest) = .finite significand scale)
    (same : (scale + 149).toNat * 2 ^ 23 + significand = rest) :
    ComesBack (single.signed sign rest) := by
  have widened : double.rounded single (single.magnitude (single.signed sign rest)) =
      double.nearest significand scale := by
    rw [held]
    rfl
  refine comesBack_of_rounded signs rests fits.nearest_lt rests widened ?_ widened
  rw [fits.magnitude_nearest]
  exact fits.nearest_single.trans same

/-- A NaN comes back although its payload becomes quiet. -/
theorem comesBack_nan {payload : Nat} (fits : payload < 2 ^ 23)
    (held : single.magnitude (single.signed sign (255 * 2 ^ 23 + payload)) = .nan payload) :
    ComesBack (single.signed sign (255 * 2 ^ 23 + payload)) := by
  have quiet {half payload : Nat} (positive : half ≠ 0) : payload ||| half ≠ 0 := by
    intro none
    exact positive (Nat.or_eq_zero_iff.mp none).2
  have quieted : payload ||| 2 ^ 22 < 2 ^ 23 := Nat.or_lt_two_pow fits (by decide)
  have stretched := quiet_payload_lt fits
  have wide : double.magnitude (double.signed sign
      (2047 * 2 ^ 52 + (payload * 2 ^ 52 / 2 ^ 23 ||| 2 ^ 51))) =
        .nan (payload * 2 ^ 52 / 2 ^ 23 ||| 2 ^ 51) := by
    refine (magnitude_signed double (by decide) stretched).trans ?_
    exact (if_pos rfl).trans (if_neg (quiet (by decide)))
  have back : single.magnitude (single.signed sign (255 * 2 ^ 23 + (payload ||| 2 ^ 22))) =
      .nan (payload ||| 2 ^ 22) := by
    refine (magnitude_signed single (by decide) quieted).trans ?_
    exact (if_pos rfl).trans (if_neg (quiet (by decide)))
  have widened : double.rounded single
      (single.magnitude (single.signed sign (255 * 2 ^ 23 + payload))) =
        2047 * 2 ^ 52 + (payload * 2 ^ 52 / 2 ^ 23 ||| 2 ^ 51) :=
    congrArg (double.rounded single) held
  have again : double.rounded single
      (single.magnitude (single.signed sign (255 * 2 ^ 23 + (payload ||| 2 ^ 22)))) =
        2047 * 2 ^ 52 + (payload * 2 ^ 52 / 2 ^ 23 ||| 2 ^ 51) := by
    rw [back]
    exact congrArg (2047 * 2 ^ 52 + ·) (quiet_payload_again payload)
  refine comesBack_of_rounded signs ?_ ?_ ?_ widened ?_ again
  · omega
  · omega
  · omega
  · rw [wide]
    exact congrArg (255 * 2 ^ 23 + ·) (quiet_payload_back payload)

end

private theorem exists_signed {word : Nat} (fits : word < 2 ^ 32) :
    ∃ sign exponent fraction, sign < 2 ∧ exponent < 2 ^ 8 ∧ fraction < 2 ^ 23 ∧
      word = single.signed sign (exponent * 2 ^ 23 + fraction) := by
  refine ⟨word / 2 ^ 31, word / 2 ^ 23 % 2 ^ 8, word % 2 ^ 23, ?_, ?_, ?_, ?_⟩
  · omega
  · omega
  · omega
  · change word = _ * 2 ^ 31 + _
    omega

theorem comesBack {word : Nat} (fits : word < 2 ^ 32) : ComesBack word := by
  obtain ⟨sign, exponent, fraction, signs, exponents, fractions, rfl⟩ := exists_signed fits
  rcases magnitude_single_cases sign exponents fractions with
    ⟨_, rfl, rfl⟩ | ⟨_, _, held, number, same⟩ | ⟨_, rfl, rfl⟩ | ⟨held, rfl⟩
  · exact comesBack_zero signs
  · have rests : exponent * 2 ^ 23 + fraction < 2 ^ 31 := by omega
    exact number.comesBack signs rests held same
  · exact comesBack_infinite signs
  · exact comesBack_nan signs fractions held

end Format

/-- A single loses nothing on its way through a double, except that a NaN becomes quiet at once. -/
theorem Single.widen_narrow_widen (x : Single) : x.widen.narrow.widen = x.widen := by
  obtain ⟨wide, back, again⟩ := Format.comesBack x.bits.toNat_lt
  have widened : x.widen.bits.toNat = Format.single.convert .double x.bits.toNat :=
    UInt64.toNat_ofNat_of_lt wide
  have narrowed : x.widen.narrow.bits.toNat =
      Format.double.convert .single (Format.single.convert .double x.bits.toNat) := by
    rw [Double.narrow, widened]
    exact UInt32.toNat_ofNat_of_lt back
  rw [widen, narrowed, again, widen]

end TypedRows.Numeric
