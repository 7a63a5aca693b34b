import Mathlib.Data.List.Basic
import TypedRows.Proofs.Decoding

/-! The passage between attributes and column values as a whole, singles apart, to which doubles are
rounded. What is taken is what can be given, and it is given back unchanged. Two things that
attributes of a type hold become one value exactly where an option stands in an option, because the
absence of either is the same null. -/
namespace TypedRows.AttributeType

/-- Whether the type is itself an option. -/
def isOption : AttributeType → Bool
  | .option _ => true
  | _ => false

/-- Whether no option of the type is one of an option. -/
def optionsApart : AttributeType → Bool
  | .option inner => !inner.isOption && inner.optionsApart
  | .list item => item.optionsApart
  | _ => true

theorem exists_toValue_eq_null_iff (type : AttributeType) :
    (∃ held, type.toValue held = .null) ↔ type.isOption = true := by
  constructor
  · rintro ⟨held, null⟩
    cases type <;> first | rfl | cases null
  · intro option
    cases type with
    | option inner => exact ⟨none, rfl⟩
    | _ => cases option

theorem ofValue?_toValue_iff_injective (type : AttributeType) :
    (∀ held, type.ofValue? (type.toValue held) = some held) ↔ Function.Injective type.toValue := by
  constructor
  · intro back first second same
    exact Option.some.inj ((back first).symm.trans ((congrArg _ same).trans (back second)))
  · intro injective held
    obtain ⟨fresh, fits, same⟩ := type.exists_ofValue?_toValue held
    rw [fits, injective same]

theorem toValue_option_injective_iff (inner : AttributeType) :
    Function.Injective (option inner).toValue ↔
      inner.isOption = false ∧ Function.Injective inner.toValue := by
  constructor
  · intro injective
    constructor
    · by_contra absent
      obtain ⟨held, null⟩ := inner.exists_toValue_eq_null_iff.mpr (by simpa using absent)
      have same : (option inner).toValue (some held) = (option inner).toValue none := null
      cases injective same
    · intro first second same
      exact Option.some.inj (injective same)
  · rintro ⟨plain, injective⟩ first second same
    have present (held : inner.Carrier) : inner.toValue held ≠ .null := fun null =>
      Bool.false_ne_true (plain.symm.trans (inner.exists_toValue_eq_null_iff.mp ⟨held, null⟩))
    cases first with
    | none =>
      cases second with
      | none => rfl
      | some held => exact absurd same.symm (present held)
    | some held =>
      cases second with
      | none => exact absurd same (present held)
      | some other => exact congrArg some (injective same)

theorem toValue_list_injective_iff (item : AttributeType) :
    Function.Injective (list item).toValue ↔ Function.Injective item.toValue := by
  refine Iff.trans ⟨?_, ?_⟩ List.map_injective_iff
  · intro injective first second same
    exact injective (congrArg Value.list same)
  · intro injective first second same
    exact injective (Value.list.inj same)

/-- Without singles, the values of a type tell apart what attributes of it hold exactly if no option
stands in an option. -/
theorem toValue_injective_iff {type : AttributeType} (exact : type.singleFree = true) :
    Function.Injective type.toValue ↔ type.optionsApart = true := by
  induction type with
  | single => cases exact
  | bool | double | string | ulid =>
    refine iff_of_true (fun first second same => ?_) rfl
    cases same
    rfl
  | signed width =>
    exact iff_of_true (fun first second same => Subtype.ext (Value.int.inj same)) rfl
  | unsigned width =>
    exact iff_of_true (fun first second same => Subtype.ext (Value.uint.inj same)) rfl
  | option inner ih =>
    simp only [toValue_option_injective_iff, ih exact, optionsApart, Bool.and_eq_true,
      Bool.not_eq_true']
  | list item ih => rw [toValue_list_injective_iff, ih exact, optionsApart]

/-- Without singles, exactly those values are taken that are given, each is given back as it was,
and everything comes back as it was exactly if no option stands in an option. -/
theorem converts_exactly {type : AttributeType} (exact : type.singleFree = true) :
    (∀ value held, type.ofValue? value = some held → type.toValue held = value) ∧
    (∀ value, (∃ held, type.ofValue? value = some held) ↔ ∃ held, type.toValue held = value) ∧
    ((∀ held, type.ofValue? (type.toValue held) = some held) ↔ type.optionsApart = true) := by
  refine ⟨fun value held fits => toValue_of_ofValue? exact fits, fun value => ?_, ?_⟩
  · constructor
    · rintro ⟨held, fits⟩
      exact ⟨held, toValue_of_ofValue? exact fits⟩
    · rintro ⟨held, rfl⟩
      obtain ⟨fresh, fits, _⟩ := type.exists_ofValue?_toValue held
      exact ⟨fresh, fits⟩
  · rw [ofValue?_toValue_iff_injective, toValue_injective_iff exact]

/-- A list of small numbers, some of them absent, is taken if each of them is small, and it comes
back. An option of an option does not always come back. -/
theorem converts_exactly_list :
    (∃ held, (list (option (signed .w8))).toValue held = .list [.int (-5), .null]) ∧
    (¬∃ held, (list (option (signed .w8))).toValue held = .list [.int (-5), .int 300]) ∧
    (∀ held, (list (option (signed .w8))).ofValue? ((list (option (signed .w8))).toValue held) =
      some held) ∧
    ¬∀ held, (option (option .bool)).ofValue? ((option (option .bool)).toValue held) =
      some held := by
  obtain ⟨_, taken, back⟩ := converts_exactly (rfl : (list (option (signed .w8))).singleFree = true)
  obtain ⟨_, _, nested⟩ := converts_exactly (rfl : (option (option .bool)).singleFree = true)
  refine ⟨(taken _).mp ⟨_, rfl⟩, ?_, back.mpr rfl, fun always => ?_⟩
  · rw [← taken]
    rintro ⟨held, fits⟩
    cases fits
  · exact Bool.false_ne_true (nested.mp always)

end TypedRows.AttributeType
