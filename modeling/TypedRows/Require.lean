/-! Requirements: conditions and look-ups that have to succeed, each with the cause that is reported
if they do not. A chain of requirements reports the first one that fails. -/
namespace TypedRows

variable {ε α β : Type}

/-- Fails with a cause unless the condition holds. -/
def require (condition : Bool) (cause : ε) : Except ε Unit :=
  if condition then .ok () else .error cause

/-- What was found, or a failure with a cause. -/
def required (found : Option α) (cause : ε) : Except ε α :=
  match found with
  | some a => .ok a
  | none => .error cause

theorem require_eq_ok_iff (condition : Bool) (cause : ε) (done : Unit) :
    require condition cause = .ok done ↔ condition = true := by
  cases condition <;> simp [require]

theorem require_eq_error_iff (condition : Bool) (cause reported : ε) :
    require condition cause = .error reported ↔ condition = false ∧ cause = reported := by
  cases condition <;> simp [require]

theorem required_eq_ok_iff (found : Option α) (cause : ε) (a : α) :
    required found cause = .ok a ↔ found = some a := by
  cases found <;> simp [required]

theorem map_required (change : α → β) (found : Option α) (cause : ε) :
    (required found cause).map change = required (found.map change) cause := by
  cases found <;> rfl

theorem required_eq_error_iff (found : Option α) (cause reported : ε) :
    required found cause = .error reported ↔ found = none ∧ cause = reported := by
  cases found <;> simp [required]

@[simp]
theorem ok_bind (a : α) (next : α → Except ε β) : (Except.ok a >>= next) = next a := rfl

@[simp]
theorem error_bind (cause : ε) (next : α → Except ε β) :
    (Except.error cause >>= next) = .error cause := rfl

/-- A chain succeeds exactly if its first link and what follows it do. -/
theorem bind_eq_ok_iff (first : Except ε α) (next : α → Except ε β) (b : β) :
    first >>= next = .ok b ↔ ∃ a, first = .ok a ∧ next a = .ok b := by
  cases first with
  | error cause => simp [bind, Except.bind]
  | ok a => simp [bind, Except.bind]

/-- A chain reports the cause of its first link, or else what the rest of it reports. -/
theorem bind_eq_error_iff (first : Except ε α) (next : α → Except ε β) (cause : ε) :
    first >>= next = .error cause ↔
      first = .error cause ∨ ∃ a, first = .ok a ∧ next a = .error cause := by
  cases first with
  | error reported => simp [bind, Except.bind]
  | ok a => simp [bind, Except.bind]

end TypedRows
