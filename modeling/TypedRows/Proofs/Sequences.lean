import Mathlib.Data.List.Forall2
import TypedRows.Require

/-! Computations that may fail, run over the items of a list. -/
namespace TypedRows

variable {ε α β : Type}

theorem mapM_eq_ok_iff (run : α → Except ε β) (items : List α) (results : List β) :
    items.mapM run = .ok results ↔
      List.Forall₂ (fun item result => run item = .ok result) items results := by
  induction items generalizing results with
  | nil => simp [pure, Except.pure, eq_comm]
  | cons item rest ih =>
    rw [List.mapM_cons, bind_eq_ok_iff, List.forall₂_cons_left_iff]
    constructor
    · intro holds
      obtain ⟨result, done, remaining⟩ := holds
      obtain ⟨tail, tailDone, same⟩ := (bind_eq_ok_iff _ _ _).mp remaining
      cases same
      exact ⟨result, tail, done, (ih tail).mp tailDone, rfl⟩
    · intro holds
      obtain ⟨result, tail, done, related, rfl⟩ := holds
      refine ⟨result, done, (bind_eq_ok_iff _ _ _).mpr ⟨tail, (ih tail).mpr related, rfl⟩⟩

theorem mapM_eq_ok_iff_forall₂ {run : α → Except ε β} {related : α → β → Prop} {items : List α}
    (each : ∀ item ∈ items, ∀ result, run item = .ok result ↔ related item result)
    (results : List β) : items.mapM run = .ok results ↔ List.Forall₂ related items results := by
  rw [mapM_eq_ok_iff]
  induction items generalizing results with
  | nil => simp
  | cons item rest ih =>
    have later := ih fun other member => each other (List.mem_cons_of_mem _ member)
    simp only [List.forall₂_cons_left_iff, each item List.mem_cons_self, later]

theorem mapM_eq_ok_map {run : α → Except ε β} {result : α → β} {items : List α}
    (done : ∀ item ∈ items, run item = .ok (result item)) :
    items.mapM run = .ok (items.map result) := by
  refine (mapM_eq_ok_iff _ _ _).mpr (List.forall₂_map_right_iff.mpr ?_)
  exact List.forall₂_same.mpr done

theorem forall₂_of_mapM_eq_ok {γ : Type} {run : α → Except ε β} {other : α → Except ε γ}
    {related : β → γ → Prop} {items : List α} {results : List β} {others : List γ}
    (done : items.mapM run = .ok results) (otherDone : items.mapM other = .ok others)
    (each : ∀ item ∈ items, ∀ b c, run item = .ok b → other item = .ok c → related b c) :
    List.Forall₂ related results others := by
  have first := (mapM_eq_ok_iff _ _ _).mp done
  have second := (mapM_eq_ok_iff _ _ _).mp otherDone
  clear done otherDone
  induction first generalizing others with
  | nil =>
    cases second
    exact .nil
  | cons ran _ ih =>
    cases second with
    | cons otherRan later =>
      exact .cons (each _ List.mem_cons_self _ _ ran otherRan)
        (ih (fun item member => each item (List.mem_cons_of_mem _ member)) later)

theorem exists_mem_of_forall₂ {related : α → β → Prop} {items : List α} {results : List β}
    {item : α} (pairwise : List.Forall₂ related items results) (member : item ∈ items) :
    ∃ result ∈ results, related item result := by
  induction pairwise with
  | nil => cases member
  | @cons first result rest later here _ ih =>
    rcases List.mem_cons.mp member with same | member
    · subst same
      exact ⟨result, List.mem_cons_self, here⟩
    · obtain ⟨found, present, holds⟩ := ih member
      exact ⟨found, List.mem_cons_of_mem _ present, holds⟩

theorem exists_mem_of_mapM_eq_ok {run : α → Except ε β} {items : List α} {results : List β}
    {item : α} (done : items.mapM run = .ok results) (member : item ∈ items) :
    ∃ result ∈ results, run item = .ok result :=
  exists_mem_of_forall₂ ((mapM_eq_ok_iff _ _ _).mp done) member

theorem exists_mapM_eq_ok_iff {run : α → Except ε β} {items : List α} :
    (∃ results, items.mapM run = .ok results) ↔ ∀ item ∈ items, ∃ result, run item = .ok result := by
  constructor
  · rintro ⟨results, done⟩ item member
    obtain ⟨result, _, ran⟩ := exists_mem_of_mapM_eq_ok done member
    exact ⟨result, ran⟩
  · intro each
    induction items with
    | nil => exact ⟨[], rfl⟩
    | cons item rest ih =>
      obtain ⟨result, ran⟩ := each item List.mem_cons_self
      obtain ⟨results, done⟩ := ih fun later member => each later (List.mem_cons_of_mem _ member)
      refine ⟨result :: results, ?_⟩
      rw [List.mapM_cons, ran, ok_bind, done]
      rfl

theorem exists_mapM_eq_some_iff {run : α → Option β} {items : List α} :
    (∃ results, items.mapM run = some results) ↔
      ∀ item ∈ items, ∃ result, run item = some result := by
  induction items with
  | nil => exact iff_of_true ⟨[], rfl⟩ (fun _ none => absurd none List.not_mem_nil)
  | cons first rest ih =>
    rw [List.forall_mem_cons, ← ih]
    simp only [List.mapM_cons, Option.pure_def, Option.bind_eq_bind, Option.bind_eq_some_iff]
    constructor
    · intro ⟨_, result, ran, results, done, _⟩
      exact ⟨⟨result, ran⟩, results, done⟩
    · intro ⟨⟨result, ran⟩, results, done⟩
      exact ⟨result :: results, result, ran, results, done, rfl⟩

theorem exists_mem_of_mapM_eq_error {run : α → Except ε β} {items : List α} {cause : ε}
    (failed : items.mapM run = .error cause) : ∃ item ∈ items, run item = .error cause := by
  induction items with
  | nil => cases failed
  | cons item rest ih =>
    rw [List.mapM_cons, bind_eq_error_iff] at failed
    rcases failed with here | ⟨_, _, later⟩
    · exact ⟨item, List.mem_cons_self, here⟩
    · rcases (bind_eq_error_iff _ _ _).mp later with later | ⟨_, _, done⟩
      · obtain ⟨found, member, stopped⟩ := ih later
        exact ⟨found, List.mem_cons_of_mem _ member, stopped⟩
      · cases done

/-- Steps that succeed alike lead to the same last states. -/
theorem foldlM_eq_ok_iff_of_steps {step other : β → α → Except ε β}
    (alike : ∀ state item next, step state item = .ok next ↔ other state item = .ok next)
    (items : List α) (first last : β) :
    items.foldlM step first = .ok last ↔ items.foldlM other first = .ok last := by
  induction items generalizing first with
  | nil => rfl
  | cons item rest ih => simp only [List.foldlM_cons, bind_eq_ok_iff, alike, ih]

theorem foldlM_congr_of_mem {step other : β → α → Except ε β} {items : List α}
    (alike : ∀ item ∈ items, ∀ state, step state item = other state item) (first : β) :
    items.foldlM step first = items.foldlM other first := by
  induction items generalizing first with
  | nil => rfl
  | cons item rest ih =>
    have later := ih fun next member => alike next (List.mem_cons_of_mem _ member)
    simp only [List.foldlM_cons, alike item List.mem_cons_self, later]

theorem foldlM_keeps {step : β → α → Except ε β} {kept : β → Prop} {items : List α}
    (steps : ∀ item ∈ items, ∀ state next, step state item = .ok next → kept state → kept next)
    {first last : β} (done : items.foldlM step first = .ok last) (start : kept first) :
    kept last := by
  induction items generalizing first with
  | nil =>
    cases done
    exact start
  | cons item rest ih =>
    rw [List.foldlM_cons, bind_eq_ok_iff] at done
    obtain ⟨next, stepped, remaining⟩ := done
    refine ih ?_ remaining (steps item List.mem_cons_self first next stepped start)
    exact fun later member => steps later (List.mem_cons_of_mem _ member)

theorem exists_step_of_foldlM {step : β → α → Except ε β} {items : List α} {item : α}
    {first last : β} (done : items.foldlM step first = .ok last) (member : item ∈ items) :
    ∃ state next, step state item = .ok next := by
  obtain ⟨before, after, rfl⟩ := List.append_of_mem member
  rw [List.foldlM_append, bind_eq_ok_iff] at done
  obtain ⟨state, _, remaining⟩ := done
  rw [List.foldlM_cons, bind_eq_ok_iff] at remaining
  obtain ⟨next, stepped, _⟩ := remaining
  exact ⟨state, next, stepped⟩

/-- A run of steps fails where the steps up to some item succeed and the step of that item fails. -/
theorem foldlM_eq_error_iff {step : β → α → Except ε β} {items : List α} {first : β} {cause : ε} :
    items.foldlM step first = .error cause ↔
      ∃ before item after state, items = before ++ item :: after ∧
        before.foldlM step first = .ok state ∧ step state item = .error cause := by
  constructor
  · intro failed
    induction items generalizing first with
    | nil => cases failed
    | cons item rest ih =>
      rw [List.foldlM_cons, bind_eq_error_iff] at failed
      rcases failed with here | ⟨next, stepped, later⟩
      · exact ⟨[], item, rest, first, rfl, rfl, here⟩
      · obtain ⟨before, stopped, after, state, rfl, reached, fails⟩ := ih later
        refine ⟨item :: before, stopped, after, state, rfl, ?_, fails⟩
        rw [List.foldlM_cons, bind_eq_ok_iff]
        exact ⟨next, stepped, reached⟩
  · rintro ⟨before, item, after, state, rfl, reached, fails⟩
    rw [List.foldlM_append, reached, ok_bind, List.foldlM_cons, fails, error_bind]

/-- If what a step fails with depends on its item only, a run fails with what the first item that
fails has to fail with. -/
theorem foldlM_eq_error_iff_findSome? {step : β → α → Except ε β} (kept : β → Prop)
    {fault? : α → Option ε} {items : List α}
    (keeps : ∀ item ∈ items, ∀ state next, step state item = .ok next → kept state → kept next)
    (faults : ∀ item ∈ items, ∀ state, kept state →
      ∀ cause, step state item = .error cause ↔ fault? item = some cause)
    {first : β} (start : kept first) (cause : ε) :
    items.foldlM step first = .error cause ↔ items.findSome? fault? = some cause := by
  induction items generalizing first with
  | nil => exact iff_of_false nofun nofun
  | cons item rest ih =>
    have here := faults item List.mem_cons_self first start
    rw [List.foldlM_cons, List.findSome?_cons]
    cases stepped : step first item with
    | error found =>
      rw [(here found).mp stepped, error_bind, Except.error.injEq, Option.some.injEq]
    | ok next =>
      have sound : fault? item = none := by
        cases fault : fault? item with
        | none => rfl
        | some found =>
          rw [(here found).mpr fault] at stepped
          cases stepped
      rw [sound, ok_bind]
      exact ih (fun other member => keeps other (List.mem_cons_of_mem _ member))
        (fun other member => faults other (List.mem_cons_of_mem _ member))
        (keeps item List.mem_cons_self first next stepped start)

theorem map_eq_ok_iff (result : Except ε α) (convert : α → β) (b : β) :
    result.map convert = .ok b ↔ ∃ a, result = .ok a ∧ convert a = b := by
  cases result <;> simp [Except.map]

theorem mapError_eq_ok_iff {γ : Type} (result : Except ε α) (convert : ε → γ) (a : α) :
    result.mapError convert = .ok a ↔ result = .ok a := by
  cases result <;> simp [Except.mapError]

theorem mapError_eq_error_iff {γ : Type} (result : Except ε α) (convert : ε → γ) (cause : γ) :
    result.mapError convert = .error cause ↔
      ∃ found, result = .error found ∧ convert found = cause := by
  cases result <;> simp [Except.mapError]

end TypedRows
