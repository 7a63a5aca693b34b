/-! Lists whose entries carry a key and stand in ascending order of it, each key once. -/
namespace TypedRows.Keyed

/-- The entry of a key. -/
def find? {α κ : Type} [DecidableEq κ] (key : α → κ) (wanted : κ) (entries : List α) : Option α :=
  entries.find? (key · = wanted)

variable {α κ : Type} [LT κ] [DecidableLT κ] [DecidableEq κ]

/-- Puts an entry in its place. The entry that had its key gives way. -/
def place (key : α → κ) (entry : α) : List α → List α
  | [] => [entry]
  | first :: rest =>
    if key entry < key first then entry :: first :: rest
    else if key entry = key first then entry :: rest
    else first :: place key entry rest

/-- Puts an entry in its place, unless its key is taken. -/
def placeNew? (key : α → κ) (entry : α) (entries : List α) : Option (List α) :=
  match find? key (key entry) entries with
  | some _ => none
  | none => some (place key entry entries)

theorem mem_place_self (key : α → κ) (entry : α) (entries : List α) :
    entry ∈ place key entry entries := by
  induction entries with
  | nil => simp [place]
  | cons first rest ih =>
    unfold place
    split
    · simp
    · split <;> simp [ih]

theorem mem_of_mem_place {key : α → κ} {entry other : α} {entries : List α}
    (member : other ∈ place key entry entries) : other = entry ∨ other ∈ entries := by
  induction entries with
  | nil => simpa [place] using member
  | cons first rest ih =>
    unfold place at member
    split at member
    · simpa using member
    · split at member
      · rcases List.mem_cons.mp member with same | later
        · exact .inl same
        · exact .inr (List.mem_cons_of_mem _ later)
      · rcases List.mem_cons.mp member with same | later
        · exact .inr (same ▸ List.mem_cons_self)
        · exact (ih later).imp_right (List.mem_cons_of_mem _)

end TypedRows.Keyed
