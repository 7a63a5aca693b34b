import Mathlib.Data.List.Induction
import Mathlib.Data.List.Sort
import Mathlib.Data.String.Basic
import TypedRows.Keyed
import TypedRows.Require

/-! Lists in ascending order of a key. Placing an entry keeps the order and changes the look-up of
its own key only, and refusing taken keys one entry at a time accepts exactly the lists without a
repeated key. -/
namespace TypedRows.Keyed

variable {α κ : Type}

/-- The keys ascend strictly, so each key occurs once. -/
def Ascending [LT κ] (key : α → κ) (entries : List α) : Prop :=
  entries.Pairwise (key · < key ·)

/-- Every entry in its place, one after another; of two with the same key the later one stays. -/
def placeAll [LT κ] [DecidableLT κ] [DecidableEq κ] (key : α → κ) (fresh entries : List α) :
    List α :=
  fresh.foldl (fun placed entry => place key entry placed) entries

variable [LinearOrder κ] {key : α → κ}

theorem Ascending.eq_of_mem_iff {entries others : List α} (ascending : Ascending key entries)
    (otherAscending : Ascending key others) (same : ∀ entry, entry ∈ entries ↔ entry ∈ others) :
    entries = others := by
  have irreflexive : Std.Irrefl fun first second : α => key first < key second :=
    ⟨fun first => lt_irrefl (key first)⟩
  have antisymmetric : Std.Antisymm fun first second : α => key first < key second :=
    ⟨fun first second before after => absurd after (lt_asymm before)⟩
  exact List.Pairwise.eq_of_mem_iff ascending otherAscending same

theorem mem_place_iff {entry other : α} {entries : List α} (ascending : Ascending key entries) :
    other ∈ place key entry entries ↔
      other = entry ∨ (other ∈ entries ∧ key other ≠ key entry) := by
  induction entries with
  | nil => simp [place]
  | cons first rest ih =>
    obtain ⟨above, ordered⟩ := List.pairwise_cons.mp ascending
    have later : ∀ candidate ∈ rest, key first < key candidate := above
    unfold place
    split
    · rename_i before
      have distinct : ∀ candidate ∈ first :: rest, key candidate ≠ key entry := by
        intro candidate member
        rcases List.mem_cons.mp member with rfl | member
        · exact ne_of_gt before
        · exact ne_of_gt (before.trans (later candidate member))
      constructor
      · intro member
        rcases List.mem_cons.mp member with same | member
        · exact .inl same
        · exact .inr ⟨member, distinct other member⟩
      · intro either
        rcases either with same | ⟨member, _⟩
        · exact same ▸ List.mem_cons_self
        · exact List.mem_cons_of_mem _ member
    · split
      · rename_i same
        have distinct : ∀ candidate ∈ rest, key candidate ≠ key entry := by
          intro candidate member
          rw [same]
          exact ne_of_gt (later candidate member)
        constructor
        · intro member
          rcases List.mem_cons.mp member with equal | member
          · exact .inl equal
          · exact .inr ⟨List.mem_cons_of_mem _ member, distinct other member⟩
        · intro either
          rcases either with equal | ⟨member, differs⟩
          · exact equal ▸ List.mem_cons_self
          · rcases List.mem_cons.mp member with rfl | member
            · exact absurd same.symm differs
            · exact List.mem_cons_of_mem _ member
      · rename_i differs
        rw [List.mem_cons, ih ordered, List.mem_cons]
        constructor
        · intro either
          rcases either with rfl | same | ⟨member, apart⟩
          · exact .inr ⟨.inl rfl, fun same => differs same.symm⟩
          · exact .inl same
          · exact .inr ⟨.inr member, apart⟩
        · intro either
          rcases either with same | ⟨rfl | member, apart⟩
          · exact .inr (.inl same)
          · exact .inl rfl
          · exact .inr (.inr ⟨member, apart⟩)

theorem ascending_place {entries : List α} (entry : α) (ascending : Ascending key entries) :
    Ascending key (place key entry entries) := by
  induction entries with
  | nil => simp [place, Ascending]
  | cons first rest ih =>
    obtain ⟨above, ordered⟩ := List.pairwise_cons.mp ascending
    unfold place
    split
    · rename_i before
      refine List.pairwise_cons.mpr ⟨?_, ascending⟩
      intro candidate member
      rcases List.mem_cons.mp member with rfl | member
      · exact before
      · exact before.trans (above candidate member)
    · split
      · rename_i same
        refine List.pairwise_cons.mpr ⟨?_, ordered⟩
        intro candidate member
        rw [same]
        exact above candidate member
      · rename_i notBefore differs
        refine List.pairwise_cons.mpr ⟨?_, ih ordered⟩
        intro candidate member
        rcases (mem_place_iff ordered).mp member with rfl | ⟨member, _⟩
        · exact lt_of_le_of_ne (not_lt.mp notBefore) (fun same => differs same.symm)
        · exact above candidate member

omit [LinearOrder κ] in
theorem length_place_of_free [LT κ] [DecidableLT κ] [DecidableEq κ] {entry : α} {entries : List α}
    (free : ∀ old ∈ entries, key old ≠ key entry) :
    (place key entry entries).length = entries.length + 1 := by
  induction entries with
  | nil => rfl
  | cons first rest ih =>
    obtain ⟨here, later⟩ := List.forall_mem_cons.mp free
    unfold place
    split
    · rfl
    · rw [if_neg (Ne.symm here), List.length_cons, ih later, List.length_cons]

theorem length_place_of_taken {entry old : α} {entries : List α}
    (ascending : Ascending key entries) (member : old ∈ entries) (same : key old = key entry) :
    (place key entry entries).length = entries.length := by
  induction entries with
  | nil => cases member
  | cons first rest ih =>
    obtain ⟨above, ordered⟩ := List.pairwise_cons.mp ascending
    have least : key first ≤ key entry := by
      rcases List.mem_cons.mp member with here | later
      · exact here ▸ same.le
      · exact same ▸ (above old later).le
    rw [place, if_neg least.not_gt]
    split
    · rfl
    · rename_i differs
      rcases List.mem_cons.mp member with here | later
      · exact absurd (here ▸ same.symm) differs
      · rw [List.length_cons, ih ordered later, List.length_cons]

theorem find?_eq_some_iff {entry : α} {entries : List α} {wanted : κ}
    (ascending : Ascending key entries) :
    find? key wanted entries = some entry ↔ entry ∈ entries ∧ key entry = wanted := by
  constructor
  · intro found
    have matched := List.find?_some found
    exact ⟨List.mem_of_find?_eq_some found, by simpa using matched⟩
  · intro holds
    obtain ⟨member, rfl⟩ := holds
    induction entries with
    | nil => simp at member
    | cons first rest ih =>
      obtain ⟨above, ordered⟩ := List.pairwise_cons.mp ascending
      rcases List.mem_cons.mp member with rfl | member
      · simp [find?]
      · have apart : key first ≠ key entry := ne_of_lt (above entry member)
        have found := ih ordered member
        simp only [find?, List.find?_cons, apart, decide_false] at found ⊢
        exact found

theorem Ascending.eq_of_key_eq {first second : α} {entries : List α}
    (ascending : Ascending key entries) (member : first ∈ entries) (other : second ∈ entries)
    (same : key first = key second) : first = second := by
  have found := (Keyed.find?_eq_some_iff ascending).mpr ⟨member, same⟩
  have otherFound := (Keyed.find?_eq_some_iff ascending).mpr ⟨other, rfl⟩
  exact Option.some.inj (found.symm.trans otherFound)

theorem find?_eq_none_iff {entries : List α} {wanted : κ} :
    find? key wanted entries = none ↔ ∀ entry ∈ entries, key entry ≠ wanted := by
  simp [find?]

/-- The first of ascending entries with a property is the one of the least key. -/
theorem Ascending.find?_eq_some_iff {entry : α} {entries : List α} {property : α → Bool}
    (ascending : Ascending key entries) :
    entries.find? property = some entry ↔ entry ∈ entries ∧ property entry = true ∧
      ∀ other ∈ entries, property other = true → key entry ≤ key other := by
  induction entries with
  | nil => simp
  | cons first rest ih =>
    obtain ⟨above, ordered⟩ := List.pairwise_cons.mp ascending
    by_cases here : property first = true
    · rw [List.find?_cons_of_pos here, Option.some.injEq]
      constructor
      · rintro rfl
        refine ⟨List.mem_cons_self, here, ?_⟩
        intro other member _
        rcases List.mem_cons.mp member with rfl | later
        · exact le_rfl
        · exact (above other later).le
      · intro ⟨member, _, least⟩
        rcases List.mem_cons.mp member with same | later
        · exact same.symm
        · exact absurd (above entry later) (least first List.mem_cons_self here).not_gt
    · rw [List.find?_cons_of_neg here, ih ordered]
      constructor
      · intro ⟨member, holds, least⟩
        refine ⟨List.mem_cons_of_mem _ member, holds, ?_⟩
        intro other either otherHolds
        rcases List.mem_cons.mp either with rfl | later
        · exact absurd otherHolds here
        · exact least other later otherHolds
      · intro ⟨member, holds, least⟩
        rcases List.mem_cons.mp member with rfl | later
        · exact absurd holds here
        · exact ⟨later, holds, fun other present =>
            least other (List.mem_cons_of_mem _ present)⟩

/-- Placing an entry changes the look-up of its own key and of no other. -/
theorem find?_place {entries : List α} (entry : α) (wanted : κ)
    (ascending : Ascending key entries) :
    find? key wanted (place key entry entries) =
      if key entry = wanted then some entry else find? key wanted entries := by
  ext found
  rw [find?_eq_some_iff (ascending_place entry ascending), mem_place_iff ascending]
  by_cases own : key entry = wanted
  · rw [if_pos own, Option.some.injEq]
    constructor
    · intro ⟨placed, same⟩
      rcases placed with rfl | ⟨_, other⟩
      · rfl
      · exact absurd (same.trans own.symm) other
    · rintro rfl
      exact ⟨.inl rfl, own⟩
  · rw [if_neg own, find?_eq_some_iff ascending]
    constructor
    · intro ⟨placed, same⟩
      rcases placed with rfl | ⟨member, _⟩
      · exact absurd same own
      · exact ⟨member, same⟩
    · rintro ⟨member, rfl⟩
      exact ⟨.inr ⟨member, fun same => own same.symm⟩, rfl⟩

theorem ascending_placeAll {entries : List α} (fresh : List α)
    (ascending : Ascending key entries) : Ascending key (placeAll key fresh entries) := by
  induction fresh generalizing entries with
  | nil => exact ascending
  | cons first rest ih => exact ih (ascending_place first ascending)

theorem mem_placeAll_iff {fresh entries : List α} {other : α} (ascending : Ascending key entries)
    (distinct : (fresh.map key).Nodup)
    (free : ∀ entry ∈ fresh, ∀ old ∈ entries, key old ≠ key entry) :
    other ∈ placeAll key fresh entries ↔ other ∈ fresh ∨ other ∈ entries := by
  induction fresh generalizing entries with
  | nil => simp [placeAll]
  | cons first rest ih =>
    rw [List.map_cons, List.nodup_cons] at distinct
    have untaken : ∀ old ∈ entries, key old ≠ key first := free first List.mem_cons_self
    have apart : ∀ entry ∈ rest, ∀ old ∈ place key first entries, key old ≠ key entry := by
      intro entry member old present
      rcases (mem_place_iff ascending).mp present with rfl | ⟨present, _⟩
      · exact fun same => distinct.1 (List.mem_map.mpr ⟨entry, member, same.symm⟩)
      · exact free entry (List.mem_cons_of_mem _ member) old present
    have placed : placeAll key (first :: rest) entries =
        placeAll key rest (place key first entries) := rfl
    rw [placed, ih (ascending_place first ascending) distinct.2 apart, mem_place_iff ascending,
      List.mem_cons]
    constructor
    · intro either
      rcases either with later | same | ⟨old, _⟩
      · exact .inl (.inr later)
      · exact .inl (.inl same)
      · exact .inr old
    · intro either
      rcases either with (same | later) | old
      · exact .inr (.inl same)
      · exact .inl later
      · exact .inr (.inr ⟨old, untaken other old⟩)

omit [LinearOrder κ] in
theorem placeAll_append [LT κ] [DecidableLT κ] [DecidableEq κ] (fresh later entries : List α) :
    placeAll key (fresh ++ later) entries = placeAll key later (placeAll key fresh entries) :=
  List.foldl_append

/-- Once everything is in its place, a look-up finds the last entry of the key. -/
theorem find?_placeAll (fresh : List α) (wanted : κ) :
    find? key wanted (placeAll key fresh []) = (fresh.filter (key · = wanted)).getLast? := by
  induction fresh using List.reverseRecOn with
  | nil => rfl
  | append_singleton earlier last ih =>
    rw [placeAll_append]
    change find? key wanted (place key last (placeAll key earlier [])) = _
    rw [find?_place last wanted (ascending_placeAll earlier List.Pairwise.nil), ih,
      List.filter_append]
    by_cases own : key last = wanted <;> simp [own]

theorem find?_placeAll_of_ne {fresh entries : List α} {wanted : κ}
    (ascending : Ascending key entries) (apart : ∀ entry ∈ fresh, key entry ≠ wanted) :
    find? key wanted (placeAll key fresh entries) = find? key wanted entries := by
  induction fresh generalizing entries with
  | nil => rfl
  | cons first rest ih =>
    have later : ∀ entry ∈ rest, key entry ≠ wanted :=
      fun entry member => apart entry (List.mem_cons_of_mem _ member)
    have placed := ih (ascending_place first ascending) later
    rw [find?_place first wanted ascending, if_neg (apart first List.mem_cons_self)] at placed
    exact placed

theorem place_comm {entries : List α} (ascending : Ascending key entries) {first second : α}
    (apart : key first ≠ key second) :
    place key first (place key second entries) = place key second (place key first entries) := by
  have secondPlaced := ascending_place second ascending
  have firstPlaced := ascending_place first ascending
  refine (ascending_place first secondPlaced).eq_of_mem_iff (ascending_place second firstPlaced) ?_
  intro entry
  rw [mem_place_iff secondPlaced, mem_place_iff ascending, mem_place_iff firstPlaced,
    mem_place_iff ascending]
  constructor
  · rintro (rfl | ⟨rfl | ⟨member, other⟩, differs⟩)
    · exact .inr ⟨.inl rfl, apart⟩
    · exact .inl rfl
    · exact .inr ⟨.inr ⟨member, differs⟩, other⟩
  · rintro (rfl | ⟨rfl | ⟨member, other⟩, differs⟩)
    · exact .inr ⟨.inl rfl, apart.symm⟩
    · exact .inl rfl
    · exact .inr ⟨.inr ⟨member, differs⟩, other⟩

omit [LinearOrder κ] in
/-- What leaves the keys alone can be done to the entries before one is placed or after. -/
theorem map_place [LT κ] [DecidableLT κ] [DecidableEq κ] {change : α → α}
    (same : ∀ entry, key (change entry) = key entry) (entry : α) (entries : List α) :
    (place key entry entries).map change = place key (change entry) (entries.map change) := by
  induction entries with
  | nil => rfl
  | cons first rest ih =>
    simp only [place, List.map_cons, same]
    split
    · rfl
    · split
      · rfl
      · rw [List.map_cons, ih]

omit [LinearOrder κ] in
theorem find?_map [DecidableEq κ] {change : α → α} (same : ∀ entry, key (change entry) = key entry)
    (wanted : κ) (entries : List α) :
    find? key wanted (entries.map change) = (find? key wanted entries).map change := by
  simp only [find?, List.find?_map, Function.comp_def, same]

theorem placeNew?_eq_none_iff {entry : α} {entries : List α} :
    placeNew? key entry entries = none ↔ ∃ old ∈ entries, key old = key entry := by
  unfold placeNew?
  cases taken : find? key (key entry) entries with
  | none => simpa using find?_eq_none_iff.mp taken
  | some old =>
    have present : ∃ old ∈ entries, key old = key entry := by
      have found : (find? key (key entry) entries).isSome = true := by simp [taken]
      simpa [find?] using found
    exact iff_of_true rfl present

/-- Each entry is accepted if its key is new, so that a whole list is accepted exactly if no key in
it repeats or is taken before; the accepted entries then are all in place. -/
theorem foldlM_placeNew?_eq_ok_iff {ε : Type} (cause : α → ε) (fresh entries placed : List α)
    (ascending : Ascending key entries) :
    fresh.foldlM (fun taken entry => required (placeNew? key entry taken) (cause entry)) entries =
        .ok placed ↔
      (fresh.map key).Nodup ∧ (∀ entry ∈ fresh, ∀ old ∈ entries, key old ≠ key entry) ∧
        placed = placeAll key fresh entries := by
  induction fresh generalizing entries with
  | nil => simp [placeAll, pure, Except.pure, eq_comm]
  | cons first rest ih =>
    rw [List.foldlM_cons, bind_eq_ok_iff]
    cases taken : find? key (key first) entries with
    | some old =>
      obtain ⟨member, same⟩ := (find?_eq_some_iff ascending).mp taken
      have refused : placeNew? key first entries = none := by simp [placeNew?, taken]
      constructor
      · intro holds
        obtain ⟨next, accepted, _⟩ := holds
        simp [required_eq_ok_iff, refused] at accepted
      · intro holds
        obtain ⟨_, free, _⟩ := holds
        exact absurd same (free first List.mem_cons_self old member)
    | none =>
      have free := find?_eq_none_iff.mp taken
      have accepted : placeNew? key first entries = some (place key first entries) := by
        simp [placeNew?, taken]
      simp only [required_eq_ok_iff, accepted, Option.some.injEq, exists_eq_left']
      rw [ih _ (ascending_place first ascending), List.map_cons, List.nodup_cons]
      constructor
      · intro holds
        obtain ⟨distinct, apart, rfl⟩ := holds
        refine ⟨⟨?_, distinct⟩, ?_, rfl⟩
        · intro repeated
          obtain ⟨entry, member, same⟩ := List.mem_map.mp repeated
          exact apart entry member first ((mem_place_iff ascending).mpr (.inl rfl)) same.symm
        · intro entry member old present
          rcases List.mem_cons.mp member with rfl | member
          · exact free old present
          · by_cases same : key old = key first
            · exact absurd same (free old present)
            · exact apart entry member old ((mem_place_iff ascending).mpr (.inr ⟨present, same⟩))
      · intro holds
        obtain ⟨⟨fresh, distinct⟩, apart, rfl⟩ := holds
        refine ⟨distinct, ?_, rfl⟩
        intro entry member old present
        rcases (mem_place_iff ascending).mp present with rfl | ⟨present, _⟩
        · exact fun same => fresh (List.mem_map.mpr ⟨entry, member, same.symm⟩)
        · exact apart entry (List.mem_cons_of_mem _ member) old present

end TypedRows.Keyed
