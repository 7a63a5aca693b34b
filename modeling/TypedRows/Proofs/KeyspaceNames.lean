import Mathlib
import TypedRows.Keyspace
import TypedRows.Proofs.Sequences

/-! Keyspace names as texts. A name is its base name followed by every sanitized suffix value, each
behind a separator. Sanitized values keep to few characters, so a separator with any other character
marks where each value ends; a separator without one can also be part of a value. -/
namespace TypedRows.Keyspace

/-- The characters of sanitized values: ASCII letters in lower case, ASCII digits, underscores. -/
def isNameChar (c : Char) : Bool := c.isLower || c.isDigit || c = '_'

/-- What suffix values add to a name, each behind a separator. -/
def suffixText (separator : List Char) (values : List String) : List Char :=
  values.flatMap fun value => separator ++ (sanitize value).toList

theorem not_isUpper_of_isDigit {c : Char} (digit : c.isDigit = true) : ¬c.isUpper = true := by
  simp only [Char.isDigit, Char.isUpper, Bool.and_eq_true, decide_eq_true_eq,
    UInt32.le_iff_toNat_le] at digit ⊢
  simp at digit ⊢
  omega

theorem isNameChar_of_mem_sanitize {value : String} {c : Char}
    (member : c ∈ (sanitize value).toList) : isNameChar c = true := by
  rw [sanitize, String.toList_map] at member
  obtain ⟨raw, _, rfl⟩ := List.mem_map.mp member
  by_cases alphanumeric : raw.isAlphanum = true
  · rw [if_pos alphanumeric]
    rcases (Bool.or_eq_true _ _).mp alphanumeric with letter | digit
    · simp [isNameChar, letter]
    · simp [isNameChar, Char.toLower_eq_of_not_isUpper (not_isUpper_of_isDigit digit), digit]
  · rw [if_neg alphanumeric]
    rfl

theorem sanitize_eq_self {value : String} (clean : ∀ c ∈ value.toList, isNameChar c = true) :
    sanitize value = value := by
  rw [← String.toList_inj, sanitize, String.toList_map]
  refine (List.map_congr_left ?_).trans (List.map_id _)
  intro c member
  have fits : (c.isLower = true ∨ c.isDigit = true) ∨ c = '_' := by
    simpa [isNameChar] using clean c member
  have kept (notUpper : ¬c.isUpper = true) (alphanumeric : c.isAlphanum = true) :
      (if c.isAlphanum then c.toLower else '_') = c := by
    rw [if_pos alphanumeric, Char.toLower_eq_of_not_isUpper notUpper]
  rcases fits with (lower | digit) | rfl
  · exact kept (Char.not_isUpper_of_isLower lower) (by simp [Char.isAlphanum, Char.isAlpha, lower])
  · exact kept (not_isUpper_of_isDigit digit) (by simp [Char.isAlphanum, digit])
  · rfl

theorem suffixText_congr {separator : List Char} {values others : List String}
    (same : values.map sanitize = others.map sanitize) :
    suffixText separator values = suffixText separator others := by
  have texts (listed : List String) : suffixText separator listed =
      (listed.map sanitize).flatMap fun value => separator ++ value.toList := by
    rw [suffixText, List.flatMap_map]
  rw [texts, texts, same]

theorem toList_foldl_extend (naming : Naming) (values : List String) (start : String) :
    (values.foldl (extend naming) start).toList =
      start.toList ++ suffixText naming.separator.toList values := by
  induction values generalizing start with
  | nil => simp [suffixText]
  | cons value rest ih =>
    rw [List.foldl_cons, ih]
    simp [suffixText, extend, List.append_assoc]

theorem foldlM_extend_eq_ok_iff {ε : Type} {naming : Naming} {valueOf : String → Except ε String}
    {suffixTypes : List String} {start name : String} :
    suffixTypes.foldlM (fun name suffixType => (valueOf suffixType).map (extend naming name))
        start = .ok name ↔
      ∃ values, suffixTypes.mapM valueOf = .ok values ∧
        name = values.foldl (extend naming) start := by
  induction suffixTypes generalizing start with
  | nil => simp [pure, Except.pure, eq_comm]
  | cons suffixType rest ih =>
    rw [List.foldlM_cons, List.mapM_cons]
    cases given : valueOf suffixType with
    | error cause => simp [Except.map, bind, Except.bind]
    | ok value =>
      have first : (Except.ok value : Except ε String).map (extend naming start) =
          .ok (extend naming start value) := rfl
      rw [first, ok_bind, ok_bind, ih]
      constructor
      · intro ⟨values, done, same⟩
        exact ⟨value :: values, by rw [done]; rfl, same⟩
      · intro ⟨values, done, same⟩
        obtain ⟨later, laterDone, listed⟩ := (bind_eq_ok_iff _ _ _).mp done
        cases listed
        exact ⟨later, laterDone, same⟩

theorem resolve_eq_ok_iff {ε : Type} {keyspace : Keyspace} {naming : Naming}
    {valueOf : String → Except ε String} {name : String} :
    keyspace.resolve naming valueOf = .ok name ↔
      ∃ values, keyspace.suffixes.mapM valueOf = .ok values ∧
        name.toList =
          (keyspace.baseName naming).toList ++ suffixText naming.separator.toList values := by
  simp only [resolve, foldlM_extend_eq_ok_iff, ← String.toList_inj, toList_foldl_extend]

theorem map_sanitize_eq_iff {ε : Type} {first second : String → Except ε String}
    {suffixTypes values others : List String} (done : suffixTypes.mapM first = .ok values)
    (otherDone : suffixTypes.mapM second = .ok others) :
    values.map sanitize = others.map sanitize ↔
      ∀ suffixType ∈ suffixTypes,
        (first suffixType).map sanitize = (second suffixType).map sanitize := by
  have related := (mapM_eq_ok_iff _ _ _).mp done
  have otherRelated := (mapM_eq_ok_iff _ _ _).mp otherDone
  clear done otherDone
  induction related generalizing others with
  | nil =>
    cases otherRelated
    simp
  | cons given _ ih =>
    cases otherRelated with
    | cons otherGiven otherRest =>
      simp [given, otherGiven, Except.map, ih otherRest]

section

variable {separator : List Char} (foreign : ∃ c ∈ separator, isNameChar c = false)

include foreign

/-- Up to the first foreign character stand a value and the clean start of the separator. -/
theorem takeWhile_append_separator {value : List Char}
    (clean : ∀ c ∈ value, isNameChar c = true) (rest : List Char) :
    (value ++ (separator ++ rest)).takeWhile isNameChar =
      value ++ separator.takeWhile isNameChar := by
  obtain ⟨c, member, dirty⟩ := foreign
  have stops : (separator.takeWhile isNameChar).length ≠ separator.length := by
    intro whole
    have kept := (List.takeWhile_prefix isNameChar).eq_of_length whole
    have fits : isNameChar c = true := List.mem_takeWhile_imp (kept.symm ▸ member)
    rw [fits] at dirty
    cases dirty
  rw [List.takeWhile_append_of_pos clean, List.takeWhile_append, if_neg stops]

/-- A separator with a character that no value has ends the value before it. -/
theorem append_separator_inj {value other rest otherRest : List Char}
    (clean : ∀ c ∈ value, isNameChar c = true) (otherClean : ∀ c ∈ other, isNameChar c = true)
    (same : value ++ (separator ++ rest) = other ++ (separator ++ otherRest)) :
    value = other ∧ rest = otherRest := by
  have starts := congrArg (List.takeWhile isNameChar) same
  rw [takeWhile_append_separator foreign clean, takeWhile_append_separator foreign otherClean]
    at starts
  obtain rfl := List.append_cancel_right starts
  exact ⟨rfl, List.append_cancel_left (List.append_cancel_left same)⟩

/-- With such a separator the values can be read off what they add to a name. -/
theorem map_sanitize_eq_of_suffixText {values others : List String}
    (sameLength : values.length = others.length)
    (same : suffixText separator values = suffixText separator others) :
    values.map sanitize = others.map sanitize := by
  induction values generalizing others with
  | nil =>
    obtain rfl := List.length_eq_zero_iff.mp sameLength.symm
    rfl
  | cons value rest ih =>
    obtain ⟨other, otherRest, rfl⟩ := List.exists_cons_of_length_eq_add_one sameLength.symm
    have restLength : rest.length = otherRest.length := Nat.succ.inj sameLength
    simp only [suffixText, List.flatMap_cons, List.append_assoc] at same
    have tails := List.append_cancel_left same
    have clean : ∀ c ∈ (sanitize value).toList, isNameChar c = true :=
      fun _ => isNameChar_of_mem_sanitize
    have otherClean : ∀ c ∈ (sanitize other).toList, isNameChar c = true :=
      fun _ => isNameChar_of_mem_sanitize
    -- The last value has no separator behind it; it is all that is left.
    cases rest with
    | nil =>
      obtain rfl := List.length_eq_zero_iff.mp restLength.symm
      simpa [String.toList_inj] using tails
    | cons next later =>
      obtain ⟨otherNext, otherLater, rfl⟩ :=
        List.exists_cons_of_length_eq_add_one restLength.symm
      simp only [List.flatMap_cons, List.append_assoc] at tails
      obtain ⟨heads, remaining⟩ := append_separator_inj foreign clean otherClean tails
      have laterSame : suffixText separator (next :: later) =
          suffixText separator (otherNext :: otherLater) := by
        simpa [suffixText] using remaining
      have laterValues := ih restLength laterSame
      rw [List.map_cons, laterValues, String.toList_inj.mp heads]
      rfl

end

/-- One value, or none at all, can be read off behind any separator. -/
theorem map_sanitize_eq_of_length_le_one {separator : List Char} {values others : List String}
    (sameLength : values.length = others.length) (few : values.length ≤ 1)
    (same : suffixText separator values = suffixText separator others) :
    values.map sanitize = others.map sanitize := by
  match values, others, sameLength with
  | [], [], _ => rfl
  | [value], [other], _ => simpa [suffixText, String.toList_inj] using same
  | _ :: _ :: _, _, _ => simp at few

/-- Whether the names of a keyspace tell the sanitized value of every suffix type, whatever values
the suffix types are given. -/
def TellsValues (ε : Type) (keyspace : Keyspace) (naming : Naming) : Prop :=
  ∀ (first second : String → Except ε String) (name other : String),
    keyspace.resolve naming first = .ok name → keyspace.resolve naming second = .ok other →
      (name = other ↔ ∀ suffixType ∈ keyspace.suffixes,
        (first suffixType).map sanitize = (second suffixType).map sanitize)

/-- Whether two assignments with different sanitized values share a name. -/
def Collides (ε : Type) (keyspace : Keyspace) (naming : Naming) : Prop :=
  ∃ (first second : String → String) (name : String),
    (∃ suffixType ∈ keyspace.suffixes, sanitize (first suffixType) ≠ sanitize (second suffixType)) ∧
      keyspace.resolve naming (fun suffixType => (.ok (first suffixType) : Except ε String)) =
        .ok name ∧
      keyspace.resolve naming (fun suffixType => (.ok (second suffixType) : Except ε String)) =
        .ok name

theorem Collides.not_tellsValues {ε : Type} {keyspace : Keyspace} {naming : Naming}
    (collides : keyspace.Collides ε naming) : ¬keyspace.TellsValues ε naming := by
  intro tells
  obtain ⟨first, second, name, ⟨suffixType, listed, apart⟩, resolved, otherResolved⟩ := collides
  have agree := (tells _ _ name name resolved otherResolved).mp rfl suffixType listed
  exact apart (Except.ok.inj agree)

theorem tellsValues_of_readable {ε : Type} {keyspace : Keyspace} {naming : Naming}
    (readable : keyspace.suffixes.length ≤ 1 ∨
      ∃ c ∈ naming.separator.toList, isNameChar c = false) : keyspace.TellsValues ε naming := by
  intro first second name other resolved otherResolved
  obtain ⟨values, done, text⟩ := resolve_eq_ok_iff.mp resolved
  obtain ⟨others, otherDone, otherText⟩ := resolve_eq_ok_iff.mp otherResolved
  have length := ((mapM_eq_ok_iff _ _ _).mp done).length_eq
  have otherLength := ((mapM_eq_ok_iff _ _ _).mp otherDone).length_eq
  have sameLength : values.length = others.length := length.symm.trans otherLength
  rw [← map_sanitize_eq_iff done otherDone, ← String.toList_inj, text, otherText,
    List.append_cancel_left_eq]
  constructor
  · intro same
    rcases readable with few | foreign
    · exact map_sanitize_eq_of_length_le_one sameLength (length ▸ few) same
    · exact map_sanitize_eq_of_suffixText foreign sameLength same
  · intro same
    exact suffixText_congr same

/-- Gives a value to each of two suffix types and an empty one to every other. -/
def assignTwo (left right leftValue rightValue suffixType : String) : String :=
  if suffixType = left then leftValue else if suffixType = right then rightValue else ""

theorem map_assignTwo {left right : String} {rest : List String}
    (distinct : (left :: right :: rest).Nodup) (leftValue rightValue : String) :
    (left :: right :: rest).map (assignTwo left right leftValue rightValue) =
      leftValue :: rightValue :: rest.map fun _ => "" := by
  obtain ⟨notLeft, notRight, _⟩ := by simpa only [List.nodup_cons] using distinct
  have apart : right ≠ left := fun same => notLeft (same ▸ List.mem_cons_self)
  have others : rest.map (assignTwo left right leftValue rightValue) = rest.map fun _ => "" := by
    refine List.map_congr_left ?_
    intro suffixType member
    have other : suffixType ≠ left := by
      rintro rfl
      exact notLeft (List.mem_cons_of_mem _ member)
    have another : suffixType ≠ right := by
      rintro rfl
      exact notRight member
    rw [assignTwo, if_neg other, if_neg another]
  simp [assignTwo, apart, others]

theorem sanitize_letter : sanitize "a" = "a" := by
  refine sanitize_eq_self ?_
  have letters : "a".toList = ['a'] := rfl
  simp only [letters, List.mem_singleton, forall_eq]
  rfl

/-- A value that holds a separator between two letters. -/
def spanning (naming : Naming) : String := "a" ++ naming.separator ++ "a"

section

variable {naming : Naming} (clean : ∀ c ∈ naming.separator.toList, isNameChar c = true)

include clean

theorem sanitize_spanning : sanitize (spanning naming) = spanning naming := by
  refine sanitize_eq_self ?_
  intro c member
  have either : c = 'a' ∨ c ∈ naming.separator.toList := by
    simpa [spanning, or_comm, or_left_comm] using member
  rcases either with rfl | member
  · rfl
  · exact clean c member

/-- The separator inside the value stands where the one behind it would stand. -/
theorem extend_spanning (start : String) :
    extend naming (extend naming start "a") (spanning naming) =
      extend naming (extend naming start (spanning naming)) "a" := by
  rw [extend, extend, extend, extend, sanitize_spanning clean, sanitize_letter]
  simp [spanning, String.append_assoc]

/-- A separator that can be part of a value lets two assignments share a name. -/
theorem collides_of_unreadable {ε : Type} {keyspace : Keyspace}
    (distinct : keyspace.suffixes.Nodup) (many : 2 ≤ keyspace.suffixes.length) :
    keyspace.Collides ε naming := by
  obtain ⟨base, suffixTypes⟩ := keyspace
  match suffixTypes, many with
  | left :: right :: rest, _ =>
    have resolves (leftValue rightValue : String) :
        (⟨base, left :: right :: rest⟩ : Keyspace).resolve naming (fun suffixType =>
            (.ok (assignTwo left right leftValue rightValue suffixType) : Except ε String)) =
          .ok ((leftValue :: rightValue :: rest.map fun _ => "").foldl (extend naming)
            (baseName ⟨base, left :: right :: rest⟩ naming)) := by
      refine foldlM_extend_eq_ok_iff.mpr ⟨_, ?_, rfl⟩
      rw [← map_assignTwo distinct]
      exact mapM_eq_ok_map fun _ _ => rfl
    refine ⟨assignTwo left right "a" (spanning naming), assignTwo left right (spanning naming) "a",
      _, ⟨left, List.mem_cons_self, ?_⟩, resolves "a" (spanning naming), ?_⟩
    · rw [assignTwo, assignTwo, if_pos rfl, if_pos rfl, sanitize_spanning clean, sanitize_letter]
      intro same
      have lengths := congrArg String.length same
      simp [spanning] at lengths
    · rw [resolves (spanning naming) "a"]
      simp only [List.foldl_cons, extend_spanning clean]

end

/-- Names tell the values of pairwise distinct suffix types exactly if there is at most one suffix
type or the separator has a character that sanitized values never have. Otherwise there are two
assignments with different values that share a name. -/
theorem tellsValues_iff {ε : Type} {keyspace : Keyspace} (distinct : keyspace.suffixes.Nodup)
    (naming : Naming) :
    (keyspace.TellsValues ε naming ↔ keyspace.suffixes.length ≤ 1 ∨
      ∃ c ∈ naming.separator.toList, isNameChar c = false) ∧
    (2 ≤ keyspace.suffixes.length → (∀ c ∈ naming.separator.toList, isNameChar c = true) →
      keyspace.Collides ε naming) := by
  refine ⟨⟨?_, tellsValues_of_readable⟩, fun many clean => collides_of_unreadable clean distinct many⟩
  intro tells
  by_contra unreadable
  simp only [not_or, Nat.not_le, not_exists, not_and, Bool.not_eq_false] at unreadable
  obtain ⟨many, clean⟩ := unreadable
  exact (collides_of_unreadable clean distinct many).not_tellsValues tells

/-- With the separator that is used by default two tenants can share a keyspace; with a dash instead
of it they cannot. -/
theorem tellsValues_iff_zoo :
    (["tenant", "region"] : List String).Nodup ∧
      Collides Unit ⟨"zoo", ["tenant", "region"]⟩ {} ∧
      ¬TellsValues Unit ⟨"zoo", ["tenant", "region"]⟩ {} ∧
      TellsValues Unit ⟨"zoo", ["tenant", "region"]⟩ { separator := "-" } := by
  have distinct : (["tenant", "region"] : List String).Nodup := by decide
  have separator : ({} : Naming).separator.toList = ['_'] := rfl
  have plain : ∀ c ∈ ({} : Naming).separator.toList, isNameChar c = true := by
    simp only [separator, List.mem_singleton, forall_eq]
    rfl
  have dash : ∃ c ∈ ({ separator := "-" } : Naming).separator.toList, isNameChar c = false :=
    ⟨'-', List.mem_singleton_self _, rfl⟩
  have byDefault := @tellsValues_iff Unit ⟨"zoo", ["tenant", "region"]⟩ distinct {}
  have byDash := @tellsValues_iff Unit ⟨"zoo", ["tenant", "region"]⟩ distinct { separator := "-" }
  refine ⟨distinct, byDefault.2 (by decide) plain, ?_, byDash.1.mpr (.inr dash)⟩
  intro tells
  rcases byDefault.1.mp tells with few | ⟨c, member, foreign⟩
  · simp at few
  · rw [plain c member] at foreign
    cases foreign

end TypedRows.Keyspace
