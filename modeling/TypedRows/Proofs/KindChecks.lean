import TypedRows.Proofs.AttributeAccess
import TypedRows.Proofs.MandatoryColumns

/-! What a kind asks of a value at every depth of its lists. A check descends into the kind and the
value side by side, and comes to this: no null stands in a list, a part that is neither null nor a
list fixes what the kind is at its depth, and a list asks for a list there. So a value with such a
part is of one kind alone, while empty lists go with any deeper kind too, and no list that a field
stores or reads has a null in it. -/
namespace TypedRows

namespace Value

/-- The part stands in the value, below that many lists. -/
inductive Within (part : Value) : Nat → Value → Prop where
  | itself : Within part 0 part
  | item {depth : Nat} {item : Value} {items : List Value} (member : item ∈ items)
      (inside : Within part depth item) : Within part (depth + 1) (.list items)

/-- The part is the value or stands in it at some depth of its lists. -/
def Contains (value part : Value) : Prop := ∃ depth, Within part depth value

/-- Something other than nulls and lists stands in the value. -/
def HasScalar (value : Value) : Prop :=
  ∃ part, value.Contains part ∧ part ≠ .null ∧ ∀ items, part ≠ .list items

/-- The kind of a value that is neither null nor a list. -/
def scalarKind? : Value → Option Kind
  | .null | .list _ => none
  | .blob _ => some .blob
  | .bool _ => some .bool
  | .float _ => some .float
  | .int _ => some .int
  | .text _ => some .text
  | .uint _ => some .uint
  | .ulid _ => some .ulid

theorem exists_scalarKind?_iff (value : Value) :
    (∃ kind, value.scalarKind? = some kind) ↔ value ≠ .null ∧ ∀ items, value ≠ .list items := by
  cases value <;> simp [scalarKind?]

theorem hasScalar_iff (value : Value) :
    value.HasScalar ↔
      ∃ depth part kind, Within part depth value ∧ part.scalarKind? = some kind := by
  constructor
  · rintro ⟨part, ⟨depth, inside⟩, scalar⟩
    obtain ⟨kind, found⟩ := (exists_scalarKind?_iff part).mpr scalar
    exact ⟨depth, part, kind, inside, found⟩
  · rintro ⟨depth, part, kind, inside, found⟩
    exact ⟨part, ⟨depth, inside⟩, (exists_scalarKind?_iff part).mp ⟨kind, found⟩⟩

end Value

namespace Kind

open Value (Within)

/-- Lists of the kind, that many deep. -/
def nested (kind : Kind) : Nat → Kind
  | 0 => kind
  | depth + 1 => list (kind.nested depth)

theorem nested_list (kind : Kind) (depth : Nat) :
    (list kind).nested depth = list (kind.nested depth) := by
  induction depth with
  | zero => rfl
  | succ depth ih => exact congrArg list ih

theorem list_ne (kind : Kind) : list kind ≠ kind := by
  intro same
  have size := congrArg sizeOf same
  simp at size

/-- What the kind asks of a value that is not null, part by part. -/
structure Suits (kind : Kind) (value : Value) : Prop where
  noNull : ¬value.Contains .null
  scalars : ∀ depth part scalar, Within part depth value → part.scalarKind? = some scalar →
    kind = scalar.nested depth
  lists : ∀ depth items, Within (.list items) depth value → ∃ item, kind = (list item).nested depth

variable {kind first second : Kind} {value part : Value} {depth : Nat}

theorem accepts_eq_true_iff (kind : Kind) (value : Value) :
    kind.accepts value = true ↔ value = .null ∨ value.scalarKind? = some kind ∨
      ∃ item items, kind = list item ∧ value = .list items ∧
        ∀ value ∈ items, value ≠ .null ∧ item.accepts value = true := by
  have absent (value : Value) : value.isNull = false ↔ value ≠ .null := by
    rw [Ne, ← Value.isNull_iff, Bool.not_eq_true]
  cases value with
  | list items =>
    cases kind with
    | list item => simp [accepts_list, absent, Value.scalarKind?]
    | _ => simp [accepts, Value.scalarKind?]
  | _ => cases kind <;> simp [accepts, Value.scalarKind?]

/-- An accepted value that is not null has no null in it, and below each of its lists there is one
list less in the kind. -/
theorem exists_nested_of_within (inside : Within part depth value) (present : value ≠ .null)
    (accepted : kind.accepts value = true) :
    part ≠ .null ∧ ∃ inner : Kind, kind = inner.nested depth ∧ inner.accepts part = true := by
  induction inside generalizing kind with
  | itself => exact ⟨present, kind, rfl, accepted⟩
  | item member inside ih =>
    rcases (accepts_eq_true_iff _ _).mp accepted with null | scalar | ⟨item, _, rfl, same, each⟩
    · cases null
    · cases scalar
    · cases same
      obtain ⟨itemPresent, itemAccepted⟩ := each _ member
      obtain ⟨partPresent, inner, rfl, innerAccepted⟩ := ih itemPresent itemAccepted
      exact ⟨partPresent, inner, rfl, innerAccepted⟩

theorem suits_of_accepts (present : value ≠ .null) (accepted : kind.accepts value = true) :
    kind.Suits value := by
  constructor
  · intro contained
    obtain ⟨_, inside⟩ := contained
    exact (exists_nested_of_within inside present accepted).1 rfl
  · intro depth part scalar inside found
    obtain ⟨partPresent, inner, rfl, innerAccepted⟩ :=
      exists_nested_of_within inside present accepted
    rcases (accepts_eq_true_iff _ _).mp innerAccepted with null | own | ⟨_, _, _, rfl, _⟩
    · exact absurd null partPresent
    · rw [Option.some.inj (own.symm.trans found)]
    · cases found
  · intro depth items inside
    obtain ⟨_, inner, rfl, innerAccepted⟩ := exists_nested_of_within inside present accepted
    rcases (accepts_eq_true_iff _ _).mp innerAccepted with null | scalar | ⟨item, _, rfl, _, _⟩
    · cases null
    · cases scalar
    · exact ⟨item, rfl⟩

theorem Suits.present (suits : kind.Suits value) : value ≠ .null := by
  rintro rfl
  exact suits.noNull ⟨0, .itself⟩

theorem Suits.of_mem {item : Kind} {items : List Value} (suits : (list item).Suits (.list items))
    (member : value ∈ items) : item.Suits value := by
  constructor
  · intro contained
    obtain ⟨depth, inside⟩ := contained
    exact suits.noNull ⟨depth + 1, .item member inside⟩
  · intro depth part scalar inside found
    exact list.inj (suits.scalars (depth + 1) part scalar (.item member inside) found)
  · intro depth inner inside
    obtain ⟨innerItem, same⟩ := suits.lists (depth + 1) inner (.item member inside)
    exact ⟨innerItem, list.inj same⟩

/-- One step down, in the form in which kinds are checked. -/
theorem Suits.cases (suits : kind.Suits value) : value.scalarKind? = some kind ∨
    ∃ item items, kind = list item ∧ value = .list items ∧ ∀ value ∈ items, item.Suits value := by
  by_cases listed : ∃ items, value = .list items
  · obtain ⟨items, rfl⟩ := listed
    obtain ⟨item, same⟩ := suits.lists 0 items .itself
    cases same
    exact .inr ⟨item, items, rfl, rfl, fun value member => suits.of_mem member⟩
  · obtain ⟨own, found⟩ :=
      value.exists_scalarKind?_iff.mpr ⟨suits.present, not_exists.mp listed⟩
    have same := suits.scalars 0 value own .itself found
    exact .inl (same ▸ found)

theorem Suits.accepts (suits : kind.Suits value) : kind.accepts value = true := by
  induction kind generalizing value with
  | list item ih =>
    rcases suits.cases with own | ⟨_, items, same, rfl, each⟩
    · exact (accepts_eq_true_iff _ _).mpr (.inr (.inl own))
    · cases same
      refine (accepts_eq_true_iff _ _).mpr (.inr (.inr ⟨item, items, rfl, rfl, ?_⟩))
      intro value member
      exact ⟨(each value member).present, ih (each value member)⟩
  | _ =>
    rcases suits.cases with own | ⟨_, _, none, _⟩
    · exact (accepts_eq_true_iff _ _).mpr (.inr (.inl own))
    · cases none

theorem accepts_iff_suits (kind : Kind) (value : Value) :
    kind.accepts value = true ↔ value = .null ∨ kind.Suits value := by
  constructor
  · intro accepted
    by_cases null : value = .null
    · exact .inl null
    · exact .inr (suits_of_accepts null accepted)
  · rintro (rfl | suits)
    · exact accepts_null kind
    · exact suits.accepts

theorem eq_of_accepts (scalar : value.HasScalar) (firstAccepts : first.accepts value = true)
    (secondAccepts : second.accepts value = true) : first = second := by
  obtain ⟨depth, part, own, inside, found⟩ := value.hasScalar_iff.mp scalar
  have present : value ≠ .null := by
    rintro rfl
    cases inside
    cases found
  have firstSuits := suits_of_accepts present firstAccepts
  have secondSuits := suits_of_accepts present secondAccepts
  exact (firstSuits.scalars depth part own inside found).trans
    (secondSuits.scalars depth part own inside found).symm

/-- Lists with nothing but lists in them do not tell how deep they were meant to go. -/
theorem accepts_deeper (bare : ¬value.HasScalar) (accepted : kind.accepts value = true) :
    (list kind).accepts value = true := by
  rcases (accepts_iff_suits _ _).mp accepted with rfl | suits
  · exact accepts_null _
  · refine Suits.accepts ⟨suits.noNull, ?_, ?_⟩
    · intro depth part scalar inside found
      exact absurd (value.hasScalar_iff.mpr ⟨depth, part, scalar, inside, found⟩) bare
    · intro depth items inside
      obtain ⟨item, rfl⟩ := suits.lists depth items inside
      exact ⟨list item, (nested_list _ _).symm⟩

theorem hasScalar_iff_eq_of_accepts (accepted : kind.accepts value = true) :
    value.HasScalar ↔ ∀ other : Kind, other.accepts value = true → other = kind := by
  constructor
  · intro scalar other otherAccepts
    exact eq_of_accepts scalar otherAccepts accepted
  · intro alone
    by_contra bare
    exact kind.list_ne (alone _ (accepts_deeper bare accepted))

theorem not_contains_null_of_accepts {items : List Value}
    (accepted : kind.accepts (.list items) = true) : ¬(Value.list items).Contains .null := by
  rcases (accepts_iff_suits _ _).mp accepted with null | suits
  · cases null
  · exact suits.noNull

end Kind

namespace Field

variable {field : Field} {object : Object} {held stored : Value}

/-- The kind of what stands in the rows of the field. -/
def storedKind (field : Field) : Kind :=
  (field.decl.persister.map (·.storedKind)).getD field.kind

theorem accepts_of_decode (decoded : field.decode stored = .ok held) :
    field.kind.accepts held = true := by
  obtain ⟨_, done, checked⟩ := (decode_eq_ok_iff _ _ _).mp decoded
  exact ((check_eq_ok_iff _ _ _).mp checked).1

theorem accepts_of_encode (encoded : field.encode object = .ok stored) :
    field.storedKind.accepts stored = true := by
  obtain ⟨held, _, ⟨done, checked⟩, wrote⟩ := (encode_eq_ok_iff _ _ _).mp encoded
  by_cases null : held = .null
  · rw [null, store_null] at wrote
    cases wrote
    exact Kind.accepts_null _
  · rcases (store_eq_ok_iff null).mp wrote with ⟨plain, rfl⟩ | ⟨persister, persisted, _, accepted⟩
    · rw [storedKind, plain]
      exact ((check_eq_ok_iff _ _ _).mp checked).1
    · rw [storedKind, persisted]
      exact accepted

end Field

/-- A value other than null is accepted by the kinds that suit it at every depth. It is of one kind
alone exactly if something other than nulls and lists stands in it, and with a null anywhere in a
list it is of no kind. So there is no null in a list that a field stores or reads, with a persister
or without one. -/
theorem Kind.accepts_exactly :
    (∀ (kind : Kind) (value : Value),
      kind.accepts value = true ↔ value = .null ∨ kind.Suits value) ∧
    (∀ (kind : Kind) (value : Value), kind.accepts value = true →
      (value.HasScalar ↔ ∀ other : Kind, other.accepts value = true → other = kind)) ∧
    (∀ items : List Value, (Value.list items).Contains .null →
      ∀ kind : Kind, kind.accepts (.list items) = false) ∧
    ∀ (field : Field) (items : List Value),
      (∀ object, field.encode object = .ok (.list items) → ¬(Value.list items).Contains .null) ∧
      ∀ row index, field.decodeAt row index = .ok (.list items) →
        ¬(Value.list items).Contains .null := by
  refine ⟨accepts_iff_suits, fun _ _ => hasScalar_iff_eq_of_accepts, ?_, ?_⟩
  · intro items hole kind
    rw [← Bool.not_eq_true]
    exact fun accepted => not_contains_null_of_accepts accepted hole
  · intro field items
    constructor
    · intro object encoded
      exact not_contains_null_of_accepts (Field.accepts_of_encode encoded)
    · intro row index decoded
      exact not_contains_null_of_accepts (Field.accepts_of_decode decoded)

namespace Parcel

def marks : Field := ⟨.ofColumn "marks" (.list .int), "port::Parcel"⟩

/-- Unlike the marks of a labelled parcel, all of these are there. -/
def marked : Object := blank.afterWrites [("marks", .list [.int 7, .int (-5)])]

def row : Row := .ofColumns "harbour" "parcels" [("marks", .list [.int 7, .int (-5)])]

/-- The marks of two parcels, the first of which has none. -/
def load : Value := .list [.list [], .list [.int 7, .int (-5)]]

/-- The marks of one parcel, of which the last is missing. -/
def gap : List Value := [.list [.int 7, .null]]

theorem load_hasScalar : load.HasScalar := by
  have inside : Value.Within (.int 7) 1 (.list [.int 7, .int (-5)]) :=
    .item List.mem_cons_self .itself
  exact ⟨.int 7, ⟨2, .item (List.mem_cons_of_mem _ List.mem_cons_self) inside⟩, nofun, nofun⟩

theorem gap_contains_null : (Value.list gap).Contains .null := by
  have inside : Value.Within .null 1 (.list [.int 7, .null]) :=
    .item (List.mem_cons_of_mem _ List.mem_cons_self) .itself
  exact ⟨2, .item List.mem_cons_self inside⟩

end Parcel

/-- One mark settles the kind of a whole load, while a load without marks may have others yet. A
mark that is missing leaves a load without a kind, and so it is not read from any row. -/
theorem Kind.accepts_exactly_marks :
    (∀ kind : Kind, kind.accepts Parcel.load = true → kind = list (list int)) ∧
    ¬(Value.list [.list []]).HasScalar ∧
    (∀ kind : Kind, kind.accepts (.list Parcel.gap) = false) ∧
    (∃ items, Parcel.marks.encode Parcel.marked = .ok (.list items) ∧
      Parcel.marks.decodeAt Parcel.row 0 = .ok (.list items) ∧
      ¬(Value.list items).Contains .null) ∧
    ∀ row index, Parcel.marks.decodeAt row index ≠ .ok (.list Parcel.gap) := by
  obtain ⟨_, tells, refuses, lists⟩ := accepts_exactly
  refine ⟨?_, ?_, refuses _ Parcel.gap_contains_null, ?_, ?_⟩
  · exact (tells (list (list int)) Parcel.load rfl).mp Parcel.load_hasScalar
  · intro scalar
    have same := (tells (list (list int)) (.list [.list []]) rfl).mp scalar (list (list text)) rfl
    cases same
  · exact ⟨_, rfl, rfl, (lists Parcel.marks _).1 Parcel.marked rfl⟩
  · intro row index decoded
    exact (lists Parcel.marks Parcel.gap).2 row index decoded Parcel.gap_contains_null

end TypedRows
