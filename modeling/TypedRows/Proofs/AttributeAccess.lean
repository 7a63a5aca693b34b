import TypedRows.Proofs.Filling

/-! Access to the attributes of an object in place. A call that writes an attribute tells whether it
succeeded and leaves the object behind in either case. What a shape declares decides which calls
succeed, and a call that fails leaves everything as it was. -/
namespace TypedRows

namespace AttributeType

/-- The values that an attribute of a type can hold. -/
inductive Admits : AttributeType → Value → Prop where
  | bool (truth : Bool) : Admits .bool (.bool truth)
  | signed {width : Width} {number : Int64} (fits : width.HoldsSigned number) :
      Admits (.signed width) (.int number)
  | unsigned {width : Width} {number : UInt64} (fits : width.HoldsUnsigned number) :
      Admits (.unsigned width) (.uint number)
  | single (number : Numeric.Double) : Admits .single (.float number)
  | double (number : Numeric.Double) : Admits .double (.float number)
  | string (text : String) : Admits .string (.text text)
  | ulid (id : Ulid) : Admits .ulid (.ulid id)
  | absent (inner : AttributeType) : Admits (.option inner) .null
  | present {inner : AttributeType} {value : Value} (held : Admits inner value) :
      Admits (.option inner) value
  | list {item : AttributeType} {values : List Value}
      (items : ∀ value ∈ values, Admits item value) : Admits (.list item) (.list values)

/-- A value converts to a type exactly if attributes of the type can hold it. -/
theorem admits_iff (type : AttributeType) (value : Value) :
    type.Admits value ↔ ∃ held, type.ofValue? value = some held := by
  induction type generalizing value with
  | bool | single | double | string | ulid =>
    constructor
    · intro admits
      cases admits
      exact ⟨_, rfl⟩
    · intro ⟨held, fits⟩
      cases value <;> cases fits
      constructor
  | signed width =>
    constructor
    · intro admits
      cases admits with
      | signed fits => exact ⟨_, dif_pos fits⟩
    · intro ⟨held, fits⟩
      cases value <;> try cases fits
      obtain ⟨holds, _⟩ := Option.dite_none_right_eq_some.mp fits
      exact .signed holds
  | unsigned width =>
    constructor
    · intro admits
      cases admits with
      | unsigned fits => exact ⟨_, dif_pos fits⟩
    · intro ⟨held, fits⟩
      cases value <;> try cases fits
      obtain ⟨holds, _⟩ := Option.dite_none_right_eq_some.mp fits
      exact .unsigned holds
  | option inner ih =>
    by_cases null : value = .null
    · subst null
      exact iff_of_true (.absent inner) ⟨none, rfl⟩
    · constructor
      · intro admits
        cases admits with
        | absent => exact absurd rfl null
        | present held =>
          obtain ⟨fresh, fits⟩ := (ih value).mp held
          refine ⟨some fresh, ?_⟩
          rw [ofValue?_option_of_ne_null inner null, fits]
          rfl
      · intro ⟨held, fits⟩
        rw [ofValue?_option_of_ne_null inner null] at fits
        obtain ⟨fresh, fitsInner, _⟩ := Option.map_eq_some_iff.mp fits
        exact .present ((ih value).mpr ⟨fresh, fitsInner⟩)
  | list item ih =>
    constructor
    · intro admits
      cases admits with
      | list items =>
        exact exists_mapM_eq_some_iff.mpr fun value member =>
          (ih value).mp (items value member)
    · intro fits
      cases value with
      | list values =>
        exact .list fun value member =>
          (ih value).mpr (exists_mapM_eq_some_iff.mp fits value member)
      | _ =>
        obtain ⟨_, impossible⟩ := fits
        cases impossible

end AttributeType

namespace Shape

/-- Whether an attribute is declared under the name whose type admits the value. -/
def Admits (shape : Shape) (name : String) (value : Value) : Prop :=
  ∃ type, typeOf? shape.attributes name = some type ∧ type.Admits value

/-- What is wrong with a value for the attribute of a name. -/
inductive Rejects (shape : Shape) (name : String) (value : Value) : AttributeError → Prop where
  | unknown (undeclared : ∀ declared ∈ shape.attributes, declared.name ≠ name) :
      shape.Rejects name value (.unknown name)
  | mismatch {type : AttributeType} (declared : typeOf? shape.attributes name = some type)
      (misfit : ¬type.Admits value) : shape.Rejects name value (.mismatch name value)

variable {shape : Shape} {name : String} {value : Value} {cause : AttributeError}

theorem refusal?_eq_none_iff_admits :
    refusal? shape.attributes name value = none ↔ shape.Admits name value := by
  simp only [refusal?_eq_none_iff, Admits, Fits, AttributeType.admits_iff]

theorem typeOf?_eq_none_iff {attributes : List Attribute} :
    typeOf? attributes name = none ↔ ∀ declared ∈ attributes, declared.name ≠ name := by
  simp [typeOf?]

theorem refusal?_eq_some_iff :
    refusal? shape.attributes name value = some cause ↔ shape.Rejects name value cause := by
  unfold refusal?
  cases found : typeOf? shape.attributes name with
  | none =>
    constructor
    · intro same
      cases same
      exact .unknown (typeOf?_eq_none_iff.mp found)
    · intro rejects
      cases rejects with
      | unknown => rfl
      | mismatch declared => cases found.symm.trans declared
  | some type =>
    have admits := type.admits_iff value
    rw [← Option.isSome_iff_exists] at admits
    simp only [← admits, Option.ite_none_left_eq_some, Option.some.injEq]
    constructor
    · intro ⟨misfit, same⟩
      subst same
      exact .mismatch found misfit
    · intro rejects
      cases rejects with
      | unknown undeclared => cases found.symm.trans (typeOf?_eq_none_iff.mpr undeclared)
      | mismatch declared misfit =>
        cases found.symm.trans declared
        exact ⟨misfit, rfl⟩

end Shape

/-! ### Writing in place -/

/-- Writes the first attribute of the name, if there is one that can hold the value. The slots are
there afterwards in any case. -/
def Slots.write : {attributes : List Attribute} → Slots attributes → String → Value →
    Except AttributeError Unit × Slots attributes
  | _, .nil, name, _ => (.error (.unknown name), .nil)
  | first :: _, .cons held tail, name, value =>
    if first.name = name then
      match first.type.ofValue? value with
      | some fresh => (.ok (), .cons fresh tail)
      | none => (.error (.mismatch name value), .cons held tail)
    else ((tail.write name value).1, .cons held (tail.write name value).2)

namespace Slots

variable {attributes : List Attribute} {name other : String} {value : Value}

theorem write_of_set (slots : Slots attributes) (name : String) (value : Value) :
    (∃ changed, slots.set name value = .ok changed ∧ slots.write name value = (.ok (), changed)) ∨
      ∃ cause, slots.set name value = .error cause ∧
        slots.write name value = (.error cause, slots) := by
  induction slots with
  | nil => exact .inr ⟨_, rfl, rfl⟩
  | @cons first rest held tail ih =>
    by_cases same : first.name = name
    · simp only [set, write, if_pos same]
      cases first.type.ofValue? value with
      | none => exact .inr ⟨_, rfl, rfl⟩
      | some fresh => exact .inl ⟨_, rfl, rfl⟩
    · simp only [set, write, if_neg same]
      rcases ih with ⟨changed, done, written⟩ | ⟨cause, refused, kept⟩
      · rw [done, written]
        exact .inl ⟨_, rfl, rfl⟩
      · rw [refused, kept]
        exact .inr ⟨_, rfl, rfl⟩

theorem get?_isSome_iff (slots : Slots attributes) :
    (slots.get? name).isSome = true ↔ ∃ declared ∈ attributes, declared.name = name := by
  induction slots with
  | nil => simp [get?]
  | @cons first rest held tail ih =>
    by_cases same : first.name = name
    · simp [get?, same]
    · rw [get?_cons_of_ne held tail same, ih]
      simp [same]

theorem write_cons_of_ne {first : Attribute} {rest : List Attribute} (held : first.type.Carrier)
    (tail : Slots rest) (different : first.name ≠ name) :
    (cons held tail).write name value =
      ((tail.write name value).1, .cons held (tail.write name value).2) := if_neg different

/-- Writing the attribute in front leaves the others there, so it can be done before or after. -/
theorem write_cons_of_eq {first : Attribute} (rest : List Attribute) (held : first.type.Carrier)
    (same : first.name = name) (value : Value) :
    ∃ (result : Except AttributeError Unit) (fresh : first.type.Carrier),
      ∀ tail : Slots rest, (cons held tail).write name value = (result, .cons fresh tail) := by
  simp only [write, if_pos same]
  cases first.type.ofValue? value with
  | none => exact ⟨_, held, fun _ => rfl⟩
  | some fresh => exact ⟨_, fresh, fun _ => rfl⟩

theorem write_comm (slots : Slots attributes) (different : name ≠ other) (value later : Value) :
    ((slots.write name value).2.write other later).2 =
      ((slots.write other later).2.write name value).2 := by
  induction slots with
  | nil => rfl
  | @cons first rest held tail ih =>
    by_cases same : first.name = name
    · obtain ⟨_, fresh, written⟩ := write_cons_of_eq rest held same value
      have apart : first.name ≠ other := same ▸ different
      rw [written, write_cons_of_ne fresh tail apart, write_cons_of_ne held tail apart, written]
    · by_cases otherSame : first.name = other
      · obtain ⟨_, fresh, written⟩ := write_cons_of_eq rest held otherSame later
        rw [written, write_cons_of_ne held tail same, write_cons_of_ne fresh tail same, written]
      · simp only [write_cons_of_ne _ _ same, write_cons_of_ne _ _ otherSame, ih]

end Slots

namespace Object

/-- Writes an attribute in place, and tells whether that succeeded. -/
def write (object : Object) (name : String) (value : Value) : Except AttributeError Unit × Object :=
  ((object.slots.write name value).1, ⟨object.shape, (object.slots.write name value).2⟩)

/-- The object after some calls, whatever each of them came to. -/
def afterWrites (object : Object) (calls : List (String × Value)) : Object :=
  calls.foldl (fun object call => (object.write call.1 call.2).2) object

/-- The laws of reading and writing the attributes of an object. -/
structure AccessLaws (object : Object) : Prop where
  get?_isSome_iff : ∀ name, (object.get? name).isSome = true ↔
    ∃ declared ∈ object.shape.attributes, declared.name = name
  accepts_iff : ∀ name value,
    (object.write name value).1 = .ok () ↔ object.shape.Admits name value
  refuses_iff : ∀ name value cause,
    (object.write name value).1 = .error cause ↔ object.shape.Rejects name value cause
  get?_written : ∀ name value, (object.write name value).1 = .ok () →
    (object.write name value).2.get? name = some value
  get?_other : ∀ name value other, other ≠ name →
    (object.write name value).2.get? other = object.get? other
  unchanged : ∀ name value cause, (object.write name value).1 = .error cause →
    (object.write name value).2 = object
  classPath_eq : ∀ name value, (object.write name value).2.classPath = object.classPath
  /-- Two successful calls for different names succeed in either order, and leave the same. -/
  commutes : ∀ first value second later, first ≠ second →
    (object.write first value).1 = .ok () → (object.write second later).1 = .ok () →
      ∃ final, (object.write first value).2.write second later = (.ok (), final) ∧
        (object.write second later).2.write first value = (.ok (), final)
  /-- Assigning without a place to write in gives the object that would be left, or the same
  refusal. -/
  set_eq : ∀ name value,
    object.set name value = (object.write name value).1.map fun _ => (object.write name value).2

variable {object : Object} {name : String} {value : Value}

theorem write_of_set (object : Object) (name : String) (value : Value) :
    (∃ changed, object.set name value = .ok changed ∧
        object.write name value = (.ok (), changed)) ∨
      ∃ cause, object.set name value = .error cause ∧
        object.write name value = (.error cause, object) := by
  unfold set write
  rcases object.slots.write_of_set name value with ⟨changed, done, written⟩ | ⟨cause, refused, kept⟩
  · rw [done, written]
    exact .inl ⟨_, rfl, rfl⟩
  · rw [refused, kept]
    exact .inr ⟨_, rfl, rfl⟩

theorem write_fst_eq_error_iff (object : Object) {cause : AttributeError} :
    (object.write name value).1 = .error cause ↔ object.shape.Rejects name value cause := by
  rw [← Shape.refusal?_eq_some_iff, ← object.set_eq_error_iff]
  rcases object.write_of_set name value with ⟨changed, done, written⟩ | ⟨found, refused, kept⟩
  · rw [done, written]
    simp
  · rw [refused, kept, Except.error.injEq, Except.error.injEq]

theorem write_fst_eq_ok_iff (object : Object) :
    (object.write name value).1 = .ok () ↔ object.shape.Admits name value := by
  rw [← Shape.refusal?_eq_none_iff_admits, Option.eq_none_iff_forall_ne_some]
  simp only [ne_eq, Shape.refusal?_eq_some_iff, ← object.write_fst_eq_error_iff]
  cases (object.write name value).1 <;> simp

theorem write_shape (object : Object) (name : String) (value : Value) :
    (object.write name value).2.shape = object.shape := rfl

theorem get?_write (exact : object.shape.Exact name) (other : String) (value : Value) :
    (object.write other value).2.get? name =
      if other = name ∧ refusal? object.shape.attributes name value = none then some value
      else object.get? name := by
  rcases object.write_of_set other value with ⟨changed, done, written⟩ | ⟨cause, refused, kept⟩
  · obtain ⟨assigned, others⟩ := get?_of_set done
    rw [written]
    by_cases same : other = name
    · subst same
      have accepted : refusal? object.shape.attributes other value = none := by
        rw [Shape.refusal?_eq_none_iff_admits, ← write_fst_eq_ok_iff, written]
      rw [if_pos ⟨rfl, accepted⟩]
      exact assigned exact
    · rw [if_neg fun both => same both.1]
      exact others name (Ne.symm same)
  · rw [kept, if_neg]
    intro ⟨same, accepted⟩
    subst same
    rw [(object.set_eq_error_iff other value cause).mp refused] at accepted
    cases accepted

theorem accessLaws (exact : ∀ name, object.shape.Exact name) : object.AccessLaws where
  get?_isSome_iff _ := object.slots.get?_isSome_iff
  accepts_iff _ _ := object.write_fst_eq_ok_iff
  refuses_iff _ _ _ := object.write_fst_eq_error_iff
  get?_written name value accepted := by
    rw [get?_write (exact name), if_pos]
    rw [write_fst_eq_ok_iff, ← Shape.refusal?_eq_none_iff_admits] at accepted
    exact ⟨rfl, accepted⟩
  get?_other name value other different := by
    rw [get?_write (exact other), if_neg fun both => different both.1.symm]
  unchanged name value cause refused := by
    rcases object.write_of_set name value with ⟨changed, _, written⟩ | ⟨found, _, kept⟩
    · rw [written] at refused
      cases refused
    · rw [kept]
  classPath_eq _ _ := rfl
  commutes first value second later different accepted also := by
    -- Which calls succeed is decided by the shape, and that is the same after the first one.
    have still : ((object.write first value).2.write second later).1 = .ok () := by
      rw [write_fst_eq_ok_iff] at also ⊢
      exact also
    have ahead : ((object.write second later).2.write first value).1 = .ok () := by
      rw [write_fst_eq_ok_iff] at accepted ⊢
      exact accepted
    refine ⟨((object.write first value).2.write second later).2, Prod.ext still rfl, ?_⟩
    apply Prod.ext ahead
    exact congrArg (Object.mk object.shape) (object.slots.write_comm different value later).symm
  set_eq name value := by
    rcases object.write_of_set name value with ⟨changed, done, written⟩ | ⟨cause, refused, kept⟩
    · rw [done, written]
      rfl
    · rw [refused, kept]
      rfl

end Object

/-! ### Runs of calls -/

/-- The value of the last of some calls that writes the attribute of a name. -/
def Shape.lastWritten? (shape : Shape) (name : String) (calls : List (String × Value)) :
    Option Value :=
  (calls.findRev? fun call =>
    call.1 = name ∧ (refusal? shape.attributes name call.2).isNone = true).map (·.2)

namespace Object

variable {start : Object}

theorem afterWrites_cons (name : String) (value : Value) (calls : List (String × Value)) :
    start.afterWrites ((name, value) :: calls) = (start.write name value).2.afterWrites calls := rfl

theorem shape_afterWrites (calls : List (String × Value)) :
    (start.afterWrites calls).shape = start.shape := by
  induction calls generalizing start with
  | nil => rfl
  | cons call calls ih => exact ih

theorem get?_afterWrites {name : String} (exact : start.shape.Exact name)
    (calls : List (String × Value)) :
    (start.afterWrites calls).get? name =
      (start.shape.lastWritten? name calls).or (start.get? name) := by
  induction calls generalizing start with
  | nil => rfl
  | cons call calls ih =>
    obtain ⟨other, value⟩ := call
    rw [afterWrites_cons, ih (start.write_shape other value ▸ exact), get?_write exact,
      write_shape, Shape.lastWritten?, Shape.lastWritten?, List.findRev?]
    cases calls.findRev? _ with
    | some last => rfl
    | none =>
      simp only [Option.isNone_iff_eq_none, decide_eq_true_eq]
      by_cases written : other = name ∧ refusal? start.shape.attributes name value = none
      · simp [written]
      · simp [written]

/-- Whatever calls an object has had, it obeys the laws of reading and writing, it is of the class
that it was of, and each attribute holds what the last successful call for it has written, or else
what it held at first. -/
theorem accessLaws_afterWrites (start : Object)
    (singleFree : ∀ declared ∈ start.shape.attributes, declared.type.singleFree = true)
    (calls : List (String × Value)) :
    (start.afterWrites calls).AccessLaws ∧
      (start.afterWrites calls).classPath = start.classPath ∧
      (start.afterWrites calls).shape = start.shape ∧
      ∀ name, (start.afterWrites calls).get? name =
        (start.shape.lastWritten? name calls).or (start.get? name) := by
  have exact : ∀ name, start.shape.Exact name := Shape.exact_of_singleFree singleFree
  have same := start.shape_afterWrites calls
  refine ⟨accessLaws (same ▸ exact), congrArg Shape.classPath same, same, ?_⟩
  intro name
  exact get?_afterWrites (exact name) calls

end Object

namespace Parcel

def shape : Shape :=
  ⟨"Parcel", "port::Parcel", "port::Parcel",
    [⟨"label", .string⟩, ⟨"marks", .list (.option (.signed .w8))⟩]⟩

def blank : Object := ⟨shape, .cons "" (.cons [] .nil)⟩

/-- Only the last of these marks is too large. -/
def overflow : Value := .list [.int 1, .null, .int 300]

/-- A parcel that has been labelled and marked, and on which other calls have failed. -/
def labelled : Object := blank.afterWrites
  [("label", .text "fragile"), ("marks", .list [.null, .int (-5)]), ("marks", overflow),
    ("weight", .uint 3)]

end Parcel

/-- The calls that failed have left no trace on the parcel, and the next ones leave none either. -/
theorem Object.accessLaws_afterWrites_parcel :
    (∀ declared ∈ Parcel.shape.attributes, declared.type.singleFree = true) ∧
      Parcel.labelled.get? "marks" = some (.list [.null, .int (-5)]) ∧
      Parcel.labelled.write "marks" Parcel.overflow =
        (.error (.mismatch "marks" Parcel.overflow), Parcel.labelled) ∧
      Parcel.labelled.write "weight" .null = (.error (.unknown "weight"), Parcel.labelled) := by
  have singleFree : ∀ declared ∈ Parcel.shape.attributes, declared.type.singleFree = true := by
    decide
  obtain ⟨laws, _, _, reads⟩ : Parcel.labelled.AccessLaws ∧ _ :=
    accessLaws_afterWrites Parcel.blank singleFree _
  have refused : (Parcel.labelled.write "marks" Parcel.overflow).1 =
      .error (.mismatch "marks" Parcel.overflow) := rfl
  have unknown : (Parcel.labelled.write "weight" .null).1 = .error (.unknown "weight") := rfl
  exact ⟨singleFree, reads "marks", Prod.ext refused (laws.unchanged _ _ _ refused),
    Prod.ext unknown (laws.unchanged _ _ _ unknown)⟩

end TypedRows
