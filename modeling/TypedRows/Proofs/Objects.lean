import TypedRows.Object
import TypedRows.Proofs.Widening

/-! Reading and writing the attributes of objects. What an attribute holds can be written back into
it, and a sequence of writes that agree on every attribute ends with each written attribute as
wanted and the others as they were. -/
namespace TypedRows

namespace AttributeType

theorem ofValue?_option_of_ne_null (inner : AttributeType) {value : Value} (held : value ≠ .null) :
    (option inner).ofValue? value = (inner.ofValue? value).map some := by
  cases value with
  | null => exact absurd rfl held
  | _ => rfl

theorem exists_ofValue?_toValue (type : AttributeType) (x : type.Carrier) :
    ∃ y, type.ofValue? (type.toValue x) = some y ∧ type.toValue y = type.toValue x := by
  induction type with
  | bool | double | string | ulid => exact ⟨x, rfl, rfl⟩
  | signed width => exact ⟨x, dif_pos x.property, rfl⟩
  | unsigned width => exact ⟨x, dif_pos x.property, rfl⟩
  | single => exact ⟨_, rfl, congrArg Value.float (Numeric.Single.widen_narrow_widen x)⟩
  | option inner ih =>
    cases x with
    | none => exact ⟨none, rfl, rfl⟩
    | some held =>
      -- An option in an option may hold something and still read as null; it comes back as none.
      by_cases null : inner.toValue held = .null
      · refine ⟨none, ?_, null.symm⟩
        change (option inner).ofValue? (inner.toValue held) = some none
        rw [null]
        rfl
      · obtain ⟨fresh, fits, same⟩ := ih held
        refine ⟨some fresh, ?_, same⟩
        change (option inner).ofValue? (inner.toValue held) = some (some fresh)
        rw [ofValue?_option_of_ne_null inner null, fits]
        rfl
  | list item ih =>
    have items : ∃ ys, (x.map item.toValue).mapM item.ofValue? = some ys ∧
        ys.map item.toValue = x.map item.toValue := by
      induction x with
      | nil => exact ⟨[], rfl, rfl⟩
      | cons first rest restIh =>
        obtain ⟨fresh, fits, same⟩ := ih first
        obtain ⟨freshes, restFit, restSame⟩ := restIh
        refine ⟨fresh :: freshes, ?_, ?_⟩
        · rw [List.map_cons, List.mapM_cons, fits, restFit]
          rfl
        · rw [List.map_cons, List.map_cons, same, restSame]
    obtain ⟨ys, fits, same⟩ := items
    exact ⟨ys, fits, congrArg Value.list same⟩

end AttributeType

/-- The type of the first attribute of a name. -/
def typeOf? (attributes : List Attribute) (name : String) : Option AttributeType :=
  (attributes.find? (·.name = name)).map (·.type)

namespace Slots

variable {attributes : List Attribute} {name : String} {type : AttributeType}

theorem get?_cons_of_ne {first : Attribute} {rest : List Attribute} (held : first.type.Carrier)
    (tail : Slots rest) (other : first.name ≠ name) :
    (cons held tail).get? name = tail.get? name := if_neg other

theorem exists_toValue_of_get? {value : Value} (slots : Slots attributes)
    (read : slots.get? name = some value) :
    ∃ type, typeOf? attributes name = some type ∧ ∃ held, type.toValue held = value := by
  induction slots with
  | nil => cases read
  | @cons first rest held tail ih =>
    by_cases same : first.name = name
    · rw [get?, if_pos same] at read
      exact ⟨first.type, by simp [typeOf?, same], held, Option.some.inj read⟩
    · rw [get?_cons_of_ne held tail same] at read
      obtain ⟨type, declared, reads⟩ := ih read
      refine ⟨type, ?_, reads⟩
      rw [← declared, typeOf?, List.find?_cons_of_neg (by simpa using same), typeOf?]

theorem exists_set (slots : Slots attributes) {value : Value} {fresh : type.Carrier}
    (declared : typeOf? attributes name = some type) (fits : type.ofValue? value = some fresh) :
    ∃ changed, slots.set name value = .ok changed ∧
      changed.get? name = some (type.toValue fresh) ∧
      ∀ other, other ≠ name → changed.get? other = slots.get? other := by
  induction slots with
  | nil => cases declared
  | @cons first rest held tail ih =>
    by_cases same : first.name = name
    · obtain rfl : first.type = type := by simpa [typeOf?, same] using declared
      refine ⟨.cons fresh tail, ?_, if_pos same, ?_⟩
      · rw [set, if_pos same, fits]
      · intro other different
        have skipped : first.name ≠ other := fun isOther => different (isOther ▸ same)
        rw [get?_cons_of_ne fresh tail skipped, get?_cons_of_ne held tail skipped]
    · rw [typeOf?, List.find?_cons_of_neg (by simpa using same)] at declared
      obtain ⟨changed, done, reads, others⟩ := ih declared
      refine ⟨.cons held changed, ?_, ?_, ?_⟩
      · rw [set, if_neg same, done]
        rfl
      · rw [get?_cons_of_ne held changed same, reads]
      · intro other different
        by_cases first : first.name = other
        · rw [get?, if_pos first, get?, if_pos first]
        · rw [get?_cons_of_ne held changed first, others other different,
            get?_cons_of_ne held tail first]

end Slots

/-- Whether an attribute of the name takes a value as it is. -/
def Shape.Takes (shape : Shape) (name : String) (value : Value) : Prop :=
  ∃ type, typeOf? shape.attributes name = some type ∧
    ∃ held, type.ofValue? value = some held ∧ type.toValue held = value

theorem Shape.takes_text {shape : Shape} {name : String} (text : String)
    (declared : typeOf? shape.attributes name = some .string ∨
      typeOf? shape.attributes name = some (.option .string)) : shape.Takes name (.text text) := by
  rcases declared with plain | optional
  · exact ⟨_, plain, text, rfl, rfl⟩
  · exact ⟨_, optional, some text, rfl, rfl⟩

namespace Object

/-- Whatever an object holds can be written into every object of its shape. -/
theorem takes_of_get? {object : Object} {name : String} {value : Value}
    (read : object.get? name = some value) : object.shape.Takes name value := by
  obtain ⟨type, declared, held, rfl⟩ := object.slots.exists_toValue_of_get? read
  exact ⟨type, declared, type.exists_ofValue?_toValue held⟩

/-- One object comes from another by writing the wanted values into some attributes. -/
structure Assigned (wanted : String → Option Value) (written : String → Prop)
    (before after : Object) : Prop where
  shape_eq : after.shape = before.shape
  get?_written : ∀ name, written name → after.get? name = wanted name
  get?_other : ∀ name, ¬written name → after.get? name = before.get? name

variable {wanted : String → Option Value}

theorem assigned_self (object : Object) : object.Assigned wanted (fun _ => False) object :=
  ⟨rfl, fun _ written => written.elim, fun _ _ => rfl⟩

/-- Later writes do not disturb earlier ones, since both write what is wanted. -/
theorem Assigned.trans {earlier later : String → Prop} {before between after : Object}
    (first : before.Assigned wanted earlier between)
    (second : between.Assigned wanted later after) :
    before.Assigned wanted (fun name => earlier name ∨ later name) after := by
  refine ⟨second.shape_eq.trans first.shape_eq, ?_, ?_⟩
  · intro name written
    by_cases again : later name
    · exact second.get?_written name again
    · rw [second.get?_other name again]
      exact first.get?_written name (written.resolve_right again)
  · intro name untouched
    rw [second.get?_other name fun written => untouched (.inr written)]
    exact first.get?_other name fun written => untouched (.inl written)

theorem Assigned.congr {written same : String → Prop} {before after : Object}
    (assigned : before.Assigned wanted written after) (alike : ∀ name, written name ↔ same name) :
    before.Assigned wanted same after := by
  obtain rfl : written = same := funext fun name => propext (alike name)
  exact assigned

theorem exists_set_of_takes {object : Object} {name : String} {value : Value}
    (takes : object.shape.Takes name value) (want : wanted name = some value) :
    ∃ changed, object.set name value = .ok changed ∧
      object.Assigned wanted (fun other => other = name) changed := by
  obtain ⟨type, declared, held, fits, same⟩ := takes
  obtain ⟨changed, done, reads, others⟩ := object.slots.exists_set declared fits
  refine ⟨⟨object.shape, changed⟩, ?_, rfl, ?_, ?_⟩
  · rw [set, done]
    rfl
  · rintro _ rfl
    exact reads.trans (same ▸ want.symm)
  · exact others

/-- A run of writes that all want the same ends with what each of them has written. -/
theorem foldlM_assigned {ε α : Type} {step : Object → α → Except ε Object}
    {writes : α → String → Prop} (items : List α) (start : Object)
    (steps : ∀ item ∈ items, ∀ object : Object, object.shape = start.shape →
      ∃ next, step object item = .ok next ∧ object.Assigned wanted (writes item) next) :
    ∃ final, items.foldlM step start = .ok final ∧
      start.Assigned wanted (fun name => ∃ item ∈ items, writes item name) final := by
  induction items generalizing start with
  | nil => exact ⟨start, rfl, start.assigned_self.congr (by simp)⟩
  | cons item rest ih =>
    obtain ⟨next, done, assigned⟩ := steps item List.mem_cons_self start rfl
    have later : ∀ other ∈ rest, ∀ object : Object, object.shape = next.shape →
        ∃ changed, step object other = .ok changed ∧
          object.Assigned wanted (writes other) changed := by
      intro other member object same
      exact steps other (List.mem_cons_of_mem _ member) object (same.trans assigned.shape_eq)
    obtain ⟨final, finished, remaining⟩ := ih next later
    refine ⟨final, ?_, (assigned.trans remaining).congr (by simp)⟩
    rw [List.foldlM_cons, done]
    exact finished

end Object

end TypedRows
