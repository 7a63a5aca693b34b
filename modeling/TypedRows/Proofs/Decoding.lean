import TypedRows.Proofs.Columns
import TypedRows.Proofs.Objects

/-! What a decoded object holds. An entity fills a new object of its own class from the columns that
a row carries and then from its keyspace keys, one field after another. What a field writes stands
until another field writes the same attribute. -/
namespace TypedRows

namespace AttributeType

/-- Whether no single is part of the type. -/
def singleFree : AttributeType → Bool
  | .single => false
  | .option inner => inner.singleFree
  | .list item => item.singleFree
  | _ => true

private theorem map_toValue_of_mapM {item : AttributeType}
    (exact : ∀ value held, item.ofValue? value = some held → item.toValue held = value)
    {values : List Value} {helds : List item.Carrier}
    (fit : values.mapM item.ofValue? = some helds) : helds.map item.toValue = values := by
  induction values generalizing helds with
  | nil =>
    cases fit
    rfl
  | cons first rest ih =>
    simp only [List.mapM_cons, Option.bind_eq_bind, Option.bind_eq_some_iff] at fit
    obtain ⟨fresh, fits, freshes, restFit, same⟩ := fit
    cases same
    rw [List.map_cons, exact first fresh fits, ih restFit]

/-- Only what goes into a single is changed on the way. -/
theorem toValue_of_ofValue? {type : AttributeType} (exact : type.singleFree = true) {value : Value}
    {held : type.Carrier} (fits : type.ofValue? value = some held) : type.toValue held = value := by
  induction type generalizing value with
  | single => cases exact
  | bool | double | string | ulid =>
    cases value <;> cases fits
    rfl
  | signed width | unsigned width =>
    cases value <;> try cases fits
    rename_i n
    obtain ⟨holds, same⟩ := Option.dite_none_right_eq_some.mp fits
    cases same
    rfl
  | option inner ih =>
    by_cases null : value = .null
    · subst null
      cases fits
      rfl
    · rw [ofValue?_option_of_ne_null inner null] at fits
      obtain ⟨fresh, fitsInner, rfl⟩ := Option.map_eq_some_iff.mp fits
      exact ih exact fitsInner
  | list item ih =>
    cases value <;> try cases fits
    exact congrArg Value.list (map_toValue_of_mapM (fun _ _ => ih exact) fits)

end AttributeType

/-- Whether the attribute of a name holds exactly what is put into it. -/
def Shape.Exact (shape : Shape) (name : String) : Prop :=
  ∀ type, typeOf? shape.attributes name = some type → type.singleFree = true

theorem Shape.exact_of_singleFree {shape : Shape}
    (all : ∀ declared ∈ shape.attributes, declared.type.singleFree = true) (name : String) :
    shape.Exact name := by
  intro type found
  obtain ⟨declared, search, rfl⟩ := Option.map_eq_some_iff.mp found
  exact all declared (List.mem_of_find?_eq_some search)

theorem Slots.takes_of_set {attributes : List Attribute} {slots changed : Slots attributes}
    {name : String} {value : Value} (done : slots.set name value = .ok changed) :
    ∃ type, typeOf? attributes name = some type ∧ ∃ fresh, type.ofValue? value = some fresh := by
  induction slots with
  | nil => cases done
  | @cons first rest held tail ih =>
    by_cases same : first.name = name
    · refine ⟨first.type, by simp [typeOf?, same], ?_⟩
      rw [set, if_pos same] at done
      cases fits : first.type.ofValue? value with
      | none =>
        rw [fits] at done
        cases done
      | some fresh => exact ⟨fresh, rfl⟩
    · rw [set, if_neg same] at done
      obtain ⟨later, laterDone, _⟩ := (map_eq_ok_iff _ _ _).mp done
      obtain ⟨type, declared, fits⟩ := ih laterDone
      refine ⟨type, ?_, fits⟩
      rw [← declared, typeOf?, List.find?_cons_of_neg (by simpa using same), typeOf?]

namespace Object

variable {object changed : Object} {name : String} {value : Value}

/-- An assignment changes one attribute, and what it holds then is the value if it holds values
exactly. -/
theorem get?_of_set (done : object.set name value = .ok changed) :
    (object.shape.Exact name → changed.get? name = some value) ∧
      ∀ other, other ≠ name → changed.get? other = object.get? other := by
  obtain ⟨slots, slotsDone, rfl⟩ := (map_eq_ok_iff _ _ _).mp done
  obtain ⟨type, declared, fresh, fits⟩ := Slots.takes_of_set slotsDone
  obtain ⟨expected, expectedDone, reads, others⟩ := object.slots.exists_set declared fits
  obtain rfl : slots = expected := Except.ok.inj (slotsDone.symm.trans expectedDone)
  refine ⟨?_, others⟩
  intro exact
  rw [← AttributeType.toValue_of_ofValue? (exact type declared) fits]
  exact reads

end Object

namespace Field

/-- What decoding one field does to an object: nothing without a value for it, and else it assigns
the value to the attribute of the field. -/
inductive Fills (field : Field) : Option Value → Object → Object → Prop where
  | leaves (object : Object) : field.Fills none object object
  | assigns {value : Value} {object next : Object}
      (done : object.set field.attributeName value = .ok next) : field.Fills (some value) object next

/-- The value that a row carries for the field, as far as it can be decoded. -/
def read? (field : Field) (row : Row) : Option Value :=
  row.indexOf? field.columnName >>= fun index => (field.decodeAt row index).toOption

variable {field : Field} {value? : Option Value} {before after : Object}

theorem Fills.shape_eq (fills : field.Fills value? before after) : after.shape = before.shape := by
  cases fills with
  | leaves => rfl
  | assigns done => exact Object.shape_of_set done

theorem Fills.get?_after {name : String} (fills : field.Fills value? before after)
    (exact : before.shape.Exact name) :
    after.get? name =
      (if field.attributeName = name then value? else none).or (before.get? name) := by
  cases fills with
  | leaves => simp
  | assigns done =>
    obtain ⟨assigned, others⟩ := Object.get?_of_set done
    by_cases own : field.attributeName = name
    · subst own
      simp [assigned exact]
    · simp [own, others name (Ne.symm own)]

end Field

/-! ### Runs over fields -/

/-- The value of the last of the fields that supply one for an attribute. -/
def lastSupplied? (value? : Field → Option Value) (fields : List Field) (name : String) :
    Option Value :=
  ((fields.filter (·.attributeName = name)).filterMap value?).getLast?

theorem lastSupplied?_cons (value? : Field → Option Value) (field : Field) (rest : List Field)
    (name : String) :
    lastSupplied? value? (field :: rest) name =
      (lastSupplied? value? rest name).or
        (if field.attributeName = name then value? field else none) := by
  unfold lastSupplied?
  by_cases own : field.attributeName = name
  · cases supplied : value? field with
    | none => simp [own, supplied]
    | some value =>
      simp only [own, decide_true, List.filter_cons_of_pos, List.filterMap_cons_some supplied,
        List.getLast?_cons, if_true]
      cases ((rest.filter (·.attributeName = name)).filterMap value?).getLast? <;> rfl
  · simp [own]

theorem exists_of_lastSupplied? {value? : Field → Option Value} {fields : List Field}
    {name : String} {value : Value} (last : lastSupplied? value? fields name = some value) :
    ∃ field ∈ fields, field.attributeName = name ∧ value? field = some value := by
  obtain ⟨field, listed, supplied⟩ := List.mem_filterMap.mp (List.mem_of_getLast? last)
  obtain ⟨member, named⟩ := List.mem_filter.mp listed
  exact ⟨field, member, by simpa using named, supplied⟩

theorem lastSupplied?_eq_none_iff {value? : Field → Option Value} {fields : List Field}
    {name : String} :
    lastSupplied? value? fields name = none ↔
      ∀ field ∈ fields, field.attributeName = name → value? field = none := by
  simp [lastSupplied?]

theorem lastSupplied?_eq_some {value? : Field → Option Value} {fields : List Field} {name : String}
    {value : Value} (agree : ∀ field ∈ fields, field.attributeName = name →
      ∀ written, value? field = some written → written = value)
    {field : Field} (member : field ∈ fields) (named : field.attributeName = name)
    (supplies : value? field = some value) : lastSupplied? value? fields name = some value := by
  cases last : lastSupplied? value? fields name with
  | none =>
    rw [lastSupplied?_eq_none_iff.mp last field member named] at supplies
    cases supplies
  | some written =>
    obtain ⟨other, listed, otherNamed, wrote⟩ := exists_of_lastSupplied? last
    rw [agree other listed otherNamed written wrote]

section

variable {ε : Type} {step : Object → Field → Except ε Object} {value? : Field → Option Value}
  {fields : List Field} {first last : Object}
  (fills : ∀ field ∈ fields, ∀ object next, step object field = .ok next →
    field.Fills (value? field) object next)
  (done : fields.foldlM step first = .ok last)

include fills done

theorem shape_of_fills : last.shape = first.shape := by
  have steps : ∀ field ∈ fields, ∀ object next, step object field = .ok next →
      object.shape = first.shape → next.shape = first.shape := by
    intro field member object next stepped same
    exact (fills field member object next stepped).shape_eq.trans same
  exact foldlM_keeps steps done rfl

variable {name : String} (exact : first.shape.Exact name)

include exact

/-- After a run, an attribute has what the last field that supplies it has supplied, or else what it
had before. -/
theorem get?_of_fills :
    last.get? name = (lastSupplied? value? fields name).or (first.get? name) := by
  induction fields generalizing first with
  | nil =>
    cases done
    rfl
  | cons field rest ih =>
    rw [List.foldlM_cons, bind_eq_ok_iff] at done
    obtain ⟨next, stepped, remaining⟩ := done
    have filled := fills field List.mem_cons_self first next stepped
    have later := ih (fun other member => fills other (List.mem_cons_of_mem _ member)) remaining
      (filled.shape_eq ▸ exact)
    rw [later, filled.get?_after exact, lastSupplied?_cons, Option.or_assoc]

end

namespace Entity

variable {entity : Entity} {row : Row} {keys : KeyValues} {object next : Object} {field : Field}

theorem assign_eq_ok_iff {value : Value} :
    entity.assign field object value = .ok next ↔
      object.set field.attributeName value = .ok next :=
  mapError_eq_ok_iff _ _ _

theorem fills_of_fillColumn (done : entity.fillColumn row object field = .ok next) :
    field.Fills (field.read? row) object next ∧
      ∀ index, row.indexOf? field.columnName = some index →
        ∃ value, field.decodeAt row index = .ok value ∧ field.read? row = some value := by
  unfold fillColumn at done
  cases carried : row.indexOf? field.columnName with
  | none =>
    rw [carried] at done
    cases done
    rw [Field.read?, carried]
    exact ⟨.leaves object, by simp⟩
  | some index =>
    rw [carried] at done
    obtain ⟨value, decoded, assigned⟩ := (bind_eq_ok_iff _ _ _).mp done
    have reads : field.read? row = some value := by
      rw [Field.read?, carried]
      change (field.decodeAt row index).toOption = some value
      rw [decoded]
      rfl
    refine ⟨reads ▸ .assigns (assign_eq_ok_iff.mp assigned), ?_⟩
    rintro _ ⟨⟩
    exact ⟨value, decoded, reads⟩

theorem fills_of_fillKey (done : entity.fillKey row keys object field = .ok next) :
    field.Fills (keys.lookup field.columnName) object next := by
  unfold fillKey at done
  cases supplied : keys.lookup field.columnName with
  | none =>
    rw [supplied] at done
    obtain ⟨_, _, rfl⟩ := (map_eq_ok_iff _ _ _).mp done
    exact .leaves object
  | some value =>
    rw [supplied] at done
    exact .assigns (assign_eq_ok_iff.mp done)

theorem shape_of_fillColumns
    (done : entity.columns.foldlM (entity.fillColumn row) object = .ok next) :
    next.shape = object.shape :=
  shape_of_fills (fun _ _ _ _ stepped => (fills_of_fillColumn stepped).1) done

theorem decode_eq_ok_iff :
    entity.decode row keys = .ok object ↔
      ∃ fresh filled, entity.cls.own.factory = some fresh ∧
        entity.columns.foldlM (entity.fillColumn row) fresh = .ok filled ∧
        entity.keyspaceKeys.foldlM (entity.fillKey row keys) filled = .ok object := by
  simp only [decode, bind_eq_ok_iff, required_eq_ok_iff]
  constructor
  · rintro ⟨fresh, made, filled, columns, finished⟩
    exact ⟨fresh, filled, made, columns, finished⟩
  · rintro ⟨fresh, filled, made, columns, finished⟩
    exact ⟨fresh, made, filled, columns, finished⟩

/-- What is left of a row and keys in an object that was decoded from them. -/
structure Decoded (entity : Entity) (row : Row) (keys : KeyValues) (object : Object) : Prop where
  /-- The object is one of the entity's class. -/
  made : entity.cls.own.Makes object
  /-- Every column that the row carries could be decoded. -/
  reads : ∀ field ∈ entity.columns, ∀ index, row.indexOf? field.columnName = some index →
    ∃ value, field.decodeAt row index = .ok value ∧ field.read? row = some value
  /-- A column is held as it was read unless a field of the same attribute has another value. -/
  column : ∀ field ∈ entity.columns, ∀ value, field.read? row = some value →
    object.shape.Exact field.attributeName →
    (∀ other ∈ entity.columns, other.attributeName = field.attributeName →
      ∀ written, other.read? row = some written → written = value) →
    (∀ key ∈ entity.keyspaceKeys, key.attributeName = field.attributeName →
      ∀ written, keys.lookup key.columnName = some written → written = value) →
    object.get? field.attributeName = some value
  /-- A keyspace key is held as it was supplied unless a key of the same attribute has another
  value, whatever the row carries. -/
  key : ∀ field ∈ entity.keyspaceKeys, ∀ value, keys.lookup field.columnName = some value →
    object.shape.Exact field.attributeName →
    (∀ other ∈ entity.keyspaceKeys, other.attributeName = field.attributeName →
      ∀ written, keys.lookup other.columnName = some written → written = value) →
    object.get? field.attributeName = some value

theorem shape_of_fillKeys
    (done : entity.keyspaceKeys.foldlM (entity.fillKey row keys) object = .ok next) :
    next.shape = object.shape :=
  shape_of_fills (fun _ _ _ _ stepped => fills_of_fillKey stepped) done

/-- What an object that starts as a new one holds in an attribute when it has been decoded: the
value of the last keyspace key that is supplied for it, or else the value of the last column that
the row carries for it, or else what the new object holds. -/
def assembled? (entity : Entity) (row : Row) (keys : KeyValues) (fresh : Object) (name : String) :
    Option Value :=
  (lastSupplied? (fun key => keys.lookup key.columnName) entity.keyspaceKeys name).or
    ((lastSupplied? (·.read? row) entity.columns name).or (fresh.get? name))

/-- A decoded object is the new object of the class, overlaid by the row and then by the keys. -/
theorem exists_fresh_of_decode (done : entity.decode row keys = .ok object) :
    ∃ fresh, entity.cls.own.factory = some fresh ∧ fresh.shape = object.shape ∧
      ∀ name, object.shape.Exact name →
        object.get? name = entity.assembled? row keys fresh name := by
  obtain ⟨fresh, filled, made, columns, finished⟩ := decode_eq_ok_iff.mp done
  have filledShape : filled.shape = fresh.shape := shape_of_fillColumns columns
  have objectShape : object.shape = filled.shape := shape_of_fillKeys finished
  refine ⟨fresh, made, (objectShape.trans filledShape).symm, fun name exact => ?_⟩
  have filledExact : filled.shape.Exact name := objectShape ▸ exact
  have freshExact : fresh.shape.Exact name := filledShape ▸ filledExact
  rw [get?_of_fills (fun _ _ _ _ stepped => fills_of_fillKey stepped) finished filledExact,
    get?_of_fills (fun _ _ _ _ stepped => (fills_of_fillColumn stepped).1) columns freshExact]
  rfl

theorem decoded_of_decode (done : entity.decode row keys = .ok object) :
    entity.Decoded row keys object := by
  obtain ⟨_, _, _, columns, _⟩ := decode_eq_ok_iff.mp done
  obtain ⟨fresh, made, same, assembled⟩ := exists_fresh_of_decode done
  refine { made := ⟨fresh, made, same⟩, reads := ?_, column := ?_, key := ?_ }
  · intro field member
    obtain ⟨_, _, stepped⟩ := exists_step_of_foldlM columns member
    exact (fills_of_fillColumn stepped).2
  · intro field member value reads exact columnsAgree keysAgree
    rw [assembled _ exact, assembled?, lastSupplied?_eq_some columnsAgree member rfl reads]
    cases supplied : lastSupplied? (fun key => keys.lookup key.columnName) entity.keyspaceKeys
        field.attributeName with
    | none => rfl
    | some written =>
      obtain ⟨key, listed, named, wrote⟩ := exists_of_lastSupplied? supplied
      rw [keysAgree key listed named written wrote]
      rfl
  · intro field member value supplied exact agree
    -- The keys come last, so a column that has written the same attribute does not matter.
    rw [assembled _ exact, assembled?, lastSupplied?_eq_some agree member rfl supplied]
    rfl

end Entity

end TypedRows
