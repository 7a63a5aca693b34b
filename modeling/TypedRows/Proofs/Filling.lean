import TypedRows.Proofs.Decoding
import TypedRows.Proofs.RoundTrip

/-! Decoding read as a description. An object comes out exactly if no field of the entity fails, and
each of its attributes then has what the last field that supplies it supplies, the keyspace keys
after the columns. Otherwise the first field that fails says why. -/
namespace TypedRows

/-- Whether there is an attribute of the name that can hold the value. -/
def Shape.Fits (shape : Shape) (name : String) (value : Value) : Prop :=
  ∃ type, typeOf? shape.attributes name = some type ∧ ∃ held, type.ofValue? value = some held

/-- Why none of the attributes can hold the value under the name, if none can. -/
def refusal? (attributes : List Attribute) (name : String) (value : Value) :
    Option AttributeError :=
  match typeOf? attributes name with
  | none => some (.unknown name)
  | some type => if (type.ofValue? value).isSome then none else some (.mismatch name value)

theorem refusal?_eq_none_iff {shape : Shape} {name : String} {value : Value} :
    refusal? shape.attributes name value = none ↔ shape.Fits name value := by
  unfold refusal? Shape.Fits
  cases typeOf? shape.attributes name with
  | none => simp
  | some type => simp [Option.isSome_iff_exists]

theorem Slots.set_eq_error_iff {attributes : List Attribute} (slots : Slots attributes)
    (name : String) (value : Value) (cause : AttributeError) :
    slots.set name value = .error cause ↔ refusal? attributes name value = some cause := by
  induction slots with
  | nil => simp [set, refusal?, typeOf?]
  | @cons first rest held tail ih =>
    by_cases same : first.name = name
    · cases fits : first.type.ofValue? value <;> simp [set, refusal?, typeOf?, same, fits]
    · have later : typeOf? (first :: rest) name = typeOf? rest name := by
        rw [typeOf?, List.find?_cons_of_neg (by simpa using same), typeOf?]
      rw [refusal?, later, ← refusal?, ← ih, set, if_neg same]
      cases tail.set name value <;> simp [Except.map]

theorem Object.set_eq_error_iff (object : Object) (name : String) (value : Value)
    (cause : AttributeError) :
    object.set name value = .error cause ↔
      refusal? object.shape.attributes name value = some cause := by
  rw [← Slots.set_eq_error_iff object.slots, set]
  cases object.slots.set name value <;> simp [Except.map]

namespace Entity

/-- What is wrong with the column of a row for a field, if the row carries it. -/
def columnFault? (entity : Entity) (shape : Shape) (row : Row) (field : Field) :
    Option ConversionError :=
  match row.indexOf? field.columnName with
  | none => none
  | some index =>
    match field.decodeAt row index with
    | .error cause => some cause
    | .ok value => (refusal? shape.attributes field.attributeName value).map
        (.unassignable entity.path field.columnName)

/-- What is wrong with the value for a keyspace key, or with there being none. -/
def keyFault? (entity : Entity) (shape : Shape) (row : Row) (keys : KeyValues) (field : Field) :
    Option ConversionError :=
  match keys.lookup field.columnName with
  | some value => (refusal? shape.attributes field.attributeName value).map
      (.unassignable entity.path field.columnName)
  | none =>
    if field.isColumn && (row.indexOf? field.columnName).isSome then none
    else some (.missingKeyspaceKey entity.path field.columnName)

/-- The first thing that is wrong, the columns in declaration order before the keyspace keys in the
order of their names. -/
def fault? (entity : Entity) (shape : Shape) (row : Row) (keys : KeyValues) :
    Option ConversionError :=
  (entity.columns.findSome? (entity.columnFault? shape row)).or
    (entity.keyspaceKeys.findSome? (entity.keyFault? shape row keys))

variable {entity : Entity} {row : Row} {keys : KeyValues} {object : Object} {field : Field}
  {cause : ConversionError}

theorem assign_eq_error_iff {value : Value} :
    entity.assign field object value = .error cause ↔
      (refusal? object.shape.attributes field.attributeName value).map
        (.unassignable entity.path field.columnName) = some cause := by
  simp only [assign, mapError_eq_error_iff, Object.set_eq_error_iff, Option.map_eq_some_iff]

theorem fillColumn_eq_error_iff :
    entity.fillColumn row object field = .error cause ↔
      entity.columnFault? object.shape row field = some cause := by
  unfold fillColumn columnFault?
  cases row.indexOf? field.columnName with
  | none => simp
  | some index =>
    dsimp only
    cases field.decodeAt row index with
    | error found => simp
    | ok value => exact assign_eq_error_iff

theorem fillKey_eq_error_iff :
    entity.fillKey row keys object field = .error cause ↔
      entity.keyFault? object.shape row keys field = some cause := by
  unfold fillKey keyFault?
  cases keys.lookup field.columnName with
  | some value => exact assign_eq_error_iff
  | none =>
    cases carried : field.isColumn && (row.indexOf? field.columnName).isSome <;>
      simp [require, Except.map]

theorem fillColumns_eq_error_iff {shape : Shape} (same : object.shape = shape) :
    entity.columns.foldlM (entity.fillColumn row) object = .error cause ↔
      entity.columns.findSome? (entity.columnFault? shape row) = some cause := by
  refine foldlM_eq_error_iff_findSome? (fun object => object.shape = shape) ?_ ?_ same cause
  · intro field _ object next done same
    exact (fills_of_fillColumn done).1.shape_eq.trans same
  · rintro field _ object rfl cause
    exact fillColumn_eq_error_iff

theorem fillKeys_eq_error_iff {shape : Shape} (same : object.shape = shape) :
    entity.keyspaceKeys.foldlM (entity.fillKey row keys) object = .error cause ↔
      entity.keyspaceKeys.findSome? (entity.keyFault? shape row keys) = some cause := by
  refine foldlM_eq_error_iff_findSome? (fun object => object.shape = shape) ?_ ?_ same cause
  · intro field _ object next done same
    exact (fills_of_fillKey done).shape_eq.trans same
  · rintro field _ object rfl cause
    exact fillKey_eq_error_iff

/-- Decoding fails for want of a factory, or else with the first thing that is wrong. -/
theorem decode_eq_error_iff :
    entity.decode row keys = .error cause ↔
      (entity.cls.own.factory = none ∧ cause = .abstractClass entity.path) ∨
        ∃ fresh, entity.cls.own.factory = some fresh ∧
          entity.fault? fresh.shape row keys = some cause := by
  unfold decode
  cases entity.cls.own.factory with
  | none => simp [required, eq_comm]
  | some fresh =>
    have columns (found : ConversionError) :
        entity.columns.foldlM (entity.fillColumn row) fresh = .error found ↔
          entity.columns.findSome? (entity.columnFault? fresh.shape row) = some found :=
      fillColumns_eq_error_iff rfl
    simp only [required, ok_bind, fault?, reduceCtorEq, false_and, false_or, Option.some.injEq,
      exists_eq_left']
    cases filling : entity.columns.foldlM (entity.fillColumn row) fresh with
    | error found =>
      rw [(columns found).mp filling]
      simp
    | ok filled =>
      have sound : entity.columns.findSome? (entity.columnFault? fresh.shape row) = none := by
        cases fault : entity.columns.findSome? (entity.columnFault? fresh.shape row) with
        | none => rfl
        | some found =>
          rw [(columns found).mpr fault] at filling
          cases filling
      have same : filled.shape = fresh.shape := shape_of_fillColumns filling
      rw [ok_bind, fillKeys_eq_error_iff same, sound, Option.none_or]

/-- Every column that the row carries can be decoded, to a value that fits its attribute. -/
def FitsColumns (entity : Entity) (shape : Shape) (row : Row) : Prop :=
  ∀ field ∈ entity.columns, ∀ index, row.indexOf? field.columnName = some index →
    ∃ value, field.decodeAt row index = .ok value ∧ shape.Fits field.attributeName value

/-- Nothing is wrong with the columns that the row carries and with the keyspace keys. -/
structure Decodable (entity : Entity) (shape : Shape) (row : Row) (keys : KeyValues) : Prop where
  columns : entity.FitsColumns shape row
  supplied : ∀ key ∈ entity.keyspaceKeys, ∀ value, keys.lookup key.columnName = some value →
    shape.Fits key.attributeName value
  unsupplied : ∀ key ∈ entity.keyspaceKeys, keys.lookup key.columnName = none →
    key.isColumn = true ∧ ∃ index, row.indexOf? key.columnName = some index

theorem columnFault?_eq_none_iff {shape : Shape} :
    entity.columnFault? shape row field = none ↔
      ∀ index, row.indexOf? field.columnName = some index →
        ∃ value, field.decodeAt row index = .ok value ∧ shape.Fits field.attributeName value := by
  unfold columnFault?
  cases row.indexOf? field.columnName with
  | none => simp
  | some index =>
    simp only [Option.some.injEq, forall_eq']
    cases field.decodeAt row index with
    | error found => simp
    | ok value => simp [refusal?_eq_none_iff]

theorem keyFault?_eq_none_iff {shape : Shape} :
    entity.keyFault? shape row keys field = none ↔
      (∀ value, keys.lookup field.columnName = some value →
        shape.Fits field.attributeName value) ∧
      (keys.lookup field.columnName = none →
        field.isColumn = true ∧ ∃ index, row.indexOf? field.columnName = some index) := by
  unfold keyFault?
  cases keys.lookup field.columnName with
  | some value => simp [refusal?_eq_none_iff]
  | none => simp [Option.isSome_iff_exists]

theorem fault?_eq_none_iff {shape : Shape} :
    entity.fault? shape row keys = none ↔ entity.Decodable shape row keys := by
  simp only [fault?, Option.or_eq_none_iff, List.findSome?_eq_none_iff, columnFault?_eq_none_iff,
    keyFault?_eq_none_iff]
  constructor
  · rintro ⟨columns, keyed⟩
    exact ⟨columns, fun key member => (keyed key member).1, fun key member => (keyed key member).2⟩
  · rintro ⟨columns, supplied, unsupplied⟩
    exact ⟨columns, fun key member => ⟨supplied key member, unsupplied key member⟩⟩

theorem exists_decode_eq_ok_iff :
    (∃ object, entity.decode row keys = .ok object) ↔
      ∃ fresh, entity.cls.own.factory = some fresh ∧
        entity.Decodable fresh.shape row keys := by
  simp only [← fault?_eq_none_iff]
  cases outcome : entity.decode row keys with
  | ok object =>
    obtain ⟨fresh, _, made, _⟩ := decode_eq_ok_iff.mp outcome
    refine iff_of_true ⟨object, rfl⟩ ⟨fresh, made, ?_⟩
    by_contra wrong
    obtain ⟨cause, fault⟩ := Option.ne_none_iff_exists'.mp wrong
    rw [decode_eq_error_iff.mpr (.inr ⟨fresh, made, fault⟩)] at outcome
    cases outcome
  | error cause =>
    refine iff_of_false (by simp) ?_
    rintro ⟨fresh, made, sound⟩
    rcases decode_eq_error_iff.mp outcome with ⟨abstract, _⟩ | ⟨other, otherMade, fault⟩
    · simp [made] at abstract
    · obtain rfl := Option.some.inj (made.symm.trans otherMade)
      simp [sound] at fault

/-- Decoding through an introspected entity whose objects hold values exactly succeeds exactly if
the class is concrete and nothing is wrong with what the row and the keys have for it. The object is
then assembled from that, and otherwise the first thing that is wrong is reported. The columns stand
in the order of declaration from the top of the hierarchy, and the keyspace keys in that of their
names. -/
theorem decode_described {settings : Settings} {boundary : Boundary} {cls : Class}
    {entity : Entity} (introspected : introspect settings boundary cls = .ok entity)
    (exact : ∀ fresh, cls.own.factory = some fresh →
      ∀ declared ∈ fresh.shape.attributes, declared.type.singleFree = true)
    (row : Row) (keys : KeyValues) :
    ((∃ object, entity.decode row keys = .ok object) ↔
        ∃ fresh, cls.own.factory = some fresh ∧ entity.Decodable fresh.shape row keys) ∧
      (∀ object, entity.decode row keys = .ok object →
        ∃ fresh, cls.own.factory = some fresh ∧ object.shape = fresh.shape ∧
          ∀ name, object.get? name = entity.assembled? row keys fresh name) ∧
      (∀ cause, entity.decode row keys = .error cause ↔
        (cls.own.factory = none ∧ cause = .abstractClass entity.path) ∨
          ∃ fresh, cls.own.factory = some fresh ∧
            entity.fault? fresh.shape row keys = some cause) ∧
      entity.columns = cls.fields.filter (·.isColumn) ∧
      Keyed.Ascending Field.columnName entity.keyspaceKeys ∧
      ∀ key, key ∈ entity.keyspaceKeys ↔ key ∈ cls.keyFields := by
  obtain ⟨rfl, _, described⟩ := (introspect_eq_ok_iff _ _ _ _).mp introspected
  refine ⟨exists_decode_eq_ok_iff, ?_, fun cause => decode_eq_error_iff, described.columns,
    ascending_keyspaceKeys described, fun key => mem_keyspaceKeys_iff described⟩
  intro object done
  obtain ⟨fresh, made, same, assembled⟩ := exists_fresh_of_decode done
  refine ⟨fresh, made, same.symm, fun name => assembled name ?_⟩
  exact same ▸ Shape.exact_of_singleFree (exact fresh made) name

/-- Nothing is wrong with the columns, and for each keyspace key there is a value that fits or else
a column of the row. -/
structure DecodableByEither (entity : Entity) (shape : Shape) (row : Row) (keys : KeyValues) :
    Prop where
  columns : entity.FitsColumns shape row
  either : ∀ key ∈ entity.keyspaceKeys,
    (∃ value, keys.lookup key.columnName = some value ∧ shape.Fits key.attributeName value) ∨
      (key.isColumn = true ∧ ∃ index, row.indexOf? key.columnName = some index)

end Entity

namespace Menagerie

/-- A lodger that nobody has fed yet. -/
def newcomer : Object := newborn "Lodger" "zoo::Lodger" [⟨"mood", .string⟩] (.cons "hungry" .nil)

/-- Lodgers, whose region is stored as the area and supplied under both names. -/
def lodger : Class := .below
  { path := "zoo::Lodger"
    factory := some newcomer
    discriminator := some "lodger"
    fields := [((FieldDecl.ofColumn "region" .text).named "area").asKeyspaceKey "area"] } animal

theorem newcomer_exact : ∀ fresh, lodger.own.factory = some fresh →
    ∀ declared ∈ fresh.shape.attributes, declared.type.singleFree = true := by
  rintro _ ⟨⟩
  decide

def lodgerKeys : List Field :=
  [⟨((FieldDecl.ofColumn "region" .text).named "area").asKeyspaceKey "area", "zoo::Lodger"⟩,
    ⟨.ofSuffix "region" .text "region", "zoo::Animal"⟩]

def lodgerRow : Row :=
  .ofCells "zoo" "animals"
    [⟨"id", .text "rex", none⟩, ⟨"kind", .text "lodger", none⟩, ⟨"area", .text "north", none⟩]

/-- The row has the area, but the value that is supplied for it is none. -/
def misfit : KeyValues := [("area", .uint 1), ("region", .text "south")]

end Menagerie

/-- The region of a lodger is the one that is supplied and not the one that the row carries, its mood
is that of a new one, and a value for the area that is no text is refused. -/
theorem Entity.decode_described_lodger :
    ∃ entity, introspect {} .type Menagerie.lodger = .ok entity ∧
      (∃ object, entity.decode Menagerie.lodgerRow [("region", .text "south")] = .ok object ∧
        object.get? "region" = some (.text "south") ∧ object.get? "id" = some (.text "rex") ∧
        object.get? "mood" = some (.text "hungry")) ∧
      entity.decode Menagerie.lodgerRow Menagerie.misfit =
        .error (.unassignable "zoo::Lodger" "area" (.mismatch "region" (.uint 1))) := by
  have built : ∃ entity, introspect {} .type Menagerie.lodger = .ok entity ∧
      (∃ object, entity.decode Menagerie.lodgerRow [("region", .text "south")] = .ok object) ∧
      ["region", "id", "mood"].map (entity.assembled? Menagerie.lodgerRow
        [("region", .text "south")] Menagerie.newcomer) =
          [some (.text "south"), some (.text "rex"), some (.text "hungry")] ∧
      entity.fault? Menagerie.newcomer.shape Menagerie.lodgerRow Menagerie.misfit =
        some (.unassignable "zoo::Lodger" "area" (.mismatch "region" (.uint 1))) :=
    ⟨_, rfl, ⟨_, rfl⟩, rfl, rfl⟩
  obtain ⟨entity, introspected, ⟨object, done⟩, assembled, fault⟩ := built
  have described (keys : KeyValues) :=
    decode_described introspected Menagerie.newcomer_exact Menagerie.lodgerRow keys
  refine ⟨entity, introspected, ⟨object, done, ?_⟩, ?_⟩
  · obtain ⟨_, assembles, _⟩ := described [("region", .text "south")]
    obtain ⟨fresh, made, _, holds⟩ := assembles object done
    obtain rfl : Menagerie.newcomer = fresh := Option.some.inj made
    rw [holds, holds, holds]
    simpa using assembled
  · obtain ⟨_, _, refuses, _⟩ := described Menagerie.misfit
    exact (refuses _).mpr (.inr ⟨_, rfl, fault⟩)

/-- A value that does not fit is refused, even where the row carries the key as a column. -/
theorem Entity.not_forall_decode_described :
    ¬∀ (settings : Settings) (boundary : Boundary) (cls : Class) (entity : Entity) (row : Row)
      (keys : KeyValues), introspect settings boundary cls = .ok entity →
      (∀ fresh, cls.own.factory = some fresh →
        ∀ declared ∈ fresh.shape.attributes, declared.type.singleFree = true) →
      ((∃ object, entity.decode row keys = .ok object) ↔
        ∃ fresh, cls.own.factory = some fresh ∧
          entity.DecodableByEither fresh.shape row keys) := by
  intro always
  have built : ∃ entity, introspect {} .type Menagerie.lodger = .ok entity ∧
      (∃ object, entity.decode Menagerie.lodgerRow [("region", .text "south")] = .ok object) ∧
      (∃ cause, entity.decode Menagerie.lodgerRow Menagerie.misfit = .error cause) ∧
      entity.keyspaceKeys = Menagerie.lodgerKeys :=
    ⟨_, rfl, ⟨_, rfl⟩, ⟨_, rfl⟩, rfl⟩
  obtain ⟨entity, introspected, decodes, ⟨cause, refused⟩, listed⟩ := built
  have same := ((introspect_eq_ok_iff _ _ _ _).mp introspected).1
  obtain ⟨fresh, made, decodable⟩ := exists_decode_eq_ok_iff.mp decodes
  rw [same] at made
  obtain rfl : Menagerie.newcomer = fresh := Option.some.inj made
  have either : entity.DecodableByEither Menagerie.newcomer.shape Menagerie.lodgerRow
      Menagerie.misfit := by
    refine ⟨decodable.columns, fun key member => ?_⟩
    rw [listed] at member
    rcases List.mem_pair.mp member with rfl | rfl
    · exact .inr ⟨rfl, 2, rfl⟩
    · exact .inl ⟨.text "south", rfl, .string, rfl, "south", rfl⟩
  obtain ⟨object, done⟩ := (always _ _ _ _ _ Menagerie.misfit introspected
    Menagerie.newcomer_exact).mpr ⟨_, rfl, either⟩
  rw [refused] at done
  cases done

end TypedRows
