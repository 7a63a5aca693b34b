import TypedRows.Proofs.KeyspaceNames
import TypedRows.Proofs.RoundTrip

/-! How the name of a keyspace comes about. Every suffix type has a keyspace key that covers it, and
nothing but the values for these keys decides: a name comes out if each of them has a text that the
key does not exclude, and otherwise the first suffix type without one is reported under the name of
its key. -/
namespace TypedRows

namespace Keyspace

/-- The name that a base name and the texts of the suffix types make up. -/
def compose (naming : Naming) (base : String) (texts : List String) : String :=
  base ++ String.join (texts.map fun text => naming.separator ++ sanitize text)

theorem foldl_extend_eq_compose (naming : Naming) (base : String) (texts : List String) :
    texts.foldl (extend naming) base = compose naming base texts := by
  induction texts generalizing base with
  | nil => simp [compose]
  | cons text rest ih =>
    rw [List.foldl_cons, ih]
    simp [compose, extend, String.append_assoc]

variable {ε : Type} {keyspace : Keyspace} {naming : Naming} {valueOf : String → Except ε String}

theorem resolve_eq_ok_iff_compose {name : String} :
    keyspace.resolve naming valueOf = .ok name ↔
      ∃ texts, keyspace.suffixes.mapM valueOf = .ok texts ∧
        name = compose naming (keyspace.baseName naming) texts := by
  simp only [resolve, foldlM_extend_eq_ok_iff, foldl_extend_eq_compose]

theorem exists_resolve_eq_ok_iff :
    (∃ name, keyspace.resolve naming valueOf = .ok name) ↔
      ∀ suffixType ∈ keyspace.suffixes, ∃ text, valueOf suffixType = .ok text := by
  rw [← exists_mapM_eq_ok_iff]
  constructor
  · rintro ⟨name, resolved⟩
    obtain ⟨texts, done, _⟩ := resolve_eq_ok_iff_compose.mp resolved
    exact ⟨texts, done⟩
  · rintro ⟨texts, done⟩
    exact ⟨_, resolve_eq_ok_iff_compose.mpr ⟨texts, done, rfl⟩⟩

/-- The first suffix type without a text is the one that is reported. -/
theorem resolve_eq_error_iff {cause : ε} :
    keyspace.resolve naming valueOf = .error cause ↔
      ∃ before suffixType after, keyspace.suffixes = before ++ suffixType :: after ∧
        (∀ earlier ∈ before, ∃ text, valueOf earlier = .ok text) ∧
        valueOf suffixType = .error cause := by
  have stops (suffixType state : String) :
      (valueOf suffixType).map (extend naming state) = .error cause ↔
        valueOf suffixType = .error cause := by
    cases valueOf suffixType <;> simp [Except.map]
  simp only [resolve, foldlM_eq_error_iff, stops]
  constructor
  · rintro ⟨before, suffixType, after, state, split, reached, fails⟩
    obtain ⟨texts, done, _⟩ := foldlM_extend_eq_ok_iff.mp reached
    exact ⟨before, suffixType, after, split, exists_mapM_eq_ok_iff.mp ⟨texts, done⟩, fails⟩
  · rintro ⟨before, suffixType, after, split, each, fails⟩
    obtain ⟨texts, done⟩ := exists_mapM_eq_ok_iff.mpr each
    exact ⟨before, suffixType, after, _, split, foldlM_extend_eq_ok_iff.mpr ⟨texts, done, rfl⟩,
      fails⟩

end Keyspace

namespace Field

/-- The values for which there is no keyspace. -/
def excluded (key : Field) : List String := (key.decl.keyspaceKey.map (·.exclude)).getD []

theorem excludes_iff {key : Field} {text : String} :
    key.excludes text = true ↔ text ∈ key.excluded := by
  unfold excludes excluded
  cases key.decl.keyspaceKey <;> simp

/-- The key values have a text for the keyspace key, which is that of a value other than null, and
the key does not exclude it. -/
structure Gives (key : Field) (keys : KeyValues) (text : String) : Prop where
  supplied : ∃ value, keys.lookup key.columnName = some value ∧ value ≠ .null ∧ value.render = text
  allowed : text ∉ key.excluded

theorem gives_text_iff {key : Field} {keys : KeyValues} {text taken : String}
    (supplied : keys.lookup key.columnName = some (.text text)) :
    key.Gives keys taken ↔ taken = text ∧ text ∉ key.excluded := by
  constructor
  · rintro ⟨⟨value, found, _, rendered⟩, allowed⟩
    obtain rfl : .text text = value := Option.some.inj (supplied.symm.trans found)
    obtain rfl : text = taken := by simpa [Value.render] using rendered
    exact ⟨rfl, allowed⟩
  · rintro ⟨rfl, allowed⟩
    exact ⟨⟨_, supplied, by simp, by simp [Value.render]⟩, allowed⟩

end Field

namespace Entity

/-- The keyspace key that a suffix type takes its text from: of the keys that supply it the first one
by name. -/
structure Covers (entity : Entity) (suffixType : String) (key : Field) : Prop where
  listed : key ∈ entity.keyspaceKeys
  supplies : key.supplies suffixType = true
  first : ∀ other ∈ entity.keyspaceKeys, other.supplies suffixType = true →
    key.columnName ≤ other.columnName

/-- Why a keyspace key has no text to give. -/
inductive Refuses (entity : Entity) (keys : KeyValues) (key : Field) : ConversionError → Prop
  | missing (unsupplied : keys.lookup key.columnName = none ∨
      keys.lookup key.columnName = some .null) :
    Refuses entity keys key (.missingKeyspaceKey entity.path key.columnName)
  | excluded (value : Value) (supplied : keys.lookup key.columnName = some value)
      (present : value ≠ .null) (listed : value.render ∈ key.excluded) :
    Refuses entity keys key (.excludedKeyspaceKey entity.path key.columnName value.render)

theorem keyText?_eq_some_iff {value : Value} {text : String} :
    keyText? value = some text ↔ value ≠ .null ∧ value.render = text := by
  cases value <;> simp [keyText?]

theorem keyText?_eq_none_iff {value : Value} : keyText? value = none ↔ value = .null := by
  cases value <;> simp [keyText?]

variable {entity : Entity} {boundary : Boundary} {keys : KeyValues} {suffixType text : String}
  {key : Field} {cause : ConversionError}

theorem find?_supplies_eq_some_iff (described : entity.Describes boundary) :
    entity.keyspaceKeys.find? (·.supplies suffixType) = some key ↔ entity.Covers suffixType key := by
  rw [(ascending_keyspaceKeys described).find?_eq_some_iff]
  exact ⟨fun ⟨listed, supplies, first⟩ => ⟨listed, supplies, first⟩,
    fun covers => ⟨covers.listed, covers.supplies, covers.first⟩⟩

theorem Covers.unique {other : Field} (described : entity.Describes boundary)
    (covers : entity.Covers suffixType key) (also : entity.Covers suffixType other) : other = key := by
  have found := (find?_supplies_eq_some_iff described).mpr covers
  exact Option.some.inj (((find?_supplies_eq_some_iff described).mpr also).symm.trans found)

/-- Introspection has seen to it that every suffix type is covered. -/
theorem exists_covers (described : entity.Describes boundary)
    (listed : suffixType ∈ entity.keyspace.suffixes) : ∃ key, entity.Covers suffixType key := by
  obtain ⟨key, member, supplies⟩ := described.suppliedSuffixes suffixType listed
  have found : (entity.keyspaceKeys.find? (·.supplies suffixType)).isSome = true :=
    List.find?_isSome.mpr ⟨key, member, supplies⟩
  obtain ⟨first, first?⟩ := Option.isSome_iff_exists.mp found
  exact ⟨first, (find?_supplies_eq_some_iff described).mp first?⟩

section

variable (described : entity.Describes boundary) (covers : entity.Covers suffixType key)

include described covers

theorem suffixValue_eq_ok_iff_gives :
    entity.suffixValue keys suffixType = .ok text ↔ key.Gives keys text := by
  have found := (find?_supplies_eq_some_iff described).mpr covers
  simp only [suffixValue_eq_ok_iff, found, Option.some.injEq, exists_eq_left', Option.bind_eq_bind,
    Option.bind_eq_some_iff, keyText?_eq_some_iff, ← Bool.not_eq_true, Field.excludes_iff]
  exact ⟨fun ⟨supplied, allowed⟩ => ⟨supplied, allowed⟩,
    fun gives => ⟨gives.supplied, gives.allowed⟩⟩

theorem suffixValue_eq_error_iff_refuses :
    entity.suffixValue keys suffixType = .error cause ↔ entity.Refuses keys key cause := by
  have found := (find?_supplies_eq_some_iff described).mpr covers
  have covered : entity.suffixValue keys suffixType =
      (required (keys.lookup key.columnName >>= keyText?)
        (.missingKeyspaceKey entity.path key.columnName) >>= fun text =>
          require (!key.excludes text) (.excludedKeyspaceKey entity.path key.columnName text) >>=
            fun _ => .ok text) := by
    rw [suffixValue, found]
    rfl
  rw [covered]
  simp only [bind_eq_error_iff, required_eq_error_iff, required_eq_ok_iff, require_eq_error_iff,
    Bool.not_eq_false']
  constructor
  · rintro (⟨none, rfl⟩ | ⟨text, given, ⟨listed, rfl⟩ | ⟨_, _, done⟩⟩)
    · cases supplied : keys.lookup key.columnName with
      | none => exact .missing (.inl supplied)
      | some value =>
        rw [supplied] at none
        obtain rfl := keyText?_eq_none_iff.mp none
        exact .missing (.inr supplied)
    · obtain ⟨value, supplied, rendered⟩ := Option.bind_eq_some_iff.mp given
      obtain ⟨present, rfl⟩ := keyText?_eq_some_iff.mp rendered
      exact .excluded value supplied present (Field.excludes_iff.mp listed)
    · cases done
  · intro refuses
    cases refuses with
    | missing unsupplied =>
      refine .inl ⟨?_, rfl⟩
      rcases unsupplied with absent | null
      · rw [absent]
        rfl
      · rw [null]
        rfl
    | excluded value supplied present listed =>
      refine .inr ⟨value.render, ?_, .inl ⟨Field.excludes_iff.mpr listed, rfl⟩⟩
      rw [supplied]
      exact keyText?_eq_some_iff.mpr ⟨present, rfl⟩

end

/-- The suffix type has a text, which its covering key gives. -/
def Takes (entity : Entity) (keys : KeyValues) (suffixType text : String) : Prop :=
  ∃ key, entity.Covers suffixType key ∧ key.Gives keys text

theorem suffixValue_eq_ok_iff_takes (described : entity.Describes boundary)
    (listed : suffixType ∈ entity.keyspace.suffixes) :
    entity.suffixValue keys suffixType = .ok text ↔ entity.Takes keys suffixType text := by
  obtain ⟨key, covers⟩ := exists_covers described listed
  rw [suffixValue_eq_ok_iff_gives described covers]
  constructor
  · exact fun gives => ⟨key, covers, gives⟩
  · rintro ⟨other, also, gives⟩
    exact covers.unique described also ▸ gives

/-- Everything that resolving the keyspace of an entity can come to for some key values. -/
structure ResolvesThroughCovers (entity : Entity) (keys : KeyValues) : Prop where
  succeeds : (∃ name, entity.resolveKeyspace keys = .ok name) ↔
    ∀ suffixType ∈ entity.keyspace.suffixes, ∀ key, entity.Covers suffixType key →
      ∃ text, key.Gives keys text
  /-- Each text stands behind a separator, in the order of the suffix types. -/
  named : ∀ name, entity.resolveKeyspace keys = .ok name ↔
    ∃ texts, List.Forall₂ (entity.Takes keys) entity.keyspace.suffixes texts ∧
      name = Keyspace.compose entity.settings.naming entity.keyspaceName texts
  /-- The key that is reported is one of the entity's. -/
  refused : ∀ cause, entity.resolveKeyspace keys = .error cause ↔
    ∃ before suffixType after key, entity.keyspace.suffixes = before ++ suffixType :: after ∧
      (∀ earlier ∈ before, ∃ text, entity.Takes keys earlier text) ∧
      entity.Covers suffixType key ∧ entity.Refuses keys key cause
  decided : ∀ others : KeyValues,
    (∀ suffixType ∈ entity.keyspace.suffixes, ∀ key, entity.Covers suffixType key →
      keys.lookup key.columnName = others.lookup key.columnName) →
    entity.resolveKeyspace keys = entity.resolveKeyspace others

theorem resolvesThroughCovers (described : entity.Describes boundary) (keys : KeyValues) :
    entity.ResolvesThroughCovers keys where
  succeeds := by
    rw [resolveKeyspace, Keyspace.exists_resolve_eq_ok_iff]
    refine forall₂_congr fun suffixType listed => ?_
    obtain ⟨key, covers⟩ := exists_covers described listed
    simp only [suffixValue_eq_ok_iff_gives described covers]
    constructor
    · intro given other also
      exact covers.unique described also ▸ given
    · exact fun each => each key covers
  named name := by
    rw [resolveKeyspace, Keyspace.resolve_eq_ok_iff_compose]
    refine exists_congr fun texts => and_congr_left fun _ => ?_
    exact mapM_eq_ok_iff_forall₂
      (fun suffixType listed text => suffixValue_eq_ok_iff_takes described listed) texts
  refused cause := by
    rw [resolveKeyspace, Keyspace.resolve_eq_error_iff]
    have takes {before after : List String} {suffixType : String}
        (split : entity.keyspace.suffixes = before ++ suffixType :: after) :
        (∀ earlier ∈ before, ∃ text, entity.suffixValue keys earlier = .ok text) ↔
          ∀ earlier ∈ before, ∃ text, entity.Takes keys earlier text := by
      refine forall₂_congr fun earlier member => exists_congr fun text => ?_
      exact suffixValue_eq_ok_iff_takes described (split ▸ List.mem_append_left _ member)
    constructor
    · rintro ⟨before, suffixType, after, split, each, fails⟩
      obtain ⟨key, covers⟩ := exists_covers described
        (split ▸ List.mem_append_right _ List.mem_cons_self)
      exact ⟨before, suffixType, after, key, split, (takes split).mp each, covers,
        (suffixValue_eq_error_iff_refuses described covers).mp fails⟩
    · rintro ⟨before, suffixType, after, key, split, each, covers, refuses⟩
      exact ⟨before, suffixType, after, split, (takes split).mpr each,
        (suffixValue_eq_error_iff_refuses described covers).mpr refuses⟩
  decided _ same := resolveKeyspace_congr fun suffixType listed key found =>
    same suffixType listed key ((find?_supplies_eq_some_iff described).mp found)

/-- The keyspace of an introspected entity is resolved through the keys that cover its suffix types.
Each suffix type has just one of them, so no suffix type is ever reported for want of a key. -/
theorem resolveKeyspace_of_introspect {settings : Settings} {boundary : Boundary} {cls : Class}
    {entity : Entity} (introspected : introspect settings boundary cls = .ok entity) :
    (∀ suffixType ∈ entity.keyspace.suffixes, ∃! key, entity.Covers suffixType key) ∧
      ∀ keys, entity.ResolvesThroughCovers keys := by
  obtain ⟨_, _, described⟩ := (introspect_eq_ok_iff _ _ _ _).mp introspected
  refine ⟨?_, resolvesThroughCovers described⟩
  intro suffixType listed
  obtain ⟨key, covers⟩ := exists_covers described listed
  exact ⟨key, covers, fun _ also => covers.unique described also⟩

end Entity

namespace Harbour

/-- Vessels, whose keyspace tells the flag before the berth. The colour supplies the flag as well,
and it comes first by name. -/
def vessel : Class := .top
  { path := "port::Vessel"
    isRoot := true
    keyspace := some ⟨"port", ["flag", "berth"]⟩
    tables := ["calls"]
    fields := [(FieldDecl.ofColumn "id" .text).asPartitionKey 0, .ofSuffix "flag" .text "flag",
      (FieldDecl.ofSuffix "colour" .text "flag").excluding ["black"],
      (FieldDecl.ofSuffix "berth" .uint "berth").excluding ["0"]] }

def colour : Field :=
  ⟨(FieldDecl.ofSuffix "colour" .text "flag").excluding ["black"], "port::Vessel"⟩

def berth : Field :=
  ⟨(FieldDecl.ofSuffix "berth" .uint "berth").excluding ["0"], "port::Vessel"⟩

/-- What the introspection of the vessels comes to. -/
structure Described (entity : Entity) : Prop where
  introspected : Entity.introspect {} .root vessel = .ok entity
  settings : entity.settings = {}
  path : entity.path = "port::Vessel"
  keyspace : entity.keyspace = ⟨"port", ["flag", "berth"]⟩
  flag : entity.Covers "flag" colour
  berth : entity.Covers "berth" Harbour.berth

theorem exists_described : ∃ entity, Described entity := by
  have built : ∃ entity, Entity.introspect {} .root vessel = .ok entity ∧ entity.settings = {} ∧
      entity.path = "port::Vessel" ∧ entity.keyspace = ⟨"port", ["flag", "berth"]⟩ ∧
      entity.keyspaceKeys.find? (·.supplies "flag") = some colour ∧
      entity.keyspaceKeys.find? (·.supplies "berth") = some berth :=
    ⟨_, rfl, rfl, rfl, rfl, rfl, rfl⟩
  obtain ⟨entity, introspected, settings, path, keyspace, flag, berth⟩ := built
  obtain ⟨_, _, described⟩ := (Entity.introspect_eq_ok_iff _ _ _ _).mp introspected
  exact ⟨entity, introspected, settings, path, keyspace,
    (Entity.find?_supplies_eq_some_iff described).mp flag,
    (Entity.find?_supplies_eq_some_iff described).mp berth⟩

end Harbour

/-- The colour covers the flag. It is refused before the berth is looked at, and the text that is
supplied under the name of the flag does not matter. -/
theorem Entity.resolveKeyspace_of_introspect_vessel :
    ∃ entity, introspect {} .root Harbour.vessel = .ok entity ∧
      entity.resolveKeyspace [("berth", .uint 7), ("colour", .text "Red")] =
        .ok "port_red_7" ∧
      entity.resolveKeyspace [("colour", .text "black"), ("flag", .text "red")] =
        .error (.excludedKeyspaceKey "port::Vessel" "colour" "black") := by
  obtain ⟨entity, vessel⟩ := Harbour.exists_described
  obtain ⟨_, resolves⟩ := resolveKeyspace_of_introspect vessel.introspected
  refine ⟨entity, vessel.introspected, ?_, ?_⟩
  · refine ((resolves _).named _).mpr ⟨["Red", "7"], ?_, ?_⟩
    · rw [vessel.keyspace]
      refine .cons ⟨_, vessel.flag, ?_⟩ (.cons ⟨_, vessel.berth, ?_⟩ .nil)
      · exact (Field.gives_text_iff rfl).mpr ⟨rfl, by decide⟩
      · exact ⟨⟨.uint 7, rfl, by simp, rfl⟩, by decide⟩
    · rw [vessel.settings, keyspaceName, vessel.keyspace, vessel.settings]
      decide +kernel
  · refine ((resolves _).refused _).mpr ⟨[], "flag", ["berth"], Harbour.colour, ?_, ?_, ?_, ?_⟩
    · rw [vessel.keyspace]
      rfl
    · exact fun _ none => absurd none List.not_mem_nil
    · exact vessel.flag
    · exact vessel.path ▸ .excluded (.text "black") rfl (by simp) List.mem_cons_self

end TypedRows
