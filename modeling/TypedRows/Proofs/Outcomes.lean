import TypedRows.Proofs.Decoding
import TypedRows.Proofs.Publications

/-! What decoding a row of a known discriminator comes to, for every type that was ever published:
one that is registered, one that gave way to another, and one whose root is gone. Whichever type
decodes a row, the object is of the class of that very type. -/
namespace TypedRows

namespace Entity

variable {entity : Entity} {row : Row} {keys : KeyValues}

/-- What it comes to if an entity decodes the row itself: an object of its class or the reason why
there is none. -/
def outcome (entity : Entity) (row : Row) (keys : KeyValues) : Except Fault Resolved :=
  ((entity.decode row keys).map .decoded).mapError .conversion

theorem result_decodeObject (entity : Entity) (row : Row) (keys : KeyValues) :
    (entity.decodeObject row keys).result = entity.outcome row keys := rfl

theorem outcome_eq_ok_iff {resolved : Resolved} :
    entity.outcome row keys = .ok resolved ↔
      ∃ object, entity.decode row keys = .ok object ∧ resolved = .decoded object := by
  simp only [outcome, mapError_eq_ok_iff, map_eq_ok_iff, eq_comm (b := resolved)]

theorem decode_of_outcome {object : Object}
    (outcome : entity.outcome row keys = .ok (.decoded object)) :
    entity.decode row keys = .ok object := by
  obtain ⟨_, decoded, same⟩ := outcome_eq_ok_iff.mp outcome
  cases same
  exact decoded

end Entity

namespace TypeEntity

/-- Whether the factory of a type makes objects of the type's own class path. -/
def Made (type : TypeEntity) : Prop :=
  ∃ fresh, type.cls.own.factory = some fresh ∧ fresh.classPath = type.path

/-- The object is what the type itself makes of the row, and it is of the type's own class. -/
structure Yields (type : TypeEntity) (row : Row) (keys : KeyValues) (object : Object) : Prop where
  decoded : type.entity.decode row keys = .ok object
  classPath_eq : object.classPath = type.path

theorem Made.yields {type : TypeEntity} {row : Row} {keys : KeyValues} {object : Object}
    (made : type.Made) (decoded : type.entity.decode row keys = .ok object) :
    type.Yields row keys object :=
  ⟨decoded, (Entity.decoded_of_decode decoded).made.classPath_eq made⟩

/-- The type that decodes the rows of a discriminator in place of another: that type itself for its
own discriminator, and else the one that its root has registered, which is at or below it. -/
structure Delegates (type : TypeEntity) (root? : Option Root) (discriminator : String)
    (target : TypeEntity) : Prop where
  tagged : target.discriminator = discriminator
  chosen : target = type ∨ ∃ root, root? = some root ∧ target ∈ root.types
  descends : type.cls.isAssignableFrom target.cls = true

theorem delegates_self (type : TypeEntity) (root? : Option Root) :
    type.Delegates root? type.discriminator type :=
  ⟨rfl, .inl rfl, type.cls.isAssignableFrom_self⟩

/-- Where decoding comes to anything, the row has told a discriminator. -/
theorem exists_discovered_of_decode {type : TypeEntity} {root? : Option Root} {row : Row}
    {keys : KeyValues} {resolved : Resolved}
    (done : (type.decode root? (some row) keys).result = .ok resolved) :
    ∃ discriminator, discoverDiscriminator type.entity.tables row = .ok (some discriminator) ∧
      (type.dispatch root? row discriminator keys).result = .ok resolved := by
  rw [decode_result] at done
  cases discovered : discoverDiscriminator type.entity.tables row with
  | error cause =>
    rw [discovered] at done
    cases done
  | ok carried =>
    rw [discovered] at done
    cases carried with
    | none => cases done
    | some discriminator => exact ⟨discriminator, rfl, done⟩

/-- An object that comes out was made by the type that the discriminator stands for. -/
theorem exists_yields_of_dispatch {type : TypeEntity} {root? : Option Root} {row : Row}
    {discriminator : String} {keys : KeyValues} {object : Object} (made : type.Made)
    (sound : ∀ root, root? = some root → root.Sound)
    (done : (type.dispatch root? row discriminator keys).result = .ok (.decoded object)) :
    ∃ target, type.Delegates root? discriminator target ∧ target.Yields row keys object := by
  by_cases same : discriminator = type.discriminator
  · subst same
    rw [dispatch_self, Entity.result_decodeObject] at done
    exact ⟨type, type.delegates_self root?, made.yields (Entity.decode_of_outcome done)⟩
  · cases root? with
    | none =>
      rw [dispatch_of_gone same] at done
      cases done
    | some root =>
      rw [dispatch_of_ne same] at done
      cases found : root.find? discriminator with
      | none =>
        rw [found] at done
        cases done
      | some target =>
        rw [found] at done
        dsimp only at done
        by_cases descends : type.cls.isAssignableFrom target.cls = true
        · rw [if_pos descends] at done
          have served := sound root rfl
          obtain ⟨registered, tagged⟩ := (served.find?_eq_some_iff _ _).mp found
          refine ⟨target, ⟨tagged, .inr ⟨root, rfl, registered⟩, descends⟩, ?_⟩
          exact Made.yields (served.valid target registered).made (Entity.decode_of_outcome done)
        · rw [if_neg descends] at done
          cases done

/-- Everything that decoding through a type can come to in a store, whether the type is registered
there, has given way to another, or has lost its root. -/
structure DecodesIn (type : TypeEntity) (store : Store) (keys : KeyValues) : Prop where
  empty : ∀ discriminator,
    (type.decodeAs (store.rootOf? type) none discriminator keys).result = .ok .empty
  /-- A type decodes the rows of its own discriminator itself. Neither the registry nor the root
  matter. -/
  own : ∀ root? row, (type.decodeAs root? (some row) type.discriminator keys).result =
    type.entity.outcome row keys
  /-- Without the root, any other discriminator is an internal fault with no cause to inspect. -/
  gone : store.rootOf? type = none → ∀ row discriminator, discriminator ≠ type.discriminator →
    ∃ fault, (type.decodeAs (store.rootOf? type) (some row) discriminator keys).result =
        .error fault ∧ fault.faultClass = .internal ∧ fault.hasCause = false
  unregistered : ∀ root, store.rootOf? type = some root →
    ∀ row discriminator, discriminator ≠ type.discriminator → root.find? discriminator = none →
      ∃ fault, (type.decodeAs (store.rootOf? type) (some row) discriminator keys).result =
          .error fault ∧
        fault = .registry (.typeNotFound root.path discriminator) ∧ fault.isNotFound = true
  unrelated : ∀ root, store.rootOf? type = some root →
    ∀ row discriminator target, discriminator ≠ type.discriminator →
      root.find? discriminator = some target → ¬type.cls.isAssignableFrom target.cls = true →
        (type.decodeAs (store.rootOf? type) (some row) discriminator keys).result =
          .ok (.unrelated discriminator)
  /-- The registered type has the discriminator for its own, so it hands the row on no further. -/
  handedOn : ∀ root, store.rootOf? type = some root →
    ∀ row discriminator target, discriminator ≠ type.discriminator →
      root.find? discriminator = some target → type.cls.isAssignableFrom target.cls = true →
        (type.decodeAs (store.rootOf? type) (some row) discriminator keys).result =
            (target.decodeAs (store.rootOf? target) (some row) discriminator keys).result ∧
          (target.decodeAs (store.rootOf? target) (some row) discriminator keys).result =
            target.entity.outcome row keys
  /-- An object is of the class of the type that has decoded it. -/
  yieldsAs : ∀ row discriminator object,
    (type.decodeAs (store.rootOf? type) (some row) discriminator keys).result =
        .ok (.decoded object) →
      ∃ target, type.Delegates (store.rootOf? type) discriminator target ∧
        target.Yields row keys object
  yields : ∀ row object,
    (type.decode (store.rootOf? type) (some row) keys).result = .ok (.decoded object) →
      ∃ discriminator target,
        discoverDiscriminator type.entity.tables row = .ok (some discriminator) ∧
          type.Delegates (store.rootOf? type) discriminator target ∧ target.Yields row keys object

end TypeEntity

namespace Root

/-- What comes of the rows that a root decodes: an object of the class of the type that is registered
for the discriminator, unless there is a fault. No row is unrelated to a root. -/
structure Decodes (root : Root) (keys : KeyValues) : Prop where
  yieldsAs : ∀ row discriminator resolved,
    (root.decodeAs (some row) discriminator keys).result = .ok resolved →
      ∃ object target, resolved = .decoded object ∧ target ∈ root.types ∧
        target.discriminator = discriminator ∧ target.Yields row keys object
  yields : ∀ row resolved, (root.decode (some row) keys).result = .ok resolved →
    ∃ object target, resolved = .decoded object ∧ target ∈ root.types ∧
      discoverDiscriminator root.entity.tables row = .ok (some target.discriminator) ∧
        target.Yields row keys object

end Root

theorem TypeEntity.Made.decodesIn {type : TypeEntity} (made : type.Made) {store : Store}
    (sound : store.Sound) (keys : KeyValues) : type.DecodesIn store keys := by
  have served (root : Root) (found : store.rootOf? type = some root) : root.Sound :=
    sound.roots root (Store.mem_roots_of_root? found)
  refine {
    empty := fun _ => rfl
    own := fun root? row =>
      (type.dispatch_self root? row keys).trans (type.entity.result_decodeObject row keys)
    gone := ?_
    unregistered := ?_
    unrelated := ?_
    handedOn := ?_
    yieldsAs := fun _ _ _ => exists_yields_of_dispatch made served
    yields := ?_ }
  · intro gone row discriminator other
    rw [gone]
    exact ⟨_, dispatch_of_gone other row keys, rfl, rfl⟩
  · intro root live row discriminator other absent
    have result : (type.dispatch (some root) row discriminator keys).result = _ :=
      dispatch_of_ne other row keys
    rw [absent] at result
    rw [live]
    exact ⟨_, result, rfl, rfl⟩
  · intro root live row discriminator target other found apart
    have result : (type.dispatch (some root) row discriminator keys).result = _ :=
      dispatch_of_ne other row keys
    rw [found] at result
    rw [live]
    exact result.trans (if_neg apart)
  · intro root live row discriminator target other found descends
    obtain ⟨registered, same⟩ := ((served root live).find?_eq_some_iff _ _).mp found
    have result : (type.dispatch (some root) row discriminator keys).result = _ :=
      dispatch_of_ne other row keys
    rw [found] at result
    have ownResult := target.dispatch_self (store.rootOf? target) row keys
    rw [same] at ownResult
    rw [live]
    exact ⟨(result.trans (if_pos descends)).trans ownResult.symm, ownResult⟩
  · intro row object done
    obtain ⟨discriminator, discovered, dispatched⟩ := exists_discovered_of_decode done
    obtain ⟨target, delegates, yields⟩ := exists_yields_of_dispatch made served dispatched
    exact ⟨discriminator, target, discovered, delegates, yields⟩

namespace Root

variable {root : Root} (sound : root.Sound) {row : Row} {keys : KeyValues}

include sound

theorem Sound.exists_yields_of_decodeAs {discriminator : String} {resolved : Resolved}
    (done : (root.decodeAs (some row) discriminator keys).result = .ok resolved) :
    ∃ object target, resolved = .decoded object ∧ target ∈ root.types ∧
      target.discriminator = discriminator ∧ target.Yields row keys object := by
  rw [sound.decodeAs_result] at done
  cases found : root.find? discriminator with
  | none =>
    rw [found] at done
    cases done
  | some target =>
    rw [found] at done
    obtain ⟨registered, tagged⟩ := (sound.find?_eq_some_iff _ _).mp found
    obtain ⟨object, decoded, rfl⟩ := Entity.outcome_eq_ok_iff.mp done
    have yields := TypeEntity.Made.yields (sound.valid target registered).made decoded
    exact ⟨object, target, rfl, registered, tagged, yields⟩

theorem Sound.decodes (keys : KeyValues) : root.Decodes keys := by
  refine ⟨fun _ _ _ => sound.exists_yields_of_decodeAs, ?_⟩
  intro row resolved done
  rw [sound.decode_result] at done
  cases discovered : discoverDiscriminator root.entity.tables row with
  | error cause =>
    rw [discovered] at done
    cases done
  | ok carried =>
    rw [discovered] at done
    cases carried with
    | none => cases done
    | some discriminator =>
      dsimp only at done
      rw [← sound.decodeAs_result] at done
      obtain ⟨object, target, same, registered, rfl, yields⟩ := sound.exists_yields_of_decodeAs done
      exact ⟨object, target, same, registered, rfl, yields⟩

end Root

namespace Menagerie

/-- Dogs have given way to hounds. -/
def displaced : List Request := contested.take 4

/-- Nothing keeps the root of the dogs any more. -/
def orphaned : List Request := displaced ++ [⟨.forget "animals", none⟩, ⟨.forget "manager", none⟩]

/-- The type of dogs that the hounds have replaced. -/
def formerDog : TypeEntity := ((({} : Session).published displaced).head (by decide)).type

end Menagerie

namespace Session

/-- Whatever is requested, every type that was published decodes as described, whether it is still
registered, has given way to another or has lost its root, and so does every live root. -/
theorem outcomes_of_published (requests : List Request) (keys : KeyValues) :
    (∀ publication ∈ ({} : Session).published requests,
      publication.type.DecodesIn (({} : Session).after requests).store keys) ∧
    ∀ root ∈ (({} : Session).after requests).store.roots, root.Decodes keys := by
  obtain ⟨⟨sound, _⟩, records, _⟩ := recorded_after requests
  constructor
  · intro publication published
    obtain ⟨root, valid⟩ := (records.genuine publication published).valid
    exact TypeEntity.Made.decodesIn valid.made sound keys
  · intro root live
    exact (sound.roots root live).decodes keys

theorem outcomes_of_published_dogs :
    let dogs := Menagerie.formerDog
    let displaced := (({} : Session).after Menagerie.displaced).store
    let orphaned := (({} : Session).after Menagerie.orphaned).store
    dogs.path = "zoo::Dog" ∧ ∀ row keys,
      (dogs.decodeAs (displaced.rootOf? dogs) (some row) "dog" keys).result =
          dogs.entity.outcome row keys ∧
        (dogs.decodeAs (displaced.rootOf? dogs) (some row) "cat" keys).result =
          .ok (.unrelated "cat") ∧
        ∃ fault, (dogs.decodeAs (orphaned.rootOf? dogs) (some row) "cat" keys).result =
          .error fault ∧ fault.faultClass = .internal ∧ fault.hasCause = false := by
  intro dogs displaced orphaned
  refine ⟨rfl, ?_⟩
  intro row keys
  have before := (outcomes_of_published Menagerie.displaced keys).1 _ (List.head_mem (by decide))
  have after := (outcomes_of_published Menagerie.orphaned keys).1 _ (List.head_mem (by decide))
  have cats : ∃ root target, displaced.rootOf? dogs = some root ∧ root.find? "cat" = some target ∧
      ¬dogs.cls.isAssignableFrom target.cls = true := ⟨_, _, rfl, rfl, by decide⟩
  obtain ⟨root, target, live, found, apart⟩ := cats
  refine ⟨before.own _ row, ?_, ?_⟩
  · exact before.unrelated root live row "cat" target (by decide) found apart
  · exact after.gone rfl row "cat" (by decide)

end Session

end TypedRows
