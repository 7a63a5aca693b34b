import TypedRows.Proofs.Publications

/-! What is recorded of registrations. Every type that is published on a root is announced by one
event, which tells whether another type has given way to it, and a registration that is refused is
announced by none. No registration gets lost in that way: what was published is still registered,
has given way to something that was announced as a collision, or was published twice in a row. -/
namespace TypedRows

/-- Whether the event is one of those for a published type. -/
def Event.isAnnouncement : Event → Bool
  | .typeReplaced .. => true
  | .typeRegistered .. => true
  | _ => false

/-- The events for published types. -/
def announcements (events : List Event) : List Event := events.filter Event.isAnnouncement

theorem announcements_append (first second : List Event) :
    announcements (first ++ second) = announcements first ++ announcements second :=
  List.filter_append first second

namespace Traced

variable {ε α β : Type}

/-- A computation that announces nothing. -/
def Silent (traced : Traced ε α) : Prop := announcements traced.events = []

theorem silent_lift (result : Except ε α) : (liftM result : Traced ε α).Silent := rfl

theorem silent_pure (a : α) : (pure a : Traced ε α).Silent := rfl

theorem silent_emit {event : Event} (other : event.isAnnouncement = false) :
    (emit event : Traced ε Unit).Silent := by
  rw [Silent, emit, announcements, List.filter_singleton, other]
  rfl

theorem Silent.bind {first : Traced ε α} {next : α → Traced ε β} (silent : first.Silent)
    (later : ∀ a, (next a).Silent) : (first >>= next).Silent := by
  unfold Silent
  cases outcome : first.result with
  | error cause =>
    rw [events_bind_of_error outcome]
    exact silent
  | ok a =>
    rw [events_bind_of_ok outcome, announcements_append, silent, later a]
    rfl

end Traced

namespace Root

/-- What is announced of a type, where the given types are registered: a collision if another one is
registered under its discriminator, and the registration otherwise. -/
inductive Announces (registered : List TypeEntity) (type : TypeEntity) : Event → Prop where
  | collision {old : TypeEntity} (current : old ∈ registered)
      (contested : old.discriminator = type.discriminator) (different : old.id ≠ type.id) :
      Announces registered type
        (.typeReplaced type.rootPath type.discriminator old.path type.path)
  | registration (uncontested : ∀ old ∈ registered,
        old.discriminator = type.discriminator → old.id = type.id) :
      Announces registered type (.typeRegistered type.rootPath type.discriminator type.isDynamic)

/-- What is announced of types that are published one after another, where the given types are
registered at first. -/
inductive Tells : List TypeEntity → List TypeEntity → List Event → Prop where
  | done (registered : List TypeEntity) : Tells registered [] []
  | publish {registered rest : List TypeEntity} {type : TypeEntity} {event : Event}
      {events : List Event} (announces : Announces registered type event)
      (later : Tells (Keyed.place TypeEntity.discriminator type registered) rest events) :
      Tells registered (type :: rest) (event :: events)

/-- How many of the types are those that are registered under their discriminators already. -/
def repetitions (registered : List TypeEntity) : List TypeEntity → Nat
  | [] => 0
  | type :: rest =>
    (if ∃ old ∈ registered, old.discriminator = type.discriminator ∧ old.id = type.id then 1 else 0)
      + repetitions (Keyed.place TypeEntity.discriminator type registered) rest

section

variable {registered published : List TypeEntity} {events : List Event}

theorem Announces.level_eq_warn_iff {type : TypeEntity} {event : Event}
    (announces : Announces registered type event) :
    event.level = .warn ↔ ∃ old ∈ registered,
      old.discriminator = type.discriminator ∧ old.id ≠ type.id := by
  cases announces with
  | collision current contested different =>
    exact iff_of_true rfl ⟨_, current, contested, different⟩
  | registration uncontested =>
    apply iff_of_false
    · exact Level.noConfusion
    · intro ⟨old, current, contested, different⟩
      exact different (uncontested old current contested)

theorem Tells.append {later : List TypeEntity} {others : List Event}
    (tells : Tells registered published events)
    (tellsLater :
      Tells (Keyed.placeAll TypeEntity.discriminator published registered) later others) :
    Tells registered (published ++ later) (events ++ others) := by
  induction tells with
  | done registered => exact tellsLater
  | publish announces _ ih => exact .publish announces (ih tellsLater)

theorem Tells.eq_nil (tells : Tells registered [] events) : events = [] := by
  cases tells
  rfl

/-- At every point there is one event for each type so far. -/
theorem Tells.take (tells : Tells registered published events) (count : Nat) :
    Tells registered (published.take count) (events.take count) := by
  induction tells generalizing count with
  | done registered =>
    rw [List.take_nil, List.take_nil]
    exact .done registered
  | publish announces _ ih =>
    cases count with
    | zero => exact .done _
    | succ count => exact .publish announces (ih count)

/-- What one publication adds is another registered type, a collision, or a repetition. -/
theorem Announces.length_place {type : TypeEntity} {event : Event}
    (ascending : Keyed.Ascending TypeEntity.discriminator registered)
    (announces : Announces registered type event) :
    registered.length + 1 =
      (Keyed.place TypeEntity.discriminator type registered).length +
        (if event.level = .warn then 1 else 0) +
        (if ∃ old ∈ registered, old.discriminator = type.discriminator ∧ old.id = type.id
          then 1 else 0) := by
  by_cases taken : ∃ old ∈ registered, old.discriminator = type.discriminator
  · obtain ⟨old, current, contested⟩ := taken
    rw [Keyed.length_place_of_taken ascending current contested]
    have only : ∀ other ∈ registered, other.discriminator = type.discriminator → other = old :=
      fun other member same => ascending.eq_of_key_eq member current (same.trans contested.symm)
    by_cases same : old.id = type.id
    · rw [if_neg, if_pos ⟨old, current, contested, same⟩]
      rw [announces.level_eq_warn_iff]
      intro ⟨other, member, otherContested, different⟩
      exact different (only other member otherContested ▸ same)
    · rw [if_pos (announces.level_eq_warn_iff.mpr ⟨old, current, contested, same⟩), if_neg]
      intro ⟨other, member, otherContested, otherSame⟩
      exact same (only other member otherContested ▸ otherSame)
  · have free : ∀ old ∈ registered, old.discriminator ≠ type.discriminator :=
      fun old current contested => taken ⟨old, current, contested⟩
    rw [Keyed.length_place_of_free free, if_neg, if_neg]
    · intro ⟨old, current, contested, _⟩
      exact free old current contested
    · rw [announces.level_eq_warn_iff]
      intro ⟨old, current, contested, _⟩
      exact free old current contested

/-- Publications are conserved: each of them is registered, was announced as a collision with what
it replaced, or has repeated the one before. -/
theorem Tells.conserves (ascending : Keyed.Ascending TypeEntity.discriminator registered)
    (tells : Tells registered published events) :
    registered.length + published.length =
      (Keyed.placeAll TypeEntity.discriminator published registered).length +
        events.countP (·.level = .warn) + repetitions registered published := by
  induction tells with
  | done registered => rfl
  | @publish registered rest type event events announces later ih =>
    have step := announces.length_place ascending
    have remaining := ih (Keyed.ascending_place type ascending)
    have placed : Keyed.placeAll TypeEntity.discriminator (type :: rest) registered =
        Keyed.placeAll TypeEntity.discriminator rest
          (Keyed.place TypeEntity.discriminator type registered) := rfl
    simp only [placed, repetitions, List.length_cons, List.countP_cons, decide_eq_true_eq] at *
    omega

end

/-! ### Registering -/

theorem announces_registrationEvent {root : Root} {type : TypeEntity}
    (ascending : Keyed.Ascending TypeEntity.discriminator root.types)
    (own : type.rootPath = root.path) :
    Announces root.types type (root.registrationEvent type) := by
  unfold registrationEvent
  rw [← own]
  cases found : root.find? type.discriminator with
  | none =>
    apply Announces.registration
    intro old current contested
    exact absurd contested (Keyed.find?_eq_none_iff.mp found old current)
  | some old =>
    obtain ⟨current, contested⟩ := (Keyed.find?_eq_some_iff ascending).mp found
    dsimp only
    split
    · rename_i same
      apply Announces.registration
      intro other member otherContested
      rw [ascending.eq_of_key_eq member current (otherContested.trans contested.symm)]
      exact same
    · rename_i different
      exact .collision current contested different

theorem isAnnouncement_registrationEvent (root : Root) (type : TypeEntity) :
    (root.registrationEvent type).isAnnouncement = true := by
  unfold registrationEvent
  cases root.find? type.discriminator with
  | none => rfl
  | some old =>
    dsimp only
    split <;> rfl

/-- Registering a type announces it, unless it is one of another root. -/
theorem announcements_register (root : Root) (type : TypeEntity) :
    announcements (root.register type).events =
      if type.rootId = root.id then [root.registrationEvent type] else [] := by
  unfold register
  split
  · exact List.filter_cons_of_pos (root.isAnnouncement_registrationEvent type)
  · rfl

end Root

theorem TypeEntity.silent_validate (settings : Settings) (id rootId : Identity) (root cls : Class)
    (isDynamic : Bool) : (validate settings id rootId root cls isDynamic).Silent := by
  apply (Traced.silent_lift _).bind
  intro checked
  apply (Traced.silent_emit rfl).bind
  intro _
  exact Traced.silent_pure _

namespace Root

variable {settings : Settings} {id next : Identity} {isDynamic : Bool} {cls : Class}

theorem announcements_introduce_of_error {root : Root} {cause : ModelError}
    (refused : (TypeEntity.validate settings id root.id root.cls cls isDynamic).result =
      .error cause) : announcements (introduce settings id isDynamic root cls).events = [] := by
  rw [introduce, Traced.events_bind_of_error refused]
  exact TypeEntity.silent_validate ..

theorem announcements_introduce_of_ok {root : Root} {type : TypeEntity}
    (accepted : (TypeEntity.validate settings id root.id root.cls cls isDynamic).result =
      .ok type) :
    announcements (introduce settings id isDynamic root cls).events =
      [root.registrationEvent type] := by
  obtain ⟨_, _, _, _, belongs, _⟩ :=
    (TypeEntity.validate_result_eq_ok_iff _ _ _ _ _ _ _).mp accepted
  have done := (register_result_eq_ok_iff root type _).mpr ⟨belongs, rfl⟩
  rw [introduce, Traced.events_bind_of_ok accepted, announcements_append,
    TypeEntity.silent_validate, List.nil_append, Traced.events_bind_of_ok done,
    announcements_append, announcements_register, if_pos belongs]
  rfl

/-- Introducing classes one after another announces the types that validation makes of them, up to
the class that fails. -/
theorem tells_introduceAll (root : Root)
    (ascending : Keyed.Ascending TypeEntity.discriminator root.types) (classes : List Class) :
    Tells root.types (TypeEntity.declared settings next root.id root.cls classes)
      (announcements (introduceAll settings next root classes).events) := by
  induction classes generalizing next root with
  | nil => exact .done _
  | cons cls rest ih =>
    rw [introduceAll, TypeEntity.declared]
    cases outcome : (TypeEntity.validate settings next root.id root.cls cls false).result with
    | error cause =>
      have failed : (introduce settings next false root cls).result = .error cause := by
        rw [introduce, Traced.result_bind, outcome]
        rfl
      rw [Traced.events_bind_of_error failed, announcements_introduce_of_error outcome]
      exact .done _
    | ok type =>
      have done := (introduce_result_eq_ok_iff _ _ _ root cls _ type).mpr ⟨outcome, rfl⟩
      rw [Traced.events_bind_of_ok done, announcements_append,
        announcements_introduce_of_ok outcome, List.singleton_append]
      obtain ⟨valid, _⟩ := (TypeEntity.validate_result_eq_ok_iff _ _ _ _ _ _ _).mp outcome
      exact .publish (announces_registrationEvent ascending valid.rootPath_eq)
        (ih { root with types := Keyed.place TypeEntity.discriminator type root.types }
          (Keyed.ascending_place type ascending))

/-- The types that building a root publishes, up to the class that fails. -/
def accepted (settings : Settings) (id : Identity) (cls : Class) (classes : List Class) :
    List TypeEntity :=
  match Entity.introspect settings .root cls with
  | .error _ => []
  | .ok _ => TypeEntity.declared settings (id + 1) id cls classes

/-- Building a root announces the types that it publishes, whether or not it succeeds. -/
theorem tells_build (settings : Settings) (id : Identity) (cls : Class) (classes : List Class) :
    Tells [] (accepted settings id cls classes)
      (announcements (build settings id cls classes).events) := by
  unfold accepted
  cases introspected : Entity.introspect settings .root cls with
  | error cause =>
    have failed : (build settings id cls classes).events = [] := by
      rw [build, introspected]
      rfl
    rw [failed]
    exact .done []
  | ok entity =>
    obtain ⟨same, _, _⟩ := (Entity.introspect_eq_ok_iff _ _ _ _).mp introspected
    subst same
    let empty : Root := { id, entity, types := [] }
    -- What follows the static types is no announcement.
    have whole : announcements (build settings id entity.cls classes).events =
        announcements (introduceAll settings (id + 1) empty classes).events := by
      rw [build, introspected, Traced.events_bind_of_ok rfl, announcements_append]
      cases outcome : (introduceAll settings (id + 1) empty classes).result with
      | error cause =>
        rw [Traced.events_bind_of_error outcome]
        rfl
      | ok root =>
        rw [Traced.events_bind_of_ok outcome, announcements_append]
        exact List.append_nil _
    rw [whole]
    exact tells_introduceAll empty List.Pairwise.nil classes

theorem accepted_of_build {settings : Settings} {id : Identity} {cls : Class}
    {classes : List Class} {root : Root}
    (built : (build settings id cls classes).result = .ok root) :
    accepted settings id cls classes =
      TypeEntity.declared settings (root.id + 1) root.id root.cls classes := by
  obtain ⟨_, rfl, rfl, _⟩ := sound_of_build built
  simp only [build, Traced.result_bind, bind_eq_ok_iff] at built
  obtain ⟨entity, introspected, _⟩ := built
  replace introspected : Entity.introspect settings .root root.cls = .ok entity := introspected
  rw [accepted, introspected]

end Root

/-! ### Decoding -/

theorem Entity.silent_decodeObject (entity : Entity) (row : Row) (keys : KeyValues) :
    (entity.decodeObject row keys).Silent := rfl

namespace TypeEntity

theorem silent_dispatch (type : TypeEntity) (root? : Option Root) (row : Row)
    (discriminator : String) (keys : KeyValues) :
    (type.dispatch root? row discriminator keys).Silent := by
  unfold dispatch
  split
  · exact type.entity.silent_decodeObject row keys
  · cases root? with
    | none => rfl
    | some root =>
      apply (Traced.silent_lift _).bind
      intro target
      split
      · apply (Traced.silent_emit rfl).bind
        intro _
        exact target.entity.silent_decodeObject row keys
      · apply (Traced.silent_emit rfl).bind
        intro _
        exact Traced.silent_pure _

theorem silent_decodeAs (type : TypeEntity) (root? : Option Root) (row? : Option Row)
    (discriminator : String) (keys : KeyValues) :
    (type.decodeAs root? row? discriminator keys).Silent := by
  cases row? with
  | none => exact Traced.silent_pure _
  | some row => exact type.silent_dispatch root? row discriminator keys

theorem silent_decode (type : TypeEntity) (root? : Option Root) (row? : Option Row)
    (keys : KeyValues) : (type.decode root? row? keys).Silent := by
  cases row? with
  | none => exact Traced.silent_pure _
  | some row =>
    apply (Traced.silent_lift _).bind
    intro discriminator
    exact type.silent_dispatch root? row discriminator keys

end TypeEntity

namespace Root

theorem silent_decodeAs (root : Root) (row? : Option Row) (discriminator : String)
    (keys : KeyValues) : (root.decodeAs row? discriminator keys).Silent := by
  cases row? with
  | none => exact Traced.silent_pure _
  | some row =>
    apply (Traced.silent_lift _).bind
    intro type
    exact type.silent_dispatch (some root) row discriminator keys

theorem silent_decode (root : Root) (row? : Option Row) (keys : KeyValues) :
    (root.decode row? keys).Silent := by
  cases row? with
  | none => exact Traced.silent_pure _
  | some row =>
    apply (Traced.silent_lift _).bind
    intro discriminator
    apply (Traced.silent_emit rfl).bind
    intro _
    apply (Traced.silent_lift _).bind
    intro type
    exact type.silent_dispatch (some root) row discriminator keys

end Root

end TypedRows
