import TypedRows.Proofs.Acceptance

/-! Where a row ends up. Every type of a root discovers the same discriminators as the root, and the
registry decides between the type that decodes the row and the branch that has no part in it. -/
namespace TypedRows

namespace Class

theorem isAssignableFrom_self (cls : Class) : cls.isAssignableFrom cls = true := by
  simp [isAssignableFrom, visibleFrom, lineage, path]

end Class

namespace Traced

variable {ε α : Type}

@[simp]
theorem result_lift (result : Except ε α) : (liftM result : Traced ε α).result = result := rfl

@[simp]
theorem result_emit_bind (event : Event) (next : Unit → Traced ε α) :
    (emit event >>= next).result = (next ()).result := by
  rw [result_bind]
  rfl

@[simp]
theorem result_pure (a : α) : (pure a : Traced ε α).result = .ok a := rfl

/-- What follows a computation that records nothing matters for its result only. -/
theorem lift_bind_congr {β : Type} {first : Except ε α} {next other : α → Traced ε β}
    (same : ∀ a, first = .ok a → next a = other a) :
    (liftM first : Traced ε α) >>= next = (liftM first : Traced ε α) >>= other := by
  cases first with
  | error cause => rfl
  | ok a =>
    change (ofExcept (.ok a)).andThen next = (ofExcept (.ok a)).andThen other
    simp only [ofExcept, andThen, same a rfl]

end Traced

namespace Table

theorem SameKeys.typeKeyAt?_eq {table other : Table} (same : table.SameKeys other) (row : Row) :
    table.typeKeyAt? row = other.typeKeyAt? row := by
  unfold typeKeyAt?
  rw [same.typeKey_eq, same.name_eq]

end Table

theorem discoverDiscriminator_eq_of_sameKeys {tables others : List Table}
    (same : List.Forall₂ Table.SameKeys tables others) (row : Row) :
    discoverDiscriminator tables row = discoverDiscriminator others row := by
  have found : tables.findSome? (·.typeKeyAt? row) = others.findSome? (·.typeKeyAt? row) := by
    induction same with
    | nil => rfl
    | cons first _ ih => rw [List.findSome?_cons, List.findSome?_cons, first.typeKeyAt?_eq, ih]
  rw [discoverDiscriminator, found, discoverDiscriminator]

namespace Root

/-- Paths that tell all classes of a hierarchy apart tell those of the root and of one type apart. -/
theorem coherent_pair {root : Root} {type : TypeEntity}
    (coherent : Class.Coherent (root.cls :: root.types.map (·.cls))) (registered : type ∈ root.types) :
    Class.Coherent [root.cls, type.cls] := by
  apply coherent.mono
  intro cls either
  rcases List.mem_pair.mp either with rfl | rfl
  · exact List.mem_cons_self
  · exact List.mem_cons_of_mem _ (List.mem_map.mpr ⟨type, registered, rfl⟩)

variable {root : Root} (sound : root.Sound)

include sound

theorem Sound.find?_eq_some_iff (discriminator : String) (type : TypeEntity) :
    root.find? discriminator = some type ↔
      type ∈ root.types ∧ type.discriminator = discriminator :=
  Keyed.find?_eq_some_iff sound.ascending

theorem Sound.find?_discriminator {type : TypeEntity} (registered : type ∈ root.types) :
    root.find? type.discriminator = some type :=
  (sound.find?_eq_some_iff _ _).mpr ⟨registered, rfl⟩

theorem Sound.sameSteering {type : TypeEntity} (registered : type ∈ root.types)
    (coherent : Class.Coherent [root.cls, type.cls]) : type.entity.SameSteering root.entity := by
  have valid := sound.valid type registered
  have governs := Entity.governs_of_steeredFrom coherent valid.descends sound.described
    valid.described valid.steered
  exact governs.sameSteering coherent valid.descends sound.described valid.described

theorem Sound.eq_of_path {type other : TypeEntity}
    (coherent : Class.Coherent (root.types.map (·.cls))) (registered : type ∈ root.types)
    (otherRegistered : other ∈ root.types) (same : type.path = other.path) : type = other := by
  have own {member : TypeEntity} (listed : member ∈ root.types) :
      member.cls ∈ (root.types.map (·.cls)).flatMap Class.ancestors :=
    List.mem_flatMap.mpr ⟨_, List.mem_map.mpr ⟨member, listed, rfl⟩, Class.self_mem_ancestors _⟩
  have classes : type.cls = other.cls := coherent _ (own registered) _ (own otherRegistered) same
  have tag {member : TypeEntity} (listed : member ∈ root.types) :
      member.cls.own.discriminator = some member.discriminator := (sound.valid member listed).tagged
  have tags : some type.discriminator = some other.discriminator := by
    rw [← tag registered, ← tag otherRegistered, classes]
  have found := sound.find?_discriminator registered
  rw [Option.some.inj tags, sound.find?_discriminator otherRegistered] at found
  exact (Option.some.inj found).symm

end Root

/-- A row without a discriminator is refused, and one whose discriminator cannot be read as well. -/
theorem Entity.discriminatorOf_eq (entity : Entity) (row : Row) :
    entity.discriminatorOf row =
      match discoverDiscriminator entity.tables row with
      | .error cause => .error cause
      | .ok none => .error (.missingTypeColumn entity.path)
      | .ok (some discriminator) => .ok discriminator := by
  unfold discriminatorOf
  cases discoverDiscriminator entity.tables row with
  | error cause => rfl
  | ok discovered => cases discovered <;> rfl

theorem Entity.decodeObject_result {entity : Entity} {row : Row} {keys : KeyValues}
    {object : Object} (decoded : entity.decode row keys = .ok object) :
    (entity.decodeObject row keys).result = .ok (.decoded object) := by
  rw [decodeObject, decoded]
  rfl

namespace TypeEntity

theorem dispatch_self (type : TypeEntity) (root? : Option Root) (row : Row) (keys : KeyValues) :
    (type.dispatch root? row type.discriminator keys).result =
      (type.entity.decodeObject row keys).result := by
  unfold dispatch
  rw [if_pos rfl]

/-- For any other discriminator a type needs its root. -/
theorem dispatch_of_gone {type : TypeEntity} {discriminator : String}
    (other : discriminator ≠ type.discriminator) (row : Row) (keys : KeyValues) :
    (type.dispatch none row discriminator keys).result =
      .error (.rootUnavailable type.rootPath type.discriminator) := by
  unfold dispatch
  rw [if_neg other]
  rfl

/-- The root says which type has a discriminator, and that type decodes the row if it is at or below
the one that was asked. -/
theorem dispatch_of_ne {root : Root} {type : TypeEntity} {discriminator : String}
    (other : discriminator ≠ type.discriminator) (row : Row) (keys : KeyValues) :
    (type.dispatch (some root) row discriminator keys).result =
      match root.find? discriminator with
      | none => .error (.registry (.typeNotFound root.path discriminator))
      | some target =>
        if type.cls.isAssignableFrom target.cls then (target.entity.decodeObject row keys).result
        else .ok (.unrelated discriminator) := by
  unfold dispatch
  rw [if_neg other]
  simp only [Root.lookup, Traced.result_bind, Traced.result_lift]
  cases root.find? discriminator with
  | none => rfl
  | some target =>
    change Traced.result (if type.cls.isAssignableFrom target.cls = true then _ else _) = _
    by_cases descends : type.cls.isAssignableFrom target.cls = true
    · simp [descends]
    · simp [descends]

theorem dispatch_result {root : Root} {type : TypeEntity}
    (own : root.find? type.discriminator = some type) (row : Row) (discriminator : String)
    (keys : KeyValues) :
    (type.dispatch (some root) row discriminator keys).result =
      match root.find? discriminator with
      | none => .error (.registry (.typeNotFound root.path discriminator))
      | some target =>
        if type.cls.isAssignableFrom target.cls then (target.entity.decodeObject row keys).result
        else .ok (.unrelated discriminator) := by
  by_cases same : discriminator = type.discriminator
  · rw [same, dispatch_self, own]
    simp [type.cls.isAssignableFrom_self]
  · exact dispatch_of_ne same row keys

theorem decode_result (type : TypeEntity) (root? : Option Root) (row : Row) (keys : KeyValues) :
    (type.decode root? (some row) keys).result =
      match discoverDiscriminator type.entity.tables row with
      | .error cause => .error (.conversion cause)
      | .ok none => .error (.conversion (.missingTypeColumn type.path))
      | .ok (some discriminator) => (type.dispatch root? row discriminator keys).result := by
  simp only [decode, Traced.result_bind, Traced.result_lift, Entity.discriminatorOf_eq]
  cases discoverDiscriminator type.entity.tables row with
  | error cause => rfl
  | ok discovered => cases discovered <;> rfl

end TypeEntity

namespace Root

theorem Sound.decodeAs_result {root : Root} (sound : root.Sound) (row : Row)
    (discriminator : String) (keys : KeyValues) :
    (root.decodeAs (some row) discriminator keys).result =
      match root.find? discriminator with
      | none => .error (.registry (.typeNotFound root.path discriminator))
      | some target => (target.entity.decodeObject row keys).result := by
  simp only [decodeAs, lookup, Traced.result_bind, Traced.result_lift]
  cases found : root.find? discriminator with
  | none => rfl
  | some target =>
    obtain ⟨_, rfl⟩ := (sound.find?_eq_some_iff _ _).mp found
    exact target.dispatch_self (some root) row keys

theorem Sound.decode_result {root : Root} (sound : root.Sound) (row : Row) (keys : KeyValues) :
    (root.decode (some row) keys).result =
      match discoverDiscriminator root.entity.tables row with
      | .error cause => .error (.conversion cause)
      | .ok none => .error (.conversion (.missingTypeColumn root.path))
      | .ok (some discriminator) =>
        match root.find? discriminator with
        | none => .error (.registry (.typeNotFound root.path discriminator))
        | some target => (target.entity.decodeObject row keys).result := by
  simp only [decode, Traced.result_bind, Traced.result_lift, Entity.discriminatorOf_eq]
  cases discoverDiscriminator root.entity.tables row with
  | error cause => rfl
  | ok discovered =>
    cases discovered with
    | none => rfl
    | some discriminator =>
      have known := sound.decodeAs_result row discriminator keys
      simp only [decodeAs, Traced.result_bind, Traced.result_lift] at known
      exact known

section

variable {root : Root} {type : TypeEntity} {row : Row} {keys : KeyValues} {object : Object}
  (sound : root.Sound) (registered : type ∈ root.types)
  (discovered : discoverDiscriminator root.entity.tables row = .ok (some type.discriminator))
  (decoded : type.entity.decode row keys = .ok object)

include sound registered discovered decoded

theorem Sound.decode_of_discovered :
    (root.decode (some row) keys).result = .ok (.decoded object) := by
  rw [sound.decode_result, discovered]
  dsimp only
  rw [sound.find?_discriminator registered]
  exact Entity.decodeObject_result decoded

theorem Sound.decode_above_of_discovered {ancestor : TypeEntity} (member : ancestor ∈ root.types)
    (coherent : Class.Coherent [root.cls, ancestor.cls])
    (above : ancestor.cls.isAssignableFrom type.cls = true) :
    (ancestor.decode (some root) (some row) keys).result = .ok (.decoded object) := by
  have same := discoverDiscriminator_eq_of_sameKeys (sound.sameSteering member coherent).tables row
  rw [TypeEntity.decode_result, same, discovered]
  dsimp only
  rw [TypeEntity.dispatch_result (sound.find?_discriminator member),
    sound.find?_discriminator registered]
  exact (if_pos above).trans (Entity.decodeObject_result decoded)

end

end Root

/-- A row of the animals, as far as every type reads it. -/
def Menagerie.row (kind : String) : Row :=
  .ofCells "zoo" "animals" [⟨"id", .text "rex", none⟩, ⟨"kind", .text kind, none⟩]

namespace Session

/-- Decoding through a registered type agrees with decoding through the root: both discover the same
discriminator, both refuse a row without one or with an unknown one, and the type has what the root
has for the types at or below it, while any other type is unrelated. -/
theorem decode_agrees {session : Session} {root : Root} {type : TypeEntity}
    (reached : session.Reachable) (live : root ∈ session.store.roots)
    (registered : type ∈ root.types) (coherent : Class.Coherent [root.cls, type.cls])
    (row : Row) (keys : KeyValues) :
    let throughType := (type.decode (session.store.rootOf? type) (some row) keys).result
    let throughRoot := (root.decode (some row) keys).result
    discoverDiscriminator type.entity.tables row = discoverDiscriminator root.entity.tables row ∧
      match discoverDiscriminator root.entity.tables row with
      | .error cause =>
        throughType = .error (.conversion cause) ∧ throughRoot = .error (.conversion cause)
      | .ok none =>
        throughType = .error (.conversion (.missingTypeColumn type.path)) ∧
          throughRoot = .error (.conversion (.missingTypeColumn root.path))
      | .ok (some discriminator) =>
        match root.find? discriminator with
        | none =>
          throughType = .error (.registry (.typeNotFound root.path discriminator)) ∧
            throughRoot = .error (.registry (.typeNotFound root.path discriminator))
        | some target =>
          if type.cls.isAssignableFrom target.cls then throughType = throughRoot
          else throughType = .ok (.unrelated discriminator) := by
  intro throughType throughRoot
  have sound := reached.sound.store.roots root live
  have belongs := reached.sound.store.rootOf?_eq live registered
  have own := sound.find?_discriminator registered
  have same := discoverDiscriminator_eq_of_sameKeys
    (sound.sameSteering registered coherent).tables row
  have typeResult : throughType = _ := type.decode_result _ row keys
  have rootResult : throughRoot = _ := sound.decode_result row keys
  rw [same, belongs] at typeResult
  refine ⟨same, ?_⟩
  cases discovered : discoverDiscriminator root.entity.tables row with
  | error cause =>
    rw [discovered] at typeResult rootResult
    exact ⟨typeResult, rootResult⟩
  | ok carried =>
    rw [discovered] at typeResult rootResult
    cases carried with
    | none => exact ⟨typeResult, rootResult⟩
    | some discriminator =>
      dsimp only at typeResult rootResult ⊢
      rw [TypeEntity.dispatch_result own] at typeResult
      cases found : root.find? discriminator with
      | none =>
        rw [found] at typeResult rootResult
        exact ⟨typeResult, rootResult⟩
      | some target =>
        rw [found] at typeResult rootResult
        dsimp only at typeResult rootResult ⊢
        by_cases descends : type.cls.isAssignableFrom target.cls = true
        · rw [if_pos descends] at typeResult ⊢
          exact typeResult.trans rootResult.symm
        · rw [if_neg descends] at typeResult ⊢
          exact typeResult

theorem decode_agrees_for_dog :
    (∀ keys, (Menagerie.dogType.decode (Menagerie.opened.store.rootOf? Menagerie.dogType)
        (some (Menagerie.row "puppy")) keys).result =
      (Menagerie.root.decode (some (Menagerie.row "puppy")) keys).result) ∧
    (∀ keys, (Menagerie.dogType.decode (Menagerie.opened.store.rootOf? Menagerie.dogType)
        (some (Menagerie.row "cat")) keys).result = .ok (.unrelated "cat")) ∧
    ∃ object, (Menagerie.dogType.decode (Menagerie.opened.store.rootOf? Menagerie.dogType)
        (some (Menagerie.row "puppy")) [("region", .text "south")]).result =
        .ok (.decoded object) ∧
      object.classPath = "zoo::Puppy" ∧ object.get? "id" = some (.text "rex") ∧
      object.get? "region" = some (.text "south") := by
  have coherent : Class.Coherent [Menagerie.root.cls, Menagerie.dogType.cls] :=
    Menagerie.coherent.mono (by simp [Menagerie.root_cls, Menagerie.dogType_cls])
  have agrees (kind : String) (keys : KeyValues) :=
    (decode_agrees Menagerie.reachable_opened Menagerie.root_live Menagerie.dogType_registered
      coherent (Menagerie.row kind) keys).2
  obtain ⟨object, throughRoot, held⟩ : ∃ object,
      (Menagerie.root.decode (some (Menagerie.row "puppy")) [("region", .text "south")]).result =
        .ok (.decoded object) ∧
      object.classPath = "zoo::Puppy" ∧ object.get? "id" = some (.text "rex") ∧
      object.get? "region" = some (.text "south") := ⟨_, rfl, rfl, rfl, rfl⟩
  exact ⟨agrees "puppy", agrees "cat", object, (agrees "puppy" _).trans throughRoot, held⟩

end Session

end TypedRows
