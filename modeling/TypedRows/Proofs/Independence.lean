import TypedRows.Proofs.Dispatch
import TypedRows.Proofs.Publications

/-! Registrations and the rows that they have nothing to do with. Decoding a row asks the root for
one discriminator only, so whatever is published on other roots or under other discriminators does
not change it, and registrations under different discriminators can be made in either order. -/
namespace TypedRows

namespace TypeEntity

/-- The type with every identity from `next` on taken for `next`. What joins a root in one order or
another is told apart by such identities only. -/
def blurred (next : Identity) (type : TypeEntity) : TypeEntity :=
  if type.id < next then type else { type with id := next }

@[simp]
theorem blurred_discriminator (next : Identity) (type : TypeEntity) :
    (type.blurred next).discriminator = type.discriminator := by
  unfold blurred
  split <;> rfl

/-- Types that look the same once blurred differ in their identities at most. -/
theorem eq_of_blurred {next : Identity} {type twin : TypeEntity}
    (same : type.blurred next = twin.blurred next) : twin = { type with id := twin.id } := by
  unfold blurred at same
  obtain ⟨id, rootId, rootPath, entity, discriminator, isDynamic⟩ := type
  obtain ⟨twinId, _, _, _, _, _⟩ := twin
  split at same <;> split at same <;> cases same <;> rfl

theorem blurred_of_le {next id : Identity} (fresh : next ≤ id) (type : TypeEntity)
    (same : type.id = id) : type.blurred next = { type with id := next } :=
  if_neg (Nat.not_lt.mpr (same ▸ fresh))

end TypeEntity

namespace Root

/-- The root with types put in their places, one after another. -/
def grown (root : Root) (types : List TypeEntity) : Root :=
  { root with types := Keyed.placeAll TypeEntity.discriminator types root.types }

theorem grown_nil (root : Root) : root.grown [] = root := rfl

/-- Both roots find the same for a discriminator, up to identities from `next` on. -/
def FindsLike (root other : Root) (next : Identity) (discriminator : String) : Prop :=
  (root.lookup discriminator).map (·.blurred next) =
    (other.lookup discriminator).map (·.blurred next)

theorem FindsLike.cases {root other : Root} {next : Identity} {discriminator : String}
    (alike : root.FindsLike other next discriminator) :
    (∃ cause, root.lookup discriminator = .error cause ∧
      other.lookup discriminator = .error cause) ∨
    ∃ target id, root.lookup discriminator = .ok target ∧
      other.lookup discriminator = .ok { target with id } := by
  unfold FindsLike at alike
  cases found : root.lookup discriminator with
  | error cause =>
    rw [found] at alike
    cases otherFound : other.lookup discriminator with
    | error otherCause =>
      rw [otherFound] at alike
      cases alike
      exact .inl ⟨cause, rfl, rfl⟩
    | ok twin =>
      rw [otherFound] at alike
      cases alike
  | ok target =>
    rw [found] at alike
    cases otherFound : other.lookup discriminator with
    | error cause =>
      rw [otherFound] at alike
      cases alike
    | ok twin =>
      rw [otherFound] at alike
      have same := TypeEntity.eq_of_blurred (Except.ok.inj alike)
      exact .inr ⟨target, twin.id, rfl, congrArg Except.ok same⟩

end Root

/-- A type asks its root for the discriminator of the row only, and for nothing about the identity of
what is found. -/
theorem TypeEntity.dispatch_congr {root other : Root} {next : Identity} {discriminator : String}
    (alike : root.FindsLike other next discriminator) (type : TypeEntity) (row : Row)
    (keys : KeyValues) :
    type.dispatch (some root) row discriminator keys =
      type.dispatch (some other) row discriminator keys := by
  unfold dispatch
  rcases alike.cases with ⟨cause, missing, otherMissing⟩ | ⟨target, id, found, otherFound⟩
  · simp only [missing, otherMissing]
  · simp only [found, otherFound]
    rfl

namespace Entity

/-- There is a row, and it carries the discriminator as far as the tables of the entity tell. -/
def Carries (entity : Entity) (row? : Option Row) (discriminator : String) : Prop :=
  ∃ row, row? = some row ∧ discoverDiscriminator entity.tables row = .ok (some discriminator)

theorem carries_of_discriminatorOf {entity : Entity} {row : Row} {discriminator : String}
    (carried : entity.discriminatorOf row = .ok discriminator) :
    entity.Carries (some row) discriminator := by
  refine ⟨row, rfl, ?_⟩
  obtain ⟨discovered, done, present⟩ := (bind_eq_ok_iff _ _ _).mp carried
  rw [done, (required_eq_ok_iff _ _ _).mp present]

end Entity

/-- A type decodes alike with either root, as far as rows of the covered discriminators go. -/
structure TypeEntity.DecodesLike (type : TypeEntity) (root? other? : Option Root)
    (covered : String → Prop) : Prop where
  known : ∀ row? discriminator keys, covered discriminator →
    type.decodeAs root? row? discriminator keys = type.decodeAs other? row? discriminator keys
  carried : ∀ row? keys, (∀ discriminator, type.entity.Carries row? discriminator →
      covered discriminator) →
    type.decode root? row? keys = type.decode other? row? keys

/-- Two states of a root decode alike, as far as rows of the covered discriminators go. -/
structure Root.DecodesLike (root other : Root) (covered : String → Prop) : Prop where
  known : ∀ row? discriminator keys, covered discriminator →
    root.decodeAs row? discriminator keys = other.decodeAs row? discriminator keys
  carried : ∀ row? keys, (∀ discriminator, root.entity.Carries row? discriminator →
      covered discriminator) →
    root.decode row? keys = other.decode row? keys

section

variable {root other : Root} {next : Identity} {covered : String → Prop}
  (alike : ∀ discriminator, covered discriminator → root.FindsLike other next discriminator)

include alike

theorem TypeEntity.decodesLike (type : TypeEntity) :
    type.DecodesLike (some root) (some other) covered := by
  have dispatched (row : Row) (keys : KeyValues) {discriminator : String}
      (cover : covered discriminator) := dispatch_congr (alike discriminator cover) type row keys
  constructor
  · intro row? discriminator keys cover
    cases row? with
    | none => rfl
    | some row => exact dispatched row keys cover
  · intro row? keys cover
    cases row? with
    | none => rfl
    | some row =>
      refine Traced.lift_bind_congr ?_
      intro discriminator carried
      have told := (mapError_eq_ok_iff _ _ _).mp carried
      exact dispatched row keys (cover _ (Entity.carries_of_discriminatorOf told))

/-- The type that is found decodes the row alike, whichever identity it has. -/
theorem Root.dispatch_found_congr {discriminator : String} (cover : covered discriminator)
    (row : Row) (keys : KeyValues) :
    (do let type ← (root.lookup discriminator).mapError Fault.registry
        type.dispatch (some root) row discriminator keys : Traced Fault Resolved) =
      (do let type ← (other.lookup discriminator).mapError Fault.registry
          type.dispatch (some other) row discriminator keys) := by
  have same := alike discriminator cover
  rcases same.cases with ⟨cause, missing, otherMissing⟩ | ⟨target, id, found, otherFound⟩
  · rw [missing, otherMissing]
    rfl
  · rw [found, otherFound]
    exact TypeEntity.dispatch_congr same target row keys

theorem Root.decodesLike (same : root.entity = other.entity) :
    root.DecodesLike other covered := by
  constructor
  · intro row? discriminator keys cover
    cases row? with
    | none => rfl
    | some row => exact dispatch_found_congr alike cover row keys
  · intro row? keys cover
    cases row? with
    | none => rfl
    | some row =>
      simp only [decode, Root.path, ← same]
      refine Traced.lift_bind_congr ?_
      intro discriminator carried
      have told := (mapError_eq_ok_iff _ _ _).mp carried
      have covers := cover _ (Entity.carries_of_discriminatorOf told)
      rw [dispatch_found_congr alike covers row keys]

end

/-- A root in one store and the same root in another decode alike, and so does every type of the
root, as far as rows of the covered discriminators go. -/
structure Store.DecodesLike (store other : Store) (root twin : Root) (covered : String → Prop) :
    Prop where
  found : store.root? root.id = some root
  twinFound : other.root? root.id = some twin
  throughRoot : root.DecodesLike twin covered
  throughTypes : ∀ type : TypeEntity, type.rootId = root.id →
    type.DecodesLike (store.rootOf? type) (other.rootOf? type) covered

namespace Store

theorem decodesLike {store other : Store} {root twin : Root} {covered : String → Prop}
    (next : Identity) (found : store.root? root.id = some root)
    (twinFound : other.root? root.id = some twin) (same : root.entity = twin.entity)
    (alike : ∀ discriminator, covered discriminator → root.FindsLike twin next discriminator) :
    store.DecodesLike other root twin covered := by
  refine ⟨found, twinFound, Root.decodesLike alike same, ?_⟩
  intro type belongs
  rw [rootOf?, rootOf?, belongs, found, twinFound]
  exact type.decodesLike alike

theorem on_publishedByNew {store : Store} (sound : store.Sound) {root : Root}
    (live : root ∈ store.roots) (manager : Manager) (cls : Class) (types : List Class) :
    Publication.on (store.publishedByNew manager cls types) root.id = [] := by
  unfold publishedByNew
  cases done : (store.newRoot manager cls types).result with
  | error cause => rfl
  | ok built =>
    obtain ⟨next, fresh⟩ := built
    obtain ⟨built, rfl⟩ := (newRoot_result_eq_ok_iff _ _ _ _ _ _).mp done
    have freshId : fresh.id = store.next := (Root.sound_of_build built).2.1
    exact Publication.on_map_of_ne _ (freshId ▸ Nat.ne_of_gt (sound.bounded root live))

theorem on_publishedByAsking {store : Store} (sound : store.Sound) {root : Root}
    (live : root ∈ store.roots) (manager : Manager) (cls : Class) (types : List Class) :
    Publication.on (store.publishedByAsking manager cls types) root.id = [] := by
  cases kept : store.findRoot? manager cls.path with
  | some old =>
    rw [publishedByAsking_of_kept kept]
    rfl
  | none =>
    rw [publishedByAsking_of_absent kept]
    exact on_publishedByNew sound live manager cls types

theorem publishedByRegister_eq (store : Store) (root : Root) (type : TypeEntity) :
    store.publishedByRegister root type =
      if type.rootId = root.id then [⟨root.id, type⟩] else [] := by
  unfold publishedByRegister
  by_cases belongs : type.rootId = root.id
  · have done := (register_result_eq_ok_iff store root type _ _).mpr ⟨belongs, rfl, rfl⟩
    rw [done, if_pos belongs]
  · rw [if_neg belongs]
    cases outcome : (store.register root type).result with
    | error cause => rfl
    | ok done => exact absurd ((register_result_eq_ok_iff _ _ _ _ _).mp outcome).1 belongs

theorem publishedByDynamic_eq (store : Store) (root : Root) (manager : Manager) (cls : Class) :
    store.publishedByDynamic root manager cls =
      match (TypeEntity.validate manager.settings store.next root.id root.cls cls true).result with
      | .error _ => []
      | .ok type => [⟨root.id, type⟩] := by
  unfold publishedByDynamic
  cases accepted :
      (TypeEntity.validate manager.settings store.next root.id root.cls cls true).result with
  | ok type =>
    have done := (registerDynamic_result_eq_ok_iff store root manager cls _ type).mpr
      ⟨accepted, rfl⟩
    rw [done]
  | error cause =>
    cases outcome : (store.registerDynamic root manager cls).result with
    | error cause => rfl
    | ok done =>
      have passed := ((registerDynamic_result_eq_ok_iff _ _ _ _ _ _).mp outcome).1
      cases accepted.symm.trans passed

/-- Publishing a type on a root puts it in its place there and leaves every other root alone. -/
theorem grown_mem_putRoot {store : Store} (sound : store.Sound) {root target : Root}
    (live : root ∈ store.roots) (targetLive : target ∈ store.roots) (type : TypeEntity) :
    root.grown (Publication.on [⟨target.id, type⟩] root.id) ∈ (store.putRoot { target with
      types := Keyed.place TypeEntity.discriminator type target.types }).roots := by
  refine List.mem_map.mpr ⟨root, live, ?_⟩
  by_cases same : root.id = target.id
  · obtain rfl : root = target := sound.root_eq live targetLive same
    have own : Publication.on [⟨root.id, type⟩] root.id = [type] :=
      Publication.on_map_self [type] root.id
    rw [if_pos rfl, own]
    rfl
  · have elsewhere : Publication.on [⟨target.id, type⟩] root.id = [] :=
      Publication.on_map_of_ne [type] fun equal => same equal.symm
    rw [if_neg same, elsewhere, Root.grown_nil]

theorem mem_roots_of_newRoot {store next : Store} {manager : Manager} {cls : Class}
    {types : List Class} {fresh : Root}
    (done : (store.newRoot manager cls types).result = .ok (next, fresh)) {root : Root}
    (live : root ∈ store.roots) : root ∈ next.roots := by
  obtain ⟨_, rfl⟩ := (newRoot_result_eq_ok_iff _ _ _ _ _ _).mp done
  exact List.mem_cons_of_mem _ live

end Store

namespace Session

theorem Evolves.grown_mem {session : Session} {published : List Publication} {store : Store}
    (evolves : session.Evolves published store) (sound : session.store.Sound) {root : Root}
    (live : root ∈ session.store.roots) :
    root.grown (Publication.on published root.id) ∈ store.roots := by
  cases evolves with
  | stays => exact live
  | manages settings => exact live
  | asks done =>
    rw [Store.on_publishedByAsking sound live, Root.grown_nil]
    rcases (Store.rootEntity_result_eq_ok_iff _ _ _ _ _ _).mp done with
      ⟨_, rfl⟩ | ⟨_, built, made, rfl⟩
    · exact live
    · exact Store.mem_roots_of_newRoot made live
  | builds done =>
    rw [Store.on_publishedByNew sound live, Root.grown_nil]
    exact Store.mem_roots_of_newRoot done live
  | introduces targetLive done =>
    obtain ⟨_, rfl⟩ := (Store.registerDynamic_result_eq_ok_iff _ _ _ _ _ _).mp done
    exact Store.grown_mem_putRoot sound live targetLive _
  | registers targetLive held done =>
    obtain ⟨_, rfl, rfl⟩ := (Store.register_result_eq_ok_iff _ _ _ _ _).mp done
    exact Store.grown_mem_putRoot sound live targetLive _

theorem root?_replyTo {session : Session} (sound : session.Sound) {root : Root}
    (live : root ∈ session.store.roots) (taken : Option Entry) (action : Action) :
    (session.replyTo taken action).session.store.root? root.id =
      some (root.grown (Publication.on (session.publishes action) root.id)) := by
  have performs := session.performs_replyTo taken action
  exact (sound.keeps_of_performs performs).store.sound.root?_eq
    (performs.store.grown_mem sound.store live)

/-- The action publishes a type on the root of an identity under the discriminator. -/
def Disturbs (session : Session) (action : Action) (root : Identity) (discriminator : String) :
    Prop :=
  ∃ publication ∈ session.publishes action, publication.root = root ∧
    publication.type.discriminator = discriminator

/-- Whatever an action does, it leaves the rows that it does not disturb as they were. -/
theorem Sound.decodesLike_replyTo {session : Session} (sound : session.Sound) {root : Root}
    (live : root ∈ session.store.roots) (taken : Option Entry) (action : Action) :
    ∃ later, session.store.DecodesLike (session.replyTo taken action).session.store root later
      fun discriminator => ¬session.Disturbs action root.id discriminator := by
  have ascending := (sound.store.roots root live).ascending
  refine ⟨_, Store.decodesLike session.store.next (sound.store.root?_eq live)
    (root?_replyTo sound live taken action) rfl ?_⟩
  intro discriminator calm
  have apart : ∀ type ∈ Publication.on (session.publishes action) root.id,
      type.discriminator ≠ discriminator := by
    intro type published same
    exact calm ⟨_, Publication.mem_on_iff.mp published, rfl, same⟩
  rw [Root.FindsLike, Root.lookup, Root.lookup, Root.find?, Root.find?, Root.grown,
    Keyed.find?_placeAll_of_ne ascending apart]
  rfl

/-! ### Registrations in either order -/

/-- The action registers the type with the root. -/
inductive Registers (session : Session) (root : Root) : Action → TypeEntity → Prop where
  | given {rootName typeName : String} {type : TypeEntity}
      (named : session.root? rootName = some root) (known : session.type? typeName = some type)
      (belongs : type.rootId = root.id) :
      session.Registers root (.register rootName typeName) type
  | introduced {rootName managerName : String} {manager : Manager} {cls : Class} {type : TypeEntity}
      (named : session.root? rootName = some root)
      (keeper : session.manager? managerName = some manager)
      (accepted : (TypeEntity.validate manager.settings session.store.next root.id root.cls cls
        true).result = .ok type) :
      session.Registers root (.registerDynamic rootName managerName cls) type

theorem registers_of_publishes {session : Session} (sound : session.store.Sound) {root : Root}
    (live : root ∈ session.store.roots) {action : Action} {type : TypeEntity}
    (published : session.publishes action = [⟨root.id, type⟩]) :
    session.Registers root action type := by
  have visible : Publication.on (session.publishes action) root.id = [type] := by
    rw [published]
    exact Publication.on_map_self [type] root.id
  cases action with
  | rootEntity name cls types =>
    cases named : session.manager? name with
    | none => simp [publishes, named] at published
    | some manager =>
      simp only [publishes, named, Option.map_some, Option.getD_some] at visible
      rw [Store.on_publishedByAsking sound live] at visible
      cases visible
  | newRoot name cls types =>
    cases named : session.manager? name with
    | none => simp [publishes, named] at published
    | some manager =>
      simp only [publishes, named, Option.map_some, Option.getD_some] at visible
      rw [Store.on_publishedByNew sound live] at visible
      cases visible
  | registerDynamic rootName managerName cls =>
    cases named : session.root? rootName with
    | none => simp [publishes, named] at published
    | some target =>
      cases keeper : session.manager? managerName with
      | none => simp [publishes, named, keeper] at published
      | some manager =>
        simp only [publishes, named, keeper, Option.bind_eq_bind, Option.bind_some, Option.pure_def,
          Option.getD_some, Store.publishedByDynamic_eq] at published
        split at published
        · cases published
        · rename_i introduced accepted
          obtain ⟨sameId, rfl⟩ : target.id = root.id ∧ introduced = type := by simpa using published
          obtain rfl := sound.root_eq (mem_roots_of_root? named) live sameId
          exact .introduced named keeper accepted
  | register rootName typeName =>
    cases named : session.root? rootName with
    | none => simp [publishes, named] at published
    | some target =>
      cases known : session.type? typeName with
      | none => simp [publishes, named, known] at published
      | some found =>
        simp only [publishes, named, known, Option.bind_eq_bind, Option.bind_some, Option.pure_def,
          Option.getD_some, Store.publishedByRegister_eq] at published
        split at published
        · rename_i belongs
          obtain ⟨sameId, rfl⟩ : target.id = root.id ∧ found = type := by simpa using published
          obtain rfl := sound.root_eq (mem_roots_of_root? named) live sameId
          exact .given named known belongs
        · cases published
  | _ => cases published

theorem publishes_of_registers {session : Session} {root : Root} {action : Action}
    {type : TypeEntity} (registers : session.Registers root action type) :
    session.publishes action = [⟨root.id, type⟩] := by
  cases registers with
  | given named known belongs =>
    simp [publishes, named, known, Store.publishedByRegister_eq, belongs]
  | introduced named keeper accepted =>
    simp [publishes, named, keeper, Store.publishedByDynamic_eq, accepted]

/-- Two sessions with the same names and managers, where a root of the same identity and class may
have different types. -/
structure Resembles (session other : Session) (root twin : Root) : Prop where
  entries : other.entries = session.entries
  managers : other.store.managers = session.store.managers
  id : twin.id = root.id
  entity : twin.entity = root.entity
  found : session.store.root? root.id = some root
  twinFound : other.store.root? root.id = some twin

theorem Resembles.symm {session other : Session} {root twin : Root}
    (resembles : session.Resembles other root twin) : other.Resembles session twin root where
  entries := resembles.entries.symm
  managers := resembles.managers.symm
  id := resembles.id.symm
  entity := resembles.entity.symm
  found := resembles.id ▸ resembles.twinFound
  twinFound := resembles.id ▸ resembles.found

section

variable {session other : Session} {root twin : Root}
  (resembles : session.Resembles other root twin)

include resembles

theorem Resembles.find?_eq (name : String) : other.find? name = session.find? name := by
  rw [find?, find?, resembles.entries]

theorem Resembles.root?_eq {name : String} (named : session.root? name = some root) :
    other.root? name = some twin := by
  obtain ⟨id, entry, search⟩ := Option.bind_eq_some_iff.mp named
  have same : root.id = id := by simpa using List.find?_some search
  refine Option.bind_eq_some_iff.mpr ⟨id, ?_, same ▸ resembles.twinFound⟩
  rw [resembles.find?_eq]
  exact entry

theorem Resembles.type?_eq (name : String) : other.type? name = session.type? name := by
  rw [type?, type?, resembles.find?_eq]

theorem Resembles.manager?_eq (name : String) : other.manager? name = session.manager? name := by
  have same : other.store.manager? = session.store.manager? := by
    funext id
    rw [Store.manager?, Store.manager?, resembles.managers]
  rw [manager?, manager?, resembles.find?_eq, same]

/-- A registration does not depend on what else the root has registered. -/
theorem Registers.transfer {action : Action} {type : TypeEntity} {next : Identity}
    (registers : session.Registers root action type) (before : next ≤ session.store.next)
    (otherBefore : next ≤ other.store.next) :
    ∃ twinType, other.Registers twin action twinType ∧
      twinType.blurred next = type.blurred next := by
  cases registers with
  | given named known belongs =>
    refine ⟨type, .given (resembles.root?_eq named) ?_ (belongs.trans resembles.id.symm), rfl⟩
    rw [resembles.type?_eq]
    exact known
  | introduced named keeper accepted =>
    obtain ⟨valid, rfl, configured, given, belongs, dynamic⟩ :=
      (TypeEntity.validate_result_eq_ok_iff _ _ _ _ _ _ _).mp accepted
    have sameClass : twin.cls = root.cls := congrArg Entity.cls resembles.entity
    refine ⟨{ type with id := other.store.next },
      .introduced (resembles.root?_eq named) ((resembles.manager?_eq _).trans keeper) ?_, ?_⟩
    · refine (TypeEntity.validate_result_eq_ok_iff _ _ _ _ _ _ _).mpr
        ⟨?_, rfl, configured, rfl, belongs.trans resembles.id.symm, dynamic⟩
      rw [sameClass]
      exact ⟨valid.made, valid.described, valid.tagged, valid.descends, valid.steered,
        valid.rootPath_eq⟩
    · rw [TypeEntity.blurred_of_le before type given, TypeEntity.blurred_of_le otherBefore _ rfl]

end

/-- The managers are those that were there before, and no identity was taken back. -/
def KeepsManagers (session later : Session) : Prop :=
  later.store.managers = session.store.managers ∧ session.store.next ≤ later.store.next

section

variable {session : Session} {root : Root} {action : Action} {type : TypeEntity}
  (registers : session.Registers root action type)

include registers

theorem Registers.keepsManagers (taken : Option Entry) :
    session.KeepsManagers (session.replyTo taken action).session := by
  cases registers with
  | given named known belongs =>
    simp only [replyTo, perform?, named, known, Option.bind_eq_bind, Option.bind_some,
      Option.pure_def, Option.getD_some]
    refine session_of_finish session.KeepsManagers (fun _ _ => ⟨rfl, Nat.le_refl _⟩) ?_
    rintro ⟨store, grown⟩ done
    obtain ⟨_, _, rfl⟩ := (Store.register_result_eq_ok_iff _ _ _ _ _).mp done
    exact ⟨rfl, Nat.le_refl _⟩
  | introduced named keeper accepted =>
    simp only [replyTo, perform?, named, keeper, Option.bind_eq_bind, Option.bind_some,
      Option.pure_def, Option.getD_some]
    refine session_of_finish session.KeepsManagers (fun _ _ => ⟨rfl, Nat.le_refl _⟩) ?_
    rintro ⟨store, joined⟩ done
    obtain ⟨_, rfl⟩ := (Store.registerDynamic_result_eq_ok_iff _ _ _ _ _ _).mp done
    exact ⟨rfl, Nat.le_succ _⟩

/-- All that a registration changes for the next one is the registry of the root. -/
theorem Registers.resembles (sound : session.Sound) (live : root ∈ session.store.roots)
    (taken : Option Entry) :
    session.Resembles (session.replyTo taken action).session root (root.grown [type]) where
  entries := (session.performs_replyTo taken action).entries
  managers := (registers.keepsManagers taken).1
  id := rfl
  entity := rfl
  found := sound.store.root?_eq live
  twinFound := by
    have own : Publication.on [⟨root.id, type⟩] root.id = [type] :=
      Publication.on_map_self [type] root.id
    rw [root?_replyTo sound live, publishes_of_registers registers, own]

end

end Session

/-- Both roots have the same types under the same discriminators, up to identities from `next` on. -/
structure Root.SameRegistry (root twin : Root) (next : Identity) : Prop where
  lookups : ∀ discriminator, root.FindsLike twin next discriminator
  types : root.types.map (·.blurred next) = twin.types.map (·.blurred next)

theorem Root.sameRegistry_of_types {root twin : Root} {next : Identity}
    (samePath : root.path = twin.path)
    (types : root.types.map (·.blurred next) = twin.types.map (·.blurred next)) :
    root.SameRegistry twin next := by
  refine ⟨?_, types⟩
  intro discriminator
  have blurs (listed : List TypeEntity) :
      (Keyed.find? TypeEntity.discriminator discriminator listed).map (·.blurred next) =
        Keyed.find? TypeEntity.discriminator discriminator (listed.map (·.blurred next)) :=
    (Keyed.find?_map (TypeEntity.blurred_discriminator next) discriminator listed).symm
  have found : (root.find? discriminator).map (·.blurred next) =
      (twin.find? discriminator).map (·.blurred next) := by
    rw [Root.find?, Root.find?, blurs, blurs, types]
  rw [FindsLike, lookup, lookup, map_required, map_required, found, samePath]

theorem Root.grown_comm {root : Root} {next : Identity}
    (ascending : Keyed.Ascending TypeEntity.discriminator root.types)
    {type other twin otherTwin : TypeEntity} (apart : type.discriminator ≠ other.discriminator)
    (same : twin.blurred next = type.blurred next)
    (otherSame : otherTwin.blurred next = other.blurred next) :
    ((root.grown [type]).grown [other]).SameRegistry ((root.grown [otherTwin]).grown [twin])
      next := by
  refine Root.sameRegistry_of_types rfl ?_
  have keyed := TypeEntity.blurred_discriminator next
  have blurredAscending :
      Keyed.Ascending TypeEntity.discriminator (root.types.map (·.blurred next)) := by
    refine List.pairwise_map.mpr (ascending.imp ?_)
    intro first second before
    simpa only [keyed] using before
  change (Keyed.place _ other (Keyed.place _ type root.types)).map _ =
    (Keyed.place _ twin (Keyed.place _ otherTwin root.types)).map _
  simp only [Keyed.map_place keyed, same, otherSame]
  refine Keyed.place_comm blurredAscending ?_
  rw [keyed, keyed]
  exact apart.symm

namespace Session

/-- What two registrations come to in one order and in the other: both succeed either way, with the
same types but for the identities that they are given on the way, and the root then has the same
registry and decodes alike. -/
structure Commutes (session : Session) (root : Root) (taken otherTaken : Option Entry)
    (first second : Action) (type other : TypeEntity) : Prop where
  published : ∃ otherTwin, otherTwin.blurred session.store.next = other.blurred session.store.next ∧
    session.publishes second = [⟨root.id, otherTwin⟩]
  otherPublished : ∃ twin, twin.blurred session.store.next = type.blurred session.store.next ∧
    (session.replyTo otherTaken second).session.publishes first = [⟨root.id, twin⟩]
  outcome : ∃ left right,
    ((session.replyTo taken first).session.replyTo otherTaken second).session.store.DecodesLike
        ((session.replyTo otherTaken second).session.replyTo taken first).session.store left right
        (fun _ => True) ∧
      left.id = root.id ∧ left.SameRegistry right session.store.next

theorem Sound.commutes {session : Session} (sound : session.Sound) {root : Root}
    (live : root ∈ session.store.roots) {taken otherTaken : Option Entry} {first second : Action}
    {type other : TypeEntity} (published : session.publishes first = [⟨root.id, type⟩])
    (otherPublished :
      (session.replyTo taken first).session.publishes second = [⟨root.id, other⟩])
    (apart : type.discriminator ≠ other.discriminator) :
    session.Commutes root taken otherTaken first second type other := by
  have soundAfter (taken : Option Entry) (action : Action) :
      (session.replyTo taken action).session.Sound :=
    sound.of_keeps (sound.keeps_of_performs (session.performs_replyTo taken action))
  -- What the second registers after the first it would register in its place as well.
  have registers := registers_of_publishes sound.store live published
  have resembles := registers.resembles sound live taken
  have firstSound := soundAfter taken first
  have firstLive := Store.mem_roots_of_root? resembles.twinFound
  have otherRegisters := registers_of_publishes firstSound.store firstLive otherPublished
  obtain ⟨otherTwin, otherFirst, otherSame⟩ := otherRegisters.transfer resembles.symm
    (registers.keepsManagers taken).2 (Nat.le_refl _)
  -- The first one then registers what it has registered before.
  have otherResembles := otherFirst.resembles sound live otherTaken
  have secondSound := soundAfter otherTaken second
  have secondLive := Store.mem_roots_of_root? otherResembles.twinFound
  obtain ⟨twin, lastly, same⟩ := registers.transfer otherResembles (Nat.le_refl _)
    (otherFirst.keepsManagers otherTaken).2
  have firstLast := publishes_of_registers lastly
  refine ⟨⟨otherTwin, otherSame, publishes_of_registers otherFirst⟩, ⟨twin, same, firstLast⟩, ?_⟩
  have ascending := (sound.store.roots root live).ascending
  have registry := Root.grown_comm ascending apart same otherSame
  have left := (otherRegisters.resembles firstSound firstLive otherTaken).twinFound
  have right := (lastly.resembles secondSound secondLive taken).twinFound
  refine ⟨(root.grown [type]).grown [other], (root.grown [otherTwin]).grown [twin], ?_, rfl,
    registry⟩
  exact Store.decodesLike session.store.next left right rfl fun discriminator _ =>
    registry.lookups discriminator

/-- Whatever an action does, the rows of other discriminators and of other roots are decoded as
before, through the root and through every type that belongs to it; and registrations under
different discriminators come to the same in either order. -/
theorem registrations_independent {session : Session} {root : Root} (reached : session.Reachable)
    (live : root ∈ session.store.roots) :
    (∀ taken action, ∃ later,
      session.store.DecodesLike (session.replyTo taken action).session.store root later
        fun discriminator => ¬session.Disturbs action root.id discriminator) ∧
    ∀ taken otherTaken first second type other,
      session.publishes first = [⟨root.id, type⟩] →
      (session.replyTo taken first).session.publishes second = [⟨root.id, other⟩] →
      type.discriminator ≠ other.discriminator →
      session.Commutes root taken otherTaken first second type other :=
  ⟨fun taken action => reached.sound.decodesLike_replyTo live taken action,
    fun _ _ _ _ _ _ published otherPublished apart =>
      reached.sound.commutes live published otherPublished apart⟩

end Session

namespace Menagerie

/-- Lets a class join the animals. -/
def joining (cls : Class) : Action := .registerDynamic "animals" "manager" cls

end Menagerie

/-- A hound that takes the place of dogs has nothing to do with the rows of cats, and it may join
before a puppy or after it. -/
theorem Session.registrations_independent_hound :
    (∃ later, (Menagerie.opened.replyTo none (Menagerie.joining Menagerie.hound)).session.store.root?
        Menagerie.root.id = some later ∧
      ∀ keys, Menagerie.root.decode (some (Menagerie.row "cat")) keys =
        later.decode (some (Menagerie.row "cat")) keys) ∧
    ∃ type other, type.path = "zoo::Hound" ∧ other.path = "zoo::Puppy" ∧
      Menagerie.opened.Commutes Menagerie.root none none (Menagerie.joining Menagerie.hound)
        (Menagerie.joining Menagerie.puppy) type other := by
  obtain ⟨spares, commutes⟩ :=
    registrations_independent Menagerie.reachable_opened Menagerie.root_live
  constructor
  · obtain ⟨later, alike⟩ := spares none (Menagerie.joining Menagerie.hound)
    refine ⟨later, alike.twinFound, fun keys => alike.throughRoot.carried _ keys ?_⟩
    rintro discriminator ⟨_, ⟨⟩, discovered⟩ ⟨publication, published, _, same⟩
    obtain rfl : "cat" = discriminator := Option.some.inj (Except.ok.inj discovered)
    have only : (Menagerie.opened.publishes (Menagerie.joining Menagerie.hound)).map
        (·.type.discriminator) = ["dog"] := rfl
    have listed := List.mem_map_of_mem (f := (·.type.discriminator)) published
    rw [only, same] at listed
    simp at listed
  · obtain ⟨type, joined, path, tag⟩ : ∃ type,
        Menagerie.opened.publishes (Menagerie.joining Menagerie.hound) =
          [⟨Menagerie.root.id, type⟩] ∧ type.path = "zoo::Hound" ∧ type.discriminator = "dog" :=
      ⟨_, rfl, rfl, rfl⟩
    obtain ⟨other, otherJoined, otherPath, otherTag⟩ : ∃ other,
        (Menagerie.opened.replyTo none (Menagerie.joining Menagerie.hound)).session.publishes
          (Menagerie.joining Menagerie.puppy) = [⟨Menagerie.root.id, other⟩] ∧
        other.path = "zoo::Puppy" ∧ other.discriminator = "puppy" := ⟨_, rfl, rfl, rfl⟩
    refine ⟨type, other, path, otherPath, commutes _ _ _ _ _ _ joined otherJoined ?_⟩
    rw [tag, otherTag]
    decide

end TypedRows
