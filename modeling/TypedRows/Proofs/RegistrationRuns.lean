import TypedRows.Proofs.Announcements
import TypedRows.Proofs.Identities
import TypedRows.Proofs.Independence

/-! What a run of requests tells of the types that were published on a root. The publications and
the announcements of all requests are followed side by side, and types are told apart by their
identities at any time. -/
namespace TypedRows

open Root (Tells accepted)

namespace Traced

variable {ε α β : Type}

/-- What only looks at the result records nothing. -/
theorem events_bind_pure (first : Traced ε α) (next : α → β) :
    (first >>= fun a => pure (next a)).events = first.events := by
  cases outcome : first.result with
  | error cause => exact events_bind_of_error outcome _
  | ok a =>
    rw [events_bind_of_ok outcome]
    exact List.append_nil _

end Traced

/-- Whether the action registers a type with a root that is there already. -/
def Action.isRegistration : Action → Bool
  | .register .. => true
  | .registerDynamic .. => true
  | _ => false

/-! ### Operations on the store -/

namespace Store

variable {store next : Store} {root : Root} {manager : Manager} {cls : Class}

theorem announcements_register (store : Store) (root : Root) (type : TypeEntity) :
    announcements (store.register root type).events =
      if type.rootId = root.id then [root.registrationEvent type] else [] := by
  rw [register, Traced.events_bind_pure, Root.announcements_register]

theorem events_registerDynamic (store : Store) (root : Root) (manager : Manager) (cls : Class) :
    (store.registerDynamic root manager cls).events =
      (root.introduce manager.settings store.next true cls).events :=
  Traced.events_bind_pure _ fun introduced : Root × TypeEntity =>
    ({ store.putRoot introduced.1 with next := store.next + 1 }, introduced.2)

theorem events_newRoot (store : Store) (manager : Manager) (cls : Class) (types : List Class) :
    (store.newRoot manager cls types).events =
      (Root.build manager.settings store.next cls types).events :=
  Traced.events_bind_pure _ fun root =>
    ({ store with roots := root :: store.roots, next := store.next + 1 + types.length }, root)

theorem tells_publishedByNew {types : List Class}
    (done : (store.newRoot manager cls types).result = .ok (next, root)) :
    Tells [] (Publication.on (store.publishedByNew manager cls types) root.id)
      (announcements (store.newRoot manager cls types).events) := by
  have tells := Root.tells_build manager.settings store.next cls types
  rw [publishedByNew, done, events_newRoot]
  obtain ⟨built, _⟩ := (newRoot_result_eq_ok_iff _ _ _ _ _ _).mp done
  rw [Root.accepted_of_build built] at tells
  dsimp only
  rw [Publication.on_map_self]
  exact tells

/-- Keeping a root that was built is no announcement. -/
theorem announcements_rootEntity_of_absent (absent : store.findRoot? manager cls.path = none)
    (types : List Class) :
    announcements (store.rootEntity manager cls types).events =
      announcements (store.newRoot manager cls types).events := by
  rw [rootEntity, absent]
  cases outcome : (store.newRoot manager cls types).result with
  | error cause => rw [Traced.events_bind_of_error outcome]
  | ok built =>
    rw [Traced.events_bind_of_ok outcome, announcements_append]
    exact List.append_nil _

theorem tells_publishedByAsking {types : List Class} {registered : List TypeEntity}
    (done : (store.rootEntity manager cls types).result = .ok (next, root))
    (fresh : root.id = store.next → registered = []) :
    Tells registered (Publication.on (store.publishedByAsking manager cls types) root.id)
      (announcements (store.rootEntity manager cls types).events) := by
  rcases (rootEntity_result_eq_ok_iff _ _ _ _ _ _).mp done with
    ⟨kept, _⟩ | ⟨absent, built, made, _⟩
  · rw [publishedByAsking_of_kept kept, rootEntity, kept]
    exact .done registered
  · obtain ⟨builds, _⟩ := (newRoot_result_eq_ok_iff _ _ _ _ _ _).mp made
    obtain ⟨_, freshId, _⟩ := Root.sound_of_build builds
    rw [publishedByAsking_of_absent absent, announcements_rootEntity_of_absent absent,
      fresh freshId]
    exact tells_publishedByNew made

end Store

namespace Session

/-- What a request announces of published types. -/
def announced (session : Session) (request : Request) : List Event :=
  announcements (session.run request).2.1

/-- The root that an action registers types with: the one that it names, or the one that it is
answered with. -/
def addresses (session : Session) : Action → Option Identity
  | .register root _ => (session.root? root).map (·.id)
  | .registerDynamic root _ _ => (session.root? root).map (·.id)
  | .newRoot manager cls types =>
    (session.replyTo none (.newRoot manager cls types)).result >>= Entry.rootId?
  | .rootEntity manager cls types =>
    (session.replyTo none (.rootEntity manager cls types)).result >>= Entry.rootId?
  | _ => none

/-- What a request tells of a root. -/
def tellsOf (session : Session) (request : Request) (root : Identity) : List Event :=
  if session.addresses request.action = some root then session.announced request else []

/-- What requests tell of a root, in order. -/
def told (session : Session) (root : Identity) : List Request → List Event
  | [] => []
  | request :: rest => session.tellsOf request root ++ (session.run request).2.2.told root rest

section

variable {session : Session}

theorem events_finish {ε α : Type} (toFault : ε → Fault) (traced : Traced ε α)
    (next : α → Reply) : (session.finish toFault traced next).events = traced.events := by
  unfold finish
  cases traced.result <;> rfl

theorem announced_of_onStore {request : Request} (onStore : request.action.onStore = true) :
    session.announced request = announcements (session.replyTo none request.action).events := by
  obtain ⟨action, keepAs⟩ := request
  cases action with
  | addManager _ | rootEntity _ _ _ | newRoot _ _ _ | registerDynamic _ _ _ | register _ _ => rfl
  | _ => cases onStore

theorem onStore_of_addresses {action : Action} {root : Identity}
    (addressed : session.addresses action = some root) : action.onStore = true := by
  cases action with
  | rootEntity _ _ _ | newRoot _ _ _ | registerDynamic _ _ _ | register _ _ => rfl
  | _ => cases addressed

theorem exists_of_answerRoot {traced : Traced ModelError (Store × Root)} {id : Identity}
    (resulted : (session.finish .model traced fun built =>
      { session with store := built.1 }.answerRoot built.2).result >>= Entry.rootId? = some id) :
    ∃ next root, traced.result = .ok (next, root) ∧ root.id = id := by
  unfold finish at resulted
  cases outcome : traced.result with
  | error cause =>
    rw [outcome] at resulted
    cases resulted
  | ok built =>
    rw [outcome] at resulted
    exact ⟨built.1, built.2, rfl, Option.some.inj resulted⟩

theorem tells_one {root : Root} {type : TypeEntity}
    (ascending : Keyed.Ascending TypeEntity.discriminator root.types)
    (own : type.rootPath = root.path) :
    Tells root.types (Publication.on [⟨root.id, type⟩] root.id) [root.registrationEvent type] := by
  have published : Publication.on [⟨root.id, type⟩] root.id = [type] :=
    Publication.on_map_self [type] root.id
  rw [published]
  exact .publish (Root.announces_registrationEvent ascending own) (.done _)

section

variable (sound : session.Sound) {rootName : String} {target : Root}
  (named : session.root? rootName = some target)

include sound named

theorem tells_register (taken : Option Entry) (typeName : String) :
    Tells target.types
      (Publication.on (session.publishes (.register rootName typeName)) target.id)
      (announcements (session.replyTo taken (.register rootName typeName)).events) := by
  have live := mem_roots_of_root? named
  cases known : session.type? typeName with
  | none =>
    simp only [publishes, replyTo, perform?, named, known, Option.bind_eq_bind, Option.bind_some,
      Option.bind_none, Option.getD_none]
    exact .done _
  | some type =>
    simp only [publishes, replyTo, perform?, named, known, Option.bind_eq_bind, Option.bind_some,
      Option.pure_def, Option.getD_some, events_finish, Store.announcements_register,
      Store.publishedByRegister_eq]
    split
    · rename_i belongs
      have admitted := sound.admits_of_holds (holds_of_type? known)
      exact tells_one (sound.store.roots target live).ascending
        (admitted.2 target live belongs.symm).rootPath_eq
    · exact .done _

theorem tells_registerDynamic (taken : Option Entry) (managerName : String) (cls : Class) :
    Tells target.types
      (Publication.on (session.publishes (.registerDynamic rootName managerName cls)) target.id)
      (announcements
        (session.replyTo taken (.registerDynamic rootName managerName cls)).events) := by
  have live := mem_roots_of_root? named
  cases keeper : session.manager? managerName with
  | none =>
    simp only [publishes, replyTo, perform?, named, keeper, Option.bind_eq_bind, Option.bind_some,
      Option.bind_none, Option.getD_none]
    exact .done _
  | some manager =>
    simp only [publishes, replyTo, perform?, named, keeper, Option.bind_eq_bind, Option.bind_some,
      Option.pure_def, Option.getD_some, events_finish, Store.events_registerDynamic,
      Store.publishedByDynamic_eq]
    cases outcome : (TypeEntity.validate manager.settings session.store.next target.id target.cls
      cls true).result with
    | error cause =>
      rw [Root.announcements_introduce_of_error outcome]
      exact .done _
    | ok type =>
      obtain ⟨valid, _⟩ := (TypeEntity.validate_result_eq_ok_iff _ _ _ _ _ _ _).mp outcome
      rw [Root.announcements_introduce_of_ok outcome]
      exact tells_one (sound.store.roots target live).ascending valid.rootPath_eq

end

theorem tells_newRoot {name : String} {cls : Class} {types : List Class} {id : Identity}
    (built : (session.replyTo none (.newRoot name cls types)).result >>= Entry.rootId? = some id) :
    id = session.store.next ∧
      Tells [] (Publication.on (session.publishes (.newRoot name cls types)) id)
        (announcements (session.replyTo none (.newRoot name cls types)).events) := by
  cases found : session.manager? name with
  | none => simp [replyTo, perform?, found, answer] at built
  | some manager =>
    simp only [publishes, replyTo, perform?, found, Option.bind_eq_bind, Option.bind_some,
      Option.pure_def, Option.getD_some, Option.map_some, events_finish] at built ⊢
    obtain ⟨next, root, done, same⟩ := exists_of_answerRoot built
    subst same
    obtain ⟨builds, _⟩ := (Store.newRoot_result_eq_ok_iff _ _ _ _ _ _).mp done
    exact ⟨(Root.sound_of_build builds).2.1, Store.tells_publishedByNew done⟩

theorem tells_rootEntity {name : String} {cls : Class} {types : List Class} {id : Identity}
    {registered : List TypeEntity}
    (answered :
      (session.replyTo none (.rootEntity name cls types)).result >>= Entry.rootId? = some id)
    (fresh : id = session.store.next → registered = []) :
    Tells registered (Publication.on (session.publishes (.rootEntity name cls types)) id)
      (announcements (session.replyTo none (.rootEntity name cls types)).events) := by
  cases found : session.manager? name with
  | none => simp [replyTo, perform?, found, answer] at answered
  | some manager =>
    simp only [publishes, replyTo, perform?, found, Option.bind_eq_bind, Option.bind_some,
      Option.pure_def, Option.getD_some, Option.map_some, events_finish] at answered ⊢
    obtain ⟨next, root, done, same⟩ := exists_of_answerRoot answered
    subst same
    exact Store.tells_publishedByAsking done fresh

/-- An action publishes on no other root than the one that it addresses. -/
theorem addresses_of_publishes {action : Action} {publication : Publication}
    (published : publication ∈ session.publishes action) :
    session.addresses action = some publication.root := by
  cases action with
  | register rootName typeName =>
    cases named : session.root? rootName with
    | none => simp [publishes, named] at published
    | some target =>
      cases known : session.type? typeName with
      | none => simp [publishes, named, known] at published
      | some type =>
        simp only [publishes, named, known, Option.bind_eq_bind, Option.bind_some, Option.pure_def,
          Option.getD_some, Store.publishedByRegister_eq] at published
        split at published
        · rw [List.mem_singleton.mp published, addresses, named]
          rfl
        · cases published
  | registerDynamic rootName managerName cls =>
    cases named : session.root? rootName with
    | none => simp [publishes, named] at published
    | some target =>
      cases keeper : session.manager? managerName with
      | none => simp [publishes, named, keeper] at published
      | some manager =>
        simp only [publishes, named, keeper, Option.bind_eq_bind, Option.bind_some, Option.pure_def,
          Option.getD_some, Store.publishedByDynamic_eq] at published
        split at published
        · cases published
        · rw [List.mem_singleton.mp published, addresses, named]
          rfl
  | newRoot name cls types =>
    cases found : session.manager? name with
    | none => simp [publishes, found] at published
    | some manager =>
      simp only [publishes, found, Option.map_some, Option.getD_some] at published
      obtain ⟨next, root, done, same, _⟩ := Store.exists_of_mem_publishedByNew published
      simp only [addresses, replyTo, perform?, found, Option.bind_eq_bind, Option.bind_some,
        Option.pure_def, Option.getD_some, finish, done, same]
      rfl
  | rootEntity name cls types =>
    cases found : session.manager? name with
    | none => simp [publishes, found] at published
    | some manager =>
      simp only [publishes, found, Option.map_some, Option.getD_some] at published
      obtain ⟨next, root, done, same, _⟩ := Store.exists_of_mem_publishedByAsking published
      simp only [addresses, replyTo, perform?, found, Option.bind_eq_bind, Option.bind_some,
        Option.pure_def, Option.getD_some, finish, done, same]
      rfl
  | _ => cases published

variable {history : List Publication}

theorem tells_of_addresses (recorded : session.Recorded history) {action : Action} {id : Identity}
    (addressed : session.addresses action = some id) :
    Tells (Keyed.placeAll TypeEntity.discriminator (Publication.on history id) [])
      (Publication.on (session.publishes action) id)
      (announcements (session.replyTo none action).events) := by
  have registered {target : Root} (live : target ∈ session.store.roots) :=
    recorded.records.registries target live
  have unused : id = session.store.next →
      Keyed.placeAll TypeEntity.discriminator (Publication.on history id) [] = [] := by
    intro same
    rw [same, recorded.records.on_next]
    rfl
  cases action with
  | register rootName typeName =>
    obtain ⟨target, named, same⟩ := Option.map_eq_some_iff.mp addressed
    rw [← same, ← registered (mem_roots_of_root? named)]
    exact tells_register recorded.sound named none typeName
  | registerDynamic rootName managerName cls =>
    obtain ⟨target, named, same⟩ := Option.map_eq_some_iff.mp addressed
    rw [← same, ← registered (mem_roots_of_root? named)]
    exact tells_registerDynamic recorded.sound named none managerName cls
  | newRoot name cls types =>
    obtain ⟨same, tells⟩ := tells_newRoot addressed
    rw [unused same]
    exact tells
  | rootEntity name cls types => exact tells_rootEntity addressed unused
  | _ => cases addressed

theorem tells_of_request (recorded : session.Recorded history) (request : Request)
    (root : Identity) :
    Tells (Keyed.placeAll TypeEntity.discriminator (Publication.on history root) [])
      (Publication.on (session.publishes request.action) root) (session.tellsOf request root) := by
  unfold tellsOf
  by_cases addressed : session.addresses request.action = some root
  · rw [if_pos addressed, announced_of_onStore (onStore_of_addresses addressed)]
    exact tells_of_addresses recorded addressed
  · have elsewhere : Publication.on (session.publishes request.action) root = [] := by
      apply Publication.on_eq_nil
      intro publication published same
      exact addressed (same ▸ addresses_of_publishes published)
    rw [if_neg addressed, elsewhere]
    exact .done _

/-- What requests publish on a root is what they tell of it. -/
theorem tells_of_requests (recorded : session.Recorded history) (requests : List Request)
    (root : Identity) :
    Tells (Keyed.placeAll TypeEntity.discriminator (Publication.on history root) [])
      (Publication.on (session.published requests) root) (session.told root requests) := by
  induction requests generalizing session history with
  | nil => exact .done _
  | cons request rest ih =>
    have later := ih (recorded.run request)
    rw [Publication.on_append, Keyed.placeAll_append] at later
    rw [published, told, Publication.on_append]
    exact (tells_of_request recorded request root).append later

end

end Session

/-! ### Actions that announce nothing -/

namespace Session

variable {session : Session}

theorem silent_decodeThrough (holder : Holder) (row : Option Row) (tag : Tag) (keys : KeyValues) :
    (session.decodeThrough holder row tag keys).Silent := by
  cases holder with
  | root root =>
    cases tag with
    | discovered => exact root.silent_decode row keys
    | known discriminator => exact root.silent_decodeAs row discriminator keys
  | type type =>
    cases tag with
    | discovered => exact type.silent_decode _ row keys
    | known discriminator => exact type.silent_decodeAs _ row discriminator keys

theorem IdleReply.announcements {reply : Reply} (idle : session.IdleReply reply) :
    TypedRows.announcements reply.events = [] := by
  cases idle with
  | answers | results => rfl
  | tries =>
    rw [finishExcept, events_finish]
    rfl
  | decodes holder row tag keys =>
    rw [events_finish]
    exact silent_decodeThrough holder row tag keys

/-! ### Whole runs -/

/-- What a request announces. -/
structure Informs (session : Session) (request : Request) : Prop where
  /-- A registration announces its one type. -/
  registered : ∀ root type, session.Registers root request.action type →
    ∃ event, session.announced request = [event] ∧ Root.Announces root.types type event
  /-- A registration that fails announces nothing. -/
  refused : ∀ fault, request.action.isRegistration = true →
    (session.run request).1 = .failed fault → session.announced request = []
  /-- Building a root announces the static types up to the one that fails. -/
  built : ∀ name cls types, request.action = .newRoot name cls types →
    ∀ manager, session.manager? name = some manager →
      Tells [] (accepted manager.settings session.store.next cls types) (session.announced request)
  /-- Asking for a root that is not kept yet builds it. -/
  asked : ∀ name cls types, request.action = .rootEntity name cls types →
    ∀ manager, session.manager? name = some manager →
      session.store.findRoot? manager cls.path = none →
        Tells [] (accepted manager.settings session.store.next cls types)
          (session.announced request)
  kept : ∀ name cls types, request.action = .rootEntity name cls types →
    ∀ manager, session.manager? name = some manager →
      ∀ root, session.store.findRoot? manager cls.path = some root →
        session.announced request = []
  /-- Nothing else announces a type. -/
  idle : request.action.onStore = false → session.announced request = []

theorem announced_of_registers (sound : session.Sound) {root : Root} {request : Request}
    {type : TypeEntity} (registers : session.Registers root request.action type) :
    ∃ event, session.announced request = [event] ∧ Root.Announces root.types type event := by
  have published := publishes_of_registers registers
  have visible : Publication.on (session.publishes request.action) root.id = [type] := by
    rw [published]
    exact Publication.on_map_self [type] root.id
  have tells : Tells root.types [type] (session.announced request) := by
    obtain ⟨action, keepAs⟩ := request
    rw [← visible]
    cases registers with
    | given named known belongs => exact tells_register sound named none _
    | introduced named keeper accepted => exact tells_registerDynamic sound named none _ _
  generalize session.announced request = events at tells ⊢
  cases tells with
  | publish announces later =>
    cases later.eq_nil
    exact ⟨_, rfl, announces⟩

theorem announced_of_failed {request : Request} {fault : Fault}
    (registration : request.action.isRegistration = true)
    (failed : (session.run request).1 = .failed fault) : session.announced request = [] := by
  obtain ⟨action, keepAs⟩ := request
  cases action with
  | register rootName typeName =>
    change (session.replyTo none (.register rootName typeName)).answer = _ at failed
    change announcements (session.replyTo none (.register rootName typeName)).events = []
    cases named : session.root? rootName with
    | none => simp [replyTo, perform?, named, answer] at failed
    | some target =>
      cases known : session.type? typeName with
      | none => simp [replyTo, perform?, named, known, answer] at failed
      | some type =>
        simp only [replyTo, perform?, named, known, Option.bind_eq_bind, Option.bind_some,
          Option.pure_def, Option.getD_some, events_finish, Store.announcements_register]
          at failed ⊢
        apply if_neg
        intro belongs
        have done := (Store.register_result_eq_ok_iff session.store target type _ _).mpr
          ⟨belongs, rfl, rfl⟩
        rw [finish, done] at failed
        cases failed
  | registerDynamic rootName managerName cls =>
    change (session.replyTo none (.registerDynamic rootName managerName cls)).answer = _ at failed
    change announcements (session.replyTo none (.registerDynamic rootName managerName cls)).events =
      []
    cases named : session.root? rootName with
    | none => simp [replyTo, perform?, named, answer] at failed
    | some target =>
      cases keeper : session.manager? managerName with
      | none => simp [replyTo, perform?, named, keeper, answer] at failed
      | some manager =>
        simp only [replyTo, perform?, named, keeper, Option.bind_eq_bind, Option.bind_some,
          Option.pure_def, Option.getD_some, events_finish, Store.events_registerDynamic]
          at failed ⊢
        cases outcome : (TypeEntity.validate manager.settings session.store.next target.id
          target.cls cls true).result with
        | error cause => exact Root.announcements_introduce_of_error outcome
        | ok type =>
          have done := (Store.registerDynamic_result_eq_ok_iff session.store target manager cls _
            type).mpr ⟨outcome, rfl⟩
          rw [finish, done] at failed
          cases failed
  | _ => cases registration

/-- Whatever the session, what a request announces is decided by what it does. -/
theorem Sound.informs (sound : session.Sound) (request : Request) : session.Informs request where
  registered root type registers := announced_of_registers sound registers
  refused fault registration failed := announced_of_failed registration failed
  built name cls types same manager found := by
    obtain ⟨action, keepAs⟩ := request
    cases same
    rw [announced_of_onStore rfl]
    simp only [replyTo, perform?, found, Option.bind_eq_bind, Option.bind_some, Option.pure_def,
      Option.getD_some, events_finish, Store.events_newRoot]
    exact Root.tells_build _ _ _ _
  asked name cls types same manager found absent := by
    obtain ⟨action, keepAs⟩ := request
    cases same
    rw [announced_of_onStore rfl]
    simp only [replyTo, perform?, found, Option.bind_eq_bind, Option.bind_some, Option.pure_def,
      Option.getD_some, events_finish, Store.announcements_rootEntity_of_absent absent,
      Store.events_newRoot]
    exact Root.tells_build _ _ _ _
  kept name cls types same manager found root there := by
    obtain ⟨action, keepAs⟩ := request
    cases same
    rw [announced_of_onStore rfl]
    simp only [replyTo, perform?, found, Option.bind_eq_bind, Option.bind_some, Option.pure_def,
      Option.getD_some, events_finish, Store.rootEntity, there]
    rfl
  idle quiet := by
    have replied : (session.run request).2.1 =
        (((request.action.takes?.map session.forget).getD session).replyTo
          (request.action.takes? >>= session.find?) request.action).events := rfl
    rw [announced, replied, replyTo]
    cases performed : ((request.action.takes?.map session.forget).getD session).perform?
      (request.action.takes? >>= session.find?) request.action with
    | none => rfl
    | some reply => exact (idleReply_of_perform? quiet performed).announcements

end Session

/-- What was announced of the types that were published on a root. -/
structure Root.Announced (root : Root) (published : List TypeEntity) (told : List Event) :
    Prop where
  /-- There is one event for each publication. It is a collision exactly if another type was
  registered under the discriminator just before. -/
  tells : Tells [] published told
  registry : root.types = Keyed.placeAll TypeEntity.discriminator published []
  own : ∀ type ∈ published, type.rootId = root.id ∧ type.rootPath = root.path
  /-- Types are told apart by their identities. -/
  distinct : ∀ first ∈ published, ∀ second ∈ published, first.id = second.id → first = second
  /-- What was published is registered, or has replaced another type, or has repeated itself. -/
  conserved : published.length =
    root.types.length + told.countP (·.level = .warn) + Root.repetitions [] published
  /-- That was so at every point on the way. -/
  throughout : ∀ count, (published.take count).length =
    (Keyed.placeAll TypeEntity.discriminator (published.take count) []).length +
      (told.take count).countP (·.level = .warn) + Root.repetitions [] (published.take count)

namespace Session

/-- Whatever is requested, every publication on a live root was announced once, as a collision
exactly if another type gave way to it; and whatever is requested next, a registration that fails
announces nothing. -/
theorem announced_of_requested (requests : List Request) :
    (∀ root ∈ (({} : Session).after requests).store.roots,
      root.Announced (Publication.on (({} : Session).published requests) root.id)
        (({} : Session).told root.id requests)) ∧
    ∀ request, (({} : Session).after requests).Informs request := by
  have recorded := recorded_after requests
  have tracks := tracks_of_requested requests
  have started : ({} : Session).Recorded [] := recorded_after []
  refine ⟨?_, recorded.sound.informs⟩
  intro root live
  have tells := tells_of_requests started requests root.id
  have registry := recorded.records.registries root live
  have throughout (count : Nat) := (tells.take count).conserves List.Pairwise.nil
  simp only [List.length_nil, Nat.zero_add] at throughout
  refine ⟨tells, registry, ?_, ?_, ?_, throughout⟩
  · intro type published
    have member := Publication.mem_on_iff.mp published
    have belongs : type.rootId = root.id := (recorded.records.genuine _ member).belongs
    obtain ⟨_, valid⟩ := tracks.admitted _ member
    exact ⟨belongs, (valid root live belongs.symm).rootPath_eq⟩
  · intro first published second otherPublished
    exact tracks.distinct _ (Publication.mem_on_iff.mp published) _
      (Publication.mem_on_iff.mp otherPublished)
  · have whole := tells.conserves List.Pairwise.nil
    rw [List.length_nil, Nat.zero_add] at whole
    rw [registry]
    exact whole

end Session

namespace Menagerie

/-- Dogs give way to hounds, are published again, and then once more. -/
def insistent : List Request := contested ++ [⟨.register "animals" "dogs", none⟩]

/-- The animals themselves cannot join their root. -/
def refusedAnimal : Request := ⟨.registerDynamic "animals" "manager" animal, none⟩

end Menagerie

/-- Of six publications, three types are registered, two have replaced another one, and the last has
repeated itself. -/
theorem Session.announced_of_requested_dogs :
    let session := ({} : Session).after Menagerie.insistent
    (∃ root ∈ session.store.roots, root.types.length = 3 ∧
      (({} : Session).told root.id Menagerie.insistent).countP (·.level = .warn) = 2 ∧
      (Publication.on (({} : Session).published Menagerie.insistent) root.id).length = 6) ∧
    session.announced Menagerie.refusedAnimal = [] := by
  intro session
  obtain ⟨announced, informs⟩ := announced_of_requested Menagerie.insistent
  have present : session.store.roots ≠ [] := by decide
  have live := List.head_mem present
  have repeated : Root.repetitions []
      (Publication.on (({} : Session).published Menagerie.insistent)
        (session.store.roots.head present).id) = 1 := rfl
  have collided : (({} : Session).told (session.store.roots.head present).id
      Menagerie.insistent).countP (·.level = .warn) = 2 := rfl
  have registered : (session.store.roots.head present).types.length = 3 := rfl
  refine ⟨⟨_, live, registered, collided, ?_⟩, (informs _).refused _ rfl rfl⟩
  rw [(announced _ live).conserved, registered, collided, repeated]

end TypedRows
