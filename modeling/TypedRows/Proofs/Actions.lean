import TypedRows.Proofs.Registration
import TypedRows.Session.Run

/-! What one action does to a session. Five actions work on the store, and they say which types they
publish; every other action leaves the session alone. The result of an action holds on to no type
but those that a name holds or a root has registered. -/
namespace TypedRows

/-- The type entity that an entry holds on to. -/
def Entry.held? : Entry → Option TypeEntity
  | .type found => some found
  | .context found => some found.type
  | _ => none

theorem TypeEntity.type_of_wrap {type : TypeEntity} {object : Object} {context : Context}
    (wrapped : type.wrap object = .ok context) : context.type = type ∧ context.object = object := by
  unfold TypeEntity.wrap at wrapped
  by_cases same : object.classPath = type.path
  · rw [dif_pos same] at wrapped
    cases wrapped
    exact ⟨rfl, rfl⟩
  · rw [dif_neg same] at wrapped
    cases wrapped

theorem Root.wrap_eq_ok_iff (root : Root) (object : Object) (context : Context) :
    root.wrap object = .ok context ↔
      root.typeForClass? object.classPath = some context.type ∧ context.object = object := by
  simp only [Root.wrap, bind_eq_ok_iff, required_eq_ok_iff]
  constructor
  · intro ⟨type, found, wrapped⟩
    obtain ⟨rfl, same⟩ := TypeEntity.type_of_wrap wrapped
    exact ⟨found, same⟩
  · intro ⟨found, same⟩
    obtain ⟨type, held, samePath⟩ := context
    cases same
    exact ⟨type, found, dif_pos samePath⟩

/-- A type that was published on the root of an identity. -/
structure Publication where
  root : Identity
  type : TypeEntity

/-- The types that validation makes of statically declared classes, under the identities from `next`
on, up to the first class that fails. -/
def TypeEntity.declared (settings : Settings) (next rootId : Identity) (root : Class) :
    List Class → List TypeEntity
  | [] => []
  | cls :: rest =>
    match (validate settings next rootId root cls false).result with
    | .error _ => []
    | .ok type => type :: declared settings (next + 1) rootId root rest

namespace Store

/-- What building a root publishes on it; nothing if it fails. -/
def publishedByNew (store : Store) (manager : Manager) (cls : Class) (types : List Class) :
    List Publication :=
  match (store.newRoot manager cls types).result with
  | .error _ => []
  | .ok (_, root) =>
    (TypeEntity.declared manager.settings (root.id + 1) root.id root.cls types).map (⟨root.id, ·⟩)

/-- What asking a manager for a root publishes; nothing if the manager keeps the root already. -/
def publishedByAsking (store : Store) (manager : Manager) (cls : Class) (types : List Class) :
    List Publication :=
  match store.findRoot? manager cls.path with
  | some _ => []
  | none => store.publishedByNew manager cls types

def publishedByDynamic (store : Store) (root : Root) (manager : Manager) (cls : Class) :
    List Publication :=
  match (store.registerDynamic root manager cls).result with
  | .error _ => []
  | .ok (_, type) => [⟨root.id, type⟩]

def publishedByRegister (store : Store) (root : Root) (type : TypeEntity) : List Publication :=
  match (store.register root type).result with
  | .error _ => []
  | .ok _ => [⟨root.id, type⟩]

theorem publishedByNew_of_error {store : Store} {manager : Manager} {cls : Class}
    {types : List Class} {cause : ModelError}
    (failed : (store.newRoot manager cls types).result = .error cause) :
    store.publishedByNew manager cls types = [] := by
  rw [publishedByNew, failed]

theorem publishedByAsking_of_kept {store : Store} {manager : Manager} {cls : Class} {root : Root}
    (kept : store.findRoot? manager cls.path = some root) (types : List Class) :
    store.publishedByAsking manager cls types = [] := by
  rw [publishedByAsking, kept]

theorem publishedByAsking_of_absent {store : Store} {manager : Manager} {cls : Class}
    (absent : store.findRoot? manager cls.path = none) (types : List Class) :
    store.publishedByAsking manager cls types = store.publishedByNew manager cls types := by
  rw [publishedByAsking, absent]

theorem publishedByAsking_of_error {store : Store} {manager : Manager} {cls : Class}
    {types : List Class} {cause : ModelError}
    (failed : (store.rootEntity manager cls types).result = .error cause) :
    store.publishedByAsking manager cls types = [] := by
  cases kept : store.findRoot? manager cls.path with
  | some root => exact publishedByAsking_of_kept kept types
  | none =>
    rw [publishedByAsking_of_absent kept]
    rw [rootEntity, kept, Traced.result_bind, bind_eq_error_iff] at failed
    rcases failed with unbuilt | ⟨_, _, published⟩
    · exact publishedByNew_of_error unbuilt
    · cases published

theorem mem_roots_putRoot {store : Store} {root grown : Root} (live : root ∈ store.roots)
    (same : grown.id = root.id) : grown ∈ (store.putRoot grown).roots :=
  List.mem_map.mpr ⟨root, live, by simp [same]⟩

theorem exists_registered_of_registerDynamic {store next : Store} {root : Root} {manager : Manager}
    {cls : Class} {type : TypeEntity} (live : root ∈ store.roots)
    (done : (store.registerDynamic root manager cls).result = .ok (next, type)) :
    ∃ grown ∈ next.roots, type ∈ grown.types := by
  obtain ⟨_, rfl⟩ := (registerDynamic_result_eq_ok_iff _ _ _ _ _ _).mp done
  exact ⟨_, mem_roots_putRoot live rfl, Keyed.mem_place_self _ _ _⟩

end Store

/-- Whether an action is on the store. Every other action leaves the session alone. -/
def Action.onStore : Action → Bool
  | .addManager _ | .rootEntity .. | .newRoot .. | .registerDynamic .. | .register .. => true
  | _ => false

namespace Session

/-- What an action publishes, in order; nothing if it fails. -/
def publishes (session : Session) : Action → List Publication
  | .rootEntity manager cls types =>
    ((session.manager? manager).map (session.store.publishedByAsking · cls types)).getD []
  | .newRoot manager cls types =>
    ((session.manager? manager).map (session.store.publishedByNew · cls types)).getD []
  | .registerDynamic root manager cls => (do
    let root ← session.root? root
    let manager ← session.manager? manager
    return session.store.publishedByDynamic root manager cls).getD []
  | .register root type => (do
    let root ← session.root? root
    let type ← session.type? type
    return session.store.publishedByRegister root type).getD []
  | _ => []

/-- A name holds on to the type. -/
def Holds (session : Session) (type : TypeEntity) : Prop :=
  ∃ entry ∈ session.entries, entry.2.held? = some type

/-- A name holds on to the type, or a live root has it registered. -/
def Knows (session : Session) (type : TypeEntity) : Prop :=
  session.Holds type ∨ ∃ root ∈ session.store.roots, type ∈ root.types

/-- How the store of a session can change in one action, with what is published by that. -/
inductive Evolves (session : Session) : List Publication → Store → Prop where
  | stays : session.Evolves [] session.store
  | manages (settings : Settings) : session.Evolves [] (session.store.addManager settings).1
  | asks {manager : Manager} {cls : Class} {types : List Class} {store : Store} {root : Root}
      (done : (session.store.rootEntity manager cls types).result = .ok (store, root)) :
      session.Evolves (session.store.publishedByAsking manager cls types) store
  | builds {manager : Manager} {cls : Class} {types : List Class} {store : Store} {root : Root}
      (done : (session.store.newRoot manager cls types).result = .ok (store, root)) :
      session.Evolves (session.store.publishedByNew manager cls types) store
  | introduces {root : Root} {manager : Manager} {cls : Class} {store : Store} {type : TypeEntity}
      (live : root ∈ session.store.roots)
      (done : (session.store.registerDynamic root manager cls).result = .ok (store, type)) :
      session.Evolves [⟨root.id, type⟩] store
  | registers {root grown : Root} {store : Store} {type : TypeEntity}
      (live : root ∈ session.store.roots) (held : session.Holds type)
      (done : (session.store.register root type).result = .ok (store, grown)) :
      session.Evolves [⟨root.id, type⟩] store

/-- The reply to an action, also where a name stands for nothing of the right sort. -/
def replyTo (session : Session) (taken : Option Entry) (action : Action) : Reply :=
  (session.perform? taken action).getD (session.answer .noHandle)

/-- What comes of an action: the names stay, the store evolves, and the result holds on to no type
that is not known by then. -/
structure Performs (session : Session) (action : Action) (reply : Reply) : Prop where
  entries : reply.session.entries = session.entries
  store : session.Evolves (session.publishes action) reply.session.store
  result : ∀ entry, reply.result = some entry → ∀ type, entry.held? = some type →
    reply.session.Knows type

/-- A reply that leaves the session alone and holds on to no type that the session does not know. -/
structure Quiet (session : Session) (reply : Reply) : Prop where
  session_eq : reply.session = session
  result : ∀ entry, reply.result = some entry → ∀ type, entry.held? = some type →
    session.Knows type

/-- How an action that is not on the store is replied to: at once, after something that can fail, or
by decoding a row, which is all of it that records events. -/
inductive IdleReply (session : Session) : Reply → Prop where
  | answers (answer : Answer) : session.IdleReply (session.answer answer)
  | results (answer : Answer) {entry : Entry}
      (known : ∀ type, entry.held? = some type → session.Knows type) :
      session.IdleReply (session.answerWith answer entry)
  | tries {ε α : Type} {toFault : ε → Fault} {result : Except ε α} {next : α → Reply}
      (quiet : ∀ a, result = .ok a → session.Quiet (next a)) :
      session.IdleReply (session.finishExcept toFault result next)
  | decodes (holder : Holder) (row : Option Row) (tag : Tag) (keys : KeyValues)
      (shape : Option Shape) :
      session.IdleReply (session.finish id (session.decodeThrough holder row tag keys)
        (session.answerResolved shape))

section

variable {session : Session}

theorem mem_roots_of_root? {name : String} {root : Root} (found : session.root? name = some root) :
    root ∈ session.store.roots := by
  obtain ⟨id, _, search⟩ := Option.bind_eq_some_iff.mp found
  exact Store.mem_roots_of_root? search

theorem holds_of_find? {name : String} {entry : Entry} {type : TypeEntity}
    (found : session.find? name = some entry) (held : entry.held? = some type) :
    session.Holds type := by
  obtain ⟨named, search, rfl⟩ := Option.map_eq_some_iff.mp found
  exact ⟨named, List.mem_of_find?_eq_some search, held⟩

theorem holds_of_type? {name : String} {type : TypeEntity}
    (found : session.type? name = some type) : session.Holds type := by
  obtain ⟨entry, search, isType⟩ := Option.bind_eq_some_iff.mp found
  cases entry with
  | type known =>
    cases isType
    exact holds_of_find? search rfl
  | _ => cases isType

theorem holds_of_context? {name : String} {context : Context}
    (found : session.context? name = some context) : session.Holds context.type := by
  obtain ⟨entry, search, isContext⟩ := Option.bind_eq_some_iff.mp found
  cases entry with
  | context known =>
    cases isContext
    exact holds_of_find? search rfl
  | _ => cases isContext

theorem knows_of_registered {root : Root} {type : TypeEntity} (live : root ∈ session.store.roots)
    (registered : type ∈ root.types) : session.Knows type := .inr ⟨root, live, registered⟩

theorem knows_of_wrap {name : String} {holder : Holder} {object : Object} {context : Context}
    (found : session.holder? name = some holder) (wrapped : holder.wrap object = .ok context) :
    session.Knows context.type := by
  unfold Session.holder? at found
  cases named : session.root? name with
  | some root =>
    rw [named] at found
    cases found
    have registered := ((Root.wrap_eq_ok_iff _ _ _).mp wrapped).1
    exact knows_of_registered (mem_roots_of_root? named) (List.mem_of_find?_eq_some registered)
  | none =>
    rw [named] at found
    obtain ⟨type, known, rfl⟩ := Option.map_eq_some_iff.mp found
    obtain ⟨rfl, _⟩ := TypeEntity.type_of_wrap wrapped
    exact .inl (holds_of_type? known)

theorem quiet_answer (answer : Answer) : session.Quiet (session.answer answer) :=
  ⟨rfl, by simp [Session.answer]⟩

theorem quiet_answerWith (answer : Answer) {entry : Entry}
    (known : ∀ type, entry.held? = some type → session.Knows type) :
    session.Quiet (session.answerWith answer entry) := by
  refine ⟨rfl, ?_⟩
  intro kept same
  cases same
  exact known

/-- What holds of the session after a failure, which changes nothing, and after a success holds
either way. -/
theorem session_of_finish {ε α : Type} {toFault : ε → Fault} {traced : Traced ε α}
    {next : α → Reply} (holds : Session → Prop)
    (failed : ∀ cause, traced.result = .error cause → holds session)
    (done : ∀ a, traced.result = .ok a → holds (next a).session) :
    holds (session.finish toFault traced next).session := by
  unfold Session.finish
  cases outcome : traced.result with
  | error cause => exact failed cause outcome
  | ok a => exact done a outcome

/-- A failure changes nothing, so only what follows a success has to be looked at. -/
theorem quiet_finish {ε α : Type} {toFault : ε → Fault} {traced : Traced ε α} {next : α → Reply}
    (quiet : ∀ a, traced.result = .ok a → session.Quiet (next a)) :
    session.Quiet (session.finish toFault traced next) := by
  unfold Session.finish
  cases outcome : traced.result with
  | error cause => exact ⟨rfl, by simp⟩
  | ok a =>
    obtain ⟨same, result⟩ := quiet a outcome
    exact ⟨same, result⟩

theorem quiet_answerResolved (shape : Option Shape) (outcome : Resolved) :
    session.Quiet (session.answerResolved shape outcome) := by
  cases shape with
  | some shape => exact quiet_answer _
  | none =>
    refine ⟨rfl, ?_⟩
    intro entry resulted
    obtain ⟨object, _, rfl⟩ := Option.map_eq_some_iff.mp resulted
    simp [Entry.held?]

variable {action : Action}

theorem Quiet.performs {reply : Reply} (quiet : session.Quiet reply)
    (silent : session.publishes action = []) : session.Performs action reply := by
  obtain ⟨same, result⟩ := quiet
  refine ⟨congrArg Session.entries same, ?_, ?_⟩
  · rw [same, silent]
    exact .stays
  · rw [same]
    exact result

theorem performs_answerWith {store : Store} (answer : Answer) {entry : Entry}
    (evolves : session.Evolves (session.publishes action) store)
    (known : ∀ type, entry.held? = some type → Knows { session with store } type) :
    session.Performs action ({ session with store }.answerWith answer entry) := by
  refine ⟨rfl, evolves, ?_⟩
  intro kept same
  cases same
  exact known

/-- An operation on the store publishes nothing if it fails, and evolves the store if it does not. -/
theorem performs_finish {ε α : Type} {toFault : ε → Fault} {traced : Traced ε α} {next : α → Reply}
    (failed : ∀ cause, traced.result = .error cause → session.publishes action = [])
    (done : ∀ a, traced.result = .ok a → session.Performs action (next a)) :
    session.Performs action (session.finish toFault traced next) := by
  unfold Session.finish
  cases outcome : traced.result with
  | error cause => exact Quiet.performs ⟨rfl, by simp⟩ (failed cause outcome)
  | ok a =>
    obtain ⟨entries, store, result⟩ := done a outcome
    exact ⟨entries, store, result⟩

theorem IdleReply.root (root : Root) : session.IdleReply (session.answerRoot root) :=
  .results _ (by simp [Entry.held?])

theorem IdleReply.type {type : TypeEntity} (known : session.Knows type) :
    session.IdleReply (session.answerType type) := by
  refine .results _ ?_
  intro held same
  cases same
  exact known

theorem IdleReply.quiet {reply : Reply} (idle : session.IdleReply reply) :
    session.Quiet reply := by
  cases idle with
  | answers answer => exact quiet_answer answer
  | results answer known => exact quiet_answerWith answer known
  | tries quiet => exact quiet_finish quiet
  | decodes holder row tag keys shape =>
    exact quiet_finish fun outcome _ => quiet_answerResolved shape outcome

/-- Every action that is not on the store is replied to in one of these ways. -/
theorem idleReply_of_perform? {taken : Option Entry} {reply : Reply} (idle : action.onStore = false)
    (performed : session.perform? taken action = some reply) : session.IdleReply reply := by
  cases action with
  | addManager _ | rootEntity _ _ _ | newRoot _ _ _ | registerDynamic _ _ _ | register _ _ =>
    cases idle
  | lookup root discriminator =>
    obtain ⟨root, found, same⟩ := Option.bind_eq_some_iff.mp performed
    cases same
    refine .tries ?_
    intro type looked
    have registered := (required_eq_ok_iff _ _ _).mp looked
    exact (IdleReply.type (knows_of_registered (mem_roots_of_root? found)
      (List.mem_of_find?_eq_some registered))).quiet
  | typeForClass root path =>
    obtain ⟨root, found, same⟩ := Option.bind_eq_some_iff.mp performed
    cases same
    cases registered : root.typeForClass? path with
    | none => exact .answers _
    | some type =>
      exact .type (knows_of_registered (mem_roots_of_root? found)
        (List.mem_of_find?_eq_some registered))
  | findRoot manager path =>
    obtain ⟨manager, _, same⟩ := Option.bind_eq_some_iff.mp performed
    cases same
    cases session.store.findRoot? manager path with
    | none => exact .answers _
    | some root => exact .root root
  | rootOf type =>
    obtain ⟨type, _, same⟩ := Option.bind_eq_some_iff.mp performed
    cases same
    cases session.store.rootOf? type with
    | none => exact .answers _
    | some root => exact .root root
  | contextType context =>
    obtain ⟨context, found, same⟩ := Option.bind_eq_some_iff.mp performed
    cases same
    exact .type (.inl (holds_of_context? found))
  | wrap holder object =>
    obtain ⟨holder, found, rest⟩ := Option.bind_eq_some_iff.mp performed
    obtain ⟨object, _, same⟩ := Option.bind_eq_some_iff.mp rest
    cases same
    refine .tries ?_
    intro context wrapped
    refine quiet_answerWith _ ?_
    intro type same
    cases same
    exact knows_of_wrap found wrapped
  | types _ | roots _ | report _ | type _ | render _ | describe _ | contextObject _ =>
    obtain ⟨_, _, same⟩ := Option.bind_eq_some_iff.mp performed
    cases same
    exact .answers _
  | resolveKeyspace _ _ | contextKeys _ | contextKeyspace _ | contextColumns _ _
  | contextPrimaryKey _ _ =>
    obtain ⟨_, _, same⟩ := Option.bind_eq_some_iff.mp performed
    cases same
    exact .tries fun _ _ => quiet_answer _
  | contextRow context table =>
    obtain ⟨context, _, same⟩ := Option.bind_eq_some_iff.mp performed
    cases same
    refine .tries fun _ _ => quiet_answerWith _ ?_
    simp [Entry.held?]
  | snapshot holder =>
    obtain ⟨holder, _, same⟩ := Option.bind_eq_some_iff.mp performed
    cases holder <;> cases same <;> exact .answers _
  | table holder name columns =>
    obtain ⟨holder, _, same⟩ := Option.bind_eq_some_iff.mp performed
    cases same
    cases holder.entity.table? name <;> exact .answers _
  | same first second =>
    obtain ⟨_, _, rest⟩ := Option.bind_eq_some_iff.mp performed
    obtain ⟨_, _, same⟩ := Option.bind_eq_some_iff.mp rest
    cases same
    exact .answers _
  | decodePlain holder row keys =>
    obtain ⟨holder, _, rest⟩ := Option.bind_eq_some_iff.mp performed
    obtain ⟨row, _, same⟩ := Option.bind_eq_some_iff.mp rest
    cases row with
    | none => cases same
    | some row =>
      cases same
      exact .tries fun _ _ => quiet_answer _
  | decode holder row tag keys shape =>
    obtain ⟨holder, _, rest⟩ := Option.bind_eq_some_iff.mp performed
    obtain ⟨row, _, same⟩ := Option.bind_eq_some_iff.mp rest
    cases same
    exact .decodes holder row tag keys shape
  | unwrap context =>
    obtain ⟨context, _, same⟩ := Option.bind_eq_some_iff.mp performed
    cases same
    exact .results _ (by simp [Entry.held?])
  | row source =>
    obtain ⟨row, _, same⟩ := Option.bind_eq_some_iff.mp performed
    cases row with
    | none => cases same
    | some row =>
      cases same
      exact .results _ (by simp [Entry.held?])
  | forget name =>
    cases performed
    exact .answers _

theorem quiet_of_perform? {taken : Option Entry} {reply : Reply} (idle : action.onStore = false)
    (performed : session.perform? taken action = some reply) : session.Quiet reply :=
  (idleReply_of_perform? idle performed).quiet

/-- Every action keeps the names, evolves the store as it says, and results in what is known. -/
theorem performs_of_perform? {taken : Option Entry} {reply : Reply}
    (performed : session.perform? taken action = some reply) : session.Performs action reply := by
  cases action with
  | addManager source =>
    cases performed
    refine performs_finish (fun _ _ => rfl) ?_
    intro settings _
    exact performs_answerWith _ (.manages settings) (by simp [Entry.held?])
  | rootEntity name cls types =>
    obtain ⟨manager, found, same⟩ := Option.bind_eq_some_iff.mp performed
    cases same
    have published : session.publishes (.rootEntity name cls types) =
        session.store.publishedByAsking manager cls types := by
      simp [publishes, found]
    apply performs_finish
    · intro cause failed
      rw [published, Store.publishedByAsking_of_error failed]
    · intro ⟨store, root⟩ done
      exact performs_answerWith _ (published ▸ .asks done) (by simp [Entry.held?])
  | newRoot name cls types =>
    obtain ⟨manager, found, same⟩ := Option.bind_eq_some_iff.mp performed
    cases same
    have published : session.publishes (.newRoot name cls types) =
        session.store.publishedByNew manager cls types := by
      simp [publishes, found]
    apply performs_finish
    · intro cause failed
      rw [published, Store.publishedByNew_of_error failed]
    · intro ⟨store, root⟩ done
      exact performs_answerWith _ (published ▸ .builds done) (by simp [Entry.held?])
  | registerDynamic rootName managerName cls =>
    obtain ⟨root, found, rest⟩ := Option.bind_eq_some_iff.mp performed
    obtain ⟨manager, keeper, same⟩ := Option.bind_eq_some_iff.mp rest
    cases same
    have published : session.publishes (.registerDynamic rootName managerName cls) =
        session.store.publishedByDynamic root manager cls := by
      simp [publishes, found, keeper]
    apply performs_finish
    · intro cause failed
      rw [published, Store.publishedByDynamic, failed]
    · intro ⟨store, type⟩ done
      have live := mem_roots_of_root? found
      have known : Knows { session with store } type :=
        .inr (Store.exists_registered_of_registerDynamic live done)
      refine performs_answerWith _ ?_ ?_
      · rw [published, Store.publishedByDynamic, done]
        exact .introduces live done
      · intro held same
        cases same
        exact known
  | register rootName typeName =>
    obtain ⟨root, found, rest⟩ := Option.bind_eq_some_iff.mp performed
    obtain ⟨type, named, same⟩ := Option.bind_eq_some_iff.mp rest
    cases same
    have published : session.publishes (.register rootName typeName) =
        session.store.publishedByRegister root type := by
      simp [publishes, found, named]
    apply performs_finish
    · intro cause failed
      rw [published, Store.publishedByRegister, failed]
    · intro ⟨store, grown⟩ done
      refine ⟨rfl, ?_, by simp [Session.answer]⟩
      rw [published, Store.publishedByRegister, done]
      exact .registers (mem_roots_of_root? found) (holds_of_type? named) done
  | _ => exact Quiet.performs (quiet_of_perform? rfl performed) rfl

/-- An action that names something of the wrong sort publishes nothing. -/
theorem publishes_eq_nil_of_perform? {taken : Option Entry}
    (unperformed : session.perform? taken action = none) : session.publishes action = [] := by
  cases action with
  | rootEntity name cls types =>
    cases found : session.manager? name with
    | none => simp [publishes, found]
    | some manager => simp [perform?, found] at unperformed
  | newRoot name cls types =>
    cases found : session.manager? name with
    | none => simp [publishes, found]
    | some manager => simp [perform?, found] at unperformed
  | registerDynamic rootName managerName cls =>
    cases found : session.root? rootName with
    | none => simp [publishes, found]
    | some root =>
      cases keeper : session.manager? managerName with
      | none => simp [publishes, found, keeper]
      | some manager => simp [perform?, found, keeper] at unperformed
  | register rootName typeName =>
    cases found : session.root? rootName with
    | none => simp [publishes, found]
    | some root =>
      cases named : session.type? typeName with
      | none => simp [publishes, found, named]
      | some type => simp [perform?, found, named] at unperformed
  | _ => rfl

/-- Whether the names stand for something of the right sort or not, the reply is one of the action. -/
theorem performs_replyTo (taken : Option Entry) (action : Action) :
    session.Performs action (session.replyTo taken action) := by
  unfold replyTo
  cases performed : session.perform? taken action with
  | none => exact Quiet.performs (quiet_answer _) (publishes_eq_nil_of_perform? performed)
  | some reply => exact performs_of_perform? performed

end

/-- A request opens the session, where an action that takes a name out forgets that name; it performs
its action, may keep the result, and settles. -/
theorem exists_replyTo_run (session : Session) (request : Request) :
    ∃ opened taken, (opened = session ∨ ∃ name, opened = session.forget name) ∧
      (request.action.onStore = true → opened = session) ∧
      ((session.run request).2.2 = (opened.replyTo taken request.action).session.settle ∨
        ∃ name entry, (opened.replyTo taken request.action).result = some entry ∧
          (session.run request).2.2 =
            ((opened.replyTo taken request.action).session.keep name entry).settle) := by
  obtain ⟨action, keepAs⟩ := request
  refine ⟨(action.takes?.map session.forget).getD session, action.takes? >>= session.find?,
    ?_, ?_, ?_⟩
  · cases action.takes? with
    | none => exact .inl rfl
    | some name => exact .inr ⟨name, rfl⟩
  · intro onStore
    cases action with
    | addManager _ | rootEntity _ _ _ | newRoot _ _ _ | registerDynamic _ _ _ | register _ _ => rfl
    | _ => cases onStore
  · simp only [Session.run]
    split
    · rename_i name entry resulted
      exact .inr ⟨name, entry, resulted, rfl⟩
    · exact .inl rfl

theorem publishes_eq_nil_of_idle {session : Session} {action : Action}
    (idle : action.onStore = false) : session.publishes action = [] := by
  cases action with
  | addManager _ | rootEntity _ _ _ | newRoot _ _ _ | registerDynamic _ _ _ | register _ _ =>
    cases idle
  | _ => rfl

theorem exists_performs_run (session : Session) (request : Request) :
    ∃ opened reply, (opened = session ∨ ∃ name, opened = session.forget name) ∧
      opened.publishes request.action = session.publishes request.action ∧
      opened.Performs request.action reply ∧
      ((session.run request).2.2 = reply.session.settle ∨
        ∃ name entry, reply.result = some entry ∧
          (session.run request).2.2 = (reply.session.keep name entry).settle) := by
  obtain ⟨opened, taken, opening, whole, ending⟩ := session.exists_replyTo_run request
  refine ⟨opened, opened.replyTo taken request.action, opening, ?_, performs_replyTo _ _, ending⟩
  cases onStore : request.action.onStore with
  | true => rw [whole onStore]
  | false => rw [publishes_eq_nil_of_idle onStore, publishes_eq_nil_of_idle onStore]

end Session

end TypedRows
