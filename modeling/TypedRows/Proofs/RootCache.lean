import TypedRows.Proofs.Publications

/-! The roots that managers keep. A manager keeps the first root that it could build for a class
path. From then on it answers with that very root, whatever it is asked with, and a call that fails
leaves no trace. -/
namespace TypedRows

/-- A call that got a root for a class path out of a manager. -/
structure Asking where
  manager : Identity
  path : String
  root : Identity

namespace Asking

/-- The root that a manager has given out first for a class path. -/
def first? (history : List Asking) (manager : Identity) (path : String) : Option Identity :=
  (history.find? fun asking => asking.manager = manager ∧ asking.path = path).map (·.root)

theorem first?_append (history later : List Asking) (manager : Identity) (path : String) :
    first? (history ++ later) manager path =
      (first? history manager path).or (first? later manager path) := by
  rw [first?, List.find?_append, Option.map_or]
  rfl

theorem first?_singleton (asking : Asking) (manager : Identity) (path : String) :
    first? [asking] manager path =
      if asking.manager = manager ∧ asking.path = path then some asking.root else none := by
  by_cases own : asking.manager = manager ∧ asking.path = path <;> simp [first?, own]

theorem first?_append_of_some {history : List Asking} {manager root : Identity} {path : String}
    (given : first? history manager path = some root) (later : List Asking) :
    first? (history ++ later) manager path = some root := by
  rw [first?_append, given, Option.some_or]

theorem first?_eq_none {history : List Asking} {manager : Identity} {path : String}
    (never : ∀ asking ∈ history, asking.manager ≠ manager) : first? history manager path = none := by
  rw [first?, Option.map_eq_none_iff, List.find?_eq_none]
  intro asking member
  simp [never asking member]

end Asking

/-- A manager keeps the first root that it has given out for each class path, each of them alive and
of the class path that it is kept for. -/
structure Manager.Caches (manager : Manager) (roots : List Root) (history : List Asking) : Prop where
  ascending : Keyed.Ascending (·.1) manager.kept
  live : ∀ entry ∈ manager.kept, ∃ root ∈ roots, root.id = entry.2 ∧ root.path = entry.1
  first : ∀ path, (Keyed.find? (·.1) path manager.kept).map (·.2) =
    Asking.first? history manager.id path

/-- The managers of a store keep what a history of calls has given out, and every call for a class
path was given the same root as the first. -/
structure Store.Caches (store : Store) (history : List Asking) : Prop where
  distinct : (store.managers.map (·.id)).Nodup
  bounded : ∀ manager ∈ store.managers, manager.id < store.next
  managers : ∀ manager ∈ store.managers, manager.Caches store.roots history
  earlier : ∀ asking ∈ history, asking.manager < store.next
  constant : ∀ asking ∈ history,
    Asking.first? history asking.manager asking.path = some asking.root

namespace Store

theorem mem_managers_of_manager? {store : Store} {id : Identity} {manager : Manager}
    (found : store.manager? id = some manager) : manager ∈ store.managers :=
  List.mem_of_find?_eq_some found

namespace Caches

variable {store next : Store} {history : List Asking} (caches : store.Caches history)

include caches

theorem manager_eq {manager other : Manager} (member : manager ∈ store.managers)
    (otherMember : other ∈ store.managers) (same : manager.id = other.id) : manager = other :=
  List.inj_on_of_nodup_map caches.distinct member otherMember same

section

variable (sound : store.Sound) {manager : Manager} (member : manager ∈ store.managers)

include sound member

theorem root?_of_kept {entry : String × Identity} (kept : entry ∈ manager.kept) :
    ∃ root ∈ store.roots, store.root? entry.2 = some root ∧ root.id = entry.2 ∧
      root.path = entry.1 := by
  obtain ⟨root, live, sameId, samePath⟩ := (caches.managers manager member).live entry kept
  exact ⟨root, live, sameId ▸ sound.root?_eq live, sameId, samePath⟩

theorem findRoot?_eq_some_iff {path : String} {root : Root} :
    store.findRoot? manager path = some root ↔
      root ∈ store.roots ∧ root.path = path ∧ (path, root.id) ∈ manager.kept := by
  have ascending := (caches.managers manager member).ascending
  refine Option.bind_eq_some_iff.trans ?_
  constructor
  · intro ⟨entry, found, search⟩
    obtain ⟨kept, rfl⟩ := (Keyed.find?_eq_some_iff ascending).mp found
    obtain ⟨twin, live, twinSearch, sameId, samePath⟩ := caches.root?_of_kept sound member kept
    obtain rfl : twin = root := Option.some.inj (twinSearch.symm.trans search)
    exact ⟨live, samePath, sameId ▸ kept⟩
  · intro ⟨live, _, kept⟩
    exact ⟨_, (Keyed.find?_eq_some_iff ascending).mpr ⟨kept, rfl⟩, sound.root?_eq live⟩

theorem map_id_findRoot? (path : String) :
    (store.findRoot? manager path).map (·.id) = Asking.first? history manager.id path := by
  have ascending := (caches.managers manager member).ascending
  rw [← (caches.managers manager member).first, findRoot?]
  cases found : Keyed.find? (·.1) path manager.kept with
  | none => rfl
  | some entry =>
    obtain ⟨kept, _⟩ := (Keyed.find?_eq_some_iff ascending).mp found
    obtain ⟨root, _, search, sameId, _⟩ := caches.root?_of_kept sound member kept
    change (store.root? entry.2).map (·.id) = some entry.2
    rw [search, Option.map_some, sameId]

theorem mem_keptRoots_iff {root : Root} :
    root ∈ store.keptRoots manager ↔ store.findRoot? manager root.path = some root := by
  rw [keptRoots, List.mem_filterMap, caches.findRoot?_eq_some_iff sound member]
  constructor
  · intro ⟨entry, kept, search⟩
    obtain ⟨twin, live, twinSearch, sameId, samePath⟩ := caches.root?_of_kept sound member kept
    obtain rfl : twin = root := Option.some.inj (twinSearch.symm.trans search)
    rw [samePath, sameId]
    exact ⟨live, rfl, kept⟩
  · intro ⟨live, _, kept⟩
    exact ⟨_, kept, sound.root?_eq live⟩

/-- The kept roots stand in the order of their class paths, each of them once. -/
theorem ascending_keptRoots : Keyed.Ascending Root.path (store.keptRoots manager) := by
  refine List.pairwise_filterMap.mpr
    ((caches.managers manager member).ascending.imp_of_mem ?_)
  intro entry other kept otherKept before root search otherRoot otherSearch
  obtain ⟨twin, _, twinSearch, _, path⟩ := caches.root?_of_kept sound member kept
  obtain ⟨otherTwin, _, otherTwinSearch, _, otherPath⟩ :=
    caches.root?_of_kept sound member otherKept
  obtain rfl : twin = root := Option.some.inj (twinSearch.symm.trans search)
  obtain rfl : otherTwin = otherRoot := Option.some.inj (otherTwinSearch.symm.trans otherSearch)
  rw [path, otherPath]
  exact before

end

/-- Where no manager changes and no root is lost, the managers keep what they have kept. -/
theorem of_managers (same : next.managers = store.managers) (later : store.next ≤ next.next)
    (kept : ∀ root ∈ store.roots, ∃ grown ∈ next.roots, grown.id = root.id ∧
      grown.path = root.path) : next.Caches history where
  distinct := same ▸ caches.distinct
  bounded manager member :=
    Nat.lt_of_lt_of_le (caches.bounded manager (same ▸ member)) later
  managers manager member := by
    have before := caches.managers manager (same ▸ member)
    refine ⟨before.ascending, ?_, before.first⟩
    intro entry listed
    obtain ⟨root, live, sameId, samePath⟩ := before.live entry listed
    obtain ⟨grown, grownLive, grownId, grownPath⟩ := kept root live
    exact ⟨grown, grownLive, grownId.trans sameId, grownPath.trans samePath⟩
  earlier asking member := Nat.lt_of_lt_of_le (caches.earlier asking member) later
  constant := caches.constant

theorem addManager (settings : Settings) : (store.addManager settings).1.Caches history := by
  refine {
    distinct := ?_
    bounded := ?_
    managers := ?_
    earlier := fun asking member => Nat.lt_succ_of_lt (caches.earlier asking member)
    constant := caches.constant }
  · refine List.nodup_cons.mpr ⟨?_, caches.distinct⟩
    intro taken
    obtain ⟨old, member, same⟩ := List.mem_map.mp taken
    exact Nat.ne_of_lt (caches.bounded old member) same
  · intro manager member
    rcases List.mem_cons.mp member with rfl | old
    · exact Nat.lt_succ_self _
    · exact Nat.lt_succ_of_lt (caches.bounded manager old)
  · intro manager member
    rcases List.mem_cons.mp member with rfl | old
    · refine ⟨List.Pairwise.nil, by simp, ?_⟩
      intro path
      exact (Asking.first?_eq_none fun asking asked =>
        Nat.ne_of_lt (caches.earlier asking asked)).symm
    · exact caches.managers manager old

theorem newRoot {manager : Manager} {cls : Class} {types : List Class} {root : Root}
    (done : (store.newRoot manager cls types).result = .ok (next, root)) :
    next.Caches history := by
  obtain ⟨_, rfl⟩ := (newRoot_result_eq_ok_iff _ _ _ _ _ _).mp done
  refine caches.of_managers rfl ?_ fun old live => ⟨old, List.mem_cons_of_mem _ live, rfl, rfl⟩
  exact Nat.le_trans (Nat.le_succ _) (Nat.le_add_right _ _)

theorem putRoot {root grown : Root} (sound : store.Sound) (live : root ∈ store.roots)
    (sameId : grown.id = root.id) (sameEntity : grown.entity = root.entity) :
    (store.putRoot grown).Caches history := by
  refine caches.of_managers rfl (Nat.le_refl _) ?_
  intro old oldLive
  refine ⟨_, List.mem_map.mpr ⟨old, oldLive, rfl⟩, ?_⟩
  by_cases same : old.id = grown.id
  · obtain rfl : old = root := sound.root_eq oldLive live (same.trans sameId)
    simp [same, Root.path, sameEntity]
  · simp [same]

theorem register {root grown : Root} {type : TypeEntity} (sound : store.Sound)
    (live : root ∈ store.roots)
    (done : (store.register root type).result = .ok (next, grown)) : next.Caches history := by
  obtain ⟨_, rfl, rfl⟩ := (register_result_eq_ok_iff _ _ _ _ _).mp done
  exact caches.putRoot sound live rfl rfl

theorem registerDynamic {root : Root} {manager : Manager} {cls : Class} {type : TypeEntity}
    (sound : store.Sound) (live : root ∈ store.roots)
    (done : (store.registerDynamic root manager cls).result = .ok (next, type)) :
    next.Caches history := by
  obtain ⟨_, rfl⟩ := (registerDynamic_result_eq_ok_iff _ _ _ _ _ _).mp done
  have put : (store.putRoot { root with
      types := Keyed.place TypeEntity.discriminator type root.types }).Caches history :=
    caches.putRoot sound live rfl rfl
  exact put.of_managers rfl (Nat.le_succ _) fun old oldLive => ⟨old, oldLive, rfl, rfl⟩

theorem again {asking : Asking} (earlier : asking.manager < store.next)
    (given : Asking.first? history asking.manager asking.path = some asking.root) :
    store.Caches (history ++ [asking]) := by
  have stable (manager : Identity) (path : String) :
      Asking.first? (history ++ [asking]) manager path = Asking.first? history manager path := by
    rw [Asking.first?_append, Asking.first?_singleton]
    split
    · rename_i own
      rw [← own.1, ← own.2, given, Option.some_or]
    · exact Option.or_none
  refine ⟨caches.distinct, caches.bounded, ?_, ?_, ?_⟩
  · intro manager member
    obtain ⟨ascending, live, first⟩ := caches.managers manager member
    exact ⟨ascending, live, fun path => (first path).trans (stable _ _).symm⟩
  · intro other member
    rcases List.mem_append.mp member with old | new
    · exact caches.earlier other old
    · obtain rfl := List.mem_singleton.mp new
      exact earlier
  · intro other member
    rw [stable]
    rcases List.mem_append.mp member with old | new
    · exact caches.constant other old
    · obtain rfl := List.mem_singleton.mp new
      exact given

/-- The first root for a class path is kept by the manager that has built it, and by no other. -/
theorem publish {manager : Manager} {root : Root} (member : manager ∈ store.managers)
    (live : root ∈ store.roots)
    (fresh : Asking.first? history manager.id root.path = none) :
    (store.putManager
      { manager with kept := Keyed.place (·.1) (root.path, root.id) manager.kept }).Caches
        (history ++ [⟨manager.id, root.path, root.id⟩]) := by
  refine {
    distinct := ?_
    bounded := ?_
    managers := ?_
    earlier := ?_
    constant := ?_ }
  · have ids : (store.putManager
        { manager with kept := Keyed.place (·.1) (root.path, root.id) manager.kept }).managers.map
          (·.id) = store.managers.map (·.id) := by
      rw [putManager, List.map_map]
      apply List.map_congr_left
      intro old _
      by_cases same : old.id = manager.id <;> simp [same]
    exact ids.symm ▸ caches.distinct
  · intro other listed
    obtain ⟨old, oldMember, rfl⟩ := List.mem_map.mp listed
    change Manager.id (if old.id = manager.id then _ else old) < store.next
    by_cases same : old.id = manager.id
    · rw [if_pos same]
      exact caches.bounded manager member
    · rw [if_neg same]
      exact caches.bounded old oldMember
  · intro other listed
    obtain ⟨old, oldMember, rfl⟩ := List.mem_map.mp listed
    obtain ⟨ascending, kept, first⟩ := caches.managers old oldMember
    by_cases same : old.id = manager.id
    · obtain rfl : old = manager := caches.manager_eq oldMember member same
      rw [if_pos rfl]
      refine ⟨Keyed.ascending_place _ ascending, ?_, ?_⟩
      · intro entry placed
        rcases Keyed.mem_of_mem_place placed with rfl | old
        · exact ⟨root, live, rfl, rfl⟩
        · exact kept entry old
      · intro path
        rw [Keyed.find?_place _ path ascending, Asking.first?_append, Asking.first?_singleton]
        by_cases own : root.path = path
        · rw [if_pos own, ← own, fresh]
          simp
        · simp [own, first]
    · rw [if_neg same]
      refine ⟨ascending, kept, ?_⟩
      intro path
      have apart : ¬(manager.id = old.id ∧ root.path = path) := fun both => same both.1.symm
      rw [Asking.first?_append, Asking.first?_singleton, if_neg apart, Option.or_none, first]
  · intro other asked
    rcases List.mem_append.mp asked with old | new
    · exact caches.earlier other old
    · obtain rfl := List.mem_singleton.mp new
      exact caches.bounded manager member
  · intro other asked
    rcases List.mem_append.mp asked with old | new
    · exact Asking.first?_append_of_some (caches.constant other old) _
    · obtain rfl := List.mem_singleton.mp new
      rw [Asking.first?_append, fresh, Asking.first?_singleton, if_pos ⟨rfl, rfl⟩, Option.none_or]

/-- A call gives out what the manager keeps, or builds what it keeps from then on. -/
theorem rootEntity (sound : store.Sound) {manager : Manager} {cls : Class} {types : List Class}
    {root : Root} (member : manager ∈ store.managers)
    (done : (store.rootEntity manager cls types).result = .ok (next, root)) :
    next.Caches (history ++ [⟨manager.id, cls.path, root.id⟩]) := by
  have first := caches.map_id_findRoot? sound member cls.path
  rcases (rootEntity_result_eq_ok_iff _ _ _ _ _ _).mp done with
    ⟨kept, rfl⟩ | ⟨absent, built, made, rfl⟩
  · rw [kept] at first
    exact caches.again (caches.bounded manager member) first.symm
  · rw [absent] at first
    have builtCaches := caches.newRoot made
    obtain ⟨rootBuilt, rfl⟩ := (newRoot_result_eq_ok_iff _ _ _ _ _ _).mp made
    obtain ⟨_, _, sameCls, _⟩ := Root.sound_of_build rootBuilt
    have samePath : root.path = cls.path := congrArg Class.path sameCls
    rw [← samePath] at first ⊢
    exact builtCaches.publish member List.mem_cons_self first.symm

theorem retain (managers roots : List Identity) : (store.retain managers roots).Caches history where
  distinct := caches.distinct.sublist (List.filter_sublist.map _)
  bounded manager member := caches.bounded manager (List.mem_filter.mp member).1
  managers manager member := by
    obtain ⟨ascending, live, first⟩ := caches.managers manager (List.mem_filter.mp member).1
    refine ⟨ascending, ?_, first⟩
    intro entry kept
    obtain ⟨root, rootLive, sameId, samePath⟩ := live entry kept
    refine ⟨root, List.mem_filter.mpr ⟨rootLive, ?_⟩, sameId, samePath⟩
    have listed : root.id ∈ ((store.managers.filter fun manager =>
        managers.contains manager.id).flatMap fun manager => manager.kept.map (·.2)) := by
      rw [sameId]
      exact List.mem_flatMap.mpr ⟨manager, member, List.mem_map.mpr ⟨entry, kept, rfl⟩⟩
    rw [Bool.or_eq_true]
    exact .inr (List.contains_iff_mem.mpr listed)
  earlier := caches.earlier
  constant := caches.constant

end Caches

theorem retain_retain (store : Store) (managers roots : List Identity) :
    (store.retain managers roots).retain managers roots = store.retain managers roots := by
  simp [retain]

end Store

namespace Session

/-- The call that an action makes, if a manager answers it with a root. -/
def asks (session : Session) : Action → List Asking
  | .rootEntity name cls types =>
    match session.manager? name, (session.replyTo none (.rootEntity name cls types)).answer with
    | some manager, .root root => [⟨manager.id, cls.path, root.id⟩]
    | _, _ => []
  | _ => []

/-- Every call that requests make and that is answered with a root, in order. -/
def asked (session : Session) : List Request → List Asking
  | [] => []
  | request :: rest => session.asks request.action ++ (session.run request).2.2.asked rest

theorem settle_settle (session : Session) : session.settle.settle = session.settle := by
  simp only [settle, Store.retain_retain]

/-- Requests leave nothing behind that nothing keeps alive. -/
theorem Reachable.settle_eq {session : Session} (reached : session.Reachable) :
    session.settle = session := by
  cases reached with
  | start => rfl
  | step _ request =>
    obtain ⟨_, _, _, _, same | ⟨_, _, _, same⟩⟩ := exists_replyTo_run _ request
    · rw [same, settle_settle]
    · rw [same, settle_settle]

theorem Reachable.after {session : Session} (reached : session.Reachable)
    (requests : List Request) : (session.after requests).Reachable := by
  induction requests generalizing session with
  | nil => exact reached
  | cons request rest ih => exact ih (.step reached request)

theorem mem_managers_of_manager? {session : Session} {name : String} {manager : Manager}
    (found : session.manager? name = some manager) : manager ∈ session.store.managers := by
  obtain ⟨id, _, search⟩ := Option.bind_eq_some_iff.mp found
  exact Store.mem_managers_of_manager? search

theorem asks_eq_nil_of_idle {session : Session} {action : Action} (idle : action.onStore = false) :
    session.asks action = [] := by
  cases action with
  | rootEntity _ _ _ => cases idle
  | _ => rfl

/-- A call of something that is no manager is not answered with a root. -/
theorem asks_eq_nil_of_perform? {session : Session} {taken : Option Entry} {action : Action}
    (unperformed : session.perform? taken action = none) : session.asks action = [] := by
  cases action with
  | rootEntity name cls types =>
    have unanswered : session.perform? none (.rootEntity name cls types) = none := unperformed
    simp [asks, replyTo, unanswered, answer]
  | _ => rfl

section

variable {session : Session} {history : List Asking} (sound : session.store.Sound)
  (caches : session.store.Caches history)

include sound caches

theorem caches_of_perform? {taken : Option Entry} {action : Action} {reply : Reply}
    (performed : session.perform? taken action = some reply) :
    reply.session.store.Caches (history ++ session.asks action) := by
  have kept : session.store.Caches (history ++ []) := by rwa [List.append_nil]
  cases action with
  | addManager source =>
    cases performed
    exact session_of_finish (fun next => next.store.Caches (history ++ [])) (fun _ _ => kept)
      fun settings _ => kept.addManager settings
  | rootEntity name cls types =>
    obtain ⟨manager, found, same⟩ := Option.bind_eq_some_iff.mp performed
    have answered : session.perform? none (.rootEntity name cls types) = some reply := performed
    simp only [asks, found, replyTo, answered, Option.getD_some]
    cases same
    simp only [finish]
    cases outcome : (session.store.rootEntity manager cls types).result with
    | error cause => exact kept
    | ok built =>
      exact caches.rootEntity sound (mem_managers_of_manager? found) outcome
  | newRoot name cls types =>
    obtain ⟨manager, found, same⟩ := Option.bind_eq_some_iff.mp performed
    cases same
    exact session_of_finish (fun next => next.store.Caches (history ++ [])) (fun _ _ => kept)
      fun _ done => kept.newRoot done
  | registerDynamic rootName managerName cls =>
    obtain ⟨root, found, rest⟩ := Option.bind_eq_some_iff.mp performed
    obtain ⟨manager, _, same⟩ := Option.bind_eq_some_iff.mp rest
    cases same
    exact session_of_finish (fun next => next.store.Caches (history ++ [])) (fun _ _ => kept)
      fun _ done => kept.registerDynamic sound (mem_roots_of_root? found) done
  | register rootName typeName =>
    obtain ⟨root, found, rest⟩ := Option.bind_eq_some_iff.mp performed
    obtain ⟨type, _, same⟩ := Option.bind_eq_some_iff.mp rest
    cases same
    exact session_of_finish (fun next => next.store.Caches (history ++ [])) (fun _ _ => kept)
      fun _ done => kept.register sound (mem_roots_of_root? found) done
  | _ =>
    rw [asks_eq_nil_of_idle rfl, (quiet_of_perform? rfl performed).session_eq]
    exact kept

theorem caches_replyTo (taken : Option Entry) (action : Action) :
    (session.replyTo taken action).session.store.Caches (history ++ session.asks action) := by
  unfold replyTo
  cases performed : session.perform? taken action with
  | none =>
    rw [asks_eq_nil_of_perform? performed, List.append_nil]
    exact caches
  | some reply => exact caches_of_perform? sound caches performed

theorem caches_run (request : Request) :
    (session.run request).2.2.store.Caches (history ++ session.asks request.action) := by
  obtain ⟨opened, taken, opening, whole, ending⟩ := session.exists_replyTo_run request
  have sameStore : opened.store = session.store := by
    rcases opening with rfl | ⟨name, rfl⟩ <;> rfl
  have sameAsks : opened.asks request.action = session.asks request.action := by
    cases onStore : request.action.onStore with
    | true => rw [whole onStore]
    | false => rw [asks_eq_nil_of_idle onStore, asks_eq_nil_of_idle onStore]
  have replied := caches_replyTo (sameStore ▸ sound) (sameStore ▸ caches) taken request.action
  rw [sameAsks] at replied
  rcases ending with same | ⟨name, entry, _, same⟩
  · rw [same]
    exact replied.retain _ _
  · rw [same]
    exact replied.retain _ _

end

/-- Whatever is requested, the managers keep what was given out. -/
theorem caches_after {session : Session} {history : List Asking} (reached : session.Reachable)
    (caches : session.store.Caches history) (requests : List Request) :
    (session.after requests).store.Caches (history ++ session.asked requests) := by
  induction requests generalizing session history with
  | nil => simpa [Session.after, asked] using caches
  | cons request rest ih =>
    have later := ih (.step reached request) (caches_run reached.sound.store caches request)
    rw [List.append_assoc] at later
    exact later

theorem caches_of_requested (requests : List Request) :
    (({} : Session).after requests).store.Caches (({} : Session).asked requests) := by
  have started : ({} : Store).Caches [] := by
    refine ⟨List.nodup_nil, ?_, ?_, ?_, ?_⟩ <;> simp
  have caches := caches_after .start started requests
  rw [List.nil_append] at caches
  exact caches

theorem perform?_rootEntity_of_kept {session : Session} {name : String} {manager : Manager}
    {cls : Class} {root : Root} (named : session.manager? name = some manager)
    (kept : session.store.findRoot? manager cls.path = some root) (taken : Option Entry)
    (types : List Class) :
    session.perform? taken (.rootEntity name cls types) = some (session.answerRoot root) := by
  have built : session.store.rootEntity manager cls types = pure (session.store, root) := by
    rw [Store.rootEntity, kept]
  simp only [perform?, named, Option.bind_eq_bind, Option.bind_some, built]
  rfl

theorem replyTo_rootEntity_of_failed {session : Session} {name : String} {cls : Class}
    {types : List Class} {fault : Fault} (taken : Option Entry)
    (failed : (session.replyTo taken (.rootEntity name cls types)).answer = .failed fault) :
    (session.replyTo taken (.rootEntity name cls types)).session = session ∧
      (session.replyTo taken (.rootEntity name cls types)).result = none := by
  cases found : session.manager? name with
  | none => simp [replyTo, perform?, found, answer]
  | some manager =>
    simp only [replyTo, perform?, found, Option.bind_eq_bind, Option.bind_some, Option.pure_def,
      Option.getD_some, finish] at failed ⊢
    cases outcome : (session.store.rootEntity manager cls types).result with
    | error cause => exact ⟨rfl, rfl⟩
    | ok built =>
      rw [outcome] at failed
      cases failed

theorem run_rootEntity_of_failed {session : Session} {name : String} {cls : Class}
    {types : List Class} {keepAs : Option String} {fault : Fault}
    (failed : (session.run ⟨.rootEntity name cls types, keepAs⟩).1 = .failed fault) :
    (session.run ⟨.rootEntity name cls types, keepAs⟩).2.2 = session.settle := by
  obtain ⟨opened, taken, _, whole, ending⟩ :=
    session.exists_replyTo_run ⟨.rootEntity name cls types, keepAs⟩
  obtain rfl : opened = session := whole rfl
  obtain ⟨sameSession, noResult⟩ := replyTo_rootEntity_of_failed taken failed
  rcases ending with same | ⟨_, entry, resulted, _⟩
  · exact same.trans (congrArg Session.settle sameSession)
  · cases noResult.symm.trans resulted

/-- What comes of the calls for roots that a history has made to a manager. -/
structure CachesRoots (session : Session) (history : List Asking) (manager : Manager) : Prop where
  /-- Nothing is kept for a class path before a call for it has succeeded. -/
  absent : ∀ path, session.store.findRoot? manager path = none ↔
    ∀ asking ∈ history, asking.manager = manager.id → asking.path ≠ path
  /-- What is kept is the root of the first call that has succeeded. -/
  first : ∀ path, (session.store.findRoot? manager path).map (·.id) =
    Asking.first? history manager.id path
  /-- Every other call that has succeeded was given the same root. -/
  constant : ∀ asking ∈ history, asking.manager = manager.id →
    (session.store.findRoot? manager asking.path).map (·.id) = some asking.root
  ownPath : ∀ path root, session.store.findRoot? manager path = some root → root.path = path
  listed : ∀ root, root ∈ session.store.keptRoots manager ↔
    session.store.findRoot? manager root.path = some root
  ascending : Keyed.Ascending Root.path (session.store.keptRoots manager)
  /-- Whatever happens later, the manager keeps the same root as long as it is there. -/
  stays : ∀ requests, ∀ same ∈ (session.after requests).store.managers, same.id = manager.id →
    ∀ path root, session.store.findRoot? manager path = some root →
      ((session.after requests).store.findRoot? same path).map (·.id) = some root.id
  /-- It answers with the root that it keeps whatever class of that path and whatever types it is
  asked with, and changes nothing. -/
  answers : ∀ name, session.manager? name = some manager → ∀ (cls : Class) root,
    session.store.findRoot? manager cls.path = some root → ∀ taken types,
      session.perform? taken (.rootEntity name cls types) = some (session.answerRoot root)
  /-- A call that fails leaves the whole session as it was. -/
  atomic : ∀ name cls types keepAs fault,
    (session.run ⟨.rootEntity name cls types, keepAs⟩).1 = .failed fault →
      (session.run ⟨.rootEntity name cls types, keepAs⟩).2.2 = session

/-- Whatever is requested, every manager keeps the first root that it has given out for each class
path, and no other. -/
theorem cachesRoots_of_asked (requests : List Request) {manager : Manager}
    (member : manager ∈ (({} : Session).after requests).store.managers) :
    (({} : Session).after requests).CachesRoots (({} : Session).asked requests) manager := by
  have reached := Reachable.start.after requests
  have sound := reached.sound.store
  have caches := caches_of_requested requests
  have first := caches.map_id_findRoot? sound member
  refine {
    absent := ?_
    first := first
    constant := ?_
    ownPath := ?_
    listed := fun _ => caches.mem_keptRoots_iff sound member
    ascending := caches.ascending_keptRoots sound member
    stays := ?_
    answers := fun name named cls root kept => perform?_rootEntity_of_kept named kept
    atomic := ?_ }
  · intro path
    rw [← Option.map_eq_none_iff, first]
    simp [Asking.first?]
  · intro asking asked own
    rw [first, ← own]
    exact caches.constant asking asked
  · intro path root found
    exact ((caches.findRoot?_eq_some_iff sound member).mp found).2.1
  · intro later same sameMember sameId path root found
    have grown := caches_after reached caches later
    rw [grown.map_id_findRoot? (reached.after later).sound.store sameMember, sameId]
    refine Asking.first?_append_of_some ?_ _
    rw [← first, found]
    rfl
  · intro name cls types keepAs fault failed
    rw [run_rootEntity_of_failed failed, reached.settle_eq]

end Session

namespace Menagerie

/-- Something with the class path of the animals that cannot be a root. -/
def impostor : Class := .top { path := "zoo::Animal" }

/-- The first call for a root fails on its second type, the next one builds the root, and the last
one is given it for a class that could not be built. -/
def askings : List Request :=
  [⟨.addManager none, some "manager"⟩, ⟨.rootEntity "manager" animal [dog, animal], none⟩,
    ⟨.rootEntity "manager" animal [dog], none⟩, ⟨.rootEntity "manager" impostor [animal], none⟩]

end Menagerie

theorem Session.cachesRoots_of_asked_animals :
    let before := ({} : Session).after (Menagerie.askings.take 2)
    let after := ({} : Session).after Menagerie.askings
    (∃ manager ∈ before.store.managers,
      before.store.findRoot? manager "zoo::Animal" = none) ∧
    ∃ manager ∈ after.store.managers, ∃ root,
      after.store.findRoot? manager "zoo::Animal" = some root ∧ root.path = "zoo::Animal" ∧
        root ∈ after.store.keptRoots manager ∧
        (({} : Session).asked Menagerie.askings).map (·.root) = [root.id, root.id] := by
  intro before after
  have beforeMember := List.head_mem (by decide : before.store.managers ≠ [])
  have afterMember := List.head_mem (by decide : after.store.managers ≠ [])
  have beforeCaches := cachesRoots_of_asked (Menagerie.askings.take 2) beforeMember
  have afterCaches := cachesRoots_of_asked Menagerie.askings afterMember
  have nothingYet : ({} : Session).asked (Menagerie.askings.take 2) = [] := rfl
  refine ⟨⟨_, beforeMember, (beforeCaches.absent _).mpr (by simp [nothingYet])⟩, _, afterMember, ?_⟩
  have given : Asking.first? (({} : Session).asked Menagerie.askings)
      (after.store.managers.head (by decide)).id "zoo::Animal" = some 1 := rfl
  obtain ⟨root, found, same⟩ :=
    Option.map_eq_some_iff.mp ((afterCaches.first "zoo::Animal").trans given)
  have path := afterCaches.ownPath _ root found
  refine ⟨root, found, path, (afterCaches.listed root).mpr (path ▸ found), ?_⟩
  rw [same]
  rfl

end TypedRows
