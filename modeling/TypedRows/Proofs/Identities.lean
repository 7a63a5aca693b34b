import TypedRows.Proofs.Publications

/-! The identities of types. Every type that is checked is given an identity of its own, so that of
all types that were ever published no two share one; and each of them belongs to its root for as
long as that is alive. -/
namespace TypedRows

namespace TypeEntity

variable {settings : Settings} {next rootId : Identity} {root : Class}

theorem map_id_declared (classes : List Class) :
    (declared settings next rootId root classes).map (·.id) =
      List.range' next (declared settings next rootId root classes).length := by
  induction classes generalizing next with
  | nil => rfl
  | cons cls rest ih =>
    unfold declared
    cases outcome : (validate settings next rootId root cls false).result with
    | error cause => rfl
    | ok type =>
      obtain ⟨_, _, _, given, _⟩ := (validate_result_eq_ok_iff _ _ _ _ _ _ _).mp outcome
      simp only [List.map_cons, List.length_cons, List.range'_succ, ih, given]

theorem length_declared_le (classes : List Class) :
    (declared settings next rootId root classes).length ≤ classes.length := by
  induction classes generalizing next with
  | nil => exact Nat.le_refl _
  | cons cls rest ih =>
    unfold declared
    cases (validate settings next rootId root cls false).result with
    | error cause => exact Nat.zero_le _
    | ok type => exact Nat.succ_le_succ ih

theorem id_of_mem_declared {classes : List Class} {type : TypeEntity}
    (member : type ∈ declared settings next rootId root classes) :
    next ≤ type.id ∧ type.id < next + classes.length := by
  have listed := List.mem_map_of_mem (f := (·.id)) member
  rw [map_id_declared, List.mem_range'_1] at listed
  obtain ⟨least, below⟩ := listed
  exact ⟨least, Nat.lt_of_lt_of_le below (Nat.add_le_add_left (length_declared_le classes) next)⟩

end TypeEntity

namespace Store

variable {store next : Store} {root : Root} {manager : Manager} {cls : Class} {types : List Class}

theorem exists_of_mem_publishedByNew {publication : Publication}
    (published : publication ∈ store.publishedByNew manager cls types) :
    ∃ next root, (store.newRoot manager cls types).result = .ok (next, root) ∧
      publication.root = root.id ∧ publication.type ∈
        TypeEntity.declared manager.settings (root.id + 1) root.id root.cls types := by
  unfold publishedByNew at published
  cases done : (store.newRoot manager cls types).result with
  | error cause =>
    rw [done] at published
    cases published
  | ok built =>
    rw [done] at published
    obtain ⟨type, declared, same⟩ := List.mem_map.mp published
    subst same
    exact ⟨built.1, built.2, rfl, rfl, declared⟩

theorem exists_of_mem_publishedByAsking {publication : Publication}
    (published : publication ∈ store.publishedByAsking manager cls types) :
    ∃ next root, (store.rootEntity manager cls types).result = .ok (next, root) ∧
      publication.root = root.id ∧ publication ∈ store.publishedByNew manager cls types := by
  cases kept : store.findRoot? manager cls.path with
  | some root =>
    rw [publishedByAsking_of_kept kept] at published
    cases published
  | none =>
    rw [publishedByAsking_of_absent kept] at published
    obtain ⟨built, root, done, same, _⟩ := exists_of_mem_publishedByNew published
    have asked := (rootEntity_result_eq_ok_iff _ _ _ _ _ _).mpr (.inr ⟨kept, built, done, rfl⟩)
    exact ⟨_, root, asked, same, published⟩

/-- Every type of a history belongs to its root, if that is alive, and has an identity that no other
type of the history has. -/
structure Tracks (store : Store) (history : List Publication) : Prop where
  admitted : ∀ publication ∈ history, store.Admits publication.type
  bounded : ∀ publication ∈ history, publication.type.id < store.next
  distinct : ∀ first ∈ history, ∀ second ∈ history,
    first.type.id = second.type.id → first.type = second.type

namespace Tracks

variable {history fresh : List Publication} (tracks : store.Tracks history)

include tracks

/-- Types with new identities, none of them twice, are told apart from those before. -/
theorem append (follows : next.Follows store) (grown : store.next ≤ next.next)
    (admitted : ∀ publication ∈ fresh, next.Admits publication.type)
    (given : ∀ publication ∈ fresh,
      store.next ≤ publication.type.id ∧ publication.type.id < next.next)
    (apart : (fresh.map (·.type.id)).Nodup) : next.Tracks (history ++ fresh) where
  admitted publication member := by
    rcases List.mem_append.mp member with old | new
    · exact follows.admits _ (tracks.admitted publication old)
    · exact admitted publication new
  bounded publication member := by
    rcases List.mem_append.mp member with old | new
    · exact Nat.lt_of_lt_of_le (tracks.bounded publication old) grown
    · exact (given publication new).2
  distinct first member second otherMember same := by
    rcases List.mem_append.mp member with old | new <;>
      rcases List.mem_append.mp otherMember with otherOld | otherNew
    · exact tracks.distinct first old second otherOld same
    · have below := tracks.bounded first old
      exact absurd (same ▸ (given second otherNew).1) (Nat.not_le_of_lt below)
    · have below := tracks.bounded second otherOld
      exact absurd (same ▸ (given first new).1) (Nat.not_le_of_lt below)
    · exact congrArg _ (List.inj_on_of_nodup_map apart new otherNew same)

theorem of_follows (follows : next.Follows store) (grown : store.next ≤ next.next) :
    next.Tracks history := by
  have tracked : next.Tracks (history ++ []) :=
    tracks.append follows grown (by simp) (by simp) List.nodup_nil
  rwa [List.append_nil] at tracked

theorem again (follows : next.Follows store) (grown : store.next ≤ next.next)
    {publication : Publication} (known : ∃ earlier ∈ history, earlier.type = publication.type) :
    next.Tracks (history ++ [publication]) := by
  have kept := tracks.of_follows follows grown
  have listed : ∀ other ∈ history ++ [publication], ∃ earlier ∈ history,
      earlier.type = other.type := by
    intro other member
    rcases List.mem_append.mp member with old | new
    · exact ⟨other, old, rfl⟩
    · rw [List.mem_singleton.mp new]
      exact known
  refine ⟨?_, ?_, ?_⟩
  · intro other member
    obtain ⟨earlier, old, same⟩ := listed other member
    exact same ▸ kept.admitted earlier old
  · intro other member
    obtain ⟨earlier, old, same⟩ := listed other member
    exact same ▸ kept.bounded earlier old
  · intro first member second otherMember sameId
    obtain ⟨earlier, old, same⟩ := listed first member
    obtain ⟨otherEarlier, otherOld, otherSame⟩ := listed second otherMember
    rw [← same, ← otherSame] at sameId ⊢
    exact kept.distinct earlier old otherEarlier otherOld sameId

/-- Building a root checks its static types against it, each of them under a new identity. -/
theorem newRoot (sound : store.Sound)
    (done : (store.newRoot manager cls types).result = .ok (next, root)) :
    next.Tracks (history ++ store.publishedByNew manager cls types) := by
  have follows := sound.newRoot done
  obtain ⟨built, same⟩ := (newRoot_result_eq_ok_iff _ _ _ _ _ _).mp done
  have freshId : root.id = store.next := (Root.sound_of_build built).2.1
  have live : root ∈ next.roots := same ▸ List.mem_cons_self
  have later : next.next = store.next + 1 + types.length := by rw [same]
  rw [publishedByNew, done]
  dsimp only
  apply tracks.append follows
  · rw [later]
    exact Nat.le_trans (Nat.le_succ _) (Nat.le_add_right _ _)
  · intro publication member
    obtain ⟨type, declared, rfl⟩ := List.mem_map.mp member
    obtain ⟨valid, belongs⟩ := TypeEntity.valid_of_mem_declared declared
    refine ⟨belongs ▸ follows.sound.bounded root live, ?_⟩
    intro other otherLive otherSame
    rw [follows.sound.root_eq otherLive live (otherSame.trans belongs)]
    exact valid
  · intro publication member
    obtain ⟨type, declared, rfl⟩ := List.mem_map.mp member
    obtain ⟨least, below⟩ := TypeEntity.id_of_mem_declared declared
    rw [later, ← freshId]
    exact ⟨Nat.le_of_succ_le least, below⟩
  · rw [List.map_map]
    exact TypeEntity.map_id_declared types ▸ List.nodup_range'

theorem rootEntity (sound : store.Sound)
    (done : (store.rootEntity manager cls types).result = .ok (next, root)) :
    next.Tracks (history ++ store.publishedByAsking manager cls types) := by
  rcases (rootEntity_result_eq_ok_iff _ _ _ _ _ _).mp done with
    ⟨kept, rfl⟩ | ⟨absent, built, made, rfl⟩
  · rw [publishedByAsking_of_kept kept, List.append_nil]
    exact tracks
  · rw [publishedByAsking_of_absent absent]
    have tracked := tracks.newRoot sound made
    exact ⟨tracked.admitted, tracked.bounded, tracked.distinct⟩

theorem registerDynamic (sound : store.Sound) {type : TypeEntity} (live : root ∈ store.roots)
    (done : (store.registerDynamic root manager cls).result = .ok (next, type)) :
    next.Tracks (history ++ [⟨root.id, type⟩]) := by
  have follows := sound.registerDynamic live done
  obtain ⟨grown, grownLive, registered⟩ := exists_registered_of_registerDynamic live done
  obtain ⟨accepted, same⟩ := (registerDynamic_result_eq_ok_iff _ _ _ _ _ _).mp done
  obtain ⟨_, _, _, given, _⟩ := (TypeEntity.validate_result_eq_ok_iff _ _ _ _ _ _ _).mp accepted
  have later : next.next = store.next + 1 := by rw [same]
  apply tracks.append follows
  · exact later ▸ Nat.le_succ _
  · intro publication member
    rw [List.mem_singleton.mp member]
    exact follows.sound.admits_of_mem grownLive registered
  · intro publication member
    rw [List.mem_singleton.mp member, later, given]
    exact ⟨Nat.le_refl _, Nat.lt_succ_self _⟩
  · exact List.nodup_singleton _

end Tracks

end Store

namespace Session

variable {session : Session} {history : List Publication}

theorem Recorded.tracks_evolves (recorded : session.Recorded history)
    (tracks : session.store.Tracks history) {published : List Publication} {store : Store}
    (evolves : session.Evolves published store) : store.Tracks (history ++ published) := by
  have sound := recorded.sound.store
  have follows := recorded.sound.follows_of_evolves evolves
  cases evolves with
  | stays => rwa [List.append_nil]
  | manages settings =>
    rw [List.append_nil]
    exact tracks.of_follows follows (Nat.le_succ _)
  | asks done => exact tracks.rootEntity sound done
  | builds done => exact tracks.newRoot sound done
  | introduces live done => exact tracks.registerDynamic sound live done
  | registers live held done =>
    obtain ⟨root, earlier⟩ := recorded.held _ held
    obtain ⟨_, _, rfl⟩ := (Store.register_result_eq_ok_iff _ _ _ _ _).mp done
    exact tracks.again follows (Nat.le_refl _) ⟨_, earlier, rfl⟩

theorem Recorded.tracks_run (recorded : session.Recorded history)
    (tracks : session.store.Tracks history) (request : Request) :
    (session.run request).2.2.store.Tracks (history ++ session.publishes request.action) := by
  obtain ⟨opened, reply, opening, same, performs, ending⟩ := session.exists_performs_run request
  have started : opened.Recorded history ∧ opened.store.Tracks history := by
    rcases opening with rfl | ⟨name, rfl⟩
    · exact ⟨recorded, tracks⟩
    · exact ⟨recorded.forget name, tracks⟩
  obtain ⟨openedRecorded, openedTracks⟩ := started
  have performed := openedRecorded.tracks_evolves openedTracks performs.store
  have sound := (openedRecorded.of_performs performs).sound.store
  rw [same] at performed
  rcases ending with ended | ⟨name, entry, _, ended⟩
  · rw [ended]
    exact performed.of_follows (sound.retain _ _) (Nat.le_refl _)
  · rw [ended]
    exact performed.of_follows (sound.retain _ _) (Nat.le_refl _)

theorem Recorded.tracks_after (recorded : session.Recorded history)
    (tracks : session.store.Tracks history) (requests : List Request) :
    (session.after requests).store.Tracks (history ++ session.published requests) := by
  induction requests generalizing session history with
  | nil => simpa [Session.after, published] using tracks
  | cons request rest ih =>
    have later := ih (recorded.run request) (recorded.tracks_run tracks request)
    rw [List.append_assoc] at later
    exact later

/-- Whatever is requested, the types that were published are told apart by their identities. -/
theorem tracks_of_requested (requests : List Request) :
    (({} : Session).after requests).store.Tracks (({} : Session).published requests) := by
  have recorded : ({} : Session).Recorded [] := recorded_after []
  exact recorded.tracks_after ⟨by simp, by simp, by simp⟩ requests

end Session

end TypedRows
