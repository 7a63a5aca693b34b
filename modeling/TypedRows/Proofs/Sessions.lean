import TypedRows.Proofs.Actions

/-! The invariant of sessions. In every session that requests can lead to, the live roots are sound
and every type that a name holds on to was checked against its root, whatever has been let go since.
-/
namespace TypedRows

namespace Session

/-- A session that requests can lead to. -/
inductive Reachable : Session → Prop where
  | start : Reachable {}
  | step {session : Session} (reached : Reachable session) (request : Request) :
      Reachable (session.run request).2.2

/-- The store is sound, and its roots have checked every type that a name holds on to. -/
structure Sound (session : Session) : Prop where
  store : session.store.Sound
  held : ∀ entry ∈ session.entries, ∀ type, entry.2.held? = some type → session.store.Admits type

/-- A reply that leaves the names alone, loses no root that a type refers to, and has a result that
may be kept. -/
structure Keeps (session : Session) (reply : Reply) : Prop where
  entries : reply.session.entries = session.entries
  store : reply.session.store.Follows session.store
  result : ∀ entry, reply.result = some entry → ∀ type, entry.held? = some type →
    reply.session.store.Admits type

namespace Sound

variable {session : Session} (sound : session.Sound)

include sound

theorem admits_of_holds {type : TypeEntity} (held : session.Holds type) :
    session.store.Admits type := by
  obtain ⟨entry, kept, holds⟩ := held
  exact sound.held entry kept type holds

/-- However the store evolves, it stays sound and admits what it has admitted before. -/
theorem follows_of_evolves {published : List Publication} {store : Store}
    (evolves : session.Evolves published store) : store.Follows session.store := by
  cases evolves with
  | stays => exact sound.store.follows_self
  | manages settings => exact sound.store.addManager settings
  | asks done => exact sound.store.rootEntity done
  | builds done => exact sound.store.newRoot done
  | introduces live done => exact sound.store.registerDynamic live done
  | registers live held done => exact sound.store.register live (sound.admits_of_holds held) done

theorem keeps_of_performs {action : Action} {reply : Reply}
    (performs : session.Performs action reply) : session.Keeps reply := by
  have follows := sound.follows_of_evolves performs.store
  refine ⟨performs.entries, follows, ?_⟩
  intro entry resulted type holds
  rcases performs.result entry resulted type holds with ⟨named, kept, held⟩ | ⟨root, live, listed⟩
  · exact follows.admits type (sound.held named (performs.entries ▸ kept) type held)
  · exact follows.sound.admits_of_mem live listed

theorem forget (name : String) : (session.forget name).Sound := by
  refine ⟨sound.store, ?_⟩
  intro entry kept
  exact sound.held entry (List.mem_filter.mp kept).1

theorem keep {name : String} {entry : Entry}
    (admitted : ∀ type, entry.held? = some type → session.store.Admits type) :
    (session.keep name entry).Sound := by
  refine ⟨sound.store, ?_⟩
  intro other kept
  rcases Keyed.mem_of_mem_place kept with rfl | present
  · exact admitted
  · exact sound.held other present

theorem settle : session.settle.Sound := by
  have follows := sound.store.retain (session.entries.filterMap (·.2.managerId?))
    (session.entries.filterMap (·.2.rootId?))
  refine ⟨follows.sound, ?_⟩
  intro entry kept type holds
  exact follows.admits type (sound.held entry kept type holds)

theorem of_keeps {reply : Reply} (keeps : session.Keeps reply) : reply.session.Sound := by
  refine ⟨keeps.store.sound, ?_⟩
  intro entry present type holds
  exact keeps.store.admits type (sound.held entry (keeps.entries ▸ present) type holds)

/-- One request keeps a session sound, whether it succeeds or fails. -/
theorem run (request : Request) : (session.run request).2.2.Sound := by
  obtain ⟨opened, reply, opening, _, performs, ending⟩ := session.exists_performs_run request
  have started : opened.Sound := by
    rcases opening with rfl | ⟨name, rfl⟩
    · exact sound
    · exact sound.forget name
  have keeps := started.keeps_of_performs performs
  have performed := started.of_keeps keeps
  rcases ending with same | ⟨name, entry, resulted, same⟩
  · rw [same]
    exact performed.settle
  · rw [same]
    exact (performed.keep (keeps.result entry resulted)).settle

end Sound

/-- Every session that requests can lead to is sound. -/
theorem Reachable.sound {session : Session} (reached : session.Reachable) : session.Sound := by
  induction reached with
  | start => exact ⟨⟨List.nodup_nil, by simp, by simp⟩, by simp⟩
  | step _ request ih => exact ih.run request

end Session

end TypedRows
