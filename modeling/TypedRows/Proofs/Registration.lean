import TypedRows.Proofs.Consistency
import TypedRows.Registry.Store

/-! What every operation on roots keeps true: a root describes its class, and the types in its
registry were checked against that class, refer back to that very root, and stand in the order of
their discriminators. -/
namespace TypedRows

/-- A root as it is at any time after it was built. -/
structure Root.Sound (root : Root) : Prop where
  described : root.entity.Describes .root
  ascending : Keyed.Ascending TypeEntity.discriminator root.types
  belong : ∀ type ∈ root.types, type.rootId = root.id
  valid : ∀ type ∈ root.types, type.ValidFor root.cls

namespace Root

theorem register_result_eq_ok_iff (root : Root) (type : TypeEntity) (next : Root) :
    (root.register type).result = .ok next ↔ type.rootId = root.id ∧
      next = { root with types := Keyed.place TypeEntity.discriminator type root.types } := by
  by_cases belongs : type.rootId = root.id
  · simp only [register, belongs, if_true, Traced.result_bind, bind_eq_ok_iff, true_and]
    constructor
    · intro holds
      obtain ⟨_, _, same⟩ := holds
      cases same
      rfl
    · rintro rfl
      exact ⟨(), rfl, rfl⟩
  · simp [register, belongs, Traced.fail]

theorem introduce_result_eq_ok_iff (settings : Settings) (id : Identity) (isDynamic : Bool)
    (root : Root) (cls : Class) (next : Root) (type : TypeEntity) :
    (introduce settings id isDynamic root cls).result = .ok (next, type) ↔
      (TypeEntity.validate settings id root.id root.cls cls isDynamic).result = .ok type ∧
        next = { root with types := Keyed.place TypeEntity.discriminator type root.types } := by
  simp only [introduce, Traced.result_bind, bind_eq_ok_iff, register_result_eq_ok_iff]
  constructor
  · intro holds
    obtain ⟨introduced, accepted, published, ⟨_, rfl⟩, same⟩ := holds
    cases same
    exact ⟨accepted, rfl⟩
  · intro holds
    obtain ⟨accepted, rfl⟩ := holds
    obtain ⟨_, _, _, _, belongs, _⟩ :=
      (TypeEntity.validate_result_eq_ok_iff _ _ _ _ _ _ _).mp accepted
    exact ⟨type, accepted, _, ⟨belongs, rfl⟩, rfl⟩

theorem Sound.publish {root : Root} {type : TypeEntity} (sound : root.Sound)
    (belongs : type.rootId = root.id) (valid : type.ValidFor root.cls) :
    Sound { root with types := Keyed.place TypeEntity.discriminator type root.types } := by
  have listed {other : TypeEntity}
      (member : other ∈ Keyed.place TypeEntity.discriminator type root.types) :
      other = type ∨ other ∈ root.types := Keyed.mem_of_mem_place member
  refine ⟨sound.described, Keyed.ascending_place type sound.ascending, ?_, ?_⟩
  · intro other member
    rcases listed member with rfl | member
    · exact belongs
    · exact sound.belong other member
  · intro other member
    rcases listed member with rfl | member
    · exact valid
    · exact sound.valid other member

theorem Sound.introduce {settings : Settings} {id : Identity} {isDynamic : Bool} {root next : Root}
    {cls : Class} {type : TypeEntity} (sound : root.Sound)
    (done : (introduce settings id isDynamic root cls).result = .ok (next, type)) :
    next.Sound ∧ next.id = root.id ∧ next.entity = root.entity := by
  obtain ⟨accepted, rfl⟩ := (introduce_result_eq_ok_iff _ _ _ _ _ _ _).mp done
  obtain ⟨valid, _, _, _, belongs, _⟩ :=
    (TypeEntity.validate_result_eq_ok_iff _ _ _ _ _ _ _).mp accepted
  exact ⟨sound.publish belongs valid, rfl, rfl⟩

theorem Sound.introduceAll {settings : Settings} {next : Identity} {root final : Root}
    {types : List Class} (sound : root.Sound)
    (done : (introduceAll settings next root types).result = .ok final) :
    final.Sound ∧ final.id = root.id ∧ final.entity = root.entity := by
  induction types generalizing next root with
  | nil =>
    cases done
    exact ⟨sound, rfl, rfl⟩
  | cons cls rest ih =>
    simp only [Root.introduceAll, Traced.result_bind, bind_eq_ok_iff] at done
    obtain ⟨⟨grown, type⟩, introduced, remaining⟩ := done
    obtain ⟨grownSound, grownId, grownEntity⟩ := sound.introduce introduced
    obtain ⟨finalSound, finalId, finalEntity⟩ := ih grownSound remaining
    exact ⟨finalSound, finalId.trans grownId, finalEntity.trans grownEntity⟩

theorem sound_of_build {settings : Settings} {id : Identity} {cls : Class} {types : List Class}
    {root : Root} (built : (build settings id cls types).result = .ok root) :
    root.Sound ∧ root.id = id ∧ root.cls = cls ∧ root.entity.settings = settings := by
  simp only [build, Traced.result_bind, bind_eq_ok_iff] at built
  obtain ⟨entity, introspected, grown, introduced, _, _, same⟩ := built
  cases same
  obtain ⟨rfl, rfl, described⟩ := (Entity.introspect_eq_ok_iff _ _ _ _).mp introspected
  have fresh : Sound { id, entity, types := [] } :=
    ⟨described, List.Pairwise.nil, by simp, by simp⟩
  obtain ⟨sound, sameId, sameEntity⟩ := fresh.introduceAll introduced
  exact ⟨sound, sameId, congrArg Entity.cls sameEntity, congrArg Entity.settings sameEntity⟩

end Root

namespace Store

/-! ### What the operations on the store come to -/

theorem newRoot_result_eq_ok_iff (store : Store) (manager : Manager) (cls : Class)
    (types : List Class) (next : Store) (root : Root) :
    (store.newRoot manager cls types).result = .ok (next, root) ↔
      (Root.build manager.settings store.next cls types).result = .ok root ∧
        next = { store with
          roots := root :: store.roots, next := store.next + 1 + types.length } := by
  simp only [newRoot, Traced.result_bind, bind_eq_ok_iff]
  constructor
  · rintro ⟨_, built, same⟩
    cases same
    exact ⟨built, rfl⟩
  · rintro ⟨built, same⟩
    cases same
    exact ⟨root, built, rfl⟩

theorem rootEntity_result_eq_ok_iff (store : Store) (manager : Manager) (cls : Class)
    (types : List Class) (next : Store) (root : Root) :
    (store.rootEntity manager cls types).result = .ok (next, root) ↔
      (store.findRoot? manager cls.path = some root ∧ next = store) ∨
        store.findRoot? manager cls.path = none ∧ ∃ built,
          (store.newRoot manager cls types).result = .ok (built, root) ∧
            next = built.putManager
              { manager with kept := Keyed.place (·.1) (cls.path, root.id) manager.kept } := by
  unfold rootEntity
  cases kept : store.findRoot? manager cls.path with
  | some old =>
    constructor
    · intro done
      cases done
      exact .inl ⟨rfl, rfl⟩
    · rintro (⟨⟨⟩, rfl⟩ | ⟨absent, _⟩)
      · rfl
      · cases absent
  | none =>
    simp only [Traced.result_bind, bind_eq_ok_iff]
    constructor
    · rintro ⟨⟨built, fresh⟩, done, _, _, same⟩
      cases same
      exact .inr ⟨trivial, built, done, rfl⟩
    · rintro (⟨⟨⟩, _⟩ | ⟨_, built, done, rfl⟩)
      exact ⟨(built, root), done, (), rfl, rfl⟩

theorem register_result_eq_ok_iff (store : Store) (root : Root) (type : TypeEntity) (next : Store)
    (grown : Root) :
    (store.register root type).result = .ok (next, grown) ↔ type.rootId = root.id ∧
      grown = { root with types := Keyed.place TypeEntity.discriminator type root.types } ∧
        next = store.putRoot grown := by
  simp only [register, Traced.result_bind, bind_eq_ok_iff, Root.register_result_eq_ok_iff]
  constructor
  · rintro ⟨_, ⟨belongs, published⟩, same⟩
    cases same
    exact ⟨belongs, published, rfl⟩
  · rintro ⟨belongs, published, same⟩
    cases same
    exact ⟨grown, ⟨belongs, published⟩, rfl⟩

theorem registerDynamic_result_eq_ok_iff (store : Store) (root : Root) (manager : Manager)
    (cls : Class) (next : Store) (type : TypeEntity) :
    (store.registerDynamic root manager cls).result = .ok (next, type) ↔
      (TypeEntity.validate manager.settings store.next root.id root.cls cls true).result =
          .ok type ∧
        next = { store.putRoot
          { root with types := Keyed.place TypeEntity.discriminator type root.types } with
            next := store.next + 1 } := by
  simp only [registerDynamic, Traced.result_bind, bind_eq_ok_iff]
  constructor
  · rintro ⟨⟨grown, introducedType⟩, introduced, same⟩
    cases same
    obtain ⟨accepted, rfl⟩ := (Root.introduce_result_eq_ok_iff _ _ _ _ _ _ _).mp introduced
    exact ⟨accepted, rfl⟩
  · rintro ⟨accepted, same⟩
    cases same
    exact ⟨_, (Root.introduce_result_eq_ok_iff _ _ _ _ _ _ _).mpr ⟨accepted, rfl⟩, rfl⟩

/-- Every live root is sound, has an identity of its own, and was given it before. -/
structure Sound (store : Store) : Prop where
  distinct : (store.roots.map (·.id)).Nodup
  bounded : ∀ root ∈ store.roots, root.id < store.next
  roots : ∀ root ∈ store.roots, root.Sound

/-- A type whose root, if it is alive, has checked it. -/
def Admits (store : Store) (type : TypeEntity) : Prop :=
  type.rootId < store.next ∧
    ∀ root ∈ store.roots, root.id = type.rootId → type.ValidFor root.cls

/-- A sound store in which the types known before are as good as they were. -/
structure Follows (store before : Store) : Prop where
  sound : store.Sound
  admits : ∀ type, before.Admits type → store.Admits type

theorem Sound.follows_self {store : Store} (sound : store.Sound) : store.Follows store :=
  ⟨sound, fun _ admitted => admitted⟩

theorem Sound.root_eq {store : Store} (sound : store.Sound) {root other : Root}
    (member : root ∈ store.roots) (otherMember : other ∈ store.roots) (same : root.id = other.id) :
    root = other :=
  List.inj_on_of_nodup_map sound.distinct member otherMember same

theorem Sound.root?_eq {store : Store} (sound : store.Sound) {root : Root}
    (member : root ∈ store.roots) : store.root? root.id = some root := by
  have hit : ∃ found, store.root? root.id = some found := by
    refine Option.isSome_iff_exists.mp (List.find?_isSome.mpr ⟨root, member, by simp⟩)
  obtain ⟨found, search⟩ := hit
  have same : found.id = root.id := by simpa using List.find?_some search
  rw [search, sound.root_eq (List.mem_of_find?_eq_some search) member same]

theorem Sound.rootOf?_eq {store : Store} (sound : store.Sound) {root : Root} {type : TypeEntity}
    (live : root ∈ store.roots) (registered : type ∈ root.types) :
    store.rootOf? type = some root := by
  rw [rootOf?, (sound.roots root live).belong type registered]
  exact sound.root?_eq live

theorem Sound.admits_of_mem {store : Store} (sound : store.Sound) {root : Root} {type : TypeEntity}
    (live : root ∈ store.roots) (registered : type ∈ root.types) : store.Admits type := by
  have belongs := (sound.roots root live).belong type registered
  refine ⟨belongs ▸ sound.bounded root live, ?_⟩
  intro other otherLive same
  obtain rfl : other = root := sound.root_eq otherLive live (same.trans belongs)
  exact (sound.roots other otherLive).valid type registered

theorem mem_roots_of_root? {store : Store} {id : Identity} {root : Root}
    (found : store.root? id = some root) : root ∈ store.roots :=
  List.mem_of_find?_eq_some found

theorem Sound.addManager {store : Store} (sound : store.Sound) (settings : Settings) :
    (store.addManager settings).1.Follows store := by
  refine ⟨⟨sound.distinct, ?_, sound.roots⟩, ?_⟩
  · intro root live
    exact Nat.lt_succ_of_lt (sound.bounded root live)
  · intro type admitted
    exact ⟨Nat.lt_succ_of_lt admitted.1, admitted.2⟩

/-- A new root has an identity that no root and no type refers to yet. -/
theorem Sound.newRoot {store next : Store} {manager : Manager} {cls : Class} {types : List Class}
    {root : Root} (sound : store.Sound)
    (done : (store.newRoot manager cls types).result = .ok (next, root)) :
    next.Follows store := by
  obtain ⟨built, rfl⟩ := (newRoot_result_eq_ok_iff _ _ _ _ _ _).mp done
  obtain ⟨freshSound, freshId, _, _⟩ := Root.sound_of_build built
  have later : store.next < store.next + 1 + types.length :=
    Nat.lt_add_right _ (Nat.lt_succ_self _)
  have unused {id : Identity} (bound : id < store.next) : root.id ≠ id := by
    rw [freshId]
    exact Nat.ne_of_gt bound
  refine ⟨⟨?_, ?_, ?_⟩, ?_⟩
  · rw [List.map_cons, List.nodup_cons]
    refine ⟨?_, sound.distinct⟩
    intro taken
    obtain ⟨old, live, same⟩ := List.mem_map.mp taken
    exact unused (sound.bounded old live) same.symm
  · intro other live
    rcases List.mem_cons.mp live with rfl | live
    · exact freshId.symm ▸ later
    · exact Nat.lt_trans (sound.bounded other live) later
  · intro other live
    rcases List.mem_cons.mp live with rfl | live
    · exact freshSound
    · exact sound.roots other live
  · intro type ⟨bound, valid⟩
    refine ⟨Nat.lt_trans bound later, ?_⟩
    intro other live same
    rcases List.mem_cons.mp live with rfl | live
    · exact absurd same (unused bound)
    · exact valid other live same

/-- Replacing a root by a sound one of the same identity and class keeps the store sound. -/
theorem Sound.putRoot {store : Store} {root grown : Root} (sound : store.Sound)
    (live : root ∈ store.roots) (grownSound : grown.Sound) (sameId : grown.id = root.id)
    (sameEntity : grown.entity = root.entity) : (store.putRoot grown).Follows store := by
  have member {other : Root} (listed : other ∈ (store.putRoot grown).roots) :
      ∃ old ∈ store.roots, other.id = old.id ∧ other.cls = old.cls ∧
        (other = old ∨ other = grown) := by
    obtain ⟨old, oldLive, rfl⟩ := List.mem_map.mp listed
    refine ⟨old, oldLive, ?_⟩
    by_cases same : old.id = grown.id
    · have equal : old = root := sound.root_eq oldLive live (same.trans sameId)
      subst equal
      simp [same, Root.cls, sameEntity]
    · simp [same]
  have ids : (store.putRoot grown).roots.map (·.id) = store.roots.map (·.id) := by
    rw [Store.putRoot, List.map_map]
    apply List.map_congr_left
    intro old _
    by_cases same : old.id = grown.id <;> simp [same]
  refine ⟨⟨ids.symm ▸ sound.distinct, ?_, ?_⟩, ?_⟩
  · intro other listed
    obtain ⟨old, oldLive, same, _⟩ := member listed
    exact same ▸ sound.bounded old oldLive
  · intro other listed
    obtain ⟨old, oldLive, _, _, rfl | rfl⟩ := member listed
    · exact sound.roots other oldLive
    · exact grownSound
  · intro type ⟨bound, valid⟩
    refine ⟨bound, ?_⟩
    intro other listed same
    obtain ⟨old, oldLive, sameId, sameCls, _⟩ := member listed
    exact sameCls ▸ valid old oldLive (sameId ▸ same)

theorem Sound.rootEntity {store next : Store} {manager : Manager} {cls : Class} {types : List Class}
    {root : Root} (sound : store.Sound)
    (done : (store.rootEntity manager cls types).result = .ok (next, root)) :
    next.Follows store := by
  rcases (rootEntity_result_eq_ok_iff _ _ _ _ _ _).mp done with ⟨_, rfl⟩ | ⟨_, built, made, rfl⟩
  · exact sound.follows_self
  · have follows := sound.newRoot made
    exact ⟨⟨follows.sound.distinct, follows.sound.bounded, follows.sound.roots⟩, follows.admits⟩

theorem Sound.register {store next : Store} {root grown : Root} {type : TypeEntity}
    (sound : store.Sound) (live : root ∈ store.roots) (admitted : store.Admits type)
    (done : (store.register root type).result = .ok (next, grown)) : next.Follows store := by
  obtain ⟨belongs, rfl, rfl⟩ := (register_result_eq_ok_iff _ _ _ _ _).mp done
  have valid := admitted.2 root live belongs.symm
  exact sound.putRoot live ((sound.roots root live).publish belongs valid) rfl rfl

theorem Sound.registerDynamic {store next : Store} {root : Root} {manager : Manager} {cls : Class}
    {type : TypeEntity} (sound : store.Sound) (live : root ∈ store.roots)
    (done : (store.registerDynamic root manager cls).result = .ok (next, type)) :
    next.Follows store := by
  obtain ⟨accepted, rfl⟩ := (registerDynamic_result_eq_ok_iff _ _ _ _ _ _).mp done
  obtain ⟨valid, _, _, _, belongs, _⟩ :=
    (TypeEntity.validate_result_eq_ok_iff _ _ _ _ _ _ _).mp accepted
  have follows := sound.putRoot live ((sound.roots root live).publish belongs valid) rfl rfl
  refine ⟨⟨follows.sound.distinct, ?_, follows.sound.roots⟩, ?_⟩
  · intro other otherLive
    exact Nat.lt_succ_of_lt (follows.sound.bounded other otherLive)
  · intro known admitted
    obtain ⟨bound, valid⟩ := follows.admits known admitted
    exact ⟨Nat.lt_succ_of_lt bound, valid⟩

/-- Letting go of roots leaves fewer of them, each as it was. -/
theorem Sound.retain {store : Store} (sound : store.Sound) (managers roots : List Identity) :
    (store.retain managers roots).Follows store := by
  have kept {root : Root} (live : root ∈ (store.retain managers roots).roots) :
      root ∈ store.roots := (List.mem_filter.mp live).1
  refine ⟨⟨?_, ?_, ?_⟩, ?_⟩
  · exact sound.distinct.sublist (List.filter_sublist.map _)
  · exact fun root live => sound.bounded root (kept live)
  · exact fun root live => sound.roots root (kept live)
  · intro type ⟨bound, valid⟩
    exact ⟨bound, fun root live => valid root (kept live)⟩

end Store

end TypedRows
