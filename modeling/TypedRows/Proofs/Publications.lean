import TypedRows.Proofs.Acceptance

/-! What registries hold over a whole run. Every root has, for each discriminator, the last type that
was published on it; and what was published was checked, refers back to that very root, and includes
every type that a name holds on to. -/
namespace TypedRows

namespace Publication

/-- The types that a history publishes on a root, in order. -/
def on (history : List Publication) (root : Identity) : List TypeEntity :=
  (history.filter (·.root = root)).map (·.type)

/-- The last type that a history publishes on a root under a discriminator. -/
def latest? (history : List Publication) (root : Identity) (discriminator : String) :
    Option TypeEntity :=
  ((on history root).filter (·.discriminator = discriminator)).getLast?

/-- A publication on a root that was there before `next`, of a type that refers to that root and was
checked. -/
structure Genuine (publication : Publication) (next : Identity) : Prop where
  bounded : publication.root < next
  belongs : publication.type.rootId = publication.root
  valid : ∃ root, publication.type.ValidFor root

variable {history : List Publication} {root : Identity}

theorem Genuine.mono {publication : Publication} {next later : Identity}
    (genuine : publication.Genuine next) (grown : next ≤ later) : publication.Genuine later :=
  ⟨Nat.lt_of_lt_of_le genuine.bounded grown, genuine.belongs, genuine.valid⟩

theorem mem_on_iff {type : TypeEntity} : type ∈ on history root ↔ ⟨root, type⟩ ∈ history := by
  simp only [on, List.mem_map, List.mem_filter, decide_eq_true_eq]
  constructor
  · rintro ⟨publication, ⟨member, rfl⟩, rfl⟩
    exact member
  · intro member
    exact ⟨_, ⟨member, rfl⟩, rfl⟩

theorem on_append (history later : List Publication) (root : Identity) :
    on (history ++ later) root = on history root ++ on later root := by
  rw [on, List.filter_append, List.map_append]
  rfl

theorem on_eq_nil (elsewhere : ∀ publication ∈ history, publication.root ≠ root) :
    on history root = [] := by
  simpa [on] using elsewhere

/-- Publishing on one root is no news for another. -/
theorem on_map_of_ne {other : Identity} (types : List TypeEntity) (apart : root ≠ other) :
    on (types.map (⟨root, ·⟩)) other = [] :=
  on_eq_nil (by simp [apart])

theorem on_map_self (types : List TypeEntity) (root : Identity) :
    on (types.map (⟨root, ·⟩)) root = types := by
  simp [on, List.filter_map, Function.comp_def]

end Publication

namespace TypeEntity

theorem valid_of_mem_declared {settings : Settings} {next rootId : Identity} {root : Class}
    {classes : List Class} {type : TypeEntity}
    (member : type ∈ declared settings next rootId root classes) :
    type.ValidFor root ∧ type.rootId = rootId := by
  induction classes generalizing next with
  | nil => cases member
  | cons cls rest ih =>
    unfold declared at member
    cases outcome : (validate settings next rootId root cls false).result with
    | error cause =>
      rw [outcome] at member
      cases member
    | ok first =>
      rw [outcome] at member
      rcases List.mem_cons.mp member with rfl | later
      · obtain ⟨valid, _, _, _, belongs, _⟩ :=
          (validate_result_eq_ok_iff _ _ _ _ _ _ _).mp outcome
        exact ⟨valid, belongs⟩
      · exact ih later

end TypeEntity

namespace Root

theorem introduceAll_eq {settings : Settings} {next : Identity} {root final : Root}
    {classes : List Class} (done : (introduceAll settings next root classes).result = .ok final) :
    final = { root with
      types := Keyed.placeAll TypeEntity.discriminator
        (TypeEntity.declared settings next root.id root.cls classes) root.types } := by
  induction classes generalizing next root with
  | nil =>
    cases done
    rfl
  | cons cls rest ih =>
    simp only [introduceAll, Traced.result_bind, bind_eq_ok_iff] at done
    obtain ⟨⟨grown, type⟩, introduced, remaining⟩ := done
    obtain ⟨accepted, rfl⟩ := (introduce_result_eq_ok_iff _ _ _ _ _ _ _).mp introduced
    rw [TypeEntity.declared, accepted]
    exact ih remaining

theorem types_of_build {settings : Settings} {id : Identity} {cls : Class} {classes : List Class}
    {root : Root} (built : (build settings id cls classes).result = .ok root) :
    root.types = Keyed.placeAll TypeEntity.discriminator
      (TypeEntity.declared settings (root.id + 1) root.id root.cls classes) [] := by
  simp only [build, Traced.result_bind, bind_eq_ok_iff] at built
  obtain ⟨entity, _, grown, introduced, _, _, same⟩ := built
  cases same
  obtain rfl := introduceAll_eq introduced
  rfl

end Root

namespace Store

/-- Every live root has, for each discriminator, the last type that was published on it. -/
structure Records (store : Store) (history : List Publication) : Prop where
  registries : ∀ root ∈ store.roots, root.types =
    Keyed.placeAll TypeEntity.discriminator (Publication.on history root.id) []
  genuine : ∀ publication ∈ history, publication.Genuine store.next

namespace Records

variable {store next : Store} {history : List Publication} (records : store.Records history)

include records

theorem of_roots (kept : ∀ root ∈ next.roots, root ∈ store.roots) (later : store.next ≤ next.next) :
    next.Records history where
  registries root live := records.registries root (kept root live)
  genuine publication member := (records.genuine publication member).mono later

theorem genuine_append {fresh : List Publication} {later : Identity} (grown : store.next ≤ later)
    (genuine : ∀ publication ∈ fresh, publication.Genuine later) :
    ∀ publication ∈ history ++ fresh, publication.Genuine later := by
  intro publication member
  rcases List.mem_append.mp member with old | new
  · exact (records.genuine publication old).mono grown
  · exact genuine publication new

/-- Nothing was published on a root before it was there. -/
theorem on_next : Publication.on history store.next = [] := by
  apply Publication.on_eq_nil
  intro publication member
  exact Nat.ne_of_lt (records.genuine publication member).bounded

theorem newRoot (sound : store.Sound) {manager : Manager} {cls : Class} {types : List Class}
    {root : Root} (done : (store.newRoot manager cls types).result = .ok (next, root)) :
    next.Records (history ++ store.publishedByNew manager cls types) := by
  rw [publishedByNew, done]
  obtain ⟨built, rfl⟩ := (newRoot_result_eq_ok_iff _ _ _ _ _ _).mp done
  have freshId : root.id = store.next := (Root.sound_of_build built).2.1
  have later : store.next < store.next + 1 + types.length :=
    Nat.lt_add_right _ (Nat.lt_succ_self _)
  refine ⟨?_, records.genuine_append (Nat.le_of_lt later) ?_⟩
  · intro other live
    rw [Publication.on_append]
    rcases List.mem_cons.mp live with rfl | live
    · rw [freshId, records.on_next, ← freshId, Publication.on_map_self, List.nil_append]
      exact Root.types_of_build built
    · have apart : root.id ≠ other.id := freshId ▸ Nat.ne_of_gt (sound.bounded other live)
      rw [Publication.on_map_of_ne _ apart, List.append_nil]
      exact records.registries other live
  · intro publication member
    obtain ⟨type, declared, rfl⟩ := List.mem_map.mp member
    obtain ⟨valid, belongs⟩ := TypeEntity.valid_of_mem_declared declared
    exact ⟨freshId ▸ later, belongs, root.cls, valid⟩

theorem rootEntity (sound : store.Sound) {manager : Manager} {cls : Class} {types : List Class}
    {root : Root} (done : (store.rootEntity manager cls types).result = .ok (next, root)) :
    next.Records (history ++ store.publishedByAsking manager cls types) := by
  rcases (rootEntity_result_eq_ok_iff _ _ _ _ _ _).mp done with
    ⟨kept, rfl⟩ | ⟨absent, built, made, rfl⟩
  · rw [publishedByAsking_of_kept kept, List.append_nil]
    exact records
  · rw [publishedByAsking_of_absent absent]
    exact (records.newRoot sound made).of_roots (fun _ live => live) (Nat.le_refl _)

theorem place (sound : store.Sound) {root : Root} {type : TypeEntity} (live : root ∈ store.roots)
    (belongs : type.rootId = root.id) (valid : type.ValidFor root.cls) :
    (store.putRoot
      { root with types := Keyed.place TypeEntity.discriminator type root.types }).Records
        (history ++ [⟨root.id, type⟩]) := by
  refine ⟨?_, records.genuine_append (Nat.le_refl _) ?_⟩
  · intro other listed
    obtain ⟨old, oldLive, rfl⟩ := List.mem_map.mp listed
    by_cases same : old.id = root.id
    · obtain rfl : old = root := sound.root_eq oldLive live same
      simp only [if_true, Publication.on_append]
      rw [Keyed.placeAll_append, ← records.registries old live]
      exact congrArg (Keyed.placeAll _ · old.types) (Publication.on_map_self [type] old.id).symm
    · have none : Publication.on [⟨root.id, type⟩] old.id = [] :=
        Publication.on_map_of_ne [type] fun equal => same equal.symm
      simp only [same, if_false, Publication.on_append, none, List.append_nil]
      exact records.registries old oldLive
  · intro publication member
    obtain rfl := List.mem_singleton.mp member
    exact ⟨sound.bounded root live, belongs, root.cls, valid⟩

theorem registerDynamic (sound : store.Sound) {root : Root} {manager : Manager} {cls : Class}
    {type : TypeEntity} (live : root ∈ store.roots)
    (done : (store.registerDynamic root manager cls).result = .ok (next, type)) :
    next.Records (history ++ [⟨root.id, type⟩]) := by
  obtain ⟨accepted, rfl⟩ := (registerDynamic_result_eq_ok_iff _ _ _ _ _ _).mp done
  obtain ⟨valid, _, _, _, belongs, _⟩ :=
    (TypeEntity.validate_result_eq_ok_iff _ _ _ _ _ _ _).mp accepted
  exact (records.place sound live belongs valid).of_roots (fun _ listed => listed)
    (Nat.le_succ _)

theorem register (sound : store.Sound) {root grown : Root} {type : TypeEntity}
    (live : root ∈ store.roots) (admitted : store.Admits type)
    (done : (store.register root type).result = .ok (next, grown)) :
    next.Records (history ++ [⟨root.id, type⟩]) := by
  obtain ⟨belongs, rfl, rfl⟩ := (register_result_eq_ok_iff _ _ _ _ _).mp done
  exact records.place sound live belongs (admitted.2 root live belongs.symm)

theorem find?_eq_latest? {root : Root} (live : root ∈ store.roots) (discriminator : String) :
    root.find? discriminator = Publication.latest? history root.id discriminator := by
  rw [Root.find?, records.registries root live, Keyed.find?_placeAll]
  rfl

theorem mem_of_registered (sound : store.Sound) {root : Root} {type : TypeEntity}
    (live : root ∈ store.roots) (registered : type ∈ root.types) : ⟨root.id, type⟩ ∈ history := by
  have found : root.find? type.discriminator = some type :=
    (Keyed.find?_eq_some_iff (sound.roots root live).ascending).mpr ⟨registered, rfl⟩
  rw [records.find?_eq_latest? live] at found
  exact Publication.mem_on_iff.mp (List.mem_filter.mp (List.mem_of_getLast? found)).1

end Records

end Store

/-- What can be relied on once a type is found in the registry of a root: it stands under its own
discriminator, refers back to that very root, and is a concrete class below the root that was
introspected without a violation. -/
structure Store.Serves (store : Store) (root : Root) (type : TypeEntity) : Prop where
  found : root.lookup type.discriminator = .ok type
  tagged : type.cls.own.discriminator = some type.discriminator
  rootOf : store.rootOf? type = some root
  owner : ∀ other ∈ store.roots, other.id = type.rootId → other = root
  made : ∃ fresh, type.cls.own.factory = some fresh ∧ fresh.classPath = type.path
  descends : root.cls.isAssignableFrom type.cls = true
  introspected : Entity.introspect type.entity.settings .type type.cls = .ok type.entity
  consistent : type.entity.allViolations root.cls = []

theorem Store.Sound.serves {store : Store} (sound : store.Sound) {root : Root} {type : TypeEntity}
    (live : root ∈ store.roots) (registered : type ∈ root.types) : store.Serves root type := by
  have rootSound := sound.roots root live
  have valid := rootSound.valid type registered
  have belongs := rootSound.belong type registered
  refine {
    found := (required_eq_ok_iff _ _ _).mpr
      ((Keyed.find?_eq_some_iff rootSound.ascending).mpr ⟨registered, rfl⟩)
    tagged := valid.tagged
    rootOf := sound.rootOf?_eq live registered
    owner := fun other otherLive same => sound.root_eq otherLive live (same.trans belongs)
    made := valid.made
    descends := valid.descends
    introspected := (Entity.introspect_eq_ok_iff _ _ _ _).mpr ⟨rfl, rfl, valid.described⟩
    consistent := (Entity.allViolations_eq_nil_iff root.cls valid.described).mpr valid.steered }

namespace Session

/-- The session that requests lead to. -/
def after (session : Session) (requests : List Request) : Session :=
  requests.foldl (fun before request => (before.run request).2.2) session

/-- Everything that requests publish, in order. -/
def published (session : Session) : List Request → List Publication
  | [] => []
  | request :: rest =>
    session.publishes request.action ++ (session.run request).2.2.published rest

/-- A sound session whose registries are those of a history, which has every type that a name holds
on to. -/
structure Recorded (session : Session) (history : List Publication) : Prop where
  sound : session.Sound
  records : session.store.Records history
  held : ∀ type, session.Holds type → ∃ root, ⟨root, type⟩ ∈ history

namespace Recorded

variable {session : Session} {history : List Publication} (recorded : session.Recorded history)

include recorded

theorem of_evolves {published : List Publication} {store : Store}
    (evolves : session.Evolves published store) : store.Records (history ++ published) := by
  have sound := recorded.sound.store
  cases evolves with
  | stays => simpa using recorded.records
  | manages settings =>
    rw [List.append_nil]
    exact recorded.records.of_roots (fun _ live => live) (Nat.le_succ _)
  | asks done => exact recorded.records.rootEntity sound done
  | builds done => exact recorded.records.newRoot sound done
  | introduces live done => exact recorded.records.registerDynamic sound live done
  | registers live held done =>
    exact recorded.records.register sound live (recorded.sound.admits_of_holds held) done

theorem forget (name : String) : (session.forget name).Recorded history := by
  refine ⟨recorded.sound.forget name, recorded.records, ?_⟩
  intro type ⟨entry, kept, holds⟩
  exact recorded.held type ⟨entry, (List.mem_filter.mp kept).1, holds⟩

theorem keep {name : String} {entry : Entry}
    (known : ∀ type, entry.held? = some type → session.Knows type) :
    (session.keep name entry).Recorded history := by
  have listed : ∀ type, session.Knows type → ∃ root, ⟨root, type⟩ ∈ history := by
    intro type knows
    rcases knows with held | ⟨root, live, registered⟩
    · exact recorded.held type held
    · exact ⟨root.id, recorded.records.mem_of_registered recorded.sound.store live registered⟩
  have admitted : ∀ type, entry.held? = some type → session.store.Admits type := by
    intro type held
    rcases known type held with named | ⟨root, live, registered⟩
    · exact recorded.sound.admits_of_holds named
    · exact recorded.sound.store.admits_of_mem live registered
  refine ⟨recorded.sound.keep admitted, recorded.records, ?_⟩
  intro type ⟨other, kept, holds⟩
  rcases Keyed.mem_of_mem_place kept with rfl | present
  · exact listed type (known type holds)
  · exact recorded.held type ⟨other, present, holds⟩

theorem settle : session.settle.Recorded history := by
  refine ⟨recorded.sound.settle, ?_, recorded.held⟩
  exact recorded.records.of_roots (fun _ live => (List.mem_filter.mp live).1) (Nat.le_refl _)

theorem of_performs {action : Action} {reply : Reply} (performs : session.Performs action reply) :
    reply.session.Recorded (history ++ session.publishes action) := by
  have keeps := recorded.sound.keeps_of_performs performs
  refine ⟨recorded.sound.of_keeps keeps, recorded.of_evolves performs.store, ?_⟩
  intro type ⟨entry, kept, holds⟩
  obtain ⟨root, member⟩ := recorded.held type ⟨entry, performs.entries ▸ kept, holds⟩
  exact ⟨root, List.mem_append_left _ member⟩

/-- One request adds what it publishes to the history. -/
theorem run (request : Request) :
    (session.run request).2.2.Recorded (history ++ session.publishes request.action) := by
  obtain ⟨opened, reply, opening, same, performs, ending⟩ := session.exists_performs_run request
  have started : opened.Recorded history := by
    rcases opening with rfl | ⟨name, rfl⟩
    · exact recorded
    · exact recorded.forget name
  have performed := started.of_performs performs
  rw [same] at performed
  rcases ending with ended | ⟨name, entry, resulted, ended⟩
  · rw [ended]
    exact performed.settle
  · rw [ended]
    exact (performed.keep (performs.result entry resulted)).settle

theorem after (requests : List Request) :
    (session.after requests).Recorded (history ++ session.published requests) := by
  induction requests generalizing session history with
  | nil => simpa [Session.after, published] using recorded
  | cons request rest ih =>
    have later := ih (recorded.run request)
    rw [List.append_assoc] at later
    exact later

end Recorded

/-- Whatever is requested, the registries are those of everything that was published. -/
theorem recorded_after (requests : List Request) :
    (({} : Session).after requests).Recorded (({} : Session).published requests) := by
  have start : ({} : Session).Recorded [] := by
    refine ⟨Reachable.start.sound, ⟨by simp, by simp⟩, ?_⟩
    rintro type ⟨entry, kept, _⟩
    cases kept
  exact start.after requests

/-- Whatever is requested, the registry of a live root has, for each discriminator, the last type that
was published on that root under it, and no other types. The types ascend by discriminator, a class
path finds a type of that path if there is one, and every registered type can be relied on. -/
theorem registry_of_published (requests : List Request) {root : Root}
    (live : root ∈ (({} : Session).after requests).store.roots) :
    let latest? := Publication.latest? (({} : Session).published requests) root.id
    (∀ discriminator, root.lookup discriminator =
      required (latest? discriminator) (.typeNotFound root.path discriminator)) ∧
    (∀ type, type ∈ root.types ↔ ∃ discriminator, latest? discriminator = some type) ∧
    Keyed.Ascending TypeEntity.discriminator root.types ∧
    (∀ path, (root.typeForClass? path).isSome = true ↔ ∃ type ∈ root.types, type.path = path) ∧
    (∀ path type, root.typeForClass? path = some type → type ∈ root.types ∧ type.path = path) ∧
    ∀ type ∈ root.types, (({} : Session).after requests).store.Serves root type := by
  intro latest?
  obtain ⟨⟨sound, _⟩, records, _⟩ := recorded_after requests
  have ascending := (sound.roots root live).ascending
  have found (discriminator : String) : root.find? discriminator = latest? discriminator :=
    records.find?_eq_latest? live discriminator
  refine ⟨?_, ?_, ascending, ?_, ?_, fun type registered => sound.serves live registered⟩
  · intro discriminator
    rw [Root.lookup, found]
  · intro type
    simp only [← found, Root.find?, Keyed.find?_eq_some_iff ascending]
    simp
  · intro path
    simp [Root.typeForClass?]
  · intro path type hit
    exact ⟨List.mem_of_find?_eq_some hit, by simpa using List.find?_some hit⟩

end Session

namespace Menagerie

/-- A class that claims the discriminator of dogs. -/
def hound : Class := .below
  { path := "zoo::Hound"
    factory := some (newborn "Hound" "zoo::Hound" [] .nil)
    discriminator := some "dog" } animal

/-- Dogs give way to hounds and are published again. -/
def contested : List Request :=
  [⟨.addManager none, some "manager"⟩,
    ⟨.rootEntity "manager" animal [dog, puppy, cat], some "animals"⟩,
    ⟨.lookup "animals" "dog", some "dogs"⟩,
    ⟨.registerDynamic "animals" "manager" hound, some "hounds"⟩,
    ⟨.register "animals" "dogs", none⟩]

end Menagerie

theorem Session.registry_of_published_dogs :
    ∃ root ∈ (({} : Session).after Menagerie.contested).store.roots,
      (({} : Session).published Menagerie.contested).length = 5 ∧
        (root.lookup "dog").map TypeEntity.path = .ok "zoo::Dog" := by
  have live : ∃ root, root ∈ (({} : Session).after Menagerie.contested).store.roots :=
    ⟨_, List.head_mem (by decide)⟩
  obtain ⟨root, live⟩ := live
  obtain ⟨lookup, _⟩ := registry_of_published Menagerie.contested live
  refine ⟨root, live, rfl, ?_⟩
  rw [lookup]
  have only : root = (({} : Session).after Menagerie.contested).store.roots.head (by decide) :=
    List.mem_singleton.mp live
  rw [only]
  rfl

end TypedRows
