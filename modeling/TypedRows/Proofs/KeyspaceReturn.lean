import TypedRows.Proofs.Reencoding

/-! The keyspace that an object goes back to. A decoded object holds the keyspace keys that were
supplied for it, whatever the columns of its row have said, so it is written to the keyspace that it
was read from. -/
namespace TypedRows

namespace KeyValues

variable {keys : KeyValues} {name : String}

theorem lookup_eq_some_iff (ascending : Keyed.Ascending (·.1) keys) (value : Value) :
    keys.lookup name = some value ↔ (name, value) ∈ keys := by
  induction keys with
  | nil => simp
  | cons first rest ih =>
    obtain ⟨before, ordered⟩ := List.pairwise_cons.mp ascending
    obtain ⟨firstName, firstValue⟩ := first
    by_cases same : name = firstName
    · subst same
      have absent : (name, value) ∉ rest := fun later => lt_irrefl name (before _ later)
      simp [absent, eq_comm]
    · rw [List.lookup_cons, beq_false_of_ne same, List.mem_cons]
      simp [same, ih ordered]

theorem lookup_filter {wanted : String → Bool} (want : wanted name = true) :
    (keys.filter fun entry => wanted entry.1).lookup name = keys.lookup name := by
  induction keys with
  | nil => rfl
  | cons first rest ih =>
    obtain ⟨firstName, firstValue⟩ := first
    by_cases same : name = firstName
    · subst same
      simp [want]
    · cases kept : wanted firstName <;> simp [kept, List.lookup_cons, beq_false_of_ne same, ih]

end KeyValues

namespace Entity

/-- Whether an entity has a keyspace key of the name. -/
def hasKey (entity : Entity) (name : String) : Bool :=
  entity.keyspaceKeys.any (·.columnName = name)

/-- What there is for the keys of an entity among some key values. -/
def restrict (entity : Entity) (keys : KeyValues) : KeyValues :=
  keys.filter fun entry => entity.hasKey entry.1

variable {entity : Entity} {keys : KeyValues}

theorem hasKey_iff {name : String} :
    entity.hasKey name = true ↔ ∃ field ∈ entity.keyspaceKeys, field.columnName = name := by
  simp [hasKey]

theorem lookup_restrict {field : Field} (member : field ∈ entity.keyspaceKeys) :
    (entity.restrict keys).lookup field.columnName = keys.lookup field.columnName :=
  KeyValues.lookup_filter (hasKey_iff.mpr ⟨field, member, rfl⟩)

/-- Only the keys of an entity have a say in its keyspaces. -/
theorem resolveKeyspace_restrict (entity : Entity) (keys : KeyValues) :
    entity.resolveKeyspace (entity.restrict keys) = entity.resolveKeyspace keys :=
  resolveKeyspace_congr fun _ _ _ found => lookup_restrict (List.mem_of_find?_eq_some found)

end Entity

theorem Context.keyValues_eq_restrict {context : Context} {boundary : Boundary} {keys : KeyValues}
    (described : context.entity.Describes boundary) (ascending : Keyed.Ascending (·.1) keys)
    (held : ∀ field ∈ context.entity.keyspaceKeys, ∃ value,
      keys.lookup field.columnName = some value ∧
        context.object.get? field.attributeName = some value) :
    context.keyValues = .ok (context.entity.restrict keys) := by
  let value (field : Field) : Value := (keys.lookup field.columnName).getD .null
  have supplied : ∀ field ∈ context.entity.keyspaceKeys,
      keys.lookup field.columnName = some (value field) := by
    intro field member
    obtain ⟨_, found, _⟩ := held field member
    simp [value, found]
  have values : context.keyValues =
      .ok (context.entity.keyspaceKeys.map fun field => (field.columnName, value field)) := by
    apply mapM_eq_ok_map
    intro field member
    obtain ⟨known, found, read⟩ := held field member
    obtain rfl : known = value field := Option.some.inj (found.symm.trans (supplied field member))
    rw [Field.valueOf, read]
    rfl
  have fields : Keyed.Ascending (·.1)
      (context.entity.keyspaceKeys.map fun field => (field.columnName, value field)) :=
    List.pairwise_map.mpr (Entity.ascending_keyspaceKeys described)
  have restricted : Keyed.Ascending (·.1) (context.entity.restrict keys) := ascending.filter _
  rw [values, fields.eq_of_mem_iff restricted]
  rintro ⟨name, known⟩
  simp only [Entity.restrict, List.mem_filter, List.mem_map, Entity.hasKey_iff, Prod.mk.injEq,
    ← KeyValues.lookup_eq_some_iff ascending]
  constructor
  · rintro ⟨field, member, rfl, rfl⟩
    exact ⟨supplied field member, field, member, rfl⟩
  · rintro ⟨found, field, member, rfl⟩
    exact ⟨field, member, rfl, Option.some.inj ((supplied field member).symm.trans found)⟩

namespace Session

/-- An object that a root decodes goes back to the keyspace that it was read from. The root wraps it,
its keyspace keys are those that were supplied, whatever the row has said about them, and they name
the keyspace that the supplied keys name. -/
theorem keyspaceName_of_decode {session : Session} {root : Root} {row : Row} {keys : KeyValues}
    {object : Object} (reached : session.Reachable) (live : root ∈ session.store.roots)
    (coherent : Class.Coherent (root.cls :: root.types.map (·.cls)))
    (configured : ∀ type ∈ root.types, type.entity.settings = root.entity.settings)
    (ascending : Keyed.Ascending (·.1) keys)
    (supplied : ∀ key ∈ root.entity.keyspaceKeys, (keys.lookup key.columnName).isSome = true)
    (apart : (root.entity.keyspaceKeys.map (·.attributeName)).Nodup)
    (exact : ∀ key ∈ root.entity.keyspaceKeys, object.shape.Exact key.attributeName)
    (decoded : (root.decode (some row) keys).result = .ok (.decoded object)) :
    ∃ context, root.wrap object = .ok context ∧ context.object = object ∧
      context.keyValues = .ok (root.entity.restrict keys) ∧
      ∀ name, context.keyspaceName = .ok name ↔ root.entity.resolveKeyspace keys = .ok name := by
  have sound := reached.sound.store.roots root live
  have classes : Class.Coherent (root.types.map (·.cls)) :=
    coherent.mono fun cls member => List.mem_cons_of_mem _ member
  obtain ⟨_, type, ⟨⟩, registered, _, yields⟩ := (sound.decodes keys).yields _ _ decoded
  obtain ⟨context, wrapped, rfl, rfl⟩ := sound.exists_wrap classes registered yields.classPath_eq
  have described := (sound.valid context.type registered).described
  have steering := sound.sameSteering registered (Root.coherent_pair coherent registered)
  have sameKeys := steering.keyspaceKeys_eq
  have held : ∀ field ∈ context.entity.keyspaceKeys, ∃ value,
      keys.lookup field.columnName = some value ∧
        context.object.get? field.attributeName = some value := by
    intro field member
    have isKey : field ∈ root.entity.keyspaceKeys := sameKeys ▸ member
    obtain ⟨value, found⟩ := Option.isSome_iff_exists.mp (supplied field isKey)
    refine ⟨value, found, ?_⟩
    refine (Entity.decoded_of_decode yields.decoded).key field member value found
      (exact field isKey) ?_
    intro other otherMember same written told
    have otherKey : other ∈ root.entity.keyspaceKeys := sameKeys ▸ otherMember
    obtain rfl := List.inj_on_of_nodup_map apart otherKey isKey same
    exact Option.some.inj (told.symm.trans found)
  have values := Context.keyValues_eq_restrict described ascending held
  have restricted : context.entity.restrict keys = root.entity.restrict keys := by
    unfold Entity.restrict Entity.hasKey
    rw [Context.entity, sameKeys]
  refine ⟨context, wrapped, rfl, restricted ▸ values, ?_⟩
  intro name
  have naming := congrArg Settings.naming (configured context.type registered)
  rw [Context.keyspaceName, values, ok_bind, Entity.resolveKeyspace_restrict]
  exact steering.resolveKeyspace_eq_ok_iff naming keys name

/-- The row is one of the north and the keys are those of the south, which prevail. -/
theorem keyspaceName_of_decode_boston :
    ∃ object context,
      (Greenhouse.root.decode
        (some (Row.ofColumns "garden_north" Greenhouse.plants.name Greenhouse.boston))
          [("planet", .text "earth"), ("region", .text "south")]).result =
        .ok (.decoded object) ∧
      Greenhouse.root.wrap object = .ok context ∧
      context.keyValues = .ok [("region", .text "south")] ∧
      context.keyspaceName = .ok "garden_south" := by
  obtain ⟨object, decoded, exact⟩ : ∃ object,
      (Greenhouse.root.decode
        (some (Row.ofColumns "garden_north" Greenhouse.plants.name Greenhouse.boston))
          [("planet", .text "earth"), ("region", .text "south")]).result =
        .ok (.decoded object) ∧ ∀ name, object.shape.Exact name :=
    ⟨_, rfl, Shape.exact_of_singleFree (by decide)⟩
  obtain ⟨context, wrapped, _, values, names⟩ :=
    keyspaceName_of_decode Greenhouse.reachable_opened Greenhouse.root_live Greenhouse.coherent
      (by decide) (List.pairwise_pair.mpr (by decide)) (by decide) (by decide)
      (fun key _ => exact key.attributeName) decoded
  have spelled : Keyspace.extend {} "garden" "south" = "garden_south" := by decide +kernel
  exact ⟨object, context, decoded, wrapped, values, spelled ▸ (names _).mpr rfl⟩

end Session

end TypedRows
