import TypedRows.Proofs.Introspection
import TypedRows.Proofs.Lineage
import TypedRows.Registry.TypeEntity

/-! When a class is accepted as a type entity. No violation is found exactly if everything that
steers the rows of the type is visible from the root, whatever the validation mode. -/
namespace TypedRows

namespace Entity

/-- Everything that steers the rows of an entity is declared where the root can see it. -/
structure SteeredFrom (entity : Entity) (root : Class) : Prop where
  keys : ∀ key ∈ entity.keyspaceKeys, key.declaredIn = root.path
  keyspace : entity.keyspaceHolder.isAssignableFrom root = true
  tables : entity.tableHolder.isAssignableFrom root = true
  parts : ∀ table ∈ entity.tables, ∀ field ∈ table.fields, field.decl.PlaysPart →
    Class.visibleFrom field.declaredIn root = true

theorem mem_keyspaceKeys_iff {entity : Entity} {boundary : Boundary} {field : Field}
    (described : entity.Describes boundary) :
    field ∈ entity.keyspaceKeys ↔ field ∈ entity.cls.keyFields := by
  rw [described.keyspaceKeys,
    Keyed.mem_placeAll_iff List.Pairwise.nil described.distinctKeys (by simp)]
  simp

theorem map_name_tables {entity : Entity} {boundary : Boundary}
    (described : entity.Describes boundary) :
    entity.tables.map (·.name) = entity.tableHolder.own.tables :=
  Table.map_name_of_builtFrom described.tables

theorem builtFrom_of_mem_tables {entity : Entity} {boundary : Boundary} {table : Table}
    (described : entity.Describes boundary) (member : table ∈ entity.tables) :
    table.BuiltFrom table.name entity.cls.fields :=
  Table.builtFrom_of_mem described.tables member

theorem tables_ne_nil {entity : Entity} {boundary : Boundary}
    (described : entity.Describes boundary) : entity.tables ≠ [] := by
  have annotated := List.find?_some described.tableHolder
  intro empty
  have names := map_name_tables described
  rw [empty, List.map_nil] at names
  simp [← names] at annotated

theorem keyspaceKeyViolations_eq_nil_iff (entity : Entity) (root : Class) :
    entity.keyspaceKeyViolations root = [] ↔
      ∀ key ∈ entity.keyspaceKeys, key.declaredIn = root.path := by
  simp [keyspaceKeyViolations]

theorem keyspaceViolations_eq_nil_iff (entity : Entity) (root : Class) :
    entity.keyspaceViolations root = [] ↔ entity.keyspaceHolder.isAssignableFrom root = true := by
  simp [keyspaceViolations]

theorem tableViolations_eq_nil_iff {entity : Entity} {boundary : Boundary} (root : Class)
    (described : entity.Describes boundary) :
    entity.tableViolations root = [] ↔ entity.tableHolder.isAssignableFrom root = true := by
  simp [tableViolations, tables_ne_nil described]

theorem keyFieldViolations_eq_nil_iff {table : Table} {name : String} {all : List Field}
    (root : Class) (built : table.BuiltFrom name all) :
    keyFieldViolations root table = [] ↔ ∀ field ∈ table.fields, field.decl.PlaysPart →
      Class.visibleFrom field.declaredIn root = true := by
  have played (field : Field) :
      (∃ role, (role, field) ∈ table.keyFields) ↔ field ∈ table.fields ∧ field.decl.PlaysPart :=
    Table.exists_mem_keyFields_iff built
  simp only [keyFieldViolations, List.map_eq_nil_iff, List.filter_eq_nil_iff, Prod.forall,
    Bool.not_eq_true', Bool.not_eq_false]
  constructor
  · intro visible field member part
    obtain ⟨role, listed⟩ := (played field).mpr ⟨member, part⟩
    exact visible role field listed
  · intro visible role field listed
    obtain ⟨member, part⟩ := (played field).mp ⟨role, listed⟩
    exact visible field member part

theorem allViolations_eq_nil_iff {entity : Entity} {boundary : Boundary} (root : Class)
    (described : entity.Describes boundary) :
    entity.allViolations root = [] ↔ entity.SteeredFrom root := by
  simp only [allViolations, List.append_eq_nil_iff, List.flatMap_eq_nil_iff,
    keyspaceKeyViolations_eq_nil_iff, keyspaceViolations_eq_nil_iff,
    tableViolations_eq_nil_iff root described]
  constructor
  · intro ⟨⟨⟨keys, keyspace⟩, tables⟩, parts⟩
    refine ⟨keys, keyspace, tables, ?_⟩
    intro table member
    have built := builtFrom_of_mem_tables described member
    exact (keyFieldViolations_eq_nil_iff root built).mp (parts table member)
  · intro steered
    refine ⟨⟨⟨steered.keys, steered.keyspace⟩, steered.tables⟩, ?_⟩
    intro table member
    have built := builtFrom_of_mem_tables described member
    exact (keyFieldViolations_eq_nil_iff root built).mpr (steered.parts table member)

end Entity

/-- Whether the new objects of a class are of the shape of the given one. -/
def ClassDecl.Makes (decl : ClassDecl) (object : Object) : Prop :=
  ∃ fresh, decl.factory = some fresh ∧ fresh.shape = object.shape

theorem ClassDecl.Makes.classPath_eq {decl : ClassDecl} {object : Object} {path : String}
    (makes : decl.Makes object)
    (own : ∃ fresh, decl.factory = some fresh ∧ fresh.classPath = path) :
    object.classPath = path := by
  obtain ⟨fresh, made, shaped⟩ := makes
  obtain ⟨other, same, answers⟩ := own
  obtain rfl : fresh = other := Option.some.inj (made.symm.trans same)
  rw [Object.classPath, ← shaped]
  exact answers

namespace TypeEntity

/-- A class passes the checks of a type entity exactly if it is concrete, makes objects of its own
path, is described by an entity that is steered from the root, has a discriminator and descends from
the root. -/
theorem check_eq_ok_iff (settings : Settings) (root cls : Class) (entity : Entity)
    (discriminator : String) :
    check settings root cls = .ok (entity, discriminator) ↔
      (∃ fresh, cls.own.factory = some fresh ∧ fresh.classPath = cls.path) ∧
        entity.cls = cls ∧ entity.settings = settings ∧ entity.Describes .type ∧
        cls.own.discriminator = some discriminator ∧ root.isAssignableFrom cls = true ∧
        entity.SteeredFrom root := by
  simp only [check, bind_eq_ok_iff, require_eq_ok_iff, required_eq_ok_iff, decide_eq_true_eq,
    Entity.introspect_eq_ok_iff, List.isEmpty_iff, Entity.violations_eq_nil_iff]
  constructor
  · intro holds
    obtain ⟨fresh, made, _, produced, built, ⟨rfl, rfl, described⟩, tag, tagged, _, descends, _,
      clean, same⟩ := holds
    cases same
    exact ⟨⟨fresh, made, produced⟩, rfl, rfl, described, tagged, descends,
      (Entity.allViolations_eq_nil_iff root described).mp clean⟩
  · intro holds
    obtain ⟨⟨fresh, made, produced⟩, rfl, rfl, described, tagged, descends, steered⟩ := holds
    exact ⟨fresh, made, (), produced, entity, ⟨rfl, rfl, described⟩, discriminator, tagged, (),
      descends, (), (Entity.allViolations_eq_nil_iff root described).mpr steered, rfl⟩

/-- A type entity as the checks against its root class leave it. -/
structure ValidFor (type : TypeEntity) (root : Class) : Prop where
  made : ∃ fresh, type.cls.own.factory = some fresh ∧ fresh.classPath = type.path
  described : type.entity.Describes .type
  tagged : type.cls.own.discriminator = some type.discriminator
  descends : root.isAssignableFrom type.cls = true
  steered : type.entity.SteeredFrom root
  rootPath_eq : type.rootPath = root.path

theorem validate_result_eq_ok_iff (settings : Settings) (id rootId : Identity) (root cls : Class)
    (isDynamic : Bool) (type : TypeEntity) :
    (validate settings id rootId root cls isDynamic).result = .ok type ↔
      type.ValidFor root ∧ type.cls = cls ∧ type.entity.settings = settings ∧ type.id = id ∧
        type.rootId = rootId ∧ type.isDynamic = isDynamic := by
  simp only [validate, Traced.result_bind, bind_eq_ok_iff]
  constructor
  · intro holds
    obtain ⟨⟨entity, discriminator⟩, checked, _, _, same⟩ := holds
    obtain ⟨made, rfl, configured, described, tagged, descends, steered⟩ :=
      (check_eq_ok_iff _ _ _ _ _).mp checked
    cases same
    exact ⟨⟨made, described, tagged, descends, steered, rfl⟩, rfl, configured, rfl, rfl, rfl⟩
  · obtain ⟨_, _, _, entity, discriminator, _⟩ := type
    intro holds
    obtain ⟨⟨made, described, tagged, descends, steered, rfl⟩, rfl, rfl, rfl, rfl, rfl⟩ := holds
    have checked : check entity.settings root entity.cls = .ok (entity, discriminator) :=
      (check_eq_ok_iff _ _ _ _ _).mpr
        ⟨made, rfl, rfl, described, tagged, descends, steered⟩
    exact ⟨(entity, discriminator), checked, (), rfl, rfl⟩

end TypeEntity

end TypedRows
