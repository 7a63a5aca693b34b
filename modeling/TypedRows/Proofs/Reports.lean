import TypedRows.Proofs.RootCache
import TypedRows.Registry.Report

/-! What a report tells about a manager. It has a section for each kept root, the root first and
then its types, and nothing in a section is left out or made up. From the sections alone follows
that the entries of types stand for the pairs of a class path and a discriminator that can be looked
up. -/
namespace TypedRows

/-- The texts of kinds tell the kinds apart, however deep their lists are. -/
theorem Kind.render_injective : Function.Injective Kind.render := by
  intro first second same
  induction first generalizing second with
  | list item ih =>
    cases second with
    | list other =>
      rw [render, render, String.append_left_inj, String.append_right_inj] at same
      rw [ih same]
    | _ =>
      have heads := congrArg (·.toList.head?) same
      simp [render] at heads
  | _ =>
    cases second with
    | list other =>
      have heads := congrArg (·.toList.head?) same
      simp [render] at heads
    | _ => first | rfl | exact absurd same (by decide)

/-! ### Entries -/

/-- A column as a report tells it: its name, its kind and no other one, and the class that declares
it. -/
structure ColumnReport.Describes (column : ColumnReport) (field : Field) : Prop where
  name : column.name = field.columnName
  kind : ∀ kind : Kind, column.kind = kind.render ↔ kind = field.kind
  declaredIn : column.declaredIn = field.declaredIn
  roles : column.roles = field.decl.roles

/-- A table as a report tells it, column by column. -/
structure TableReport.Describes (told : TableReport) (table : Table) : Prop where
  name : told.name = table.name
  columns : List.Forall₂ ColumnReport.Describes told.columns table.fields

namespace EntityReport

/-- The shape of an entity as a report tells it, table by table. -/
structure Describes (entry : EntityReport) (entity : Entity) : Prop where
  path : entry.path = entity.cls.path
  keyspace : entry.keyspace = entity.keyspace.baseName entity.settings.naming
  keyspaceKeys : entry.keyspaceKeys = entity.keyspaceKeys.map (·.columnName)
  tables : List.Forall₂ TableReport.Describes entry.tables entity.tables

/-- An entry for a root, which is its own root and has no discriminator. -/
structure DescribesRoot (entry : EntityReport) (root : Root) : Prop
    extends entry.Describes root.entity where
  root_eq : entry.root = entry.path
  discriminator : entry.discriminator = none
  isDynamic : entry.isDynamic = false

/-- An entry for a type of a root. -/
structure DescribesType (root : Root) (entry : EntityReport) (type : TypeEntity) : Prop
    extends entry.Describes type.entity where
  root_eq : entry.root = root.path
  discriminator : entry.discriminator = some type.discriminator
  isDynamic : entry.isDynamic = type.isDynamic

end EntityReport

theorem Field.report_describes (field : Field) : field.report.Describes field where
  name := rfl
  kind kind := by
    constructor
    · intro same
      exact (Kind.render_injective same).symm
    · intro same
      rw [same]
      rfl
  declaredIn := rfl
  roles := rfl

theorem Table.report_describes (table : Table) : table.report.Describes table where
  name := rfl
  columns := List.forall₂_map_left_iff.mpr (List.forall₂_same.mpr fun field _ =>
    field.report_describes)

namespace EntityReport

theorem forall₂_tables (tables : List Table) :
    List.Forall₂ TableReport.Describes (tables.map (·.report)) tables :=
  List.forall₂_map_left_iff.mpr (List.forall₂_same.mpr fun table _ => table.report_describes)

theorem ofRoot_describes (root : Root) : (ofRoot root).DescribesRoot root where
  path := rfl
  keyspace := rfl
  keyspaceKeys := rfl
  tables := forall₂_tables root.entity.tables
  root_eq := rfl
  discriminator := rfl
  isDynamic := rfl

theorem ofType_describes {root : Root} {type : TypeEntity} (owned : type.rootPath = root.path) :
    DescribesType root (ofType type) type where
  path := rfl
  keyspace := rfl
  keyspaceKeys := rfl
  tables := forall₂_tables type.entity.tables
  root_eq := owned
  discriminator := rfl
  isDynamic := rfl

/-! ### Sections -/

/-- A report has one section for each root: the root, and then its types. -/
inductive Lists : List EntityReport → List Root → Prop where
  | nil : Lists [] []
  | root {root : Root} {roots : List Root} {entry : EntityReport} {types later : List EntityReport}
      (described : entry.DescribesRoot root)
      (typesDescribed : List.Forall₂ (DescribesType root) types root.types)
      (rest : Lists later roots) : Lists (entry :: types ++ later) (root :: roots)

/-- The class path of the root and the discriminator under which a type is looked up, if the entry
is one of a type. -/
def pair? (entry : EntityReport) : Option (String × String) :=
  entry.discriminator.map (entry.root, ·)

/-- The pairs under which the types of some roots stand. -/
def pairs (roots : List Root) : List (String × String) :=
  roots.flatMap fun root => root.types.map fun type => (root.path, type.discriminator)

variable {report : List EntityReport} {roots : List Root}

theorem filterMap_pair?_of_forall₂ {root : Root} {entries : List EntityReport}
    {types : List TypeEntity} (described : List.Forall₂ (DescribesType root) entries types) :
    entries.filterMap pair? = types.map fun type => (root.path, type.discriminator) := by
  induction described with
  | nil => rfl
  | cons one rest ih =>
    rw [List.filterMap_cons_some (by rw [pair?, one.discriminator, one.root_eq]; rfl), ih,
      List.map_cons]

theorem Lists.filterMap_pair? (lists : Lists report roots) :
    report.filterMap pair? = pairs roots := by
  induction lists with
  | nil => rfl
  | root described typesDescribed rest ih =>
    rw [List.cons_append, List.filterMap_cons_none (by rw [pair?, described.discriminator]; rfl),
      List.filterMap_append, filterMap_pair?_of_forall₂ typesDescribed, ih]
    rfl

theorem Lists.exists_of_mem (lists : Lists report roots) {entry : EntityReport}
    (member : entry ∈ report) {discriminator : String}
    (told : entry.discriminator = some discriminator) :
    ∃ root ∈ roots, ∃ type ∈ root.types, DescribesType root entry type := by
  induction lists with
  | nil => cases member
  | root described typesDescribed rest ih =>
    rcases List.mem_append.mp member with within | later
    · rcases List.mem_cons.mp within with same | listed
      · rw [same, described.discriminator] at told
        cases told
      · obtain ⟨type, registered, describes⟩ := exists_mem_of_forall₂ typesDescribed listed
        exact ⟨_, List.mem_cons_self, type, registered, describes⟩
    · obtain ⟨root, kept, found⟩ := ih later
      exact ⟨root, List.mem_cons_of_mem _ kept, found⟩

theorem mem_pairs_iff {path discriminator : String} :
    (path, discriminator) ∈ pairs roots ↔
      ∃ root ∈ roots, root.path = path ∧ ∃ type ∈ root.types,
        type.discriminator = discriminator := by
  simp only [pairs, List.mem_flatMap, List.mem_map, Prod.mk.injEq]
  constructor
  · intro ⟨root, kept, type, registered, same, marked⟩
    exact ⟨root, kept, same, type, registered, marked⟩
  · intro ⟨root, kept, same, type, registered, marked⟩
    exact ⟨root, kept, type, registered, same, marked⟩

/-- Different roots have different paths, and the types of one root different discriminators. -/
theorem nodup_pairs (ascending : Keyed.Ascending Root.path roots)
    (ordered : ∀ root ∈ roots, Keyed.Ascending TypeEntity.discriminator root.types) :
    (pairs roots).Nodup := by
  apply List.nodup_flatMap.mpr
  constructor
  · intro root kept
    apply List.pairwise_map.mpr
    apply (ordered root kept).imp
    intro first second before same
    exact String.lt_irrefl _ ((Prod.mk.inj same).2 ▸ before)
  · apply ascending.imp
    intro first second before pair listed otherListed
    obtain ⟨_, _, same⟩ := List.mem_map.mp listed
    obtain ⟨_, _, otherSame⟩ := List.mem_map.mp otherListed
    have paths : first.path = second.path := congrArg Prod.fst (same.trans otherSame.symm)
    exact String.lt_irrefl _ (paths ▸ before)

theorem lists_flatMap (owned : ∀ root ∈ roots, ∀ type ∈ root.types, type.rootPath = root.path) :
    Lists (roots.flatMap fun root => ofRoot root :: root.types.map ofType) roots := by
  induction roots with
  | nil => exact .nil
  | cons root rest ih =>
    obtain ⟨own, others⟩ := List.forall_mem_cons.mp owned
    rw [List.flatMap_cons]
    apply Lists.root (ofRoot_describes root) _ (ih others)
    exact List.forall₂_map_left_iff.mpr (List.forall₂_same.mpr fun type registered =>
      ofType_describes (own type registered))

end EntityReport

/-! ### Whole reports -/

theorem Root.Sound.lookup_eq_ok_iff {root : Root} (sound : root.Sound) {discriminator : String}
    {type : TypeEntity} :
    root.lookup discriminator = .ok type ↔
      type ∈ root.types ∧ type.discriminator = discriminator := by
  rw [Root.lookup, required_eq_ok_iff, Root.find?, Keyed.find?_eq_some_iff sound.ascending]

/-- What a report of a manager tells about the roots that it keeps. -/
structure Store.ReportedBy (store : Store) (manager : Manager) (report : List EntityReport) :
    Prop where
  sections : EntityReport.Lists report (store.keptRoots manager)
  /-- The sections are those of all roots that are found. -/
  roots : ∀ root, root ∈ store.keptRoots manager ↔ store.findRoot? manager root.path = some root
  ascendingRoots : Keyed.Ascending Root.path (store.keptRoots manager)
  /-- In a section are all types that are found in the root. -/
  types : ∀ root ∈ store.keptRoots manager, ∀ type,
    type ∈ root.types ↔ root.lookup type.discriminator = .ok type
  ascendingTypes : ∀ root ∈ store.keptRoots manager,
    Keyed.Ascending TypeEntity.discriminator root.types
  /-- No two entries of types are for the same pair. -/
  distinct : (report.filterMap EntityReport.pair?).Nodup
  /-- There is an entry for a pair exactly if it can be looked up. -/
  complete : ∀ path discriminator, (path, discriminator) ∈ report.filterMap EntityReport.pair? ↔
    ∃ root type, store.findRoot? manager path = some root ∧ root.lookup discriminator = .ok type
  /-- The entry for a pair tells what is found under it. -/
  faithful : ∀ entry ∈ report, ∀ discriminator, entry.discriminator = some discriminator →
    ∃ root type, store.findRoot? manager entry.root = some root ∧
      root.lookup discriminator = .ok type ∧ EntityReport.DescribesType root entry type

theorem Store.Caches.reportedBy {store : Store} {history : List Asking} {manager : Manager}
    (caches : store.Caches history) (sound : store.Sound) (member : manager ∈ store.managers) :
    store.ReportedBy manager (store.report manager) := by
  have found {root : Root} (kept : root ∈ store.keptRoots manager) :=
    (caches.mem_keptRoots_iff sound member).mp kept
  have own {root : Root} (kept : root ∈ store.keptRoots manager) : root.Sound :=
    sound.roots root ((caches.findRoot?_eq_some_iff sound member).mp (found kept)).1
  have sections : EntityReport.Lists (store.report manager) (store.keptRoots manager) := by
    apply EntityReport.lists_flatMap
    intro root kept type registered
    exact ((own kept).valid type registered).rootPath_eq
  have ascending := caches.ascending_keptRoots sound member
  refine {
    sections
    roots := fun _ => caches.mem_keptRoots_iff sound member
    ascendingRoots := ascending
    types := fun root kept type => by rw [(own kept).lookup_eq_ok_iff, and_iff_left rfl]
    ascendingTypes := fun root kept => (own kept).ascending
    distinct := ?_
    complete := ?_
    faithful := ?_ }
  · rw [sections.filterMap_pair?]
    exact EntityReport.nodup_pairs ascending fun root kept => (own kept).ascending
  · intro path discriminator
    rw [sections.filterMap_pair?, EntityReport.mem_pairs_iff]
    constructor
    · intro ⟨root, kept, samePath, type, registered⟩
      exact ⟨root, type, samePath ▸ found kept, (own kept).lookup_eq_ok_iff.mpr registered⟩
    · intro ⟨root, type, search, looked⟩
      obtain ⟨_, samePath, _⟩ := (caches.findRoot?_eq_some_iff sound member).mp search
      have kept := (caches.mem_keptRoots_iff sound member).mpr (samePath ▸ search)
      exact ⟨root, kept, samePath, type, (own kept).lookup_eq_ok_iff.mp looked⟩
  · intro entry listed discriminator told
    obtain ⟨root, kept, type, registered, describes⟩ := sections.exists_of_mem listed told
    refine ⟨root, type, describes.root_eq ▸ found kept, ?_, describes⟩
    apply (own kept).lookup_eq_ok_iff.mpr
    exact ⟨registered, Option.some.inj (describes.discriminator.symm.trans told)⟩

/-- Whatever was requested, the report of a manager tells about every root that it keeps and about
every type that is found there, each of them once, and about nothing else. -/
theorem Session.reportedBy_of_requested (requests : List Request) {manager : Manager}
    (member : manager ∈ (({} : Session).after requests).store.managers) :
    (({} : Session).after requests).store.ReportedBy manager
      ((({} : Session).after requests).store.report manager) := by
  have sound := (Reachable.start.after requests).sound.store
  exact (caches_of_requested requests).reportedBy sound member

/-- Three types have been published as dogs and one of them is reported, and what is not reported
cannot be looked up. -/
theorem Session.reportedBy_of_requested_animals :
    let store := (({} : Session).after Menagerie.contested).store
    ∃ manager ∈ store.managers,
      (store.report manager).filterMap EntityReport.pair? =
          [("zoo::Animal", "cat"), ("zoo::Animal", "dog"), ("zoo::Animal", "puppy")] ∧
        ((store.report manager).filterMap EntityReport.pair?).Nodup ∧
        (∃ root type, store.findRoot? manager "zoo::Animal" = some root ∧
          root.lookup "dog" = .ok type) ∧
        ¬∃ root type, store.findRoot? manager "zoo::Animal" = some root ∧
          root.lookup "hound" = .ok type := by
  intro store
  have present : store.managers ≠ [] := by decide
  have member := List.head_mem present
  have reported := reportedBy_of_requested Menagerie.contested member
  have told : (store.report (store.managers.head present)).filterMap EntityReport.pair? =
      [("zoo::Animal", "cat"), ("zoo::Animal", "dog"), ("zoo::Animal", "puppy")] := rfl
  refine ⟨_, member, told, reported.distinct, (reported.complete _ _).mp ?_, ?_⟩
  · rw [told]
    simp
  · rw [← reported.complete, told]
    simp

end TypedRows
