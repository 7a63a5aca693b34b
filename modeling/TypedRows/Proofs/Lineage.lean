import Mathlib.Data.List.Nodup
import TypedRows.Entity

/-! Lineages of classes. Where a path stands for one class only, the lineage of a class ends in the
lineage of each class it descends from, and what stands before that end is strictly below. -/
namespace TypedRows.Class

/-- Among the given classes and all their ancestors a path stands for one class only. -/
def Coherent (classes : List Class) : Prop :=
  ∀ first ∈ classes.flatMap ancestors, ∀ second ∈ classes.flatMap ancestors,
    first.path = second.path → first = second

/-- The declarations from a class upwards that are strictly below a root, nearest first. -/
def declsBelow (root cls : Class) : List ClassDecl := cls.lineage.takeWhile (·.path ≠ root.path)

theorem Coherent.mono {classes fewer : List Class} (coherent : Coherent classes)
    (among : ∀ cls ∈ fewer, cls ∈ classes) : Coherent fewer := by
  have kept : ∀ cls ∈ fewer.flatMap ancestors, cls ∈ classes.flatMap ancestors := by
    intro cls member
    obtain ⟨origin, present, above⟩ := List.mem_flatMap.mp member
    exact List.mem_flatMap.mpr ⟨origin, among origin present, above⟩
  intro first firstMember second secondMember
  exact coherent first (kept first firstMember) second (kept second secondMember)

theorem coherent_of_nodup {classes known : List Class} (distinct : (known.map path).Nodup)
    (among : ∀ cls ∈ classes.flatMap ancestors, cls ∈ known) : Coherent classes := by
  intro first firstMember second secondMember same
  exact List.inj_on_of_nodup_map distinct (among first firstMember) (among second secondMember) same

theorem self_mem_ancestors (cls : Class) : cls ∈ cls.ancestors := by
  obtain ⟨own, above⟩ := cls
  cases above <;> simp [ancestors, ancestors.go]

theorem ancestors_suffix_of_mem {ancestor cls : Class} (member : ancestor ∈ cls.ancestors) :
    ancestor.ancestors <:+ cls.ancestors := by
  obtain ⟨own, above⟩ := cls
  simp only [ancestors] at member ⊢
  induction above generalizing own with
  | nil =>
    obtain rfl : ancestor = ⟨own, []⟩ := by simpa [ancestors.go] using member
    exact List.suffix_refl _
  | cons parent above ih =>
    rcases List.mem_cons.mp member with rfl | higher
    · exact List.suffix_refl _
    · exact (ih parent higher).trans (List.suffix_cons _ _)

theorem lineage_suffix_of_mem_ancestors {ancestor cls : Class} (member : ancestor ∈ cls.ancestors) :
    ancestor.lineage <:+ cls.lineage := by
  rw [← map_own_ancestors, ← map_own_ancestors]
  exact (ancestors_suffix_of_mem member).map _

theorem pairwise_length_ancestors (cls : Class) :
    cls.ancestors.Pairwise fun near far => far.lineage.length < near.lineage.length := by
  obtain ⟨own, above⟩ := cls
  simp only [ancestors]
  induction above generalizing own with
  | nil => simp [ancestors.go]
  | cons parent above ih =>
    refine List.pairwise_cons.mpr ⟨?_, ih parent⟩
    intro far member
    have above : far ∈ ancestors ⟨parent, above⟩ := member
    have shorter := (lineage_suffix_of_mem_ancestors above).length_le
    simp only [lineage, List.length_cons] at shorter ⊢
    omega

theorem map_path_lineage (cls : Class) :
    cls.lineage.map (·.path) = cls.ancestors.map path := by
  rw [← map_own_ancestors, List.map_map]
  rfl

theorem nodup_paths {cls : Class} (coherent : Coherent [cls]) :
    (cls.lineage.map (·.path)).Nodup := by
  have distinct : cls.ancestors.Pairwise fun near far => near.path ≠ far.path := by
    refine (pairwise_length_ancestors cls).imp_of_mem ?_
    intro near far nearMember farMember shorter same
    have equal := coherent near (by simpa using nearMember) far (by simpa using farMember) same
    rw [equal] at shorter
    exact Nat.lt_irrefl _ shorter
  rw [map_path_lineage]
  exact List.pairwise_map.mpr distinct

theorem isAssignableFrom_iff (cls other : Class) :
    cls.isAssignableFrom other = true ↔ ∃ decl ∈ other.lineage, decl.path = cls.path := by
  simp [isAssignableFrom, visibleFrom]

theorem isAssignableFrom_of_mem_ancestors {ancestor cls : Class}
    (member : ancestor ∈ cls.ancestors) : ancestor.isAssignableFrom cls = true := by
  have listed : ancestor.own ∈ cls.lineage := by
    rw [← map_own_ancestors]
    exact List.mem_map.mpr ⟨ancestor, member, rfl⟩
  exact (isAssignableFrom_iff ancestor cls).mpr ⟨ancestor.own, listed, rfl⟩

/-- The fields declared strictly below a root, those next to the root first. -/
def fieldsBelow (root cls : Class) : List Field :=
  (declsBelow root cls).reverse.flatMap fun decl => decl.fields.map (⟨·, decl.path⟩)

theorem mem_fieldsBelow_iff {root cls : Class} {field : Field} :
    field ∈ fieldsBelow root cls ↔
      ∃ owner ∈ declsBelow root cls, ∃ decl ∈ owner.fields, ⟨decl, owner.path⟩ = field := by
  simp [fieldsBelow]

theorem keyspaceHolder?_eq_some_iff {cls holder : Class} {keyspace : Keyspace} :
    cls.keyspaceHolder? = some (holder, keyspace) ↔
      cls.nearest? (·.keyspace.isSome) = some holder ∧ holder.own.keyspace = some keyspace := by
  simp only [keyspaceHolder?, nearest?, nearestWith?]
  induction cls.ancestors with
  | nil => simp
  | cons first rest ih =>
    cases annotated : first.own.keyspace with
    | none => simp [annotated, ih]
    | some nearest =>
      simp only [List.findSome?_cons, List.find?_cons, annotated, Option.map_some,
        Option.isSome_some, Option.some.injEq, Prod.mk.injEq]
      constructor
      · intro holds
        obtain ⟨rfl, rfl⟩ := holds
        exact ⟨rfl, annotated⟩
      · intro holds
        obtain ⟨rfl, same⟩ := holds
        exact ⟨rfl, Option.some.inj (annotated.symm.trans same)⟩

section

variable {root cls : Class} (coherent : Coherent [root, cls])
  (descends : root.isAssignableFrom cls = true)

include coherent descends

theorem mem_ancestors_of_isAssignableFrom : root ∈ cls.ancestors := by
  obtain ⟨decl, member, same⟩ := (isAssignableFrom_iff root cls).mp descends
  rw [← map_own_ancestors] at member
  obtain ⟨ancestor, above, rfl⟩ := List.mem_map.mp member
  have equal : ancestor = root := by
    refine coherent ancestor ?_ root ?_ same
    · simp [above]
    · simp [self_mem_ancestors]
  exact equal ▸ above

theorem lineage_eq_append : cls.lineage = declsBelow root cls ++ root.lineage := by
  obtain ⟨below, split⟩ :=
    lineage_suffix_of_mem_ancestors (mem_ancestors_of_isAssignableFrom coherent descends)
  have distinct := nodup_paths (coherent.mono (by simp) : Coherent [cls])
  rw [← split, List.map_append, List.nodup_append] at distinct
  have apart : ∀ decl ∈ below, decl.path ≠ root.path := by
    intro decl member
    exact distinct.2.2 decl.path (List.mem_map.mpr ⟨decl, member, rfl⟩) root.path
      (by simp [lineage, path])
  have stops : declsBelow root cls = below := by
    rw [declsBelow, ← split, List.takeWhile_append_of_pos (by simpa using apart)]
    simp [lineage, path]
  rw [stops, split]

theorem ancestors_eq_append :
    ∃ below, cls.ancestors = below ++ root.ancestors ∧ below.map (·.own) = declsBelow root cls := by
  obtain ⟨below, split⟩ :=
    ancestors_suffix_of_mem (mem_ancestors_of_isAssignableFrom coherent descends)
  have lineages := lineage_eq_append coherent descends
  rw [← map_own_ancestors, ← map_own_ancestors, ← split, List.map_append] at lineages
  exact ⟨below, split.symm, List.append_cancel_right lineages⟩

theorem not_visible_of_mem_declsBelow {decl : ClassDecl} (member : decl ∈ declsBelow root cls) :
    visibleFrom decl.path root = false := by
  have distinct := nodup_paths (coherent.mono (by simp) : Coherent [cls])
  rw [lineage_eq_append coherent descends, List.map_append, List.nodup_append] at distinct
  have apart : ∀ other ∈ root.lineage, other.path ≠ decl.path := by
    intro other present same
    exact distinct.2.2 decl.path (List.mem_map.mpr ⟨decl, member, rfl⟩) other.path
      (List.mem_map.mpr ⟨other, present, rfl⟩) same.symm
  simpa [visibleFrom] using apart

/-- The fields of a root come first, and then those declared below it. -/
theorem fields_eq_append : cls.fields = root.fields ++ fieldsBelow root cls := by
  rw [fields, lineage_eq_append coherent descends, List.reverse_append, List.flatMap_append]
  rfl

theorem nearest?_eq_of_none_below {property : ClassDecl → Bool}
    (absent : ∀ decl ∈ declsBelow root cls, property decl = false) :
    cls.nearest? property = root.nearest? property := by
  obtain ⟨below, split, owns⟩ := ancestors_eq_append coherent descends
  have skipped : below.find? (property ·.own) = none := by
    apply List.find?_eq_none.mpr
    intro candidate member
    have listed : candidate.own ∈ declsBelow root cls :=
      owns ▸ List.mem_map.mpr ⟨candidate, member, rfl⟩
    simp [absent candidate.own listed]
  rw [nearest?, nearestWith?, split, List.find?_append, skipped, Option.none_or, nearest?,
    nearestWith?]

/-- The nearest class with a property is visible from a root exactly if nothing below the root has
the property. -/
theorem nearest?_visible_iff {property : ClassDecl → Bool} {holder : Class}
    (found : cls.nearest? property = some holder) :
    holder.isAssignableFrom root = true ↔
      ∀ decl ∈ declsBelow root cls, property decl = false := by
  constructor
  · intro visible decl member
    obtain ⟨below, split, owns⟩ := ancestors_eq_append coherent descends
    by_contra present
    obtain ⟨carrier, carried, rfl⟩ := List.mem_map.mp (owns ▸ member)
    rw [nearest?, nearestWith?, split, List.find?_append] at found
    cases nearer : below.find? (property ·.own) with
    | none =>
      have missing := List.find?_eq_none.mp nearer carrier carried
      exact present (by simpa using missing)
    | some first =>
      obtain rfl : first = holder := by simpa [nearer] using found
      have listed : first.own ∈ declsBelow root cls :=
        owns ▸ List.mem_map.mpr ⟨first, List.mem_of_find?_eq_some nearer, rfl⟩
      have hidden := not_visible_of_mem_declsBelow coherent descends listed
      rw [isAssignableFrom, path, hidden] at visible
      exact Bool.false_ne_true visible
  · intro absent
    rw [nearest?_eq_of_none_below coherent descends absent] at found
    exact isAssignableFrom_of_mem_ancestors (List.mem_of_find?_eq_some found)

end

end TypedRows.Class
