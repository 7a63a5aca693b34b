import TypedRows.Proofs.Acceptance

/-! The order of classes. Among classes that have their parents with them, and whose paths stand for
one class each, a class is assignable from another one exactly if it is met on the way up from
there. This is an order in which the classes above a class form a chain, and a search upwards finds
the lowest class of that chain with a property. -/
namespace TypedRows

namespace Class

/-! ### The way up -/

/-- What holds at the top of a hierarchy, and of a class if it holds of its parent, holds of all
classes. -/
theorem parent_induction {holds : Class → Prop}
    (top : ∀ cls : Class, cls.parent? = none → holds cls)
    (below : ∀ cls parent : Class, cls.parent? = some parent → holds parent → holds cls)
    (cls : Class) : holds cls := by
  obtain ⟨own, above⟩ := cls
  induction above generalizing own with
  | nil => exact top _ rfl
  | cons parent above ih => exact below _ ⟨parent, above⟩ rfl (ih parent)

theorem ancestors_of_top {cls : Class} (top : cls.parent? = none) : cls.ancestors = [cls] := by
  obtain ⟨own, above⟩ := cls
  cases above with
  | nil => rfl
  | cons parent above => cases top

theorem ancestors_of_parent {cls parent : Class} (link : cls.parent? = some parent) :
    cls.ancestors = cls :: parent.ancestors := by
  obtain ⟨own, above⟩ := cls
  cases above with
  | nil => cases link
  | cons next above =>
    cases link
    rfl

theorem head?_ancestors (cls : Class) : cls.ancestors.head? = some cls := by
  cases link : cls.parent? with
  | none => rw [ancestors_of_top link, List.head?_cons]
  | some parent => rw [ancestors_of_parent link, List.head?_cons]

variable {cls first second holder : Class}

theorem mem_ancestors_trans (above : first ∈ second.ancestors) (below : second ∈ cls.ancestors) :
    first ∈ cls.ancestors :=
  (ancestors_suffix_of_mem below).subset above

/-- Two classes above each other have the same way up, and that begins with both of them. -/
theorem eq_of_mem_ancestors (above : first ∈ second.ancestors) (below : second ∈ first.ancestors) :
    first = second := by
  have upper := ancestors_suffix_of_mem above
  have lower := ancestors_suffix_of_mem below
  have same : first.ancestors = second.ancestors := upper.eq_of_length_le lower.length_le
  apply Option.some.inj
  rw [← head?_ancestors first, same, head?_ancestors]

theorem mem_ancestors_total (above : first ∈ cls.ancestors) (other : second ∈ cls.ancestors) :
    first ∈ second.ancestors ∨ second ∈ first.ancestors := by
  rcases List.suffix_or_suffix_of_suffix (ancestors_suffix_of_mem above)
    (ancestors_suffix_of_mem other) with upper | lower
  · exact .inl (upper.subset (self_mem_ancestors first))
  · exact .inr (lower.subset (self_mem_ancestors second))

theorem nearestWith?_eq_some_iff {property : Class → Bool} :
    cls.nearestWith? property = some holder ↔
      holder ∈ cls.ancestors ∧ property holder = true ∧
        ∀ other ∈ cls.ancestors, property other = true → other ∈ holder.ancestors := by
  induction cls using parent_induction with
  | top cls top =>
    rw [nearestWith?, ancestors_of_top top]
    simp only [List.find?_singleton, List.mem_singleton, forall_eq]
    constructor
    · intro found
      obtain ⟨here, same⟩ := Option.ite_none_right_eq_some.mp found
      obtain rfl := Option.some.inj same
      exact ⟨rfl, here, fun _ => self_mem_ancestors cls⟩
    · intro nearest
      obtain ⟨same, here, _⟩ := nearest
      subst same
      exact if_pos here
  | below cls parent link ih =>
    by_cases here : property cls = true
    · rw [nearestWith?, ancestors_of_parent link, List.find?_cons_of_pos here, Option.some.injEq,
        ← ancestors_of_parent link]
      constructor
      · intro same
        subst same
        exact ⟨self_mem_ancestors cls, here, fun other above _ => above⟩
      · intro nearest
        obtain ⟨above, _, lowest⟩ := nearest
        exact eq_of_mem_ancestors (lowest cls (self_mem_ancestors cls) here) above
    · rw [nearestWith?, ancestors_of_parent link, List.find?_cons_of_neg here, ← nearestWith?, ih]
      constructor
      · intro nearest
        obtain ⟨above, holds, lowest⟩ := nearest
        refine ⟨List.mem_cons_of_mem _ above, holds, ?_⟩
        intro other member otherHolds
        rcases List.mem_cons.mp member with same | higher
        · exact absurd (same ▸ otherHolds) here
        · exact lowest other higher otherHolds
      · intro nearest
        obtain ⟨above, holds, lowest⟩ := nearest
        rcases List.mem_cons.mp above with same | higher
        · exact absurd (same ▸ holds) here
        · exact ⟨higher, holds, fun other member => lowest other (List.mem_cons_of_mem _ member)⟩

/-! ### Classes with their parents -/

/-- A set of classes that has the parent of each of its classes, and in which a path stands for one
class only. -/
structure Hierarchy (known : Class → Prop) : Prop where
  parents : ∀ cls parent, known cls → cls.parent? = some parent → known parent
  distinct : ∀ first second, known first → known second → first.path = second.path → first = second

/-- Assignability among the classes of a set is the order of a tree, and a search upwards is one in
that order. -/
structure TreeOrder (known : Class → Prop) : Prop where
  refl : ∀ cls, known cls → cls.isAssignableFrom cls = true
  trans : ∀ first second third, known first → known second → known third →
    first.isAssignableFrom second = true → second.isAssignableFrom third = true →
      first.isAssignableFrom third = true
  antisymm : ∀ first second, known first → known second →
    first.isAssignableFrom second = true → second.isAssignableFrom first = true → first = second
  distinctPaths : ∀ cls, known cls → (cls.ancestors.map path).Nodup
  total : ∀ cls, known cls → ∀ first ∈ cls.ancestors, ∀ second ∈ cls.ancestors,
    first.isAssignableFrom second = true ∨ second.isAssignableFrom first = true
  /-- What is found is the narrowest class with the property: every other one is assignable from
  it. -/
  narrowest : ∀ cls, known cls → ∀ (property : Class → Bool) (holder : Class),
    cls.nearestWith? property = some holder ↔
      holder ∈ cls.ancestors ∧ property holder = true ∧
        ∀ other ∈ cls.ancestors, property other = true → other.isAssignableFrom holder = true
  absent : ∀ cls, known cls → ∀ property : Class → Bool,
    cls.nearestWith? property = none ↔ ∀ other ∈ cls.ancestors, property other = false

namespace Hierarchy

variable {known : Class → Prop} (hierarchy : Hierarchy known)

include hierarchy

theorem known_of_mem_ancestors (member : known cls) (above : first ∈ cls.ancestors) :
    known first := by
  induction cls using parent_induction with
  | top cls top =>
    rw [ancestors_of_top top] at above
    exact List.mem_singleton.mp above ▸ member
  | below cls parent link ih =>
    rw [ancestors_of_parent link] at above
    rcases List.mem_cons.mp above with same | higher
    · exact same ▸ member
    · exact ih (hierarchy.parents cls parent member link) higher

theorem coherent {classes : List Class} (members : ∀ cls ∈ classes, known cls) :
    Coherent classes := by
  have listed : ∀ cls ∈ classes.flatMap ancestors, known cls := by
    intro cls above
    obtain ⟨origin, present, higher⟩ := List.mem_flatMap.mp above
    exact hierarchy.known_of_mem_ancestors (members origin present) higher
  intro first firstAbove second secondAbove
  exact hierarchy.distinct first second (listed first firstAbove) (listed second secondAbove)

/-- The comparison of paths finds a class exactly where the parent links lead to it. -/
theorem isAssignableFrom_iff_mem_ancestors (member : known first) (other : known second) :
    first.isAssignableFrom second = true ↔ first ∈ second.ancestors := by
  constructor
  · intro descends
    have coherent : Coherent [first, second] := by
      apply hierarchy.coherent
      intro cls listed
      rcases List.mem_pair.mp listed with same | same
      · exact same ▸ member
      · exact same ▸ other
    exact mem_ancestors_of_isAssignableFrom coherent descends
  · intro above
    exact isAssignableFrom_of_mem_ancestors above

/-- Among classes that have their parents with them, and whose paths stand for one class each,
assignability is the order of a tree. -/
theorem treeOrder : TreeOrder known where
  refl cls _ := isAssignableFrom_of_mem_ancestors (self_mem_ancestors cls)
  trans first second third member between last upper lower := by
    rw [hierarchy.isAssignableFrom_iff_mem_ancestors member between] at upper
    rw [hierarchy.isAssignableFrom_iff_mem_ancestors between last] at lower
    exact isAssignableFrom_of_mem_ancestors (mem_ancestors_trans upper lower)
  antisymm first second member other upper lower := by
    rw [hierarchy.isAssignableFrom_iff_mem_ancestors member other] at upper
    rw [hierarchy.isAssignableFrom_iff_mem_ancestors other member] at lower
    exact eq_of_mem_ancestors upper lower
  distinctPaths cls member := by
    rw [← map_path_lineage]
    apply nodup_paths
    apply hierarchy.coherent
    intro other listed
    exact List.mem_singleton.mp listed ▸ member
  total cls _ first above second other := by
    rcases mem_ancestors_total above other with upper | lower
    · exact .inl (isAssignableFrom_of_mem_ancestors upper)
    · exact .inr (isAssignableFrom_of_mem_ancestors lower)
  narrowest cls member property holder := by
    rw [nearestWith?_eq_some_iff]
    apply and_congr_right
    intro above
    have held := hierarchy.known_of_mem_ancestors member above
    apply and_congr_right
    intro _
    apply forall₂_congr
    intro other higher
    rw [hierarchy.isAssignableFrom_iff_mem_ancestors
      (hierarchy.known_of_mem_ancestors member higher) held]
  absent cls _ property := by
    rw [nearestWith?, List.find?_eq_none]
    simp only [Bool.not_eq_true]

end Hierarchy

end Class

namespace Menagerie

/-- The animals, by themselves. -/
def Kept (cls : Class) : Prop := cls ∈ [animal, dog, puppy, cat]

theorem kept_hierarchy : Class.Hierarchy Kept where
  parents cls parent member link := by
    rcases (by simpa [Kept] using member : cls = animal ∨ cls = dog ∨ cls = puppy ∨ cls = cat) with
      same | same | same | same
    all_goals
      subst same
      cases link
    · exact List.mem_cons_self
    · exact List.mem_cons_of_mem _ List.mem_cons_self
    · exact List.mem_cons_self
  distinct first second member other same := by
    apply coherent first _ second _ same
    · exact List.mem_flatMap.mpr ⟨first, member, Class.self_mem_ancestors first⟩
    · exact List.mem_flatMap.mpr ⟨second, other, Class.self_mem_ancestors second⟩

end Menagerie

/-- Puppies descend from the animals. On the way up from them, the nearest class that dogs descend
from is their own, and no class there descends from that of the cats. -/
theorem Class.treeOrder_menagerie :
    Class.Hierarchy Menagerie.Kept ∧
      Menagerie.animal.isAssignableFrom Menagerie.puppy = true ∧
      Menagerie.puppy.nearestWith? (·.isAssignableFrom Menagerie.dog) = some Menagerie.dog ∧
      Menagerie.puppy.nearestWith? (Menagerie.cat.isAssignableFrom ·) = none := by
  have order := Menagerie.kept_hierarchy.treeOrder
  have puppy : Menagerie.Kept Menagerie.puppy := by simp [Menagerie.Kept]
  have dog : Menagerie.Kept Menagerie.dog := by simp [Menagerie.Kept]
  have animal : Menagerie.Kept Menagerie.animal := by simp [Menagerie.Kept]
  have above : Menagerie.puppy.ancestors = [Menagerie.puppy, Menagerie.dog, Menagerie.animal] := rfl
  refine ⟨Menagerie.kept_hierarchy, order.trans _ _ _ animal dog puppy rfl rfl, ?_, ?_⟩
  · apply (order.narrowest _ puppy _ _).mpr
    rw [above]
    exact ⟨by simp, order.refl _ dog, fun other _ holds => holds⟩
  · apply (order.absent _ puppy _).mpr
    rw [above]
    intro other member
    rcases (by simpa using member :
      other = Menagerie.puppy ∨ other = Menagerie.dog ∨ other = Menagerie.animal) with
      same | same | same
    all_goals
      subst same
      rfl

end TypedRows
