import TypedRows.Object
import TypedRows.Keyspace
import TypedRows.Schema.FieldDecl

/-! Classes of a persisted hierarchy. A class is its own declaration and those of its ancestors,
nearest first, so a chain of ancestors is finite. A class path identifies a class. -/
namespace TypedRows

/-- What a class declares itself. -/
structure ClassDecl where
  path : String
  /-- What a new object is before anything is assigned; an abstract class makes none. -/
  factory : Option Object := none
  isRoot : Bool := false
  /-- The discriminator, if the class is a type entity. -/
  discriminator : Option String := none
  keyspace : Option Keyspace := none
  tables : List String := []
  fields : List FieldDecl := []

/-- A class with its ancestors. -/
structure Class where
  own : ClassDecl
  above : List ClassDecl

namespace Class

/-- A class at the top of a hierarchy. -/
def top (own : ClassDecl) : Class := ⟨own, []⟩

/-- A class right below another one. -/
def below (own : ClassDecl) (parent : Class) : Class := ⟨own, parent.own :: parent.above⟩

def path (cls : Class) : String := cls.own.path

/-- The declarations of the class and its ancestors, nearest first. -/
def lineage (cls : Class) : List ClassDecl := cls.own :: cls.above

def parent? (cls : Class) : Option Class :=
  match cls.above with
  | [] => none
  | parent :: above => some ⟨parent, above⟩

/-- The class followed by each parent up to the top. -/
def ancestors (cls : Class) : List Class := go cls.own cls.above
where
  go : ClassDecl → List ClassDecl → List Class
    | own, [] => [⟨own, []⟩]
    | own, parent :: above => ⟨own, parent :: above⟩ :: go parent above

def isAbstract (cls : Class) : Bool := cls.own.factory.isNone

/-- Exact class identity. -/
def sameClass (cls other : Class) : Bool := cls.path = other.path

/-- Whether the class declared under a path is `other` or one of its ancestors. -/
def visibleFrom (path : String) (other : Class) : Bool := other.lineage.any (·.path = path)

/-- Whether `other` is this class or one of its descendants. -/
def isAssignableFrom (cls other : Class) : Bool := visibleFrom cls.path other

/-- The nearest class from this one upwards that has a property. -/
def nearestWith? (cls : Class) (property : Class → Bool) : Option Class :=
  cls.ancestors.find? property

/-- The nearest class from this one upwards whose own declaration has a property. -/
def nearest? (cls : Class) (property : ClassDecl → Bool) : Option Class :=
  cls.nearestWith? (property ·.own)

/-- The last segment of the path, which is what follows the last double colon. -/
def name (cls : Class) : String := String.ofList (untilColons cls.path.toList.reverse).reverse
where
  untilColons : List Char → List Char
    | ':' :: ':' :: _ => []
    | c :: rest => c :: untilColons rest
    | [] => []

theorem map_own_ancestors (cls : Class) : cls.ancestors.map (·.own) = cls.lineage := by
  obtain ⟨own, above⟩ := cls
  simp only [ancestors, lineage]
  induction above generalizing own with
  | nil => rfl
  | cons parent above ih => simp [ancestors.go, ih]

end Class

end TypedRows
