import TypedRows.Attribute

/-! Objects: records of typed attributes that are read and written by attribute name. A shape says
which attributes there are; an object holds one value of the right type for each of them. -/
namespace TypedRows

/-- An attribute of a shape. -/
structure Attribute where
  name : String
  type : AttributeType
  deriving DecidableEq, Repr

/-- The constructible form of an object. -/
structure Shape where
  name : String
  /-- The class path under which the shape is declared. -/
  declaredPath : String
  /-- The class path that its objects answer with. -/
  classPath : String
  attributes : List Attribute
  deriving DecidableEq, Repr

/-- Why an attribute could not be assigned. -/
inductive AttributeError where
  | unknown (name : String)
  | mismatch (name : String) (value : Value)
  deriving Repr

def AttributeError.message : AttributeError → String
  | .unknown name => s!"unknown attribute '{name}'"
  | .mismatch name value => s!"attribute '{name}' cannot hold {value.label} value '{value.render}'"

/-- One held value for each of the given attributes. -/
inductive Slots : List Attribute → Type where
  | nil : Slots []
  | cons {first : Attribute} {rest : List Attribute} (held : first.type.Carrier)
      (tail : Slots rest) : Slots (first :: rest)

namespace Slots

/-- The value of the first attribute of the name. -/
def get? : {attributes : List Attribute} → Slots attributes → String → Option Value
  | _, .nil, _ => none
  | first :: _, .cons held tail, name =>
    if first.name = name then some (first.type.toValue held) else tail.get? name

/-- Assigns the first attribute of the name, if there is one that can hold the value. -/
def set : {attributes : List Attribute} → Slots attributes → String → Value →
    Except AttributeError (Slots attributes)
  | _, .nil, name, _ => .error (.unknown name)
  | first :: _, .cons held tail, name, value =>
    if first.name = name then
      match first.type.ofValue? value with
      | some fresh => .ok (.cons fresh tail)
      | none => .error (.mismatch name value)
    else (tail.set name value).map (.cons held)

end Slots

/-- An object of some shape. -/
structure Object where
  shape : Shape
  slots : Slots shape.attributes

namespace Object

def classPath (object : Object) : String := object.shape.classPath

def get? (object : Object) (name : String) : Option Value := object.slots.get? name

/-- Assigns an attribute. On failure there is no new object, so the old one stands unchanged. -/
def set (object : Object) (name : String) (value : Value) : Except AttributeError Object :=
  (object.slots.set name value).map (⟨object.shape, ·⟩)

/-- Every attribute in declaration order, with its value. -/
def attributes (object : Object) : List (String × Value) :=
  object.shape.attributes.filterMap fun declared =>
    (object.get? declared.name).map (declared.name, ·)

def hasShape (object : Object) (shape : Shape) : Bool := object.shape = shape

/-- The object itself if it has the shape. -/
def downcast? (object : Object) (shape : Shape) : Option Object :=
  if object.hasShape shape then some object else none

theorem shape_of_set {object changed : Object} {name : String} {value : Value}
    (done : object.set name value = .ok changed) : changed.shape = object.shape := by
  unfold set at done
  cases slots : object.slots.set name value with
  | error _ => simp [slots, Except.map] at done
  | ok fresh =>
    simp only [slots, Except.map, Except.ok.injEq] at done
    subst done
    rfl

end Object

end TypedRows
