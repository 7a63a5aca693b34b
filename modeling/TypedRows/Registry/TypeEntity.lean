import TypedRows.Registry.Consistency
import TypedRows.Registry.Event

/-! Type entities: the concrete classes of a hierarchy, each with the discriminator that marks its
rows. A type entity is checked against its root once and never changes; it knows its root by
identity only, and does not keep it alive. -/
namespace TypedRows

/-- The identity of a manager, a root or a type entity. No two of them share one. -/
abbrev Identity := Nat

/-- A concrete class of the hierarchy of a root. -/
structure TypeEntity where
  id : Identity
  rootId : Identity
  rootPath : String
  entity : Entity
  discriminator : String
  /-- Whether the type joined its root after the root was built. -/
  isDynamic : Bool

namespace TypeEntity

def path (type : TypeEntity) : String := type.entity.path

def cls (type : TypeEntity) : Class := type.entity.cls

/-- The checks that make a class a type entity of a root, in the order of their reports. -/
def check (settings : Settings) (root cls : Class) : Except ModelError (Entity × String) := do
  let fresh ← required cls.own.factory (.abstractTypeEntity cls.path)
  require (fresh.classPath = cls.path) (.factoryMismatch cls.path fresh.classPath)
  let entity ← Entity.introspect settings .type cls
  let discriminator ← required cls.own.discriminator (.missingTypeEntity cls.path)
  require (root.isAssignableFrom cls) (.notASubtype cls.path root.path)
  let violations := entity.violations root settings.mode
  require violations.isEmpty (.invalidTypeEntity cls.path root.path violations)
  return (entity, discriminator)

/-- A class as a type entity of a root, under an identity of its own. -/
def validate (settings : Settings) (id rootId : Identity) (root cls : Class) (isDynamic : Bool) :
    Traced ModelError TypeEntity := do
  let (entity, discriminator) ← check settings root cls
  Traced.emit (.typeValidated cls.path root.path discriminator isDynamic)
  return { id, rootId, rootPath := root.path, entity, discriminator, isDynamic }

/-- The one-line description of a type entity. -/
def render (type : TypeEntity) : String :=
  s!"TypeEntityDescriptor[type={type.discriminator},class={type.path}," ++
    s!"keyspace={type.entity.keyspaceName},columns=[" ++
    String.intercalate ", " (type.entity.columns.map (·.columnName)) ++ "]]"

end TypeEntity

end TypedRows
