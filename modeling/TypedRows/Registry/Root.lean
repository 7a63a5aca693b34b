import TypedRows.Registry.TypeEntity

/-! Roots: the top entity of a persisted hierarchy with the registry of its type entities. The
registry holds at most one type for each discriminator; the last one registered wins. -/
namespace TypedRows

/-- The root of a hierarchy. -/
structure Root where
  id : Identity
  entity : Entity
  /-- The registered types in ascending order of their discriminators. -/
  types : List TypeEntity

namespace Root

def path (root : Root) : String := root.entity.path

def cls (root : Root) : Class := root.entity.cls

/-- The registered type of a discriminator. -/
def find? (root : Root) (discriminator : String) : Option TypeEntity :=
  Keyed.find? TypeEntity.discriminator discriminator root.types

def lookup (root : Root) (discriminator : String) : Except RegistryError TypeEntity :=
  required (root.find? discriminator) (.typeNotFound root.path discriminator)

/-- The registered type whose class is exactly the one of a path. -/
def typeForClass? (root : Root) (path : String) : Option TypeEntity :=
  root.types.find? (·.path = path)

/-- The event of publishing a type: a collision if another type gives way to it. -/
def registrationEvent (root : Root) (type : TypeEntity) : Event :=
  match root.find? type.discriminator with
  | some replaced =>
    if replaced.id = type.id then
      .typeRegistered root.path type.discriminator type.isDynamic
    else .typeReplaced root.path type.discriminator replaced.path type.path
  | none => .typeRegistered root.path type.discriminator type.isDynamic

/-- Publishes a type under its discriminator. A type of another root is refused. -/
def register (root : Root) (type : TypeEntity) : Traced ModelError Root :=
  if type.rootId = root.id then do
    Traced.emit (root.registrationEvent type)
    return { root with types := Keyed.place TypeEntity.discriminator type root.types }
  else Traced.fail (.foreignRoot type.path root.path type.rootPath)

/-- Checks a class against the root and publishes it. -/
def introduce (settings : Settings) (id : Identity) (isDynamic : Bool) (root : Root) (cls : Class) :
    Traced ModelError (Root × TypeEntity) := do
  let type ← TypeEntity.validate settings id root.id root.cls cls isDynamic
  let root ← root.register type
  return (root, type)

/-- Introduces the statically declared types, under the identities from `next` on. -/
def introduceAll (settings : Settings) (next : Identity) (root : Root) :
    List Class → Traced ModelError Root
  | [] => pure root
  | cls :: rest => do
    let (root, _) ← root.introduce settings next false cls
    introduceAll settings (next + 1) root rest

/-- Builds a root with its statically declared types. The first type that fails is the end of it. -/
def build (settings : Settings) (id : Identity) (cls : Class) (types : List Class) :
    Traced ModelError Root := do
  let entity ← Entity.introspect settings .root cls
  let root ← introduceAll settings (id + 1) { id, entity, types := [] } types
  Traced.emit (.rootBuilt cls.path root.entity.keyspaceName types.length)
  return root

end Root

end TypedRows
