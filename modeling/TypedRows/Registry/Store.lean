import TypedRows.Registry.Root

/-! The store of all live managers and roots. A manager has settings of its own and keeps the roots
that were asked of it by class path. An operation that fails yields no new store, so it changes
nothing. -/
namespace TypedRows

/-- An owner of settings and of the roots built through it. -/
structure Manager where
  id : Identity
  settings : Settings
  /-- The class paths of the kept roots in ascending order, with the identities of the roots. -/
  kept : List (String × Identity)

/-- Everything that is alive. -/
structure Store where
  managers : List Manager := []
  roots : List Root := []
  /-- Greater than every identity given so far. -/
  next : Identity := 0

namespace Store

def manager? (store : Store) (id : Identity) : Option Manager :=
  store.managers.find? (·.id = id)

def root? (store : Store) (id : Identity) : Option Root := store.roots.find? (·.id = id)

/-- The root that a type belongs to, if it is still alive. -/
def rootOf? (store : Store) (type : TypeEntity) : Option Root := store.root? type.rootId

def putManager (store : Store) (manager : Manager) : Store :=
  { store with
    managers := store.managers.map fun old => if old.id = manager.id then manager else old }

def putRoot (store : Store) (root : Root) : Store :=
  { store with roots := store.roots.map fun old => if old.id = root.id then root else old }

/-- Adds a manager that keeps nothing yet. -/
def addManager (store : Store) (settings : Settings) : Store × Manager :=
  let manager := { id := store.next, settings, kept := [] }
  ({ store with managers := manager :: store.managers, next := store.next + 1 }, manager)

/-- The root that a manager keeps for a class path. -/
def findRoot? (store : Store) (manager : Manager) (path : String) : Option Root :=
  Keyed.find? (·.1) path manager.kept >>= (store.root? ·.2)

/-- The roots that a manager keeps, in ascending order of their class paths. -/
def keptRoots (store : Store) (manager : Manager) : List Root :=
  manager.kept.filterMap (store.root? ·.2)

/-- Builds a root that no manager keeps. -/
def newRoot (store : Store) (manager : Manager) (cls : Class) (types : List Class) :
    Traced ModelError (Store × Root) := do
  let root ← Root.build manager.settings store.next cls types
  return ({ store with roots := root :: store.roots, next := store.next + 1 + types.length }, root)

/-- The root that a manager keeps for a class; the first time it is built with the given types. -/
def rootEntity (store : Store) (manager : Manager) (cls : Class) (types : List Class) :
    Traced ModelError (Store × Root) :=
  match store.findRoot? manager cls.path with
  | some root => pure (store, root)
  | none => do
    let (store, root) ← store.newRoot manager cls types
    Traced.emit (.rootPublished cls.path types.length)
    let kept := Keyed.place (·.1) (cls.path, root.id) manager.kept
    return (store.putManager { manager with kept }, root)

/-- Publishes a type on a root. -/
def register (store : Store) (root : Root) (type : TypeEntity) :
    Traced ModelError (Store × Root) := do
  let root ← root.register type
  return (store.putRoot root, root)

/-- Checks a class against a root, with the settings of a manager, and publishes it there. -/
def registerDynamic (store : Store) (root : Root) (manager : Manager) (cls : Class) :
    Traced ModelError (Store × TypeEntity) := do
  let (root, type) ← root.introduce manager.settings store.next true cls
  return ({ store.putRoot root with next := store.next + 1 }, type)

/-- Lets go of everything but the named managers, the named roots, and the roots that the named
managers keep. -/
def retain (store : Store) (managers roots : List Identity) : Store :=
  let managers := store.managers.filter fun manager => managers.contains manager.id
  let kept := managers.flatMap fun manager => manager.kept.map (·.2)
  { store with
    managers
    roots := store.roots.filter fun root => roots.contains root.id || kept.contains root.id }

end Store

end TypedRows
