import TypedRows.Registry.Context
import TypedRows.Registry.Dispatch
import TypedRows.Registry.Store

/-! Sessions: managers, roots, types, contexts, objects and rows kept by name. A name is what keeps
a manager or a root alive, together with the managers that keep roots. -/
namespace TypedRows

/-- What a name stands for. Managers and roots live in the store and are named by identity. -/
inductive Entry where
  | manager (id : Identity)
  | root (id : Identity)
  | type (type : TypeEntity)
  | context (context : Context)
  | object (object : Object)
  | row (row : Row)

namespace Entry

def managerId? : Entry → Option Identity
  | .manager id => some id
  | _ => none

def rootId? : Entry → Option Identity
  | .root id => some id
  | _ => none

def type? : Entry → Option TypeEntity
  | .type found => some found
  | _ => none

def context? : Entry → Option Context
  | .context found => some found
  | _ => none

def object? : Entry → Option Object
  | .object found => some found
  | _ => none

def row? : Entry → Option Row
  | .row found => some found
  | _ => none

/-- Whether two entries are one and the same root, or one and the same type. -/
def same : Entry → Entry → Bool
  | .root first, .root second => first = second
  | .type first, .type second => first.id = second.id
  | _, _ => false

end Entry

/-- A table of names over a store. -/
structure Session where
  /-- Each name once, in ascending order. -/
  entries : List (String × Entry) := []
  store : Store := {}

/-- Something that rows are decoded through. -/
inductive Holder where
  | root (root : Root)
  | type (type : TypeEntity)

def Holder.entity : Holder → Entity
  | .root found => found.entity
  | .type found => found.entity

/-- Wraps an object with the type registered for its class, or with the type itself. -/
def Holder.wrap (object : Object) : Holder → Except ContextError Context
  | .root found => found.wrap object
  | .type found => found.wrap object

namespace Session

def find? (session : Session) (name : String) : Option Entry :=
  (Keyed.find? (·.1) name session.entries).map (·.2)

def manager? (session : Session) (name : String) : Option Manager :=
  session.find? name >>= Entry.managerId? >>= session.store.manager?

def root? (session : Session) (name : String) : Option Root :=
  session.find? name >>= Entry.rootId? >>= session.store.root?

def type? (session : Session) (name : String) : Option TypeEntity :=
  session.find? name >>= Entry.type?

def context? (session : Session) (name : String) : Option Context :=
  session.find? name >>= Entry.context?

def holder? (session : Session) (name : String) : Option Holder :=
  match session.root? name with
  | some root => some (.root root)
  | none => (session.type? name).map .type

/-- Lets a name stand for an entry. What it stood for before is let go. -/
def keep (session : Session) (name : String) (entry : Entry) : Session :=
  { session with entries := Keyed.place (·.1) (name, entry) session.entries }

/-- Forgets a name. -/
def forget (session : Session) (name : String) : Session :=
  { session with entries := session.entries.filter (·.1 ≠ name) }

/-- Lets go of the managers and roots that nothing keeps alive any more. -/
def settle (session : Session) : Session :=
  { session with
    store := session.store.retain (session.entries.filterMap (·.2.managerId?))
      (session.entries.filterMap (·.2.rootId?)) }

end Session

end TypedRows
