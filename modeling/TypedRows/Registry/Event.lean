/-! What happens while descriptors are built, published and used, and computations that record it.
Events are kept also when a computation fails in the end. -/
namespace TypedRows

/-- Something worth recording. -/
inductive Event where
  | typeValidated (path root discriminator : String) (isDynamic : Bool)
  | rootBuilt (root keyspace : String) (types : Nat)
  /-- A type took over the discriminator of another one. -/
  | typeReplaced (root discriminator replaced replacement : String)
  | typeRegistered (root discriminator : String) (isDynamic : Bool)
  | rowDispatched (root discriminator : String)
  | rowUnrelated (source discriminator : String)
  | rowDelegated (source target : String)
  | rootPublished (root : String) (types : Nat)
  deriving DecidableEq, Repr

/-- How much attention an event deserves. -/
inductive Level where
  | trace
  | debug
  | warn
  deriving DecidableEq, Repr

def Level.label : Level → String
  | .trace => "trace"
  | .debug => "debug"
  | .warn => "warn"

namespace Event

def level : Event → Level
  | .typeReplaced .. => .warn
  | .rowDispatched .. => .trace
  | .rowUnrelated .. => .trace
  | .rowDelegated .. => .trace
  | _ => .debug

def message : Event → String
  | .typeValidated .. => "type entity validated"
  | .rootBuilt .. => "root entity built"
  | .typeReplaced .. => "discriminator collision, last registration wins"
  | .typeRegistered .. => "type entity registered"
  | .rowDispatched .. => "dispatching row from root"
  | .rowUnrelated .. => "row belongs to an unrelated type"
  | .rowDelegated .. => "delegating row to subtype"
  | .rootPublished .. => "root entity published"

/-- The details of an event by name. -/
def details : Event → List (String × String)
  | .typeValidated path root discriminator isDynamic =>
    [("class", path), ("root", root), ("discriminator", discriminator),
      ("dynamic", toString isDynamic)]
  | .rootBuilt root keyspace types =>
    [("root", root), ("keyspace", keyspace), ("types", toString types)]
  | .typeReplaced root discriminator replaced replacement =>
    [("root", root), ("discriminator", discriminator), ("replaced", replaced),
      ("by", replacement)]
  | .typeRegistered root discriminator isDynamic =>
    [("root", root), ("discriminator", discriminator), ("dynamic", toString isDynamic)]
  | .rowDispatched root discriminator => [("root", root), ("discriminator", discriminator)]
  | .rowUnrelated source discriminator =>
    [("from", source), ("discriminator", discriminator)]
  | .rowDelegated source target => [("from", source), ("to", target)]
  | .rootPublished root types => [("root", root), ("types", toString types)]

end Event

/-- The result of a computation that may fail, with the events up to its end. -/
structure Traced (ε α : Type) where
  result : Except ε α
  events : List Event

namespace Traced

variable {ε α β : Type}

def emit (event : Event) : Traced ε Unit := ⟨.ok (), [event]⟩

/-- A computation that records nothing. -/
def ofExcept (result : Except ε α) : Traced ε α := ⟨result, []⟩

def fail (error : ε) : Traced ε α := ⟨.error error, []⟩

def andThen (first : Traced ε α) (next : α → Traced ε β) : Traced ε β :=
  match first.result with
  | .error error => ⟨.error error, first.events⟩
  | .ok a =>
    let second := next a
    ⟨second.result, first.events ++ second.events⟩

instance : Monad (Traced ε) where
  pure a := ⟨.ok a, []⟩
  bind := andThen

instance : MonadLift (Except ε) (Traced ε) where
  monadLift := ofExcept

/-- The outcome does not depend on what was recorded. -/
theorem result_bind (first : Traced ε α) (next : α → Traced ε β) :
    (first >>= next).result = first.result >>= fun a => (next a).result := by
  change (first.andThen next).result = _
  obtain ⟨result, events⟩ := first
  cases result <;> rfl

/-- After a success the events of the next computation follow those of the first. -/
theorem events_bind_of_ok {first : Traced ε α} {a : α} (done : first.result = .ok a)
    (next : α → Traced ε β) : (first >>= next).events = first.events ++ (next a).events := by
  change (first.andThen next).events = _
  simp [andThen, done]

/-- A failure keeps the events that led to it and adds none. -/
theorem events_bind_of_error {first : Traced ε α} {error : ε} (failed : first.result = .error error)
    (next : α → Traced ε β) : (first >>= next).events = first.events := by
  change (first.andThen next).events = _
  simp [andThen, failed]

end Traced

end TypedRows
