import TypedRows.Registry.Root

/-! Decoding rows of a hierarchy. The discriminator of a row says which type decodes it; a type
hands the rows of its descendants on to them and does not touch rows of any other branch. -/
namespace TypedRows

/-- The outcome of decoding a row through a root or a type. -/
inductive Resolved where
  | decoded (object : Object)
  /-- There was no row. -/
  | empty
  /-- The row belongs to a registered type outside the branch that was asked. -/
  | unrelated (discriminator : String)

namespace Resolved

def isObject : Resolved → Bool
  | .decoded _ => true
  | _ => false

def isEmpty : Resolved → Bool
  | .empty => true
  | _ => false

def isUnrelated : Resolved → Bool
  | .unrelated _ => true
  | _ => false

def object? : Resolved → Option Object
  | .decoded object => some object
  | _ => none

/-- The decoded object if it has the shape. -/
def downcast? (resolved : Resolved) (shape : Shape) : Option Object :=
  resolved.object? >>= (·.downcast? shape)

end Resolved

namespace Table

/-- The position at which a row carries the type key of a table. The first column of that name has
to come from this very table. -/
def typeKeyAt? (table : Table) (row : Row) : Option (Field × Nat) := do
  let typeKey ← table.typeKey
  let index ← row.indexOf? typeKey.columnName
  if row.table? index = some table.name then some (typeKey, index) else none

end Table

/-- The discriminator of a row, from the first of the tables whose type key the row carries. There
is none if no table has one there, or if its value is not a text. -/
def discoverDiscriminator (tables : List Table) (row : Row) :
    Except ConversionError (Option String) :=
  match tables.findSome? (·.typeKeyAt? row) with
  | none => .ok none
  | some (typeKey, index) => (typeKey.decodeAt row index).map (·.asText?)

namespace Entity

/-- The discriminator of a row, which has to have one. -/
def discriminatorOf (entity : Entity) (row : Row) : Except ConversionError String := do
  let discriminator? ← discoverDiscriminator entity.tables row
  required discriminator? (.missingTypeColumn entity.path)

/-- The row as an object of the entity's class. -/
def decodeObject (entity : Entity) (row : Row) (keys : KeyValues) : Traced Fault Resolved :=
  .ofExcept ((entity.decode row keys).map .decoded |>.mapError .conversion)

end Entity

namespace TypeEntity

/-- Decodes a row of a known discriminator. `root?` is the root of the type, if it is still there;
it is not needed for the rows of the type itself. -/
def dispatch (type : TypeEntity) (root? : Option Root) (row : Row) (discriminator : String)
    (keys : KeyValues) : Traced Fault Resolved :=
  if discriminator = type.discriminator then type.entity.decodeObject row keys
  else match root? with
    | none => .fail (.rootUnavailable type.rootPath type.discriminator)
    | some root => do
      let target ← (root.lookup discriminator).mapError Fault.registry
      if type.cls.isAssignableFrom target.cls then
        Traced.emit (.rowDelegated type.discriminator target.discriminator)
        target.entity.decodeObject row keys
      else
        Traced.emit (.rowUnrelated type.discriminator discriminator)
        return .unrelated discriminator

/-- Decodes a row, if there is one, knowing its discriminator. -/
def decodeAs (type : TypeEntity) (root? : Option Root) (row? : Option Row) (discriminator : String)
    (keys : KeyValues) : Traced Fault Resolved :=
  match row? with
  | none => pure .empty
  | some row => type.dispatch root? row discriminator keys

/-- Decodes a row, if there is one, under the discriminator that it carries. -/
def decode (type : TypeEntity) (root? : Option Root) (row? : Option Row) (keys : KeyValues) :
    Traced Fault Resolved :=
  match row? with
  | none => pure .empty
  | some row => do
    let discriminator ← (type.entity.discriminatorOf row).mapError Fault.conversion
    type.dispatch root? row discriminator keys

end TypeEntity

namespace Root

/-- Decodes a row, if there is one, through the type registered for the discriminator. -/
def decodeAs (root : Root) (row? : Option Row) (discriminator : String) (keys : KeyValues) :
    Traced Fault Resolved :=
  match row? with
  | none => pure .empty
  | some row => do
    let type ← (root.lookup discriminator).mapError Fault.registry
    type.dispatch (some root) row discriminator keys

/-- Decodes a row, if there is one, through the type registered for the discriminator that it
carries. -/
def decode (root : Root) (row? : Option Row) (keys : KeyValues) : Traced Fault Resolved :=
  match row? with
  | none => pure .empty
  | some row => do
    let discriminator ← (root.entity.discriminatorOf row).mapError Fault.conversion
    Traced.emit (.rowDispatched root.path discriminator)
    let type ← (root.lookup discriminator).mapError Fault.registry
    type.dispatch (some root) row discriminator keys

end Root

end TypedRows
