import TypedRows.Fault
import TypedRows.Require
import TypedRows.Row
import TypedRows.Schema.Class

/-! Fields bound to the class that declares them, and the passage of one field between a row and an
object. A null is never handed to a persister, and what is checked against the field's own kind is
always the form that the object holds. -/
namespace TypedRows

/-- A declared field with the path of its declaring class. -/
structure Field where
  decl : FieldDecl
  declaredIn : String

namespace Field

def attributeName (field : Field) : String := field.decl.attributeName

/-- The name of the column, or of the attribute for a keyspace key that is not stored. -/
def columnName (field : Field) : String := field.decl.columnName

def isColumn (field : Field) : Bool := field.decl.column.isSome

def kind (field : Field) : Kind := field.decl.kind

def appliesTo (field : Field) (table : String) : Bool := field.decl.appliesTo table

def ordinal? (field : Field) : KeyRole → Option Nat
  | .partitionKey => field.decl.partitionKey
  | .clusteringKey => field.decl.clusteringKey.map (·.1)
  | _ => none

/-- Whether the field is a keyspace key that supplies the suffix type. -/
def supplies (field : Field) (suffixType : String) : Bool :=
  field.decl.keyspaceKey.any (·.suffixType = suffixType)

/-- Whether the field is a keyspace key for which the value has no keyspace. -/
def excludes (field : Field) (value : String) : Bool :=
  field.decl.keyspaceKey.any (·.exclude.contains value)

def checkKind (field : Field) (kind : Kind) (value : Value) : Except ConversionError Unit :=
  require (kind.accepts value)
    (.incompatibleColumn field.columnName field.declaredIn kind.render value.label)

def checkMandatory (field : Field) (value : Value) : Except ConversionError Unit :=
  require (!(field.decl.mandatory && value.isNull))
    (.mandatoryColumnNull field.columnName field.declaredIn)

/-- The checks on the form of a value that objects hold. -/
def check (field : Field) (value : Value) : Except ConversionError Unit := do
  field.checkKind field.kind value
  field.checkMandatory value

/-- The stored form as the object's form, not yet checked against the field. -/
def restore (field : Field) (stored : Value) : Except ConversionError Value :=
  match field.decl.persister with
  | none => .ok stored
  | some persister =>
    if stored.isNull then .ok stored else do
      field.checkKind persister.storedKind stored
      (persister.decode stored).mapError (.persister field.columnName)

/-- The object's form, already checked against the field, as the stored form. -/
def store (field : Field) (held : Value) : Except ConversionError Value :=
  match field.decl.persister with
  | none => .ok held
  | some persister =>
    if held.isNull then .ok held else do
      let stored ← (persister.encode held).mapError (.persister field.columnName)
      field.checkKind persister.storedKind stored
      return stored

/-- The value of the field for a stored value. -/
def decode (field : Field) (stored : Value) : Except ConversionError Value := do
  let held ← field.restore stored
  field.check held
  return held

/-- The value of the field in a column of a row; a column past the last value counts as null. -/
def decodeAt (field : Field) (row : Row) (index : Nat) : Except ConversionError Value :=
  field.decode ((row.value? index).getD .null)

/-- What an object holds in the attribute of the field. -/
def valueOf (field : Field) (object : Object) : Except ConversionError Value :=
  required (object.get? field.attributeName)
    (.unknownAttribute object.classPath field.attributeName)

/-- The stored value of the field for an object. -/
def encode (field : Field) (object : Object) : Except ConversionError Value := do
  let held ← field.valueOf object
  field.check held
  field.store held

end Field

/-- The declared fields of a class and its ancestors, the top of the hierarchy first. -/
def Class.fields (cls : Class) : List Field :=
  cls.lineage.reverse.flatMap fun decl => decl.fields.map (⟨·, decl.path⟩)

end TypedRows
