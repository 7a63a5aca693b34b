import TypedRows.Object
import TypedRows.Settings

/-! What can go wrong, by cause. Each cause has one text; a fault is a cause of any sort, and adds
to it a class and an origin by which callers sort faults without looking at the cause. -/
namespace TypedRows

/-- The part that a column plays in a table. -/
inductive KeyRole where
  | partitionKey
  | clusteringKey
  | typeKey
  | index
  deriving DecidableEq, Repr

def KeyRole.label : KeyRole → String
  | .partitionKey => "partition key"
  | .clusteringKey => "clustering key"
  | .typeKey => "type key"
  | .index => "index"

/-- One way in which a type disagrees with its root. -/
inductive Violation where
  /-- A keyspace key that the root class does not declare itself. -/
  | keyspaceKeyOutside (key declaredIn root : String)
  /-- A keyspace annotation that is found below the root. -/
  | keyspaceOutside (foundIn root : String)
  /-- A table annotation that is found below the root. -/
  | tableOutside (table foundIn root : String)
  /-- A column with a part to play in a table that is declared below the root. -/
  | keyFieldOutside (role : KeyRole) (table column declaredIn root : String)
  deriving DecidableEq, Repr

def Violation.message : Violation → String
  | .keyspaceKeyOutside key declaredIn root =>
    s!"keyspace key '{key}' must be declared in root class '{root}' " ++
      s!"but is declared in '{declaredIn}'"
  | .keyspaceOutside foundIn root =>
    s!"keyspace annotation found in '{foundIn}', which is not visible from root class '{root}'"
  | .tableOutside table foundIn root =>
    s!"table '{table}' annotation found in '{foundIn}', " ++
      s!"which is not visible from root class '{root}'"
  | .keyFieldOutside role table column declaredIn root =>
    s!"{role.label} '{column}' of table '{table}' is declared in '{declaredIn}', " ++
      s!"which is not visible from root class '{root}'"

/-- Why a class, a table or a descriptor could not be built or published. -/
inductive ModelError where
  | abstractTypeEntity (path : String)
  | factoryMismatch (path produced : String)
  | missingTypeEntity (path : String)
  | missingRootEntity (path : String)
  | notASubtype (path root : String)
  | foreignRoot (path root registeredRoot : String)
  | missingKeyspace (path : String)
  | missingTable (path : String)
  | missingPartitionKey (path table : String)
  | multipleTypeKeys (path table first second : String)
  | typeKeyNotText (path table column : String)
  | duplicateColumn (path column : String)
  | unknownTable (path column table : String)
  | duplicateKeyOrdinal (path table : String) (role : KeyRole) (column : String) (ordinal : Nat)
  | missingSuffixKey (path suffixType : String)
  | duplicateKeyspaceKey (path key : String)
  | invalidTypeEntity (path root : String) (violations : List Violation)
  deriving DecidableEq, Repr

namespace ModelError

def message : ModelError → String
  | .abstractTypeEntity path => s!"type entity class '{path}' cannot be abstract"
  | .factoryMismatch path produced =>
    s!"factory of class '{path}' builds objects of class '{produced}'"
  | .missingTypeEntity path => s!"class '{path}' is not annotated as a type entity"
  | .missingRootEntity path =>
    s!"class '{path}' is not annotated as, nor descends from, a root entity"
  | .notASubtype path root =>
    s!"type entity class '{path}' does not descend from root element class '{root}'"
  | .foreignRoot path root registeredRoot =>
    s!"type entity class '{path}' belongs to root '{registeredRoot}' and cannot be registered " ++
      s!"under root '{root}'"
  | .missingKeyspace path =>
    s!"no keyspace annotation found for class '{path}' or its ancestors"
  | .missingTable path => s!"no table annotation found for class '{path}' or its ancestors"
  | .missingPartitionKey path table => s!"table '{table}' of class '{path}' has no partition key"
  | .multipleTypeKeys path table first second =>
    s!"table '{table}' of class '{path}' declares more than one type key: '{first}' and '{second}'"
  | .typeKeyNotText path table column =>
    s!"type key column '{column}' of table '{table}' in class '{path}' must be text"
  | .duplicateColumn path column =>
    s!"column '{column}' is declared more than once in class '{path}'"
  | .unknownTable path column table =>
    s!"column '{column}' of class '{path}' is bound to unknown table '{table}'"
  | .duplicateKeyOrdinal path table role column ordinal =>
    s!"{role.label} ordinal {ordinal} is used twice in table '{table}' of class '{path}' " ++
      s!"(column '{column}')"
  | .missingSuffixKey path suffixType =>
    s!"keyspace of class '{path}' declares suffix type '{suffixType}' with no keyspace key field"
  | .duplicateKeyspaceKey path key =>
    s!"keyspace key '{key}' is declared more than once in class '{path}'"
  | .invalidTypeEntity path root violations =>
    s!"type entity class '{path}' is inconsistent with root element class '{root}': " ++
      String.intercalate "; " (violations.map (·.message))

/-- The violations that an inconsistent type is refused for. -/
def violations : ModelError → List Violation
  | .invalidTypeEntity _ _ violations => violations
  | _ => []

end ModelError

/-- Why a row could not be turned into an object, or an object into column values. -/
inductive ConversionError where
  | missingTypeColumn (path : String)
  | abstractClass (path : String)
  | incompatibleColumn (column declaredIn expected found : String)
  | mandatoryColumnNull (column declaredIn : String)
  | persister (column reason : String)
  | unassignable (path column : String) (cause : AttributeError)
  | unknownAttribute (path name : String)
  | missingKeyspaceKey (path key : String)
  | excludedKeyspaceKey (path key value : String)
  deriving Repr

def ConversionError.message : ConversionError → String
  | .missingTypeColumn path => s!"missing POJO type column for class '{path}'"
  | .abstractClass path => s!"class '{path}' is abstract and cannot be instantiated"
  | .incompatibleColumn column declaredIn expected found =>
    s!"column '{column}' (declared in '{declaredIn}') expects {expected} but found {found}"
  | .mandatoryColumnNull column declaredIn =>
    s!"mandatory column '{column}' (declared in '{declaredIn}') is null"
  | .persister column reason => s!"persister for column '{column}' failed: {reason}"
  | .unassignable path column cause =>
    s!"class '{path}' cannot assign column '{column}': {cause.message}"
  | .unknownAttribute path name => s!"object of class '{path}' does not expose attribute '{name}'"
  | .missingKeyspaceKey path key => s!"missing value for keyspace key '{key}' of class '{path}'"
  | .excludedKeyspaceKey path key value =>
    s!"value '{value}' of keyspace key '{key}' is excluded for class '{path}'"

/-- A look-up in a registry that found nothing. -/
inductive RegistryError where
  | typeNotFound (root discriminator : String)
  deriving DecidableEq, Repr

def RegistryError.message : RegistryError → String
  | .typeNotFound root discriminator =>
    s!"no type entity registered for '{discriminator}' under root '{root}'"

/-- A context that was asked for something it cannot hold or does not have. -/
inductive ContextError where
  | classMismatch (expected found : String)
  | unregisteredClass (root path : String)
  | unknownTable (path table : String)
  deriving DecidableEq, Repr

def ContextError.message : ContextError → String
  | .classMismatch expected found =>
    s!"object of class '{found}' cannot be wrapped by the descriptor of class '{expected}'"
  | .unregisteredClass root path =>
    s!"class '{path}' is not a registered type entity of root '{root}'"
  | .unknownTable path table => s!"class '{path}' has no table '{table}'"

/-- What sort of trouble a fault is. -/
inductive FaultClass where
  | configuration
  | conversion
  | notFound
  | invalidArgument
  | internal
  deriving DecidableEq, Repr

def FaultClass.label : FaultClass → String
  | .configuration => "configuration"
  | .conversion => "conversion"
  | .notFound => "not_found"
  | .invalidArgument => "invalid_argument"
  | .internal => "internal"

/-- The activity in which a fault arose. -/
inductive FaultOrigin where
  | config
  | model
  | decode
  | registry
  | context
  deriving DecidableEq, Repr

def FaultOrigin.label : FaultOrigin → String
  | .config => "config"
  | .model => "model"
  | .decode => "decode"
  | .registry => "registry"
  | .context => "context"

/-- Anything that can go wrong. -/
inductive Fault where
  | settings (cause : SettingsError)
  | model (cause : ModelError)
  | conversion (cause : ConversionError)
  | registry (cause : RegistryError)
  | context (cause : ContextError)
  /-- The root of a type is gone, so no other type can be looked up. -/
  | rootUnavailable (root discriminator : String)
  /-- A text with a class and an origin, and no cause to inspect. -/
  | plain (faultClass : FaultClass) (origin : FaultOrigin) (text : String)
  deriving Repr

namespace Fault

def message : Fault → String
  | .settings cause => cause.message
  | .model cause => cause.message
  | .conversion cause => cause.message
  | .registry cause => cause.message
  | .context cause => cause.message
  | .rootUnavailable root discriminator =>
    s!"root '{root}' of type entity '{discriminator}' is no longer available"
  | .plain _ _ text => text

def faultClass : Fault → FaultClass
  | .settings _ => .configuration
  | .model _ => .configuration
  | .conversion _ => .conversion
  | .registry _ => .notFound
  | .context _ => .invalidArgument
  | .rootUnavailable _ _ => .internal
  | .plain faultClass _ _ => faultClass

def origin : Fault → FaultOrigin
  | .settings _ => .config
  | .model _ => .model
  | .conversion _ => .decode
  | .registry _ => .registry
  | .context _ => .context
  | .rootUnavailable _ _ => .registry
  | .plain _ origin _ => origin

/-- The message with its origin and class in front. -/
def fullMessage (fault : Fault) : String :=
  s!"{fault.origin.label}:{fault.faultClass.label}: {fault.message}"

/-- Whether the fault is a look-up that found nothing. A plain text of the same class is not one. -/
def isNotFound : Fault → Bool
  | .registry _ => true
  | _ => false

/-- Whether the fault belongs to the conversion class, with or without a cause. -/
def isConversion (fault : Fault) : Bool := fault.faultClass = .conversion

/-- Whether there is a cause to inspect. -/
def hasCause : Fault → Bool
  | .rootUnavailable _ _ => false
  | .plain _ _ _ => false
  | _ => true

end Fault

end TypedRows
