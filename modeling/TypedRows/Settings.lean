import TypedRows.Keyspace

/-! Mapper settings: how keyspaces are named and how much validation reports. -/
namespace TypedRows

/-- How many violations are reported when a type does not agree with its root. -/
inductive ValidationMode where
  | all
  | first
  deriving DecidableEq, Repr

/-- The settings that every descriptor built by one manager shares. -/
structure Settings where
  naming : Naming := {}
  mode : ValidationMode := .all
  deriving DecidableEq, Repr

/-- Why a settings document was refused. -/
inductive SettingsError where
  /-- The text is not a settings document, whatever the reason. -/
  | malformed
  | emptySeparator
  deriving DecidableEq, Repr

def SettingsError.message : SettingsError → String
  | .malformed => "invalid mapper configuration"
  | .emptySeparator => "keyspace separator must not be empty"

/-- Settings read from a document must separate the parts of a keyspace name by something. -/
def Settings.checked (settings : Settings) : Except SettingsError Settings :=
  if settings.naming.separator.isEmpty then .error .emptySeparator else .ok settings

end TypedRows
