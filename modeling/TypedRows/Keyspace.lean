/-! Keyspaces: the base name of a keyspace, the suffix types that parameterise it, and the name that
comes out when each suffix type is given a value. -/
namespace TypedRows

/-- How keyspace names are put together. -/
structure Naming where
  /-- Put in front of every base name. -/
  basePrefix : Option String := none
  /-- Stands between the base prefix, the base name and every suffix. -/
  separator : String := "_"
  deriving DecidableEq, Repr

/-- A keyspace annotation: a base name and the suffix types that are appended to it, in order. -/
structure Keyspace where
  name : String
  suffixes : List String
  deriving DecidableEq, Repr

namespace Keyspace

/-- Maps a suffix value onto the alphabet of keyspace names: ASCII letters in lower case and ASCII
digits stand, and every other character becomes an underscore. -/
def sanitize (value : String) : String :=
  value.map fun c => if c.isAlphanum then c.toLower else '_'

/-- The name before any suffix. An empty base prefix counts as none. -/
def baseName (keyspace : Keyspace) (naming : Naming) : String :=
  match naming.basePrefix with
  | none => keyspace.name
  | some basePrefix =>
    if basePrefix.isEmpty then keyspace.name else basePrefix ++ naming.separator ++ keyspace.name

/-- Appends one sanitized suffix value. -/
def extend (naming : Naming) (name value : String) : String :=
  name ++ naming.separator ++ sanitize value

/-- The full name, asking for the value of each suffix type in order and failing with the first that
has none. -/
def resolve {ε : Type} (keyspace : Keyspace) (naming : Naming)
    (valueOf : String → Except ε String) : Except ε String :=
  keyspace.suffixes.foldlM (fun name suffixType => (valueOf suffixType).map (extend naming name))
    (keyspace.baseName naming)

/-- The suffix types that `resolve` asks for: all of them, or those up to the first that fails. -/
def asked {ε : Type} (keyspace : Keyspace) (valueOf : String → Except ε String) : List String :=
  go keyspace.suffixes
where
  go : List String → List String
    | [] => []
    | suffixType :: rest => suffixType :: if (valueOf suffixType).isOk then go rest else []

end Keyspace

end TypedRows
