import TypedRows.Settings
import TypedRows.Toml.Reader

/-! Settings as a TOML document. The document has two sections, `keyspace` and `validation`;
whatever is left out keeps its default, and anything else is refused. A section can also be written
as an array of its values in their fixed order. -/
namespace TypedRows.Settings

open Toml (Node Entries)

/-- The values of a section by position of their names; `none` for a section that is none, or that
has a name of its own making. -/
def sectionValues? (names : List String) : Node → Option (List (Option Node))
  | .table _ entries => fromEntries entries
  | .list items => some (fromItems items)
  | .tables newest older => some (fromItems ((older.reverse ++ [newest]).map (.table .header)))
  | _ => none
where
  fromEntries (entries : Entries) : Option (List (Option Node)) :=
    if entries.all (names.contains ·.1) then some (names.map fun name => entries.lookup name)
    else none
  fromItems (items : List Node) : List (Option Node) :=
    (List.range names.length).map (items[·]?)

def text? : Node → Option String
  | .text content => some content
  | _ => none

/-- Whether a node says nothing. -/
def isBlank : Node → Bool
  | .table _ entries => entries.isEmpty
  | .list items => items.isEmpty
  | _ => false

/-- A mode is written as its name, or as a table that has just that name and nothing under it. -/
def modeName? : Node → Option String
  | .text name => some name
  | .table _ [(name, node)] => if isBlank node then some name else none
  | _ => none

def mode? (node : Node) : Option ValidationMode :=
  match modeName? node with
  | some "all" => some .all
  | some "first" => some .first
  | _ => none

def naming? (node : Node) : Option Naming := do
  let values ← sectionValues? ["prefix", "separator"] node
  let [basePrefix, separator] := values | none
  return {
    basePrefix := ← basePrefix.mapM text?
    separator := ← (separator.map text?).getD (some ({} : Naming).separator) }

def validation? (node : Node) : Option ValidationMode := do
  let values ← sectionValues? ["mode"] node
  let [mode] := values | none
  (mode.map mode?).getD (some ({} : Settings).mode)

/-- The settings of a document's tree. -/
def ofEntries? (entries : Entries) : Option Settings := do
  let values ← sectionValues? ["keyspace", "validation"] (.table .header entries)
  let [keyspace, validation] := values | none
  return {
    naming := ← (keyspace.map naming?).getD (some {})
    mode := ← (validation.map validation?).getD (some .all) }

/-- The settings of a document. A separator is judged only once all else is in order. -/
def ofDocument (document : String) : Except SettingsError Settings :=
  match Toml.read? document >>= ofEntries? with
  | some settings => settings.checked
  | none => .error .malformed

/-- Where settings come from: a document, or a program that fills them in without any check. -/
inductive Source where
  | document (text : String)
  | direct (settings : Settings)

def Source.load : Source → Except SettingsError Settings
  | .document text => ofDocument text
  | .direct settings => .ok settings

end TypedRows.Settings
