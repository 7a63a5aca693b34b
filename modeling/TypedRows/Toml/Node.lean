/-! The tree of a TOML document and the rules by which it grows. A table is defined once; what
counts as defining it depends on how the table came about, so each table remembers that. -/
namespace TypedRows.Toml

/-- How a table came about. -/
inductive Origin where
  /-- By a header of its own. -/
  | header
  /-- By a header further down. -/
  | implied
  /-- By a dotted key, or it was only implied before and a dotted key goes through it. -/
  | dotted
  /-- Written out in braces, and complete with that. -/
  | inline
  deriving DecidableEq, Repr

/-- A value in a document. -/
inductive Node where
  | text (content : String)
  /-- A well-formed number, boolean or date. No setting takes one, so none is kept. -/
  | scalar
  | list (items : List Node)
  /-- An array of tables, the newest first: the entries of each one. -/
  | tables (newest : List (String × Node)) (older : List (List (String × Node)))
  | table (origin : Origin) (entries : List (String × Node))
  deriving Repr

/-- The entries of a table in document order, each key once. -/
abbrev Entries := List (String × Node)

namespace Entries

/-- Changes what a key stands for, or adds it at the end. `none` refuses the change. -/
def alter (key : String) (change : Option Node → Option Node) : Entries → Option Entries
  | [] => (change none).map fun node => [(key, node)]
  | (name, node) :: rest =>
    if name = key then (change (some node)).map fun changed => (name, changed) :: rest
    else (alter key change rest).map ((name, node) :: ·)

/-- Changes the table at the end of a header path. Tables on the way that do not exist yet are
implied, and of an array of tables the newest one is meant. -/
def under : List String → (Entries → Option Entries) → Entries → Option Entries
  | [], change => change
  | key :: path, change => alter key fun
    | none => (under path change []).map (.table .implied)
    | some (.table .inline _) => none
    | some (.table origin entries) => (under path change entries).map (.table origin)
    | some (.tables newest older) => (under path change newest).map (.tables · older)
    | some _ => none

/-- Changes the table at the end of a dotted key's path. Such a path makes the tables it needs, goes
on into those that dotted keys have made, and takes over those that are only implied. It can pass
through the newest table of an array of tables, but not end there. -/
def along : List String → (Entries → Option Entries) → Entries → Option Entries
  | [], change => change
  | key :: path, change => alter key fun
    | none => (along path change []).map (.table .dotted)
    | some (.table .dotted entries) => (along path change entries).map (.table .dotted)
    | some (.table .implied entries) => (along path change entries).map (.table .dotted)
    | some (.tables newest older) =>
      if path.isEmpty then none else (along path change newest).map (.tables · older)
    | some _ => none

/-- Adds a key that is not there yet. -/
def add (key : String) (node : Node) : Entries → Option Entries :=
  alter key fun
    | none => some node
    | some _ => none

/-- Adds a value under a dotted key. -/
def assign (path : List String) (key : String) (node : Node) : Entries → Option Entries :=
  along path (add key node)

/-- Opens the table of a header. A table that was only implied so far is defined by this. -/
def openTable (path : List String) (key : String) : Entries → Option Entries :=
  under path <| alter key fun
    | none => some (.table .header [])
    | some (.table .implied entries) => some (.table .header entries)
    | some _ => none

/-- Opens a further table of an array of tables. -/
def openElement (path : List String) (key : String) : Entries → Option Entries :=
  under path <| alter key fun
    | none => some (.tables [] [])
    | some (.tables newest older) => some (.tables [] (newest :: older))
    | some _ => none

end Entries

end TypedRows.Toml
