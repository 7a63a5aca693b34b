import TypedRows.Toml.Node
import TypedRows.Toml.Quoted

/-! TOML documents as trees. Every reader takes the text from where it starts and returns what it
read with the text that is left; `none` means that the text is not well formed. -/
namespace TypedRows.Toml

abbrev Reader (α : Type) := List Char → Option (α × List Char)

def skipBlanks (s : List Char) : List Char := s.dropWhile Scalar.isBlank

/-- Skips a comment, if one starts here. -/
def skipComment : List Char → List Char
  | '#' :: rest => rest.dropWhile Quoted.isPlain
  | s => s

/-- The text after a line break. -/
def lineBreak? : List Char → Option (List Char)
  | '\n' :: rest => some rest
  | '\r' :: '\n' :: rest => some rest
  | _ => none

/-- The text after the end of a line, where only blanks and a comment are left on the line. -/
def endLine? (s : List Char) : Option (List Char) :=
  match skipComment (skipBlanks s) with
  | [] => some []
  | rest => lineBreak? rest

/-- Skips blanks, comments and line breaks. The bound is on the number of lines. -/
def skipLines : Nat → List Char → List Char
  | 0, s => s
  | bound + 1, s =>
    let rest := skipComment (skipBlanks s)
    match lineBreak? rest with
    | some next => skipLines bound next
    | none => rest

def isBareKeyChar (c : Char) : Bool := c.isAlphanum || c = '-' || c = '_'

/-- One part of a key: quoted on one line, or bare. -/
def keyPart? : Reader String
  | '"' :: rest => (Quoted.basic? rest).map fun (part, rest) => (String.ofList part, rest)
  | '\'' :: rest => (Quoted.literal? rest).map fun (part, rest) => (String.ofList part, rest)
  | s =>
    let part := s.takeWhile isBareKeyChar
    if part.isEmpty then none else some (String.ofList part, s.drop part.length)

/-- How many parts a key can have, and how deep arrays and inline tables can be nested. -/
def depthLimit : Nat := 80

/-- A key with its dots, of so many parts at most: the parts before the last one, and the last. -/
def keyWithin? : Nat → Reader (List String × String)
  | 0, _ => none
  | limit + 1, s => do
    let (part, rest) ← keyPart? s
    match skipBlanks rest with
    | '.' :: next =>
      let ((path, last), rest) ← keyWithin? limit (skipBlanks next)
      return ((part :: path, last), rest)
    | rest => return (([], part), rest)

def key? : Reader (List String × String) := keyWithin? depthLimit

mutual

/-- A value with so many levels of nesting at most. The bound is on the number of nested values,
keys and items still to come. -/
def value? : (levels bound : Nat) → Reader Node
  | _, 0, _ => none
  | levels, bound + 1, s =>
    match s, levels with
    | '[' :: rest, levels + 1 =>
      (items? levels bound rest).map fun (items, rest) => (.list items, rest)
    | '{' :: rest, levels + 1 =>
      (members? levels bound [] rest).map fun (entries, rest) => (.table .inline entries, rest)
    | '"' :: _, _ =>
      (Quoted.read? s).map fun (content, rest) => (.text (String.ofList content), rest)
    | '\'' :: _, _ =>
      (Quoted.read? s).map fun (content, rest) => (.text (String.ofList content), rest)
    | _, _ => (Scalar.read? s).map (.scalar, ·)

/-- The items of an array up to its closing bracket. A comma can follow the last one. -/
def items? : (levels bound : Nat) → Reader (List Node)
  | _, 0, _ => none
  | levels, bound + 1, s =>
    match skipLines (s.length + 1) s with
    | ']' :: rest => some ([], rest)
    | start => do
      let (item, rest) ← value? levels bound start
      match skipLines (rest.length + 1) rest with
      | ',' :: rest =>
        let (items, rest) ← items? levels bound rest
        return (item :: items, rest)
      | ']' :: rest => return ([item], rest)
      | _ => none

/-- The members of an inline table up to its closing brace. Lines can end anywhere but inside a key,
and a comma can follow the last member. -/
def members? : (levels bound : Nat) → Entries → Reader Entries
  | _, 0, _, _ => none
  | levels, bound + 1, entries, s =>
    match skipLines (s.length + 1) s with
    | '}' :: rest => some (entries, rest)
    | start => do
      let ((path, key), rest) ← key? start
      let '=' :: rest := skipLines (rest.length + 1) rest | none
      let (node, rest) ← value? levels bound (skipLines (rest.length + 1) rest)
      let entries ← entries.assign path key node
      match skipLines (rest.length + 1) rest with
      | ',' :: rest => members? levels bound entries rest
      | '}' :: rest => return (entries, rest)
      | _ => none

end

/-- A document up to some line: its tree, and the header under which the next key stands. -/
structure Progress where
  root : Entries := []
  header : List String := []

namespace Progress

/-- One line of a document, up to but without its end. -/
def line? (progress : Progress) (s : List Char) : Option (Progress × List Char) :=
  match skipBlanks s with
  | '[' :: '[' :: rest => do
    let ((path, key), rest) ← key? (skipBlanks rest)
    let ']' :: ']' :: rest := rest | none
    let root ← progress.root.openElement path key
    return ({ root, header := path ++ [key] }, rest)
  | '[' :: rest => do
    let ((path, key), rest) ← key? (skipBlanks rest)
    let ']' :: rest := rest | none
    let root ← progress.root.openTable path key
    return ({ root, header := path ++ [key] }, rest)
  | start =>
    if start.isEmpty || (lineBreak? start).isSome || start.head? = some '#' then
      some (progress, start)
    else do
      let ((path, key), rest) ← key? start
      let '=' :: rest := rest | none
      let (node, rest) ← value? depthLimit (rest.length + 1) (skipBlanks rest)
      let root ← progress.root.under progress.header (Entries.assign path key node)
      return ({ progress with root }, rest)

/-- The lines of a document to its end. The bound is on their number. -/
def lines? : Nat → Progress → List Char → Option Entries
  | 0, _, _ => none
  | bound + 1, progress, s => do
    let (progress, rest) ← progress.line? s
    let next ← endLine? rest
    if next.isEmpty then return progress.root else lines? bound progress next

end Progress

/-- The tree of a document. A byte order mark in front of it does not count. -/
def read? (document : String) : Option Entries :=
  let s := match document.toList with
    | '\ufeff' :: rest => rest
    | s => s
  Progress.lines? (s.length + 1) {} s

end TypedRows.Toml
