import TypedRows.Toml.Scalar

/-! TOML strings. Each reader starts after the opening quotes and returns the content with what
follows the closing quotes. -/
namespace TypedRows.Toml.Quoted

/-- Characters that stand for themselves in comments and in strings of one line, quotes apart. -/
def isPlain (c : Char) : Bool := c = '\t' || (' ' ≤ c && c ≠ '\x7f')

def hexValue (c : Char) : Nat :=
  if c.isDigit then c.toNat - '0'.toNat
  else if 'a' ≤ c then c.toNat - 'a'.toNat + 10 else c.toNat - 'A'.toNat + 10

/-- The character whose code has exactly the given number of hexadecimal digits. -/
def coded? (count : Nat) (s : List Char) : Option Char :=
  let digits := s.take count
  if digits.length = count && digits.all Scalar.isHexDigit then
    let code := digits.foldl (fun n c => 16 * n + hexValue c) 0
    if code.isValidChar then some (Char.ofNat code) else none
  else none

/-- The character that an escape stands for, and how many characters the escape takes after its
backslash. -/
def escape? : List Char → Option (Char × Nat)
  | 'b' :: _ => some ('\x08', 1)
  | 't' :: _ => some ('\t', 1)
  | 'n' :: _ => some ('\n', 1)
  | 'f' :: _ => some ('\x0c', 1)
  | 'r' :: _ => some ('\r', 1)
  | 'e' :: _ => some ('\x1b', 1)
  | '"' :: _ => some ('"', 1)
  | '\\' :: _ => some ('\\', 1)
  | 'x' :: rest => (coded? 2 rest).map (·, 3)
  | 'u' :: rest => (coded? 4 rest).map (·, 5)
  | 'U' :: rest => (coded? 8 rest).map (·, 9)
  | _ => none

/-- A string of one line with escapes. -/
def basic? (s : List Char) : Option (List Char × List Char) :=
  match s with
  | [] => none
  | '"' :: rest => some ([], rest)
  | '\\' :: rest => do
    let (c, used) ← escape? rest
    let (content, rest) ← basic? (rest.drop used)
    return (c :: content, rest)
  | c :: rest =>
    if isPlain c then (basic? rest).map fun (content, rest) => (c :: content, rest) else none
termination_by s.length
decreasing_by all_goals simp; try omega

/-- A string of one line without escapes. -/
def literal? : List Char → Option (List Char × List Char)
  | [] => none
  | '\'' :: rest => some ([], rest)
  | c :: rest =>
    if isPlain c then (literal? rest).map fun (content, rest) => (c :: content, rest) else none

/-- Drops the line break right after the opening quotes. -/
def afterOpening : List Char → List Char
  | '\n' :: rest => rest
  | '\r' :: '\n' :: rest => rest
  | s => s

/-- The end of a text of several lines: three quotes, and in front of them up to two more that
belong to the content. -/
def closing? (quote : Char) (s : List Char) : Option (List Char × List Char) :=
  let count := min 5 (s.takeWhile (· = quote)).length
  if 3 ≤ count then some (List.replicate (count - 3) quote, s.drop count) else none

/-- Drops blanks and line breaks. -/
def dropSpace : List Char → List Char
  | ' ' :: rest => dropSpace rest
  | '\t' :: rest => dropSpace rest
  | '\n' :: rest => dropSpace rest
  | '\r' :: '\n' :: rest => dropSpace rest
  | s => s

/-- A backslash at the end of a line takes away the line break and all blanks and line breaks after
it. This is the text from there on, if the backslash stands at the end of a line. -/
def continued? (s : List Char) : Option (List Char) :=
  match s.dropWhile fun c => c = ' ' || c = '\t' with
  | '\n' :: rest => some (dropSpace rest)
  | '\r' :: '\n' :: rest => some (dropSpace rest)
  | _ => none

theorem length_dropSpace_le (s : List Char) : (dropSpace s).length ≤ s.length := by
  fun_induction dropSpace s with
  | case1 rest ih => exact Nat.le_succ_of_le ih
  | case2 rest ih => exact Nat.le_succ_of_le ih
  | case3 rest ih => exact Nat.le_succ_of_le ih
  | case4 rest ih => exact Nat.le_succ_of_le (Nat.le_succ_of_le ih)
  | case5 s => exact Nat.le_refl _

theorem length_continued_le {s rest : List Char} (found : continued? s = some rest) :
    rest.length ≤ s.length := by
  have blanks := (List.dropWhile_sublist (l := s) fun c => c = ' ' || c = '\t').length_le
  unfold continued? at found
  split at found
  · rename_i tail shape
    have lines := length_dropSpace_le tail
    rw [Option.some.inj found] at lines
    rw [shape, List.length_cons] at blanks
    omega
  · rename_i tail shape
    have lines := length_dropSpace_le tail
    rw [Option.some.inj found] at lines
    rw [shape, List.length_cons, List.length_cons] at blanks
    omega
  · cases found

/-- A string of several lines with escapes. -/
def multilineBasic? (s : List Char) : Option (List Char × List Char) :=
  match closing? '"' s with
  | some closed => some closed
  | none =>
    match s with
    | [] => none
    | '\\' :: rest =>
      match _found : continued? rest with
      | some next => multilineBasic? next
      | none => do
        let (c, used) ← escape? rest
        let (content, rest) ← multilineBasic? (rest.drop used)
        return (c :: content, rest)
    | '\r' :: '\n' :: rest =>
      (multilineBasic? rest).map fun (content, rest) => ('\r' :: '\n' :: content, rest)
    | c :: rest =>
      if isPlain c || c = '\n' then
        (multilineBasic? rest).map fun (content, rest) => (c :: content, rest)
      else none
termination_by s.length
decreasing_by
  · have := length_continued_le _found
    simp only [List.length_cons]
    omega
  all_goals simp; try omega

/-- A string of several lines without escapes. -/
def multilineLiteral? (s : List Char) : Option (List Char × List Char) :=
  match closing? '\'' s with
  | some closed => some closed
  | none =>
    match s with
    | [] => none
    | '\r' :: '\n' :: rest =>
      (multilineLiteral? rest).map fun (content, rest) => ('\r' :: '\n' :: content, rest)
    | c :: rest =>
      if isPlain c || c = '\n' then
        (multilineLiteral? rest).map fun (content, rest) => (c :: content, rest)
      else none
termination_by s.length

/-- Any string, from its opening quotes on. -/
def read? : List Char → Option (List Char × List Char)
  | '"' :: '"' :: '"' :: rest => multilineBasic? (afterOpening rest)
  | '"' :: rest => basic? rest
  | '\'' :: '\'' :: '\'' :: rest => multilineLiteral? (afterOpening rest)
  | '\'' :: rest => literal? rest
  | _ => none

end TypedRows.Toml.Quoted
