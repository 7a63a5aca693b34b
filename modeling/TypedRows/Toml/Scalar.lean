/-! The spelling of TOML booleans, numbers, dates and times. A spelling is recognised and not
evaluated, so that some numbers pass here that nothing could evaluate. -/
namespace TypedRows.Toml.Scalar

def isHexDigit (c : Char) : Bool :=
  c.isDigit || ('a' ≤ c && c ≤ 'f') || ('A' ≤ c && c ≤ 'F')

def isOctalDigit (c : Char) : Bool := '0' ≤ c && c ≤ '7'

def isBinaryDigit (c : Char) : Bool := c = '0' || c = '1'

/-- Whether the text consists of digits, with single underscores between digits only. -/
def areDigits (digit : Char → Bool) : List Char → Bool
  | [] => false
  | [c] => digit c
  | c :: '_' :: rest => digit c && areDigits digit rest
  | c :: rest => digit c && areDigits digit rest

def withoutSign : List Char → List Char
  | '+' :: rest => rest
  | '-' :: rest => rest
  | s => s

/-- A decimal number has no leading zero, except that it can be zero. -/
def isDecimal (s : List Char) : Bool :=
  areDigits Char.isDigit s && (s.length = 1 || s.head? ≠ some '0')

/-- Whether every underscore stands between two characters of a class. -/
def isSeparated (digit : Char → Bool) : List Char → Bool
  | [] => true
  | [c] => c ≠ '_'
  | '_' :: _ => false
  | c :: '_' :: rest => digit c && rest.head?.any digit && isSeparated digit rest
  | _ :: rest => isSeparated digit rest

/-- The digits after the mark of a radix, if any. -/
def areRadixDigits (digit : Char → Bool) (s : List Char) : Bool := s.isEmpty || areDigits digit s

/-- A whole number without a mark. From its first underscore on it is judged by its underscores
alone, as long as nothing in it makes it a number of another sort. -/
def isWhole (s : List Char) : Bool :=
  match s.dropWhile Char.isDigit with
  | [] => isDecimal s
  | '_' :: rest =>
    s.head? ≠ some '0' && isSeparated isHexDigit s &&
      rest.all fun c => c ≠ ' ' && c ≠ '.' && c ≠ 'e' && c ≠ 'E'
  | _ => false

def isInteger : List Char → Bool
  | '0' :: 'x' :: rest => areRadixDigits isHexDigit rest
  | '0' :: 'o' :: rest => areRadixDigits isOctalDigit rest
  | '0' :: 'b' :: rest => areRadixDigits isBinaryDigit rest
  | s => isWhole (withoutSign s)

def isExponent (s : List Char) : Bool := areDigits Char.isDigit (withoutSign s)

/-- Splits at the first character of a class; the rest is what follows it. -/
def cut (at? : Char → Bool) (s : List Char) : List Char × Option (List Char) :=
  (s.takeWhile (!at? ·), (s.dropWhile (!at? ·)).tail?)

def isFloat (s : List Char) : Bool :=
  let number := withoutSign s
  if number = "inf".toList || number = "nan".toList then true else
    let (mantissa, exponent) := cut (fun c => c = 'e' || c = 'E') number
    let (whole, fraction) := cut (· = '.') mantissa
    (exponent.isSome || fraction.isSome) && isDecimal whole &&
      fraction.all (areDigits Char.isDigit) && exponent.all isExponent

/-- The number written by ASCII digits, and nothing else. -/
def digits? (s : List Char) : Option Nat :=
  if s.isEmpty || !s.all Char.isDigit then none
  else some (s.foldl (fun n c => 10 * n + (c.toNat - '0'.toNat)) 0)

/-- Whether the digits stand for a number from `least` to `greatest`. -/
def inRange (least greatest : Nat) (s : List Char) : Bool :=
  (digits? s).any fun n => least ≤ n && n ≤ greatest

def daysIn (year month : Nat) : Nat :=
  if month = 2 then
    if year % 4 = 0 && (year % 100 ≠ 0 || year % 400 = 0) then 29 else 28
  else if month = 4 || month = 6 || month = 9 || month = 11 then 30 else 31

def isDate : List Char → Bool
  | [y₁, y₂, y₃, y₄, '-', m₁, m₂, '-', d₁, d₂] =>
    match digits? [y₁, y₂, y₃, y₄], digits? [m₁, m₂] with
    | some year, some month =>
      1 ≤ month && month ≤ 12 && inRange 1 (daysIn year month) [d₁, d₂]
    | _, _ => false
  | _ => false

/-- A time of day; seconds can be left out, and can have a fraction. -/
def isTime : List Char → Bool
  | h₁ :: h₂ :: ':' :: m₁ :: m₂ :: rest =>
    inRange 0 23 [h₁, h₂] && inRange 0 59 [m₁, m₂] && match rest with
      | [] => true
      | ':' :: s₁ :: s₂ :: more => inRange 0 60 [s₁, s₂] && match more with
        | [] => true
        | '.' :: fraction => (digits? fraction).isSome
        | _ => false
      | _ => false
  | _ => false

def isOffset : List Char → Bool
  | ['Z'] => true
  | ['z'] => true
  | [sign, h₁, h₂, ':', m₁, m₂] =>
    (sign = '+' || sign = '-') && inRange 0 23 [h₁, h₂] && inRange 0 59 [m₁, m₂]
  | _ => false

/-- A time of day with or without an offset. -/
def isOffsetTime (s : List Char) : Bool :=
  let time := s.takeWhile fun c => c.isDigit || c = ':' || c = '.'
  let offset := s.drop time.length
  isTime time && (offset.isEmpty || isOffset offset)

/-- What follows the separator between a date and a time of day: a letter, or one space. -/
def afterSeparator? : List Char → Option (List Char)
  | 'T' :: time => some time
  | 't' :: time => some time
  | ' ' :: time => some time
  | _ => none

def isDateTime (s : List Char) : Bool :=
  isDate s || isTime s || (isDate (s.take 10) && (afterSeparator? (s.drop 10)).any isOffsetTime)

def isScalar (s : List Char) : Bool :=
  s = "true".toList || s = "false".toList || isInteger s || isFloat s || isDateTime s

def isBlank (c : Char) : Bool := c = ' ' || c = '\t'

/-- Characters that end a scalar, unless they are blanks with more of it behind them. -/
def isDelimiter (c : Char) : Bool :=
  isBlank c || ['=', ',', '[', ']', '{', '}', '#', '\r', '\n'].contains c

def isQuote (c : Char) : Bool := c = '"' || c = '\''

/-- Splits a text after the scalar that it starts with, whatever its spelling. The scalar goes on
over blanks to what stands behind them, if that is neither a delimiter nor a quote. -/
def cutScalar : List Char → List Char × List Char
  | [] => ([], [])
  | c :: rest =>
    let ends := if isBlank c then
        (rest.dropWhile isBlank).head?.all fun next => isDelimiter next || isQuote next
      else isDelimiter c
    if ends then ([], c :: rest)
    else let (scalar, left) := cutScalar rest
      (c :: scalar, left)

/-- Reads a scalar. -/
def read? (s : List Char) : Option (List Char) :=
  let (scalar, left) := cutScalar s
  if isScalar scalar then some left else none

end TypedRows.Toml.Scalar
