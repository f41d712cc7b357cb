import ShellStyle.Text.Search

/-!
# Numbers

A number is an integer to base ten, or with a mark in front to base sixteen, eight or two, or a
decimal with a point or an exponent; a `j` behind it makes it imaginary. Single underscores may
stand between digits. No name may begin right behind a number with an ASCII character, some keywords
apart.
-/

namespace ShellStyle.Literal

open Text

/-- A character that runs a name on, whether it may stand there or not. -/
def isNameLike (c : Char) : Bool :=
  c.isAlphanum || c == '_' || 0x80 ≤ c.toNat

/-- The keywords that may stand right behind a number. -/
def trailingKeywords : List Text :=
  ["and".toList, "else".toList, "for".toList, "or".toList, "not".toList]

/-- The beginnings that may stand right behind a number, whatever follows them. -/
def trailingStarts : List Text :=
  ["if".toList, "in".toList, "is".toList]

/-- Whether a text may stand right behind a number though a name begins there. -/
def mayTrailNumber (t : Text) : Bool :=
  (trailingStarts.any fun start => startsWith start t) ||
    trailingKeywords.any fun word => (after? word t).any fun rest => !rest.head?.any isNameLike

/-- The complaint about a number of some kind. -/
def invalidNumber (kind : String) : String :=
  "invalid " ++ kind ++ " literal"

/-- The text behind a number, which must not go on with a name. -/
def endNumber (kind : String) (t : Text) : Except String Text :=
  if t.head?.any (fun c => c.isAlphanum || c == '_') && !mayTrailNumber t then
    .error (invalidNumber kind)
  else .ok t

/-- The text behind decimal digits with single underscores between them. -/
def decimalTail : Text → Except String Text
  | [] => .ok []
  | c :: t =>
    if c.isDigit then decimalTail t
    else if c = '_' then
      if t.head?.any Char.isDigit then decimalTail t else .error (invalidNumber "decimal")
    else .ok (c :: t)

/-- The text behind the digits of a base, where `fresh` tells that a digit has to come. -/
def digitsTail (kind : String) (isDigit : Char → Bool) (fresh : Bool) : Text → Except String Text
  | [] => if fresh then .error (invalidNumber kind) else .ok []
  | c :: t =>
    if isDigit c then digitsTail kind isDigit false t
    else if c = '_' && !fresh then
      if t.head?.any isDigit then digitsTail kind isDigit true t
      else .error (digitComplaint t.head?)
    else if c.isDigit then .error (digitComplaint (some c))
    else if fresh then .error (invalidNumber kind)
    else .ok (c :: t)
where
  /-- The complaint about what stands in place of a digit. -/
  digitComplaint (c : Option Char) : String :=
    match c with
    | some c =>
      if c.isDigit then "invalid digit '" ++ String.singleton c ++ "' in " ++ kind ++ " literal"
      else invalidNumber kind
    | none => invalidNumber kind

/-- Reads the digits of a base behind its mark; one underscore may follow the mark. -/
def baseTail (kind : String) (isDigit : Char → Bool) (t : Text) : Except String Text := do
  let rest ← digitsTail kind isDigit true (if t.head? = some '_' then t.tail else t)
  endNumber kind rest

/-- Reads the end of a decimal: it may be imaginary. -/
def imaginaryTail (t : Text) : Except String (Bool × Text) := do
  match t with
  | c :: rest =>
    if c = 'j' || c = 'J' then return (true, ← endNumber "imaginary" rest)
    else return (false, ← endNumber "decimal" t)
  | [] => return (false, [])

/-- Reads an exponent, if there is one. -/
def exponentTail (t : Text) : Except String (Bool × Text) := do
  match t with
  | c :: rest =>
    if c = 'e' || c = 'E' then
      match rest with
      | d :: digits =>
        if d = '+' || d = '-' then
          if digits.head?.any Char.isDigit then imaginaryTail (← decimalTail digits)
          else .error (invalidNumber "decimal")
        else if d.isDigit then imaginaryTail (← decimalTail rest)
        else return (false, ← endNumber "decimal" t)
      | [] => return (false, ← endNumber "decimal" t)
    else imaginaryTail t
  | [] => return (false, [])

/-- Reads the digits behind a point. -/
def fractionTail (t : Text) : Except String (Bool × Text) := do
  if t.head?.any Char.isDigit then exponentTail (← decimalTail t) else exponentTail t

/-- Reads what follows the integer part of a decimal. -/
def decimalRest (t : Text) : Except String (Bool × Text) :=
  match t with
  | '.' :: rest => fractionTail rest
  | _ => exponentTail t

/-- Reads zeros with single underscores between them. -/
def zerosTail : Text → Except String Text
  | [] => .ok []
  | c :: t =>
    if c = '0' then zerosTail t
    else if c = '_' then
      if t.head?.any Char.isDigit then zerosTail t else .error (invalidNumber "decimal")
    else .ok (c :: t)

/-- Reads a decimal that begins with a zero: as an integer it may not have other digits. -/
def zeroRest (t : Text) : Except String (Bool × Text) := do
  let rest ← zerosTail t
  if rest.head?.any Char.isDigit then
    let rest ← decimalTail rest
    match rest.head? with
    | some c =>
      if ['.', 'e', 'E', 'j', 'J'].elem c then decimalRest rest else .error leadingZeros
    | none => .error leadingZeros
  else decimalRest rest
where
  /-- The complaint about a zero before other digits. -/
  leadingZeros : String :=
    "leading zeros in decimal integer literals are not permitted; " ++
      "use an 0o prefix for octal integers"

/-- Reads a number that begins with a digit: whether it is imaginary, and the text behind it. -/
def readNumber (t : Text) : Except String (Bool × Text) := do
  let isHex := fun c => c.isDigit || ('a' ≤ c && c ≤ 'f') || ('A' ≤ c && c ≤ 'F')
  match t with
  | '0' :: mark :: rest =>
    if mark = 'x' || mark = 'X' then return (false, ← baseTail "hexadecimal" isHex rest)
    else if mark = 'o' || mark = 'O' then
      return (false, ← baseTail "octal" (fun c => '0' ≤ c && c ≤ '7') rest)
    else if mark = 'b' || mark = 'B' then
      return (false, ← baseTail "binary" (fun c => c == '0' || c == '1') rest)
    else zeroRest (mark :: rest)
  | ['0'] => return (false, [])
  | _ => decimalRest (← decimalTail t)

end ShellStyle.Literal
