import ShellStyle.Text.Hexadecimal
import ShellStyle.Text.Search

/-!
# Strings

A string stands between quotes or between triples of quotes, and letters before it say what it is:
bytes, raw, or with values put in. A backslash keeps the next character in the string; in strings
that are not raw it begins an escape.
-/

namespace ShellStyle.Literal

open Text

/-- A string as it is written. -/
structure Quoted where
  isBytes : Bool
  isRaw : Bool
  isFormatted : Bool
  body : Text
  deriving DecidableEq, Repr

/-- Reads the letters before a string, where the letters so far are given; no letter stands
twice. -/
def stringMarks (isBytes isUnicode isRaw isFormatted : Bool) : Text → Option (Quoted × Text)
  | [] => none
  | c :: t =>
    if c = '"' || c = '\'' then some (⟨isBytes, isRaw, isFormatted, []⟩, c :: t)
    else if (c = 'b' || c = 'B') && !(isBytes || isUnicode || isFormatted) then
      stringMarks true isUnicode isRaw isFormatted t
    else if (c = 'u' || c = 'U') && !(isBytes || isUnicode || isRaw || isFormatted) then
      stringMarks isBytes true isRaw isFormatted t
    else if (c = 'r' || c = 'R') && !(isRaw || isUnicode) then
      stringMarks isBytes isUnicode true isFormatted t
    else if (c = 'f' || c = 'F') && !(isFormatted || isBytes || isUnicode) then
      stringMarks isBytes isUnicode isRaw true t
    else none

/-- The body of a string up to its closing quotes, and the text behind them. Only between triples
may lines end. -/
def bodyOf (closing : Text) (isLong escaped : Bool) : Text → Option (Text × Text)
  | [] => none
  | c :: t =>
    match if escaped then none else after? closing (c :: t) with
    | some rest => some ([], rest)
    | none =>
      if c = '\n' && !isLong && !escaped then none
      else (bodyOf closing isLong (c = '\\' && !escaped) t).map fun (body, rest) =>
        (c :: body, rest)

/-- The number of the line on which a text ends, if it begins on line `line`. -/
def lastLine (line : Nat) (t : Text) : Nat :=
  line + t.count '\n'

/-- Reads a string from its quotes on, on line `line`. -/
def readQuoted (line : Nat) (marks : Quoted) (t : Text) : Except String (Quoted × Text) :=
  let quote := t.take 1
  let triple := quote ++ quote ++ quote
  match after? triple t with
  | some rest =>
    match bodyOf triple true false rest with
    | some (body, rest) => .ok (⟨marks.isBytes, marks.isRaw, marks.isFormatted, body⟩, rest)
    | none =>
      .error ("unterminated triple-quoted string literal (detected at line " ++
        toString (lastLine line t) ++ ")")
  | none =>
    match bodyOf quote false false (t.drop 1) with
    | some (body, rest) => .ok (⟨marks.isBytes, marks.isRaw, marks.isFormatted, body⟩, rest)
    | none => .error ("unterminated string literal (detected at line " ++ toString line ++ ")")

/-- An escape that cannot be read: its first and its last position, and what is wrong. -/
structure EscapeFault where
  first : Nat
  last : Nat
  reason : String

/-- The number of hexadecimal digits that an escape needs, and how it is called. -/
def escapeDigits? (c : Char) : Option (Nat × String) :=
  match c with
  | 'x' => some (2, "\\xXX")
  | 'u' => some (4, "\\uXXXX")
  | 'U' => some (8, "\\UXXXXXXXX")
  | _ => none

/-- What is wrong with an escape at position `pos`, whose letter and what follows it are given. -/
def escapeFault? (pos : Nat) (letter : Char) (t : Text) : Option EscapeFault :=
  match escapeDigits? letter with
  | some (count, name) =>
    let digits := (t.take count).takeWhile fun c => (hexValue? c).isSome
    if digits.length < count then
      some ⟨pos, pos + 1 + digits.length, "truncated " ++ name ++ " escape"⟩
    else if 0x10ffff < (hexNumber? digits).getD 0 then
      some ⟨pos, pos + 1 + count, "illegal Unicode character"⟩
    else none
  | none =>
    if letter = 'N' then
      match t with
      | '{' :: rest =>
        let name := rest.takeWhile (· ≠ '}')
        if name.length = rest.length || name.isEmpty then
          some ⟨pos, pos + 2 + name.length, "malformed \\N character escape"⟩
        else some ⟨pos, pos + 3 + name.length, "unknown Unicode character name"⟩
      | _ => some ⟨pos, pos + 1, "malformed \\N character escape"⟩
    else none

/-- The number of positions that a character beyond ASCII takes. -/
def wideCharLength : Nat :=
  10

/-- The first escape from position `pos` on that cannot be read. A backslash before a character
beyond ASCII takes six positions. -/
def firstFault? (pos : Nat) : Text → Option EscapeFault
  | [] => none
  | [_] => none
  | c :: d :: t =>
    if c = '\\' then
      if 0x80 ≤ d.toNat then firstFault? (pos + 6 + wideCharLength) t
      else
        match escapeFault? pos d t with
        | some fault => some fault
        | none => firstFault? (pos + 2) t
    else firstFault? (pos + if 0x80 ≤ c.toNat then wideCharLength else 1) (d :: t)

/-- The position of the first escape of bytes that cannot be read. -/
def firstByteFault? (pos : Nat) : Text → Option Nat
  | [] => none
  | [_] => none
  | c :: d :: t =>
    if c = '\\' then
      if d = 'x' && ((t.take 2).takeWhile fun c => (hexValue? c).isSome).length < 2 then some pos
      else firstByteFault? (pos + 2) t
    else firstByteFault? (pos + 1) (d :: t)

/-- What is wrong with the body of a string. -/
def Quoted.fault? (q : Quoted) : Option String :=
  if q.isFormatted then none
  else if q.isBytes then
    if q.body.any fun c => 0x80 ≤ c.toNat then
      some "bytes can only contain ASCII literal characters"
    else if q.isRaw then none
    else (firstByteFault? 0 q.body).map fun pos =>
      "(value error) invalid \\x escape at position " ++ toString pos
  else if q.isRaw then none
  else (firstFault? 0 q.body).map fun fault =>
    "(unicode error) 'unicodeescape' codec can't decode bytes in position " ++
      toString fault.first ++ "-" ++ toString fault.last ++ ": " ++ fault.reason

end ShellStyle.Literal
