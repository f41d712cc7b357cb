import ShellStyle.Text.Search

/-!
# A place in a YAML text

Reading goes through the text from the left and keeps count of the index, the line and the column,
because indentation and the reach of keys depend on them. Behind the end of the text stands the null
character.
-/

namespace ShellStyle.Yaml

/-- What is left of a text, and where that begins. -/
structure Cursor where
  rest : Text
  index : Nat
  line : Nat
  column : Nat

/-- A character that ends a line. -/
def isBreak (c : Char) : Bool :=
  c == '\n' || c == '\r' || c.toNat == 0x85 || c.toNat == 0x2028 || c.toNat == 0x2029

/-- A character that ends a line or the text. -/
def isLineEnd (c : Char) : Bool :=
  c == '\n' || c == '\r' || c.toNat == 0x85 || c.toNat == 0

/-- A character behind which an indicator counts. -/
def isGap (c : Char) : Bool :=
  isLineEnd c || c == ' ' || c == '\t'

/-- The byte order mark. -/
def byteOrderMark : Char :=
  Char.ofNat 0xfeff

namespace Cursor

/-- The start of a text. -/
def ofText (t : Text) : Cursor :=
  ⟨t, 0, 0, 0⟩

/-- The character `k` places further on. -/
def peekAt (c : Cursor) (k : Nat) : Char :=
  (c.rest[k]?).getD (Char.ofNat 0)

/-- The next character. -/
def peek (c : Cursor) : Char :=
  c.peekAt 0

/-- One character further. -/
def advance (c : Cursor) : Cursor :=
  match c.rest with
  | [] => c
  | ch :: rest =>
    if isBreak ch then ⟨rest, c.index + 1, c.line + 1, 0⟩
    else if ch = byteOrderMark then ⟨rest, c.index + 1, c.line, c.column⟩
    else ⟨rest, c.index + 1, c.line, c.column + 1⟩

/-- Some characters further. -/
def advanceBy (c : Cursor) : Nat → Cursor
  | 0 => c
  | n + 1 => c.advance.advanceBy n

/-- Past the characters of a class. -/
def skipWhile (c : Cursor) (isIn : Char → Bool) : Cursor :=
  c.advanceBy (c.rest.takeWhile isIn).length

/-- Past the end of a line, if there is one here, and what it stands for. -/
def readBreak (c : Cursor) : Text × Cursor :=
  match c.rest with
  | ch :: _ =>
    if ch.toNat = 0x2028 ∨ ch.toNat = 0x2029 then ([ch], c.advance)
    else if isBreak ch then (['\n'], c.advance)
    else ([], c)
  | [] => ([], c)

/-- Whether three equal marks stand here with a gap behind them. -/
def isAtMarks (c : Cursor) (mark : Char) : Bool :=
  Text.startsWith [mark, mark, mark] c.rest && isGap (c.peekAt 3)

/-- Whether a document begins or ends here. -/
def isAtSeparator (c : Cursor) : Bool :=
  c.isAtMarks '-' || c.isAtMarks '.'

end Cursor

end ShellStyle.Yaml
