import ShellStyle.Text.Printable

/-!
# Quoted text

Text in messages is put in single quotes, or in double quotes when it holds a single quote and no
double one. Backslashes, the enclosing quote and characters without a visible form are escaped.
-/

namespace ShellStyle.Text

/-- A number in `width` hexadecimal digits. -/
def hexPadded (width n : Nat) : List Char :=
  let digits := Nat.toDigits 16 n
  List.replicate (width - digits.length) '0' ++ digits

/-- One character as it stands between the quotes `mark`. -/
def quotedChar (mark c : Char) : List Char :=
  if c = '\\' ∨ c = mark then ['\\', c]
  else if c = '\n' then ['\\', 'n']
  else if c = '\r' then ['\\', 'r']
  else if c = '\t' then ['\\', 't']
  else if isPrintable c then [c]
  else if c.toNat < 0x100 then '\\' :: 'x' :: hexPadded 2 c.toNat
  else if c.toNat < 0x10000 then '\\' :: 'u' :: hexPadded 4 c.toNat
  else '\\' :: 'U' :: hexPadded 8 c.toNat

/-- The quote that encloses a text. -/
def enclosingMark (t : List Char) : Char :=
  if t.elem '\'' && !t.elem '"' then '"' else '\''

/-- A text in quotes. -/
def inQuotes (t : List Char) : List Char :=
  let mark := enclosingMark t
  mark :: t.flatMap (quotedChar mark) ++ [mark]

end ShellStyle.Text
