/-!
# Blank characters and trimming

A text is a list of characters. Blank characters are the space, the tab, the line terminators, the
four information separators and the space separators of other scripts; the zero-width space is none
of them. Trimming drops blanks at either end.
-/

namespace ShellStyle

/-- A line or a piece of one, character by character. -/
abbrev Text := List Char

namespace Text

/-- A white-space character. -/
def isBlank (c : Char) : Bool :=
  let n := c.toNat
  (0x09 ≤ n && n ≤ 0x0d) || (0x1c ≤ n && n ≤ 0x20) || n == 0x85 || n == 0xa0 || n == 0x1680 ||
    (0x2000 ≤ n && n ≤ 0x200a) || n == 0x2028 || n == 0x2029 || n == 0x202f || n == 0x205f ||
    n == 0x3000

/-- The text without the blanks it begins with. -/
def trimLeft (t : Text) : Text :=
  t.dropWhile isBlank

/-- The text without the blanks it ends with. -/
def trimRight : Text → Text
  | [] => []
  | c :: t =>
    match trimRight t with
    | [] => if isBlank c then [] else [c]
    | u => c :: u

/-- The text without blanks at either end. -/
def trim (t : Text) : Text :=
  trimRight (trimLeft t)

/-- The blanks a text begins with. -/
def indent (t : Text) : Text :=
  t.takeWhile isBlank

/-- Whether a text has no characters but blanks. -/
def isBlankText (t : Text) : Bool :=
  t.all isBlank

/-- Trimming on the left only removes the leading blanks. -/
theorem indent_append_trimLeft (t : Text) : indent t ++ trimLeft t = t :=
  List.takeWhile_append_dropWhile

end Text

end ShellStyle
