import ShellStyle.Text.Search

/-!
# Shell forms in a line

Tests for the forms whose text must not be touched: regular-expression tests, arithmetic, command
substitution, parameter expansion and brace expansion; and for glob patterns and comments. They look
at the characters alone and know nothing of strings.
-/

namespace ShellStyle.Line

open Text

/-- Blanks, then a `#`. -/
def isComment (line : Text) : Bool :=
  (trimLeft line).head? == some '#'

/-- An opening `[[`, a `=~` and a closing `]]`, in this order and with no line feed between them. -/
def hasRegexTest (line : Text) : Bool :=
  (splitAt '\n' line).any fun piece =>
    match behind? ['[', '['] piece with
    | none => false
    | some inner =>
      match behind? ['=', '~'] inner with
      | none => false
      | some pattern => contains [']', ']'] pattern

/-- An arithmetic expansion `$((`. -/
def hasArithmetic (line : Text) : Bool :=
  contains ['$', '(', '('] line

/-- The backquote. -/
def backquote : Char :=
  Char.ofNat 0x60

/-- A command substitution, by `$(` or by a backquote. -/
def hasSubstitution (line : Text) : Bool :=
  contains ['$', '('] line || line.elem backquote

/-- Whether the text begins with something other than `close` that a later `close` ends. -/
def enclosedBefore (close : Char) : Text → Bool
  | [] => false
  | c :: t => c != close && t.elem close

/-- A parameter expansion: a dollar sign and braces that hold something. -/
def hasExpansion : Text → Bool
  | [] => false
  | c :: t =>
    (match after? ['$', '{'] (c :: t) with
      | some inner => enclosedBefore '}' inner
      | none => false) || hasExpansion t

/-- Whether the text up to the first closing brace holds a comma. -/
def isBraceListBody (t : Text) : Bool :=
  t.elem '}' && (t.takeWhile (· != '}')).elem ','

/-- Whether the text begins with two numbers, two dots between them, and a closing brace. -/
def isBraceRangeBody (t : Text) : Bool :=
  let isDigit := fun c : Char => '0' ≤ c && c ≤ '9'
  !(t.takeWhile isDigit).isEmpty &&
    match t.dropWhile isDigit with
    | '.' :: '.' :: u =>
      !(u.takeWhile isDigit).isEmpty && (u.dropWhile isDigit).head? == some '}'
    | _ => false

/-- A brace expansion: a list with commas or a range of numbers in braces. -/
def hasBraceExpansion : Text → Bool
  | [] => false
  | c :: t => (c == '{' && (isBraceListBody t || isBraceRangeBody t)) || hasBraceExpansion t

/-- A glob pattern: a star, a question mark, or brackets that hold something. -/
def hasGlob : Text → Bool
  | [] => false
  | c :: t => c == '*' || c == '?' || (c == '[' && enclosedBefore ']' t) || hasGlob t

end ShellStyle.Line
