import ShellStyle.Text.Blank
import ShellStyle.Text.DecimalDigit

/-!
# Integer numerals

A numeral is an optional sign and decimal digits of any script, with single underscores allowed
between digits and blanks allowed around the whole; the information separators do not count as
blanks here. Numerals beyond a fixed number of digits are not read, whatever stands behind the
digits, and integers with more digits than that are not written.
-/

namespace ShellStyle.Numeral

open Text

/-- The longest numeral that is read, in digits. -/
def digitLimit : Nat :=
  4300

/-- Whether an integer is written: it has no more digits than a numeral that is read. -/
def isWritten (n : Int) : Bool :=
  n.natAbs < Nat.pow 10 digitLimit

/-- A blank that may stand around a numeral. -/
def isPadding (c : Char) : Bool :=
  isBlank c && !(0x1c ≤ c.toNat && c.toNat ≤ 0x1f)

/-- The text without the padding at either end. -/
def unpad (t : Text) : Text :=
  ((t.dropWhile isPadding).reverse.dropWhile isPadding).reverse

/-- The digits of an unsigned numeral: digits, with single underscores between them. -/
def digits? : Text → Option (List Nat)
  | [] => none
  | [c] => (digitValue? c).map ([·])
  | c :: '_' :: t =>
    match digitValue? c, digits? t with
    | some d, some ds => some (d :: ds)
    | _, _ => none
  | c :: t =>
    match digitValue? c, digits? t with
    | some d, some ds => some (d :: ds)
    | _, _ => none

/-- The value of a row of digits. -/
def value (digits : List Nat) : Nat :=
  digits.foldl (fun n d => 10 * n + d) 0

/-- Why a text is not read as an integer. -/
inductive Refusal where
  | malformed
  | tooLong (digits : Nat)
  deriving DecidableEq, Repr

/-- A digit, or an underscore between digits. -/
def isInside (c : Char) : Bool :=
  (digitValue? c).isSome || c == '_'

/-- The integer that a text denotes. -/
def read (t : Text) : Except Refusal Int :=
  let (negative, body) := match unpad t with
    | '-' :: u => (true, u)
    | '+' :: u => (false, u)
    | u => (false, u)
  match digits? (body.takeWhile isInside) with
  | none => .error .malformed
  | some ds =>
    if digitLimit < ds.length then .error (.tooLong ds.length)
    else if !body.all isInside then .error .malformed
    else .ok (if negative then -(value ds : Int) else value ds)

end ShellStyle.Numeral
