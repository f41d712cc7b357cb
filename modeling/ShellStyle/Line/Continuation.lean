import ShellStyle.Text.Blank

/-!
# Continued lines

A line goes on in the next one when, blanks at its end aside, it ends with an odd number of
backslashes.
-/

namespace ShellStyle.Line

open Text

/-- The number of backslashes a text ends with. -/
def trailingBackslashes (t : Text) : Nat :=
  (t.reverse.takeWhile (· == '\\')).length

/-- Whether the line goes on in the next one. -/
def isContinued (line : Text) : Bool :=
  trailingBackslashes (trimRight line) % 2 == 1

/-- The line without the backslash that continues it and the blanks around that. -/
def dropContinuation (line : Text) : Text :=
  let body := trimRight line
  if isContinued body then trimRight body.dropLast else body

end ShellStyle.Line
