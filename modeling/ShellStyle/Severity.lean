import ShellStyle.Shown
import ShellStyle.Text.LowerCase

/-!
# Severities

An issue is an error, a warning or a piece of information; only errors make a check fail. Severities
are read from any value by the text it displays as, whatever its case and the blanks around it.
-/

namespace ShellStyle

/-- How serious an issue is. -/
inductive Severity where
  | error
  | warning
  | info
  deriving DecidableEq, Repr

namespace Severity

/-- The name of a severity. -/
def name : Severity → String
  | error => "error"
  | warning => "warning"
  | info => "info"

/-- The severity that a value names. -/
def read [Machine] (v : Value) : Except StyleError Severity := do
  let shown ← v.shown .severity
  let word := Text.lower (Text.trim shown.toList)
  if word = "error".toList then .ok error
  else if word = "warning".toList then .ok warning
  else if word = "info".toList then .ok info
  else .error (.unknownSeverity word)

end Severity

end ShellStyle
