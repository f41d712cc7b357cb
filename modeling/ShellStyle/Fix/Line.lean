import ShellStyle.Fix.Brackets
import ShellStyle.Fix.Layout
import ShellStyle.Fix.Spacing

/-!
# Formatting one line

The fixers run in a fixed order: brackets, operators, braces, commas, then the indentation, then the
line length.
-/

namespace ShellStyle.Fix

open Text Line

/-- The line with its text fixed, before it is laid out. -/
def content (s : Settings) (line : Text) : Text :=
  commaSpacing s (braceSpacing s (operatorSpacing s (brackets s line)))

/-- The one or two lines that a line becomes at an indent level; a line is broken only if `mayWrap`
holds. -/
def line [Machine] (s : Settings) (level : Int) (inHeredoc mayWrap : Bool) (t : Text) :
    Except StyleError (List Text) :=
  if inHeredoc || (context t).isInert then .ok [t]
  else do
    let fixed ← indentation s level false (content s t)
    if mayWrap then wrap s fixed else return [fixed]

end ShellStyle.Fix
