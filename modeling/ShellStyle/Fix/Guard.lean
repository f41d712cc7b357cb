import ShellStyle.Line.Context
import ShellStyle.Settings.Basic

/-!
# When a fixer holds back

A rule is not applied to a line when it is switched off, when the line stands in a protected
context, or when a string of the line holds test brackets or control operators. Where it is applied,
fixers that know about strings change only spans with both ends outside of them.
-/

namespace ShellStyle.Fix

open Text Line

/-- Whether the rule leaves the line alone. -/
def isGuarded (s : Settings) (rule : Rule) (line : Text) : Bool :=
  !s.isEnabled rule || isProtected line || quotesOperator line

/-- Whether the first and the last character of a span lie outside strings. -/
def isUnquotedSpan (line : Text) (span : Span) : Bool :=
  !isQuotedAt line span.start && !isQuotedAt line (max span.start (span.stop - 1))

/-- Replaces the hits of a matcher that lie outside strings and for which there is a replacement. -/
def replaceUnquoted {α : Type} (m : Matcher α) (replacement : α → Option Text) (line : Text) :
    Text :=
  splice ((m.hits line).filterMap fun hit =>
    if isUnquotedSpan line hit.span then
      (replacement hit.value).map fun text => ⟨hit.span, text⟩
    else none) line

/-- Replaces every hit of a matcher. -/
def replaceAll {α : Type} (m : Matcher α) (replacement : α → Text) (line : Text) : Text :=
  splice ((m.hits line).map fun hit => ⟨hit.span, replacement hit.value⟩) line

end ShellStyle.Fix
