import ShellStyle.Line.Context
import ShellStyle.Log

/-!
# The safety check

Before a formatted script replaces its source, it must not be empty and must have the same heredocs,
line for line.
-/

namespace ShellStyle.Script

open Line

/-- The heredocs among the lines, where `current` holds the delimiter and the lines of the one that
is open. -/
def heredocsFrom (current : Option (Text × List Text)) : List Text → List (List Text)
  | [] =>
    match current with
    | some (_, block) => [block]
    | none => []
  | text :: rest =>
    match current with
    | some (delimiter, block) =>
      if endsHeredoc text delimiter then (block ++ [text]) :: heredocsFrom none rest
      else heredocsFrom (some (delimiter, block ++ [text])) rest
    | none =>
      if context text = .heredocStart then
        heredocsFrom (some (heredocDelimiter text, [text])) rest
      else heredocsFrom none rest

/-- The heredocs of a script, each with the lines that open and end it; the last one may lack its
end. -/
def heredocs (lines : List Text) : List (List Text) :=
  heredocsFrom none lines

/-- The outcome of the safety check. -/
inductive Verdict where
  | accepted
  | emptyOutput
  | heredocsChanged (before after : Nat)
  deriving DecidableEq, Repr

namespace Verdict

/-- The wording of an outcome. -/
def message : Verdict → String
  | accepted => "Formatted output passes the safety checks."
  | emptyOutput => "Generated empty file"
  | heredocsChanged _ _ => "Heredoc content changed during formatting"

/-- Whether the formatted script may be used. -/
def isAccepted : Verdict → Bool
  | accepted => true
  | _ => false

/-- What is logged about an outcome. -/
def log : Verdict → List LogEntry
  | heredocsChanged before after =>
    [⟨.debug, .validator, "Heredoc blocks differ: " ++ toString before ++ " before, " ++
      toString after ++ " after"⟩]
  | _ => []

end Verdict

/-- Compares a formatted script with its source. -/
def verify (source formatted : List Text) : Verdict :=
  if formatted.isEmpty then .emptyOutput
  else
    let before := heredocs source
    let after := heredocs formatted
    if before = after then .accepted else .heredocsChanged before.length after.length

end ShellStyle.Script
