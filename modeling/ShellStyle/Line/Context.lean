import ShellStyle.Line.Form
import ShellStyle.Line.Heredoc

/-!
# The context of a line

A line is classified as a whole. The contexts are tried in the order of their constructors and the
first that fits wins. No fixer may change the text of a line in a protected context, nor of a line
that has test brackets or control operators inside a string.
-/

namespace ShellStyle.Line

open Text

/-- What a line is, as far as it can be told from the line alone. -/
inductive Context where
  | empty
  | shebang
  | comment
  | heredocStart
  | regex
  | arithmetic
  | substitution
  | expansion
  | braceExpansion
  | normal
  deriving DecidableEq, Repr

namespace Context

/-- The name of a context in dumps and records. -/
def name : Context → String
  | empty => "empty"
  | shebang => "shebang"
  | comment => "comment"
  | heredocStart => "heredoc_start"
  | regex => "regex"
  | arithmetic => "arithmetic"
  | substitution => "substitution"
  | expansion => "expansion"
  | braceExpansion => "brace_expansion"
  | normal => "normal"

/-- Whether the text of such a line is left alone. -/
def isProtected : Context → Bool
  | empty => false
  | normal => false
  | _ => true

/-- Whether such a line is passed over by formatting altogether. -/
def isInert : Context → Bool
  | empty => true
  | shebang => true
  | comment => true
  | _ => false

end Context

/-- The context of a line. -/
def context (line : Text) : Context :=
  if line.isEmpty then .empty
  else if startsWith ['#', '!'] line then .shebang
  else if isComment line then .comment
  else if opensHeredoc line then .heredocStart
  else if hasRegexTest line then .regex
  else if hasArithmetic line then .arithmetic
  else if hasSubstitution line then .substitution
  else if hasExpansion line then .expansion
  else if hasBraceExpansion line then .braceExpansion
  else .normal

/-- Whether the line stands in a protected context. -/
def isProtected (line : Text) : Bool :=
  (context line).isProtected

/-- Whether a string holds an opening bracket, `&&` or `||`, from a place where `quote` is open and
`before` is the character before it. Here a quote character counts unless a backslash stands right
before it, and the opening quote already belongs to the string. -/
def quotesOperatorFrom (quote : Option Char) (before : Option Char) : Text → Bool
  | [] => false
  | c :: t =>
    let quote :=
      if before != some '\\' && QuoteState.isMark c then
        match quote with
        | none => some c
        | some q => if c = q then none else some q
      else quote
    (quote.isSome &&
      (c == '[' || startsWith ['&', '&'] (c :: t) || startsWith ['|', '|'] (c :: t))) ||
      quotesOperatorFrom quote (some c) t

/-- Whether a string of the line holds an opening bracket, `&&` or `||`. -/
def quotesOperator (line : Text) : Bool :=
  quotesOperatorFrom none none line

end ShellStyle.Line
