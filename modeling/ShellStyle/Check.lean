import ShellStyle.Fix.Brackets
import ShellStyle.Fix.Spacing

/-!
# Checking one line

The checks run in a fixed order: length, brackets, operators, quoting, indentation; each finds at
most one issue. Empty lines and shebangs have none. Length is checked in every context.
-/

namespace ShellStyle.Check

open Text Line ShellStyle.Fix

/-- An issue with the severity of its rule; lines are counted from one. -/
def issue (s : Settings) (rule : Rule) (number : Int) (message : String) :
    Except StyleError (Option Issue) :=
  if number < 1 then .error .lineNumber
  else .ok (some ⟨s.severityOf rule.name, rule, number, message⟩)

/-- The line is longer than allowed. -/
def length (s : Settings) (number : Int) (line : Text) : Except StyleError (Option Issue) := do
  let limit ← s.maxLineLength
  if limit < (line.length : Int) then
    issue s .lineLength number ("Line exceeds maximum length of " ++ toString limit ++
      " characters (current: " ++ toString line.length ++ ")")
  else return none

/-- Single brackets that stand outside strings. -/
def bareBrackets (line : Text) : List (Hit Text) :=
  (singleBracket.hits line).filter fun hit => isUnquotedSpan line hit.span

/-- The line has single brackets or a `test` command. -/
def bracketStyle (s : Settings) (number : Int) (line : Text) : Except StyleError (Option Issue) :=
  if isGuarded s .bracketStyle line then .ok none
  else if !(bareBrackets line).isEmpty then
    issue s .bracketStyle number "Use [[ ]] instead of [ ]"
  else if s.isEnabled .deprecatedSyntax && !(testCommands line).isEmpty then
    issue s .deprecatedSyntax number "Use [[ ]] instead of 'test' command"
  else .ok none

/-- Whether the first tight operator behind or before double brackets is this one. -/
def isTightOperator (line op : Text) : Bool :=
  ((operatorAfterTest.first? line).any fun hit => hit.value == op) ||
    ((operatorBeforeTest.first? line).any fun hit => hit.value == op)

/-- The line has a list operator that touches double brackets. -/
def operatorSpacing (s : Settings) (number : Int) (line : Text) :
    Except StyleError (Option Issue) :=
  if isGuarded s .spacingIssues line then .ok none
  else if isTightOperator line ['&', '&'] then
    issue s .spacingIssues number "Missing space around && operator"
  else if isTightOperator line ['|', '|'] then
    issue s .spacingIssues number "Missing space around || operator"
  else .ok none

/-- An equals sign, blanks, and a variable. -/
def bareAssignment : Matcher Unit := fun _ t =>
  match t with
  | '=' :: rest =>
    let gap := rest.takeWhile isBlank
    match trimLeft rest with
    | '$' :: c :: _ => if isNameStart c then some ((), gap.length + 3) else none
    | _ => none
  | _ => none

/-- An equals sign, blanks, and a quote. -/
def quotedAssignment : Matcher Unit := fun _ t =>
  match t with
  | '=' :: rest =>
    let gap := rest.takeWhile isBlank
    if (trimLeft rest).head?.any QuoteState.isMark then some ((), gap.length + 2) else none
  | _ => none

/-- The line assigns a variable without quotes, and nothing with quotes. -/
def variableQuoting (s : Settings) (number : Int) (line : Text) :
    Except StyleError (Option Issue) :=
  if isGuarded s .missingQuotes line then .ok none
  else
    match bareAssignment.first? line with
    | none => .ok none
    | some hit =>
      if quotedAssignment.occurs line || isQuotedAt line hit.span.start then .ok none
      else issue s .missingQuotes number "Consider quoting variable assignments"

/-- The line is indented with tabs. -/
def indentation (s : Settings) (number : Int) (line : Text) : Except StyleError (Option Issue) :=
  if s.isEnabled .indentation && context line != .comment && (indent line).elem '\t' then
    issue s .indentation number "Use spaces instead of tabs for indentation"
  else .ok none

/-- The issues of a line. -/
def line (s : Settings) (number : Int) (t : Text) : Except StyleError (List Issue) :=
  match context t with
  | .empty => .ok []
  | .shebang => .ok []
  | _ => do
    let tooLong ← length s number t
    let brackets ← bracketStyle s number t
    let operators ← operatorSpacing s number t
    let quoting ← variableQuoting s number t
    let tabs ← indentation s number t
    return [tooLong, brackets, operators, quoting, tabs].filterMap id

end ShellStyle.Check
