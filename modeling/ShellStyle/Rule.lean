import ShellStyle.Severity

/-!
# Style rules and issues

Each rule has a name, by which issues refer to it and severities are configured. An issue is a rule
broken on a line, with the severity the settings give that rule.
-/

namespace ShellStyle

/-- The style rules. -/
inductive Rule where
  | lineLength
  | bracketStyle
  | deprecatedSyntax
  | spacingIssues
  | missingQuotes
  | indentation
  | braceSpacing
  | commaSpacing
  deriving DecidableEq, Repr

namespace Rule

/-- The name of a rule. -/
def name : Rule → String
  | lineLength => "line_length"
  | bracketStyle => "bracket_style"
  | deprecatedSyntax => "deprecated_syntax"
  | spacingIssues => "spacing_issues"
  | missingQuotes => "missing_quotes"
  | indentation => "indentation"
  | braceSpacing => "brace_spacing"
  | commaSpacing => "comma_spacing"

/-- All rules. -/
def all : List Rule :=
  [lineLength, bracketStyle, deprecatedSyntax, spacingIssues, missingQuotes, indentation,
    braceSpacing, commaSpacing]

/-- The rule of a name. -/
def ofName? (name : String) : Option Rule :=
  all.find? fun rule => rule.name == name

end Rule

/-- A rule broken on a line. -/
structure Issue where
  severity : Severity
  rule : Rule
  line : Int
  message : String
  deriving DecidableEq, Repr

end ShellStyle
