import ShellStyle.Decimal.Numeral
import ShellStyle.Rule

/-!
# Settings

Settings are two tables: values for the knobs, by knob name, and severities, by rule name. A knob or
a rule that a table lacks has its default. Two knobs are numbers, the line length and the indent
size; the others switch rules on and off. Line length is always checked.
-/

namespace ShellStyle

/-- A table from names to values, in order of insertion; the first entry of a name counts. -/
abbrev Table (α : Type) :=
  List (String × α)

namespace Table

variable {α : Type}

/-- The value of a name. -/
def get? (table : Table α) (name : String) : Option α :=
  table.lookup name

/-- Gives a name a value, in the place it has or at the end. -/
def set (name : String) (value : α) : Table α → Table α
  | [] => [(name, value)]
  | (key, old) :: rest =>
    if key = name then (key, value) :: rest else (key, old) :: set name value rest

end Table

/-- The knobs. -/
inductive Knob where
  | maxLineLength
  | indentSize
  | useSpaces
  | useDoubleBrackets
  | spaceAroundOperators
  | spaceAfterComma
  | spaceBeforeBrace
  | quoteVariables
  deriving DecidableEq, Repr

namespace Knob

/-- The name of a knob. -/
def name : Knob → String
  | maxLineLength => "max_line_length"
  | indentSize => "indent_size"
  | useSpaces => "use_spaces"
  | useDoubleBrackets => "use_double_brackets"
  | spaceAroundOperators => "space_around_operators"
  | spaceAfterComma => "space_after_comma"
  | spaceBeforeBrace => "space_before_brace"
  | quoteVariables => "quote_variables"

/-- All knobs. -/
def all : List Knob :=
  [maxLineLength, indentSize, useSpaces, useDoubleBrackets, spaceAroundOperators, spaceAfterComma,
    spaceBeforeBrace, quoteVariables]

/-- The knob of a name. -/
def ofName? (name : String) : Option Knob :=
  all.find? fun knob => knob.name == name

/-- The value a knob has unless it is set. -/
def default : Knob → Value
  | maxLineLength => .int 100
  | indentSize => .int 2
  | _ => .bool true

end Knob

/-- The knob that switches a rule; line length has none. -/
def Rule.knob? : Rule → Option Knob
  | lineLength => none
  | bracketStyle => some .useDoubleBrackets
  | deprecatedSyntax => some .useDoubleBrackets
  | spacingIssues => some .spaceAroundOperators
  | missingQuotes => some .quoteVariables
  | indentation => some .useSpaces
  | braceSpacing => some .spaceBeforeBrace
  | commaSpacing => some .spaceAfterComma

/-- The severity a rule has unless it is set. -/
def Rule.defaultSeverity : Rule → Severity
  | missingQuotes => .info
  | deprecatedSyntax => .error
  | _ => .warning

/-- The integer that a value stands for. -/
def Value.toInt : Value → Except StyleError Int
  | .null => .error (.notNumeric "NoneType")
  | .bool b => .ok (if b then 1 else 0)
  | .int n => .ok n
  | .float x =>
    match x with
    | .infinite _ => .error .infiniteNumber
    | .undefined => .error .undefinedNumber
    | .finite negative mantissa exponent =>
      .ok (((Binary64.finite negative mantissa exponent).truncate?).getD 0)
  | .date _ _ _ => .error (.notNumeric "datetime.date")
  | .text s =>
    match Numeral.read s.toList with
    | .ok n => .ok n
    | .error .malformed => .error (.notNumeral 10 s.toList)
    | .error (.tooLong digits) => .error (.longNumeral digits)
  | .seq _ => .error (.notNumeric "list")
  | .map _ => .error (.notNumeric "dict")

/-- Values for the knobs and severities for the rules. -/
structure Settings where
  rules : Table Value
  severity : Table Severity

namespace Settings

/-- The name of the file that holds the settings. -/
def fileName : Text :=
  "arty.yml".toList

/-- Every knob at its default, in the order in which they are documented. -/
def defaultRules : Table Value :=
  Knob.all.map fun knob => (knob.name, knob.default)

/-- The rules whose severity is documented. -/
def documentedRules : List Rule :=
  [.missingQuotes, .lineLength, .deprecatedSyntax, .spacingIssues, .bracketStyle, .indentation]

/-- The documented severities. -/
def defaultSeverity : Table Severity :=
  documentedRules.map fun rule => (rule.name, rule.defaultSeverity)

/-- The settings without any configuration. -/
def default : Settings :=
  ⟨defaultRules, defaultSeverity⟩

/-- The value of a knob name, its default if it is not set. -/
def value? (s : Settings) (name : String) : Option Value :=
  match s.rules.get? name with
  | some v => some v
  | none => (Knob.ofName? name).map Knob.default

/-- The value of a knob name as a switch; an unknown name is off. -/
def isOn (s : Settings) (name : String) : Bool :=
  match s.value? name with
  | some v => v.isTruthy
  | none => false

/-- The value of a knob name as a number; an unknown name is zero. -/
def number (s : Settings) (name : String) : Except StyleError Int :=
  match s.value? name with
  | some v => v.toInt
  | none => .ok 0

/-- The severity of a rule name; a name without one is a warning. -/
def severityOf (s : Settings) (name : String) : Severity :=
  match s.severity.get? name with
  | some severity => severity
  | none =>
    match Rule.ofName? name with
    | some rule => rule.defaultSeverity
    | none => .warning

/-- Whether a rule is applied. -/
def isEnabled (s : Settings) (rule : Rule) : Bool :=
  match rule.knob? with
  | some knob => s.isOn knob.name
  | none => true

/-- Whether the rule of a name is applied; unknown names are. -/
def isEnabledName (s : Settings) (name : String) : Bool :=
  match Rule.ofName? name with
  | some rule => s.isEnabled rule
  | none => true

/-- The longest line that is accepted. -/
def maxLineLength (s : Settings) : Except StyleError Int :=
  s.number Knob.maxLineLength.name

/-- The number of spaces of one indent step. -/
def indentSize (s : Settings) : Except StyleError Int :=
  s.number Knob.indentSize.name

end Settings

/-- The least count that is too great for a run of characters. -/
def runLimit : Int :=
  0x8000000000000000

/-- A run of spaces; a count that is not positive gives none. -/
def spaces [Machine] (count : Int) : Except StyleError Text :=
  if runLimit ≤ count ∨ count < -runLimit then .error .runTooLong
  else if Machine.memory < count then .error .outOfMemory
  else .ok (List.replicate count.toNat ' ')

end ShellStyle
