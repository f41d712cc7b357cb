import ShellStyle.Text.Blank
import ShellStyle.Text.Quoted

/-!
# What can go wrong with a setting or an issue

Formatting and checking fail only when a setting is no usable number, a run of spaces is too long to
build, or an issue is given an impossible line number. Reading a severity fails on an unknown name,
showing a value on an integer with too many digits and on values nested too deep, and reading a
configuration on a scalar that is not what it has to be.
-/

namespace ShellStyle

/-- The cause of a failure. -/
inductive StyleError where
  /-- A text that is no numeral in a base. -/
  | notNumeral (base : Nat) (value : Text)
  /-- A numeral with too many digits. -/
  | longNumeral (digits : Nat)
  /-- An integer with too many digits to be shown. -/
  | longInteger
  /-- A value that holds others in too many layers to be shown. -/
  | tooDeep
  /-- A text that is no decimal fraction. -/
  | notDecimal (value : Text)
  /-- An empty text where a number is needed. -/
  | emptyNumber
  /-- A text that is no truth value. -/
  | notTruth (value : Text)
  /-- A year that no date has. -/
  | notYear (year : Nat)
  /-- A month that no year has. -/
  | notMonth
  /-- A day that its month does not have. -/
  | notDay
  /-- A key that holds a value of a kind that no key can hold. -/
  | notKey (kind : String)
  /-- A value that is neither a number nor text, by the name of its kind. -/
  | notNumeric (kind : String)
  /-- An infinite number where an integer is needed. -/
  | infiniteNumber
  /-- An undefined number where an integer is needed. -/
  | undefinedNumber
  /-- A run of spaces longer than any text can be. -/
  | runTooLong
  /-- A run of spaces longer than memory can hold. -/
  | outOfMemory
  /-- An issue on a line before the first. -/
  | lineNumber
  /-- A severity that does not exist. -/
  | unknownSeverity (name : Text)
  deriving DecidableEq, Repr

/-- The number of characters that are shown of a quoted text that is no numeral. -/
def shownLength : Nat :=
  200

/-- The wording of a failure. -/
def StyleError.message : StyleError → String
  | notNumeral base value =>
    "invalid literal for int() with base " ++ toString base ++ ": " ++
      String.ofList ((Text.inQuotes value).take shownLength)
  | longNumeral digits =>
    "Exceeds the limit (4300 digits) for integer string conversion: value has " ++
      toString digits ++ " digits; use sys.set_int_max_str_digits() to increase the limit"
  | longInteger =>
    "Exceeds the limit (4300 digits) for integer string conversion; " ++
      "use sys.set_int_max_str_digits() to increase the limit"
  | tooDeep => "maximum recursion depth exceeded while getting the repr of an object"
  | notDecimal value => "could not convert string to float: " ++ String.ofList (Text.inQuotes value)
  | emptyNumber => "string index out of range"
  | notTruth value => String.ofList (Text.inQuotes value)
  | notYear year => "year " ++ toString year ++ " is out of range"
  | notMonth => "month must be in 1..12"
  | notDay => "day is out of range for month"
  | notKey kind => "unhashable type: '" ++ kind ++ "'"
  | notNumeric kind =>
    "int() argument must be a string, a bytes-like object or a real number, not '" ++ kind ++ "'"
  | infiniteNumber => "cannot convert float infinity to integer"
  | undefinedNumber => "cannot convert float NaN to integer"
  | runTooLong => "cannot fit 'int' into an index-sized integer"
  | outOfMemory => ""
  | lineNumber => "Line number must be positive"
  | unknownSeverity name => String.ofList (Text.inQuotes name) ++ " is not a valid Severity"

end ShellStyle
