import ShellStyle.Decimal.Shortest
import ShellStyle.Text.Quoted

/-!
# Configuration values

What a configuration can hold: nothing, truth values, integers, floating-point numbers, dates, text,
sequences and mappings whose entries keep their order. A value is displayed in messages as `None`,
`True`, `1.5`, text as it is, `[1, 'two']`; inside sequences and mappings text is quoted.
-/

namespace ShellStyle

/-- A value of a configuration. -/
inductive Value where
  | null
  | bool (b : Bool)
  | int (n : Int)
  | float (x : Binary64)
  | date (year month day : Nat)
  | text (s : String)
  | seq (items : List Value)
  | map (entries : List (Value × Value))
  deriving Repr

namespace Value

/-- A number with zeros before it, up to a number of digits. -/
def padded (digits n : Nat) : String :=
  let shown := toString n
  String.ofList (List.replicate (digits - shown.length) '0') ++ shown

/-- A date as it is shown on its own. -/
def dateText (year month day : Nat) : String :=
  padded 4 year ++ "-" ++ padded 2 month ++ "-" ++ padded 2 day

/-- A date as it stands inside a sequence or mapping. -/
def nestedDate (year month day : Nat) : String :=
  "datetime.date(" ++ toString year ++ ", " ++ toString month ++ ", " ++ toString day ++ ")"

/-- The items of a sequence that is a key, in round brackets. -/
def inBrackets (count : Nat) (items : String) : String :=
  "(" ++ items ++ (if count = 1 then ",)" else ")")

mutual

/-- A value as it stands inside a sequence or mapping. -/
def nested : Value → String
  | null => "None"
  | bool b => if b then "True" else "False"
  | int n => toString n
  | float x => x.text
  | date year month day => nestedDate year month day
  | text s => String.ofList (Text.inQuotes s.toList)
  | seq items => "[" ++ nestedItems items ++ "]"
  | map entries => "\x7b" ++ nestedEntries entries ++ "\x7d"

/-- The items of a sequence, with commas. -/
def nestedItems : List Value → String
  | [] => ""
  | [v] => nested v
  | v :: vs => nested v ++ ", " ++ nestedItems vs

/-- The entries of a mapping, with commas. -/
def nestedEntries : List (Value × Value) → String
  | [] => ""
  | [(k, v)] => nestedKey k ++ ": " ++ nested v
  | (k, v) :: es => nestedKey k ++ ": " ++ nested v ++ ", " ++ nestedEntries es

/-- A key as it stands inside a mapping. -/
def nestedKey : Value → String
  | null => "None"
  | bool b => if b then "True" else "False"
  | int n => toString n
  | float x => x.text
  | date year month day => nestedDate year month day
  | text s => String.ofList (Text.inQuotes s.toList)
  | seq items => inBrackets items.length (nestedItems items)
  | map entries => "\x7b" ++ nestedEntries entries ++ "\x7d"

end

/-- A value as it is shown on its own. -/
def display : Value → String
  | text s => s
  | date year month day => dateText year month day
  | v => nested v

/-- A key as it is shown on its own. -/
def displayKey : Value → String
  | text s => s
  | date year month day => dateText year month day
  | v => nestedKey v

/-- Whether a value counts as true: it is not nothing, zero or empty. -/
def isTruthy : Value → Bool
  | null => false
  | bool b => b
  | int n => n != 0
  | float x => !x.isZero
  | date _ _ _ => true
  | text s => !s.isEmpty
  | seq items => !items.isEmpty
  | map entries => !entries.isEmpty

/-- The entry of a mapping under a text key. -/
def get? (key : String) : Value → Option Value
  | map entries => entries.findSome? fun (k, v) =>
      match k with
      | text s => if s = key then some v else none
      | _ => none
  | _ => none

end Value

end ShellStyle
