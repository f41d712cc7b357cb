import ShellStyle.Decimal.Numeral
import ShellStyle.StyleError
import ShellStyle.Text.LowerCase
import ShellStyle.Text.Search
import ShellStyle.Value

/-!
# What plain scalars stand for

A plain scalar is nothing, a truth value, an integer, a floating-point number, a date or text, by
its form. Underscores may stand in numbers; integers may be binary, octal or hexadecimal. Some texts
have the form of a number and denote none, and a tag can ask for a number where there is none; this
is an error.
-/

namespace ShellStyle.Yaml

open Text

/-- A decimal digit. -/
def isDigit (c : Char) : Bool :=
  '0' ≤ c && c ≤ '9'

/-- A decimal digit or an underscore. -/
def isDigitOrLine (c : Char) : Bool :=
  isDigit c || c == '_'

/-- The value of a digit in a base up to sixteen. -/
def digitIn? (base : Nat) (c : Char) : Option Nat :=
  let n := c.toNat
  let d := if isDigit c then n - 0x30
    else if 'a' ≤ c && c ≤ 'f' then n - 0x57
    else if 'A' ≤ c && c ≤ 'F' then n - 0x37
    else base
  if d < base then some d else none

/-- The number that digits and underscores denote in a base; there must be a digit. -/
def naturalIn? (base : Nat) (t : Text) : Option Nat :=
  let digits := t.filter (· != '_')
  if digits.isEmpty then none
  else digits.foldl (fun n c => do return base * (← n) + (← digitIn? base c)) (some 0)

/-- The sign of a number and the text behind it. -/
def signed : Text → Bool × Text
  | '-' :: t => (true, t)
  | '+' :: t => (false, t)
  | t => (false, t)

/-- Whether a plain scalar has the form of an integer. -/
def isInteger (t : Text) : Bool :=
  let isNatural := fun (base : Nat) (digits : Text) =>
    !digits.isEmpty && digits.all fun c => c == '_' || (digitIn? base c).isSome
  t.head? != some '_' &&
    match (signed t).2 with
    | '0' :: 'b' :: digits => isNatural 2 digits
    | '0' :: 'o' :: digits => isNatural 8 digits
    | '0' :: 'x' :: digits => isNatural 16 digits
    | digits => isNatural 10 digits

/-- The number before a sign is given to it. -/
def readNatural : Text → Except StyleError Int
  | '0' :: 'b' :: digits => inBase 2 digits
  | '0' :: 'o' :: digits => inBase 8 digits
  | '0' :: 'x' :: digits => inBase 16 digits
  | digits =>
    match Numeral.read digits with
    | .ok n => .ok n
    | .error .malformed => .error (.notNumeral 10 digits)
    | .error (.tooLong count) => .error (.longNumeral count)
where
  /-- The number that digits denote in a base. -/
  inBase (base : Nat) (digits : Text) : Except StyleError Int :=
    match naturalIn? base digits with
    | some n => .ok n
    | none => .error (.notNumeral base digits)

/-- The integer that a scalar denotes; underscores in it do not count. -/
def readInteger (t : Text) : Except StyleError Int :=
  match t.filter (· != '_') with
  | [] => .error .emptyNumber
  | t =>
    let (negative, body) := signed t
    (readNatural body).map fun n => if negative then -n else n

/-- Whether a text is an exponent, or nothing; a sign may be demanded. -/
def isExponent (needsSign : Bool) : Text → Bool
  | [] => true
  | e :: t =>
    let hasSign := t.head? == some '-' || t.head? == some '+'
    let digits := (signed t).2
    (e == 'e' || e == 'E') && (hasSign || !needsSign) && !digits.isEmpty && digits.all isDigit

/-- Whether a plain scalar has the form of a floating-point number. -/
def isFloat (t : Text) : Bool :=
  let body := (signed t).2
  let whole := body.takeWhile isDigitOrLine
  let rest := body.dropWhile isDigitOrLine
  if [".inf".toList, ".Inf".toList, ".INF".toList].elem body then true
  else if [".nan".toList, ".NaN".toList, ".NAN".toList].elem t then true
  else if whole.head? == some '_' then false
  else
    match rest with
    | '.' :: rest =>
      let places := rest.takeWhile isDigitOrLine
      !(whole.isEmpty && places.isEmpty) &&
        isExponent whole.isEmpty (rest.dropWhile isDigitOrLine)
    | _ :: _ => !whole.isEmpty && isExponent false rest
    | [] => false

/-- The number that digits, a point, further digits and an exponent denote; the point and the
exponent may be left out. -/
def decimal? (negative : Bool) (t : Text) : Option Binary64 :=
  let whole := t.takeWhile isDigit
  let (places, rest) := match t.dropWhile isDigit with
    | '.' :: rest => (rest.takeWhile isDigit, rest.dropWhile isDigit)
    | rest => ([], rest)
  let power : Option Int :=
    if isExponent false rest then
      match rest with
      | [] => some 0
      | _ :: rest =>
        let (negative, digits) := signed rest
        (naturalIn? 10 digits).map fun n => if negative then -(n : Int) else n
    else none
  match power, naturalIn? 10 (whole ++ places) with
  | some power, some digits => some (.ofDecimal negative digits (power - places.length))
  | _, _ => none

/-- The floating-point number that a text denotes, which may also be spelled out; it may be wanted
with the other sign. -/
def readDecimal (turned : Bool) (t : Text) : Except StyleError Binary64 :=
  let (negative, body) := signed (Numeral.unpad t)
  let negative := negative != turned
  if ["inf".toList, "infinity".toList].elem body then .ok (.infinite negative)
  else if body = "nan".toList then .ok .undefined
  else
    match decimal? negative body with
    | some x => .ok x
    | none => .error (.notDecimal t)

/-- The floating-point number that a scalar denotes; underscores in it and the case of its letters
do not count. -/
def readFloat (t : Text) : Except StyleError Binary64 :=
  match lower (t.filter (· != '_')) with
  | [] => .error .emptyNumber
  | t =>
    let (negative, body) := signed t
    if body = ".inf".toList then .ok (.infinite negative)
    else if body = ".nan".toList then .ok .undefined
    else readDecimal negative body

/-- The truth value that a scalar denotes. -/
def readTruth (t : Text) : Except StyleError Bool :=
  let word := lower t
  if ["yes".toList, "y".toList, "true".toList, "on".toList].elem word then .ok true
  else if ["no".toList, "n".toList, "false".toList, "off".toList].elem word then .ok false
  else .error (.notTruth word)

/-- The numbers of a text that has the form of a date. -/
def dateForm? (t : Text) : Option (Nat × Nat × Nat) :=
  match splitAt '-' t with
  | [year, month, day] =>
    if year.length = 4 ∧ month.length = 2 ∧ day.length = 2 ∧
        (year ++ month ++ day).all isDigit then do
      return (← naturalIn? 10 year, ← naturalIn? 10 month, ← naturalIn? 10 day)
    else none
  | _ => none

/-- The days of a month. -/
def daysOf (year month : Nat) : Nat :=
  if month = 2 then
    if year % 4 = 0 ∧ (year % 100 ≠ 0 ∨ year % 400 = 0) then 29 else 28
  else if [4, 6, 9, 11].elem month then 30 else 31

/-- The date with these numbers. -/
def readDate (year month day : Nat) : Except StyleError Value :=
  if year = 0 then .error (.notYear year)
  else if month = 0 ∨ 12 < month then .error .notMonth
  else if day = 0 ∨ daysOf year month < day then .error .notDay
  else .ok (.date year month day)

/-- What a plain scalar stands for. -/
def plainValue (t : Text) : Except StyleError Value :=
  if [[], ['~'], "null".toList, "Null".toList, "NULL".toList].elem t then .ok .null
  else if ["true".toList, "True".toList, "TRUE".toList].elem t then .ok (.bool true)
  else if ["false".toList, "False".toList, "FALSE".toList].elem t then .ok (.bool false)
  else if isFloat t then (readFloat t).map .float
  else if isInteger t then (readInteger t).map .int
  else
    match dateForm? t with
    | some (year, month, day) => readDate year month day
    | none => .ok (.text (String.ofList t))

end ShellStyle.Yaml
