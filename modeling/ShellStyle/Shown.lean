import ShellStyle.Decimal.Numeral
import ShellStyle.Machine
import ShellStyle.StyleError
import ShellStyle.Value

/-!
# Values in messages

A value is turned into text by a call for the value and, inside of it, calls for the values that it
holds. That fails where the calls go deeper than the machine allows, and at an integer that has too
many digits to be written, whichever comes first.
-/

namespace ShellStyle

namespace Value

mutual

/-- What is met first that keeps a value from being turned into text, if there is room for `room`
calls one inside another. -/
def obstacle? (room : Nat) (v : Value) : Option StyleError :=
  match room with
  | 0 => some .tooDeep
  | room + 1 =>
    match v with
    | int n => if Numeral.isWritten n then none else some .longInteger
    | seq items => itemsObstacle? room items
    | map entries => entriesObstacle? room entries
    | _ => none

/-- What is met first in the items of a sequence. -/
def itemsObstacle? (room : Nat) : List Value → Option StyleError
  | [] => none
  | v :: vs => (obstacle? room v).or (itemsObstacle? room vs)

/-- What is met first in the entries of a mapping, where a key comes before its value. -/
def entriesObstacle? (room : Nat) : List (Value × Value) → Option StyleError
  | [] => none
  | (k, v) :: es =>
    ((obstacle? room k).or (obstacle? room v)).or (entriesObstacle? room es)

end

/-- A value as it is shown at a place, if it can be shown. -/
def shown [Machine] (reading : Reading) (v : Value) : Except StyleError String :=
  match v.obstacle? (Machine.room reading) with
  | none => .ok v.display
  | some e => .error e

/-- A key as it is shown at a place, if it can be shown. -/
def shownKey [Machine] (reading : Reading) (key : Value) : Except StyleError String :=
  match key.obstacle? (Machine.room reading) with
  | none => .ok key.displayKey
  | some e => .error e

end Value

end ShellStyle
