import ShellStyle.Text.Blank

/-!
# Hexadecimal numbers

Digits above nine are letters, small or capital.
-/

namespace ShellStyle.Text

/-- The value of a hexadecimal digit. -/
def hexValue? (c : Char) : Option Nat :=
  if '0' ≤ c ∧ c ≤ '9' then some (c.toNat - 0x30)
  else if 'a' ≤ c ∧ c ≤ 'f' then some (c.toNat - 0x57)
  else if 'A' ≤ c ∧ c ≤ 'F' then some (c.toNat - 0x37)
  else none

/-- The value of a row of hexadecimal digits. -/
def hexNumber? (t : Text) : Option Nat :=
  t.foldl (fun n c => do return 16 * (← n) + (← hexValue? c)) (some 0)

end ShellStyle.Text
