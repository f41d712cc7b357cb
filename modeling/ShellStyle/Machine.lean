import ShellStyle.Text.Blank

/-!
# The machine

What the program can do depends on the machine it runs on: on the memory for a run of spaces, on the
room for calls inside calls where a value is turned into text, which is different at each place of
the program, and on the working directory, which counts in the length of absolute paths. Everything
that depends on it takes the machine as an instance.
-/

namespace ShellStyle

/-- A place of the program where a value of a configuration is turned into text. -/
inductive Reading where
  /-- The value of a knob is read as a switch. -/
  | switch
  /-- The value of a knob is shown in the warning that it is not taken. -/
  | refusedKnob
  /-- The name of an unknown knob is logged. -/
  | knobName
  /-- A value is read as a severity. -/
  | severity
  /-- The name of a rule is made the key of its severity. -/
  | ruleName
  /-- A rule and its value are shown in the warning that the value is no severity. -/
  | refusedSeverity
  deriving DecidableEq, Repr

/-- A machine: its limits, and the directory the program runs in. -/
class Machine where
  /-- The length of the longest run of spaces that there is memory for. -/
  memory : Nat
  /-- The number of calls, one inside another, that there is room for at a place. -/
  room : Reading → Nat
  /-- There is always room for a value that holds no others. -/
  two_le_room : ∀ reading, 2 ≤ room reading
  /-- The names that lead from the root to the working directory. -/
  workingDirectory : List Text

/-- A machine with memory for two gigabytes and room for about a thousand calls. -/
@[reducible] def Machine.inDirectory (names : List Text) : Machine where
  memory := 0x7fffffff
  room _ := 990
  two_le_room _ := by decide
  workingDirectory := names

/-- The machine in its root directory. -/
instance Machine.usual : Machine :=
  Machine.inDirectory []

end ShellStyle
