import ShellStyle.Fix.Line
import ShellStyle.Script.Pipe

/-!
# Formatting a script

Lines are taken one after another. Heredocs, from the line that opens them to the line that ends
them, come out as they are. Continued lines are put off until their command ends and are then
formatted as a group, every line but the first one step deeper and none of them broken; a group that
meets in a doubled pipe is joined first. All other lines are formatted on their own. Every line that
changes counts as one fix, and so does every joined group.
-/

namespace ShellStyle.Script

open Text Line

/-- How far a run has come: its memory, the lines written and the fixes made. -/
structure Run where
  tracker : Tracker
  lines : List Text
  fixes : Nat

namespace Run

/-- A run that has not begun. -/
def start : Run :=
  ⟨Tracker.start, [], 0⟩

/-- Writes a line as it is. -/
def copy (r : Run) (text : Text) : Run :=
  ⟨r.tracker, r.lines ++ [text], r.fixes⟩

end Run

/-- Formats a line `extra` levels deeper than the current level. -/
def emit [Machine] (s : Settings) (extra : Nat) (mayWrap : Bool) (r : Run) (text : Text) :
    Except StyleError Run := do
  let tracker := r.tracker.dedent text
  let fixed ← Fix.line s (tracker.level + extra) false mayWrap text
  return ⟨tracker.indent text, r.lines ++ fixed, if fixed = [text] then r.fixes else r.fixes + 1⟩

/-- Formats the lines of a group, the first of them `extra` levels deeper and the others one
level. -/
def emitGroup [Machine] (s : Settings) (extra : Nat) (r : Run) :
    List NumberedLine → Except StyleError Run
  | [] => .ok r
  | line :: rest => do
    let r ← emit s extra false r line.text
    emitGroup s 1 r rest

/-- Formats the lines that were put off. -/
def flush [Machine] (s : Settings) (r : Run) : Except StyleError Run :=
  emitGroup s 0 ⟨r.tracker.clear, r.lines, r.fixes⟩ r.tracker.pending

/-- Formats a joined command; joining is a fix even if the line then stays as it is. -/
def emitJoined [Machine] (s : Settings) (r : Run) (joined : Text) : Except StyleError Run := do
  let next ← emit s 0 true r joined
  return ⟨next.tracker, next.lines, r.fixes + 1⟩

/-- Ends a continued command with its last line. -/
def closeCommand [Machine] (s : Settings) (r : Run) (terminal : NumberedLine) :
    Except StyleError Run :=
  let pending := r.tracker.pending
  let cleared : Run := ⟨r.tracker.clear, r.lines, r.fixes⟩
  if meetsInPipes pending terminal.text then
    emitJoined s cleared (joinCommand pending terminal.text)
  else emitGroup s 0 cleared (pending ++ [terminal])

/-- One line further. -/
def step [Machine] (s : Settings) (r : Run) (line : NumberedLine) : Except StyleError Run :=
  if r.tracker.inHeredoc then
    let tracker :=
      if endsHeredoc line.text r.tracker.delimiter then r.tracker.leave else r.tracker
    .ok ⟨tracker, r.lines ++ [line.text], r.fixes⟩
  else if context line.text = .heredocStart then do
    let flushed ← flush s r
    return ⟨flushed.tracker.enter (heredocDelimiter line.text), flushed.lines ++ [line.text],
      flushed.fixes⟩
  else if isContinued line.text && !isComment line.text then
    .ok ⟨r.tracker.push line, r.lines, r.fixes⟩
  else if r.tracker.pending.isEmpty then emit s 0 true r line.text
  else closeCommand s r line

/-- The lines of a script from number `number` on. -/
def stepsFrom [Machine] (s : Settings) (number : Int) (r : Run) : List Text → Except StyleError Run
  | [] => .ok r
  | text :: rest => do
    let r ← step s r ⟨number, text⟩
    stepsFrom s (number + 1) r rest

/-- A formatted script: its lines and the number of fixes. -/
structure Formatted where
  lines : List Text
  fixes : Nat
  deriving DecidableEq, Repr

/-- Formats a script. -/
def format [Machine] (s : Settings) (lines : List Text) : Except StyleError Formatted := do
  let r ← stepsFrom s 1 Run.start lines
  let r ← flush s r
  return ⟨r.lines, r.fixes⟩

end ShellStyle.Script
