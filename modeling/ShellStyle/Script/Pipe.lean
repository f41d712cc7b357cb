import ShellStyle.Fix.Guard
import ShellStyle.Line.Continuation
import ShellStyle.Script.Tracker

/-!
# Doubled pipes

A continued command whose lines meet in two pipes, one at the end of a line and one at the start of
the last, or whose last line has two pipes with only blanks between them, is a slip of the pen. It
is joined into one line with a single pipe.
-/

namespace ShellStyle.Script

open Text Line

/-- Two single pipes with blanks between them, and the blanks behind. -/
def doubledPipe : Matcher Unit := fun before t =>
  match t with
  | '|' :: rest =>
    let gap := rest.takeWhile isBlank
    match trimLeft rest with
    | '|' :: behind =>
      if before == some '|' || gap.isEmpty || behind.head? == some '|' then none
      else some ((), 2 + gap.length + (behind.takeWhile isBlank).length)
    | _ => none
  | _ => none

/-- Whether a text ends with a single pipe. -/
def endsWithPipe (t : Text) : Bool :=
  match t.reverse with
  | '|' :: rest => rest.head? != some '|'
  | _ => false

/-- Whether a text begins with a pipe and a blank. -/
def startsWithPipe : Text → Bool
  | '|' :: rest => rest.head?.any isBlank
  | _ => false

/-- Whether lines that were put off and the line that ends the command meet in a doubled pipe. -/
def meetsInPipes (pending : List NumberedLine) (terminal : Text) : Bool :=
  let closing := trimLeft terminal
  (pending.getLast?.any fun last =>
      endsWithPipe (dropContinuation last.text) && startsWithPipe closing) ||
    doubledPipe.occurs closing

/-- The command in one line, with the indentation of its first line and single pipes. -/
def joinCommand (pending : List NumberedLine) (terminal : Text) : Text :=
  let pieces := pending.map (fun line => trim (dropContinuation line.text)) ++ [trim terminal]
  let joined := joinWith [' '] (pieces.filter fun piece => !piece.isEmpty)
  (match pending with
    | [] => []
    | first :: _ => Text.indent first.text) ++
    Fix.replaceAll doubledPipe (fun _ => ['|', ' ']) joined

end ShellStyle.Script
