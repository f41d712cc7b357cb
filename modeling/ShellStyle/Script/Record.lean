import ShellStyle.Line.Context
import ShellStyle.Line.Token

/-!
# The dump of a script

A script is dumped with one record a line: its context, its words, and whether it belongs to a
heredoc. Lines inside a heredoc are one word each; so are comments and shebangs.
-/

namespace ShellStyle.Script

open Text Line

/-- What is shown of a line. -/
structure Record where
  number : Nat
  context : Context
  words : List Text
  inHeredoc : Bool
  endsHeredoc : Bool
  hasGlob : Bool
  deriving DecidableEq, Repr

/-- The words that are shown of a line outside heredocs. -/
def shownWords (context : Context) (text : Text) : List Text :=
  if context.isInert then finishWord text else words text

/-- The records of the lines from number `number` on, where `heredoc` is the delimiter of an open
heredoc. -/
def scanFrom (heredoc : Option Text) (number : Nat) : List Text → List Record
  | [] => []
  | text :: rest =>
    match heredoc with
    | some delimiter =>
      if Line.endsHeredoc text delimiter then
        ⟨number, .normal, [trim text], false, true, false⟩ :: scanFrom none (number + 1) rest
      else
        ⟨number, .normal, [text], true, false, false⟩ ::
          scanFrom (some delimiter) (number + 1) rest
    | none =>
      let context := context text
      ⟨number, context, shownWords context text, false, false, Line.hasGlob text⟩ ::
        scanFrom (if context = .heredocStart then some (heredocDelimiter text) else none)
          (number + 1) rest

/-- The records of a script. -/
def scan (lines : List Text) : List Record :=
  scanFrom none 1 lines

namespace Record

/-- The remarks on a line, in parentheses. -/
def remarks (r : Record) : String :=
  let flags := (if r.inHeredoc then ["heredoc body"] else []) ++
    (if r.endsHeredoc then ["heredoc end"] else []) ++ (if r.hasGlob then ["glob"] else [])
  if flags.isEmpty then "" else " (" ++ String.intercalate ", " flags ++ ")"

/-- The label before each word. -/
def label (r : Record) : String :=
  match r.context with
  | .shebang => "SHEBANG"
  | .comment => "COMMENT"
  | _ => "TOKEN"

/-- The lines that show a record. -/
def lines (r : Record) : List Text :=
  ("Line " ++ toString r.number ++ ": " ++ r.context.name ++ r.remarks).toList ::
    r.words.map fun word => ("  " ++ r.label ++ ":").toList ++ word

end Record

/-- The dump of a script. -/
def dump (path : Text) (records : List Record) : Text :=
  joinWith ['\n'] (("=== AST for ".toList ++ path ++ " ===".toList) :: [] ::
    records.flatMap Record.lines)

end ShellStyle.Script
