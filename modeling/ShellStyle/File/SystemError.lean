import ShellStyle.File.Tree
import ShellStyle.Text.Quoted

/-!
# Failures of the system

What the operating system says when a file cannot be opened or written, with its number and, where
it is known, the path. A fault is a failure that strikes one kind of operation whatever the files
are.
-/

namespace ShellStyle

/-- The reasons for which the system refuses. -/
inductive SystemCause where
  | noEntry
  | permission
  | notDirectory
  | isDirectory
  | noSpace
  | nameTooLong
  | tooManyLinks
  deriving DecidableEq, Repr

namespace SystemCause

/-- The number of a reason. -/
def code : SystemCause → Nat
  | noEntry => 2
  | permission => 13
  | notDirectory => 20
  | isDirectory => 21
  | noSpace => 28
  | nameTooLong => 36
  | tooManyLinks => 40

/-- The wording of a reason. -/
def wording : SystemCause → String
  | noEntry => "No such file or directory"
  | permission => "Permission denied"
  | notDirectory => "Not a directory"
  | isDirectory => "Is a directory"
  | noSpace => "No space left on device"
  | nameTooLong => "File name too long"
  | tooManyLinks => "Too many levels of symbolic links"

end SystemCause

/-- A refusal, with the path it is about if that is told. -/
structure SystemError where
  cause : SystemCause
  path : Option Text
  deriving DecidableEq, Repr

/-- The wording of a refusal. -/
def SystemError.message (e : SystemError) : String :=
  let place := match e.path with
    | some path => ": " ++ String.ofList (Text.inQuotes path)
    | none => ""
  "[Errno " ++ toString e.cause.code ++ "] " ++ e.cause.wording ++ place

/-- The operations that can be struck by a failure. -/
inductive Fault where
  /-- The directory of a script cannot be written to. -/
  | access
  /-- No scratch file can be made. -/
  | scratch
  /-- The scratch file cannot take the place of the script. -/
  | rename
  /-- No script can be read. -/
  | read
  /-- No configuration file can be opened. -/
  | config
  /-- The user stops the run while the configuration is loaded. -/
  | interrupt
  deriving DecidableEq, Repr

/-- Why a path cannot be opened for reading. -/
def Lookup.readFailure : Lookup → SystemCause
  | .found _ _ => .isDirectory
  | .missing _ => .noEntry
  | .noParent => .noEntry
  | .notDirectory => .notDirectory
  | .tooManyLinks => .tooManyLinks
  | .nameTooLong => .nameTooLong

/-- The refusal to look a path up at all. Other failures only mean that nothing is there. -/
def Tree.refusal? (t : Tree) (p : Path) : Option SystemError :=
  match t.find p with
  | .nameTooLong => some ⟨.nameTooLong, some p.text⟩
  | _ => none

end ShellStyle
