import ShellStyle.File.SystemError
import ShellStyle.Script.Safety
import ShellStyle.Text.Utf8

/-!
# Script files

A script file is a text in UTF-8 whose lines end in line feeds. If every line that is ended at all
is ended by a carriage return and a line feed, both are the line end, and lines do not show the
carriage return. A script is written as its lines with a line end behind each, to a scratch file
that takes the old file's mode and then its place, so that the old file is there until the new one
is complete.
-/

namespace ShellStyle

/-- The two ways in which lines end. -/
inductive LineEnd where
  | feed
  | returnFeed
  deriving DecidableEq, Repr

/-- The characters of a line end. -/
def LineEnd.text : LineEnd → Text
  | feed => ['\n']
  | returnFeed => ['\r', '\n']

/-- The lines of a script, and how they end. -/
structure Source where
  lines : List Text
  lineEnd : LineEnd
  deriving DecidableEq, Repr

namespace Source

/-- Whether a line ends in a carriage return. -/
def endsInReturn (line : Text) : Bool :=
  line.getLast? = some '\r'

/-- The lines of a text that are ended by a line feed, and what follows the last line feed. -/
def terminated (t : Text) : List Text × Text :=
  let pieces := Text.splitAt '\n' t
  (pieces.dropLast, pieces.getLast?.getD [])

/-- The script that a text holds. -/
def ofText (t : Text) : Source :=
  let (ended, last) := terminated t
  let remainder := if last.isEmpty then [] else [last]
  if !ended.isEmpty && ended.all endsInReturn then
    ⟨ended.map List.dropLast ++ remainder, .returnFeed⟩
  else ⟨ended ++ remainder, .feed⟩

/-- The text of a script. -/
def toText (s : Source) : Text :=
  Text.joinWith s.lineEnd.text s.lines ++ s.lineEnd.text

end Source

/-- Why a script cannot be read. -/
inductive InputError where
  | notFound (path : Path)
  | notRegular (path : Path)
  | unreadable (path : Path)
  | undecodable (path : Path) (reason : Text.Utf8Error)
  /-- The system does not look for it. -/
  | refused (e : SystemError)
  deriving DecidableEq, Repr

/-- The wording of the reason. -/
def InputError.message : InputError → String
  | notFound path => "File not found: " ++ path.display
  | notRegular path => "Not a regular file: " ++ path.display
  | unreadable path => "Cannot read " ++ path.display ++ ": " ++ SystemCause.permission.wording
  | undecodable path reason =>
    "Cannot decode " ++ path.display ++ " as UTF-8: " ++ reason.message
  | refused e => e.message

/-- Reads the script at a path. -/
def readScript (fault : Option Fault) (t : Tree) (p : Path) : Except InputError Source :=
  match t.find p with
  | .found _ (.file bytes _) =>
    if fault = some .read then .error (.unreadable p)
    else match Text.decodeFile bytes with
      | .ok text => .ok (Source.ofText text)
      | .error reason => .error (.undecodable p reason)
  | .found _ _ => .error (.notRegular p)
  | .nameTooLong => .error (.refused ⟨.nameTooLong, some p.text⟩)
  | _ => .error (.notFound p)

/-- Why a formatted script is not written. -/
inductive WriteError where
  /-- The safety check does not accept it. -/
  | rejected (verdict : Script.Verdict)
  /-- Its directory cannot be written to. -/
  | noAccess (directory : Path)
  /-- There is no scratch file. -/
  | noScratch (cause : SystemError)
  /-- The scratch file cannot take its place. -/
  | notReplaced (cause : SystemError)
  deriving DecidableEq, Repr

/-- The wording of the reason. -/
def WriteError.message : WriteError → String
  | rejected verdict => verdict.message
  | noAccess directory => "No write access to " ++ directory.display
  | noScratch cause => "Cannot create temp file: " ++ cause.message
  | notReplaced cause => "Atomic write failed: " ++ cause.message

/-- The mode of a file that only its owner may use. -/
def privateMode : Nat :=
  0o600

/-- The number of bytes that the name of a scratch file has more than the name of its file. -/
def scratchMargin : Nat :=
  22

/-- The place of the scratch file for a path, which is made by its absolute path. This is beside the
file, unless double dots lead there from a link. -/
def scratchPlace [Machine] (t : Tree) (p : Path) : Except SystemError Location :=
  let scratch := t.freshName p.name
  let refused := fun cause => Except.error ⟨cause, some (p.parent.absolute.child scratch).text⟩
  if Tree.pathLimit < Tree.byteLength (p.parent.absolute.child p.name).text + scratchMargin then
    refused .nameTooLong
  else match t.find p.parent.collapsed with
    | .found directory .directory =>
      if Tree.nameLimit < Tree.byteLength p.name + scratchMargin then refused .nameTooLong
      else .ok (directory ++ [scratch])
    | .found _ _ => refused .notDirectory
    | lookup => refused lookup.readFailure

/-- Gives the file at a path new bytes by way of a scratch file. -/
def replaceFile [Machine] (fault : Option Fault) (t : Tree) (p : Path) (bytes : List UInt8) :
    Except WriteError Unit × Tree :=
  match t.directory? p.parent with
  | none => (.error (.noAccess p.parent), t)
  | some directory =>
    if fault = some .access then (.error (.noAccess p.parent), t)
    else if fault = some .scratch then (.error (.noScratch ⟨.noSpace, none⟩), t)
    else match scratchPlace t p with
      | .error e => (.error (.noScratch e), t)
      | .ok scratch =>
        let written := t.set scratch (.file bytes privateMode)
        match written.file? p with
        | none => (.error (.notReplaced ⟨.noEntry, some p.text⟩), written.erase scratch)
        | some (_, mode) =>
          let ready := written.set scratch (.file bytes mode)
          if fault = some .rename then
            (.error (.notReplaced ⟨.noSpace, none⟩), ready.erase scratch)
          else (.ok (), (ready.erase scratch).set (directory ++ [p.name]) (.file bytes mode))

end ShellStyle
