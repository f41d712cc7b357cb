import ShellStyle.File.Script
import ShellStyle.Library
import ShellStyle.Script.Format
import ShellStyle.Script.Lint
import ShellStyle.Script.Record

/-!
# Checking and formatting files

A file is read, checked or formatted, and reported on. Only a formatted script that passes the
safety check is written, and only if the run is not a rehearsal. What cannot be read or written is a
failure of that report; a setting that cannot be used stops the operation, and so does a path that
the system does not look up. A workspace is the tree of files with the log, and both stay as they
are when an operation stops.
-/

namespace ShellStyle

/-- The files, and what has been logged so far. -/
structure Workspace where
  tree : Tree
  log : List LogEntry

namespace Workspace

/-- Adds an entry to the log. -/
def note (w : Workspace) (level : LogLevel) (source : LogSource) (message : String) : Workspace :=
  ⟨w.tree, w.log ++ [⟨level, source, message⟩]⟩

/-- Adds entries to the log. -/
def noteAll (w : Workspace) (entries : List LogEntry) : Workspace :=
  ⟨w.tree, w.log ++ entries⟩

end Workspace

/-- What stops an operation. -/
inductive Halt where
  | style (e : StyleError)
  | system (e : SystemError)
  | foreign (e : ForeignError)
  deriving DecidableEq, Repr

/-- The wording of what stops it. -/
def Halt.message : Halt → String
  | style e => e.message
  | system e => e.message
  | foreign e => e.message

/-- The outcome of a check: the issues, and whether the script could be read and has no errors. -/
structure Inspection where
  issues : List Issue
  success : Bool

/-- Checks the file that a text names. -/
def inspectFile (s : Settings) (fault : Option Fault) (given : Text) (w : Workspace) :
    Except Halt Inspection × Workspace :=
  match readScript fault w.tree (Path.ofText given) with
  | .error (.refused e) => (.error (.system e), w)
  | .error e => (.ok ⟨[], false⟩, w.note .error .engine e.message)
  | .ok source =>
    let w := w.note .debug .engine ("Linting: " ++ String.ofList given)
    match Script.lint s source.lines with
    | .error e => (.error (.style e), w)
    | .ok issues => (.ok ⟨issues, issues.all fun i => i.severity != .error⟩, w)

/-- What became of a file. -/
inductive FormatStatus where
  | unchanged
  | preview
  | formatted
  | failed
  | inputError
  deriving DecidableEq, Repr

/-- The name of a status. -/
def FormatStatus.name : FormatStatus → String
  | unchanged => "UNCHANGED"
  | preview => "PREVIEW"
  | formatted => "FORMATTED"
  | failed => "FAILED"
  | inputError => "INPUT_ERROR"

/-- Why a file could not be formatted. -/
inductive ReportError where
  | input (e : InputError)
  | write (e : WriteError)
  deriving DecidableEq, Repr

/-- The wording of the reason. -/
def ReportError.message : ReportError → String
  | input e => e.message
  | write e => e.message

/-- The report on a file: its lines before and after, the fixes, and whether it was written. -/
structure Report where
  path : Path
  fixes : Nat
  status : FormatStatus
  before : List Text
  content : List Text
  written : Bool
  error : Option ReportError
  deriving DecidableEq, Repr

namespace Report

/-- Whether the file could be formatted. -/
def success (r : Report) : Bool :=
  r.error.isNone

/-- The report on a file that cannot be read. -/
def unread (p : Path) (e : InputError) : Report :=
  ⟨p, 0, .inputError, [], [], false, some (.input e)⟩

/-- The report on a file that is formatted and not written yet. -/
def ofFormatted (p : Path) (rehearsal : Bool) (before : List Text) (f : Script.Formatted) :
    Report :=
  let status := if f.lines = before then FormatStatus.unchanged
    else if rehearsal then .preview else .formatted
  ⟨p, f.fixes, status, before, f.lines, false, none⟩

/-- The report with a failure to write. -/
def withFailure (r : Report) (e : WriteError) : Report :=
  ⟨r.path, r.fixes, .failed, r.before, r.content, r.written, some (.write e)⟩

/-- The report on a file that is written. -/
def withWritten (r : Report) : Report :=
  ⟨r.path, r.fixes, r.status, r.before, r.content, true, r.error⟩

end Report

/-- Puts a formatted script in the place of its source, unless the safety check or the system
refuses. -/
def storeScript [Machine] (fault : Option Fault) (rehearsal : Bool) (p : Path) (source : Source)
    (formatted : List Text) (t : Tree) : Except WriteError Bool × Tree :=
  match Script.verify source.lines formatted with
  | .accepted =>
    if rehearsal then (.ok false, t)
    else
      match replaceFile fault t p (Text.encode (Source.toText ⟨formatted, source.lineEnd⟩)) with
      | (.ok (), t) => (.ok true, t)
      | (.error e, t) => (.error e, t)
  | verdict => (.error (.rejected verdict), t)

/-- Formats the file at a path. -/
def formatFile [Machine] (s : Settings) (fault : Option Fault) (rehearsal : Bool) (p : Path)
    (w : Workspace) :
    Except Halt Report × Workspace :=
  match readScript fault w.tree p with
  | .error (.refused e) => (.error (.system e), w)
  | .error e => (.ok (Report.unread p e), w.note .error .engine e.message)
  | .ok source =>
    let w := w.note .debug .engine ("Formatting: " ++ p.display)
    match Script.format s source.lines with
    | .error e => (.error (.style e), w)
    | .ok formatted =>
      let report := Report.ofFormatted p rehearsal source.lines formatted
      let w := w.noteAll (Script.verify source.lines formatted.lines).log
      match storeScript fault rehearsal p source formatted.lines w.tree with
      | (.ok true, tree) =>
        (.ok report.withWritten, Workspace.note ⟨tree, w.log⟩ .info .engine
          ("Rewrote " ++ p.display))
      | (.ok false, tree) => (.ok report, ⟨tree, w.log⟩)
      | (.error e, tree) =>
        (.ok (report.withFailure e),
          Workspace.note ⟨tree, w.log⟩ .error .engine (p.display ++ ": " ++ e.message))

/-- The records of the script at a path. -/
def dumpFile (fault : Option Fault) (p : Path) (t : Tree) :
    Except InputError (List Script.Record) :=
  (readScript fault t p).map fun source => Script.scan source.lines

/-- What one report contributes to a summary. -/
structure Tally where
  issues : List Issue
  fixes : Nat
  success : Bool

/-- The totals of several reports. -/
structure Summary where
  files : Nat
  successful : Nat
  failed : Nat
  errors : Nat
  warnings : Nat
  info : Nat
  fixes : Nat
  deriving DecidableEq, Repr

/-- The number of issues of a severity. -/
def countSeverity (severity : Severity) (issues : List Issue) : Nat :=
  issues.countP fun i => i.severity == severity

/-- Adds reports up. -/
def Summary.ofTallies (tallies : List Tally) : Summary :=
  let issues := tallies.flatMap Tally.issues
  ⟨tallies.length, tallies.countP Tally.success, tallies.countP fun t => !t.success,
    countSeverity .error issues, countSeverity .warning issues, countSeverity .info issues,
    tallies.foldr (fun t n => t.fixes + n) 0⟩

end ShellStyle
