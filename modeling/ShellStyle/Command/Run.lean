import ShellStyle.Command.Arguments
import ShellStyle.Command.Print
import ShellStyle.File.Config
import ShellStyle.File.Glob

/-!
# Running a command

A command loads the configuration, collects the files that its paths name, and treats one file after
another. What has been printed, logged and written stays when something stops it. It succeeds if
every file does. The log shows warnings and errors, and everything if the run is verbose.
-/

namespace ShellStyle.Command

open Text

/-- What stops a command. -/
inductive Failure where
  | style (e : StyleError)
  | pattern (e : Glob.PatternError)
  | foreign (e : ForeignError)
  | system (e : SystemError)
  | nullInPath
  deriving DecidableEq, Repr

/-- The wording of the failure. -/
def Failure.message : Failure → String
  | style e => e.message
  | pattern e => e.message
  | foreign e => e.message
  | system e => e.message
  | nullInPath => ConfigError.nullInPath.message

/-- The failure of a command that an operation on files is stopped by. -/
def Failure.ofHalt : Halt → Failure
  | .style e => style e
  | .system e => system e
  | .foreign e => foreign e

/-- The state of a command: the files with the log, and the lines printed so far. -/
structure Session where
  workspace : Workspace
  lines : List Text

/-- A step of a command, which can fail and keeps the state it has reached. -/
abbrev Job (α : Type) :=
  ExceptT Failure (StateM Session) α

namespace Job

/-- Prints lines, unless the console reports an error. -/
def print (lines : Except ForeignError (List Text)) : Job Unit :=
  match lines with
  | .ok lines => modify fun s => ⟨s.workspace, s.lines ++ lines⟩
  | .error e => throw (.foreign e)

/-- Prints messages, one after another. -/
def say [Console] : List Text → Job Unit
  | [] => pure ()
  | markup :: rest => do
    print (Console.message markup)
    say rest

/-- Works on the files. -/
def onFiles {α : Type} (f : Workspace → Except Halt α × Workspace) : Job α := fun s =>
  match f s.workspace with
  | (.ok a, w) => (.ok a, ⟨w, s.lines⟩)
  | (.error e, w) => (.error (.ofHalt e), ⟨w, s.lines⟩)

/-- The files as they are now. -/
def tree : Job Tree := fun s =>
  (.ok s.workspace.tree, s)

end Job

/-- The files below a directory that end as `ext` says; every path that ends so is looked up. -/
def filesBelow (t : Tree) (ext : Text) (p : Path) : Except Failure (List Path) :=
  match Glob.pathsBelow t ('*' :: ext) p with
  | .error e => .error (.pattern e)
  | .ok paths =>
    match paths.findSome? t.refusal? with
    | some e => .error (.system e)
    | none => .ok (Glob.filesAmong t paths)

/-- The files that paths name: a directory stands for the files below it that end as `ext` says. -/
def targets (t : Tree) (ext : Text) : List Text → Except Failure (List Path)
  | [] => .ok []
  | given :: rest => do
    let p := Path.ofText given
    let here ← match t.refusal? p with
      | some e => .error (.system e)
      | none => if t.isDirectory p then filesBelow t ext p else .ok [p]
    let later ← targets t ext rest
    return here ++ later

/-- The status of a file that was checked. -/
def lintStatus (isFile success : Bool) : String :=
  if !isFile then "INPUT_ERROR" else if success then "PASSED" else "FAILED"

/-- Checks files and prints their issues; nothing is printed for what is no file. -/
def lintAll [Console] (s : Settings) (fault : Option Fault) : List Path → Job (List Row)
  | [] => pure []
  | p :: rest => do
    let found ← Job.onFiles (inspectFile s fault p.text)
    let t ← Job.tree
    if t.isFile p then
      Job.print (bannerLines p.text)
      Job.say (issueMessages found.issues)
    let later ← lintAll s fault rest
    return ⟨p.text, lintStatus (t.isFile p) found.success, found.issues.length, found.success⟩ ::
      later

/-- Formats files and prints what became of them. -/
def formatAll [Machine] [Console] (s : Settings) (fault : Option Fault)
    (rehearsal showsDiff : Bool) :
    List Path → Job (List Report)
  | [] => pure []
  | p :: rest => do
    let report ← Job.onFiles (formatFile s fault rehearsal p)
    if showsDiff && report.success then
      Job.print (diffLines p.text report.before report.content)
    Job.say [resultMessage report]
    let later ← formatAll s fault rehearsal showsDiff rest
    return report :: later

/-- The row of the final table for a report. -/
def rowOf (r : Report) : Row :=
  ⟨r.path.text, r.status.name, r.fixes, r.success⟩

/-- The message for a command that cannot do its work. -/
def errorMessage (text : String) : Text :=
  ("[bold red]Error:[/bold red] " ++ text).toList

/-- Dumps a file; gives whether it could be read. -/
def dumpOne [Console] (fault : Option Fault) (p : Path) : Job Bool := do
  match dumpFile fault p (← Job.tree) with
  | .ok records =>
    Job.print (Console.raw (Script.dump p.text records))
    return true
  | .error (.refused e) => throw (.system e)
  | .error e =>
    Job.say [errorMessage e.message]
    return false

/-- Dumps files; gives whether all could be read. -/
def dumpAll [Console] (fault : Option Fault) : List Path → Job Bool
  | [] => pure true
  | p :: rest => do
    let isRead ← dumpOne fault p
    let areRead ← dumpAll fault rest
    return isRead && areRead

/-- Writes a new configuration file; gives whether it is written. -/
def initialise [Console] (fault : Option Fault) (given : Text) : Job Bool := do
  let (result, t) := Config.create fault given (← Job.tree)
  modify fun s => ⟨⟨t, s.workspace.log⟩, s.lines⟩
  match result with
  | .ok p =>
    Job.say ["[green]✓ Wrote default configuration to ".toList ++ p.text ++ "[/green]".toList]
    return true
  | .error (.config e) =>
    Job.say [errorMessage e.message]
    return false
  | .error (.system e) => throw (.system e)
  | .error .nullInPath => throw .nullInPath

/-- Prints the final table and the totals below it if there is more than one row. -/
def printTable [Console] (mode : String) (rows : List Row) : Job Unit :=
  if 1 < rows.length then do
    Job.print (tableLines mode rows)
    Job.say [totalsMessage rows]
  else pure ()

/-- Carries a command out on its files; gives whether all of them succeed. -/
def treat [Machine] [Console] (o : Options) (fault : Option Fault) (s : Settings)
    (files : List Path) : Job Bool :=
  match o.verb with
  | .format => do
    let reports ← formatAll s fault o.isRehearsal o.showsDiff files
    printTable "format" (reports.map rowOf)
    return reports.all Report.success
  | .parse => dumpAll fault files
  | _ => do
    let rows ← lintAll s fault files
    printTable "lint" rows
    return rows.all Row.success

/-- Carries a command out; gives whether it succeeds. -/
def execute [Machine] [Loader] [Console] (o : Options) (fault : Option Fault) : Job Bool :=
  if o.verb = .init then initialise fault (o.paths.head?.getD [])
  else if fault = some .interrupt then do
    Job.say ["\n[bold red]Terminated by user.[/bold red]".toList]
    return false
  else do
    let settings ← Job.onFiles (Config.load fault o.config)
    match targets (← Job.tree) o.ext o.paths with
    | .error e => throw e
    | .ok [] =>
      Job.say ["[bold yellow]⚠️  No ".toList ++ o.ext ++ " files found.[/bold yellow]".toList]
      return false
    | .ok files => treat o fault settings files

/-- What a run of the program shows: how to use it, or lines. -/
inductive Shown where
  | usage
  | lines (lines : List Text)

/-- The outcome of a run: its exit status or what stopped it, what it shows, what it says about
wrong usage, its log, and the files behind it. -/
structure Outcome where
  status : Except Failure Nat
  shown : Shown
  complaint : Option String
  log : List LogEntry
  tree : Tree

/-- What the program says of its version. -/
def versionText : Text :=
  "cleansh v1.0.0".toList

/-- The exit status of a command. -/
def exitStatus (isSuccess : Bool) : Nat :=
  if isSuccess then 0 else 1

/-- The least level that the log shows. -/
def logRank (isVerbose : Bool) : Nat :=
  if isVerbose then LogLevel.debug.rank else LogLevel.warning.rank

/-- Runs the program. -/
def run [Machine] [Loader] [Console] (fault : Option Fault) (arguments : List Text) (t : Tree) :
    Outcome :=
  match request arguments with
  | .help => ⟨.ok 0, .usage, none, [], t⟩
  | .nothing => ⟨.ok 1, .usage, none, [], t⟩
  | .version => ⟨.ok 0, .lines [versionText], none, [], t⟩
  | .usage program e => ⟨.ok 2, .lines [], some (program ++ ": error: " ++ e.message), [], t⟩
  | .run o =>
    let (result, s) := (execute o fault).run.run ⟨⟨t, []⟩, []⟩
    let log := s.workspace.log.filter fun e => logRank o.isVerbose ≤ e.level.rank
    ⟨result.map exitStatus, .lines s.lines, none, log, s.workspace.tree⟩

end ShellStyle.Command
