import ShellStyle.File.Report
import ShellStyle.Settings.Resolve

/-!
# Configuration files

Settings stand under the key `clean` of a YAML file. A missing file and a file that cannot be used
leave the defaults in force; the second is logged as a warning, unless only a scalar in it is at
fault. A new configuration file documents the defaults, and never takes the place of an existing
file.
-/

namespace ShellStyle

/-- Why a configuration file cannot be used. -/
inductive ConfigError where
  | malformed (path : Text)
  | value (e : StyleError)
  | foreign (e : ForeignError)
  | nullInPath
  | unreadable (path : Text) (cause : SystemError)
  | occupied (path : Path)
  deriving DecidableEq, Repr

/-- The wording of the reason. -/
def ConfigError.message : ConfigError → String
  | malformed path => "Invalid YAML in " ++ String.ofList path ++ ":"
  | value e => e.message
  | foreign e => e.message
  | nullInPath => "embedded null byte"
  | unreadable path cause => "Cannot read " ++ String.ofList path ++ ": " ++ cause.message
  | occupied path => "Refusing to overwrite existing file: " ++ path.display

namespace Config

/-- The part of a document that holds the settings. -/
def sectionOf (document : Value) : Value :=
  (document.get? "clean").getD .null

/-- The settings in the file that a text names, as they are written there. -/
def readSection [Loader] (fault : Option Fault) (t : Tree) (given : Text) :
    Except ConfigError Value :=
  let unreadable := fun cause => Except.error (.unreadable given ⟨cause, some given⟩)
  if fault = some .config then .error (.unreadable given ⟨.permission, none⟩)
  else if Path.hasNull given then .error .nullInPath
  else if given.isEmpty then unreadable .noEntry
  else match t.find (Path.ofText given) with
    | .found _ (.file bytes _) =>
      if Path.endsInDirectory given then unreadable .notDirectory
      else match Text.decode bytes with
        | .error _ => .error (.malformed given)
        | .ok text =>
          match Loader.load text with
          | .ok document => .ok (sectionOf document)
          | .error .malformed => .error (.malformed given)
          | .error (.value e) => .error (.value e)
          | .error (.foreign e) => .error (.foreign e)
    | lookup => unreadable lookup.readFailure

/-- The settings in force when a configuration file is named, or none is. -/
def load [Machine] [Loader] (fault : Option Fault) (given : Text) (w : Workspace) :
    Except Halt Settings × Workspace :=
  let p := Path.ofText (if given.isEmpty then Settings.fileName else given)
  match w.tree.refusal? p with
  | some e => (.error (.system e), w)
  | none =>
    if w.tree.isFile p then
      match readSection fault w.tree p.text with
      | .error (.value e) => (.error (.style e), w)
      | .error (.foreign e) => (.error (.foreign e), w)
      | .error e =>
        (.ok Settings.default,
          w.note .warning .config (e.message ++ ". Using default configuration."))
      | .ok data =>
        let w := w.note .debug .config ("Configuration loaded from " ++ p.display)
        let (settings, log) := (Settings.resolve data).run []
        (settings.mapError .style, w.noteAll log)
    else
      (.ok Settings.default,
        w.note .debug .config ("No configuration file at " ++ p.display ++ ", using defaults"))

/-- A truth value or a number as it stands in a configuration file. -/
def scalarText : Value → String
  | .bool true => "true"
  | .bool false => "false"
  | v => v.display

/-- The lines of the configuration file that documents the defaults. -/
def documentation : List String :=
  ["# cleansh configuration", "clean:", "  rules:"] ++
    Settings.defaultRules.map (fun (name, v) => "    " ++ name ++ ": " ++ scalarText v) ++
    ["  # error severities fail the lint run", "  severity:"] ++
    Settings.defaultSeverity.map fun (name, level) => "    " ++ name ++ ": " ++ level.name

/-- The text of the configuration file that documents the defaults. -/
def documentationText : Text :=
  documentation.flatMap fun line => line.toList ++ ['\n']

/-- The mode of a new file. -/
def newFileMode : Nat :=
  0o644

/-- Why no configuration file is written. -/
inductive InitError where
  | config (e : ConfigError)
  | system (e : SystemError)
  | nullInPath
  deriving DecidableEq, Repr

/-- The wording of the reason. -/
def InitError.message : InitError → String
  | config e => e.message
  | system e => e.message
  | nullInPath => ConfigError.nullInPath.message

/-- Writes the defaults to a new configuration file. -/
def create (fault : Option Fault) (given : Text) (t : Tree) : Except InitError Path × Tree :=
  let p := Path.ofText given
  let refused := fun cause => (Except.error (.system ⟨cause, some p.text⟩), t)
  match t.find p with
  | .found _ _ => (.error (.config (.occupied p)), t)
  | .nameTooLong => refused .nameTooLong
  | .missing l =>
    if fault = some .config then (.error (.system ⟨.permission, none⟩), t)
    else (.ok p, t.set l (.file (Text.encode documentationText) newFileMode))
  | lookup =>
    if fault = some .config then (.error (.system ⟨.permission, none⟩), t)
    else if Path.hasNull given then (.error .nullInPath, t)
    else refused lookup.readFailure

end Config

end ShellStyle
