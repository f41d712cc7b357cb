import ShellStyle.Command.Run
import ShellStyle.Layout.Plain
import ShellStyle.Yaml.Document

/-!
# The program

Reads the files that the arguments name, runs the command on them, writes what has changed, and
prints what the command shows. The log and complaints about wrong usage go to standard error.
-/

namespace ShellStyle.Main

/-- Reads what stands at a place below `base` and on the way there; a directory is read with all
that is below it. -/
partial def load (t : Tree) (base : Location) (parts : List Text) : IO Tree := do
  match parts with
  | [] =>
    if Tree.isAncestor base then loadBelow t base else return t
  | name :: rest =>
    if name = ['.', '.'] then load t (Tree.above base) rest
    else
      let here := base ++ [name]
      let place := (Tree.pathOf here).display
      match ← (System.mkFilePath [place]).symlinkMetadata.toBaseIO with
      | .error _ => return t
      | .ok data =>
        match data.type with
        | .dir =>
          let t := t.set here .directory
          if rest.isEmpty then loadBelow t here else load t here rest
        | .symlink =>
          match ← (IO.FS.realPath place).toBaseIO with
          | .error _ => return t.set here (.link (name ++ name))
          | .ok target =>
            let target := target.toString.toList
            let p := Path.ofText target
            load (t.set here (.link target)) Tree.rootLocation (p.parts ++ rest)
        | .file =>
          match ← (IO.FS.readBinFile place).toBaseIO with
          | .error _ => return t
          | .ok bytes => return t.set here (.file bytes.toList Config.newFileMode)
        | .other => return t
where
  /-- Reads all that is in a directory. -/
  loadBelow (t : Tree) (here : Location) : IO Tree := do
    let entries ← (System.mkFilePath [(Tree.pathOf here).display]).readDir
    entries.foldlM (fun t entry => load t here [entry.fileName.toList]) t

/-- Reads the files that options name. -/
def loadFor (o : Command.Options) : IO Tree := do
  let config := if o.config.isEmpty then Settings.fileName else o.config
  (config :: o.paths).foldlM (fun t given =>
    let p := Path.ofText given
    load t (Tree.startOf p.anchor []) p.parts) []

/-- Writes the files of a tree that are not as before. -/
def save (before after : Tree) : IO Unit :=
  after.forM fun (l, e) => do
    let place := (Tree.pathOf l).display
    match e with
    | .file bytes _ =>
      if before.entry? l ≠ some e then
        match before.entry? l with
        | some (.link _) => IO.FS.removeFile place
        | _ => pure ()
        IO.FS.writeBinFile place (ByteArray.mk bytes.toArray)
    | _ => pure ()

/-- How the program is used. -/
def usage : String :=
  "usage: cleansh [-h] [--version] [-c CONFIG] [-v] [--no-color] [--ext EXT] Command ...\n\n" ++
  "cleansh - shell script linter and formatter\n\n" ++
  "commands:\n" ++
  "  lint PATHS      Check files for style issues (read-only)\n" ++
  "  check PATHS     Check formatting without modifying files\n" ++
  "  format PATHS    Fix issues in place (--dry-run, --diff)\n" ++
  "  parse PATHS     Dump line contexts and tokens (debug)\n" ++
  "  init [PATH]     Write a default configuration file"

/-- Shows the outcome of a run, and gives its exit status. -/
def report (outcome : Command.Outcome) : IO UInt32 := do
  match outcome.shown with
  | .usage => IO.println usage
  | .lines lines => lines.forM fun line => IO.println (String.ofList line)
  outcome.log.forM fun entry => IO.eprintln entry.line
  outcome.complaint.forM IO.eprintln
  match outcome.status with
  | .ok status => return status.toUInt32
  | .error failure =>
    IO.eprintln failure.message
    return 1

end ShellStyle.Main

/-- Runs the program on its arguments. -/
def main (arguments : List String) : IO UInt32 := do
  let arguments := arguments.map String.toList
  let before ← match ShellStyle.Command.request arguments with
    | .run o => ShellStyle.Main.loadFor o
    | _ => pure []
  let here ← IO.currentDir
  let _ := ShellStyle.Machine.inDirectory (ShellStyle.Path.ofText here.toString.toList).parts
  let outcome := ShellStyle.Command.run none arguments before
  ShellStyle.Main.save before outcome.tree
  ShellStyle.Main.report outcome
