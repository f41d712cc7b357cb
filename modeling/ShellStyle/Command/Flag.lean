import ShellStyle.Text.Search

/-!
# Flags and grammars

The command line has flags, some of which take a value, and positional arguments. The grammar of the
program itself takes a command; each command has a grammar of its own, with paths or at most one
path.
-/

namespace ShellStyle.Command

/-- The flags. -/
inductive Flag where
  | help
  | version
  | config
  | verbose
  | noColor
  | ext
  | dryRun
  | diff
  deriving DecidableEq, Repr

namespace Flag

/-- The names of a flag, its short one first. -/
def names : Flag → List Text
  | help => ["-h".toList, "--help".toList]
  | version => ["--version".toList]
  | config => ["-c".toList, "--config".toList]
  | verbose => ["-v".toList, "--verbose".toList]
  | noColor => ["--no-color".toList]
  | ext => ["--ext".toList]
  | dryRun => ["--dry-run".toList]
  | diff => ["--diff".toList]

/-- Whether a flag takes a value. -/
def takesValue : Flag → Bool
  | config => true
  | ext => true
  | _ => false

/-- What a flag counts as its value when its list of values is empty: such a list names no file, and
as an extension it is written out. -/
def emptyValue : Flag → Text
  | ext => "[]".toList
  | _ => []

/-- A flag as it is called in messages. -/
def label (flag : Flag) : String :=
  String.ofList (Text.joinWith ['/'] flag.names)

end Flag

/-- The commands. -/
inductive Verb where
  | lint
  | check
  | format
  | parse
  | init
  deriving DecidableEq, Repr

namespace Verb

/-- The name of a command. -/
def name : Verb → String
  | lint => "lint"
  | check => "check"
  | format => "format"
  | parse => "parse"
  | init => "init"

/-- All commands. -/
def all : List Verb :=
  [lint, check, format, parse, init]

/-- The command of a name. -/
def ofName? (name : Text) : Option Verb :=
  all.find? fun verb => verb.name.toList = name

end Verb

/-- What the positional arguments are. -/
inductive Positional where
  /-- A command with all that follows it. -/
  | command
  /-- One path or more. -/
  | paths
  /-- At most one path. -/
  | optionalPath
  deriving DecidableEq, Repr

/-- The arguments that a program takes. -/
structure Grammar where
  program : String
  flags : List Flag
  positional : Positional

namespace Grammar

/-- The flags that are taken before and behind a command. -/
def commonFlags : List Flag :=
  [.config, .verbose, .noColor, .ext]

/-- The name of the program. -/
def programName : String :=
  "cleansh"

/-- The grammar of the program. -/
def top : Grammar :=
  ⟨programName, .help :: .version :: commonFlags, .command⟩

/-- The grammar of a command. -/
def ofVerb (verb : Verb) : Grammar :=
  let program := programName ++ " " ++ verb.name
  match verb with
  | .format => ⟨program, .help :: commonFlags ++ [.dryRun, .diff], .paths⟩
  | .init => ⟨program, [.help], .optionalPath⟩
  | _ => ⟨program, .help :: commonFlags, .paths⟩

/-- All flag names of a grammar with their flags. -/
def flagNames (g : Grammar) : List (Text × Flag) :=
  g.flags.flatMap fun flag => flag.names.map fun name => (name, flag)

/-- The flag of a name. -/
def flag? (g : Grammar) (name : Text) : Option Flag :=
  g.flagNames.lookup name

end Grammar

end ShellStyle.Command
