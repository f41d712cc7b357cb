import ShellStyle.Command.Flag
import ShellStyle.Settings.Basic
import ShellStyle.Text.DecimalDigit
import ShellStyle.Text.Quoted

/-!
# Reading arguments

Every argument is first told to be a flag, the separator, or a positional argument. A flag may be
shortened as long as only one flag begins so, may carry its value behind an equals sign, and short
flags may be written together. Then the arguments are taken from the left: positional ones as soon
as enough of them stand together, flags with their values. What nobody takes is left over. A flag
for help or for the version ends the reading at once.
-/

namespace ShellStyle.Command

open Text

/-- What is wrong with the arguments. -/
inductive UsageError where
  | ambiguous (argument : Text) (names : List Text)
  | missingValue (flag : Flag)
  | unusedValue (flag : Flag) (value : Text)
  | missingPaths
  | unknownCommand (name : Text)
  | unrecognized (arguments : List Text)
  deriving DecidableEq, Repr

/-- The wording of the error. -/
def UsageError.message : UsageError → String
  | ambiguous argument names =>
    "ambiguous option: " ++ String.ofList argument ++ " could match " ++
      String.ofList (joinWith ", ".toList names)
  | missingValue flag => "argument " ++ flag.label ++ ": expected one argument"
  | unusedValue flag value =>
    "argument " ++ flag.label ++ ": ignored explicit argument " ++ String.ofList (inQuotes value)
  | missingPaths => "the following arguments are required: paths"
  | unknownCommand name =>
    "argument Command: invalid choice: " ++ String.ofList (inQuotes name) ++ " (choose from " ++
      String.intercalate ", " (Verb.all.map fun verb => "'" ++ verb.name ++ "'") ++ ")"
  | unrecognized arguments =>
    "unrecognized arguments: " ++ String.ofList (joinWith [' '] arguments)

/-- Why the reading of arguments ends early. -/
inductive Stop where
  | help
  | version
  | usage (program : String) (error : UsageError)
  deriving DecidableEq, Repr

/-- An argument that looks like a flag; it may be one that the grammar does not know. A value or
further flags may be attached to it, behind an equals sign or not. -/
structure FlagUse where
  flag : Option Flag
  name : Text
  attached : Option Text
  deriving DecidableEq, Repr

/-- What an argument is. -/
inductive Kind where
  | positional
  | separator
  | flag (use : FlagUse)
  deriving DecidableEq, Repr

/-- The text before and behind the first equals sign. -/
def atEquals? : Text → Option (Text × Text)
  | [] => none
  | c :: t =>
    if c = '=' then some ([], t)
    else (atEquals? t).map fun (name, value) => (c :: name, value)

/-- The uses that a shortened flag or a short flag with its value can be. -/
def candidates (g : Grammar) (argument : Text) : List FlagUse :=
  match argument with
  | '-' :: '-' :: _ =>
    let (start, attached) := match atEquals? argument with
      | some (name, value) => (name, some value)
      | none => (argument, none)
    g.flagNames.filterMap fun (name, flag) =>
      if startsWith start name then some ⟨some flag, name, attached⟩ else none
  | _ =>
    let short := argument.take 2
    g.flagNames.filterMap fun (name, flag) =>
      if name = short then some ⟨some flag, name, some (argument.drop 2)⟩
      else if startsWith argument name then some ⟨some flag, name, none⟩
      else none

/-- Whether a text is a negative number: digits, or digits, a point and digits. -/
def isNegativeNumber (t : Text) : Bool :=
  let isDigit := fun c => (digitValue? c).isSome
  let t := if endsWith ['\n'] t then t.dropLast else t
  match t with
  | '-' :: number =>
    match number.dropWhile isDigit with
    | [] => !number.isEmpty
    | '.' :: decimals => !decimals.isEmpty && decimals.all isDigit
    | _ => false
  | _ => false

/-- What an argument before the separator is. -/
def kind (g : Grammar) (argument : Text) : Except UsageError Kind :=
  match argument with
  | '-' :: _ :: _ =>
    match g.flag? argument with
    | some flag => .ok (.flag ⟨some flag, argument, none⟩)
    | none =>
      let exact := (atEquals? argument).bind fun (name, value) =>
        (g.flag? name).map fun flag => FlagUse.mk (some flag) name (some value)
      match exact, candidates g argument with
      | some use, _ => .ok (.flag use)
      | none, [use] => .ok (.flag use)
      | none, [] =>
        if isNegativeNumber argument || argument.elem ' ' then .ok .positional
        else .ok (.flag ⟨none, argument, none⟩)
      | none, uses => .error (.ambiguous argument (uses.map FlagUse.name))
  | _ => .ok .positional

/-- The arguments with what they are; behind the separator all are positional. -/
def kinds (g : Grammar) : List Text → Except UsageError (List (Text × Kind))
  | [] => .ok []
  | argument :: rest =>
    if argument = ['-', '-'] then
      .ok ((argument, .separator) :: rest.map fun other => (other, .positional))
    else do
      let here ← kind g argument
      let later ← kinds g rest
      return (argument, here) :: later

/-- What has been read so far: flags with their values, the positional arguments once they are
complete, and what is left over. -/
structure Reading where
  flags : List (Flag × Text)
  positional : Option (List Text)
  leftOver : List Text
  deriving DecidableEq, Repr

namespace Reading

/-- Nothing read yet. -/
def start : Reading :=
  ⟨[], none, []⟩

/-- Leaves arguments over. -/
def leave (r : Reading) (arguments : List Text) : Reading :=
  ⟨r.flags, r.positional, r.leftOver ++ arguments⟩

/-- Notes flags; those for help and the version end the reading. -/
def take (r : Reading) : List (Flag × Text) → Except Stop Reading
  | [] => .ok r
  | (.help, _) :: _ => .error .help
  | (.version, _) :: _ => .error .version
  | entry :: rest => take ⟨r.flags ++ [entry], r.positional, r.leftOver⟩ rest

/-- The value of a flag, the last one given. -/
def value? (r : Reading) (flag : Flag) : Option Text :=
  r.flags.reverse.lookup flag

/-- Whether a flag is given. -/
def has (r : Reading) (flag : Flag) : Bool :=
  (r.value? flag).isSome

end Reading

/-- Flags that are written together: those that take no value, and the last one with the value
attached to it. -/
structure Cluster where
  flags : List Flag
  last : Flag
  value : Option Text

/-- Reads what is attached to a short flag that takes no value: further short flags, of which only
the last can take the rest as its value. -/
def clusterFrom (g : Grammar) (flag : Flag) : Text → Except UsageError Cluster
  | [] => .error (.unusedValue flag [])
  | c :: t =>
    match g.flag? ['-', c] with
    | none => .error (.unusedValue flag (c :: t))
    | some next =>
      if t.isEmpty then .ok ⟨[flag], next, none⟩
      else if next.takesValue then .ok ⟨[flag], next, some t⟩
      else do
        let more ← clusterFrom g next t
        return ⟨flag :: more.flags, more.last, more.value⟩

/-- Reads one argument that is a flag of the grammar. -/
def cluster (g : Grammar) (flag : Flag) (use : FlagUse) : Except UsageError Cluster :=
  match use.attached with
  | none => .ok ⟨[], flag, none⟩
  | some value =>
    if flag.takesValue then .ok ⟨[], flag, some value⟩
    else if startsWith ['-', '-'] use.name then .error (.unusedValue flag value)
    else clusterFrom g flag value

/-- The value that is attached to a flag. The separator is no value: it leaves the flag with an
empty list of values. -/
def attachedValue (flag : Flag) (value : Text) : Text :=
  if value = ['-', '-'] then flag.emptyValue else value

/-- The number of arguments that the positional ones take from here on. -/
def positionalCount (p : Positional) (arguments : List (Text × Kind)) : Nat :=
  let isSeparator := fun (a : Text × Kind) => a.2 = .separator
  let lead := (arguments.takeWhile isSeparator).length
  match p, arguments.drop lead with
  | .command, (_, .positional) :: rest => lead + 1 + rest.length
  | .paths, (_, .positional) :: rest =>
    lead + 1 + (rest.takeWhile fun a => a.2 = .positional ∨ a.2 = .separator).length
  | .optionalPath, (_, .positional) :: rest => lead + 1 + (rest.takeWhile isSeparator).length
  | .optionalPath, _ => lead
  | _, _ => 0

/-- The values of positional arguments: the separator is none of them, unless it stands where a
command should. -/
def positionalValues (p : Positional) (arguments : List Text) : List Text :=
  match p with
  | .command => arguments
  | _ => arguments.erase ['-', '-']

/-- Takes the positional arguments if they begin here; gives the number that was taken. -/
def takePositional (g : Grammar) (r : Reading) (arguments : List (Text × Kind)) : Reading × Nat :=
  match r.positional with
  | some _ => (r, 0)
  | none =>
    let count := positionalCount g.positional arguments
    if count = 0 then (r, 0)
    else
      let values := positionalValues g.positional ((arguments.take count).map Prod.fst)
      (⟨r.flags, some values, r.leftOver⟩, count)

/-- Takes a flag, which is the argument `name`, and its value; gives the number of arguments behind
it that were taken. -/
def takeFlag (g : Grammar) (r : Reading) (argument : Text) (use : FlagUse)
    (rest : List (Text × Kind)) : Except Stop (Reading × Nat) :=
  match use.flag with
  | none => .ok (r.leave [argument], 0)
  | some flag =>
    match cluster g flag use with
    | .error e => .error (.usage g.program e)
    | .ok found =>
      let plain := found.flags.map fun flag => (flag, [])
      match found.value with
      | some value =>
        (r.take (plain ++ [(found.last, attachedValue found.last value)])).map fun r => (r, 0)
      | none =>
        if found.last.takesValue then
          match rest with
          | (value, .positional) :: _ =>
            (r.take (plain ++ [(found.last, value)])).map fun r => (r, 1)
          | _ => .error (.usage g.program (.missingValue found.last))
        else (r.take (plain ++ [(found.last, [])])).map fun r => (r, 0)

/-- Whether an argument is a flag. -/
def isFlag (a : Text × Kind) : Bool :=
  match a.2 with
  | .flag _ => true
  | _ => false

/-- Reads arguments from the left. Each round takes at least one of them, so there are at most
`rounds` rounds. -/
def readFrom (g : Grammar) : Nat → Reading → List (Text × Kind) → Except Stop Reading
  | 0, r, _ => .ok r
  | rounds + 1, r, arguments =>
    if arguments.any isFlag then
      let (taken, count) := takePositional g r arguments
      let before := arguments.takeWhile fun a => !isFlag a
      if before.isEmpty || count = 0 then
        let r := r.leave (before.map Prod.fst)
        match arguments.drop before.length with
        | (argument, .flag use) :: rest => do
          let (r, count) ← takeFlag g r argument use rest
          readFrom g rounds r (rest.drop count)
        | _ => .ok r
      else readFrom g rounds taken (arguments.drop count)
    else
      let (r, count) := takePositional g r arguments
      .ok (r.leave ((arguments.drop count).map Prod.fst))

/-- Reads the arguments of a grammar. -/
def read (g : Grammar) (arguments : List Text) : Except Stop Reading := do
  match kinds g arguments with
  | .error e => .error (.usage g.program e)
  | .ok told =>
    let r ← readFrom g (told.length + 1) Reading.start told
    if g.positional = .paths ∧ r.positional.isNone then .error (.usage g.program .missingPaths)
    else return r

/-- What a run is asked to do. -/
structure Options where
  verb : Verb
  paths : List Text
  config : Text
  ext : Text
  isVerbose : Bool
  isRehearsal : Bool
  showsDiff : Bool
  deriving DecidableEq, Repr

/-- What the arguments of the program ask for. -/
inductive Request where
  | help
  | version
  | usage (program : String) (error : UsageError)
  /-- No command is given. -/
  | nothing
  | run (options : Options)
  deriving DecidableEq, Repr

/-- The extension of scripts. -/
def defaultExt : Text :=
  ".sh".toList

/-- The options of a command; those given behind it count before those given in front of it. -/
def optionsOf (verb : Verb) (outer inner : Reading) : Options :=
  let value := fun flag other => ((inner.value? flag).or (outer.value? flag)).getD other
  let values := inner.positional.getD []
  let paths := if verb = .init ∧ values.isEmpty then [Settings.fileName] else values
  ⟨verb, paths, value .config Settings.fileName, value .ext defaultExt,
    inner.has .verbose || outer.has .verbose, inner.has .dryRun, inner.has .diff⟩

/-- Reads the arguments of the program. -/
def request (arguments : List Text) : Request :=
  let result : Except Stop Request := do
    let outer ← read Grammar.top arguments
    match outer.positional with
    | none =>
      if outer.leftOver.isEmpty then return .nothing
      else .error (.usage Grammar.programName (.unrecognized outer.leftOver))
    | some values =>
      let name := values.head?.getD []
      match Verb.ofName? name with
      | none => .error (.usage Grammar.programName (.unknownCommand name))
      | some verb =>
        let inner ← read (Grammar.ofVerb verb) values.tail
        let leftOver := outer.leftOver ++ inner.leftOver
        if leftOver.isEmpty then return .run (optionsOf verb outer inner)
        else .error (.usage Grammar.programName (.unrecognized leftOver))
  match result with
  | .ok request => request
  | .error .help => .help
  | .error .version => .version
  | .error (.usage program e) => .usage program e

end ShellStyle.Command
