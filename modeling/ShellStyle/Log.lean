/-!
# Log entries

The tool reports what it does in log entries of four levels, each from one of its parts.
-/

namespace ShellStyle

/-- How much an entry matters. -/
inductive LogLevel where
  | debug
  | info
  | warning
  | error
  deriving DecidableEq, Repr

namespace LogLevel

/-- The name of a level. -/
def name : LogLevel → String
  | debug => "DEBUG"
  | info => "INFO"
  | warning => "WARNING"
  | error => "ERROR"

/-- Levels in order of weight. -/
def rank : LogLevel → Nat
  | debug => 0
  | info => 1
  | warning => 2
  | error => 3

end LogLevel

/-- The part of the tool that speaks. -/
inductive LogSource where
  | config
  | engine
  | validator
  deriving DecidableEq, Repr

/-- The name of a part in the log. -/
def LogSource.name : LogSource → String
  | .config => "cleansh.config"
  | .engine => "cleansh.engine"
  | .validator => "cleansh.validator"

/-- One entry of the log. -/
structure LogEntry where
  level : LogLevel
  source : LogSource
  message : String
  deriving DecidableEq, Repr

/-- An entry as one line. -/
def LogEntry.line (e : LogEntry) : String :=
  e.level.name ++ ":" ++ e.source.name ++ ":" ++ e.message

/-- A computation that can fail with `ε` and writes a log, which a failure keeps. -/
abbrev Logged (ε α : Type) :=
  ExceptT ε (StateM (List LogEntry)) α

/-- Adds an entry to the log. -/
def Logged.write {ε : Type} (level : LogLevel) (source : LogSource) (message : String) :
    Logged ε Unit :=
  modify fun log => log ++ [⟨level, source, message⟩]

section

variable {ε σ α β : Type} {x : ExceptT ε (StateM σ) α} {s s' : σ}

/-- What follows a computation that returns starts from the state it leaves. -/
theorem run_bind_ok {a : α} (h : x.run.run s = (.ok a, s')) (f : α → ExceptT ε (StateM σ) β) :
    (x >>= f).run.run s = (f a).run.run s' := by
  rw [ExceptT.run_bind, StateT.run_bind, h]
  rfl

/-- What follows a computation that fails is left out. -/
theorem run_bind_error {e : ε} (h : x.run.run s = (.error e, s')) (f : α → ExceptT ε (StateM σ) β) :
    (x >>= f).run.run s = (.error e, s') := by
  rw [ExceptT.run_bind, StateT.run_bind, h]
  rfl

end

end ShellStyle
