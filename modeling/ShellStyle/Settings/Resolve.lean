import ShellStyle.Log
import ShellStyle.Settings.Basic

/-!
# Settings from a configuration

A configuration is a mapping with a mapping of knobs and a mapping of severities. Unknown knobs are
passed over, malformed values keep their defaults, and both are logged. There are two kinds of
values that resolution does not get over: an infinite number where an integer is needed, and a value
that cannot be shown where one is read or logged.
-/

namespace ShellStyle

namespace Settings

/-- The words for on and off. -/
def switchWord? (shown : String) : Option Bool :=
  let word := Text.lower (Text.trim shown.toList)
  if ["true".toList, "yes".toList, "on".toList, "1".toList].elem word then some true
  else if ["false".toList, "no".toList, "off".toList, "0".toList].elem word then some false
  else none

/-- The value that a knob takes from a configured value, if it can be used: numbers are positive
integers, switches are truth values or words for them. -/
def knobValue [Machine] (knob : Knob) (v : Value) : Except StyleError (Option Value) :=
  match knob.default with
  | .bool _ =>
    match v with
    | .bool b => .ok (some (.bool b))
    | _ => do
      let shown ← v.shown .switch
      return (switchWord? shown).map Value.bool
  | _ =>
    match v.toInt with
    | .ok n => .ok (if 0 < n then some (.int n) else none)
    | .error .infiniteNumber => .error .infiniteNumber
    | .error _ => .ok none

/-- The knob that a key of a configuration names. -/
def knobOf? : Value → Option Knob
  | .text s => Knob.ofName? s
  | _ => none

/-- Sets the knobs of a configuration, in order. -/
def resolveRules [Machine] (rules : Table Value) :
    List (Value × Value) → Logged StyleError (Table Value)
  | [] => pure rules
  | (key, v) :: rest =>
    match knobOf? key with
    | none => do
      let name ← key.shownKey .knobName
      Logged.write .debug .config ("Ignoring unknown rule knob '" ++ name ++ "'")
      resolveRules rules rest
    | some knob =>
      match knobValue knob v with
      | .error e => throw e
      | .ok (some value) => resolveRules (rules.set knob.name value) rest
      | .ok none => do
        let shown ← v.shown .refusedKnob
        Logged.write .warning .config ("Invalid value '" ++ shown ++ "' for '" ++ knob.name ++
          "', keeping default " ++ knob.default.display)
        resolveRules rules rest

/-- The severity that an entry of a configuration gives a rule, with the name of the rule, which is
what its key is shown as. -/
def ruleSeverity [Machine] (key v : Value) : Except StyleError (String × Severity) := do
  let level ← Severity.read v
  let name ← key.shownKey .ruleName
  return (name, level)

/-- Warns that a value is no severity. -/
def refuseSeverity [Machine] (key v : Value) : Logged StyleError Unit := do
  let shown ← v.shown .refusedSeverity
  let name ← key.shownKey .refusedSeverity
  Logged.write .warning .config ("Invalid severity '" ++ shown ++ "' for rule '" ++ name ++
    "', keeping default")

/-- Sets the severities of a configuration, in order. What is no severity is passed over with a
warning, but for values that are nested too deep. -/
def resolveSeverity [Machine] (severity : Table Severity) :
    List (Value × Value) → Logged StyleError (Table Severity)
  | [] => pure severity
  | (key, v) :: rest =>
    match ruleSeverity key v with
    | .ok (name, level) => resolveSeverity (severity.set name level) rest
    | .error .tooDeep => throw .tooDeep
    | .error _ => do
      refuseSeverity key v
      resolveSeverity severity rest

/-- The entries of a part of a configuration; what is no mapping has none. -/
def sectionEntries (name : String) (data : Value) : List (Value × Value) :=
  match data.get? name with
  | some (.map entries) => entries
  | _ => []

/-- The settings of a configuration. -/
def resolve [Machine] (data : Value) : Logged StyleError Settings := do
  let rules ← resolveRules defaultRules (sectionEntries "rules" data)
  let severity ← resolveSeverity defaultSeverity (sectionEntries "severity" data)
  return ⟨rules, severity⟩

/-- Settings from tables that are taken as they are, but for severities, which are read. -/
def ofTables [Machine] (rules : Table Value) : Table Value → Except StyleError Settings
  | [] => .ok ⟨rules, []⟩
  | (name, v) :: rest => do
    let level ← Severity.read v
    let settings ← ofTables rules rest
    return ⟨settings.rules, (name, level) :: settings.severity⟩

end Settings

end ShellStyle
