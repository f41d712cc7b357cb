import ShellStyle.Proofs.Showable
import ShellStyle.Settings.Resolve

/-!
# Configurations that are resolved

Resolving a configuration gets over everything but two kinds of values: an infinite number for a
knob that is a number, and what cannot be shown where it is read as text or logged, because values
are nested too deep in it or an integer in it has too many digits. Each entry is got over or stops
the resolution on its own, whatever stands before it, and what it sets depends on the entry alone.
In the settings that are returned every knob has a value of its kind, because the defaults are such
and only such values take their places.
-/

namespace ShellStyle

/-! ## Tables -/

namespace Table

variable {α : Type} {name other : String} {value : α}

/-- A name has the value that it was given last. -/
theorem get?_set_self (table : Table α) (name : String) (value : α) :
    (table.set name value).get? name = some value := by
  induction table with
  | nil => simp [set, get?]
  | cons entry table ih =>
    obtain ⟨key, old⟩ := entry
    rw [get?] at ih ⊢
    rw [set]
    split
    · next hkey => simp [hkey]
    · next hkey =>
      have hne : (name == key) = false := beq_eq_false_iff_ne.mpr (Ne.symm hkey)
      rw [List.lookup_cons, hne, ih]

/-- Giving one name a value leaves the others alone. -/
theorem get?_set_of_ne (table : Table α) (h : other ≠ name) (value : α) :
    (table.set name value).get? other = table.get? other := by
  have hne : (other == name) = false := beq_eq_false_iff_ne.mpr h
  induction table with
  | nil => simp [set, get?, h]
  | cons entry table ih =>
    obtain ⟨key, old⟩ := entry
    rw [get?, get?] at ih ⊢
    rw [set]
    split
    · next hkey =>
      subst hkey
      rw [List.lookup_cons, List.lookup_cons, hne]
    · rw [List.lookup_cons, List.lookup_cons, ih]

/-- Gives each name of a list its value, in order. -/
def setAll (table : Table α) (entries : List (String × α)) : Table α :=
  entries.foldl (fun table entry => table.set entry.1 entry.2) table

@[simp] theorem setAll_nil (table : Table α) : table.setAll [] = table :=
  rfl

@[simp] theorem setAll_cons (table : Table α) (entry : String × α) (entries : List (String × α)) :
    table.setAll (entry :: entries) = (table.set entry.1 entry.2).setAll entries :=
  rfl

/-- What the first element of a list sets is set before the rest. -/
theorem setAll_filterMap_cons {β : Type} (table : Table α) (f : β → Option (String × α)) (b : β)
    (l : List β) :
    table.setAll ((b :: l).filterMap f) = (table.setAll (f b).toList).setAll (l.filterMap f) := by
  rw [List.filterMap_cons]
  cases f b <;> rfl

end Table

/-! ## Values of knobs -/

namespace Knob

/-- Whether a knob is on or off. -/
def isSwitch : Knob → Bool
  | maxLineLength => false
  | indentSize => false
  | _ => true

/-- No two knobs have the same name. -/
theorem name_injective {knob other : Knob} (h : knob.name = other.name) : knob = other := by
  revert h
  cases knob <;> cases other <;> decide

theorem default_of_isSwitch {knob : Knob} (h : knob.isSwitch = true) :
    knob.default = .bool true := by
  cases knob <;> simp [isSwitch, default] at h ⊢

/-- A knob that is no switch has a number as its default. -/
theorem default_of_not_isSwitch {knob : Knob} (h : knob.isSwitch = false) :
    ∃ n, knob.default = .int n := by
  cases knob <;> simp [isSwitch, default] at h ⊢

/-- Whether a value is one that the knob holds: a truth value for a switch, else a positive
number. -/
def Holds (knob : Knob) (v : Value) : Prop :=
  if knob.isSwitch then ∃ b, v = .bool b else ∃ n, 0 < n ∧ v = .int n

/-- Every knob holds its own default. -/
theorem holds_default (knob : Knob) : knob.Holds knob.default := by
  cases knob with
  | maxLineLength => exact ⟨100, by decide, rfl⟩
  | indentSize => exact ⟨2, by decide, rfl⟩
  | _ => exact ⟨true, rfl⟩

/-- Whether resolution gets over a value of a knob. A switch takes a truth value, reads what can be
shown, and shows what is no word for on or off in a warning. A number is not infinite, and is
positive or shown in a warning. -/
def GetsOver [Machine] (knob : Knob) (v : Value) : Prop :=
  if knob.isSwitch then
    (∃ b, v = .bool b) ∨ v.IsShowable .switch ∧
      ((Settings.switchWord? v.display).isSome = true ∨ v.IsShowable .refusedKnob)
  else
    (∀ negative, v ≠ .float (.infinite negative)) ∧
      ((∃ n, 0 < n ∧ v.toInt = .ok n) ∨ v.IsShowable .refusedKnob)

end Knob

namespace Settings

variable {knob : Knob} {v : Value}

/-- Only an infinite number is refused for being infinite. -/
theorem toInt_eq_infiniteNumber_iff :
    v.toInt = .error .infiniteNumber ↔ ∃ negative, v = .float (.infinite negative) := by
  cases v with
  | float x => cases x <;> simp [Value.toInt]
  | text s =>
    simp only [Value.toInt]
    split <;> simp
  | _ => simp [Value.toInt]

/-- A switch reads what it is given as text, unless it is a truth value. -/
theorem knobValue_of_isSwitch [Machine] (hswitch : knob.isSwitch = true) (hv : ∀ b, v ≠ .bool b) :
    knobValue knob v = (v.shown .switch).map fun shown => (switchWord? shown).map Value.bool := by
  unfold knobValue
  rw [Knob.default_of_isSwitch hswitch]
  cases v with
  | bool b => exact absurd rfl (hv b)
  | _ =>
    generalize Value.shown _ _ = shown
    cases shown <;> rfl

/-- A number is made an integer, and taken if it is positive. -/
theorem knobValue_of_not_isSwitch [Machine] (hswitch : knob.isSwitch = false) :
    (v.toInt = .error .infiniteNumber ∧ knobValue knob v = .error .infiniteNumber) ∨
      (∃ n, 0 < n ∧ v.toInt = .ok n ∧ knobValue knob v = .ok (some (.int n))) ∨
      (∀ n, 0 < n → v.toInt ≠ .ok n) ∧ v.toInt ≠ .error .infiniteNumber ∧
        knobValue knob v = .ok none := by
  obtain ⟨n, hdefault⟩ := Knob.default_of_not_isSwitch hswitch
  unfold knobValue
  rw [hdefault]
  dsimp only
  split
  · next m hm =>
    by_cases hpos : 0 < m
    · exact .inr (.inl ⟨m, hpos, hm, by rw [if_pos hpos]⟩)
    · refine .inr (.inr ⟨?_, by simp [hm], by rw [if_neg hpos]⟩)
      intro m' hpos' heq
      obtain rfl : m = m' := Except.ok.inj (hm.symm.trans heq)
      exact hpos hpos'
  · next hinfinite => exact .inl ⟨hinfinite, rfl⟩
  · next e hinfinite herror =>
    refine .inr (.inr ⟨by simp [herror], ?_, rfl⟩)
    intro heq
    exact hinfinite (Except.error.inj (herror.symm.trans heq))

/-- A value that resolution gets over is taken, or can be shown in the warning that it is not. -/
theorem knobValue_of_getsOver [Machine] (h : knob.GetsOver v) :
    (∃ value, knobValue knob v = .ok (some value)) ∨
      v.IsShowable .refusedKnob ∧ knobValue knob v = .ok none := by
  unfold Knob.GetsOver at h
  cases hswitch : knob.isSwitch with
  | true =>
    rw [hswitch, if_pos rfl] at h
    -- a truth value is taken as it is, and never shown
    by_cases hbool : ∃ b, v = .bool b
    · obtain ⟨b, rfl⟩ := hbool
      refine .inl ⟨.bool b, ?_⟩
      unfold knobValue
      rw [Knob.default_of_isSwitch hswitch]
    · obtain ⟨hread, hshow⟩ := h.resolve_left hbool
      rw [knobValue_of_isSwitch hswitch fun b heq => hbool ⟨b, heq⟩, Value.shown_eq_ok hread]
      cases hword : switchWord? v.display with
      | none => exact .inr ⟨hshow.resolve_left (by simp [hword]), by simp [Except.map, hword]⟩
      | some b => exact .inl ⟨.bool b, by simp [Except.map, hword]⟩
  | false =>
    rw [hswitch, if_neg Bool.false_ne_true] at h
    rcases knobValue_of_not_isSwitch (v := v) hswitch with
      ⟨hinfinite, -⟩ | ⟨n, -, -, hok⟩ | ⟨hnot, -, hnone⟩
    · obtain ⟨negative, rfl⟩ := toInt_eq_infiniteNumber_iff.mp hinfinite
      exact absurd rfl (h.1 negative)
    · exact .inl ⟨.int n, hok⟩
    · refine .inr ⟨h.2.resolve_left ?_, hnone⟩
      rintro ⟨n, hpos, hn⟩
      exact hnot n hpos hn

/-- Any other value is an error, or cannot be shown in the warning that it is not taken. -/
theorem knobValue_of_not_getsOver [Machine] (h : ¬ knob.GetsOver v) :
    (∃ e, knobValue knob v = .error e) ∨
      ¬ v.IsShowable .refusedKnob ∧ knobValue knob v = .ok none := by
  unfold Knob.GetsOver at h
  cases hswitch : knob.isSwitch with
  | true =>
    rw [hswitch, if_pos rfl, not_or] at h
    obtain ⟨hbool, hshow⟩ := h
    rw [knobValue_of_isSwitch hswitch fun b heq => hbool ⟨b, heq⟩]
    by_cases hread : v.IsShowable .switch
    · have hrefused := fun hword => hshow ⟨hread, hword⟩
      rw [Value.shown_eq_ok hread]
      cases hword : switchWord? v.display with
      | none => exact .inr ⟨fun hshow => hrefused (.inr hshow), by simp [Except.map, hword]⟩
      | some b => exact absurd (.inl (by simp [hword])) hrefused
    · obtain ⟨e, he, -⟩ := Value.shown_eq_error hread
      rw [he]
      exact .inl ⟨e, rfl⟩
  | false =>
    rw [hswitch, if_neg Bool.false_ne_true] at h
    -- only an infinite number stops the reading; what else is no positive number is refused
    rcases knobValue_of_not_isSwitch (v := v) hswitch with
      ⟨-, herror⟩ | ⟨n, hpos, hn, -⟩ | ⟨-, hfinite, hnone⟩
    · exact .inl ⟨_, herror⟩
    · refine absurd ⟨?_, .inl ⟨n, hpos, hn⟩⟩ h
      rintro negative rfl
      cases hn
    · refine .inr ⟨fun hshow => h ⟨?_, .inr hshow⟩, hnone⟩
      intro negative heq
      exact hfinite (toInt_eq_infiniteNumber_iff.mpr ⟨negative, heq⟩)

/-! ## Resolution -/

/-- Whether resolution gets over an entry for the knobs: the value of a knob, or a name that can be
logged. -/
def IsUsableRule [Machine] (entry : Value × Value) : Prop :=
  (knobOf? entry.1).elim (entry.1.IsShowable .knobName) fun knob => knob.GetsOver entry.2

/-- Whether resolution gets over an entry for the severities: a severity for a rule whose name can
be shown, or a value that can be shown, is no severity, and can be shown with its rule in a
warning. -/
def IsUsableSeverity [Machine] (entry : Value × Value) : Prop :=
  entry.2.IsShowable .severity ∧
    if (Severity.read entry.2).isOk then entry.1.IsShowable .ruleName
    else entry.2.IsShowable .refusedSeverity ∧ entry.1.IsShowable .refusedSeverity

/-- What an entry for the knobs sets, if it names a knob that takes its value. -/
def ruleSetting? [Machine] (entry : Value × Value) : Option (String × Value) :=
  (knobOf? entry.1).bind fun knob =>
    (knobValue knob entry.2).toOption.join.map fun value => (knob.name, value)

/-- What an entry for the severities sets, if its value is a severity. -/
def severitySetting? [Machine] (entry : Value × Value) : Option (String × Severity) :=
  (Severity.read entry.2).toOption.map fun level => (entry.1.displayKey, level)

/-- An entry sets a knob that it names if the knob takes its value. -/
theorem ruleSetting?_eq_some [Machine] {entry : Value × Value} {name : String} {value : Value} :
    ruleSetting? entry = some (name, value) ↔
      ∃ knob, knobOf? entry.1 = some knob ∧ knobValue knob entry.2 = .ok (some value) ∧
        knob.name = name := by
  rw [ruleSetting?, Option.bind_eq_some_iff]
  refine exists_congr fun knob => and_congr_right fun _ => ?_
  cases knobValue knob entry.2 with
  | error e => simp [Except.toOption]
  | ok taken => simp [Except.toOption]

/-- What a knob takes from a configuration is a value that it holds. -/
theorem holds_of_knobValue [Machine] {value : Value} (h : knobValue knob v = .ok (some value)) :
    knob.Holds value := by
  unfold Knob.Holds
  cases hswitch : knob.isSwitch with
  | true =>
    rw [if_pos rfl]
    by_cases hbool : ∃ b, v = .bool b
    · obtain ⟨b, rfl⟩ := hbool
      unfold knobValue at h
      rw [Knob.default_of_isSwitch hswitch] at h
      exact ⟨b, by simpa using h.symm⟩
    · rw [knobValue_of_isSwitch hswitch fun b heq => hbool ⟨b, heq⟩] at h
      cases hshown : v.shown .switch with
      | error e => simp [hshown, Except.map] at h
      | ok shown =>
        obtain ⟨b, -, hb⟩ : ∃ b, switchWord? shown = some b ∧ Value.bool b = value := by
          simpa [hshown, Except.map] using h
        exact ⟨b, hb.symm⟩
  | false =>
    rw [if_neg Bool.false_ne_true]
    rcases knobValue_of_not_isSwitch (v := v) hswitch with ⟨-, herror⟩ | ⟨n, hpos, -, hok⟩
      | ⟨-, -, hnone⟩
    · simp [herror] at h
    · exact ⟨n, hpos, by simpa [hok] using h.symm⟩
    · simp [hnone] at h

/-- Tables in which every knob has a value that it holds. -/
def IsFilled (rules : Table Value) : Prop :=
  ∀ knob : Knob, ∃ value, rules.get? knob.name = some value ∧ knob.Holds value

/-- The defaults give every knob a value that it holds. -/
theorem isFilled_defaultRules : IsFilled defaultRules := by
  intro knob
  refine ⟨knob.default, ?_, knob.holds_default⟩
  cases knob <;> rfl

/-- A value that a knob holds may take the place of another. -/
theorem IsFilled.set {rules : Table Value} (h : IsFilled rules) {value : Value}
    (hvalue : knob.Holds value) :
    IsFilled (rules.set knob.name value) := by
  intro other
  by_cases heq : other = knob
  · subst heq
    exact ⟨value, rules.get?_set_self _ _, hvalue⟩
  · rw [rules.get?_set_of_ne fun hname => heq (Knob.name_injective hname)]
    exact h other

/-- The entries of a configuration leave no knob without a value that it holds. -/
theorem IsFilled.setAll [Machine] {rules : Table Value} (h : IsFilled rules)
    (entries : List (Value × Value)) :
    IsFilled (rules.setAll (entries.filterMap ruleSetting?)) := by
  induction entries generalizing rules with
  | nil => exact h
  | cons entry entries ih =>
    rw [Table.setAll_filterMap_cons]
    cases hsetting : ruleSetting? entry with
    | none => exact ih h
    | some setting =>
      obtain ⟨knob, -, htaken, hname⟩ := ruleSetting?_eq_some.mp hsetting
      rw [Option.toList_some, Table.setAll_cons, Table.setAll_nil, ← hname]
      exact ih (h.set (holds_of_knobValue htaken))

section

variable {entry : Value × Value}

/-- An entry that resolution gets over sets what it sets, and may be logged. -/
theorem run_resolveRules_cons [Machine] (h : IsUsableRule entry) (rules : Table Value)
    (rest : List (Value × Value)) (log : List LogEntry) :
    ∃ log', (resolveRules rules (entry :: rest)).run.run log =
      (resolveRules (rules.setAll (ruleSetting? entry).toList) rest).run.run log' := by
  obtain ⟨key, v⟩ := entry
  rw [IsUsableRule] at h
  rw [resolveRules, ruleSetting?]
  cases hknob : knobOf? key with
  | none =>
    rw [hknob] at h
    dsimp only at h ⊢
    rw [Value.shownKey_eq_ok h]
    exact ⟨_, rfl⟩
  | some knob =>
    rw [hknob] at h
    rw [Option.bind_some]
    dsimp only
    rcases knobValue_of_getsOver h with ⟨value, hvalue⟩ | ⟨hshow, hnone⟩
    · rw [hvalue]
      exact ⟨log, rfl⟩
    · rw [hnone]
      dsimp only
      rw [Value.shown_eq_ok hshow]
      exact ⟨_, rfl⟩

/-- Any other entry stops resolution. -/
theorem run_resolveRules_error [Machine] (h : ¬ IsUsableRule entry) (rules : Table Value)
    (rest : List (Value × Value)) (log : List LogEntry) :
    ∃ e, (resolveRules rules (entry :: rest)).run.run log = (.error e, log) := by
  obtain ⟨key, v⟩ := entry
  rw [IsUsableRule] at h
  rw [resolveRules]
  cases hknob : knobOf? key with
  | none =>
    rw [hknob] at h
    dsimp only at h ⊢
    obtain ⟨e, he, -⟩ := Value.shownKey_eq_error h
    rw [he]
    exact ⟨e, rfl⟩
  | some knob =>
    rw [hknob] at h
    dsimp only
    rcases knobValue_of_not_getsOver h with ⟨e, herror⟩ | ⟨hshow, hnone⟩
    · rw [herror]
      exact ⟨e, rfl⟩
    · rw [hnone]
      dsimp only
      obtain ⟨e, he, -⟩ := Value.shown_eq_error hshow
      rw [he]
      exact ⟨e, rfl⟩

end

/-- All knobs are set exactly if resolution gets over every entry. -/
theorem run_resolveRules [Machine] (entries : List (Value × Value)) (rules : Table Value)
    (log : List LogEntry) :
    ((∀ entry ∈ entries, IsUsableRule entry) ∧ ∃ log',
        (resolveRules rules entries).run.run log =
          (.ok (rules.setAll (entries.filterMap ruleSetting?)), log')) ∨
      ¬ (∀ entry ∈ entries, IsUsableRule entry) ∧
        ∃ e log', (resolveRules rules entries).run.run log = (.error e, log') := by
  induction entries generalizing rules log with
  | nil => exact .inl ⟨by simp, log, rfl⟩
  | cons entry rest ih =>
    rw [List.forall_mem_cons]
    by_cases h : IsUsableRule entry
    · obtain ⟨log', hrun⟩ := run_resolveRules_cons h rules rest log
      rw [hrun, Table.setAll_filterMap_cons]
      rcases ih (rules.setAll (ruleSetting? entry).toList) log' with ⟨hrest, hok⟩ | ⟨hrest, herror⟩
      · exact .inl ⟨⟨h, hrest⟩, hok⟩
      · exact .inr ⟨fun hall => hrest hall.2, herror⟩
    · obtain ⟨e, hrun⟩ := run_resolveRules_error h rules rest log
      exact .inr ⟨fun hall => h hall.1, e, log, hrun⟩

/-- The severity of an entry is read, if its value names one and its rule can be shown. -/
theorem ruleSeverity_of_read [Machine] {key v : Value} {level : Severity}
    (hread : Severity.read v = .ok level) (hkey : key.IsShowable .ruleName) :
    ruleSeverity key v = .ok (key.displayKey, level) := by
  rw [ruleSeverity, hread, Value.shownKey_eq_ok hkey]
  rfl

/-- A value that can be shown is a severity or has no name of one. -/
theorem read_of_isShowable [Machine] {v : Value} (h : v.IsShowable .severity) :
    (∃ level, Severity.read v = .ok level) ∨
      ∃ word, Severity.read v = .error (.unknownSeverity word) := by
  rw [Severity.read, Value.shown_eq_ok h]
  simp only [bind, Except.bind]
  split
  · exact .inl ⟨_, rfl⟩
  split
  · exact .inl ⟨_, rfl⟩
  split
  · exact .inl ⟨_, rfl⟩
  · exact .inr ⟨_, rfl⟩

/-- A rule and its value that can both be shown are warned of. -/
theorem run_refuseSeverity_ok [Machine] {key v : Value} (hv : v.IsShowable .refusedSeverity)
    (hkey : key.IsShowable .refusedSeverity) (log : List LogEntry) :
    ∃ log', (refuseSeverity key v).run.run log = (.ok (), log') := by
  rw [refuseSeverity, Value.shown_eq_ok hv, Value.shownKey_eq_ok hkey]
  exact ⟨_, rfl⟩

/-- If one of the two cannot be shown, the warning fails. -/
theorem run_refuseSeverity_error [Machine] {key v : Value}
    (h : ¬ (v.IsShowable .refusedSeverity ∧ key.IsShowable .refusedSeverity))
    (log : List LogEntry) : ∃ e, (refuseSeverity key v).run.run log = (.error e, log) := by
  rw [refuseSeverity]
  by_cases hv : v.IsShowable .refusedSeverity
  · obtain ⟨e, he, -⟩ := Value.shownKey_eq_error fun hkey => h ⟨hv, hkey⟩
    rw [Value.shown_eq_ok hv, he]
    exact ⟨e, rfl⟩
  · obtain ⟨e, he, -⟩ := Value.shown_eq_error hv
    rw [he]
    exact ⟨e, rfl⟩

/-- An entry that resolution gets over sets what it sets, and may be logged. -/
theorem run_resolveSeverity_cons [Machine] {entry : Value × Value} (h : IsUsableSeverity entry)
    (severity : Table Severity) (rest : List (Value × Value)) (log : List LogEntry) :
    ∃ log', (resolveSeverity severity (entry :: rest)).run.run log =
      (resolveSeverity (severity.setAll (severitySetting? entry).toList) rest).run.run log' := by
  obtain ⟨key, v⟩ := entry
  obtain ⟨hshown, husable⟩ := h
  rw [resolveSeverity, severitySetting?]
  rcases read_of_isShowable hshown with ⟨level, hread⟩ | ⟨word, hread⟩
  · rw [hread] at husable
    rw [ruleSeverity_of_read hread husable, hread]
    exact ⟨log, rfl⟩
  · rw [hread] at husable
    obtain ⟨log', hwarned⟩ := run_refuseSeverity_ok husable.1 husable.2 log
    rw [ruleSeverity, hread]
    exact ⟨log', run_bind_ok hwarned _⟩

/-- A severity that cannot be read stops resolution, if it is nested too deep or cannot be warned
of. -/
theorem run_resolveSeverity_of_error [Machine] {key v : Value} {e : StyleError}
    (h : ruleSeverity key v = .error e)
    (hcause : e = .tooDeep ∨ ¬ (v.IsShowable .refusedSeverity ∧ key.IsShowable .refusedSeverity))
    (severity : Table Severity) (rest : List (Value × Value)) (log : List LogEntry) :
    ∃ e', (resolveSeverity severity ((key, v) :: rest)).run.run log = (.error e', log) := by
  rw [resolveSeverity, h]
  by_cases hdeep : e = .tooDeep
  · subst hdeep
    exact ⟨.tooDeep, rfl⟩
  · obtain ⟨e', hwarned⟩ := run_refuseSeverity_error (hcause.resolve_left hdeep) log
    split
    · next heq => cases heq
    · next heq => exact absurd (Except.error.inj heq) hdeep
    · exact ⟨e', run_bind_error hwarned _⟩

/-- Any other entry stops resolution. -/
theorem run_resolveSeverity_error [Machine] {entry : Value × Value} (h : ¬ IsUsableSeverity entry)
    (severity : Table Severity) (rest : List (Value × Value)) (log : List LogEntry) :
    ∃ e, (resolveSeverity severity (entry :: rest)).run.run log = (.error e, log) := by
  obtain ⟨key, v⟩ := entry
  by_cases hshown : v.IsShowable .severity
  · have husable := fun husable => h ⟨hshown, husable⟩
    rcases read_of_isShowable hshown with ⟨level, hread⟩ | ⟨word, hread⟩
    · rw [hread] at husable
      obtain ⟨e, he, hcause⟩ := Value.shownKey_eq_error husable
      apply run_resolveSeverity_of_error (e := e)
      · rw [ruleSeverity, hread, he]
        rfl
      · exact hcause.imp_right fun hnever hboth => hnever _ hboth.2
    · rw [hread] at husable
      apply run_resolveSeverity_of_error (e := .unknownSeverity word)
      · rw [ruleSeverity, hread]
        rfl
      · exact .inr husable
  · obtain ⟨e, he, hcause⟩ := Value.shown_eq_error hshown
    apply run_resolveSeverity_of_error (e := e)
    · rw [ruleSeverity, Severity.read, he]
      rfl
    · exact hcause.imp_right fun hnever hboth => hnever _ hboth.1

/-- All severities are set exactly if resolution gets over every entry. -/
theorem run_resolveSeverity [Machine] (entries : List (Value × Value)) (severity : Table Severity)
    (log : List LogEntry) :
    ((∀ entry ∈ entries, IsUsableSeverity entry) ∧
        ∃ log', (resolveSeverity severity entries).run.run log =
        (.ok (severity.setAll (entries.filterMap severitySetting?)), log')) ∨
      ¬ (∀ entry ∈ entries, IsUsableSeverity entry) ∧
        ∃ e log', (resolveSeverity severity entries).run.run log = (.error e, log') := by
  induction entries generalizing severity log with
  | nil => exact .inl ⟨by simp, log, rfl⟩
  | cons entry rest ih =>
    rw [List.forall_mem_cons]
    by_cases h : IsUsableSeverity entry
    · obtain ⟨log', hrun⟩ := run_resolveSeverity_cons h severity rest log
      rw [hrun, Table.setAll_filterMap_cons]
      rcases ih (severity.setAll (severitySetting? entry).toList) log' with ⟨hrest, hok⟩
        | ⟨hrest, herror⟩
      · exact .inl ⟨⟨h, hrest⟩, hok⟩
      · exact .inr ⟨fun hall => hrest hall.2, herror⟩
    · obtain ⟨e, hrun⟩ := run_resolveSeverity_error h severity rest log
      exact .inr ⟨fun hall => h hall.1, e, log, hrun⟩

/-- The default tables with everything set that a configuration sets. -/
def resolved [Machine] (data : Value) : Settings :=
  ⟨defaultRules.setAll ((sectionEntries "rules" data).filterMap ruleSetting?),
    defaultSeverity.setAll ((sectionEntries "severity" data).filterMap severitySetting?)⟩

/-- Resolution returns exactly if it gets over every entry. -/
theorem run_resolve_cases [Machine] (data : Value) (log : List LogEntry) :
    (((∀ entry ∈ sectionEntries "rules" data, IsUsableRule entry) ∧
        ∀ entry ∈ sectionEntries "severity" data, IsUsableSeverity entry) ∧
      ∃ log', (resolve data).run.run log = (.ok (resolved data), log')) ∨
    ¬ ((∀ entry ∈ sectionEntries "rules" data, IsUsableRule entry) ∧
        ∀ entry ∈ sectionEntries "severity" data, IsUsableSeverity entry) ∧
      ∃ e log', (resolve data).run.run log = (.error e, log') := by
  rw [resolve]
  rcases run_resolveRules (sectionEntries "rules" data) defaultRules log with
    ⟨hrules, log', hrun⟩ | ⟨hrules, e, log', hrun⟩
  · rw [run_bind_ok hrun]
    rcases run_resolveSeverity (sectionEntries "severity" data) defaultSeverity log' with
      ⟨hseverity, log'', hrun'⟩ | ⟨hseverity, e, log'', hrun'⟩
    · rw [run_bind_ok hrun']
      exact .inl ⟨⟨hrules, hseverity⟩, log'', rfl⟩
    · rw [run_bind_error hrun']
      exact .inr ⟨fun h => hseverity h.2, e, log'', rfl⟩
  · rw [run_bind_error hrun]
    exact .inr ⟨fun h => hrules h.1, e, log', rfl⟩

/-- Resolution returns exactly if it gets over every entry, and then every knob has a value that it
holds. -/
theorem run_resolve [Machine] (data : Value) (log : List LogEntry) :
    (((∀ entry ∈ sectionEntries "rules" data, IsUsableRule entry) ∧
        ∀ entry ∈ sectionEntries "severity" data, IsUsableSeverity entry) ∧
      ∃ s log', IsFilled s.rules ∧ (resolve data).run.run log = (.ok s, log')) ∨
    ¬ ((∀ entry ∈ sectionEntries "rules" data, IsUsableRule entry) ∧
        ∀ entry ∈ sectionEntries "severity" data, IsUsableSeverity entry) ∧
      ∃ e log', (resolve data).run.run log = (.error e, log') := by
  refine (run_resolve_cases data log).imp_left fun ⟨husable, log', hrun⟩ => ?_
  exact ⟨husable, resolved data, log', isFilled_defaultRules.setAll _, hrun⟩

end Settings

end ShellStyle
