import ShellStyle.Proofs.Resolution

/-!
# Resolved settings

Resolution starts from the default tables and sets what the entries of a configuration set. The
table of rules keeps the names of the knobs, each with a value that its knob holds, and the table of
severities keeps the documented rules. Such settings can be written down as a configuration again:
every knob takes the value that it holds, every severity is read back from its name, and so
resolving that configuration gives the same settings and logs nothing.
-/

namespace ShellStyle

/-! ## Names in tables -/

namespace Table

variable {α : Type} {table : Table α} {name : String}

/-- The names in a table, in order. -/
def names (table : Table α) : List String :=
  table.map Prod.fst

@[simp] theorem names_cons (entry : String × α) (table : Table α) :
    names (entry :: table) = entry.1 :: names table :=
  rfl

theorem set_append (h : name ∉ table.names) (value : α) (rest : Table α) :
    (table ++ rest).set name value = table ++ rest.set name value := by
  induction table with
  | nil => rfl
  | cons entry table ih =>
    rw [names_cons, List.mem_cons, not_or] at h
    rw [List.cons_append, set, if_neg (Ne.symm h.1), ih h.2, List.cons_append]

/-- A name that is there keeps its place, any other is put at the end. -/
theorem names_set (table : Table α) (name : String) (value : α) :
    (table.set name value).names = if name ∈ table.names then table.names
      else table.names ++ [name] := by
  induction table with
  | nil => simp [set, names]
  | cons entry table ih =>
    obtain ⟨key, old⟩ := entry
    rw [set, names_cons]
    by_cases hkey : key = name
    · simp [hkey]
    · rw [if_neg hkey, names_cons, ih]
      simp only [List.mem_cons, Ne.symm hkey, false_or]
      by_cases hmem : name ∈ names table
      · rw [if_pos hmem, if_pos hmem]
      · rw [if_neg hmem, if_neg hmem, List.cons_append]

/-- The names in a table stay in front, and none comes twice, when entries are set. -/
theorem names_setAll (h : table.names.Nodup) (entries : List (String × α)) :
    table.names <+: (table.setAll entries).names ∧ (table.setAll entries).names.Nodup := by
  induction entries generalizing table with
  | nil => exact ⟨List.prefix_refl _, h⟩
  | cons entry entries ih =>
    have hset : table.names <+: (table.set entry.1 entry.2).names ∧
        (table.set entry.1 entry.2).names.Nodup := by
      rw [names_set]
      split
      · exact ⟨List.prefix_refl _, h⟩
      · next hnew =>
        refine ⟨List.prefix_append _ _, List.nodup_append.mpr ⟨h, by simp, ?_⟩⟩
        intro key hkey other hother heq
        rw [heq, List.mem_singleton.mp hother] at hkey
        exact hnew hkey
    rw [setAll_cons]
    exact ⟨hset.1.trans (ih hset.2).1, (ih hset.2).2⟩

/-- Nothing is added when only names are set that are there. -/
theorem names_setAll_of_mem {entries : List (String × α)}
    (h : ∀ entry ∈ entries, entry.1 ∈ table.names) :
    (table.setAll entries).names = table.names := by
  induction entries generalizing table with
  | nil => rfl
  | cons entry entries ih =>
    have hset : (table.set entry.1 entry.2).names = table.names := by
      rw [names_set, if_pos (h entry List.mem_cons_self)]
    rw [setAll_cons, ih, hset]
    rw [hset]
    exact fun entry' hmem => h entry' (List.mem_cons_of_mem entry hmem)

/-- A table has a value for exactly its names. -/
theorem isSome_get?_iff : (table.get? name).isSome = true ↔ name ∈ table.names := by
  induction table with
  | nil => simp [get?, names]
  | cons entry table ih =>
    rw [get?, List.lookup_cons]
    by_cases hname : name = entry.1
    · simp [hname]
    · rw [beq_eq_false_iff_ne.mpr hname, names_cons, List.mem_cons]
      simp only [hname, false_or]
      exact ih

/-- Values may be given in two rounds. -/
theorem setAll_append (table : Table α) (xs ys : List (String × α)) :
    table.setAll (xs ++ ys) = (table.setAll xs).setAll ys :=
  List.foldl_append

/-- In a table without repetitions, what stands there is what is found. -/
theorem get?_of_mem {value : α} (h : table.names.Nodup) (hmem : (name, value) ∈ table) :
    table.get? name = some value := by
  induction table with
  | nil => cases hmem
  | cons entry table ih =>
    rw [names_cons, List.nodup_cons] at h
    rw [get?, List.lookup_cons]
    rcases List.mem_cons.mp hmem with rfl | htail
    · simp
    · have hne : name ≠ entry.1 := fun heq => h.1 (List.mem_map.mpr ⟨(name, value), htail, heq⟩)
      rw [beq_eq_false_iff_ne.mpr hne]
      exact ih h.2 htail

/-- Entries of other names leave the value of a name. -/
theorem get?_setAll {entries : List (String × α)} (h : ∀ entry ∈ entries, entry.1 ≠ name)
    (table : Table α) :
    (table.setAll entries).get? name = table.get? name := by
  induction entries generalizing table with
  | nil => rfl
  | cons entry entries ih =>
    rw [setAll_cons, ih fun entry' hmem => h entry' (List.mem_cons_of_mem entry hmem),
      get?_set_of_ne _ (Ne.symm (h entry List.mem_cons_self))]

/-- A table in which the names of another come first is what setting its entries in the other
makes. -/
theorem setAll_eq_self {base : Table α} (hnames : base.names <+: table.names)
    (h : table.names.Nodup) :
    base.setAll table = table := by
  -- `done` holds the entries that are set already, and `base` those that are still to be set
  suffices hdone : ∀ done : Table α, (names (done ++ table)).Nodup →
      setAll (done ++ base) table = done ++ table from
    hdone [] h
  clear h
  induction table generalizing base with
  | nil =>
    intro done _
    have hbase : base = [] := by simpa [names] using hnames
    rw [hbase]
    rfl
  | cons entry table ih =>
    obtain ⟨name, value⟩ := entry
    intro done hdone
    have hnew : name ∉ done.names := by
      rw [names, List.map_append, List.nodup_append] at hdone
      exact fun hmem => hdone.2.2 name hmem name (by simp) rfl
    have hmove : done ++ (name, value) :: table = (done ++ [(name, value)]) ++ table := by simp
    rw [setAll_cons, set_append hnew, hmove]
    rw [hmove] at hdone
    cases base with
    | nil =>
      have hrest := @ih [] List.nil_prefix _ hdone
      rwa [List.append_nil] at hrest
    | cons first base =>
      obtain ⟨key, old⟩ := first
      obtain ⟨hkey, hrest⟩ := List.cons_prefix_cons.mp hnames
      obtain rfl : key = name := hkey
      rw [set, if_pos rfl, ← List.singleton_append, ← List.append_assoc]
      exact ih hrest _ hdone

end Table

/-! ## Settings as a configuration -/

/-- A knob is found by its name. -/
theorem Knob.ofName?_name (knob : Knob) : ofName? knob.name = some knob := by
  cases knob <;> rfl

/-- What a knob holds can be read as a number. -/
theorem Knob.toInt_of_holds {knob : Knob} {v : Value} (h : knob.Holds v) :
    ∃ n, v.toInt = .ok n := by
  unfold Holds at h
  split at h
  · obtain ⟨b, rfl⟩ := h
    exact ⟨_, rfl⟩
  · obtain ⟨n, -, rfl⟩ := h
    exact ⟨n, rfl⟩

/-- A severity is read back from its name. -/
theorem Severity.read_name [Machine] (level : Severity) : read (.text level.name) = .ok level := by
  rw [read, Value.shown_eq_ok (Value.isShowable_text _ _)]
  cases level <;> rfl

namespace Settings

variable {knob : Knob} {v : Value}

/-- A value that a knob holds is taken as it is. -/
theorem knobValue_of_holds [Machine] (h : knob.Holds v) : knobValue knob v = .ok (some v) := by
  unfold Knob.Holds at h
  cases hswitch : knob.isSwitch with
  | true =>
    rw [hswitch, if_pos rfl] at h
    obtain ⟨b, rfl⟩ := h
    unfold knobValue
    rw [Knob.default_of_isSwitch hswitch]
  | false =>
    rw [hswitch, if_neg Bool.false_ne_true] at h
    obtain ⟨n, hpos, rfl⟩ := h
    rcases knobValue_of_not_isSwitch (v := .int n) hswitch with ⟨hinfinite, -⟩
      | ⟨m, -, hm, hok⟩ | ⟨hnot, -⟩
    · cases hinfinite
    · obtain rfl : n = m := Except.ok.inj hm
      exact hok
    · exact absurd rfl (hnot n hpos)

/-- Settings as they are configured: the knobs with their values, and the severities by their
names. -/
def configuration (s : Settings) : Value :=
  .map [(.text "rules", .map (s.rules.map fun (name, v) => (.text name, v))),
    (.text "severity", .map (s.severity.map fun (name, level) => (.text name, .text level.name)))]

/-- Knobs with values that they hold are set without a log entry. -/
theorem resolveRules_of_holds [Machine] {entries : Table Value}
    (h : ∀ entry ∈ entries, ∃ knob : Knob, knob.name = entry.1 ∧ knob.Holds entry.2)
    (rules : Table Value) :
    resolveRules rules (entries.map fun (name, v) => (.text name, v)) =
      pure (rules.setAll entries) := by
  induction entries generalizing rules with
  | nil => rfl
  | cons entry entries ih =>
    obtain ⟨name, v⟩ := entry
    obtain ⟨knob, hname, hholds⟩ := h (name, v) List.mem_cons_self
    obtain rfl : knob.name = name := hname
    have hknob : knobOf? (.text knob.name) = some knob := knob.ofName?_name
    rw [List.map_cons, resolveRules, hknob]
    dsimp only
    rw [knobValue_of_holds hholds]
    exact ih (fun entry' hmem => h entry' (List.mem_cons_of_mem _ hmem)) _

/-- Severities that are given by their names are set without a log entry. -/
theorem resolveSeverity_names [Machine] (entries severity : Table Severity) :
    resolveSeverity severity (entries.map fun (name, level) => (.text name, .text level.name)) =
      pure (severity.setAll entries) := by
  induction entries generalizing severity with
  | nil => rfl
  | cons entry entries ih =>
    rw [List.map_cons, resolveSeverity,
      ruleSeverity_of_read (Severity.read_name entry.2) (Value.isShowable_text entry.1 _)]
    exact ih _

/-! ## What resolution returns -/

/-- Whatever has been logged before, resolution that returns has one outcome. -/
theorem eq_resolved [Machine] {data : Value} {s : Settings} {log log' : List LogEntry}
    (h : (resolve data).run.run log = (.ok s, log')) : s = resolved data := by
  rcases run_resolve_cases data log with ⟨-, log'', hrun⟩ | ⟨-, e, log'', hrun⟩
  · obtain ⟨hs, -⟩ := Prod.mk.inj (h.symm.trans hrun)
    exact Except.ok.inj hs
  · obtain ⟨hs, -⟩ := Prod.mk.inj (h.symm.trans hrun)
    cases hs

/-- No knob is added, and none is lost. -/
theorem names_rules_resolved [Machine] (data : Value) :
    (resolved data).rules.names = defaultRules.names := by
  apply Table.names_setAll_of_mem
  intro setting hmem
  obtain ⟨entry, -, hsetting⟩ := List.mem_filterMap.mp hmem
  obtain ⟨knob, -, -, hname⟩ := ruleSetting?_eq_some.mp hsetting
  rw [← hname]
  cases knob <;> decide

/-- Rules that have no severity by default are added behind those that have, none twice. -/
theorem names_severity_resolved [Machine] (data : Value) :
    defaultSeverity.names <+: (resolved data).severity.names ∧
      (resolved data).severity.names.Nodup :=
  Table.names_setAll (by decide) _

/-- No entry gives the knob a value that it takes. -/
def PassesOver [Machine] (knob : Knob) (entries : List (Value × Value)) : Prop :=
  ∀ entry ∈ entries, knobOf? entry.1 = some knob → knobValue knob entry.2 = .ok none

/-- Entries that pass over a knob leave its value. -/
theorem get?_setAll_of_passesOver [Machine] {entries : List (Value × Value)}
    (h : PassesOver knob entries) (rules : Table Value) :
    (rules.setAll (entries.filterMap ruleSetting?)).get? knob.name = rules.get? knob.name := by
  apply Table.get?_setAll
  intro setting hmem hname
  obtain ⟨entry, hentry, hsetting⟩ := List.mem_filterMap.mp hmem
  obtain ⟨other, hother, htaken, hothername⟩ := ruleSetting?_eq_some.mp hsetting
  obtain rfl : other = knob := Knob.name_injective (hothername.trans hname)
  rw [h entry hentry hother] at htaken
  cases htaken

/-- The last value that a knob takes is the one it has in the end. -/
theorem get?_setAll_of_taken [Machine] {key value : Value} {before after : List (Value × Value)}
    (hknob : knobOf? key = some knob) (htaken : knobValue knob v = .ok (some value))
    (hafter : PassesOver knob after) (rules : Table Value) :
    (rules.setAll ((before ++ (key, v) :: after).filterMap ruleSetting?)).get? knob.name =
      some value := by
  have hsetting : ruleSetting? (key, v) = some (knob.name, value) :=
    ruleSetting?_eq_some.mpr ⟨knob, hknob, htaken, rfl⟩
  rw [List.filterMap_append, Table.setAll_append, Table.setAll_filterMap_cons,
    get?_setAll_of_passesOver hafter, hsetting]
  exact Table.get?_set_self _ _ _

/-- The resolved table of rules has a value for nothing but knobs, and it is one that the knob
holds. -/
theorem exists_knob_of_get? [Machine] {data : Value} {name : String}
    (h : (resolved data).rules.get? name = some v) :
    ∃ knob : Knob, knob.name = name ∧ knob.Holds v := by
  have hmem : name ∈ Knob.all.map Knob.name := by
    have hnames := Table.isSome_get?_iff.mp (Option.isSome_of_eq_some h)
    rwa [names_rules_resolved] at hnames
  obtain ⟨knob, -, rfl⟩ := List.mem_map.mp hmem
  obtain ⟨value, hget, hholds⟩ := isFilled_defaultRules.setAll (sectionEntries "rules" data) knob
  obtain rfl : value = v := Option.some.inj (hget.symm.trans h)
  exact ⟨knob, rfl, hholds⟩

/-- Resolved settings have a number for every name. -/
theorem exists_number_resolved [Machine] (data : Value) (name : String) :
    ∃ n, (resolved data).number name = .ok n := by
  rw [number, value?]
  cases hget : (resolved data).rules.get? name with
  | some v =>
    obtain ⟨knob, -, hholds⟩ := exists_knob_of_get? hget
    exact Knob.toInt_of_holds hholds
  | none =>
    cases Knob.ofName? name with
    | none => exact ⟨0, rfl⟩
    | some knob => exact Knob.toInt_of_holds knob.holds_default

/-- Resolved settings are given back by their configuration. -/
theorem resolve_configuration_resolved [Machine] (data : Value) :
    resolve (resolved data).configuration = pure (resolved data) := by
  have hnames := names_rules_resolved data
  have hnodup : (resolved data).rules.names.Nodup := by
    rw [hnames]
    decide
  have hrules : defaultRules.setAll (resolved data).rules = (resolved data).rules :=
    Table.setAll_eq_self (hnames ▸ List.prefix_refl _) hnodup
  have hseverity : defaultSeverity.setAll (resolved data).severity = (resolved data).severity :=
    Table.setAll_eq_self (names_severity_resolved data).1 (names_severity_resolved data).2
  have hholds : ∀ entry ∈ (resolved data).rules, ∃ knob : Knob,
      knob.name = entry.1 ∧ knob.Holds entry.2 :=
    fun entry hmem => exists_knob_of_get? (Table.get?_of_mem hnodup hmem)
  show (resolveRules defaultRules ((resolved data).rules.map fun (name, v) => (.text name, v)) >>=
    fun rules =>
    resolveSeverity defaultSeverity
        ((resolved data).severity.map fun (name, level) => (.text name, .text level.name)) >>=
          fun severity =>
      pure ⟨rules, severity⟩) = pure (resolved data)
  rw [resolveRules_of_holds hholds, pure_bind, resolveSeverity_names, pure_bind, hrules, hseverity]

/-- Resolved settings are well formed, and the settings that their own configuration resolves to.
Whatever is configured, if resolution returns then the table of rules has exactly the knobs, a
switch a truth value and any other knob a positive number, so that there is a number for every name.
A knob that is not given a value it takes has its default, and otherwise the last value it takes.
Every documented rule has a severity. Written down as a configuration, the settings are resolved to
themselves, and nothing is logged. -/
theorem resolve_wellFormed [Machine] {data : Value} {s : Settings} {log log' : List LogEntry}
    (h : (resolve data).run.run log = (.ok s, log')) :
    s.rules.names = Knob.all.map Knob.name ∧ IsFilled s.rules ∧
      (∀ name, ∃ n, s.number name = .ok n) ∧
      (∀ knob, PassesOver knob (sectionEntries "rules" data) →
        s.rules.get? knob.name = some knob.default) ∧
      (∀ knob key v value before after, sectionEntries "rules" data = before ++ (key, v) :: after →
        knobOf? key = some knob → knobValue knob v = .ok (some value) → PassesOver knob after →
        s.rules.get? knob.name = some value) ∧
      (∀ rule ∈ documentedRules, (s.severity.get? rule.name).isSome = true) ∧
      resolve s.configuration = pure s := by
  obtain rfl := eq_resolved h
  refine ⟨names_rules_resolved data, isFilled_defaultRules.setAll _,
    exists_number_resolved data, ?_, ?_, ?_, resolve_configuration_resolved data⟩
  · intro knob hpasses
    rw [resolved, get?_setAll_of_passesOver hpasses]
    cases knob <;> rfl
  · intro knob key v value before after hentries hknob htaken hafter
    rw [resolved, hentries]
    exact get?_setAll_of_taken hknob htaken hafter _
  · intro rule hrule
    apply Table.isSome_get?_iff.mpr
    have hname : rule.name ∈ defaultSeverity.names := by
      rw [defaultSeverity, Table.names, List.map_map]
      exact List.mem_map_of_mem hrule
    exact (names_severity_resolved data).1.subset hname

/-- A configuration with values of many kinds: digits of another script, words, a truth value for a
number, a list for a switch, a name that is no knob, and severities under names that are no
rules. -/
def mixedData : Value :=
  .map [(.text "rules", .map [(.text "indent_size", .text " ٤ "), (.text "use_spaces", .text "No"),
      (.text "max_line_length", .bool true), (.null, .text "x"),
      (.text "quote_variables", .seq [.null])]),
    (.text "severity", .map [(.text "line_length", .text "ERROR "), (.bool true, .text "info"),
      (.text "indentation", .text "fatal")])]

/-- A section with good values, bad ones and unknown names is resolved, and its settings are
resolved to themselves. -/
theorem resolve_wellFormed_mixed :
    ∃ s log, (resolve mixedData).run.run [] = (.ok s, log) ∧ s.number "indent_size" = .ok 4 ∧
      s.rules.get? "quote_variables" = some (.bool true) ∧ s.severity.get? "True" = some .info ∧
      resolve s.configuration = pure s := by
  refine ⟨_, _, rfl, rfl, rfl, rfl, ?_⟩
  exact (@resolve_wellFormed _ mixedData _ [] _ rfl).2.2.2.2.2.2

end Settings

end ShellStyle
