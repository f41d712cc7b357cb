import ShellStyle.Proofs.Resolution
import ShellStyle.Proofs.Segments
import ShellStyle.Script.Lint

/-!
# Scripts that can be treated

With settings that have positive numbers every script can be checked. Formatting can fail only where
a margin has to be written that is longer than any text can be, or longer than the machine has
memory for. A margin is at most as many indent steps deep as the script has lines, because every
level needs a line that opens it; so the indent size and the number of lines tell whether that can
happen.
-/

namespace ShellStyle

open Text Line

/-! ## Outcomes -/

/-- Whether a computation returns, or fails at a run of spaces that is too long; `extent` is the
longest run that it may write. -/
inductive Fits [Machine] {α : Type} (extent : Int) : Except StyleError α → Prop
  | ok (a : α) : Fits extent (.ok a)
  | runTooLong : runLimit ≤ extent → Fits extent (.error .runTooLong)
  | outOfMemory : Machine.memory < extent → Fits extent (.error .outOfMemory)

section

variable [Machine] {α β : Type} {extent : Int}

/-- What is done one after the other fits if both parts do. -/
theorem Fits.bind {x : Except StyleError α} {f : α → Except StyleError β} (hx : Fits extent x)
    (hf : ∀ a, Fits extent (f a)) : Fits extent (x >>= f) := by
  cases hx with
  | ok a => exact hf a
  | runTooLong h => exact .runTooLong h
  | outOfMemory h => exact .outOfMemory h

/-- What fits returns, or its extent goes beyond a limit and the error says which. -/
theorem Fits.exists_ok_or {x : Except StyleError α} (h : Fits extent x) :
    (∃ a, x = .ok a) ∨ runLimit ≤ extent ∧ x = .error .runTooLong ∨
      Machine.memory < extent ∧ x = .error .outOfMemory := by
  cases h with
  | ok a => exact .inl ⟨a, rfl⟩
  | runTooLong h => exact .inr (.inl ⟨h, rfl⟩)
  | outOfMemory h => exact .inr (.inr ⟨h, rfl⟩)

/-- A run of spaces that is no longer than `extent`. -/
theorem fits_spaces {count : Int} (hpos : 0 ≤ count) (hle : count ≤ extent) :
    Fits extent (spaces count) := by
  have hrun : ¬ count < -runLimit := by
    have hnonneg : 0 ≤ runLimit := by decide
    omega
  rw [spaces]
  split
  · next h => exact .runTooLong (by omega)
  split
  · next h => exact .outOfMemory (by omega)
  · exact .ok _

end

/-! ## Settings with numbers -/

/-- Settings whose numbers can be used. -/
structure Settings.IsSound (s : Settings) (size : Int) : Prop where
  indentSize_eq : s.indentSize = .ok size
  size_pos : 0 < size
  exists_maxLineLength : ∃ limit, 0 < limit ∧ s.maxLineLength = .ok limit

/-- Where every knob has a value, those for numbers have a positive one. -/
theorem Settings.number_of_isFilled {s : Settings} (h : IsFilled s.rules) (knob : Knob)
    (hswitch : knob.isSwitch = false) : ∃ n, 0 < n ∧ s.number knob.name = .ok n := by
  obtain ⟨value, hget, hholds⟩ := h knob
  rw [Knob.Holds, hswitch, if_neg Bool.false_ne_true] at hholds
  obtain ⟨n, hpos, rfl⟩ := hholds
  refine ⟨n, hpos, ?_⟩
  rw [number, value?, hget]
  rfl

/-- Where every knob has a value, the numbers can be used. -/
theorem Settings.exists_isSound {s : Settings} (h : IsFilled s.rules) : ∃ size, s.IsSound size := by
  obtain ⟨size, hpos, hsize⟩ := number_of_isFilled h .indentSize rfl
  exact ⟨size, hsize, hpos, number_of_isFilled h .maxLineLength rfl⟩

/-! ## Checking -/

namespace Check

variable {s : Settings} {number : Int}

theorem exists_issue (s : Settings) (rule : Rule) (hnumber : 1 ≤ number) (message : String) :
    ∃ found, issue s rule number message = .ok found := by
  rw [issue, if_neg (by omega)]
  exact ⟨_, rfl⟩

/-- The check of the length returns. -/
theorem exists_length {size : Int} (hs : s.IsSound size) (hnumber : 1 ≤ number) (line : Text) :
    ∃ found, length s number line = .ok found := by
  obtain ⟨limit, -, hlimit⟩ := hs.exists_maxLineLength
  rw [length, hlimit]
  simp only [bind, Except.bind]
  split
  · exact exists_issue s _ hnumber _
  · exact ⟨none, rfl⟩

theorem exists_bracketStyle (s : Settings) (hnumber : 1 ≤ number) (line : Text) :
    ∃ found, bracketStyle s number line = .ok found := by
  rw [bracketStyle]
  split
  · exact ⟨none, rfl⟩
  split
  · exact exists_issue s _ hnumber _
  split
  · exact exists_issue s _ hnumber _
  · exact ⟨none, rfl⟩

theorem exists_operatorSpacing (s : Settings) (hnumber : 1 ≤ number) (line : Text) :
    ∃ found, operatorSpacing s number line = .ok found := by
  rw [operatorSpacing]
  split
  · exact ⟨none, rfl⟩
  split
  · exact exists_issue s _ hnumber _
  split
  · exact exists_issue s _ hnumber _
  · exact ⟨none, rfl⟩

theorem exists_variableQuoting (s : Settings) (hnumber : 1 ≤ number) (line : Text) :
    ∃ found, variableQuoting s number line = .ok found := by
  rw [variableQuoting]
  split
  · exact ⟨none, rfl⟩
  split
  · exact ⟨none, rfl⟩
  split
  · exact ⟨none, rfl⟩
  · exact exists_issue s _ hnumber _

theorem exists_indentation (s : Settings) (hnumber : 1 ≤ number) (line : Text) :
    ∃ found, indentation s number line = .ok found := by
  rw [indentation]
  split
  · exact exists_issue s _ hnumber _
  · exact ⟨none, rfl⟩

/-- Every line with a number can be checked. -/
theorem exists_line {size : Int} (hs : s.IsSound size) (hnumber : 1 ≤ number) (t : Text) :
    ∃ issues, line s number t = .ok issues := by
  rw [line]
  split
  · exact ⟨[], rfl⟩
  · exact ⟨[], rfl⟩
  · obtain ⟨tooLong, hlength⟩ := exists_length hs hnumber t
    obtain ⟨brackets, hbrackets⟩ := exists_bracketStyle s hnumber t
    obtain ⟨operators, hoperators⟩ := exists_operatorSpacing s hnumber t
    obtain ⟨quoting, hquoting⟩ := exists_variableQuoting s hnumber t
    obtain ⟨tabs, htabs⟩ := exists_indentation s hnumber t
    rw [hlength, hbrackets, hoperators, hquoting, htabs]
    exact ⟨_, rfl⟩

end Check

namespace Script

/-- Every script can be checked. -/
theorem exists_lintFrom {s : Settings} {size : Int} (hs : s.IsSound size) (heredoc : Option Text)
    {number : Int} (hnumber : 1 ≤ number) (lines : List Text) :
    ∃ issues, lintFrom s heredoc number lines = .ok issues := by
  induction lines generalizing heredoc number with
  | nil => exact ⟨[], rfl⟩
  | cons text rest ih =>
    have hlater : 1 ≤ number + 1 := by omega
    cases heredoc with
    | some delimiter => exact ih _ hlater
    | none =>
      rw [lintFrom]
      split
      · exact ih _ hlater
      · obtain ⟨found, hfound⟩ := Check.exists_line hs hnumber text
        obtain ⟨later, hrest⟩ := ih none hlater
        rw [hfound, hrest]
        exact ⟨found ++ later, rfl⟩

end Script

/-! ## Formatting a line -/

namespace Fix

variable {s : Settings} {size extent : Int}

/-- Indenting a line needs the spaces of its level. -/
theorem fits_indentation [Machine] (hs : s.IsSound size) {level : Int} (hlevel : 0 ≤ level)
    (hextent : level * size ≤ extent) (inHeredoc : Bool) (line : Text) :
    Fits extent (indentation s level inHeredoc line) := by
  have hpos : 0 ≤ level * size := Int.mul_nonneg hlevel (Int.le_of_lt hs.size_pos)
  rw [indentation]
  split
  · exact .ok _
  · rw [hs.indentSize_eq]
    exact (fits_spaces hpos hextent).bind fun margin => .ok _

/-- Breaking a line needs the spaces of one level more. -/
theorem fits_breakAt [Machine] (hs : s.IsSound size) (hextent : size ≤ extent) (line : Text)
    (hit : Hit Text) :
    Fits extent (breakAt s line hit) := by
  rw [breakAt]
  split
  · exact .ok _
  · rw [hs.indentSize_eq]
    exact (fits_spaces (Int.le_of_lt hs.size_pos) hextent).bind fun step => .ok _

/-- A line that is too long needs the spaces of one level more, and others need none. -/
theorem fits_wrap [Machine] (hs : s.IsSound size) (hextent : size ≤ extent) (line : Text) :
    Fits extent (wrap s line) := by
  obtain ⟨limit, -, hlimit⟩ := hs.exists_maxLineLength
  rw [wrap, hlimit]
  simp only [bind, Except.bind]
  split
  · exact .ok _
  split
  · exact .ok _
  · exact fits_breakAt hs hextent line _

/-- Formatting a line needs the spaces of its level and of one more. -/
theorem fits_line [Machine] (hs : s.IsSound size) {level : Int} (hlevel : 0 ≤ level)
    (hextent : level * size ≤ extent) (hstep : size ≤ extent) (inHeredoc mayWrap : Bool)
    (t : Text) : Fits extent (line s level inHeredoc mayWrap t) := by
  rw [line]
  split
  · exact .ok _
  · apply (fits_indentation hs hlevel hextent false (content s t)).bind
    intro fixed
    split
    · exact fits_wrap hs hstep fixed
    · exact .ok _

end Fix

/-! ## Levels -/

namespace Script

/-- The level at which a task writes. -/
def Task.level : Task → Int
  | copy _ => 0
  | format level _ _ => level
  | join level _ _ => level

/-- A task of a plan writes at no negative level. -/
theorem Task.IsSound.level_nonneg {task : Task} (h : task.IsSound) : 0 ≤ task.level := by
  cases task with
  | copy line => exact Int.le_refl 0
  | format level mayWrap line => exact h
  | join level pending terminal => exact h.1

namespace Tracker

/-- Closing blocks does not raise the level. -/
theorem dedent_level_le {t : Tracker} (h : 0 ≤ t.level) (line : Text) :
    (t.dedent line).level ≤ t.level := by
  rw [dedent]
  split
  · exact Int.max_le.mpr ⟨h, Int.sub_le_self t.level (by decide)⟩
  · exact Int.le_refl t.level

/-- A line raises the level by at most one. -/
theorem pass_level_le {t : Tracker} (h : 0 ≤ t.level) (line : Text) :
    (t.pass line).level ≤ t.level + 1 := by
  have hdedent := dedent_level_le h line
  rw [pass, indent]
  split
  · dsimp only
    omega
  · omega

/-- Lines raise the level by at most one each. -/
theorem passAll_level_le {t : Tracker} (h : 0 ≤ t.level) (lines : List NumberedLine) :
    (t.passAll lines).level ≤ t.level + lines.length := by
  induction lines generalizing t with
  | nil =>
    rw [passAll, List.length_nil]
    omega
  | cons line rest ih =>
    have hpass := pass_level_le h line.text
    have hrest := ih (pass_level_nonneg h line.text)
    rw [passAll, List.length_cons]
    omega

end Tracker

/-- The lines of a group are at most one level deeper for each line before them, and one for the
group. -/
theorem level_le_of_mem_groupTasks {extra : Nat} (hextra : extra ≤ 1) {t : Tracker}
    (hlevel : 0 ≤ t.level) {lines : List NumberedLine} {task : Task}
    (h : task ∈ groupTasks extra t lines) : task.level ≤ t.level + lines.length := by
  induction lines generalizing extra t with
  | nil => cases h
  | cons line rest ih =>
    -- behind the first line the extra level is one, and that line has opened one at most
    rw [List.length_cons]
    rcases List.mem_cons.mp h with rfl | h
    · have hdedent := Tracker.dedent_level_le hlevel line.text
      rw [Task.level]
      omega
    · have hpass := Tracker.pass_level_le hlevel line.text
      have hrest := ih (Nat.le_refl 1) (Tracker.pass_level_nonneg hlevel line.text) h
      omega

namespace Tracker

/-- The level that the lines so far may lead to, those that are put off included. -/
def reach (t : Tracker) : Int :=
  t.level + t.pending.length

theorem level_le_of_mem_flushTasks {t : Tracker} (hlevel : 0 ≤ t.level) {task : Task}
    (h : task ∈ t.flushTasks) : task.level ≤ t.reach :=
  level_le_of_mem_groupTasks (Nat.zero_le 1) (t := t.clear) hlevel h

/-- One more line leads at most one level further. -/
theorem reach_next_le {t : Tracker} (hlevel : 0 ≤ t.level) (line : NumberedLine) :
    (t.next line).reach ≤ t.reach + 1 := by
  have h := t.advance line
  generalize t.tasks line = tasks, t.next line = u at h ⊢
  cases h with
  | heredoc =>
    have hreach : t.reach ≤ t.reach + 1 := by omega
    split
    · exact hreach
    · exact hreach
  | opener =>
    have hflushed : t.flushed.level ≤ t.reach := passAll_level_le (t := t.clear) hlevel t.pending
    have hpending : (t.flushed.enter (heredocDelimiter line.text)).pending = [] := t.flushed_pending
    rw [reach, hpending, List.length_nil, Int.natCast_zero, Int.add_zero]
    exact Int.le_add_one hflushed
  | putOff =>
    rw [reach, reach, push, List.length_append, List.length_singleton]
    dsimp only
    omega
  | single =>
    have hpass := pass_level_le hlevel line.text
    rw [reach, reach, pass_pending]
    omega
  | joined =>
    have hpass : (t.clear.pass (joinCommand t.pending line.text)).level ≤ t.level + 1 :=
      pass_level_le (t := t.clear) hlevel _
    have hpending : (t.clear.pass (joinCommand t.pending line.text)).pending = [] :=
      pass_pending _ _
    rw [reach, reach, hpending, List.length_nil]
    omega
  | group =>
    -- lines that were put off count in the reach already, so only the new one adds to it
    have hpass : (t.clear.passAll (t.pending ++ [line])).level ≤
        t.level + (t.pending ++ [line]).length := passAll_level_le (t := t.clear) hlevel _
    rw [List.length_append, List.length_singleton] at hpass
    have hpending : (t.clear.passAll (t.pending ++ [line])).pending = [] := passAll_pending _ _
    rw [reach, reach, hpending, List.length_nil]
    omega

/-- The tasks that a line calls for are at most one level further than the lines before it lead. -/
theorem level_le_of_mem_tasks {t : Tracker} (hlevel : 0 ≤ t.level) {line : NumberedLine}
    {task : Task} (hmem : task ∈ t.tasks line) : task.level ≤ t.reach + 1 := by
  have hreach : 0 ≤ t.reach := Int.add_nonneg hlevel (Int.natCast_nonneg _)
  have h := t.advance line
  generalize t.tasks line = tasks, t.next line = u at h hmem
  cases h with
  | heredoc =>
    obtain rfl := List.mem_singleton.mp hmem
    exact Int.le_add_one hreach
  | opener =>
    rcases List.mem_append.mp hmem with hmem | hmem
    · exact Int.le_add_one (level_le_of_mem_flushTasks hlevel hmem)
    · obtain rfl := List.mem_singleton.mp hmem
      exact Int.le_add_one hreach
  | putOff => cases hmem
  | single =>
    obtain rfl := List.mem_singleton.mp hmem
    have hdedent := dedent_level_le hlevel line.text
    rw [Task.level, reach]
    omega
  | joined =>
    obtain rfl := List.mem_singleton.mp hmem
    have hdedent : (t.clear.dedent (joinCommand t.pending line.text)).level ≤ t.level :=
      dedent_level_le (t := t.clear) hlevel _
    rw [Task.level, reach]
    omega
  | group =>
    -- each line that was put off may have opened a block
    have hgroup : task.level ≤ t.level + (t.pending ++ [line]).length :=
      level_le_of_mem_groupTasks (Nat.zero_le 1) (t := t.clear) hlevel hmem
    rw [List.length_append, List.length_singleton] at hgroup
    rw [reach]
    omega

/-- No task of a plan is deeper than the lines put off and the lines to come lead. -/
theorem level_le_of_mem_plan {t : Tracker} (hcoherent : t.Coherent) {lines : List NumberedLine}
    {task : Task} (h : task ∈ t.plan lines) : task.level ≤ t.reach + lines.length := by
  induction lines generalizing t with
  | nil =>
    have hflush := level_le_of_mem_flushTasks hcoherent.level_nonneg h
    rw [List.length_nil]
    omega
  | cons line rest ih =>
    rw [List.length_cons]
    rcases List.mem_append.mp h with hnow | hlater
    · have hlevel := level_le_of_mem_tasks hcoherent.level_nonneg hnow
      omega
    · have hlevel := ih (hcoherent.next line) hlater
      have hnext := reach_next_le hcoherent.level_nonneg line
      omega

end Tracker

/-- No line of a script is written deeper than the script is long. -/
theorem level_le_length {lines : List Text} {task : Task} (h : task ∈ plan lines) :
    task.level ≤ lines.length := by
  have hlevel := Tracker.level_le_of_mem_plan Tracker.coherent_start h
  rw [length_numberedFrom] at hlevel
  exact Int.le_trans hlevel (Int.le_of_eq (Int.zero_add _))

/-! ## Formatting a script -/

/-- A task needs the spaces of its level. -/
theorem Task.fits_write [Machine] {s : Settings} {size extent : Int} (hs : s.IsSound size)
    {task : Task} (hsound : task.IsSound) (hextent : task.level * size ≤ extent)
    (hstep : size ≤ extent) :
    Fits extent (task.write s) := by
  have hlevel := hsound.level_nonneg
  cases task with
  | copy line => exact .ok _
  | format level mayWrap line =>
    exact Fix.fits_line hs hlevel hextent hstep false mayWrap line.text
  | join level pending terminal => exact Fix.fits_line hs hlevel hextent hstep false true _

/-- Tasks fit together if each fits. -/
theorem fits_writeAll [Machine] {s : Settings} {extent : Int} {tasks : List Task}
    (h : ∀ task ∈ tasks, Fits extent (task.write s)) : Fits extent (writeAll s tasks) := by
  induction tasks with
  | nil => exact .ok _
  | cons task rest ih =>
    rw [writeAll]
    apply (h task List.mem_cons_self).bind
    intro written
    apply (ih fun task' hmem => h task' (List.mem_cons_of_mem task hmem)).bind
    intro others
    exact .ok _

/-- A script can be formatted unless an indent step for each of its lines does not fit into
memory. -/
theorem fits_format [Machine] {s : Settings} {size : Int} (hs : s.IsSound size)
    (lines : List Text) :
    Fits (size * lines.length) (format s lines) := by
  rw [format_eq]
  cases lines with
  | nil => exact .ok _
  | cons text rest =>
    apply fits_writeAll
    intro task hmem
    have hlevel := level_le_length hmem
    have hone : (1 : Int) ≤ (text :: rest).length := by
      rw [List.length_cons]
      omega
    have hsize := Int.le_of_lt hs.size_pos
    -- the margin of a task, and the step by which the second part of a broken line is indented
    apply Task.fits_write hs (isSound_of_mem_plan hmem)
    · rw [Int.mul_comm]
      exact Int.mul_le_mul_of_nonneg_left hlevel hsize
    · have hmul := Int.mul_le_mul_of_nonneg_left hone hsize
      rwa [Int.mul_one] at hmul

end Script

/-! ## Whatever is configured -/

namespace Settings

/-- Which configurations stop the tool, on any machine. Resolving a configuration returns settings
exactly if it gets over every entry: a knob that is a number is not given an infinite one, and what
is read as text or logged is nested no deeper than the machine has room for there, and has no
integer with too many digits. Then the numbers are positive, every script can be checked, and
formatting a script can fail only if an indent step for each of its lines is longer than any text
can be, or longer than the machine has memory for. -/
theorem resolve_usable [Machine] (data : Value) (log : List LogEntry) :
    ((∃ s log', (resolve data).run.run log = (.ok s, log')) ↔
      (∀ entry ∈ sectionEntries "rules" data, IsUsableRule entry) ∧
        ∀ entry ∈ sectionEntries "severity" data, IsUsableSeverity entry) ∧
    ∀ s log', (resolve data).run.run log = (.ok s, log') → ∃ size, s.IsSound size ∧
      ∀ lines, (∃ issues, Script.lint s lines = .ok issues) ∧
        ((∃ f, Script.format s lines = .ok f) ∨
          runLimit ≤ size * lines.length ∧ Script.format s lines = .error .runTooLong ∨
          Machine.memory < size * lines.length ∧ Script.format s lines = .error .outOfMemory) := by
  rcases run_resolve data log with ⟨husable, s, log', hnumbers, hrun⟩ | ⟨hnot, e, log', hrun⟩
  · refine ⟨iff_of_true ⟨s, log', hrun⟩ husable, ?_⟩
    intro s' log'' hrun'
    obtain ⟨hs, -⟩ := Prod.mk.inj (hrun.symm.trans hrun')
    obtain rfl := Except.ok.inj hs
    obtain ⟨size, hsound⟩ := exists_isSound hnumbers
    refine ⟨size, hsound, fun lines => ⟨?_, ?_⟩⟩
    · exact Script.exists_lintFrom hsound none (Int.le_refl 1) lines
    · exact (Script.fits_format hsound lines).exists_ok_or
  · refine ⟨iff_of_false ?_ hnot, ?_⟩
    · rintro ⟨s, log'', hok⟩
      obtain ⟨hs, -⟩ := Prod.mk.inj (hrun.symm.trans hok)
      cases hs
    · intro s log'' hok
      obtain ⟨hs, -⟩ := Prod.mk.inj (hrun.symm.trans hok)
      cases hs

/-- A configuration with one knob. -/
def knobData (knob : Knob) (v : Value) : Value :=
  .map [(.text "rules", .map [(.text knob.name, v)])]

/-- A configuration with the severity of one rule. -/
def severityData (rule : Rule) (v : Value) : Value :=
  .map [(.text "severity", .map [(.text rule.name, v)])]

/-- The default settings with another indent size. -/
def withIndentSize (n : Int) : Settings :=
  ⟨defaultRules.set Knob.indentSize.name (.int n), defaultSeverity⟩

/-- An empty sequence in `n` sequences. -/
def nestedSeq : Nat → Value
  | 0 => .seq []
  | n + 1 => .seq [nestedSeq n]

/-- Sequences in each other are as deep as there are of them. -/
theorem depth_nestedSeq (n : Nat) : (nestedSeq n).depth = n + 1 := by
  induction n with
  | zero => rfl
  | succ n ih => rw [nestedSeq, Value.depth, Value.itemsDepth, Value.itemsDepth, ih, Nat.max_zero]

/-- On every machine an indent size that is given as text is taken; then every script can be
checked, and every script of up to a million lines can be formatted if there is memory for an indent
step for each line. -/
theorem resolve_usable_text :
    (∀ _ : Machine, (resolve (knobData .indentSize (.text "+0008"))).run.run [] =
        (.ok (withIndentSize 8), [])) ∧
      ∀ (_ : Machine) (lines : List Text), lines.length ≤ 1000000 →
        8 * lines.length ≤ Machine.memory →
          (∃ issues, Script.lint (withIndentSize 8) lines = .ok issues) ∧
            ∃ f, Script.format (withIndentSize 8) lines = .ok f := by
  have hrun : ∀ _ : Machine, (resolve (knobData .indentSize (.text "+0008"))).run.run [] =
      (.ok (withIndentSize 8), []) := fun _ => rfl
  refine ⟨hrun, fun machine lines hlines hmemory => ?_⟩
  obtain ⟨size, hsound, htreated⟩ := (resolve_usable _ []).2 _ _ (hrun machine)
  have hsize : (withIndentSize 8).indentSize = .ok 8 := rfl
  obtain rfl : 8 = size := Except.ok.inj (hsize.symm.trans hsound.indentSize_eq)
  refine ⟨(htreated lines).1, (htreated lines).2.resolve_right ?_⟩
  rintro (⟨hlong, -⟩ | ⟨hshort, -⟩)
  · rw [runLimit] at hlong
    omega
  · omega

/-- What cannot be shown as a severity stops resolution. -/
theorem run_resolve_severityData [Machine] {rule : Rule} {v : Value}
    (h : ¬ v.IsShowable .severity) :
    ∃ e, (resolve (severityData rule v)).run.run [] = (.error e, []) := by
  have hunusable : ¬ IsUsableSeverity (.text rule.name, v) := fun husable => h husable.1
  obtain ⟨e, hrun⟩ := run_resolveSeverity_error hunusable defaultSeverity [] []
  have hrules : (resolveRules defaultRules []).run.run [] = (.ok defaultRules, []) := rfl
  exact ⟨e, (run_bind_ok hrules _).trans (run_bind_error hrun _)⟩

/-- Whatever the machine, an infinite line length stops the resolution, and so do a severity with
too many digits and a severity that is nested deeper than the machine has room for. An indent size
that is too great is taken, and a script with a block can then be checked but not formatted. -/
theorem resolve_not_usable :
    (∀ _ : Machine, (resolve (knobData .maxLineLength (.float (.infinite false)))).run.run [] =
        (.error .infiniteNumber, [])) ∧
      (∀ _ : Machine, ∃ e, (resolve (severityData .lineLength
        (.int (Nat.pow 10 Numeral.digitLimit)))).run.run [] = (.error e, [])) ∧
      (∀ _ : Machine, ∃ e, (resolve (severityData .lineLength
        (nestedSeq (Machine.room .severity)))).run.run [] = (.error e, [])) ∧
      ∀ _ : Machine, (resolve (knobData .indentSize (.int 10000000000000000000))).run.run [] =
          (.ok (withIndentSize 10000000000000000000), []) ∧
        (∃ issues, Script.lint (withIndentSize 10000000000000000000)
          ["if x; then".toList, "y".toList, "fi".toList] = .ok issues) ∧
        Script.format (withIndentSize 10000000000000000000)
          ["if x; then".toList, "y".toList, "fi".toList] = .error .runTooLong := by
  refine ⟨fun _ => rfl, fun _ => run_resolve_severityData ?_, fun _ => run_resolve_severityData ?_,
    fun _ => ⟨rfl, ⟨[], rfl⟩, rfl⟩⟩
  · rintro ⟨-, hwritten⟩
    rw [Value.isWritten, Numeral.isWritten, decide_eq_true_iff, Int.natAbs_natCast] at hwritten
    exact Nat.lt_irrefl _ hwritten
  · rintro ⟨hdepth, -⟩
    rw [depth_nestedSeq] at hdepth
    omega

end Settings

end ShellStyle
