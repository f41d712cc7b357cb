import ShellStyle.Script.Format

/-!
# The plan of a run

Which lines are copied, formatted on their own or joined, and at which level, depends on the lines
alone. The plan of a script is the list of these tasks, made without the settings; formatting a
script is carrying out its plan, task after task.
-/

namespace ShellStyle.Script

open Text Line

/-! ## Tasks -/

/-- What is done with one line, or with the lines of one command. -/
inductive Task where
  /-- A line of a heredoc comes out as it is. -/
  | copy (line : NumberedLine)
  /-- A line is formatted at a level. -/
  | format (level : Int) (mayWrap : Bool) (line : NumberedLine)
  /-- A continued command is joined and formatted at a level. -/
  | join (level : Int) (pending : List NumberedLine) (terminal : NumberedLine)
  deriving DecidableEq, Repr

namespace Task

/-- The lines that a task takes care of. -/
def source : Task → List NumberedLine
  | copy line => [line]
  | format _ _ line => [line]
  | join _ pending terminal => pending ++ [terminal]

/-- The lines that a task writes. -/
def write [Machine] (s : Settings) : Task → Except StyleError (List Text)
  | copy line => .ok [line.text]
  | format level mayWrap line => Fix.line s level false mayWrap line.text
  | join level pending terminal => Fix.line s level false true (joinCommand pending terminal.text)

/-- The fixes that a task counts for the lines it writes. -/
def fixes : Task → List Text → Nat
  | copy _, _ => 0
  | format _ _ line, written => if written = [line.text] then 0 else 1
  | join _ _ _, _ => 1

end Task

/-- Two stretches of formatted lines, one behind the other. -/
instance : Append Formatted where
  append a b := ⟨a.lines ++ b.lines, a.fixes + b.fixes⟩

@[simp] theorem Formatted.lines_append (a b : Formatted) :
    (a ++ b).lines = a.lines ++ b.lines := rfl

@[simp] theorem Formatted.fixes_append (a b : Formatted) : (a ++ b).fixes = a.fixes + b.fixes := rfl

@[ext] theorem Formatted.ext {a b : Formatted} (hl : a.lines = b.lines) (hf : a.fixes = b.fixes) :
    a = b := by
  cases a
  cases b
  simp_all

/-- Results may be put together in any grouping. -/
theorem Formatted.append_assoc (a b c : Formatted) : a ++ b ++ c = a ++ (b ++ c) := by
  ext <;> simp [Nat.add_assoc]

@[simp] theorem Formatted.nil_append (a : Formatted) : (⟨[], 0⟩ : Formatted) ++ a = a := by
  ext <;> simp

@[simp] theorem Formatted.append_nil (a : Formatted) : a ++ (⟨[], 0⟩ : Formatted) = a := by
  ext <;> simp

/-- Carries out tasks, one after another. -/
def writeAll [Machine] (s : Settings) : List Task → Except StyleError Formatted
  | [] => .ok ⟨[], 0⟩
  | task :: rest => do
    let written ← task.write s
    let others ← writeAll s rest
    return ⟨written, task.fixes written⟩ ++ others

/-- Tasks behind other tasks write behind them. -/
theorem writeAll_append [Machine] (s : Settings) (xs ys : List Task) :
    writeAll s (xs ++ ys) = do
      let a ← writeAll s xs
      let b ← writeAll s ys
      return a ++ b := by
  induction xs with
  | nil =>
    rw [List.nil_append, writeAll]
    cases writeAll s ys <;> simp [bind, Except.bind, pure, Except.pure]
  | cons task xs ih =>
    rw [List.cons_append, writeAll, writeAll, ih]
    simp only [bind_assoc, pure_bind, Formatted.append_assoc]

/-- Tasks are carried out when the first and the others are. -/
theorem writeAll_cons_eq_ok [Machine] {s : Settings} {task : Task} {rest : List Task}
    {f : Formatted} :
    writeAll s (task :: rest) = .ok f ↔
      ∃ written others, task.write s = .ok written ∧ writeAll s rest = .ok others ∧
        ⟨written, task.fixes written⟩ ++ others = f := by
  rw [writeAll]
  cases task.write s with
  | error e => simp [bind, Except.bind]
  | ok written =>
    cases writeAll s rest with
    | error e => simp [bind, Except.bind]
    | ok others => simp [bind, Except.bind, pure, Except.pure]

/-- Tasks that are carried out, each with the lines it writes. -/
theorem exists_written [Machine] {s : Settings} {tasks : List Task} {f : Formatted}
    (h : writeAll s tasks = .ok f) :
    ∃ steps : List (Task × List Text), steps.map Prod.fst = tasks ∧
      (∀ p ∈ steps, p.1.write s = .ok p.2) ∧ steps.flatMap Prod.snd = f.lines := by
  induction tasks generalizing f with
  | nil =>
    rw [writeAll, Except.ok.injEq] at h
    exact ⟨[], rfl, by simp, by simp [← h]⟩
  | cons task rest ih =>
    obtain ⟨written, others, hwrite, hrest, rfl⟩ := writeAll_cons_eq_ok.mp h
    obtain ⟨steps, hfst, hsteps, hlines⟩ := ih hrest
    refine ⟨(task, written) :: steps, by simp [hfst], ?_, by simp [hlines]⟩
    intro p hp
    rcases List.mem_cons.mp hp with rfl | hp
    · exact hwrite
    · exact hsteps p hp

/-- A single task writes its lines and counts its fixes. -/
theorem writeAll_singleton [Machine] (s : Settings) (task : Task) :
    writeAll s [task] = (task.write s).map fun written => ⟨written, task.fixes written⟩ := by
  rw [writeAll, writeAll]
  cases task.write s <;> simp [bind, Except.bind, pure, Except.pure, Except.map]

/-! ## Planning -/

/-- The delimiter of the heredoc that is open. -/
def Tracker.heredoc (t : Tracker) : Option Text :=
  if t.inHeredoc then some t.delimiter else none

@[simp] theorem Tracker.heredoc_inside (delimiter : Text) (level : Int)
    (pending : List NumberedLine) : heredoc ⟨true, delimiter, level, pending⟩ = some delimiter :=
  rfl

@[simp] theorem Tracker.heredoc_outside (delimiter : Text) (level : Int)
    (pending : List NumberedLine) : heredoc ⟨false, delimiter, level, pending⟩ = none :=
  rfl

/-- A delimiter is waited for exactly inside a heredoc. -/
theorem Tracker.isSome_heredoc (t : Tracker) : t.heredoc.isSome = t.inHeredoc := by
  unfold heredoc
  cases t.inHeredoc <;> rfl

/-- The delimiter of the heredoc that is open behind a line, if `heredoc` is the one that is open
before it. -/
def heredocBehind (heredoc : Option Text) (text : Text) : Option Text :=
  match heredoc with
  | some delimiter => if endsHeredoc text delimiter then none else some delimiter
  | none => if context text = .heredocStart then some (heredocDelimiter text) else none

/-- Whether a line outside heredocs goes on in the next one. -/
def NumberedLine.goesOn (line : NumberedLine) : Bool :=
  isContinued line.text && !isComment line.text

/-- The level behind a line that is formatted. -/
def Tracker.pass (t : Tracker) (line : Text) : Tracker :=
  (t.dedent line).indent line

@[simp] theorem Tracker.pass_inHeredoc (t : Tracker) (line : Text) :
    (t.pass line).inHeredoc = t.inHeredoc := by
  unfold pass indent dedent
  split <;> split <;> rfl

@[simp] theorem Tracker.pass_delimiter (t : Tracker) (line : Text) :
    (t.pass line).delimiter = t.delimiter := by
  unfold pass indent dedent
  split <;> split <;> rfl

/-- Going over a line neither opens a heredoc nor closes one. -/
@[simp] theorem Tracker.pass_heredoc (t : Tracker) (line : Text) :
    (t.pass line).heredoc = t.heredoc := by
  rw [heredoc, pass_inHeredoc, pass_delimiter, heredoc]

/-- Going over a line puts nothing off. -/
@[simp] theorem Tracker.pass_pending (t : Tracker) (line : Text) :
    (t.pass line).pending = t.pending := by
  unfold pass indent dedent
  split <;> split <;> rfl

/-- A line that closes a block takes nothing off below zero. -/
theorem Tracker.dedent_level_nonneg {t : Tracker} (h : 0 ≤ t.level) (line : Text) :
    0 ≤ (t.dedent line).level := by
  unfold dedent
  split
  · exact Int.le_max_left 0 (t.level - 1)
  · exact h

/-- However many blocks a line closes, the level does not go below zero. -/
theorem Tracker.pass_level_nonneg {t : Tracker} (h : 0 ≤ t.level) (line : Text) :
    0 ≤ (t.pass line).level := by
  have hdedent := dedent_level_nonneg h line
  unfold pass indent
  split
  · exact Int.le_add_one hdedent
  · exact hdedent

/-- The tasks for the lines of a group, the first of them `extra` levels deeper and the others one
level. -/
def groupTasks (extra : Nat) (t : Tracker) : List NumberedLine → List Task
  | [] => []
  | line :: rest =>
    .format ((t.dedent line.text).level + extra) false line :: groupTasks 1 (t.pass line.text) rest

namespace Tracker

/-- The memory behind the lines of a group. -/
def passAll (t : Tracker) : List NumberedLine → Tracker
  | [] => t
  | line :: rest => (t.pass line.text).passAll rest

@[simp] theorem passAll_inHeredoc (t : Tracker) (lines : List NumberedLine) :
    (t.passAll lines).inHeredoc = t.inHeredoc := by
  induction lines generalizing t with
  | nil => rfl
  | cons line rest ih => rw [passAll, ih, pass_inHeredoc]

@[simp] theorem passAll_delimiter (t : Tracker) (lines : List NumberedLine) :
    (t.passAll lines).delimiter = t.delimiter := by
  induction lines generalizing t with
  | nil => rfl
  | cons line rest ih => rw [passAll, ih, pass_delimiter]

/-- Going over lines neither opens a heredoc nor closes one. -/
@[simp] theorem passAll_heredoc (t : Tracker) (lines : List NumberedLine) :
    (t.passAll lines).heredoc = t.heredoc := by
  rw [heredoc, passAll_inHeredoc, passAll_delimiter, heredoc]

@[simp] theorem passAll_pending (t : Tracker) (lines : List NumberedLine) :
    (t.passAll lines).pending = t.pending := by
  induction lines generalizing t with
  | nil => rfl
  | cons line rest ih => rw [passAll, ih, pass_pending]

/-- However many blocks lines close, the level does not go below zero. -/
theorem passAll_level_nonneg {t : Tracker} (h : 0 ≤ t.level) (lines : List NumberedLine) :
    0 ≤ (t.passAll lines).level := by
  induction lines generalizing t with
  | nil => exact h
  | cons line rest ih => exact ih (pass_level_nonneg h line.text)

/-- The tasks for the lines that were put off. -/
def flushTasks (t : Tracker) : List Task :=
  groupTasks 0 t.clear t.pending

/-- The memory once the lines that were put off are done. -/
def flushed (t : Tracker) : Tracker :=
  t.clear.passAll t.pending

@[simp] theorem flushed_pending (t : Tracker) : t.flushed.pending = [] :=
  passAll_pending t.clear t.pending

/-- The tasks that the next line calls for. -/
def tasks (t : Tracker) (line : NumberedLine) : List Task :=
  match t.heredoc with
  | some _ => [.copy line]
  | none =>
    if context line.text = .heredocStart then t.flushTasks ++ [.copy line]
    else if isContinued line.text && !isComment line.text then []
    else if t.pending.isEmpty then [.format (t.dedent line.text).level true line]
    else if meetsInPipes t.pending line.text then
      [.join (t.clear.dedent (joinCommand t.pending line.text)).level t.pending line]
    else groupTasks 0 t.clear (t.pending ++ [line])

/-- The memory behind the next line. -/
def next (t : Tracker) (line : NumberedLine) : Tracker :=
  match t.heredoc with
  | some delimiter => if endsHeredoc line.text delimiter then t.leave else t
  | none =>
    if context line.text = .heredocStart then t.flushed.enter (heredocDelimiter line.text)
    else if isContinued line.text && !isComment line.text then t.push line
    else if t.pending.isEmpty then t.pass line.text
    else if meetsInPipes t.pending line.text then t.clear.pass (joinCommand t.pending line.text)
    else t.clear.passAll (t.pending ++ [line])

/-- What the next line does, by its kind: the tasks that it calls for and the memory behind it. -/
inductive Advance (t : Tracker) (line : NumberedLine) : List Task → Tracker → Prop
  | heredoc (delimiter : Text) (hheredoc : t.heredoc = some delimiter) :
      Advance t line [.copy line] (if endsHeredoc line.text delimiter then t.leave else t)
  | opener (hheredoc : t.heredoc = none) (hopener : context line.text = .heredocStart) :
      Advance t line (t.flushTasks ++ [.copy line]) (t.flushed.enter (heredocDelimiter line.text))
  | putOff (hheredoc : t.heredoc = none) (hopener : context line.text ≠ .heredocStart)
      (hgoesOn : line.goesOn = true) : Advance t line [] (t.push line)
  | single (hheredoc : t.heredoc = none) (hopener : context line.text ≠ .heredocStart)
      (hends : line.goesOn = false) (hpending : t.pending = []) :
      Advance t line [.format (t.dedent line.text).level true line] (t.pass line.text)
  | joined (hheredoc : t.heredoc = none) (hopener : context line.text ≠ .heredocStart)
      (hends : line.goesOn = false) (hpending : t.pending ≠ [])
      (hpipes : meetsInPipes t.pending line.text = true) :
      Advance t line [.join (t.clear.dedent (joinCommand t.pending line.text)).level t.pending line]
        (t.clear.pass (joinCommand t.pending line.text))
  | group (hheredoc : t.heredoc = none) (hopener : context line.text ≠ .heredocStart)
      (hends : line.goesOn = false) (hpending : t.pending ≠ [])
      (hpipes : meetsInPipes t.pending line.text = false) :
      Advance t line (groupTasks 0 t.clear (t.pending ++ [line]))
        (t.clear.passAll (t.pending ++ [line]))

/-- What is done at a line is one of a few ways to go on. -/
theorem advance (t : Tracker) (line : NumberedLine) :
    t.Advance line (t.tasks line) (t.next line) := by
  unfold tasks next
  cases hheredoc : t.heredoc with
  | some delimiter => exact .heredoc delimiter hheredoc
  | none =>
    dsimp only
    by_cases hopener : context line.text = .heredocStart
    · rw [if_pos hopener, if_pos hopener]
      exact .opener hheredoc hopener
    rw [if_neg hopener, if_neg hopener, ← NumberedLine.goesOn]
    by_cases hgoesOn : line.goesOn = true
    · rw [if_pos hgoesOn, if_pos hgoesOn]
      exact .putOff hheredoc hopener hgoesOn
    rw [if_neg hgoesOn, if_neg hgoesOn]
    rw [Bool.not_eq_true] at hgoesOn
    by_cases hpending : t.pending = []
    · rw [hpending, List.isEmpty_nil, if_pos rfl, if_pos rfl]
      exact .single hheredoc hopener hgoesOn hpending
    have hempty : ¬ t.pending.isEmpty = true := by simpa using hpending
    rw [if_neg hempty, if_neg hempty]
    by_cases hpipes : meetsInPipes t.pending line.text = true
    · rw [if_pos hpipes, if_pos hpipes]
      exact .joined hheredoc hopener hgoesOn hpending hpipes
    · rw [if_neg hpipes, if_neg hpipes]
      exact .group hheredoc hopener hgoesOn hpending (by simpa using hpipes)

/-- The heredoc that is open behind a line depends on nothing but the one before it and the line. -/
theorem next_heredoc (t : Tracker) (line : NumberedLine) :
    (t.next line).heredoc = heredocBehind t.heredoc line.text := by
  have h := t.advance line
  generalize t.tasks line = tasks, t.next line = u at h ⊢
  cases h with
  | heredoc delimiter hheredoc =>
    rw [hheredoc, heredocBehind]
    split
    · rfl
    · exact hheredoc
  | opener hheredoc hopener =>
    rw [hheredoc, heredocBehind, if_pos hopener]
    rfl
  | putOff hheredoc hopener =>
    rw [hheredoc, heredocBehind, if_neg hopener]
    exact hheredoc
  | single hheredoc hopener => rw [pass_heredoc, hheredoc, heredocBehind, if_neg hopener]
  | joined hheredoc hopener =>
    rw [pass_heredoc, hheredoc, heredocBehind, if_neg hopener]
    exact hheredoc
  | group hheredoc hopener =>
    rw [passAll_heredoc, hheredoc, heredocBehind, if_neg hopener]
    exact hheredoc

/-- The memory behind some lines. -/
def after (t : Tracker) : List NumberedLine → Tracker
  | [] => t
  | line :: rest => (t.next line).after rest

/-- The tasks for lines up to the end of the script. -/
def plan (t : Tracker) : List NumberedLine → List Task
  | [] => t.flushTasks
  | line :: rest => t.tasks line ++ (t.next line).plan rest

end Tracker

/-- Lines with their numbers, from number `n` on. -/
def numberedFrom (n : Int) : List Text → List NumberedLine
  | [] => []
  | text :: rest => ⟨n, text⟩ :: numberedFrom (n + 1) rest

/-- Numbering lines keeps their texts. -/
theorem map_text_numberedFrom (n : Int) (lines : List Text) :
    (numberedFrom n lines).map NumberedLine.text = lines := by
  induction lines generalizing n with
  | nil => rfl
  | cons text rest ih => rw [numberedFrom, List.map_cons, ih]

theorem length_numberedFrom (n : Int) (lines : List Text) :
    (numberedFrom n lines).length = lines.length := by
  simpa using congrArg List.length (map_text_numberedFrom n lines)

/-- Numbers go on from one part of a script to the next. -/
theorem numberedFrom_append (n : Int) (xs ys : List Text) :
    numberedFrom n (xs ++ ys) = numberedFrom n xs ++ numberedFrom (n + xs.length) ys := by
  induction xs generalizing n with
  | nil => simp [numberedFrom]
  | cons x xs ih =>
    rw [List.cons_append, numberedFrom, ih, numberedFrom, List.length_cons,
      show n + 1 + (xs.length : Int) = n + (xs.length + 1 : Nat) by omega]
    rfl

/-- The tasks for a script. -/
def plan (lines : List Text) : List Task :=
  Tracker.start.plan (numberedFrom 1 lines)

/-! ## Carrying out the plan is formatting -/

/-- A run with more lines written and more fixes made. -/
def Run.extend (r : Run) (t : Tracker) (written : Formatted) : Run :=
  ⟨t, r.lines ++ written.lines, r.fixes + written.fixes⟩

/-- Extending a run twice is extending it by both stretches at once. -/
theorem Run.extend_extend (r : Run) (t u : Tracker) (a b : Formatted) :
    (r.extend t a).extend u b = r.extend u (a ++ b) := by
  simp [Run.extend, Nat.add_assoc]

/-- Carrying out tasks, and then whatever carries out others, is carrying out all of them. -/
theorem extend_bind [Machine] {s : Settings} {r : Run} {t u : Tracker} {xs ys : List Task}
    {next : Run → Except StyleError Run}
    (h : ∀ a, next (r.extend t a) = (writeAll s ys).map ((r.extend t a).extend u)) :
    ((writeAll s xs).map (r.extend t) >>= next) = (writeAll s (xs ++ ys)).map (r.extend u) := by
  rw [writeAll_append]
  cases writeAll s xs with
  | error e => rfl
  | ok a =>
    simp only [Except.map, bind, Except.bind, h]
    cases writeAll s ys with
    | error e => rfl
    | ok b => simp [pure, Except.pure, Run.extend_extend]

/-- One line is one task. -/
theorem emit_eq [Machine] (s : Settings) (extra : Nat) (mayWrap : Bool) (r : Run)
    (line : NumberedLine) :
    emit s extra mayWrap r line.text =
      (writeAll s [.format ((r.tracker.dedent line.text).level + extra) mayWrap line]).map
        (r.extend (r.tracker.pass line.text)) := by
  rw [writeAll_singleton, emit, Task.write]
  cases Fix.line s ((r.tracker.dedent line.text).level + extra) false mayWrap line.text with
  | error e => rfl
  | ok written =>
    simp only [bind, Except.bind, pure, Except.pure, Except.map, Run.extend, Tracker.pass,
      Task.fixes, Except.ok.injEq, Run.mk.injEq, true_and]
    split <;> rfl

/-- A group is written task by task. -/
theorem emitGroup_eq [Machine] (s : Settings) (extra : Nat) (r : Run) (lines : List NumberedLine) :
    emitGroup s extra r lines =
      (writeAll s (groupTasks extra r.tracker lines)).map (r.extend (r.tracker.passAll lines)) := by
  induction lines generalizing extra r with
  | nil => simp [emitGroup, groupTasks, writeAll, Except.map, Run.extend, Tracker.passAll]
  | cons line rest ih =>
    rw [emitGroup, emit_eq, groupTasks, Tracker.passAll]
    exact extend_bind fun a => ih 1 (r.extend (r.tracker.pass line.text) a)

/-- Writing what was put off is carrying out the tasks for it. -/
theorem flush_eq [Machine] (s : Settings) (r : Run) :
    flush s r = (writeAll s r.tracker.flushTasks).map (r.extend r.tracker.flushed) := by
  rw [flush, emitGroup_eq]
  rfl

/-- Writing a joined command is carrying out its task. -/
theorem emitJoined_eq [Machine] (s : Settings) (r : Run) (pending : List NumberedLine)
    (terminal : NumberedLine) :
    emitJoined s r (joinCommand pending terminal.text) =
      (writeAll s [.join (r.tracker.dedent (joinCommand pending terminal.text)).level pending
        terminal]).map (r.extend (r.tracker.pass (joinCommand pending terminal.text))) := by
  rw [writeAll_singleton, emitJoined, emit, Task.write, Int.natCast_zero, Int.add_zero]
  cases Fix.line s (r.tracker.dedent (joinCommand pending terminal.text)).level false true
      (joinCommand pending terminal.text) <;> rfl

/-- One step carries out the tasks that its line calls for. -/
theorem step_eq [Machine] (s : Settings) (r : Run) (line : NumberedLine) :
    step s r line = (writeAll s (r.tracker.tasks line)).map (r.extend (r.tracker.next line)) := by
  unfold step Tracker.tasks Tracker.next Tracker.heredoc
  cases r.tracker.inHeredoc with
  | true => rfl
  | false =>
    simp only [Bool.false_eq_true, if_false]
    split
    -- a heredoc begins: what was put off is written first
    · rw [flush_eq, writeAll_append, writeAll_singleton]
      cases writeAll s r.tracker.flushTasks with
      | error e => rfl
      | ok a =>
        simp [Except.map, bind, Except.bind, pure, Except.pure, Task.write, Run.extend, Task.fixes]
    · split
      -- the command goes on: nothing is written yet
      · simp [writeAll, Except.map, Run.extend]
      · split
        · have hone := emit_eq s 0 true r line
          rw [Int.natCast_zero, Int.add_zero] at hone
          exact hone
        -- the command ends here, and its lines are joined or written one by one
        · rw [closeCommand]
          split
          · exact emitJoined_eq s ⟨r.tracker.clear, r.lines, r.fixes⟩ r.tracker.pending line
          · exact emitGroup_eq s 0 ⟨r.tracker.clear, r.lines, r.fixes⟩ (r.tracker.pending ++ [line])

/-- A run to the end of the script carries out the plan. -/
theorem stepsFrom_flush_eq [Machine] (s : Settings) (n : Int) (r : Run) (lines : List Text) :
    (stepsFrom s n r lines >>= flush s) =
      (writeAll s (r.tracker.plan (numberedFrom n lines))).map
        (r.extend (r.tracker.after (numberedFrom n lines)).flushed) := by
  induction lines generalizing n r with
  | nil => exact flush_eq s r
  | cons text rest ih =>
    rw [stepsFrom, bind_assoc, step_eq, numberedFrom, Tracker.plan, Tracker.after]
    exact extend_bind fun a => ih (n + 1) (r.extend (r.tracker.next ⟨n, text⟩) a)

/-- Formats the lines of a script that begins at a level. -/
def formatFrom [Machine] (s : Settings) (level : Int) (lines : List Text) :
    Except StyleError Formatted := do
  let r ← stepsFrom s 1 ⟨⟨false, [], level, []⟩, [], 0⟩ lines
  let r ← flush s r
  return ⟨r.lines, r.fixes⟩

/-- Formatting is carrying out the plan. -/
theorem formatFrom_eq [Machine] (s : Settings) (level : Int) (lines : List Text) :
    formatFrom s level lines = writeAll s
      (Tracker.plan ⟨false, [], level, []⟩ (numberedFrom 1 lines)) := by
  have key := stepsFrom_flush_eq s 1 ⟨⟨false, [], level, []⟩, [], 0⟩ lines
  rw [formatFrom, ← bind_assoc, key]
  cases writeAll s (Tracker.plan ⟨false, [], level, []⟩ (numberedFrom 1 lines)) with
  | error e => rfl
  | ok written => simp [Except.map, bind, Except.bind, pure, Except.pure, Run.extend]

/-- Formatting a script is carrying out its plan. -/
theorem format_eq [Machine] (s : Settings) (lines : List Text) :
    format s lines = writeAll s (plan lines) :=
  formatFrom_eq s 0 lines

end ShellStyle.Script
