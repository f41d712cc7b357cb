import Mathlib.Data.List.Chain
import ShellStyle.Proofs.Plan

/-!
# Nothing is lost

A script is cut into segments: lines of heredocs, other lines, and continued commands that are
joined. The segments are the script again when they are put together, and what is written for them,
put together in the same order, is the formatted script.
-/

namespace ShellStyle.Script

open Text Line

/-! ## Segments -/

/-- Consecutive lines of a script and what is written for them. -/
structure Segment where
  source : List NumberedLine
  output : List Text
  /-- Whether the lines belong to a heredoc. -/
  inHeredoc : Bool

namespace Segment

/-- How a segment is written: a line of a heredoc as it is, any other line as it is formatted at
some level, and a command that meets in a doubled pipe as its joined line is formatted at some
level. -/
inductive IsWritten [Machine] (s : Settings) : Segment → Prop
  | heredoc (line : NumberedLine) : IsWritten s ⟨[line], [line.text], true⟩
  | single (line : NumberedLine) (level : Nat) (mayWrap : Bool) (output : List Text)
      (hline : Fix.line s level false mayWrap line.text = .ok output) :
      IsWritten s ⟨[line], output, false⟩
  | joined (pending : List NumberedLine) (terminal : NumberedLine) (level : Nat)
    (output : List Text)
      (hsome : pending ≠ []) (hpending : ∀ line ∈ pending, line.goesOn = true)
      (hterminal : terminal.goesOn = false) (hpipes : meetsInPipes pending terminal.text = true)
      (hline : Fix.line s level false true (joinCommand pending terminal.text) = .ok output) :
      IsWritten s ⟨pending ++ [terminal], output, false⟩

/-- Whether a command ends with a segment, so that the next segment begins another. -/
def EndsCommand (g : Segment) : Prop :=
  g.inHeredoc = true ∨ ∀ line ∈ g.source.getLast?, line.goesOn = false

end Segment

/-- For every line, whether it belongs to a heredoc, be it the line that opens it, a line inside or
the line that ends it; `heredoc` is the delimiter of the one that is open. -/
def heredocMarks (heredoc : Option Text) : List Text → List Bool
  | [] => []
  | text :: rest =>
    (heredoc.isSome || context text == .heredocStart) ::
      heredocMarks (heredocBehind heredoc text) rest

/-- Every line has a mark. -/
theorem length_heredocMarks (heredoc : Option Text) (lines : List Text) :
    (heredocMarks heredoc lines).length = lines.length := by
  induction lines generalizing heredoc with
  | nil => rfl
  | cons text rest ih => rw [heredocMarks, List.length_cons, ih, List.length_cons]

/-! ## What a plan takes care of -/

namespace Task

/-- Whether a task copies a line of a heredoc. -/
def isCopy : Task → Bool
  | copy _ => true
  | _ => false

/-- The lines of a task, each with whether it belongs to a heredoc. -/
def marked (task : Task) : List (NumberedLine × Bool) :=
  task.source.map fun line => (line, task.isCopy)

end Task

/-- A group is taken care of line by line. -/
theorem groupTasks_marked (extra : Nat) (t : Tracker) (lines : List NumberedLine) :
    (groupTasks extra t lines).flatMap Task.marked = lines.map fun line => (line, false) := by
  induction lines generalizing extra t with
  | nil => rfl
  | cons line rest ih => simp [groupTasks, Task.marked, Task.source, Task.isCopy, ih]

namespace Tracker

/-- What holds between any two lines of a run: nothing is put off inside a heredoc, and only lines
that go on are put off at all; outside of heredocs no delimiter is kept; and the level is not
negative. -/
structure Coherent (t : Tracker) : Prop where
  pending_eq_nil : t.inHeredoc = true → t.pending = []
  goesOn : ∀ line ∈ t.pending, line.goesOn = true
  delimiter_eq_nil : t.inHeredoc = false → t.delimiter = []
  level_nonneg : 0 ≤ t.level

/-- The memory is coherent before the first line. -/
theorem coherent_start : start.Coherent :=
  ⟨fun _ => rfl, by simp [start], fun _ => rfl, Int.le_refl 0⟩

/-- Inside a heredoc nothing is put off. -/
theorem Coherent.pending_of_heredoc {t : Tracker} (h : t.Coherent) {delimiter : Text}
    (hheredoc : t.heredoc = some delimiter) : t.pending = [] :=
  h.pending_eq_nil (by rw [← isSome_heredoc, hheredoc]; rfl)

theorem inHeredoc_eq_false {t : Tracker} (h : t.heredoc = none) : t.inHeredoc = false := by
  rw [← isSome_heredoc, h]
  rfl

/-- What keeps the heredoc and the delimiter, and puts nothing off, keeps the memory coherent. -/
theorem Coherent.of_pending_eq_nil {t u : Tracker} (h : t.Coherent) (hpending : u.pending = [])
    (hflag : u.inHeredoc = t.inHeredoc) (hdelimiter : u.delimiter = t.delimiter)
    (hlevel : 0 ≤ u.level) : u.Coherent := by
  refine ⟨fun _ => hpending, by simp [hpending], fun hnone => ?_, hlevel⟩
  rw [hdelimiter]
  exact h.delimiter_eq_nil (hflag ▸ hnone)

/-- Every line keeps the memory coherent. -/
theorem Coherent.next {t : Tracker} (h : t.Coherent) (line : NumberedLine) :
    (t.next line).Coherent := by
  have hadvance := t.advance line
  generalize t.tasks line = tasks, t.next line = u at hadvance ⊢
  cases hadvance with
  | heredoc delimiter hheredoc =>
    have hpending := h.pending_of_heredoc hheredoc
    split
    · exact ⟨fun _ => hpending, by simp [leave, hpending], fun _ => rfl, h.level_nonneg⟩
    · exact h
  | opener =>
    have hpending := flushed_pending t
    exact ⟨fun _ => hpending, by simp [enter], fun hfalse => by simp [enter] at hfalse,
      passAll_level_nonneg (t := t.clear) h.level_nonneg _⟩
  | putOff hheredoc hopener hgoesOn =>
    -- the only case that puts something off: the line goes on, and no heredoc is open
    have hflag := inHeredoc_eq_false hheredoc
    refine ⟨fun htrue => by simp [push, hflag] at htrue, fun line' hmem => ?_, h.delimiter_eq_nil,
      h.level_nonneg⟩
    rcases List.mem_append.mp hmem with hold | hnew
    · exact h.goesOn line' hold
    · rw [List.mem_singleton.mp hnew]
      exact hgoesOn
  | single _ _ _ hpending =>
    exact h.of_pending_eq_nil (by rw [pass_pending, hpending]) (pass_inHeredoc _ _)
      (pass_delimiter _ _) (pass_level_nonneg h.level_nonneg _)
  | joined =>
    exact h.of_pending_eq_nil (pass_pending _ _) (pass_inHeredoc _ _) (pass_delimiter _ _)
      (pass_level_nonneg (t := t.clear) h.level_nonneg _)
  | group =>
    exact h.of_pending_eq_nil (passAll_pending _ _) (passAll_inHeredoc _ _) (passAll_delimiter _ _)
      (passAll_level_nonneg (t := t.clear) h.level_nonneg _)

/-- The tasks for a line and the lines still put off behind it are the lines put off before it, and
the line. -/
theorem tasks_marked {t : Tracker} (h : t.Coherent) (line : NumberedLine) :
    (t.tasks line).flatMap Task.marked ++ (t.next line).pending.map (fun line => (line, false)) =
      t.pending.map (fun line => (line, false)) ++
        [(line, t.heredoc.isSome || context line.text == .heredocStart)] := by
  have hadvance := t.advance line
  generalize t.tasks line = tasks, t.next line = u at hadvance ⊢
  cases hadvance with
  | heredoc delimiter hheredoc =>
    have hpending := h.pending_of_heredoc hheredoc
    split <;> simp [Task.marked, Task.source, Task.isCopy, leave, hpending, hheredoc]
  | opener hheredoc hopener =>
    simp [flushTasks, groupTasks_marked, Task.marked, Task.source, Task.isCopy, enter, hopener]
  | putOff hheredoc hopener => simp [push, hheredoc, hopener]
  | single hheredoc hopener _ hpending =>
    simp [Task.marked, Task.source, Task.isCopy, hpending, hheredoc, hopener]
  | joined hheredoc hopener =>
    simp [Task.marked, Task.source, Task.isCopy, clear, hheredoc, hopener]
  | group hheredoc hopener => simp [groupTasks_marked, clear, hheredoc, hopener]

/-- The plan takes care of the lines put off and of every line to come, once and in order. -/
theorem plan_marked {t : Tracker} (h : t.Coherent) (lines : List NumberedLine) :
    (t.plan lines).flatMap Task.marked =
      t.pending.map (fun line => (line, false)) ++
        lines.zip (heredocMarks t.heredoc (lines.map NumberedLine.text)) := by
  induction lines generalizing t with
  | nil => simp [plan, flushTasks, groupTasks_marked]
  | cons line rest ih =>
    rw [plan, List.flatMap_append, ih (h.next line), ← List.append_assoc,
      tasks_marked h line, next_heredoc, List.append_assoc]
    rfl

end Tracker

/-! ## Where commands begin and end -/

namespace Task

/-- The segment of a task and the lines it writes. -/
def segment (task : Task) (output : List Text) : Segment :=
  ⟨task.source, output, task.isCopy⟩

/-- Whether a command ends with the lines of a task. -/
def EndsCommand (task : Task) : Prop :=
  (task.segment []).EndsCommand

/-- What a plan guarantees of a task: no level is negative, and where lines are joined there is
something to join and it is one whole command. -/
def IsSound : Task → Prop
  | copy _ => True
  | format level _ _ => 0 ≤ level
  | join level pending terminal =>
    0 ≤ level ∧ pending ≠ [] ∧ (∀ line ∈ pending, line.goesOn = true) ∧
      terminal.goesOn = false ∧ meetsInPipes pending terminal.text = true

/-- A sound task writes its segment as it should be written. -/
theorem isWritten_segment [Machine] {s : Settings} {task : Task} {output : List Text}
    (hsound : task.IsSound) (hwrite : task.write s = .ok output) :
    (task.segment output).IsWritten s := by
  cases task with
  | copy line =>
    rw [write, Except.ok.injEq] at hwrite
    subst hwrite
    exact .heredoc line
  | format level mayWrap line =>
    obtain ⟨n, rfl⟩ := Int.eq_ofNat_of_zero_le hsound
    exact .single line n mayWrap output hwrite
  | join level pending terminal =>
    obtain ⟨hlevel, hsome, hpending, hterminal, hpipes⟩ := hsound
    obtain ⟨n, rfl⟩ := Int.eq_ofNat_of_zero_le hlevel
    exact .joined pending terminal n output hsome hpending hterminal hpipes hwrite

end Task

/-- Two tasks in a row: where the second is a command of several lines, the first does not go on
into it. -/
def Task.Follows (a b : Task) : Prop :=
  2 ≤ b.source.length → a.EndsCommand

/-- The lines of a group have a task each. -/
theorem length_source_of_mem_groupTasks {extra : Nat} {t : Tracker} {lines : List NumberedLine}
    {task : Task} (h : task ∈ groupTasks extra t lines) : task.source.length = 1 := by
  induction lines generalizing extra t with
  | nil => simp [groupTasks] at h
  | cons line rest ih =>
    rcases List.mem_cons.mp h with rfl | hrest
    · rfl
    · exact ih hrest

/-- The lines of a group stand at no negative level. -/
theorem isSound_of_mem_groupTasks {extra : Nat} {t : Tracker} (hlevel : 0 ≤ t.level)
    {lines : List NumberedLine} {task : Task} (h : task ∈ groupTasks extra t lines) :
    task.IsSound := by
  induction lines generalizing extra t with
  | nil => simp [groupTasks] at h
  | cons line rest ih =>
    rcases List.mem_cons.mp h with rfl | hrest
    · have hdedent := Tracker.dedent_level_nonneg hlevel line.text
      exact Int.add_nonneg hdedent (Int.natCast_nonneg extra)
    · exact ih (Tracker.pass_level_nonneg hlevel line.text) hrest

/-- Where every task has one line there is nothing to check. -/
theorem isChain_of_length_source_eq_one {tasks : List Task}
    (h : ∀ task ∈ tasks, task.source.length = 1) :
    tasks.IsChain Task.Follows := by
  induction tasks with
  | nil => exact .nil
  | cons a rest ih =>
    cases rest with
    | nil => exact .singleton a
    | cons b rest =>
      refine .cons_cons (fun hlong => ?_) (ih fun task hmem => h task (List.mem_cons_of_mem a hmem))
      have := h b (by simp)
      omega

/-- The last line that was put off is the last that is formatted. -/
theorem getLast?_groupTasks_append (extra : Nat) (t : Tracker) (lines : List NumberedLine)
    (line : NumberedLine) :
    ∃ level, (groupTasks extra t (lines ++ [line])).getLast? = some (.format level false line) := by
  induction lines generalizing extra t with
  | nil => exact ⟨_, rfl⟩
  | cons first rest ih =>
    obtain ⟨level, hlast⟩ := ih 1 (t.pass first.text)
    refine ⟨level, ?_⟩
    rw [List.cons_append, groupTasks, List.getLast?_cons, hlast]
    rfl

namespace Tracker

/-- Every task at a line is sound. -/
theorem isSound_of_mem_tasks {t : Tracker} (h : t.Coherent) {line : NumberedLine} {task : Task}
    (hmem : task ∈ t.tasks line) : task.IsSound := by
  have hadvance := t.advance line
  generalize t.tasks line = tasks, t.next line = u at hadvance hmem
  cases hadvance with
  | heredoc =>
    rw [List.mem_singleton.mp hmem]
    trivial
  | opener =>
    rcases List.mem_append.mp hmem with hgroup | hcopy
    · exact isSound_of_mem_groupTasks (t := t.clear) h.level_nonneg hgroup
    · rw [List.mem_singleton.mp hcopy]
      trivial
  | putOff => simp at hmem
  | single =>
    rw [List.mem_singleton.mp hmem]
    exact dedent_level_nonneg h.level_nonneg line.text
  | joined _ _ hends hpending hpipes =>
    rw [List.mem_singleton.mp hmem]
    exact ⟨dedent_level_nonneg (t := t.clear) h.level_nonneg _, hpending, h.goesOn, hends, hpipes⟩
  | group => exact isSound_of_mem_groupTasks (t := t.clear) h.level_nonneg hmem

/-- The tasks for a line are one or more whole commands. -/
theorem tasks_follow (t : Tracker) (line : NumberedLine) :
    (t.tasks line).IsChain Task.Follows ∧ ∀ last ∈ (t.tasks line).getLast?, last.EndsCommand := by
  have hadvance := t.advance line
  generalize t.tasks line = tasks, t.next line = u at hadvance ⊢
  cases hadvance with
  | heredoc =>
    exact ⟨.singleton _, by simp [Task.EndsCommand, Segment.EndsCommand, Task.segment, Task.isCopy]⟩
  | opener =>
    constructor
    · apply isChain_of_length_source_eq_one
      intro task hmem
      rcases List.mem_append.mp hmem with hgroup | hcopy
      · exact length_source_of_mem_groupTasks hgroup
      · rw [List.mem_singleton.mp hcopy]
        rfl
    · simp [Task.EndsCommand, Segment.EndsCommand, Task.segment, Task.isCopy]
  | putOff => exact ⟨.nil, by simp⟩
  | single _ _ hends =>
    exact ⟨.singleton _,
      by simp [Task.EndsCommand, Segment.EndsCommand, Task.segment, Task.source, hends]⟩
  | joined _ _ hends =>
    exact ⟨.singleton _,
      by simp [Task.EndsCommand, Segment.EndsCommand, Task.segment, Task.source, hends]⟩
  | group _ _ hends =>
    refine ⟨isChain_of_length_source_eq_one fun _ hmem => length_source_of_mem_groupTasks hmem, ?_⟩
    obtain ⟨level, hlast⟩ := getLast?_groupTasks_append 0 t.clear t.pending line
    simp [hlast, Task.EndsCommand, Segment.EndsCommand, Task.segment, Task.source, hends]

/-- A plan joins whole commands only. -/
theorem plan_isChain {t : Tracker} (lines : List NumberedLine) :
    (t.plan lines).IsChain Task.Follows := by
  induction lines generalizing t with
  | nil => exact isChain_of_length_source_eq_one fun _ hmem => length_source_of_mem_groupTasks hmem
  | cons line rest ih =>
    obtain ⟨hchain, hends⟩ := t.tasks_follow line
    rw [plan, List.isChain_append]
    exact ⟨hchain, ih, fun last hlast _ _ _ => hends last hlast⟩

theorem isSound_of_mem_plan {t : Tracker} (h : t.Coherent) {lines : List NumberedLine} {task : Task}
    (hmem : task ∈ t.plan lines) : task.IsSound := by
  induction lines generalizing t with
  | nil => exact isSound_of_mem_groupTasks (t := t.clear) h.level_nonneg hmem
  | cons line rest ih =>
    rcases List.mem_append.mp hmem with hnow | hlater
    · exact isSound_of_mem_tasks h hnow
    · exact ih (h.next line) hlater

end Tracker

theorem isSound_of_mem_plan {lines : List Text} {task : Task} (h : task ∈ plan lines) :
    task.IsSound :=
  Tracker.isSound_of_mem_plan Tracker.coherent_start h

/-! ## The segments of a formatted script -/

/-- The formatter loses, repeats and reorders nothing. The script, with its lines numbered, is cut
into segments, and the formatted script is what is written for them, in order. A segment is a line
of a heredoc, exactly where the script has one, and comes out as it is; or another line, formatted
at some level; or a whole continued command that meets in a doubled pipe, which is joined and
formatted at some level. -/
theorem format_segments [Machine] {s : Settings} {lines : List Text} {f : Formatted}
    (h : format s lines = .ok f) :
    ∃ segments : List Segment,
      segments.flatMap Segment.source = numberedFrom 1 lines ∧
      segments.flatMap Segment.output = f.lines ∧
      segments.flatMap (fun g => g.source.map fun _ => g.inHeredoc) = heredocMarks none lines ∧
      (∀ g ∈ segments, g.source ≠ [] ∧ g.IsWritten s) ∧
      segments.IsChain fun a b => 2 ≤ b.source.length → a.EndsCommand := by
  have hcoherent := Tracker.coherent_start
  have hmarked := Tracker.plan_marked hcoherent (numberedFrom 1 lines)
  rw [format_eq] at h
  obtain ⟨steps, hfst, hwrite, hlines⟩ := exists_written h
  have hchain : (steps.map Prod.fst).IsChain Task.Follows := hfst ▸ Tracker.plan_isChain _
  have hlength : (numberedFrom 1 lines).length = (heredocMarks none lines).length := by
    rw [length_numberedFrom, length_heredocMarks]
  -- the tasks of the plan, each with what it writes, are the segments
  rw [← plan, ← hfst, List.flatMap_map, map_text_numberedFrom] at hmarked
  refine ⟨steps.map fun p => p.1.segment p.2, ?_, ?_, ?_, ?_, ?_⟩
  · have hsource := congrArg (List.map Prod.fst) hmarked
    simpa [Task.marked, List.map_flatMap, Tracker.start, List.map_fst_zip hlength.le,
      List.flatMap_map, Function.comp_def, Task.segment] using hsource
  · rw [List.flatMap_map, ← hlines]
    rfl
  · have hmarks := congrArg (List.map Prod.snd) hmarked
    simpa [Task.marked, List.map_flatMap, Tracker.start, List.map_snd_zip hlength.ge,
      List.flatMap_map, Function.comp_def, Task.segment] using hmarks
  · intro g hg
    obtain ⟨p, hp, rfl⟩ := List.mem_map.mp hg
    have hsound : p.1.IsSound :=
      Tracker.isSound_of_mem_plan hcoherent (hfst ▸ List.mem_map_of_mem hp : p.1 ∈ plan lines)
    refine ⟨?_, Task.isWritten_segment hsound (hwrite p hp)⟩
    cases p.1 <;> simp [Task.segment, Task.source]
  · rw [List.isChain_map] at hchain ⊢
    exact hchain

/-- A script with a heredoc, a command that is joined and a line on its own. -/
theorem format_segments_mixed :
    ∃ segments : List Segment,
      segments.flatMap Segment.source =
        numberedFrom 1 ["cat <<A".toList, "A".toList, "x | \\".toList, "| y".toList, "b,c".toList] ∧
      segments.flatMap Segment.output =
        ["cat <<A".toList, "A".toList, "x | y".toList, "b, c".toList] ∧
      segments.flatMap (fun g => g.source.map fun _ => g.inHeredoc) =
        [true, true, false, false, false] ∧
      (∀ g ∈ segments, g.source ≠ [] ∧ g.IsWritten .default) ∧
      segments.IsChain fun a b => 2 ≤ b.source.length → a.EndsCommand :=
  format_segments (f := ⟨["cat <<A".toList, "A".toList, "x | y".toList, "b, c".toList], 2⟩) rfl

end ShellStyle.Script
