import ShellStyle.Proofs.Plan

/-!
# Heredocs pass through

A heredoc in the middle of a script comes out line for line. The lines before it are formatted as if
the script ended there, the lines behind it as if a script began there at the level that the lines
before it have reached; neither part depends on what the heredoc says.
-/

namespace ShellStyle.Script

open Text Line

/-! ## Plans of longer scripts -/

namespace Tracker

/-- The plan for some lines and what follows them, up to the lines that are still put off between
the two. -/
theorem plan_append_of_opener (t : Tracker) (xs : List NumberedLine) (opener : NumberedLine)
    (ys : List NumberedLine) (houtside : (t.after xs).heredoc = none)
    (hopens : context opener.text = .heredocStart) :
    t.plan (xs ++ opener :: ys) = t.plan xs ++ .copy opener ::
      ((t.after xs).flushed.enter (heredocDelimiter opener.text)).plan ys := by
  induction xs generalizing t with
  | nil =>
    have hnone : t.heredoc = none := houtside
    simp [plan, tasks, next, after, hnone, hopens]
  | cons x xs ih =>
    rw [List.cons_append, plan, plan, after, ih (t.next x) houtside, List.append_assoc]

/-- Inside a heredoc every line is copied, and nothing else changes until the heredoc ends. -/
theorem plan_heredoc (delimiter : Text) (level : Int) (body : List NumberedLine)
    (ending : NumberedLine) (ys : List NumberedLine)
    (hbody : ∀ line ∈ body, endsHeredoc line.text delimiter = false)
    (hends : endsHeredoc ending.text delimiter = true) :
    plan ⟨true, delimiter, level, []⟩ (body ++ ending :: ys) =
      body.map .copy ++ .copy ending :: plan ⟨false, [], level, []⟩ ys := by
  induction body with
  | nil => simp [plan, tasks, next, hends, leave]
  | cons line body ih =>
    have hline := hbody line List.mem_cons_self
    have hrest := ih fun line' h => hbody line' (List.mem_cons_of_mem line h)
    simp [plan, tasks, next, hline, hrest]

end Tracker

/-! ## Numbers do not matter -/

/-- The line with a number that is `k` greater. -/
def NumberedLine.shift (k : Int) (line : NumberedLine) : NumberedLine :=
  ⟨line.number + k, line.text⟩

@[simp] theorem NumberedLine.shift_text (k : Int) (line : NumberedLine) :
    (line.shift k).text = line.text := rfl

/-- The memory with the lines put off renumbered. -/
def Tracker.shift (k : Int) (t : Tracker) : Tracker :=
  ⟨t.inHeredoc, t.delimiter, t.level, t.pending.map (NumberedLine.shift k)⟩

/-- The task with its lines renumbered. -/
def Task.shift (k : Int) : Task → Task
  | copy line => copy (line.shift k)
  | format level mayWrap line => format level mayWrap (line.shift k)
  | join level pending terminal =>
    join level (pending.map (NumberedLine.shift k)) (terminal.shift k)

/-- Counting from a later number moves all numbers. -/
theorem numberedFrom_add (n k : Int) (lines : List Text) :
    numberedFrom (n + k) lines = (numberedFrom n lines).map (NumberedLine.shift k) := by
  induction lines generalizing n with
  | nil => rfl
  | cons text rest ih =>
    rw [numberedFrom, numberedFrom, show n + k + 1 = n + 1 + k by omega, ih]
    rfl

/-- A command is joined from its texts alone. -/
theorem joinCommand_shift (k : Int) (pending : List NumberedLine) (terminal : Text) :
    joinCommand (pending.map (NumberedLine.shift k)) terminal = joinCommand pending terminal := by
  unfold joinCommand
  cases pending <;> simp [Function.comp_def]

/-- Whether a command meets in pipes depends on its texts alone. -/
theorem meetsInPipes_shift (k : Int) (pending : List NumberedLine) (terminal : Text) :
    meetsInPipes (pending.map (NumberedLine.shift k)) terminal = meetsInPipes pending terminal := by
  simp only [meetsInPipes, List.getLast?_map]
  cases pending.getLast? <;> rfl

/-- A renumbered task writes the same lines. -/
theorem Task.write_shift [Machine] (s : Settings) (k : Int) (task : Task) :
    (task.shift k).write s = task.write s := by
  cases task with
  | copy line => rfl
  | format level mayWrap line => rfl
  | join level pending terminal => rw [Task.shift, Task.write, joinCommand_shift]; rfl

/-- A renumbered task counts the same fixes. -/
theorem Task.fixes_shift (k : Int) (task : Task) (written : List Text) :
    (task.shift k).fixes written = task.fixes written := by
  cases task <;> rfl

/-- Tasks write the same whatever the numbers of their lines are. -/
theorem writeAll_map_shift [Machine] (s : Settings) (k : Int) (xs : List Task) :
    writeAll s (xs.map (Task.shift k)) = writeAll s xs := by
  induction xs with
  | nil => rfl
  | cons task xs ih =>
    rw [List.map_cons, writeAll, writeAll, ih, Task.write_shift]
    simp only [Task.fixes_shift]

namespace Tracker

/-- Going over a line does not look at numbers. -/
theorem pass_shift (k : Int) (t : Tracker) (line : Text) :
    (t.shift k).pass line = (t.pass line).shift k := by
  unfold pass dedent indent
  split <;> split <;> rfl

theorem passAll_shift (k : Int) (t : Tracker) (lines : List NumberedLine) :
    (t.shift k).passAll (lines.map (NumberedLine.shift k)) = (t.passAll lines).shift k := by
  induction lines generalizing t with
  | nil => rfl
  | cons line rest ih =>
    rw [List.map_cons, passAll, NumberedLine.shift_text, pass_shift, ih, passAll]

theorem dedent_level_shift (k : Int) (t : Tracker) (line : Text) :
    ((t.shift k).dedent line).level = (t.dedent line).level := by
  unfold dedent
  split <;> rfl

/-- Lines that were put off make the same tasks whatever their numbers are. -/
theorem groupTasks_shift (k : Int) (extra : Nat) (t : Tracker) (lines : List NumberedLine) :
    groupTasks extra (t.shift k) (lines.map (NumberedLine.shift k)) =
      (groupTasks extra t lines).map (Task.shift k) := by
  induction lines generalizing extra t with
  | nil => rfl
  | cons line rest ih =>
    rw [List.map_cons, groupTasks, groupTasks, NumberedLine.shift_text, pass_shift, ih,
      dedent_level_shift]
    rfl

theorem clear_shift (k : Int) (t : Tracker) : (t.shift k).clear = t.clear.shift k := rfl

theorem flushTasks_shift (k : Int) (t : Tracker) :
    (t.shift k).flushTasks = t.flushTasks.map (Task.shift k) :=
  groupTasks_shift k 0 t.clear t.pending

theorem flushed_shift (k : Int) (t : Tracker) : (t.shift k).flushed = t.flushed.shift k :=
  passAll_shift k t.clear t.pending

/-- What is done at a line does not depend on its number. -/
theorem tasks_shift (k : Int) (t : Tracker) (line : NumberedLine) :
    (t.shift k).tasks (line.shift k) = (t.tasks line).map (Task.shift k) := by
  unfold tasks
  rw [show (t.shift k).heredoc = t.heredoc from rfl, NumberedLine.shift_text]
  cases t.heredoc with
  | some delimiter => rfl
  | none =>
    dsimp only
    rw [show (t.shift k).pending = t.pending.map (NumberedLine.shift k) from rfl, clear_shift,
      meetsInPipes_shift, joinCommand_shift, List.isEmpty_map, dedent_level_shift,
      dedent_level_shift]
    split
    · rw [List.map_append, flushTasks_shift]
      rfl
    · split
      · rfl
      · split
        · rfl
        · split
          · rfl
          · simpa using groupTasks_shift k 0 t.clear (t.pending ++ [line])

/-- What is remembered behind a line does not depend on its number. -/
theorem next_shift (k : Int) (t : Tracker) (line : NumberedLine) :
    (t.shift k).next (line.shift k) = (t.next line).shift k := by
  unfold next
  rw [show (t.shift k).heredoc = t.heredoc from rfl, NumberedLine.shift_text]
  cases t.heredoc with
  | some delimiter =>
    dsimp only
    split <;> rfl
  | none =>
    dsimp only
    rw [show (t.shift k).pending = t.pending.map (NumberedLine.shift k) from rfl, clear_shift,
      meetsInPipes_shift, joinCommand_shift, List.isEmpty_map]
    split
    · rw [flushed_shift]
      rfl
    · split
      · simp [push, shift]
      · split
        · exact pass_shift k t line.text
        · split
          · exact pass_shift k t.clear _
          · simpa using passAll_shift k t.clear (t.pending ++ [line])

/-- Renumbering the lines renumbers the tasks. -/
theorem plan_shift (k : Int) (t : Tracker) (lines : List NumberedLine) :
    (t.shift k).plan (lines.map (NumberedLine.shift k)) = (t.plan lines).map (Task.shift k) := by
  induction lines generalizing t with
  | nil => exact flushTasks_shift k t
  | cons line rest ih =>
    rw [List.map_cons, plan, plan, tasks_shift, next_shift, ih, List.map_append]

end Tracker

/-- Formatting does not depend on where the lines stand in their file. -/
theorem writeAll_plan_numberedFrom [Machine] (s : Settings) (n : Int) (level : Int)
    (lines : List Text) :
    writeAll s (Tracker.plan ⟨false, [], level, []⟩ (numberedFrom n lines)) =
      formatFrom s level lines := by
  rw [formatFrom_eq, show n = 1 + (n - 1) by omega, numberedFrom_add]
  exact (congrArg (writeAll s) (Tracker.plan_shift (n - 1) ⟨false, [], level, []⟩ _)).trans
    (writeAll_map_shift s (n - 1) _)

/-! ## The memory of a run -/

/-- A step that returns remembers what the plan does. -/
theorem step_tracker [Machine] {s : Settings} {r r' : Run} {line : NumberedLine}
    (h : step s r line = .ok r') :
    r'.tracker = r.tracker.next line := by
  rw [step_eq] at h
  cases hw : writeAll s (r.tracker.tasks line) with
  | error e => simp [hw, Except.map] at h
  | ok written =>
    simp only [hw, Except.map, Except.ok.injEq] at h
    rw [← h, Run.extend]

/-- What a run remembers depends on the lines alone. -/
theorem stepsFrom_tracker [Machine] {s : Settings} {n : Int} {r r' : Run} {lines : List Text}
    (h : stepsFrom s n r lines = .ok r') : r'.tracker = r.tracker.after (numberedFrom n lines) := by
  induction lines generalizing n r with
  | nil =>
    rw [stepsFrom, Except.ok.injEq] at h
    rw [← h]
    rfl
  | cons text rest ih =>
    rw [stepsFrom] at h
    cases hstep : step s r ⟨n, text⟩ with
    | error e => simp [hstep, bind, Except.bind] at h
    | ok next =>
      simp only [hstep, bind, Except.bind] at h
      rw [ih h, step_tracker hstep]
      rfl

/-- Writing what was put off leaves nothing put off. -/
theorem flush_tracker [Machine] {s : Settings} {r p : Run} (h : flush s r = .ok p) :
    p.tracker = r.tracker.flushed := by
  rw [flush_eq] at h
  cases hw : writeAll s r.tracker.flushTasks with
  | error e => simp [hw, Except.map] at h
  | ok written =>
    simp only [hw, Except.map, Except.ok.injEq] at h
    rw [← h, Run.extend]

/-! ## A heredoc in a script -/

/-- Copying lines writes them as they are and counts no fix. -/
theorem writeAll_map_copy [Machine] (s : Settings) (lines : List NumberedLine) :
    writeAll s (lines.map .copy) = .ok ⟨lines.map NumberedLine.text, 0⟩ := by
  induction lines with
  | nil => rfl
  | cons line rest ih => rw [List.map_cons, writeAll, ih]; rfl

/-- The plan of a script with a heredoc in it: the plan of the lines before it, its own lines
copied, and the plan of the lines behind it from the level that the lines before it have reached. -/
theorem plan_heredoc_block {pre body : List Text} (post : List Text) {opener ending : Text}
    (houtside : (Tracker.start.after (numberedFrom 1 pre)).heredoc = none)
    (hopens : context opener = .heredocStart)
    (hbody : ∀ line ∈ body, endsHeredoc line (heredocDelimiter opener) = false)
    (hends : endsHeredoc ending (heredocDelimiter opener) = true) :
    ∃ (n k : Int), plan (pre ++ [opener] ++ body ++ [ending] ++ post) =
      plan pre ++ (numberedFrom n ([opener] ++ body ++ [ending])).map .copy ++
        Tracker.plan ⟨false, [], (Tracker.start.after (numberedFrom 1 pre)).flushed.level, []⟩
          (numberedFrom k post) := by
  refine ⟨1 + pre.length, 1 + pre.length + 1 + body.length + 1, ?_⟩
  -- the opening line writes what was put off, and the level then is that behind the heredoc
  have hstate : (Tracker.start.after (numberedFrom 1 pre)).flushed.enter (heredocDelimiter opener) =
      ⟨true, heredocDelimiter opener,
          (Tracker.start.after (numberedFrom 1 pre)).flushed.level, []⟩ := by
    simp [Tracker.enter]
  have hlines : pre ++ [opener] ++ body ++ [ending] ++ post =
      pre ++ opener :: (body ++ ending :: post) := by
    simp
  have hbody' : ∀ line ∈ numberedFrom (1 + pre.length + 1) body,
      endsHeredoc line.text (heredocDelimiter opener) = false := by
    intro line hline
    apply hbody
    rw [← map_text_numberedFrom (1 + pre.length + 1) body]
    exact List.mem_map_of_mem hline
  rw [plan, hlines, numberedFrom_append, numberedFrom, numberedFrom_append, numberedFrom,
    Tracker.plan_append_of_opener _ _ _ _ houtside hopens, hstate,
    Tracker.plan_heredoc _ _ _ ⟨_, ending⟩ _ hbody' hends, plan]
  simp [numberedFrom, numberedFrom_append]

/-- A heredoc comes out line for line and influences nothing else. The lines before it come out as
they do on their own; what is written for the lines behind it, and the fixes made there, depend on
the settings, on those lines and on the level that the lines before the heredoc have reached. -/
theorem format_heredoc_block [Machine] {s : Settings} {pre body post : List Text}
    {opener ending : Text} {r p : Run} (hrun : stepsFrom s 1 Run.start pre = .ok r)
    (houtside : r.tracker.heredoc = none) (hflush : flush s r = .ok p)
    (hopens : context opener = .heredocStart)
    (hbody : ∀ line ∈ body, endsHeredoc line (heredocDelimiter opener) = false)
    (hends : endsHeredoc ending (heredocDelimiter opener) = true) :
    format s pre = .ok ⟨p.lines, p.fixes⟩ ∧
      format s (pre ++ [opener] ++ body ++ [ending] ++ post) =
        (formatFrom s p.tracker.level post).map fun rest =>
          ⟨p.lines ++ [opener] ++ body ++ [ending] ++ rest.lines, p.fixes + rest.fixes⟩ := by
  have hpre : format s pre = .ok ⟨p.lines, p.fixes⟩ := by
    simp [format, hrun, hflush, bind, Except.bind, pure, Except.pure]
  have htracker : r.tracker = Tracker.start.after (numberedFrom 1 pre) := stepsFrom_tracker hrun
  refine ⟨hpre, ?_⟩
  obtain ⟨n, k, hplan⟩ := plan_heredoc_block post (htracker ▸ houtside) hopens hbody hends
  rw [format_eq, hplan, writeAll_append, writeAll_append, ← format_eq, hpre, writeAll_map_copy,
    map_text_numberedFrom, writeAll_plan_numberedFrom, ← htracker, ← flush_tracker hflush]
  cases formatFrom s p.tracker.level post with
  | error e => rfl
  | ok rest =>
    simp only [bind, Except.bind, pure, Except.pure, Except.map, Except.ok.injEq]
    ext <;> simp

/-- A command that is still continued when the heredoc opens, and a body that looks like the end of
a block. -/
theorem format_heredoc_block_pending :
    format .default ["if x; then".toList, "a,b \\".toList] =
        .ok ⟨["if x; then".toList, "  a, b \\".toList], 1⟩ ∧
      format .default (["if x; then".toList, "a,b \\".toList] ++ ["cat <<EOF".toList] ++
          ["fi".toList, "c \\".toList] ++ ["EOF".toList] ++ ["d,e".toList]) =
        (formatFrom .default 1 ["d,e".toList]).map fun rest =>
          ⟨["if x; then".toList, "  a, b \\".toList] ++ ["cat <<EOF".toList] ++
            ["fi".toList, "c \\".toList] ++ ["EOF".toList] ++ rest.lines, 1 + rest.fixes⟩ :=
  format_heredoc_block
    (r := ⟨⟨false, [], 1, [⟨2, "a,b \\".toList⟩]⟩, ["if x; then".toList], 0⟩)
    (p := ⟨⟨false, [], 1, []⟩, ["if x; then".toList, "  a, b \\".toList], 1⟩)
    rfl rfl rfl (by decide) (by decide) (by decide)

end ShellStyle.Script
