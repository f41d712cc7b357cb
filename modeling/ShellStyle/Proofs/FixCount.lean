import ShellStyle.File.Report
import ShellStyle.Proofs.Pipes
import ShellStyle.Proofs.Stability

/-!
# Counting fixes

A run counts no fix exactly if it leaves the script as it is. That no fix means no change is seen
task by task. For the other direction, a command that is joined could be made up for by lines that
are broken elsewhere; but each joined command costs a pipe, and nothing puts one in. So a script
that comes out as it is has no joined commands, and then each task takes one line and writes at
least one, so that each writes its own line back.
-/

namespace ShellStyle

namespace Script

open Text Line

/-! ## What tasks do to the pipes -/

/-- A task keeps the pipes of its lines, or joins a command and takes a pipe out. -/
theorem Task.pipes_write [Machine] {s : Settings} {task : Task} {written : List Text}
    (hsound : task.IsSound) (h : task.write s = .ok written) :
    if task.isJoin = true then pipes written < pipes task.texts
      else pipes written = pipes task.texts := by
  cases task with
  | copy line =>
    obtain rfl : [line.text] = written := Except.ok.inj h
    rfl
  | format level mayWrap line =>
    have hline : pipes written = line.text.count '|' := Fix.pipes_line h
    simpa [isJoin, texts, source] using hline
  | join level pending terminal =>
    have hline : pipes written = (joinCommand pending terminal.text).count '|' := Fix.pipes_line h
    have hlt := count_joinCommand_lt hsound.2.2.2.2
    rw [← hline] at hlt
    simpa [isJoin, texts, source] using hlt

/-- Every joined command costs a pipe. -/
theorem pipes_writeAll [Machine] {s : Settings} {tasks : List Task} {f : Formatted}
    (hsound : ∀ task ∈ tasks, task.IsSound) (h : writeAll s tasks = .ok f) :
    pipes f.lines + tasks.countP Task.isJoin ≤ pipes (tasks.flatMap Task.texts) := by
  induction tasks generalizing f with
  | nil =>
    obtain rfl : ⟨[], 0⟩ = f := Except.ok.inj h
    exact Nat.le_refl 0
  | cons task tasks ih =>
    obtain ⟨written, others, hwrite, hothers, rfl⟩ := writeAll_cons_eq_ok.mp h
    have hnow := Task.pipes_write (hsound task List.mem_cons_self) hwrite
    have hrest := ih (fun task' hmem => hsound task' (List.mem_cons_of_mem task hmem)) hothers
    rw [Formatted.lines_append, pipes_append, List.flatMap_cons, pipes_append, List.countP_cons]
    dsimp only
    split at hnow
    · next hjoin =>
      rw [if_pos hjoin]
      omega
    · next hjoin =>
      rw [if_neg hjoin]
      omega

/-- A formatted script has no pipe that the script does not have, and one less for each command that
is joined. -/
theorem pipes_format [Machine] {s : Settings} {lines : List Text} {f : Formatted}
    (h : format s lines = .ok f) :
    pipes f.lines + (plan lines).countP Task.isJoin ≤ pipes lines := by
  rw [format_eq] at h
  have hpipes := pipes_writeAll (fun _ => isSound_of_mem_plan) h
  rwa [flatMap_texts_plan] at hpipes

/-! ## Tasks for one line each -/

theorem Task.length_texts {task : Task} (h : task.isJoin = false) : task.texts.length = 1 := by
  cases task with
  | copy line => rfl
  | format level mayWrap line => rfl
  | join level pending terminal => simp [isJoin] at h

/-- Where nothing is joined no line is lost. -/
theorem length_le_of_writeAll [Machine] {s : Settings} {tasks : List Task} {f : Formatted}
    (hjoin : ∀ task ∈ tasks, task.isJoin = false) (h : writeAll s tasks = .ok f) :
    (tasks.flatMap Task.texts).length ≤ f.lines.length := by
  induction tasks generalizing f with
  | nil => exact Nat.zero_le _
  | cons task tasks ih =>
    obtain ⟨written, others, hwrite, hothers, rfl⟩ := writeAll_cons_eq_ok.mp h
    have hpos := List.length_pos_iff.mpr (Task.write_ne_nil hwrite)
    have hrest := ih (fun task' hmem => hjoin task' (List.mem_cons_of_mem task hmem)) hothers
    rw [List.flatMap_cons, List.length_append, Task.length_texts (hjoin task List.mem_cons_self),
      Formatted.lines_append, List.length_append]
    dsimp only
    omega

/-- Where nothing is joined and the same lines come out, each task writes its line back. -/
theorem isSettled_of_writeAll_eq [Machine] {s : Settings} {tasks : List Task} {f : Formatted}
    (hjoin : ∀ task ∈ tasks, task.isJoin = false) (h : writeAll s tasks = .ok f)
    (heq : f.lines = tasks.flatMap Task.texts) : ∀ task ∈ tasks, task.IsSettled s := by
  induction tasks generalizing f with
  | nil => simp
  | cons task tasks ih =>
    obtain ⟨written, others, hwrite, hothers, rfl⟩ := writeAll_cons_eq_ok.mp h
    have hnow := hjoin task List.mem_cons_self
    have hrest := fun task' hmem => hjoin task' (List.mem_cons_of_mem task hmem)
    rw [Formatted.lines_append, List.flatMap_cons] at heq
    -- neither the first task nor the others write fewer lines than they take, so neither writes
    -- more
    have hlength : written.length = task.texts.length := by
      have htotal := congrArg List.length heq
      have hpos := List.length_pos_iff.mpr (Task.write_ne_nil hwrite)
      have hle := length_le_of_writeAll hrest hothers
      rw [List.length_append, List.length_append, Task.length_texts hnow] at htotal
      rw [Task.length_texts hnow]
      dsimp only at htotal
      omega
    obtain ⟨hwritten, hlines⟩ := List.append_inj heq hlength
    intro task' hmem
    rcases List.mem_cons.mp hmem with rfl | hmem
    · dsimp only at hwritten
      subst hwritten
      refine (Task.isSettled_iff hwrite).mpr ?_
      cases task' with
      | copy line => rfl
      | format level mayWrap line => exact if_pos rfl
      | join level pending terminal => simp [Task.isJoin] at hnow
    · exact ih hrest hothers hlines task' hmem

/-! ## The count tells the truth -/

/-- A run that changes nothing joins nothing. -/
theorem isJoin_eq_false_of_lines_eq [Machine] {s : Settings} {lines : List Text} {f : Formatted}
    (h : format s lines = .ok f) (heq : f.lines = lines) :
    ∀ task ∈ plan lines, task.isJoin = false := by
  have hpipes := pipes_format h
  rw [heq] at hpipes
  have hzero : (plan lines).countP Task.isJoin = 0 := by omega
  intro task hmem
  simpa using List.countP_eq_zero.mp hzero task hmem

/-- No fix is counted exactly if the same lines come out. -/
theorem fixes_eq_zero_iff_of_format [Machine] {s : Settings} {lines : List Text} {f : Formatted}
    (h : format s lines = .ok f) :
    f.fixes = 0 ↔ f.lines = lines := by
  have hsettled : (∀ task ∈ plan lines, task.IsSettled s) → f = ⟨lines, 0⟩ := by
    intro hall
    rw [(format_eq_self_iff s lines).mpr hall] at h
    exact (Except.ok.inj h).symm
  constructor
  · intro hfixes
    rw [format_eq] at h
    rw [hsettled (isSettled_of_fixes_eq_zero h hfixes)]
  · intro heq
    have hjoin := isJoin_eq_false_of_lines_eq h heq
    rw [format_eq] at h
    rw [hsettled (isSettled_of_writeAll_eq hjoin h (by rw [flatMap_texts_plan, heq]))]

end Script

/-! ## Reports -/

/-- What a report on a file that was read and formatted can be. -/
theorem formatFile_spec [Machine] {s : Settings} {fault : Option Fault} {rehearsal : Bool}
    {p : Path} {w w' : Workspace} {r : Report}
    (h : formatFile s fault rehearsal p w = (.ok r, w')) :
    r.status = .inputError ∧ r.success = false ∨
      ∃ source f, readScript fault w.tree p = .ok source ∧ Script.format s source.lines = .ok f ∧
        (r = Report.ofFormatted p rehearsal source.lines f ∨
          r = (Report.ofFormatted p rehearsal source.lines f).withWritten ∨
          ∃ e, r = (Report.ofFormatted p rehearsal source.lines f).withFailure e) := by
  unfold formatFile at h
  split at h
  · simp at h
  · obtain ⟨hr, -⟩ := Prod.mk.inj h
    obtain rfl := Except.ok.inj hr
    exact .inl ⟨rfl, rfl⟩
  · next source hsource =>
    dsimp only at h
    split at h
    · simp at h
    · next f hf =>
      refine .inr ⟨source, f, hsource, hf, ?_⟩
      split at h
      · obtain ⟨hr, -⟩ := Prod.mk.inj h
        exact .inr (.inl (Except.ok.inj hr).symm)
      · obtain ⟨hr, -⟩ := Prod.mk.inj h
        exact .inl (Except.ok.inj hr).symm
      · next e _ _ =>
        obtain ⟨hr, -⟩ := Prod.mk.inj h
        exact .inr (.inr ⟨e, (Except.ok.inj hr).symm⟩)

/-- The status before anything is written says whether the lines are the same. -/
theorem Report.status_ofFormatted (p : Path) (rehearsal : Bool) (before : List Text)
    (f : Script.Formatted) :
    (Report.ofFormatted p rehearsal before f).status = .unchanged ↔ f.lines = before := by
  rw [Report.ofFormatted]
  dsimp only
  split
  · next heq => simp [heq]
  · next hne =>
    cases rehearsal <;> simp [hne]

/-- The number of fixes tells the truth about change. Whenever a script can be formatted, no fix is
counted exactly if the formatted script is the script; and a file is reported as unchanged exactly
if the report is a success that counts no fix. -/
theorem fixes_eq_zero_iff [Machine] (s : Settings) :
    (∀ lines f, Script.format s lines = .ok f → (f.fixes = 0 ↔ f.lines = lines)) ∧
      ∀ fault rehearsal p w r w', formatFile s fault rehearsal p w = (.ok r, w') →
        (r.status = .unchanged ↔ r.success = true ∧ r.fixes = 0) := by
  refine ⟨fun lines f => Script.fixes_eq_zero_iff_of_format, fun fault rehearsal p w r w' h => ?_⟩
  rcases formatFile_spec h with ⟨hstatus, hsuccess⟩ | ⟨source, f, -, hf, hr⟩
  · simp [hstatus, hsuccess]
  · have hstatus := Report.status_ofFormatted p rehearsal source.lines f
    rw [← Script.fixes_eq_zero_iff_of_format hf] at hstatus
    rcases hr with rfl | rfl | ⟨e, rfl⟩
    · simpa [Report.success, Report.ofFormatted] using hstatus
    · simpa [Report.success, Report.withWritten, Report.ofFormatted] using hstatus
    · simp [Report.success, Report.withFailure]

/-- A command that is joined, and a file that is reported as unchanged and stays as it is. -/
theorem fixes_eq_zero_iff_joined :
    (Script.format .default ["x | \\".toList, "| y".toList] = .ok ⟨["x | y".toList], 1⟩ ∧
        (1 = 0 ↔ ["x | y".toList] = ["x | \\".toList, "| y".toList])) ∧
      ∃ r w', formatFile .default none false ⟨[], [['a']]⟩
          ⟨[([['a']], .file [0x78, 0x0a] 420)], []⟩ = (.ok r, w') ∧
        r.success = true ∧ r.fixes = 0 ∧ r.status = .unchanged ∧
        w'.tree.entry? [['a']] = some (.file [0x78, 0x0a] 420) := by
  have h : Script.format .default ["x | \\".toList, "| y".toList] = .ok ⟨["x | y".toList], 1⟩ := rfl
  obtain ⟨r, w', hfile, hsuccess, hfixes, hentry⟩ : ∃ r w', formatFile .default none false
        ⟨[], [['a']]⟩ ⟨[([['a']], .file [0x78, 0x0a] 420)], []⟩ = (.ok r, w') ∧
      r.success = true ∧ r.fixes = 0 ∧
      w'.tree.entry? [['a']] = some (.file [0x78, 0x0a] 420) := ⟨_, _, rfl, rfl, rfl, rfl⟩
  have hstatus := ((fixes_eq_zero_iff .default).2 _ _ _ _ _ _ hfile).mpr ⟨hsuccess, hfixes⟩
  exact ⟨⟨h, (fixes_eq_zero_iff .default).1 _ _ h⟩, r, w', hfile, hsuccess, hfixes, hstatus, hentry⟩

end ShellStyle
