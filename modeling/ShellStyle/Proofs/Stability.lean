import ShellStyle.Proofs.HeredocReading
import ShellStyle.Proofs.Parts

/-!
# Formatting twice

A formatted script is stable if formatting it again changes nothing. Formatting again carries out
the plan of the formatted lines, so the script is stable if every task of that plan writes its line
back. As long as the heredocs are what they were, most of what could happen does not: no spaces are
put in and no line is broken. What is left is that a command is joined, that brackets are doubled,
and that a line is indented differently.
-/

namespace ShellStyle.Script

open Text Line

/-! ## Tasks that write their line back -/

namespace Task

/-- A task that changes nothing. Joining is a change in any case. -/
def IsSettled [Machine] (s : Settings) : Task → Prop
  | copy _ => True
  | format level mayWrap line => Fix.line s level false mayWrap line.text = .ok [line.text]
  | join _ _ _ => False

/-- The texts of the lines that a task takes care of. -/
def texts (task : Task) : List Text :=
  task.source.map NumberedLine.text

/-- A task counts no fix for what it writes exactly if it is settled. -/
theorem isSettled_iff [Machine] {s : Settings} {task : Task} {written : List Text}
    (h : task.write s = .ok written) :
    task.IsSettled s ↔ task.fixes written = 0 := by
  cases task with
  | copy line => simp [IsSettled, fixes]
  | join level pending terminal => simp [IsSettled, fixes]
  | format level mayWrap line =>
    replace h : Fix.line s level false mayWrap line.text = .ok written := h
    rw [IsSettled, fixes, h, Except.ok.injEq]
    split <;> simp [*]

theorem IsSettled.write [Machine] {s : Settings} {task : Task} (h : task.IsSettled s) :
    task.write s = .ok task.texts := by
  cases task with
  | copy line => rfl
  | format level mayWrap line => exact h
  | join level pending terminal => exact h.elim

end Task

/-- Settled tasks write their lines back. -/
theorem writeAll_of_isSettled [Machine] {s : Settings} {tasks : List Task}
    (h : ∀ task ∈ tasks, task.IsSettled s) :
    writeAll s tasks = .ok ⟨tasks.flatMap Task.texts, 0⟩ := by
  induction tasks with
  | nil => rfl
  | cons task tasks ih =>
    have hnow := h task List.mem_cons_self
    have hrest := ih fun task' hmem => h task' (List.mem_cons_of_mem task hmem)
    refine writeAll_cons_eq_ok.mpr ⟨task.texts, _, hnow.write, hrest, ?_⟩
    rw [(Task.isSettled_iff hnow.write).mp hnow]
    rfl

/-- Tasks that count no fix altogether are settled. -/
theorem isSettled_of_fixes_eq_zero [Machine] {s : Settings} {tasks : List Task} {f : Formatted}
    (h : writeAll s tasks = .ok f) (hfixes : f.fixes = 0) : ∀ task ∈ tasks, task.IsSettled s := by
  induction tasks generalizing f with
  | nil => simp
  | cons task tasks ih =>
    obtain ⟨written, others, hwrite, hothers, rfl⟩ := writeAll_cons_eq_ok.mp h
    rw [Formatted.fixes_append, Nat.add_eq_zero_iff] at hfixes
    intro task' hmem
    rcases List.mem_cons.mp hmem with rfl | hmem
    · exact (Task.isSettled_iff hwrite).mpr hfixes.1
    · exact ih hothers hfixes.2 task' hmem

/-- Carrying out tasks changes nothing exactly if each of them is settled. -/
theorem writeAll_eq_self_iff [Machine] {s : Settings} {tasks : List Task} :
    writeAll s tasks = .ok ⟨tasks.flatMap Task.texts, 0⟩ ↔ ∀ task ∈ tasks, task.IsSettled s :=
  ⟨fun h => isSettled_of_fixes_eq_zero h rfl, writeAll_of_isSettled⟩

/-- The lines that a plan takes care of are those of the script. -/
theorem flatMap_texts_plan (lines : List Text) : (plan lines).flatMap Task.texts = lines :=
  calc (plan lines).flatMap Task.texts
    _ = (((plan lines).flatMap Task.marked).map (Prod.map NumberedLine.text id)).map Prod.fst := by
      change (plan lines).flatMap (fun task => task.source.map NumberedLine.text) = _
      simp [Task.marked, List.map_flatMap, Function.comp_def]
    _ = lines := by
      rw [plan_marked_texts, List.map_fst_zip (Nat.le_of_eq (length_heredocMarks none lines).symm)]

/-- Formatting leaves a script as it is exactly if every task of its plan is settled. -/
theorem format_eq_self_iff [Machine] (s : Settings) (lines : List Text) :
    format s lines = .ok ⟨lines, 0⟩ ↔ ∀ task ∈ plan lines, task.IsSettled s := by
  rw [format_eq, ← writeAll_eq_self_iff, flatMap_texts_plan]

/-! ## Lines that may be broken when a script is formatted again -/

/-- Whether a text goes on in the next line. -/
def goesOn (text : Text) : Bool :=
  isContinued text && !isComment text

/-- Whether a line is passed over or short enough to stay unbroken. -/
def IsFree [Machine] (s : Settings) (text : Text) : Prop :=
  (context text).isInert = true ∨ Fix.wrap s text = .ok [text]

/-- Every task for a single line that does not go on may break it or stands behind a line that goes
on; `led` is whether the line before the tasks does. -/
def TasksLed : Bool → List Task → Prop
  | _, [] => True
  | _, .copy _ :: tasks => TasksLed false tasks
  | led, .format _ mayWrap line :: tasks =>
    (led = true ∨ goesOn line.text = true ∨ mayWrap = true) ∧ TasksLed (goesOn line.text) tasks
  | _, .join _ _ _ :: tasks => TasksLed false tasks

/-- Every line outside of heredocs that does not go on is free or stands behind a line that goes on;
`led` is whether the line before them does. -/
def LinesLed [Machine] (s : Settings) : Bool → List (Text × Bool) → Prop
  | _, [] => True
  | _, (_, true) :: lines => LinesLed s false lines
  | led, (text, false) :: lines =>
    (led = true ∨ goesOn text = true ∨ IsFree s text) ∧ LinesLed s (goesOn text) lines

theorem tasksLed_append {xs ys : List Task} {led : Bool} (hxs : TasksLed led xs)
    (hys : ∀ led, TasksLed led ys) :
    TasksLed led (xs ++ ys) := by
  induction xs generalizing led with
  | nil => exact hys led
  | cons task xs ih =>
    cases task with
    | copy line => exact ih hxs
    | format level mayWrap line => exact ⟨hxs.1, ih hxs.2⟩
    | join level pending terminal => exact ih hxs

/-- The tasks for lines that go on, and perhaps for a last line behind them. -/
theorem tasksLed_groupTasks {lines : List NumberedLine} (h : ∀ line ∈ lines, line.goesOn = true)
    (extra : Nat) (t : Tracker) (led : Bool) :
    TasksLed led (groupTasks extra t lines) ∧
      ∀ last, led = true ∨ lines ≠ [] → TasksLed led (groupTasks extra t (lines ++ [last])) := by
  induction lines generalizing extra t led with
  | nil =>
    refine ⟨trivial, fun last hled => ⟨.inl ?_, trivial⟩⟩
    simpa using hled
  | cons line lines ih =>
    have hline : goesOn line.text = true := h line List.mem_cons_self
    obtain ⟨hled, hlast⟩ :=
      ih (fun l hl => h l (List.mem_cons_of_mem line hl)) 1 (t.pass line.text) true
    constructor
    · exact ⟨.inr (.inl hline), by rw [hline]; exact hled⟩
    · exact fun last _ => ⟨.inr (.inl hline), by rw [hline]; exact hlast last (.inl rfl)⟩

namespace Tracker

/-- The tasks for a line are led. -/
theorem tasksLed_tasks {t : Tracker} (h : t.Coherent) (line : NumberedLine) (led : Bool) :
    TasksLed led (t.tasks line) := by
  have hadvance := t.advance line
  generalize t.tasks line = tasks, t.next line = u at hadvance ⊢
  cases hadvance with
  | heredoc => trivial
  | opener => exact tasksLed_append (tasksLed_groupTasks h.goesOn 0 t.clear led).1 fun _ => trivial
  | putOff => trivial
  | single => exact ⟨.inr (.inr rfl), trivial⟩
  | joined => trivial
  | group _ _ _ hpending =>
    exact (tasksLed_groupTasks h.goesOn 0 t.clear led).2 line (.inr hpending)

/-- The tasks of a plan are led. -/
theorem tasksLed_plan {t : Tracker} (h : t.Coherent) (lines : List NumberedLine) (led : Bool) :
    TasksLed led (t.plan lines) := by
  induction lines generalizing t led with
  | nil => exact (tasksLed_groupTasks h.goesOn 0 t.clear led).1
  | cons line lines ih =>
    exact tasksLed_append (tasksLed_tasks h line led) fun led => ih (h.next line) led

end Tracker

/-- What a line comes out as is led if the line is, and so are the lines behind it. -/
theorem linesLed_line [Machine] {s : Settings} {level : Int} {mayWrap : Bool} {text : Text}
    {written : List Text} (h : Fix.line s level false mayWrap text = .ok written) {led : Bool}
    (hled : led = true ∨ goesOn text = true ∨ mayWrap = true) {rest : List (Text × Bool)}
    (hrest : ∀ led, (goesOn text = true → led = true) → LinesLed s led rest) :
    LinesLed s led (written.map (fun u => (u, false)) ++ rest) := by
  rcases Fix.line_singleton_or_pair h with ⟨u, rfl⟩ | hpair
  · have hkept := Fix.line_isKept h
    have hgoesOn : goesOn u = goesOn text := by
      rw [goesOn, goesOn, hkept.isContinued, hkept.isComment]
    refine ⟨?_, hrest _ (by rw [hgoesOn]; exact id)⟩
    rw [hgoesOn]
    refine hled.imp_right fun hled => hled.imp_right fun hwrap => ?_
    subst hwrap
    exact Fix.wrap_eq_self h
  -- the second part of a broken line is led by the first
  · obtain ⟨hcontinued, head, tail, rfl, hhead, hcomment⟩ := Fix.exists_parts h hpair
    have hends : goesOn text = false := by simp [goesOn, hcontinued]
    have hleads : goesOn head = true := by simp [goesOn, hhead, hcomment]
    exact ⟨.inr (.inl hleads), .inl hleads, hrest _ (by simp [hends])⟩

/-- What led tasks write is led. -/
theorem linesLed_markedOutput [Machine] {s : Settings} {steps : List (Task × List Text)}
    (hwrite : ∀ p ∈ steps, p.1.write s = .ok p.2) {led : Bool}
    (h : TasksLed led (steps.map Prod.fst)) {led' : Bool} (hled : led = true → led' = true) :
    LinesLed s led' (markedOutput steps) := by
  induction steps generalizing led led' with
  | nil => trivial
  | cons p steps ih =>
    obtain ⟨task, written⟩ := p
    have hnow := hwrite (task, written) List.mem_cons_self
    have hrest :=
      fun {led} h {led'} hled => @ih (fun q hq => hwrite q (List.mem_cons_of_mem _ hq))
        led h led' hled
    cases task with
    | copy line =>
      obtain rfl : [line.text] = written := Except.ok.inj hnow
      exact hrest h id
    | format level mayWrap line =>
      exact linesLed_line hnow (h.1.imp_left hled) fun _ hgoesOn => hrest h.2 hgoesOn
    | join level pending terminal =>
      exact linesLed_line hnow (.inr (.inr rfl)) fun _ _ => hrest h (by simp)

theorem not_mem_groupTasks {level : Int} {line : NumberedLine} (extra : Nat) (t : Tracker)
    (lines : List NumberedLine) : Task.format level true line ∉ groupTasks extra t lines := by
  induction lines generalizing extra t with
  | nil => simp [groupTasks]
  | cons first rest ih =>
    rw [groupTasks, List.mem_cons, not_or]
    exact ⟨by simp, ih 1 (t.pass first.text)⟩

namespace Tracker

/-- A line may be broken only if it stands outside of heredocs and no command is put off before
it. -/
theorem eq_of_mem_tasks {t : Tracker} {first line : NumberedLine} {level : Int}
    (h : Task.format level true line ∈ t.tasks first) :
    line = first ∧ t.heredoc = none ∧ context first.text ≠ .heredocStart ∧
      goesOn first.text = false ∧
      t.pending = [] := by
  have hadvance := t.advance first
  generalize t.tasks first = tasks, t.next first = u at hadvance h
  cases hadvance with
  | heredoc => simp at h
  | opener =>
    rcases List.mem_append.mp h with h | h
    · exact absurd h (not_mem_groupTasks _ _ _)
    · simp at h
  | putOff => simp at h
  | single hheredoc hopener hends hpending =>
    obtain ⟨-, rfl⟩ : level = _ ∧ line = first := by simpa using h
    exact ⟨rfl, hheredoc, hopener, hends, hpending⟩
  | joined => simp at h
  | group => exact absurd h (not_mem_groupTasks _ _ _)

/-- Behind a line that goes on a command is put off. -/
theorem pending_next_ne_nil {t : Tracker} {line : NumberedLine} (hh : t.heredoc = none)
    (hopener : context line.text ≠ .heredocStart) (hgoesOn : goesOn line.text = true) :
    (t.next line).pending ≠ [] := by
  rw [goesOn] at hgoesOn
  simp only [next, hh, hopener, hgoesOn, if_true, if_false, push]
  exact List.concat_ne_nil line t.pending

end Tracker

/-- Where the lines are led, a plan lets only those be broken that stay unbroken. -/
theorem isFree_of_mem_plan [Machine] {s : Settings} {t : Tracker} {lines : List NumberedLine}
    {led : Bool}
    (hlines : LinesLed s led ((lines.map NumberedLine.text).zip
      (heredocMarks t.heredoc (lines.map NumberedLine.text))))
    (hled : led = true → t.pending ≠ []) {level : Int} {line : NumberedLine}
    (hmem : Task.format level true line ∈ t.plan lines) : IsFree s line.text := by
  induction lines generalizing t led with
  | nil => exact absurd hmem (not_mem_groupTasks _ _ _)
  | cons first rest ih =>
    rw [Tracker.plan, List.mem_append] at hmem
    rw [List.map_cons, heredocMarks, List.zip_cons_cons, ← Tracker.next_heredoc] at hlines
    cases hmark : t.heredoc.isSome || context first.text == .heredocStart with
    | true =>
      rw [hmark] at hlines
      rcases hmem with hnow | hlater
      · obtain ⟨-, hh, hopener, -⟩ := Tracker.eq_of_mem_tasks hnow
        simp [hh, hopener] at hmark
      · exact ih hlines (by simp) hlater
    | false =>
      rw [hmark] at hlines
      obtain ⟨hfirst, hrest⟩ := hlines
      rcases hmem with hnow | hlater
      · obtain ⟨rfl, -, -, hends, hempty⟩ := Tracker.eq_of_mem_tasks hnow
        -- nothing is put off, so the line before this one does not go on
        rcases hfirst with hbefore | hgoesOn | hfree
        · exact absurd hempty (hled hbefore)
        · simp [hends] at hgoesOn
        · exact hfree
      · obtain ⟨hh, hopener⟩ : t.heredoc = none ∧ context first.text ≠ .heredocStart := by
          simpa using hmark
        exact ih hrest (Tracker.pending_next_ne_nil hh hopener) hlater

/-! ## Stable scripts -/

/-- A task for a line of a formatted script that changes nothing: the line is passed over, or its
brackets and its indentation are what they should be. -/
def Task.IsStable [Machine] (s : Settings) : Task → Prop
  | copy _ => True
  | format level _ line =>
    (context line.text).isInert = true ∨
      Fix.brackets s line.text = line.text ∧ Fix.indentation s level false line.text = .ok line.text
  | join _ _ _ => False

instance [Machine] (s : Settings) : DecidablePred (Task.IsStable s)
  | .copy _ => isTrue trivial
  | .format level _ line =>
    inferInstanceAs (Decidable ((context line.text).isInert = true ∨
      Fix.brackets s line.text = line.text ∧
        Fix.indentation s level false line.text = .ok line.text))
  | .join _ _ _ => isFalse id

/-- A line outside of heredocs in a formatted script is passed over or has nothing to space. -/
theorem isSpaced_of_mem_markedOutput [Machine] {s : Settings} {steps : List (Task × List Text)}
    (hwrite : ∀ p ∈ steps, p.1.write s = .ok p.2) {text : Text}
    (hmem : (text, false) ∈ markedOutput steps) :
    (context text).isInert = true ∨ Fix.IsSpaced s text := by
  obtain ⟨⟨task, written⟩, hp, hmem⟩ := List.mem_flatMap.mp hmem
  obtain ⟨u, hu, heq⟩ := List.mem_map.mp hmem
  obtain ⟨rfl, hcopy⟩ := Prod.mk.inj heq
  have hnow := hwrite _ hp
  cases task with
  | copy line => simp [Task.isCopy] at hcopy
  | format level mayWrap line => exact Fix.line_isSpaced hnow u hu
  | join level pending terminal => exact Fix.line_isSpaced hnow u hu

/-- As long as the heredocs are what they were, a task of a formatted script is settled if it is
stable. -/
theorem isSettled_iff_isStable [Machine] {s : Settings} {lines : List Text} {f : Formatted}
    (h : format s lines = .ok f) (hsame : heredocs f.lines = heredocs lines) {task : Task}
    (hmem : task ∈ plan f.lines) :
    task.IsSettled s ↔ task.IsStable s := by
  cases task with
  | copy line => exact .rfl
  | join level pending terminal => exact .rfl
  | format level mayWrap line =>
    obtain ⟨steps, hfst, hwrite, hsource, hlines⟩ := exists_marked_steps h
    have hmarks := zip_heredocMarks_of_steps hwrite hsource hlines hsame
    have hwritten : (line.text, false) ∈ markedOutput steps := by
      rw [← hmarks, ← plan_marked_texts]
      refine List.mem_map.mpr ⟨(line, false), List.mem_flatMap.mpr ⟨_, hmem, ?_⟩, rfl⟩
      exact List.mem_singleton.mpr rfl
    have hfree : mayWrap = true → IsFree s line.text := by
      rintro rfl
      have hled : TasksLed false (steps.map Prod.fst) :=
        hfst ▸ Tracker.tasksLed_plan Tracker.coherent_start _ false
      have hlinesLed : LinesLed s false (markedOutput steps) := linesLed_markedOutput hwrite hled id
      rw [← hmarks, ← map_text_numberedFrom 1 f.lines] at hlinesLed
      exact isFree_of_mem_plan hlinesLed (by simp) hmem
    cases hinert : (context line.text).isInert with
    | true => simp [Task.IsSettled, Task.IsStable, Fix.line, hinert]
    | false =>
      -- neither spaces nor breaking are left to do
      have hspaced := (isSpaced_of_mem_markedOutput hwrite hwritten).resolve_left (by simp [hinert])
      have hwrap := fun hw => (hfree hw).resolve_left (by simp [hinert])
      rw [Task.IsSettled, Task.IsStable, Fix.line_eq_self_iff hinert hspaced hwrap]
      simp [hinert]

/-- When formatting a formatted script again changes nothing. In general this is so exactly if every
task of its plan writes its line back. If the heredocs are those of the source, which is what the
safety check asks for, then it is so exactly if no command is joined and every line that is not
passed over has its brackets and its indentation right: spaces are never put in and lines are never
broken again. -/
theorem format_again_iff [Machine] {s : Settings} {lines : List Text} {f : Formatted}
    (h : format s lines = .ok f) :
    (format s f.lines = .ok ⟨f.lines, 0⟩ ↔ ∀ task ∈ plan f.lines, task.IsSettled s) ∧
      (heredocs f.lines = heredocs lines →
        (format s f.lines = .ok ⟨f.lines, 0⟩ ↔ ∀ task ∈ plan f.lines, task.IsStable s)) := by
  have hsettled := format_eq_self_iff s f.lines
  refine ⟨hsettled, fun hsame =>
    hsettled.trans ⟨fun hall task hmem => ?_, fun hall task hmem => ?_⟩⟩
  · exact (isSettled_iff_isStable h hsame hmem).mp (hall task hmem)
  · exact (isSettled_iff_isStable h hsame hmem).mpr (hall task hmem)

/-- A command that is written with the right brackets and the right indentation stays as it is. -/
theorem format_again_conditional :
    format .default ["if [ a ]; then".toList, "b,c \\".toList, "| d".toList, "fi".toList] =
        .ok ⟨["if [[ a ]]; then".toList, "  b, c \\".toList, "    | d".toList, "fi".toList], 3⟩ ∧
      format .default ["if [[ a ]]; then".toList, "  b, c \\".toList, "    | d".toList,
        "fi".toList] =
        .ok ⟨["if [[ a ]]; then".toList, "  b, c \\".toList, "    | d".toList, "fi".toList],
          0⟩ := by
  have h : format .default ["if [ a ]; then".toList, "b,c \\".toList, "| d".toList, "fi".toList] =
      .ok ⟨["if [[ a ]]; then".toList, "  b, c \\".toList, "    | d".toList, "fi".toList], 3⟩ := rfl
  have hagain := (format_again_iff h).2 (by decide +kernel)
  exact ⟨h, hagain.mpr (by decide +kernel)⟩

/-- Brackets are read before the space behind a comma is put in, so that they are doubled only the
second time. -/
theorem format_again_brackets :
    format .default ["[ a,]".toList] = .ok ⟨["[ a, ]".toList], 1⟩ ∧
      format .default ["[ a, ]".toList] = .ok ⟨["[[ a, ]]".toList], 1⟩ :=
  ⟨rfl, rfl⟩

end ShellStyle.Script
