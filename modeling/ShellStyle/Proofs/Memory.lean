import ShellStyle.Proofs.HeredocBlock
import ShellStyle.Proofs.Segments

/-!
# What a run remembers

Between any two lines the memory of a run can be read off the lines so far. The open heredoc is the
one that reading them leaves open. The lines that are put off are the last ones, as far as they
stand outside of heredocs and go on, so nothing is put off inside a heredoc. The level is counted
over the lines that have been formatted, a joined command being one line, and is held at zero where
more blocks are closed than were opened.
-/

namespace ShellStyle.Script

open Text Line

/-! ## The level -/

/-- The level behind a line, counted in whole numbers: a line that closes a block takes one off,
unless nothing is left, and a line that opens a block adds one. -/
def levelBehind (level : Int) (line : Text) : Int :=
  (if closesBlock (trim (code line)) then max 0 (level - 1) else level) +
    if opensBlock (trim (code line)) then 1 else 0

/-- The lines of a task whose blocks are counted: what is formatted, a joined command as one
line. -/
def Task.counted : Task → List Text
  | copy _ => []
  | format _ _ line => [line.text]
  | join _ pending terminal => [joinCommand pending terminal.text]

/-- Each line that was put off counts once. -/
theorem groupTasks_counted (extra : Nat) (t : Tracker) (lines : List NumberedLine) :
    (groupTasks extra t lines).flatMap Task.counted = lines.map NumberedLine.text := by
  induction lines generalizing extra t with
  | nil => rfl
  | cons line rest ih =>
    rw [groupTasks, List.flatMap_cons, ih]
    rfl

namespace Tracker

/-- What a line does to the level does not depend on anything else. -/
theorem pass_level (t : Tracker) (line : Text) :
    (t.pass line).level = levelBehind t.level line := by
  unfold pass indent dedent levelBehind
  cases closesBlock (trim (code line)) with
  | true => cases opensBlock (trim (code line)) <;> simp
  | false => cases opensBlock (trim (code line)) <;> simp

/-- The level behind lines is the level of going over them one by one. -/
theorem passAll_level (t : Tracker) (lines : List NumberedLine) :
    (t.passAll lines).level = (lines.map NumberedLine.text).foldl levelBehind t.level := by
  induction lines generalizing t with
  | nil => rfl
  | cons line rest ih => rw [passAll, ih, pass_level, List.map_cons, List.foldl_cons]

/-- Every line moves the level by the blocks of what is formatted when it is read. -/
theorem next_level (t : Tracker) (line : NumberedLine) :
    (t.next line).level = ((t.tasks line).flatMap Task.counted).foldl levelBehind t.level := by
  have h := t.advance line
  generalize t.tasks line = tasks, t.next line = u at h ⊢
  cases h with
  | heredoc => split <;> rfl
  | opener =>
    have hcounted : (t.flushTasks ++ [Task.copy line]).flatMap Task.counted =
        t.pending.map NumberedLine.text := by
      rw [List.flatMap_append, flushTasks, groupTasks_counted]
      simp [Task.counted]
    rw [hcounted]
    exact passAll_level t.clear t.pending
  | putOff => rfl
  | single => exact pass_level t line.text
  | joined => exact pass_level t.clear _
  | group =>
    rw [groupTasks_counted]
    exact passAll_level t.clear (t.pending ++ [line])

/-- The tasks that lines call for, without those that are left over for the end of the script. -/
def begun (t : Tracker) : List NumberedLine → List Task
  | [] => []
  | line :: rest => t.tasks line ++ (t.next line).begun rest

/-- The level behind some lines is counted over what has been formatted so far. -/
theorem after_level (t : Tracker) (lines : List NumberedLine) :
    (t.after lines).level = ((t.begun lines).flatMap Task.counted).foldl levelBehind t.level := by
  induction lines generalizing t with
  | nil => rfl
  | cons line rest ih => rw [after, ih, next_level, begun, List.flatMap_append, List.foldl_append]

/-! ## The lines that are put off -/

/-- A line outside of heredocs that goes on is put off. -/
theorem next_pending_of_goesOn {t : Tracker} {line : NumberedLine} (hheredoc : t.heredoc = none)
    (hopener : context line.text ≠ .heredocStart) (hgoesOn : line.goesOn = true) :
    (t.next line).pending = t.pending ++ [line] := by
  rw [NumberedLine.goesOn] at hgoesOn
  simp [next, hheredoc, hopener, hgoesOn, push]

/-- Behind any other line nothing is put off. -/
theorem next_pending_eq_nil {t : Tracker} (hcoherent : t.Coherent) {line : NumberedLine}
    (hother : (t.heredoc.isSome || context line.text == .heredocStart) = true ∨
      line.goesOn = false) :
    (t.next line).pending = [] := by
  have h := t.advance line
  generalize t.tasks line = tasks, t.next line = u at h ⊢
  cases h with
  | heredoc delimiter hheredoc =>
    have hpending := hcoherent.pending_of_heredoc hheredoc
    split
    · exact hpending
    · exact hpending
  | opener => exact flushed_pending t
  | putOff hheredoc hopener hgoesOn => simp [hheredoc, hopener, hgoesOn] at hother
  | single _ _ _ hpending => rw [pass_pending, hpending]
  | joined => exact pass_pending _ _
  | group => exact passAll_pending _ _

end Tracker

/-- The lines that are put off behind some lines of a script: the last of them, with their numbers,
as far as they go on and open no heredoc. What stands before them belongs to a heredoc or does not
go on. -/
def PutsOff (seen : List Text) (pending : List NumberedLine) : Prop :=
  ∃ front back, seen = front ++ back ∧ pending = numberedFrom (front.length + 1) back ∧
    (∀ text ∈ back, isContinued text = true ∧ isComment text = false ∧
      context text ≠ .heredocStart) ∧
    ∀ p ∈ (front.zip (heredocMarks none front)).getLast?, p.2 = true ∨ isContinued p.1 = false ∨
      isComment p.1 = true

theorem putsOff_nil : PutsOff [] [] :=
  ⟨[], [], rfl, rfl, by simp, by simp⟩

/-- A line at the end is marked by the heredoc that is open before it. -/
theorem heredocMarks_concat (heredoc : Option Text) (seen : List Text) (text : Text) :
    heredocMarks heredoc (seen ++ [text]) =
      heredocMarks heredoc seen ++
        [(seen.foldl heredocBehind heredoc).isSome || context text == .heredocStart] := by
  induction seen generalizing heredoc with
  | nil => rfl
  | cons first rest ih =>
    rw [List.cons_append, heredocMarks, heredocMarks, ih, List.foldl_cons, List.cons_append]

/-- One more line that goes on. -/
theorem PutsOff.concat {seen : List Text} {pending : List NumberedLine} (h : PutsOff seen pending)
    {text : Text} (hopener : context text ≠ .heredocStart) (hcontinued : isContinued text = true)
    (hcomment : isComment text = false) :
    PutsOff (seen ++ [text]) (pending ++ [⟨seen.length + 1, text⟩]) := by
  obtain ⟨front, back, rfl, rfl, hback, hfront⟩ := h
  refine ⟨front, back ++ [text], by simp, ?_, ?_, hfront⟩
  · rw [numberedFrom_append, numberedFrom, numberedFrom, List.length_append,
      show (front.length : Int) + 1 + back.length = (front.length + back.length : Nat) + 1 by omega]
  · intro line hline
    rcases List.mem_append.mp hline with hold | hnew
    · exact hback line hold
    · rw [List.mem_singleton.mp hnew]
      exact ⟨hcontinued, hcomment, hopener⟩

/-- Behind a line of a heredoc, and behind a line that does not go on, nothing is put off. -/
theorem putsOff_concat_nil {seen : List Text} {text : Text}
    (h : ((seen.foldl heredocBehind none).isSome || context text == .heredocStart) = true ∨
      isContinued text = false ∨ isComment text = true) :
    PutsOff (seen ++ [text]) [] := by
  refine ⟨seen ++ [text], [], by simp, rfl, by simp, ?_⟩
  have hlength : seen.length = (heredocMarks none seen).length :=
    (length_heredocMarks none seen).symm
  rw [heredocMarks_concat, List.zip_append hlength]
  simpa using h

/-! ## The memory between two lines -/

/-- The memory behind some lines of a script. -/
structure Tracker.Remembers (t : Tracker) (seen : List Text) : Prop where
  heredoc_eq : t.heredoc = seen.foldl heredocBehind none
  coherent : t.Coherent
  putsOff : PutsOff seen t.pending

/-- The next line is remembered with those before it. -/
theorem Tracker.Remembers.next {t : Tracker} {seen : List Text} (h : t.Remembers seen)
    (text : Text) :
    (t.next ⟨seen.length + 1, text⟩).Remembers (seen ++ [text]) := by
  refine ⟨?_, h.coherent.next _, ?_⟩
  · rw [next_heredoc, h.heredoc_eq, List.foldl_append]
    rfl
  · by_cases hother : (t.heredoc.isSome || context text == .heredocStart) = true ∨
        (⟨seen.length + 1, text⟩ : NumberedLine).goesOn = false
    · rw [next_pending_eq_nil h.coherent hother]
      apply putsOff_concat_nil
      rw [← h.heredoc_eq]
      refine hother.imp_right fun hends => ?_
      rw [NumberedLine.goesOn, Bool.and_eq_false_iff, Bool.not_eq_false'] at hends
      exact hends
    · rw [not_or, Bool.not_eq_true, Bool.or_eq_false_iff, Option.isSome_eq_false_iff,
        Option.isNone_iff_eq_none, beq_eq_false_iff_ne, Bool.not_eq_false] at hother
      obtain ⟨⟨hheredoc, hopener⟩, hgoesOn⟩ := hother
      rw [next_pending_of_goesOn hheredoc hopener hgoesOn]
      rw [NumberedLine.goesOn, Bool.and_eq_true, Bool.not_eq_true'] at hgoesOn
      exact h.putsOff.concat hopener hgoesOn.1 hgoesOn.2

/-- More lines are remembered with those before them. -/
theorem Tracker.Remembers.after {t : Tracker} {seen : List Text} (h : t.Remembers seen)
    (lines : List Text) :
    (t.after (numberedFrom (seen.length + 1) lines)).Remembers (seen ++ lines) := by
  induction lines generalizing t seen with
  | nil => simpa [numberedFrom, Tracker.after] using h
  | cons text rest ih =>
    have hrest := ih (h.next text)
    rw [List.length_append, List.append_assoc] at hrest
    exact hrest

/-- The memory of a run at any line of any script, with `seen` the lines before it. Whether a
heredoc is open, and with which delimiter, is what reading the lines tells; a heredoc and lines that
are put off exclude each other, and outside of heredocs the delimiter is empty. The level is never
negative: it is counted over what has been formatted so far, and held at zero. The lines that are
put off are the last lines before this one, with consecutive numbers; each of them is continued, is
no comment and opens no heredoc, and the line before the first of them belongs to a heredoc or does
not go on. -/
theorem run_remembers [Machine] {s : Settings} {seen : List Text} {r : Run}
    (h : stepsFrom s 1 Run.start seen = .ok r) :
    ((if r.tracker.inHeredoc then some r.tracker.delimiter else none) =
        seen.foldl heredocBehind none ∧
      (r.tracker.inHeredoc = true → r.tracker.pending = [])) ∧
      (r.tracker.inHeredoc = false → r.tracker.delimiter = []) ∧
      (0 ≤ r.tracker.level ∧ r.tracker.level =
        ((Tracker.start.begun (numberedFrom 1 seen)).flatMap Task.counted).foldl levelBehind 0) ∧
      ∃ front back, seen = front ++ back ∧
        r.tracker.pending = numberedFrom (front.length + 1) back ∧
        (∀ text ∈ back,
          isContinued text = true ∧ isComment text = false ∧ context text ≠ .heredocStart) ∧
        ∀ p ∈ (front.zip (heredocMarks none front)).getLast?,
          p.2 = true ∨ isContinued p.1 = false ∨ isComment p.1 = true := by
  have hstart : Tracker.start.Remembers [] := ⟨rfl, Tracker.coherent_start, putsOff_nil⟩
  have htracker := stepsFrom_tracker h
  have hbehind : r.tracker.Remembers seen := by
    rw [htracker]
    exact hstart.after seen
  -- the level is that of the lines written so far, those put off not included
  have hlevel : r.tracker.level =
      ((Tracker.start.begun (numberedFrom 1 seen)).flatMap Task.counted).foldl levelBehind 0 := by
    rw [htracker]
    exact Tracker.after_level Tracker.start (numberedFrom 1 seen)
  exact ⟨⟨hbehind.heredoc_eq, hbehind.coherent.pending_eq_nil⟩, hbehind.coherent.delimiter_eq_nil,
    ⟨hbehind.coherent.level_nonneg, hlevel⟩, hbehind.putsOff⟩

/-- Behind a heredoc its delimiter is forgotten, a line that closes more blocks than were opened
leaves the level at zero, and behind the head of a block two continued lines are put off. -/
theorem run_remembers_continued :
    ∃ r, stepsFrom .default 1 Run.start ["fi".toList, "cat <<A".toList, "b \\".toList, "A".toList,
        "if x; then".toList, "c \\".toList, "d \\".toList] = .ok r ∧
      r.tracker = ⟨false, [], 1, [⟨6, "c \\".toList⟩, ⟨7, "d \\".toList⟩]⟩ ∧
      r.tracker.delimiter = [] ∧ 0 ≤ r.tracker.level ∧
      ∃ front back, ["fi".toList, "cat <<A".toList, "b \\".toList, "A".toList,
          "if x; then".toList, "c \\".toList, "d \\".toList] = front ++ back ∧
        r.tracker.pending = numberedFrom (front.length + 1) back ∧
        (∀ text ∈ back,
          isContinued text = true ∧ isComment text = false ∧ context text ≠ .heredocStart) ∧
        ∀ p ∈ (front.zip (heredocMarks none front)).getLast?,
          p.2 = true ∨ isContinued p.1 = false ∨ isComment p.1 = true := by
  have h : stepsFrom .default 1 Run.start ["fi".toList, "cat <<A".toList, "b \\".toList,
      "A".toList, "if x; then".toList, "c \\".toList, "d \\".toList] =
    .ok ⟨⟨false, [], 1, [⟨6, "c \\".toList⟩, ⟨7, "d \\".toList⟩]⟩,
      ["fi".toList, "cat <<A".toList, "b \\".toList, "A".toList, "if x; then".toList], 0⟩ := rfl
  obtain ⟨-, hdelimiter, ⟨hlevel, -⟩, hpending⟩ := run_remembers h
  exact ⟨_, h, rfl, hdelimiter rfl, hlevel, hpending⟩

end ShellStyle.Script
