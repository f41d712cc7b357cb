import ShellStyle.Proofs.Comments
import ShellStyle.Proofs.Margin
import ShellStyle.Proofs.Memory

/-!
# Margins do not matter

A script without the margins of its lines, those of heredocs, blank lines and comments apart, is
formatted as the script itself, if its lines are indented at all. Nothing that a run remembers
depends on the margins that are left out, and so it plans the same tasks at the same levels. There
is one way for a margin to get through: a command that is joined to a comment is written with the
margin of its first line. That takes a comment right behind a line that goes on, and without one two
scripts that differ in such margins only come out the same.
-/

namespace ShellStyle

open Text Line

/-! ## Lines without their margin -/

/-- The line without its margin; blank lines and comments keep theirs. -/
def Text.unindented (t : Text) : Text :=
  if isBlankText t || isComment t then t else trimLeft t

/-- What does not depend on the margins of lines that have one to lose. -/
theorem unindented_congr {β : Type} {f : Text → β}
    (h : ∀ {gap t : Text}, (∀ c ∈ gap, isBlank c = true) → isBlankText t = false →
      isComment t = false → f (gap ++ t) = f t)
    (t : Text) : f (unindented t) = f t := by
  unfold unindented
  split
  · rfl
  · next hkeeps =>
    rw [Bool.or_eq_true, not_or, Bool.not_eq_true, Bool.not_eq_true] at hkeeps
    obtain ⟨hsolid, hcomment⟩ := hkeeps
    have hkept := Fix.isKept_trimLeft hsolid
    have hmargin := @h (Text.indent t) (trimLeft t) (fun c hc => isBlank_of_mem_indent hc)
      (hkept.isBlankText.trans hsolid) (hkept.isComment.trans hcomment)
    rw [indent_append_trimLeft] at hmargin
    exact hmargin.symm

/-- Code that differs in its margin only is the same without it. -/
theorem unindented_eq_of_trimLeft_eq {t u : Text} (hsolid : isBlankText t = false)
    (hcomment : isComment t = false) (h : trimLeft t = trimLeft u) :
    unindented t = unindented u := by
  have hsolid' : isBlankText u = false := by
    rw [← isBlankText_trimLeft, ← h, isBlankText_trimLeft, hsolid]
  have hcomment' : isComment u = false := by rw [isComment, ← h, ← isComment, hcomment]
  rw [unindented, unindented, hsolid, hcomment, hsolid', hcomment']
  exact h

theorem trimLeft_unindented (t : Text) : trimLeft (unindented t) = trimLeft t :=
  unindented_congr (fun hgap _ _ => List.dropWhile_append_of_pos hgap) t

/-- Between its blanks a line is the same without its margin. -/
theorem trim_unindented (t : Text) : trim (unindented t) = trim t := by
  rw [trim, trimLeft_unindented, trim]

theorem isComment_unindented (t : Text) : isComment (unindented t) = isComment t :=
  unindented_congr (fun hgap _ _ => Fix.isComment_blanks_append hgap _) t

theorem isContinued_unindented (t : Text) : isContinued (unindented t) = isContinued t :=
  unindented_congr (fun hgap hsolid _ => (Fix.isKept_blanks_append hgap hsolid).isContinued) t

/-- Taking the margin away neither opens a heredoc nor loses one. -/
theorem context_unindented (t : Text) :
    (context (unindented t) == .heredocStart) = (context t == .heredocStart) := by
  have hopens : ∀ {u : Text}, isBlankText u = false → isComment u = false →
      (context u == .heredocStart) = opensHeredoc u := by
    intro u hsolid hcomment
    rw [Bool.eq_iff_iff, beq_iff_eq]
    exact ⟨opensHeredoc_of_context, context_of_opensHeredoc (Fix.isInert_eq_false hsolid hcomment)⟩
  refine unindented_congr (f := fun u => context u == .heredocStart)
    (fun {gap u} hgap hsolid hcomment => ?_) t
  have hkept := Fix.isKept_blanks_append hgap hsolid
  rw [hopens hsolid hcomment, hopens (hkept.isBlankText.trans hsolid)
    (hkept.isComment.trans hcomment), hkept.opensHeredoc]

/-- Where lines are indented, a line comes out the same without its margin. -/
theorem line_unindented [Machine] {s : Settings} (hs : s.isEnabled .indentation = true)
    (level : Int) (mayWrap : Bool) (t : Text) :
    Fix.line s level false mayWrap (unindented t) = Fix.line s level false mayWrap t :=
  unindented_congr (fun hgap hsolid hcomment =>
    Fix.line_blanks_append hs hgap hsolid hcomment level mayWrap) t

/-! ## The code of a line behind a margin -/

namespace Line

variable {gap : Text}

/-- Where the comment starts is counted from where the search starts. -/
theorem commentStartFrom_shift (q : QuoteState) (before : Option Char) (k pos : Nat) (t : Text) :
    commentStartFrom q before (k + pos) t = (commentStartFrom q before pos t).map (k + ·) := by
  induction t generalizing q before pos with
  | nil => rfl
  | cons c t ih =>
    rw [commentStartFrom_cons, commentStartFrom_cons]
    split
    · rfl
    · exact ih (q.step c) (some c) (pos + 1)

/-- At the start of a line a comment can begin as behind a blank. -/
theorem commentStartFrom_before {c : Char} (hc : isBlank c = true) (q : QuoteState) (pos : Nat)
    (t : Text) :
    commentStartFrom q (some c) pos t = commentStartFrom q none pos t := by
  cases t with
  | nil => rfl
  | cons d t =>
    rw [commentStartFrom_cons, commentStartFrom_cons]
    simp [hc]

/-- A margin moves the start of the comment to the right by its length. -/
theorem commentStart?_blanks_append (hgap : ∀ c ∈ gap, isBlank c = true) (t : Text) :
    commentStart? (gap ++ t) = (commentStart? t).map (gap.length + ·) := by
  induction gap with
  | nil => simp
  | cons c gap ih =>
    have hc := hgap c List.mem_cons_self
    have hhash : c ≠ '#' := ne_of_isBlank hc rfl
    have hstep : QuoteState.start.step c = .start := @Fix.run_blanks [c] (by simpa using hc)
    calc commentStart? (c :: (gap ++ t)) = commentStartFrom .start (some c) (1 + 0) (gap ++ t) := by
          rw [commentStart?, commentStartFrom_cons, hstep]
          simp [hhash]
      _ = (commentStart? (gap ++ t)).map (1 + ·) := by
          rw [commentStartFrom_before hc, commentStartFrom_shift, commentStart?]
      _ = (commentStart? t).map ((gap.length + 1) + ·) := by
          rw [ih fun d hd => hgap d (List.mem_cons_of_mem c hd), Option.map_map]
          refine congrArg (fun f => (commentStart? t).map f) (funext fun i => ?_)
          simp only [Function.comp_apply]
          omega

/-- A margin belongs to the code of its line. -/
theorem code_blanks_append (hgap : ∀ c ∈ gap, isBlank c = true) (t : Text) :
    code (gap ++ t) = gap ++ code t := by
  rw [code, code, commentStart?_blanks_append hgap]
  cases commentStart? t with
  | none => rfl
  | some i => exact List.take_length_add_append i

theorem trim_blanks_append (hgap : ∀ c ∈ gap, isBlank c = true) (t : Text) :
    trim (gap ++ t) = trim t := by
  rw [trim, trim, trimLeft, List.dropWhile_append_of_pos hgap, ← trimLeft]

/-- Between its blanks the code of a line is the same without the margin. -/
theorem trim_code_unindented (t : Text) : trim (code (unindented t)) = trim (code t) :=
  unindented_congr (f := fun t => trim (code t))
    (fun hgap _ _ => by rw [code_blanks_append hgap, trim_blanks_append hgap]) t

/-! ## Continued lines behind a margin -/

/-- A margin stays in front of what is trimmed, or goes with it. -/
theorem trimRight_blanks_append (hgap : ∀ c ∈ gap, isBlank c = true) (t : Text) :
    trimRight (gap ++ t) = gap ++ trimRight t ∨ trimRight (gap ++ t) = [] ∧ trimRight t = [] := by
  by_cases hnil : trimRight t = []
  · right
    rw [← isBlankText_iff_trimRight] at hnil
    rw [← isBlankText_iff_trimRight, ← isBlankText_iff_trimRight, isBlankText_append, hnil,
      Bool.and_true]
    exact ⟨List.all_eq_true.mpr hgap, rfl⟩
  · exact .inl (trimRight_append_of_ne_nil gap hnil)

/-- Without its backslash a line keeps its margin or has nothing else. -/
theorem dropContinuation_blanks_append (hgap : ∀ c ∈ gap, isBlank c = true) {t : Text}
    (hsolid : isBlankText t = false) :
    dropContinuation (gap ++ t) = gap ++ dropContinuation t ∨
      dropContinuation (gap ++ t) = [] ∧ dropContinuation t = [] := by
  have hne : trimRight t ≠ [] := fun hnil => by simp [isBlankText_iff_trimRight.mpr hnil] at hsolid
  have hbody : isBlankText (trimRight t) = false := by
    rw [Bool.eq_false_iff, Ne, isBlankText_iff_trimRight, trimRight_trimRight]
    exact hne
  have hlast : (gap ++ trimRight t).dropLast = gap ++ (trimRight t).dropLast :=
    List.dropLast_append_of_ne_nil hne
  rw [dropContinuation, dropContinuation, trimRight_append_of_ne_nil gap hne,
    (Fix.isKept_blanks_append hgap hbody).isContinued, hlast]
  split
  · exact trimRight_blanks_append hgap _
  · exact .inl rfl

/-- The margin makes no difference to what is left without the backslash at the end. -/
theorem trim_dropContinuation_unindented (t : Text) :
    trim (dropContinuation (unindented t)) = trim (dropContinuation t) := by
  refine unindented_congr (f := fun t => trim (dropContinuation t))
    (fun {gap t} hgap hsolid _ => ?_) t
  rcases dropContinuation_blanks_append hgap hsolid with heq | ⟨heq, hnil⟩
  · rw [heq, trim_blanks_append hgap]
  · rw [heq, hnil]

end Line

namespace Script

/-- Whether a line ends in a pipe does not depend on its margin. -/
theorem endsWithPipe_blanks_append {gap : Text} (hgap : ∀ c ∈ gap, isBlank c = true) (t : Text) :
    endsWithPipe (gap ++ t) = endsWithPipe t := by
  have hlast : gap.getLast? ≠ some '|' := fun hlast => by
    have hblank := hgap '|' (List.mem_of_getLast? hlast)
    simp [isBlank] at hblank
  rw [Bool.eq_iff_iff, endsWithPipe_iff, endsWithPipe_iff]
  constructor
  · rintro ⟨r, heq, hr⟩
    rcases List.eq_nil_or_concat t with rfl | ⟨front, c, rfl⟩
    · rw [List.append_nil] at heq
      exact absurd (by simp [heq]) hlast
    · rw [List.concat_eq_append, ← List.append_assoc] at heq
      obtain ⟨rfl, hc⟩ := List.append_inj' heq rfl
      refine ⟨front, by rw [List.concat_eq_append, hc], fun hfront => hr ?_⟩
      rw [List.getLast?_append, hfront]
      rfl
  · rintro ⟨r, rfl, hr⟩
    refine ⟨gap ++ r, by rw [List.append_assoc], ?_⟩
    rw [List.getLast?_append]
    cases hlast' : r.getLast? with
    | none => simpa using hlast
    | some c => simpa [hlast'] using hr

theorem endsWithPipe_unindented (t : Text) :
    endsWithPipe (dropContinuation (unindented t)) = endsWithPipe (dropContinuation t) := by
  refine unindented_congr (f := fun t => endsWithPipe (dropContinuation t))
    (fun {gap t} hgap hsolid _ => ?_) t
  rcases dropContinuation_blanks_append hgap hsolid with heq | ⟨heq, hnil⟩
  · rw [heq, endsWithPipe_blanks_append hgap]
  · rw [heq, hnil]

/-! ## Commands without their margins -/

/-- The line without its margin. -/
def NumberedLine.unindented (line : NumberedLine) : NumberedLine :=
  ⟨line.number, line.text.unindented⟩

theorem text_unindented (line : NumberedLine) : line.unindented.text = line.text.unindented :=
  rfl

theorem goesOn_unindented (line : NumberedLine) : line.unindented.goesOn = line.goesOn := by
  rw [NumberedLine.goesOn, NumberedLine.goesOn, NumberedLine.unindented, isContinued_unindented,
    isComment_unindented]

/-- Whether a command meets in a doubled pipe does not depend on margins. -/
theorem meetsInPipes_unindented (pending : List NumberedLine) (terminal : Text) :
    meetsInPipes (pending.map NumberedLine.unindented) terminal.unindented =
      meetsInPipes pending terminal := by
  have hlast : ((pending.map NumberedLine.unindented).getLast?.any fun last =>
      endsWithPipe (dropContinuation last.text) && startsWithPipe (trimLeft terminal)) =
      pending.getLast?.any fun last =>
        endsWithPipe (dropContinuation last.text) && startsWithPipe (trimLeft terminal) := by
    rw [List.getLast?_map]
    cases pending.getLast? with
    | none => rfl
    | some last => simp [NumberedLine.unindented, endsWithPipe_unindented]
  rw [meetsInPipes, meetsInPipes, trimLeft_unindented, hlast]

/-- Lines that are joined lose their margins, so it makes no difference which they had. -/
theorem joinedLines_unindented (pending : List NumberedLine) (terminal : Text) :
    joinedLines (pending.map NumberedLine.unindented) terminal.unindented =
      joinedLines pending terminal := by
  have hpieces : commandPieces (pending.map NumberedLine.unindented) terminal.unindented =
      commandPieces pending terminal := by
    rw [commandPieces, commandPieces, trim_unindented, List.map_map]
    refine congrArg (fun f => pending.map f ++ [trim terminal]) (funext fun line => ?_)
    exact trim_dropContinuation_unindented line.text
  rw [joinedLines, joinedLines, hpieces]

/-- A joined command is the joined lines behind the margin of the first. -/
theorem trim_code_joinCommand (pending : List NumberedLine) (terminal : Text) :
    trim (code (joinCommand pending terminal)) =
      trim (code (singlePipes (joinedLines pending terminal))) := by
  obtain ⟨margin, hmargin, heq⟩ := exists_joinCommand_eq pending terminal
  rw [heq, code_blanks_append hmargin, trim_blanks_append hmargin]

/-- A command is joined to the same code with or without its margins. -/
theorem trim_code_joinCommand_unindented (pending : List NumberedLine) (terminal : Text) :
    trim (code (joinCommand (pending.map NumberedLine.unindented) terminal.unindented)) =
      trim (code (joinCommand pending terminal)) := by
  rw [trim_code_joinCommand, trim_code_joinCommand, joinedLines_unindented]

/-- A command that meets in a doubled pipe is not blank when it is joined. -/
theorem isBlankText_joinedLines {pending : List NumberedLine} {terminal : Text}
    (h : meetsInPipes pending terminal = true) :
    isBlankText (joinedLines pending terminal) = false := by
  have hne := trim_ne_nil_of_meetsInPipes h
  have hlast : isBlankText (trim terminal) = false := by
    rw [Bool.eq_false_iff, Ne, isBlankText_iff_trimRight, trim, trimRight_trimRight, ← trim]
    exact hne
  rw [joinedLines_eq hne, isBlankText_append, hlast, Bool.and_false]

/-- A joined command that is no comment comes out as its joined lines. -/
theorem line_joinCommand [Machine] {s : Settings} (hs : s.isEnabled .indentation = true)
    {pending : List NumberedLine} {terminal : Text} (hpipes : meetsInPipes pending terminal = true)
    (hcomment : isComment (joinedLines pending terminal) = false) (level : Int) (mayWrap : Bool) :
    Fix.line s level false mayWrap (joinCommand pending terminal) =
      Fix.line s level false mayWrap (singlePipes (joinedLines pending terminal)) := by
  obtain ⟨margin, hmargin, heq⟩ := exists_joinCommand_eq pending terminal
  have hkept := Fix.IsKept.of_rewritten (singlePipes_rewritten (joinedLines pending terminal))
  rw [heq]
  exact Fix.line_blanks_append hs hmargin (hkept.isBlankText.trans (isBlankText_joinedLines hpipes))
    (hkept.isComment.trans hcomment) level mayWrap

/-! ## Runs without margins -/

namespace Tracker

/-- The memory with the lines put off without their margins. -/
def unindented (t : Tracker) : Tracker :=
  ⟨t.inHeredoc, t.delimiter, t.level, t.pending.map NumberedLine.unindented⟩

theorem heredoc_unindented (t : Tracker) : t.unindented.heredoc = t.heredoc :=
  rfl

theorem pending_unindented (t : Tracker) :
    t.unindented.pending = t.pending.map NumberedLine.unindented :=
  rfl

theorem clear_unindented (t : Tracker) : t.unindented.clear = t.clear.unindented :=
  rfl

/-- Lines with the same code close the same blocks. -/
theorem dedent_unindented (t : Tracker) {a b : Text} (h : trim (code a) = trim (code b)) :
    t.unindented.dedent a = (t.dedent b).unindented := by
  rw [dedent, dedent, h]
  split <;> rfl

theorem level_dedent_unindented (t : Tracker) {a b : Text} (h : trim (code a) = trim (code b)) :
    (t.unindented.dedent a).level = (t.dedent b).level := by
  rw [dedent_unindented t h]
  rfl

/-- Lines with the same code have the same effect on the level. -/
theorem pass_unindented (t : Tracker) {a b : Text} (h : trim (code a) = trim (code b)) :
    t.unindented.pass a = (t.pass b).unindented := by
  rw [pass, pass, dedent_unindented t h, indent, indent, h]
  split <;> rfl

theorem passAll_unindented (t : Tracker) (lines : List NumberedLine) :
    t.unindented.passAll (lines.map NumberedLine.unindented) = (t.passAll lines).unindented := by
  induction lines generalizing t with
  | nil => rfl
  | cons line rest ih =>
    rw [List.map_cons, passAll, passAll, ← ih, ← pass_unindented t (trim_code_unindented line.text)]
    rfl

/-- Lines that were put off are written the same without their margins, each in its place. -/
theorem write_groupTasks_unindented [Machine] {s : Settings} (hs : s.isEnabled .indentation = true)
    (extra : Nat) (t : Tracker) (lines : List NumberedLine) :
    (groupTasks extra t.unindented (lines.map NumberedLine.unindented)).map (Task.write s) =
      (groupTasks extra t lines).map (Task.write s) := by
  induction lines generalizing extra t with
  | nil => rfl
  | cons line rest ih =>
    have hcode := trim_code_unindented line.text
    rw [List.map_cons, groupTasks, groupTasks, List.map_cons, List.map_cons, Task.write, Task.write,
      text_unindented, pass_unindented t hcode, ih, level_dedent_unindented t hcode,
      line_unindented hs]

theorem context_ne_of_unindented {line : NumberedLine} (h : context line.text ≠ .heredocStart) :
    context line.unindented.text ≠ .heredocStart := by
  intro hopener
  have heq := context_unindented line.text
  rw [show context line.text.unindented = .heredocStart from hopener] at heq
  exact h (beq_iff_eq.mp heq.symm)

/-- The joined lines of a command that ends in no comment are none. -/
theorem isComment_joinedLines_eq_false {t : Tracker} (hcoherent : t.Coherent) {terminal : Text}
    (hcomment : isComment terminal = false) :
    isComment (joinedLines t.pending terminal) = false := by
  rw [Bool.eq_false_iff]
  intro hjoined
  have hterminal := (isComment_of_joinedLines hcoherent.goesOn hjoined).1
  simp [hcomment] at hterminal

/-- A line without its margin calls for tasks that write the same. -/
theorem write_tasks_unindented [Machine] {s : Settings} (hs : s.isEnabled .indentation = true)
    {t : Tracker} (hcoherent : t.Coherent) {line : NumberedLine} (hheredoc : t.heredoc = none)
    (hopener : context line.text ≠ .heredocStart)
    (hcomment : t.pending ≠ [] → isComment line.text = false) :
    (t.unindented.tasks line.unindented).map (Task.write s) =
      (t.tasks line).map (Task.write s) := by
  unfold tasks
  rw [heredoc_unindented, hheredoc]
  dsimp only
  rw [if_neg hopener, if_neg (context_ne_of_unindented hopener), ← NumberedLine.goesOn,
    ← NumberedLine.goesOn, goesOn_unindented, pending_unindented, List.isEmpty_map, text_unindented,
    meetsInPipes_unindented]
  split
  · rfl
  split
  · rw [List.map_singleton, List.map_singleton, Task.write, Task.write, text_unindented,
      level_dedent_unindented t (trim_code_unindented line.text), line_unindented hs]
  split
  · next hpending hpipes =>
    have hne : t.pending ≠ [] := by simpa using hpending
    -- neither this line nor one that was put off is a comment, so the joined one is none
    have hplain := isComment_joinedLines_eq_false hcoherent (hcomment hne)
    have hpipes' := (meetsInPipes_unindented t.pending line.text).trans hpipes
    have hjoined := joinedLines_unindented t.pending line.text
    have hplain' := (congrArg isComment hjoined).trans hplain
    rw [List.map_singleton, List.map_singleton, Task.write, Task.write, text_unindented,
      clear_unindented, level_dedent_unindented t.clear
        (trim_code_joinCommand_unindented t.pending line.text),
      line_joinCommand hs hpipes' hplain', line_joinCommand hs hpipes hplain, hjoined]
  · have hgroup := write_groupTasks_unindented hs 0 t.clear (t.pending ++ [line])
    rwa [List.map_append] at hgroup

/-- A line without its margin leaves the same memory behind. -/
theorem next_unindented {t : Tracker} {line : NumberedLine} (hheredoc : t.heredoc = none)
    (hopener : context line.text ≠ .heredocStart) :
    t.unindented.next line.unindented = (t.next line).unindented := by
  unfold next
  rw [heredoc_unindented, hheredoc]
  dsimp only
  rw [if_neg hopener, if_neg (context_ne_of_unindented hopener), ← NumberedLine.goesOn,
    ← NumberedLine.goesOn, goesOn_unindented, pending_unindented, List.isEmpty_map, text_unindented,
    meetsInPipes_unindented]
  split
  · simp [push, unindented]
  split
  · exact pass_unindented t (trim_code_unindented line.text)
  split
  · exact pass_unindented t.clear (trim_code_joinCommand_unindented t.pending line.text)
  · have hgroup := passAll_unindented t.clear (t.pending ++ [line])
    rwa [List.map_append] at hgroup

/-- A line of a heredoc calls for tasks that write the same, whatever the margins of the lines put
off are. -/
theorem write_tasks_heredoc [Machine] {s : Settings} (hs : s.isEnabled .indentation = true)
    {t : Tracker} {line : NumberedLine}
    (h : (t.heredoc.isSome || context line.text == .heredocStart) = true) :
    (t.unindented.tasks line).map (Task.write s) = (t.tasks line).map (Task.write s) := by
  unfold tasks
  rw [heredoc_unindented]
  cases hheredoc : t.heredoc with
  | some delimiter => rfl
  | none =>
    have hopener : context line.text = .heredocStart := by simpa [hheredoc] using h
    dsimp only
    rw [if_pos hopener, if_pos hopener, List.map_append, List.map_append]
    exact congrArg (· ++ _) (write_groupTasks_unindented hs 0 t.clear t.pending)

/-- Lines of heredocs are remembered alike, since they keep their margins. -/
theorem next_heredoc_unindented {t : Tracker} {line : NumberedLine}
    (h : (t.heredoc.isSome || context line.text == .heredocStart) = true) :
    t.unindented.next line = (t.next line).unindented := by
  unfold next
  rw [heredoc_unindented]
  cases hheredoc : t.heredoc with
  | some delimiter =>
    dsimp only
    split <;> rfl
  | none =>
    have hopener : context line.text = .heredocStart := by simpa [hheredoc] using h
    dsimp only
    rw [if_pos hopener, if_pos hopener]
    exact congrArg (Tracker.enter · (heredocDelimiter line.text))
      (passAll_unindented t.clear t.pending)

end Tracker

/-! ## Scripts without margins -/

/-- The line of a script without its margin, unless it belongs to a heredoc; `heredoc` is the
delimiter of the one that is open. -/
def outlined (heredoc : Option Text) (text : Text) : Text :=
  if heredoc.isSome || context text == .heredocStart then text else text.unindented

/-- The lines of a script without their margins; heredocs, blank lines and comments keep theirs. -/
def outline (heredoc : Option Text) : List Text → List Text
  | [] => []
  | text :: rest => outlined heredoc text :: outline (heredocBehind heredoc text) rest

/-- Whether comments stand apart from lines that go on. -/
def CommentsApart (lines : List Text) : Prop :=
  lines.IsChain fun a b => isContinued a = true → isComment b = false

namespace Tracker

/-- Whatever a line is, what is written at it does not depend on its margin. -/
theorem write_tasks_outlined [Machine] {s : Settings} (hs : s.isEnabled .indentation = true)
    {t : Tracker} (hcoherent : t.Coherent) {text : Text}
    (hcomment : t.pending ≠ [] → isComment text = false) (n : Int) :
    (t.unindented.tasks ⟨n, outlined t.heredoc text⟩).map (Task.write s) =
      (t.tasks ⟨n, text⟩).map (Task.write s) := by
  unfold outlined
  split
  · next hmark => exact write_tasks_heredoc hs hmark
  · next hmark =>
    simp only [Bool.or_eq_true, not_or, Option.not_isSome_iff_eq_none, beq_iff_eq] at hmark
    exact @write_tasks_unindented _ s hs t hcoherent ⟨n, text⟩ hmark.1 hmark.2 hcomment

/-- Whatever a line is, what is remembered behind it is the same up to margins. -/
theorem next_outlined (t : Tracker) (text : Text) (n : Int) :
    t.unindented.next ⟨n, outlined t.heredoc text⟩ = (t.next ⟨n, text⟩).unindented := by
  unfold outlined
  split
  · next hmark => exact next_heredoc_unindented hmark
  · next hmark =>
    simp only [Bool.or_eq_true, not_or, Option.not_isSome_iff_eq_none, beq_iff_eq] at hmark
    exact @next_unindented t ⟨n, text⟩ hmark.1 hmark.2

/-- The plan for lines without their margins writes the same. -/
theorem write_plan_outline [Machine] {s : Settings} (hs : s.isEnabled .indentation = true)
    {t : Tracker} (hcoherent : t.Coherent) (n : Int) {lines : List Text}
    (hapart : CommentsApart lines)
    (hfirst : t.pending ≠ [] → ∀ text ∈ lines.head?, isComment text = false) :
    (t.unindented.plan (numberedFrom n (outline t.heredoc lines))).map (Task.write s) =
      (t.plan (numberedFrom n lines)).map (Task.write s) := by
  induction lines generalizing t n with
  | nil => exact write_groupTasks_unindented hs 0 t.clear t.pending
  | cons text rest ih =>
    have hlater : (t.next ⟨n, text⟩).pending ≠ [] →
        ∀ text' ∈ rest.head?, isComment text' = false := by
      intro hpending text' hhead
      -- what is put off behind a line goes on
      have hgoesOn : NumberedLine.goesOn ⟨n, text⟩ = true := by
        rw [← Bool.not_eq_false]
        exact fun hends => hpending (next_pending_eq_nil hcoherent (.inr hends))
      have hcontinued : isContinued text = true := (Bool.and_eq_true_iff.mp hgoesOn).1
      cases rest with
      | nil => cases hhead
      | cons first rest =>
        obtain rfl := Option.some.inj hhead
        exact (List.isChain_cons_cons.mp hapart).1 hcontinued
    have hrest := ih (hcoherent.next ⟨n, text⟩) (n + 1) hapart.tail hlater
    rw [next_heredoc] at hrest
    rw [outline, numberedFrom, numberedFrom, plan, plan, List.map_append, List.map_append,
      write_tasks_outlined hs hcoherent (fun hpending => hfirst hpending text rfl) n,
      next_outlined, hrest]

end Tracker

/-- What tasks write, put together, unless one of them fails. -/
def collect : List (Except StyleError (List Text)) → Except StyleError (List Text)
  | [] => .ok []
  | written :: rest => do
    let written ← written
    let others ← collect rest
    return written ++ others

/-- The formatted lines are those that the tasks write, one after another. -/
theorem lines_writeAll [Machine] (s : Settings) (tasks : List Task) :
    (writeAll s tasks).map Formatted.lines = collect (tasks.map (Task.write s)) := by
  induction tasks with
  | nil => rfl
  | cons task tasks ih =>
    rw [writeAll, List.map_cons, collect, ← ih]
    cases task.write s with
    | error e => rfl
    | ok written => cases writeAll s tasks <;> rfl

/-- A script is formatted as it is without its margins. -/
theorem lines_format_outline [Machine] {s : Settings} (hs : s.isEnabled .indentation = true)
    {lines : List Text} (hapart : CommentsApart lines) :
    (format s (outline none lines)).map Formatted.lines = (format s lines).map Formatted.lines := by
  have hcoherent := Tracker.coherent_start
  have hwrite : (plan (outline none lines)).map (Task.write s) = (plan lines).map (Task.write s) :=
    Tracker.write_plan_outline hs hcoherent 1 hapart fun hpending => absurd rfl hpending
  rw [format_eq, format_eq, lines_writeAll, lines_writeAll, hwrite]

/-- What keeps comments apart does not depend on margins. -/
theorem map_outline (heredoc : Option Text) (lines : List Text) :
    (outline heredoc lines).map (fun text => (isContinued text, isComment text)) =
      lines.map fun text => (isContinued text, isComment text) := by
  induction lines generalizing heredoc with
  | nil => rfl
  | cons text rest ih =>
    rw [outline, List.map_cons, List.map_cons, ih]
    unfold outlined
    split
    · rfl
    · rw [isContinued_unindented, isComment_unindented]

/-- Scripts that are the same without margins both keep comments apart, or neither does. -/
theorem CommentsApart.of_outline_eq {xs ys : List Text} (hapart : CommentsApart xs)
    (h : outline none xs = outline none ys) : CommentsApart ys := by
  have hmap := congrArg (List.map fun text => (isContinued text, isComment text)) h
  rw [map_outline, map_outline] at hmap
  have hpairs : (xs.map fun text => (isContinued text, isComment text)).IsChain
      fun a b => a.1 = true → b.2 = false := (List.isChain_map _).mpr hapart
  rw [hmap] at hpairs
  exact (List.isChain_map _).mp hpairs

/-- Scripts that differ in the margins of lines which have one to lose are the same without them. -/
theorem outline_eq {heredoc : Option Text} {xs ys : List Text} (hlength : xs.length = ys.length)
    (h : ∀ (i : Nat) (a b : Text), xs[i]? = some a → ys[i]? = some b →
      a = b ∨ (heredocMarks heredoc xs)[i]? = some false ∧ isBlankText a = false ∧
        isComment a = false ∧ trimLeft a = trimLeft b) :
    outline heredoc xs = outline heredoc ys := by
  induction xs generalizing heredoc ys with
  | nil =>
    obtain rfl := List.length_eq_zero_iff.mp hlength.symm
    rfl
  | cons a xs ih =>
    obtain ⟨b, ys, rfl⟩ := List.exists_cons_of_length_eq_add_one hlength.symm
    have hrest := @ih (heredocBehind heredoc a) ys (Nat.succ.inj hlength) fun i a' b' ha' hb' => by
      simpa [heredocMarks] using h (i + 1) a' b' ha' hb'
    rw [outline, outline]
    rcases h 0 a b rfl rfl with rfl | ⟨hmark, hsolid, hcomment, htrim⟩
    · rw [hrest]
    · have houtside : heredoc = none ∧ context a ≠ .heredocStart := by
        simpa [heredocMarks] using hmark
      obtain ⟨rfl, hopener⟩ := houtside
      have hline := unindented_eq_of_trimLeft_eq hsolid hcomment htrim
      have hopener' : context b ≠ .heredocStart := by
        have heq := context_unindented a
        rw [hline, context_unindented b] at heq
        simpa [hopener] using heq
      rw [heredocBehind, if_neg hopener] at hrest
      rw [outlined, outlined, heredocBehind, heredocBehind, if_neg hopener, if_neg hopener', hrest]
      simp [hopener, hopener', hline]

/-- Indentation is canonical. Let lines be indented, and let two scripts of the same length agree in
every line but for the margins of lines that stand outside of the heredocs of the first and are
neither blank nor comments. If no comment stands right behind a line that goes on, both are
formatted to the same lines, or to the same error. -/
theorem lines_format_eq_of_margins [Machine] {s : Settings} (hs : s.isEnabled .indentation = true)
    {xs ys : List Text} (hlength : xs.length = ys.length)
    (h : ∀ (i : Nat) (a b : Text), xs[i]? = some a → ys[i]? = some b →
      a = b ∨ (heredocMarks none xs)[i]? = some false ∧ isBlankText a = false ∧
        isComment a = false ∧ trimLeft a = trimLeft b)
    (hapart : xs.IsChain fun a b => isContinued a = true → isComment b = false) :
    (format s xs).map Formatted.lines = (format s ys).map Formatted.lines := by
  have houtline := outline_eq hlength h
  have hapart' : CommentsApart ys := CommentsApart.of_outline_eq hapart houtline
  rw [← lines_format_outline hs hapart, houtline, lines_format_outline hs hapart']

/-- A block with a command that is joined, with two sets of margins. -/
theorem lines_format_eq_of_margins_joined :
    (format .default ["if x; then".toList, "      a | \\".toList, "      | b".toList, " # c".toList,
      "fi".toList]).map
        Formatted.lines = .ok ["if x; then".toList, "  a | b".toList, " # c".toList, "fi".toList] ∧
      (format .default ["if x; then".toList, "      a | \\".toList, "      | b".toList,
        " # c".toList, "fi".toList]).map
          Formatted.lines =
        (format .default [" if x; then".toList, "a | \\".toList, "| b".toList, " # c".toList,
          "   fi".toList]).map
          Formatted.lines := by
  refine ⟨rfl, lines_format_eq_of_margins rfl rfl ?_ ?_⟩
  · intro i a b ha hb
    rcases i with _ | _ | _ | _ | _ | i
    · obtain rfl := Option.some.inj ha
      obtain rfl := Option.some.inj hb
      exact .inr ⟨rfl, rfl, rfl, rfl⟩
    · obtain rfl := Option.some.inj ha
      obtain rfl := Option.some.inj hb
      exact .inr ⟨rfl, rfl, rfl, rfl⟩
    · obtain rfl := Option.some.inj ha
      obtain rfl := Option.some.inj hb
      exact .inr ⟨rfl, rfl, rfl, rfl⟩
    · exact .inl (Option.some.inj (ha.symm.trans hb))
    · obtain rfl := Option.some.inj ha
      obtain rfl := Option.some.inj hb
      exact .inr ⟨rfl, rfl, rfl, rfl⟩
    · cases ha
  · refine .cons_cons (fun _ => rfl)
      (.cons_cons (fun _ => rfl) (.cons_cons (fun h => ?_) (.cons_cons (fun _ => rfl)
      (.singleton _))))
    exact absurd h Bool.false_ne_true

end Script

end ShellStyle
