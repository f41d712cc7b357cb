import ShellStyle.Proofs.FixCount

/-!
# Comments

A comment outside of heredocs is passed over and comes out as it is, unless it is the last line of a
command that is joined. A continued command can end with a comment, and if the comment has a doubled
pipe it becomes part of the joined line. Then it is lost: counting the pipes of comments, as it is
done for whole scripts, shows that no other comment can take its place.
-/

namespace ShellStyle

open Text Line

namespace Fix

/-! ## Comments and blanks -/

theorem isComment_append_blanks (t : Text) {gap : Text} (hgap : ∀ c ∈ gap, isBlank c = true) :
    isComment (t ++ gap) = isComment t := by
  cases ht : isBlankText t with
  | false => exact isComment_append ht gap
  | true =>
    have hblank := List.all_eq_true.mp ht
    have hnil : isComment gap = isComment [] := by simpa using isComment_blanks_append hgap []
    rw [isComment_blanks_append hblank, hnil]
    simpa using (isComment_blanks_append hblank []).symm

theorem isComment_trim (t : Text) : isComment (trim t) = isComment t := by
  obtain ⟨gap, htrim, hgap⟩ := exists_trimRight_append (trimLeft t)
  have hindent : ∀ c ∈ Text.indent t, isBlank c = true := fun c hc => isBlank_of_mem_indent hc
  have hleft := isComment_blanks_append hindent (trimLeft t)
  rw [indent_append_trimLeft] at hleft
  rw [hleft]
  conv => rhs; rw [htrim, isComment_append_blanks _ hgap]
  rfl

/-- Whatever follows it, a comment is one. -/
theorem isComment_append_of_isComment {t : Text} (h : isComment t = true) (u : Text) :
    isComment (t ++ u) = true := by
  have hsolid : isBlankText t = false := by
    rw [Bool.eq_false_iff]
    intro hblank
    simp [isComment, isBlankText_iff_trimLeft.mp hblank] at h
  rw [isComment_append hsolid, h]

/-! ## The second part of a broken line is no comment -/

theorem commentStartFrom_le {q : QuoteState} {before : Option Char} {a : Text} (pos : Nat)
    (b : Text) (hrun : q.run a = .start)
    (hlast : ∀ c ∈ (before.toList ++ a).getLast?, isBlank c = true) :
    ∃ i, commentStartFrom q before pos (a ++ '#' :: b) = some i ∧ i ≤ pos + a.length := by
  induction a generalizing q before pos with
  | nil =>
    obtain rfl : q = .start := hrun
    have hbefore : before.all isBlank = true := by
      rw [Option.all_eq_true]
      rintro c rfl
      exact hlast c rfl
    refine ⟨pos, ?_, Nat.le_refl _⟩
    rw [List.nil_append, commentStartFrom_cons, hbefore]
    rfl
  | cons c a ih =>
    rw [List.cons_append, commentStartFrom_cons]
    split
    · exact ⟨pos, rfl, Nat.le_add_right _ _⟩
    · have hlast' : ∀ d ∈ ((some c).toList ++ a).getLast?, isBlank d = true :=
        fun d hd => hlast d (by simpa [List.getLast?_append] using hd)
      obtain ⟨i, hi, hle⟩ := ih (pos + 1) hrun hlast'
      refine ⟨i, hi, ?_⟩
      rw [List.length_cons]
      omega

/-- The code of a line ends before a `#` that stands outside of strings behind a blank. -/
theorem length_code_le {a : Text} (b : Text) (hrun : QuoteState.start.run a = .start)
    (hlast : ∀ c ∈ a.getLast?, isBlank c = true) : (code (a ++ '#' :: b)).length ≤ a.length := by
  have hlast' : ∀ c ∈ ((none : Option Char).toList ++ a).getLast?, isBlank c = true := hlast
  obtain ⟨i, hi, hle⟩ := commentStartFrom_le 0 b hrun hlast'
  rw [code, commentStart?, hi, List.length_take]
  omega

/-- A line is broken only where code follows, so its second part does not begin with a comment. -/
theorem isComment_drop_eq_false {line : Text} {hit : Hit Text}
    (hhit : breakPoint? (code line) = some hit)
    (hcode : isBlankText ((code line).drop hit.span.stop) = false) :
    isComment (line.drop hit.span.stop) = false := by
  obtain ⟨-, hrun, hlast⟩ := broken_line hhit
  obtain ⟨-, hstop, -⟩ := breakPoint?_spec hhit
  rw [Bool.eq_false_iff]
  intro hcomment
  obtain ⟨b, hb⟩ : ∃ b, trimLeft (line.drop hit.span.stop) = '#' :: b := by
    cases hcons : trimLeft (line.drop hit.span.stop) with
    | nil => simp [isComment, hcons] at hcomment
    | cons c b =>
      obtain rfl : c = '#' := by simpa [isComment, hcons] using hcomment
      exact ⟨b, rfl⟩
  have hindent : ∀ c ∈ Text.indent (line.drop hit.span.stop), isBlank c = true :=
    fun c hc => isBlank_of_mem_indent hc
  -- what stands between the operator and the comment is blank, and the code of the line ends there
  have hline : line = line.take hit.span.stop ++ Text.indent (line.drop hit.span.stop) ++
      '#' :: b := by
    rw [List.append_assoc, ← hb, indent_append_trimLeft, List.take_append_drop]
  have hlength : (code line).length ≤
      (line.take hit.span.stop ++ Text.indent (line.drop hit.span.stop)).length := by
    conv => lhs; rw [hline]
    refine length_code_le b ?_ fun c hc => ?_
    · rw [QuoteState.run_append, hrun, run_blanks hindent]
    · rw [List.getLast?_append, Option.mem_def, Option.or_eq_some_iff] at hc
      rcases hc with hc | ⟨-, hc⟩
      · exact hindent c (List.mem_of_getLast? hc)
      · exact hlast c hc
  have hpre : code line <+: line.take hit.span.stop ++ Text.indent (line.drop hit.span.stop) := by
    refine List.prefix_of_prefix_length_le (code_isPrefix line) ?_ hlength
    exact ⟨'#' :: b, hline.symm⟩
  obtain ⟨rest, hrest⟩ := hpre
  have hblank : (code line).drop hit.span.stop <+: Text.indent (line.drop hit.span.stop) := by
    have hdrop := congrArg (List.drop hit.span.stop) hrest
    have htake : (line.take hit.span.stop).length = hit.span.stop := by
      rw [List.length_take, Nat.min_eq_left (Nat.le_trans hstop (code_isPrefix line).length_le)]
    rw [List.drop_append_of_le_length hstop, List.drop_left' htake] at hdrop
    exact ⟨rest, hdrop⟩
  have hall : isBlankText ((code line).drop hit.span.stop) = true :=
    List.all_eq_true.mpr fun c hc => hindent c (hblank.subset hc)
  simp [hall] at hcode

/-- The second part of a broken line is no comment. -/
theorem isComment_tail_eq_false {line step : Text} {hit : Hit Text}
    (hhit : breakPoint? (code line) = some hit)
    (hcode : isBlankText ((code line).drop hit.span.stop) = false)
    (hstep : ∀ c ∈ step, isBlank c = true) :
    isComment (indent line ++ step ++ trim (line.drop hit.span.stop)) = false := by
  have hmargin : ∀ c ∈ indent line ++ step, isBlank c = true := by
    intro c hc
    rcases List.mem_append.mp hc with hc | hc
    · exact isBlank_of_mem_indent hc
    · exact hstep c hc
  rw [isComment_blanks_append hmargin, isComment_trim, isComment_drop_eq_false hhit hcode]

/-- A line that is no comment comes out without comments. -/
theorem filter_isComment_line [Machine] {s : Settings} {level : Int} {mayWrap : Bool} {t : Text}
    {written : List Text} (h : line s level false mayWrap t = .ok written)
    (ht : isComment t = false) : written.filter isComment = [] := by
  rcases line_singleton_or_pair h with ⟨u, rfl⟩ | hpair
  · simp [(line_isKept h).isComment, ht]
  · obtain ⟨-, head, tail, rfl, -, hhead⟩ := exists_parts h hpair
    have htail : isComment tail = false := by
      rcases line_spec h with ⟨-, heq⟩ | ⟨-, fixed, -, ⟨-, heq⟩ | ⟨-, hwrap⟩⟩
      · simp at heq
      · simp at heq
      · rcases wrap_spec hwrap with heq | ⟨-, -, -, hit, step, hhit, hstep, -, hcode, heq⟩
        · simp at heq
        · obtain ⟨-, rfl⟩ := List.cons.inj heq |>.imp_right fun h => (List.cons.inj h).1
          exact isComment_tail_eq_false hhit hcode hstep
    simp [hhead, htail]

/-- A comment comes out as it is. -/
theorem line_of_isComment [Machine] {s : Settings} {level : Int} {mayWrap : Bool} {t : Text}
    {written : List Text} (h : line s level false mayWrap t = .ok written)
    (ht : isComment t = true) :
    written = [t] := by
  rcases line_spec h with ⟨-, rfl⟩ | ⟨hinert, -⟩
  · rfl
  · simp [isComment_eq_false hinert] at ht

end Fix

namespace Script

/-! ## Comments of a script -/

/-- The comment lines of a script, as far as they stand outside of heredocs. -/
def comments (lines : List Text) : List Text :=
  ((lines.zip (heredocMarks none lines)).filter fun p => !p.2 && isComment p.1).map Prod.fst

/-- The comment lines that a task takes care of. -/
def Task.comments (task : Task) : List Text :=
  if task.isCopy then [] else task.texts.filter isComment

/-- The comments of a script are those that its tasks take care of. -/
theorem comments_eq (lines : List Text) : comments lines = (plan lines).flatMap Task.comments := by
  have htask : ∀ task : Task, ((task.marked.map (Prod.map NumberedLine.text id)).filter fun p =>
      !p.2 && isComment p.1).map Prod.fst = task.comments := by
    intro task
    cases hcopy : task.isCopy <;>
      simp [Task.marked, Task.comments, Task.texts, hcopy, List.filter_map, Function.comp_def]
  rw [comments, ← plan_marked_texts, List.map_flatMap, List.filter_flatMap, List.map_flatMap]
  simp only [htask]

/-- A task that joins nothing writes its comments back. -/
theorem Task.comments_sublist [Machine] {s : Settings} {task : Task} {written : List Text}
    (hjoin : task.isJoin = false) (h : task.write s = .ok written) :
    task.comments.Sublist written := by
  cases task with
  | copy line => exact List.nil_sublist _
  | join level pending terminal => simp [isJoin] at hjoin
  | format level mayWrap line =>
    replace h : Fix.line s level false mayWrap line.text = .ok written := h
    cases hcomment : isComment line.text with
    | true =>
      rw [Fix.line_of_isComment h hcomment]
      exact List.filter_sublist
    | false => simp [comments, isCopy, texts, source, hcomment]

/-- The comments that are not joined come out as they are, in order. -/
theorem comments_sublist_writeAll [Machine] {s : Settings} {tasks : List Task} {f : Formatted}
    (h : writeAll s tasks = .ok f) :
    ((tasks.filter fun task => !task.isJoin).flatMap Task.comments).Sublist f.lines := by
  induction tasks generalizing f with
  | nil => exact List.nil_sublist _
  | cons task tasks ih =>
    obtain ⟨written, others, hwrite, hothers, rfl⟩ := writeAll_cons_eq_ok.mp h
    cases hjoin : task.isJoin with
    | true =>
      rw [List.filter_cons_of_neg (by simp [hjoin])]
      exact (ih hothers).trans (List.sublist_append_right _ _)
    | false =>
      rw [List.filter_cons_of_pos (by simp [hjoin]), List.flatMap_cons]
      exact (Task.comments_sublist hjoin hwrite).append (ih hothers)

/-- Where no comment is joined, none is left out by leaving out what is joined. -/
theorem flatMap_comments_filter {tasks : List Task}
    (h : ∀ task ∈ tasks, task.isJoin = true → task.comments = []) :
    (tasks.filter fun task => !task.isJoin).flatMap Task.comments =
      tasks.flatMap Task.comments := by
  induction tasks with
  | nil => rfl
  | cons task tasks ih =>
    have hrest := ih fun task' hmem => h task' (List.mem_cons_of_mem task hmem)
    cases hjoin : task.isJoin with
    | true =>
      rw [List.filter_cons_of_neg (by simp [hjoin]), hrest, List.flatMap_cons,
        h task List.mem_cons_self hjoin, List.nil_append]
    | false =>
      rw [List.filter_cons_of_pos (by simp [hjoin]), List.flatMap_cons, hrest, List.flatMap_cons]

/-! ## Joined comments -/

/-- Making pipes single is harmless. -/
theorem singlePipes_rewritten (t : Text) : Rewritten IsHarmless [] t (singlePipes t) := by
  refine (Fix.replaceAll_scanned doubledPipe_isBounded _ t).rewritten fun p a t v b hm hb =>
    .single ?_
  subst hb
  have hplain := isPlain_of_doubledPipe hm
  obtain ⟨gap, gap', rfl, -⟩ := exists_piece_of_doubledPipe hm
  exact ⟨⟨rfl, rfl⟩, ⟨hplain, List.all_eq_true.mp rfl⟩, .inl ⟨rfl, rfl⟩⟩

theorem isComment_joinCommand (pending : List NumberedLine) (terminal : Text) :
    isComment (joinCommand pending terminal) = isComment (joinedLines pending terminal) := by
  obtain ⟨margin, hmargin, heq⟩ := exists_joinCommand_eq pending terminal
  rw [heq, Fix.isComment_blanks_append hmargin,
    ← Fix.isComment_of_rewritten (singlePipes_rewritten _)]

/-- A line that goes on is no comment without its backslash either. -/
theorem isComment_dropContinuation {line : NumberedLine} (h : line.goesOn = true) :
    isComment (trim (dropContinuation line.text)) = false := by
  have hline : isComment line.text = false := by
    rw [NumberedLine.goesOn, Bool.and_eq_true, Bool.not_eq_true'] at h
    exact h.2
  obtain ⟨tail, htail, -⟩ := exists_dropContinuation_append line.text
  rw [Fix.isComment_trim, Bool.eq_false_iff]
  intro hcomment
  have happend := Fix.isComment_append_of_isComment hcomment tail
  rw [← htail, hline] at happend
  simp at happend

/-- A command is joined to a comment only if its lines before the last have nothing on them and the
last is one. -/
theorem isComment_of_joinedLines {pending : List NumberedLine} {terminal : Text}
    (hpending : ∀ line ∈ pending, line.goesOn = true)
    (h : isComment (joinedLines pending terminal) = true) :
    isComment terminal = true ∧ pipes (pending.map NumberedLine.text) = 0 := by
  cases hpieces : (pending.map fun line => trim (dropContinuation line.text)).filter fun piece =>
    !piece.isEmpty with
  | nil =>
    constructor
    · rw [joinedLines, commandPieces, List.filter_append, hpieces, List.nil_append] at h
      by_cases hnil : trim terminal = []
      · simp [hnil, joinWith, isComment, trimLeft] at h
      · rw [← Fix.isComment_trim]
        simpa [hnil, joinWith] using h
    · rw [← pipes_map_dropContinuation, pipes, ← List.flatten_filter_not_isEmpty, hpieces]
      rfl
  | cons first rest =>
    -- the joined lines begin with a line that goes on
    have hmem : first ∈ (pending.map fun line => trim (dropContinuation line.text)).filter
        fun piece =>
        !piece.isEmpty := by simp [hpieces]
    obtain ⟨hmem, hne⟩ := List.mem_filter.mp hmem
    obtain ⟨line, hline, rfl⟩ := List.mem_map.mp hmem
    have hfirst := isComment_dropContinuation (hpending line hline)
    have hsolid : isBlankText (trim (dropContinuation line.text)) = false := by
      rw [Bool.eq_false_iff, Ne, isBlankText_iff_trimRight, trim, trimRight_trimRight, ← trim]
      simpa using hne
    obtain ⟨behind, hbehind⟩ := exists_joinWith_cons [' '] (trim (dropContinuation line.text))
      (rest ++ [trim terminal].filter fun piece => !piece.isEmpty)
    rw [joinedLines, commandPieces, List.filter_append, hpieces, List.cons_append, hbehind,
      Fix.isComment_append hsolid, hfirst] at h
    simp at h

/-- A comment that ends a command which is joined has a doubled pipe of its own. -/
theorem hasDoubledPipe_of_isComment {pending : List NumberedLine} {terminal : Text}
    (hcomment : isComment terminal = true) (h : meetsInPipes pending terminal = true) :
    HasDoubledPipe terminal := by
  rw [meetsInPipes, Bool.or_eq_true] at h
  rcases h with hmeet | hoccurs
  · exfalso
    obtain ⟨last, -, hpipe⟩ := (Option.any_eq_true _ _).mp hmeet
    rw [Bool.and_eq_true, startsWithPipe_iff] at hpipe
    obtain ⟨-, c, rest, hclosing, -⟩ := hpipe
    simp [isComment, hclosing] at hcomment
  · have hleft := hasDoubledPipe_of_occurs hoccurs
    rw [← indent_append_trimLeft terminal]
    refine hleft.append_left fun hlast => ?_
    have hblank : isBlank '|' = true := isBlank_of_mem_indent (List.mem_of_getLast? hlast)
    simp [isBlank] at hblank

/-- The only comment among the lines of a joined command is its last line. -/
theorem Task.comments_join {level : Int} {pending : List NumberedLine} {terminal : NumberedLine}
    (hpending : ∀ line ∈ pending, line.goesOn = true) :
    (join level pending terminal).comments = [terminal.text].filter isComment := by
  have hnone : (pending.map NumberedLine.text).filter isComment = [] := by
    rw [List.filter_eq_nil_iff]
    intro text htext
    obtain ⟨line, hline, rfl⟩ := List.mem_map.mp htext
    have hgoesOn := hpending line hline
    rw [NumberedLine.goesOn, Bool.and_eq_true, Bool.not_eq_true'] at hgoesOn
    simp [hgoesOn.2]
  simp [comments, isCopy, texts, source, List.filter_append, hnone]

/-- The comments that a task writes have no more pipes than those it takes care of, and fewer where
one is joined. -/
theorem Task.pipes_comments [Machine] {s : Settings} {task : Task} {written : List Text}
    (hsound : task.IsSound) (hcopy : task.isCopy = false) (h : task.write s = .ok written) :
    pipes (written.filter isComment) ≤ pipes task.comments ∧
      (task.isJoin = true → task.comments ≠ [] →
        pipes (written.filter isComment) < pipes task.comments) := by
  cases task with
  | copy line => simp [isCopy] at hcopy
  | format level mayWrap line =>
    replace h : Fix.line s level false mayWrap line.text = .ok written := h
    refine ⟨?_, by simp [isJoin]⟩
    cases hcomment : isComment line.text with
    | true =>
      rw [Fix.line_of_isComment h hcomment]
      exact Nat.le_refl _
    | false =>
      rw [Fix.filter_isComment_line h hcomment]
      exact Nat.zero_le _
  | join level pending terminal =>
    replace h : Fix.line s level false true (joinCommand pending terminal.text) = .ok written := h
    obtain ⟨-, -, hpending, -, hpipes⟩ := hsound
    rw [comments_join hpending]
    cases hjoined : isComment (joinCommand pending terminal.text) with
    | true =>
      -- the joined line is the comment, with fewer pipes
      rw [isComment_joinCommand] at hjoined
      obtain ⟨hterminal, hzero⟩ := isComment_of_joinedLines hpending hjoined
      rw [← isComment_joinCommand] at hjoined
      have hlt := count_joinCommand_lt hpipes
      rw [pipes_append, hzero, Nat.zero_add] at hlt
      rw [Fix.line_of_isComment h hjoined]
      have hlt' : pipes ([joinCommand pending terminal.text].filter isComment) <
          pipes ([terminal.text].filter isComment) := by
        simpa [hjoined, hterminal] using hlt
      exact ⟨Nat.le_of_lt hlt', fun _ _ => hlt'⟩
    | false =>
      rw [Fix.filter_isComment_line h hjoined]
      refine ⟨Nat.zero_le _, fun _ hne => ?_⟩
      have hterminal : isComment terminal.text = true := by
        cases hterminal : isComment terminal.text with
        | true => rfl
        | false => simp [hterminal] at hne
      have hcount := (hasDoubledPipe_of_isComment hterminal hpipes).two_le_count
      simp only [hterminal, List.filter_cons_of_pos, List.filter_nil, pipes_cons, pipes_nil]
      omega

/-- Where no line belongs to a heredoc, the comments that are written have fewer pipes than those of
the tasks if a comment is joined. -/
theorem pipes_comments_writeAll [Machine] {s : Settings} {tasks : List Task} {f : Formatted}
    (hsound : ∀ task ∈ tasks, task.IsSound) (hcopy : ∀ task ∈ tasks, task.isCopy = false)
    (h : writeAll s tasks = .ok f) :
    pipes (f.lines.filter isComment) ≤ pipes (tasks.flatMap Task.comments) ∧
      ∀ task ∈ tasks, task.isJoin = true → task.comments ≠ [] →
        pipes (f.lines.filter isComment) < pipes (tasks.flatMap Task.comments) := by
  induction tasks generalizing f with
  | nil =>
    obtain rfl : ⟨[], 0⟩ = f := Except.ok.inj h
    exact ⟨Nat.le_refl 0, by simp⟩
  | cons task tasks ih =>
    obtain ⟨written, others, hwrite, hothers, rfl⟩ := writeAll_cons_eq_ok.mp h
    obtain ⟨hle, hlt⟩ :=
      Task.pipes_comments (hsound task List.mem_cons_self) (hcopy task List.mem_cons_self) hwrite
    obtain ⟨hrest, hlater⟩ := ih (fun task' hmem => hsound task' (List.mem_cons_of_mem task hmem))
      (fun task' hmem => hcopy task' (List.mem_cons_of_mem task hmem)) hothers
    rw [Formatted.lines_append, List.filter_append, pipes_append, List.flatMap_cons, pipes_append]
    refine ⟨Nat.add_le_add hle hrest, fun task' hmem hjoin hne => ?_⟩
    rcases List.mem_cons.mp hmem with rfl | hmem
    · exact Nat.add_lt_add_of_lt_of_le (hlt hjoin hne) hrest
    · exact Nat.add_lt_add_of_le_of_lt hle (hlater task' hmem hjoin hne)

/-! ## Comments of a formatted script -/

/-- A script without heredocs has no lines to copy. -/
theorem isCopy_eq_false_of_heredocs_eq_nil {lines : List Text} (h : heredocs lines = []) :
    ∀ task ∈ plan lines, task.isCopy = false := by
  have hmarks : ∀ {lines : List Text}, heredocs lines = [] →
      ∀ mark ∈ heredocMarks none lines, mark = false := by
    intro lines h
    induction lines with
    | nil => simp [heredocMarks]
    | cons text lines ih =>
      by_cases hopener : context text = .heredocStart
      · exact absurd h (heredocs_cons_ne_nil hopener lines)
      · rw [heredocs_cons_of_ne hopener] at h
        rw [heredocMarks, heredocBehind, if_neg hopener]
        simpa [hopener] using ih h
  intro task hmem
  obtain ⟨line, hline⟩ : ∃ line, line ∈ task.source := by
    cases task with
    | copy line => exact ⟨line, List.mem_singleton.mpr rfl⟩
    | format level mayWrap line => exact ⟨line, List.mem_singleton.mpr rfl⟩
    | join level pending terminal => exact ⟨terminal, by simp [Task.source]⟩
  have hzip : (line.text, task.isCopy) ∈ lines.zip (heredocMarks none lines) := by
    rw [← plan_marked_texts]
    refine List.mem_map.mpr ⟨(line, task.isCopy), List.mem_flatMap.mpr ⟨task, hmem, ?_⟩, rfl⟩
    exact List.mem_map.mpr ⟨line, hline, rfl⟩
  exact hmarks h _ (List.of_mem_zip hzip).2

/-- What becomes of the comments of a script outside of its heredocs. Those that do not end a joined
command come out as they are and in order; so if no joined command ends with a comment, all of them
do. In a script without heredocs this is the only way: a comment that is joined is missing among the
formatted lines. -/
theorem format_comments [Machine] {s : Settings} {lines : List Text} {f : Formatted}
    (h : format s lines = .ok f) :
    (((plan lines).filter fun task => !task.isJoin).flatMap Task.comments).Sublist f.lines ∧
      ((∀ task ∈ plan lines, task.isJoin = true → task.comments = []) →
        (comments lines).Sublist f.lines) ∧
      (heredocs lines = [] → (comments lines).Sublist f.lines →
        ∀ task ∈ plan lines, task.isJoin = true → task.comments = []) := by
  rw [format_eq] at h
  have hsublist := comments_sublist_writeAll h
  refine ⟨hsublist, fun hnone => ?_, fun hheredocs hall task hmem hjoin => ?_⟩
  · rw [comments_eq, ← flatMap_comments_filter hnone]
    exact hsublist
  · have hcomments : (comments lines).filter isComment = comments lines := by
      rw [List.filter_eq_self]
      intro text htext
      obtain ⟨p, hp, rfl⟩ := List.mem_map.mp htext
      have hcond := (List.mem_filter.mp hp).2
      rw [Bool.and_eq_true] at hcond
      exact hcond.2
    have hle := pipes_le_of_sublist (hall.filter isComment)
    rw [hcomments, comments_eq] at hle
    obtain ⟨-, hlt⟩ := pipes_comments_writeAll (fun _ => isSound_of_mem_plan)
      (isCopy_eq_false_of_heredocs_eq_nil hheredocs) h
    by_contra hne
    have := hlt task hmem hjoin hne
    omega

/-- A comment with a doubled pipe before a command that is joined. -/
theorem format_comments_apart :
    format .default ["  # x | | y".toList, "a | \\".toList, "| b".toList] =
        .ok ⟨["  # x | | y".toList, "a | b".toList], 1⟩ ∧
      comments ["  # x | | y".toList, "a | \\".toList, "| b".toList] = ["  # x | | y".toList] ∧
      (comments ["  # x | | y".toList, "a | \\".toList, "| b".toList]).Sublist
        ["  # x | | y".toList, "a | b".toList] ∧
      ∀ task ∈ plan ["  # x | | y".toList, "a | \\".toList, "| b".toList],
        task.isJoin = true → task.comments = [] := by
  have h : format .default ["  # x | | y".toList, "a | \\".toList, "| b".toList] =
      .ok ⟨["  # x | | y".toList, "a | b".toList], 1⟩ := rfl
  have hcomments := (format_comments h).2.1 (by decide +kernel)
  exact ⟨h, rfl, hcomments, (format_comments h).2.2 rfl hcomments⟩

/-- A comment that ends a command and has a doubled pipe becomes part of the command. -/
theorem format_comments_joined :
    format .default ["a \\".toList, "# x | | y".toList] = .ok ⟨["a # x | y".toList], 1⟩ ∧
      comments ["a \\".toList, "# x | | y".toList] = ["# x | | y".toList] ∧
      ¬ (comments ["a \\".toList, "# x | | y".toList]).Sublist ["a # x | y".toList] :=
  ⟨rfl, rfl, by decide +kernel⟩

end Script

end ShellStyle
