import ShellStyle.Proofs.Outside
import ShellStyle.Proofs.Pipes
import ShellStyle.Proofs.Stability

/-!
# Strings of a script

The strings of a script are read over the ends of its lines. Formatting keeps the characters in them
as long as it works where no string is open: it may change a line that begins outside of strings and
break a line that ends there, and it may join lines that end there and whose doubled pipes are no
part of a string. What it changes elsewhere is changed in a string.
-/

namespace ShellStyle

open Text Line

/-! ## Line ends -/

/-- Outside of strings with nothing escaped, all is as at the start. -/
theorem QuoteState.eq_start {q : QuoteState} (hopen : q.isOpen = false)
    (hescaped : q.escaped = false) :
    q = .start := by
  obtain ⟨quote, escaped⟩ := q
  obtain rfl : quote = none := by simpa [QuoteState.isOpen] using hopen
  obtain rfl : escaped = false := hescaped
  rfl

/-- Characters other than quotes behind the end of a string leave what stands in strings. -/
theorem quoted_append_of_closed {t a : Text} (ht : endsQuoted t = false)
    (ha : ∀ c ∈ a, QuoteState.isMark c = false) :
    quoted (t ++ a) = quoted t := by
  have hproper : (QuoteState.start.run t).IsProper := QuoteState.isProper_start.run t
  rw [quoted, quotedFrom_append, quotedFrom_eq_nil hproper ht ha, List.append_nil, quoted]

/-- Text without quote marks does not change whether a string is open at the end. -/
theorem endsQuoted_append {t a : Text} (ha : ∀ c ∈ a, QuoteState.isMark c = false) :
    endsQuoted (t ++ a) = endsQuoted t := by
  have hproper : (QuoteState.start.run t).IsProper := QuoteState.isProper_start.run t
  rw [endsQuoted, QuoteState.run_append, QuoteState.isOpen_run hproper ha, endsQuoted]

theorem isMark_of_mem_blanks {gap : Text} (h : ∀ c ∈ gap, isBlank c = true) :
    ∀ c ∈ gap, QuoteState.isMark c = false :=
  fun c hc => isMark_of_isPlain (Fix.isPlain_of_isBlank (h c hc))

/-- Behind a character other than a quote and the backslash a closed text is back at the start. -/
theorem run_concat_of_closed {t : Text} (ht : endsQuoted t = false) {c : Char}
    (hc : isPlain c = true) :
    QuoteState.start.run (t ++ [c]) = .start := by
  refine QuoteState.eq_start ?_ ?_
  · rw [← endsQuoted, endsQuoted_append (by simpa using isMark_of_isPlain hc), ht]
  · rw [QuoteState.run_append]
    refine Fix.escaped_step ?_
    rintro rfl
    simp [isPlain] at hc

/-- What follows the end of the last string of a line does not matter. -/
theorem sameStrings_of_closed {t a b : Text} (ht : endsQuoted t = false)
    (ha : ∀ c ∈ a, QuoteState.isMark c = false) (hb : ∀ c ∈ b, QuoteState.isMark c = false)
    {c d : Char} (hc : isPlain c = true) (hd : isPlain d = true) :
    SameStrings (t ++ a ++ [c]) (t ++ b ++ [d]) := by
  have hta : endsQuoted (t ++ a) = false := by rw [endsQuoted_append ha, ht]
  have htb : endsQuoted (t ++ b) = false := by rw [endsQuoted_append hb, ht]
  have hmark : ∀ {c : Char}, isPlain c = true → ∀ e ∈ [c], QuoteState.isMark e = false :=
    fun hc => by simpa using isMark_of_isPlain hc
  constructor
  · rw [quoted_append_of_closed hta (hmark hc), quoted_append_of_closed htb (hmark hd),
      quoted_append_of_closed ht ha, quoted_append_of_closed ht hb]
  · rw [run_concat_of_closed hta hc, run_concat_of_closed htb hd]

/-- Blanks around a text go with its end, if no string is open there. -/
theorem sameStrings_trim {t tail : Text} (ht : endsQuoted t = false)
    (htail : ∀ c ∈ tail, QuoteState.isMark c = false) {c d : Char} (hc : isPlain c = true)
    (hd : isPlain d = true) :
    SameStrings (t ++ tail ++ [c]) (trim t ++ [d]) ∧ endsQuoted (trim t) = false := by
  obtain ⟨gap, hgap, hblank⟩ := exists_trimRight_append (trimLeft t)
  have hmark := isMark_of_mem_blanks hblank
  have hleft := SameStrings.trimLeft t
  have hclosed : endsQuoted (trim t) = false := by
    rw [trim, ← endsQuoted_append hmark, ← hgap, endsQuoted, hleft.2]
    exact ht
  have hbehind : ∀ e ∈ gap ++ tail, QuoteState.isMark e = false := by
    intro e he
    rcases List.mem_append.mp he with he | he
    · exact hmark e he
    · exact htail e he
  have hsame := sameStrings_of_closed hclosed hbehind (b := []) (by simp) hc hd
  rw [List.append_nil, ← List.append_assoc, trim, ← hgap] at hsame
  exact ⟨((hleft.append_right tail).append_right [c]).trans hsame, hclosed⟩

/-- A line that ends outside of strings may lose its blanks on both sides. -/
theorem sameStrings_trim_line {t : Text} (ht : endsQuoted t = false) :
    SameStrings (t ++ ['\n']) (trim t ++ ['\n']) := by
  have hnone : ∀ c ∈ ([] : Text), QuoteState.isMark c = false := by simp
  have hfeed : isPlain '\n' = true := rfl
  have htrim := (sameStrings_trim ht hnone hfeed hfeed).1
  rwa [List.append_nil] at htrim

/-- Lines, each with its line feed. -/
def paragraph (lines : List Text) : Text :=
  lines.flatMap (· ++ ['\n'])

@[simp] theorem paragraph_cons (t : Text) (lines : List Text) :
    paragraph (t :: lines) = t ++ ['\n'] ++ paragraph lines :=
  rfl

@[simp] theorem paragraph_singleton (t : Text) : paragraph [t] = t ++ ['\n'] :=
  List.append_nil _

theorem paragraph_append (xs ys : List Text) :
    paragraph (xs ++ ys) = paragraph xs ++ paragraph ys :=
  List.flatMap_append

/-- Behind lines that each end outside of strings the quote automaton is back at the start. -/
theorem run_paragraph {lines : List Text} (h : ∀ line ∈ lines, endsQuoted line = false) :
    QuoteState.start.run (paragraph lines) = .start := by
  induction lines with
  | nil => rfl
  | cons line lines ih =>
    have hline : QuoteState.start.run (line ++ ['\n']) = .start :=
      run_concat_of_closed (h line List.mem_cons_self) rfl
    rw [paragraph_cons, QuoteState.run_append, hline,
      ih fun line' hmem => h line' (List.mem_cons_of_mem line hmem)]

namespace Fix

/-! ## Layout keeps strings -/

/-- Indenting keeps the strings. -/
theorem indentation_sameStrings [Machine] {s : Settings} {level : Int} {line u : Text}
    (h : indentation s level false line = .ok u) : SameStrings line u := by
  rcases indentation_spec h with rfl | ⟨-, margin, hmargin, rfl⟩
  · exact .refl _
  · exact (SameStrings.trimLeft line).trans (.blanks_append hmargin _)

/-- A line up to the place where it is broken, and the first part. -/
theorem broken_head_sameStrings {line : Text} {hit : Hit Text}
    (h : breakPoint? (code line) = some hit) :
    SameStrings (line.take hit.span.stop)
      (trimRight (line.take hit.span.start) ++ ([' '] ++ hit.value ++ [' ', '\\']) ++ ['\n']) := by
  obtain ⟨hcases, -, hopen, c, d, hc, hd, htake⟩ := breakPoint?_spec h
  obtain ⟨gap, hgap, hblank⟩ := exists_trimRight_append (line.take hit.span.start)
  have hmark := isMark_of_mem_blanks hblank
  have hclosed : endsQuoted (trimRight (line.take hit.span.start)) = false := by
    rw [← endsQuoted_append hmark, ← hgap]
    exact hopen
  have hvalue : ∀ e ∈ hit.value, QuoteState.isMark e = false := by
    rcases hcases with heq | heq <;> rw [heq] <;> exact isMark_eq_false_of_all rfl
  have hbefore : ∀ e ∈ gap ++ [c] ++ hit.value, QuoteState.isMark e = false := by
    simp only [List.mem_append, List.mem_singleton]
    rintro e ((he | rfl) | he)
    · exact hmark e he
    · exact isMark_of_isPlain (isPlain_of_isBlank hc)
    · exact hvalue e he
  have hafter : ∀ e ∈ [' '] ++ hit.value ++ [' ', '\\'], QuoteState.isMark e = false := by
    rcases hcases with heq | heq <;> rw [heq] <;> exact isMark_eq_false_of_all rfl
  have hcut : line.take hit.span.stop =
      trimRight (line.take hit.span.start) ++ (gap ++ [c] ++ hit.value) ++ [d] := by
    rw [htake]
    conv => lhs; rw [hgap]
    simp
  rw [hcut]
  exact sameStrings_of_closed hclosed hbefore hafter (isPlain_of_isBlank hd) rfl

/-- A line is broken outside of strings, and blanks at its end are dropped; they are no part of a
string if none is open there. -/
theorem wrap_sameStrings [Machine] {s : Settings} {line : Text} {written : List Text}
    (h : wrap s line = .ok written) (hend : endsQuoted line = false ∨ written.length = 1) :
    SameStrings (line ++ ['\n']) (paragraph written) := by
  rcases wrap_spec h with rfl | ⟨-, -, -, hit, step, hhit, hstep, -, -, rfl⟩
  · exact paragraph_singleton line ▸ .refl _
  · replace hend : endsQuoted line = false := by simpa using hend
    obtain ⟨-, hrun, -⟩ := broken_line hhit
    have hmargin : ∀ e ∈ Text.indent line ++ step, isBlank e = true := by
      intro e he
      rcases List.mem_append.mp he with he | he
      · exact isBlank_of_mem_indent he
      · exact hstep e he
    have hrest : endsQuoted (line.drop hit.span.stop) = false := by
      rw [endsQuoted, ← hrun, ← QuoteState.run_append, List.take_append_drop]
      exact hend
    have htail : SameStrings (line.drop hit.span.stop ++ ['\n'])
        (Text.indent line ++ step ++ (trim (line.drop hit.span.stop) ++ ['\n'])) :=
      (sameStrings_trim_line hrest).trans (.blanks_append hmargin _)
    have hboth := (broken_head_sameStrings hhit).append (by rw [hrun]; exact htail)
    rw [← List.append_assoc, List.take_append_drop] at hboth
    simpa [paragraph] using hboth

/-- Formatting a line outside of strings keeps its strings, unless a string holds a tight operator
that the fixers see or is still open where the line is broken. -/
theorem line_sameStrings [Machine] {s : Settings} {level : Int} {mayWrap : Bool} {t : Text}
    {written : List Text} (h : line s level false mayWrap t = .ok written)
    (hexposed : exposesStrings t = false) (hend : endsQuoted t = false ∨ written.length = 1) :
    SameStrings (t ++ ['\n']) (paragraph written) := by
  rcases line_spec h with ⟨-, rfl⟩ | ⟨-, fixed, hfixed, hlast⟩
  · exact paragraph_singleton t ▸ .refl _
  · have hsame : SameStrings t fixed :=
      (content_sameStrings s hexposed).trans (indentation_sameStrings hfixed)
    refine (hsame.append_right ['\n']).trans ?_
    rcases hlast with ⟨-, rfl⟩ | ⟨-, hwrap⟩
    · exact paragraph_singleton fixed ▸ .refl _
    · refine wrap_sameStrings hwrap (hend.imp_left fun hend => ?_)
      rw [endsQuoted, hsame.2]
      exact hend

end Fix

namespace Script

/-! ## Joining keeps strings -/

/-- Whether a doubled pipe stands in a string of the text. -/
def quotesDoubledPipe (t : Text) : Bool :=
  (List.range t.length).any fun i =>
    isQuotedAt t i && (doubledPipe (t.take i).getLast? (t.drop i)).isSome

/-- Making pipes single is silent where doubled pipes stand outside of strings. -/
theorem singlePipes_silent {t : Text} (h : quotesDoubledPipe t = false) :
    Rewritten IsSilent [] t (singlePipes t) := by
  refine (Fix.replaceAll_scanned doubledPipe_isBounded _ t).rewritten_of_place fun x a y v b
    heq hhit hb => ?_
  subst hb
  rw [List.nil_append] at heq
  have hne : a ≠ [] := by
    obtain ⟨gap, gap', rfl, -⟩ := exists_piece_of_doubledPipe hhit
    simp
  have hopen : (QuoteState.start.run x).isOpen = false := by
    rw [quotesDoubledPipe, List.any_eq_false] at h
    have hlt : x.length < t.length := by
      have hpos := List.length_pos_iff.mpr hne
      rw [heq, List.length_append, List.length_append]
      omega
    have hno := h x.length (List.mem_range.mpr hlt)
    rw [isQuotedAt, heq, List.take_left, List.drop_left, hhit] at hno
    simpa using hno
  exact .single (isSilent_of_isPlain hopen ⟨hne, by simp⟩
    ⟨isPlain_of_doubledPipe hhit, List.all_eq_true.mp rfl⟩)

/-- What is dropped from a continued line has no quote characters. -/
theorem exists_dropContinuation_bare (line : Text) :
    ∃ tail, line = dropContinuation line ++ tail ∧ ∀ c ∈ tail, QuoteState.isMark c = false := by
  obtain ⟨tail, htail, hslash⟩ := exists_dropContinuation_append line
  refine ⟨tail, htail, ?_⟩
  intro c hc
  rcases hslash c hc with hblank | rfl
  · exact isMark_of_isPlain (Fix.isPlain_of_isBlank hblank)
  · rfl

/-- Dropping the backslash at the end closes no string. -/
theorem endsQuoted_dropContinuation (line : Text) :
    endsQuoted (dropContinuation line) = endsQuoted line := by
  obtain ⟨tail, htail, hmark⟩ := exists_dropContinuation_bare line
  conv => rhs; rw [htail, endsQuoted_append hmark]

/-- Lines that go on, each ending outside of strings, and what is joined of them. -/
theorem pending_sameStrings {pending : List NumberedLine}
    (h : ∀ line ∈ pending, endsQuoted line.text = false) :
    SameStrings (paragraph (pending.map NumberedLine.text))
      (((pending.map fun line => trim (dropContinuation line.text)).filter fun piece =>
        !piece.isEmpty).flatMap
        (· ++ [' '])) := by
  induction pending with
  | nil => exact .refl []
  | cons line pending ih =>
    have hrest := ih fun line' hmem => h line' (List.mem_cons_of_mem line hmem)
    have hline := h line List.mem_cons_self
    obtain ⟨tail, htail, hmark⟩ := exists_dropContinuation_bare line.text
    have hclosed : endsQuoted (dropContinuation line.text) = false := by
      rw [endsQuoted_dropContinuation, hline]
    have hstart : QuoteState.start.run (line.text ++ ['\n']) = .start :=
      run_concat_of_closed hline rfl
    have hpiece : SameStrings (line.text ++ ['\n'])
        (trim (dropContinuation line.text) ++ [' ']) := by
      have hsame := (sameStrings_trim hclosed hmark (show isPlain '\n' = true from rfl)
        (show isPlain ' ' = true from rfl)).1
      rwa [← htail] at hsame
    rw [List.map_cons, paragraph_cons, List.map_cons]
    -- a line that is blank but for its backslash is left out with the space behind it
    by_cases hnil : trim (dropContinuation line.text) = []
    · rw [hnil, List.nil_append] at hpiece
      have hspace : SameStrings [] [' '] := ⟨rfl, rfl⟩
      have hempty := hpiece.trans hspace.symm
      have hboth := hempty.append (by rw [hstart]; exact hrest)
      simpa [hnil] using hboth
    · have hboth := hpiece.append (by rw [hstart]; exact hrest)
      simpa [hnil] using hboth

/-- Lines that end outside of strings keep them when they are joined. -/
theorem joinedLines_sameStrings {pending : List NumberedLine} {terminal : Text}
    (h : ∀ line ∈ pending.map NumberedLine.text ++ [terminal], endsQuoted line = false)
    (hne : trim terminal ≠ []) :
    SameStrings (paragraph (pending.map NumberedLine.text ++ [terminal]))
      (joinedLines pending terminal ++ ['\n']) := by
  obtain ⟨hpending, hterminal⟩ := List.forall_mem_append.mp h
  have hrun := run_paragraph hpending
  have hfront :=
    pending_sameStrings fun line hline => hpending line.text (List.mem_map_of_mem hline)
  have hlast := sameStrings_trim_line (hterminal terminal (List.mem_singleton.mpr rfl))
  have hboth := hfront.append (by rw [hrun]; exact hlast)
  rw [joinedLines_eq hne, paragraph_append, List.append_assoc]
  simpa [paragraph] using hboth

/-- The joined lines end outside of strings, too. -/
theorem endsQuoted_joinedLines {pending : List NumberedLine} {terminal : Text}
    (h : ∀ line ∈ pending.map NumberedLine.text ++ [terminal], endsQuoted line = false)
    (hne : trim terminal ≠ []) :
    endsQuoted (joinedLines pending terminal) = false := by
  have hfeed : ∀ c ∈ ['\n'], QuoteState.isMark c = false := Fix.isMark_eq_false_of_all rfl
  rw [← endsQuoted_append hfeed, endsQuoted, (joinedLines_sameStrings h hne).2, run_paragraph h]
  rfl

/-- A command that is joined outside of strings keeps them. -/
theorem joinCommand_sameStrings {pending : List NumberedLine} {terminal : Text}
    (h : ∀ line ∈ pending.map NumberedLine.text ++ [terminal], endsQuoted line = false)
    (hpipes : meetsInPipes pending terminal = true)
    (hquotes : quotesDoubledPipe (joinedLines pending terminal) = false) :
    SameStrings (paragraph (pending.map NumberedLine.text ++ [terminal]))
      (joinCommand pending terminal ++ ['\n']) ∧
      endsQuoted (joinCommand pending terminal) = false := by
  have hne := trim_ne_nil_of_meetsInPipes hpipes
  obtain ⟨margin, hmargin, heq⟩ := exists_joinCommand_eq pending terminal
  have hjoined : SameStrings (joinedLines pending terminal) (joinCommand pending terminal) := by
    rw [heq]
    exact (SameStrings.of_rewritten (singlePipes_silent hquotes)).trans (.blanks_append hmargin _)
  constructor
  · exact (joinedLines_sameStrings h hne).trans (hjoined.append_right _)
  · rw [endsQuoted, hjoined.2]
    exact endsQuoted_joinedLines h hne

/-! ## Tasks that keep strings -/

namespace Task

/-- Whether a task breaks a line. -/
def breaks [Machine] (s : Settings) (task : Task) : Bool :=
  match task.write s with
  | .ok written => written.length == 2
  | .error _ => false

/-- A task that keeps the strings of a script, where the quote automaton is at `q` before its lines.
It changes nothing, or its lines begin outside of strings and no string holds what it changes; a
line that it breaks and lines that it joins end outside of strings, too. -/
def KeepsStrings [Machine] (s : Settings) (q : QuoteState) : Task → Prop
  | copy _ => True
  | format level mayWrap line =>
    Fix.line s level false mayWrap line.text = .ok [line.text] ∨
      q.isOpen = false ∧ Fix.exposesStrings line.text = false ∧
        (endsQuoted line.text = false ∨ (format level mayWrap line).breaks s = false)
  | join _ pending terminal =>
    q.isOpen = false ∧ (pending ++ [terminal]).all (fun line => !endsQuoted line.text) = true ∧
      quotesDoubledPipe (joinedLines pending terminal.text) = false ∧
      Fix.exposesStrings (joinCommand pending terminal.text) = false

instance [Machine] (s : Settings) (q : QuoteState) : DecidablePred (KeepsStrings s q)
  | copy _ => isTrue trivial
  | format level mayWrap line =>
    inferInstanceAs (Decidable (Fix.line s level false mayWrap line.text = .ok [line.text] ∨
      q.isOpen = false ∧ Fix.exposesStrings line.text = false ∧
        (endsQuoted line.text = false ∨ (format level mayWrap line).breaks s = false)))
  | join _ pending terminal =>
    inferInstanceAs (Decidable (q.isOpen = false ∧
      (pending ++ [terminal]).all (fun line => !endsQuoted line.text) = true ∧
      quotesDoubledPipe (joinedLines pending terminal.text) = false ∧
      Fix.exposesStrings (joinCommand pending terminal.text) = false))

/-- What such a task writes has the strings of its lines. -/
theorem KeepsStrings.write [Machine] {s : Settings} {q : QuoteState} (hescaped : q.escaped = false)
    {task : Task} (h : task.KeepsStrings s q) (hsound : task.IsSound) {written : List Text}
    (hwrite : task.write s = .ok written) :
    quotedFrom q (paragraph written) = quotedFrom q (paragraph task.texts) ∧
      q.run (paragraph written) = q.run (paragraph task.texts) := by
  cases task with
  | copy line =>
    obtain rfl : [line.text] = written := Except.ok.inj hwrite
    exact ⟨rfl, rfl⟩
  | format level mayWrap line =>
    replace hwrite : Fix.line s level false mayWrap line.text = .ok written := hwrite
    rcases h with hsame | ⟨hopen, hexposed, hend⟩
    · obtain rfl : written = [line.text] := Except.ok.inj (hwrite.symm.trans hsame)
      exact ⟨rfl, rfl⟩
    · obtain rfl := QuoteState.eq_start hopen hescaped
      -- a line that ends in a string may not be broken, since the string would go on in the other
      -- part
      have hlength : (format level mayWrap line).breaks s = false → written.length = 1 := by
        intro hunbroken
        rw [breaks, Task.write, hwrite] at hunbroken
        rcases Fix.line_singleton_or_pair hwrite with ⟨u, rfl⟩ | hpair
        · rfl
        · simp [hpair] at hunbroken
      have hsame := Fix.line_sameStrings hwrite hexposed (hend.imp_right hlength)
      rwa [← paragraph_singleton] at hsame
  | join level pending terminal =>
    replace hwrite : Fix.line s level false true (joinCommand pending terminal.text) =
        .ok written := hwrite
    obtain ⟨hopen, hends, hquotes, hexposed⟩ := h
    obtain rfl := QuoteState.eq_start hopen hescaped
    have htexts : (join level pending terminal).texts =
        pending.map NumberedLine.text ++ [terminal.text] :=
      List.map_append
    have hclosed : ∀ line ∈ pending.map NumberedLine.text ++ [terminal.text],
        endsQuoted line = false := by
      simpa [or_imp, forall_and] using hends
    obtain ⟨hjoined, hend⟩ := joinCommand_sameStrings hclosed hsound.2.2.2.2 hquotes
    rw [htexts]
    exact hjoined.trans (Fix.line_sameStrings hwrite hexposed (.inl hend))

end Task

/-- Tasks of which each keeps the strings, where the quote automaton is at `q` before them. -/
def KeepStrings [Machine] (s : Settings) : QuoteState → List Task → Prop
  | _, [] => True
  | q, task :: tasks => task.KeepsStrings s q ∧ KeepStrings s (q.run (paragraph task.texts)) tasks

instance KeepStrings.decidable [Machine] (s : Settings) (q : QuoteState) (tasks : List Task) :
    Decidable (KeepStrings s q tasks) :=
  match tasks with
  | [] => isTrue trivial
  | task :: tasks =>
    haveI := KeepStrings.decidable s (q.run (paragraph task.texts)) tasks
    inferInstanceAs (Decidable (task.KeepsStrings s q ∧
      KeepStrings s (q.run (paragraph task.texts)) tasks))

/-- Behind a line end nothing is escaped. -/
theorem escaped_run_paragraph {q : QuoteState} (hescaped : q.escaped = false) (lines : List Text) :
    (q.run (paragraph lines)).escaped = false := by
  rcases List.eq_nil_or_concat lines with rfl | ⟨front, last, rfl⟩
  · exact hescaped
  · rw [List.concat_eq_append, paragraph_append, QuoteState.run_append, paragraph_singleton,
      QuoteState.run_append]
    exact Fix.escaped_step (by decide)

/-- Tasks that keep the strings write the strings of their lines. -/
theorem KeepStrings.writeAll [Machine] {s : Settings} {q : QuoteState}
    (hescaped : q.escaped = false) {tasks : List Task} (h : KeepStrings s q tasks)
    (hsound : ∀ task ∈ tasks, task.IsSound) {f : Formatted} (hwrite : writeAll s tasks = .ok f) :
    quotedFrom q (paragraph f.lines) = quotedFrom q (paragraph (tasks.flatMap Task.texts)) ∧
      q.run (paragraph f.lines) = q.run (paragraph (tasks.flatMap Task.texts)) := by
  induction tasks generalizing q f with
  | nil =>
    obtain rfl : ⟨[], 0⟩ = f := Except.ok.inj hwrite
    exact ⟨rfl, rfl⟩
  | cons task tasks ih =>
    obtain ⟨written, others, hnow, hothers, rfl⟩ := writeAll_cons_eq_ok.mp hwrite
    obtain ⟨hkeeps, hrest⟩ := h
    obtain ⟨hquoted, hrun⟩ := hkeeps.write hescaped (hsound task List.mem_cons_self) hnow
    obtain ⟨hquoted', hrun'⟩ := ih (escaped_run_paragraph hescaped task.texts) hrest
      (fun task' hmem => hsound task' (List.mem_cons_of_mem task hmem)) hothers
    rw [Formatted.lines_append, paragraph_append, List.flatMap_cons, paragraph_append]
    constructor
    · rw [quotedFrom_append, quotedFrom_append, hquoted, hrun, hquoted']
    · rw [QuoteState.run_append, QuoteState.run_append, hrun, hrun']

/-! ## The strings of a formatted script -/

/-- Lines with their ends are lines with ends between them and one at the end. -/
theorem paragraph_eq_joinWith {lines : List Text} (h : lines ≠ []) :
    paragraph lines = joinWith ['\n'] lines ++ ['\n'] := by
  obtain ⟨front, last, rfl⟩ := (List.eq_nil_or_concat lines).resolve_left h
  rw [List.concat_eq_append, joinWith_concat, paragraph_append]
  simp [paragraph]

/-- Two texts that have the same strings with a line feed at the end have them without it. -/
theorem quoted_eq_of_line_feed {t u : Text} (h : SameStrings (t ++ ['\n']) (u ++ ['\n'])) :
    quoted u = quoted t := by
  have hfeed : ∀ c ∈ ['\n'], QuoteState.isMark c = false := Fix.isMark_eq_false_of_all rfl
  have hopen : endsQuoted u = endsQuoted t := by
    rw [← endsQuoted_append hfeed, endsQuoted, h.2, ← endsQuoted, endsQuoted_append hfeed]
  have hlast : ∀ t : Text, quoted (t ++ ['\n']) = quoted t ++ if endsQuoted t then
      ['\n'] else [] := by
    intro t
    rw [quoted, quotedFrom_append, quoted]
    rfl
  have hquoted := h.1
  rw [hlast, hlast, hopen] at hquoted
  exact List.append_cancel_right hquoted

/-- Formatting does not lose all lines. -/
theorem lines_ne_nil_of_format [Machine] {s : Settings} {lines : List Text} {f : Formatted}
    (h : format s lines = .ok f) (hlines : lines ≠ []) : f.lines ≠ [] := by
  obtain ⟨steps, -, hwrite, hsource, hout⟩ := exists_marked_steps h
  have hne := markedOutput_ne_nil hwrite hsource hlines
  rw [← hout]
  simpa using hne

/-- Formatting keeps the strings of a script, read over the ends of its lines, if every task keeps
them: if a line that changes begins outside of strings, and no string holds a doubled pipe that is
made single, an operator that is taken apart or the end of a line that is broken or joined. -/
theorem quoted_format [Machine] {s : Settings} {lines : List Text} {f : Formatted}
    (h : format s lines = .ok f) (hkeep : KeepStrings s .start (plan lines)) :
    quoted (joinWith ['\n'] f.lines) = quoted (joinWith ['\n'] lines) := by
  by_cases hlines : lines = []
  · subst hlines
    obtain rfl : ⟨[], 0⟩ = f := Except.ok.inj h
    rfl
  · have hwritten := lines_ne_nil_of_format h hlines
    rw [format_eq] at h
    have hsame := hkeep.writeAll rfl (fun _ => isSound_of_mem_plan) h
    rw [flatMap_texts_plan] at hsame
    rw [paragraph_eq_joinWith hlines, paragraph_eq_joinWith hwritten] at hsame
    exact quoted_eq_of_line_feed hsame

/-- A string over two lines, a command that is joined next to a string, and a line with a space put
in. -/
theorem quoted_format_apart :
    format .default ["x=\"a,b".toList, "c\"".toList, "a | \\".toList, "| b \"c,d\"".toList,
        "e,f".toList] =
        .ok ⟨["x=\"a,b".toList, "c\"".toList, "a | b \"c,d\"".toList, "e, f".toList], 2⟩ ∧
      quoted (joinWith ['\n'] ["x=\"a,b".toList, "c\"".toList, "a | b \"c,d\"".toList,
        "e, f".toList]) =
        quoted (joinWith ['\n']
          ["x=\"a,b".toList, "c\"".toList, "a | \\".toList, "| b \"c,d\"".toList,
            "e,f".toList]) := by
  have h : format .default ["x=\"a,b".toList, "c\"".toList, "a | \\".toList, "| b \"c,d\"".toList,
      "e,f".toList] =
      .ok ⟨["x=\"a,b".toList, "c\"".toList, "a | b \"c,d\"".toList, "e, f".toList], 2⟩ := rfl
  exact ⟨h, quoted_format h (by decide +kernel)⟩

/-- Strings that are changed: a doubled pipe in a string is made single, a line inside a string
loses its margin, and a tight operator is taken apart in a string behind an escaped backslash. -/
theorem quoted_format_changed :
    (format .default ["a \\".toList, "| b \"x | | y\"".toList] =
        .ok ⟨["a | b \"x | y\"".toList], 1⟩ ∧
        quoted (joinWith ['\n'] ["a | b \"x | y\"".toList]) ≠
          quoted (joinWith ['\n'] ["a \\".toList, "| b \"x | | y\"".toList])) ∧
      (format .default ["x=\"a".toList, "  b\"".toList] = .ok ⟨["x=\"a".toList, "b\"".toList], 1⟩ ∧
        quoted (joinWith ['\n'] ["x=\"a".toList, "b\"".toList]) ≠
          quoted (joinWith ['\n'] ["x=\"a".toList, "  b\"".toList])) ∧
      format .default ["x \\\\\"]]&&[[\"".toList] = .ok ⟨["x \\\\\"]] && [[\"".toList], 1⟩ ∧
        quoted (joinWith ['\n'] ["x \\\\\"]] && [[\"".toList]) ≠
          quoted (joinWith ['\n'] ["x \\\\\"]]&&[[\"".toList]) :=
  ⟨⟨rfl, by decide +kernel⟩, ⟨rfl, by decide +kernel⟩, rfl, by decide +kernel⟩

end Script

end ShellStyle
