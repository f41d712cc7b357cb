import ShellStyle.Proofs.Comments

/-!
# Line breaks are safe

A line that is too long is broken at a list operator. The place is looked for in the code of the
line and outside of strings, so that no string and no comment is cut; the first part ends with the
operator and goes on in the second, and the second stands one indent step deeper and does not go on.
What is shown here is that stripping blanks on both sides of the break changes none of this: the
first part has no comment that would swallow the operator, and the second is no comment that would
swallow its code.
-/

namespace ShellStyle

open Text Line

/-! ## Starts of a text -/

namespace Text

/-- The margin ends before the first character that is not blank. -/
theorem indent_append {a : Text} (h : isBlankText a = false) (t : Text) :
    indent (a ++ t) = indent a := by
  have hsplit : indent (a ++ t) ++ trimLeft (a ++ t) = indent a ++ trimLeft (a ++ t) := by
    rw [indent_append_trimLeft, trimLeft_append h, ← List.append_assoc, indent_append_trimLeft]
  exact List.append_cancel_right hsplit

/-- Whether a string is open behind the start of a text is told from the start alone. -/
theorem isQuotedAt_of_isPrefix {a t : Text} (h : a <+: t) :
    isQuotedAt t a.length = (QuoteState.start.run a).isOpen := by
  rw [isQuotedAt, ← List.prefix_iff_eq_take.mp h]

/-- A trimmed text begins with no blank. -/
theorem isBlank_head?_trim (t : Text) : ∀ c ∈ (trim t).head?, isBlank c = false := by
  intro c hc
  rw [trim] at hc
  have hhead := isBlank_head?_trimLeft t
  cases htrim : trimLeft t with
  | nil => simp [htrim, trimRight] at hc
  | cons d r =>
    have hd : isBlank d = false := by simpa [htrim] using hhead
    rw [htrim, ← List.nil_append (d :: r), trimRight_append_cons [] r hd] at hc
    obtain rfl : d = c := by simpa using hc
    exact hd

end Text

/-! ## Comments of a part of a line -/

namespace Line

/-- The comment of a text begins in its first part or else in its second. -/
theorem commentStartFrom_append (q : QuoteState) (before : Option Char) (pos : Nat) (a t : Text) :
    commentStartFrom q before pos (a ++ t) =
      (commentStartFrom q before pos a).or
        (commentStartFrom (q.run a) (a.getLast?.or before) (pos + a.length) t) := by
  induction a generalizing q before pos with
  | nil => rfl
  | cons c a ih =>
    rw [List.cons_append, commentStartFrom_cons, commentStartFrom_cons]
    split
    · rfl
    · rw [ih, QuoteState.run_cons, getLast?_cons_or, List.length_cons,
        show pos + 1 + a.length = pos + (a.length + 1) by omega]

/-- A comment starts before the end of the text. -/
theorem commentStartFrom_lt {q : QuoteState} {before : Option Char} {pos i : Nat} {t : Text}
    (h : commentStartFrom q before pos t = some i) : i < pos + t.length := by
  induction t generalizing q before pos with
  | nil => simp [commentStartFrom] at h
  | cons c t ih =>
    rw [commentStartFrom_cons] at h
    rw [List.length_cons]
    split at h
    · obtain rfl := Option.some.inj h
      omega
    · have hlt := ih h
      omega

/-- Without a number sign there is no comment. -/
theorem commentStartFrom_eq_none {t : Text} (h : '#' ∉ t) (q : QuoteState) (before : Option Char)
    (pos : Nat) :
    commentStartFrom q before pos t = none := by
  induction t generalizing q before pos with
  | nil => rfl
  | cons c t ih =>
    rw [List.mem_cons, not_or] at h
    have hc : (c == '#') = false := by simpa using Ne.symm h.1
    rw [commentStartFrom_cons, hc, ih h.2]
    simp

/-- There is no comment in the code of a line. -/
theorem commentStart?_of_isPrefix {a line : Text} (h : a <+: code line) :
    commentStart? a = none := by
  obtain ⟨t, hline⟩ := h.trans (Fix.code_isPrefix line)
  have happend := commentStartFrom_append .start none 0 a t
  rw [hline, ← commentStart?, ← commentStart?] at happend
  cases hstart : commentStart? a with
  | none => rfl
  | some i =>
    -- the comment of the line would begin in `a`, but the code of the line reaches further
    exfalso
    have hlt : i < 0 + a.length := commentStartFrom_lt hstart
    rw [hstart, Option.some_or] at happend
    have hle := h.length_le
    rw [code, happend, List.length_take] at hle
    omega

end Line

namespace Fix

/-! ## Lines that go on -/

theorem trailingBackslashes_of_getLast? {t : Text} (h : t.getLast? ≠ some '\\') :
    trailingBackslashes t = 0 := by
  rw [trailingBackslashes, List.length_eq_zero_iff]
  cases hr : t.reverse with
  | nil => rfl
  | cons c r =>
    have hc : c ≠ '\\' := by
      rintro rfl
      rw [← List.head?_reverse, hr] at h
      exact h rfl
    simp [hc]

/-- Whether a line goes on is told from its end, up to a blank. -/
theorem isContinued_append {a t : Text} (ha : ∀ c ∈ a.getLast?, isBlank c = true)
    (ht : isBlankText t = false) :
    isContinued (a ++ t) = isContinued t := by
  have hne : trimRight t ≠ [] := fun hnil => by simp [isBlankText_iff_trimRight.mpr hnil] at ht
  have hslash : a.getLast? ≠ some '\\' := fun hlast => absurd (ha '\\' hlast) (by decide)
  rw [isContinued, isContinued, trimRight_append_of_ne_nil a hne, trailingBackslashes_append,
    trailingBackslashes_of_getLast? hslash]
  simp

/-- Blanks around a line make no difference to whether it goes on. -/
theorem isContinued_trim {t : Text} (ht : isBlankText t = false) :
    isContinued (trim t) = isContinued t := by
  rw [← (isKept_trimLeft ht).isContinued, isContinued, isContinued, trim, trimRight_trimRight]

/-! ## The parts -/

/-- A line that a rule is not held back from is no comment. -/
theorem isComment_of_isGuarded {s : Settings} {rule : Rule} {line : Text}
    (h : isGuarded s rule line = false) :
    isComment line = false := by
  rw [isGuarded_eq, Bool.or_eq_false_iff, isClosed, isProtected_eq] at h
  simp only [Bool.or_eq_false_iff] at h
  exact h.2.1.1.1.1.1.1.1

/-- The first part of a broken line keeps its margin and has no comment. -/
theorem broken_head {line : Text} {hit : Hit Text} (hhit : breakPoint? (code line) = some hit)
    (hsolid : isBlankText (trimRight (line.take hit.span.start)) = false) :
    indent (trimRight (line.take hit.span.start) ++ [' '] ++ hit.value ++ [' ', '\\']) =
      indent line ∧
      commentStart? (trimRight (line.take hit.span.start) ++ [' '] ++ hit.value ++ [' ', '\\']) =
        none := by
  obtain ⟨hcases, hstop, -, c, d, -, -, htake⟩ := breakPoint?_spec hhit
  obtain ⟨rest, hrest⟩ := trimRight_take_isPrefix line hit.span.start
  rw [List.append_assoc, List.append_assoc]
  constructor
  · rw [indent_append hsolid]
    conv => rhs; rw [← hrest, indent_append hsolid]
  · have hfront : trimRight (line.take hit.span.start) <+: code line := by
      refine List.prefix_of_prefix_length_le ⟨rest, hrest⟩ (code_isPrefix line) ?_
      obtain ⟨gap, hgap, -⟩ := exists_trimRight_append (line.take hit.span.start)
      have hlength := congrArg List.length hgap
      have hcut := congrArg List.length htake
      simp only [List.length_append, List.length_cons, List.length_take] at hlength hcut
      omega
    have hoperator : '#' ∉ [' '] ++ (hit.value ++ [' ', '\\']) := by
      rcases hcases with heq | heq <;> simp [heq]
    rw [commentStart?, commentStartFrom_append, ← commentStart?, commentStart?_of_isPrefix hfront,
      commentStartFrom_eq_none hoperator]
    rfl

/-- The second part of a broken line has the margin it is given and goes on only if the line
does. -/
theorem broken_tail {line margin : Text} {hit : Hit Text}
    (hhit : breakPoint? (code line) = some hit)
    (hcode : isBlankText ((code line).drop hit.span.stop) = false)
    (hmargin : ∀ c ∈ margin, isBlank c = true) :
    indent (margin ++ trim (line.drop hit.span.stop)) = margin ∧
      trimLeft (margin ++ trim (line.drop hit.span.stop)) = trim (line.drop hit.span.stop) ∧
      isContinued (margin ++ trim (line.drop hit.span.stop)) = isContinued line := by
  have hsplit := span_append hmargin (isBlank_head?_trim (line.drop hit.span.stop))
  have hsolid : isBlankText (line.drop hit.span.stop) = false := by
    obtain ⟨comment, hcomment⟩ := code_isPrefix line
    obtain ⟨-, hstop, -⟩ := breakPoint?_spec hhit
    rw [← hcomment, List.drop_append_of_le_length hstop, isBlankText_append, hcode, Bool.false_and]
  have hsolid' : isBlankText (trim (line.drop hit.span.stop)) = false := by
    rw [Bool.eq_false_iff, ne_eq, isBlankText_iff_trimRight, trim, trimRight_trimRight,
      ← isBlankText_iff_trimRight, isBlankText_trimLeft, hsolid]
    exact Bool.false_ne_true
  refine ⟨hsplit.1, hsplit.2, ?_⟩
  obtain ⟨-, -, hlast⟩ := broken_line hhit
  rw [(isKept_blanks_append hmargin hsolid').isContinued, isContinued_trim hsolid,
    ← isContinued_append hlast hsolid, List.take_append_drop]

/-! ## The break -/

/-- A break that loses nothing: the line was too long; it is cut outside of strings at a list
operator between blanks; the first part ends with the operator and a backslash and goes on in the
second, which does not go on; neither part is a comment and the first has none; the first keeps the
margin and the second has one indent step more. -/
structure IsSafeBreak (s : Settings) (line head tail : Text) : Prop where
  tooLong : ∃ limit, s.maxLineLength = .ok limit ∧ limit < (line.length : Int)
  place : ∃ front op rest c d,
    (op = ['&', '&'] ∨ op = ['|', '|']) ∧ isBlank c = true ∧ isBlank d = true ∧
    line = front ++ (c :: (op ++ [d])) ++ rest ∧ isQuotedAt line front.length = false ∧
    isQuotedAt line (front ++ (c :: (op ++ [d]))).length = false ∧
    head = trimRight front ++ [' '] ++ op ++ [' ', '\\'] ∧ trimLeft tail = trim rest
  goesOn : isContinued head = true ∧ isContinued tail = false
  uncommented : isComment head = false ∧ isComment tail = false ∧ commentStart? head = none
  indent_head : indent head = indent line
  indent_tail : ∃ size, s.indentSize = .ok size ∧
    indent tail = indent line ++ List.replicate size.toNat ' '

/-- Breaking a line leaves it as it is or cuts it in two where that is safe. -/
theorem wrap_isSafeBreak [Machine] {s : Settings} {line : Text} {written : List Text}
    (h : wrap s line = .ok written) :
    written = [line] ∨ ∃ head tail, written = [head, tail] ∧ IsSafeBreak s line head tail := by
  rcases wrap_cases h with heq |
    ⟨hlong, hguarded, hcontinued, -, hit, size, step, hhit, hsize, hstep, hsolid, hcode, rfl⟩
  · exact .inl heq
  obtain ⟨hcases, -, hopen, c, d, hc, hd, htake⟩ := breakPoint?_spec hhit
  obtain ⟨-, hrun, -⟩ := broken_line hhit
  have hblank := isBlank_of_mem_spaces hstep
  have hmargin : ∀ e ∈ indent line ++ step, isBlank e = true := by
    intro e he
    rcases List.mem_append.mp he with he | he
    · exact isBlank_of_mem_indent he
    · exact hblank e he
  obtain ⟨hindent, hcomment⟩ := broken_head hhit hsolid
  obtain ⟨hindent', htrim, hends⟩ := broken_tail hhit hcode hmargin
  obtain ⟨hgoesOn, hhead⟩ := head_isContinued hsolid
  -- the line is what stands before the operator, the operator with its blanks, and the rest
  have hline : line = line.take hit.span.start ++ (c :: (hit.value ++ [d])) ++
      line.drop hit.span.stop := by
    rw [← htake, List.take_append_drop]
  refine .inr ⟨_, _, rfl, hlong, ?_, ?_, ?_, hindent, size, hsize, ?_⟩
  · refine ⟨_, hit.value, _, c, d, hcases, hc, hd, hline, ?_, ?_, rfl, htrim⟩
    · rw [isQuotedAt_of_isPrefix (List.take_prefix _ line), hopen]
    · rw [← htake, isQuotedAt_of_isPrefix (List.take_prefix _ line), hrun]
      rfl
  · exact ⟨hgoesOn, hends.trans hcontinued⟩
  · exact ⟨hhead.trans (isComment_of_isGuarded hguarded),
      isComment_tail_eq_false hhit hcode hblank, hcomment⟩
  · rw [hindent', eq_replicate_of_spaces hstep]

/-- A line with a margin, a `#` in a string and an operator in its comment is broken at the operator
between them. -/
theorem wrap_isSafeBreak_commented :
    wrap ⟨[("max_line_length", .int 12)], []⟩ "\ta '# b' &&  c # d && e".toList =
        .ok ["\ta '# b' && \\".toList, "\t  c # d && e".toList] ∧
      IsSafeBreak ⟨[("max_line_length", .int 12)], []⟩ "\ta '# b' &&  c # d && e".toList
        "\ta '# b' && \\".toList
        "\t  c # d && e".toList := by
  have h : wrap ⟨[("max_line_length", .int 12)], []⟩ "\ta '# b' &&  c # d && e".toList =
      .ok ["\ta '# b' && \\".toList, "\t  c # d && e".toList] := rfl
  rcases wrap_isSafeBreak h with hone | ⟨head, tail, htwo, hsafe⟩
  · simp at hone
  · obtain ⟨rfl, htail⟩ := List.cons.inj htwo
    obtain ⟨rfl, -⟩ := List.cons.inj htail
    exact ⟨h, hsafe⟩

end Fix

end ShellStyle
