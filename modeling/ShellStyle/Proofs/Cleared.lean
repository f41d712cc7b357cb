import ShellStyle.Proofs.Issues
import ShellStyle.Proofs.LineBreak
import ShellStyle.Proofs.Margin

/-!
# What is no longer reported

The checks look again at what formatting writes. Operators that touch double brackets are reported
in no line that is written, unless it holds `=~`: the fixers have parted them, and where they held
back the check does too. Tabs in a margin are reported in no line that is written, unless it is
blank: blank lines are not indented, but they are checked.
-/

namespace ShellStyle.Fix

open Text Line

/-! ## No words, no hits -/

/-- A matcher has no hits where there are no words of its kind. -/
theorem hits_eq_nil {α : Type} {m : Matcher α} {kind : WordKind} (hfinds : Finds m kind)
    {line : Text} (h : Settled kind never line) : m.hits line = [] := by
  rw [List.eq_nil_iff_forall_not_mem]
  intro hit hhit
  obtain ⟨w, y, hdrop, hkind⟩ :=
    (hfinds _ _).mp (Option.isSome_iff_exists.mpr ⟨_, Matcher.hits_spec hhit⟩)
  exact h _ w y (by rw [← hdrop, List.take_append_drop]) hkind

/-! ## Margins -/

/-- A line that is indented gets a margin of spaces. -/
theorem indent_indentation [Machine] {s : Settings} (hs : s.isEnabled .indentation = true)
    {level : Int} {line u : Text} (hinert : (context line).isInert = false)
    (hsolid : isBlankText line = false) (h : indentation s level false line = .ok u) :
    ∀ c ∈ indent u, c = ' ' := by
  rw [indentation, hs, hinert, hsolid, if_neg (by decide)] at h
  obtain ⟨size, -, h⟩ := exists_of_bind_ok h
  obtain ⟨margin, hmargin, h⟩ := exists_of_bind_ok h
  obtain rfl := Except.ok.inj h
  have hindent : indent (margin ++ trimLeft line) = margin :=
    (span_append (isBlank_of_mem_spaces hmargin) (isBlank_head?_trimLeft line)).1
  intro c hc
  rw [hindent, eq_replicate_of_spaces hmargin] at hc
  exact List.eq_of_mem_replicate hc

/-- The parts of a line have margins of spaces if the line has one. -/
theorem indent_wrap [Machine] {s : Settings} {line : Text} {written : List Text}
    (h : wrap s line = .ok written) (hspaces : ∀ c ∈ indent line, c = ' ') :
    ∀ o ∈ written, ∀ c ∈ indent o, c = ' ' := by
  rcases wrap_cases h with rfl | ⟨-, -, -, -, hit, size, step, hhit, -, hstep, hsolid, hcode, rfl⟩
  · simpa using hspaces
  · have hmargin : ∀ c ∈ indent line ++ step, c = ' ' := by
      intro c hc
      rcases List.mem_append.mp hc with hc | hc
      · exact hspaces c hc
      · rw [eq_replicate_of_spaces hstep] at hc
        exact List.eq_of_mem_replicate hc
    have hblank : ∀ c ∈ indent line ++ step, isBlank c = true := by
      intro c hc
      rw [hmargin c hc]
      rfl
    intro o ho
    rcases List.mem_cons.mp ho with rfl | ho
    · rwa [(broken_head hhit hsolid).1]
    · obtain rfl := List.mem_singleton.mp ho
      rwa [(broken_tail hhit hcode hblank).1]

theorem content_nil (s : Settings) : content s [] = [] := by
  have hbrackets : brackets s [] = [] := by unfold brackets; split <;> rfl
  have hoperators : operatorSpacing s [] = [] := by unfold operatorSpacing; split <;> rfl
  have hbraces : braceSpacing s [] = [] := by unfold braceSpacing; split <;> rfl
  have hcommas : commaSpacing s [] = [] := by unfold commaSpacing; split <;> rfl
  rw [content, hbrackets, hoperators, hbraces, hcommas]

/-- A blank line comes out as it is. -/
theorem line_of_isBlankText [Machine] {s : Settings} {level : Int} {mayWrap : Bool} {t : Text}
    {written : List Text} (hblank : isBlankText t = true)
    (h : line s level false mayWrap t = .ok written) : written = [t] := by
  have hcontent : content s t = t := by
    have hgap := content_blanks_append (List.all_eq_true.mp hblank) s []
    rwa [content_nil, List.append_nil] at hgap
  rcases line_spec h with ⟨-, hwritten⟩ | ⟨-, fixed, hfixed, hlast⟩
  · exact hwritten
  · rw [hcontent, indentation, hblank, Bool.or_true, if_pos rfl] at hfixed
    obtain rfl := Except.ok.inj hfixed
    rcases hlast with ⟨-, hwritten⟩ | ⟨-, hwrap⟩
    · exact hwritten
    · rcases wrap_spec hwrap with hwritten | ⟨-, -, -, hit, -, -, -, hsolid, -⟩
      · exact hwritten
      · -- what stands before a break is not blank
        obtain ⟨rest, hrest⟩ := trimRight_take_isPrefix t hit.span.start
        rw [← hrest, isBlankText_append, hsolid] at hblank
        simp at hblank

/-- Where lines are indented, what a line comes out as has a margin of spaces, unless formatting
passes over the line or it is blank. -/
theorem indent_line [Machine] {s : Settings} (hs : s.isEnabled .indentation = true) {level : Int}
    {mayWrap : Bool} {t : Text} {written : List Text} (hinert : (context t).isInert = false)
    (hsolid : isBlankText t = false) (h : line s level false mayWrap t = .ok written) :
    ∀ o ∈ written, ∀ c ∈ indent o, c = ' ' := by
  rcases line_spec h with ⟨hpassed, -⟩ | ⟨-, fixed, hfixed, hlast⟩
  · rw [hinert] at hpassed
    exact absurd hpassed Bool.false_ne_true
  · have hkept := content_isKept s t
    have hsolid' := hkept.isBlankText.trans hsolid
    have hcomment := hkept.isComment.trans (isComment_eq_false hinert)
    have hspaces := indent_indentation hs (isInert_eq_false hsolid' hcomment) hsolid' hfixed
    rcases hlast with ⟨-, rfl⟩ | ⟨-, hwrap⟩
    · simpa using hspaces
    · exact indent_wrap hwrap hspaces

end ShellStyle.Fix

namespace ShellStyle.Check

open Text Line ShellStyle.Fix

/-! ## Operators -/

theorem isTightOperator_eq_false {line : Text} (hend : Settled testEndWord never line)
    (hstart : Settled testStartWord never line) (op : Text) : isTightOperator line op = false := by
  simp [isTightOperator, Matcher.first?, hits_eq_nil operatorAfterTest_finds hend,
    hits_eq_nil operatorBeforeTest_finds hstart]

/-- The check for operators finds nothing in a line that is passed over or has nothing to space. -/
theorem operatorSpacing_eq_none {s : Settings} {o : Text}
    (h : (context o).isInert = true ∨ IsSpaced s o) (hmatch : hasMatchOperator o = false)
    (number : Int) : operatorSpacing s number o = .ok none := by
  rw [operatorSpacing]
  split
  · rfl
  next hguarded =>
  rw [isGuarded_eq, Bool.or_eq_true, Bool.not_eq_true', not_or] at hguarded
  obtain ⟨hs, hclosed⟩ := hguarded
  have htight : ∀ op, isTightOperator o op = false := by
    intro op
    rcases h with hinert | hspaced | ⟨hoff | hmatch' | ⟨hend, hstart⟩, -, -⟩
    · rw [isInert_context, Bool.or_eq_true, List.isEmpty_iff] at hinert
      rcases hinert with rfl | hcomment
      · rfl
      · rw [isClosed, isProtected_eq, hcomment] at hclosed
        simp at hclosed
    · exact absurd hspaced hclosed
    · exact absurd hoff hs
    · rw [hmatch] at hmatch'
      exact absurd hmatch' Bool.false_ne_true
    · exact isTightOperator_eq_false hend hstart op
  rw [htight, htight]
  rfl

/-- No line that is written is reported for an operator at double brackets, unless it holds `=~`. -/
theorem operatorSpacing_cleared [Machine] {s : Settings} {level : Int} {mayWrap : Bool} {t o : Text}
    {written : List Text} (h : Fix.line s level false mayWrap t = .ok written) (ho : o ∈ written)
    (hmatch : hasMatchOperator o = false) (number : Int) :
    operatorSpacing s number o = .ok none ∧
      ∀ issues, line s number o = .ok issues → ∀ i ∈ issues, i.rule ≠ .spacingIssues := by
  have hnone := operatorSpacing_eq_none (line_isSpaced h o ho) hmatch number
  refine ⟨hnone, ?_⟩
  intro issues hissues i hi hrule
  obtain ⟨-, hfound⟩ := (mem_line_iff hissues).mp hi
  rw [hrule] at hfound
  exact absurd (hnone.symm.trans hfound) (by simp)

/-- Single brackets are doubled, the operator between them is parted from them, and the line is
broken behind it. -/
theorem operatorSpacing_cleared_broken :
    operatorSpacing ⟨[("max_line_length", .int 10)], []⟩ 1 "[[ a ]]&&[ b ]".toList =
        .ok (some ⟨.warning, .spacingIssues, 1, "Missing space around && operator"⟩) ∧
      Fix.line ⟨[("max_line_length", .int 10)], []⟩ 0 false true "[[ a ]]&&[ b ]".toList =
        .ok ["[[ a ]] && \\".toList, "  [[ b ]]".toList] ∧
      hasMatchOperator "[[ a ]] && \\".toList = false ∧
      operatorSpacing ⟨[("max_line_length", .int 10)], []⟩ 1 "[[ a ]] && \\".toList = .ok none := by
  have h : Fix.line ⟨[("max_line_length", .int 10)], []⟩ 0 false true "[[ a ]]&&[ b ]".toList =
      .ok ["[[ a ]] && \\".toList, "  [[ b ]]".toList] := rfl
  have hmatch : hasMatchOperator "[[ a ]] && \\".toList = false := rfl
  exact ⟨rfl, h, hmatch, (operatorSpacing_cleared h List.mem_cons_self hmatch 1).1⟩

/-! ## Tabs -/

/-- Formatting does not pass over a blank line with characters. -/
theorem isInert_of_isBlankText {t : Text} (hblank : isBlankText t = true) (hne : t ≠ []) :
    (context t).isInert = false := by
  have hcomment : isComment t = false := by
    rw [isComment, isBlankText_iff_trimLeft.mp hblank]
    rfl
  rw [isInert_context, hcomment, Bool.or_false]
  simpa using hne

/-- Where lines are indented, a line that is written is reported for its indentation exactly if the
line was blank and had a tab; blank lines come out as they are. -/
theorem indentation_cleared_iff [Machine] {s : Settings} (hs : s.isEnabled .indentation = true)
    {level : Int} {mayWrap : Bool} {t : Text} {written : List Text}
    (h : Fix.line s level false mayWrap t = .ok written) :
    (isBlankText t = true → written = [t]) ∧
      ∀ o ∈ written, ∀ number issues, line s number o = .ok issues →
        ((∃ i ∈ issues, i.rule = .indentation) ↔ isBlankText t = true ∧ '\t' ∈ t) := by
  refine ⟨fun hblank => line_of_isBlankText hblank h, ?_⟩
  intro o ho number issues hissues
  rw [indentation_reported_iff hissues]
  by_cases hblank : isBlankText t = true
  · rw [line_of_isBlankText hblank h, List.mem_singleton] at ho
    subst ho
    -- a blank line is all margin, and comes out as it is
    have hindent := indent_append_trimLeft o
    rw [isBlankText_iff_trimLeft.mp hblank, List.append_nil] at hindent
    rw [hindent]
    constructor
    · rintro ⟨-, -, htab⟩
      exact ⟨hblank, htab⟩
    · rintro ⟨-, htab⟩
      exact ⟨isInert_of_isBlankText hblank (List.ne_nil_of_mem htab), hs, htab⟩
  · constructor
    · rintro ⟨hchecked, -, htab⟩
      exfalso
      cases hinert : (context t).isInert with
      | true =>
        rcases line_spec h with ⟨-, rfl⟩ | ⟨hpassed, -⟩
        · obtain rfl := List.mem_singleton.mp ho
          simp [hinert] at hchecked
        · simp [hinert] at hpassed
      | false =>
        have hspace := indent_line hs hinert (by simpa using hblank) h o ho '\t' htab
        simp at hspace
    · rintro ⟨hblank', -⟩
      exact absurd hblank' hblank

/-- A tab before a line that is broken is found in neither part. -/
theorem indentation_cleared_iff_broken :
    Fix.line ⟨[("max_line_length", .int 10)], []⟩ 1 false true "\ta && b c d".toList =
        .ok ["  a && \\".toList, "    b c d".toList] ∧
      Settings.isEnabled ⟨[("max_line_length", .int 10)], []⟩ .indentation = true ∧
      ∀ o ∈ ["  a && \\".toList, "    b c d".toList], ∀ number issues,
        line ⟨[("max_line_length", .int 10)], []⟩ number o = .ok issues →
          ¬∃ i ∈ issues, i.rule = .indentation := by
  have h : Fix.line ⟨[("max_line_length", .int 10)], []⟩ 1 false true "\ta && b c d".toList =
      .ok ["  a && \\".toList, "    b c d".toList] := rfl
  have hs : Settings.isEnabled ⟨[("max_line_length", .int 10)], []⟩ .indentation = true := rfl
  refine ⟨h, hs, ?_⟩
  intro o ho number issues hissues hreported
  have hblank := ((indentation_cleared_iff hs h).2 o ho number issues hissues).mp hreported
  exact absurd hblank.1 Bool.false_ne_true

/-- A line that is a single tab comes out as it is and is reported. -/
theorem indentation_not_cleared :
    Settings.default.isEnabled .indentation = true ∧
      Fix.line .default 0 false true ['\t'] = .ok [['\t']] ∧
      line .default 1 ['\t'] =
        .ok [⟨.warning, .indentation, 1, "Use spaces instead of tabs for indentation"⟩] :=
  ⟨rfl, rfl, rfl⟩

end ShellStyle.Check
