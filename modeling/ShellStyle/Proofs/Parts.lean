import ShellStyle.Proofs.Spacing

/-!
# Indented and broken lines

What the fixers for spaces left settled stays settled when a line is given another margin, and in
both parts of a line that is broken behind a list operator.
-/

namespace ShellStyle.Fix

open Text Line

/-! ## Blanks at the start of a line -/

/-- A number between ranges is in none of them. -/
theorem inRanges_eq_false {ranges : List (Nat × Nat)} {first last : Nat}
    (h : (ranges.all fun r => decide (r.2 < first) || decide (last < r.1)) = true) {n : Nat}
    (hfirst : first ≤ n) (hlast : n ≤ last) : inRanges ranges n = false := by
  rw [inRanges, List.any_eq_false]
  intro r hr hin
  have hout := List.all_eq_true.mp h r hr
  simp only [Bool.or_eq_true, Bool.and_eq_true, decide_eq_true_eq] at hout hin
  omega

/-- No blank is a letter or a number. -/
theorem isWordChar_of_isBlank {c : Char} (h : isBlank c = true) : isWordChar c = false := by
  have hword : ∀ first last, (wordRanges.all fun r => decide (r.2 < first) || decide (last < r.1)) =
      true →
      ¬ c.toNat < 0x80 → first ≤ c.toNat → c.toNat ≤ last → isWordChar c = false := by
    intro first last hranges hascii hfirst hlast
    rw [isWordChar, if_neg hascii]
    exact inRanges_eq_false hranges hfirst hlast
  by_cases hascii : c.toNat < 0x80
  · have hname := isNameChar_of_isBlank h
    rw [isWordChar, if_pos hascii]
    simp only [isNameChar, isNameStart, Bool.or_eq_false_iff] at hname
    simp only [isAsciiWordChar, Bool.or_eq_false_iff]
    exact ⟨⟨hname.1.1, hname.2⟩, hname.1.2⟩
  · simp only [isBlank, Bool.or_eq_true, Bool.and_eq_true, decide_eq_true_eq, beq_iff_eq] at h
    rcases h with (((((((((h | h) | h) | h) | h) | h) | h) | h) | h) | h) | h
    · omega
    · omega
    · exact hword 0x85 0x85 (by decide +kernel) hascii (by omega) (by omega)
    · exact hword 0xa0 0xa0 (by decide +kernel) hascii (by omega) (by omega)
    · exact hword 0x1680 0x1680 (by decide +kernel) hascii (by omega) (by omega)
    · exact hword 0x2000 0x200a (by decide +kernel) hascii (by omega) (by omega)
    · exact hword 0x2028 0x2028 (by decide +kernel) hascii (by omega) (by omega)
    · exact hword 0x2029 0x2029 (by decide +kernel) hascii (by omega) (by omega)
    · exact hword 0x202f 0x202f (by decide +kernel) hascii (by omega) (by omega)
    · exact hword 0x205f 0x205f (by decide +kernel) hascii (by omega) (by omega)
    · exact hword 0x3000 0x3000 (by decide +kernel) hascii (by omega) (by omega)

/-- Blanks open no string. -/
theorem run_blanks {gap : Text} (h : ∀ c ∈ gap, isBlank c = true) :
    QuoteState.start.run gap = .start := by
  cases gap with
  | nil => rfl
  | cons c gap =>
    exact run_of_isPlain QuoteState.isProper_start (List.cons_ne_nil c gap) fun d hd =>
      isPlain_of_isBlank (h d hd)

/-- A word is not found at another character than its first. -/
theorem behind?_cons {w : Text} {a c : Char} (h : c ≠ a) (t : Text) :
    behind? (a :: w) (c :: t) = behind? (a :: w) t := by
  rw [behind?, after?, if_neg (Ne.symm h)]

theorem contains_cons {w : Text} {a c : Char} (h : c ≠ a) (t : Text) :
    contains (a :: w) (c :: t) = contains (a :: w) t := by
  rw [contains, contains, behind?_cons h]

/-- A blank in front makes no test against a regular expression. -/
theorem hasRegexTest_cons {c : Char} (h : isBlank c = true) (t : Text) :
    hasRegexTest (c :: t) = hasRegexTest t := by
  have hpiece : ∀ piece, behind? ['[', '['] (c :: piece) = behind? ['[', '['] piece :=
    behind?_cons (ne_of_isBlank h rfl)
  rw [hasRegexTest, hasRegexTest, splitAt]
  split
  · simp [behind?, after?]
  · cases hsplit : splitAt '\n' t with
    | nil => exact absurd hsplit (splitAt_ne_nil _ _)
    | cons piece pieces => simp only [List.any_cons, hpiece]

theorem hasExpansion_cons {c : Char} (h : c ≠ '$') (t : Text) :
    hasExpansion (c :: t) = hasExpansion t := by
  simp [hasExpansion, after?, Ne.symm h]

theorem hasBraceExpansion_cons {c : Char} (h : c ≠ '{') (t : Text) :
    hasBraceExpansion (c :: t) = hasBraceExpansion t := by
  simp [hasBraceExpansion, h]

/-- Of the character before it, the search only asks whether it is a backslash. -/
theorem quotesOperatorFrom_before {quote before before' : Option Char} (h : before ≠ some '\\')
    (h' : before' ≠ some '\\') (t : Text) :
    quotesOperatorFrom quote before t = quotesOperatorFrom quote before' t := by
  cases t with
  | nil => rfl
  | cons c t => simp [quotesOperatorFrom, h, h']

theorem quotesOperatorFrom_cons {quote before : Option Char} {c : Char} (h : isBlank c = true)
    (t : Text) :
    quotesOperatorFrom quote before (c :: t) = quotesOperatorFrom quote (some c) t := by
  have hne : ∀ {d : Char}, isBlank d = false → c ≠ d := ne_of_isBlank h
  have hplain := isPlain_of_isBlank h
  simp only [isPlain, Bool.and_eq_true, bne_iff_ne, Bool.not_eq_true'] at hplain
  have hbracket : c ≠ '[' := hne rfl
  have hamp : '&' ≠ c := (hne rfl).symm
  have hbar : '|' ≠ c := (hne rfl).symm
  simp [quotesOperatorFrom, startsWith, after?, hplain.2, hbracket, hamp, hbar]

theorem quotesOperator_cons {c : Char} (h : isBlank c = true) (t : Text) :
    quotesOperator (c :: t) = quotesOperator t := by
  have hslash : c ≠ '\\' := ne_of_isBlank h rfl
  rw [quotesOperator, quotesOperatorFrom_cons h, quotesOperator]
  exact quotesOperatorFrom_before (by simpa using hslash) (by simp) t

/-- A blank in front closes no line and opens none. -/
theorem isClosed_cons {c : Char} (h : isBlank c = true) (t : Text) :
    isClosed (c :: t) = isClosed t := by
  have hne : ∀ {d : Char}, isBlank d = false → c ≠ d := ne_of_isBlank h
  have hgap : ∀ d ∈ [c], isBlank d = true := by simpa using h
  have hcomment : isComment (c :: t) = isComment t := isComment_blanks_append hgap t
  have hopens : opensHeredoc (c :: t) = opensHeredoc t := opensHeredoc_blanks_append hgap t
  have harithmetic : hasArithmetic (c :: t) = hasArithmetic t := contains_cons (hne rfl) t
  have hsubstitution : hasSubstitution (c :: t) = hasSubstitution t := by
    have hquote : c ≠ backquote := hne rfl
    rw [hasSubstitution, hasSubstitution, contains_cons (hne rfl)]
    simp [hquote.symm]
  rw [isClosed, isClosed, isProtected_eq, isProtected_eq, hcomment, hopens,
    hasRegexTest_cons h, harithmetic, hsubstitution, hasExpansion_cons (hne rfl),
    hasBraceExpansion_cons (hne rfl), quotesOperator_cons h]

/-- Whether fixers may change a line does not depend on its margin. -/
theorem isClosed_blanks_append {gap : Text} (h : ∀ c ∈ gap, isBlank c = true) (t : Text) :
    isClosed (gap ++ t) = isClosed t := by
  induction gap with
  | nil => rfl
  | cons c gap ih =>
    rw [List.cons_append, isClosed_cons (h c List.mem_cons_self),
      ih fun d hd => h d (List.mem_cons_of_mem c hd)]

theorem hasMatchOperator_blanks_append {gap : Text} (h : ∀ c ∈ gap, isBlank c = true) (t : Text) :
    hasMatchOperator (gap ++ t) = hasMatchOperator t := by
  induction gap with
  | nil => rfl
  | cons c gap ih =>
    have hne : c ≠ '=' := ne_of_isBlank (h c List.mem_cons_self) rfl
    rw [List.cons_append, hasMatchOperator, contains_cons hne]
    exact ih fun d hd => h d (List.mem_cons_of_mem c hd)

/-! ## Settled parts of a settled line -/

/-- A word without blanks does not begin in the margin. -/
theorem length_margin_le {margin t x w y : Text} (heq : margin ++ t = x ++ (w ++ y)) (hne : w ≠ [])
    (hsolid : ∀ c ∈ w, isBlank c = false) (hmargin : ∀ c ∈ margin, isBlank c = true) :
    margin.length ≤ x.length := by
  rcases List.append_eq_append_iff.mp heq with ⟨x', hx, -⟩ | ⟨rest, hrest, hcut⟩
  · rw [hx, List.length_append]
    exact Nat.le_add_right _ _
  · cases rest with
    | nil => simp [hrest]
    | cons d rest =>
      obtain ⟨c, w, rfl⟩ := List.exists_cons_of_ne_nil hne
      obtain ⟨rfl, -⟩ := List.cons.inj hcut
      have hblank := hmargin c (by simp [hrest])
      simp [hsolid c List.mem_cons_self] at hblank

/-- The end of a line, from a place outside of strings behind a blank, with another margin. -/
theorem Settled.of_suffix {kind : WordKind} (htight : IsTight kind) {excused : QuoteState → Prop}
    {line front t gap margin : Text} (h : Settled kind excused line)
    (hline : line = front ++ (t ++ gap)) (hlast : ∀ c ∈ front.getLast?, isBlank c = true)
    (hrun : QuoteState.start.run front = .start) (hmargin : ∀ c ∈ margin, isBlank c = true) :
    Settled kind excused (margin ++ t) := by
  intro x w y heq hword
  obtain ⟨hne, hsolid⟩ := htight.solid hword
  obtain ⟨x', rfl, ht⟩ := exists_of_append_eq heq (length_margin_le heq hne hsolid hmargin)
  have hplace := h (front ++ x') w (y ++ gap) (by rw [hline, ht]; simp) ?_
  · rwa [QuoteState.run_append, hrun, ← run_blanks hmargin, ← QuoteState.run_append] at hplace
  -- the word stands behind a blank before as it does behind the margin, or behind the same
  -- character
  · cases x' with
    | nil =>
      rw [List.append_nil] at hword ⊢
      exact htight.edge hword fun c hc => isWordChar_of_isBlank (hlast c hc)
    | cons d x' => simpa [List.getLast?_append, List.getLast?_cons] using hword

/-- The start of a line, followed by a blank and characters that stand in no word. -/
theorem Settled.of_isPrefix {kind : WordKind} (htight : IsTight kind) {excused : QuoteState → Prop}
    {line t rest tail : Text} {b : Char} (h : Settled kind excused line) (hline : line = t ++ rest)
    (hb : isBlank b = true) (htail : ∀ c ∈ tail, c ≠ '[' ∧ c ≠ ']' ∧ c ≠ '{' ∧ c ≠ ',') :
    Settled kind excused (t ++ b :: tail) := by
  intro x w y heq hword
  obtain ⟨hne, hsolid⟩ := htight.solid hword
  have hblank : b ∉ w := fun hmem => by simp [hsolid b hmem] at hb
  rcases List.append_eq_append_iff.mp heq with ⟨x', hx, hcut⟩ | ⟨t', ht, hcut⟩
  · -- the word would stand in the tail
    exfalso
    cases x' with
    | nil =>
      obtain ⟨c, w, rfl⟩ := List.exists_cons_of_ne_nil hne
      obtain ⟨rfl, -⟩ := List.cons.inj hcut
      exact hblank List.mem_cons_self
    | cons d x' =>
      obtain ⟨-, rfl⟩ := List.cons.inj hcut
      obtain ⟨c, hc, hmark⟩ := htight.marked hword
      have hfree := htail c (by simp [hc])
      rcases hmark with rfl | rfl | rfl | rfl <;> simp at hfree
  · -- the word begins in `t`, and the blank keeps it from going on behind `t`
    rcases List.append_eq_append_iff.mp hcut with ⟨t'', ht'', -⟩ | ⟨w', hw, hcut'⟩
    · subst ht''
      exact h x w (t'' ++ rest) (by rw [hline, ht]; simp) hword
    · cases w' with
      | nil => exact h x w rest (by rw [hline, ht, hw]; simp) hword
      | cons d w' =>
        obtain ⟨rfl, -⟩ := List.cons.inj hcut'
        exact absurd (by simp [hw]) hblank

/-! ## Places where a line is broken -/

/-- A line is broken at an operator with a blank on either side. -/
theorem operatorBreak_spec {before : Option Char} {t op : Text} {n : Nat}
    (h : operatorBreak before t = some (op, n)) :
    n = 4 ∧ (op = ['&', '&'] ∨ op = ['|', '|']) ∧
      ∃ c d rest, isBlank c = true ∧ isBlank d = true ∧ t = c :: (op ++ d :: rest) := by
  unfold operatorBreak at h
  split at h
  · next c rest =>
    split at h
    · next op' hop =>
      split at h
      · next hblank =>
        obtain ⟨rfl, rfl⟩ := Prod.mk.inj (Option.some.inj h)
        obtain ⟨hcases, behind, rfl⟩ := listOperator?_eq_some hop
        have hlength : op'.length = 2 := by rcases hcases with rfl | rfl <;> rfl
        rw [Bool.and_eq_true, ← hlength] at hblank
        cases behind with
        | nil => simp at hblank
        | cons d behind => exact ⟨rfl, hcases, c, d, behind, hblank.1, by simpa using hblank.2, rfl⟩
      · simp at h
    · simp at h
  · simp at h

/-- The code of a line is its beginning. -/
theorem code_isPrefix (line : Text) : code line <+: line := by
  unfold code
  split
  · exact List.take_prefix _ _
  · exact List.prefix_refl line

/-- A line is broken at a list operator between blanks, outside of strings and before a comment. -/
theorem breakPoint?_spec {line : Text} {hit : Hit Text} (h : breakPoint? (code line) = some hit) :
    (hit.value = ['&', '&'] ∨ hit.value = ['|', '|']) ∧ hit.span.stop ≤ (code line).length ∧
      (QuoteState.start.run (line.take hit.span.start)).isOpen = false ∧
      ∃ c d, isBlank c = true ∧ isBlank d = true ∧
        line.take hit.span.stop = line.take hit.span.start ++ (c :: (hit.value ++ [d])) := by
  have hmem := List.mem_of_getLast? h
  rw [List.mem_filter] at hmem
  obtain ⟨hhit, hquoted⟩ := hmem
  have hspec := Matcher.hits_spec hhit
  have hle := (Matcher.hitsFrom_spec [] 0 _ hhit).2.1
  obtain ⟨hn, hcases, c, d, rest, hc, hd, hdrop⟩ := operatorBreak_spec hspec
  have hvalue : hit.value.length = 2 := by rcases hcases with heq | heq <;> rw [heq] <;> rfl
  have hstop : hit.span.stop ≤ (code line).length := by
    have hlength := congrArg List.length hdrop
    rw [List.length_drop, List.length_cons, List.length_append, List.length_cons, hvalue] at hlength
    omega
  have htake : ∀ n ≤ (code line).length, line.take n = (code line).take n := by
    obtain ⟨comment, hcomment⟩ := code_isPrefix line
    intro n hlen
    have hn : (code line ++ comment).take n = (code line).take n :=
      List.take_append_of_le_length hlen
    rwa [hcomment] at hn
  refine ⟨hcases, hstop, ?_, c, d, hc, hd, ?_⟩
  · rw [htake _ (Nat.le_trans hle hstop)]
    simpa [isQuotedAt] using hquoted
  · rw [htake _ (Nat.le_trans hle hstop), htake _ hstop,
      show hit.span.stop = hit.span.start + 4 by omega, List.take_add, hdrop]
    rcases hcases with heq | heq <;> rw [heq] <;> rfl

/-- The parts of a broken line: the first goes on, the second begins outside of strings. -/
theorem broken_line {line : Text} {hit : Hit Text} (h : breakPoint? (code line) = some hit) :
    (hit.value = ['&', '&'] ∨ hit.value = ['|', '|']) ∧
      QuoteState.start.run (line.take hit.span.stop) = .start ∧
      ∀ c ∈ (line.take hit.span.stop).getLast?, isBlank c = true := by
  obtain ⟨hcases, -, hopen, c, d, hc, hd, htake⟩ := breakPoint?_spec h
  have hproper : (QuoteState.start.run (line.take hit.span.start)).IsProper :=
    QuoteState.isProper_start.run _
  have hoperator : ∀ e ∈ hit.value, isPlain e = true := by
    rcases hcases with heq | heq <;> rw [heq] <;> exact List.all_eq_true.mp rfl
  have hplain : ∀ e ∈ c :: (hit.value ++ [d]), isPlain e = true := by
    intro e he
    simp only [List.mem_cons, List.mem_append, List.not_mem_nil, or_false] at he
    rcases he with rfl | he | rfl
    · exact isPlain_of_isBlank hc
    · exact hoperator e he
    · exact isPlain_of_isBlank hd
  refine ⟨hcases, ?_, ?_⟩
  · rw [htake, QuoteState.run_append, run_of_isPlain hproper (List.cons_ne_nil _ _) hplain]
    have hquote : (QuoteState.start.run (line.take hit.span.start)).quote = none := by
      simpa [QuoteState.isOpen] using hopen
    rw [hquote]
    rfl
  · rw [htake]
    simpa [List.getLast?_append, List.getLast?_cons] using hd

/-- What follows something that is not blank makes no comment of it. -/
theorem isComment_append {a : Text} (h : isBlankText a = false) (t : Text) :
    isComment (a ++ t) = isComment a := by
  have hne : trimLeft a ≠ [] := fun hnil => by simp [isBlankText_iff_trimLeft.mpr hnil] at h
  rw [isComment, isComment, trimLeft_append h]
  cases hcons : trimLeft a with
  | nil => exact absurd hcons hne
  | cons c r => rfl

/-- The first part of a broken line goes on in the second. -/
theorem head_isContinued {line : Text} {hit : Hit Text}
    (hsolid : isBlankText (trimRight (line.take hit.span.start)) = false) :
    isContinued (trimRight (line.take hit.span.start) ++ [' '] ++ hit.value ++ [' ', '\\']) = true ∧
      isComment (trimRight (line.take hit.span.start) ++ [' '] ++ hit.value ++ [' ', '\\']) =
        isComment line := by
  constructor
  · have hslash : isBlank '\\' = false := rfl
    have hcut : trimRight (line.take hit.span.start) ++ [' '] ++ hit.value ++ [' ', '\\'] =
        trimRight (line.take hit.span.start) ++ [' '] ++ hit.value ++ [' '] ++ ['\\'] := by simp
    rw [hcut, isContinued, trimRight_concat _ hslash, trailingBackslashes_append]
    simp [trailingBackslashes]
  · obtain ⟨rest, hline⟩ := trimRight_take_isPrefix line hit.span.start
    rw [List.append_assoc, List.append_assoc, isComment_append hsolid]
    conv => rhs; rw [← hline, isComment_append hsolid]

/-! ## Formatted lines have nothing to space -/

/-- What leaves lines settled leaves them spaced. -/
theorem IsSpaced.of_settled {s : Settings} {line u : Text}
    (hclosed : isClosed line = true → isClosed u = true)
    (hmatch : hasMatchOperator line = true → hasMatchOperator u = true)
    (hsettled : ∀ {kind}, IsTight kind → ∀ {excused}, Settled kind excused line →
      Settled kind excused u)
    (h : IsSpaced s line) : IsSpaced s u := by
  rcases h with h | ⟨ho, hb, hc⟩
  · exact .inl (hclosed h)
  · refine .inr ⟨ho.imp_right fun ho => ho.imp hmatch fun ho => ?_,
      hb.imp_right (hsettled braceWord_isTight), hc.imp_right (hsettled commaWord_isTight)⟩
    exact ⟨hsettled testEndWord_isTight ho.1, hsettled testStartWord_isTight ho.2⟩

/-- A line stays spaced when it is indented. -/
theorem IsSpaced.indentation [Machine] {s : Settings} {level : Int} {line u : Text}
    (h : IsSpaced s line) (hu : indentation s level false line = .ok u) : IsSpaced s u := by
  rcases indentation_spec hu with rfl | ⟨-, margin, hmargin, rfl⟩
  · exact h
  · have hindent : ∀ c ∈ Text.indent line, isBlank c = true := fun c hc => isBlank_of_mem_indent hc
    have hline : line = Text.indent line ++ (trimLeft line ++ []) := by
      rw [List.append_nil, indent_append_trimLeft]
    refine h.of_settled (fun hclosed => ?_) (fun hmatch => ?_) fun htight _ hsettled => ?_
    · rw [hline, List.append_nil, isClosed_blanks_append hindent] at hclosed
      rwa [isClosed_blanks_append hmargin]
    · rw [hline, List.append_nil, hasMatchOperator_blanks_append hindent] at hmatch
      rwa [hasMatchOperator_blanks_append hmargin]
    · exact hsettled.of_suffix htight hline (fun c hc => hindent c (List.mem_of_getLast? hc))
        (run_blanks hindent)
        hmargin

/-- The parts of a broken line have nothing to space if the line has nothing. -/
theorem IsSpaced.wrap [Machine] {s : Settings} {line : Text} {written : List Text}
    (h : IsSpaced s line) (hwrap : wrap s line = .ok written) : ∀ o ∈ written, IsSpaced s o := by
  rcases wrap_spec hwrap with rfl | ⟨hguarded, -, hmatch, hit, step, hhit, hstep, -, -, rfl⟩
  · simpa using h
  · have hclosed : isClosed line = false := by
      rw [isGuarded_eq, Bool.or_eq_false_iff] at hguarded
      exact hguarded.2
    -- both parts keep what is settled in the line, the first as its beginning and the second as its
    -- end
    have hpart : ∀ {u}, (∀ {kind}, IsTight kind → ∀ {excused}, Settled kind excused line →
        Settled kind excused u) →
        IsSpaced s u :=
      fun hsettled => h.of_settled (by simp [hclosed]) (by simp [hmatch]) hsettled
    obtain ⟨hvalue, hrun, hlast⟩ := broken_line hhit
    obtain ⟨rest, hrest⟩ := trimRight_take_isPrefix line hit.span.start
    obtain ⟨gap, hgap, -⟩ := exists_trimRight_append (trimLeft (line.drop hit.span.stop))
    have hindent : ∀ c ∈ Text.indent (line.drop hit.span.stop), isBlank c = true :=
      fun c hc => isBlank_of_mem_indent hc
    simp only [List.mem_cons, List.not_mem_nil, or_false]
    rintro o (rfl | rfl)
    · refine hpart fun htight _ hsettled => ?_
      have htail : ∀ c ∈ hit.value ++ [' ', '\\'], c ≠ '[' ∧ c ≠ ']' ∧ c ≠ '{' ∧ c ≠ ',' := by
        rcases hvalue with heq | heq <;> simp [heq]
      have hblank : isBlank ' ' = true := rfl
      simpa using hsettled.of_isPrefix htight hrest.symm hblank htail
    · refine hpart fun htight _ hsettled => ?_
      have hline : line = line.take hit.span.stop ++ Text.indent (line.drop hit.span.stop) ++
          (trim (line.drop hit.span.stop) ++ gap) := by
        rw [trim, ← hgap, List.append_assoc, indent_append_trimLeft, List.take_append_drop]
      refine hsettled.of_suffix htight hline (fun c hc => ?_) ?_ fun c hc => ?_
      · rw [List.getLast?_append] at hc
        cases hempty : (Text.indent (line.drop hit.span.stop)).getLast? with
        | none => exact hlast c (by simpa [hempty] using hc)
        | some d =>
          obtain rfl : d = c := by simpa [hempty] using hc
          exact hindent d (List.mem_of_getLast? hempty)
      · rw [QuoteState.run_append, hrun, run_blanks hindent]
      · rcases List.mem_append.mp hc with hc | hc
        · exact isBlank_of_mem_indent hc
        · exact hstep c hc

/-- What a line comes out as is passed over or has nothing to space. -/
theorem line_isSpaced [Machine] {s : Settings} {level : Int} {mayWrap : Bool} {t : Text}
    {written : List Text} (h : line s level false mayWrap t = .ok written) :
    ∀ o ∈ written, (context o).isInert = true ∨ IsSpaced s o := by
  rcases line_spec h with ⟨hinert, rfl⟩ | ⟨-, fixed, hfixed, hlast⟩
  · simpa using .inl hinert
  · have hspaced : IsSpaced s fixed := (isSpaced_spacing s (brackets s t)).indentation hfixed
    rcases hlast with ⟨-, rfl⟩ | ⟨-, hwrap⟩
    · simpa using .inr hspaced
    · exact fun o ho => .inr (hspaced.wrap hwrap o ho)

/-! ## Lines that formatting leaves alone -/

/-- Spaces that are put in leave the other characters as they are. -/
theorem solid_of_inserted {k : Char → Bool} {p t u : Text} (h : Rewritten (IsSpaceAfter k) p t u) :
    solid u = solid t := by
  induction h with
  | nil p => rfl
  | @keep p t u c h ih =>
    rw [← List.singleton_append, solid_append, ih, ← solid_append, List.singleton_append]
  | @edit p a b t u hP h ih =>
    obtain ⟨rfl, rfl, -⟩ := hP
    rw [solid_append, ih]
    rfl

/-- Only the fixer for brackets puts in anything but spaces. -/
theorem solid_content (s : Settings) (line : Text) :
    solid (content s line) = solid (brackets s line) := by
  have hoperators : ∀ line, solid (operatorSpacing s line) = solid line := by
    intro line
    unfold operatorSpacing
    split
    · rfl
    · dsimp only
      rw [solid_of_inserted (operatorBeforeTest_taken_apart _).1,
        solid_of_inserted (operatorAfterTest_taken_apart _).1]
  rw [content, solid_of_inserted (commaSpacing_inserted s _),
    solid_of_inserted (braceSpacing_inserted s _), hoperators]

/-- Indenting changes blanks only. -/
theorem solid_indentation [Machine] {s : Settings} {level : Int} {line u : Text}
    (h : indentation s level false line = .ok u) : solid u = solid line := by
  rcases indentation_spec h with rfl | ⟨-, margin, hmargin, rfl⟩
  · rfl
  · rw [solid_append, solid_blanks hmargin, solid_trimLeft, List.nil_append]

theorem bracketCount_solid (t : Text) : bracketCount (solid t) = bracketCount t := by
  rw [bracketCount, solid, List.countP_filter, bracketCount]
  refine List.countP_congr fun c _ => ?_
  by_cases hblank : isBlank c = true
  · simp [hblank, ne_of_isBlank hblank (show isBlank '[' = false from rfl),
      ne_of_isBlank hblank (show isBlank ']' = false from rfl)]
  · simp [hblank]

/-- A line with nothing to space that is not too long is left alone exactly if its brackets and its
indentation are. -/
theorem line_eq_self_iff [Machine] {s : Settings} {level : Int} {mayWrap : Bool} {t : Text}
    (hinert : (context t).isInert = false) (hspaced : IsSpaced s t)
    (hwrap : mayWrap = true → wrap s t = .ok [t]) :
    line s level false mayWrap t = .ok [t] ↔
      brackets s t = t ∧ indentation s level false t = .ok t := by
  have hcontent : brackets s t = t → content s t = t := by
    intro hbrackets
    rw [content, hbrackets, hspaced.eq_self]
  constructor
  · intro h
    rcases line_singleton_spec h with ⟨hinert', -⟩ | ⟨-, hfixed, -⟩
    · simp [hinert] at hinert'
    -- brackets that are put in are never taken out, so none was put in
    have hcount : bracketCount t = bracketCount (brackets s t) := by
      rw [← bracketCount_solid, solid_indentation hfixed, solid_content, bracketCount_solid]
    have hbrackets : brackets s t = t :=
      (brackets_eq_or_lt s t).resolve_right (by omega)
    rw [hcontent hbrackets] at hfixed
    exact ⟨hbrackets, hfixed⟩
  · rintro ⟨hbrackets, hindentation⟩
    rw [line, hinert, Bool.or_false, if_neg Bool.false_ne_true, hcontent hbrackets, hindentation]
    cases mayWrap with
    | false => rfl
    | true => exact hwrap rfl

/-- A line that is not broken where it may be is passed over or short enough. -/
theorem wrap_eq_self [Machine] {s : Settings} {level : Int} {t u : Text}
    (h : line s level false true t = .ok [u]) :
    (context u).isInert = true ∨ wrap s u = .ok [u] := by
  rcases line_singleton_spec h with ⟨hinert, rfl⟩ | ⟨-, -, hwrap⟩
  · exact .inl hinert
  · exact .inr (hwrap rfl)

/-- A line that is broken did not go on, and its first part does. -/
theorem exists_parts [Machine] {s : Settings} {level : Int} {mayWrap : Bool} {t : Text}
    {written : List Text} (h : line s level false mayWrap t = .ok written)
    (hlength : written.length = 2) :
    isContinued t = false ∧ ∃ head tail, written = [head, tail] ∧ isContinued head = true ∧
      isComment head = false := by
  rcases line_spec h with ⟨-, rfl⟩ | ⟨hinert, fixed, hfixed, ⟨-, rfl⟩ | ⟨-, hwrap⟩⟩
  · simp at hlength
  · simp at hlength
  · have hkept := (content_isKept s t).trans (indentation_isKept hfixed)
    rcases wrap_spec hwrap with rfl | ⟨-, hcontinued, -, hit, step, -, -, hsolid, -, rfl⟩
    · simp at hlength
    · obtain ⟨hhead, hcomment⟩ := head_isContinued hsolid
      rw [hkept.isContinued] at hcontinued
      rw [hkept.isComment, isComment_eq_false hinert] at hcomment
      exact ⟨hcontinued, _, _, rfl, hhead, hcomment⟩

end ShellStyle.Fix
