import ShellStyle.Proofs.Parts

/-!
# Edits outside of strings

An edit is silent if it begins outside of strings, has no quote characters and leaves the quote
automaton where it was. Silent edits keep the characters that stand in strings. The edits of the
fixers are silent but for one fixer: spaces around list operators are put in without a look at the
strings, and only where no string holds such an operator is that silent too.
-/

namespace ShellStyle

open Text Line

/-! ## Characters in strings -/

namespace Text

/-- The strings of two texts one after another go on from the first to the second. -/
theorem quotedFrom_append (q : QuoteState) (a t : Text) :
    quotedFrom q (a ++ t) = quotedFrom q a ++ quotedFrom (q.run a) t := by
  induction a generalizing q with
  | nil => rfl
  | cons c a ih =>
    rw [List.cons_append, quotedFrom, quotedFrom, ih, QuoteState.run_cons]
    split <;> rfl

/-- Without quote characters no string is opened. -/
theorem quotedFrom_eq_nil {q : QuoteState} (hq : q.IsProper) (hopen : q.isOpen = false) {t : Text}
    (h : ∀ c ∈ t, QuoteState.isMark c = false) : quotedFrom q t = [] := by
  induction t generalizing q with
  | nil => rfl
  | cons c t ih =>
    have hc : (q.step c).isOpen = false := by
      rw [QuoteState.isOpen, QuoteState.quote_step hq (h c List.mem_cons_self),
        ← QuoteState.isOpen, hopen]
    rw [quotedFrom, hopen, if_neg Bool.false_ne_true,
      ih (hq.step c) hc fun d hd => h d (List.mem_cons_of_mem c hd)]

/-- The characters of a text at the positions that lie inside strings. -/
def stringCharacters (t : Text) : Text :=
  ((List.range t.length).filter (isQuotedAt t)).filterMap (t[·]?)

/-- The characters that a scan meets in strings are those at the positions inside strings. -/
theorem stringCharacters_eq_quoted (t : Text) : stringCharacters t = quoted t := by
  -- `p` is the text up to here, and positions are counted from its end
  suffices hbehind : ∀ p : Text,
      ((List.range t.length).filter fun i => isQuotedAt (p ++ t) (p.length + i)).filterMap
      (t[·]?) = quotedFrom (QuoteState.start.run p) t by
    have hall := hbehind []
    simp only [List.nil_append, List.length_nil, Nat.zero_add] at hall
    exact hall
  induction t with
  | nil => exact fun p => rfl
  | cons c t ih =>
    intro p
    have hfirst : isQuotedAt (p ++ c :: t) p.length = (QuoteState.start.run p).isOpen := by
      rw [isQuotedAt, List.take_left]
    have hrest := ih (p ++ [c])
    rw [QuoteState.run_append] at hrest
    have hshift : ((List.range t.length).map Nat.succ).filter
        (fun i => isQuotedAt (p ++ c :: t) (p.length + i)) =
        ((List.range t.length).filter fun i =>
            isQuotedAt (p ++ [c] ++ t) ((p ++ [c]).length + i)).map Nat.succ := by
      rw [List.filter_map]
      congr 2
      funext i
      rw [Function.comp_apply, List.append_assoc, List.singleton_append, List.length_append,
        List.length_singleton, Nat.succ_eq_add_one, Nat.add_assoc, Nat.add_comm 1 i]
    rw [List.length_cons, List.range_succ_eq_map, List.filter_cons, hshift, Nat.add_zero,
      hfirst, quotedFrom]
    split
    · rw [List.filterMap_cons, List.filterMap_map]
      exact congrArg (c :: ·) hrest
    · rw [List.filterMap_map]
      exact hrest

end Text

/-- Two texts with the same characters in strings, behind which the quote automaton is at the same
place. -/
def SameStrings (t u : Text) : Prop :=
  quoted u = quoted t ∧ QuoteState.start.run u = QuoteState.start.run t

namespace SameStrings

theorem refl (t : Text) : SameStrings t t :=
  ⟨rfl, rfl⟩

theorem symm {t u : Text} (h : SameStrings t u) : SameStrings u t :=
  ⟨h.1.symm, h.2.symm⟩

theorem trans {t u v : Text} (h : SameStrings t u) (h' : SameStrings u v) : SameStrings t v :=
  ⟨h'.1.trans h.1, h'.2.trans h.2⟩

/-- Texts with the same strings stay so with pieces behind them that the strings cannot tell
apart. -/
theorem append {t u t' u' : Text} (h : SameStrings t u)
    (h' : quotedFrom (QuoteState.start.run t) u' = quotedFrom (QuoteState.start.run t) t' ∧
      (QuoteState.start.run t).run u' = (QuoteState.start.run t).run t') :
    SameStrings (t ++ t') (u ++ u') := by
  constructor
  · rw [quoted, quoted, quotedFrom_append, quotedFrom_append, h.2, ← quoted, ← quoted, h.1, h'.1]
  · rw [QuoteState.run_append, QuoteState.run_append, h.2, h'.2]

theorem append_right {t u : Text} (h : SameStrings t u) (v : Text) :
    SameStrings (t ++ v) (u ++ v) :=
  h.append ⟨rfl, rfl⟩

/-- Blanks in front of a text. -/
theorem blanks_append {gap : Text} (hgap : ∀ c ∈ gap, isBlank c = true) (t : Text) :
    SameStrings t (gap ++ t) := by
  have hmark : ∀ c ∈ gap, QuoteState.isMark c = false :=
    fun c hc => isMark_of_isPlain (Fix.isPlain_of_isBlank (hgap c hc))
  have hnil : quotedFrom .start gap = [] := quotedFrom_eq_nil QuoteState.isProper_start rfl hmark
  constructor
  · rw [quoted, quotedFrom_append, hnil, Fix.run_blanks hgap]
    rfl
  · rw [QuoteState.run_append, Fix.run_blanks hgap]

/-- Taking the margin away keeps the strings. -/
theorem trimLeft (t : Text) : SameStrings t (trimLeft t) := by
  have hindent : ∀ c ∈ indent t, isBlank c = true := fun c hc => isBlank_of_mem_indent hc
  have hblanks := blanks_append hindent (Text.trimLeft t)
  rw [indent_append_trimLeft] at hblanks
  exact hblanks.symm

end SameStrings

/-! ## Silent edits -/

/-- An edit outside of strings that has no quote characters and goes unnoticed by the quote
automaton. -/
structure IsSilent (p a b : Text) : Prop where
  outside : (QuoteState.start.run p).isOpen = false
  bare : (∀ c ∈ a, QuoteState.isMark c = false) ∧ ∀ c ∈ b, QuoteState.isMark c = false
  run_eq : (QuoteState.start.run p).run b = (QuoteState.start.run p).run a

/-- Plain characters may be replaced by plain characters. -/
theorem isSilent_of_isPlain {p a b : Text} (hopen : (QuoteState.start.run p).isOpen = false)
    (hne : a ≠ [] ∧ b ≠ []) (hplain : (∀ c ∈ a, isPlain c = true) ∧ ∀ c ∈ b, isPlain c = true) :
    IsSilent p a b := by
  have hproper : (QuoteState.start.run p).IsProper := QuoteState.isProper_start.run p
  refine ⟨hopen, ⟨fun c hc => isMark_of_isPlain (hplain.1 c hc),
    fun c hc => isMark_of_isPlain (hplain.2 c hc)⟩, ?_⟩
  rw [run_of_isPlain hproper hne.1 hplain.1, run_of_isPlain hproper hne.2 hplain.2]

/-- Silent edits keep what stands in strings, and the automaton does not notice them. -/
theorem quotedFrom_of_rewritten {p t u : Text} (h : Rewritten IsSilent p t u) :
    quotedFrom (QuoteState.start.run p) u = quotedFrom (QuoteState.start.run p) t ∧
      (QuoteState.start.run p).run u = (QuoteState.start.run p).run t := by
  induction h with
  | nil p => exact ⟨rfl, rfl⟩
  | @keep p t u c h ih =>
    rw [QuoteState.run_append] at ih
    refine ⟨?_, ih.2⟩
    rw [quotedFrom, quotedFrom]
    split
    · exact congrArg (c :: ·) ih.1
    · exact ih.1
  | @edit p a b t u hP h ih =>
    have hproper : (QuoteState.start.run p).IsProper := QuoteState.isProper_start.run p
    rw [QuoteState.run_append, ← hP.run_eq] at ih
    constructor
    · rw [quotedFrom_append, quotedFrom_append, quotedFrom_eq_nil hproper hP.outside hP.bare.1,
        quotedFrom_eq_nil hproper hP.outside hP.bare.2, ← hP.run_eq, ih.1]
    · rw [QuoteState.run_append, QuoteState.run_append, ← hP.run_eq, ih.2]

/-- Silent edits keep the strings. -/
theorem SameStrings.of_rewritten {t u : Text} (h : Rewritten IsSilent [] t u) : SameStrings t u :=
  quotedFrom_of_rewritten h

/-- What begins a silently edited text inside a string began it before. -/
theorem exists_of_silent_append {p t u : Text} (h : Rewritten IsSilent p t u)
    (hopen : (QuoteState.start.run p).isOpen = true) {w y : Text} (hu : u = w ++ y)
    (hw : ∀ c ∈ w, QuoteState.isMark c = false) : ∃ y', t = w ++ y' := by
  induction h generalizing w with
  | nil p =>
    obtain ⟨rfl, -⟩ : w = [] ∧ y = [] := by simpa using hu
    exact ⟨[], rfl⟩
  | @keep p t u c h ih =>
    cases w with
    | nil => exact ⟨c :: t, rfl⟩
    | cons d w =>
      obtain ⟨rfl, hu'⟩ := List.cons.inj hu
      have hproper : (QuoteState.start.run p).IsProper := QuoteState.isProper_start.run p
      have hnext : (QuoteState.start.run (p ++ [c])).isOpen = true := by
        rw [QuoteState.run_append, QuoteState.isOpen_run hproper
          (by simpa using hw c List.mem_cons_self), hopen]
      obtain ⟨y', rfl⟩ := ih hnext hu' fun e he => hw e (List.mem_cons_of_mem c he)
      exact ⟨y', rfl⟩
  | @edit p a b t u hP h ih => simp [hP.outside] at hopen

/-- A word without quote characters that stands in a string of a silently edited text stood in a
string before. -/
theorem exists_quoted_word {t u : Text} (h : Rewritten IsSilent [] t u) {x' w y' : Text}
    (hu : u = x' ++ (w ++ y')) (hw : ∀ c ∈ w, QuoteState.isMark c = false)
    (hopen : (QuoteState.start.run x').isOpen = true) :
    ∃ x y, t = x ++ (w ++ y) ∧ (QuoteState.start.run x).isOpen = true := by
  -- `p` is the text up to here; the automaton is at the same place behind what became of it
  suffices hbehind : ∀ {p t u : Text}, Rewritten IsSilent p t u → ∀ x' w y', u = x' ++ (w ++ y') →
      (∀ c ∈ w, QuoteState.isMark c = false) → ((QuoteState.start.run p).run x').isOpen = true →
      ∃ x y, t = x ++ (w ++ y) ∧ ((QuoteState.start.run p).run x).isOpen = true from
    hbehind h x' w y' hu hw hopen
  intro p t u h
  induction h with
  | nil p =>
    intro x' w y' hu hw hopen
    obtain ⟨rfl, rfl, rfl⟩ : x' = [] ∧ w = [] ∧ y' = [] := by simpa using hu
    exact ⟨[], [], rfl, hopen⟩
  | @keep p t u c h ih =>
    intro x' w y' hu hw hopen
    cases x' with
    | nil =>
      rw [List.nil_append] at hu
      obtain ⟨y, hy⟩ := exists_of_silent_append (.keep c h) hopen hu hw
      exact ⟨[], y, hy, hopen⟩
    | cons d x' =>
      obtain ⟨rfl, hu'⟩ := List.cons.inj hu
      rw [QuoteState.run_append] at ih
      obtain ⟨x, y, rfl, hx⟩ := ih x' w y' hu' hw hopen
      exact ⟨c :: x, y, rfl, hx⟩
  | @edit p a b t u hP h ih =>
    intro x' w y' hu hw hopen
    rw [QuoteState.run_append, ← hP.run_eq] at ih
    rcases Nat.lt_or_ge x'.length b.length with hlt | hle
    · -- the word would begin in the edit, outside of strings
      have hproper : (QuoteState.start.run p).IsProper := QuoteState.isProper_start.run p
      have hpre : x' <+: b :=
        List.prefix_of_prefix_length_le ⟨w ++ y', hu.symm⟩ (List.prefix_append b u)
          (Nat.le_of_lt hlt)
      rw [QuoteState.isOpen_run hproper fun c hc => hP.bare.2 c (hpre.subset hc),
        hP.outside] at hopen
      simp at hopen
    · obtain ⟨x'', rfl, hu'⟩ := Fix.exists_of_append_eq hu hle
      rw [QuoteState.run_append] at hopen
      obtain ⟨x, y, rfl, hx⟩ := ih x'' w y' hu' hw hopen
      refine ⟨a ++ x, y, by simp, ?_⟩
      rwa [QuoteState.run_append, ← hP.run_eq]

namespace Fix

/-! ## The fixers are silent -/

/-- Words outside of strings are excused. -/
def outside (q : QuoteState) : Prop :=
  q.isOpen = false

/-- Where the words of a kind stand outside of strings they do so once a text is silently edited. -/
theorem Settled.of_silent {kind : WordKind}
    (hfree : ∀ before before' w, kind before w → kind before' w)
    (hbare : ∀ before w, kind before w → ∀ c ∈ w, QuoteState.isMark c = false) {t u : Text}
    (h : Rewritten IsSilent [] t u) (hsettled : Settled kind outside t) :
    Settled kind outside u := by
  intro x' w y' hu hword
  rw [outside, Bool.eq_false_iff]
  intro hopen
  obtain ⟨x, y, ht, hx⟩ := exists_quoted_word h hu (hbare _ w hword) hopen
  have hclosed : (QuoteState.start.run x).isOpen = false := hsettled x w y ht (hfree _ _ w hword)
  simp [hclosed] at hx

/-- Doubling brackets outside of strings is silent. -/
theorem IsDoubling.isSilent {p a b : Text} (h : IsDoubling p a b) : IsSilent p a b :=
  isSilent_of_isPlain h.outside h.toIsHarmless.ne_nil h.plain

/-- Taking all words of a kind apart is silent where they stand outside of strings. -/
theorem replaceAll_silent {α : Type} {m : Matcher α} {kind : WordKind} {k : Char → Bool}
    {piece replacement : α → Text} (hm : m.Reads piece) (hfinds : Finds m kind)
    (happart : ∀ before t v n, m before t = some (v, n) →
      IsTakenApart kind k (piece v) (replacement v))
    {line : Text} (h : Settled kind outside line) :
    Rewritten IsSilent [] line (replaceAll m replacement line) := by
  refine (replaceAll_scanned hm.isBounded replacement line).rewritten_of_place fun x a y v b
    heq hhit hb => ?_
  obtain ⟨w, z, hw, hkind⟩ := (hfinds _ _).mp (Option.isSome_iff_exists.mpr ⟨_, hhit⟩)
  have hopen : (QuoteState.start.run x).isOpen = false := h x w z (by simpa [hw] using heq) hkind
  obtain rfl := hm.eq_piece hhit
  subst hb
  have hapart := happart _ _ _ _ hhit
  exact .single (isSilent_of_isPlain hopen hapart.ne_nil hapart.plain)

theorem braceSpacing_silent (s : Settings) (line : Text) :
    Rewritten IsSilent [] line (braceSpacing s line) := by
  unfold braceSpacing
  split
  · exact .refl [] line
  · refine replaceUnquoted_rewritten tightBrace_reads (fun p word b hbare hb => ?_) line
    obtain rfl := Option.some.inj hb
    refine .append (.refl p word)
      (.single (isSilent_of_isPlain (isBare_concat hbare).2 (by simp) ?_))
    exact ⟨List.all_eq_true.mp rfl, List.all_eq_true.mp rfl⟩

theorem commaSpacing_silent (s : Settings) (line : Text) :
    Rewritten IsSilent [] line (commaSpacing s line) := by
  unfold commaSpacing
  split
  · exact .refl [] line
  · refine replaceUnquoted_rewritten tightComma_reads (fun p _ b hbare hb => ?_) line
    obtain rfl := Option.some.inj hb
    have hopen : (QuoteState.start.run p).isOpen = false := by simpa [isBare] using hbare
    exact .single (isSilent_of_isPlain hopen (by simp)
      ⟨List.all_eq_true.mp rfl, List.all_eq_true.mp rfl⟩)

/-- Whether a string of the line holds a list operator tight at double brackets. -/
def quotesTightOperator (line : Text) : Bool :=
  (List.range line.length).any fun i => isQuotedAt line i &&
    ((operatorAfterTest none (line.drop i)).isSome ||
      (operatorBeforeTest none (line.drop i)).isSome)

/-- The tight operators of a line stand outside of strings. -/
structure OperatorsOutside (line : Text) : Prop where
  testEnd : Settled testEndWord outside line
  testStart : Settled testStartWord outside line

/-- Where no string has a tight operator, all of them are outside. -/
theorem operatorsOutside_of_quotesTightOperator {line : Text}
    (h : quotesTightOperator line = false) :
    OperatorsOutside line := by
  have hplace : ∀ x w y, line = x ++ (w ++ y) → w ≠ [] →
      ((operatorAfterTest none (w ++ y)).isSome || (operatorBeforeTest none (w ++ y)).isSome) =
        true →
      outside (QuoteState.start.run x) := by
    intro x w y hline hne hfound
    rw [quotesTightOperator, List.any_eq_false] at h
    have hlt : x.length < line.length := by
      rw [hline, List.length_append, List.length_append]
      have := List.length_pos_iff.mpr hne
      omega
    have hno := h x.length (List.mem_range.mpr hlt)
    rw [isQuotedAt, hline, List.take_left, List.drop_left, hfound] at hno
    simpa [outside] using hno
  constructor
  · intro x w y hline hword
    refine hplace x w y hline (testEndWord_isTight.solid hword).1 ?_
    rw [(operatorAfterTest_finds none _).mpr ⟨w, y, rfl, hword⟩, Bool.true_or]
  · intro x w y hline hword
    refine hplace x w y hline (testStartWord_isTight.solid hword).1 ?_
    rw [(operatorBeforeTest_finds none _).mpr ⟨w, y, rfl, hword⟩, Bool.or_true]

theorem isMark_eq_false_of_all {w : Text} (h : (w.all fun c => !QuoteState.isMark c) = true) :
    ∀ c ∈ w, QuoteState.isMark c = false := by
  simpa using h

/-- Silent edits bring no operator into a string. -/
theorem OperatorsOutside.of_silent {t u : Text} (h : OperatorsOutside t)
    (htu : Rewritten IsSilent [] t u) :
    OperatorsOutside u := by
  constructor
  · refine h.testEnd.of_silent (fun _ _ _ hw => hw) (fun _ w hw => ?_) htu
    rcases hw with rfl | rfl <;> exact isMark_eq_false_of_all rfl
  · refine h.testStart.of_silent (fun _ _ _ hw => hw) (fun _ w hw => ?_) htu
    rcases hw with rfl | rfl <;> exact isMark_eq_false_of_all rfl

/-- The fixer for operators keeps strings that hold no tight operators. -/
theorem operatorSpacing_sameStrings (s : Settings) {line : Text} (h : OperatorsOutside line) :
    SameStrings line (operatorSpacing s line) := by
  unfold operatorSpacing
  split
  · exact .refl line
  · dsimp only
    have hend := replaceAll_silent operatorAfterTest_reads operatorAfterTest_finds
      (fun _ _ _ _ hhit => testEnd_isTakenApart (operatorAfterTest_spec hhit).2.1) h.testEnd
    have hstart := replaceAll_silent operatorBeforeTest_reads operatorBeforeTest_finds
      (fun _ _ _ _ hhit => testStart_isTakenApart (operatorBeforeTest_spec hhit).2.1)
        (h.of_silent hend).testStart
    exact (SameStrings.of_rewritten hend).trans (.of_rewritten hstart)

/-- The fixer for brackets keeps strings and puts no tight operators into them. -/
theorem brackets_sameStrings (s : Settings) (line : Text) :
    SameStrings line (brackets s line) ∧
      (OperatorsOutside line → OperatorsOutside (brackets s line)) := by
  unfold brackets
  split
  · exact ⟨.refl line, id⟩
  · dsimp only
    have hsilent : ∀ {t u : Text}, Rewritten IsDoubling [] t u → Rewritten IsSilent [] t u :=
      fun h => h.mono fun _ _ _ => IsDoubling.isSilent
    have htest := hsilent (convertTestCommands_rewritten line)
    have hsingle := hsilent (replaceUnquoted_singleBracket (convertTestCommands line))
    have hmixed := hsilent (replaceUnquoted_mixedBracket
      (replaceUnquoted singleBracket singleBracketReplacement (convertTestCommands line)))
    constructor
    · exact (SameStrings.of_rewritten htest).trans
        ((SameStrings.of_rewritten hsingle).trans (.of_rewritten hmixed))
    · exact fun h => ((h.of_silent htest).of_silent hsingle).of_silent hmixed

/-- The fixers that look at quotes touch no string: the characters at the positions inside strings
are the same, and in the same order, in a line and in what the fixers for brackets, braces and
commas make of it. -/
theorem stringCharacters_fixed (s : Settings) (line : Text) :
    stringCharacters (brackets s line) = stringCharacters line ∧
      stringCharacters (braceSpacing s line) = stringCharacters line ∧
      stringCharacters (commaSpacing s line) = stringCharacters line := by
  simp only [stringCharacters_eq_quoted]
  have hbraces : SameStrings line (braceSpacing s line) :=
    .of_rewritten (braceSpacing_silent s line)
  have hcommas : SameStrings line (commaSpacing s line) :=
    .of_rewritten (commaSpacing_silent s line)
  exact ⟨(brackets_sameStrings s line).1.1, hbraces.1, hcommas.1⟩

/-- Whether the fixers may change a string of the line: a string holds a tight operator, and nothing
keeps the fixers from the line. -/
def exposesStrings (line : Text) : Bool :=
  !isClosed line && quotesTightOperator line

/-- Fixing the text of a line keeps its strings. -/
theorem content_sameStrings (s : Settings) {line : Text} (h : exposesStrings line = false) :
    SameStrings line (content s line) := by
  cases hclosed : isClosed line with
  | true =>
    rw [content_of_isClosed s hclosed]
    exact .refl line
  | false =>
    rw [exposesStrings, hclosed, Bool.not_false, Bool.true_and] at h
    obtain ⟨hbrackets, houtside⟩ := brackets_sameStrings s line
    have hoperators :=
      operatorSpacing_sameStrings s (houtside (operatorsOutside_of_quotesTightOperator h))
    exact hbrackets.trans (hoperators.trans
      ((SameStrings.of_rewritten (braceSpacing_silent s _)).trans
      (.of_rewritten (commaSpacing_silent s _))))

end Fix

end ShellStyle
