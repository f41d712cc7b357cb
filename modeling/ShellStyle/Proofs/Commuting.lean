import ShellStyle.Proofs.Parts
import ShellStyle.Proofs.Seams

/-!
# The fixers for spaces commute

Whether a fixer for spaces holds back from a line depends on the forms that the line has: tests,
expansions, strings with operators. The spaces that the fixers put in stand between characters that
are neighbours in none of these forms, so a fixer holds back before another one exactly if it does
behind it. Hence the order of the fixers does not matter; and none of them finds anything to do in
what it has written.
-/

namespace ShellStyle.Fix

open Text Line

/-- The search for a quoted operator goes alike in two texts that begin with the same character, if
it goes alike behind it. -/
theorem quotesOperatorFrom_congr {c : Char} {t u : Text}
    (hstarts : ∀ w, w = ['&', '&'] ∨ w = ['|', '|'] → startsWith w (c :: u) = startsWith w (c :: t))
    (hrest : ∀ quote, quotesOperatorFrom quote (some c) u = quotesOperatorFrom quote (some c) t)
    (quote before : Option Char) :
    quotesOperatorFrom quote before (c :: u) = quotesOperatorFrom quote before (c :: t) := by
  simp only [quotesOperatorFrom, hstarts _ (.inl rfl), hstarts _ (.inr rfl), hrest]

/-- The digits of a range of numbers. -/
def isRangeDigit (c : Char) : Bool :=
  '0' ≤ c && c ≤ '9'

/-- A range is digits, two dots and digits up to a closing brace. -/
theorem isBraceRangeBody_def (t : Text) :
    isBraceRangeBody t = (!(t.takeWhile isRangeDigit).isEmpty &&
      (after? ['.', '.'] (t.dropWhile isRangeDigit)).any fun u =>
        !(u.takeWhile isRangeDigit).isEmpty && (u.dropWhile isRangeDigit).head? == some '}') := by
  unfold isBraceRangeBody
  dsimp only
  split
  · next u hu =>
    have hafter : after? ['.', '.'] (t.dropWhile isRangeDigit) = some u := after?_eq_some.mpr hu
    rw [hafter]
    rfl
  · next hother =>
    have hafter : after? ['.', '.'] (t.dropWhile isRangeDigit) = none := by
      rw [Option.eq_none_iff_forall_ne_some]
      exact fun u hu => hother u (after?_eq_some.mp hu)
    rw [hafter]
    rfl

/-! ## Loosened texts -/

/-- Whether a fixer may put a space between two characters. -/
def canPart (c d : Char) : Bool :=
  isTestEnd c && (d == '&' || d == '|') || isOperatorEnd c && d == '[' ||
    isBraceWordEnd c && d == '{' || isComma c && !isBlank d

/-- Whether a fixer may put a space behind the character. -/
def isSeamEnd (c : Char) : Bool :=
  isTestEnd c || isOperatorEnd c || isBraceWordEnd c || isComma c

/-- A space is put only behind the end of a seam, and never before a blank. -/
theorem canPart_spec {c d : Char} (h : canPart c d = true) :
    isSeamEnd c = true ∧ isBlank d = false := by
  simp only [canPart, Bool.or_eq_true, Bool.and_eq_true, beq_iff_eq, Bool.not_eq_true'] at h
  simp only [isSeamEnd, Bool.or_eq_true]
  rcases h with ((⟨hc, rfl | rfl⟩ | ⟨hc, rfl⟩) | ⟨hc, rfl⟩) | ⟨hc, hd⟩
  · exact ⟨by simp [hc], rfl⟩
  · exact ⟨by simp [hc], rfl⟩
  · exact ⟨by simp [hc], rfl⟩
  · exact ⟨by simp [hc], rfl⟩
  · exact ⟨by simp [hc], hd⟩

/-- A text, and the text with spaces where fixers may put them. -/
inductive Loosened : Text → Text → Prop
  | nil : Loosened [] []
  | keep {t u : Text} (c : Char) (h : Loosened t u) : Loosened (c :: t) (c :: u)
  | space {t u : Text} {c d : Char} (hpart : canPart c d = true) (h : Loosened (d :: t) u) :
      Loosened (c :: d :: t) (c :: ' ' :: u)

/-- Whether no fixer may put a space into the word. -/
def isWhole : Text → Bool
  | c :: d :: t => c != ' ' && !canPart c d && isWhole (d :: t)
  | [c] => c != ' '
  | [] => true

/-- Whether no fixer may put a space into the word or behind it. -/
def isSealed (w : Text) : Bool :=
  w.all fun c => c != ' ' && !isSeamEnd c

theorem ne_of_isSeamEnd {c d : Char} (hc : isSeamEnd c = true) (hd : isSeamEnd d = false) :
    c ≠ d := by
  rintro rfl
  simp [hd] at hc

namespace Loosened

variable {t u : Text}

/-- No space is put at the start of a text. -/
theorem head?_eq (h : Loosened t u) : u.head? = t.head? := by
  cases h <;> rfl

/-- Loosening a text brings in no character but the space, and loses none. -/
theorem elem_eq {c : Char} (hc : c ≠ ' ') (h : Loosened t u) : u.elem c = t.elem c := by
  rw [Bool.eq_iff_iff, List.elem_iff, List.elem_iff]
  induction h with
  | nil => exact Iff.rfl
  | keep d h ih => rw [List.mem_cons, List.mem_cons, ih]
  | space hpart h ih => rw [List.mem_cons, List.mem_cons, List.mem_cons, ih, or_iff_right hc]

/-- A whole word begins both texts or none. -/
theorem isPrefix_iff {w : Text} (hw : isWhole w = true) (h : Loosened t u) : w <+: u ↔ w <+: t := by
  induction h generalizing w with
  | nil => exact Iff.rfl
  | keep c h ih =>
    match w with
    | [] => simp
    | [d] => simp
    | d :: e :: w =>
      rw [isWhole, Bool.and_eq_true] at hw
      rw [List.cons_prefix_cons, List.cons_prefix_cons, ih hw.2]
  | @space t u c d hpart h ih =>
    match w with
    | [] => simp
    | [e] => simp
    | e :: f :: w =>
      simp only [isWhole, Bool.and_eq_true, bne_iff_ne, Bool.not_eq_true'] at hw
      have hspace : f ≠ ' ' := by
        rintro rfl
        cases w <;> simp [isWhole] at hw
      -- behind `c` there is a space in one text and `d` in the other, and the word has neither
      -- there
      simp only [List.cons_prefix_cons, hspace, false_and, and_false, false_iff]
      rintro ⟨rfl, rfl, -⟩
      simp [hw.1.2] at hpart

/-- A whole word stands in both texts or in none. -/
theorem contains_eq {w : Text} (hne : w ≠ []) (hw : isWhole w = true) (h : Loosened t u) :
    contains w u = contains w t := by
  rw [Bool.eq_iff_iff, contains_iff hne, contains_iff hne]
  induction h with
  | nil => exact Iff.rfl
  | keep c h ih => rw [List.infix_cons_iff, List.infix_cons_iff, ih, (h.keep c).isPrefix_iff hw]
  | space hpart h ih =>
    have hspace : ∀ v, ¬ w <+: ' ' :: v := by
      intro v hpre
      obtain ⟨e, w, rfl⟩ := List.exists_cons_of_ne_nil hne
      obtain ⟨rfl, -⟩ := List.cons_prefix_cons.mp hpre
      cases w <;> simp [isWhole] at hw
    rw [List.infix_cons_iff, List.infix_cons_iff, List.infix_cons_iff,
      (h.space hpart).isPrefix_iff hw, ih, or_iff_right (hspace _)]

/-! ## Forms that stay -/

/-- Behind a word that has no seams the texts are loosened alike. -/
theorem after?_rel {w : Text} (hw : isSealed w = true) (h : Loosened t u) :
    Option.Rel Loosened (after? w t) (after? w u) := by
  induction w generalizing t u with
  | nil => simpa [after?] using Option.Rel.some h
  | cons a w ih =>
    simp only [isSealed, List.all_cons, Bool.and_eq_true, bne_iff_ne, Bool.not_eq_true'] at hw ih
    cases h with
    | nil => exact .none
    | @keep t u c h =>
      rw [after?, after?]
      split
      · exact ih hw.2 h
      · exact .none
    | @space t u c d hpart h =>
      have hne : a ≠ c := (ne_of_isSeamEnd (canPart_spec hpart).1 hw.1.2).symm
      rw [after?, after?, if_neg hne, if_neg hne]
      exact .none

/-- The first place of a word that has no seams is found in both texts, with loosened rests. -/
theorem behind?_rel {w : Text} (hne : w ≠ []) (hw : isSealed w = true) (h : Loosened t u) :
    Option.Rel Loosened (behind? w t) (behind? w u) := by
  induction h with
  | nil => exact after?_rel hw .nil
  | @keep t u c h ih =>
    have hafter := after?_rel hw (h.keep c)
    rw [behind?, behind?]
    revert hafter
    generalize after? w (c :: t) = r, after? w (c :: u) = r'
    rintro (hr | _)
    · exact .some hr
    · exact ih
  | space hpart h ih =>
    obtain ⟨a, w, rfl⟩ := List.exists_cons_of_ne_nil hne
    simp only [isSealed, List.all_cons, Bool.and_eq_true, bne_iff_ne, Bool.not_eq_true'] at hw
    -- the word begins neither with the character before the space nor with the space
    have hne := ne_of_isSeamEnd (canPart_spec hpart).1 hw.1.2
    rw [behind?_cons hne, behind?_cons hne, behind?_cons (Ne.symm hw.1.1)]
    exact ih

/-- A property of the pieces between line feeds that loosening keeps. -/
theorem any_splitAt_eq {f : Text → Bool} (hf : ∀ {t u}, Loosened t u → f u = f t)
    (h : Loosened t u) :
    (splitAt '\n' u).any f = (splitAt '\n' t).any f := by
  -- the first piece is loosened, and the others agree on the property
  suffices hpieces : ∃ piece rest piece' rest',
      splitAt '\n' t = piece :: rest ∧ splitAt '\n' u = piece' :: rest' ∧
      Loosened piece piece' ∧ rest'.any f = rest.any f by
    obtain ⟨piece, rest, piece', rest', ht, hu, hpiece, hrest⟩ := hpieces
    rw [ht, hu, List.any_cons, List.any_cons, hf hpiece, hrest]
  induction h with
  | nil => exact ⟨[], [], [], [], rfl, rfl, .nil, rfl⟩
  | @keep t u c h ih =>
    obtain ⟨piece, rest, piece', rest', ht, hu, hpiece, hrest⟩ := ih
    by_cases hc : c = '\n'
    · rw [splitAt, splitAt, if_pos hc, if_pos hc, ht, hu]
      refine ⟨[], piece :: rest, [], piece' :: rest', rfl, rfl, .nil, ?_⟩
      rw [List.any_cons, List.any_cons, hf hpiece, hrest]
    · exact ⟨c :: piece, rest, c :: piece', rest', splitAt_cons hc ht, splitAt_cons hc hu,
        hpiece.keep c, hrest⟩
  | @space t u c d hpart h ih =>
    obtain ⟨hc, hd⟩ := canPart_spec hpart
    have hc : c ≠ '\n' := ne_of_isSeamEnd hc rfl
    have hd : d ≠ '\n' := by
      rintro rfl
      simp [isBlank] at hd
    obtain ⟨piece, rest, piece', rest', ht, hu, hpiece, hrest⟩ := ih
    obtain ⟨front, pieces, hfront⟩ := List.exists_cons_of_ne_nil (splitAt_ne_nil '\n' t)
    obtain ⟨rfl, rfl⟩ := List.cons.inj ((splitAt_cons hd hfront).symm.trans ht)
    exact ⟨c :: d :: front, pieces, c :: ' ' :: piece', rest', splitAt_cons hc ht,
      splitAt_cons hc (splitAt_cons (by decide) hu), hpiece.space hpart, hrest⟩

theorem hasRegexTest_eq (h : Loosened t u) : hasRegexTest u = hasRegexTest t := by
  refine h.any_splitAt_eq fun {t u} h => ?_
  have htest := h.behind?_rel (w := ['[', '[']) (by simp) (by decide)
  revert htest
  generalize behind? ['[', '['] t = r, behind? ['[', '['] u = r'
  rintro (@⟨inner, inner', hinner⟩ | _)
  · have hmatch := hinner.behind?_rel (w := ['=', '~']) (by simp) (by decide)
    dsimp only
    revert hmatch
    generalize behind? ['=', '~'] inner = r, behind? ['=', '~'] inner' = r'
    rintro (hpattern | _)
    · exact hpattern.contains_eq (by simp) (by decide)
    · rfl
  · rfl

theorem hasExpansion_eq (h : Loosened t u) : hasExpansion u = hasExpansion t := by
  have henclosed : ∀ {t u}, Loosened t u → enclosedBefore '}' u = enclosedBefore '}' t := by
    intro t u h
    cases h with
    | nil => rfl
    | keep c h => rw [enclosedBefore, enclosedBefore, h.elem_eq (by decide)]
    | space hpart h =>
      rw [enclosedBefore, enclosedBefore, ← h.elem_eq (by decide)]
      rfl
  induction h with
  | nil => rfl
  | @keep t u c h ih =>
    have hafter := (h.keep c).after?_rel (w := ['$', '{']) (by decide)
    rw [hasExpansion, hasExpansion, ih]
    revert hafter
    generalize after? ['$', '{'] (c :: t) = r, after? ['$', '{'] (c :: u) = r'
    rintro (hinner | _)
    · dsimp only
      rw [henclosed hinner]
    · rfl
  | space hpart h ih =>
    have hne := ne_of_isSeamEnd (canPart_spec hpart).1 (d := '$') rfl
    rw [hasExpansion_cons hne, hasExpansion_cons hne, hasExpansion_cons (by decide), ih]

theorem isBraceListBody_eq (h : Loosened t u) : isBraceListBody u = isBraceListBody t := by
  have hcomma : (u.takeWhile (· != '}')).elem ',' = (t.takeWhile (· != '}')).elem ',' := by
    rw [Bool.eq_iff_iff, List.elem_iff, List.elem_iff]
    induction h with
    | nil => exact Iff.rfl
    | keep c h ih => by_cases hc : c = '}' <;> simp [hc, ih]
    | space hpart h ih =>
      have hne := ne_of_isSeamEnd (canPart_spec hpart).1 (d := '}') rfl
      simp [hne, ih]
  rw [isBraceListBody, isBraceListBody, h.elem_eq (by decide), hcomma]

/-- Characters behind which no fixer puts a space are passed in both texts alike. -/
theorem span_rel {f : Char → Bool} (hf : ∀ c, f c = true → isSeamEnd c = false) (h : Loosened t u) :
    u.takeWhile f = t.takeWhile f ∧ Loosened (t.dropWhile f) (u.dropWhile f) := by
  induction h with
  | nil => exact ⟨rfl, .nil⟩
  | @keep t u c h ih =>
    by_cases hc : f c = true
    · simp [hc, ih]
    · simpa [hc] using h.keep c
  | @space t u c d hpart h ih =>
    have hc : ¬ f c = true := fun hc => absurd (canPart_spec hpart).1 (by simp [hf c hc])
    simpa [hc] using h.space hpart

theorem isBraceRangeBody_eq (h : Loosened t u) : isBraceRangeBody u = isBraceRangeBody t := by
  have hdigit : ∀ c, isRangeDigit c = true → isSeamEnd c = false := by
    intro c hc
    rw [← Bool.not_eq_true]
    intro hseam
    simp only [isSeamEnd, isTestEnd, isOperatorEnd, isBraceWordEnd, isComma, Bool.or_eq_true,
      beq_iff_eq] at hseam
    rcases hseam with ((rfl | rfl | rfl) | (rfl | rfl) | rfl) | rfl <;> simp [isRangeDigit] at hc
  obtain ⟨htake, hdrop⟩ := h.span_rel hdigit
  have hdots := hdrop.after?_rel (w := ['.', '.']) (by decide)
  rw [isBraceRangeBody_def, isBraceRangeBody_def, htake]
  revert hdots
  generalize after? ['.', '.'] (t.dropWhile isRangeDigit) = r,
    after? ['.', '.'] (u.dropWhile isRangeDigit) = r'
  rintro (hrest | _)
  · obtain ⟨htake', hdrop'⟩ := hrest.span_rel hdigit
    rw [Option.any_some, Option.any_some, htake', hdrop'.head?_eq]
  · rfl

/-- A loosened line has a brace expansion if the line has one. -/
theorem hasBraceExpansion_eq (h : Loosened t u) : hasBraceExpansion u = hasBraceExpansion t := by
  induction h with
  | nil => rfl
  | keep c h ih =>
    rw [hasBraceExpansion, hasBraceExpansion, h.isBraceListBody_eq, h.isBraceRangeBody_eq, ih]
  | space hpart h ih =>
    have hne := ne_of_isSeamEnd (canPart_spec hpart).1 (d := '{') rfl
    rw [hasBraceExpansion_cons hne, hasBraceExpansion_cons hne,
      hasBraceExpansion_cons (by decide), ih]

/-- An operator in a string stays one: the strings of both texts open and close at the same
marks. -/
theorem quotesOperatorFrom_eq (h : Loosened t u) (quote before : Option Char) :
    quotesOperatorFrom quote before u = quotesOperatorFrom quote before t := by
  have hstarts : ∀ {t u : Text}, Loosened t u → ∀ w, w = ['&', '&'] ∨ w = ['|', '|'] →
      startsWith w u = startsWith w t := by
    intro t u h w hw
    have hwhole : isWhole w = true := by rcases hw with rfl | rfl <;> rfl
    rw [Bool.eq_iff_iff, startsWith_iff, startsWith_iff, h.isPrefix_iff hwhole]
  induction h generalizing quote before with
  | nil => rfl
  | keep c h ih =>
    exact quotesOperatorFrom_congr (hstarts (h.keep c)) (fun quote => ih quote _) quote before
  | space hpart h ih =>
    refine quotesOperatorFrom_congr (hstarts (h.space hpart)) (fun quote => ?_) quote before
    -- a backslash counts only right before a quote, and no space is put behind one
    have hslash := ne_of_isSeamEnd (canPart_spec hpart).1 (d := '\\') rfl
    rw [quotesOperatorFrom_cons rfl, ih]
    exact quotesOperatorFrom_before (by simp) (by simpa using hslash) _

theorem hasMatchOperator_eq (h : Loosened t u) : hasMatchOperator u = hasMatchOperator t :=
  h.contains_eq (by simp) (by decide)

/-- A loosened line is closed to the fixers exactly if it was before. -/
theorem isClosed_eq (h : Loosened t u) (hkept : IsKept t u) : isClosed u = isClosed t := by
  have harithmetic : hasArithmetic u = hasArithmetic t := h.contains_eq (by simp) (by decide)
  have hsubstitution : hasSubstitution u = hasSubstitution t := by
    rw [hasSubstitution, hasSubstitution, h.contains_eq (by simp) (by decide),
      h.elem_eq (by decide)]
  have hquotes : quotesOperator u = quotesOperator t := h.quotesOperatorFrom_eq none none
  rw [isClosed, isClosed, isProtected_eq, isProtected_eq, hkept.isComment, hkept.opensHeredoc,
    h.hasRegexTest_eq, harithmetic, hsubstitution, h.hasExpansion_eq,
    h.hasBraceExpansion_eq, hquotes]

end Loosened

/-! ## Seams of the fixers -/

/-- A fixer may put a space in every cut. -/
def CanPart (cut : CutKind) : Prop :=
  ∀ {before a b c d}, cut before a b → c ∈ a.getLast? → d ∈ b.head? → canPart c d = true

/-- The seam behind a test may be parted. -/
theorem testEndCut_canPart : CanPart testEndCut := by
  rintro before a b c d ⟨rfl, rfl | rfl⟩ hc hd <;> cases hc <;> cases hd <;> rfl

theorem testStartCut_canPart : CanPart testStartCut := by
  rintro before a b c d ⟨rfl | rfl, rfl⟩ hc hd <;> cases hc <;> cases hd <;> rfl

theorem braceCut_canPart : CanPart braceCut := by
  rintro before a b c d ⟨rfl | ⟨rfl | rfl, -⟩, rfl⟩ hc hd <;> cases hc <;> cases hd <;> rfl

theorem commaCut_canPart : CanPart commaCut := by
  rintro before a b c d ⟨rfl, e, he, rfl⟩ hc hd
  cases hc
  cases hd
  simp [canPart, isComma, he]

variable {kind : WordKind} {k : Char → Bool} {cut : CutKind} {excused : QuoteState → Prop}

/-- A text that is parted at seams of one kind is loosened. -/
theorem Parted.loosened (hcuts : Cuts kind k cut) (hpart : CanPart cut) {p t u : Text}
    (h : Parted (IsSeam cut excused) p t u) : Loosened t u := by
  induction h with
  | nil p => exact .nil
  | keep c _ _ ih => exact ih.keep c
  | @space p t u c hseam h ih =>
    obtain ⟨x, hhere, -⟩ := hseam
    obtain ⟨a, b, e, d, hcut, he, hc, hdb, hdt⟩ := hcuts.ends hhere
    obtain rfl : c = e := by simpa using hc
    obtain ⟨rest, rfl⟩ := List.head?_eq_some_iff.mp hdt
    exact ih.space (hpart hcut he hdb)

/-- The forms for which fixers hold back are in a line exactly if they were before. -/
structure KeepsForms (f : Text → Text) : Prop where
  isClosed : ∀ t, isClosed (f t) = isClosed t
  hasMatchOperator : ∀ t, hasMatchOperator (f t) = hasMatchOperator t
  hasBraceExpansion : ∀ t, hasBraceExpansion (f t) = hasBraceExpansion t

/-- A fixer that parts seams and is harmless keeps all that decides whether fixers hold back. -/
theorem KeepsForms.of_parted {f : Text → Text} (hcuts : Cuts kind k cut) (hpart : CanPart cut)
    (hf : ∀ t, Parted (IsSeam cut excused) [] t (f t))
    (hkept : ∀ t, Rewritten IsHarmless [] t (f t)) :
    KeepsForms f where
  isClosed t := ((hf t).loosened hcuts hpart).isClosed_eq (.of_rewritten (hkept t))
  hasMatchOperator t := ((hf t).loosened hcuts hpart).hasMatchOperator_eq
  hasBraceExpansion t := ((hf t).loosened hcuts hpart).hasBraceExpansion_eq

/-- Two fixers that keep the forms of a line keep them together. -/
theorem KeepsForms.comp {f g : Text → Text} (hf : KeepsForms f) (hg : KeepsForms g) :
    KeepsForms (f ∘ g) where
  isClosed t := (hf.isClosed (g t)).trans (hg.isClosed t)
  hasMatchOperator t := (hf.hasMatchOperator (g t)).trans (hg.hasMatchOperator t)
  hasBraceExpansion t := (hf.hasBraceExpansion (g t)).trans (hg.hasBraceExpansion t)

/-- A rule is held back from a fixed line if it is held back from the line. -/
theorem KeepsForms.isGuarded {f : Text → Text} (hf : KeepsForms f) (s : Settings) (rule : Rule)
    (t : Text) :
    isGuarded s rule (f t) = isGuarded s rule t := by
  rw [isGuarded_eq, isGuarded_eq, hf.isClosed]

/-! ## The order of the fixers -/

/-- A fixer that holds back from some lines. -/
def heldBack (hold : Text → Bool) (f : Text → Text) (t : Text) : Text :=
  if hold t then t else f t

/-- Fixers commute if they do so where they do not hold back and neither changes where the other
holds back. -/
theorem heldBack_comm {f g : Text → Text} {hold hold' : Text → Bool}
    (hcomm : ∀ t, f (g t) = g (f t)) (hf : ∀ t, hold' (f t) = hold' t)
    (hg : ∀ t, hold (g t) = hold t) (t : Text) :
    heldBack hold f (heldBack hold' g t) = heldBack hold' g (heldBack hold f t) := by
  unfold heldBack
  by_cases hfirst : hold t = true <;> by_cases hsecond : hold' t = true <;>
    simp [hfirst, hsecond, hf, hg, hcomm]

/-- What the fixers do to a line from which they do not hold back. -/
def spaceTestEnds : Text → Text :=
  replaceAll operatorAfterTest (fun op => [']', ']', ' '] ++ op)

def spaceTestStarts : Text → Text :=
  replaceAll operatorBeforeTest (fun op => op ++ [' ', '[', '['])

def spaceOperators : Text → Text :=
  spaceTestStarts ∘ spaceTestEnds

def spaceBraces : Text → Text :=
  replaceUnquoted tightBrace (fun word => some (word ++ [' ', '{']))

def spaceCommas : Text → Text :=
  replaceUnquoted tightComma (fun _ => some [',', ' '])

/-- The fixer for operators holds back from guarded lines and from matches. -/
theorem operatorSpacing_eq (s : Settings) :
    operatorSpacing s = heldBack (fun t => isGuarded s .spacingIssues t || hasMatchOperator t)
      spaceOperators :=
  rfl

/-- The fixer for braces holds back from guarded lines. -/
theorem braceSpacing_eq (s : Settings) :
    braceSpacing s = heldBack (isGuarded s .braceSpacing) spaceBraces :=
  rfl

/-- The fixer for commas holds back from guarded lines and from brace expansions. -/
theorem commaSpacing_eq (s : Settings) :
    commaSpacing s = heldBack (fun t => isGuarded s .commaSpacing t || hasBraceExpansion t)
      spaceCommas :=
  rfl

theorem spaceOperators_keepsForms : KeepsForms spaceOperators :=
  .comp (.of_parted testStartCut_cuts testStartCut_canPart operatorBeforeTest_parted
    replaceAll_operatorBeforeTest)
    (.of_parted testEndCut_cuts testEndCut_canPart operatorAfterTest_parted
      replaceAll_operatorAfterTest)

theorem spaceBraces_keepsForms : KeepsForms spaceBraces :=
  .of_parted braceCut_cuts braceCut_canPart tightBrace_parted replaceUnquoted_tightBrace

theorem spaceCommas_keepsForms : KeepsForms spaceCommas :=
  .of_parted commaCut_cuts commaCut_canPart tightComma_parted replaceUnquoted_tightComma

/-- The other fixers put no space behind a character of a word. -/
theorem isWordChar_eq_false {c : Char} (h : (isTestEnd c || isOperatorEnd c || isComma c) = true) :
    isWordChar c = false := by
  simp only [isTestEnd, isOperatorEnd, isComma, Bool.or_eq_true, beq_iff_eq] at h
  rcases h with (rfl | rfl | rfl) | rfl <;> rfl

/-- Operators and braces are spaced at different seams, so in either order. -/
theorem spaceOperators_spaceBraces (t : Text) :
    spaceOperators (spaceBraces t) = spaceBraces (spaceOperators t) := by
  have hend : ∀ t, spaceTestEnds (spaceBraces t) = spaceBraces (spaceTestEnds t) :=
    parted_comm testEndCut_cuts braceCut_cuts (testEndCut_isBlind (by decide))
      (braceCut_isBlind (by decide) fun c hc => isWordChar_eq_false (by simp [hc]))
        operatorAfterTest_parted
      tightBrace_parted
  have hstart : ∀ t, spaceTestStarts (spaceBraces t) = spaceBraces (spaceTestStarts t) :=
    parted_comm testStartCut_cuts braceCut_cuts (testStartCut_isBlind (by decide))
      (braceCut_isBlind (by decide) fun c hc => isWordChar_eq_false (by simp [hc]))
        operatorBeforeTest_parted
      tightBrace_parted
  rw [spaceOperators, Function.comp_apply, Function.comp_apply, hend, hstart]

theorem spaceOperators_spaceCommas (t : Text) :
    spaceOperators (spaceCommas t) = spaceCommas (spaceOperators t) := by
  have hend : ∀ t, spaceTestEnds (spaceCommas t) = spaceCommas (spaceTestEnds t) :=
    parted_comm testEndCut_cuts commaCut_cuts (testEndCut_isBlind (by decide))
      (commaCut_isBlind (by decide))
      operatorAfterTest_parted tightComma_parted
  have hstart : ∀ t, spaceTestStarts (spaceCommas t) = spaceCommas (spaceTestStarts t) :=
    parted_comm testStartCut_cuts commaCut_cuts (testStartCut_isBlind (by decide))
      (commaCut_isBlind (by decide))
      operatorBeforeTest_parted tightComma_parted
  rw [spaceOperators, Function.comp_apply, Function.comp_apply, hend, hstart]

/-- Braces and commas are spaced at different seams, so in either order. -/
theorem spaceBraces_spaceCommas (t : Text) :
    spaceBraces (spaceCommas t) = spaceCommas (spaceBraces t) :=
  parted_comm braceCut_cuts commaCut_cuts
    (braceCut_isBlind (by decide) fun c hc => isWordChar_eq_false (by simp [hc]))
      (commaCut_isBlind (by decide))
    tightBrace_parted tightComma_parted t

/-- The fixers for operators and braces commute. -/
theorem operatorSpacing_braceSpacing (s : Settings) (line : Text) :
    operatorSpacing s (braceSpacing s line) = braceSpacing s (operatorSpacing s line) := by
  rw [operatorSpacing_eq, braceSpacing_eq]
  refine heldBack_comm spaceOperators_spaceBraces (spaceOperators_keepsForms.isGuarded s _)
    (fun t => ?_) line
  rw [spaceBraces_keepsForms.isGuarded, spaceBraces_keepsForms.hasMatchOperator]

theorem operatorSpacing_commaSpacing (s : Settings) (line : Text) :
    operatorSpacing s (commaSpacing s line) = commaSpacing s (operatorSpacing s line) := by
  rw [operatorSpacing_eq, commaSpacing_eq]
  refine heldBack_comm spaceOperators_spaceCommas (fun t => ?_) (fun t => ?_) line
  · rw [spaceOperators_keepsForms.isGuarded, spaceOperators_keepsForms.hasBraceExpansion]
  · rw [spaceCommas_keepsForms.isGuarded, spaceCommas_keepsForms.hasMatchOperator]

/-- The fixers for braces and commas commute. -/
theorem braceSpacing_commaSpacing (s : Settings) (line : Text) :
    braceSpacing s (commaSpacing s line) = commaSpacing s (braceSpacing s line) := by
  rw [braceSpacing_eq, commaSpacing_eq]
  refine heldBack_comm spaceBraces_spaceCommas (fun t => ?_)
    (spaceCommas_keepsForms.isGuarded s _) line
  rw [spaceBraces_keepsForms.isGuarded, spaceBraces_keepsForms.hasBraceExpansion]

/-- The fixers for spaces are commuting projections: each finds nothing to do in what it has
written, and of any two it does not matter which one is first. -/
theorem spacing_idempotent_comm (s : Settings) (line : Text) :
    (operatorSpacing s (operatorSpacing s line) = operatorSpacing s line ∧
      braceSpacing s (braceSpacing s line) = braceSpacing s line ∧
      commaSpacing s (commaSpacing s line) = commaSpacing s line) ∧
    operatorSpacing s (braceSpacing s line) = braceSpacing s (operatorSpacing s line) ∧
    operatorSpacing s (commaSpacing s line) = commaSpacing s (operatorSpacing s line) ∧
    braceSpacing s (commaSpacing s line) = commaSpacing s (braceSpacing s line) := by
  refine ⟨?_, operatorSpacing_braceSpacing s line, operatorSpacing_commaSpacing s line,
    braceSpacing_commaSpacing s line⟩
  cases hclosed : isClosed line with
  | true =>
    obtain ⟨ho, hb, hc⟩ := spacing_of_isClosed s hclosed
    rw [ho, hb, hc]
    exact ⟨ho, hb, hc⟩
  | false =>
    exact ⟨operatorSpacing_eq_self (operatorSpacing_spaced s hclosed),
      braceSpacing_eq_self (braceSpacing_spaced s hclosed),
      commaSpacing_eq_self (commaSpacing_spaced s hclosed)⟩

end ShellStyle.Fix
