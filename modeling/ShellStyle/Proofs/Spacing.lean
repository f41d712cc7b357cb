import ShellStyle.Proofs.Fixers

/-!
# Nothing is spaced twice

The fixers for spaces look for words that stand too tight: a list operator at double brackets, a
brace behind `)`, `then` or `do`, a comma and what follows it. Where such a word is left over once a
fixer is done, it stands in a string. That stays so when the later fixers put spaces elsewhere, when
the line is indented, and in both parts of a line that is broken; so no fixer for spaces finds
anything to do in a formatted line.
-/

namespace ShellStyle.Fix

open Text Line

/-! ## Tight words -/

/-- Words that a fixer takes apart, by the character before them. -/
abbrev WordKind :=
  Option Char → Text → Prop

/-- What the kinds of tight words have in common: the words have no blanks, each has a bracket, a
brace or a comma, and at most a word character before it keeps a word from being of the kind. -/
structure IsTight (kind : WordKind) : Prop where
  solid : ∀ {before w}, kind before w → w ≠ [] ∧ ∀ c ∈ w, isBlank c = false
  marked : ∀ {before w}, kind before w → ∃ c ∈ w, c = '[' ∨ c = ']' ∨ c = '{' ∨ c = ','
  edge : ∀ {before before' w}, kind before w → (∀ c ∈ before', isWordChar c = false) →
    kind before' w

/-- A list operator right behind double brackets. -/
def testEndWord : WordKind := fun _ w =>
  w = [']', ']', '&', '&'] ∨ w = [']', ']', '|', '|']

/-- A list operator right before double brackets. -/
def testStartWord : WordKind := fun _ w =>
  w = ['&', '&', '[', '['] ∨ w = ['|', '|', '[', '[']

/-- A brace right behind a closing parenthesis, `then` or `do`. -/
def braceWord : WordKind := fun before w =>
  w = [')', '{'] ∨
    (w = ['t', 'h', 'e', 'n', '{'] ∨ w = ['d', 'o', '{']) ∧ ∀ c ∈ before, isWordChar c = false

/-- A comma with something other than a blank right behind it. -/
def commaWord : WordKind := fun _ w =>
  ∃ c, isBlank c = false ∧ w = [',', c]

theorem isBlank_eq_false_of_all {w : Text} (h : (w.all fun c => !isBlank c) = true) :
    ∀ c ∈ w, isBlank c = false := by
  simpa using h

/-- The end of a test with the operator behind it is a tight word. -/
theorem testEndWord_isTight : IsTight testEndWord where
  solid h := by rcases h with rfl | rfl <;> exact ⟨by simp, isBlank_eq_false_of_all rfl⟩
  marked h := by rcases h with rfl | rfl <;> simp
  edge h _ := h

theorem testStartWord_isTight : IsTight testStartWord where
  solid h := by rcases h with rfl | rfl <;> exact ⟨by simp, isBlank_eq_false_of_all rfl⟩
  marked h := by rcases h with rfl | rfl <;> simp
  edge h _ := h

theorem braceWord_isTight : IsTight braceWord where
  solid h := by rcases h with rfl | ⟨rfl | rfl, -⟩ <;> exact ⟨by simp, isBlank_eq_false_of_all rfl⟩
  marked h := by rcases h with rfl | ⟨rfl | rfl, -⟩ <;> simp
  edge h hbefore := h.imp_right fun h => ⟨h.1, hbefore⟩

theorem commaWord_isTight : IsTight commaWord where
  solid h := by
    obtain ⟨c, hc, rfl⟩ := h
    exact ⟨by simp, by simp [hc]; decide⟩
  marked h := by
    obtain ⟨c, -, rfl⟩ := h
    simp
  edge h _ := h

/-- A matcher that finds the words of a kind. -/
def Finds {α : Type} (m : Matcher α) (kind : WordKind) : Prop :=
  ∀ before t, (m before t).isSome = true ↔ ∃ w y, t = w ++ y ∧ kind before w

/-- The matcher for operators behind a test finds all of them. -/
theorem operatorAfterTest_finds : Finds operatorAfterTest testEndWord := by
  intro before t
  constructor
  · intro h
    obtain ⟨⟨op, n⟩, hop⟩ := Option.isSome_iff_exists.mp h
    obtain ⟨-, hcases, y, hy⟩ := operatorAfterTest_spec hop
    refine ⟨_, y, hy.symm, ?_⟩
    rcases hcases with rfl | rfl
    · exact .inl rfl
    · exact .inr rfl
  · rintro ⟨w, y, rfl, rfl | rfl⟩ <;> rfl

theorem operatorBeforeTest_finds : Finds operatorBeforeTest testStartWord := by
  intro before t
  constructor
  · intro h
    obtain ⟨⟨op, n⟩, hop⟩ := Option.isSome_iff_exists.mp h
    obtain ⟨-, hcases, y, hy⟩ := operatorBeforeTest_spec hop
    refine ⟨_, y, hy.symm, ?_⟩
    rcases hcases with rfl | rfl
    · exact .inl rfl
    · exact .inr rfl
  · rintro ⟨w, y, rfl, rfl | rfl⟩ <;> rfl

theorem tightComma_finds : Finds tightComma commaWord := by
  intro before t
  constructor
  · intro h
    obtain ⟨⟨a, n⟩, hop⟩ := Option.isSome_iff_exists.mp h
    obtain ⟨-, c, y, hc, rfl⟩ := tightComma_spec.mp hop
    exact ⟨[',', c], y, rfl, c, hc, rfl⟩
  · rintro ⟨w, y, rfl, c, hc, rfl⟩
    rw [Option.isSome_iff_exists]
    exact ⟨((), 1), tightComma_spec.mpr ⟨rfl, c, y, hc, rfl⟩⟩

theorem tightBrace_finds : Finds tightBrace braceWord := by
  intro before t
  constructor
  · intro h
    obtain ⟨⟨word, n⟩, hop⟩ := Option.isSome_iff_exists.mp h
    obtain ⟨-, ⟨y, hy⟩, hcases⟩ := tightBrace_spec hop
    refine ⟨word ++ ['{'], y, hy.symm, ?_⟩
    rcases hcases with rfl | ⟨rfl | rfl, hbefore⟩
    · exact .inl rfl
    · exact .inr ⟨.inl rfl, hbefore⟩
    · exact .inr ⟨.inr rfl, hbefore⟩
  · rintro ⟨w, y, rfl, rfl | ⟨hw, hbefore⟩⟩
    · rfl
    · have hany : before.any isWordChar = false := by
        cases before with
        | none => rfl
        | some c => exact hbefore c rfl
      rcases hw with rfl | rfl <;> simp [tightBrace, hany, startsWith, after?]

/-! ## Settled lines -/

/-- Wherever a word of the kind stands in the line, the state of the quote automaton before it
excuses it. -/
def Settled (kind : WordKind) (excused : QuoteState → Prop) (line : Text) : Prop :=
  ∀ x w y, line = x ++ (w ++ y) → kind x.getLast? w → excused (QuoteState.start.run x)

/-- No word is excused. -/
def never (_ : QuoteState) : Prop :=
  False

/-- Words in strings are excused. -/
def inString (q : QuoteState) : Prop :=
  q.isOpen = true

/-- Where words stand in strings only, nothing outside of strings is replaced. -/
theorem replaceUnquoted_eq_self {α : Type} {m : Matcher α} {kind : WordKind} (hm : m.IsBounded)
    (hfinds : Finds m kind) (replacement : α → Option Text) {line : Text}
    (h : Settled kind inString line) :
    replaceUnquoted m replacement line = line := by
  refine (replaceUnquoted_scanned hm replacement line).eq_self fun x a y v b heq hhit hb => ?_
  obtain ⟨w, z, hw, hkind⟩ := (hfinds _ _).mp (Option.isSome_iff_exists.mpr ⟨_, hhit⟩)
  have hopen : (QuoteState.start.run x).isOpen = true := h x w z (by simpa [hw] using heq) hkind
  rw [hb, isBare, hopen]
  simp

/-- Where there are no words, nothing is replaced. -/
theorem replaceAll_eq_self {α : Type} {m : Matcher α} {kind : WordKind} (hm : m.IsBounded)
    (hfinds : Finds m kind) (replacement : α → Text) {line : Text} (h : Settled kind never line) :
    replaceAll m replacement line = line := by
  refine (replaceAll_scanned hm replacement line).eq_self fun x a y v b heq hhit _ => ?_
  obtain ⟨w, z, hw, hkind⟩ := (hfinds _ _).mp (Option.isSome_iff_exists.mpr ⟨_, hhit⟩)
  exact (h x w z (by simpa [hw] using heq) hkind).elim

/-! ## Spaces put in -/

/-- A space is put in behind a character of a kind. -/
def IsSpaceAfter (k : Char → Bool) (p a b : Text) : Prop :=
  a = [] ∧ b = [' '] ∧ ∃ c ∈ p.getLast?, k c = true

/-- A space behind a character of the class is an insertion. -/
theorem space_inserted {k : Char → Bool} (p a : Text) {c : Char} (hc : k c = true) (b : Text) :
    Rewritten (IsSpaceAfter k) p (a ++ [c] ++ b) (a ++ [c] ++ [' '] ++ b) := by
  refine .append ?_ (.refl _ b)
  have hspace : Rewritten (IsSpaceAfter k) (p ++ (a ++ [c])) [] [' '] :=
    .single ⟨rfl, rfl, c, by simp, hc⟩
  simpa using Rewritten.append (.refl p (a ++ [c])) hspace

/-- A word without blanks that begins a line after spaces were put in began it before. -/
theorem exists_of_inserted_append {k : Char → Bool} {p t u : Text}
    (h : Rewritten (IsSpaceAfter k) p t u) {w y : Text} (hu : u = w ++ y)
    (hw : ∀ c ∈ w, isBlank c = false) : ∃ y', t = w ++ y' := by
  induction h generalizing w with
  | nil p =>
    obtain ⟨rfl, -⟩ : w = [] ∧ y = [] := by simpa using hu
    exact ⟨[], rfl⟩
  | @keep p t u c h ih =>
    cases w with
    | nil => exact ⟨c :: t, rfl⟩
    | cons d w =>
      obtain ⟨rfl, hu'⟩ := List.cons.inj hu
      obtain ⟨y', rfl⟩ := ih hu' fun e he => hw e (List.mem_cons_of_mem c he)
      exact ⟨y', rfl⟩
  | @edit p a b t u hP h ih =>
    obtain ⟨rfl, rfl, -⟩ := hP
    cases w with
    | nil => exact ⟨t, rfl⟩
    | cons d w =>
      obtain ⟨rfl, -⟩ := List.cons.inj hu
      exact absurd (hw ' ' List.mem_cons_self) (by decide)

/-- Only a backslash escapes what follows it. -/
theorem escaped_step {q : QuoteState} {c : Char} (hc : c ≠ '\\') : (q.step c).escaped = false := by
  obtain ⟨quote, escaped⟩ := q
  cases escaped with
  | true => rfl
  | false =>
    simp only [QuoteState.step, hc, Bool.false_eq_true, if_false]
    split <;> split <;> rfl

/-- A space behind a character other than the backslash is nothing to the quote automaton. -/
theorem run_concat_space {p : Text} {c : Char} (hlast : c ∈ p.getLast?) (hc : c ≠ '\\') :
    QuoteState.start.run (p ++ [' ']) = QuoteState.start.run p := by
  obtain ⟨p, rfl⟩ := List.getLast?_eq_some_iff.mp hlast
  have hproper : (QuoteState.start.run (p ++ [c])).IsProper := QuoteState.isProper_start.run _
  have hescaped : (QuoteState.start.run (p ++ [c])).escaped = false := by
    rw [QuoteState.run_append]
    exact escaped_step hc
  rw [QuoteState.run_append]
  change (QuoteState.start.run (p ++ [c])).step ' ' = _
  rw [step_of_isPlain hproper rfl, ← hescaped]

/-- What became of a line up to a place, as far as the words behind it are concerned: `p'` ends in
the same string as `p`, and where a word can stand behind `p'` it can behind `p`. -/
structure StandsFor (kind : WordKind) (p' p : Text) : Prop where
  run_eq : QuoteState.start.run p' = QuoteState.start.run p
  kind_of : ∀ {w}, kind p'.getLast? w → kind p.getLast? w

/-- A character that is kept. -/
theorem StandsFor.keep {kind : WordKind} {p' p : Text} (h : StandsFor kind p' p) (c : Char) :
    StandsFor kind (p' ++ [c]) (p ++ [c]) := by
  refine ⟨?_, by simp⟩
  rw [QuoteState.run_append, QuoteState.run_append, h.run_eq]

/-- A space that is put in. -/
theorem StandsFor.space {kind : WordKind} {p' p : Text} (h : StandsFor kind p' p) {c : Char}
    (hlast : c ∈ p.getLast?) (hc : c ≠ '\\')
    (hkind : ∀ before w, kind before w → kind (some c) w) : StandsFor kind (p' ++ [' ']) p := by
  constructor
  · rw [QuoteState.run_append, h.run_eq, ← QuoteState.run_append, run_concat_space hlast hc]
  · intro w hw
    rw [Option.mem_def.mp hlast]
    exact hkind _ w hw

/-- Spaces put in elsewhere leave a line settled. -/
theorem Settled.of_inserted {kind : WordKind} (htight : IsTight kind) {excused : QuoteState → Prop}
    {k : Char → Bool} (hk : ∀ c, k c = true → c ≠ '\\')
    (hkind : ∀ c before w, k c = true → kind before w → kind (some c) w) {t u : Text}
    (h : Rewritten (IsSpaceAfter k) [] t u) (hsettled : Settled kind excused t) :
    Settled kind excused u := by
  -- every word of the new line was one of the old line, in the same string
  suffices hbehind : ∀ {p t u : Text}, Rewritten (IsSpaceAfter k) p t u → ∀ p',
      StandsFor kind p' p → ∀ x' w y', u = x' ++ (w ++ y') → kind (p' ++ x').getLast? w →
        ∃ x y, t = x ++ (w ++ y) ∧ kind (p ++ x).getLast? w ∧
          QuoteState.start.run (p' ++ x') = QuoteState.start.run (p ++ x) by
    intro x' w y' hu hword
    obtain ⟨x, y, ht, hx, hrun⟩ := hbehind h [] ⟨rfl, id⟩ x' w y' hu hword
    rw [List.nil_append, List.nil_append] at hrun
    rw [hrun]
    exact hsettled x w y ht hx
  intro p t u h
  induction h with
  | nil p =>
    intro p' _ x' w y' hu hword
    exact absurd (by simpa using hu)
      (fun h : x' = [] ∧ w = [] ∧ y' = [] => (htight.solid hword).1 h.2.1)
  | @keep p t u c h ih =>
    intro p' hstands x' w y' hu hword
    cases x' with
    | nil =>
      rw [List.nil_append] at hu
      obtain ⟨y, hy⟩ := exists_of_inserted_append (.keep c h) hu (htight.solid hword).2
      rw [List.append_nil] at hword ⊢
      exact ⟨[], y, hy, by simpa using hstands.kind_of hword, by simpa using hstands.run_eq⟩
    | cons d x' =>
      obtain ⟨rfl, hu'⟩ := List.cons.inj hu
      obtain ⟨x, y, ht, hx, hrun⟩ :=
        ih (p' ++ [c]) (hstands.keep c) x' w y' hu' (by simpa using hword)
      exact ⟨c :: x, y, by simp [ht], by simpa using hx, by simpa using hrun⟩
  | @edit p a b t u hP h ih =>
    intro p' hstands x' w y' hu hword
    obtain ⟨rfl, rfl, c, hc, hkc⟩ := hP
    cases x' with
    | nil =>
      obtain ⟨hne, hblank⟩ := htight.solid hword
      obtain ⟨d, w, rfl⟩ := List.exists_cons_of_ne_nil hne
      obtain ⟨rfl, -⟩ := List.cons.inj hu
      exact absurd (hblank ' ' List.mem_cons_self) (by decide)
    | cons d x' =>
      obtain ⟨rfl, hu'⟩ := List.cons.inj hu
      have hspace := hstands.space hc (hk c hkc) fun before w => hkind c before w hkc
      obtain ⟨x, y, ht, hx, hrun⟩ :=
        ih (p' ++ [' ']) (by simpa using hspace) x' w y' hu' (by simpa using hword)
      exact ⟨x, y, by simpa using ht, by simpa using hx, by simpa using hrun⟩

/-! ## What the fixers leave over -/

/-- A piece that begins with a word of the kind, and the piece with a space put in: no other word
begins in them. -/
structure IsTakenApart (kind : WordKind) (k : Char → Bool) (a b : Text) : Prop where
  ne_nil : a ≠ [] ∧ b ≠ []
  plain : (∀ c ∈ a, isPlain c = true) ∧ ∀ c ∈ b, isPlain c = true
  last : a.getLast?.all (fun c => !isWordChar c) = true
  inserted : ∀ p, Rewritten (IsSpaceAfter k) p a b
  alone : ∀ {before x w y r}, a ++ r = x ++ (w ++ y) → kind before w → x ≠ [] → a.length ≤ x.length
  apart : ∀ {before x w y r}, b ++ r = x ++ (w ++ y) → kind before w → b.length ≤ x.length

variable {α : Type} {m : Matcher α} {kind : WordKind} {k : Char → Bool}

/-- Text behind a piece. -/
theorem exists_of_append_eq {b u x z : Text} (heq : b ++ u = x ++ z) (hle : b.length ≤ x.length) :
    ∃ x', x = b ++ x' ∧ u = x' ++ z := by
  rcases List.append_eq_append_iff.mp heq with ⟨x', hx, hu⟩ | ⟨b', hb, hz⟩
  · exact ⟨x', hx, hu⟩
  · obtain rfl : b' = [] := by
      rw [hb, List.length_append] at hle
      exact List.length_eq_zero_iff.mp (by omega)
    exact ⟨[], by simpa using hb.symm, by simpa using hz.symm⟩

/-- A piece that is taken apart, or left as it is. -/
theorem StandsFor.piece {p' p a b b' : Text} (h : StandsFor kind p' p) (htight : IsTight kind)
    (hapart : IsTakenApart kind k a b') (hb : b = b' ∨ b = a) :
    StandsFor kind (p' ++ b) (p ++ a) := by
  have hproper : (QuoteState.start.run p).IsProper := QuoteState.isProper_start.run p
  have hplain : b ≠ [] ∧ ∀ c ∈ b, isPlain c = true := by
    rcases hb with rfl | rfl
    · exact ⟨hapart.ne_nil.2, hapart.plain.2⟩
    · exact ⟨hapart.ne_nil.1, hapart.plain.1⟩
  constructor
  · rw [QuoteState.run_append, QuoteState.run_append, h.run_eq,
      run_of_isPlain hproper hplain.1 hplain.2,
      run_of_isPlain hproper hapart.ne_nil.1 hapart.plain.1]
  · intro w hw
    have hedge : ∀ c ∈ a.getLast?, isWordChar c = false := by
      simpa [Option.all_eq_true] using hapart.last
    refine htight.edge hw fun c hc => hedge c ?_
    rw [List.getLast?_append, List.getLast?_eq_some_getLast hapart.ne_nil.1] at hc
    rw [List.getLast?_eq_some_getLast hapart.ne_nil.1]
    exact hc

/-- Once all hits are taken apart but those that are excused, the line is settled. -/
theorem settled_of_scanned {excused : QuoteState → Prop} {R : Text → Text → α → Text → Prop}
    (hfinds : Finds m kind) (htight : IsTight kind)
    (hR : ∀ p a t v b, m p.getLast? (a ++ t) = some (v, a.length) → R p a v b →
      ∃ b', IsTakenApart kind k a b' ∧ (b = b' ∨ b = a ∧ excused (QuoteState.start.run p)))
    {t u : Text} (h : Scanned m R [] t u) : Settled kind excused u := by
  have hinserted : ∀ {p t u}, Scanned m R p t u → Rewritten (IsSpaceAfter k) p t u := by
    intro p t u h
    refine h.rewritten fun p a t v b hhit hb => ?_
    obtain ⟨b', hapart, rfl | ⟨rfl, -⟩⟩ := hR p a t v b hhit hb
    · exact hapart.inserted p
    · exact .refl p _
  suffices hbehind : ∀ {p t u : Text}, Scanned m R p t u → ∀ p', StandsFor kind p' p →
      ∀ x w y, u = x ++ (w ++ y) → kind (p' ++ x).getLast? w →
        excused (QuoteState.start.run (p' ++ x)) by
    exact fun x w y hu hword => hbehind h [] ⟨rfl, id⟩ x w y hu hword
  intro p t u h
  induction h with
  | nil p =>
    intro p' _ x w y hu hword
    exact absurd (by simpa using hu)
      (fun h : x = [] ∧ w = [] ∧ y = [] => (htight.solid hword).1 h.2.1)
  | @keep p t u c hm h ih =>
    intro p' hstands x w y hu hword
    cases x with
    | nil =>
      -- a word that begins here began here before, and the matcher would have found it
      rw [List.nil_append] at hu
      rw [List.append_nil] at hword
      obtain ⟨y', hy⟩ := exists_of_inserted_append (.keep c (hinserted h)) hu (htight.solid hword).2
      have hfound := (hfinds p.getLast? (c :: t)).mpr ⟨w, y', hy, hstands.kind_of hword⟩
      simp [hm] at hfound
    | cons d x =>
      obtain ⟨rfl, hu'⟩ := List.cons.inj hu
      simpa using ih (p' ++ [c]) (hstands.keep c) x w y hu' (by simpa using hword)
  | @hit p a b t u v hm hb h ih =>
    intro p' hstands x w y hu hword
    obtain ⟨b', hapart, hcases⟩ := hR p a t v b hm hb
    -- the word begins behind the hit, or in it; in it only where the hit was excused
    by_cases hle : b.length ≤ x.length
    · obtain ⟨x', rfl, hu'⟩ := exists_of_append_eq hu hle
      have hpiece := hstands.piece htight hapart (hcases.imp_right And.left)
      simpa using ih (p' ++ b) hpiece x' w y hu' (by simpa using hword)
    · rcases hcases with rfl | ⟨rfl, hexcused⟩
      · exact absurd (hapart.apart hu hword) hle
      · by_cases hx : x = []
        · subst hx
          rwa [List.append_nil, hstands.run_eq]
        · exact absurd (hapart.alone hu hword hx) hle

/-- Whether a word can stand in a text that begins with `a`, `n` characters from its start. -/
def fits (a w : Text) (n : Nat) : Bool :=
  (a.drop n).take w.length == w.take (a.length - n)

/-- A word that fits nowhere in a piece from position `i` on begins behind the piece. -/
theorem le_length_of_fits {a w x y r : Text} (heq : a ++ r = x ++ (w ++ y)) {i : Nat}
    (h : ∀ n < a.length, i ≤ n → fits a w n = false) (hi : i ≤ x.length) : a.length ≤ x.length := by
  rw [← Nat.not_lt]
  intro hlt
  have hno := h x.length hlt hi
  have hrest : a.drop x.length ++ r = w ++ y := by
    have hdrop := congrArg (List.drop x.length) heq
    rwa [List.drop_append_of_le_length (Nat.le_of_lt hlt), List.drop_left] at hdrop
  have ha : a.drop x.length = (w ++ y).take (a.length - x.length) := by
    rw [← hrest, List.take_left' (List.length_drop)]
  have hw : w = (w ++ y).take w.length := List.take_left.symm
  rw [fits, ha, List.take_take, Nat.min_comm, ← List.take_take, ← hw] at hno
  simp at hno

/-- The characters behind which each fixer puts its spaces. -/
def isTestEnd (c : Char) : Bool :=
  c == ']'

def isOperatorEnd (c : Char) : Bool :=
  c == '&' || c == '|'

def isBraceWordEnd (c : Char) : Bool :=
  c == ')' || c == 'n' || c == 'o'

def isComma (c : Char) : Bool :=
  c == ','

/-- A space takes the end of a test and its operator apart. -/
theorem testEnd_isTakenApart {op : Text} (h : op = ['&', '&'] ∨ op = ['|', '|']) :
    IsTakenApart testEndWord isTestEnd ([']', ']'] ++ op) ([']', ']', ' '] ++ op) where
  ne_nil := by simp
  plain := by rcases h with rfl | rfl <;> exact ⟨List.all_eq_true.mp rfl, List.all_eq_true.mp rfl⟩
  last := by rcases h with rfl | rfl <;> decide
  inserted p := space_inserted p [']'] rfl op
  alone heq hw hx := by
    refine le_length_of_fits heq ?_ (List.length_pos_iff.mpr hx)
    rcases h with rfl | rfl <;> rcases hw with rfl | rfl <;> decide
  apart heq hw := by
    refine le_length_of_fits heq ?_ (Nat.zero_le _)
    rcases h with rfl | rfl <;> rcases hw with rfl | rfl <;> decide

theorem testStart_isTakenApart {op : Text} (h : op = ['&', '&'] ∨ op = ['|', '|']) :
    IsTakenApart testStartWord isOperatorEnd (op ++ ['[', '[']) (op ++ [' ', '[', '[']) where
  ne_nil := by simp
  plain := by rcases h with rfl | rfl <;> exact ⟨List.all_eq_true.mp rfl, List.all_eq_true.mp rfl⟩
  last := by rcases h with rfl | rfl <;> decide
  inserted p := by
    rcases h with rfl | rfl
    · exact space_inserted p ['&'] rfl ['[', '[']
    · exact space_inserted p ['|'] rfl ['[', '[']
  alone heq hw hx := by
    refine le_length_of_fits heq ?_ (List.length_pos_iff.mpr hx)
    rcases h with rfl | rfl <;> rcases hw with rfl | rfl <;> decide
  apart heq hw := by
    refine le_length_of_fits heq ?_ (Nat.zero_le _)
    rcases h with rfl | rfl <;> rcases hw with rfl | rfl <;> decide

theorem brace_isTakenApart {word : Text}
    (h : word = [')'] ∨ word = ['t', 'h', 'e', 'n'] ∨ word = ['d', 'o']) :
    IsTakenApart braceWord isBraceWordEnd (word ++ ['{']) (word ++ [' ', '{']) where
  ne_nil := by simp
  plain := by
    rcases h with rfl | rfl | rfl <;> exact ⟨List.all_eq_true.mp rfl, List.all_eq_true.mp rfl⟩
  last := by rcases h with rfl | rfl | rfl <;> decide
  inserted p := by
    rcases h with rfl | rfl | rfl
    · exact space_inserted p [] rfl ['{']
    · exact space_inserted p ['t', 'h', 'e'] rfl ['{']
    · exact space_inserted p ['d'] rfl ['{']
  alone heq hw hx := by
    refine le_length_of_fits heq ?_ (List.length_pos_iff.mpr hx)
    rcases h with rfl | rfl | rfl <;> rcases hw with rfl | ⟨rfl | rfl, -⟩ <;> decide
  apart heq hw := by
    refine le_length_of_fits heq ?_ (Nat.zero_le _)
    rcases h with rfl | rfl | rfl <;> rcases hw with rfl | ⟨rfl | rfl, -⟩ <;> decide

theorem comma_isTakenApart : IsTakenApart commaWord isComma [','] [',', ' '] where
  ne_nil := by simp
  plain := ⟨List.all_eq_true.mp rfl, List.all_eq_true.mp rfl⟩
  last := by decide
  inserted p := by simpa using space_inserted p [] rfl []
  alone _ _ hx := List.length_pos_iff.mpr hx
  apart heq hw := by
    obtain ⟨c, hc, rfl⟩ := hw
    refine le_length_of_fits heq (fun n hn _ => ?_) (Nat.zero_le _)
    have hne : c ≠ ' ' := by
      rintro rfl
      simp [isBlank] at hc
    have hcases : n = 0 ∨ n = 1 := by
      rw [List.length_cons, List.length_singleton] at hn
      omega
    rcases hcases with rfl | rfl
    · simp [fits, Ne.symm hne]
    · simp [fits]

/-! ## The fixers for spaces -/

/-- A plain piece begins and ends outside of strings if it begins there. -/
theorem isBare_of_isPlain {a : Text} (h : ∀ c ∈ a, isPlain c = true) (p : Text) :
    isBare p a = !(QuoteState.start.run p).isOpen := by
  have hproper : (QuoteState.start.run p).IsProper := QuoteState.isProper_start.run p
  rw [isBare, QuoteState.run_append,
    QuoteState.isOpen_run hproper fun c hc => isMark_of_isPlain (h c (List.dropLast_subset a hc)),
    Bool.and_self]

/-- Taking all hits apart puts in spaces and leaves no hit. -/
theorem replaceAll_taken_apart {piece replacement : α → Text} (hm : m.Reads piece)
    (hfinds : Finds m kind) (htight : IsTight kind)
    (happart : ∀ before t v n, m before t = some (v, n) →
      IsTakenApart kind k (piece v) (replacement v))
    (line : Text) :
    Rewritten (IsSpaceAfter k) [] line (replaceAll m replacement line) ∧
      Settled kind never (replaceAll m replacement line) := by
  have hscanned := replaceAll_scanned hm.isBounded replacement line
  constructor
  · refine hscanned.rewritten fun p a t v b hhit hb => ?_
    obtain rfl := hm.eq_piece hhit
    exact hb ▸ (happart _ _ _ _ hhit).inserted p
  · refine settled_of_scanned (k := k) hfinds htight (fun p a t v b hhit hb => ?_) hscanned
    obtain rfl := hm.eq_piece hhit
    exact ⟨replacement v, happart _ _ _ _ hhit, .inl hb⟩

/-- Taking the hits outside of strings apart puts in spaces and leaves hits in strings only. -/
theorem replaceUnquoted_taken_apart {piece replacement : α → Text} (hm : m.Reads piece)
    (hfinds : Finds m kind) (htight : IsTight kind)
    (happart : ∀ before t v n, m before t = some (v, n) →
      IsTakenApart kind k (piece v) (replacement v))
    (line : Text) :
    Rewritten (IsSpaceAfter k) [] line (replaceUnquoted m (fun v => some (replacement v)) line) ∧
      Settled kind inString (replaceUnquoted m (fun v => some (replacement v)) line) := by
  have hscanned := replaceUnquoted_scanned hm.isBounded (fun v => some (replacement v)) line
  constructor
  · refine hscanned.rewritten fun p a t v b hhit hb => ?_
    obtain rfl := hm.eq_piece hhit
    subst hb
    split
    · exact (happart _ _ _ _ hhit).inserted p
    · exact .refl p _
  · refine settled_of_scanned (k := k) hfinds htight (fun p a t v b hhit hb => ?_) hscanned
    obtain rfl := hm.eq_piece hhit
    refine ⟨replacement v, happart _ _ _ _ hhit, ?_⟩
    rw [isBare_of_isPlain (happart _ _ _ _ hhit).plain.1] at hb
    cases hopen : (QuoteState.start.run p).isOpen with
    | false =>
      rw [hopen] at hb
      exact .inl hb
    | true =>
      rw [hopen] at hb
      exact .inr ⟨hb, hopen⟩

/-- Spaces behind tests are only put in, and no operator is left that touches one. -/
theorem operatorAfterTest_taken_apart (line : Text) :
    Rewritten (IsSpaceAfter isTestEnd) [] line
      (replaceAll operatorAfterTest (fun op => [']', ']', ' '] ++ op) line) ∧
      Settled testEndWord never (replaceAll operatorAfterTest
        (fun op => [']', ']', ' '] ++ op) line) :=
  replaceAll_taken_apart operatorAfterTest_reads operatorAfterTest_finds testEndWord_isTight
    (fun _ _ _ _ h => testEnd_isTakenApart (operatorAfterTest_spec h).2.1) line

/-- Spaces before tests are only put in, and no operator is left that touches one. -/
theorem operatorBeforeTest_taken_apart (line : Text) :
    Rewritten (IsSpaceAfter isOperatorEnd) [] line
        (replaceAll operatorBeforeTest (fun op => op ++ [' ', '[', '[']) line) ∧
      Settled testStartWord never (replaceAll operatorBeforeTest
        (fun op => op ++ [' ', '[', '[']) line) :=
  replaceAll_taken_apart operatorBeforeTest_reads operatorBeforeTest_finds testStartWord_isTight
    (fun _ _ _ _ h => testStart_isTakenApart (operatorBeforeTest_spec h).2.1) line

/-- Spaces before braces are only put in, and only in strings is a tight brace left. -/
theorem tightBrace_taken_apart (line : Text) :
    Rewritten (IsSpaceAfter isBraceWordEnd) [] line
        (replaceUnquoted tightBrace (fun word => some (word ++ [' ', '{'])) line) ∧
      Settled braceWord inString (replaceUnquoted tightBrace
        (fun word => some (word ++ [' ', '{'])) line) :=
  replaceUnquoted_taken_apart tightBrace_reads tightBrace_finds braceWord_isTight
    (fun _ _ _ _ h => brace_isTakenApart ((tightBrace_spec h).2.2.imp_right And.left)) line

/-- Spaces behind commas are only put in, and only in strings is a tight comma left. -/
theorem tightComma_taken_apart (line : Text) :
    Rewritten (IsSpaceAfter isComma) [] line
      (replaceUnquoted tightComma (fun _ => some [',', ' ']) line) ∧
      Settled commaWord inString (replaceUnquoted tightComma (fun _ => some [',', ' ']) line) :=
  replaceUnquoted_taken_apart tightComma_reads tightComma_finds commaWord_isTight
    (fun _ _ _ _ _ => comma_isTakenApart) line

/-! ## Lines with nothing to space -/

/-- A line whose text no fixer may change. -/
def isClosed (line : Text) : Bool :=
  isProtected line || quotesOperator line

/-- A rule is held back from a line if it is switched off or no fixer may change the line. -/
theorem isGuarded_eq (s : Settings) (rule : Rule) (line : Text) :
    isGuarded s rule line = (!s.isEnabled rule || isClosed line) := by
  rw [isGuarded, isClosed, Bool.or_assoc]

/-- The operators of a line are spaced, or the fixer does not care for them. -/
def OperatorsSpaced (s : Settings) (line : Text) : Prop :=
  s.isEnabled .spacingIssues = false ∨ hasMatchOperator line = true ∨
    Settled testEndWord never line ∧ Settled testStartWord never line

/-- The braces of a line are spaced, or the fixer does not care for them. -/
def BracesSpaced (s : Settings) (line : Text) : Prop :=
  s.isEnabled .braceSpacing = false ∨ Settled braceWord inString line

/-- The commas of a line are spaced, or the fixer does not care for them. -/
def CommasSpaced (s : Settings) (line : Text) : Prop :=
  s.isEnabled .commaSpacing = false ∨ Settled commaWord inString line

/-- The fixers for spaces hold back from the line or find nothing to do in it. -/
def IsSpaced (s : Settings) (line : Text) : Prop :=
  isClosed line = true ∨ OperatorsSpaced s line ∧ BracesSpaced s line ∧ CommasSpaced s line

/-- Where operators are spaced their fixer has nothing to do. -/
theorem operatorSpacing_eq_self {s : Settings} {line : Text} (h : OperatorsSpaced s line) :
    operatorSpacing s line = line := by
  unfold operatorSpacing
  split
  · rfl
  · next hcond =>
    rw [isGuarded_eq, Bool.or_eq_true, Bool.or_eq_true, Bool.not_eq_true', not_or, not_or] at hcond
    obtain hoff | hmatch | ⟨hend, hstart⟩ := h
    · exact absurd hoff hcond.1.1
    · exact absurd hmatch hcond.2
    · dsimp only
      rw [replaceAll_eq_self operatorAfterTest_reads.isBounded operatorAfterTest_finds _ hend,
        replaceAll_eq_self operatorBeforeTest_reads.isBounded operatorBeforeTest_finds _ hstart]

theorem braceSpacing_eq_self {s : Settings} {line : Text} (h : BracesSpaced s line) :
    braceSpacing s line = line := by
  unfold braceSpacing
  split
  · rfl
  · next hcond =>
    rw [isGuarded_eq, Bool.or_eq_true, Bool.not_eq_true', not_or] at hcond
    exact replaceUnquoted_eq_self tightBrace_reads.isBounded tightBrace_finds _
      (h.resolve_left hcond.1)

theorem commaSpacing_eq_self {s : Settings} {line : Text} (h : CommasSpaced s line) :
    commaSpacing s line = line := by
  unfold commaSpacing
  split
  · rfl
  · next hcond =>
    rw [isGuarded_eq, Bool.or_eq_true, Bool.or_eq_true, Bool.not_eq_true', not_or, not_or] at hcond
    exact replaceUnquoted_eq_self tightComma_reads.isBounded tightComma_finds _
      (h.resolve_left hcond.1.1)

/-- A closed line is left alone by every fixer for spaces. -/
theorem spacing_of_isClosed (s : Settings) {line : Text} (h : isClosed line = true) :
    operatorSpacing s line = line ∧ braceSpacing s line = line ∧ commaSpacing s line = line := by
  have hguarded : ∀ rule, isGuarded s rule line = true :=
    fun rule => by rw [isGuarded_eq, h, Bool.or_true]
  simp [operatorSpacing, braceSpacing, commaSpacing, hguarded]

/-- The text of a closed line stays as it is. -/
theorem content_of_isClosed (s : Settings) {line : Text} (h : isClosed line = true) :
    content s line = line := by
  have hbrackets : brackets s line = line := by
    rw [brackets, isGuarded_eq, h, Bool.or_true, if_pos rfl]
  obtain ⟨ho, hb, hc⟩ := spacing_of_isClosed s h
  rw [content, hbrackets, ho, hb, hc]

/-- Nothing is spaced in a line with nothing to space. -/
theorem IsSpaced.eq_self {s : Settings} {line : Text} (h : IsSpaced s line) :
    commaSpacing s (braceSpacing s (operatorSpacing s line)) = line := by
  rcases h with hclosed | ⟨ho, hb, hc⟩
  · obtain ⟨ho, hb, hc⟩ := spacing_of_isClosed s hclosed
    rw [ho, hb, hc]
  · rw [operatorSpacing_eq_self ho, braceSpacing_eq_self hb, commaSpacing_eq_self hc]

/-! ## What the fixers for spaces leave to each other -/

/-- The fixer for braces puts in spaces behind the words before them, and nothing else. -/
theorem braceSpacing_inserted (s : Settings) (line : Text) :
    Rewritten (IsSpaceAfter isBraceWordEnd) [] line (braceSpacing s line) := by
  unfold braceSpacing
  split
  · exact .refl [] line
  · exact (tightBrace_taken_apart line).1

theorem commaSpacing_inserted (s : Settings) (line : Text) :
    Rewritten (IsSpaceAfter isComma) [] line (commaSpacing s line) := by
  unfold commaSpacing
  split
  · exact .refl [] line
  · exact (tightComma_taken_apart line).1

/-- A regular-expression operator stays one. -/
theorem hasMatchOperator_of_inserted (hk : k '=' = false) {p t u : Text}
    (h : Rewritten (IsSpaceAfter k) p t u) (hmatch : hasMatchOperator t = true) :
    hasMatchOperator u = true := by
  rw [hasMatchOperator, contains_iff (by simp)] at hmatch ⊢
  have hnext : ∀ {p t u : Text}, Rewritten (IsSpaceAfter k) p t u → p.getLast? = some '=' →
      t.head? = some '~' →
      u.head? = some '~' := by
    intro p t u h hlast hhead
    cases h with
    | nil => simp at hhead
    | keep c h => simpa using hhead
    | edit hP h =>
      obtain ⟨-, -, c, hc, hkc⟩ := hP
      obtain rfl : '=' = c := by simpa [hlast] using hc
      simp [hk] at hkc
  -- no space comes between `=` and `~`
  induction h with
  | nil p => simp at hmatch
  | @keep p t u c h ih =>
    rcases List.infix_cons_iff.mp hmatch with hpre | hlater
    · obtain ⟨y, hy⟩ := hpre
      obtain ⟨rfl, rfl⟩ := List.cons.inj hy
      have hhead := hnext h (by simp) (by simp)
      cases u with
      | nil => simp at hhead
      | cons d u =>
        obtain rfl : d = '~' := by simpa using hhead
        exact (List.prefix_append ['=', '~'] u).isInfix
    · exact (ih hlater).trans (List.suffix_cons c u).isInfix
  | @edit p a b t u hP h ih =>
    obtain ⟨rfl, rfl, -⟩ := hP
    exact (ih hmatch).trans (List.suffix_cons ' ' u).isInfix

/-- Operators that are spaced stay so when spaces are put in elsewhere. -/
theorem OperatorsSpaced.of_inserted {s : Settings} {t u : Text}
    (hk : k '=' = false ∧ k '\\' = false) (h : Rewritten (IsSpaceAfter k) [] t u)
    (ht : OperatorsSpaced s t) : OperatorsSpaced s u := by
  have hslash : ∀ c, k c = true → c ≠ '\\' := by
    rintro c hc rfl
    simp [hk.2] at hc
  rcases ht with hoff | hmatch | ⟨hend, hstart⟩
  · exact .inl hoff
  · exact .inr (.inl (hasMatchOperator_of_inserted hk.1 h hmatch))
  · exact .inr (.inr ⟨hend.of_inserted testEndWord_isTight hslash (fun _ _ _ _ h => h) h,
      hstart.of_inserted testStartWord_isTight hslash (fun _ _ _ _ h => h) h⟩)

/-- Behind their fixer operators are spaced. -/
theorem operatorSpacing_spaced (s : Settings) {line : Text} (h : isClosed line = false) :
    OperatorsSpaced s (operatorSpacing s line) := by
  unfold operatorSpacing
  split
  · next hcond =>
    rw [isGuarded_eq, h, Bool.or_false, Bool.or_eq_true, Bool.not_eq_true'] at hcond
    exact hcond.imp_right .inl
  · dsimp only
    have hend := operatorAfterTest_taken_apart line
    have hstart :=
      operatorBeforeTest_taken_apart
        (replaceAll operatorAfterTest (fun op => [']', ']', ' '] ++ op) line)
    refine .inr (.inr ⟨?_, hstart.2⟩)
    exact hend.2.of_inserted testEndWord_isTight (by rintro c hc rfl; simp [isOperatorEnd] at hc)
      (fun _ _ _ _ h => h) hstart.1

theorem braceSpacing_spaced (s : Settings) {line : Text} (h : isClosed line = false) :
    BracesSpaced s (braceSpacing s line) := by
  unfold braceSpacing
  split
  · next hcond =>
    rw [isGuarded_eq, h, Bool.or_false, Bool.not_eq_true'] at hcond
    exact .inl hcond
  · exact .inr (tightBrace_taken_apart line).2

/-- The fixer for commas leaves braces spaced. -/
theorem BracesSpaced.commaSpacing {s : Settings} {line : Text} (h : BracesSpaced s line) :
    BracesSpaced s (commaSpacing s line) := by
  refine h.imp_right fun hsettled => ?_
  refine hsettled.of_inserted braceWord_isTight (by rintro c hc rfl; simp [isComma] at hc) ?_
    (commaSpacing_inserted s line)
  intro c before w hc hw
  obtain rfl : c = ',' := by simpa [isComma] using hc
  refine braceWord_isTight.edge hw fun d hd => ?_
  obtain rfl := Option.mem_some.mp hd
  rfl

/-- A brace expansion keeps all fixers from its line. -/
theorem isClosed_of_hasBraceExpansion {line : Text} (h : hasBraceExpansion line = true) :
    isClosed line = true := by
  rw [isClosed, isProtected_eq, h]
  simp

theorem commaSpacing_spaced (s : Settings) {line : Text} (h : isClosed line = false) :
    CommasSpaced s (commaSpacing s line) := by
  unfold commaSpacing
  split
  · next hcond =>
    rw [isGuarded_eq, h, Bool.or_false, Bool.or_eq_true, Bool.not_eq_true'] at hcond
    rcases hcond with hoff | hexpansion
    · exact .inl hoff
    · simp [isClosed_of_hasBraceExpansion hexpansion] at h
  · exact .inr (tightComma_taken_apart line).2

/-- Once the fixers for spaces are done with a line it has nothing to space. -/
theorem isSpaced_spacing (s : Settings) (line : Text) :
    IsSpaced s (commaSpacing s (braceSpacing s (operatorSpacing s line))) := by
  -- a fixer that holds back from a line makes the later ones hold back too
  by_cases hline : isClosed line = true
  · obtain ⟨ho, hb, hc⟩ := spacing_of_isClosed s hline
    rw [ho, hb, hc]
    exact .inl hline
  have ho := operatorSpacing_spaced s (by simpa using hline)
  generalize operatorSpacing s line = line₁ at ho ⊢
  by_cases hline₁ : isClosed line₁ = true
  · obtain ⟨-, hb, hc⟩ := spacing_of_isClosed s hline₁
    rw [hb, hc]
    exact .inl hline₁
  have hb := braceSpacing_spaced s (by simpa using hline₁)
  replace ho := ho.of_inserted (by decide) (braceSpacing_inserted s line₁)
  generalize braceSpacing s line₁ = line₂ at ho hb ⊢
  by_cases hline₂ : isClosed line₂ = true
  · rw [(spacing_of_isClosed s hline₂).2.2]
    exact .inl hline₂
  have hc := commaSpacing_spaced s (by simpa using hline₂)
  exact .inr ⟨ho.of_inserted (by decide) (commaSpacing_inserted s line₂), hb.commaSpacing, hc⟩

end ShellStyle.Fix
