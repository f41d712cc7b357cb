import ShellStyle.Proofs.Spacing

/-!
# Seams

A tight word has a seam: the place where its fixer puts the missing space. A fixer for spaces is
described by its seams alone: what it makes of a line is the line with one space in each of them
(`Parted`). Where a seam is depends on the word around it, on the character before the word and on
the strings of the line, and the spaces of another fixer change none of that, so two fixers may put
in their spaces in any order (`Parted.diamond`).
-/

namespace ShellStyle.Fix

open Text Line

/-! ## Cuts of tight words -/

/-- Ways to cut words in two, by the character before them. -/
abbrev CutKind :=
  Option Char → Text → Text → Prop

/-- Double brackets and the list operator behind them. -/
def testEndCut : CutKind := fun _ a b =>
  a = [']', ']'] ∧ (b = ['&', '&'] ∨ b = ['|', '|'])

/-- A list operator and the double brackets behind it. -/
def testStartCut : CutKind := fun _ a b =>
  (a = ['&', '&'] ∨ a = ['|', '|']) ∧ b = ['[', '[']

/-- A closing parenthesis, `then` or `do`, and the brace behind it. -/
def braceCut : CutKind := fun before a b =>
  (a = [')'] ∨ (a = ['t', 'h', 'e', 'n'] ∨ a = ['d', 'o']) ∧ ∀ c ∈ before, isWordChar c = false) ∧
    b = ['{']

/-- A comma and something other than a blank. -/
def commaCut : CutKind := fun _ a b =>
  a = [','] ∧ ∃ c, isBlank c = false ∧ b = [c]

/-- The words of a kind are those that can be cut, each in one place, behind a character of the
class `k`. -/
structure Cuts (kind : WordKind) (k : Char → Bool) (cut : CutKind) : Prop where
  tight : IsTight kind
  word : ∀ {before w}, kind before w ↔ ∃ a b, w = a ++ b ∧ cut before a b
  last : ∀ {before a b}, cut before a b → ∃ c ∈ a.getLast?, k c = true
  behind : ∀ {before a b}, cut before a b → b ≠ []
  unique : ∀ {before a b a' b' t}, cut before a b → cut before a' b' → a ++ b <+: t →
    a' ++ b' <+: t → a' = a

variable {α : Type} {m : Matcher α} {kind : WordKind} {k : Char → Bool} {cut : CutKind}

/-- A cut behind a character: the part before it ends in the character. -/
theorem Cuts.exists_front (hcuts : Cuts kind k cut) {before : Option Char} {p x a b : Text}
    {c : Char} (heq : p ++ [c] = x ++ a) (hcut : cut before a b) :
    ∃ front, a = front ++ [c] ∧ p = x ++ front := by
  obtain ⟨d, hd, -⟩ := hcuts.last hcut
  obtain ⟨front, rfl⟩ := List.getLast?_eq_some_iff.mp hd
  obtain ⟨rfl, rfl⟩ : p = x ++ front ∧ c = d := by simpa [← List.append_assoc] using heq
  exact ⟨front, rfl, rfl⟩

/-- Behind its brackets, the end of a test is cut from the operator. -/
theorem testEndCut_cuts : Cuts testEndWord isTestEnd testEndCut where
  tight := testEndWord_isTight
  word := by
    intro before w
    constructor
    · rintro (rfl | rfl)
      · exact ⟨[']', ']'], ['&', '&'], rfl, rfl, .inl rfl⟩
      · exact ⟨[']', ']'], ['|', '|'], rfl, rfl, .inr rfl⟩
    · rintro ⟨a, b, rfl, rfl, rfl | rfl⟩
      · exact .inl rfl
      · exact .inr rfl
  last := by
    rintro before a b ⟨rfl, -⟩
    exact ⟨']', rfl, rfl⟩
  behind := by
    rintro before a b ⟨-, rfl | rfl⟩ <;> simp
  unique := by
    rintro before a b a' b' t ⟨rfl, -⟩ ⟨rfl, -⟩ - -
    rfl

theorem testStartCut_cuts : Cuts testStartWord isOperatorEnd testStartCut where
  tight := testStartWord_isTight
  word := by
    intro before w
    constructor
    · rintro (rfl | rfl)
      · exact ⟨['&', '&'], ['[', '['], rfl, .inl rfl, rfl⟩
      · exact ⟨['|', '|'], ['[', '['], rfl, .inr rfl, rfl⟩
    · rintro ⟨a, b, rfl, rfl | rfl, rfl⟩
      · exact .inl rfl
      · exact .inr rfl
  last := by
    rintro before a b ⟨rfl | rfl, -⟩
    · exact ⟨'&', rfl, rfl⟩
    · exact ⟨'|', rfl, rfl⟩
  behind := by
    rintro before a b ⟨-, rfl⟩
    simp
  unique := by
    rintro before a b a' b' t ⟨rfl | rfl, rfl⟩ ⟨rfl | rfl, rfl⟩ ⟨y, rfl⟩ h <;> simp_all

theorem braceCut_cuts : Cuts braceWord isBraceWordEnd braceCut where
  tight := braceWord_isTight
  word := by
    intro before w
    constructor
    · rintro (rfl | ⟨rfl | rfl, hbefore⟩)
      · exact ⟨[')'], ['{'], rfl, .inl rfl, rfl⟩
      · exact ⟨['t', 'h', 'e', 'n'], ['{'], rfl, .inr ⟨.inl rfl, hbefore⟩, rfl⟩
      · exact ⟨['d', 'o'], ['{'], rfl, .inr ⟨.inr rfl, hbefore⟩, rfl⟩
    · rintro ⟨a, b, rfl, rfl | ⟨rfl | rfl, hbefore⟩, rfl⟩
      · exact .inl rfl
      · exact .inr ⟨.inl rfl, hbefore⟩
      · exact .inr ⟨.inr rfl, hbefore⟩
  last := by
    rintro before a b ⟨rfl | ⟨rfl | rfl, -⟩, -⟩
    · exact ⟨')', rfl, rfl⟩
    · exact ⟨'n', rfl, rfl⟩
    · exact ⟨'o', rfl, rfl⟩
  behind := by
    rintro before a b ⟨-, rfl⟩
    simp
  unique := by
    rintro before a b a' b' t ⟨rfl | ⟨rfl | rfl, -⟩, rfl⟩ ⟨rfl | ⟨rfl | rfl, -⟩, rfl⟩ ⟨y, rfl⟩ h <;>
      simp_all

theorem commaCut_cuts : Cuts commaWord isComma commaCut where
  tight := commaWord_isTight
  word := by
    intro before w
    constructor
    · rintro ⟨c, hc, rfl⟩
      exact ⟨[','], [c], rfl, rfl, c, hc, rfl⟩
    · rintro ⟨a, b, rfl, rfl, c, hc, rfl⟩
      exact ⟨c, hc, rfl⟩
  last := by
    rintro before a b ⟨rfl, -⟩
    exact ⟨',', rfl, rfl⟩
  behind := by
    rintro before a b ⟨-, c, -, rfl⟩
    simp
  unique := by
    rintro before a b a' b' t ⟨rfl, -⟩ ⟨rfl, -⟩ - -
    rfl

/-! ## Spaces in every seam -/

/-- A word begins behind `x` and can be cut between `p` and `t`. -/
def IsCutFrom (cut : CutKind) (x p t : Text) : Prop :=
  ∃ a b, p = x ++ a ∧ b <+: t ∧ cut x.getLast? a b

/-- The first part of a cut word is not empty. -/
theorem Cuts.length_lt (hcuts : Cuts kind k cut) {x p t : Text} (h : IsCutFrom cut x p t) :
    x.length < p.length := by
  obtain ⟨a, b, rfl, -, hcut⟩ := h
  obtain ⟨c, hc, -⟩ := hcuts.last hcut
  have ha : 0 < a.length := List.length_pos_of_mem (List.mem_of_getLast? hc)
  rw [List.length_append]
  omega

/-- The characters on both sides of a cut are characters of the word. -/
theorem Cuts.ends (hcuts : Cuts kind k cut) {x p t : Text} (h : IsCutFrom cut x p t) :
    ∃ a b c d, cut x.getLast? a b ∧ c ∈ a.getLast? ∧ c ∈ p.getLast? ∧ d ∈ b.head? ∧
      d ∈ t.head? := by
  obtain ⟨a, b, rfl, ⟨y, rfl⟩, hcut⟩ := h
  obtain ⟨c, hc, -⟩ := hcuts.last hcut
  obtain ⟨d, rest, rfl⟩ := List.exists_cons_of_ne_nil (hcuts.behind hcut)
  have hlast : c ∈ (x ++ a).getLast? := by
    rw [Option.mem_def] at hc ⊢
    rw [List.getLast?_append, hc]
    rfl
  exact ⟨a, d :: rest, c, d, hcut, hc, hlast, rfl, rfl⟩

/-- Where a word can be cut there are no blanks, and a character of the class stands before the
cut. -/
theorem Cuts.solid (hcuts : Cuts kind k cut) {x p t : Text} (h : IsCutFrom cut x p t) :
    (∃ c ∈ p.getLast?, k c = true ∧ isBlank c = false) ∧ ∃ d ∈ t.head?, isBlank d = false := by
  obtain ⟨a, b, c, d, hcut, hca, hcp, hdb, hdt⟩ := hcuts.ends h
  have hsolid := (hcuts.tight.solid (hcuts.word.mpr ⟨a, b, rfl, hcut⟩)).2
  obtain ⟨e, he, hk⟩ := hcuts.last hcut
  obtain rfl : c = e := Option.mem_unique hca he
  exact ⟨⟨c, hcp, hk, hsolid c (List.mem_append_left _ (List.mem_of_getLast? hca))⟩,
    d, hdt, hsolid d (List.mem_append_right _ (List.mem_of_head? hdb))⟩

/-- A seam: the place in a word where it can be cut, unless the word is excused by where it
begins. -/
def IsSeam (cut : CutKind) (excused : QuoteState → Prop) (p t : Text) : Prop :=
  ∃ x, IsCutFrom cut x p t ∧ ¬ excused (QuoteState.start.run x)

/-- Before a seam stands a character of the class. -/
theorem Cuts.last_of_isSeam (hcuts : Cuts kind k cut) {excused : QuoteState → Prop} {p t : Text}
    (h : IsSeam cut excused p t) : ∃ c ∈ p.getLast?, k c = true := by
  obtain ⟨x, hcut, -⟩ := h
  obtain ⟨⟨c, hc, hk, -⟩, -⟩ := hcuts.solid hcut
  exact ⟨c, hc, hk⟩

/-- A text behind the prefix `p`, and the text with one space in each of its seams. -/
inductive Parted (seam : Text → Text → Prop) : Text → Text → Text → Prop
  | nil (p : Text) : Parted seam p [] []
  | keep {p t u : Text} (c : Char) (hno : ¬ seam (p ++ [c]) t) (h : Parted seam (p ++ [c]) t u) :
      Parted seam p (c :: t) (c :: u)
  | space {p t u : Text} (c : Char) (hseam : seam (p ++ [c]) t) (h : Parted seam (p ++ [c]) t u) :
      Parted seam p (c :: t) (c :: ' ' :: u)

namespace Parted

variable {seam : Text → Text → Prop}

/-- The seams settle what comes of a text. -/
theorem unique {p t u v : Text} (h : Parted seam p t u) (h' : Parted seam p t v) : u = v := by
  induction h generalizing v with
  | nil p =>
    cases h'
    rfl
  | keep c hno h ih =>
    cases h' with
    | keep _ _ h' => rw [ih h']
    | space _ hseam h' => exact absurd hseam hno
  | space c hseam h ih =>
    cases h' with
    | keep _ hno h' => exact absurd hseam hno
    | space _ _ h' => rw [ih h']

/-- A piece without seams is kept. -/
theorem append {p a t u : Text} (hno : ∀ a₁ a₂, a = a₁ ++ a₂ → a₁ ≠ [] → ¬ seam (p ++ a₁) (a₂ ++ t))
    (h : Parted seam (p ++ a) t u) : Parted seam p (a ++ t) (a ++ u) := by
  induction a generalizing p with
  | nil => simpa using h
  | cons c a ih =>
    refine .keep c (hno [c] a rfl (by simp)) (ih (fun a₁ a₂ ha _ => ?_) (by simpa using h))
    simpa using hno (c :: a₁) a₂ (by rw [ha]; rfl) (by simp)

/-- A piece with one seam gets one space. -/
theorem append_space {p a b t u : Text} (ha : a ≠ []) (hseam : seam (p ++ a) (b ++ t))
    (hno : ∀ a₁ a₂, a ++ b = a₁ ++ a₂ → a₁ ≠ [] → a₁ ≠ a → ¬ seam (p ++ a₁) (a₂ ++ t))
    (h : Parted seam (p ++ (a ++ b)) t u) : Parted seam p (a ++ b ++ t) (a ++ [' '] ++ b ++ u) := by
  obtain ⟨front, c, rfl⟩ := (List.eq_nil_or_concat a).resolve_left ha
  rw [List.concat_eq_append] at *
  -- from behind: the rest of the piece, the space in the seam, and the piece up to there
  have hbehind : Parted seam (p ++ front ++ [c]) (b ++ t) (b ++ u) := by
    refine .append (fun a₁ a₂ hcut hne => ?_) (by simpa using h)
    simpa using hno (front ++ [c] ++ a₁) a₂ (by rw [hcut]; simp) (by simp) (by simp [hne])
  have hhere : Parted seam (p ++ front) (c :: (b ++ t)) (c :: ' ' :: (b ++ u)) :=
    .space c (by simpa using hseam) hbehind
  have hfront := Parted.append (a := front) (fun a₁ a₂ hcut hne => ?_) hhere
  · simpa using hfront
  · have hshort : a₁ ≠ front ++ [c] := by
      rintro rfl
      have hlength := congrArg List.length hcut
      simp only [List.length_append, List.length_singleton] at hlength
      omega
    simpa using hno a₁ (a₂ ++ c :: b) (by rw [hcut]; simp) hne hshort

end Parted

/-! ## The fixers -/

/-- No word begins in `p` and is cut behind it. -/
def IsFresh (cut : CutKind) (p t : Text) : Prop :=
  ∀ x t₁ t₂, t = t₁ ++ t₂ → t₁ ≠ [] → IsCutFrom cut x (p ++ t₁) t₂ → p.length ≤ x.length

/-- A cut behind a fresh place lies in a word that stands behind it as a whole. -/
theorem IsFresh.exists_word (hcuts : Cuts kind k cut) {p t t₁ t₂ x : Text}
    (hfresh : IsFresh cut p t) (ht : t = t₁ ++ t₂) (hne : t₁ ≠ [])
    (h : IsCutFrom cut x (p ++ t₁) t₂) :
    ∃ x' a b y, x = p ++ x' ∧ t₁ = x' ++ a ∧ t = x' ++ (a ++ b ++ y) ∧ cut x.getLast? a b ∧
      kind x.getLast? (a ++ b) := by
  have hle := hfresh x t₁ t₂ ht hne h
  obtain ⟨a, b, hx, ⟨y, rfl⟩, hcut⟩ := h
  obtain ⟨x', rfl, rfl⟩ := exists_of_append_eq hx hle
  exact ⟨x', a, b, y, rfl, rfl, by simp [ht], hcut, hcuts.word.mpr ⟨a, b, rfl, hcut⟩⟩

/-- Where nothing is found no word begins. -/
theorem IsFresh.of_none (hcuts : Cuts kind k cut) (hfinds : Finds m kind) {p t : Text}
    (hfresh : IsFresh cut p t) (hm : m p.getLast? t = none) {x t₁ t₂ : Text} (ht : t = t₁ ++ t₂)
    (hne : t₁ ≠ []) (h : IsCutFrom cut x (p ++ t₁) t₂) : p.length < x.length := by
  obtain ⟨x', a, b, y, rfl, -, hword, -, hkind⟩ := hfresh.exists_word hcuts ht hne h
  cases x' with
  | nil =>
    have hfound := (hfinds p.getLast? t).mpr ⟨a ++ b, y, hword, by simpa using hkind⟩
    simp [hm] at hfound
  | cons d x' => simp

/-- The only word that begins in a hit is the one that was found. -/
theorem IsFresh.of_hit (hcuts : Cuts kind k cut) {p a₁ a₂ t : Text}
    (hfresh : IsFresh cut p (a₁ ++ a₂ ++ t)) (hhere : IsCutFrom cut p (p ++ a₁) (a₂ ++ t))
    (halone : ∀ before x w y, a₁ ++ a₂ ++ t = x ++ (w ++ y) → kind before w → x ≠ [] →
      (a₁ ++ a₂).length ≤ x.length)
    {x t₁ t₂ : Text} (ht : a₁ ++ a₂ ++ t = t₁ ++ t₂) (hne : t₁ ≠ [])
    (h : IsCutFrom cut x (p ++ t₁) t₂) :
    x = p ∧ t₁ = a₁ ∨ (p ++ (a₁ ++ a₂)).length ≤ x.length := by
  obtain ⟨x', a, b, y, rfl, rfl, hword, hcut, hkind⟩ := hfresh.exists_word hcuts ht hne h
  by_cases hx : x' = []
  · subst hx
    obtain ⟨a', b', ha, ⟨y', hy⟩, hcut'⟩ := hhere
    obtain rfl := List.append_cancel_left ha
    rw [List.append_nil] at hcut
    have hpre : a ++ b <+: a₁ ++ a₂ ++ t := ⟨y, by simp [hword]⟩
    have hpre' : a₁ ++ b' <+: a₁ ++ a₂ ++ t := ⟨y', by simp [hy]⟩
    exact .inl ⟨List.append_nil p, hcuts.unique hcut' hcut hpre' hpre⟩
  · have hbeyond := halone _ x' (a ++ b) y hword hkind hx
    refine .inr ?_
    simp only [List.length_append] at hbeyond ⊢
    omega

/-- A search that takes apart each hit where the word it reads is cut, but for those that are
excused, puts a space in each seam. -/
theorem parted_of_scanned {excused : QuoteState → Prop} {R : Text → Text → α → Text → Prop}
    (hcuts : Cuts kind k cut) (hfinds : Finds m kind)
    (hR : ∀ p a t v b, m p.getLast? (a ++ t) = some (v, a.length) → R p a v b →
      ∃ a₁ a₂, a = a₁ ++ a₂ ∧ IsCutFrom cut p (p ++ a₁) (a₂ ++ t) ∧
        (∀ before x w y, a ++ t = x ++ (w ++ y) → kind before w → x ≠ [] → a.length ≤ x.length) ∧
          (b = a₁ ++ [' '] ++ a₂ ∧ ¬ excused (QuoteState.start.run p) ∨
            b = a ∧ excused (QuoteState.start.run p)))
    {t u : Text} (h : Scanned m R [] t u) : Parted (IsSeam cut excused) [] t u := by
  suffices hbehind : ∀ {p t u : Text}, Scanned m R p t u → IsFresh cut p t →
      Parted (IsSeam cut excused) p t u from
    hbehind h fun _ _ _ _ _ _ => Nat.zero_le _
  intro p t u h
  induction h with
  | nil p => exact fun _ => .nil p
  | @keep p t u c hm h ih =>
    intro hfresh
    refine .keep c ?_ (ih fun x t₁ t₂ ht _ hcut => ?_)
    · rintro ⟨x, hcut, -⟩
      have hbegin := hfresh.of_none hcuts hfinds hm (show c :: t = [c] ++ t from rfl) (by simp) hcut
      have hend := hcuts.length_lt hcut
      rw [List.length_append, List.length_singleton] at hend
      omega
    · have hct : c :: t = c :: t₁ ++ t₂ := congrArg (List.cons c) ht
      rw [List.length_append, List.length_singleton]
      exact hfresh.of_none hcuts hfinds hm hct (by simp) (by simpa using hcut)
  | @hit p a b t u v hm hb h ih =>
    intro hfresh
    obtain ⟨a₁, a₂, rfl, hhere, halone, hcases⟩ := hR p a t v b hm hb
    have hnext : Parted (IsSeam cut excused) (p ++ (a₁ ++ a₂)) t u := by
      refine ih fun x t₁ t₂ ht hne hcut => ?_
      have hcut' : IsCutFrom cut x (p ++ (a₁ ++ a₂ ++ t₁)) t₂ := by simpa using hcut
      refine (hfresh.of_hit hcuts hhere halone (by simp [ht]) (by simp [hne]) hcut').resolve_left ?_
      rintro ⟨-, hshort⟩
      simp [hne] at hshort
    -- in the hit there is at most the seam of the word that was found
    have honly : ∀ t₁ t₂, a₁ ++ a₂ = t₁ ++ t₂ → t₁ ≠ [] → IsSeam cut excused (p ++ t₁) (t₂ ++ t) →
        t₁ = a₁ ∧ ¬ excused (QuoteState.start.run p) := by
      rintro t₁ t₂ ht hne ⟨x, hcut, hplace⟩
      rcases hfresh.of_hit hcuts hhere halone (by rw [ht, List.append_assoc]) hne
        hcut with ⟨rfl, ht₁⟩ | hle
      · exact ⟨ht₁, hplace⟩
      · have hlt := hcuts.length_lt hcut
        rw [ht] at hle
        simp only [List.length_append] at hle hlt
        omega
    rcases hcases with ⟨rfl, hplace⟩ | ⟨rfl, hplace⟩
    · have ha₁ : a₁ ≠ [] := by
        rintro rfl
        simpa using hcuts.length_lt hhere
      exact .append_space ha₁ ⟨p, hhere, hplace⟩
        (fun t₁ t₂ ht hne hother h => hother (honly t₁ t₂ ht hne h).1) hnext
    · exact .append (fun t₁ t₂ ht hne h => (honly t₁ t₂ ht hne h).2 hplace) hnext

/-- A matcher whose hits begin with a word that is cut, and a replacement that puts a space where it
is. -/
def Divides (m : Matcher α) (cut : CutKind) (piece replacement : α → Text) : Prop :=
  ∀ before t v n, m before t = some (v, n) →
    ∃ a₁ a₂ b, piece v = a₁ ++ a₂ ∧ replacement v = a₁ ++ [' '] ++ a₂ ∧
    a₁ ++ b <+: t ∧ cut before a₁ b

variable {piece replacement : α → Text}

/-- A piece that is read is a word with its cut, and is replaced by the word with a space there. -/
theorem Divides.isCutFrom (hdivides : Divides m cut piece replacement) {p t : Text} {v : α}
    {n : Nat} (h : m p.getLast? (piece v ++ t) = some (v, n)) :
    ∃ a₁ a₂, piece v = a₁ ++ a₂ ∧ replacement v = a₁ ++ [' '] ++ a₂ ∧
      IsCutFrom cut p (p ++ a₁) (a₂ ++ t) := by
  obtain ⟨a₁, a₂, b, hpiece, hreplacement, hpre, hcut⟩ := hdivides _ _ _ _ h
  rw [hpiece, List.append_assoc, List.prefix_append_right_inj] at hpre
  exact ⟨a₁, a₂, hpiece, hreplacement, a₁, b, rfl, hpre, hcut⟩

/-- A fixer that takes all words apart puts a space into every seam. -/
theorem replaceAll_parted (hm : m.Reads piece) (hfinds : Finds m kind) (hcuts : Cuts kind k cut)
    (happart : ∀ before t v n, m before t = some (v, n) →
      IsTakenApart kind k (piece v) (replacement v))
    (hdivides : Divides m cut piece replacement) (line : Text) :
    Parted (IsSeam cut never) [] line (replaceAll m replacement line) := by
  refine parted_of_scanned hcuts hfinds (fun p a t v b hhit hb => ?_)
    (replaceAll_scanned hm.isBounded replacement line)
  obtain rfl := hm.eq_piece hhit
  obtain ⟨a₁, a₂, hpiece, hreplacement, hcut⟩ := hdivides.isCutFrom hhit
  exact ⟨a₁, a₂, hpiece, hcut, fun _ _ _ _ => (happart _ _ _ _ hhit).alone,
    .inl ⟨hb.trans hreplacement, id⟩⟩

/-- A fixer that spares strings puts a space into every seam outside of them. -/
theorem replaceUnquoted_parted (hm : m.Reads piece) (hfinds : Finds m kind)
    (hcuts : Cuts kind k cut)
    (happart : ∀ before t v n, m before t = some (v, n) →
      IsTakenApart kind k (piece v) (replacement v))
    (hdivides : Divides m cut piece replacement) (line : Text) :
    Parted (IsSeam cut inString) [] line
      (replaceUnquoted m (fun v => some (replacement v)) line) := by
  refine parted_of_scanned hcuts hfinds (fun p a t v b hhit hb => ?_)
    (replaceUnquoted_scanned hm.isBounded (fun v => some (replacement v)) line)
  obtain rfl := hm.eq_piece hhit
  obtain ⟨a₁, a₂, hpiece, hreplacement, hcut⟩ := hdivides.isCutFrom hhit
  refine ⟨a₁, a₂, hpiece, hcut, fun _ _ _ _ => (happart _ _ _ _ hhit).alone, ?_⟩
  rw [isBare_of_isPlain (happart _ _ _ _ hhit).plain.1] at hb
  cases hopen : (QuoteState.start.run p).isOpen with
  | false =>
    rw [hopen] at hb
    exact .inl ⟨hb.trans hreplacement, by simp [inString, hopen]⟩
  | true =>
    rw [hopen] at hb
    exact .inr ⟨hb, hopen⟩

/-- Every seam behind a test gets a space. -/
theorem operatorAfterTest_parted (line : Text) :
    Parted (IsSeam testEndCut never) [] line
      (replaceAll operatorAfterTest (fun op => [']', ']', ' '] ++ op) line) := by
  refine replaceAll_parted operatorAfterTest_reads operatorAfterTest_finds testEndCut_cuts
    (fun _ _ _ _ h => testEnd_isTakenApart (operatorAfterTest_spec h).2.1)
      (fun before t op n h => ?_) line
  obtain ⟨-, hop, hpre⟩ := operatorAfterTest_spec h
  exact ⟨[']', ']'], op, op, rfl, rfl, hpre, rfl, hop⟩

theorem operatorBeforeTest_parted (line : Text) :
    Parted (IsSeam testStartCut never) [] line
      (replaceAll operatorBeforeTest (fun op => op ++ [' ', '[', '[']) line) := by
  refine replaceAll_parted operatorBeforeTest_reads operatorBeforeTest_finds testStartCut_cuts
    (fun _ _ _ _ h => testStart_isTakenApart (operatorBeforeTest_spec h).2.1)
      (fun before t op n h => ?_) line
  obtain ⟨-, hop, hpre⟩ := operatorBeforeTest_spec h
  exact ⟨op, ['[', '['], ['[', '['], rfl, by simp, hpre, hop, rfl⟩

theorem tightBrace_parted (line : Text) :
    Parted (IsSeam braceCut inString) [] line
      (replaceUnquoted tightBrace (fun word => some (word ++ [' ', '{'])) line) := by
  refine replaceUnquoted_parted tightBrace_reads tightBrace_finds braceCut_cuts
    (fun _ _ _ _ h => brace_isTakenApart ((tightBrace_spec h).2.2.imp_right And.left))
    (fun before t word n h => ?_) line
  obtain ⟨-, hpre, hword⟩ := tightBrace_spec h
  exact ⟨word, ['{'], ['{'], rfl, by simp, hpre, hword, rfl⟩

theorem tightComma_parted (line : Text) :
    Parted (IsSeam commaCut inString) [] line
      (replaceUnquoted tightComma (fun _ => some [',', ' ']) line) := by
  refine replaceUnquoted_parted tightComma_reads tightComma_finds commaCut_cuts
    (fun _ _ _ _ _ => comma_isTakenApart) (fun before t _ n h => ?_) line
  obtain ⟨-, c, rest, hc, rfl⟩ := tightComma_spec.mp h
  exact ⟨[','], [], [c], rfl, rfl, ⟨rest, rfl⟩, rfl, c, hc, rfl⟩

/-! ## Seams and the spaces of another fixer -/

/-- A text with spaces put in behind characters of the class `k`, read from its end. -/
inductive Padded (k : Char → Bool) : Text → Text → Prop
  | nil : Padded k [] []
  | keep {p q : Text} (c : Char) (h : Padded k p q) : Padded k (p ++ [c]) (q ++ [c])
  | space {p q : Text} {c : Char} (hlast : c ∈ p.getLast?) (hc : k c = true) (h : Padded k p q) :
      Padded k p (q ++ [' '])

namespace Padded

/-- Where one text ends in a character that is neither of the class nor a blank, so does the
other. -/
theorem exists_concat {p q : Text} {d : Char} (hk : k d = false) (hblank : isBlank d = false)
    (h : Padded k p q) :
    (∀ x, p = x ++ [d] → ∃ x', q = x' ++ [d] ∧ Padded k x x') ∧
      ∀ x', q = x' ++ [d] → ∃ x, p = x ++ [d] ∧ Padded k x x' := by
  cases h with
  | nil => simp
  | @keep p q c h =>
    constructor
    · intro x hx
      obtain ⟨rfl, rfl⟩ : p = x ∧ c = d := by simpa using hx
      exact ⟨q, rfl, h⟩
    · intro x' hx
      obtain ⟨rfl, rfl⟩ : q = x' ∧ c = d := by simpa using hx
      exact ⟨p, rfl, h⟩
  | @space p q c hlast hc h =>
    -- one text ends in a character of the class and the other in a space: `d` is neither
    constructor
    · rintro x rfl
      obtain rfl : d = c := by simpa using hlast
      simp [hk] at hc
    · intro x' hx
      obtain ⟨-, rfl⟩ : q = x' ∧ ' ' = d := by simpa using hx
      simp [isBlank] at hblank

/-- Where one text ends in a word without blanks and without characters of the class, so does the
other. -/
theorem exists_append {w : Text} (hw : ∀ c ∈ w, k c = false ∧ isBlank c = false) {p q : Text}
    (h : Padded k p q) :
    (∀ x, p = x ++ w → ∃ x', q = x' ++ w ∧ Padded k x x') ∧
      ∀ x', q = x' ++ w → ∃ x, p = x ++ w ∧ Padded k x x' := by
  induction w with
  | nil => simp [h]
  | cons c w ih =>
    obtain ⟨hk, hblank⟩ := hw c List.mem_cons_self
    obtain ⟨hto, hfrom⟩ := ih fun d hd => hw d (List.mem_cons_of_mem c hd)
    constructor
    · intro x hx
      obtain ⟨y, hy, hpad⟩ := hto (x ++ [c]) (by simpa using hx)
      obtain ⟨x', rfl, hpad'⟩ := (hpad.exists_concat hk hblank).1 x rfl
      exact ⟨x', by simpa using hy, hpad'⟩
    · intro x' hx
      obtain ⟨y, hy, hpad⟩ := hfrom (x' ++ [c]) (by simpa using hx)
      obtain ⟨x, rfl, hpad'⟩ := (hpad.exists_concat hk hblank).2 x' rfl
      exact ⟨x, by simpa using hy, hpad'⟩

/-- The spaces are nothing to the quote automaton. -/
theorem run_eq {p q : Text} (hk : k '\\' = false) (h : Padded k p q) :
    QuoteState.start.run q = QuoteState.start.run p := by
  induction h with
  | nil => rfl
  | keep c h ih => rw [QuoteState.run_append, QuoteState.run_append, ih]
  | @space p q c hlast hc h ih =>
    have hslash : c ≠ '\\' := by
      rintro rfl
      simp [hk] at hc
    rw [QuoteState.run_append, ih, ← QuoteState.run_append, run_concat_space hlast hslash]

end Padded

/-- The cuts do not depend on spaces behind characters of the class `k`: those characters may only
stand at the end of a word, and before a word they are as good as a space. -/
structure IsBlind (k : Char → Bool) (cut : CutKind) : Prop where
  slash : k '\\' = false
  apart : ∀ {before a b}, cut before a b → ∀ c ∈ (a ++ b).dropLast, k c = false
  edge : ∀ {c a b}, k c = true → (cut (some ' ') a b ↔ cut (some c) a b)

theorem testEndCut_isBlind (hk : (['\\', ']', '&', '|'].all fun c => !k c) = true) :
    IsBlind k testEndCut := by
  have hnone : k '\\' = false ∧ k ']' = false ∧ k '&' = false ∧ k '|' = false := by simpa using hk
  refine ⟨hnone.1, ?_, fun _ => Iff.rfl⟩
  rintro before a b ⟨rfl, rfl | rfl⟩ <;> simp [hnone]

theorem testStartCut_isBlind (hk : (['\\', '&', '|', '['].all fun c => !k c) = true) :
    IsBlind k testStartCut := by
  have hnone : k '\\' = false ∧ k '&' = false ∧ k '|' = false ∧ k '[' = false := by simpa using hk
  refine ⟨hnone.1, ?_, fun _ => Iff.rfl⟩
  rintro before a b ⟨rfl | rfl, rfl⟩ <;> simp [hnone]

/-- Before `then` and `do` a space is as good as any character that is none of a word. -/
theorem braceCut_isBlind (hk : (['\\', ')', 't', 'h', 'e', 'n', 'd', 'o'].all fun c => !k c) = true)
    (hedge : ∀ c, k c = true → isWordChar c = false) : IsBlind k braceCut := by
  have hnone : k '\\' = false ∧ k ')' = false ∧ k 't' = false ∧ k 'h' = false ∧ k 'e' = false ∧
      k 'n' = false ∧
      k 'd' = false ∧ k 'o' = false := by
    simpa using hk
  refine ⟨hnone.1, ?_, fun {c a b} hc => ?_⟩
  · rintro before a b ⟨rfl | ⟨rfl | rfl, -⟩, rfl⟩ <;> simp [hnone]
  · have hspace : isWordChar ' ' = false := rfl
    simp [braceCut, hspace, hedge c hc]

theorem commaCut_isBlind (hk : (['\\', ','].all fun c => !k c) = true) : IsBlind k commaCut := by
  have hnone : k '\\' = false ∧ k ',' = false := by simpa using hk
  refine ⟨hnone.1, ?_, fun _ => Iff.rfl⟩
  rintro before a b ⟨rfl, c, -, rfl⟩
  simp [hnone]

/-- Spaces that a cut does not see do not change what it cuts. -/
theorem IsBlind.cut_iff (hblind : IsBlind k cut) {x x' a b : Text} (h : Padded k x x') :
    cut x'.getLast? a b ↔ cut x.getLast? a b := by
  cases h with
  | nil => exact Iff.rfl
  | keep c h => simp
  | space hlast hc h =>
    rw [List.getLast?_concat, Option.mem_def.mp hlast]
    exact hblind.edge hc

/-- A word without characters of the class but for its last one begins a text exactly if it begins
the text with the spaces. -/
theorem Parted.isPrefix_iff {seam : Text → Text → Prop}
    (hlast : ∀ p t, seam p t → ∃ c ∈ p.getLast?, k c = true) {b : Text}
    (hb : ∀ c ∈ b.dropLast, k c = false) {p t u : Text} (h : Parted seam p t u) :
    b <+: u ↔ b <+: t := by
  induction h generalizing b with
  | nil p => exact Iff.rfl
  | keep c hno h ih =>
    cases b with
    | nil => simp
    | cons d b =>
      have hb' : ∀ e ∈ b.dropLast, k e = false := fun e he => hb e (by cases b <;> simp_all)
      rw [List.cons_prefix_cons, List.cons_prefix_cons, ih hb']
  | @space p t u c hseam h ih =>
    obtain ⟨e, he, hke⟩ := hlast _ _ hseam
    obtain rfl : c = e := by simpa using he
    match b with
    | [] => simp
    | [d] => simp
    | d :: e :: b =>
      -- a character with a space behind it would have to be the last one of the word
      have hne : d ≠ c := by
        rintro rfl
        simp [hb d (by simp)] at hke
      simp [hne]

/-- The seams of a text are those of the text with the spaces of another fixer. -/
theorem IsBlind.isSeam_iff {k' : Char → Bool} (hblind : IsBlind k' cut) (hcuts : Cuts kind k cut)
    {excused : QuoteState → Prop} {p q t u : Text} {c : Char} (hpad : Padded k' p q)
    (hstart : ∀ b : Text, (∀ d ∈ b.dropLast, k' d = false) → (b <+: u ↔ b <+: t)) :
    IsSeam cut excused (q ++ [c]) u ↔ IsSeam cut excused (p ++ [c]) t := by
  -- the word before its last character, and the text behind the cut
  have hword : ∀ {x y a b : Text}, y ++ [c] = x ++ a → cut x.getLast? a b →
      ∃ front, a = front ++ [c] ∧ y = x ++ front ∧
      (∀ d ∈ front, k' d = false ∧ isBlank d = false) ∧ (b <+: u ↔ b <+: t) := by
    intro x y a b heq hcut
    have hsolid := (hcuts.tight.solid (hcuts.word.mpr ⟨a, b, rfl, hcut⟩)).2
    have hk := hblind.apart hcut
    rw [List.dropLast_append_of_ne_nil (hcuts.behind hcut)] at hk
    obtain ⟨front, rfl, hy⟩ := hcuts.exists_front heq hcut
    exact ⟨front, rfl, hy, fun d hd => ⟨hk d (by simp [hd]), hsolid d (by simp [hd])⟩,
      hstart b fun d hd => hk d (by simp [hd])⟩
  constructor
  · rintro ⟨x', ⟨a, b, heq, hb, hcut⟩, hplace⟩
    obtain ⟨front, rfl, hq, hfront, hbegins⟩ := hword heq hcut
    obtain ⟨x, rfl, hpad'⟩ := (hpad.exists_append hfront).2 x' hq
    exact ⟨x, ⟨front ++ [c], b, by simp, hbegins.mp hb, (hblind.cut_iff hpad').mp hcut⟩,
      by rwa [← hpad'.run_eq hblind.slash]⟩
  · rintro ⟨x, ⟨a, b, heq, hb, hcut⟩, hplace⟩
    obtain ⟨front, rfl, hp, hfront, hbegins⟩ := hword heq hcut
    obtain ⟨x', rfl, hpad'⟩ := (hpad.exists_append hfront).1 x hp
    exact ⟨x', ⟨front ++ [c], b, by simp, hbegins.mpr hb, (hblind.cut_iff hpad').mpr hcut⟩,
      by rwa [hpad'.run_eq hblind.slash]⟩

/-- A fixer that is done with a text up to a seam of its own goes on behind the space of another
fixer. -/
theorem Parted.keep_space {excused : QuoteState → Prop} (hcuts : Cuts kind k cut) {p t u : Text}
    (c : Char) (h : Parted (IsSeam cut excused) (p ++ [c] ++ [' ']) t u) :
    Parted (IsSeam cut excused) p (c :: ' ' :: t) (c :: ' ' :: u) := by
  refine .keep c ?_ (.keep ' ' ?_ h)
  · rintro ⟨x, hcut, -⟩
    obtain ⟨-, d, hd, hblank⟩ := hcuts.solid hcut
    obtain rfl : ' ' = d := by simpa using hd
    simp [isBlank] at hblank
  · rintro ⟨x, hcut, -⟩
    obtain ⟨⟨d, hd, -, hblank⟩, -⟩ := hcuts.solid hcut
    obtain rfl : ' ' = d := by simpa using hd
    simp [isBlank] at hblank

/-- What a fixer does not depend on is not behind its own seams. -/
theorem IsBlind.not_isSeam {k' : Char → Bool} (hblind : IsBlind k' cut) (hcuts : Cuts kind k cut)
    {excused : QuoteState → Prop} {p t : Text} {c : Char} (hc : k' c = true) :
    ¬ IsSeam cut excused (p ++ [c]) t := by
  rintro ⟨x, ⟨a, b, heq, -, hcut⟩, -⟩
  obtain ⟨front, rfl, -⟩ := hcuts.exists_front heq hcut
  have hk := hblind.apart hcut c
  rw [List.dropLast_append_of_ne_nil (hcuts.behind hcut)] at hk
  simp [hk (by simp)] at hc

variable {kind₁ kind₂ : WordKind} {k₁ k₂ : Char → Bool} {cut₁ cut₂ : CutKind}
  {excused₁ excused₂ : QuoteState → Prop}

/-- Where one fixer has put its spaces, the seams of another are where they were. -/
theorem Parted.isSeam_iff (hcuts₁ : Cuts kind₁ k₁ cut₁) (hcuts₂ : Cuts kind₂ k₂ cut₂)
    (hblind : IsBlind k₁ cut₂) {p q t u : Text} {c : Char} (hq : Padded k₁ p q)
    (hu : Parted (IsSeam cut₁ excused₁) (p ++ [c]) t u) :
    IsSeam cut₂ excused₂ (q ++ [c]) u ↔ IsSeam cut₂ excused₂ (p ++ [c]) t :=
  hblind.isSeam_iff hcuts₂ hq fun _ hb => hu.isPrefix_iff (fun _ _ => hcuts₁.last_of_isSeam) hb

/-- Two fixers that do not depend on each other's spaces come to the same text, whichever of them is
first. -/
theorem Parted.diamond (hcuts₁ : Cuts kind₁ k₁ cut₁) (hcuts₂ : Cuts kind₂ k₂ cut₂)
    (hblind₁ : IsBlind k₂ cut₁) (hblind₂ : IsBlind k₁ cut₂) {p t u v : Text}
    (hu : Parted (IsSeam cut₁ excused₁) p t u) (hv : Parted (IsSeam cut₂ excused₂) p t v)
    {q q' : Text} (hq : Padded k₁ p q) (hq' : Padded k₂ p q') :
    ∃ w, Parted (IsSeam cut₂ excused₂) q u w ∧ Parted (IsSeam cut₁ excused₁) q' v w := by
  -- `q` and `q'` are what the two fixers have made of `p`
  induction hu generalizing v q q' with
  | nil p =>
    cases hv
    exact ⟨[], .nil q, .nil q'⟩
  | @keep p t u c hno₁ hu ih =>
    have hseam₂ : IsSeam cut₂ excused₂ (q ++ [c]) u ↔ IsSeam cut₂ excused₂ (p ++ [c]) t :=
      hu.isSeam_iff hcuts₁ hcuts₂ hblind₂ hq
    cases hv with
    | @keep _ _ v _ hno₂ hv =>
      have hseam₁ : IsSeam cut₁ excused₁ (q' ++ [c]) v ↔ IsSeam cut₁ excused₁ (p ++ [c]) t :=
        hv.isSeam_iff hcuts₂ hcuts₁ hblind₁ hq'
      obtain ⟨w, hw₂, hw₁⟩ := ih hv (.keep c hq) (.keep c hq')
      exact ⟨c :: w, .keep c (fun h => hno₂ (hseam₂.mp h)) hw₂,
        .keep c (fun h => hno₁ (hseam₁.mp h)) hw₁⟩
    | @space _ _ v _ hhere hv =>
      obtain ⟨d, hd, hk⟩ := hcuts₂.last_of_isSeam hhere
      obtain ⟨w, hw₂, hw₁⟩ := ih hv (.keep c hq) (.space hd hk (.keep c hq'))
      exact ⟨c :: ' ' :: w, .space c (hseam₂.mpr hhere) hw₂, .keep_space hcuts₁ c hw₁⟩
  | @space p t u c hhere hu ih =>
    obtain ⟨d, hd, hk⟩ := hcuts₁.last_of_isSeam hhere
    cases hv with
    | @keep _ _ v _ hno₂ hv =>
      have hseam₁ : IsSeam cut₁ excused₁ (q' ++ [c]) v ↔ IsSeam cut₁ excused₁ (p ++ [c]) t :=
        hv.isSeam_iff hcuts₂ hcuts₁ hblind₁ hq'
      obtain ⟨w, hw₂, hw₁⟩ := ih hv (.space hd hk (.keep c hq)) (.keep c hq')
      exact ⟨c :: ' ' :: w, .keep_space hcuts₂ c hw₂, .space c (hseam₁.mpr hhere) hw₁⟩
    | @space _ _ v _ hhere₂ hv =>
      obtain rfl : c = d := by simpa using hd
      exact absurd hhere₂ (hblind₂.not_isSeam hcuts₂ hk)

/-- Fixers that put spaces in their seams commute if they do not depend on each other's spaces. -/
theorem parted_comm (hcuts₁ : Cuts kind₁ k₁ cut₁) (hcuts₂ : Cuts kind₂ k₂ cut₂)
    (hblind₁ : IsBlind k₂ cut₁) (hblind₂ : IsBlind k₁ cut₂) {f g : Text → Text}
    (hf : ∀ t, Parted (IsSeam cut₁ excused₁) [] t (f t))
    (hg : ∀ t, Parted (IsSeam cut₂ excused₂) [] t (g t)) (t : Text) : f (g t) = g (f t) := by
  obtain ⟨w, hw₂, hw₁⟩ := (hf t).diamond hcuts₁ hcuts₂ hblind₁ hblind₂ (hg t) .nil .nil
  rw [(hf (g t)).unique hw₁, (hg (f t)).unique hw₂]

end ShellStyle.Fix
