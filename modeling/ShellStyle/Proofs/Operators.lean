import ShellStyle.Proofs.Opener

/-!
# Operators that a scan misses

A scan goes on behind each operator that it meets, so it misses what begins in the middle of one.
Only in a word in quotes is there room for a second operator, and if the first one stands outside of
strings, its word is a string and the second one is in it. An operator outside of strings is missed
only because of one inside a string whose word reaches over the end of the string.
-/

namespace ShellStyle

open Text

/-! ## Hits and what they cover -/

/-- The characters between two places of a text. -/
theorem exists_between {t : Text} {i j : Nat} (hij : i ≤ j) (hj : j ≤ t.length) :
    ∃ a, t.take j = t.take i ++ a ∧ a ++ t.drop j = t.drop i ∧ a.length = j - i := by
  refine ⟨slice t ⟨i, j⟩, (take_append_slice hij).symm, slice_append_drop hij, ?_⟩
  rw [slice, List.length_take, List.length_drop]
  dsimp only
  omega

/-- A character behind the shorter of two beginnings of a text stands in the longer one. -/
theorem exists_cons_of_append_eq {a t x y : Text} {c : Char} (h : a ++ c :: t = x ++ y)
    (hlt : a.length < x.length) :
    ∃ b, x = a ++ c :: b := by
  rcases List.append_eq_append_iff.mp h with ⟨u, rfl, hu⟩ | ⟨u, rfl, -⟩
  · cases u with
    | nil => simp at hlt
    | cons d u =>
      obtain ⟨rfl, -⟩ := List.cons.inj hu
      exact ⟨u, rfl⟩
  · simp only [List.length_append] at hlt
    omega

/-- A place in the middle of a span. -/
def Span.Covers (span : Span) (i : Nat) : Prop :=
  span.start < i ∧ i < span.stop

namespace Matcher

variable {α : Type} {m : Matcher α}

/-- Behind a prefix `p` of a line, a place at which the matcher finds something is a hit or in the
middle of one. -/
theorem hitsFrom_complete (hm : m.IsBounded) (p : Text) (skip : Nat) (t : Text) {i : Nat}
    (hi : p.length + skip ≤ i)
    (hfound : (m ((p ++ t).take i).getLast? ((p ++ t).drop i)).isSome = true) :
    ∃ hit ∈ m.hitsFrom p.getLast? p.length skip t, hit.span.start = i ∨ hit.span.Covers i := by
  induction t generalizing p skip with
  | nil =>
    obtain ⟨⟨a, n⟩, ha⟩ := Option.isSome_iff_exists.mp hfound
    have hbound := hm _ _ _ _ ha
    rw [List.append_nil, List.drop_eq_nil_of_le (by omega), List.length_nil] at hbound
    omega
  | cons c t ih =>
    have hlater : ∀ k, p.length + 1 + k ≤ i →
        ∃ hit ∈ m.hitsFrom (some c) (p.length + 1) k t, hit.span.start = i ∨ hit.span.Covers i := by
      intro k hk
      simpa using ih (p ++ [c]) k (by simpa using hk) (by simpa using hfound)
    cases skip with
    | succ k => exact hlater k (by omega)
    | zero =>
      rw [hitsFrom]
      cases hhere : m p.getLast? (c :: t) with
      | none =>
        have hne : i ≠ p.length := by
          rintro rfl
          simp [hhere] at hfound
        exact hlater 0 (by omega)
      | some found =>
        obtain ⟨a, n⟩ := found
        dsimp only
        -- the place is the start of this hit, in the middle of it, or behind it
        by_cases hstart : i = p.length
        · exact ⟨_, List.mem_cons_self, .inl hstart.symm⟩
        · by_cases hstop : i < p.length + n
          · exact ⟨_, List.mem_cons_self, .inr ⟨show p.length < i by omega, hstop⟩⟩
          · obtain ⟨hit, hmem, hplace⟩ := hlater (n - 1) (by omega)
            exact ⟨hit, List.mem_cons_of_mem _ hmem, hplace⟩

/-- A place of a line at which the matcher finds something is a hit or in the middle of one. -/
theorem hits_complete (hm : m.IsBounded) {t : Text} {i : Nat}
    (hfound : (m (t.take i).getLast? (t.drop i)).isSome = true) :
    ∃ hit ∈ m.hits t, hit.span.start = i ∨ hit.span.Covers i :=
  hitsFrom_complete hm [] 0 t (Nat.zero_le i) hfound

/-- No hit begins in the middle of another one. -/
theorem hitsFrom_apart (p : Text) (skip : Nat) (t : Text) {hit hit' : Hit α}
    (h : hit ∈ m.hitsFrom p.getLast? p.length skip t)
    (h' : hit' ∈ m.hitsFrom p.getLast? p.length skip t) :
    ¬ hit.span.Covers hit'.span.start := by
  induction t generalizing p skip with
  | nil => simp [hitsFrom] at h
  | cons c t ih =>
    have hlater : ∀ k, hit ∈ m.hitsFrom (some c) (p.length + 1) k t →
        hit' ∈ m.hitsFrom (some c) (p.length + 1) k t → ¬ hit.span.Covers hit'.span.start := by
      intro k hk hk'
      exact ih (p ++ [c]) k (by simpa using hk) (by simpa using hk')
    -- what is found later begins where the hit before it ends, or behind that
    have hstart : ∀ k, ∀ later ∈ m.hitsFrom (some c) (p.length + 1) k t,
        p.length + 1 + k ≤ later.span.start := by
      intro k later hk
      have hspec := (hitsFrom_spec (p ++ [c]) k t (by simpa using hk)).1
      rwa [List.length_append, List.length_singleton] at hspec
    cases skip with
    | succ k => exact hlater k h h'
    | zero =>
      rw [hitsFrom] at h h'
      cases hhere : m p.getLast? (c :: t) with
      | none =>
        rw [hhere] at h h'
        exact hlater 0 h h'
      | some found =>
        obtain ⟨a, n⟩ := found
        rw [hhere] at h h'
        rintro ⟨hbegin, hend⟩
        rcases List.mem_cons.mp h with rfl | h
        · rcases List.mem_cons.mp h' with rfl | h'
          · exact Nat.lt_irrefl _ hbegin
          · have hbehind := hstart _ hit' h'
            dsimp only at hend
            omega
        · rcases List.mem_cons.mp h' with rfl | h'
          · have hbehind := hstart _ hit h
            dsimp only at hbegin
            omega
          · exact hlater _ h h' ⟨hbegin, hend⟩

theorem hits_apart {t : Text} {hit hit' : Hit α} (h : hit ∈ m.hits t) (h' : hit' ∈ m.hits t) :
    ¬ hit.span.Covers hit'.span.start :=
  hitsFrom_apart [] 0 t h h'

end Matcher

namespace Line

/-! ## The shape of an operator -/

/-- A word is a name, or it is text in quotes without the quote character. -/
theorem delimiterWord?_shape {t word : Text} (h : delimiterWord? t = some word) :
    (∀ c ∈ word, isNameChar c = true) ∨
      ∃ m x, QuoteState.isMark m = true ∧ x ≠ [] ∧ m ∉ x ∧ word = m :: (x ++ [m]) := by
  cases t with
  | nil => simp [delimiterWord?] at h
  | cons c t =>
    rw [delimiterWord?] at h
    split at h
    · next hstart =>
      obtain rfl := Option.some.inj h
      left
      intro d hd
      rcases List.mem_cons.mp hd with rfl | hd
      · simp [isNameChar, hstart]
      · exact List.all_eq_true.mp List.all_takeWhile d hd
    · split at h
      · next hmark =>
        dsimp only at h
        split at h
        · simp at h
        · next hbody =>
          obtain rfl := Option.some.inj h
          simp only [Bool.or_eq_true, List.isEmpty_iff, not_or] at hbody
          refine .inr ⟨c, t.takeWhile (· != c), hmark, hbody.1, fun hmem => ?_, rfl⟩
          simpa using List.all_eq_true.mp List.all_takeWhile c hmem
      · simp at h

/-- What stands between `<<` and the word of an operator. -/
theorem isPlain_of_isGap {c : Char} (h : isGap c = true) : isPlain c = true := by
  rcases (by simpa [isGap] using h : c = ' ' ∨ c = '\t') with rfl | rfl <;> rfl

theorem exists_behindDash (t : Text) :
    ∃ dash, t = dash ++ behindDash t ∧ ∀ c ∈ dash, isPlain c = true := by
  unfold behindDash
  split
  · exact ⟨['-'], rfl, List.all_eq_true.mp rfl⟩
  · exact ⟨[], rfl, by simp⟩

/-- An operator is `<<`, a gap of plain characters and the word. -/
theorem heredocOperator_shape {before : Option Char} {t word : Text} {n : Nat}
    (h : heredocOperator before t = some (word, n)) :
    ∃ gap rest, t = '<' :: '<' :: (gap ++ (word ++ rest)) ∧ n = 2 + gap.length + word.length ∧
      (∀ c ∈ gap, isPlain c = true) ∧ before ≠ some '<' ∧
        delimiterWord? (word ++ rest) = some word := by
  by_cases ht : ∃ rest, t = '<' :: '<' :: rest
  · obtain ⟨behind, rfl⟩ := ht
    rw [heredocOperator_cons_cons] at h
    split at h
    · simp at h
    · next hthird =>
      obtain ⟨word', hword, heq⟩ := Option.map_eq_some_iff.mp h
      obtain ⟨rfl, rfl⟩ := Prod.mk.inj heq
      obtain ⟨dash, hdash, hplain⟩ := exists_behindDash behind
      obtain ⟨rest, hrest⟩ := (isPrefix_of_delimiterWord? hword).2
      have hgap := List.takeWhile_append_dropWhile (p := isGap) (l := behindDash behind)
      rw [← hrest] at hgap hword
      have hcut : behind = dash ++ (behindDash behind).takeWhile isGap ++ (word' ++ rest) := by
        rw [List.append_assoc, hgap, ← hdash]
      refine ⟨dash ++ (behindDash behind).takeWhile isGap, rest, by rw [← hcut], ?_, ?_, ?_, hword⟩
      · have hlength := congrArg List.length hcut
        rw [← hrest]
        simp only [List.length_append] at hlength ⊢
        omega
      · intro c hc
        rcases List.mem_append.mp hc with hc | hc
        · exact hplain c hc
        · exact isPlain_of_isGap (List.all_eq_true.mp List.all_takeWhile c hc)
      · exact fun hbefore => hthird (.inl hbefore)
  · rw [heredocOperator_of_ne (fun rest h => ht ⟨rest, h⟩)] at h
    simp at h

/-- A `<` in an operator that is none of its first two stands in the word, and the word is in
quotes. -/
theorem middle_of_operator {gap word rest a b : Text} (hgap : ∀ c ∈ gap, isPlain c = true)
    (hword : delimiterWord? (word ++ rest) = some word)
    (hcut : '<' :: '<' :: (gap ++ word) = a ++ '<' :: b) (hne : a ≠ [])
    (hlast : a.getLast? ≠ some '<') :
    ∃ m x, QuoteState.isMark m = true ∧ m ∉ x ∧ word.head? = some m ∧
      a = '<' :: '<' :: (gap ++ m :: x) := by
  obtain ⟨y, rfl, hy⟩ : ∃ y, a = '<' :: '<' :: y ∧ gap ++ word = y ++ '<' :: b := by
    obtain ⟨d, y, rfl⟩ := List.exists_cons_of_ne_nil hne
    cases y with
    | nil =>
      obtain ⟨rfl, -⟩ := List.cons.inj hcut
      simp at hlast
    | cons e y =>
      simp only [List.cons_append, List.cons.injEq] at hcut
      obtain ⟨rfl, rfl, hcut⟩ := hcut
      exact ⟨y, rfl, hcut⟩
  obtain ⟨z, rfl, rfl⟩ : ∃ z, y = gap ++ z ∧ word = z ++ '<' :: b := by
    rcases List.append_eq_append_iff.mp hy with ⟨z, hz, hrest⟩ | ⟨z, hz, hrest⟩
    · exact ⟨z, hz, hrest⟩
    · cases z with
      | nil => exact ⟨[], by simpa using hz.symm, by simpa using hrest.symm⟩
      | cons d z =>
        obtain ⟨rfl, -⟩ := List.cons.inj hrest
        exact absurd (hgap '<' (by simp [hz])) (by decide)
  rcases delimiterWord?_shape hword with hname | ⟨m, x, hm, -, hx, hquotes⟩
  · exact absurd (hname '<' (by simp)) (by decide)
  · have hother : m ≠ '<' := by
      rintro rfl
      exact absurd hm (by decide)
    cases z with
    | nil => exact absurd (List.cons.inj hquotes).1.symm hother
    | cons d z =>
      obtain ⟨rfl, hquotes⟩ := List.cons.inj hquotes
      refine ⟨d, z, hm, fun hmem => ?_, rfl, rfl⟩
      -- the second quote character is the last character of the word, so it comes behind the `<`
      rcases List.append_eq_append_iff.mp hquotes with ⟨u, rfl, -⟩ | ⟨u, rfl, hu⟩
      · exact hx (List.mem_append_left u hmem)
      · cases u with
        | nil => exact hother (List.cons.inj hu).1
        | cons e u => simp at hu

/-- A string goes on up to its quote character. -/
theorem quote_run_of_notMem {q : QuoteState} {m : Char} (hq : q.quote = some m) {x : Text}
    (hx : m ∉ x) :
    (q.run x).quote = some m := by
  induction x generalizing q with
  | nil => exact hq
  | cons c x ih =>
    have hc : c ≠ m := fun heq => hx (heq ▸ List.mem_cons_self)
    have hstep : (q.step c).quote = some m := by
      unfold QuoteState.step
      split
      · exact hq
      · split
        · exact hq
        · rw [hq]
          simp [hc, hq]
    exact ih hstep fun hmem => hx (List.mem_cons_of_mem c hmem)

/-- If an operator stands outside of strings, its word in quotes is a string. -/
theorem isOpen_run_word {p gap x : Text} {m : Char} (hp : (QuoteState.start.run p).isOpen = false)
    (hgap : ∀ c ∈ gap, isPlain c = true) (hm : QuoteState.isMark m = true) (hx : m ∉ x) :
    (QuoteState.start.run (p ++ '<' :: '<' :: (gap ++ m :: x))).isOpen = true := by
  have hquote : (QuoteState.start.run p).quote = none := by simpa [QuoteState.isOpen] using hp
  have hless : ∀ q : QuoteState, q.quote = none → (q.step '<').step '<' = ⟨none, false⟩ := by
    rintro ⟨quote, escaped⟩ rfl
    cases escaped <;> rfl
  have hword : (QuoteState.mk none false).run gap = ⟨none, false⟩ := by
    by_cases hne : gap = []
    · rw [hne]
      rfl
    · exact run_of_isPlain QuoteState.isProper_start hne hgap
  have hmark : ((QuoteState.mk none false).step m).quote = some m := by
    rcases QuoteState.eq_of_isMark hm with rfl | rfl <;> rfl
  rw [QuoteState.run_append, QuoteState.run_cons, QuoteState.run_cons, hless _ hquote,
    QuoteState.run_append, hword, QuoteState.run_cons, QuoteState.isOpen,
    quote_run_of_notMem hmark hx]
  rfl

/-! ## Lines that open a heredoc -/

/-- An operator begins at this place of the line. -/
def hasOperatorAt (line : Text) (i : Nat) : Bool :=
  (heredocOperator (line.take i).getLast? (line.drop i)).isSome

/-- Whether a word is in quotes. -/
def isQuotedWord (word : Text) : Bool :=
  word.head?.any QuoteState.isMark

/-- An operator outside of strings stands in the middle of another one only if that one has a word
in quotes and itself begins in a string. -/
theorem covering_operator {line : Text} {i : Nat} (hi : isQuotedAt line i = false)
    (hop : hasOperatorAt line i = true) {hit : Hit Text} (hhit : hit ∈ heredocOperator.hits line)
    (hcovers : hit.span.Covers i) :
    isQuotedAt line hit.span.start = true ∧ isQuotedWord hit.value = true := by
  obtain ⟨hbegin, hend⟩ := hcovers
  obtain ⟨⟨word', n⟩, hfound⟩ := Option.isSome_iff_exists.mp hop
  obtain ⟨gap', rest', hdrop, -, -, hlast, -⟩ := heredocOperator_shape hfound
  obtain ⟨gap, rest, hline, hlength, hgap, -, hword⟩ :=
    heredocOperator_shape (Matcher.hits_spec hhit)
  -- the operator that is hit begins with `a`, and the other one begins behind `a`
  have hinside : i ≤ line.length := by
    have hpos := congrArg List.length hdrop
    simp only [List.length_drop, List.length_cons] at hpos
    omega
  obtain ⟨a, htake, hcut, ha⟩ := exists_between (Nat.le_of_lt hbegin) hinside
  have hne : a ≠ [] := List.length_pos_iff.mp (by omega)
  obtain ⟨b, hpiece⟩ : ∃ b, '<' :: '<' :: (gap ++ hit.value) = a ++ '<' :: b := by
    have hpiece : a ++ line.drop i = '<' :: '<' :: (gap ++ hit.value) ++ rest := by
      rw [hcut, hline]
      simp
    rw [hdrop] at hpiece
    refine exists_cons_of_append_eq hpiece ?_
    simp only [List.length_cons, List.length_append]
    omega
  have hsingle : a.getLast? ≠ some '<' := by
    intro hless
    rw [htake, List.getLast?_append, hless] at hlast
    exact hlast rfl
  obtain ⟨m, x, hm, hx, hhead, rfl⟩ := middle_of_operator hgap hword hpiece hne hsingle
  constructor
  · rw [← Bool.not_eq_false]
    intro hstart
    rw [isQuotedAt, htake, isOpen_run_word hstart hgap hm hx] at hi
    simp at hi
  · simp [isQuotedWord, hhead, hm]

/-- A line opens a heredoc exactly if an operator outside of strings is not in the middle of one
that the scan has met before. No operator outside of strings is, as long as those that begin in a
string have no words in quotes; then the line opens a heredoc exactly if there is an operator
outside of strings. -/
theorem opensHeredoc_iff (line : Text) :
    (opensHeredoc line = true ↔ ∃ i, isQuotedAt line i = false ∧ hasOperatorAt line i = true ∧
        ∀ hit ∈ heredocOperator.hits line, ¬ hit.span.Covers i) ∧
      ((∀ hit ∈ heredocOperator.hits line, isQuotedAt line hit.span.start = true →
        isQuotedWord hit.value = false) →
        (opensHeredoc line = true ↔ ∃ i, isQuotedAt line i = false ∧
          hasOperatorAt line i = true)) := by
  have hopens : opensHeredoc line = true ↔
      ∃ i, isQuotedAt line i = false ∧ hasOperatorAt line i = true ∧
      ∀ hit ∈ heredocOperator.hits line, ¬ hit.span.Covers i := by
    rw [opensHeredoc, heredocOpener?, List.find?_isSome]
    constructor
    · rintro ⟨hit, hhit, hstart⟩
      refine ⟨hit.span.start, by simpa using hstart, ?_,
        fun other hother => Matcher.hits_apart hother hhit⟩
      rw [hasOperatorAt, Matcher.hits_spec hhit]
      rfl
    · rintro ⟨i, hi, hop, hfree⟩
      obtain ⟨hit, hhit, rfl | hcovers⟩ := Matcher.hits_complete heredocOperator_isBounded hop
      · exact ⟨hit, hhit, by simpa using hi⟩
      · exact absurd hcovers (hfree hit hhit)
  refine ⟨hopens, fun hbare => ?_⟩
  rw [hopens]
  constructor
  · rintro ⟨i, hi, hop, -⟩
    exact ⟨i, hi, hop⟩
  · rintro ⟨i, hi, hop⟩
    refine ⟨i, hi, hop, fun hit hhit hcovers => ?_⟩
    obtain ⟨hstart, hword⟩ := covering_operator hi hop hhit hcovers
    simp [hbare hit hhit hstart] at hword

/-- An operator in a string with a name as its word, and one behind it. -/
theorem opensHeredoc_behind_string :
    (∀ hit ∈ heredocOperator.hits "echo \"<<x\" <<'E F'".toList,
        isQuotedAt "echo \"<<x\" <<'E F'".toList hit.span.start = true →
          isQuotedWord hit.value = false) ∧
      opensHeredoc "echo \"<<x\" <<'E F'".toList = true := by
  have hbare : ∀ hit ∈ heredocOperator.hits "echo \"<<x\" <<'E F'".toList,
      isQuotedAt "echo \"<<x\" <<'E F'".toList hit.span.start = true →
          isQuotedWord hit.value = false := by
    decide +kernel
  exact ⟨hbare, ((opensHeredoc_iff _).2 hbare).mpr ⟨11, by decide +kernel, by decide +kernel⟩⟩

/-- An operator in a string takes a quote character behind the string for the end of its word, and
the operator in between is missed. -/
theorem opensHeredoc_swallowed :
    isQuotedAt "echo \"<<'\" <<EOF 'x'".toList 11 = false ∧
      hasOperatorAt "echo \"<<'\" <<EOF 'x'".toList 11 = true ∧
      opensHeredoc "echo \"<<'\" <<EOF 'x'".toList = false :=
  ⟨by decide +kernel, by decide +kernel, by decide +kernel⟩

end Line

end ShellStyle
