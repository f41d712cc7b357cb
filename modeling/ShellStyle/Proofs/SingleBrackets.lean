import ShellStyle.Proofs.Fixers
import ShellStyle.Proofs.Issues

/-!
# Which single brackets are left

Once the `test` commands of a line are converted, a first pass doubles its single brackets and a
second one closes the double brackets that were closed by a single one. No pass makes single
brackets that were not there before: what it puts in is the second of two equal brackets, and single
brackets have none beside them. So the single brackets that are left outside of strings are those
that the first pass found and left alone, and they hold `-a` or `-o`.
-/

namespace ShellStyle.Fix

open Text Line

/-! ## Single brackets at a place -/

/-- What makes `[`, a body and `]` single brackets: the character before them, the body, and the
text behind them. -/
structure IsSingle (before : Option Char) (body behind : Text) : Prop where
  front : before.any (fun c => c == '[' || c == '$' || isWordChar c) = false
  inner : ∀ c ∈ body, (c != '[' && c != ']') = true
  padded : isPadded body = true
  back : behind.head? ≠ some ']'

/-- There is something between single brackets. -/
theorem IsSingle.body_ne_nil {before : Option Char} {body behind : Text}
    (h : IsSingle before body behind) :
    body ≠ [] := by
  rintro rfl
  exact absurd h.padded (by decide)

/-- No bracket stands before a single one. -/
theorem IsSingle.before_ne {before : Option Char} {body behind : Text}
    (h : IsSingle before body behind) :
    before ≠ some '[' := by
  rintro rfl
  exact absurd h.front (by simp)

/-- The matcher finds single brackets and nothing else. -/
theorem singleBracket_eq_some_iff {before : Option Char} {t body : Text} {n : Nat} :
    singleBracket before t = some (body, n) ↔
      n = body.length + 2 ∧ ∃ behind, t = '[' :: (body ++ ']' :: behind) ∧
        IsSingle before body behind := by
  constructor
  · intro h
    unfold singleBracket at h
    split at h
    · next rest =>
      dsimp only at h
      split at h
      · simp at h
      · next hfront =>
        split at h
        · next hpadded =>
          obtain ⟨rfl, rfl⟩ := Prod.mk.inj (Option.some.inj h)
          obtain ⟨hpadded, hcloses⟩ := Bool.and_eq_true_iff.mp hpadded
          obtain ⟨behind, hbehind, hback⟩ := closesSingly_iff.mp hcloses
          have hrest := takeWhile_append_drop (fun c => c != '[' && c != ']') rest
          rw [hbehind] at hrest
          exact ⟨rfl, behind, by rw [hrest],
            Bool.eq_false_iff.mpr hfront, List.all_eq_true.mp List.all_takeWhile, hpadded, hback⟩
        · simp at h
    · simp at h
  · rintro ⟨rfl, behind, rfl, h⟩
    obtain ⟨hbody, -⟩ := span_append h.inner (r := ']' :: behind) (by simp)
    have hcloses : closesSingly (']' :: behind) = true := closesSingly_iff.mpr ⟨behind, rfl, h.back⟩
    simp [singleBracket, hbody, h.front, h.padded, hcloses]

/-- Two texts without brackets that are closed at the same place are one. -/
theorem body_unique {body body' t t' : Text} (h : ∀ c ∈ body, (c != '[' && c != ']') = true)
    (h' : ∀ c ∈ body', (c != '[' && c != ']') = true)
    (heq : body ++ ']' :: t = body' ++ ']' :: t') :
    body = body' := by
  have hbody := (span_append h (r := ']' :: t) (by simp)).1
  rw [heq] at hbody
  exact hbody.symm.trans (span_append h' (r := ']' :: t') (by simp)).1

/-! ## Brackets that are left alone -/

/-- If single brackets begin here and their ends stand outside of strings, they hold `-a` or
`-o`. -/
def IsExcused (q : QuoteState) (before : Option Char) (t : Text) : Prop :=
  ∀ body behind, t = '[' :: (body ++ ']' :: behind) → IsSingle before body behind →
    q.isOpen = false → (q.run ('[' :: body)).isOpen = false → hasConnective (trim body) = true

/-- Wherever single brackets with ends outside of strings stand in a text, they hold `-a` or `-o`.
The quote automaton and the last character before the text go along. -/
def Declined (q : QuoteState) (before : Option Char) : Text → Prop
  | [] => True
  | c :: t => IsExcused q before (c :: t) ∧ Declined (q.step c) (some c) t

/-- Where no bracket stands there is nothing to excuse. -/
theorem isExcused_of_ne {q : QuoteState} {before : Option Char} {c : Char} {t : Text}
    (hc : c ≠ '[') :
    IsExcused q before (c :: t) := by
  intro body behind heq
  exact absurd (List.cons.inj heq).1 hc

/-- What is left alone in a line is left alone in its rest. -/
theorem Declined.behind {q : QuoteState} {before : Option Char} {x t : Text}
    (h : Declined q before (x ++ t)) :
    Declined (q.run x) (x.getLast?.or before) t := by
  induction x generalizing q before with
  | nil => exact h
  | cons c x ih =>
    rw [getLast?_cons_or]
    exact ih h.2

/-- No single brackets begin in a text without opening brackets. -/
theorem Declined.append {q : QuoteState} {before : Option Char} {x t : Text} (hx : ∀ c ∈ x, c ≠ '[')
    (h : Declined (q.run x) (x.getLast?.or before) t) : Declined q before (x ++ t) := by
  induction x generalizing q before with
  | nil => exact h
  | cons c x ih =>
    rw [getLast?_cons_or] at h
    exact ⟨isExcused_of_ne (hx c List.mem_cons_self),
      ih (fun d hd => hx d (List.mem_cons_of_mem c hd)) h⟩

/-! ## Doubled brackets -/

/-- A bracket becomes two. -/
def IsDoubled (_ a b : Text) : Prop :=
  ∃ c, (c = '[' ∨ c = ']') ∧ a = [c] ∧ b = [c, c]

/-- No single brackets begin at a bracket that stands beside its like. -/
theorem Declined.double {q : QuoteState} (hq : q.IsProper) {before : Option Char} {c : Char}
    {t : Text} (hc : c = '[' ∨ c = ']') (h : Declined (q.step c) (some c) t) :
    Declined q before (c :: c :: t) := by
  have hplain : isPlain c = true := by rcases hc with rfl | rfl <;> rfl
  have hstep : (q.step c).step c = q.step c := by
    rw [step_of_isPlain (hq.step c) hplain, step_of_isPlain hq hplain]
  refine ⟨?_, ?_, by rwa [hstep]⟩
  · intro body behind heq hsingle _ _
    obtain ⟨rfl, hbody⟩ := List.cons.inj heq
    obtain ⟨d, body, rfl⟩ := List.exists_cons_of_ne_nil hsingle.body_ne_nil
    obtain ⟨rfl, -⟩ := List.cons.inj hbody
    exact absurd (hsingle.inner '[' List.mem_cons_self) (by decide)
  · intro body behind heq hsingle _ _
    obtain ⟨rfl, -⟩ := List.cons.inj heq
    exact absurd rfl hsingle.before_ne

/-- Text up to a lone closing bracket is where it was before brackets were doubled. -/
theorem exists_of_doubled_append {p t u body behind : Text} (h : Rewritten IsDoubled p t u)
    (hu : u = body ++ ']' :: behind) (hbody : ∀ c ∈ body, (c != '[' && c != ']') = true)
    (hbehind : behind.head? ≠ some ']') :
    ∃ behind', t = body ++ ']' :: behind' ∧ behind'.head? ≠ some ']' := by
  induction h generalizing body with
  | nil p => simp at hu
  | @keep p t u c h ih =>
    cases body with
    | nil =>
      obtain ⟨rfl, rfl⟩ := List.cons.inj hu
      refine ⟨t, rfl, ?_⟩
      cases h with
      | nil => simp
      | keep d h => exact hbehind
      | edit hP h =>
        obtain ⟨d, -, rfl, rfl⟩ := hP
        exact hbehind
    | cons d body =>
      obtain ⟨rfl, hu'⟩ := List.cons.inj hu
      obtain ⟨behind', rfl, hback⟩ := ih hu' fun e he => hbody e (List.mem_cons_of_mem c he)
      exact ⟨behind', rfl, hback⟩
  | @edit p a b t u hP h ih =>
    obtain ⟨c, hc, rfl, rfl⟩ := hP
    cases body with
    | nil =>
      obtain ⟨rfl, rfl⟩ := List.cons.inj hu
      exact absurd rfl hbehind
    | cons d body =>
      obtain ⟨rfl, -⟩ := List.cons.inj hu
      -- the body has no bracket, so no doubled one begins in it
      have hd := hbody c List.mem_cons_self
      rcases hc with rfl | rfl <;> exact absurd hd (by decide)

/-- Doubling brackets makes no single brackets. -/
theorem Declined.of_doubled {p t u : Text} (h : Rewritten IsDoubled p t u)
    (ht : Declined (QuoteState.start.run p) p.getLast? t) :
    Declined (QuoteState.start.run p) p.getLast? u := by
  induction h with
  | nil p => trivial
  | @keep p t u c h ih =>
    rw [QuoteState.run_append, List.getLast?_concat] at ih
    refine ⟨?_, ih ht.2⟩
    intro body behind heq hsingle
    obtain ⟨rfl, hu⟩ := List.cons.inj heq
    obtain ⟨behind', rfl, hback⟩ := exists_of_doubled_append h hu hsingle.inner hsingle.back
    exact ht.1 body behind' rfl { hsingle with back := hback }
  | @edit p a b t u hP h ih =>
    obtain ⟨c, hc, rfl, rfl⟩ := hP
    rw [QuoteState.run_append, List.getLast?_concat] at ih
    exact .double (QuoteState.isProper_start.run p) hc (ih ht.2)

/-! ## The two passes -/

/-- Writing a test with double brackets doubles its brackets. -/
theorem doubleBracketed_isDoubled (p body : Text) :
    Rewritten IsDoubled p (['['] ++ body ++ [']']) (doubleBracketed body) :=
  .append (.append (.single ⟨'[', .inl rfl, rfl, rfl⟩) (.refl _ body))
    (.single ⟨']', .inr rfl, rfl, rfl⟩)

theorem replaceUnquoted_mixedBracket_isDoubled (line : Text) :
    Rewritten IsDoubled [] line (replaceUnquoted mixedBracket
      (fun body => some (doubleBracketed body)) line) := by
  refine replaceUnquoted_rewritten mixedBracket_reads (fun p body b _ hb => ?_) line
  obtain rfl := Option.some.inj hb
  exact .append (.refl p _) (.single ⟨']', .inr rfl, rfl, rfl⟩)

/-- What the first pass writes for single brackets: they stay if an end stands in a string or if
they hold `-a` or `-o`. -/
theorem replacement_cases {p a body b : Text}
    (hb : b = if isBare p a then (singleBracketReplacement body).getD a else a) :
    b = a ∧ (isBare p a = true → hasConnective (trim body) = true) ∨ b = doubleBracketed body := by
  unfold singleBracketReplacement at hb
  split at hb
  · next hbare =>
    split at hb
    · next hconnective => exact .inl ⟨hb, fun _ => hconnective⟩
    · exact .inr hb
  · next hbare => exact .inl ⟨hb, fun h => absurd h hbare⟩

/-- What the first pass does behind a prefix. -/
abbrev FirstPass : Text → Text → Text → Prop :=
  Scanned singleBracket fun p a body b => b = if isBare p a then
    (singleBracketReplacement body).getD a else a

/-- The first pass doubles brackets and does nothing else. -/
theorem FirstPass.isDoubled {p t u : Text} (h : FirstPass p t u) : Rewritten IsDoubled p t u := by
  refine h.rewritten fun p a t body b hhit hb => ?_
  obtain rfl := singleBracket_reads.eq_piece hhit
  rcases replacement_cases hb with ⟨rfl, -⟩ | rfl
  · exact .refl p _
  · exact doubleBracketed_isDoubled p body

/-- The first pass leaves no single brackets but those it declines. -/
theorem FirstPass.declined {p t u : Text} (h : FirstPass p t u) :
    Declined (QuoteState.start.run p) p.getLast? u := by
  induction h with
  | nil p => trivial
  | @keep p t u c hm h ih =>
    rw [QuoteState.run_append, List.getLast?_concat] at ih
    refine ⟨?_, ih⟩
    -- single brackets in what is written would have been found in what was read
    intro body behind heq hsingle
    obtain ⟨rfl, hu⟩ := List.cons.inj heq
    obtain ⟨behind', rfl, hback⟩ :=
      exists_of_doubled_append (isDoubled h) hu hsingle.inner hsingle.back
    have hfound := singleBracket_eq_some_iff.mpr ⟨rfl, behind', rfl, { hsingle with back := hback }⟩
    rw [hm] at hfound
    simp at hfound
  | @hit p a b t u body hm hb h ih =>
    obtain ⟨-, behind, -, hsingle⟩ := singleBracket_eq_some_iff.mp hm
    obtain rfl := singleBracket_reads.eq_piece hm
    have hinner : ∀ c ∈ body, c ≠ '[' := by
      rintro c hc rfl
      exact absurd (hsingle.inner '[' hc) (by decide)
    have hproper := QuoteState.isProper_start.run p
    rw [← List.append_assoc, List.getLast?_concat, QuoteState.run_append, QuoteState.run_append,
      QuoteState.run_append] at ih
    rcases replacement_cases hb with ⟨rfl, hdeclined⟩ | rfl
    · rw [List.append_assoc, List.append_assoc]
      refine ⟨?_, .append (x := body) hinner ⟨isExcused_of_ne (by decide), ih⟩⟩
      intro body' behind' heq hsingle' hopening hclosing
      obtain rfl := body_unique hsingle.inner hsingle'.inner (List.cons.inj heq).2
      refine hdeclined ?_
      rw [isBare, List.dropLast_concat, QuoteState.run_append, hopening,
        List.singleton_append, hclosing]
      rfl
    · rw [doubleBracketed, List.append_assoc, List.append_assoc]
      refine .double hproper (.inl rfl) (.append (x := body) hinner ?_)
      exact .double ((hproper.step '[').run body) (.inr rfl) ih

/-- Where the fixer for brackets goes over a line, it leaves no single brackets but those it
declines. -/
theorem brackets_declined {s : Settings} {line : Text}
    (h : isGuarded s .bracketStyle line = false) :
    Declined .start none (brackets s line) := by
  unfold brackets
  rw [if_neg (by simp [h])]
  have hfirst := replaceUnquoted_scanned singleBracket_reads.isBounded singleBracketReplacement
    (convertTestCommands line)
  exact .of_doubled (replaceUnquoted_mixedBracket_isDoubled _) (FirstPass.declined hfirst)

/-- A hit of the matcher, with the line around it. -/
theorem exists_cut_of_mem_hits {line : Text} {hit : Hit Text} (h : hit ∈ singleBracket.hits line) :
    ∃ p behind, line = p ++ (['['] ++ hit.value ++ [']'] ++ behind) ∧
      hit.span = ⟨p.length, p.length + (['['] ++ hit.value ++ [']']).length⟩ ∧
      IsSingle p.getLast? hit.value behind := by
  obtain ⟨⟨start, stop⟩, body⟩ := hit
  obtain ⟨hstop, behind, hdrop, hsingle⟩ := singleBracket_eq_some_iff.mp (Matcher.hits_spec h)
  have hline := List.take_append_drop start line
  have hlength := congrArg List.length hdrop
  dsimp only at hstop hdrop hsingle hlength ⊢
  rw [List.length_drop, List.length_cons] at hlength
  refine ⟨line.take start, behind, ?_, ?_, hsingle⟩
  · rw [hdrop] at hline
    simpa using hline.symm
  · rw [List.length_take, Nat.min_eq_left (by omega), List.length_append, List.length_append,
      List.length_singleton, List.length_singleton, Span.mk.injEq]
    exact ⟨rfl, by omega⟩

/-- Single brackets that are found outside of strings have been declined. -/
theorem Declined.bareBrackets {line : Text} (h : Declined .start none line) {hit : Hit Text}
    (hhit : hit ∈ Check.bareBrackets line) :
    slice line hit.span = ['['] ++ hit.value ++ [']'] ∧ hasConnective (trim hit.value) = true := by
  obtain ⟨hmem, hbare⟩ := List.mem_filter.mp hhit
  obtain ⟨p, behind, rfl, hspan, hsingle⟩ := exists_cut_of_mem_hits hmem
  rw [hspan, isUnquotedSpan_append] at hbare
  obtain ⟨hopening, hclosing⟩ := isBare_concat hbare
  constructor
  · rw [hspan, slice, List.drop_left, Nat.add_sub_cancel_left, List.take_left]
  · have hhere := h.behind
    rw [Option.or_none, List.append_assoc, List.append_assoc] at hhere
    rw [QuoteState.run_append] at hclosing
    exact hhere.1 hit.value behind rfl hsingle hopening hclosing

end ShellStyle.Fix

namespace ShellStyle.Check

open Text Line ShellStyle.Fix

/-- If single brackets are reported in a line whose brackets were fixed, then each of those outside
of strings holds `-a` or `-o` in its expression. -/
theorem bracketStyle_brackets {s : Settings} {number : Int} {line : Text} {i : Issue}
    (h : bracketStyle s number (brackets s line) = .ok (some i)) (hrule : i.rule = .bracketStyle) :
    bareBrackets (brackets s line) ≠ [] ∧ ∀ hit ∈ bareBrackets (brackets s line),
      slice (brackets s line) hit.span = ['['] ++ hit.value ++ [']'] ∧
        hasConnective (trim hit.value) = true := by
  obtain ⟨hguarded, hcases⟩ := bracketStyle_cases h
  have hopen : isGuarded s .bracketStyle line = false := by
    cases hline : isGuarded s .bracketStyle line with
    | false => rfl
    | true => rwa [brackets, if_pos hline, hline] at hguarded
  rcases hcases with ⟨-, hne⟩ | ⟨hother, -⟩
  · exact ⟨hne, fun hit hhit => (brackets_declined hopen).bareBrackets hhit⟩
  · rw [hrule] at hother
    simp at hother

/-- Of two pairs of single brackets one is doubled, and the other is reported because of its
`-a`. -/
theorem bracketStyle_brackets_connective :
    brackets .default "[ a -a b ]&&[ c ]".toList = "[ a -a b ]&&[[ c ]]".toList ∧
      bracketStyle .default 1 (brackets .default "[ a -a b ]&&[ c ]".toList) =
        .ok (some ⟨.warning, .bracketStyle, 1, "Use [[ ]] instead of [ ]"⟩) ∧
      ∀ hit ∈ bareBrackets (brackets .default "[ a -a b ]&&[ c ]".toList),
        slice (brackets .default "[ a -a b ]&&[ c ]".toList) hit.span =
          ['['] ++ hit.value ++ [']'] ∧
          hasConnective (trim hit.value) = true := by
  have h : bracketStyle .default 1 (brackets .default "[ a -a b ]&&[ c ]".toList) =
      .ok (some ⟨.warning, .bracketStyle, 1, "Use [[ ]] instead of [ ]"⟩) := rfl
  exact ⟨rfl, h, (bracketStyle_brackets h rfl).2⟩

end ShellStyle.Check
