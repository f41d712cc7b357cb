import ShellStyle.Proofs.Spacing
import ShellStyle.Proofs.Words

/-!
# Readers of quotes beside the quote automaton

Two more parts of the tool follow the quotes of a line with states of their own. The guard against
operators in strings looks at the character before a quote mark, and the reader of words does not
escape anything in single quotes. Both go along with the quote automaton up to a certain kind of
character and part from it there: the guard at a quote mark behind an escaped backslash, and the
reader of words at a single quote that the automaton takes to be escaped in a string of single
quotes. So each of them agrees with the automaton up to a place exactly if no such character comes
before it.
-/

namespace ShellStyle

open Text Line

/-! ## Readers that go along with the automaton -/

/-- A reader that goes along with the quote automaton: related states agree on whether a string is
open, a step keeps them related, and a step that parts them makes them disagree. -/
structure GoesAlong {σ : Type} (step : σ → Char → σ) (isOpen : σ → Bool)
    (Related : QuoteState → σ → Prop) (Parts : QuoteState → σ → Char → Prop) : Prop where
  isOpen_eq : ∀ {q s}, Related q s → isOpen s = q.isOpen
  step_related : ∀ {q s c}, Related q s → ¬ Parts q s c → Related (q.step c) (step s c)
  step_parts : ∀ {q s c}, Related q s → Parts q s c → isOpen (step s c) ≠ (q.step c).isOpen

namespace GoesAlong

variable {σ : Type} {step : σ → Char → σ} {isOpen : σ → Bool} {Related : QuoteState → σ → Prop}
  {Parts : QuoteState → σ → Char → Prop} {start : σ}

/-- Up to the first step that parts them the states are related. -/
theorem related_take (h : GoesAlong step isOpen Related Parts) (hstart : Related .start start)
    (t : Text) (i : Nat)
    (hparts : ∀ j < i, ∀ c, t[j]? = some c →
      ¬ Parts (QuoteState.start.run (t.take j)) ((t.take j).foldl step start) c) :
    Related (QuoteState.start.run (t.take i)) ((t.take i).foldl step start) := by
  induction i with
  | zero => exact hstart
  | succ i ih =>
    have hrelated := ih fun j hj => hparts j (by omega)
    rw [List.take_add_one]
    cases hc : t[i]? with
    | none =>
      rw [Option.toList_none, List.append_nil]
      exact hrelated
    | some c =>
      rw [Option.toList_some, QuoteState.run_append, List.foldl_append]
      exact h.step_related hrelated (hparts i (by omega) c hc)

/-- The reader agrees with the automaton up to a place exactly if no step before it parts them. -/
theorem agrees_iff (h : GoesAlong step isOpen Related Parts) (hstart : Related .start start)
    (t : Text) (i : Nat) :
    (∀ k ≤ i, isOpen ((t.take k).foldl step start) = isQuotedAt t k) ↔
      ∀ j < i, ∀ c, t[j]? = some c →
        ¬ Parts (QuoteState.start.run (t.take j)) ((t.take j).foldl step start) c := by
  constructor
  · intro hagrees j hj
    -- the first step that parts them is seen right behind it
    induction j using Nat.strongRecOn with
    | ind j ih =>
      intro c hc hparts
      have hrelated := h.related_take hstart t j fun j' hj' => ih j' hj' (by omega)
      apply h.step_parts hrelated hparts
      have hnext := hagrees (j + 1) (by omega)
      rw [isQuotedAt, List.take_add_one, hc, Option.toList_some, QuoteState.run_append,
        List.foldl_append] at hnext
      exact hnext
  · intro hparts k hk
    exact h.isOpen_eq (h.related_take hstart t k fun j hj => hparts j (by omega))

end GoesAlong

/-- Where no string begins or ends the open quote stays the same. -/
theorem QuoteState.quote_step_of_isOpen_eq {q : QuoteState} {c : Char}
    (h : (q.step c).isOpen = q.isOpen) :
    (q.step c).quote = q.quote := by
  obtain ⟨quote, escaped⟩ := q
  unfold step at h ⊢
  dsimp only at h ⊢
  split
  · rfl
  · split
    · rfl
    · cases quote with
      | none => by_cases hmark : isMark c = true <;> simp_all [isOpen]
      | some m => by_cases hcm : c = m <;> simp_all [isOpen]

namespace Line

/-! ## The guard against operators in strings -/

/-- Where the guard stands: the open quote, and the character before. -/
structure GuardState where
  quote : Option Char
  before : Option Char

namespace GuardState

/-- Before the first character. -/
def start : GuardState :=
  ⟨none, none⟩

/-- One character further. A quote mark counts unless a backslash stands right before it. -/
def step (g : GuardState) (c : Char) : GuardState :=
  ⟨if g.before != some '\\' && QuoteState.isMark c then
      match g.quote with
      | none => some c
      | some m => if c = m then none else some m
    else g.quote, some c⟩

/-- Whether a string is open. -/
def isOpen (g : GuardState) : Bool :=
  g.quote.isSome

theorem before_foldl (g : GuardState) (t : Text) :
    (t.foldl step g).before = t.getLast?.or g.before := by
  induction t generalizing g with
  | nil => simp
  | cons c t ih => rw [List.foldl_cons, ih, getLast?_cons_or, step]

theorem quote_step_of_backslash {g : GuardState} (h : g.before = some '\\') (c : Char) :
    (g.step c).quote = g.quote := by
  simp [step, h]

theorem quote_step_of_not_isMark {c : Char} (h : QuoteState.isMark c = false) (g : GuardState) :
    (g.step c).quote = g.quote := by
  simp [step, h]

/-- A quote mark that no backslash precedes is read by the guard as by the automaton. -/
theorem quote_step_eq {q : QuoteState} (hq : q.IsProper) (hescaped : q.escaped = false)
    {g : GuardState} (hquote : g.quote = q.quote) (hbefore : g.before ≠ some '\\') (c : Char) :
    (g.step c).quote = (q.step c).quote := by
  by_cases hmark : QuoteState.isMark c = true
  · have hslash : c ≠ '\\' := by
      rcases QuoteState.eq_of_isMark hmark with rfl | rfl <;> decide
    rw [step, QuoteState.step, hescaped, if_neg Bool.false_ne_true, if_neg hslash, hquote]
    cases hopen : q.quote with
    | none => simp [hbefore, hmark]
    | some m =>
      rw [if_pos (by simp [hbefore, hmark])]
      by_cases hcm : c = m
      · simp [hcm]
      · simp [hcm, hopen]
  · rw [Bool.not_eq_true] at hmark
    rw [quote_step_of_not_isMark hmark, QuoteState.quote_step hq hmark, hquote]

end GuardState

/-- The guard parts from the automaton where a string begins or ends right behind a backslash. -/
theorem guard_goesAlong :
    GoesAlong GuardState.step GuardState.isOpen
      (fun q g => q.IsProper ∧ g.quote = q.quote ∧ (q.escaped = true → g.before = some '\\'))
      (fun q g c => (q.step c).isOpen ≠ q.isOpen ∧ g.before = some '\\') where
  isOpen_eq := by
    rintro q g ⟨-, hquote, -⟩
    rw [GuardState.isOpen, hquote, QuoteState.isOpen]
  step_related := by
    rintro q g c ⟨hq, hquote, hescaped⟩ hparts
    refine ⟨hq.step c, ?_, ?_⟩
    · by_cases hbefore : g.before = some '\\'
      · have hopen : (q.step c).isOpen = q.isOpen :=
          Decidable.byContradiction fun hne => hparts ⟨hne, hbefore⟩
        rw [GuardState.quote_step_of_backslash hbefore, hquote,
          QuoteState.quote_step_of_isOpen_eq hopen]
      · have hnot : q.escaped = false := by
          cases hq' : q.escaped with
          | false => rfl
          | true => exact absurd (hescaped hq') hbefore
        exact GuardState.quote_step_eq hq hnot hquote hbefore c
    · intro hnext
      have hslash : c = '\\' := Decidable.byContradiction fun hne => by
        simp [Fix.escaped_step hne] at hnext
      rw [GuardState.step, hslash]
  step_parts := by
    rintro q g c ⟨-, hquote, -⟩ ⟨hne, hbefore⟩
    rw [GuardState.isOpen, GuardState.quote_step_of_backslash hbefore, hquote, ← QuoteState.isOpen]
    exact Ne.symm hne

/-- Whether the guard takes a position to be inside a string. -/
def isGuardedAt (line : Text) (i : Nat) : Bool :=
  ((line.take i).foldl GuardState.step .start).isOpen

/-- Whether a text begins with what the guard looks for: an opening bracket, `&&` or `||`. -/
def startsGuarded (t : Text) : Bool :=
  startsWith ['['] t || startsWith ['&', '&'] t || startsWith ['|', '|'] t

/-- What the guard looks for begins with no quote mark. -/
theorem isMark_of_startsGuarded {c : Char} {t : Text} (h : startsGuarded (c :: t) = true) :
    QuoteState.isMark c = false := by
  have hfirst : c = '[' ∨ c = '&' ∨ c = '|' := by
    simp only [startsGuarded, Bool.or_eq_true, startsWith_iff, List.cons_prefix_cons] at h
    rcases h with (h | h) | h
    · exact .inl h.1.symm
    · exact .inr (.inl h.1.symm)
    · exact .inr (.inr h.1.symm)
  rcases hfirst with rfl | rfl | rfl <;> rfl

/-- The guard finds what it looks for exactly at the positions that it takes to be inside
strings. -/
theorem quotesOperatorFrom_iff (g : GuardState) (t : Text) :
    quotesOperatorFrom g.quote g.before t = true ↔
      ∃ i, ((t.take i).foldl GuardState.step g).isOpen = true ∧
        startsGuarded (t.drop i) = true := by
  induction t generalizing g with
  | nil => simp [quotesOperatorFrom, startsGuarded, startsWith, after?]
  | cons c t ih =>
    have hstep : quotesOperatorFrom g.quote g.before (c :: t) =
        ((g.step c).isOpen && startsGuarded (c :: t) ||
          quotesOperatorFrom (g.step c).quote (g.step c).before t) := by
      have hbracket : startsWith ['['] (c :: t) = (c == '[') := by
        rw [Bool.eq_iff_iff, startsWith_iff, List.cons_prefix_cons, beq_iff_eq]
        exact ⟨fun h => h.1.symm, fun h => ⟨h.symm, List.nil_prefix⟩⟩
      rw [startsGuarded, hbracket]
      rfl
    rw [hstep, Bool.or_eq_true, Bool.and_eq_true, ih]
    -- the reader asks behind the first character, but no operator begins with a quote mark
    constructor
    · rintro (⟨hopen, hstarts⟩ | ⟨i, hopen, hstarts⟩)
      · rw [GuardState.isOpen, GuardState.quote_step_of_not_isMark
          (isMark_of_startsGuarded hstarts)] at hopen
        exact ⟨0, hopen, hstarts⟩
      · exact ⟨i + 1, hopen, hstarts⟩
    · rintro ⟨i, hopen, hstarts⟩
      cases i with
      | zero =>
        left
        refine ⟨?_, hstarts⟩
        rw [GuardState.isOpen, GuardState.quote_step_of_not_isMark
          (isMark_of_startsGuarded hstarts)]
        exact hopen
      | succ i => exact .inr ⟨i, hopen, hstarts⟩

/-- Whether a string begins or ends at a character that stands right behind a backslash. -/
def turnsBehindBackslash (t : Text) (i : Nat) : Bool :=
  isQuotedAt t (i + 1) != isQuotedAt t i && (t.take i).getLast? == some '\\'

theorem turnsBehindBackslash_eq_false_iff (t : Text) (i : Nat) :
    turnsBehindBackslash t i = false ↔ ∀ c, t[i]? = some c →
      ¬ (((QuoteState.start.run (t.take i)).step c).isOpen ≠
        (QuoteState.start.run (t.take i)).isOpen ∧
        ((t.take i).foldl GuardState.step .start).before = some '\\') := by
  have hbefore : ((t.take i).foldl GuardState.step .start).before = (t.take i).getLast? := by
    rw [GuardState.before_foldl]
    exact Option.or_none
  rw [turnsBehindBackslash, isQuotedAt, isQuotedAt, List.take_add_one, hbefore]
  cases t[i]? with
  | none => simp
  | some c => simp [QuoteState.run]

/-- When the guard reads quotes as the automaton does. It finds an opening bracket, `&&` or `||`
exactly at a position that it takes to be inside a string itself. These positions are those inside
strings, up to a place, exactly if no string begins or ends before it right behind a backslash. If
that is so before each such operator, then the guard holds exactly if a string of the line has
one. -/
theorem quotesOperator_iff (line : Text) :
    (quotesOperator line = true ↔
      ∃ i, isGuardedAt line i = true ∧ startsGuarded (line.drop i) = true) ∧
      (∀ i, (∀ k ≤ i, isGuardedAt line k = isQuotedAt line k) ↔
        ∀ j < i, turnsBehindBackslash line j = false) ∧
      ((∀ i < line.length, startsGuarded (line.drop i) = true →
        ∀ j < i, turnsBehindBackslash line j = false) →
        (quotesOperator line = true ↔
          ∃ i, isQuotedAt line i = true ∧ startsGuarded (line.drop i) = true)) := by
  have hguard : quotesOperator line = true ↔
      ∃ i, isGuardedAt line i = true ∧ startsGuarded (line.drop i) = true :=
    quotesOperatorFrom_iff .start line
  have hagrees : ∀ i, (∀ k ≤ i, isGuardedAt line k = isQuotedAt line k) ↔
      ∀ j < i, turnsBehindBackslash line j = false := by
    intro i
    simp only [turnsBehindBackslash_eq_false_iff]
    exact guard_goesAlong.agrees_iff ⟨QuoteState.isProper_start, rfl, nofun⟩ line i
  refine ⟨hguard, hagrees, fun hturns =>
    hguard.trans (exists_congr fun i => and_congr_left fun hstarts => ?_)⟩
  have hlt : i < line.length := by
    apply Decidable.byContradiction
    intro hge
    rw [List.drop_of_length_le (by omega)] at hstarts
    cases hstarts
  rw [(hagrees i).mpr (hturns i hlt hstarts) i (Nat.le_refl i)]

/-- A quote that is escaped does not end the string, and the bracket behind it is found. -/
theorem quotesOperator_iff_escaped :
    quotesOperator "echo \"a \\\" [ b\"".toList = true ∧
      ∃ i, isQuotedAt "echo \"a \\\" [ b\"".toList i = true ∧
        startsGuarded ("echo \"a \\\" [ b\"".toList.drop i) = true := by
  have hholds : quotesOperator "echo \"a \\\" [ b\"".toList = true := rfl
  have hturns : ∀ i < "echo \"a \\\" [ b\"".toList.length,
      startsGuarded ("echo \"a \\\" [ b\"".toList.drop i) = true →
        ∀ j < i, turnsBehindBackslash "echo \"a \\\" [ b\"".toList j = false := by
    decide
  exact ⟨hholds, ((quotesOperator_iff _).2.2 hturns).mp hholds⟩

/-- Behind an escaped backslash the guard misses the end of a string. So it does not see the bracket
in the string that comes next, and in another line it sees one in a string where none is. -/
theorem quotesOperator_misled :
    quotesOperator "\"\\\\\" \"[x\"".toList = false ∧
      isQuotedAt "\"\\\\\" \"[x\"".toList 6 = true ∧
      startsGuarded ("\"\\\\\" \"[x\"".toList.drop 6) = true ∧
      quotesOperator "\"\\\\\" [ x ]".toList = true ∧
      ∀ i < "\"\\\\\" [ x ]".toList.length, isQuotedAt "\"\\\\\" [ x ]".toList i = true →
        startsGuarded ("\"\\\\\" [ x ]".toList.drop i) = false := by
  refine ⟨rfl, rfl, rfl, rfl, ?_⟩
  decide

/-! ## The reader of words -/

/-- Whatever comes behind a text, the words of the text are finished up to the last, and that one is
read on with the flags that the reader has behind the text. -/
theorem exists_words_append (t : Text) :
    ∃ finished word, ∀ rest, words (t ++ rest) =
      finished ++ wordsFrom word (wordRun .start t).quote (wordRun .start t).escaped rest := by
  suffices hfrom : ∀ (q : QuoteState) (word : Text), ∃ finished word', ∀ rest,
      wordsFrom word q.quote q.escaped (t ++ rest) =
        finished ++ wordsFrom word' (wordRun q t).quote (wordRun q t).escaped rest from
    hfrom .start []
  induction t with
  | nil => exact fun q word => ⟨[], word, fun rest => rfl⟩
  | cons c t ih =>
    intro q word
    by_cases hends : q = .start ∧ isBlank c = true
    · obtain ⟨rfl, hc⟩ := hends
      obtain ⟨finished, word', hrest⟩ := ih .start []
      refine ⟨finishWord word ++ finished, word', fun rest => ?_⟩
      rw [List.cons_append, wordsFrom_cons, if_pos ⟨rfl, hc⟩, wordRun_cons, wordStep_of_isBlank hc,
        List.append_assoc, ← hrest]
      rfl
    · obtain ⟨finished, word', hrest⟩ := ih (wordStep q c) (word ++ [c])
      refine ⟨finished, word', fun rest => ?_⟩
      rw [List.cons_append, wordsFrom_cons, if_neg hends, wordRun_cons, hrest]

/-- Whether a position has a single quote that the quote automaton takes to be escaped in a string
of single quotes. -/
def isEscapedSingleQuote (t : Text) (i : Nat) : Bool :=
  QuoteState.start.run (t.take i) == ⟨some '\'', true⟩ && t[i]? == some '\''

/-- But for strings of single quotes the reader of words takes the steps of the automaton. -/
theorem wordStep_eq_step {q : QuoteState} (h : q.quote ≠ some '\'') (c : Char) :
    wordStep q c = q.step c := by
  obtain ⟨quote, escaped⟩ := q
  rw [wordStep, QuoteState.step]
  dsimp only at h ⊢
  cases escaped with
  | true => rfl
  | false =>
    rw [if_neg Bool.false_ne_true, if_neg Bool.false_ne_true]
    by_cases hslash : c = '\\'
    · rw [if_pos ⟨hslash, h⟩, if_pos hslash]
    · rw [if_neg fun hc => hslash hc.1, if_neg hslash]
      cases quote with
      | none => by_cases hmark : QuoteState.isMark c = true <;> simp [hmark]
      | some m => by_cases hcm : c = m <;> simp [hcm]

/-- The reader of words parts from the automaton at a single quote that is escaped in a string of
single quotes. -/
theorem word_goesAlong :
    GoesAlong wordStep QuoteState.isOpen
      (fun q r => r.quote = q.quote ∧ r.escaped = (q.escaped && q.quote != some '\''))
      (fun q _ c => q = ⟨some '\'', true⟩ ∧ c = '\'') where
  isOpen_eq := by
    rintro q r ⟨hquote, -⟩
    rw [QuoteState.isOpen, QuoteState.isOpen, hquote]
  step_related := by
    rintro ⟨quote, escaped⟩ ⟨quote', escaped'⟩ c ⟨hquote, hescaped⟩ hparts
    obtain rfl : quote' = quote := hquote
    obtain rfl : escaped' = (escaped && quote' != some '\'') := hescaped
    by_cases hsingle : quote' = some '\''
    · subst hsingle
      -- the reader has nothing escaped here, so only a single quote after a backslash could part
      -- them
      cases escaped with
      | true =>
        have hc : c ≠ '\'' := fun heq => hparts ⟨rfl, heq⟩
        simp [wordStep, QuoteState.step, hc]
      | false =>
        by_cases hslash : c = '\\'
        · subst hslash
          exact ⟨rfl, rfl⟩
        · by_cases hc : c = '\'' <;> simp [wordStep, QuoteState.step, hslash, hc]
    · have hne : (quote' != some '\'') = true := by simpa using hsingle
      rw [hne, Bool.and_true, wordStep_eq_step hsingle]
      refine ⟨rfl, ?_⟩
      by_cases hslash : c = '\\'
      · subst hslash
        cases escaped <;> simp [QuoteState.step, hsingle]
      · rw [Fix.escaped_step hslash, Bool.false_and]
  step_parts := by
    rintro q ⟨quote', escaped'⟩ c ⟨hquote, hescaped⟩ ⟨rfl, rfl⟩
    obtain rfl : quote' = some '\'' := hquote
    obtain rfl : escaped' = false := hescaped
    decide

theorem isEscapedSingleQuote_eq_false_iff (t : Text) (i : Nat) :
    isEscapedSingleQuote t i = false ↔
      ∀ c, t[i]? = some c → ¬ (QuoteState.start.run (t.take i) = ⟨some '\'', true⟩ ∧ c = '\'') := by
  rw [isEscapedSingleQuote]
  cases t[i]? with
  | none => simp
  | some c => simp

/-- When the reader of words reads quotes as the automaton does. Whatever follows the part of a line
that has been read, its words go on from the open quote and the escape that the reader has there. Up
to a place it has a string open exactly at the positions inside strings, exactly if before the place
no single quote is escaped in a string of single quotes. -/
theorem isOpen_wordRun_iff (line : Text) (i : Nat) :
    (∃ finished word, ∀ rest, words (line.take i ++ rest) = finished ++
      wordsFrom word (wordRun .start (line.take i)).quote
        (wordRun .start (line.take i)).escaped rest) ∧
      ((∀ k ≤ i, (wordRun .start (line.take k)).isOpen = isQuotedAt line k) ↔
        ∀ j < i, isEscapedSingleQuote line j = false) := by
  refine ⟨exists_words_append (line.take i), ?_⟩
  simp only [isEscapedSingleQuote_eq_false_iff]
  exact word_goesAlong.agrees_iff ⟨rfl, rfl⟩ line i

/-- Escapes in double quotes, outside of strings, and of a backslash in single quotes are read
alike. -/
theorem isOpen_wordRun_iff_backslashes :
    (∀ j < 15, isEscapedSingleQuote "\"\\\"\" \\' '\\\\' x".toList j = false) ∧
      ∀ k ≤ 15, (wordRun .start ("\"\\\"\" \\' '\\\\' x".toList.take k)).isOpen =
        isQuotedAt "\"\\\"\" \\' '\\\\' x".toList k := by
  have hnone : ∀ j < 15, isEscapedSingleQuote "\"\\\"\" \\' '\\\\' x".toList j = false := by
    decide
  exact ⟨hnone, (isOpen_wordRun_iff _ 15).2.mpr hnone⟩

/-- A backslash at the end of a string of single quotes. The reader of words ends the string and the
word there, and for the automaton the rest of the line is quoted, so that it misses a heredoc. -/
theorem isOpen_wordRun_ne :
    words "'\\' a".toList = ["'\\'".toList, "a".toList] ∧
      (wordRun .start ("'\\' a".toList.take 3)).isOpen = false ∧
        isQuotedAt "'\\' a".toList 3 = true ∧
      words "cat '\\' <<E".toList = ["cat".toList, "'\\'".toList, "<<E".toList] ∧
      opensHeredoc "cat '\\' <<E".toList = false :=
  ⟨rfl, rfl, rfl, rfl, rfl⟩

end Line

end ShellStyle
