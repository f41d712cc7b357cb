import ShellStyle.Line.Token
import ShellStyle.Proofs.Opener

/-!
# Words and the blanks between them

A blank ends a word when no string is open and nothing is escaped. The words of a line are therefore
the only way to write the line as blanks and words in turn, where a word has no such blank and every
word but the last leaves the reader as it was at the start of the line. What follows a word is read
as if the line began there, so the words can be read one by one, and they are read again when they
are put together with single spaces.
-/

namespace ShellStyle.Line

open Text

/-! ## The reader of words -/

/-- One character further in a word. A backslash escapes the next character, except in single
quotes. -/
def wordStep (q : QuoteState) (c : Char) : QuoteState :=
  if q.escaped then ⟨q.quote, false⟩
  else if c = '\\' ∧ q.quote ≠ some '\'' then ⟨q.quote, true⟩
  else match q.quote with
    | some m => ⟨if c = m then none else some m, false⟩
    | none => ⟨if QuoteState.isMark c then some c else none, false⟩

/-- Where the reader of words stands after a text. -/
def wordRun (q : QuoteState) (t : Text) : QuoteState :=
  t.foldl wordStep q

theorem wordRun_cons (q : QuoteState) (c : Char) (t : Text) :
    wordRun q (c :: t) = wordRun (wordStep q c) t :=
  rfl

theorem wordRun_append (q : QuoteState) (a t : Text) :
    wordRun q (a ++ t) = wordRun (wordRun q a) t :=
  List.foldl_append

/-- A blank outside of strings opens nothing. -/
theorem wordStep_of_isBlank {c : Char} (h : isBlank c = true) : wordStep .start c = .start := by
  have hslash : c ≠ '\\' := ne_of_isBlank h rfl
  have hmark : QuoteState.isMark c = false := by
    simp [QuoteState.isMark, ne_of_isBlank h (show isBlank '"' = false from rfl),
      ne_of_isBlank h (show isBlank '\'' = false from rfl)]
  simp [wordStep, QuoteState.start, hslash, hmark]

/-- A blank ends the word at the start state, and every other character goes on with it. -/
theorem wordsFrom_cons (word : Text) (q : QuoteState) (c : Char) (t : Text) :
    wordsFrom word q.quote q.escaped (c :: t) =
      if q = .start ∧ isBlank c = true then finishWord word ++ words t
      else wordsFrom (word ++ [c]) (wordStep q c).quote (wordStep q c).escaped t := by
  obtain ⟨quote, escaped⟩ := q
  rw [wordsFrom.eq_def, wordStep]
  dsimp only
  cases escaped with
  | true => simp [QuoteState.start]
  | false =>
    rw [if_neg Bool.false_ne_true, if_neg Bool.false_ne_true]
    by_cases hslash : c = '\\' ∧ quote ≠ some '\''
    · have hblank : isBlank c = false := by rw [hslash.1]; rfl
      rw [if_pos hslash, if_pos hslash, if_neg (by simp [hblank])]
    · rw [if_neg hslash, if_neg hslash]
      cases quote with
      | some m => simp [QuoteState.start]
      | none =>
        by_cases hmark : QuoteState.isMark c = true
        · have hblank : isBlank c = false := by
            rcases QuoteState.eq_of_isMark hmark with rfl | rfl <;> rfl
          simp [hmark, hblank]
        · simp [hmark, QuoteState.start, words]

/-! ## Words -/

/-- A text in which no blank ends a word when it is read from a state. -/
def Unbroken (q : QuoteState) (w : Text) : Prop :=
  ∀ p c r, w = p ++ c :: r → isBlank c = true → wordRun q p ≠ .start

/-- A text that is a word: it is not empty, and no blank ends it. -/
structure IsWord (w : Text) : Prop where
  ne_nil : w ≠ []
  unbroken : Unbroken .start w

/-- A text with nothing in it is not broken. -/
theorem unbroken_nil (q : QuoteState) : Unbroken q [] := by
  intro p c r h
  simp at h

/-- What is left of an unbroken text is unbroken. -/
theorem Unbroken.of_cons {q : QuoteState} {c : Char} {w : Text} (h : Unbroken q (c :: w)) :
    ¬ (q = .start ∧ isBlank c = true) ∧ Unbroken (wordStep q c) w := by
  constructor
  · rintro ⟨hq, hc⟩
    exact h [] c w rfl hc hq
  · intro p d r hw hd
    exact h (c :: p) d r (by rw [hw, List.cons_append]) hd

/-- A character that does not end a word leaves it unbroken. -/
theorem Unbroken.concat {q : QuoteState} {w : Text} (h : Unbroken q w) {c : Char}
    (hc : ¬ (wordRun q w = .start ∧ isBlank c = true)) : Unbroken q (w ++ [c]) := by
  intro p d r hw hd hstart
  rcases List.eq_nil_or_concat r with rfl | ⟨front, last, rfl⟩
  · obtain ⟨rfl, hcd⟩ := List.append_inj' hw rfl
    obtain rfl : c = d := by simpa using hcd
    exact hc ⟨hstart, hd⟩
  · have hfront : w = p ++ d :: front := by
      rw [List.concat_eq_append, ← List.cons_append, ← List.append_assoc] at hw
      exact (List.append_inj' hw rfl).1
    exact h p d front hfront hd hstart

/-- A text that no blank breaks becomes a part of the word. -/
theorem wordsFrom_append {q : QuoteState} {w : Text} (h : Unbroken q w) (word t : Text) :
    wordsFrom word q.quote q.escaped (w ++ t) =
      wordsFrom (word ++ w) (wordRun q w).quote (wordRun q w).escaped t := by
  induction w generalizing q word with
  | nil => rw [List.append_nil]; rfl
  | cons c w ih =>
    obtain ⟨hgoes, hrest⟩ := h.of_cons
    rw [List.cons_append, wordsFrom_cons, if_neg hgoes, ih hrest, wordRun_cons, List.append_assoc,
      List.singleton_append]

theorem finishWord_of_ne_nil {w : Text} (h : w ≠ []) : finishWord w = [w] := by
  simp [finishWord, h]

theorem words_cons_blank {c : Char} (hc : isBlank c = true) (t : Text) :
    words (c :: t) = words t := by
  have hcons := wordsFrom_cons [] .start c t
  rw [if_pos ⟨rfl, hc⟩] at hcons
  exact hcons

/-- Blanks in front belong to no word. -/
theorem words_blanks_append {gap : Text} (h : ∀ c ∈ gap, isBlank c = true) (t : Text) :
    words (gap ++ t) = words t := by
  induction gap with
  | nil => rfl
  | cons c gap ih =>
    rw [List.cons_append, words_cons_blank (h c List.mem_cons_self),
      ih fun d hd => h d (List.mem_cons_of_mem c hd)]

/-- A word has one word, itself. -/
theorem IsWord.words_eq {w : Text} (h : IsWord w) : words w = [w] := by
  have happend := wordsFrom_append h.unbroken [] []
  rw [List.append_nil, List.nil_append] at happend
  rw [words]
  exact happend.trans (finishWord_of_ne_nil h.ne_nil)

/-- A blank behind a word that leaves nothing open ends the word. -/
theorem IsWord.words_append_cons {w : Text} (h : IsWord w) (hclosed : wordRun .start w = .start)
    {c : Char} (hc : isBlank c = true) (t : Text) : words (w ++ c :: t) = w :: words t := by
  have happend := wordsFrom_append h.unbroken [] (c :: t)
  rw [List.nil_append, wordsFrom_cons, if_pos ⟨hclosed, hc⟩,
    finishWord_of_ne_nil h.ne_nil] at happend
  exact happend

/-! ## Blanks and words in turn -/

/-- A line as blanks and words in turn. Behind every word but the last nothing is open. -/
inductive Spaced : Text → List Text → Prop
  | blanks {gap : Text} (hgap : ∀ c ∈ gap, isBlank c = true) : Spaced gap []
  | last {gap w : Text} (hgap : ∀ c ∈ gap, isBlank c = true) (hw : IsWord w) : Spaced (gap ++ w) [w]
  | more {gap w : Text} {c : Char} {t : Text} {ws : List Text} (hgap : ∀ c ∈ gap, isBlank c = true)
    (hw : IsWord w)
      (hclosed : wordRun .start w = .start) (hc : isBlank c = true) (rest : Spaced t ws) :
      Spaced (gap ++ (w ++ c :: t)) (w :: ws)

namespace Spaced

variable {line : Text} {ws : List Text}

/-- A blank more in front makes no difference. -/
theorem cons_blank (h : Spaced line ws) {c : Char} (hc : isBlank c = true) :
    Spaced (c :: line) ws := by
  have hcons : ∀ {gap : Text}, (∀ d ∈ gap, isBlank d = true) → ∀ d ∈ c :: gap, isBlank d = true :=
    fun hgap => List.forall_mem_cons.mpr ⟨hc, hgap⟩
  cases h with
  | blanks hgap => exact .blanks (hcons hgap)
  | last hgap hw => exact .last (hcons hgap) hw
  | more hgap hw hclosed hc' rest => exact .more (hcons hgap) hw hclosed hc' rest

/-- The words that a line is written with are its words. -/
theorem words_eq (h : Spaced line ws) : words line = ws := by
  induction h with
  | blanks hgap =>
    have happend := words_blanks_append hgap []
    rwa [List.append_nil] at happend
  | last hgap hw => rw [words_blanks_append hgap, hw.words_eq]
  | more hgap hw hclosed hc _ ih =>
    rw [words_blanks_append hgap, hw.words_append_cons hclosed hc, ih]

/-- What stands between blanks is words. -/
theorem isWord (h : Spaced line ws) : ∀ w ∈ ws, IsWord w := by
  induction h with
  | blanks _ => simp
  | last _ hw => simpa using hw
  | more _ hw _ _ _ ih => exact List.forall_mem_cons.mpr ⟨hw, ih⟩

/-- The blanks before the first word, and behind each word. -/
theorem exists_gaps (h : Spaced line ws) :
    ∃ before gaps, line = before ++ (List.zipWith (· ++ ·) ws gaps).flatten ∧
      gaps.length = ws.length ∧
      isBlankText before = true ∧ (∀ gap ∈ gaps, isBlankText gap = true) ∧
        ∀ gap ∈ gaps.dropLast, gap ≠ [] := by
  induction h with
  | @blanks gap hgap => exact ⟨gap, [], by simp, rfl, List.all_eq_true.mpr hgap, by simp, by simp⟩
  | @last gap w hgap _ =>
    exact ⟨gap, [[]], by simp, rfl, List.all_eq_true.mpr hgap, by simp [isBlankText], by simp⟩
  | @more gap w c t ws hgap _ _ hc _ ih =>
    obtain ⟨before, gaps, rfl, hlength, hbefore, hgaps, hinner⟩ := ih
    -- what stood before the first word of the rest is behind this word now
    refine ⟨gap, (c :: before) :: gaps, by simp, by simp [hlength],
      List.all_eq_true.mpr hgap, ?_, ?_⟩
    · refine List.forall_mem_cons.mpr ⟨?_, hgaps⟩
      rw [isBlankText, List.all_cons, hc, Bool.true_and]
      exact hbefore
    · cases gaps with
      | nil => simp
      | cons first gaps =>
        rw [List.dropLast_cons_of_ne_nil (List.cons_ne_nil _ _)]
        exact List.forall_mem_cons.mpr ⟨List.cons_ne_nil _ _, hinner⟩

/-- The same words with single spaces between them. -/
theorem joinWith (h : Spaced line ws) : Spaced (joinWith [' '] ws) ws := by
  have hnone : ∀ c ∈ ([] : Text), isBlank c = true := by simp
  induction h with
  | blanks _ => exact .blanks hnone
  | last _ hw => exact .last hnone hw
  | @more _ w c t ws _ hw hclosed _ _ ih =>
    cases ws with
    | nil => exact .last hnone hw
    | cons next ws =>
      rw [Text.joinWith, List.append_assoc]
      · exact .more hnone hw hclosed rfl ih
      · simp

end Spaced

/-- The words of a line are the words that it is written with. -/
theorem spaced_words (line : Text) : Spaced line (words line) := by
  -- `word` is the part of the word that has been read
  suffices hword : ∀ (t word : Text), Unbroken .start word →
      Spaced (word ++ t) (wordsFrom word (wordRun .start word).quote
        (wordRun .start word).escaped t) from
    hword line [] (unbroken_nil _)
  have hnone : ∀ c ∈ ([] : Text), isBlank c = true := by simp
  intro t
  induction t with
  | nil =>
    intro word hword
    rw [List.append_nil, wordsFrom]
    by_cases hnil : word = []
    · subst hnil
      exact .blanks hnone
    · rw [finishWord_of_ne_nil hnil]
      exact .last hnone ⟨hnil, hword⟩
  | cons c t ih =>
    intro word hword
    rw [wordsFrom_cons]
    split
    · next hends =>
      have hrest : Spaced t (words t) := ih [] (unbroken_nil _)
      by_cases hnil : word = []
      · subst hnil
        exact hrest.cons_blank hends.2
      · rw [finishWord_of_ne_nil hnil]
        exact .more hnone ⟨hnil, hword⟩ hends.1 hends.2 hrest
    · next hgoes =>
      have hconcat := ih (word ++ [c]) (hword.concat hgoes)
      rw [wordRun_append, List.append_assoc] at hconcat
      exact hconcat

/-- Cutting a line into words splits it and alters nothing. Every word is not empty, has itself as
its only word, and no blank of it stands where nothing is open and nothing is escaped. The line is
its words with blanks before the first and behind the last, and with at least one blank between any
two. Put together with single spaces, the words are cut again in the same way. -/
theorem words_faithful (line : Text) :
    (∀ w ∈ words line, w ≠ [] ∧ words w = [w] ∧ Unbroken .start w) ∧
      (∃ before gaps, line = before ++ (List.zipWith (· ++ ·) (words line) gaps).flatten ∧
        gaps.length = (words line).length ∧ isBlankText before = true ∧
        (∀ gap ∈ gaps, isBlankText gap = true) ∧ ∀ gap ∈ gaps.dropLast, gap ≠ []) ∧
      words (joinWith [' '] (words line)) = words line := by
  have hspaced := spaced_words line
  refine ⟨?_, hspaced.exists_gaps, hspaced.joinWith.words_eq⟩
  intro w hmem
  have hw := hspaced.isWord w hmem
  exact ⟨hw.ne_nil, hw.words_eq, hw.unbroken⟩

/-- Blanks in strings and behind a backslash belong to words, also behind a quote that is never
closed. -/
theorem words_faithful_unclosed :
    words "\techo \"a b\"  c\\ d 'x ".toList =
        ["echo".toList, "\"a b\"".toList, "c\\ d".toList, "'x ".toList] ∧
      words "c\\ d".toList = ["c\\ d".toList] ∧ words "'x ".toList = ["'x ".toList] := by
  have hwords : words "\techo \"a b\"  c\\ d 'x ".toList =
      ["echo".toList, "\"a b\"".toList, "c\\ d".toList, "'x ".toList] := rfl
  have hword : ∀ w ∈ ["echo".toList, "\"a b\"".toList, "c\\ d".toList, "'x ".toList],
      words w = [w] := by
    intro w hmem
    rw [← hwords] at hmem
    exact ((words_faithful _).1 w hmem).2.1
  exact ⟨hwords, hword _ (by simp), hword _ (by simp)⟩

end ShellStyle.Line
