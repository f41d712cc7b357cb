import ShellStyle.Fix.Line
import ShellStyle.Proofs.Opener

/-!
# What the fixers read and write

Every fixer replaces what a matcher reads. The pieces that it changes hold brackets, braces, commas,
blanks and the word `test`, so the operators of heredocs, backslashes and comments of a line are
those of the fixed line.
-/

namespace ShellStyle.Fix

open Text Line

/-! ## Classes of characters -/

theorem char_le_iff {a b : Char} : a ≤ b ↔ a.toNat ≤ b.toNat := by
  rw [Char.le_def, UInt32.le_iff_toNat_le]
  rfl

/-- The characters of a name are the ASCII letters, the digits and the underscore. -/
theorem isNameChar_iff {c : Char} :
    isNameChar c = true ↔ 97 ≤ c.toNat ∧ c.toNat ≤ 122 ∨ 65 ≤ c.toNat ∧ c.toNat ≤ 90 ∨ c = '_' ∨
      48 ≤ c.toNat ∧ c.toNat ≤ 57 := by
  simp only [isNameChar, isNameStart, char_le_iff, Bool.or_eq_true, Bool.and_eq_true,
    decide_eq_true_eq, beq_iff_eq, or_assoc]
  rfl

theorem isWordChar_of_isNameChar {c : Char} (h : isNameChar c = true) : isWordChar c = true := by
  have hascii : c.toNat < 0x80 := by
    rcases isNameChar_iff.mp h with h | h | rfl | h
    · omega
    · omega
    · decide
    · omega
  rw [isWordChar, if_pos hascii]
  simp only [isNameChar, isNameStart, isAsciiWordChar, Bool.or_eq_true] at h ⊢
  exact or_right_comm.mp h

theorem isNameChar_of_isBlank {c : Char} (h : isBlank c = true) : isNameChar c = false := by
  rw [Bool.eq_false_iff]
  intro hname
  simp only [isBlank, Bool.or_eq_true, Bool.and_eq_true, decide_eq_true_eq, beq_iff_eq] at h
  rcases isNameChar_iff.mp hname with hname | hname | rfl | hname
  · omega
  · omega
  · simp at h
  · omega

/-- A blank is plain: it begins no comment, no string and no heredoc. -/
theorem isPlain_of_isBlank {c : Char} (h : isBlank c = true) : isPlain c = true := by
  have hne : ∀ d : Char, isBlank d = false → c ≠ d := fun d => ne_of_isBlank h
  simp [isPlain, QuoteState.isMark, hne '#' rfl, hne '<' rfl, hne '\\' rfl,
    hne '"' rfl, hne '\'' rfl]

/-! ## What the matchers read -/

/-- The operator of a list is one of two, and the text begins with it. -/
theorem listOperator?_eq_some {t op : Text} (h : listOperator? t = some op) :
    (op = ['&', '&'] ∨ op = ['|', '|']) ∧ op <+: t := by
  unfold listOperator? at h
  split at h
  · obtain rfl := Option.some.inj h
    exact ⟨.inl rfl, _, rfl⟩
  · obtain rfl := Option.some.inj h
    exact ⟨.inr rfl, _, rfl⟩
  · simp at h

/-- A bracket closes singly if no second one follows it. -/
theorem closesSingly_iff {t : Text} :
    closesSingly t = true ↔ ∃ rest, t = ']' :: rest ∧ rest.head? ≠ some ']' := by
  unfold closesSingly
  split
  · simp
  · next hne => simpa using fun rest heq => absurd heq (hne rest)

/-- A test in single brackets is read together with its brackets. -/
theorem singleBracket_reads : singleBracket.Reads fun body => ['['] ++ body ++ [']'] := by
  intro before t body n h
  unfold singleBracket at h
  split at h
  · next rest =>
    dsimp only at h
    split at h
    · simp at h
    · split at h
      · next hpadded =>
        obtain ⟨rfl, rfl⟩ := Prod.mk.inj (Option.some.inj h)
        obtain ⟨behind, hbehind, -⟩ := closesSingly_iff.mp (Bool.and_eq_true_iff.mp hpadded).2
        have hrest := takeWhile_append_drop (fun c => c != '[' && c != ']') rest
        rw [hbehind] at hrest
        exact ⟨by simp, by simp, behind, by simpa using hrest⟩
      · simp at h
  · simp at h

/-- A test that is opened by two brackets and closed by one is read as a whole. -/
theorem mixedBracket_reads : mixedBracket.Reads fun body => ['[', '['] ++ body ++ [']'] := by
  intro before t body n h
  unfold mixedBracket at h
  split at h
  · next rest =>
    dsimp only at h
    split at h
    · next hcloses =>
      obtain ⟨rfl, rfl⟩ := Prod.mk.inj (Option.some.inj h)
      rw [Bool.and_eq_true_iff, Bool.and_eq_true_iff] at hcloses
      obtain ⟨behind, hbehind, -⟩ := closesSingly_iff.mp hcloses.1.2
      have hrest := takeWhile_append_drop (· != ']') rest
      rw [hbehind] at hrest
      exact ⟨by simp, by simp, behind, by simpa using hrest⟩
    · simp at h
  · simp at h

/-- What is read where an operator stands right behind a test. -/
theorem operatorAfterTest_spec {before : Option Char} {t op : Text} {n : Nat}
    (h : operatorAfterTest before t = some (op, n)) :
    n = 4 ∧ (op = ['&', '&'] ∨ op = ['|', '|']) ∧ [']', ']'] ++ op <+: t := by
  unfold operatorAfterTest at h
  split at h
  · obtain ⟨op', hop, heq⟩ := Option.map_eq_some_iff.mp h
    obtain ⟨rfl, rfl⟩ := Prod.mk.inj heq
    obtain ⟨hcases, hpre⟩ := listOperator?_eq_some hop
    exact ⟨rfl, hcases, by simpa using hpre⟩
  · simp at h

theorem operatorAfterTest_reads : operatorAfterTest.Reads fun op => [']', ']'] ++ op := by
  intro before t op n h
  obtain ⟨rfl, hop, hpre⟩ := operatorAfterTest_spec h
  exact ⟨by simp, by rcases hop with rfl | rfl <;> rfl, hpre⟩

/-- What is read where an operator stands right before a test. -/
theorem operatorBeforeTest_spec {before : Option Char} {t op : Text} {n : Nat}
    (h : operatorBeforeTest before t = some (op, n)) :
    n = 4 ∧ (op = ['&', '&'] ∨ op = ['|', '|']) ∧ op ++ ['[', '['] <+: t := by
  unfold operatorBeforeTest at h
  split at h
  · next op' hop =>
    split at h
    · next hstart =>
      obtain ⟨rfl, rfl⟩ := Prod.mk.inj (Option.some.inj h)
      obtain ⟨hcases, rest, rfl⟩ := listOperator?_eq_some hop
      have hlength : op'.length = 2 := by rcases hcases with rfl | rfl <;> rfl
      rw [← hlength, List.drop_left, startsWith_iff] at hstart
      exact ⟨rfl, hcases, by simpa using hstart⟩
    · simp at h
  · simp at h

theorem operatorBeforeTest_reads : operatorBeforeTest.Reads fun op => op ++ ['[', '['] := by
  intro before t op n h
  obtain ⟨rfl, hop, hpre⟩ := operatorBeforeTest_spec h
  exact ⟨by simp, by rcases hop with rfl | rfl <;> rfl, hpre⟩

/-- A brace is tight behind a parenthesis, and behind a keyword that is a word of its own. -/
theorem tightBrace_spec {before : Option Char} {t word : Text} {n : Nat}
    (h : tightBrace before t = some (word, n)) :
    n = word.length + 1 ∧ word ++ ['{'] <+: t ∧
      (word = [')'] ∨ (word = ['t', 'h', 'e', 'n'] ∨ word = ['d', 'o']) ∧
        ∀ c ∈ before, isWordChar c = false) := by
  unfold tightBrace at h
  split at h
  · obtain ⟨rfl, rfl⟩ := Prod.mk.inj (Option.some.inj h)
    exact ⟨rfl, ⟨_, rfl⟩, .inl rfl⟩
  · split at h
    · simp at h
    · next hbefore =>
      obtain ⟨word', hmem, hword⟩ := List.exists_of_findSome?_eq_some h
      split at hword
      · next hstart =>
        obtain ⟨rfl, rfl⟩ := Prod.mk.inj (Option.some.inj hword)
        refine ⟨rfl, startsWith_iff.mp hstart, .inr ⟨by simpa using hmem, fun c hc => ?_⟩⟩
        rw [Option.mem_def] at hc
        simpa [hc] using hbefore
      · simp at hword

theorem tightBrace_reads : tightBrace.Reads fun word => word ++ ['{'] := by
  intro before t word n h
  obtain ⟨rfl, hpre, -⟩ := tightBrace_spec h
  exact ⟨by simp, by simp, hpre⟩

/-- A comma is tight if something other than a blank follows it. -/
theorem tightComma_spec {before : Option Char} {t : Text} {a : Unit} {n : Nat} :
    tightComma before t = some (a, n) ↔
      n = 1 ∧ ∃ c rest, isBlank c = false ∧ t = ',' :: c :: rest := by
  unfold tightComma
  split
  · next c rest =>
    by_cases hc : isBlank c = true
    · simp [hc]
    · simp only [hc, Bool.false_eq_true, if_false, Option.some.injEq, Prod.mk.injEq, true_and]
      constructor
      · exact fun hn => ⟨hn.symm, c, rest, by simpa using hc, rfl⟩
      · exact fun h => h.1.symm
  · next hne =>
    constructor
    · simp
    · rintro ⟨-, c, rest, -, rfl⟩
      exact absurd rfl (hne c rest)

/-- Of a tight comma nothing but the comma is read. -/
theorem tightComma_reads : tightComma.Reads fun _ => [','] := by
  intro before t a n h
  obtain ⟨rfl, c, rest, -, rfl⟩ := tightComma_spec.mp h
  exact ⟨by simp, rfl, c :: rest, rfl⟩

/-! ## Harmless edits -/

/-- Pieces that are known in full are judged by computation. -/
theorem isHarmless_of_closed (p : Text) {a b : Text}
    (h : ([a, b].all fun x => !isBlankText x && x.all isPlain && isStopper x) = true) :
    IsHarmless p a b := by
  simp only [List.all_cons, List.all_nil, Bool.and_true, Bool.and_eq_true, Bool.not_eq_true',
    List.all_eq_true] at h
  obtain ⟨⟨⟨ha, hpa⟩, hsa⟩, ⟨hb, hpb⟩, hsb⟩ := h
  exact ⟨⟨ha, hb⟩, ⟨hpa, hpb⟩, .inl ⟨hsa, hsb⟩⟩

/-- The number of brackets in a text. -/
def bracketCount (t : Text) : Nat :=
  t.countP fun c => c == '[' || c == ']'

theorem bracketCount_append (a b : Text) :
    bracketCount (a ++ b) = bracketCount a + bracketCount b :=
  List.countP_append

theorem bracketCount_cons (c : Char) (t : Text) :
    bracketCount (c :: t) = bracketCount [c] + bracketCount t :=
  bracketCount_append [c] t

theorem bracketCount_blanks {gap : Text} (h : ∀ c ∈ gap, isBlank c = true) :
    bracketCount gap = 0 := by
  rw [bracketCount, List.countP_eq_zero]
  intro c hc
  simp [ne_of_isBlank (h c hc) (show isBlank '[' = false from rfl),
    ne_of_isBlank (h c hc) (show isBlank ']' = false from rfl)]

/-- A harmless edit outside of strings that puts in brackets and no pipes. -/
structure IsDoubling (p a b : Text) : Prop extends IsHarmless p a b where
  more : bracketCount a < bracketCount b
  outside : (QuoteState.start.run p).isOpen = false
  pipes : b.count '|' = a.count '|'

/-- Where brackets are put in there are more of them. -/
theorem eq_or_lt_of_doubling {p t u : Text} (h : Rewritten IsDoubling p t u) :
    u = t ∨ bracketCount t < bracketCount u := by
  induction h with
  | nil p => exact .inl rfl
  | @keep p t u c h ih =>
    rcases ih with rfl | hlt
    · exact .inl rfl
    · right
      rw [bracketCount_cons c t, bracketCount_cons c u]
      omega
  | @edit p a b t u hP h ih =>
    right
    have hmore := hP.more
    have hle : bracketCount t ≤ bracketCount u := by
      rcases ih with rfl | hlt
      · exact Nat.le_refl _
      · exact Nat.le_of_lt hlt
    rw [bracketCount_append, bracketCount_append]
    omega

/-- A bare piece begins outside of strings, and its last character stands outside of them too. -/
theorem isBare_concat {p a : Text} {c : Char} (h : isBare p (a ++ [c]) = true) :
    (QuoteState.start.run p).isOpen = false ∧ (QuoteState.start.run (p ++ a)).isOpen = false := by
  simpa [isBare] using h

/-- Doubled brackets around an expression. -/
theorem brackets_doubled {p body : Text} (h : isBare p (['['] ++ body ++ [']']) = true) :
    Rewritten IsDoubling p (['['] ++ body ++ [']']) (doubleBracketed body) := by
  obtain ⟨hopening, hclosing⟩ := isBare_concat h
  refine .append (.append (.single ⟨isHarmless_of_closed p rfl, by decide, hopening, rfl⟩)
    (.refl _ body)) ?_
  exact .single ⟨isHarmless_of_closed _ rfl, by decide, hclosing, rfl⟩

/-- Doubling single brackets is a harmless edit that puts in brackets. -/
theorem replaceUnquoted_singleBracket (line : Text) :
    Rewritten IsDoubling [] line (replaceUnquoted singleBracket singleBracketReplacement line) := by
  refine replaceUnquoted_rewritten singleBracket_reads (fun p body b hbare hb => ?_) line
  unfold singleBracketReplacement at hb
  split at hb
  · simp at hb
  · obtain rfl := Option.some.inj hb
    exact brackets_doubled hbare

/-- Evening out mixed brackets is a harmless edit that puts in brackets. -/
theorem replaceUnquoted_mixedBracket (line : Text) :
    Rewritten IsDoubling [] line
      (replaceUnquoted mixedBracket (fun body => some (doubleBracketed body)) line) := by
  refine replaceUnquoted_rewritten mixedBracket_reads (fun p body b hbare hb => ?_) line
  obtain rfl := Option.some.inj hb
  exact .append (.refl p _) (.single
    ⟨isHarmless_of_closed _ rfl, by decide, (isBare_concat hbare).2, rfl⟩)

/-- A space between a test and the operator behind it is harmless, in strings too. -/
theorem replaceAll_operatorAfterTest (line : Text) :
    Rewritten IsHarmless [] line
      (replaceAll operatorAfterTest (fun op => [']', ']', ' '] ++ op) line) :=
  replaceAll_rewritten operatorAfterTest_reads
    (fun p op => .append (.single (isHarmless_of_closed p rfl)) (.refl _ op)) line

/-- A space between an operator and the test behind it is harmless, in strings too. -/
theorem replaceAll_operatorBeforeTest (line : Text) :
    Rewritten IsHarmless [] line
      (replaceAll operatorBeforeTest (fun op => op ++ [' ', '[', '[']) line) :=
  replaceAll_rewritten operatorBeforeTest_reads
    (fun p op => .append (.refl p op) (.single (isHarmless_of_closed _ rfl))) line

/-- A space before a tight brace is harmless. -/
theorem replaceUnquoted_tightBrace (line : Text) :
    Rewritten IsHarmless [] line
      (replaceUnquoted tightBrace (fun word => some (word ++ [' ', '{'])) line) := by
  refine replaceUnquoted_rewritten tightBrace_reads (fun p word b _ hb => ?_) line
  obtain rfl := Option.some.inj hb
  exact .append (.refl p word) (.single (isHarmless_of_closed _ rfl))

/-- A space behind a tight comma is harmless. -/
theorem replaceUnquoted_tightComma (line : Text) :
    Rewritten IsHarmless [] line (replaceUnquoted tightComma (fun _ => some [',', ' ']) line) := by
  refine replaceUnquoted_rewritten tightComma_reads (fun p _ b _ hb => ?_) line
  obtain rfl := Option.some.inj hb
  exact .single (isHarmless_of_closed p rfl)

/-! ## The `test` command -/

theorem slice_append_slice {t : Text} {i j k : Nat} (hij : i ≤ j) (hjk : j ≤ k) :
    slice t ⟨i, k⟩ = slice t ⟨i, j⟩ ++ slice t ⟨j, k⟩ := by
  simp only [slice]
  rw [show k - i = (j - i) + (k - j) by omega, List.take_add, List.drop_drop,
    show i + (j - i) = j by omega]

/-- Where a `test` command stands in a line: its word outside of strings behind a place where no
name goes on and no operator waits for its word, and the `;` and the keyword that end its
expression. -/
structure TestCommand.IsIn (command : TestCommand) (line : Text) : Prop where
  loose : isLoose (line.take command.word.start) = true
  outside : isQuotedAt line command.word.start = false
  word : ∃ gap, (∀ c ∈ gap, isBlank c = true) ∧
    slice line command.word = ['t', 'e', 's', 't'] ++ gap
  word_le : command.word.start ≤ command.word.stop
  terminator : ∀ hit ∈ command.terminator, command.word.stop ≤ hit.span.start ∧
    hit.span.start ≤ hit.span.stop ∧ hit.span.stop ≤ line.length ∧
      isQuotedAt line hit.span.start = false ∧
    ∃ gap, (∀ c ∈ gap, isBlank c = true) ∧ slice line hit.span = [';'] ++ gap ++ hit.value

/-- The word `test` is read with the blanks behind it, and no word goes on into it. -/
theorem testWord_spec {before : Option Char} {t : Text} {a : Unit} {n : Nat}
    (h : testWord before t = some (a, n)) :
    (∀ c ∈ before, isWordChar c = false) ∧
      ∃ gap, (∀ c ∈ gap, isBlank c = true) ∧ n = 4 + gap.length ∧
        ['t', 'e', 's', 't'] ++ gap <+: t := by
  unfold testWord at h
  split at h
  · simp at h
  · next hbefore =>
    split at h
    · simp at h
    · next rest hrest =>
      rw [after?_eq_some] at hrest
      subst hrest
      dsimp only at h
      split at h
      · simp at h
      · obtain ⟨-, rfl⟩ := Prod.mk.inj (Option.some.inj h)
        refine ⟨fun c hc => ?_, rest.takeWhile isBlank,
          fun c hc => isBlank_of_mem_indent hc, rfl, ?_⟩
        · rw [Option.mem_def] at hc
          subst hc
          simp only [Option.any_some, Bool.or_eq_true, not_or, Bool.not_eq_true] at hbefore
          exact hbefore.1.1.1.1
        · simpa using List.takeWhile_prefix isBlank

/-- A text that ends in a word ends in the word's last character. -/
theorem endsWithWord_getLast? {word t : Text} (hne : word ≠ []) (h : endsWithWord word t = true) :
    t.getLast? = word.getLast? := by
  unfold endsWithWord at h
  split at h
  · simp at h
  · next rest hrest =>
    rw [after?_eq_some] at hrest
    have ht : t = rest.reverse ++ word := by simpa using congrArg List.reverse hrest
    rw [ht, List.getLast?_append, List.getLast?_eq_some_getLast hne]
    rfl

/-- Where a command can stand and no word goes on, no operator waits for its word. -/
theorem isLoose_of_isCommandPosition {p : Text} (hlast : ∀ c ∈ p.getLast?, isWordChar c = false)
    (h : isCommandPosition p = true) : isLoose p = true := by
  rw [isLoose, Bool.and_eq_true]
  constructor
  · rw [Option.all_eq_true]
    intro c hc
    have hword := hlast c hc
    rw [Bool.not_eq_true', Bool.eq_false_iff]
    exact fun hname => by simp [isWordChar_of_isNameChar hname] at hword
  · rw [Option.all_eq_true]
    intro c hc
    -- a command stands behind an operator character or behind a keyword, and none of them is `<` or
    -- ends with `-`
    simp only [isCommandPosition, hc, Bool.or_eq_true, List.any_eq_true] at h
    rcases h with h | ⟨word, hmem, hword⟩
    · have hmem : c ∈ [';', '&', '|', '(', '!', '{'] := by simpa using h
      simp only [List.mem_cons, List.not_mem_nil, or_false] at hmem
      rcases hmem with rfl | rfl | rfl | rfl | rfl | rfl <;> rfl
    · simp only [commandKeywords, List.mem_cons, List.not_mem_nil, or_false] at hmem
      rcases hmem with rfl | rfl | rfl | rfl | rfl | rfl | rfl <;>
      · have hlast := endsWithWord_getLast? (by simp) hword
        rw [hc] at hlast
        obtain rfl := Option.some.inj hlast
        rfl

theorem isPrefix_of_wholeWord? {words : List Text} {t word : Text}
    (h : wholeWord? words t = some word) :
    word <+: t := by
  have hword := List.find?_some h
  split at hword
  · simp at hword
  · next rest hrest => exact ⟨rest, (after?_eq_some.mp hrest).symm⟩

/-- An expression is ended by a semicolon, blanks and a keyword. -/
theorem testTerminator?_spec {t word : Text} {n : Nat} (h : testTerminator? t = some (word, n)) :
    ∃ gap, (∀ c ∈ gap, isBlank c = true) ∧ n = ([';'] ++ gap ++ word).length ∧
      [';'] ++ gap ++ word <+: t := by
  unfold testTerminator? at h
  split at h
  · next rest =>
    obtain ⟨word', hword, heq⟩ := Option.map_eq_some_iff.mp h
    obtain ⟨rfl, rfl⟩ := Prod.mk.inj heq
    obtain ⟨behind, hbehind⟩ := isPrefix_of_wholeWord? hword
    refine ⟨Text.indent rest, fun c hc => isBlank_of_mem_indent hc,
      by simp [Text.indent]; omega, behind, ?_⟩
    calc [';'] ++ Text.indent rest ++ word' ++ behind
      _ = [';'] ++ (Text.indent rest ++ trimLeft rest) := by rw [← hbehind]; simp
      _ = ';' :: rest := by rw [indent_append_trimLeft]; rfl
  · simp at h

theorem slice_of_isPrefix {t a : Text} {i n : Nat} (hn : n = a.length) (h : a <+: t.drop i) :
    slice t ⟨i, i + n⟩ = a := by
  rw [slice, Nat.add_sub_cancel_left, hn]
  exact (List.prefix_iff_eq_take.mp h).symm

/-- The end that is found for an expression lies behind the given place and outside of strings. -/
theorem terminatorAfter_spec {line : Text} {pos : Nat} {hit : Hit Text}
    (h : terminatorAfter line pos = some hit) :
    pos ≤ hit.span.start ∧ hit.span.start ≤ hit.span.stop ∧ hit.span.stop ≤ line.length ∧
      isQuotedAt line hit.span.start = false ∧
      ∃ gap, (∀ c ∈ gap, isBlank c = true) ∧ slice line hit.span = [';'] ++ gap ++ hit.value := by
  unfold terminatorAfter at h
  split at h
  · simp at h
  · next i hi =>
    obtain ⟨⟨word, n⟩, hword, rfl⟩ := Option.map_eq_some_iff.mp h
    obtain ⟨hpos, houtside⟩ : pos ≤ i ∧ isQuotedAt line i = false := by
      have := List.find?_some hi
      simp only [Bool.and_eq_true, decide_eq_true_eq, Bool.not_eq_true'] at this
      exact ⟨this.1.1, this.2⟩
    have hlt : i < line.length := List.mem_range.mp (List.mem_of_find?_eq_some hi)
    obtain ⟨gap, hgap, hn, hpre⟩ := testTerminator?_spec hword
    have hle := hpre.length_le
    rw [← hn, List.length_drop] at hle
    refine ⟨hpos, by simp, ?_, houtside, gap, hgap, slice_of_isPrefix hn hpre⟩
    dsimp only
    omega

/-- Every command that is found stands in the line as it should. -/
theorem isIn_of_mem_testCommands {line : Text} {command : TestCommand}
    (h : command ∈ testCommands line) :
    command.IsIn line := by
  obtain ⟨hit, hhit, heq⟩ := List.mem_filterMap.mp h
  split at heq
  · simp at heq
  · next houtside =>
    split at heq
    · next hpos =>
      obtain rfl := Option.some.inj heq
      have hspec := Matcher.hits_spec hhit
      have hle := (Matcher.hitsFrom_spec [] 0 line hhit).2.1
      obtain ⟨hbefore, gap, hgap, hn, hpre⟩ := testWord_spec hspec
      refine ⟨isLoose_of_isCommandPosition hbefore hpos, by simpa using houtside,
        ⟨gap, hgap, ?_⟩, hle, fun hit hhit => terminatorAfter_spec hhit⟩
      have hslice :=
        slice_of_isPrefix (n := hit.span.stop - hit.span.start) (by simp [hn]; omega) hpre
      rwa [show hit.span.start + (hit.span.stop - hit.span.start) = hit.span.stop by
        omega] at hslice
    · simp at heq

/-- What a conversion is made of. -/
theorem conversion?_spec {line : Text} {cursor : Nat} {command : TestCommand} {edit : Edit}
    (hin : command.IsIn line) (h : conversion? line cursor command = some edit) :
    cursor ≤ edit.span.start ∧ edit.span.start ≤ edit.span.stop ∧ edit.span.stop ≤ line.length ∧
      isLoose (line.take edit.span.start) = true ∧ isQuotedAt line edit.span.start = false ∧
      ∃ gap expr gap' gap'' word, (∀ c ∈ gap ++ gap' ++ gap'', isBlank c = true) ∧
        slice line edit.span = ['t', 'e', 's', 't'] ++ gap ++ expr ++
          (gap' ++ [';'] ++ gap'') ++ word ∧
        edit.text = ['[', '[', ' '] ++ expr ++ [' ', ']', ']', ';', ' '] ++ word ∧
        (QuoteState.start.run (line.take edit.span.start ++
          (['t', 'e', 's', 't'] ++ gap ++ expr ++ gap'))).isOpen =
          false := by
  unfold conversion? at h
  split at h
  · simp at h
  · next terminator hterminator =>
    dsimp only at h
    split at h
    · simp at h
    · next hcond =>
      obtain rfl := Option.some.inj h
      obtain ⟨hstart, hstop, hlength, houtside, gap'', hgap'', hslice''⟩ :=
        hin.terminator terminator hterminator
      obtain ⟨gap, hgap, hslice⟩ := hin.word
      obtain ⟨gap', hexpr, hgap'⟩ :=
        exists_trimRight_append (slice line ⟨command.word.stop, terminator.span.start⟩)
      have hcursor : cursor ≤ command.word.start := by
        simp only [Bool.or_eq_true, decide_eq_true_eq, not_or, Nat.not_lt] at hcond
        exact hcond.1.1.1
      refine ⟨hcursor, Nat.le_trans hin.word_le (Nat.le_trans hstart hstop), hlength, hin.loose,
        hin.outside, gap, _, gap', gap'', terminator.value, ?_, ?_, rfl, ?_⟩
      · simp only [List.mem_append]
        rintro c ((hc | hc) | hc)
        · exact hgap c hc
        · exact hgap' c hc
        · exact hgap'' c hc
      · calc slice line ⟨command.word.start, terminator.span.stop⟩
          _ = slice line command.word ++ slice line ⟨command.word.stop, terminator.span.start⟩ ++
              slice line terminator.span := by
            rw [slice_append_slice (Nat.le_trans hin.word_le hstart) hstop,
              slice_append_slice hin.word_le hstart]
          _ = _ := by
            conv => lhs; rw [hslice, hslice'', hexpr]
            simp
      · -- the expression and the blanks behind it reach up to the terminator
        have htake : line.take terminator.span.start =
            line.take command.word.start ++ (['t', 'e', 's', 't'] ++ gap ++
            trimRight (slice line ⟨command.word.stop, terminator.span.start⟩) ++ gap') := by
          rw [← hslice, List.append_assoc, ← hexpr,
            ← take_append_slice (Nat.le_trans hin.word_le hstart),
            slice_append_slice hin.word_le hstart]
        rw [isQuotedAt, htake] at houtside
        exact houtside

/-- The edits of a line lie one behind another, and each converts one of the commands. -/
theorem conversions_spec {line : Text} {commands : List TestCommand}
    (hin : ∀ command ∈ commands, command.IsIn line) {cursor : Nat}
    (hcursor : cursor ≤ line.length) :
    Span.InOrder cursor line.length ((conversions line cursor commands).map Edit.span) ∧
      ∀ edit ∈ conversions line cursor commands, ∃ cursor, ∃ command ∈ commands,
        conversion? line cursor command = some edit := by
  induction commands generalizing cursor with
  | nil => exact ⟨hcursor, by simp [conversions]⟩
  | cons command rest ih =>
    have hrest := fun command h => hin command (List.mem_cons_of_mem _ h)
    rw [conversions]
    split
    · next edit hedit =>
      obtain ⟨hstart, hstop, hlength, -⟩ := conversion?_spec (hin command List.mem_cons_self) hedit
      obtain ⟨horder, hmem⟩ := ih hrest hlength
      refine ⟨⟨hstart, hstop, horder⟩, fun edit' h => ?_⟩
      rcases List.mem_cons.mp h with rfl | h
      · exact ⟨cursor, command, List.mem_cons_self, hedit⟩
      · obtain ⟨cursor', command', hcommand, heq⟩ := hmem edit' h
        exact ⟨cursor', command', List.mem_cons_of_mem _ hcommand, heq⟩
    · obtain ⟨horder, hmem⟩ := ih hrest hcursor
      refine ⟨horder, fun edit' h => ?_⟩
      obtain ⟨cursor', command', hcommand, heq⟩ := hmem edit' h
      exact ⟨cursor', command', List.mem_cons_of_mem _ hcommand, heq⟩

/-- Blanks, a `;` and blanks are a stopper. -/
theorem isStopper_separator {gap : Text} (hgap : ∀ c ∈ gap, isBlank c = true) (gap' : Text) :
    isStopper (gap ++ [';'] ++ gap') = true := by
  have hhead : (gap ++ [';'] ++ gap').head? ≠ some '-' := by
    cases gap with
    | nil => simp
    | cons c gap =>
      simpa using ne_of_isBlank (hgap c List.mem_cons_self) (show isBlank '-' = false from rfl)
  have hname : ((gap ++ [';'] ++ gap').dropWhile isGap).head?.any (fun c => !isNameChar c) =
      true := by
    clear hhead
    induction gap with
    | nil => rfl
    | cons c gap ih =>
      have hc := isNameChar_of_isBlank (hgap c List.mem_cons_self)
      by_cases hcgap : isGap c = true
      · simpa [hcgap] using ih fun d hd => hgap d (List.mem_cons_of_mem c hd)
      · simp [hcgap, hc]
  rw [isStopper, hname, Bool.and_true, bne_iff_ne]
  exact hhead

/-- The word `test` and the blanks behind it become two brackets and a space. -/
theorem testWord_doubled {p gap : Text} (hgap : ∀ c ∈ gap, isBlank c = true)
    (hloose : isLoose p = true) (houtside : (QuoteState.start.run p).isOpen = false) :
    IsDoubling p (['t', 'e', 's', 't'] ++ gap) ['[', '[', ' '] := by
  have hword : ∀ c ∈ ['t', 'e', 's', 't'], isPlain c = true := List.all_eq_true.mp rfl
  refine ⟨⟨⟨rfl, rfl⟩, ⟨?_, List.all_eq_true.mp rfl⟩, .inr hloose⟩, ?_, houtside, ?_⟩
  · intro c hc
    rcases List.mem_append.mp hc with hc | hc
    · exact hword c hc
    · exact isPlain_of_isBlank (hgap c hc)
  · rw [bracketCount_append, bracketCount_blanks hgap]
    decide
  · rw [List.count_append, count_blanks hgap rfl]
    rfl

/-- The `;` and the blanks around it become a space, two brackets, the `;` and a space. -/
theorem separator_doubled {p gap gap' : Text} (hgap : ∀ c ∈ gap, isBlank c = true)
    (hgap' : ∀ c ∈ gap', isBlank c = true) (houtside : (QuoteState.start.run p).isOpen = false) :
    IsDoubling p (gap ++ [';'] ++ gap') [' ', ']', ']', ';', ' '] := by
  refine ⟨⟨⟨?_, rfl⟩, ⟨?_, List.all_eq_true.mp rfl⟩, .inl ⟨isStopper_separator hgap gap', rfl⟩⟩,
    ?_, houtside, ?_⟩
  · rw [isBlankText_append, isBlankText_append, show isBlankText [';'] = false from rfl]
    simp
  · simp only [List.mem_append, List.mem_singleton]
    rintro c ((hc | rfl) | hc)
    · exact isPlain_of_isBlank (hgap c hc)
    · rfl
    · exact isPlain_of_isBlank (hgap' c hc)
  · rw [bracketCount_append, bracketCount_append, bracketCount_blanks hgap,
      bracketCount_blanks hgap']
    decide
  · rw [List.count_append, List.count_append, count_blanks hgap rfl, count_blanks hgap' rfl]
    rfl

/-- Writing `test` commands with double brackets is harmless. -/
theorem convertTestCommands_rewritten (line : Text) :
    Rewritten IsDoubling [] line (convertTestCommands line) := by
  have hin : ∀ command ∈ testCommands line, command.IsIn line :=
    fun _ h => isIn_of_mem_testCommands h
  obtain ⟨horder, hmem⟩ := conversions_spec hin (Nat.zero_le line.length)
  refine splice_rewritten horder fun edit hedit => ?_
  obtain ⟨cursor, command, hcommand, hconv⟩ := hmem edit hedit
  obtain ⟨-, -, -, hloose, houtside, gap, expr, gap', gap'', word, hblank, hslice,
      htext, hclosing⟩ :=
    conversion?_spec (hin command hcommand) hconv
  simp only [List.mem_append] at hblank
  have hgap' : ∀ c ∈ gap', isBlank c = true := fun c hc => hblank c (.inl (.inr hc))
  -- the blanks before the `;` stand outside of strings as the `;` does
  rw [← List.append_assoc, QuoteState.run_append,
    QuoteState.isOpen_run (QuoteState.isProper_start.run _)
    fun c hc => isMark_of_isPlain (isPlain_of_isBlank (hgap' c hc))] at hclosing
  rw [hslice, htext]
  -- `test` becomes `[[`, and `;` becomes `]];`; the expression between them and the keyword stay
  refine .append (.append (.append (.single ?_) (.refl _ expr)) (.single ?_)) (.refl _ word)
  · exact testWord_doubled (fun c hc => hblank c (.inl (.inl hc))) hloose houtside
  · exact separator_doubled hgap' (fun c hc => hblank c (.inr hc)) hclosing

/-! ## Harmlessly edited lines -/

/-- A line that begins with plain characters, not all of them blank, is no comment. -/
theorem isComment_plain_append {a : Text} (t : Text) (hsolid : isBlankText a = false)
    (hplain : ∀ c ∈ a, isPlain c = true) : isComment (a ++ t) = false := by
  obtain ⟨c, r, htrim⟩ : ∃ c r, trimLeft a = c :: r :=
    List.exists_cons_of_ne_nil fun hnil => by simp [isBlankText_iff_trimLeft.mpr hnil] at hsolid
  have hmem : c ∈ trimLeft a := by simp [htrim]
  have hc := hplain c ((List.dropWhile_sublist isBlank).mem hmem)
  rw [isComment, trimLeft_append hsolid, htrim]
  simp only [isPlain, Bool.and_eq_true, bne_iff_ne] at hc
  simpa using hc.1.1.1

/-- Harmless edits make no comment, and undo none. -/
theorem isComment_of_rewritten {p t u : Text} (h : Rewritten IsHarmless p t u) :
    isComment t = isComment u := by
  induction h with
  | nil p => rfl
  | @keep p t u c h ih =>
    by_cases hc : isBlank c = true
    · simpa [isComment, trimLeft, hc] using ih
    · simp [isComment, trimLeft, hc]
  | @edit p a b t u hP h ih =>
    rw [isComment_plain_append t hP.solid.1 hP.plain.1,
      isComment_plain_append u hP.solid.2 hP.plain.2]

theorem trailingBackslashes_eq_zero {t : Text} (h : ∀ c ∈ t, c ≠ '\\') :
    trailingBackslashes t = 0 := by
  rw [trailingBackslashes, List.length_eq_zero_iff]
  cases hr : t.reverse with
  | nil => rfl
  | cons c r =>
    have hc := h c (by rw [← List.mem_reverse, hr]; exact List.mem_cons_self)
    simp [hc]

/-- Backslashes at the end of a text go on in front of it only if it has nothing else. -/
theorem trailingBackslashes_append (a t : Text) :
    trailingBackslashes (a ++ t) =
      if t.all (· == '\\') then trailingBackslashes a + trailingBackslashes t
        else trailingBackslashes t := by
  simp only [trailingBackslashes, List.reverse_append]
  split
  · next hall =>
    have hrev : ∀ c ∈ t.reverse, (c == '\\') = true := by simpa using hall
    have htake : (t.reverse ++ []).takeWhile (· == '\\') = t.reverse ++ [] :=
      List.takeWhile_append_of_pos hrev
    rw [List.append_nil] at htake
    rw [List.takeWhile_append_of_pos hrev, htake, List.length_append, Nat.add_comm]
  · next hall =>
    rw [List.takeWhile_append]
    split
    · next hlength =>
      exfalso
      apply hall
      have htake := (List.takeWhile_prefix (· == '\\') (l := t.reverse)).eq_of_length hlength
      rw [List.all_eq_true]
      intro c hc
      rw [← List.mem_reverse, ← htake] at hc
      exact List.all_eq_true.mp List.all_takeWhile c hc
    · rfl

/-- Plain characters, not all of them blank, have something that is neither blank nor a backslash,
so the backslashes at the end of a line do not reach them. -/
theorem trailingBackslashes_plain_append {a : Text} (t : Text) (hsolid : isBlankText a = false)
    (hplain : ∀ c ∈ a, isPlain c = true) :
    trimRight (a ++ t) ≠ [] ∧ (trimRight (a ++ t)).all (· == '\\') = false ∧
      trailingBackslashes (trimRight (a ++ t)) = trailingBackslashes (trimRight t) := by
  have hslash : ∀ c ∈ a, c ≠ '\\' := by
    rintro c hc rfl
    simpa [isPlain] using hplain _ hc
  have hnone : ∀ {x : Text} (y : Text), x ≠ [] → (∀ c ∈ x, c ∈ a) →
      (x ++ y).all (· == '\\') = false := by
    intro x y hne hsub
    obtain ⟨c, hc⟩ := List.exists_mem_of_ne_nil x hne
    rw [List.all_eq_false]
    exact ⟨c, List.mem_append_left y hc, by simpa using hslash c (hsub c hc)⟩
  by_cases ht : trimRight t = []
  -- nothing but blanks follows, and trimming goes on into the characters
  · have hblank := isBlankText_iff_trimRight.mpr ht
    rw [isBlankText, List.all_eq_true] at hblank
    rw [trimRight_append_blanks a hblank, ht]
    have hne : trimRight a ≠ [] :=
      fun hnil => by simp [isBlankText_iff_trimRight.mpr hnil] at hsolid
    have hsub : ∀ c ∈ trimRight a, c ∈ a := by
      obtain ⟨gap, ha, -⟩ := exists_trimRight_append a
      intro c hc
      rw [ha]
      exact List.mem_append_left _ hc
    have hall := hnone [] hne hsub
    rw [List.append_nil] at hall
    exact ⟨hne, hall, trailingBackslashes_eq_zero fun c hc => hslash c (hsub c hc)⟩
  · have hne : a ≠ [] := by
      rintro rfl
      simp [isBlankText] at hsolid
    rw [trimRight_append_of_ne_nil a ht]
    refine ⟨by simp [hne], hnone _ hne fun c hc => hc, ?_⟩
    rw [trailingBackslashes_append, trailingBackslashes_eq_zero hslash]
    simp

/-- Harmless edits keep the backslashes at the end of a line. -/
theorem trailingBackslashes_of_rewritten {p t u : Text} (h : Rewritten IsHarmless p t u) :
    (trimRight t = [] ↔ trimRight u = []) ∧
      (trimRight t).all (· == '\\') = (trimRight u).all (· == '\\') ∧
      trailingBackslashes (trimRight t) = trailingBackslashes (trimRight u) := by
  -- the backslashes of a longer line depend on whether the shorter one has anything else
  induction h with
  | nil p => exact ⟨.rfl, rfl, rfl⟩
  | @keep p t u c h ih =>
    obtain ⟨hnil, hall, hcount⟩ := ih
    by_cases ht : trimRight t = []
    · have hu := hnil.mp ht
      simp [trimRight, ht, hu]
    · have hu := mt hnil.mpr ht
      rw [trimRight_cons_of_ne_nil c ht, trimRight_cons_of_ne_nil c hu]
      refine ⟨by simp, by rw [List.all_cons, List.all_cons, hall], ?_⟩
      rw [← List.singleton_append, trailingBackslashes_append,
        ← List.singleton_append (l := trimRight u), trailingBackslashes_append, hcount, hall]
  | @edit p a b t u hP h ih =>
    obtain ⟨hta, htb, htc⟩ := trailingBackslashes_plain_append t hP.solid.1 hP.plain.1
    obtain ⟨hua, hub, huc⟩ := trailingBackslashes_plain_append u hP.solid.2 hP.plain.2
    exact ⟨by simp [hta, hua], by rw [htb, hub], by rw [htc, huc, ih.2.2]⟩

/-- A line and what is made of it agree in what the lines around them depend on: whether they open a
heredoc, go on in the next line, are comments, are blank. -/
structure IsKept (t u : Text) : Prop where
  opensHeredoc : opensHeredoc u = opensHeredoc t
  isContinued : isContinued u = isContinued t
  isComment : isComment u = isComment t
  isBlankText : isBlankText u = isBlankText t

theorem IsKept.refl (t : Text) : IsKept t t :=
  ⟨rfl, rfl, rfl, rfl⟩

theorem IsKept.trans {t u v : Text} (h : IsKept t u) (h' : IsKept u v) : IsKept t v :=
  ⟨h'.opensHeredoc.trans h.opensHeredoc, h'.isContinued.trans h.isContinued,
    h'.isComment.trans h.isComment, h'.isBlankText.trans h.isBlankText⟩

/-- Harmless edits keep what other lines depend on. -/
theorem IsKept.of_rewritten {t u : Text} (h : Rewritten IsHarmless [] t u) : IsKept t u where
  opensHeredoc := by
    rw [opensHeredoc_eq, opensHeredoc_eq]
    exact (opensFrom_of_rewritten h QuoteState.isProper_start .rfl).symm
  isContinued := by
    rw [Line.isContinued, Line.isContinued, (trailingBackslashes_of_rewritten h).2.2]
  isComment := (isComment_of_rewritten h).symm
  isBlankText := by
    rw [Bool.eq_iff_iff, isBlankText_iff_trimRight, isBlankText_iff_trimRight]
    exact (trailingBackslashes_of_rewritten h).1.symm

/-- The fixer for brackets keeps what other lines depend on. -/
theorem brackets_isKept (s : Settings) (line : Text) : IsKept line (brackets s line) := by
  unfold brackets
  split
  · exact .refl line
  · have hkept : ∀ {t u : Text}, Rewritten IsDoubling [] t u → IsKept t u :=
      fun h => .of_rewritten (h.mono fun _ _ _ => IsDoubling.toIsHarmless)
    exact (hkept (convertTestCommands_rewritten line)).trans
      ((hkept (replaceUnquoted_singleBracket _)).trans (hkept (replaceUnquoted_mixedBracket _)))

/-- Where the fixer for brackets changes a line it puts in brackets. -/
theorem brackets_eq_or_lt (s : Settings) (line : Text) :
    brackets s line = line ∨ bracketCount line < bracketCount (brackets s line) := by
  unfold brackets
  split
  · exact .inl rfl
  · have htrans : ∀ {a b c : Text}, b = a ∨ bracketCount a < bracketCount b →
        c = b ∨ bracketCount b < bracketCount c → c = a ∨ bracketCount a < bracketCount c := by
      rintro a b c (rfl | hab) (rfl | hbc)
      · exact .inl rfl
      · exact .inr hbc
      · exact .inr hab
      · exact .inr (Nat.lt_trans hab hbc)
    exact htrans (htrans (eq_or_lt_of_doubling (convertTestCommands_rewritten line))
      (eq_or_lt_of_doubling (replaceUnquoted_singleBracket _)))
      (eq_or_lt_of_doubling (replaceUnquoted_mixedBracket _))

theorem operatorSpacing_isKept (s : Settings) (line : Text) :
    IsKept line (operatorSpacing s line) := by
  unfold operatorSpacing
  split
  · exact .refl line
  · exact (IsKept.of_rewritten (replaceAll_operatorAfterTest line)).trans
      (.of_rewritten (replaceAll_operatorBeforeTest _))

theorem braceSpacing_isKept (s : Settings) (line : Text) : IsKept line (braceSpacing s line) := by
  unfold braceSpacing
  split
  · exact .refl line
  · exact .of_rewritten (replaceUnquoted_tightBrace line)

theorem commaSpacing_isKept (s : Settings) (line : Text) : IsKept line (commaSpacing s line) := by
  unfold commaSpacing
  split
  · exact .refl line
  · exact .of_rewritten (replaceUnquoted_tightComma line)

/-- Fixing the text of a line keeps what other lines depend on. -/
theorem content_isKept (s : Settings) (line : Text) : IsKept line (content s line) :=
  (brackets_isKept s line).trans ((operatorSpacing_isKept s _).trans
    ((braceSpacing_isKept s _).trans (commaSpacing_isKept s _)))

/-! ## Indented lines -/

/-- Whether a line opens a heredoc does not depend on its margin. -/
theorem opensHeredoc_blanks_append {gap : Text} (hgap : ∀ c ∈ gap, isBlank c = true) (t : Text) :
    opensHeredoc (gap ++ t) = opensHeredoc t := by
  cases gap with
  | nil => rfl
  | cons c gap =>
    have hplain : ∀ d ∈ c :: gap, isPlain d = true := fun d hd => isPlain_of_isBlank (hgap d hd)
    rw [opensHeredoc_eq, opensHeredoc_eq,
      opensFrom_plain QuoteState.isProper_start (List.cons_ne_nil c gap) hplain none t]
    refine (opensFrom_of_rewritten (.refl [] t) QuoteState.isProper_start ?_).symm
    simp [getLast?_ne_of_isPlain hplain]

/-- Whether a line is a comment does not depend on its margin. -/
theorem isComment_blanks_append {gap : Text} (hgap : ∀ c ∈ gap, isBlank c = true) (t : Text) :
    isComment (gap ++ t) = isComment t := by
  rw [isComment, isComment, trimLeft, List.dropWhile_append_of_pos hgap]
  rfl

/-- What a line is does not depend on the blanks it begins with. -/
theorem isKept_blanks_append {gap : Text} (hgap : ∀ c ∈ gap, isBlank c = true) {t : Text}
    (ht : isBlankText t = false) : IsKept t (gap ++ t) := by
  have hblank : Text.isBlankText (gap ++ t) = Text.isBlankText t := by
    rw [isBlankText_append, ht, Bool.and_false]
  refine ⟨opensHeredoc_blanks_append hgap t, ?_, isComment_blanks_append hgap t, hblank⟩
  have hne : trimRight t ≠ [] := fun hnil => by simp [isBlankText_iff_trimRight.mpr hnil] at ht
  have hslash : ∀ d ∈ gap, d ≠ '\\' := fun d hd => ne_of_isBlank (hgap d hd) rfl
  rw [Line.isContinued, Line.isContinued, trimRight_append_of_ne_nil _ hne,
    trailingBackslashes_append, trailingBackslashes_eq_zero hslash]
  simp

/-- Taking away the margin keeps what other lines depend on. -/
theorem isKept_trimLeft {t : Text} (ht : isBlankText t = false) : IsKept t (trimLeft t) := by
  rw [← isBlankText_trimLeft] at ht
  have hkept : IsKept (trimLeft t) (indent t ++ trimLeft t) :=
    isKept_blanks_append (fun c hc => isBlank_of_mem_indent hc) ht
  rw [indent_append_trimLeft] at hkept
  exact ⟨hkept.opensHeredoc.symm, hkept.isContinued.symm, hkept.isComment.symm,
    hkept.isBlankText.symm⟩

/-- A margin that can be made is spaces, and none if the count is negative. -/
theorem eq_replicate_of_spaces [Machine] {count : Int} {margin : Text}
    (h : spaces count = .ok margin) :
    margin = List.replicate count.toNat ' ' := by
  unfold spaces at h
  split at h
  · simp at h
  · split at h
    · simp at h
    · exact (Except.ok.inj h).symm

theorem isBlank_of_mem_spaces [Machine] {count : Int} {margin : Text}
    (h : spaces count = .ok margin) :
    ∀ c ∈ margin, isBlank c = true := by
  intro c hc
  rw [eq_replicate_of_spaces h] at hc
  rw [List.eq_of_mem_replicate hc]
  rfl

/-- Indenting leaves a line alone or gives it another margin. -/
theorem indentation_spec [Machine] {s : Settings} {level : Int} {line u : Text}
    (h : indentation s level false line = .ok u) :
    u = line ∨ isBlankText line = false ∧ ∃ margin, (∀ c ∈ margin, isBlank c = true) ∧
      u = margin ++ trimLeft line := by
  unfold indentation at h
  split at h
  · exact .inl (Except.ok.inj h).symm
  · next hcond =>
    simp only [Bool.or_eq_true, not_or, Bool.not_eq_true] at hcond
    cases hsize : s.indentSize with
    | error e => simp [hsize, bind, Except.bind] at h
    | ok size =>
      cases hmargin : spaces (level * size) with
      | error e => simp [hsize, hmargin, bind, Except.bind] at h
      | ok margin =>
        simp only [hsize, hmargin, bind, Except.bind, pure, Except.pure, Except.ok.injEq] at h
        exact .inr ⟨hcond.2, margin, isBlank_of_mem_spaces hmargin, h.symm⟩

/-- Indenting keeps what other lines depend on. -/
theorem indentation_isKept [Machine] {s : Settings} {level : Int} {line u : Text}
    (h : indentation s level false line = .ok u) : IsKept line u := by
  rcases indentation_spec h with rfl | ⟨hsolid, margin, hmargin, rfl⟩
  · exact .refl _
  · exact (isKept_trimLeft hsolid).trans
      (isKept_blanks_append hmargin (by rwa [isBlankText_trimLeft]))

/-! ## Formatted lines -/

/-- Breaking leaves a line alone or, if it is too long and nothing holds the rule back, makes two of
it. -/
theorem wrap_cases [Machine] {s : Settings} {line : Text} {written : List Text}
    (h : wrap s line = .ok written) :
    written = [line] ∨
      (∃ limit, s.maxLineLength = .ok limit ∧ limit < (line.length : Int)) ∧
        isGuarded s .lineLength line = false ∧ isContinued line = false ∧
          hasMatchOperator line = false ∧
        ∃ hit size step, breakPoint? (code line) = some hit ∧ s.indentSize = .ok size ∧
          spaces size = .ok step ∧
          isBlankText (trimRight (line.take hit.span.start)) = false ∧
          isBlankText ((code line).drop hit.span.stop) = false ∧
          written = [trimRight (line.take hit.span.start) ++ [' '] ++ hit.value ++ [' ', '\\'],
            indent line ++ step ++ trim (line.drop hit.span.stop)] := by
  unfold wrap at h
  cases hlimit : s.maxLineLength with
  | error e => simp [hlimit, bind, Except.bind] at h
  | ok limit =>
    simp only [hlimit, bind, Except.bind, pure, Except.pure] at h
    split at h
    · exact .inl (Except.ok.inj h).symm
    · next hcond =>
      -- from here on the line is too long and nothing holds the rule back
      simp only [Bool.or_eq_true, not_or, Bool.not_eq_true, decide_eq_true_eq, Int.not_le] at hcond
      split at h
      · exact .inl (Except.ok.inj h).symm
      · next hit hhit =>
        unfold breakAt at h
        dsimp only at h
        split at h
        · exact .inl (Except.ok.inj h).symm
        · next hparts =>
          simp only [Bool.or_eq_true, not_or, Bool.not_eq_true] at hparts
          cases hsize : s.indentSize with
          | error e => simp [hsize, bind, Except.bind] at h
          | ok size =>
            cases hstep : spaces size with
            | error e => simp [hsize, hstep, bind, Except.bind] at h
            | ok step =>
              simp only [hsize, hstep, bind, Except.bind, pure, Except.pure, Except.ok.injEq] at h
              exact .inr ⟨⟨limit, rfl, hcond.1.1.1⟩, hcond.1.1.2, hcond.1.2, hcond.2, hit, size,
                step, hhit, rfl, hstep, hparts.1, hparts.2, h.symm⟩

/-- Breaking leaves a line alone or makes two of it. -/
theorem wrap_spec [Machine] {s : Settings} {line : Text} {written : List Text}
    (h : wrap s line = .ok written) :
    written = [line] ∨
      isGuarded s .lineLength line = false ∧ isContinued line = false ∧
        hasMatchOperator line = false ∧
        ∃ hit step, breakPoint? (code line) = some hit ∧ (∀ c ∈ step, isBlank c = true) ∧
          isBlankText (trimRight (line.take hit.span.start)) = false ∧
          isBlankText ((code line).drop hit.span.stop) = false ∧
          written = [trimRight (line.take hit.span.start) ++ [' '] ++ hit.value ++ [' ', '\\'],
            indent line ++ step ++ trim (line.drop hit.span.stop)] := by
  rcases wrap_cases h with heq
    | ⟨-, hguarded, hcontinued, hmatch, hit, size, step, hhit, -, hstep, hparts⟩
  · exact .inl heq
  · exact .inr ⟨hguarded, hcontinued, hmatch, hit, step, hhit, isBlank_of_mem_spaces hstep, hparts⟩

/-- One line that comes of breaking is the line itself. -/
theorem eq_of_wrap_singleton [Machine] {s : Settings} {line u : Text} (h : wrap s line = .ok [u]) :
    u = line := by
  rcases wrap_spec h with heq | ⟨-, -, -, hit, step, -, -, -, -, heq⟩
  · simpa using heq
  · simp at heq

/-- A line is passed over, or its text is fixed, indented and perhaps broken. -/
theorem line_spec [Machine] {s : Settings} {level : Int} {mayWrap : Bool} {t : Text}
    {written : List Text} (h : line s level false mayWrap t = .ok written) :
    (context t).isInert = true ∧ written = [t] ∨
      (context t).isInert = false ∧ ∃ fixed, indentation s level false (content s t) = .ok fixed ∧
        (mayWrap = false ∧ written = [fixed] ∨ mayWrap = true ∧ wrap s fixed = .ok written) := by
  unfold line at h
  cases hinert : (context t).isInert with
  | true =>
    rw [hinert, Bool.or_true, if_pos rfl] at h
    exact .inl ⟨rfl, (Except.ok.inj h).symm⟩
  | false =>
    rw [hinert, Bool.or_false, if_neg Bool.false_ne_true] at h
    refine .inr ⟨rfl, ?_⟩
    cases hfixed : indentation s level false (content s t) with
    | error e => simp [hfixed, bind, Except.bind] at h
    | ok fixed =>
      refine ⟨fixed, rfl, ?_⟩
      simp only [hfixed, bind, Except.bind, pure, Except.pure] at h
      cases mayWrap with
      | false => exact .inl ⟨rfl, by simpa using h.symm⟩
      | true => exact .inr ⟨rfl, by simpa using h⟩

/-- A line that is not broken is passed over, or its text is fixed and indented. -/
theorem line_singleton_spec [Machine] {s : Settings} {level : Int} {mayWrap : Bool} {t u : Text}
    (h : line s level false mayWrap t = .ok [u]) :
    (context t).isInert = true ∧ u = t ∨
      (context t).isInert = false ∧ indentation s level false (content s t) = .ok u ∧
        (mayWrap = true → wrap s u = .ok [u]) := by
  rcases line_spec h with ⟨hinert, heq⟩ | ⟨hinert, fixed, hfixed, ⟨hfalse, heq⟩ | ⟨-, hwrap⟩⟩
  · exact .inl ⟨hinert, by simpa using heq⟩
  · obtain rfl : u = fixed := by simpa using heq
    exact .inr ⟨hinert, hfixed, by simp [hfalse]⟩
  · obtain rfl := eq_of_wrap_singleton hwrap
    exact .inr ⟨hinert, hfixed, fun _ => hwrap⟩

/-- A line that is not broken stays what it was to the lines around it. -/
theorem line_isKept [Machine] {s : Settings} {level : Int} {mayWrap : Bool} {t u : Text}
    (h : line s level false mayWrap t = .ok [u]) : IsKept t u := by
  rcases line_singleton_spec h with ⟨-, rfl⟩ | ⟨-, hfixed, -⟩
  · exact .refl u
  · exact (content_isKept s t).trans (indentation_isKept hfixed)

/-- A line comes out as one line or as two. -/
theorem line_singleton_or_pair [Machine] {s : Settings} {level : Int} {mayWrap : Bool} {t : Text}
    {written : List Text} (h : line s level false mayWrap t = .ok written) :
    (∃ u, written = [u]) ∨ written.length = 2 := by
  rcases line_spec h with ⟨-, rfl⟩ | ⟨-, fixed, -, ⟨-, rfl⟩ | ⟨-, hwrap⟩⟩
  · exact .inl ⟨t, rfl⟩
  · exact .inl ⟨fixed, rfl⟩
  · rcases wrap_spec hwrap with rfl | ⟨-, -, -, hit, step, -, -, -, -, rfl⟩
    · exact .inl ⟨fixed, rfl⟩
    · exact .inr rfl

/-- Formatting a line leaves at least one line. -/
theorem line_ne_nil [Machine] {s : Settings} {level : Int} {mayWrap : Bool} {t : Text}
    {written : List Text} (h : line s level false mayWrap t = .ok written) : written ≠ [] := by
  rcases line_singleton_or_pair h with ⟨u, rfl⟩ | hpair
  · simp
  · rintro rfl
    simp at hpair

/-- A line that is not broken does not begin to open a heredoc. -/
theorem context_line_ne_heredocStart [Machine] {s : Settings} {level : Int} {mayWrap : Bool}
    {t u : Text} (h : line s level false mayWrap t = .ok [u]) (ht : context t ≠ .heredocStart) :
    context u ≠ .heredocStart := by
  intro hu
  rcases line_singleton_spec h with ⟨-, rfl⟩ | ⟨hinert, -⟩
  · exact ht hu
  · have hopens := (line_isKept h).opensHeredoc
    rw [opensHeredoc_of_context hu] at hopens
    exact ht (context_of_opensHeredoc hinert hopens.symm)

end ShellStyle.Fix
