import ShellStyle.Proofs.LineBreak
import ShellStyle.Proofs.Nesting

/-!
# Functions

The opening brace of a function stands behind the head of the function or in a line of its own below
the head. In both cases one brace closes the function. A head with its brace opens one block, so
that the level behind the function is the one before it; a head without the brace and the brace
below it open a block each, and the level behind the function is one too high.
-/

namespace ShellStyle.Script

open Text Line

/-! ## Lines that come back -/

namespace Tracker

/-- A line that closes a block goes one level back, but not below zero. -/
theorem level_dedent (t : Tracker) (line : Text) :
    (t.dedent line).level =
      if closesBlock (trim (code line)) then max 0 (t.level - 1) else t.level := by
  unfold dedent
  split <;> rfl

theorem pass_eq (t : Tracker) (line : Text) :
    t.pass line = if opensBlock (trim (code line)) then (t.dedent line).deeper else t.dedent line :=
  rfl

/-- Lines behind which the level is the one before them, and of which none stands further left. -/
structure ComesBack (t : Tracker) (lines : List Text) : Prop where
  level_eq : (lines.foldl pass t).level = t.level
  le_levels : ∀ found ∈ t.levels lines, t.level ≤ found

/-- Two runs through the same lines stay as far apart as they were, if the first stays at a level
above zero: there no level is lost. `d` is how far both are above their lowest levels `m` and
`l`. -/
theorem levels_apart {u t : Tracker} {m l : Int} {d : Nat} (hm : 0 < m) (hl : 0 ≤ l)
    (hu : u.level = m + d) (ht : t.level = l + d) {lines : List Text}
    (hlow : ∀ found ∈ u.levels lines, m ≤ found) :
    ∃ e : Nat, (lines.foldl pass u).level = m + e ∧ (lines.foldl pass t).level = l + e := by
  induction lines generalizing u t d with
  | nil => exact ⟨d, hu, ht⟩
  | cons line lines ih =>
    -- both levels are `d` above their floors; `u` never gets below its own, so that closing a block
    -- takes one off both
    have hline : m ≤ (u.dedent line).level := hlow _ List.mem_cons_self
    obtain ⟨d', hu', ht'⟩ :
        ∃ d' : Nat, (u.dedent line).level = m + d' ∧ (t.dedent line).level = l + d' := by
      rw [level_dedent] at hline
      rw [level_dedent, level_dedent]
      split at hline
      · next hcloses =>
        rw [if_pos hcloses, if_pos hcloses]
        exact ⟨d - 1, by omega, by omega⟩
      · next hcloses =>
        rw [if_neg hcloses, if_neg hcloses]
        exact ⟨d, hu, ht⟩
    have hrest : ∀ found ∈ (u.pass line).levels lines, m ≤ found :=
      fun found hfound => hlow found (List.mem_cons_of_mem _ hfound)
    obtain ⟨d'', hu'', ht''⟩ :
        ∃ d'' : Nat, (u.pass line).level = m + d'' ∧ (t.pass line).level = l + d'' := by
      rw [pass_eq, pass_eq]
      split
      · refine ⟨d' + 1, ?_, ?_⟩
        · show (u.dedent line).level + 1 = m + (d' + 1 : Nat)
          omega
        · show (t.dedent line).level + 1 = l + (d' + 1 : Nat)
          omega
      · exact ⟨d', hu', ht'⟩
    exact ih hu'' ht'' hrest

/-- Nothing but the level changes from line to line. -/
theorem foldl_pass_eq (t : Tracker) (lines : List Text) :
    lines.foldl pass t =
      ⟨t.inHeredoc, t.delimiter, (lines.foldl pass t).level, t.pending⟩ := by
  induction lines generalizing t with
  | nil => rfl
  | cons line lines ih =>
    rw [List.foldl_cons, ih (t.pass line), pass_inHeredoc, pass_delimiter, pass_pending]

/-- Lines that come back to a level above zero come back to every level that is not negative. -/
theorem ComesBack.foldl_pass {u : Tracker} (hu : 0 < u.level) {lines : List Text}
    (h : u.ComesBack lines) {t : Tracker} (ht : 0 ≤ t.level) : lines.foldl pass t = t := by
  have hsame : ∀ v : Tracker, v.level = v.level + (0 : Nat) := fun v => (Int.add_zero v.level).symm
  obtain ⟨e, hue, hte⟩ := levels_apart hu ht (hsame u) (hsame t) h.le_levels
  have hlevel := h.level_eq
  rw [foldl_pass_eq, show (lines.foldl pass t).level = t.level by omega]

end Tracker

/-! ## Heads -/

/-- Whether a text is a word that can name a function: it has characters and no blanks, and it
begins no comment. -/
def isFunctionName (name : Text) : Bool :=
  !name.isEmpty && name.head? != some '#' && name.all fun c => !isBlank c

/-- Whether a name is a letter or underscore followed by letters, digits and underscores. -/
def isIdentifier : Text → Bool
  | [] => false
  | c :: rest => isNameStart c && rest.all isNameChar

/-- The head of a function without its brace. -/
def bareHead (name : Text) : Text :=
  name ++ ['(', ')']

/-- The head of a function with its brace. -/
def bracedHead (name : Text) : Text :=
  name ++ ['(', ')', ' ', '{']

/-- A function whose brace stands behind its head. -/
def functionLines (name : Text) (body : List Text) : List Text :=
  bracedHead name :: (body ++ [['}']])

/-- A function whose brace stands below its head. -/
def spreadFunctionLines (name : Text) (body : List Text) : List Text :=
  bareHead name :: ['{'] :: (body ++ [['}']])

/-- A name of a function has characters, none of them blank, and is no comment. -/
theorem isFunctionName_spec {name : Text} (h : isFunctionName name = true) :
    name ≠ [] ∧ name.head? ≠ some '#' ∧ ∀ c ∈ name, isBlank c = false := by
  simp only [isFunctionName, Bool.and_eq_true, Bool.not_eq_true',
    List.isEmpty_eq_false_iff, bne_iff_ne, List.all_eq_true] at h
  obtain ⟨⟨hne, hhead⟩, hall⟩ := h
  exact ⟨hne, hhead, hall⟩

/-- A word begins a comment only with its first character. -/
theorem commentStartFrom_word {before : Option Char} {t : Text} (h : ∀ c ∈ t, isBlank c = false)
    (hfirst : t.head? ≠ some '#' ∨ before.all isBlank = false) (q : QuoteState) (pos : Nat) :
    commentStartFrom q before pos t = none := by
  induction t generalizing q before pos with
  | nil => rfl
  | cons c t ih =>
    have hc : isBlank c = false := h c List.mem_cons_self
    rw [commentStartFrom_cons, ih (fun d hd => h d (List.mem_cons_of_mem c hd))
      (.inr (by simpa using hc))]
    rcases hfirst with hhash | hbefore
    · have hne : (c == '#') = false := by simpa using hhash
      simp [hne]
    · simp [hbefore]

/-- Behind a word, what has no `#` has no comment. -/
theorem code_word_append {name rest : Text} (hname : isFunctionName name = true)
    (hrest : '#' ∉ rest) :
    code (name ++ rest) = name ++ rest := by
  obtain ⟨-, hhead, hall⟩ := isFunctionName_spec hname
  have hnone : commentStart? (name ++ rest) = none := by
    rw [commentStart?, commentStartFrom_append, commentStartFrom_word hall (.inl hhead),
      commentStartFrom_eq_none hrest]
    rfl
  rw [code, hnone]

/-- The code of a line that begins with a word is the line if it has no `#` behind the word and no
blank at its end. -/
theorem trim_code_word_append {name rest : Text} (hname : isFunctionName name = true)
    (hrest : '#' ∉ rest) (hlast : rest.getLast?.all (fun c => !isBlank c) = true) :
    trim (code (name ++ rest)) = name ++ rest := by
  obtain ⟨hne, -, hall⟩ := isFunctionName_spec hname
  rw [code_word_append hname hrest]
  apply trim_eq_self
  · intro c hc
    rw [List.head?_append_of_ne_nil _ hne] at hc
    exact hall c (List.mem_of_head? hc)
  · intro c hc
    rw [List.getLast?_append, Option.mem_def, Option.or_eq_some_iff] at hc
    rcases hc with hc | ⟨-, hc⟩
    · simpa [hc] using hlast
    · exact hall c (List.mem_of_getLast? hc)

/-- A name of a function is all code. -/
theorem trim_code_word {name : Text} (hname : isFunctionName name = true) :
    trim (code name) = name := by
  have htrim := trim_code_word_append hname (List.not_mem_nil (a := '#')) rfl
  rwa [List.append_nil] at htrim

/-- A whole word is found if the text goes on with something that ends words. -/
theorem isSome_wholeWord?_iff {words : List Text} {t : Text} :
    (wholeWord? words t).isSome = true ↔
      ∃ word ∈ words, ∃ rest, t = word ++ rest ∧ isWordEnd rest = true := by
  rw [wholeWord?, List.find?_isSome]
  constructor
  · rintro ⟨word, hword, hends⟩
    split at hends
    · simp at hends
    · next rest hrest => exact ⟨word, hword, rest, after?_eq_some.mp hrest, hends⟩
  · rintro ⟨word, hword, rest, ht, hends⟩
    refine ⟨word, hword, ?_⟩
    rw [after?_eq_some.mpr ht]
    exact hends

/-- A parenthesis behind a name neither completes a word nor makes it go on. -/
theorem isSome_wholeWord?_paren {words : List Text} (hwords : ∀ word ∈ words, '(' ∉ word)
    (name rest : Text) :
    (wholeWord? words (name ++ '(' :: rest)).isSome = (wholeWord? words name).isSome := by
  rw [Bool.eq_iff_iff, isSome_wholeWord?_iff, isSome_wholeWord?_iff]
  constructor
  · rintro ⟨word, hword, behind, hcut, hends⟩
    rcases List.append_eq_append_iff.mp hcut with ⟨a, rfl, hparen⟩ | ⟨a, rfl, hbehind⟩
    · -- the word would reach the parenthesis
      cases a with
      | nil => exact ⟨name, by simpa using hword, [], by simp, rfl⟩
      | cons c a =>
        obtain ⟨rfl, -⟩ := List.cons.inj hparen
        exact absurd (by simp) (hwords _ hword)
    · refine ⟨word, hword, a, rfl, ?_⟩
      subst hbehind
      cases a with
      | nil => rfl
      | cons c a => simpa [isWordEnd] using hends
  · rintro ⟨word, hword, behind, rfl, hends⟩
    refine ⟨word, hword, behind ++ '(' :: rest, by simp, ?_⟩
    cases behind with
    | nil => rfl
    | cons c behind => simpa [isWordEnd] using hends

/-- A parenthesis behind a name closes no block that the name does not close. -/
theorem closesBlock_paren {name : Text} (hne : name ≠ []) (rest : Text) :
    closesBlock (name ++ '(' :: rest) = closesBlock name := by
  have hbrace : startsWith ['}'] (name ++ '(' :: rest) = startsWith ['}'] name := by
    obtain ⟨c, name, rfl⟩ := List.exists_cons_of_ne_nil hne
    by_cases hc : '}' = c
    · subst hc
      simp [startsWith, after?]
    · simp [startsWith, after?, hc]
  rw [closesBlock, closesBlock, hbrace, isSome_wholeWord?_paren (by decide)]

/-- A name in front of parentheses is an identifier exactly if all of it is read as one. -/
theorem isNameAndParentheses_bareHead {name : Text} (hne : name ≠ []) :
    isNameAndParentheses (bareHead name) = isIdentifier name := by
  obtain ⟨c, rest, rfl⟩ := List.exists_cons_of_ne_nil hne
  have hdrop : ((rest ++ ['(', ')']).dropWhile isNameChar == ['(', ')']) = rest.all isNameChar := by
    rw [Bool.eq_iff_iff, beq_iff_eq, List.all_eq_true]
    constructor
    · intro heq
      have hcut := List.takeWhile_append_dropWhile (p := isNameChar) (l := rest ++ ['(', ')'])
      rw [heq] at hcut
      have htake := List.append_cancel_right hcut
      intro d hd
      rw [← htake] at hd
      exact List.all_eq_true.mp List.all_takeWhile d hd
    · intro hall
      rw [List.dropWhile_append_of_pos hall]
      rfl
  rw [bareHead, List.cons_append, isNameAndParentheses, hdrop, isIdentifier]

/-- A head without its brace opens a block exactly if its name is an identifier. -/
theorem opensBlock_bareHead {name : Text} (hname : isFunctionName name = true) :
    opensBlock (bareHead name) = isIdentifier name := by
  obtain ⟨hne, -, hall⟩ := isFunctionName_spec hname
  have hsolid : ∀ c ∈ bareHead name, isBlank c = false := by
    intro c hc
    rcases List.mem_append.mp hc with hc | hc
    · exact hall c hc
    · exact Fix.isBlank_eq_false_of_all rfl c hc
  have hopener : endsWithOpener (bareHead name) = false := by
    simp [endsWithOpener, endsWith, startsWith, bareHead, after?]
  have hcase : isCaseHead (bareHead name) = false := by
    unfold isCaseHead
    split
    · next c rest hrest =>
      have hc := hsolid c (by rw [after?_eq_some.mp hrest]; simp)
      rw [hc, Bool.false_and]
    · rfl
  have hfunction : isFunctionHead (bareHead name) = isNameAndParentheses (bareHead name) := by
    unfold isFunctionHead
    split
    · rw [Bool.or_false]
    · next rest hrest =>
      have hblank : rest.head?.any isBlank = false := by
        cases rest with
        | nil => rfl
        | cons c rest => exact hsolid c (by rw [after?_eq_some.mp hrest]; simp)
      rw [hblank, Bool.false_and, Bool.or_false]
  rw [opensBlock, hopener, hcase, hfunction, Bool.false_or, Bool.or_false,
    isNameAndParentheses_bareHead hne]

/-- A head with its brace opens a block. -/
theorem opensBlock_bracedHead (name : Text) : opensBlock (bracedHead name) = true := by
  have hends : endsWith ['{'] (bracedHead name) = true := by
    simp [endsWith, startsWith, bracedHead, after?]
  rw [opensBlock, endsWithOpener, hends, Bool.true_or, Bool.true_or, Bool.true_or]

theorem trim_code_bareHead {name : Text} (hname : isFunctionName name = true) :
    trim (code (bareHead name)) = bareHead name :=
  trim_code_word_append hname (by decide) rfl

theorem trim_code_bracedHead {name : Text} (hname : isFunctionName name = true) :
    trim (code (bracedHead name)) = bracedHead name :=
  trim_code_word_append hname (by decide) rfl

namespace Tracker

/-- Both heads of a function stand where its name alone would stand, and the next line stands
further right; below a head without a brace only if the name is an identifier. -/
theorem pass_head {name : Text} (hname : isFunctionName name = true) (t : Tracker) :
    t.pass (bracedHead name) = (t.dedent name).deeper ∧
      t.pass (bareHead name) = if isIdentifier name then (t.dedent name).deeper
        else t.dedent name := by
  have hne := (isFunctionName_spec hname).1
  have hbraced : t.dedent (bracedHead name) = t.dedent name := by
    rw [dedent, dedent, trim_code_bracedHead hname, trim_code_word hname, bracedHead,
      closesBlock_paren hne]
  have hbare : t.dedent (bareHead name) = t.dedent name := by
    rw [dedent, dedent, trim_code_bareHead hname, trim_code_word hname, bareHead,
      closesBlock_paren hne]
  constructor
  · rw [pass_eq, trim_code_bracedHead hname, opensBlock_bracedHead, if_pos rfl, hbraced]
  · rw [pass_eq, trim_code_bareHead hname, opensBlock_bareHead hname, hbare]

/-- From the opening brace to the closing one the level goes up and comes back. -/
theorem ComesBack.pass_braces {u : Tracker} (hu : 0 < u.level) {body : List Text}
    (h : u.ComesBack body) {t : Tracker} (ht : 0 ≤ t.level) :
    (body ++ [['}']]).foldl pass t.deeper = t := by
  rw [List.foldl_append, h.foldl_pass hu (Int.le_add_one ht)]
  exact (closer_step ht ⟨['}'], rfl⟩).2

end Tracker

/-! ## Functions -/

/-- Where a function ends, whatever its name and whatever comes back to its level between its
braces. With the brace behind its head it ends at the level of the head, which is the level before
it unless the name begins with a word that closes a block. With the brace below its head it ends
there only if the name is no identifier: below an identifier the level is one too high. So both ways
of placing the brace bring the level back exactly for names that are no identifiers and, above level
zero, begin with no closing word. The level `u` at which the body is known to come back is above
zero, since at zero a block too many that is closed does not show. -/
theorem pass_function {name : Text} (hname : isFunctionName name = true) {body : List Text}
    {u : Tracker} (hu : 0 < u.level) (hbody : u.ComesBack body) {t : Tracker} (ht : 0 ≤ t.level) :
    (functionLines name body).foldl Tracker.pass t = t.dedent name ∧
      (spreadFunctionLines name body).foldl Tracker.pass t =
        (if isIdentifier name then (t.dedent name).deeper else t.dedent name) ∧
      (((functionLines name body).foldl Tracker.pass t).level = t.level ∧
          ((spreadFunctionLines name body).foldl Tracker.pass t).level = t.level ↔
        isIdentifier name = false ∧ (closesBlock name = true → t.level = 0)) := by
  obtain ⟨hbraced, hbare⟩ := t.pass_head hname
  have hdedent := Tracker.dedent_level_nonneg ht name
  have hfunction : (functionLines name body).foldl Tracker.pass t = t.dedent name := by
    rw [functionLines, List.foldl_cons, hbraced, hbody.pass_braces hu hdedent]
  have hbrace : ∀ v : Tracker, 0 ≤ v.level →
      (['{'] :: (body ++ [['}']])).foldl Tracker.pass v = v := by
    intro v hv
    rw [List.foldl_cons, (v.opener_step ⟨['{'], rfl⟩).2, hbody.pass_braces hu hv]
  have hspread : (spreadFunctionLines name body).foldl Tracker.pass t =
      if isIdentifier name then (t.dedent name).deeper else t.dedent name := by
    rw [spreadFunctionLines, List.foldl_cons, hbrace _ (Tracker.pass_level_nonneg ht _), hbare]
  refine ⟨hfunction, hspread, ?_⟩
  have hlevel : (t.dedent name).level = t.level ↔ (closesBlock name = true → t.level = 0) := by
    rw [Tracker.level_dedent, trim_code_word hname]
    cases closesBlock name with
    | true =>
      simp only [if_true, true_implies]
      omega
    | false => simp
  rw [hfunction, hspread]
  cases isIdentifier name with
  | true =>
    -- an identifier alone in its line opens a block as well, and the body closes only the brace
    have hhigher : (t.dedent name).deeper.level = (t.dedent name).level + 1 := rfl
    simp only [if_true, Bool.true_eq_false, false_and, iff_false]
    omega
  | false =>
    simp only [Bool.false_eq_true, if_false, and_self, true_and]
    exact hlevel

/-- A function with a loop in its body, and a name with a dash. -/
theorem pass_function_loop :
    Tracker.start.deeper.ComesBack ["while a; do".toList, "b".toList, "done".toList] ∧
      (spreadFunctionLines "f-g".toList ["while a; do".toList, "b".toList, "done".toList]).foldl
        Tracker.pass
          Tracker.start =
        Tracker.start := by
  have hbody : Tracker.start.deeper.ComesBack ["while a; do".toList, "b".toList, "done".toList] :=
    ⟨by decide +kernel, by decide +kernel⟩
  have hname : isFunctionName "f-g".toList = true := by decide +kernel
  exact ⟨hbody, (pass_function hname (by decide) hbody (t := .start) (Int.le_refl 0)).2.1⟩

/-- The level behind a function depends on the place of its brace, and on whether its name begins
with `fi`. -/
theorem pass_function_spread :
    Tracker.start.deeper.ComesBack ["a".toList] ∧
      ((functionLines "f".toList ["a".toList]).foldl Tracker.pass Tracker.start).level = 0 ∧
      ((spreadFunctionLines "f".toList ["a".toList]).foldl Tracker.pass Tracker.start).level = 1 ∧
      ((functionLines "fi-x".toList ["a".toList]).foldl Tracker.pass Tracker.start.deeper).level =
        0 :=
  ⟨⟨by decide +kernel, by decide +kernel⟩, by decide +kernel, by decide +kernel, by decide +kernel⟩

end ShellStyle.Script
