import ShellStyle.Proofs.Parts

/-!
# Lines behind a margin

Blanks in front of a line move everything on it to the right and change nothing else: no fixer finds
anything in them, none looks back at them, and they open no string. So the text of a line is fixed
the same way whatever its margin is, and a line that is indented comes out the same.
-/

namespace ShellStyle

open Text Line

/-! ## Moving to the right -/

/-- The span `k` characters further right. -/
def Span.shift (k : Nat) (s : Span) : Span :=
  ⟨k + s.start, k + s.stop⟩

/-- The hit `k` characters further right. -/
def Hit.shift {α : Type} (k : Nat) (hit : Hit α) : Hit α :=
  ⟨hit.span.shift k, hit.value⟩

/-- The edit `k` characters further right. -/
def Edit.shift (k : Nat) (e : Edit) : Edit :=
  ⟨e.span.shift k, e.text⟩

namespace Text

/-- A slice that is moved behind a text is the slice of what follows it. -/
theorem slice_append_shift (a t : Text) (s : Span) :
    slice (a ++ t) (s.shift a.length) = slice t s := by
  rw [slice, slice, Span.shift, List.drop_length_add_append, Nat.add_sub_add_left]

/-- Edits may be moved together with the place that splicing starts from. -/
theorem spliceFrom_shift (k pos : Nat) (edits : List Edit) (t : Text) :
    spliceFrom (k + pos) (edits.map (Edit.shift k)) t = spliceFrom pos edits t := by
  induction edits generalizing pos t with
  | nil => rfl
  | cons e edits ih =>
    rw [List.map_cons, spliceFrom, spliceFrom]
    dsimp only [Edit.shift, Span.shift]
    rw [Nat.add_sub_add_left, Nat.add_sub_add_left, ih]

/-- Edits behind a margin leave it alone. -/
theorem splice_append_shift (a t : Text) (edits : List Edit) :
    splice (edits.map (Edit.shift a.length)) (a ++ t) = a ++ splice edits t := by
  cases edits with
  | nil => rfl
  | cons e edits =>
    rw [List.map_cons, splice, splice, spliceFrom, spliceFrom]
    dsimp only [Edit.shift, Span.shift]
    rw [Nat.sub_zero, Nat.sub_zero, Nat.sub_zero, Nat.sub_zero, List.take_length_add_append,
      List.drop_length_add_append, spliceFrom_shift]
    simp only [List.append_assoc]

end Text

namespace Matcher

variable {α : Type} {m : Matcher α}

/-- Hits are counted from where the search starts. -/
theorem hitsFrom_shift (m : Matcher α) (k : Nat) (before : Option Char) (pos skip : Nat)
    (t : Text) :
    m.hitsFrom before (k + pos) skip t = (m.hitsFrom before pos skip t).map (Hit.shift k) := by
  induction t generalizing before pos skip with
  | nil => rfl
  | cons c t ih =>
    cases skip with
    | succ skip => exact ih (some c) (pos + 1) skip
    | zero =>
      rw [hitsFrom, hitsFrom]
      cases m before (c :: t) with
      | none => exact ih (some c) (pos + 1) 0
      | some found =>
        obtain ⟨a, n⟩ := found
        have hlater := ih (some c) (pos + 1) (n - 1)
        rw [← Nat.add_assoc] at hlater
        dsimp only
        rw [hlater, Nat.add_assoc]
        rfl

/-- A matcher that reads nothing at a blank, and for which a blank before a place is as good as
nothing. -/
structure IsSolid (m : Matcher α) : Prop where
  none_of_isBlank : ∀ {c}, isBlank c = true → ∀ before t, m before (c :: t) = none
  before_isBlank : ∀ {c}, isBlank c = true → ∀ t, m (some c) t = m none t

/-- A solid matcher does not tell a blank before the text from the start of it. -/
theorem IsSolid.hitsFrom_before (hm : m.IsSolid) {c : Char} (hc : isBlank c = true) (pos : Nat)
    (t : Text) :
    m.hitsFrom (some c) pos 0 t = m.hitsFrom none pos 0 t := by
  cases t with
  | nil => rfl
  | cons d t => rw [hitsFrom, hitsFrom, hm.before_isBlank hc]

/-- The hits behind a margin are those without it. -/
theorem IsSolid.hits_blanks_append (hm : m.IsSolid) {gap : Text}
    (hgap : ∀ c ∈ gap, isBlank c = true) (t : Text) :
    m.hits (gap ++ t) = (m.hits t).map (Hit.shift gap.length) := by
  induction gap with
  | nil =>
    have hzero : (Hit.shift 0 : Hit α → Hit α) = id := by
      funext hit
      simp [Hit.shift, Span.shift]
    rw [List.nil_append, List.length_nil, hzero, List.map_id]
  | cons c gap ih =>
    have hc := hgap c List.mem_cons_self
    have hrest := ih fun d hd => hgap d (List.mem_cons_of_mem c hd)
    have hsum : (Hit.shift 1 ∘ Hit.shift gap.length : Hit α → Hit α) =
        Hit.shift (gap.length + 1) := by
      funext hit
      simp only [Function.comp_apply, Hit.shift, Span.shift, ← Nat.add_assoc,
        Nat.add_comm 1 gap.length]
    calc m.hits (c :: (gap ++ t)) = m.hitsFrom (some c) (1 + 0) 0 (gap ++ t) := by
          rw [hits, hitsFrom, hm.none_of_isBlank hc]
      _ = (m.hits (gap ++ t)).map (Hit.shift 1) := by
        rw [hm.hitsFrom_before hc, hitsFrom_shift, hits]
      _ = (m.hits t).map (Hit.shift (gap.length + 1)) := by rw [hrest, List.map_map, hsum]

end Matcher

namespace Fix

variable {gap : Text}

/-! ## Replacing behind a margin -/

/-- Behind a margin the same places are in strings. -/
theorem isQuotedAt_blanks_append (hgap : ∀ c ∈ gap, isBlank c = true) (t : Text) (i : Nat) :
    isQuotedAt (gap ++ t) (gap.length + i) = isQuotedAt t i := by
  rw [isQuotedAt, List.take_length_add_append, QuoteState.run_append, run_blanks hgap, isQuotedAt]

theorem isUnquotedSpan_blanks_append (hgap : ∀ c ∈ gap, isBlank c = true) (t : Text) (s : Span) :
    isUnquotedSpan (gap ++ t) (s.shift gap.length) = isUnquotedSpan t s := by
  have hmax : max (gap.length + s.start) (gap.length + s.stop - 1) =
      gap.length + max s.start (s.stop - 1) := by
    omega
  rw [isUnquotedSpan, isUnquotedSpan]
  dsimp only [Span.shift]
  rw [hmax, isQuotedAt_blanks_append hgap, isQuotedAt_blanks_append hgap]

section

variable {α : Type} {m : Matcher α}

/-- Replacing outside of strings does not see the margin. -/
theorem replaceUnquoted_blanks_append (hm : m.IsSolid) (hgap : ∀ c ∈ gap, isBlank c = true)
    (replacement : α → Option Text) (t : Text) :
    replaceUnquoted m replacement (gap ++ t) = gap ++ replaceUnquoted m replacement t := by
  rw [replaceUnquoted, replaceUnquoted, ← splice_append_shift, hm.hits_blanks_append hgap,
    List.filterMap_map, List.map_filterMap]
  refine congrArg (fun edit? => splice ((m.hits t).filterMap edit?) (gap ++ t)) ?_
  funext hit
  have hspan : isUnquotedSpan (gap ++ t) (hit.shift gap.length).span = isUnquotedSpan t hit.span :=
    isUnquotedSpan_blanks_append hgap t hit.span
  simp only [Function.comp_apply, hspan]
  split
  · rw [Option.map_map]
    rfl
  · rfl

/-- Replacing everywhere does not see the margin. -/
theorem replaceAll_blanks_append (hm : m.IsSolid) (hgap : ∀ c ∈ gap, isBlank c = true)
    (replacement : α → Text) (t : Text) :
    replaceAll m replacement (gap ++ t) = gap ++ replaceAll m replacement t := by
  rw [replaceAll, replaceAll, ← splice_append_shift, hm.hits_blanks_append hgap,
    List.map_map, List.map_map]
  rfl

end

/-! ## What the fixers look for -/

/-- No test in single brackets begins with a blank. -/
theorem singleBracket_isSolid : singleBracket.IsSolid where
  none_of_isBlank hc before t := by
    have hne := ne_of_isBlank hc (d := '[') rfl
    unfold singleBracket
    split
    · simp_all
    · rfl
  before_isBlank hc t := by
    have hopen := ne_of_isBlank hc (d := '[') rfl
    have hdollar := ne_of_isBlank hc (d := '$') rfl
    unfold singleBracket
    split
    · simp [hopen, hdollar, isWordChar_of_isBlank hc]
    · rfl

theorem mixedBracket_isSolid : mixedBracket.IsSolid where
  none_of_isBlank hc before t := by
    have hne := ne_of_isBlank hc (d := '[') rfl
    unfold mixedBracket
    split
    · simp_all
    · rfl
  before_isBlank _ _ := rfl

theorem operatorAfterTest_isSolid : operatorAfterTest.IsSolid where
  none_of_isBlank hc before t := by
    have hne := ne_of_isBlank hc (d := ']') rfl
    unfold operatorAfterTest
    split
    · simp_all
    · rfl
  before_isBlank _ _ := rfl

theorem listOperator?_of_isBlank {c : Char} (hc : isBlank c = true) (t : Text) :
    listOperator? (c :: t) = none := by
  have hand := ne_of_isBlank hc (d := '&') rfl
  have hor := ne_of_isBlank hc (d := '|') rfl
  unfold listOperator?
  split
  · simp_all
  · simp_all
  · rfl

theorem operatorBeforeTest_isSolid : operatorBeforeTest.IsSolid where
  none_of_isBlank hc before t := by
    unfold operatorBeforeTest
    rw [listOperator?_of_isBlank hc]
  before_isBlank _ _ := rfl

/-- A word that does not begin with a blank is not found where a blank stands. -/
theorem startsWith_of_isBlank {w : Text} {a c : Char} (ha : isBlank a = false)
    (hc : isBlank c = true) (t : Text) :
    startsWith (a :: w) (c :: t) = false := by
  have hne := ne_of_isBlank hc ha
  simp [startsWith, after?, hne.symm]

/-- No word before a brace begins with a blank, and a blank before it ends no word. -/
theorem tightBrace_isSolid : tightBrace.IsSolid where
  none_of_isBlank hc before t := by
    have hne := ne_of_isBlank hc (d := ')') rfl
    unfold tightBrace
    split
    · simp_all
    · simp [startsWith_of_isBlank (rfl : isBlank 't' = false) hc,
        startsWith_of_isBlank (rfl : isBlank 'd' = false) hc]
  before_isBlank hc t := by
    unfold tightBrace
    simp only [Option.any_some, Option.any_none, isWordChar_of_isBlank hc]

theorem tightComma_isSolid : tightComma.IsSolid where
  none_of_isBlank hc before t := by
    have hne := ne_of_isBlank hc (d := ',') rfl
    unfold tightComma
    split
    · simp_all
    · rfl
  before_isBlank _ _ := rfl

/-- The word `test` does not begin with a blank, and may follow one. -/
theorem testWord_isSolid : testWord.IsSolid where
  none_of_isBlank hc before t := by
    have hne := ne_of_isBlank hc (d := 't') rfl
    unfold testWord
    split
    · rfl
    · simp [after?, hne.symm]
  before_isBlank hc t := by
    have hdash := ne_of_isBlank hc (d := '-') rfl
    have hdot := ne_of_isBlank hc (d := '.') rfl
    have hslash := ne_of_isBlank hc (d := '/') rfl
    have hdollar := ne_of_isBlank hc (d := '$') rfl
    unfold testWord
    simp [hdash, hdot, hslash, hdollar, isWordChar_of_isBlank hc]

/-! ## Test commands behind a margin -/

/-- A word without blanks does not reach into blanks behind a text. -/
theorem after?_append_blanks {w : Text} (hw : ∀ c ∈ w, isBlank c = false) (t : Text)
    (hgap : ∀ c ∈ gap, isBlank c = true) : after? w (t ++ gap) = (after? w t).map (· ++ gap) := by
  induction w generalizing t with
  | nil => rfl
  | cons a w ih =>
    have ha := hw a List.mem_cons_self
    cases t with
    | nil =>
      cases gap with
      | nil => rfl
      | cons c gap =>
        have hne := ne_of_isBlank (hgap c List.mem_cons_self) ha
        simp [after?, hne.symm]
    | cons c t =>
      rw [List.cons_append, after?, after?]
      split
      · exact ih (fun d hd => hw d (List.mem_cons_of_mem a hd)) t
      · rfl

/-- Whether a text ends in a word does not depend on its margin. -/
theorem endsWithWord_blanks_append {word : Text} (hword : ∀ c ∈ word, isBlank c = false)
    (hgap : ∀ c ∈ gap, isBlank c = true) (t : Text) :
    endsWithWord word (gap ++ t) = endsWithWord word t := by
  have hblanks : ∀ c ∈ gap.reverse, isBlank c = true := fun c hc => hgap c (List.mem_reverse.mp hc)
  rw [endsWithWord, endsWithWord, List.reverse_append,
    after?_append_blanks (fun c hc => hword c (List.mem_reverse.mp hc)) _ hblanks]
  cases after? word.reverse t.reverse with
  | none => rfl
  | some rest =>
    -- behind the word the text goes on, or it begins with the margin
    cases rest with
    | nil =>
      cases hrev : gap.reverse with
      | nil => rfl
      | cons c rest =>
        have hc := hblanks c (by simp [hrev])
        simp [isWordEnd, isWordChar_of_isBlank hc]
    | cons c rest => rfl

/-- Where a command can stand does not depend on the margin. -/
theorem isCommandPosition_blanks_append (hgap : ∀ c ∈ gap, isBlank c = true) (t : Text) :
    isCommandPosition (gap ++ t) = isCommandPosition t := by
  by_cases hnil : trimRight t = []
  · have ht : isBlankText t = true := isBlankText_iff_trimRight.mpr hnil
    have hall : isBlankText (gap ++ t) = true := by
      rw [isBlankText_append, ht, Bool.and_true]
      exact List.all_eq_true.mpr hgap
    rw [isCommandPosition, isCommandPosition, hnil, isBlankText_iff_trimRight.mp hall]
  · have hkeywords : ∀ word ∈ commandKeywords, ∀ c ∈ word, isBlank c = false := by
      have hall : (commandKeywords.all fun word => word.all fun c => !isBlank c) = true := rfl
      intro word hword c hc
      simpa using List.all_eq_true.mp (List.all_eq_true.mp hall word hword) c hc
    have hany : (commandKeywords.any fun word => endsWithWord word (gap ++ trimRight t)) =
        commandKeywords.any fun word => endsWithWord word (trimRight t) := by
      rw [Bool.eq_iff_iff, List.any_eq_true, List.any_eq_true]
      constructor
      · rintro ⟨word, hword, hends⟩
        exact ⟨word, hword,
          by rwa [endsWithWord_blanks_append (hkeywords word hword) hgap] at hends⟩
      · rintro ⟨word, hword, hends⟩
        exact ⟨word, hword, by rwa [endsWithWord_blanks_append (hkeywords word hword) hgap]⟩
    have hlast : (gap ++ trimRight t).getLast? = (trimRight t).getLast? := by
      obtain ⟨front, c, hcut⟩ := (List.eq_nil_or_concat (trimRight t)).resolve_left hnil
      simp [hcut]
    rw [isCommandPosition, isCommandPosition, trimRight_append_of_ne_nil gap hnil, hany, hlast]

/-- A margin moves the semicolon of a command to the right by its length. -/
theorem separator?_blanks_append (hgap : ∀ c ∈ gap, isBlank c = true) (t : Text) (pos : Nat) :
    separator? (gap ++ t) (gap.length + pos) = (separator? t pos).map (gap.length + ·) := by
  rw [separator?, separator?, List.length_append, List.range_add, List.find?_append]
  have hmargin : ((List.range gap.length).find? fun i =>
      decide (gap.length + pos ≤ i) && (gap ++ t)[i]? == some ';' && !isQuotedAt (gap ++ t) i) =
        none := by
    rw [List.find?_eq_none]
    intro i hi
    have hlt := List.mem_range.mp hi
    have hle : ¬ gap.length + pos ≤ i := by omega
    simp [hle]
  rw [hmargin, Option.none_or, List.find?_map]
  refine congrArg (fun p => ((List.range t.length).find? p).map (gap.length + ·)) ?_
  funext i
  have hget : (gap ++ t)[gap.length + i]? = t[i]? := by
    rw [List.getElem?_append_right (Nat.le_add_right _ _), Nat.add_sub_cancel_left]
  simp only [Function.comp_apply, hget, isQuotedAt_blanks_append hgap, Nat.add_le_add_iff_left]

/-- A margin moves the end of an expression to the right by its length. -/
theorem terminatorAfter_blanks_append (hgap : ∀ c ∈ gap, isBlank c = true) (t : Text) (pos : Nat) :
    terminatorAfter (gap ++ t) (gap.length + pos) =
      (terminatorAfter t pos).map (Hit.shift gap.length) := by
  rw [terminatorAfter, terminatorAfter, separator?_blanks_append hgap]
  cases separator? t pos with
  | none => rfl
  | some i =>
    dsimp only [Option.map_some]
    rw [List.drop_length_add_append]
    cases testTerminator? (t.drop i) with
    | none => rfl
    | some found => simp [Hit.shift, Span.shift, Nat.add_assoc]

/-- The command `k` characters further right. -/
def TestCommand.shift (k : Nat) (command : TestCommand) : TestCommand :=
  ⟨command.word.shift k, command.terminator.map (Hit.shift k)⟩

/-- A margin moves the commands of a line to the right by its length. -/
theorem testCommands_blanks_append (hgap : ∀ c ∈ gap, isBlank c = true) (t : Text) :
    testCommands (gap ++ t) = (testCommands t).map (TestCommand.shift gap.length) := by
  rw [testCommands, testCommands, testWord_isSolid.hits_blanks_append hgap, List.filterMap_map,
    List.map_filterMap]
  refine congrArg (fun command? => (testWord.hits t).filterMap command?) ?_
  funext hit
  have hquoted : isQuotedAt (gap ++ t) (hit.shift gap.length).span.start =
      isQuotedAt t hit.span.start :=
    isQuotedAt_blanks_append hgap t hit.span.start
  have hposition : isCommandPosition ((gap ++ t).take (hit.shift gap.length).span.start) =
      isCommandPosition (t.take hit.span.start) := by
    have htake : (gap ++ t).take (hit.shift gap.length).span.start = gap ++ t.take hit.span.start :=
      List.take_length_add_append _
    rw [htake, isCommandPosition_blanks_append hgap]
  have hterminator : terminatorAfter (gap ++ t) (hit.shift gap.length).span.stop =
      (terminatorAfter t hit.span.stop).map (Hit.shift gap.length) :=
    terminatorAfter_blanks_append hgap t hit.span.stop
  simp only [Function.comp_apply, hquoted, hposition, hterminator]
  split
  · rfl
  · split
    · rfl
    · rfl

/-- A command is rewritten the same way behind a margin, as long as the cursors are at the same
place. -/
theorem conversion?_append_shift (a t : Text) {cursor cursor' : Nat}
    (hcursor : ∀ i, a.length + i < cursor' ↔ i < cursor) (command : TestCommand) :
    conversion? (a ++ t) cursor' (command.shift a.length) =
      (conversion? t cursor command).map (Edit.shift a.length) := by
  obtain ⟨word, terminator⟩ := command
  cases terminator with
  | none => rfl
  | some terminator =>
    have hslice : slice (a ++ t)
        ⟨(word.shift a.length).stop, (terminator.shift a.length).span.start⟩ =
        slice t ⟨word.stop, terminator.span.start⟩ :=
          slice_append_shift a t ⟨word.stop, terminator.span.start⟩
    have hstart : ((word.shift a.length).start < cursor') = (word.start < cursor) :=
      propext (hcursor word.start)
    simp only [conversion?, TestCommand.shift, Option.map_some, hslice, hstart]
    split
    · rfl
    · rfl

/-- Commands that are moved to the right are converted by edits that are moved too. -/
theorem conversions_append_shift (a t : Text) {cursor cursor' : Nat}
    (hcursor : ∀ i, a.length + i < cursor' ↔ i < cursor) (commands : List TestCommand) :
    conversions (a ++ t) cursor' (commands.map (TestCommand.shift a.length)) =
      (conversions t cursor commands).map (Edit.shift a.length) := by
  induction commands generalizing cursor cursor' with
  | nil => rfl
  | cons command commands ih =>
    rw [List.map_cons, conversions, conversions, conversion?_append_shift a t hcursor]
    cases conversion? t cursor command with
    | none => exact ih hcursor
    | some edit =>
      have hrest := @ih edit.span.stop (a.length + edit.span.stop) fun i => Nat.add_lt_add_iff_left
      exact congrArg (edit.shift a.length :: ·) hrest

/-- Writing commands with brackets does not see the margin. -/
theorem convertTestCommands_blanks_append (hgap : ∀ c ∈ gap, isBlank c = true) (t : Text) :
    convertTestCommands (gap ++ t) = gap ++ convertTestCommands t := by
  rw [convertTestCommands, convertTestCommands, testCommands_blanks_append hgap,
    ← splice_append_shift]
  refine congrArg (fun edits => splice edits (gap ++ t)) (conversions_append_shift gap t ?_ _)
  simp

/-! ## The text of a line -/

/-- A rule is held back from a line whatever its margin is. -/
theorem isGuarded_blanks_append (hgap : ∀ c ∈ gap, isBlank c = true) (s : Settings) (rule : Rule)
    (t : Text) :
    isGuarded s rule (gap ++ t) = isGuarded s rule t := by
  rw [isGuarded_eq, isGuarded_eq, isClosed_blanks_append hgap]

/-- A line has a brace expansion whatever its margin is. -/
theorem hasBraceExpansion_blanks_append (hgap : ∀ c ∈ gap, isBlank c = true) (t : Text) :
    hasBraceExpansion (gap ++ t) = hasBraceExpansion t := by
  induction gap with
  | nil => rfl
  | cons c gap ih =>
    rw [List.cons_append, hasBraceExpansion_cons (ne_of_isBlank (hgap c List.mem_cons_self) rfl),
      ih fun d hd => hgap d (List.mem_cons_of_mem c hd)]

/-- The fixer for brackets leaves the margin as it is and works on the rest. -/
theorem brackets_blanks_append (hgap : ∀ c ∈ gap, isBlank c = true) (s : Settings) (t : Text) :
    brackets s (gap ++ t) = gap ++ brackets s t := by
  rw [brackets, brackets, isGuarded_blanks_append hgap]
  split
  · rfl
  · dsimp only
    rw [convertTestCommands_blanks_append hgap,
      replaceUnquoted_blanks_append singleBracket_isSolid hgap,
      replaceUnquoted_blanks_append mixedBracket_isSolid hgap]

/-- The fixer for operators leaves the margin as it is and works on the rest. -/
theorem operatorSpacing_blanks_append (hgap : ∀ c ∈ gap, isBlank c = true) (s : Settings)
    (t : Text) :
    operatorSpacing s (gap ++ t) = gap ++ operatorSpacing s t := by
  rw [operatorSpacing, operatorSpacing, isGuarded_blanks_append hgap,
    hasMatchOperator_blanks_append hgap]
  split
  · rfl
  · dsimp only
    rw [replaceAll_blanks_append operatorAfterTest_isSolid hgap,
      replaceAll_blanks_append operatorBeforeTest_isSolid hgap]

theorem braceSpacing_blanks_append (hgap : ∀ c ∈ gap, isBlank c = true) (s : Settings) (t : Text) :
    braceSpacing s (gap ++ t) = gap ++ braceSpacing s t := by
  rw [braceSpacing, braceSpacing, isGuarded_blanks_append hgap]
  split
  · rfl
  · exact replaceUnquoted_blanks_append tightBrace_isSolid hgap _ t

theorem commaSpacing_blanks_append (hgap : ∀ c ∈ gap, isBlank c = true) (s : Settings) (t : Text) :
    commaSpacing s (gap ++ t) = gap ++ commaSpacing s t := by
  rw [commaSpacing, commaSpacing, isGuarded_blanks_append hgap,
    hasBraceExpansion_blanks_append hgap]
  split
  · rfl
  · exact replaceUnquoted_blanks_append tightComma_isSolid hgap _ t

/-- The text of a line is fixed behind its margin as it is without it. -/
theorem content_blanks_append (hgap : ∀ c ∈ gap, isBlank c = true) (s : Settings) (t : Text) :
    content s (gap ++ t) = gap ++ content s t := by
  rw [content, brackets_blanks_append hgap, operatorSpacing_blanks_append hgap,
    braceSpacing_blanks_append hgap, commaSpacing_blanks_append hgap, content]

/-! ## Indented lines -/

/-- Formatting passes over empty lines and comments. -/
theorem isInert_context (t : Text) : (context t).isInert = (t.isEmpty || isComment t) := by
  have key : ∀ s c o r a x p b, (s = true → c = true) →
      (contextOf false s c o r a x p b).isInert = c := by decide
  cases t with
  | nil => rfl
  | cons d t =>
    rw [context_eq_contextOf]
    refine key _ _ _ _ _ _ _ _ fun hshebang => ?_
    obtain ⟨rest, hrest⟩ := startsWith_iff.mp hshebang
    obtain ⟨rfl, -⟩ := List.cons.inj hrest
    rfl

/-- What is neither blank nor a comment is not left alone. -/
theorem isInert_eq_false {t : Text} (hsolid : isBlankText t = false)
    (hcomment : isComment t = false) :
    (context t).isInert = false := by
  have hempty : t.isEmpty = false := by
    cases t with
    | nil => simp [isBlankText] at hsolid
    | cons c t => rfl
  rw [isInert_context, hempty, hcomment, Bool.or_false]

/-- Where lines are indented, a line comes out the same whatever its margin is. -/
theorem line_blanks_append [Machine] {s : Settings} (hs : s.isEnabled .indentation = true)
    (hgap : ∀ c ∈ gap, isBlank c = true) {t : Text} (hsolid : isBlankText t = false)
    (hcomment : isComment t = false) (level : Int) (mayWrap : Bool) :
    line s level false mayWrap (gap ++ t) = line s level false mayWrap t := by
  have hindent : ∀ u, isBlankText u = false → isComment u = false →
      indentation s level false u = (do
        let size ← s.indentSize
        let margin ← spaces (level * size)
        return margin ++ trimLeft u) := by
    intro u hu hu'
    rw [indentation, hs, isInert_eq_false hu hu', hu]
    rfl
  have hkept := content_isKept s t
  have hfixed :=
    hindent (content s t) (hkept.isBlankText.trans hsolid) (hkept.isComment.trans hcomment)
  have hmargin :=
    hindent (gap ++ content s t)
      (by rw [isBlankText_append, hkept.isBlankText, hsolid, Bool.and_false])
    (by rw [isComment_blanks_append hgap, hkept.isComment, hcomment])
  have htrim : trimLeft (gap ++ content s t) = trimLeft (content s t) :=
    List.dropWhile_append_of_pos hgap
  have hinert : (context (gap ++ t)).isInert = false :=
    isInert_eq_false (by rw [isBlankText_append, hsolid, Bool.and_false])
      (by rw [isComment_blanks_append hgap, hcomment])
  rw [line, line, hinert, isInert_eq_false hsolid hcomment, content_blanks_append hgap, hmargin,
    htrim, ← hfixed]
  rfl

end Fix

end ShellStyle
