import ShellStyle.Proofs.LineBreak

/-!
# Where the comment of a line starts

The search for a comment reads a line from the left, follows its strings with a state of its own and
passes over every escaped character. What it looks for can be said of each position by itself: a `#`
that is not in a string and is the first character or stands behind a blank. Nothing is said there
about escapes, and nothing has to be. An escaped character stands behind a backslash, which is no
blank, so passing over it hides no start of a comment; and an escaped quote opens or closes a string
for the quote automaton as little as for the search. So the search finds the least of these
positions, and the code of a line is what stands before it.
-/

namespace ShellStyle

open Text

/-- The next character is escaped only if the last one is a backslash. -/
theorem QuoteState.getLast?_of_escaped {t : Text} (h : (start.run t).escaped = true) :
    t.getLast? = some '\\' := by
  rcases List.eq_nil_or_concat t with rfl | ⟨front, c, rfl⟩
  · exact absurd h Bool.false_ne_true
  · rw [List.concat_eq_append, run_append] at h
    have hslash : c = '\\' := by
      apply Decidable.byContradiction
      intro hne
      exact absurd (h.symm.trans (Fix.escaped_step hne)) (by decide)
    rw [List.concat_eq_append, List.getLast?_concat, hslash]

namespace Line

/-! ## The search as a choice among positions -/

/-- Whether the search that begins at `s` behind `before` ends at a position of the text, should it
come so far. -/
def endsAt (s : QuoteState) (before : Option Char) (t : Text) (i : Nat) : Bool :=
  !(s.run (t.take i)).escaped && (s.run (t.take i)).quote.isNone && t[i]? == some '#' &&
    ((t.take i).getLast?.or before).all isBlank

theorem endsAt_zero (s : QuoteState) (before : Option Char) (c : Char) (t : Text) :
    endsAt s before (c :: t) 0 = (!s.escaped && s.quote.isNone && c == '#' && before.all isBlank) :=
  rfl

theorem endsAt_succ (s : QuoteState) (before : Option Char) (c : Char) (t : Text) (i : Nat) :
    endsAt s before (c :: t) (i + 1) = endsAt (s.step c) (some c) t i := by
  rw [endsAt, List.take_succ_cons, QuoteState.run_cons, getLast?_cons_or,
    List.getElem?_cons_succ, ← endsAt]

/-- The search goes from position to position and takes the first at which it can end. -/
theorem commentStartFrom_eq_find? (s : QuoteState) (before : Option Char) (pos : Nat) (t : Text) :
    commentStartFrom s before pos t =
      ((List.range t.length).find? (endsAt s before t)).map (pos + ·) := by
  induction t generalizing s before pos with
  | nil => rfl
  | cons c t ih =>
    rw [commentStartFrom_cons, List.length_cons, List.range_succ_eq_map,
      List.find?_cons, endsAt_zero]
    cases !s.escaped && s.quote.isNone && c == '#' && before.all isBlank with
    | true => rfl
    | false =>
      have hnext : endsAt s before (c :: t) ∘ Nat.succ = endsAt (s.step c) (some c) t := by
        funext i
        exact endsAt_succ s before c t i
      have hshift : (pos + ·) ∘ Nat.succ = (pos + 1 + ·) := by
        funext i
        simp only [Function.comp_apply]
        omega
      rw [if_neg Bool.false_ne_true, ih, List.find?_map, hnext, Option.map_map, hshift]

/-! ## Starts of comments -/

/-- A comment can start at a `#` outside of strings that is the first character or stands behind a
blank. -/
def StartsComment (t : Text) (i : Nat) : Prop :=
  t[i]? = some '#' ∧ isQuotedAt t i = false ∧ (i = 0 ∨ t[i - 1]?.any isBlank = true)

/-- A comment starts inside of its line. -/
theorem StartsComment.lt_length {t : Text} {i : Nat} (h : StartsComment t i) : i < t.length :=
  (List.getElem?_eq_some_iff.mp h.1).1

/-- The last character of a start of a text stands right before the place where the start ends. -/
theorem all_getLast?_take {t : Text} {i : Nat} (hi : i ≤ t.length) :
    (t.take i).getLast?.all isBlank = true ↔ i = 0 ∨ t[i - 1]?.any isBlank = true := by
  cases i with
  | zero => simp
  | succ i =>
    rw [List.getLast?_take, if_neg (Nat.succ_ne_zero i), Nat.add_sub_cancel,
      List.getElem?_eq_getElem (by omega)]
    simp

/-- The search can end exactly where a comment can start: no blank stands before an escaped
character. -/
theorem endsAt_iff (t : Text) (i : Nat) : endsAt .start none t i = true ↔ StartsComment t i := by
  rw [endsAt, Option.or_none]
  simp only [Bool.and_eq_true, Bool.not_eq_true', beq_iff_eq]
  constructor
  · rintro ⟨⟨⟨-, hnone⟩, hhash⟩, hblank⟩
    have hlt := (List.getElem?_eq_some_iff.mp hhash).1
    refine ⟨hhash, ?_, (all_getLast?_take (by omega)).mp hblank⟩
    rw [isQuotedAt, QuoteState.isOpen, Option.isNone_iff_eq_none.mp hnone]
    rfl
  · intro h
    have hlt := h.lt_length
    obtain ⟨hhash, hquoted, hbefore⟩ := h
    have hblank := (all_getLast?_take (by omega)).mpr hbefore
    have hescaped : (QuoteState.start.run (t.take i)).escaped = false := by
      rw [Bool.eq_false_iff]
      intro hescaped
      rw [QuoteState.getLast?_of_escaped hescaped] at hblank
      exact absurd hblank (by decide)
    have hnone : (QuoteState.start.run (t.take i)).quote.isNone = true := by
      simpa [isQuotedAt, QuoteState.isOpen] using hquoted
    exact ⟨⟨⟨hescaped, hnone⟩, hhash⟩, hblank⟩

/-- The start of the comment is the first position where one starts. -/
theorem commentStart?_eq_find? (t : Text) :
    commentStart? t = (List.range t.length).find? (endsAt .start none t) := by
  rw [commentStart?, commentStartFrom_eq_find?]
  simp

/-- The start that is found is a start, and there is none before it. -/
theorem commentStart?_eq_some_iff (t : Text) (i : Nat) :
    commentStart? t = some i ↔ StartsComment t i ∧ ∀ j < i, ¬ StartsComment t j := by
  rw [commentStart?_eq_find?, List.find?_range_eq_some]
  simp only [Bool.not_eq_true', ← Bool.not_eq_true, endsAt_iff, List.mem_range]
  constructor
  · rintro ⟨hi, -, hfirst⟩
    exact ⟨hi, hfirst⟩
  · rintro ⟨hi, hfirst⟩
    exact ⟨hi, hi.lt_length, hfirst⟩

/-- Where no start is found there is none. -/
theorem commentStart?_eq_none_iff (t : Text) :
    commentStart? t = none ↔ ∀ i, ¬ StartsComment t i := by
  rw [commentStart?_eq_find?, List.find?_range_eq_none]
  simp only [Bool.not_eq_true', ← Bool.not_eq_true, endsAt_iff]
  constructor
  · intro h i hi
    exact h i hi.lt_length hi
  · intro h i _
    exact h i

/-! ## The code of a line -/

theorem code_of_none {t : Text} (h : commentStart? t = none) : code t = t := by
  rw [code, h]

/-- The code of a line goes up to its comment. -/
theorem length_code_of_some {t : Text} {i : Nat} (h : commentStart? t = some i) :
    (code t).length = i := by
  have hlt := ((commentStart?_eq_some_iff t i).mp h).1.lt_length
  rw [code, h, List.length_take]
  omega

/-- The code of a line ends with the line or where a comment starts. -/
theorem code_eq_or_startsComment (t : Text) : code t = t ∨ StartsComment t (code t).length := by
  cases h : commentStart? t with
  | none => exact .inl (code_of_none h)
  | some i =>
    right
    rw [length_code_of_some h]
    exact ((commentStart?_eq_some_iff t i).mp h).1

/-- There is no start of a comment in the code of a line. -/
theorem length_code_le_of_startsComment {t : Text} {i : Nat} (hi : StartsComment t i) :
    (code t).length ≤ i := by
  cases h : commentStart? t with
  | none => exact absurd hi ((commentStart?_eq_none_iff t).mp h i)
  | some k =>
    rw [length_code_of_some h]
    apply Nat.le_of_not_lt
    intro hlt
    exact ((commentStart?_eq_some_iff t k).mp h).2 i hlt hi

/-- The comment of a line starts at the least position where a comment can start, and there is none
if there is no such position. The code of the line is the part of it before that position, and is
its own code. -/
theorem commentStart_least (t : Text) :
    (∀ i, commentStart? t = some i ↔ StartsComment t i ∧ ∀ j < i, ¬ StartsComment t j) ∧
      (commentStart? t = none ↔ ∀ i, ¬ StartsComment t i) ∧
      code t <+: t ∧ (code t = t ∨ StartsComment t (code t).length) ∧
      (∀ i, StartsComment t i → (code t).length ≤ i) ∧ code (code t) = code t := by
  refine ⟨commentStart?_eq_some_iff t, commentStart?_eq_none_iff t, Fix.code_isPrefix t,
    code_eq_or_startsComment t, fun i => length_code_le_of_startsComment, ?_⟩
  exact code_of_none (commentStart?_of_isPrefix (List.prefix_refl (code t)))

/-- A `#` in a string, behind a letter and behind a backslash is passed over, and one behind an
escaped blank is not. -/
theorem commentStart_least_escaped :
    commentStart? "'#' a# \\# \\ # b".toList = some 12 ∧
      StartsComment "'#' a# \\# \\ # b".toList 12 ∧
      (∀ j < 12, ¬ StartsComment "'#' a# \\# \\ # b".toList j) ∧
      code (code "'#' a# \\# \\ # b".toList) = "'#' a# \\# \\ ".toList := by
  have hstart : commentStart? "'#' a# \\# \\ # b".toList = some 12 := rfl
  have hcode : code "'#' a# \\# \\ # b".toList = "'#' a# \\# \\ ".toList := rfl
  obtain ⟨hleast, -, -, -, -, htwice⟩ := commentStart_least "'#' a# \\# \\ # b".toList
  obtain ⟨hstarts, hfirst⟩ := (hleast 12).mp hstart
  exact ⟨hstart, hstarts, hfirst, htwice.trans hcode⟩

end Line

end ShellStyle
