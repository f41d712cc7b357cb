import ShellStyle.Quote

/-!
# Trailing comments

A trailing comment begins at the first `#` outside all strings that stands at the start of the line
or behind a blank. What comes before it is the code of the line. The search keeps track of strings
by itself and passes over every escaped character; it stands where the quote automaton stands.
-/

namespace ShellStyle.Line

open Text

/-- The position of the comment's `#`, from position `pos` on, where the quote automaton stands at
`s` and `before` is the character before `pos`. -/
def commentStartFrom (s : QuoteState) (before : Option Char) (pos : Nat) : Text → Option Nat
  | [] => none
  | c :: t =>
    if s.escaped then commentStartFrom ⟨s.quote, false⟩ (some c) (pos + 1) t
    else if c = '\\' then commentStartFrom ⟨s.quote, true⟩ (some c) (pos + 1) t
    else if s.quote.isNone && QuoteState.isMark c then
      commentStartFrom ⟨some c, false⟩ (some c) (pos + 1) t
    else if s.quote = some c then commentStartFrom ⟨none, false⟩ (some c) (pos + 1) t
    else if c == '#' && s.quote.isNone && before.all isBlank then some pos
    else commentStartFrom s (some c) (pos + 1) t

/-- One character of the search: it ends at an unescaped `#` outside of strings that is the first
character or stands behind a blank, and otherwise takes a step of the quote automaton. -/
theorem commentStartFrom_cons (s : QuoteState) (before : Option Char) (pos : Nat) (c : Char)
    (t : Text) :
    commentStartFrom s before pos (c :: t) =
      if !s.escaped && s.quote.isNone && c == '#' && before.all isBlank then some pos
      else commentStartFrom (s.step c) (some c) (pos + 1) t := by
  obtain ⟨quote, escaped⟩ := s
  rw [commentStartFrom, QuoteState.step]
  cases escaped with
  | true => simp
  | false =>
    by_cases hslash : c = '\\'
    · simp [hslash]
    · cases quote with
      | none =>
        by_cases hmark : QuoteState.isMark c = true
        · have hhash : (c == '#') = false := by
            simp only [QuoteState.isMark, Bool.or_eq_true, beq_iff_eq] at hmark
            rcases hmark with rfl | rfl <;> rfl
          simp [hslash, hmark, hhash]
        · simp [hslash, hmark]
      | some q =>
        by_cases hclose : c = q
        · subst hclose
          simp [hslash]
        · simp [hslash, hclose, Ne.symm hclose]

/-- The position of the `#` that starts a trailing comment. -/
def commentStart? (line : Text) : Option Nat :=
  commentStartFrom QuoteState.start none 0 line

/-- The line without its trailing comment. -/
def code (line : Text) : Text :=
  match commentStart? line with
  | some i => line.take i
  | none => line

end ShellStyle.Line
