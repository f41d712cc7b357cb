import ShellStyle.Text.Blank

/-!
# Places in a line

A matcher looks at one place of a line: it sees the character before the place and the text from
there on, and answers with what it read and how many characters that took. Searching a line asks the
matcher at every place from the left and goes on behind each hit, so hits never overlap. Edits
replace spans of a line and keep the rest.
-/

namespace ShellStyle

/-- The positions from `start` up to, but not including, `stop`. -/
structure Span where
  start : Nat
  stop : Nat
  deriving DecidableEq, Repr

/-- What a matcher read, and where. -/
structure Hit (α : Type) where
  span : Span
  value : α

/-- A recogniser for one place of a line: from the character before the place and the text behind it
to what was read and its length. -/
abbrev Matcher (α : Type) :=
  Option Char → Text → Option (α × Nat)

namespace Matcher

variable {α : Type}

/-- The hits from position `pos` on, where the next `skip` characters belong to the last hit. -/
def hitsFrom (m : Matcher α) (before : Option Char) (pos skip : Nat) : Text → List (Hit α)
  | [] => []
  | c :: t =>
    match skip with
    | k + 1 => hitsFrom m (some c) (pos + 1) k t
    | 0 =>
      match m before (c :: t) with
      | some (a, n) => ⟨⟨pos, pos + n⟩, a⟩ :: hitsFrom m (some c) (pos + 1) (n - 1) t
      | none => hitsFrom m (some c) (pos + 1) 0 t

/-- All hits in a line, from the left, without overlaps. -/
def hits (m : Matcher α) (t : Text) : List (Hit α) :=
  m.hitsFrom none 0 0 t

/-- The first hit. -/
def first? (m : Matcher α) (t : Text) : Option (Hit α) :=
  (m.hits t).head?

/-- Whether there is a hit at all. -/
def occurs (m : Matcher α) (t : Text) : Bool :=
  (m.first? t).isSome

end Matcher

/-- A replacement for the characters of a span. -/
structure Edit where
  span : Span
  text : Text

namespace Text

/-- The characters of a span. -/
def slice (t : Text) (s : Span) : Text :=
  (t.drop s.start).take (s.stop - s.start)

/-- Carries out edits, given from the left, on the text from position `pos` on. -/
def spliceFrom (pos : Nat) : List Edit → Text → Text
  | [], t => t
  | e :: es, t =>
    t.take (e.span.start - pos) ++ e.text ++ spliceFrom e.span.stop es (t.drop (e.span.stop - pos))

/-- Carries out edits, given from the left and without overlaps. -/
def splice (edits : List Edit) (t : Text) : Text :=
  spliceFrom 0 edits t

/-- Without edits a text stays as it is. -/
theorem splice_nil (t : Text) : splice [] t = t :=
  rfl

end Text

end ShellStyle
