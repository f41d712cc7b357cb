import ShellStyle.Text.Blank

/-!
# Searching a text

Plain searches: a word at the start of a text, the text behind the first place where a word stands,
and the pieces between separators.
-/

namespace ShellStyle.Text

/-- The text behind the word `w`, if the text begins with it. -/
def after? : Text → Text → Option Text
  | [], t => some t
  | _ :: _, [] => none
  | a :: w, c :: t => if a = c then after? w t else none

/-- Whether the text begins with the word `w`. -/
def startsWith (w t : Text) : Bool :=
  (after? w t).isSome

/-- Whether the text ends with the word `w`. -/
def endsWith (w t : Text) : Bool :=
  startsWith w.reverse t.reverse

/-- The text behind the first place where the word `w` stands. -/
def behind? (w : Text) : Text → Option Text
  | [] => after? w []
  | c :: t =>
    match after? w (c :: t) with
    | some rest => some rest
    | none => behind? w t

/-- Whether the word `w` stands somewhere in the text. -/
def contains (w t : Text) : Bool :=
  (behind? w t).isSome

/-- The pieces of a text between the separators `sep`; a text without one is its only piece. -/
def splitAt (sep : Char) : Text → List Text
  | [] => [[]]
  | c :: t =>
    if c = sep then [] :: splitAt sep t
    else match splitAt sep t with
      | [] => [[c]]
      | piece :: pieces => (c :: piece) :: pieces

/-- The pieces of a text between blanks, none of them empty. `piece` is the current one, in
reverse. -/
def splitBlanksFrom (piece : Text) : Text → List Text
  | [] => if piece.isEmpty then [] else [piece.reverse]
  | c :: t =>
    if isBlank c then
      if piece.isEmpty then splitBlanksFrom [] t else piece.reverse :: splitBlanksFrom [] t
    else splitBlanksFrom (c :: piece) t

/-- The pieces of a text between blanks. -/
def splitBlanks (t : Text) : List Text :=
  splitBlanksFrom [] t

/-- The pieces put together again with `sep` between them. -/
def joinWith (sep : Text) : List Text → Text
  | [] => []
  | [t] => t
  | t :: ts => t ++ sep ++ joinWith sep ts

/-- Splitting always gives a piece. -/
theorem splitAt_ne_nil (sep : Char) (t : Text) : splitAt sep t ≠ [] := by
  cases t with
  | nil => simp [splitAt]
  | cons c t =>
    rw [splitAt]
    split
    · simp
    · split <;> simp

/-- Joining the pieces of a text with the separator gives the text back. -/
theorem joinWith_splitAt (sep : Char) (t : Text) : joinWith [sep] (splitAt sep t) = t := by
  induction t with
  | nil => rfl
  | cons c t ih =>
    rw [splitAt]
    cases hs : splitAt sep t with
    | nil => exact absurd hs (splitAt_ne_nil sep t)
    | cons piece pieces =>
      rw [hs] at ih
      split
      · rename_i hc
        simp [joinWith, ih, hc]
      · cases pieces <;> simp_all [joinWith]

end ShellStyle.Text
