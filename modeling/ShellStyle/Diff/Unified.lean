import ShellStyle.Diff.Match
import ShellStyle.Text.Search

/-!
# Unified differences

Two scripts are compared line by line. What changes is shown with three lines around it, lines that
go with a minus sign and lines that come with a plus sign; changes that are close to each other are
shown together. Two scripts that are the same have no difference to show.
-/

namespace ShellStyle.Diff

/-- A stretch of both sequences: the same lines, or lines that are replaced by others. -/
structure Stretch where
  isEqual : Bool
  leftStart : Nat
  leftStop : Nat
  rightStart : Nat
  rightStop : Nat
  deriving DecidableEq, Repr

/-- The stretches from positions `i` and `j` on, with the blocks that are still to come. -/
def stretchesFrom (i j m n : Nat) : List Block → List Stretch
  | [] => if i < m ∨ j < n then [⟨false, i, m, j, n⟩] else []
  | b :: rest =>
    (if i < b.left ∨ j < b.right then [⟨false, i, b.left, j, b.right⟩] else []) ++
      ⟨true, b.left, b.left + b.size, b.right, b.right + b.size⟩ ::
      stretchesFrom (b.left + b.size) (b.right + b.size) m n rest

/-- The lines shown around a change. -/
def contextSize : Nat :=
  3

namespace Stretch

/-- The last lines of a stretch. -/
def ending (s : Stretch) : Stretch :=
  ⟨s.isEqual, max s.leftStart (s.leftStop - contextSize), s.leftStop,
    max s.rightStart (s.rightStop - contextSize), s.rightStop⟩

/-- The first lines of a stretch. -/
def beginning (s : Stretch) : Stretch :=
  ⟨s.isEqual, s.leftStart, min s.leftStop (s.leftStart + contextSize),
    s.rightStart, min s.rightStop (s.rightStart + contextSize)⟩

end Stretch

/-- Leaves of the first stretch only its end, if nothing changes in it. -/
def trimFirst : List Stretch → List Stretch
  | [] => []
  | s :: rest => if s.isEqual then s.ending :: rest else s :: rest

/-- Leaves of the last stretch only its beginning, if nothing changes in it. -/
def trimLast : List Stretch → List Stretch
  | [] => []
  | [s] => if s.isEqual then [s.beginning] else [s]
  | s :: rest => s :: trimLast rest

/-- Groups stretches, where `current` is the group that is open; a long stretch without changes ends
a group. -/
def groupsFrom (current : List Stretch) : List Stretch → List (List Stretch)
  | [] => if current.any fun s => !s.isEqual then [current] else []
  | s :: rest =>
    if s.isEqual ∧ 2 * contextSize < s.leftStop - s.leftStart then
      (current ++ [s.beginning]) :: groupsFrom [s.ending] rest
    else groupsFrom (current ++ [s]) rest

/-- The changes between two sequences, in groups with the lines around them. -/
def groups {α : Type} [DecidableEq α] (a b : List α) : List (List Stretch) :=
  groupsFrom [] (trimLast (trimFirst (stretchesFrom 0 0 a.length b.length (blocks a b))))

/-- A range of lines as it is written: the first line, counted from one, and their number unless it
is one. An empty range is named by the line before it. -/
def rangeText (start stop : Nat) : String :=
  let size := stop - start
  if size = 1 then toString (start + 1)
  else if size = 0 then toString start ++ ",0"
  else toString (start + 1) ++ "," ++ toString size

/-- The line that opens a group. -/
def groupHeading (group : List Stretch) : Text :=
  match group.head?, group.getLast? with
  | some first, some last =>
    ("@@ -" ++ rangeText first.leftStart last.leftStop ++ " +" ++
      rangeText first.rightStart last.rightStop ++ " @@").toList
  | _, _ => []

/-- The lines that show a stretch. -/
def stretchLines (a b : List Text) (s : Stretch) : List Text :=
  let left := (a.drop s.leftStart).take (s.leftStop - s.leftStart)
  let right := (b.drop s.rightStart).take (s.rightStop - s.rightStart)
  if s.isEqual then left.map (' ' :: ·)
  else left.map ('-' :: ·) ++ right.map ('+' :: ·)

/-- The unified difference of two scripts; nothing if they are the same. -/
def unified (leftName rightName : Text) (a b : List Text) : List Text :=
  match groups a b with
  | [] => []
  | shown =>
    ("--- ".toList ++ leftName) :: ("+++ ".toList ++ rightName) ::
      shown.flatMap fun group => groupHeading group :: group.flatMap (stretchLines a b)

end ShellStyle.Diff
