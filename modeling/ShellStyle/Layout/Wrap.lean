import ShellStyle.Text.Cluster
import ShellStyle.Text.Search

/-!
# Breaking lines

Text that is too wide for its place is broken between words. A word with the blanks behind it goes
to the next line if it does not fit, without these blanks, into what is left of the line. A word
that is too wide for any line is folded, cluster by cluster, or, where that is not wanted, stays in
one piece and is cut with an ellipsis.
-/

namespace ShellStyle.Layout

open Text

/-- What is done about a word that is too wide for a line. -/
inductive Overflow where
  | fold
  | ellipsis
  deriving DecidableEq, Repr

/-- Control characters that are never printed: bell, backspace, vertical tab, form feed and carriage
return. -/
def isDropped (c : Char) : Bool :=
  let n := c.toNat
  n == 7 || n == 8 || n == 11 || n == 12 || n == 13

/-- The text without the control characters that are never printed. -/
def dropControls (t : Text) : Text :=
  t.filter fun c => !isDropped c

/-- The columns between tab stops. -/
def tabSize : Nat :=
  8

/-- The parts of a line between its tabs, with spaces for the tabs; the first part starts at column
`column`. A tab is at least one space. -/
def joinAtStops (column : Nat) : List Text → Text
  | [] => []
  | [part] => part
  | part :: rest =>
    let part := part ++ [' ']
    let column := column + width part
    let gap := (tabSize - column % tabSize) % tabSize
    part ++ List.replicate gap ' ' ++ joinAtStops (column + gap) rest

/-- The line with spaces for its tabs. -/
def expandTabs (t : Text) : Text :=
  joinAtStops 0 (splitAt '\t' t)

/-- The words of a line, each with the blanks behind it and the first also with those before it.
`word` is what the current word has so far, in reverse, and `ended` tells that blanks have followed
it. -/
def wordsFrom (word : Text) (begun ended : Bool) : Text → List Text
  | [] => if begun then [word.reverse] else []
  | c :: t =>
    if isBlank c then wordsFrom (c :: word) begun begun t
    else if ended then word.reverse :: wordsFrom [c] true false t
    else wordsFrom (c :: word) true false t

/-- The words of a line with the blanks around them. -/
def words (t : Text) : List Text :=
  wordsFrom [] false false t

/-- Puts words into lines, where `line` is the current one and `used` are the columns it counts. -/
def fill (overflow : Overflow) (columns : Nat) (line : Text) (used : Nat) :
    List Text → List Text
  | [] => [line]
  | word :: rest =>
    let needed := width (trimRight word)
    if used + needed ≤ columns then fill overflow columns (line ++ word) (used + width word) rest
    else if columns < needed then
      let pieces := match overflow with
        | .fold => chop columns word
        | .ellipsis => [word]
      let last := pieces.getLast?.getD []
      let earlier := pieces.dropLast
      (if line.isEmpty then [] else [line]) ++ earlier ++
        fill overflow columns last (width last) rest
    else if used = 0 then fill overflow columns (line ++ word) used rest
    else line :: fill overflow columns word (width word) rest

/-- The line without the blanks at its end that make it longer than `columns` characters. -/
def trimExcess (columns : Nat) (t : Text) : Text :=
  let blanks := t.length - (trimRight t).length
  t.take (t.length - min blanks (t.length - columns))

/-- The line cut to `columns` columns. -/
def crop (overflow : Overflow) (columns : Nat) (t : Text) : Text :=
  match overflow with
  | .fold => cut columns t
  | .ellipsis =>
    if width t ≤ columns then t else cut (columns - 1) t ++ [Char.ofNat 0x2026]

/-- Breaks one line. -/
def wrapLine (overflow : Overflow) (columns : Nat) (t : Text) : List Text :=
  let broken := match words t with
    | [] => [t]
    | ws => fill overflow columns [] 0 ws
  broken.map fun line => crop overflow columns (trimExcess columns line)

/-- The lines of a text, tabs expanded and broken to `columns` columns. -/
def wrap (overflow : Overflow) (columns : Nat) (t : Text) : List Text :=
  (splitAt '\n' (dropControls t)).flatMap fun line => wrapLine overflow columns (expandTabs line)

end ShellStyle.Layout
