import ShellStyle.Yaml.Cursor

/-!
# The text of block scalars

A block scalar stands on the lines below its mark, further right than the block around it. Behind
`|` line ends stay; behind `>` a single one between two lines that begin with no blank becomes a
space. A sign in the header strips or keeps the line ends at the end of the scalar, and a digit sets
its margin.
-/

namespace ShellStyle.Yaml

/-- What becomes of the line ends at the end of a block scalar: all but the first go, all go, or all
stay. -/
inductive Chomping where
  | clip
  | strip
  | keep
  deriving DecidableEq, Repr

/-- What the line of its mark says about a block scalar. -/
structure BlockHeader where
  chomping : Chomping
  /-- How much further right than the block around it the text stands. -/
  increment : Option Nat

/-- The chomping that a sign asks for. -/
def Chomping.ofSign? (c : Char) : Option Chomping :=
  if c = '+' then some keep else if c = '-' then some strip else none

/-- A sign of a header, if there is one. -/
def readSign (c : Cursor) : Option Chomping × Cursor :=
  match Chomping.ofSign? c.peek with
  | some chomping => (some chomping, c.advance)
  | none => (none, c)

/-- A digit of a header, if there is one; it is not zero. -/
def readIncrement (c : Cursor) : Option (Option Nat × Cursor) :=
  let ch := c.peek
  if '1' ≤ ch && ch ≤ '9' then some (some (ch.toNat - 0x30), c.advance)
  else if ch = '0' then none
  else some (none, c)

/-- Past blanks and a comment at the end of a line, and past the line end; nothing else may stand
there. -/
def skipLineRest (c : Cursor) : Option Cursor :=
  let c := c.skipWhile (· == ' ')
  let c := if c.peek = '#' then c.skipWhile fun ch => !isLineEnd ch else c
  if isLineEnd c.peek then some c.readBreak.2 else none

/-- The header of a block scalar, from behind its mark: a sign and a digit in either order, and a
comment behind a blank. -/
def readHeader (c : Cursor) : Option (BlockHeader × Cursor) := do
  let (before, c) := readSign c
  let (increment, c) ← readIncrement c
  let (behind, c) := if before.isSome then (none, c) else readSign c
  if c.peek = ' ' || isLineEnd c.peek || isBreak c.peek then
    let c ← skipLineRest c
    return (⟨(before.or behind).getD .clip, increment⟩, c)
  else none

/-- Past the empty lines before the text, up to its first character: the line ends there, and the
greatest number of blanks. `first` is the number of blanks on the first empty line; no line before
the text may have more. -/
def findMargin (fuel : Nat) (breaks : Text) (first : Option Nat) (most : Nat) (c : Cursor) :
    Option (Text × Nat × Cursor) :=
  match fuel with
  | 0 => none
  | fuel + 1 =>
    if c.peek = ' ' then
      let c := c.advance
      findMargin fuel breaks first (max most c.column) c
    else if isBreak c.peek then
      let (b, next) := c.readBreak
      findMargin fuel (breaks ++ b) (first.or (some c.column)) most next
    else if first.any fun n => 0 < n && n < most then none
    else some (breaks, most, c)

/-- Past the blanks before a margin. -/
def skipToMargin (margin : Nat) (c : Cursor) : Cursor :=
  c.advanceBy ((c.rest.take (margin - c.column)).takeWhile (· == ' ')).length

/-- Past empty lines, up to the text of the next line. -/
def blockBreaks (margin : Nat) (fuel : Nat) (breaks : Text) (c : Cursor) : Text × Cursor :=
  match fuel with
  | 0 => (breaks, c)
  | fuel + 1 =>
    let c := skipToMargin margin c
    if isBreak c.peek then
      let (b, c) := c.readBreak
      blockBreaks margin fuel (breaks ++ b) c
    else (breaks, c)

/-- How far a block scalar has been read: its text, the end of its last line, and the line ends
behind that. -/
structure BlockText where
  text : Text
  lineBreak : Text
  breaks : Text

/-- The text with its last line ends. -/
def BlockText.chomp (b : BlockText) : Chomping → Text
  | .clip => b.text ++ b.lineBreak
  | .strip => b.text
  | .keep => b.text ++ b.lineBreak ++ b.breaks

/-- What stands between two lines of a block scalar. -/
def blockJoint (folded bothFlush : Bool) (b : BlockText) : Text :=
  if folded && bothFlush && b.lineBreak = ['\n'] then (if b.breaks.isEmpty then [' '] else [])
  else b.lineBreak

/-- The lines of a block scalar that begin at its margin. Outside all blocks a document separator
ends it. -/
def blockLines (folded outermost : Bool) (margin : Nat) (fuel : Nat) (b : BlockText) (c : Cursor) :
    BlockText × Cursor :=
  match fuel with
  | 0 => (b, c)
  | fuel + 1 =>
    let isFlush := fun c : Cursor => c.peek != ' ' && c.peek != '\t'
    let isInside := fun c : Cursor => c.column == margin && !c.rest.isEmpty
    if isInside c then
      let content := c.rest.takeWhile fun ch => !isLineEnd ch
      let text := b.text ++ b.breaks ++ content
      let (lineBreak, next) := (c.advanceBy content.length).readBreak
      let (breaks, next) := blockBreaks margin (next.rest.length + 1) [] next
      let b : BlockText := ⟨text, lineBreak, breaks⟩
      if isInside next && !(outermost && next.column == 0 && next.isAtSeparator) then
        let joint := blockJoint folded (isFlush c && isFlush next) b
        blockLines folded outermost margin fuel { b with text := text ++ joint } next
      else (b, next)
    else (b, c)

/-- The block scalar that begins here with its mark, in a block at column `indent`. -/
def readBlock (indent : Int) (c : Cursor) : Option (Text × Cursor) := do
  let folded := c.peek == '>'
  let (header, c) ← readHeader c.advance
  let least := (indent + 1).toNat
  let fuel := c.rest.length + 1
  let (margin, breaks, c) ← match header.increment with
    | none => (findMargin fuel [] none 0 c).map fun (breaks, most, c) => (max least most, breaks, c)
    | some n =>
      let margin := max 1 least + n - 1
      let (breaks, c) := blockBreaks margin fuel [] c
      some (margin, breaks, c)
  let outermost := least == 0 && header.increment.isNone
  let (b, c) := blockLines folded outermost margin fuel ⟨[], [], breaks⟩ c
  return (b.chomp header.chomping, c)

end ShellStyle.Yaml
