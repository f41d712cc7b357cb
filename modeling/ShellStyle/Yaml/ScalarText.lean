import ShellStyle.Text.Hexadecimal
import ShellStyle.Yaml.Cursor

/-!
# The text of scalars

Plain and quoted scalars may go over several lines: a single line end becomes a space, further ones
stay. Double quotes allow escapes; in single quotes a doubled quote stands for one.
-/

namespace ShellStyle.Yaml

open Text

/-! ## Plain scalars -/

/-- The number of characters of a plain scalar up to a blank, a line end or an indicator. -/
def plainLength (inFlow : Bool) : Text → Nat
  | [] => 0
  | c :: t =>
    if c = ':' && !isGap (t.head?.getD (Char.ofNat 0)) then 1 + plainLength inFlow t
    else if c = '?' then 1 + plainLength inFlow t
    else if isGap c || c = ':' || (inFlow && [',', '[', ']', '{', '}'].elem c) then 0
    else 1 + plainLength inFlow t

/-- Empty lines and the blanks before the next text; nothing at a document separator. -/
def plainBreaks (fuel : Nat) (breaks : Text) (c : Cursor) : Option Text × Cursor :=
  match fuel with
  | 0 => (some breaks, c)
  | fuel + 1 =>
    if c.peek = ' ' then plainBreaks fuel breaks c.advance
    else if isBreak c.peek then
      let (b, c) := c.readBreak
      if c.isAtSeparator then (none, c) else plainBreaks fuel (breaks ++ b) c
    else (some breaks, c)

/-- What stands between two pieces of a plain scalar, and whether a line ended there. -/
def plainGap (c : Cursor) : Text × Bool × Cursor :=
  let blanks := c.rest.takeWhile (· == ' ')
  let c := c.skipWhile (· == ' ')
  if isBreak c.peek then
    let (first, c) := c.readBreak
    if c.isAtSeparator then ([], true, c)
    else
      match plainBreaks (c.rest.length + 1) [] c with
      | (none, c) => ([], true, c)
      | (some breaks, c) =>
        let joint := if first = ['\n'] then (if breaks.isEmpty then [' '] else []) else first
        (joint ++ breaks, true, c)
  else (blanks, false, c)

/-- A plain scalar from `text` on, which `gap` separates from what follows; `margin` is the least
column of its lines. The flag says whether a line ended behind it. -/
def plainFrom (inFlow : Bool) (margin : Int) (fuel : Nat) (text gap : Text) (broke : Bool)
    (c : Cursor) : Text × Bool × Cursor :=
  match fuel with
  | 0 => (text, broke, c)
  | fuel + 1 =>
    if c.peek = '#' then (text, broke, c)
    else
      let n := plainLength inFlow c.rest
      if n = 0 then (text, broke, c)
      else
        let text := text ++ gap ++ c.rest.take n
        let (gap, broke, c) := plainGap (c.advanceBy n)
        if gap.isEmpty || c.peek = '#' || (!inFlow && (c.column : Int) < margin) then
          (text, broke, c)
        else plainFrom inFlow margin fuel text gap broke c

/-- The plain scalar that begins here. -/
def readPlain (inFlow : Bool) (margin : Int) (c : Cursor) : Text × Bool × Cursor :=
  plainFrom inFlow margin (c.rest.length + 1) [] [] false c

/-! ## Quoted scalars -/

/-- What a character behind a backslash stands for. -/
def escape? (c : Char) : Option Char :=
  match c with
  | '0' => some (Char.ofNat 0)
  | 'a' => some (Char.ofNat 7)
  | 'b' => some (Char.ofNat 8)
  | 't' => some '\t'
  | '\t' => some '\t'
  | 'n' => some '\n'
  | 'v' => some (Char.ofNat 0x0b)
  | 'f' => some (Char.ofNat 0x0c)
  | 'r' => some '\r'
  | 'e' => some (Char.ofNat 0x1b)
  | ' ' => some ' '
  | '"' => some '"'
  | '/' => some '/'
  | '\\' => some '\\'
  | 'N' => some (Char.ofNat 0x85)
  | '_' => some (Char.ofNat 0xa0)
  | 'L' => some (Char.ofNat 0x2028)
  | 'P' => some (Char.ofNat 0x2029)
  | _ => none

/-- The number of hexadecimal digits behind an escape. -/
def escapeWidth? (c : Char) : Option Nat :=
  match c with
  | 'x' => some 2
  | 'u' => some 4
  | 'U' => some 8
  | _ => none

/-- Empty lines inside quotes; a document separator may not stand there. -/
def quotedBreaks (fuel : Nat) (breaks : Text) (c : Cursor) : Option (Text × Cursor) :=
  match fuel with
  | 0 => none
  | fuel + 1 =>
    if c.isAtSeparator then none
    else
      let c := c.skipWhile fun ch => ch == ' ' || ch == '\t'
      if isBreak c.peek then
        let (b, c) := c.readBreak
        quotedBreaks fuel (breaks ++ b) c
      else some (breaks, c)

/-- Blanks and line ends inside quotes. -/
def quotedGap (c : Cursor) : Option (Text × Cursor) :=
  let isSpace := fun ch : Char => ch == ' ' || ch == '\t'
  let blanks := c.rest.takeWhile isSpace
  let c := c.skipWhile isSpace
  if c.rest.isEmpty then none
  else if isBreak c.peek then do
    let (first, c) := c.readBreak
    let (breaks, c) ← quotedBreaks (c.rest.length + 1) [] c
    let joint := if first = ['\n'] then (if breaks.isEmpty then [' '] else []) else first
    return (joint ++ breaks, c)
  else some (blanks, c)

/-- The rest of a scalar in quotes `mark`, from behind the opening quote. -/
def quotedFrom (mark : Char) (fuel : Nat) (text : Text) (c : Cursor) : Option (Text × Cursor) :=
  match fuel with
  | 0 => none
  | fuel + 1 =>
    match c.rest with
    | [] => none
    | ch :: _ =>
      if ch = mark then
        if mark = '\'' ∧ c.peekAt 1 = '\'' then
          quotedFrom mark fuel (text ++ ['\'']) (c.advanceBy 2)
        else some (text, c.advance)
      else if ch = ' ' ∨ ch = '\t' ∨ isBreak ch then do
        let (gap, c) ← quotedGap c
        quotedFrom mark fuel (text ++ gap) c
      else if mark = '"' ∧ ch = '\\' then
        let c := c.advance
        let code := c.peek
        match escape? code, escapeWidth? code with
        | some plain, _ => quotedFrom mark fuel (text ++ [plain]) c.advance
        | none, some width => do
          let digits := c.advance.rest.take width
          if digits.length < width then none
          else
            let n ← hexNumber? digits
            quotedFrom mark fuel (text ++ [Char.ofNat n]) (c.advanceBy (width + 1))
        | none, none =>
          if isBreak code then do
            let (breaks, c) ← quotedBreaks (c.rest.length + 1) [] c.readBreak.2
            quotedFrom mark fuel (text ++ breaks) c
          else none
      else quotedFrom mark fuel (text ++ [ch]) c.advance

/-- The quoted scalar that begins here. -/
def readQuoted (c : Cursor) : Option (Text × Cursor) :=
  quotedFrom c.peek (2 * c.rest.length + 2) [] c.advance

end ShellStyle.Yaml
