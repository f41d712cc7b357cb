import ShellStyle.Fix.Guard
import ShellStyle.Fix.Spacing
import ShellStyle.Line.Comment
import ShellStyle.Line.Continuation

/-!
# Indentation and line length

A line is indented by its level. A line that is too long is broken once, behind the last list
operator that stands between blanks in its code outside strings; the second part is indented one
step more than the first.
-/

namespace ShellStyle.Fix

open Text Line

/-- The line indented to a level. Lines inside heredocs, comments, shebangs and blank lines stay as
they are. -/
def indentation [Machine] (s : Settings) (level : Int) (inHeredoc : Bool) (line : Text) :
    Except StyleError Text :=
  if !s.isEnabled .indentation || inHeredoc || (context line).isInert || isBlankText line then
    .ok line
  else do
    let size ← s.indentSize
    let margin ← spaces (level * size)
    return margin ++ trimLeft line

/-- A list operator between blanks. -/
def operatorBreak : Matcher Text := fun _ t =>
  match t with
  | c :: rest =>
    match listOperator? rest with
    | some op =>
      if isBlank c && (rest[2]?).any isBlank then some (op, 4) else none
    | none => none
  | [] => none

/-- The last place in a code where its line can be broken. -/
def breakPoint? (code : Text) : Option (Hit Text) :=
  ((operatorBreak.hits code).filter fun hit => !isQuotedAt code hit.span.start).getLast?

/-- The two parts of a line that is broken at a hit of its code, unless one of them would be
empty. -/
def breakAt [Machine] (s : Settings) (line : Text) (hit : Hit Text) :
    Except StyleError (List Text) :=
  let head := trimRight (line.take hit.span.start)
  let tail := trim (line.drop hit.span.stop)
  if isBlankText head || isBlankText ((code line).drop hit.span.stop) then .ok [line]
  else do
    let size ← s.indentSize
    let step ← spaces size
    return [head ++ [' '] ++ hit.value ++ [' ', '\\'], indent line ++ step ++ tail]

/-- The line, or its two parts if it is too long and can be broken. -/
def wrap [Machine] (s : Settings) (line : Text) : Except StyleError (List Text) := do
  let limit ← s.maxLineLength
  if (line.length : Int) ≤ limit || isGuarded s .lineLength line || isContinued line ||
      hasMatchOperator line then
    return [line]
  else
    match breakPoint? (code line) with
    | none => return [line]
    | some hit => breakAt s line hit

end ShellStyle.Fix
