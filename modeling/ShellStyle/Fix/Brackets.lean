import ShellStyle.Fix.Guard
import ShellStyle.Fix.TestCommand

/-!
# Test brackets

Single brackets become double brackets, a `test` command that ends in `; then` or `; do` is written
with double brackets, and double brackets closed by a single one get the second.
-/

namespace ShellStyle.Fix

open Text Line

/-- Whether a text begins with one closing bracket that is not doubled. -/
def closesSingly : Text → Bool
  | ']' :: rest => rest.head? != some ']'
  | _ => false

/-- Whether a text begins with one blank and ends with another. -/
def isPadded (t : Text) : Bool :=
  2 ≤ t.length && t.head?.any isBlank && t.getLast?.any isBlank

/-- Single brackets around a padded expression, not as part of double brackets, of a subscript or of
`$[`. -/
def singleBracket : Matcher Text := fun before t =>
  match t with
  | '[' :: rest =>
    let body := rest.takeWhile fun c => c != '[' && c != ']'
    if before.any (fun c => c == '[' || c == '$' || isWordChar c) then none
    else if isPadded body && closesSingly (rest.drop body.length) then some (body, body.length + 2)
    else none
  | _ => none

/-- Whether a command can end here: nothing follows, or a list operator or a `;`. -/
def endsCommand (t : Text) : Bool :=
  let rest := trimLeft t
  rest.isEmpty || startsWith ['&', '&'] rest || startsWith ['|', '|'] rest || startsWith [';'] rest

/-- Double brackets closed by a single one, at the end of a command. -/
def mixedBracket : Matcher Text := fun _ t =>
  match t with
  | '[' :: '[' :: rest =>
    let body := rest.takeWhile (· != ']')
    let behind := rest.drop body.length
    if body.getLast?.any isBlank && closesSingly behind && endsCommand (behind.drop 1) then
      some (body, body.length + 3)
    else none
  | _ => none

/-- An expression in double brackets. -/
def doubleBracketed (body : Text) : Text :=
  ['[', '['] ++ body ++ [']', ']']

/-- Single brackets with `-a` or `-o` in their expression have no counterpart. -/
def singleBracketReplacement (body : Text) : Option Text :=
  if hasConnective (trim body) then none else some (doubleBracketed body)

/-- Writes tests with double brackets. -/
def brackets (s : Settings) (line : Text) : Text :=
  if isGuarded s .bracketStyle line then line
  else
    let converted := convertTestCommands line
    let doubled := replaceUnquoted singleBracket singleBracketReplacement converted
    replaceUnquoted mixedBracket (fun body => some (doubleBracketed body)) doubled

end ShellStyle.Fix
