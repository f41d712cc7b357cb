import ShellStyle.Fix.Guard
import ShellStyle.Text.WordChar

/-!
# Spaces around operators, before braces and after commas

Each fixer puts in the one space that is missing and changes nothing else.
-/

namespace ShellStyle.Fix

open Text Line

/-- The list operator at the start of a text. -/
def listOperator? : Text → Option Text
  | '&' :: '&' :: _ => some ['&', '&']
  | '|' :: '|' :: _ => some ['|', '|']
  | _ => none

/-- A list operator right behind double brackets. -/
def operatorAfterTest : Matcher Text := fun _ t =>
  match t with
  | ']' :: ']' :: rest => (listOperator? rest).map fun op => (op, 4)
  | _ => none

/-- A list operator right before double brackets. -/
def operatorBeforeTest : Matcher Text := fun _ t =>
  match listOperator? t with
  | some op => if startsWith ['[', '['] (t.drop 2) then some (op, 4) else none
  | none => none

/-- Whether the line has a regular-expression operator. -/
def hasMatchOperator (line : Text) : Bool :=
  contains ['=', '~'] line

/-- Separates list operators from double brackets on either side. -/
def operatorSpacing (s : Settings) (line : Text) : Text :=
  if isGuarded s .spacingIssues line || hasMatchOperator line then line
  else
    let behind := replaceAll operatorAfterTest (fun op => [']', ']', ' '] ++ op) line
    replaceAll operatorBeforeTest (fun op => op ++ [' ', '[', '[']) behind

/-- An opening brace right behind a closing parenthesis, `then` or `do`. -/
def tightBrace : Matcher Text := fun before t =>
  match t with
  | ')' :: '{' :: _ => some ([')'], 2)
  | _ =>
    if before.any isWordChar then none
    else
      [['t', 'h', 'e', 'n'], ['d', 'o']].findSome? fun word =>
        if startsWith (word ++ ['{']) t then some (word, word.length + 1) else none

/-- Puts a space before such a brace. -/
def braceSpacing (s : Settings) (line : Text) : Text :=
  if isGuarded s .braceSpacing line then line
  else replaceUnquoted tightBrace (fun word => some (word ++ [' ', '{'])) line

/-- A comma with something other than a blank right behind it. -/
def tightComma : Matcher Unit := fun _ t =>
  match t with
  | ',' :: c :: _ => if isBlank c then none else some ((), 1)
  | _ => none

/-- Puts a space behind such a comma, except on lines with brace expansions. -/
def commaSpacing (s : Settings) (line : Text) : Text :=
  if isGuarded s .commaSpacing line || hasBraceExpansion line then line
  else replaceUnquoted tightComma (fun _ => some [',', ' ']) line

end ShellStyle.Fix
