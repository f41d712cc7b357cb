import ShellStyle.Literal.NameChar
import ShellStyle.Literal.Number
import ShellStyle.Literal.Quoted
import ShellStyle.Text.Quoted

/-!
# Tokens of literals

A text is cut into names, numbers, strings and marks. Blanks, comments and, inside brackets, line
ends are left out. Brackets must be closed in the order in which they were opened.
-/

namespace ShellStyle.Literal

open Text

/-- A token. -/
inductive Token where
  | name (t : Text)
  | number (isImaginary : Bool)
  | string (q : Quoted)
  | mark (t : Text)
  | newline
  deriving DecidableEq, Repr

/-- A token with the number of brackets that are open behind it. -/
structure Placed where
  token : Token
  depth : Nat
  deriving DecidableEq, Repr

/-- How the tokens of a text end. -/
inductive Ending where
  | finished
  /-- A bracket is still open. -/
  | unclosed (opening : Char)
  /-- A token cannot be read. Most of these errors come before all others. -/
  | faulty (message : String) (comesFirst : Bool)
  deriving DecidableEq, Repr

/-- Marks of more than one character, the longest first. -/
def longMarks : List Text :=
  ["**=".toList, "//=".toList, ">>=".toList, "<<=".toList, "...".toList, "**".toList,
    "//".toList, "<<".toList, ">>".toList, "<=".toList, ">=".toList, "==".toList, "!=".toList,
    "<>".toList, "->".toList, ":=".toList, "+=".toList, "-=".toList, "*=".toList, "/=".toList,
    "%=".toList, "@=".toList, "&=".toList, "|=".toList,
    "^=".toList]

/-- The mark that a text begins with. -/
def markOf (t : Text) : Text :=
  (longMarks.find? fun mark => startsWith mark t).getD (t.take 1)

/-- A character that a name can begin with. -/
def startsName (c : Char) : Bool :=
  c.isAlpha || c == '_' || 0x80 ≤ c.toNat

/-- The complaint about a character. -/
def invalidCharacter (c : Char) : String :=
  let code := "U+" ++ String.ofList ((hexPadded 4 c.toNat).map Char.toUpper)
  if isPrintable c then "invalid character '" ++ String.singleton c ++ "' (" ++ code ++ ")"
  else "invalid non-printable character " ++ code

/-- The first character of a name that no name can have there. -/
def nameFault? (name : Text) : Option Char :=
  match name with
  | [] => none
  | c :: t => if beginsName c then t.find? fun d => !continuesName d else some c

/-- The bracket that closes an opening one. -/
def closingOf (opening : Char) : Char :=
  match opening with
  | '(' => ')'
  | '[' => ']'
  | _ => '}'

/-- The most brackets that may be open at once. -/
def depthLimit : Nat :=
  200

/-- The open brackets behind a mark, each with its line, if the mark is right there. -/
def nest (line : Nat) (opened : List (Char × Nat)) (mark : Text) :
    Except String (List (Char × Nat)) :=
  match mark with
  | [c] =>
    if c = '(' || c = '[' || c = '{' then
      if depthLimit ≤ opened.length then .error "too many nested parentheses"
        else .ok ((c, line) :: opened)
    else if c = ')' || c = ']' || c = '}' then
      match opened with
      | [] => .error ("unmatched '" ++ String.singleton c ++ "'")
      | (opening, there) :: rest =>
        if closingOf opening = c then .ok rest
        else .error ("closing parenthesis '" ++ String.singleton c ++
          "' does not match opening parenthesis '" ++ String.singleton opening ++ "'" ++
          (if there = line then "" else " on line " ++ toString there))
    else .ok opened
  | _ => .ok opened

/-- One step: a token and the text behind it, or blanks that were skipped. -/
inductive Step where
  | skipped (rest : Text)
  | token (t : Token) (rest : Text)
  | failed (message : String) (comesFirst : Bool)

/-- Reads the token that a text begins with on line `line`. -/
def nextToken (line : Nat) (inBrackets : Bool) (t : Text) : Step :=
  match t with
  | [] => .skipped []
  | c :: rest =>
    if c = ' ' || c = '\t' || c = '\x0c' then .skipped rest
    else if c = '#' then .skipped (rest.dropWhile (· ≠ '\n'))
    else if c = '\n' then if inBrackets then .skipped rest else .token .newline rest
    else if c = '\\' then
      match rest with
      | '\n' :: _ :: _ => .skipped (rest.drop 1)
      | ['\n'] => .failed "unexpected EOF while parsing" false
      | _ => .failed "unexpected character after line continuation character" false
    else if c.isDigit then
      match readNumber t with
      | .ok (isImaginary, rest) => .token (.number isImaginary) rest
      | .error message => .failed message true
    else if c = '.' && rest.head?.any Char.isDigit then
      match fractionTail rest with
      | .ok (isImaginary, rest) => .token (.number isImaginary) rest
      | .error message => .failed message true
    else
      match stringMarks false false false false t with
      | some (marks, quoted) =>
        match readQuoted line marks quoted with
        | .ok (q, rest) => .token (.string q) rest
        | .error message => .failed message true
      | none =>
        if startsName c then
          let name := t.takeWhile isNameLike
          match nameFault? name with
          | some d => .failed (invalidCharacter d) true
          | none => .token (.name name) (t.drop name.length)
        else if c.toNat < 0x20 || c.toNat = 0x7f then .failed (invalidCharacter c) true
        else
          let mark := markOf t
          .token (.mark mark) (t.drop mark.length)

/-- The tokens of a text; every step takes a character, so there are at most `steps` of them. -/
def tokensFrom (line : Nat) (opened : List (Char × Nat)) : Nat → Text → List Placed × Ending
  | 0, _ => ([], .finished)
  | steps + 1, t =>
    if t.isEmpty then
      match opened with
      | (opening, _) :: _ => ([], .unclosed opening)
      | [] => ([], .finished)
    else
      match nextToken line (!opened.isEmpty) t with
      | .failed message comesFirst => ([], .faulty message comesFirst)
      | .skipped rest =>
        tokensFrom (lastLine line (t.take (t.length - rest.length))) opened steps rest
      | .token token rest =>
        let after := lastLine line (t.take (t.length - rest.length))
        match token with
        | .mark mark =>
          match nest line opened mark with
          | .error message => ([], .faulty message true)
          | .ok opened =>
            let (later, ending) := tokensFrom after opened steps rest
            (⟨token, opened.length⟩ :: later, ending)
        | _ =>
          let (later, ending) := tokensFrom after opened steps rest
          (⟨token, opened.length⟩ :: later, ending)

/-- The tokens of a text, and how they end. -/
def tokens (t : Text) : List Placed × Ending :=
  tokensFrom 1 [] (t.length + 1) t

end ShellStyle.Literal
