import ShellStyle.Line.Context
import ShellStyle.Text.Word

/-!
# The `test` command

A `test` command is the word `test` outside strings at a place where a command can stand: at the
start of the line, behind a separator, or behind a keyword. Its expression ends at the first `;`
outside strings; when that is followed by `then` or `do` the command can be written with double
brackets.
-/

namespace ShellStyle.Fix

open Text Line

/-- The word `test` and the blanks behind it, not as the end of a longer word or path. -/
def testWord : Matcher Unit := fun before t =>
  if before.any fun c => isWordChar c || c == '-' || c == '.' || c == '/' || c == '$' then none
  else
    match after? ['t', 'e', 's', 't'] t with
    | none => none
    | some rest =>
      let gap := rest.takeWhile isBlank
      if gap.isEmpty then none else some ((), 4 + gap.length)

/-- The keywords that a command may follow. -/
def commandKeywords : List Text :=
  [['i', 'f'], ['e', 'l', 'i', 'f'], ['w', 'h', 'i', 'l', 'e'], ['u', 'n', 't', 'i', 'l'],
    ['t', 'h', 'e', 'n'], ['d', 'o'], ['e', 'l', 's', 'e']]

/-- Whether a command can stand behind a text. -/
def isCommandPosition (t : Text) : Bool :=
  let code := trimRight t
  match code.getLast? with
  | none => true
  | some c =>
    [';', '&', '|', '(', '!', '{'].elem c || commandKeywords.any fun word => endsWithWord word code

/-- A `;` followed by `then` or `do`: the keyword and the length up to its end. -/
def testTerminator? : Text → Option (Text × Nat)
  | ';' :: rest =>
    let gap := rest.takeWhile isBlank
    (wholeWord? [['t', 'h', 'e', 'n'], ['d', 'o']] (trimLeft rest)).map fun word =>
      (word, 1 + gap.length + word.length)
  | _ => none

/-- The first `;` outside strings at or behind a position. -/
def separator? (t : Text) (pos : Nat) : Option Nat :=
  (List.range t.length).find? fun i => pos ≤ i && t[i]? == some ';' && !isQuotedAt t i

/-- A `test` command: its word with the blanks behind it, and the keyword that ends its
expression. -/
structure TestCommand where
  word : Span
  terminator : Option (Hit Text)

/-- What ends an expression that begins at a position. -/
def terminatorAfter (line : Text) (pos : Nat) : Option (Hit Text) :=
  match separator? line pos with
  | none => none
  | some i => (testTerminator? (line.drop i)).map fun (word, n) => ⟨⟨i, i + n⟩, word⟩

/-- The `test` commands of a line. -/
def testCommands (line : Text) : List TestCommand :=
  (testWord.hits line).filterMap fun hit =>
    if isQuotedAt line hit.span.start then none
    else if isCommandPosition (line.take hit.span.start) then
      some ⟨hit.span, terminatorAfter line hit.span.stop⟩
    else none

/-- Whether a text holds `-a` or `-o` between blanks, which mean something else in double
brackets. -/
def hasConnective : Text → Bool
  | [] => false
  | c :: t =>
    (isBlank c && match t with
      | '-' :: letter :: d :: _ => (letter == 'a' || letter == 'o') && isBlank d
      | _ => false) || hasConnective t

/-- Whether a text holds a control operator outside strings. -/
def hasBareControl (t : Text) : Bool :=
  (List.range t.length).any fun i =>
    (t[i]?.any fun c => c == ';' || c == '&' || c == '|') && !isQuotedAt t i

/-- The edit that writes a `test` command with double brackets, if that keeps its meaning and the
command begins at or behind `cursor`. -/
def conversion? (line : Text) (cursor : Nat) (command : TestCommand) : Option Edit :=
  match command.terminator with
  | none => none
  | some terminator =>
    let expr := trimRight (slice line ⟨command.word.stop, terminator.span.start⟩)
    if command.word.start < cursor || expr.isEmpty || hasConnective (' ' :: expr ++ [' ']) ||
        hasBareControl expr then none
    else some ⟨⟨command.word.start, terminator.span.stop⟩,
      ['[', '[', ' '] ++ expr ++ [' ', ']', ']', ';', ' '] ++ terminator.value⟩

/-- The edits for the commands of a line, none of which reaches back over the one before. -/
def conversions (line : Text) (cursor : Nat) : List TestCommand → List Edit
  | [] => []
  | command :: rest =>
    match conversion? line cursor command with
    | some edit => edit :: conversions line edit.span.stop rest
    | none => conversions line cursor rest

/-- The line with its `test` commands written with double brackets. -/
def convertTestCommands (line : Text) : Text :=
  splice (conversions line 0 (testCommands line)) line

end ShellStyle.Fix
