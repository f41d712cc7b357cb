import ShellStyle.Line.Comment
import ShellStyle.Line.Heredoc
import ShellStyle.Text.Word

/-!
# What is carried from line to line

Going through a script, the formatter remembers the heredoc it is in, the indent level, and the
lines of a continued command that it has put off. Lines that close a block are one level further
left than the lines before them; lines that open a block put the following lines one level further
right. The level never goes below zero.
-/

namespace ShellStyle.Script

open Text Line

/-- A line with its number in the script. -/
structure NumberedLine where
  number : Int
  text : Text
  deriving DecidableEq, Repr

/-- The memory of a run through a script. -/
structure Tracker where
  /-- Whether a heredoc is open. -/
  inHeredoc : Bool
  /-- The delimiter that ends the heredoc. -/
  delimiter : Text
  /-- The indent level of the next line. -/
  level : Int
  /-- The lines of a continued command so far. -/
  pending : List NumberedLine
  deriving DecidableEq, Repr

/-- The construct that a run is in. -/
inductive Phase where
  | normal
  | heredoc
  | continuation
  deriving DecidableEq, Repr

/-- The name of a phase. -/
def Phase.name : Phase → String
  | normal => "NORMAL"
  | heredoc => "IN_HEREDOC"
  | continuation => "IN_CONTINUATION"

/-- Whether a code begins with a word or brace that closes a block or a branch. -/
def closesBlock (code : Text) : Bool :=
  startsWith ['}'] code ||
    (wholeWord? [['f', 'i'], ['d', 'o', 'n', 'e'], ['e', 's', 'a', 'c'], ['e', 'l', 's', 'e'],
      ['e', 'l', 'i', 'f']] code).isSome

/-- Whether a code ends with a brace, or with `then`, `do` or `else` as a command word. -/
def endsWithOpener (code : Text) : Bool :=
  endsWith ['{'] code ||
    [['t', 'h', 'e', 'n'], ['d', 'o'], ['e', 'l', 's', 'e']].any fun word =>
      match after? word.reverse code.reverse with
      | none => false
      | some rest => rest.head?.all fun c => isBlank c || c == ';'

/-- Whether a text is a name and a pair of parentheses. -/
def isNameAndParentheses : Text → Bool
  | [] => false
  | c :: t => isNameStart c && t.dropWhile isNameChar == ['(', ')']

/-- Whether a code is the head of a function: `name()`, with or without the word `function`. -/
def isFunctionHead (code : Text) : Bool :=
  isNameAndParentheses code ||
    match after? ['f', 'u', 'n', 'c', 't', 'i', 'o', 'n'] code with
    | none => false
    | some rest => rest.head?.any isBlank && isNameAndParentheses (trimLeft rest)

/-- Whether a code is the head of a `case`, up to its `in`, with no line feed between. -/
def isCaseHead (code : Text) : Bool :=
  match after? ['c', 'a', 's', 'e'] code with
  | some (c :: rest) =>
    isBlank c &&
      match after? ['n', 'i'] rest.reverse with
      | some (d :: subject) => isBlank d && !subject.elem '\n'
      | _ => false
  | _ => false

/-- Whether a code opens a block. -/
def opensBlock (code : Text) : Bool :=
  endsWithOpener code || isFunctionHead code || isCaseHead code

namespace Tracker

/-- The memory before the first line. -/
def start : Tracker :=
  ⟨false, [], 0, []⟩

/-- The construct that the run is in; a heredoc comes before a continued command. -/
def phase (t : Tracker) : Phase :=
  if t.inHeredoc then .heredoc
  else if t.pending.isEmpty then .normal
  else .continuation

/-- Opens a heredoc. -/
def enter (t : Tracker) (delimiter : Text) : Tracker :=
  ⟨true, delimiter, t.level, t.pending⟩

/-- Ends the heredoc and forgets its delimiter. -/
def leave (t : Tracker) : Tracker :=
  ⟨false, [], t.level, t.pending⟩

/-- Puts off a line. -/
def push (t : Tracker) (line : NumberedLine) : Tracker :=
  ⟨t.inHeredoc, t.delimiter, t.level, t.pending ++ [line]⟩

/-- Forgets the lines that were put off. -/
def clear (t : Tracker) : Tracker :=
  ⟨t.inHeredoc, t.delimiter, t.level, []⟩

/-- The level for a line itself: one less if it closes a block, but not below zero. -/
def dedent (t : Tracker) (line : Text) : Tracker :=
  if closesBlock (trim (code line)) then
    ⟨t.inHeredoc, t.delimiter, max 0 (t.level - 1), t.pending⟩
  else t

/-- The level behind a line: one more if it opens a block. -/
def indent (t : Tracker) (line : Text) : Tracker :=
  if opensBlock (trim (code line)) then ⟨t.inHeredoc, t.delimiter, t.level + 1, t.pending⟩
  else t

end Tracker

end ShellStyle.Script
