import ShellStyle.Yaml.ScalarText
import ShellStyle.Yaml.Tag

/-!
# YAML tokens

A YAML text is cut into tokens. Blocks have no brackets of their own: a block begins where a token
stands further right than the block around it, and ends where one stands further left. A token that
turns out to be a key, because a colon follows it on the same line, gets a key mark put in before
it, and a mapping begins there if its column asks for one.
-/

namespace ShellStyle.Yaml

/-- The tokens of a YAML text. -/
inductive Token where
  | directive (d : Directive)
  | documentStart
  | documentEnd
  | sequenceStart
  | mappingStart
  | blockEnd
  | entry
  | key
  | value
  | flowSequenceStart
  | flowSequenceEnd
  | flowMappingStart
  | flowMappingEnd
  | flowEntry
  | anchor (name : Text)
  | reference (name : Text)
  | tag (handle : Option Text) (suffix : Text)
  | scalar (text : Text) (isPlain : Bool)
  deriving DecidableEq, Repr

/-- A token that may become a key: its number among the tokens and its place. -/
structure KeyCandidate where
  number : Nat
  required : Bool
  index : Nat
  line : Nat
  column : Nat

/-- How far the cutting has come. -/
structure Lexing where
  cursor : Cursor
  tokens : List Token
  /-- The column of the innermost block; -1 outside all blocks. -/
  indent : Int
  /-- The columns of the blocks around it. -/
  outer : List Int
  /-- The open flow brackets, the innermost first. -/
  flow : List Char
  /-- Whether a key may begin here. -/
  keyAllowed : Bool
  /-- The candidates, each with the flow depth it belongs to. -/
  candidates : List (Nat × KeyCandidate)

namespace Lexing

/-- The start of a text. -/
def ofText (t : Text) : Lexing :=
  ⟨Cursor.ofText t, [], -1, [], [], true, []⟩

/-- Whether flow brackets are open. -/
def inFlow (l : Lexing) : Bool :=
  !l.flow.isEmpty

/-- Adds a token. -/
def add (l : Lexing) (token : Token) : Lexing :=
  { l with tokens := l.tokens ++ [token] }

/-- Past blanks, comments and line ends; a line end outside flow brackets allows a key. -/
def skipGap (l : Lexing) (fuel : Nat) : Lexing :=
  match fuel with
  | 0 => l
  | fuel + 1 =>
    let c := l.cursor.skipWhile fun ch => ch == ' ' || (l.inFlow && ch == '\t')
    let c := if c.peek = '#' then c.skipWhile fun ch => !isLineEnd ch else c
    if isBreak c.peek then
      let l := { l with cursor := c.readBreak.2, keyAllowed := l.keyAllowed || !l.inFlow }
      l.skipGap fuel
    else { l with cursor := c }

/-- Drops the candidates that a colon can no longer reach: keys end on the line where they begin and
within 1024 characters. A key that had to be one is an error. -/
def dropStale (l : Lexing) : Option Lexing :=
  let isStale := fun (k : KeyCandidate) =>
    k.line != l.cursor.line || l.cursor.index - k.index > 1024
  if l.candidates.any fun (_, k) => isStale k && k.required then none
  else some { l with candidates := l.candidates.filter fun (_, k) => !isStale k }

/-- Drops the candidate of the current flow depth. -/
def dropCandidate (l : Lexing) : Option Lexing :=
  if l.candidates.any fun (depth, k) => depth == l.flow.length && k.required then none
  else some { l with candidates := l.candidates.filter fun (depth, _) => depth != l.flow.length }

/-- Notes that the next token may be a key. -/
def noteCandidate (l : Lexing) : Option Lexing :=
  if l.keyAllowed then do
    let l ← l.dropCandidate
    let c := l.cursor
    let required := !l.inFlow && l.indent == (c.column : Int)
    return { l with candidates :=
      (l.flow.length, ⟨l.tokens.length, required, c.index, c.line, c.column⟩) :: l.candidates }
  else some l

/-- Ends the blocks that begin further right than a column. -/
def closeBlocks (column : Int) (l : Lexing) : List Int → Lexing
  | [] => l
  | previous :: rest =>
    if column < l.indent then
      closeBlocks column { l with indent := previous, outer := rest, tokens := l.tokens ++
        [.blockEnd] }
        rest
    else l

/-- Ends blocks by the column of the next token; flow brackets disregard columns. -/
def unwind (l : Lexing) (column : Int) : Lexing :=
  if l.inFlow then l else closeBlocks column l l.outer

/-- Begins a block at a column further right than the current one. -/
def deepen (l : Lexing) (column : Int) : Option Lexing :=
  if l.indent < column then some { l with indent := column, outer := l.indent :: l.outer } else none

/-- A mark of three characters that separates documents. -/
def readSeparator (l : Lexing) (token : Token) : Option Lexing := do
  let l ← (l.unwind (-1)).dropCandidate
  return { l with cursor := l.cursor.advanceBy 3, keyAllowed := false }.add token

/-- A directive, up to the end of its line. -/
def addDirective (l : Lexing) : Option Lexing := do
  let l ← (l.unwind (-1)).dropCandidate
  let (directive, c) ← readDirective l.cursor
  return { l with cursor := c, keyAllowed := false }.add (.directive directive)

/-- An opening flow bracket. -/
def openFlow (l : Lexing) (bracket : Char) (token : Token) : Option Lexing := do
  let l ← l.noteCandidate
  return { l with flow := bracket :: l.flow, keyAllowed := true, cursor := l.cursor.advance }.add
    token

/-- A closing flow bracket. -/
def closeFlow (l : Lexing) (token : Token) : Option Lexing := do
  let l ← l.dropCandidate
  return { l with flow := l.flow.drop 1, keyAllowed := false, cursor := l.cursor.advance }.add token

/-- A comma between flow brackets. -/
def readFlowEntry (l : Lexing) : Option Lexing := do
  let l ← l.dropCandidate
  return { l with keyAllowed := true, cursor := l.cursor.advance }.add .flowEntry

/-- Begins a block at the cursor if its column asks for one. -/
def beginBlock (l : Lexing) (token : Token) : Lexing :=
  match l.deepen l.cursor.column with
  | some l => l.add token
  | none => l

/-- A dash before an item of a sequence. -/
def readEntry (l : Lexing) : Option Lexing :=
  if !l.inFlow && !l.keyAllowed then none
  else do
    let l := if l.inFlow then l else l.beginBlock .sequenceStart
    let l ← { l with keyAllowed := true }.dropCandidate
    return { l with cursor := l.cursor.advance }.add .entry

/-- A question mark before a key. -/
def readKey (l : Lexing) : Option Lexing :=
  if !l.inFlow && !l.keyAllowed then none
  else do
    let l := if l.inFlow then l else l.beginBlock .mappingStart
    let l ← { l with keyAllowed := !l.inFlow }.dropCandidate
    return { l with cursor := l.cursor.advance }.add .key

/-- A colon before a value: it makes the candidate of this depth a key. -/
def readValue (l : Lexing) : Option Lexing :=
  match l.candidates.lookup l.flow.length with
  | some k =>
    let l := { l with candidates := l.candidates.filter fun (depth, _) => depth != l.flow.length }
    let (front, back) := l.tokens.splitAt k.number
    let l := match (if l.inFlow then none else l.deepen k.column) with
      | some l => { l with tokens := front ++ [Token.mappingStart, Token.key] ++ back }
      | none => { l with tokens := front ++ [Token.key] ++ back }
    some ({ l with keyAllowed := false, cursor := l.cursor.advance }.add .value)
  | none =>
    if !l.inFlow && !l.keyAllowed then none
    else do
      let l := if l.inFlow then l else l.beginBlock .mappingStart
      let l ← { l with keyAllowed := !l.inFlow }.dropCandidate
      return { l with cursor := l.cursor.advance }.add .value

/-- The marks of flow sequences and mappings. -/
def isFlowMark (c : Char) : Bool :=
  c == ',' || c == '[' || c == ']' || c == '{' || c == '}'

/-- The other characters that no plain scalar begins with. -/
def isIndicator (c : Char) : Bool :=
  ['#', '&', '*', '!', '|', '>', '\'', '"', '%', '@', Char.ofNat 0x60].elem c

/-- A character of the name of an anchor. -/
def isAnchorChar (c : Char) : Bool :=
  let n := c.toNat
  !isFlowMark c &&
    ((0x21 ≤ n && n ≤ 0x7e) || (0xa0 ≤ n && n ≤ 0xd7ff) ||
      (0xe000 ≤ n && n ≤ 0xfffd && n != 0xfeff) || 0x10000 ≤ n)

/-- An anchor or a reference to one. -/
def readName (l : Lexing) (token : Text → Token) : Option Lexing := do
  let l ← l.noteCandidate
  let name := (l.cursor.advance.rest).takeWhile isAnchorChar
  let c := l.cursor.advanceBy (name.length + 1)
  if name.isEmpty || !(isGap c.peek || isBreak c.peek || isFlowMark c.peek) then
    none
  else return { l with keyAllowed := false, cursor := c }.add (token name)

/-- A tag. -/
def addTag (l : Lexing) : Option Lexing := do
  let l ← l.noteCandidate
  let (handle, suffix, c) ← readTag l.cursor
  return { l with keyAllowed := false, cursor := c }.add (.tag handle suffix)

/-- A block scalar, behind which a key may follow. -/
def readBlockScalar (l : Lexing) : Option Lexing := do
  let l ← l.dropCandidate
  let (text, c) ← readBlock l.indent l.cursor
  return { l with keyAllowed := true, cursor := c }.add (.scalar text false)

/-- A scalar in quotes. -/
def readQuotedScalar (l : Lexing) : Option Lexing := do
  let l ← l.noteCandidate
  let (text, c) ← readQuoted l.cursor
  return { l with keyAllowed := false, cursor := c }.add (.scalar text false)

/-- A plain scalar. -/
def readPlainScalar (l : Lexing) : Option Lexing := do
  let l ← l.noteCandidate
  let (text, broke, c) := readPlain l.inFlow (l.indent + 1) l.cursor
  return { l with keyAllowed := broke, cursor := c }.add (.scalar text true)

/-- Whether a colon here stands before a value. -/
def isValueMark (l : Lexing) : Bool :=
  match l.flow with
  | [] => isGap (l.cursor.peekAt 1)
  | bracket :: _ =>
    if bracket == '[' || l.tokens.getLast? == some .value then isGap (l.cursor.peekAt 1) else true

/-- Whether a plain scalar can begin here. -/
def isPlainStart (l : Lexing) : Bool :=
  let c := l.cursor.peek
  let next := l.cursor.peekAt 1
  if isGap c || isBreak c then false
  else if c == '-' then !isGap next
  else if c == '?' then !l.inFlow && !isGap next
  else if c == ':' then (if l.inFlow then next != ' ' && next != '\t' else !isGap next)
  else !isFlowMark c && !isIndicator c

/-- The next token, at a place that is no gap; nothing can be read where no token can begin. -/
def readToken (l : Lexing) : Option Lexing :=
  let c := l.cursor.peek
  let next := l.cursor.peekAt 1
  let atStart := l.cursor.column == 0
  if c == '%' && atStart then l.addDirective
  else if atStart && l.cursor.isAtMarks '-' then l.readSeparator .documentStart
  else if atStart && l.cursor.isAtMarks '.' then l.readSeparator .documentEnd
  else if c == '[' then l.openFlow c .flowSequenceStart
  else if c == '{' then l.openFlow c .flowMappingStart
  else if c == ']' then l.closeFlow .flowSequenceEnd
  else if c == '}' then l.closeFlow .flowMappingEnd
  else if c == ',' then l.readFlowEntry
  else if c == '-' && isGap next then l.readEntry
  else if c == '?' && (l.inFlow || isGap next) then l.readKey
  else if c == ':' && l.isValueMark then l.readValue
  else if c == '*' then l.readName .reference
  else if c == '&' then l.readName .anchor
  else if c == '!' then l.addTag
  else if (c == '|' || c == '>') && !l.inFlow then l.readBlockScalar
  else if c == '\'' || c == '"' then l.readQuotedScalar
  else if l.isPlainStart then l.readPlainScalar
  else none

/-- All further tokens. -/
def readTokens (l : Lexing) (fuel : Nat) : Option (List Token) :=
  match fuel with
  | 0 => none
  | fuel + 1 => do
    let l := l.skipGap (l.cursor.rest.length + 1)
    let l ← l.dropStale
    let l := l.unwind l.cursor.column
    if l.cursor.rest.isEmpty then
      let l ← (l.unwind (-1)).dropCandidate
      return l.tokens
    else
      let l ← l.readToken
      l.readTokens fuel

end Lexing

/-- The tokens of a YAML text; a byte order mark at its start is passed over. -/
def tokens? (t : Text) : Option (List Token) :=
  let l := Lexing.ofText t
  let l := if l.cursor.peek = byteOrderMark then { l with cursor := l.cursor.advance } else l
  l.readTokens (t.length + 2)

end ShellStyle.Yaml
