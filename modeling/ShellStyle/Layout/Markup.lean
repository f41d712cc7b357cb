import ShellStyle.Emoji.Code
import ShellStyle.Layout.Handler
import ShellStyle.Layout.Style
import ShellStyle.Layout.Wrap

/-!
# Markup

Messages carry style tags in brackets: a tag begins with a lower-case letter, a number sign, a slash
or an at sign, and those with a slash end a style. A backslash before a tag makes it plain text, and
two of them stand for one. Printing a message takes its tags out and puts emoji for their codes. A
tag that ends a style which was not begun is an error; styles are told apart by their normal forms.
Where a tag with a handler ends, the handler is checked. The style of any other tag is described by
its name and its value together; it is looked up when the text is printed, and a description that
is no style is passed over.
-/

namespace ShellStyle.Layout

open Text

/-- What is wrong with the tags of a message. -/
inductive MarkupError where
  /-- The tag ends a style that is not open. -/
  | unmatched (tag : Text) (position : Nat)
  /-- The tag ends the last style, and none is open. -/
  | nothingOpen (position : Nat)
  /-- A tag has a colour with a component missing. -/
  | missingComponent
  /-- A tag has a handler that is wrong. -/
  | handler (e : HandlerError)
  deriving DecidableEq, Repr

/-- The wording of the error. -/
def MarkupError.message : MarkupError → String
  | unmatched tag position =>
    "closing tag '[" ++ String.ofList tag ++ "]' at position " ++ toString position ++
      " doesn't match any open tag"
  | nothingOpen position =>
    "closing tag '[/]' at position " ++ toString position ++ " has nothing to close"
  | missingComponent => "invalid literal for int() with base 10: ''"
  | handler e => e.message

/-- The characters that a tag can begin with. -/
def isTagStart (c : Char) : Bool :=
  c.isLower || c == '#' || c == '/' || c == '@'

/-- The text up to the first closing bracket, if there is no opening one before it. -/
def tagBody? : Text → Option Text
  | [] => none
  | c :: t =>
    if c = ']' then some []
    else if c = '[' then none
    else (tagBody? t).map (c :: ·)

/-- The tag that a text begins with, without its brackets. -/
def tag? : Text → Option Text
  | '[' :: c :: t => if isTagStart c then (tagBody? t).map (c :: ·) else none
  | _ => none

/-- A tag with the backslashes before it: their number, and the tag without its brackets. -/
def tagMatcher : Matcher (Nat × Text) := fun _ t =>
  let slashes := (t.takeWhile (· = '\\')).length
  (tag? (t.drop slashes)).map fun tag => ((slashes, tag), slashes + tag.length + 2)

/-- A tag in its brackets. -/
def bracketed (tag : Text) : Text :=
  '[' :: tag ++ [']']

/-- The text with its tags made plain. -/
def escape (t : Text) : Text :=
  let edits := (tagMatcher.hits t).map fun hit =>
    Edit.mk hit.span
      (List.replicate (2 * hit.value.1 + 1) '\\' ++ bracketed hit.value.2)
  let escaped := splice edits t
  if endsWith ['\\'] escaped && !endsWith ['\\', '\\'] escaped then escaped ++ ['\\'] else escaped

/-- A piece of a message. -/
inductive Piece where
  | plain (text : Text)
  | tag (position : Nat) (text : Text)
  deriving DecidableEq, Repr

/-- The pieces of a message from position `pos` on. -/
def piecesFrom (pos : Nat) (t : Text) : List (Hit (Nat × Text)) → List Piece
  | [] => [.plain (t.drop pos)]
  | hit :: rest =>
    let (slashes, tag) := hit.value
    let before := Piece.plain (slice t ⟨pos, hit.span.start⟩)
    let kept := Piece.plain (List.replicate (slashes / 2) '\\')
    let here := if slashes % 2 = 1 then Piece.plain (bracketed tag)
      else Piece.tag (hit.span.start + slashes) tag
    before :: kept :: here :: piecesFrom hit.span.stop t rest

/-- The pieces of a message. -/
def pieces (t : Text) : List Piece :=
  piecesFrom 0 t (tagMatcher.hits t)

/-- Plain text as it is printed: a bracket needs no backslash. -/
def unescaped : Text → Text
  | '\\' :: '[' :: t => '[' :: unescaped t
  | c :: t => c :: unescaped t
  | [] => []

/-- The normal form of the style that a tag names. -/
def styleName (t : Text) : Except MarkupError Text :=
  match Style.normalForm t with
  | .ok name => .ok name
  | .error _ => .error .missingComponent

/-- A tag that is open: the normal form of its style, its value, which stands behind an equals sign,
and the length of the text before it. -/
structure OpenTag where
  name : Text
  value : Text
  start : Nat
  deriving DecidableEq, Repr

/-- The name of a tag and its value. -/
def tagParts (t : Text) : Text × Text :=
  (t.takeWhile (· ≠ '='), (t.dropWhile (· ≠ '=')).drop 1)

/-- The open tag that was begun last with a name, and the others. -/
def closeTag? (name : Text) : List OpenTag → Option (OpenTag × List OpenTag)
  | [] => none
  | tag :: rest =>
    if tag.name = name then some (tag, rest)
    else (closeTag? name rest).map fun (closed, others) => (closed, tag :: others)

/-- A part of a text with a style: how the style is described, and whether the part is empty. -/
structure StyledPart where
  style : Text
  isEmpty : Bool
  deriving DecidableEq, Repr

namespace OpenTag

/-- The description of a tag's style. -/
def style (tag : OpenTag) : Text :=
  if tag.value.isEmpty then tag.name else tag.name ++ ' ' :: tag.value

/-- The part that a tag styles if the text before its end is of length `stop`. -/
def part (stop : Nat) (tag : OpenTag) : StyledPart :=
  ⟨tag.style, tag.start == stop⟩

/-- What a tag that ends styles; a tag with an at sign has no style, but its handler is checked. -/
def close (stop : Nat) (tag : OpenTag) : Except MarkupError (List StyledPart) :=
  if !startsWith ['@'] tag.name then .ok [tag.part stop]
  else if tag.value.isEmpty then .ok []
  else match checkHandler tag.value with
    | .ok () => .ok []
    | .error e => .error (.handler e)

end OpenTag

/-- A message without its tags, and what they style. -/
structure Rendered where
  text : Text
  parts : List StyledPart
  deriving DecidableEq, Repr

/-- Adds pieces to a message, while `opened` are the open tags, the latest first. -/
def renderPieces (opened : List OpenTag) (message : Rendered) :
    List Piece → Except MarkupError Rendered
  | [] => .ok ⟨message.text, message.parts ++ opened.map (OpenTag.part message.text.length)⟩
  | .plain t :: rest =>
    renderPieces opened ⟨message.text ++ Emoji.replaceCodes (unescaped t), message.parts⟩ rest
  | .tag position ('/' :: tag) :: rest => do
    let name := trim (tagParts tag).1
    if name.isEmpty then
      match opened with
      | [] => .error (.nothingOpen position)
      | closed :: opened =>
        let parts ← closed.close message.text.length
        renderPieces opened ⟨message.text, message.parts ++ parts⟩ rest
    else
      match closeTag? (← styleName name) opened with
      | none => .error (.unmatched ('/' :: tag) position)
      | some (closed, opened) =>
        let parts ← closed.close message.text.length
        renderPieces opened ⟨message.text, message.parts ++ parts⟩ rest
  | .tag _ tag :: rest => do
    let (name, value) := tagParts tag
    renderPieces (⟨← styleName name, value, message.text.length⟩ :: opened) message rest

/-- A message without its tags. -/
def render (t : Text) : Except MarkupError Rendered :=
  renderPieces [] ⟨[], []⟩ (pieces t)

/-- Looks up the styles of parts. -/
def checkStyles : List StyledPart → Except MarkupError Unit
  | [] => .ok ()
  | part :: rest => do
    let _ ← styleName part.style
    checkStyles rest

/-- A message as it is printed without styles, in one piece. -/
def plain (t : Text) : Except MarkupError Text := do
  let message ← render t
  checkStyles message.parts
  return message.text

/-- The lines of a message, none of which is wider than `columns`. A message that is divided loses
the styles of its empty parts. -/
def plainLines (columns : Nat) (t : Text) : Except MarkupError (List Text) := do
  let message ← render t
  let lines := wrap .fold columns message.text
  checkStyles (if 1 < lines.length then message.parts.filter (!·.isEmpty) else message.parts)
  return lines

end ShellStyle.Layout
