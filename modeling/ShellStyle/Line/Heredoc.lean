import ShellStyle.Quote
import ShellStyle.Span

/-!
# Heredoc operators

A heredoc operator is `<<` or `<<-`, blanks, and the word that ends the heredoc: a name, or a quoted
word. A third `<` on either side makes it a here-string. A line opens a heredoc when an operator
begins outside all strings; the word without its quotes is the delimiter, and the heredoc ends at
the line that is the delimiter but for blanks around it.
-/

namespace ShellStyle.Line

open Text

/-- A character that may begin a name. -/
def isNameStart (c : Char) : Bool :=
  ('a' ≤ c && c ≤ 'z') || ('A' ≤ c && c ≤ 'Z') || c == '_'

/-- A character that may go on in a name. -/
def isNameChar (c : Char) : Bool :=
  isNameStart c || ('0' ≤ c && c ≤ '9')

/-- The delimiter word at the start of a text, quotes included: a name, or a string that is not
empty. -/
def delimiterWord? : Text → Option Text
  | [] => none
  | c :: t =>
    if isNameStart c then some (c :: t.takeWhile isNameChar)
    else if QuoteState.isMark c then
      let body := t.takeWhile (· != c)
      if body.isEmpty || body.length == t.length then none else some (c :: body ++ [c])
    else none

/-- The heredoc operator at a place: its word, quotes included. -/
def heredocOperator : Matcher Text := fun before t =>
  match t with
  | '<' :: '<' :: rest =>
    if before = some '<' then none
    else
      let rest := match rest with
        | '-' :: u => u
        | u => u
      if rest.head? = some '<' then none
      else
        let behind := rest.dropWhile fun c => c == ' ' || c == '\t'
        (delimiterWord? behind).map fun word =>
          (word, t.length - behind.length + word.length)
  | _ => none

/-- The first heredoc operator that begins outside all strings. -/
def heredocOpener? (line : Text) : Option (Hit Text) :=
  (heredocOperator.hits line).find? fun hit => !isQuotedAt line hit.span.start

/-- Whether the line opens a heredoc. -/
def opensHeredoc (line : Text) : Bool :=
  (heredocOpener? line).isSome

/-- The delimiter of the heredoc that the line opens; empty if it opens none. -/
def heredocDelimiter (line : Text) : Text :=
  match heredocOpener? line with
  | some hit => hit.value.filter fun c => !QuoteState.isMark c
  | none => []

/-- Whether the line ends a heredoc with this delimiter. -/
def endsHeredoc (line delimiter : Text) : Bool :=
  !delimiter.isEmpty && trim line == delimiter

end ShellStyle.Line
