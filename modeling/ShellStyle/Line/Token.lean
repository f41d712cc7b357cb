import ShellStyle.Quote

/-!
# Words of a line

A line is cut into words at blanks outside strings. Quotes stay part of their word, and a backslash
keeps the next character in the word, except inside single quotes where it is an ordinary character.
-/

namespace ShellStyle.Line

open Text

/-- A finished word, unless it is empty. -/
def finishWord (word : Text) : List Text :=
  if word.isEmpty then [] else [word]

/-- The words of a text, where `word` is the word begun so far, `quote` the open quote, and the next
character is taken as it is when `escaped` holds. -/
def wordsFrom (word : Text) (quote : Option Char) (escaped : Bool) : Text → List Text
  | [] => finishWord word
  | c :: t =>
    if escaped then wordsFrom (word ++ [c]) quote false t
    else if c = '\\' ∧ quote ≠ some '\'' then wordsFrom (word ++ [c]) quote true t
    else match quote with
      | some q => wordsFrom (word ++ [c]) (if c = q then none else some q) false t
      | none =>
        if QuoteState.isMark c then wordsFrom (word ++ [c]) (some c) false t
        else if isBlank c then finishWord word ++ wordsFrom [] none false t
        else wordsFrom (word ++ [c]) none false t

/-- The words of a line. -/
def words (line : Text) : List Text :=
  wordsFrom [] none false line

end ShellStyle.Line
