import ShellStyle.Text.Search
import ShellStyle.Text.WordChar

/-!
# Whole words

A word stands whole where no word character touches it.
-/

namespace ShellStyle.Text

/-- Whether a text begins with something other than a word character, or is empty. -/
def isWordEnd (t : Text) : Bool :=
  t.head?.all fun c => !isWordChar c

/-- Whether a text ends with a word that nothing longer ends with. -/
def endsWithWord (word t : Text) : Bool :=
  match after? word.reverse t.reverse with
  | none => false
  | some rest => isWordEnd rest

/-- The first of some words that begins the text and does not go on. -/
def wholeWord? (words : List Text) (t : Text) : Option Text :=
  words.find? fun word =>
    match after? word t with
    | none => false
    | some rest => isWordEnd rest

end ShellStyle.Text
