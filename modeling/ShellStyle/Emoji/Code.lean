import ShellStyle.Emoji.Table
import ShellStyle.Span
import ShellStyle.Text.Hexadecimal
import ShellStyle.Text.LowerCase
import ShellStyle.Text.Search

/-!
# Emoji codes

A code is the name of an emoji between colons, in any case and without blanks; `-text` or `-emoji`
behind the name selects how it is shown. Codes with a known name are printed as the emoji, and all
others stay as they are.
-/

namespace ShellStyle.Emoji

open Text

/-- How an emoji is shown. -/
inductive Variant where
  | text
  | emoji
  deriving DecidableEq, Repr

namespace Variant

/-- The words behind a name that select how the emoji is shown. -/
def all : List Variant :=
  [emoji, text]

/-- What selects the variant in a code. -/
def suffix : Variant → Text
  | text => "-text".toList
  | emoji => "-emoji".toList

/-- The character that selects the variant behind an emoji. -/
def selector : Variant → Char
  | text => Char.ofNat 0xfe0e
  | emoji => Char.ofNat 0xfe0f

end Variant

/-- An emoji with its names. -/
structure Entry where
  emoji : Text
  names : List Text

/-- The entry that a part of a row describes. -/
def Entry.ofText (t : Text) : Entry :=
  match splitAt ' ' t with
  | [] => ⟨[], []⟩
  | points :: names =>
    ⟨(splitAt '-' points).map fun point => Char.ofNat ((hexNumber? point).getD 0), names⟩

/-- All entries. -/
def entries : List Entry :=
  rows.flatMap fun row => (splitAt ';' row.toList).map Entry.ofText

/-- The emoji of a name. -/
def ofName? (name : Text) : Option Text :=
  (entries.find? fun entry => entry.names.elem name).map Entry.emoji

/-- A name and the variant behind it. -/
structure Code where
  name : Text
  variant : Option Variant
  deriving DecidableEq, Repr

/-- The end of a code: a colon, or a variant and a colon. It is given with its length. -/
def codeEnd? (t : Text) : Option (Option Variant × Nat) :=
  match Variant.all.find? fun v => startsWith (v.suffix ++ [':']) t with
  | some v => some (some v, v.suffix.length + 1)
  | none => if startsWith [':'] t then some (none, 1) else none

/-- The rest of a code from its name on, with its length. -/
def codeRest? : Text → Option (Code × Nat)
  | [] => none
  | c :: t =>
    match codeEnd? (c :: t) with
    | some (variant, n) => some (⟨[], variant⟩, n)
    | none =>
      if isBlank c then none
      else (codeRest? t).map fun (code, n) => (⟨c :: code.name, code.variant⟩, n + 1)

/-- A code from its first colon to its last. -/
def code : Matcher Code := fun _ t =>
  match t with
  | ':' :: rest => (codeRest? rest).map fun (code, n) => (code, n + 1)
  | _ => none

/-- The emoji of a code. -/
def Code.emoji? (c : Code) : Option Text :=
  (ofName? (lower c.name)).map fun emoji => emoji ++ c.variant.toList.map Variant.selector

/-- The text with emoji for their codes. -/
def replaceCodes (t : Text) : Text :=
  splice ((code.hits t).filterMap fun hit => hit.value.emoji?.map fun emoji => ⟨hit.span, emoji⟩) t

end ShellStyle.Emoji
