import ShellStyle.Text.Blank

/-!
# Quoted strings

The quote automaton reads a text from the left. A backslash escapes the next character everywhere,
also inside a string; otherwise a single or a double quote opens a string that the same character
closes. A position is quoted when the automaton has an open string after the characters before it.
-/

namespace ShellStyle

/-- Where the automaton stands: the quote that is open, and whether the next character is
escaped. -/
structure QuoteState where
  quote : Option Char
  escaped : Bool
  deriving DecidableEq, Repr

namespace QuoteState

/-- Outside every string, nothing escaped. -/
def start : QuoteState :=
  ⟨none, false⟩

/-- The two characters that open a string. -/
def isMark (c : Char) : Bool :=
  c == '"' || c == '\''

/-- One character further. -/
def step (s : QuoteState) (c : Char) : QuoteState :=
  if s.escaped then ⟨s.quote, false⟩
  else if c = '\\' then ⟨s.quote, true⟩
  else match s.quote with
    | none => if isMark c then ⟨some c, false⟩ else s
    | some q => if c = q then ⟨none, false⟩ else s

/-- The state after a whole text. -/
def run (s : QuoteState) (t : Text) : QuoteState :=
  t.foldl step s

/-- Whether a string is open. -/
def isOpen (s : QuoteState) : Bool :=
  s.quote.isSome

end QuoteState

namespace Text

/-- Whether position `i` of the text lies inside a string. -/
def isQuotedAt (t : Text) (i : Nat) : Bool :=
  (QuoteState.start.run (t.take i)).isOpen

/-- Whether a string is still open at the end of the text. -/
def endsQuoted (t : Text) : Bool :=
  (QuoteState.start.run t).isOpen

/-- Quotedness at a position that may lie outside the text: positions before the text count as its
start, positions behind it as its end, and no position at all means the end. -/
def isQuotedUpTo (t : Text) : Option Int → Bool
  | none => endsQuoted t
  | some i => isQuotedAt t i.toNat

/-- The characters that lie inside strings, in order, when the automaton stands at `s`. -/
def quotedFrom (s : QuoteState) : Text → Text
  | [] => []
  | c :: t => if s.isOpen then c :: quotedFrom (s.step c) t else quotedFrom (s.step c) t

/-- The characters that lie inside strings, in order. -/
def quoted (t : Text) : Text :=
  quotedFrom QuoteState.start t

end Text

end ShellStyle
