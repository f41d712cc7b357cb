import ShellStyle.StyleError
import ShellStyle.Value
import ShellStyle.Text.Blank

/-!
# Libraries

The program reads its configuration with one library and prints with another. What they do is not
up to the program: everything that reads or prints takes the two of them as instances, and nothing
is assumed about them.
-/

namespace ShellStyle

/-- An error that a library reports: its kind, and its wording. -/
structure ForeignError where
  kind : String
  message : String
  deriving DecidableEq, Repr

/-- Why a text is not read: it is malformed, something in it is not what it has to be, or the
library cannot read it for a reason of its own. -/
inductive LoadError where
  | malformed
  | value (e : StyleError)
  | foreign (e : ForeignError)
  deriving DecidableEq, Repr

/-- What reads a configuration. -/
class Loader where
  /-- The value of the text of a configuration. -/
  load : Text → Except LoadError Value

namespace Layout

/-- Where a cell's text stands in its column. -/
inductive Alignment where
  | left
  | right
  | center
  deriving DecidableEq, Repr

/-- A column: its heading, its cells from the top, and where their text stands. -/
structure Column where
  heading : Text
  cells : List Text
  alignment : Alignment

end Layout

/-- What prints. Texts are in markup where nothing else is said; what is printed is lines. -/
class Console where
  /-- A text such that its markup is printed as it is written. -/
  escape : Text → Text
  /-- A message. -/
  message : Text → Except ForeignError (List Text)
  /-- A panel that fits its content. -/
  fitted (title content : Text) : Except ForeignError (List Text)
  /-- A panel with lines of code, which are not in markup. -/
  code (title : Text) (lines : List Text) : Except ForeignError (List Text)
  /-- A text that is not in markup, without breaking its lines. -/
  raw : Text → Except ForeignError (List Text)
  /-- A table. -/
  table (title : Text) (columns : List Layout.Column) : Except ForeignError (List Text)

end ShellStyle
