import ShellStyle.Layout.Grid
import ShellStyle.Layout.Markup

/-!
# The plain console

A console without colours, as wide as the terminal. Lines that are too wide are broken, except in a
text that is not in markup, and code is cut.
-/

namespace ShellStyle.Layout

open Text

/-- The kind of an error in markup. -/
def MarkupError.kind : MarkupError → String
  | missingComponent => "ValueError"
  | _ => "MarkupError"

/-- An error in markup as the console reports it. -/
def MarkupError.toForeign (e : MarkupError) : ForeignError :=
  ⟨e.kind, e.message⟩

/-- The columns between tab stops in code. -/
def codeTabSize : Nat :=
  4

/-- The code with spaces for its tabs, where each character counts as one column and a line end goes
back to the first; the code starts at column `column`. -/
def expandCodeTabs (column : Nat) : Text → Text
  | [] => []
  | c :: t =>
    if c = '\t' then
      let gap := codeTabSize - column % codeTabSize
      List.replicate gap ' ' ++ expandCodeTabs (column + gap) t
    else if c = '\n' || c = '\r' then c :: expandCodeTabs 0 t
    else c :: expandCodeTabs (column + 1) t

/-- Lines of code as they are shown. -/
def shownCode (lines : List Text) : List Text :=
  let t := lines.flatMap (· ++ ['\n'])
  let t := unifyLineEnds (expandCodeTabs 0 t)
  splitAt '\n' (dropControls t.dropLast)

/-- A text that is not in markup, line by line. -/
def rawLines (t : Text) : List Text :=
  (splitAt '\n' (dropControls (Emoji.replaceCodes t))).map expandTabs

/-- A column without its markup. -/
def plainColumn (c : Column) : Except MarkupError Column := do
  return ⟨← plain c.heading, ← c.cells.mapM plain, c.alignment⟩

/-- The lines of a table in markup. -/
def plainTable (title : Text) (columns : List Column) : Except MarkupError (List Text) := do
  return grid (← plain title) (← columns.mapM plainColumn)

end ShellStyle.Layout

namespace ShellStyle

open Layout

/-- The console without colours. -/
instance Console.plain : Console where
  escape := Layout.escape
  message t := (plainLines terminalWidth t).mapError MarkupError.toForeign
  fitted title content :=
    (do return fittedPanel (← Layout.plain title) (← Layout.plain content)).mapError
      MarkupError.toForeign
  code title lines :=
    ((Layout.plain title).map fun title => widePanel title (shownCode lines)).mapError
      MarkupError.toForeign
  raw t := .ok (rawLines t)
  table title columns := (plainTable title columns).mapError MarkupError.toForeign

end ShellStyle
