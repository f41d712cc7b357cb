import ShellStyle.Layout.Wrap

/-!
# Panels

A panel is a box with round corners and a title in its upper border. It is as wide as it has to be
for its lines and its title, or as wide as the terminal.
-/

namespace ShellStyle.Layout

open Text

/-- The columns of the terminal. -/
def terminalWidth : Nat :=
  120

/-- The line between two corners. -/
def rule (columns : Nat) : Text :=
  List.replicate columns '─'

/-- The upper border of a panel of inner width `inner`, the title in its middle; an odd column goes
to the right. -/
def upperBorder (inner : Nat) (title : Text) : Text :=
  let title := cut (inner - 2) title
  let excess := inner - 2 - width title
  "╭─".toList ++ rule (excess / 2) ++ title ++ rule (excess - excess / 2) ++ "─╮".toList

/-- The lower border of a panel of inner width `inner`. -/
def lowerBorder (inner : Nat) : Text :=
  '╰' :: rule inner ++ ['╯']

/-- A line of a panel of inner width `inner`. -/
def panelLine (inner : Nat) (line : Text) : Text :=
  "│ ".toList ++ padRight (inner - 2) line ++ " │".toList

/-- A panel of inner width `inner` around lines that fit into it. -/
def panel (inner : Nat) (title : Text) (lines : List Text) : List Text :=
  upperBorder inner title :: lines.map (panelLine inner) ++ [lowerBorder inner]

/-- The title of a panel in one line, with a space on either side. -/
def panelTitle (title : Text) : Text :=
  let title := (dropControls title).map fun c => if c = '\n' then ' ' else c
  ' ' :: expandTabs title ++ [' ']

/-- Characters that end a line when a text is measured; only the line feed ends one when it is
printed. -/
def isLineBreak (c : Char) : Bool :=
  let n := c.toNat
  n == 10 || 0x1c ≤ n && n ≤ 0x1e || n == 0x85 || n == 0x2028 || n == 0x2029

/-- The columns of the widest line of a text. -/
def widest (t : Text) : Nat :=
  let t := (dropControls t).map fun c => if isLineBreak c then '\n' else c
  ((splitAt '\n' t).map width).foldl max 0

/-- A panel that fits its text and its title. -/
def fittedPanel (title content : Text) : List Text :=
  let title := panelTitle title
  let inner := min (terminalWidth - 2)
    (max (widest content + 2) (width title + 2))
  panel inner title (wrap .fold (inner - 2) content)

/-- A panel across the terminal, whose lines are cut. -/
def widePanel (title : Text) (lines : List Text) : List Text :=
  let inner := terminalWidth - 2
  panel inner (panelTitle title) (lines.map (cut (inner - 2)))

end ShellStyle.Layout
