import ShellStyle.Check

/-!
# Checking a script

Every line outside heredocs is checked on its own; the lines of a heredoc, its opening and its end
included, are not.
-/

namespace ShellStyle.Script

open Line

/-- The issues of the lines from number `number` on, where `heredoc` is the delimiter of an open
heredoc. -/
def lintFrom (s : Settings) (heredoc : Option Text) (number : Int) :
    List Text → Except StyleError (List Issue)
  | [] => .ok []
  | text :: rest =>
    match heredoc with
    | some delimiter =>
      lintFrom s (if endsHeredoc text delimiter then none else some delimiter) (number + 1) rest
    | none =>
      if context text = .heredocStart then
        lintFrom s (some (heredocDelimiter text)) (number + 1) rest
      else do
        let found ← Check.line s number text
        let later ← lintFrom s none (number + 1) rest
        return found ++ later

/-- The issues of a script, by line. -/
def lint (s : Settings) (lines : List Text) : Except StyleError (List Issue) :=
  lintFrom s none 1 lines

end ShellStyle.Script
