import ShellStyle.Diff.Unified
import ShellStyle.File.Report
import ShellStyle.Library

/-!
# What is printed

What is printed for banners, issues, results, differences and totals. It is written in markup; names
are escaped in banners and results, and elsewhere they are taken as markup too.
-/

namespace ShellStyle.Command

open Text Console

/-- The panel with the name of a file that is checked. -/
def bannerLines [Console] (path : Text) : Except ForeignError (List Text) :=
  fitted "Linting".toList ("[bold white]".toList ++ escape path ++ "[/bold white]".toList)

/-- The style and the label of a severity. -/
def severityLabel : Severity → String × String
  | .error => ("bold red", "ERROR")
  | .warning => ("bold yellow", "WARN")
  | .info => ("bold blue", "INFO")

/-- The message for an issue. -/
def issueMessage [Console] (i : Issue) : Text :=
  let (style, label) := severityLabel i.severity
  ("[" ++ style ++ "]\\[" ++ label ++ "][/" ++ style ++ "] Line " ++ toString i.line ++
    ": ").toList ++ escape i.message.toList ++ (" [dim](" ++ i.rule.name ++ ")[/dim]").toList

/-- The message with the number of issues of each severity. -/
def countMessage (issues : List Issue) : Text :=
  ("[bold]Summary:[/bold] [red]Errors: " ++ toString (countSeverity .error issues) ++
    "[/red]  [yellow]Warnings: " ++ toString (countSeverity .warning issues) ++
    "[/yellow]  [blue]Info: " ++ toString (countSeverity .info issues) ++ "[/blue]").toList

/-- The messages for the issues of a file. -/
def issueMessages [Console] (issues : List Issue) : List Text :=
  if issues.isEmpty then ["[green]✓ No issues found[/green]".toList]
  else issues.map issueMessage ++ [countMessage issues]

/-- The message for the outcome of formatting a file. -/
def resultMessage [Console] (r : Report) : Text :=
  let path := escape r.path.text
  match r.error with
  | some e => "[bold red]✗ ".toList ++ path ++ (":[/bold red] " ++ e.message).toList
  | none =>
    let outcome := if r.fixes = 0 then "No formatting needed"
      else (if r.status = .preview then "Would fix " else "Fixed ") ++
        toString r.fixes ++ " line(s)"
    ("[green]✓ " ++ outcome ++ "[/green] [dim]").toList ++ path ++ "[/dim]".toList

/-- The lines that show what formatting changes. -/
def diffLines [Console] (path : Text) (before after : List Text) :
    Except ForeignError (List Text) :=
  match Diff.unified ("original/".toList ++ path) ("formatted/".toList ++ path) before after with
  | [] => message ("[dim]ℹ No formatting needed for ".toList ++ path ++ ".[/dim]".toList)
  | difference => code ("Proposed Formatting: ".toList ++ path) difference

/-- A row of the final table. -/
structure Row where
  path : Text
  status : String
  count : Nat
  success : Bool

/-- The status of a row in its colour. -/
def Row.statusCell (row : Row) : Text :=
  let color := if row.success then "green" else "red"
  ("[" ++ color ++ "]" ++ row.status ++ "[/" ++ color ++ "]").toList

/-- The columns of the final table. -/
def tableColumns (rows : List Row) : List Layout.Column :=
  [⟨"File Path".toList, rows.map Row.path, .left⟩,
    ⟨"Status".toList, rows.map Row.statusCell, .left⟩,
    ⟨"Issues / Fixes".toList, rows.map fun row => (toString row.count).toList, .right⟩,
    ⟨"Result".toList, rows.map fun row => [if row.success then '✅' else '❌'], .center⟩]

/-- The lines of the final table. -/
def tableLines [Console] (mode : String) (rows : List Row) : Except ForeignError (List Text) :=
  table ("cleansh " ++ mode ++ " report").toList (tableColumns rows)

/-- The message with the totals below the final table. -/
def totalsMessage (rows : List Row) : Text :=
  let passed := rows.countP Row.success
  ("Files: " ++ toString rows.length ++ "  [green]Passed: " ++ toString passed ++
    "[/green]  [red]Failed: " ++ toString (rows.length - passed) ++ "[/red]").toList

end ShellStyle.Command
