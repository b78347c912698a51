import TaskFilter.Report.Basic
import TaskFilter.Text.Styled

/-!
# Reports as tables

A report for a person: one row for each error and then for each warning, suggestions on a line below, and
a summary at the end. Colours only decorate the rows.
-/

namespace TaskFilter.Report

open TaskFilter.Text (padded styled Style)

inductive Level where
  | error
  | warning
  deriving DecidableEq, Repr

def Level.name : Level → String
  | .error => "error"
  | .warning => "warning"

/-- How the name of a level is set off. -/
def Level.styles : Level → List Style
  | .error => [.bold, .red]
  | .warning => [.yellow]

def header (colors : Bool) : String :=
  styled colors [.dimmed]
    (padded 8 "Level" ++ " " ++ padded 14 "Kind" ++ " " ++ padded 20 "Path" ++ " " ++ "Message") ++ "\n"

/-- The line with the suggestions of a finding. -/
def hint (colors : Bool) (suggestions : List String) : String :=
  padded 44 "" ++ " " ++ styled colors [.cyan] ("did you mean: " ++ ", ".intercalate suggestions) ++ "\n"

/-- The row of a finding, with its suggestions on a line of their own. -/
def row (colors : Bool) (level : Level) (d : Diagnostic) : String :=
  styled colors level.styles (padded 8 level.name) ++ " " ++ padded 14 d.kind.name ++ " " ++
    padded 20 (d.path.getD "-") ++ " " ++ d.message ++ "\n" ++
    (if d.suggestions.isEmpty then "" else hint colors d.suggestions)

def counted (n : Nat) (one many : String) : String :=
  Nat.repr n ++ " " ++ if n = 1 then one else many

/-- How many errors and warnings there are. -/
def summary (report : Report) : String :=
  counted report.errors.length "error" "errors" ++ ", " ++
    counted report.warnings.length "warning" "warnings"

def table (colors : Bool) (report : Report) : String :=
  if report.errors.isEmpty && report.warnings.isEmpty then "No problems found.\n"
  else
    header colors ++ String.join (report.errors.map (row colors .error)) ++
      String.join (report.warnings.map (row colors .warning)) ++ "\n" ++ summary report ++ "\n"

end TaskFilter.Report
