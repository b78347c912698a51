import TaskFilter.Report.Diagnostic

/-!
# Reports

The outcome of checking a tree: errors, which stop it from being compiled, and warnings, which do not.
-/

namespace TaskFilter

open TaskFilter.Json (Document Layout ReadError)

structure Report where
  valid : Bool
  errors : List Diagnostic
  warnings : List Diagnostic
  deriving DecidableEq, Repr

namespace Report

def hasWarnings (report : Report) : Bool :=
  !report.warnings.isEmpty

def errorsOf (report : Report) (kind : Diagnostic.Kind) : List Diagnostic :=
  report.errors.filter (·.kind == kind)

def warningsOf (report : Report) (kind : Diagnostic.Kind) : List Diagnostic :=
  report.warnings.filter (·.kind == kind)

/-- Why a filter with these errors is refused, in one line. -/
def rejectionMessage (report : Report) : String :=
  "filter rejected: " ++
    match report.errors with
    | [] => "no errors reported"
    | [only] => only.message
    | first :: others => first.message ++ " (and " ++ Nat.repr others.length ++ " more)"

/-! ## The JSON form -/

def findingsJson (findings : List Diagnostic) : Json :=
  .array (findings.map Diagnostic.toJson)

def toJson (report : Report) : Json :=
  .object [("valid", .bool report.valid), ("errors", findingsJson report.errors),
    ("warnings", findingsJson report.warnings)]

/-- The slots of a report that have been filled. -/
structure Draft where
  valid : Option Bool := none
  errors : Option (List Diagnostic) := none
  warnings : Option (List Diagnostic) := none

def layout : Layout Draft where
  name := "struct ValidationResult"
  slots :=
    [⟨"valid", fun document draft => do
        return { draft with valid := some (← document.readBool) }⟩,
     ⟨"errors", fun document draft => do
        return { draft with errors := some (← document.readList Diagnostic.read) }⟩,
     ⟨"warnings", fun document draft => do
        return { draft with warnings := some (← document.readList Diagnostic.read) }⟩]

/-- The first slot that is empty. -/
def Draft.missing (draft : Draft) : Option String :=
  if draft.valid.isNone then some "valid"
  else if draft.errors.isNone then some "errors"
  else if draft.warnings.isNone then some "warnings"
  else none

def read (document : Document) : Except ReadError Report := do
  let draft ← layout.read 3 Draft.missing {} document
  match draft.valid, draft.errors, draft.warnings with
  | some valid, some errors, some warnings => pure ⟨valid, errors, warnings⟩
  | _, _, _ => throw .malformed

def ofText (text : String) : Except ReadError Report :=
  Json.Source.read read text

end Report

end TaskFilter
