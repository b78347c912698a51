import TaskFilter.Command.World
import TaskFilter.Compilation
import TaskFilter.Settings

/-!
# How a run can fail

The causes for which a run ends without success, with the words, the code and the exit status of each.
-/

namespace TaskFilter.Command

/-- Why an input is no filter. -/
inductive InputError where
  | empty
  | notARecord
  | notATree
  deriving DecidableEq, Repr

def InputError.message : InputError → String
  | .empty => "empty input"
  | .notARecord => "not a filter object"
  | .notATree => "not a filter tree"

/-- Why there are no settings. -/
inductive SettingsFailure where
  | noPlace
  | unreadable (cause : AccessError)
  /-- The text of the file holds no settings; `words` are those of the reader that refused it. -/
  | unusable (cause : SettingsError) (words : Option String := none)
  deriving DecidableEq, Repr

/-- A message, with the words of a reader behind it. -/
def withWords (message : String) (words : Option String) : String :=
  message ++ (words.map fun said => ": " ++ said).getD ""

def SettingsFailure.message : SettingsFailure → String
  | .noPlace => "Could not determine config directory"
  | .unreadable cause => "Failed to read config: " ++ cause.message
  | .unusable cause words => withWords cause.message words

inductive Failure where
  | uncompiled (cause : CompileError)
  /-- There are warnings, and warnings count as errors. -/
  | warnings (count : Nat)
  /-- The text is no filter; `words` are those of the reader that refused it. -/
  | input (cause : InputError) (words : Option String := none)
  | settings (cause : SettingsFailure)
  | access (cause : AccessError)

namespace Failure

def message : Failure → String
  | .uncompiled cause => cause.message
  | .warnings count =>
    Nat.repr count ++ " warning(s) reported with warnings_as_errors enabled"
  | .input cause words => "invalid input: " ++ withWords cause.message words
  | .settings cause => "configuration error: " ++ cause.message
  | .access cause => "I/O error: " ++ cause.message

def code : Failure → String
  | .uncompiled (.rejected _) => "FILTER_REJECTED"
  | .uncompiled (.inexpressible _) => "EMIT_ERROR"
  | .warnings _ => "WARNINGS_AS_ERRORS"
  | .input .. => "INPUT_ERROR"
  | .settings _ => "CONFIG_ERROR"
  | .access _ => "IO_ERROR"

def status : Failure → Nat
  | .uncompiled _ => 1
  | .warnings _ => 1
  | .access _ => 3
  | .input .. => 4
  | .settings _ => 5

/-- The findings for which a filter was refused. -/
def report? : Failure → Option Report
  | .uncompiled (.rejected report) => some report
  | _ => none

/-- The JSON form of a failure, with the findings for which a filter was refused. Keys are in the order of
the alphabet. -/
def toJson (failure : Failure) : Json :=
  let findings (select : Report → List Diagnostic) (key : String) : List (String × Json) :=
    (failure.report?.map fun report => (key, Report.findingsJson (select report))).toList
  .object [("error", .object (
    [("code", .string failure.code)] ++ findings Report.errors "errors" ++
    [("message", .string failure.message)] ++ findings Report.warnings "warnings"))]

end Failure

end TaskFilter.Command
