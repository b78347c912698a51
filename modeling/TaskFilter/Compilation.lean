import TaskFilter.Record.Definition
import TaskFilter.Script.Emission
import TaskFilter.Validation.Basic

/-!
# Compiling filters

A tree is checked and then expressed in a dialect. A tree with errors is refused; warnings are passed on
with the expression.
-/

namespace TaskFilter

/-- A compiled filter. -/
structure Compiled where
  tree : Tree
  dialect : Dialect
  /-- The expression, on one line and without an end mark. -/
  expression : String
  warnings : List Diagnostic

/-- Why a filter was not compiled. -/
inductive CompileError where
  | rejected (report : Report)
  /-- The tree cannot be expressed in the dialect. -/
  | inexpressible (cause : Script.EmissionError)

def CompileError.message : CompileError → String
  | .rejected report => report.rejectionMessage
  | .inexpressible cause => cause.message

def Compiled.toJson (compiled : Compiled) : Json :=
  .object [("ast", compiled.tree.toJson), ("target", .string compiled.dialect.name),
    ("expression", .string compiled.expression), ("warnings", Report.findingsJson compiled.warnings)]

/-- Compiles a tree. -/
def compileTree (dialect : Dialect) (tree : Tree) : Except CompileError Compiled :=
  let report := Validation.validate tree
  if report.valid then
    match Script.emit dialect tree with
    | .ok expression => .ok ⟨tree, dialect, expression.text, report.warnings⟩
    | .error cause => .error (.inexpressible cause)
  else .error (.rejected report)

/-- Compiles a record. -/
def compile (dialect : Dialect) (record : Record) : Except CompileError Compiled :=
  compileTree dialect record.toTree

end TaskFilter
