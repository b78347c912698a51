import TaskFilter.Operator
import TaskFilter.Script.Dialect

/-!
# What cannot be expressed

Why a tree has no expression in a dialect.
-/

namespace TaskFilter.Script

inductive EmissionError where
  /-- The operator does not apply to fields of this class. -/
  | unsupportedOperator (path : String) (operator : Operator) (fieldClass : String) (dialect : Dialect)
  /-- The field has no presence test. -/
  | unsupportedPresence (path : String) (dialect : Dialect)
  /-- The operand has another shape than the operator needs. -/
  | unsupportedOperand (path : String) (expected found : String)
  | unknownField (path : String)
  deriving DecidableEq, Repr

def EmissionError.message : EmissionError → String
  | .unsupportedOperator path operator fieldClass dialect =>
    "operator '" ++ operator.token ++ "' is not supported on " ++ fieldClass ++ " field '" ++ path ++
      "' (" ++ dialect.name ++ ")"
  | .unsupportedPresence path dialect =>
    "existence checks are not supported on field '" ++ path ++ "' (" ++ dialect.name ++ ")"
  | .unsupportedOperand path expected found =>
    "field '" ++ path ++ "' expects a " ++ expected ++ " operand, found " ++ found
  | .unknownField path => "unknown field '" ++ path ++ "'"

end TaskFilter.Script
