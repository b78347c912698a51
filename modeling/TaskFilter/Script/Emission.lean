import TaskFilter.Script.Derived
import TaskFilter.Text.LowerCase
import TaskFilter.Tree.Basic

/-!
# From trees to expressions

Each node becomes an expression: groups are joined by their connective in parentheses, an empty group is
its neutral constant, and a condition compares the property of its field. What a dialect cannot express is
an error; the first one in the order of the tree counts.
-/

namespace TaskFilter.Script

/-! ## Conditions -/

/-- The operand of a field, which must be a string. -/
def needString (field : Field) (operand : Operand) : Except EmissionError String :=
  match operand with
  | .string s => .ok s
  | other => .error (.unsupportedOperand field.path "string" other.kindName)

/-- The members of a set; a single string is a set of one. -/
def needSet (field : Field) (operand : Operand) : Except EmissionError (List String) :=
  match operand with
  | .array items => .ok items
  | .string s => .ok [s]
  | other => .error (.unsupportedOperand field.path "array" other.kindName)

/-- A property of the task compared with an operand. -/
def propertyAtom (dialect : Dialect) (field : Field) (operator : Operator) (operand : Operand) :
    Except EmissionError Atom :=
  let property := dialect.accessor field.path
  match operator, field.kind with
  | .eq, .boolean | .eq, .string => .ok (.equality property true (.operand operand))
  | .ne, .boolean | .ne, .string => .ok (.equality property false (.operand operand))
  | .lt, .date | .gt, .date | .le, .date | .ge, .date =>
    (needString field operand).map fun date => .order property operator (.date date)
  | .contains, .string =>
    (needString field operand).map fun term => .contains property (Text.lower term)
  | .matches, .string =>
    (needString field operand).map fun pattern => .matches property pattern
  | .all, .array => (needSet field operand).map fun names => .membership .every names property
  | .any, .array => (needSet field operand).map fun names => .membership .some names property
  | _, _ => .error (.unsupportedOperator field.path operator field.kind.name dialect)

def comparison (dialect : Dialect) (path : String) (operator : Operator) (operand : Operand) :
    Except EmissionError Expr :=
  match Field.ofPath? path with
  | none => .error (.unknownField path)
  | some field =>
    match derivedComparison? dialect field operator operand with
    | some result => result
    | none => (propertyAtom dialect field operator operand).map Expr.atom

/-- Whether a field has a value. Truth values and derived fields cannot be asked for it. -/
def presence (dialect : Dialect) (path : String) (present : Bool) : Except EmissionError Expr :=
  match Field.ofPath? path with
  | none => .error (.unknownField path)
  | some field =>
    if field.isDerived || field.kind = .boolean then .error (.unsupportedPresence path dialect)
    else .ok (.atom (.equality (dialect.accessor path) (!present) .null))

/-! ## Trees -/

/-- A group of expressions: without any, it is the constant that changes no group of its kind. -/
def group (junction : Junction) : List Expr → Expr
  | [] => .atom (.constant junction.neutral)
  | parts => .parens (.joined junction parts)

mutual

/-- The expression of a tree. -/
def emit (dialect : Dialect) : Tree → Except EmissionError Expr
  | .literal value => .ok (.atom (.constant value))
  | .comparison path operator operand => comparison dialect path operator operand
  | .presence path present => presence dialect path present
  | .all children => do
    let parts ← emitAll dialect children
    .ok (group .and parts)
  | .any children => do
    let parts ← emitAll dialect children
    .ok (group .or parts)
  | .not child => do
    let inner ← emit dialect child
    .ok (.not (.parens inner))

def emitAll (dialect : Dialect) : List Tree → Except EmissionError (List Expr)
  | [] => .ok []
  | child :: rest => do
    let part ← emit dialect child
    let parts ← emitAll dialect rest
    .ok (part :: parts)

end

end TaskFilter.Script
