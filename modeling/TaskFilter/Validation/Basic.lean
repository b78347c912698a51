import TaskFilter.Date.Forms
import TaskFilter.Text.Segments
import TaskFilter.Validation.Conflict
import TaskFilter.Validation.Suggestion

/-!
# Checking trees

Every node is checked by itself, in the order in which the tree is written; the group at the root is
checked last, as a whole. Of several things that are wrong with one condition the first is reported: the
path, then whether the operand suits the operator, then whether it suits the field.
-/

namespace TaskFilter.Validation

/-- Whether an operator takes operands of this shape. -/
def suits (operator : Operator) (operand : Operand) : Bool :=
  if operator.isSetMatch then
    match operand with
    | .array _ | .string _ => true
    | _ => false
  else if operator.isTextMatch then
    match operand with
    | .string _ => true
    | _ => false
  else if operator.isOrdering then
    match operand with
    | .string _ | .number _ => true
    | _ => false
  -- anything can be compared for equality
  else true

/-- What is wrong with an operand for a field. -/
def fieldMismatch? (field : Field) (operator : Operator) (operand : Operand) : Option Finding :=
  match field.kind, operand with
  | .boolean, .bool _ => none
  | .string, .string _ => none
  | .date, .string text => if Date.isDate text then none else some (.noDate field text)
  | .array, .array _ => none
  -- a collection can be searched for a single name
  | .array, _ => if operator.isSetMatch then none else some (.wrongKind field operand)
  | .object, _ => some (.presenceOnly field)
  | _, _ => some (.wrongKind field operand)

/-- The field of a path, or what is wrong with the path. -/
def resolve (path : String) : Except Finding Field :=
  if Text.isWellFormedPath path then
    match Field.ofPath? path with
    | some field => .ok field
    | none => .error (.unknownField path (suggestions path))
  else .error (.malformedPath path)

/-- What is wrong with a presence test. -/
def presenceFinding? (path : String) : Option Finding :=
  match resolve path with
  | .ok _ => none
  | .error finding => some finding

/-- What is wrong with a comparison. -/
def comparisonFinding? (path : String) (operator : Operator) (operand : Operand) : Option Finding :=
  match resolve path with
  | .ok field =>
    if suits operator operand then fieldMismatch? field operator operand
    else some (.unsuitedOperand operator operand)
  | .error finding => some finding

/-- What is wrong with a node, without the nodes below it. -/
def ownFinding? : Tree → Option Finding
  | .literal _ => none
  | .comparison path operator operand => comparisonFinding? path operator operand
  | .presence path _ => presenceFinding? path
  | .all [] => some (.emptyGroup .all)
  | .any [] => some (.emptyGroup .any)
  | .all _ => none
  | .any _ => none
  | .not _ => none

mutual

/-- What is wrong with the nodes of a tree, whose root stands at a place. -/
def findings (location : Location) : Tree → List (Location × Finding)
  | .all children =>
    ((ownFinding? (.all children)).map (location, ·)).toList ++ childFindings location 0 children
  | .any children =>
    ((ownFinding? (.any children)).map (location, ·)).toList ++ childFindings location 0 children
  | .not child => findings (location ++ [.negated]) child
  | leaf => ((ownFinding? leaf).map (location, ·)).toList

def childFindings (location : Location) (index : Nat) : List Tree → List (Location × Finding)
  | [] => []
  | child :: rest =>
    findings (location ++ [.child index]) child ++ childFindings location (index + 1) rest

end

def allFindings (tree : Tree) : List (Location × Finding) :=
  findings [] tree ++ (rootConflicts tree).map fun finding => ([], finding)

/-- The report of findings: a tree without errors is valid. -/
def reportOf (findings : List (Location × Finding)) : Report :=
  let errors := findings.filter fun f => f.2.isError
  let warnings := findings.filter fun f => !f.2.isError
  { valid := errors.isEmpty
    errors := errors.map fun f => f.2.toDiagnostic f.1
    warnings := warnings.map fun f => f.2.toDiagnostic f.1 }

/-- Checks a tree. -/
def validate (tree : Tree) : Report :=
  reportOf (allFindings tree)

end TaskFilter.Validation
