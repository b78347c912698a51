import TaskFilter.Field
import TaskFilter.Operand
import TaskFilter.Script.EmissionError
import TaskFilter.Script.Expr

/-!
# Derived fields

The fields that a dialect does not hold as a property, and the expression over other properties that takes
their place. Four of them are truth values and can only be compared with one; the containing project is
matched by a reference.
-/

namespace TaskFilter.Script

/-! ## References to projects -/

/-- A character that identifiers of projects are made of. -/
def isIdentifierChar (c : Char) : Bool :=
  c.isAlphanum || c = '_' || c = '-'

/-- Whether a reference looks like an identifier rather than a name: ten or more letters, digits, low
lines and hyphens. -/
def looksLikeIdentifier (reference : String) : Bool :=
  10 ≤ reference.length && reference.toList.all isIdentifierChar

/-- The property of the task that holds its project. -/
def projectProperty : Dialect → String
  | .jxa => "task.containingProject()"
  | .omnijs => "task.containingProject"

/-- The property of the project that a reference is compared with. Only one dialect can match a project by
name. -/
def referenceProperty (dialect : Dialect) (reference : String) : String :=
  match dialect with
  | .jxa => "task.containingProject().id()"
  | .omnijs =>
    if looksLikeIdentifier reference then "task.containingProject.id.primaryKey"
    else "task.containingProject.name"

/-- The expression that the task's project is the referenced one. -/
def projectMatch (dialect : Dialect) (reference : String) : Expr :=
  .parens (.joined .and [.atom (.equality (projectProperty dialect) false .null),
    .atom (.equality (referenceProperty dialect reference) true (.operand (.string reference)))])

/-! ## Derived truth values -/

def statusIs (name : String) : Expr :=
  .atom (.equality "task.taskStatus" true (.symbol name))

/-- The expression of a derived truth value; `none` if the dialect holds it as a property. -/
def derivedPredicate? : Dialect → Field → Option Expr
  | .omnijs, .dropped => some (statusIs "Task.Status.Dropped")
  | .omnijs, .blocked => some (statusIs "Task.Status.Blocked")
  | .omnijs, .available => some (.atom (.test ("[Task.Status.Available, Task.Status.DueSoon, " ++
      "Task.Status.Next, Task.Status.Overdue].includes(task.taskStatus)")))
  | .omnijs, .tagStatusValid => some (.parens (.joined .or
      [.atom (.equality "task.tags.length" true (.symbol "0")),
       .atom (.test ("task.tags.some(t => t.status === Tag.Status.Active || " ++
        "t.status === Tag.Status.OnHold)"))]))
  | .jxa, .available => some (.parens (.joined .and
      [.not (.atom (.test "task.completed()")), .not (.atom (.test "task.dropped()")),
       .not (.atom (.test "task.blocked()")),
       .parens (.joined .or [.atom (.equality "task.deferDate()" true .null),
         .atom (.order "task.deferDate()" .le .now)])]))
  | .jxa, .tagStatusValid => some (.parens (.joined .or
      [.atom (.equality "task.tags().length" true (.symbol "0")),
       .atom (.test "task.tags().some(t => !t.effectivelyHidden())")]))
  | _, _ => none

/-- Whether the dialect expands the field. -/
def expands (dialect : Dialect) (field : Field) : Bool :=
  field == .containingProject || (derivedPredicate? dialect field).isSome

/-! ## Comparisons -/

/-- What a comparison for equality asks of a condition: to hold, or not to hold. -/
def polarity? : Operator → Option Bool
  | .eq => some true
  | .ne => some false
  | _ => none

/-- A derived truth value compared with an operand. -/
def truthComparison (dialect : Dialect) (field : Field) (predicate : Expr) (operator : Operator)
    (operand : Operand) : Except EmissionError Expr :=
  match operand.bool? with
  | none => .error (.unsupportedOperand field.path "boolean" operand.kindName)
  | some expected =>
    match polarity? operator with
    | none => .error (.unsupportedOperator field.path operator "synthetic" dialect)
    | some positive =>
      .ok (if expected == positive then predicate else .not (.parens predicate))

/-- The containing project compared with an operand. -/
def projectComparison (dialect : Dialect) (operator : Operator) (operand : Operand) :
    Except EmissionError Expr :=
  match operand.string? with
  | none => .error (.unsupportedOperand Field.containingProject.path "string" operand.kindName)
  | some reference =>
    match polarity? operator with
    | none =>
      .error (.unsupportedOperator Field.containingProject.path operator "synthetic" dialect)
    | some true => .ok (projectMatch dialect reference)
    | some false => .ok (.not (projectMatch dialect reference))

/-- A derived field compared with an operand; `none` if the dialect does not expand the field. -/
def derivedComparison? (dialect : Dialect) (field : Field) (operator : Operator) (operand : Operand) :
    Option (Except EmissionError Expr) :=
  if field = .containingProject then some (projectComparison dialect operator operand)
  else (derivedPredicate? dialect field).map fun predicate =>
    truthComparison dialect field predicate operator operand

end TaskFilter.Script
