import TaskFilter.Field
import TaskFilter.Report.Basic
import TaskFilter.Tree.Basic

/-!
# Findings

What can be wrong with a tree, as causes, and the places where it can be wrong. A finding says what was
found; its words, its kind and whether it is an error follow from it.
-/

namespace TaskFilter.Validation

/-! ## Places -/

/-- A step from a node to one below it. -/
inductive Step where
  /-- To one of the children of a group. -/
  | child (index : Nat)
  /-- To what is negated. -/
  | negated
  deriving DecidableEq, Repr

/-- The text of a step. -/
def Step.text : Step → String
  | .child index => ".children[" ++ Nat.repr index ++ "]"
  | .negated => ".child"

/-- A place in a tree: the steps to it from the root. -/
abbrev Location := List Step

/-- The text of a place. -/
def Location.text (location : Location) : String :=
  "$" ++ String.join (location.map Step.text)

/-- The node at a place. -/
def nodeAt? : Location → Tree → Option Tree
  | [], tree => some tree
  | .child index :: rest, .all children => children[index]?.bind (nodeAt? rest)
  | .child index :: rest, .any children => children[index]?.bind (nodeAt? rest)
  | .negated :: rest, .not child => nodeAt? rest child
  | _, _ => none

/-! ## Causes -/

/-- What is wrong with a node, or with the group at the root. -/
inductive Finding where
  /-- A path with an empty segment. -/
  | malformedPath (path : String)
  /-- A path of no field. -/
  | unknownField (path : String) (suggestions : List String)
  /-- An operand of a shape that the operator does not take. -/
  | unsuitedOperand (operator : Operator) (operand : Operand)
  /-- A field with presence tests only, in a comparison. -/
  | presenceOnly (field : Field)
  /-- A text that is no date, for a date field. -/
  | noDate (field : Field) (text : String)
  /-- An operand of another kind than the field. -/
  | wrongKind (field : Field) (operand : Operand)
  /-- A group that asks a field to equal several operands at once. -/
  | contradiction (path : String) (operands : List Operand)
  /-- A group that is content with a field being true or being false. -/
  | tautology (path : String)
  /-- A group without children. -/
  | emptyGroup (shape : Tree.Shape)
  deriving BEq

namespace Finding

/-- Whether the finding stops a tree from being compiled. -/
def isError : Finding → Bool
  | .tautology _ | .emptyGroup _ => false
  | _ => true

/-- The kind under which the finding is reported. -/
def kind : Finding → Diagnostic.Kind
  | .malformedPath _ | .unsuitedOperand .. => .invalidNode
  | .unknownField .. => .unknownField
  | .presenceOnly _ | .noDate .. | .wrongKind .. => .typeMismatch
  | .contradiction .. => .contradiction
  | .tautology _ => .tautology
  | .emptyGroup _ => .emptyNode

/-- The finding in words. -/
def message : Finding → String
  | .malformedPath path => "malformed field path '" ++ path ++ "'"
  | .unknownField path _ => "unknown field '" ++ path ++ "'"
  | .unsuitedOperand operator operand =>
    "operator '" ++ operator.token ++ "' cannot take a " ++ operand.kindName ++ " operand"
  | .presenceOnly field => "field '" ++ field.path ++ "' supports existence checks only"
  | .noDate field text =>
    "field '" ++ field.path ++ "' expects an ISO-8601 date, found '" ++ text ++ "'"
  | .wrongKind field operand =>
    "field '" ++ field.path ++ "' expects a " ++ field.kind.name ++ " value, found " ++ operand.kindName
  | .contradiction path operands =>
    "field '" ++ path ++ "' must equal " ++ " and ".intercalate (operands.map Operand.display) ++
      " at the same time; the filter can never match"
  | .tautology path =>
    "field '" ++ path ++ "' is tested for both true and false; the group always matches"
  | .emptyGroup shape => "empty '" ++ shape.name ++ "' group"

/-- The names that may have been meant. -/
def suggestions : Finding → List String
  | .unknownField _ suggestions => suggestions
  | _ => []

/-- The finding at a place, as it is reported. -/
def toDiagnostic (location : Location) (finding : Finding) : Diagnostic where
  kind := finding.kind
  message := finding.message
  path := some location.text
  suggestions := finding.suggestions

end Finding

end TaskFilter.Validation
