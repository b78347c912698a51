import TaskFilter.Operand
import TaskFilter.Operator

/-!
# Trees of conditions

A filter as a Boolean combination of conditions on fields. Fields are named by their paths as they were
written, known or not; whether they are known is a question of validation.
-/

namespace TaskFilter

/-- A tree of conditions. -/
inductive Tree where
  | literal (value : Bool)
  /-- The field compared with an operand. -/
  | comparison (field : String) (operator : Operator) (operand : Operand)
  /-- Whether the field has a value: `present` says which is asked for. -/
  | presence (field : String) (present : Bool)
  /-- Every child holds. -/
  | all (children : List Tree)
  /-- Some child holds. -/
  | any (children : List Tree)
  | not (child : Tree)
  deriving BEq

inductive Tree.Shape where
  | literal | comparison | presence | all | any | not
  deriving DecidableEq, Repr

namespace Tree

def Shape.name : Shape → String
  | .literal => "literal"
  | .comparison => "comparison"
  | .presence => "exists"
  | .all => "and"
  | .any => "or"
  | .not => "not"

/-- The shapes in the order in which messages list them. -/
def Shape.listed : List Shape :=
  [.literal, .comparison, .presence, .all, .any, .not]

def Shape.ofName? (name : String) : Option Shape :=
  Shape.listed.find? (·.name == name)

def shape : Tree → Shape
  | .literal _ => .literal
  | .comparison .. => .comparison
  | .presence .. => .presence
  | .all _ => .all
  | .any _ => .any
  | .not _ => .not

/-- The path of the field that a condition asks about. -/
def field? : Tree → Option String
  | .comparison field _ _ => some field
  | .presence field _ => some field
  | _ => none

mutual

/-- The number of nodes of a tree. -/
def size : Tree → Nat
  | .all children => 1 + sizes children
  | .any children => 1 + sizes children
  | .not child => 1 + size child
  | _ => 1

def sizes : List Tree → Nat
  | [] => 0
  | child :: rest => size child + sizes rest

end

mutual

/-- The JSON form of a tree: an object with the shape's name first. -/
def toJson : Tree → Json
  | .literal value => .object [("type", .string "literal"), ("value", .bool value)]
  | .comparison field operator operand =>
    .object [("type", .string "comparison"), ("field", .string field),
      ("operator", .string operator.token), ("value", operand.toJson)]
  | .presence field present =>
    .object [("type", .string "exists"), ("field", .string field), ("exists", .bool present)]
  | .all children => .object [("type", .string "and"), ("children", .array (toJsons children))]
  | .any children => .object [("type", .string "or"), ("children", .array (toJsons children))]
  | .not child => .object [("type", .string "not"), ("child", toJson child)]

def toJsons : List Tree → List Json
  | [] => []
  | child :: rest => toJson child :: toJsons rest

end

end Tree

end TaskFilter
