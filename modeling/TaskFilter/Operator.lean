/-!
# Comparison operators

The operators of a comparison and their tokens. Three classes of operators ask for operands of a certain
shape: those that order, those that compare with a set, and those that look into a text.
-/

namespace TaskFilter

inductive Operator where
  | eq
  | ne
  | lt
  | gt
  | le
  | ge
  /-- The text contains the operand; letter case does not count. -/
  | contains
  /-- The text matches the operand as a regular expression; letter case does not count. -/
  | matches
  /-- Every member of the operand is in the collection. -/
  | all
  /-- Some member of the operand is in the collection. -/
  | any
  deriving DecidableEq, Repr

namespace Operator

def token : Operator → String
  | .eq => "=="
  | .ne => "!="
  | .lt => "<"
  | .gt => ">"
  | .le => "<="
  | .ge => ">="
  | .contains => "contains"
  | .matches => "matches"
  | .all => "all"
  | .any => "any"

/-- The operators in the order in which messages list them. -/
def listed : List Operator :=
  [.eq, .ne, .lt, .gt, .le, .ge, .contains, .matches, .all, .any]

/-- Whether the operator orders its operands. -/
def isOrdering : Operator → Bool
  | .lt | .gt | .le | .ge => true
  | _ => false

/-- Whether the operator compares a collection with a set. -/
def isSetMatch : Operator → Bool
  | .all | .any => true
  | _ => false

/-- Whether the operator looks into a text. -/
def isTextMatch : Operator → Bool
  | .contains | .matches => true
  | _ => false

def ofToken? (token : String) : Option Operator :=
  listed.find? (·.token == token)

theorem ofToken?_token (op : Operator) : ofToken? op.token = some op := by
  cases op <;> rfl

end Operator

end TaskFilter
