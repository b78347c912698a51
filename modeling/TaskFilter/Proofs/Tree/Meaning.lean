import TaskFilter.Tree.Basic

/-!
# The meaning of trees

What a tree says of a task, once it is known which of its conditions hold. Conditions are opaque here: a
comparison or a presence test is true or false as it is told, and only the Boolean structure counts.

Main statements: `allHold_iff` and `anyHolds_iff` give the meaning of groups without recursion.
-/

namespace TaskFilter

/-- Which conditions hold. -/
structure Leaves where
  comparison : String → Operator → Operand → Bool
  presence : String → Bool → Bool

namespace Tree

mutual

/-- Whether a tree holds. -/
def holds (leaves : Leaves) : Tree → Bool
  | .literal value => value
  | .comparison field operator operand => leaves.comparison field operator operand
  | .presence field present => leaves.presence field present
  | .all children => allHold leaves children
  | .any children => anyHolds leaves children
  | .not child => !holds leaves child

def allHold (leaves : Leaves) : List Tree → Bool
  | [] => true
  | child :: rest => holds leaves child && allHold leaves rest

def anyHolds (leaves : Leaves) : List Tree → Bool
  | [] => false
  | child :: rest => holds leaves child || anyHolds leaves rest

end

variable (leaves : Leaves)

theorem allHold_iff (children : List Tree) :
    allHold leaves children = true ↔ ∀ child ∈ children, holds leaves child = true := by
  induction children with
  | nil => simp [allHold]
  | cons child rest ih => simp [allHold, ih]

theorem anyHolds_iff (children : List Tree) :
    anyHolds leaves children = true ↔ ∃ child ∈ children, holds leaves child = true := by
  induction children with
  | nil => simp [anyHolds]
  | cons child rest ih => simp [anyHolds, ih]

theorem holds_all (children : List Tree) :
    holds leaves (.all children) = true ↔ ∀ child ∈ children, holds leaves child = true := by
  rw [holds, allHold_iff]

theorem holds_any (children : List Tree) :
    holds leaves (.any children) = true ↔ ∃ child ∈ children, holds leaves child = true := by
  rw [holds, anyHolds_iff]

end Tree

end TaskFilter
