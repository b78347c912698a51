import TaskFilter.Tree.Basic

/-!
# The conditions of a tree

The comparisons and presence tests of a tree, at any depth, in the order in which the tree is written. What
is asked of single conditions is asked of this list.
-/

namespace TaskFilter.Tree

mutual

/-- The comparisons and presence tests of a tree, in its order. -/
def conditions : Tree → List Tree
  | .literal _ => []
  | .comparison field operator operand => [.comparison field operator operand]
  | .presence field present => [.presence field present]
  | .all children => allConditions children
  | .any children => allConditions children
  | .not child => conditions child

def allConditions : List Tree → List Tree
  | [] => []
  | child :: rest => conditions child ++ allConditions rest

end

mutual

theorem isSome_field?_of_mem_conditions : (tree : Tree) → ∀ condition ∈ tree.conditions,
    condition.field?.isSome = true
  | .literal _, condition, member => absurd member List.not_mem_nil
  | .comparison .., condition, member => by
    rw [List.mem_singleton.mp member]
    rfl
  | .presence .., condition, member => by
    rw [List.mem_singleton.mp member]
    rfl
  | .all children, condition, member =>
    isSome_field?_of_mem_allConditions children condition member
  | .any children, condition, member =>
    isSome_field?_of_mem_allConditions children condition member
  | .not child, condition, member => isSome_field?_of_mem_conditions child condition member

theorem isSome_field?_of_mem_allConditions : (children : List Tree) →
    ∀ condition ∈ allConditions children, condition.field?.isSome = true
  | [], condition, member => absurd member List.not_mem_nil
  | child :: rest, condition, member => by
    rcases List.mem_append.mp member with first | later
    · exact isSome_field?_of_mem_conditions child condition first
    · exact isSome_field?_of_mem_allConditions rest condition later

end

/-- The children of a group that are conditions are conditions of the group. -/
theorem conditions_subset_allConditions {children : List Tree} {child : Tree}
    (member : child ∈ children) : child.conditions ⊆ allConditions children := by
  induction children with
  | nil => exact absurd member List.not_mem_nil
  | cons first rest ih =>
    rcases List.mem_cons.mp member with rfl | later
    · exact List.subset_append_left _ _
    · exact fun condition listed => List.mem_append_right _ (ih later listed)

end TaskFilter.Tree
