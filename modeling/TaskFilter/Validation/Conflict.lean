import TaskFilter.Validation.Finding

/-!
# Conflicts in the group at the root

Among the children of one group, those that compare a field for equality can exclude or exhaust each
other. Only the children of the root are looked at.

Fields are taken in the order of their first comparison, and so are the operands of a field; an operand
counts once however often it is written.
-/

namespace TaskFilter.Validation

/-- The path and the operand of a comparison for equality. -/
def equality? : Tree → Option (String × Operand)
  | .comparison path .eq operand => some (path, operand)
  | _ => none

/-- The comparisons for equality among the children of a group. -/
def equalities (children : List Tree) : List (String × Operand) :=
  children.filterMap equality?

/-- The paths that are compared, each once. -/
def comparedPaths (children : List Tree) : List String :=
  ((equalities children).map Prod.fst).eraseDups

/-- The operands that a path is compared with, each once. -/
def operandsOf (path : String) (children : List Tree) : List Operand :=
  (((equalities children).filter fun e => e.1 == path).map Prod.snd).eraseDups

/-- The paths that a conjunction asks to equal two different operands. -/
def contradictions (children : List Tree) : List Finding :=
  (comparedPaths children).filterMap fun path =>
    if 1 < (operandsOf path children).length then
      some (.contradiction path (operandsOf path children))
    else none

/-- The paths for which a disjunction is content with either truth value. -/
def tautologies (children : List Tree) : List Finding :=
  (comparedPaths children).filterMap fun path =>
    if (operandsOf path children).contains (.bool true) &&
        (operandsOf path children).contains (.bool false) then
      some (.tautology path)
    else none

/-- The conflicts in the group at the root of a tree. -/
def rootConflicts : Tree → List Finding
  | .all children => contradictions children
  | .any children => tautologies children
  | _ => []

end TaskFilter.Validation
