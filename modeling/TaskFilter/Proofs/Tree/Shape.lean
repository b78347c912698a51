import TaskFilter.Script.Derived
import TaskFilter.Text.LowerCase
import TaskFilter.Tree.Basic

/-!
# Trees that differ in their texts

Two trees have the same shape if they differ at most in the characters of their text operands. What is
left of a tree then is a form, and `operandTexts` lists what has been filled in.
-/

namespace TaskFilter

namespace Operand

def texts : Operand → List String
  | .string s => [s]
  | .array items => items
  | _ => []

/-- The texts that an operator compares with: in lower case if letter case does not count. -/
def textsFor (operator : Operator) (operand : Operand) : List String :=
  if operator = .contains then operand.texts.map Text.lower else operand.texts

/-- The same truth value, the same number, two texts, or two lists of as many texts. -/
inductive SameShape : Operand → Operand → Prop where
  | bool (value : Bool) : SameShape (.bool value) (.bool value)
  | number (value : Number) : SameShape (.number value) (.number value)
  | string (s t : String) : SameShape (.string s) (.string t)
  | array (items others : List String) (h : items.length = others.length) :
      SameShape (.array items) (.array others)

theorem sameShape_self (operand : Operand) : operand.SameShape operand := by
  cases operand with
  | bool value => exact .bool value
  | number value => exact .number value
  | string value => exact .string value value
  | array items => exact .array items items rfl

/-- Both operands look like identifiers of projects, or neither does. -/
def SameReference (a b : Operand) : Prop :=
  ∀ s t, a = .string s → b = .string t →
    Script.looksLikeIdentifier s = Script.looksLikeIdentifier t

end Operand

namespace Tree

mutual

/-- The trees differ at most in the characters of their text operands. -/
def SameShape : Tree → Tree → Prop
  | .literal value, .literal other => value = other
  | .comparison path operator operand, .comparison path' operator' operand' =>
    -- a project is found by one property or another, depending on how the reference looks
    path = path' ∧ operator = operator' ∧ operand.SameShape operand' ∧
      (path = Field.containingProject.path → operand.SameReference operand')
  | .presence path present, .presence path' present' => path = path' ∧ present = present'
  | .all children, .all others => SameShapes children others
  | .any children, .any others => SameShapes children others
  | .not child, .not other => SameShape child other
  | _, _ => False

def SameShapes : List Tree → List Tree → Prop
  | [], [] => True
  | child :: rest, other :: others => SameShape child other ∧ SameShapes rest others
  | _, _ => False

end

mutual

theorem sameShape_self : (tree : Tree) → tree.SameShape tree
  | .literal _ => rfl
  | .comparison _ _ operand => by
    refine ⟨rfl, rfl, operand.sameShape_self, ?_⟩
    rintro - s t rfl same
    rw [Operand.string.inj same]
  | .presence _ _ => ⟨rfl, rfl⟩
  | .all children => sameShapes_self children
  | .any children => sameShapes_self children
  | .not child => sameShape_self child

theorem sameShapes_self : (children : List Tree) → SameShapes children children
  | [] => trivial
  | child :: rest => ⟨sameShape_self child, sameShapes_self rest⟩

end

mutual

/-- The text operands of a tree, in its order. -/
def operandTexts : Tree → List String
  | .comparison _ operator operand => operand.textsFor operator
  | .all children => allOperandTexts children
  | .any children => allOperandTexts children
  | .not child => operandTexts child
  | _ => []

def allOperandTexts : List Tree → List String
  | [] => []
  | child :: rest => operandTexts child ++ allOperandTexts rest

end

end Tree

end TaskFilter
