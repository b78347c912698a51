import TaskFilter.Script.Expr

/-!
# The meaning of expressions

What an expression says of a task. A task gives a value to every text that reads one, each by itself, and
equality is strict: it holds between equal values of one type, and a list that is written down equals
nothing. How the other atoms come out is left open.

Main statements: `same_bool_iff` and `same_string_iff`, by which a property that equals a truth value or a
text is that value.
-/

namespace TaskFilter.Script

/-- A value of a property. -/
inductive Value where
  | null
  | bool (value : Bool)
  | number (value : Float)
  | string (value : String)
  /-- Anything else, known by a name. -/
  | object (name : String)

/-- Strict equality. -/
def Value.same : Value → Value → Bool
  | .null, .null => true
  | .bool a, .bool b => a == b
  | .number x, .number y => x == y
  | .string s, .string t => s == t
  | .object a, .object b => a == b
  | _, _ => false

theorem Value.same_bool_iff {value : Value} {b : Bool} :
    value.same (.bool b) = true ↔ value = .bool b := by
  cases value <;> simp [same]

theorem Value.same_string_iff {value : Value} {s : String} :
    value.same (.string s) = true ↔ value = .string s := by
  cases value <;> simp [same]

/-- A task, as expressions see it. -/
structure Valuation where
  /-- The value of every text that reads one. -/
  value : String → Value
  /-- Whether an atom holds that compares nothing for equality. -/
  answer : Atom → Bool

variable (task : Valuation)

def Term.value? : Term → Option Value
  | .operand (.bool b) => some (.bool b)
  | .operand (.number (.integer n)) => some (.number (Float.ofInt n))
  | .operand (.number (.float x)) => some (.number x)
  | .operand (.string s) => some (.string s)
  -- a list is made where it is written, and is the same as no other value
  | .operand (.array _) => none
  | .null => some .null
  | .symbol name => some (task.value name)

def Atom.holdsOf : Atom → Bool
  | .constant value => value
  | .equality property same term =>
    ((term.value? task).any fun value => (task.value property).same value) == same
  | other => task.answer other

namespace Expr

mutual

/-- Whether an expression is true of a task. -/
def holdsOf : Expr → Bool
  | .atom condition => condition.holdsOf task
  | .not operand => !holdsOf operand
  | .parens inner => holdsOf inner
  | .joined .and parts => allHoldOf parts
  | .joined .or parts => anyHoldsOf parts

def allHoldOf : List Expr → Bool
  | [] => true
  | part :: rest => holdsOf part && allHoldOf rest

def anyHoldsOf : List Expr → Bool
  | [] => false
  | part :: rest => holdsOf part || anyHoldsOf rest

end

end Expr

theorem holdsOf_equality_bool {property : String} {b : Bool} :
    (Atom.equality property true (.operand (.bool b))).holdsOf task = true ↔
      task.value property = .bool b := by
  simp [Atom.holdsOf, Term.value?, Value.same_bool_iff]

theorem holdsOf_equality_string {property : String} {s : String} :
    (Atom.equality property true (.operand (.string s))).holdsOf task = true ↔
      task.value property = .string s := by
  simp [Atom.holdsOf, Term.value?, Value.same_string_iff]

end TaskFilter.Script
