import TaskFilter.Json.Printer
import TaskFilter.Text.Quoted

/-!
# Operands

The value on the right-hand side of a comparison: a truth value, a number, a string, or a list of strings.
-/

namespace TaskFilter

/-- The right-hand side of a comparison. -/
inductive Operand where
  | bool (value : Bool)
  | number (value : Number)
  /-- A text, or a date in written form. -/
  | string (value : String)
  | array (items : List String)
  deriving BEq

namespace Operand

def kindName : Operand → String
  | .bool _ => "boolean"
  | .number _ => "number"
  | .string _ => "string"
  | .array _ => "array"

/-- The text of a truth value. -/
def boolText : Bool → String
  | true => "true"
  | false => "false"

/-- The operand as messages show it. -/
def display : Operand → String
  | .bool b => boolText b
  | .number n => String.ofList n.write
  | .string s => Text.quoted s
  | .array items => Text.quotedList items

/-- The operand's text, if it is a string. -/
def string? : Operand → Option String
  | .string s => some s
  | _ => none

/-- The operand's truth value, if it is one. -/
def bool? : Operand → Option Bool
  | .bool b => some b
  | _ => none

def toJson : Operand → Json
  | .bool b => .bool b
  | .number n => .number n
  | .string s => .string s
  | .array items => .strings items

/-- The strings of a list of values, if all are strings. -/
def strings? (items : List Json) : Option (List String) :=
  items.mapM fun item =>
    match item with
    | .string s => some s
    | _ => none

/-- The operand that a JSON value stands for. -/
def ofJson? : Json → Option Operand
  | .bool b => some (.bool b)
  | .number n => some (.number n)
  | .string s => some (.string s)
  | .array items => (strings? items).map .array
  | _ => none

end Operand

end TaskFilter
