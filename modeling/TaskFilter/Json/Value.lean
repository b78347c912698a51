import TaskFilter.Json.Number

/-!
# JSON values

A value keeps the members of an object in the order of the text, repetitions included: which of two equal
keys counts, or whether a repetition is an error, is decided by whoever reads the value.
-/

namespace TaskFilter

inductive Json where
  | null
  | bool (value : Bool)
  | number (value : Number)
  | string (value : String)
  | array (items : List Json)
  | object (members : List (String × Json))
  deriving BEq

namespace Json

def strings (items : List String) : Json :=
  .array (items.map .string)

mutual

/-- How many brackets stand around the innermost value, its own included. -/
def depth : Json → Nat
  | .array items => depthItems items + 1
  | .object members => depthMembers members + 1
  | _ => 0

def depthItems : List Json → Nat
  | [] => 0
  | item :: rest => max (depth item) (depthItems rest)

def depthMembers : List (String × Json) → Nat
  | [] => 0
  | (_, value) :: rest => max (depth value) (depthMembers rest)

end

end Json

end TaskFilter
