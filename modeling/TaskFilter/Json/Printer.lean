import TaskFilter.Json.Quoted
import TaskFilter.Json.Value

/-!
# Writing JSON

Two layouts: `compact` without any space, and `pretty` with one item or member a line, indented by two
spaces for every bracket around it.
-/

namespace TaskFilter.Json

mutual

/-- The value without spaces. -/
def write : Json → List Char
  | .null => "null".toList
  | .bool true => "true".toList
  | .bool false => "false".toList
  | .number n => n.write
  | .string s => encode s
  | .array items => '[' :: writeItems items ++ [']']
  | .object members => '\x7b' :: writeMembers members ++ ['\x7d']

def writeItems : List Json → List Char
  | [] => []
  | [item] => write item
  | item :: rest => write item ++ ',' :: writeItems rest

def writeMembers : List (String × Json) → List Char
  | [] => []
  | [(key, value)] => encode key ++ ':' :: write value
  | (key, value) :: rest => encode key ++ ':' :: write value ++ ',' :: writeMembers rest

end

/-- The start of a line inside `level` brackets. -/
def newLine (level : Nat) : List Char :=
  '\n' :: List.replicate (2 * level) ' '

mutual

/-- The value over several lines, inside `level` brackets. -/
def writeLines (level : Nat) : Json → List Char
  | .null => "null".toList
  | .bool true => "true".toList
  | .bool false => "false".toList
  | .number n => n.write
  | .string s => encode s
  | .array [] => ['[', ']']
  | .array items => '[' :: writeItemLines (level + 1) items ++ newLine level ++ [']']
  | .object [] => ['\x7b', '\x7d']
  | .object members => '\x7b' :: writeMemberLines (level + 1) members ++ newLine level ++ ['\x7d']

def writeItemLines (level : Nat) : List Json → List Char
  | [] => []
  | [item] => newLine level ++ writeLines level item
  | item :: rest => newLine level ++ writeLines level item ++ ',' :: writeItemLines level rest

def writeMemberLines (level : Nat) : List (String × Json) → List Char
  | [] => []
  | [(key, value)] => newLine level ++ encode key ++ ':' :: ' ' :: writeLines level value
  | (key, value) :: rest =>
    newLine level ++ encode key ++ ':' :: ' ' :: writeLines level value ++ ',' ::
      writeMemberLines level rest

end

def compact (value : Json) : String :=
  String.ofList value.write

def pretty (value : Json) : String :=
  String.ofList (value.writeLines 0)

end TaskFilter.Json
