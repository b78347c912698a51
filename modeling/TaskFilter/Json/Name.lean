import TaskFilter.Json.Document

/-!
# Values that are names

A value that is one of a few names is written as the name, or as an object with the name as its only key
and `null` behind it.
-/

namespace TaskFilter.Json.Document

/-- Reads nothing: `null`. -/
def readUnit : Document → Except ReadError Unit
  | .null => .ok ()
  | other => .error (other.unexpected "unit")

/-- Reads a name; `named` says what it stands for, or what is wrong with it. -/
def readName {α : Type} (named : String → Except Mismatch α) : Document → Except ReadError α
  | .string (some name) => (named name).mapError .mismatch
  | .object ((some name, value) :: others) closed => do
    let meaning ← (named name).mapError .mismatch
    readUnit value
    if others.isEmpty && closed then .ok meaning else .error .malformed
  | _ => .error .malformed

end TaskFilter.Json.Document
