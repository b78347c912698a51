import TaskFilter.Json.Number
import TaskFilter.Text.Quoted

/-!
# Problems met while reading

A text can be malformed, or it can be well formed as far as it was read and hold something else than what
was asked for. A mismatch names what was found and what was expected.
-/

namespace TaskFilter.Json

/-- What stands in a text where something else was expected. -/
inductive Found where
  | null
  | bool (value : Bool)
  | number (value : Number)
  | string (value : String)
  | sequence
  | map
  deriving BEq

def Found.text : Found → String
  | .null => "null"
  | .bool true => "boolean `true`"
  | .bool false => "boolean `false`"
  | .number (.integer value) => "integer `" ++ String.ofList (Number.writeInteger value) ++ "`"
  | .number (.float value) => "floating point `" ++ String.ofList (Decimal.write value) ++ "`"
  | .string value => "string " ++ Text.quoted value
  | .sequence => "sequence"
  | .map => "map"

/-- How a value differs from what was asked for. -/
inductive Mismatch where
  | wrongType (found : Found) (expected : String)
  /-- A key that must be present and is not. -/
  | missing (key : String)
  | repeated (key : String)
  /-- A name that is none of those known. -/
  | unknownName (name : String) (known : List String)
  /-- A value that fits none of several alternatives of the named type. -/
  | noAlternative (expected : String)
  /-- An array of `length` items, which is not what was expected. -/
  | wrongLength (length : Nat) (expected : String)
  /-- An object that should have exactly one member. -/
  | notSingle
  /-- A number used as an index of one of `count` names. -/
  | badIndex (value : Int) (count : Nat)
  deriving BEq

/-- A mismatch in words. -/
def Mismatch.message : Mismatch → String
  | .wrongType found expected => "invalid type: " ++ found.text ++ ", expected " ++ expected
  | .missing key => "missing field `" ++ key ++ "`"
  | .repeated key => "duplicate field `" ++ key ++ "`"
  | .unknownName name known =>
    "unknown variant `" ++ name ++ "`, expected one of " ++
      ", ".intercalate (known.map fun k => "`" ++ k ++ "`")
  | .noAlternative expected => "data did not match any variant of untagged enum " ++ expected
  | .wrongLength length expected =>
    "invalid length " ++ Nat.repr length ++ ", expected " ++ expected
  | .notSingle => "invalid value: map, expected map with a single key"
  | .badIndex value count =>
    "invalid value: integer `" ++ String.ofList (Number.writeInteger value) ++
      "`, expected variant index 0 <= i < " ++ Nat.repr count

/-- Why a text could not be read. -/
inductive ReadError where
  /-- The text is not JSON, or a part that was needed has no value. -/
  | malformed
  /-- The text holds something else than what was asked for. -/
  | mismatch (cause : Mismatch)
  deriving BEq

end TaskFilter.Json
