import TaskFilter.Text.AsciiCase
import TaskFilter.Text.Segments

/-!
# Dialects of the script

The two dialects in which an expression can be written, and how each reads a property of a task: by
calling it, or by naming it.
-/

namespace TaskFilter

inductive Dialect where
  /-- Every property is read through a call. -/
  | jxa
  /-- Properties are read directly. -/
  | omnijs
  deriving DecidableEq, Repr

namespace Dialect

def name : Dialect → String
  | .jxa => "jxa"
  | .omnijs => "omnijs"

def standard : Dialect := .jxa

/-- The names of the dialects in small letters, each with what it means. -/
def names : List (String × Dialect) :=
  [("jxa", .jxa), ("omnijs", .omnijs), ("omni-js", .omnijs), ("omni", .omnijs)]

/-- The dialect of a name in any case. -/
def ofText? (text : String) : Option Dialect :=
  names.lookup (Text.asciiLower text)

def unknownMessage (text : String) : String :=
  "unknown target '" ++ Text.asciiLower text ++ "' (expected jxa or omnijs)"

/-- What a dialect writes for a segment of a path after the first. -/
def segmentText : Dialect → String → String
  | .jxa, segment => "." ++ segment ++ "()"
  | .omnijs, segment => "." ++ segment ++ if segment = "id" then ".primaryKey" else ""

/-- The expression that reads the property of a path. -/
def accessor (dialect : Dialect) (path : String) : String :=
  match Text.segments path with
  | [] => ""
  | first :: rest => first ++ String.join (rest.map dialect.segmentText)

end Dialect

end TaskFilter
