import TaskFilter.Operator
import TaskFilter.Text.AsciiCase
import TaskFilter.Text.Blank

/-!
# Rules of a filter record

Three keys of a record say how other keys are meant: how the listed tags are combined, how the search term
is matched, and which bound of a date range is strict. Each has a default, and surrounding white space
does not count.
-/

namespace TaskFilter

/-- How the listed tags are combined. -/
inductive TagRule where
  /-- The task carries every listed tag. -/
  | all
  /-- The task carries at least one listed tag. -/
  | any
  /-- The task carries none of the listed tags. -/
  | none
  deriving DecidableEq, Repr

/-- How the search term is matched. -/
inductive TextRule where
  | contains
  | regex
  deriving DecidableEq, Repr

namespace TagRule

def name : TagRule → String
  | .all => "ALL"
  | .any => "ANY"
  | .none => "NONE"

/-- The names of the rules, each with what it means. -/
def names : List (String × TagRule) :=
  [("ALL", .all), ("AND", .all), ("ANY", .any), ("OR", .any), ("NONE", .none), ("NOT_IN", .none)]

/-- The rule of a name in any case, with white space around it. -/
def ofText? (text : String) : Option TagRule :=
  names.lookup (Text.asciiUpper (Text.trim text))

end TagRule

namespace TextRule

def name : TextRule → String
  | .contains => "CONTAINS"
  | .regex => "REGEX"

/-- The names of the rules, each with what it means. -/
def names : List (String × TextRule) :=
  [("CONTAINS", .contains), ("REGEX", .regex), ("MATCHES", .regex)]

/-- The rule of a name in any case, with white space around it. -/
def ofText? (text : String) : Option TextRule :=
  names.lookup (Text.asciiUpper (Text.trim text))

end TextRule

def unknownRuleMessage (text : String) : String :=
  "unknown operator '" ++ text ++ "'"

/-- Which bounds of a date range belong to it. -/
inductive DateBias where
  | inclusive
  | strictLower
  | strictUpper
  deriving DecidableEq, Repr

namespace DateBias

/-- The bias that a text asks for: a strict comparison sign makes its bound strict, and anything else
leaves both bounds inclusive. -/
def ofText (text : Option String) : DateBias :=
  match text.map Text.trim with
  | some ">" => .strictLower
  | some "<" => .strictUpper
  | _ => .inclusive

/-- The texts that say how the bounds are meant; without a sign both belong to the range. -/
def signs : List String :=
  ["", ">", "<", ">=", "<="]

/-- What a text says that is none of the signs, without the white space around it. -/
def unknown? (text : Option String) : Option String :=
  (text.map Text.trim).filter (!signs.contains ·)

def lower : DateBias → Operator
  | .strictLower => .gt
  | _ => .ge

def upper : DateBias → Operator
  | .strictUpper => .lt
  | _ => .le

end DateBias

end TaskFilter
