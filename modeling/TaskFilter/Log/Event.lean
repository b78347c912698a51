import TaskFilter.Field
import TaskFilter.Record.Basic
import TaskFilter.Script.Dialect
import TaskFilter.Text.Quoted
import TaskFilter.Tree.Basic

/-!
# Events of a log

What is remarked on while a filter is read, built, checked and compiled, and while a command is carried out
around that. An event has a severity, a message and fields. How its line looks beside these, with the moment
and with colours, is left to whoever writes the log.
-/

namespace TaskFilter

/-- How much an event matters. -/
inductive Severity where
  | trace | debug | warning
  deriving DecidableEq, Repr

def Severity.name : Severity → String
  | .trace => "TRACE"
  | .debug => "DEBUG"
  | .warning => "WARN"

inductive Event where
  /-- The text behind the key of a rule names no rule, and counts as unset. -/
  | ruleIgnored (text : String)
  /-- No key of a record is set. -/
  | nothingAsked
  | claimed (keys : List Record.Key)
  /-- The text for the bias of a range is no sign, and both bounds belong to the range. -/
  | biasIgnored (text : String)
  /-- A definition contributes a condition of some shape. -/
  | applied (definition : String) (shape : Tree.Shape) (touches : List Field)
  | validated (valid : Bool) (errors warnings : Nat)
  | rejected (errors : Nat)
  | compiled (dialect : Dialect) (nodes : Nat)
  /-- There is no settings file at its place. -/
  | withoutSettings (path : String)
  | readingStandardInput
  | readingFile (path : String)
  | compiling (dialect : Dialect)
  | checked (errors warnings : Nat)
  deriving DecidableEq, Repr

namespace Event

/-- What is ignored is warned of, and how a record is taken apart is followed most closely. -/
def severity : Event → Severity
  | .ruleIgnored _ | .biasIgnored _ => .warning
  | .nothingAsked | .claimed _ => .trace
  | _ => .debug

/-- What is shown where nothing else is asked for: warnings, and all but traces if a run is verbose. -/
def isShown (verbose : Bool) (event : Event) : Bool :=
  match event.severity with
  | .warning => true
  | .debug => verbose
  | .trace => false

def message : Event → String
  | .ruleIgnored _ => "ignoring operator, using default"
  | .nothingAsked => "no predicates set"
  | .claimed _ => "inputs claimed by composite definitions"
  | .biasIgnored _ => "ignoring date operator, using inclusive bounds"
  | .applied .. => "filter definition applied"
  | .validated .. => "filter validated"
  | .rejected _ => "filter rejected"
  | .compiled .. => "filter compiled"
  | .withoutSettings _ => "no config file, using defaults"
  | .readingStandardInput => "reading filter from stdin"
  | .readingFile _ => "reading filter from file"
  | .compiling _ => "compiling filter"
  | .checked .. => "filter checked"

/-- Names as a set, in the order of the alphabet. -/
def quotedSet (names : List String) : String :=
  "\x7b" ++ ", ".intercalate ((names.eraseDups.mergeSort (· ≤ ·)).map Text.quoted) ++ "\x7d"

/-- What an event is about, under names. -/
def fields : Event → List (String × String)
  | .ruleIgnored text => [("err", unknownRuleMessage text)]
  | .nothingAsked | .readingStandardInput => []
  | .claimed keys => [("consumed", quotedSet (keys.map Record.Key.name))]
  | .biasIgnored text => [("operator", Text.quoted text)]
  | .applied definition shape touches =>
    [("definition", Text.quoted definition), ("node", Text.quoted shape.name),
      ("fields", Text.quotedList (touches.map Field.path))]
  | .validated valid errors warnings =>
    [("valid", Operand.boolText valid), ("errors", Nat.repr errors), ("warnings", Nat.repr warnings)]
  | .rejected errors => [("errors", Nat.repr errors)]
  | .compiled dialect nodes => [("dialect", dialect.name), ("nodes", Nat.repr nodes)]
  | .withoutSettings path => [("path", path)]
  | .readingFile path => [("path", Text.quoted path)]
  | .compiling dialect => [("dialect", dialect.name)]
  | .checked errors warnings => [("errors", Nat.repr errors), ("warnings", Nat.repr warnings)]

/-- The message of an event, with its fields behind it. -/
def text (event : Event) : String :=
  event.message ++ String.join (event.fields.map fun field => " " ++ field.1 ++ "=" ++ field.2)

/-- The plain line of an event, of which the moment is told by a text. -/
def line (moment : String) (event : Event) : String :=
  let name := event.severity.name
  moment ++ String.ofList (List.replicate (6 - name.length) ' ') ++ name ++ " " ++ event.text ++ "\n"

end Event

end TaskFilter
