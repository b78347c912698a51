import TaskFilter.Compilation
import TaskFilter.Log.Event
import TaskFilter.Record.Wire

/-!
# What is logged of a filter

The events of reading a record, of building its tree, and of checking and compiling a tree, in their order.
They follow what these do without taking part in it.
-/

namespace TaskFilter

open TaskFilter.Json (Document)

namespace Record

/-! ## Reading -/

/-- The event of coming to the value of a key: a text for a rule that names none. -/
def ignoredRule? (name : String) (value : Document) : Option Event :=
  match (Key.all.find? (·.name == name)).map Key.kind, value with
  | some .tagRule, .string (some text) =>
    if (TagRule.ofText? text).isNone then some (.ruleIgnored text) else none
  | some .textRule, .string (some text) =>
    if (TextRule.ofText? text).isNone then some (.ruleIgnored text) else none
  | _, _ => none

/-- The events of reading a record, up to the fault if there is one. -/
def eventsOfReading (document : Document) : List Event :=
  (layout.reached {} document).filterMap fun part => ignoredRule? part.1 part.2

/-! ## Building -/

/-- The text for a bias under a key, if the key is for a bias. -/
def biasUnder (record : Record) : Key → Option String
  | .dueBias => record.dueBias
  | .deferBias => record.deferBias
  | .plannedBias => record.plannedBias
  | .completionBias => record.completionBias
  | _ => none

/-- The events of asking a definition for its condition. A definition that has a key for a bias looks at it
as soon as there is a bound, which is when it has a condition. -/
def eventsOfDefinition (record : Record) (claimed : List Key) (definition : Definition) : List Event :=
  match definition.condition record claimed with
  | none => []
  | some condition =>
    definition.inputs.filterMap (fun key =>
      (DateBias.unknown? (record.biasUnder key)).map Event.biasIgnored) ++
    [.applied definition.name condition.shape definition.touches]

/-- The events of building the tree of a record. -/
def eventsOfBuilding (record : Record) : List Event :=
  if record.isEmpty then [.nothingAsked]
  else
    let claimed := claimedBy definitions record
    (if claimed.isEmpty then [] else [.claimed claimed]) ++
      definitions.flatMap (record.eventsOfDefinition claimed)

/-- The events of reading a text as a record, and of building the tree of the record. -/
def eventsOfText (text : String) : List Event :=
  eventsOfReading (Json.Source.ofText text).root ++
    match ofText text with
    | .ok record => record.eventsOfBuilding
    | .error _ => []

end Record

/-! ## Checking and compiling -/

def eventOfChecking (report : Report) : Event :=
  .validated report.valid report.errors.length report.warnings.length

/-- The events of compiling a tree. Nothing more is said of a tree that cannot be expressed. -/
def eventsOfCompiling (dialect : Dialect) (tree : Tree) : List Event :=
  eventOfChecking (Validation.validate tree) ::
    match compileTree dialect tree with
    | .ok compiled => [.compiled dialect compiled.tree.size]
    | .error (.rejected report) => [.rejected report.errors.length]
    | .error (.inexpressible _) => []

end TaskFilter
