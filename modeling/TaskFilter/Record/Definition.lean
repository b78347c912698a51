import TaskFilter.Field
import TaskFilter.Record.Basic
import TaskFilter.Tree.Basic

/-!
# From records to trees

A table of definitions says how the keys of a record become conditions. Each definition reads some keys
and contributes at most one condition, and the tree is their conjunction in the order of the table. A
definition that combines several keys can claim some of them; a claimed key is left out by the definition
that would otherwise use it alone. Only today mode claims keys.
-/

namespace TaskFilter.Record

structure Definition where
  name : String
  inputs : List Key
  /-- The fields that its condition asks about. -/
  touches : List Field
  /-- The keys that the definition claims in a record. -/
  claims : Record → List Key
  /-- The condition it contributes for a record of which some keys are claimed. -/
  condition : Record → List Key → Option Tree

/-- The equality of a field with an operand. -/
def equals (field : Field) (operand : Operand) : Tree :=
  .comparison field.path .eq operand

/-! ## Today mode -/

/-- The bound of today mode, if that is active. -/
def todayBound (record : Record) : Option String :=
  if record.todayMode = some true then filled record.dueBefore else none

/-- The keys that today mode claims. -/
def todayClaims (record : Record) : List Key :=
  if (todayBound record).isSome then [.flagged, .dueBefore] else []

/-- Due by the bound, or flagged. -/
def todayCondition (record : Record) : Option Tree :=
  (todayBound record).map fun bound =>
    .any [.all [.presence Field.dueDate.path true,
        .comparison Field.dueDate.path (DateBias.ofText record.dueBias).upper (.string bound)],
      equals .flagged (.bool true)]

/-! ## Single conditions -/

def flagCondition (field : Field) (flag : Option Bool) : Option Tree :=
  flag.map fun value => equals field (.bool value)

def textCondition (field : Field) (text : Option String) : Option Tree :=
  text.map fun value => equals field (.string value)

/-- The task's tags against the listed ones. -/
def tagsCondition (record : Record) : Option Tree :=
  record.tagSet.map fun tags =>
    match record.tagRule.getD .any with
    | .all => .comparison Field.tags.path .all (.array tags)
    | .any => .comparison Field.tags.path .any (.array tags)
    | .none => .not (.comparison Field.tags.path .any (.array tags))

/-- The search term in the name or in the note. -/
def searchCondition (record : Record) : Option Tree :=
  record.searchTerm.map fun term =>
    let operator := match record.textRule.getD .contains with
      | .contains => Operator.contains
      | .regex => Operator.matches
    .any [.comparison Field.name.path operator (.string term),
      .comparison Field.note.path operator (.string term)]

/-- A date between two bounds, of which either may be unset: the date must be present as well. -/
def rangeCondition (field : Field) (after before bias : Option String) : Option Tree :=
  match filled after, filled before with
  | none, none => none
  | after, before =>
    some (.all (.presence field.path true ::
      ((after.map fun bound =>
          Tree.comparison field.path (DateBias.ofText bias).lower (.string bound)).toList ++
        (before.map fun bound =>
          Tree.comparison field.path (DateBias.ofText bias).upper (.string bound)).toList)))

/-! ## The table -/

/-- A definition that claims nothing and does not look at claims. -/
def plain (name : String) (inputs : List Key) (touches : List Field)
    (condition : Record → Option Tree) : Definition where
  name := name
  inputs := inputs
  touches := touches
  claims := fun _ => []
  condition := fun record _ => condition record

/-- The definitions, in the order of their conditions in the tree. -/
def definitions : List Definition :=
  [{ name := "todayMode"
     inputs := [.todayMode, .dueBefore, .dueBias, .flagged]
     touches := [.dueDate, .flagged]
     claims := todayClaims
     condition := fun record _ => todayCondition record },
   plain "id" [.id] [.id] fun r => textCondition .id (filled r.id),
   plain "completed" [.completed] [.completed] fun r => flagCondition .completed r.completed,
   { name := "flagged"
     inputs := [.flagged]
     touches := [.flagged]
     claims := fun _ => []
     condition := fun record claimed =>
       if Key.flagged ∈ claimed then none else flagCondition .flagged record.flagged },
   plain "blocked" [.blocked] [.blocked] fun r => flagCondition .blocked r.blocked,
   plain "available" [.available] [.available] fun r => flagCondition .available r.available,
   plain "inInbox" [.inInbox] [.inInbox] fun r => flagCondition .inInbox r.inInbox,
   plain "dropped" [.dropped] [.dropped] fun r => flagCondition .dropped r.dropped,
   plain "tagStatusValid" [.tagStatusValid] [.tagStatusValid] fun r =>
     flagCondition .tagStatusValid r.tagStatusValid,
   plain "hasRepetitionRule" [.hasRepetitionRule] [.repetitionRule] fun r =>
     r.hasRepetitionRule.map (Tree.presence Field.repetitionRule.path),
   plain "project" [.projectId, .project] [.containingProject] fun r =>
     textCondition .containingProject r.projectReference,
   plain "tags" [.tags, .tagRule] [.tags] tagsCondition,
   plain "text" [.text, .search, .textRule] [.name, .note] searchCondition,
   { name := "dueDate"
     inputs := [.dueAfter, .dueBefore, .dueBias]
     touches := [.dueDate]
     claims := fun _ => []
     condition := fun record claimed =>
       rangeCondition .dueDate record.dueAfter
         (if Key.dueBefore ∈ claimed then none else record.dueBefore) record.dueBias },
   plain "deferDate" [.deferAfter, .deferBefore, .deferBias] [.deferDate] fun r =>
     rangeCondition .deferDate r.deferAfter r.deferBefore r.deferBias,
   plain "plannedDate" [.plannedAfter, .plannedBefore, .plannedBias] [.plannedDate] fun r =>
     rangeCondition .plannedDate r.plannedAfter r.plannedBefore r.plannedBias,
   plain "completionDate" [.completionAfter, .completionBefore, .completionBias] [.completionDate]
     fun r => rangeCondition .completionDate r.completionAfter r.completionBefore r.completionBias]

/-! ## Building -/

/-- The keys that the definitions of a table claim in a record. -/
def claimedBy (table : List Definition) (record : Record) : List Key :=
  table.flatMap fun definition => definition.claims record

/-- The conditions that the definitions of a table contribute, in its order. -/
def conditionsBy (table : List Definition) (record : Record) : List Tree :=
  table.filterMap fun definition => definition.condition record (claimedBy table record)

/-- The conjunction of conditions: the truth if there is none, and a single condition as it stands. -/
def conjunction : List Tree → Tree
  | [] => .literal true
  | [condition] => condition
  | conditions => .all conditions

/-- The tree of a record. -/
def toTree (record : Record) : Tree :=
  conjunction (conditionsBy definitions record)

end TaskFilter.Record
