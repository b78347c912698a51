import TaskFilter.Record.Rules

/-!
# Filter records

A filter record is a flat table of optional predicates. Each of its 29 keys holds one of five kinds of
value, and each may be left unset; an unset predicate asks nothing of a task.

Main statements: `get_set_self` and `get_set_of_ne` say that a record is a table over its keys, and
`ext_get` that nothing else is in it.
-/

namespace TaskFilter

/-- A partially filled table of predicates. -/
structure Record where
  completed : Option Bool := none
  flagged : Option Bool := none
  blocked : Option Bool := none
  available : Option Bool := none
  inInbox : Option Bool := none
  dropped : Option Bool := none
  tagStatusValid : Option Bool := none
  hasRepetitionRule : Option Bool := none
  id : Option String := none
  /-- The containing project, by identifier or name. -/
  projectId : Option String := none
  /-- The older name of `projectId`. -/
  project : Option String := none
  tags : Option (List String) := none
  tagRule : Option TagRule := none
  /-- A search term for the name and the note. -/
  text : Option String := none
  /-- The older name of `text`. -/
  search : Option String := none
  textRule : Option TextRule := none
  dueAfter : Option String := none
  dueBefore : Option String := none
  dueBias : Option String := none
  deferAfter : Option String := none
  deferBefore : Option String := none
  deferBias : Option String := none
  plannedAfter : Option String := none
  plannedBefore : Option String := none
  plannedBias : Option String := none
  completionAfter : Option String := none
  completionBefore : Option String := none
  completionBias : Option String := none
  /-- Due soon or flagged. -/
  todayMode : Option Bool := none
  deriving DecidableEq, Repr

namespace Record

inductive Key where
  | completed | flagged | blocked | available | inInbox | dropped | tagStatusValid | hasRepetitionRule
  | id | projectId | project | tags | tagRule | text | search | textRule
  | dueAfter | dueBefore | dueBias | deferAfter | deferBefore | deferBias
  | plannedAfter | plannedBefore | plannedBias | completionAfter | completionBefore | completionBias
  | todayMode
  deriving DecidableEq, Repr

namespace Key

/-- The name under which a key is written. -/
def name : Key → String
  | .completed => "completed"
  | .flagged => "flagged"
  | .blocked => "blocked"
  | .available => "available"
  | .inInbox => "inInbox"
  | .dropped => "dropped"
  | .tagStatusValid => "tagStatusValid"
  | .hasRepetitionRule => "hasRepetitionRule"
  | .id => "id"
  | .projectId => "projectId"
  | .project => "project"
  | .tags => "tags"
  | .tagRule => "tagsOperator"
  | .text => "text"
  | .search => "search"
  | .textRule => "textOperator"
  | .dueAfter => "dueAfter"
  | .dueBefore => "dueBefore"
  | .dueBias => "dueDateOperator"
  | .deferAfter => "deferAfter"
  | .deferBefore => "deferBefore"
  | .deferBias => "deferDateOperator"
  | .plannedAfter => "plannedAfter"
  | .plannedBefore => "plannedBefore"
  | .plannedBias => "plannedDateOperator"
  | .completionAfter => "completionAfter"
  | .completionBefore => "completionBefore"
  | .completionBias => "completionDateOperator"
  | .todayMode => "todayMode"

/-- All keys, in the order in which an array fills them. -/
def all : List Key :=
  [.completed, .flagged, .blocked, .available, .inInbox, .dropped, .tagStatusValid, .hasRepetitionRule,
   .id, .projectId, .project, .tags, .tagRule, .text, .search, .textRule,
   .dueAfter, .dueBefore, .dueBias, .deferAfter, .deferBefore, .deferBias,
   .plannedAfter, .plannedBefore, .plannedBias, .completionAfter, .completionBefore, .completionBias,
   .todayMode]

theorem mem_all (key : Key) : key ∈ all := by
  cases key <;> decide

inductive Kind where
  | flag | text | tags | tagRule | textRule
  deriving DecidableEq, Repr

def kind : Key → Kind
  | .completed | .flagged | .blocked | .available | .inInbox | .dropped | .tagStatusValid
  | .hasRepetitionRule | .todayMode => .flag
  | .tags => .tags
  | .tagRule => .tagRule
  | .textRule => .textRule
  | _ => .text

/-- The type of the values of a kind. -/
@[reducible] def Kind.Value : Kind → Type
  | .flag => Bool
  | .text => String
  | .tags => List String
  | .tagRule => TagRule
  | .textRule => TextRule

end Key

/-- What the record holds under a key. -/
def get (record : Record) : (key : Key) → Option key.kind.Value
  | .completed => record.completed
  | .flagged => record.flagged
  | .blocked => record.blocked
  | .available => record.available
  | .inInbox => record.inInbox
  | .dropped => record.dropped
  | .tagStatusValid => record.tagStatusValid
  | .hasRepetitionRule => record.hasRepetitionRule
  | .id => record.id
  | .projectId => record.projectId
  | .project => record.project
  | .tags => record.tags
  | .tagRule => record.tagRule
  | .text => record.text
  | .search => record.search
  | .textRule => record.textRule
  | .dueAfter => record.dueAfter
  | .dueBefore => record.dueBefore
  | .dueBias => record.dueBias
  | .deferAfter => record.deferAfter
  | .deferBefore => record.deferBefore
  | .deferBias => record.deferBias
  | .plannedAfter => record.plannedAfter
  | .plannedBefore => record.plannedBefore
  | .plannedBias => record.plannedBias
  | .completionAfter => record.completionAfter
  | .completionBefore => record.completionBefore
  | .completionBias => record.completionBias
  | .todayMode => record.todayMode

/-- The record with another value under a key. -/
def set (record : Record) : (key : Key) → Option key.kind.Value → Record
  | .completed, v => { record with completed := v }
  | .flagged, v => { record with flagged := v }
  | .blocked, v => { record with blocked := v }
  | .available, v => { record with available := v }
  | .inInbox, v => { record with inInbox := v }
  | .dropped, v => { record with dropped := v }
  | .tagStatusValid, v => { record with tagStatusValid := v }
  | .hasRepetitionRule, v => { record with hasRepetitionRule := v }
  | .id, v => { record with id := v }
  | .projectId, v => { record with projectId := v }
  | .project, v => { record with project := v }
  | .tags, v => { record with tags := v }
  | .tagRule, v => { record with tagRule := v }
  | .text, v => { record with text := v }
  | .search, v => { record with search := v }
  | .textRule, v => { record with textRule := v }
  | .dueAfter, v => { record with dueAfter := v }
  | .dueBefore, v => { record with dueBefore := v }
  | .dueBias, v => { record with dueBias := v }
  | .deferAfter, v => { record with deferAfter := v }
  | .deferBefore, v => { record with deferBefore := v }
  | .deferBias, v => { record with deferBias := v }
  | .plannedAfter, v => { record with plannedAfter := v }
  | .plannedBefore, v => { record with plannedBefore := v }
  | .plannedBias, v => { record with plannedBias := v }
  | .completionAfter, v => { record with completionAfter := v }
  | .completionBefore, v => { record with completionBefore := v }
  | .completionBias, v => { record with completionBias := v }
  | .todayMode, v => { record with todayMode := v }

theorem get_set_self (record : Record) (key : Key) (v : Option key.kind.Value) :
    (record.set key v).get key = v := by
  cases key <;> rfl

theorem get_set_of_ne (record : Record) {key other : Key} (h : other ≠ key)
    (v : Option key.kind.Value) : (record.set key v).get other = record.get other := by
  cases key <;> cases other <;> first | rfl | exact absurd rfl h

/-- Records that hold the same under every key are the same. -/
theorem ext_get {r s : Record} (h : ∀ key, r.get key = s.get key) : r = s := by
  have e : r = ⟨r.get .completed, r.get .flagged, r.get .blocked, r.get .available, r.get .inInbox,
      r.get .dropped, r.get .tagStatusValid, r.get .hasRepetitionRule, r.get .id, r.get .projectId,
      r.get .project, r.get .tags, r.get .tagRule, r.get .text, r.get .search, r.get .textRule,
      r.get .dueAfter, r.get .dueBefore, r.get .dueBias, r.get .deferAfter, r.get .deferBefore,
      r.get .deferBias, r.get .plannedAfter, r.get .plannedBefore, r.get .plannedBias,
      r.get .completionAfter, r.get .completionBefore, r.get .completionBias, r.get .todayMode⟩ := rfl
  rw [e]
  simp only [h]
  rfl

/-! ## What the predicates ask for -/

/-- A text that is set and not empty. -/
def filled (text : Option String) : Option String :=
  text.filter (· != "")

/-- The search term, under its present name before the older one. -/
def searchTerm (record : Record) : Option String :=
  (filled record.text).or (filled record.search)

/-- The reference to a project, under its present name before the older one. -/
def projectReference (record : Record) : Option String :=
  (filled record.projectId).or (filled record.project)

/-- The listed tags, if there is at least one. -/
def tagSet (record : Record) : Option (List String) :=
  record.tags.filter (! ·.isEmpty)

/-- Whether no predicate is set. -/
def isEmpty (record : Record) : Bool :=
  record == {}

end Record

end TaskFilter
