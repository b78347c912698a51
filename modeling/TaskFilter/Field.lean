/-!
# Fields of a task

The fields that a condition can ask about, each with its path, the kind of value it holds, and a line of
description. Five of them are derived: in at least one dialect no property of a task holds them, and they
are expanded to an expression over other properties.
-/

namespace TaskFilter

/-- The kind of value that a field holds. -/
inductive ValueKind where
  | boolean
  | string
  /-- A date or a moment, carried as a string. -/
  | date
  | array
  /-- A related object, which can only be present or absent. -/
  | object
  deriving DecidableEq, Repr

def ValueKind.name : ValueKind → String
  | .boolean => "boolean"
  | .string => "string"
  | .date => "date"
  | .array => "array"
  | .object => "object"

inductive Field where
  | id | name | note | completed | flagged | inInbox | blocked | available | dropped | tagStatusValid
  | containingProject | repetitionRule | dueDate | deferDate | plannedDate | completionDate | tags
  deriving DecidableEq, Repr

namespace Field

/-- The path by which conditions name the field. -/
def path : Field → String
  | .id => "task.id"
  | .name => "task.name"
  | .note => "task.note"
  | .completed => "task.completed"
  | .flagged => "task.flagged"
  | .inInbox => "task.inInbox"
  | .blocked => "task.blocked"
  | .available => "task.available"
  | .dropped => "task.dropped"
  | .tagStatusValid => "task.tagStatusValid"
  | .containingProject => "task.containingProject"
  | .repetitionRule => "task.repetitionRule"
  | .dueDate => "task.dueDate"
  | .deferDate => "task.deferDate"
  | .plannedDate => "task.plannedDate"
  | .completionDate => "task.completionDate"
  | .tags => "taskTags"

def kind : Field → ValueKind
  | .id | .name | .note | .containingProject => .string
  | .completed | .flagged | .inInbox | .blocked | .available | .dropped | .tagStatusValid => .boolean
  | .dueDate | .deferDate | .plannedDate | .completionDate => .date
  | .repetitionRule => .object
  | .tags => .array

/-- What the field says about a task. -/
def description : Field → String
  | .id => "Task identifier"
  | .name => "Task title"
  | .note => "Task note body"
  | .completed => "Task is completed"
  | .flagged => "Task is flagged"
  | .inInbox => "Task is in the inbox"
  | .blocked => "Task is blocked by a sequential predecessor"
  | .available => "Task can be worked on now"
  | .dropped => "Task is dropped"
  | .tagStatusValid => "Task has no tags or at least one active or on-hold tag"
  | .containingProject => "Containing project, by identifier or name"
  | .repetitionRule => "Repetition rule"
  | .dueDate => "Due date"
  | .deferDate => "Defer date"
  | .plannedDate => "Planned date"
  | .completionDate => "Completion date"
  | .tags => "Names of the task's tags"

/-- All fields, in the order in which they are listed. -/
def all : List Field :=
  [.id, .name, .note, .completed, .flagged, .inInbox, .blocked, .available, .dropped, .tagStatusValid,
   .containingProject, .repetitionRule, .dueDate, .deferDate, .plannedDate, .completionDate, .tags]

theorem mem_all (field : Field) : field ∈ all := by
  cases field <;> decide

/-- The derived fields, in the order in which they are listed. -/
def derived : List Field :=
  [.dropped, .available, .blocked, .tagStatusValid, .containingProject]

/-- Whether at least one dialect has no property for the field. -/
def isDerived (field : Field) : Bool :=
  derived.contains field

def ofPath? (path : String) : Option Field :=
  all.find? (·.path == path)

theorem path_of_ofPath? {path : String} {field : Field} (h : ofPath? path = some field) :
    field.path = path := by
  have := List.find?_some h
  simpa using this

theorem ofPath?_path (field : Field) : ofPath? field.path = some field := by
  cases field <;> rfl

/-- Different fields have different paths. -/
theorem path_injective {f g : Field} (h : f.path = g.path) : f = g := by
  have found := ofPath?_path f
  rw [h, ofPath?_path] at found
  exact (Option.some.inj found).symm

end Field

end TaskFilter
