import TaskFilter.Json.Layout
import TaskFilter.Json.Name

/-!
# Diagnostics

One finding about a tree, in the form in which it is passed on: its kind, what it says, where in the tree
it was made, and which names may have been meant. Diagnostics are written as JSON and read back.
-/

namespace TaskFilter

open TaskFilter.Json (Document Layout Mismatch ReadError)

inductive Diagnostic.Kind where
  | unknownField | typeMismatch | contradiction | invalidNode | tautology | emptyNode
  deriving DecidableEq, Repr

structure Diagnostic where
  kind : Diagnostic.Kind
  message : String
  /-- The place in the tree: `$` is the root. -/
  path : Option String := none
  /-- The names that may have been meant. -/
  suggestions : List String := []
  deriving DecidableEq, Repr

namespace Diagnostic

def Kind.name : Kind → String
  | .unknownField => "UNKNOWN_FIELD"
  | .typeMismatch => "TYPE_MISMATCH"
  | .contradiction => "CONTRADICTION"
  | .invalidNode => "INVALID_NODE"
  | .tautology => "TAUTOLOGY"
  | .emptyNode => "EMPTY_NODE"

/-- The kinds in the order in which messages list them. -/
def Kind.listed : List Kind :=
  [.unknownField, .typeMismatch, .contradiction, .invalidNode, .tautology, .emptyNode]

def Kind.ofName? (name : String) : Option Kind :=
  Kind.listed.find? (·.name == name)

theorem Kind.ofName?_name (kind : Kind) : Kind.ofName? kind.name = some kind := by
  cases kind <;> rfl

def display (d : Diagnostic) : String :=
  d.kind.name ++ ": " ++ d.message ++
    (match d.path with
      | some path => " (at " ++ path ++ ")"
      | none => "") ++
    (if d.suggestions.isEmpty then "" else ". Did you mean: " ++ ", ".intercalate d.suggestions ++ "?")

/-! ## The JSON form -/

/-- The JSON form of a finding: a place that is not known and suggestions that are not made are left
out. -/
def toJson (d : Diagnostic) : Json :=
  .object ([("kind", .string d.kind.name), ("message", .string d.message)] ++
    (d.path.map fun path => ("path", Json.string path)).toList ++
    (if d.suggestions.isEmpty then [] else [("suggestions", .strings d.suggestions)]))

def kindNamed (name : String) : Except Mismatch Kind :=
  match Kind.ofName? name with
  | some kind => .ok kind
  | none => .error (.unknownName name (Kind.listed.map (·.name)))

/-- The slots of a finding that have been filled. -/
structure Draft where
  kind : Option Kind := none
  message : Option String := none
  path : Option String := none
  suggestions : List String := []

def layout : Layout Draft where
  name := "struct Diagnostic"
  slots :=
    [⟨"kind", fun document draft => do
        return { draft with kind := some (← document.readName kindNamed) }⟩,
     ⟨"message", fun document draft => do
        return { draft with message := some (← document.readString) }⟩,
     ⟨"path", fun document draft => do
        return { draft with path := ← document.readOptional Document.readString }⟩,
     ⟨"suggestions", fun document draft => do
        return { draft with suggestions := ← document.readList Document.readString }⟩]

/-- The first of the required slots that is empty. -/
def Draft.missing (draft : Draft) : Option String :=
  if draft.kind.isNone then some "kind"
  else if draft.message.isNone then some "message"
  else none

def read (document : Document) : Except ReadError Diagnostic := do
  let draft ← layout.read 2 Draft.missing {} document
  match draft.kind, draft.message with
  | some kind, some message => pure ⟨kind, message, draft.path, draft.suggestions⟩
  | _, _ => throw .malformed

def ofText (text : String) : Except ReadError Diagnostic :=
  Json.Source.read read text

end Diagnostic

end TaskFilter
