/-!
# Dotted paths and substrings

A field is named by a path such as `task.dueDate`: segments between dots. This module cuts a path into
its segments and looks for one text inside another.

Main statements: `occursIn_iff` says that the search finds exactly the contiguous sublists, and
`isWellFormedPath_iff` that a path is well formed when no segment is empty.
-/

namespace TaskFilter.Text

/-- The parts of a path between its dots; a path without dots is its only segment. -/
def segments (path : String) : List String :=
  (path.toList.splitOn '.').map String.ofList

def lastSegment (path : String) : String :=
  (segments path).getLast?.getD path

/-- Whether every segment of a path has at least one character. The empty path has one empty segment. -/
def isWellFormedPath (path : String) : Bool :=
  (segments path).all (· != "")

theorem isWellFormedPath_iff (path : String) :
    isWellFormedPath path = true ↔ "" ∉ segments path := by
  simp only [isWellFormedPath, List.all_eq_true, bne_iff_ne]
  exact ⟨fun h m => h _ m rfl, fun h s m e => h (e ▸ m)⟩

/-- Whether `needle` stands somewhere in the text, as one piece. -/
def occursIn (needle : List Char) : List Char → Bool
  | [] => needle.isEmpty
  | c :: rest => needle.isPrefixOf (c :: rest) || occursIn needle rest

theorem occursIn_iff (needle text : List Char) : occursIn needle text = true ↔ needle <:+: text := by
  induction text with
  | nil => simp [occursIn, List.isEmpty_iff]
  | cons c rest ih => simp [occursIn, ih, List.infix_cons_iff, List.isPrefixOf_iff_prefix]

end TaskFilter.Text
