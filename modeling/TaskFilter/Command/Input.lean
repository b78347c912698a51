import TaskFilter.Command.Arguments
import TaskFilter.Command.Failure
import TaskFilter.Record.Wire
import TaskFilter.Tree.Reading

/-!
# Inputs of commands

An input is a text from one of three places. It holds a filter record, or a tree if that was asked for,
with white space around it.
-/

namespace TaskFilter.Command

/-- The tree that an input holds, or that its record stands for. -/
def readInput (text : String) (asTree : Bool) : Except InputError Tree :=
  let text := Text.trim text
  if text.isEmpty then .error .empty
  else if asTree then (Tree.ofText text).mapError fun _ => .notATree
  else
    match Record.ofText text with
    | .ok record => .ok record.toTree
    | .error _ => .error .notARecord

def World.sourceText (world : World) : Source → Except AccessError String
  | .inline text => .ok text
  | .file path => world.textAt path
  | .standardInput => world.standardInput

/-- What is said of an input that is refused: its reader's words, unless there was nothing to read. -/
def World.wordsOnInput (world : World) (text : String) : InputError → Option String
  | .empty => none
  | .notARecord => world.words.record (Text.trim text)
  | .notATree => world.words.tree (Text.trim text)

def World.loadTree (world : World) (source : Source) (asTree : Bool) : Except Failure Tree := do
  let text ← (world.sourceText source).mapError Failure.access
  (readInput text asTree).mapError fun cause => .input cause (world.wordsOnInput text cause)

end TaskFilter.Command
