import TaskFilter.Log.Event

/-!
# What a run depends on

A run reads variables of its environment, texts at paths, and what is handed to it. All of that is one
value here, so that a run is a function of it. Where nothing can be read the reason is kept. What others say
to a run is part of the value as well: the words in which the readers of texts refuse them, and which events
the environment asks to be shown.
-/

namespace TaskFilter.Command

/-- Why no text can be read. -/
inductive AccessError where
  | notFound
  /-- The path leads through something that is no directory. -/
  | notADirectory
  | isADirectory
  | notText
  | nameTooLong
  /-- The path holds the character that ends paths. -/
  | nulInPath
  /-- The device is not connected to anything. -/
  | noDevice
  | denied
  deriving DecidableEq, Repr

def AccessError.message : AccessError → String
  | .notFound => "No such file or directory (os error 2)"
  | .notADirectory => "Not a directory (os error 20)"
  | .isADirectory => "Is a directory (os error 21)"
  | .notText => "stream did not contain valid UTF-8"
  | .nameTooLong => "File name too long (os error 36)"
  | .nulInPath => "file name contained an unexpected NUL byte"
  | .noDevice => "No such device or address (os error 6)"
  | .denied => "Permission denied (os error 13)"

/-- What the readers of texts say of a text that they refuse: the place of the fault in it, and the fault in
their own words. It is kept out of the message where it is not known. -/
structure Words where
  record : String → Option String := fun _ => none
  tree : String → Option String := fun _ => none
  settings : String → Option String := fun _ => none

/-- Whether anything is there that the reading of a text found. What may not be read is taken to be there. -/
def isPresent : Except AccessError String → Bool
  | .ok _ => true
  | .error .isADirectory | .error .notText | .error .noDevice | .error .denied => true
  | .error _ => false

/-- What a run depends on. -/
structure World where
  env? : String → Option String
  /-- The home of the account, for when no variable names it. -/
  accountHome : Option String
  textAt : String → Except AccessError String
  standardInput : Except AccessError String
  /-- Whether something is found at a path without reading it. A path that leads through a directory that may
  not be searched is one at which nothing is found. -/
  present : String → Bool := fun path => isPresent (textAt path)
  words : Words := {}
  /-- The events that the environment asks to be shown, if it says so in a way that is understood. -/
  logFilter? : Option (Event → Bool) := none

end TaskFilter.Command
