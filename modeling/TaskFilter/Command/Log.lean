import TaskFilter.Command.Environment
import TaskFilter.Command.Input
import TaskFilter.Log.Filter

/-!
# What a run logs

The events of a run in their order: of looking for the settings, of reading the input, and of what the command
does with the tree of the input. Which of them are shown is decided by the environment, or else by whether the
run is verbose.
-/

namespace TaskFilter.Command

/-- Whether a request is carried out although the settings cannot be used. -/
def Request.toleratesSettings : Request → Bool
  | .settings _ | .completions | .banner => true
  | .input .. | .fields => false

/-- The settings that a request is carried out under. -/
def World.settingsFor (world : World) (request : Request) : Except SettingsFailure Settings :=
  match world.settings with
  | .ok settings => .ok settings
  | .error cause => if request.toleratesSettings then .ok {} else .error cause

/-! ## Events -/

/-- The events of loading the settings: their file may be missing. -/
def World.eventsOfSettings (world : World) : List Event :=
  match world.settingsPath with
  | .ok path => if world.present path then [] else [.withoutSettings path]
  | .error _ => []

/-- The events of asking for the text of a source. -/
def Source.events : Source → List Event
  | .inline _ => []
  | .file path => [.readingFile path]
  | .standardInput => [.readingStandardInput]

/-- The events of loading the tree of an input, and of building it if the input is a record. -/
def World.eventsOfInput (world : World) (source : Source) (asTree : Bool) : List Event :=
  source.events ++
    match world.sourceText source with
    | .ok text => if asTree then [] else Record.eventsOfText (Text.trim text)
    | .error _ => []

/-- The events of what a command does with a tree. -/
def eventsOn (context : Context) (tree : Tree) : InputVerb → List Event
  | .compile => .compiling context.dialect :: eventsOfCompiling context.dialect tree
  | .check =>
    let report := Validation.validate tree
    [eventOfChecking report, .checked report.errors.length report.warnings.length]
  | .tree => []

/-- The events of carrying out a request. Listing the settings loads them once more. -/
def World.eventsOfRequest (world : World) (context : Context) : Request → List Event
  | .input verb source asTree =>
    world.eventsOfInput source asTree ++
      match world.loadTree source asTree with
      | .ok tree => eventsOn context tree verb
      | .error _ => []
  | .settings .list => world.eventsOfSettings
  | _ => []

/-- The events of a run. -/
def World.events (world : World) (invocation : Invocation) : List Event :=
  world.eventsOfSettings ++
    match world.settingsFor invocation.request with
    | .ok settings => world.eventsOfRequest (world.context invocation settings) invocation.request
    | .error _ => []

/-! ## What is shown -/

/-- The log of a run: the events of it that are shown. -/
def World.log (world : World) (invocation : Invocation) : List Event :=
  (world.events invocation).filter (world.logFilter?.getD (Event.isShown invocation.verbose))

end TaskFilter.Command
