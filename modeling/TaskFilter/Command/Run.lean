import TaskFilter.Command.Log
import TaskFilter.Field.Listing
import TaskFilter.Report.Table

/-!
# Running commands

What each command prints and how it ends, as a function of what the run depends on. A failure is printed
as one line, or as JSON if that was asked for, after what the command printed before it failed. The channel
for errors holds the lines of the log before all that.
-/

namespace TaskFilter.Command

open TaskFilter.Text (styled)

/-- What a command printed, and why it failed, if it did. -/
structure Effect where
  output : String := ""
  /-- What was printed beside the output. -/
  notes : String := ""
  failure : Option Failure := none

def Effect.ofFailure (failure : Failure) : Effect :=
  { failure := some failure }

def line (text : String) : String :=
  text ++ "\n"

/-! ## Commands with an input -/

/-- Compiles a tree; warnings stop it if they count as errors. -/
def compileIn (context : Context) (tree : Tree) : Except Failure Compiled := do
  let compiled ← (compileTree context.dialect tree).mapError Failure.uncompiled
  if context.warningsAsErrors && !compiled.warnings.isEmpty then
    throw (.warnings compiled.warnings.length)
  return compiled

/-- Prints a compiled filter: its expression, with the warnings beside it, or everything as JSON. -/
def showCompiled (context : Context) (compiled : Compiled) : Effect :=
  if context.json then { output := line compiled.toJson.pretty }
  else
    { output := line compiled.expression
      notes :=
        if context.quiet then ""
        else String.join (compiled.warnings.map fun d => line ("warning: " ++ d.display)) }

/-- Why a checked tree is not accepted. -/
def verdict (context : Context) (report : Report) : Option Failure :=
  if !report.valid then some (.uncompiled (.rejected report))
  else if context.warningsAsErrors && report.hasWarnings then
    some (.warnings report.warnings.length)
  else none

/-- Prints a report, and says whether the tree is accepted. -/
def showReport (context : Context) (report : Report) : Effect where
  output :=
    if context.json then line report.toJson.pretty
    else if context.quiet then ""
    else report.table context.colors
  failure := verdict context report

/-- Does with a tree what a command asks for. -/
def performOn (context : Context) (tree : Tree) : InputVerb → Effect
  | .compile =>
    match compileIn context tree with
    | .ok compiled => showCompiled context compiled
    | .error failure => .ofFailure failure
  | .check => showReport context (Validation.validate tree)
  | .tree => { output := line tree.toJson.pretty }

def performInput (world : World) (context : Context) (verb : InputVerb) (source : Source)
    (asTree : Bool) : Effect :=
  match world.loadTree source asTree with
  | .ok tree => performOn context tree verb
  | .error failure => .ofFailure failure

/-! ## Listings -/

def showFields (context : Context) : Effect where
  output := if context.json then line Field.listingJson.pretty else Field.listingTable context.colors

def settingMember (key : String) (value : Option Json) : List (String × Json) :=
  (value.map (key, ·)).toList

/-- The JSON form of settings. Keys are in the order of the alphabet. -/
def settingsJson (settings : Settings) : Json :=
  .object (
    [("output", .object (settingMember "color" (settings.color.map .bool)))] ++
    settingMember "target" (settings.dialect.map fun dialect => .string dialect.name) ++
    [("validation", .object (
      settingMember "warnings_as_errors" (settings.warningsAsErrors.map .bool))),
     ("version", .number (.integer Settings.version))])

def settingsListingJson (context : Context) (path : String) (present : Bool) (settings : Settings) :
    Json :=
  .object [("config", settingsJson settings),
    ("effective", .object [("color", .bool context.colors),
      ("target", .string context.dialect.name),
      ("warnings_as_errors", .bool context.warningsAsErrors)]),
    ("exists", .bool present), ("path", .string path)]

def settingLine (name : String) (value : Option String) : String :=
  (value.map fun text => line ("  " ++ name ++ ": " ++ text)).getD ""

def settingsListing (context : Context) (path : String) (present : Bool) (settings : Settings) :
    String :=
  line (styled context.colors [.bold, .green] "Configuration") ++ "\n" ++
  line ("File: " ++ path) ++ line ("Exists: " ++ Operand.boolText present) ++ "\n" ++
  line "Settings:" ++ settingLine "version" (some (Nat.repr Settings.version)) ++
  settingLine "target" (settings.dialect.map Dialect.name) ++ "\n" ++
  line "[validation]" ++
  settingLine "warnings_as_errors" (settings.warningsAsErrors.map Operand.boolText) ++ "\n" ++
  line "[output]" ++ settingLine "color" (settings.color.map Operand.boolText) ++ "\n" ++
  line "Effective:" ++ settingLine "target" (some context.dialect.name) ++
  settingLine "warnings_as_errors" (some (Operand.boolText context.warningsAsErrors))

def showSettings (world : World) (context : Context) : Except Failure Effect := do
  let settings ← world.settings.mapError Failure.settings
  let path ← world.settingsPath.mapError Failure.settings
  let present := world.present path
  if context.json then
    return { output := line (settingsListingJson context path present settings).pretty }
  else if context.quiet then return {}
  else return { output := settingsListing context path present settings }

def showSettingsPath (world : World) (context : Context) : Except Failure Effect := do
  let path ← world.settingsPath.mapError Failure.settings
  if context.json then
    let listing := Json.object [("exists", .bool (world.present path)), ("path", .string path)]
    return { output := line listing.pretty }
  else return { output := line path }

def banner (context : Context) : Effect where
  output :=
    if context.quiet then ""
    else line "ofq - OmniFocus filter compiler" ++ line "Use --help for usage information"

/-! ## Runs -/

structure Outcome where
  status : Nat
  output : String
  /-- What stands behind the log on the channel for errors. -/
  errors : String
  /-- The events whose lines stand on the channel for errors. All of them were logged before anything else
  was printed there. -/
  log : List Event := []
  deriving DecidableEq, Repr

/-- The lines of the log, of which `write` makes each from its number and its event. -/
def Outcome.logText (outcome : Outcome) (write : Nat → Event → String) : String :=
  String.join (outcome.log.mapIdx write)

/-- All that is on the channel for errors. -/
def Outcome.standardError (outcome : Outcome) (write : Nat → Event → String) : String :=
  outcome.logText write ++ outcome.errors

def effectOf : Except Failure Effect → Effect
  | .ok effect => effect
  | .error failure => .ofFailure failure

/-- Carries out a request. The script of a completion is not part of this library, so nothing is printed
for it. -/
def perform (world : World) (context : Context) : Request → Effect
  | .banner => banner context
  | .input verb source asTree => performInput world context verb source asTree
  | .fields => showFields context
  | .settings .list => effectOf (showSettings world context)
  | .settings .path => effectOf (showSettingsPath world context)
  | .completions => {}

def failureText (json : Bool) (failure : Failure) : String :=
  if json then line failure.toJson.pretty else line ("Error: " ++ failure.message)

def Effect.outcome (effect : Effect) (json : Bool) (log : List Event) : Outcome where
  status := (effect.failure.map Failure.status).getD 0
  output := effect.output
  errors := effect.notes ++ (effect.failure.map (failureText json)).getD ""
  log := log

def runInvocation (world : World) (invocation : Invocation) : Outcome :=
  let effect :=
    match world.settingsFor invocation.request with
    | .error cause => Effect.ofFailure (.settings cause)
    | .ok settings => perform world (world.context invocation settings) invocation.request
  effect.outcome invocation.json (world.log invocation)

/-- The invocation of a command line, in an environment that may name a dialect. -/
def World.invocation (world : World) (arguments : List String) : Except Usage Invocation :=
  readArguments (world.env? "OFQ_TARGET") arguments

/-- Runs a command line, unless it asks for help or is wrong. -/
def run (world : World) (arguments : List String) : Except Usage Outcome :=
  (world.invocation arguments).map (runInvocation world)

end TaskFilter.Command
