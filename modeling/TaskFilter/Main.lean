import TaskFilter.Command.Run

/-!
# The program

The outer layer: it gathers what a run depends on, runs, and prints. Only what the run will ask for is
read, so that nothing waits for an input that no command needs. The lines of the log tell no moment.
-/

namespace TaskFilter.Program

open TaskFilter.Command

/-- The reason for which a file could not be read. -/
def accessError : IO.Error → AccessError
  | .noFileOrDirectory .. => .notFound
  | .permissionDenied .. => .denied
  | .inappropriateType .. => .isADirectory
  | .noSuchThing .. => .noDevice
  | _ => .notFound

def decode (bytes : ByteArray) : Except AccessError String :=
  match String.fromUTF8? bytes with
  | some text => .ok text
  | none => .error .notText

def readText (path : String) : IO (Except AccessError String) := do
  try
    return decode (← IO.FS.readBinFile path)
  catch e => return .error (accessError e)

/-- The variables that a run asks for. -/
def variableNames : List String :=
  ["OFQ_CONFIG", "OFQ_TARGET", "XDG_CONFIG_HOME", "HOME", "NO_COLOR"]

/-- A world with these variables and texts, and nothing handed to the run. -/
def worldOf (environment : List (String × String)) (texts : List (String × Except AccessError String)) :
    World where
  env? name := environment.lookup name
  accountHome := none
  textAt path := (texts.lookup path).getD (.error .notFound)
  standardInput := .ok ""

def inputPath? : Request → Option String
  | .input _ (.file path) _ => some path
  | _ => none

/-- Whether a request reads what is handed to the run. -/
def readsStandardInput : Request → Bool
  | .input _ .standardInput _ => true
  | _ => false

/-- Gathers what an invocation depends on. -/
def gather (environment : List (String × String)) (invocation : Invocation) : IO World := do
  let settingsPath := (worldOf environment []).settingsPath.toOption
  let paths := settingsPath.toList ++ (inputPath? invocation.request).toList
  let texts ← paths.mapM fun path => return (path, ← readText path)
  let found ← paths.filterM fun path => (System.mkFilePath [path]).pathExists
  let world := { worldOf environment texts with present := found.contains }
  if readsStandardInput invocation.request then
    let bytes ← (← IO.getStdin).readBinToEnd
    return { world with standardInput := decode bytes }
  else return world

def report (outcome : Outcome) : IO UInt32 := do
  IO.print outcome.output
  IO.eprint (outcome.standardError fun _ event => event.line "")
  return outcome.status.toUInt32

end TaskFilter.Program

open TaskFilter.Command TaskFilter.Program in
def main (arguments : List String) : IO UInt32 := do
  let environment ← variableNames.filterMapM fun name => do
    return (← IO.getEnv name).map (name, ·)
  match (worldOf environment []).invocation arguments with
  | .error .help => return 0
  | .error .wrong => return 2
  | .ok invocation => report (runInvocation (← gather environment invocation) invocation)
