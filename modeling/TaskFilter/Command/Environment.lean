import TaskFilter.Command.Arguments
import TaskFilter.Command.Failure

/-!
# Where settings come from

The place of the settings file, the settings it holds, and what follows from them together with the
command line and the environment. Arguments win over the file, and the file over what is built in.
-/

namespace TaskFilter.Command

def joinPath (base name : String) : String :=
  if base.isEmpty then name
  else if base.toList.getLast? = some '/' then base ++ name
  else base ++ "/" ++ name

/-- The path of names below a base. -/
def pathBelow (base : String) (names : List String) : String :=
  names.foldl joinPath base

namespace World

/-- The home directory: the variable for it, unless that is empty, or else the home of the account. -/
def home? (world : World) : Option String :=
  ((world.env? "HOME").filter (! ·.isEmpty)).or world.accountHome

/-- The path of the settings file: the one that a variable names, or else a fixed place below the
directory for settings, or else below the home directory. -/
def settingsPath (world : World) : Except SettingsFailure String :=
  match world.env? "OFQ_CONFIG", world.env? "XDG_CONFIG_HOME", world.home? with
  | some path, _, _ => .ok path
  | none, some base, _ => .ok (pathBelow base ["ofq", "config.toml"])
  | none, none, some home => .ok (pathBelow home [".config", "ofq", "config.toml"])
  | none, none, none => .error .noPlace

/-- What is said of a settings file that is refused: its reader's words, unless it was read and is meant for
a later version. -/
def wordsOnSettings (world : World) (text : String) : SettingsError → Option String
  | .invalid => world.words.settings text
  | .tooNew _ => none

/-- The settings of the file at a path; without a file nothing is set. -/
def settingsAt (world : World) (path : String) : Except SettingsFailure Settings :=
  if world.present path then
    match world.textAt path with
    | .ok text =>
      (Settings.ofText text).mapError fun cause => .unusable cause (world.wordsOnSettings text cause)
    | .error cause => .error (.unreadable cause)
  else .ok {}

def settings (world : World) : Except SettingsFailure Settings := do
  world.settingsAt (← world.settingsPath)

end World

structure Context where
  json : Bool
  colors : Bool
  quiet : Bool
  dialect : Dialect
  warningsAsErrors : Bool
  deriving DecidableEq, Repr

/-- What a command goes by, from the arguments, the settings and the environment. -/
def World.context (world : World) (invocation : Invocation) (settings : Settings) : Context where
  json := invocation.json
  colors := !invocation.noColor && settings.color.getD true && (world.env? "NO_COLOR").isNone
  quiet := invocation.quiet
  dialect := (invocation.dialect.or settings.dialect).getD .standard
  warningsAsErrors := settings.warningsAsErrors.getD false

end TaskFilter.Command
