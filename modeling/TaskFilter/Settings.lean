import TaskFilter.Script.Dialect
import TaskFilter.Toml.Document

/-!
# Settings

What a settings file can say: the dialect, whether warnings count as errors, and whether output is
coloured. Everything may be left out, and names that mean nothing are skipped; a value of the wrong type
makes the whole file invalid.
-/

namespace TaskFilter

open TaskFilter.Toml (Entries Item)

structure Settings where
  dialect : Option Dialect := none
  /-- Whether warnings stop a filter from being compiled. -/
  warningsAsErrors : Option Bool := none
  color : Option Bool := none
  deriving DecidableEq, Repr

inductive SettingsError where
  /-- The file cannot be parsed, or holds a value of the wrong type. -/
  | invalid
  /-- The file was written for a later version. -/
  | tooNew (version : Nat)
  deriving DecidableEq, Repr

namespace Settings

/-- The version of settings files that is understood. -/
def version : Nat := 1

/-- The dialect of an item: its name, or a table or braces with the name as its only entry and nothing
under it. -/
def dialectOf? : Item → Option Dialect
  | .string name => named? name
  | .table _ [(name, item)] => if isEmpty item then named? name else none
  | _ => none
where
  named? (name : String) : Option Dialect :=
    [Dialect.jxa, Dialect.omnijs].find? (·.name == name)
  isEmpty : Item → Bool
    | .table _ entries => entries.isEmpty
    | .array items => items.isEmpty
    | .tables elements => elements.isEmpty
    | _ => false

def flagOf? : Item → Option Bool
  | .boolean value => some value
  | _ => none

/-- The flag under a name, if the name is there. -/
def flagUnder? (name : String) (entries : Entries) : Option (Option Bool) :=
  match entries.lookup name with
  | none => some none
  | some item => (flagOf? item).map some

/-- A group of settings with one flag: a table with the flag under its name, or an array with the flag as
its first item. A moment is a group without the flag. -/
def groupFlag? (name : String) : Item → Option (Option Bool)
  | .table _ entries => flagUnder? name entries
  | .array (first :: _) => (flagOf? first).map some
  | .moment => some none
  | _ => none

/-- The flag of a group under a name, if the group is there. -/
def flagIn? (group name : String) (entries : Entries) : Option (Option Bool) :=
  match entries.lookup group with
  | none => some none
  | some item => groupFlag? name item

/-- The version of the file, which is an unsigned number of 32 bits. -/
def versionOf? (entries : Entries) : Option Nat :=
  match entries.lookup "version" with
  | none => some version
  | some (.integer (.ofNat n)) => if n < Nat.pow 2 32 then some n else none
  | some _ => none

def dialectIn? (entries : Entries) : Option (Option Dialect) :=
  match entries.lookup "target" with
  | none => some none
  | some item => (dialectOf? item).map some

/-- The version and the settings of the items of a file. -/
def ofEntries? (entries : Entries) : Option (Nat × Settings) := do
  let fileVersion ← versionOf? entries
  let dialect ← dialectIn? entries
  let warningsAsErrors ← flagIn? "validation" "warnings_as_errors" entries
  let color ← flagIn? "output" "color" entries
  some (fileVersion, ⟨dialect, warningsAsErrors, color⟩)

def ofText (text : String) : Except SettingsError Settings :=
  match (Toml.ofText? text).bind ofEntries? with
  | none => .error .invalid
  | some (fileVersion, settings) =>
    if version < fileVersion then .error (.tooNew fileVersion) else .ok settings

end Settings

def SettingsError.message : SettingsError → String
  | .invalid => "Failed to parse config"
  | .tooNew fileVersion =>
    "Config version " ++ Nat.repr fileVersion ++ " is newer than supported version " ++
      Nat.repr Settings.version

end TaskFilter
