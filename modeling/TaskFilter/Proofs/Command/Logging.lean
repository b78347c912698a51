import TaskFilter.Proofs.Command.Stages
import TaskFilter.Proofs.Record.Ignoring

/-!
# The log of a run

The lines of the log stand on the channel for errors, and everything else that is printed there stands behind
them. A run that is shown warnings only logs what it ignores of a record. Nothing is ignored of a tree.

## Layers

- **Channels**: what is told behind the log (`Outcome.Tells`), and runs that differ in their logs only
  (`Outcome.SameButLog`).
- **Events**: which events of a run are warnings (`filter_eventsOfInput`, `filter_eventsOn`).
- **Logs**: what is logged for a command with an input (`log_of_input`), and without settings
  (`log_of_settings_error`).
-/

namespace TaskFilter.Command

/-! ## Channels -/

/-- Behind the lines of the log, whatever they look like, the channel for errors holds one more text, and that
is as it should be. -/
def Outcome.Tells (outcome : Outcome) (property : String → Prop) : Prop :=
  ∀ write, ∃ text, outcome.standardError write = outcome.logText write ++ text ∧ property text

theorem tells_of_errors {outcome : Outcome} {property : String → Prop} (h : property outcome.errors) :
    outcome.Tells property :=
  fun _ => ⟨outcome.errors, rfl, h⟩

/-- The runs end alike: with one status, and with the same on both channels, but for the lines of the log. -/
structure Outcome.SameButLog (outcome other : Outcome) : Prop where
  status : outcome.status = other.status
  output : outcome.output = other.output
  errors : outcome.errors = other.errors

theorem Outcome.SameButLog.eq_of_log {outcome other : Outcome} (same : outcome.SameButLog other)
    (log : outcome.log = other.log) : outcome = other := by
  obtain ⟨status, output, errors, events⟩ := outcome
  obtain ⟨rfl, rfl, rfl⟩ := same
  obtain rfl : events = other.log := log
  rfl

section

variable {write : Nat → Event → String} (visible : ∀ n event, write n event ≠ "")

include visible

/-- A log of lines that are not empty is empty only if nothing is logged. -/
theorem logText_eq_empty_iff {outcome : Outcome} : outcome.logText write = "" ↔ outcome.log = [] := by
  rw [Outcome.logText]
  cases outcome.log with
  | nil => exact iff_of_true rfl rfl
  | cons event rest =>
    rw [List.mapIdx_cons, String.join_cons, String.append_eq_empty_iff]
    exact iff_of_false (fun empty => visible 0 event empty.1) (List.cons_ne_nil _ _)

/-- A run that logs nothing has the same on the channel for errors as one that ends alike, if and only if that
logs nothing either. -/
theorem Outcome.SameButLog.standardError_eq_iff {outcome other : Outcome} (same : outcome.SameButLog other)
    (silent : outcome.log = []) :
    outcome.standardError write = other.standardError write ↔ other.log = [] := by
  rw [Outcome.standardError, Outcome.standardError, (logText_eq_empty_iff visible).mpr silent, same.errors,
    String.empty_append, eq_comm, String.append_eq_right_iff, logText_eq_empty_iff visible]

end

/-- A line of which the moment is dimmed. -/
def dimmedLine (moment : String) (_ : Nat) (event : Event) : String :=
  event.line (Text.Style.dimmed.apply moment)

/-- With such lines a log makes the channel for errors no JSON text. -/
theorem root_standardError {outcome : Outcome} {moment : String} (logged : outcome.log ≠ []) :
    (Json.Source.ofText (outcome.standardError (dimmedLine moment))).root = .broken := by
  obtain ⟨event, rest, log⟩ := List.exists_cons_of_ne_nil logged
  obtain ⟨behind, first⟩ : ∃ behind, (dimmedLine moment 0 event).toList = '\x1b' :: behind := by
    simp only [dimmedLine, Event.line, Text.Style.apply, Text.controlSequence, String.toList_append]
    exact ⟨_, rfl⟩
  have whole : (outcome.standardError (dimmedLine moment)).toList = '\x1b' :: (behind ++
      ((String.join (rest.mapIdx fun n => dimmedLine moment (n + 1))).toList ++ outcome.errors.toList)) := by
    rw [Outcome.standardError, Outcome.logText, log, List.mapIdx_cons, String.join_cons,
      String.toList_append, String.toList_append, first]
    simp
  exact Json.Source.root_of_stray whole rfl rfl

/-! ## Events -/

variable {world : World} {invocation : Invocation} {verb : InputVerb} {source : Source} {asTree : Bool}

/-- What is ignored of an input that is read as a record. -/
def World.ignored (world : World) (source : Source) : List Event :=
  ((world.sourceText source).toOption.map fun text => Record.ignoredIn (Text.trim text)).getD []

theorem filter_eventsOfSettings (world : World) :
    world.eventsOfSettings.filter (Event.isShown false) = [] := by
  rw [World.eventsOfSettings]
  cases world.settingsPath with
  | error cause => rfl
  | ok path =>
    show (if _ then _ else _ : List Event).filter _ = _
    split <;> rfl

/-- Loading an input warns of what is ignored of it. -/
theorem filter_eventsOfInput (world : World) (source : Source) (asTree : Bool) :
    (world.eventsOfInput source asTree).filter (Event.isShown false) =
      if asTree then [] else world.ignored source := by
  have asked : source.events.filter (Event.isShown false) = [] := by
    cases source <;> rfl
  rw [World.eventsOfInput, List.filter_append, asked, List.nil_append, World.ignored]
  cases world.sourceText source with
  | error cause => cases asTree <;> rfl
  | ok text =>
    cases asTree with
    | true => rfl
    | false => exact Record.filter_eventsOfText (Text.trim text)

/-- Commands do not warn. -/
theorem filter_eventsOn (context : Context) (tree : Tree) (verb : InputVerb) :
    (eventsOn context tree verb).filter (Event.isShown false) = [] := by
  cases verb with
  | tree | check => rfl
  | compile =>
    rw [eventsOn, eventsOfCompiling]
    cases compileTree context.dialect tree with
    | ok compiled => rfl
    | error cause => cases cause <;> rfl

/-! ## Logs -/

/-- The run is shown warnings only: neither the environment nor the command line asks for anything else. -/
structure World.WarnsOnly (world : World) (invocation : Invocation) : Prop where
  unfiltered : world.logFilter? = none
  terse : invocation.verbose = false

theorem log_of_warnsOnly (plain : world.WarnsOnly invocation) :
    world.log invocation = (world.events invocation).filter (Event.isShown false) := by
  rw [World.log, plain.unfiltered, plain.terse]
  rfl

/-- Without settings nothing is read, and nothing ignored. -/
theorem log_of_settings_error (plain : world.WarnsOnly invocation)
    (asked : invocation.request = .input verb source asTree) {cause : SettingsFailure}
    (h : world.settings = .error cause) : world.log invocation = [] := by
  have stopped : world.settingsFor invocation.request = .error cause := by
    rw [World.settingsFor, h, asked]
    rfl
  rw [log_of_warnsOnly plain, World.events, stopped, List.filter_append, filter_eventsOfSettings]
  rfl

theorem log_of_input (plain : world.WarnsOnly invocation)
    (asked : invocation.request = .input verb source asTree) {settings : Settings}
    (own : world.settings = .ok settings) :
    world.log invocation = if asTree then [] else world.ignored source := by
  have granted : world.settingsFor invocation.request = .ok settings := by
    rw [World.settingsFor, own]
  rw [log_of_warnsOnly plain, World.events, granted, List.filter_append, filter_eventsOfSettings, asked]
  show (World.eventsOfInput .. ++ _).filter _ = _
  rw [List.filter_append, filter_eventsOfInput]
  cases world.loadTree source asTree with
  | ok tree =>
    show _ ++ (eventsOn _ tree verb).filter _ = _
    rw [filter_eventsOn, List.append_nil]
  | error failure => exact List.append_nil _

/-- Of a record as it is written, only biases are ignored. -/
theorem ignored_handed (record : Record) :
    (World.handed record.toJson.compact).ignored .standardInput = record.ignoredBiases :=
  Record.ignoredIn_of_spells (Json.spells_trim (Json.spells_compact record.integral_toJson))

theorem log_handed {record : Record} (terse : invocation.verbose = false)
    (asked : invocation.request = .input verb .standardInput false) :
    (World.handed record.toJson.compact).log invocation = record.ignoredBiases := by
  have plain : (World.handed record.toJson.compact).WarnsOnly invocation := ⟨rfl, terse⟩
  have own : (World.handed record.toJson.compact).settings = .ok {} := rfl
  rw [log_of_input plain asked own]
  exact ignored_handed record

end TaskFilter.Command
