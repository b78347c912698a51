import TaskFilter.Command.FileTree
import TaskFilter.Proofs.Command.Logging
import TaskFilter.Proofs.Report.Writing
import TaskFilter.Proofs.Validation.Causes

/-!
# The status of a run, and what it prints

The status of a run of a command with an input says which stage failed first: the settings, the reading of
the input, what was read, or the work of the command. A run that fails prints nothing but the failure, save
that checking prints the report that it judges by.

## Layers

- **Stages**: what it means for a stage to fail (`World.Spoilt`, `World.Refused`, `Fault`), and that nothing
  else makes it fail (`exists_settings_error_iff`, `refused_iff`, `failure_ne_none_iff`).
- **Order**: the first stage that fails is the one that preparation ends with (`prepares`).
- **Channels**: what may be printed by a run that fails (`Outcome.Clean`), and a failure as one JSON document
  (`tellsError_failureText`).
- **Main statement**: `status_and_channels`, which joins `status_runInvocation` and `clean_runInvocation`.
-/

namespace TaskFilter.Command

open Json (mapError_eq_ok_iff)
open Validation (validate)

variable {world : World} {invocation : Invocation} {verb : InputVerb} {source : Source} {asTree : Bool}

/-! ## Settings -/

/-- The settings file is found at its place, and cannot be used. -/
inductive World.Spoilt (world : World) (path : String) : Prop where
  /-- No text can be read from it. -/
  | unreadable (cause : AccessError) (present : world.present path = true)
      (h : world.textAt path = .error cause)
  /-- It is no settings file by its syntax, or by the types of its values. -/
  | malformed (text : String) (present : world.present path = true) (found : world.textAt path = .ok text)
      (h : (Toml.ofText? text).bind Settings.ofEntries? = none)
  /-- It was written for a later version. -/
  | tooNew (text : String) (version : Nat) (settings : Settings) (present : world.present path = true)
      (found : world.textAt path = .ok text)
      (h : (Toml.ofText? text).bind Settings.ofEntries? = some (version, settings))
      (later : Settings.version < version)

theorem World.Spoilt.present {path : String} (spoilt : world.Spoilt path) : world.present path = true := by
  cases spoilt <;> assumption

/-- A text holds no settings if it is malformed, or meant for a later version. -/
theorem ofText_eq_error_iff {text : String} :
    (∃ cause, Settings.ofText text = .error cause) ↔
      (Toml.ofText? text).bind Settings.ofEntries? = none ∨
        ∃ version settings, (Toml.ofText? text).bind Settings.ofEntries? = some (version, settings) ∧
          Settings.version < version := by
  rw [Settings.ofText]
  cases (Toml.ofText? text).bind Settings.ofEntries? with
  | none => simp
  | some read =>
    obtain ⟨version, settings⟩ := read
    by_cases later : Settings.version < version <;> simp [later]

theorem exists_settingsAt_error_iff {path : String} :
    (∃ cause, world.settingsAt path = .error cause) ↔ world.Spoilt path := by
  rw [World.settingsAt]
  cases present : world.present path with
  | false =>
    -- a file that is not there is no fault
    refine iff_of_false (by rintro ⟨_, ⟨⟩⟩) fun spoilt => ?_
    rw [spoilt.present] at present
    cases present
  | true =>
    rw [if_pos rfl]
    cases found : world.textAt path with
    | error cause => exact iff_of_true ⟨_, rfl⟩ (.unreadable cause present found)
    | ok text =>
      have passed : (∃ cause, (Settings.ofText text).mapError (fun cause =>
            SettingsFailure.unusable cause (world.wordsOnSettings text cause)) = .error cause) ↔
          ∃ cause, Settings.ofText text = .error cause := by
        cases Settings.ofText text <;> simp [Except.mapError]
      rw [passed, ofText_eq_error_iff]
      constructor
      · rintro (h | ⟨version, settings, h, later⟩)
        · exact .malformed text present found h
        · exact .tooNew text version settings present found h later
      · rintro (⟨cause, -, unread⟩ | ⟨other, -, again, h⟩ |
          ⟨other, version, settings, -, again, h, later⟩)
        · rw [found] at unread
          cases unread
        · obtain rfl := Except.ok.inj (found.symm.trans again)
          exact .inl h
        · obtain rfl := Except.ok.inj (found.symm.trans again)
          exact .inr ⟨version, settings, h, later⟩

/-- There can be no settings: no place for them can be told, or there is a file at their place that cannot be
used. -/
def World.Unsettled (world : World) : Prop :=
  world.settingsPath = .error .noPlace ∨ ∃ path, world.settingsPath = .ok path ∧ world.Spoilt path

theorem exists_settings_error_iff : (∃ cause, world.settings = .error cause) ↔ world.Unsettled := by
  -- the place is the only thing that the path can fail for
  have onlyPlace : ∀ {cause}, world.settingsPath = .error cause → cause = .noPlace := by
    intro cause h
    rw [World.settingsPath] at h
    split at h <;> cases h
    rfl
  rw [World.settings, World.Unsettled]
  cases place : world.settingsPath with
  | error cause =>
    obtain rfl := onlyPlace place
    exact iff_of_true ⟨_, rfl⟩ (.inl rfl)
  | ok path =>
    show (∃ cause, world.settingsAt path = .error cause) ↔ _
    rw [exists_settingsAt_error_iff]
    constructor
    · exact fun spoilt => .inr ⟨path, rfl, spoilt⟩
    · rintro (⟨⟨⟩⟩ | ⟨_, ⟨⟩, spoilt⟩)
      exact spoilt

/-! ## Inputs -/

/-- The input is there and is not one that the command takes: nothing but white space, or a text that is not
read as a record, or as a tree where that was asked for. -/
def World.Refused (world : World) (source : Source) (asTree : Bool) : Prop :=
  ∃ text, world.sourceText source = .ok text ∧
    (Text.trim text = "" ∨
      if asTree then ∃ cause, Tree.ofText (Text.trim text) = .error cause
      else ∃ cause, Record.ofText (Text.trim text) = .error cause)

theorem exists_readInput_error_iff {text : String} :
    (∃ cause, readInput text asTree = .error cause) ↔
      Text.trim text = "" ∨
        if asTree then ∃ cause, Tree.ofText (Text.trim text) = .error cause
        else ∃ cause, Record.ofText (Text.trim text) = .error cause := by
  rw [← String.isEmpty_iff]
  simp only [readInput]
  cases (Text.trim text).isEmpty with
  | true => simp
  | false =>
    cases asTree with
    | true => cases Tree.ofText (Text.trim text) <;> simp [Except.mapError]
    | false => cases Record.ofText (Text.trim text) <;> simp

/-! ## The stages in their order -/

/-- How preparation ends: at the first of its stages that fails, or with what the command needs. -/
inductive World.Prepares (world : World) (source : Source) (asTree : Bool) :
    Except Failure (Settings × Tree) → Prop where
  /-- Nothing else is looked at where the settings fail. -/
  | settings (cause : SettingsFailure) (h : world.settings = .error cause) :
      Prepares world source asTree (.error (.settings cause))
  | access (settings : Settings) (cause : AccessError) (own : world.settings = .ok settings)
      (h : world.sourceText source = .error cause) :
      Prepares world source asTree (.error (.access cause))
  /-- A text was found, and is refused. -/
  | input (settings : Settings) (text : String) (cause : InputError)
      (own : world.settings = .ok settings) (found : world.sourceText source = .ok text)
      (h : readInput text asTree = .error cause) :
      Prepares world source asTree (.error (.input cause (world.wordsOnInput text cause)))
  | ready (settings : Settings) (text : String) (tree : Tree) (own : world.settings = .ok settings)
      (found : world.sourceText source = .ok text) (h : readInput text asTree = .ok tree) :
      Prepares world source asTree (.ok (settings, tree))

theorem prepares (world : World) (source : Source) (asTree : Bool) :
    world.Prepares source asTree (world.prepare source asTree) := by
  cases own : world.settings with
  | error cause =>
    rw [prepare_of_settings_error own]
    exact .settings cause own
  | ok settings =>
    cases found : world.sourceText source with
    | error cause =>
      have stopped : world.loadTree source asTree = .error (.access cause) := by
        rw [World.loadTree, found]
        rfl
      rw [prepare_of_loadTree_error own stopped]
      exact .access settings cause own found
    | ok text =>
      have loaded : world.loadTree source asTree = (readInput text asTree).mapError fun cause =>
          .input cause (world.wordsOnInput text cause) := by
        rw [World.loadTree, found]
        rfl
      cases read : readInput text asTree with
      | error cause =>
        rw [read] at loaded
        rw [prepare_of_loadTree_error own loaded]
        exact .input settings text cause own found read
      | ok tree =>
        rw [read] at loaded
        rw [prepare_eq_ok_iff.mpr ⟨own, loaded⟩]
        exact .ready settings text tree own found read

/-! ## Commands -/

/-- Why a command that was given a tree fails: an error is found in the tree, or no expression for it, or there
are warnings that count as errors. A command that only prints the tree does not fail. -/
inductive Fault (context : Context) (tree : Tree) : InputVerb → Prop where
  /-- An error is found, for every command that judges the tree. -/
  | error {verb : InputVerb} (judges : verb ≠ .tree) (h : (validate tree).errors ≠ []) :
      Fault context tree verb
  /-- Only compiling looks for an expression. -/
  | inexpressible (cause : Script.EmissionError)
      (h : Script.emit context.dialect tree = .error cause) : Fault context tree .compile
  | warning {verb : InputVerb} (judges : verb ≠ .tree) (counted : context.warningsAsErrors = true)
      (h : (validate tree).warnings ≠ []) : Fault context tree verb

variable {context : Context} {tree : Tree}

/-- A tree is valid if no errors are found in it. -/
theorem valid_iff : (validate tree).valid = true ↔ (validate tree).errors = [] := by
  rw [validate, Validation.reportOf, List.isEmpty_iff, List.map_eq_nil_iff]

/-- Checking fails for findings only. -/
theorem verdict_ne_none_iff : verdict context (validate tree) ≠ none ↔
    (validate tree).errors ≠ [] ∨
      (context.warningsAsErrors = true ∧ (validate tree).warnings ≠ []) := by
  rw [verdict]
  cases valid : (validate tree).valid with
  | false =>
    have found : (validate tree).errors ≠ [] := by
      intro none
      rw [valid_iff.mpr none] at valid
      cases valid
    exact iff_of_true (by simp) (.inl found)
  | true =>
    have clean := valid_iff.mp valid
    rw [Report.hasWarnings]
    cases context.warningsAsErrors <;> cases (validate tree).warnings <;> simp [clean]

/-- Findings are the only faults of a tree that is not to be compiled, or whose expression is to be had if
nothing is wrong with it. -/
theorem fault_iff_verdict (judges : verb ≠ .tree)
    (expressed : verb = .compile → (validate tree).valid = true →
      ∃ e, Script.emit context.dialect tree = .ok e) :
    Fault context tree verb ↔ verdict context (validate tree) ≠ none := by
  rw [verdict_ne_none_iff]
  constructor
  · intro fault
    cases fault with
    | error _ h => exact .inl h
    | warning _ counted h => exact .inr ⟨counted, h⟩
    | inexpressible cause h =>
      -- so something is wrong with the tree
      left
      intro clean
      obtain ⟨e, emitted⟩ := expressed rfl (valid_iff.mpr clean)
      rw [h] at emitted
      cases emitted
  · rintro (h | ⟨counted, h⟩)
    · exact .error judges h
    · exact .warning judges counted h

/-- A command fails for a fault, and for nothing else. -/
theorem failure_ne_none_iff : (performOn context tree verb).failure ≠ none ↔ Fault context tree verb := by
  cases verb with
  | tree =>
    -- showing a tree judges nothing
    refine iff_of_false (fun h => h rfl) ?_
    rintro (⟨judges, -⟩ | _ | ⟨judges, -, -⟩) <;> exact judges rfl
  | check =>
    show verdict context (validate tree) ≠ none ↔ _
    exact (fault_iff_verdict (by decide) fun same => by cases same).symm
  | compile =>
    -- an expression is looked for only if the tree is valid
    by_cases lost : ∃ cause, (validate tree).valid = true ∧ Script.emit context.dialect tree = .error cause
    · obtain ⟨cause, valid, refused⟩ := lost
      rw [performOn_compile_of_emit_error valid refused]
      exact iff_of_true nofun (.inexpressible cause refused)
    · have expressed : (validate tree).valid = true → ∃ e, Script.emit context.dialect tree = .ok e := by
        intro valid
        cases emitted : Script.emit context.dialect tree with
        | ok e => exact ⟨e, rfl⟩
        | error cause => exact absurd ⟨cause, valid, emitted⟩ lost
      rw [failure_compile_eq_verdict expressed]
      exact (fault_iff_verdict (by decide) fun _ => expressed).symm

/-- Whatever compiling fails for, the filter is refused. -/
theorem status_of_compileIn {failure : Failure} (h : compileIn context tree = .error failure) :
    failure.status = 1 := by
  cases compiled : compileTree context.dialect tree with
  | error cause =>
    rw [compileIn, compiled] at h
    cases h
    rfl
  | ok result =>
    rw [compileIn_of_compiled compiled] at h
    split at h <;> cases h
    rfl

/-- A command that fails has the status of a refused filter, and said nothing but what it failed for. Checking
gives its report as well. -/
theorem performOn_of_failure {failure : Failure} (h : (performOn context tree verb).failure = some failure) :
    failure.status = 1 ∧ (performOn context tree verb).notes = "" ∧
      (verb ≠ .check → (performOn context tree verb).output = "") := by
  cases verb with
  | tree => cases h
  | check => exact ⟨status_of_verdict h, rfl, fun other => absurd rfl other⟩
  | compile =>
    rw [performOn] at *
    cases done : compileIn context tree with
    | error cause =>
      rw [done] at h
      obtain rfl : cause = failure := Option.some.inj h
      exact ⟨status_of_compileIn done, rfl, fun _ => rfl⟩
    | ok compiled =>
      rw [done] at h
      rw [failure_showCompiled] at h
      cases h

/-! ## Failures as JSON -/

/-- The codes of the failures with a status. -/
def codesOf : Nat → List String
  | 1 => ["FILTER_REJECTED", "EMIT_ERROR", "WARNINGS_AS_ERRORS"]
  | 3 => ["IO_ERROR"]
  | 4 => ["INPUT_ERROR"]
  | 5 => ["CONFIG_ERROR"]
  | _ => []

theorem code_mem_codesOf (failure : Failure) : failure.code ∈ codesOf failure.status := by
  cases failure with
  | uncompiled cause =>
    cases cause with
    | rejected report => exact List.mem_cons_self
    | inexpressible cause => exact List.mem_cons_of_mem _ List.mem_cons_self
  | warnings count => exact List.mem_cons_of_mem _ (List.mem_cons_of_mem _ List.mem_cons_self)
  | input | settings | access => exact List.mem_cons_self

/-- A text is one JSON document, an object that tells of an error with one of some codes. -/
def TellsError (text : String) (codes : List String) : Prop :=
  ∃ members code, Json.Source.read Json.readValue text = .ok (.object [("error", .object members)]) ∧
    members.lookup "code" = some (.string code) ∧ code ∈ codes

theorem tellsError_failureText (failure : Failure) :
    TellsError (failureText true failure) (codesOf failure.status) :=
  ⟨_, failure.code, Json.read_line failure.flat_toJson (by decide), rfl, code_mem_codesOf failure⟩

/-! ## Runs -/

/-- What the end of a run allows to be printed. -/
structure Outcome.Clean (outcome : Outcome) (verb : InputVerb) (json : Bool) : Prop where
  silent : verb ≠ .check → outcome.status ≠ 0 → outcome.output = ""
  told : json = true → outcome.status ≠ 0 →
    outcome.Tells fun text => TellsError text (codesOf outcome.status)

/-- A run is clean if its command, where it fails, noted nothing, and printed nothing but a report. -/
theorem clean_outcome {effect : Effect} {json : Bool} {log : List Event}
    (h : ∀ failure, effect.failure = some failure →
      effect.notes = "" ∧ (verb ≠ .check → effect.output = "")) :
    (effect.outcome json log).Clean verb json := by
  cases failed : effect.failure with
  | none =>
    have success : (effect.outcome json log).status = 0 := status_outcome_eq_zero_iff.mpr failed
    exact ⟨fun _ failing => absurd success failing, fun _ failing => absurd success failing⟩
  | some failure =>
    obtain ⟨noted, silent⟩ := h failure failed
    constructor
    · exact fun other _ => silent other
    · rintro rfl -
      apply tells_of_errors
      rw [status_outcome_of_failure failed, errors_outcome_of_failure noted failed]
      exact tellsError_failureText failure

/-- A run is clean: what fails before the command begins prints nothing, and a command that fails prints no
more than its failure. -/
theorem clean_runInvocation (asked : invocation.request = .input verb source asTree) :
    (runInvocation world invocation).Clean verb invocation.json := by
  cases ready : world.prepare source asTree with
  | error failure =>
    rw [runInvocation_of_unprepared asked ready]
    apply clean_outcome
    rintro _ ⟨⟩
    exact ⟨rfl, fun _ => rfl⟩
  | ok prepared =>
    obtain ⟨settings, tree⟩ := prepared
    rw [runInvocation_of_prepared asked ready]
    apply clean_outcome
    intro failure failed
    exact (performOn_of_failure failed).2

/-- Nothing is printed for an input that was not read. -/
theorem exists_loadTree_of_output (asked : invocation.request = .input verb source asTree)
    (printed : (runInvocation world invocation).output ≠ "") :
    ∃ tree, world.loadTree source asTree = .ok tree := by
  cases ready : world.prepare source asTree with
  | error failure =>
    rw [runInvocation_of_unprepared asked ready] at printed
    exact absurd rfl printed
  | ok prepared =>
    obtain ⟨settings, tree⟩ := prepared
    exact ⟨tree, (prepare_eq_ok_iff.mp ready).2⟩

/-- Of a run that was prepared, the status tells whether there is a fault. -/
theorem status_of_prepared {settings : Settings} {tree : Tree}
    (asked : invocation.request = .input verb source asTree)
    (ready : world.prepare source asTree = .ok (settings, tree)) :
    (Fault (world.context invocation settings) tree verb →
        (runInvocation world invocation).status = 1) ∧
      (¬ Fault (world.context invocation settings) tree verb →
        (runInvocation world invocation).status = 0) := by
  rw [runInvocation_of_prepared asked ready, ← failure_ne_none_iff, status_outcome_eq_zero_iff,
    not_ne_iff]
  refine ⟨fun fails => ?_, id⟩
  obtain ⟨failure, failed⟩ := Option.ne_none_iff_exists'.mp fails
  rw [status_outcome_of_failure failed]
  exact (performOn_of_failure failed).1

theorem not_unsettled {settings : Settings} (own : world.settings = .ok settings) : ¬ world.Unsettled := by
  intro stopped
  obtain ⟨cause, h⟩ := exists_settings_error_iff.mpr stopped
  rw [own] at h
  cases h

theorem not_unread {text : String} (found : world.sourceText source = .ok text) :
    ¬ ∃ cause, world.sourceText source = .error cause := by
  rintro ⟨cause, h⟩
  rw [found] at h
  cases h

theorem refused_iff {text : String} (found : world.sourceText source = .ok text) :
    world.Refused source asTree ↔ ∃ cause, readInput text asTree = .error cause := by
  rw [exists_readInput_error_iff]
  constructor
  · rintro ⟨other, again, h⟩
    obtain rfl := Except.ok.inj (found.symm.trans again)
    exact h
  · exact fun h => ⟨text, found, h⟩

open Classical in
/-- The status by the first stage that fails. -/
theorem status_runInvocation (asked : invocation.request = .input verb source asTree) :
    (runInvocation world invocation).status =
      if world.Unsettled then 5
      else if ∃ cause, world.sourceText source = .error cause then 3
      else if world.Refused source asTree then 4
      else if ∃ settings tree, world.settings = .ok settings ∧
          world.loadTree source asTree = .ok tree ∧
          Fault (world.context invocation settings) tree verb then 1
      else 0 := by
  have stages := prepares world source asTree
  cases ready : world.prepare source asTree with
  | error failure =>
    have status : (runInvocation world invocation).status = failure.status := by
      rw [runInvocation_of_unprepared asked ready]
      rfl
    rw [status]
    rw [ready] at stages
    cases stages with
    | settings cause h =>
      rw [if_pos (exists_settings_error_iff.mp ⟨cause, h⟩)]
      rfl
    | access settings cause own h =>
      rw [if_neg (not_unsettled own), if_pos ⟨cause, h⟩]
      rfl
    | input settings text cause own found h =>
      have refused : world.Refused source asTree := (refused_iff found).mpr ⟨cause, h⟩
      rw [if_neg (not_unsettled own), if_neg (not_unread found), if_pos refused]
      rfl
  | ok prepared =>
    obtain ⟨settings, tree⟩ := prepared
    obtain ⟨failing, passing⟩ := status_of_prepared asked ready
    obtain ⟨own, loaded⟩ := prepare_eq_ok_iff.mp ready
    obtain ⟨text, found, read⟩ := loadTree_eq_ok_iff.mp loaded
    -- no stage before the command failed, so that the command decides
    have taken : ¬ world.Refused source asTree := by
      rw [refused_iff found, read]
      rintro ⟨cause, ⟨⟩⟩
    rw [if_neg (not_unsettled own), if_neg (not_unread found), if_neg taken]
    split
    next fault =>
      -- the settings and the tree are those that the command got
      obtain ⟨otherSettings, otherTree, own', loaded', fault⟩ := fault
      obtain rfl := Except.ok.inj (own.symm.trans own')
      obtain rfl := Except.ok.inj (loaded.symm.trans loaded')
      exact failing fault
    next clean => exact passing fun fault => clean ⟨settings, tree, own, loaded, fault⟩

open Classical in
/-- What is logged for a command with an input by a run that is shown warnings only. -/
theorem log_eq_ignored (plain : world.WarnsOnly invocation)
    (asked : invocation.request = .input verb source asTree) :
    (runInvocation world invocation).log =
      if asTree = true ∨ world.Unsettled then [] else world.ignored source := by
  rw [log_runInvocation]
  cases own : world.settings with
  | error cause =>
    rw [if_pos (.inr (exists_settings_error_iff.mp ⟨cause, own⟩))]
    exact log_of_settings_error plain asked own
  | ok settings =>
    rw [log_of_input plain asked own]
    simp only [not_unsettled own, or_false]

open Classical in
/-- For every world and every command line that asks for a command with an input, the status tells the first
stage that fails: 5 if no place for the settings file can be told, or if a file is found at the place and cannot
be used, 3 for an input that cannot be read, 4 for an input that is refused, 1 for a fault that the command
finds, and 0 if nothing fails. Compiling and showing a tree print no output if they fail, and checking prints
output for inputs that were read only. A run that fails says so behind its log, in one JSON document, with a
code that belongs to the status, if JSON was asked for; and if the run is shown warnings only, its log tells
what is ignored of a record, and nothing else. -/
theorem status_and_channels {line : List String} (asks : world.invocation line = .ok invocation)
    (asked : invocation.request = .input verb source asTree) :
    ∃ outcome, run world line = .ok outcome ∧
      outcome.status =
        (if world.Unsettled then 5
        else if ∃ cause, world.sourceText source = .error cause then 3
        else if world.Refused source asTree then 4
        else if ∃ settings tree, world.settings = .ok settings ∧
            world.loadTree source asTree = .ok tree ∧
            Fault (world.context invocation settings) tree verb then 1
        else 0) ∧
      (verb ≠ .check → outcome.status ≠ 0 → outcome.output = "") ∧
      (outcome.output ≠ "" → ∃ tree, world.loadTree source asTree = .ok tree) ∧
      (invocation.json = true → outcome.status ≠ 0 →
        outcome.Tells fun text => TellsError text (codesOf outcome.status)) ∧
      (world.WarnsOnly invocation →
        outcome.log = if asTree = true ∨ world.Unsettled then [] else world.ignored source) := by
  have clean : (runInvocation world invocation).Clean verb invocation.json := clean_runInvocation asked
  exact ⟨_, run_of_invocation asks, status_runInvocation asked, clean.silent,
    exists_loadTree_of_output asked, clean.told, fun plain => log_eq_ignored plain asked⟩

/-- Blanks are no input. A check of them ends with status 4 and says so in JSON, without a report and without a
log. -/
theorem status_and_channels_blank :
    ∃ outcome, run (World.handed "  ") ["check", "--json"] = .ok outcome ∧ outcome.status = 4 ∧
      outcome.output = "" ∧ (outcome.Tells fun text => TellsError text ["INPUT_ERROR"]) ∧
      outcome.log = [] := by
  have asks : (World.handed "  ").invocation ["check", "--json"] =
      .ok { request := .input .check .standardInput false, json := true } := rfl
  obtain ⟨outcome, ran, status, -, printed, told, logged⟩ := status_and_channels asks rfl
  have refused : (World.handed "  ").Refused .standardInput false := ⟨"  ", rfl, .inl (by decide)⟩
  have four : outcome.status = 4 := by
    rw [status, if_neg (not_unsettled (show (World.handed "  ").settings = .ok {} from rfl)),
      if_neg (not_unread (show (World.handed "  ").sourceText .standardInput = .ok "  " from rfl)),
      if_pos refused]
  refine ⟨outcome, ran, four, ?_, ?_, ?_⟩
  · by_contra some
    obtain ⟨tree, loaded⟩ := printed some
    obtain ⟨text, found, read⟩ := loadTree_eq_ok_iff.mp loaded
    obtain ⟨cause, h⟩ := (refused_iff found).mp refused
    rw [read] at h
    cases h
  · rw [four] at told
    exact told rfl (by decide)
  · have ignored : (World.handed "  ").ignored .standardInput = [] := rfl
    rw [logged ⟨rfl, rfl⟩, ignored, ite_self]

/-! ## What the status does not tell -/

/-- A world in which no variable is set and the account has no home, and which holds no text. -/
def World.homeless : World where
  env? _ := none
  accountHome := none
  textAt _ := .error .notFound
  standardInput := .ok ""

/-- Every character takes a byte at least. -/
theorem length_le_utf8ByteSize (cs : List Char) : cs.length ≤ (String.ofList cs).utf8ByteSize := by
  induction cs with
  | nil => exact Nat.zero_le _
  | cons c cs ih =>
    have one : (String.ofList [c]).utf8ByteSize = c.utf8Size := by
      rw [← String.singleton_eq_ofList, String.utf8ByteSize_singleton]
    have positive := c.utf8Size_pos
    rw [← List.singleton_append, String.ofList_append, String.utf8ByteSize_append, one,
      List.length_append, List.length_singleton]
    omega

/-- The name of a settings file behind more slashes than a path can have. -/
def longPath : String :=
  String.ofList ('.' :: (List.replicate FileTree.maxPath '/' ++ "config.toml".toList))

theorem textAt_longPath (tree : FileTree) : tree.textAt longPath = .error .nameTooLong := by
  apply FileTree.textAt_of_long
  · refine Nat.lt_of_lt_of_le ?_ (length_le_utf8ByteSize _)
    rw [List.length_cons, List.length_append, List.length_replicate]
    omega
  · rw [longPath, String.toList_ofList]
    simp

/-- A world in which a variable names the settings file by a path. A file is there, and is none by its
syntax. -/
def World.misled (path text : String) : World where
  env? name := if name = "OFQ_CONFIG" then some path else none
  accountHome := none
  textAt := (FileTree.ofFiles (.ok text) [("config.toml", "target = [")]).textAt
  standardInput := .ok text

theorem textAt_misled (path text other : String) : (World.misled path text).textAt other =
    (FileTree.ofFiles (.ok text) [("config.toml", "target = [")]).textAt other :=
  rfl

/-- A file that is not found under the path that is named is no hindrance. -/
theorem settings_misled {path text : String} (lost : (World.misled path text).textAt path = .error .nameTooLong) :
    (World.misled path text).settings = .ok {} := by
  have absent : (World.misled path text).present path = false := by
    show isPresent ((World.misled path text).textAt path) = false
    rw [lost]
    rfl
  show (World.misled path text).settingsAt path = _
  rw [World.settingsAt, absent]
  rfl

theorem settingsPath_misled (path text : String) : (World.misled path text).settingsPath = .ok path :=
  rfl

theorem spoilt_misled (path text : String) : (World.misled path text).Spoilt "config.toml" :=
  .malformed "target = [" rfl rfl (by decide +kernel)

/-- The filter that asks nothing is compiled, however that is shown. -/
theorem failure_compile_empty (context : Context) :
    (performOn context ({} : Record).toTree .compile).failure = none := by
  rw [failure_compile_eq_verdict fun _ => ⟨_, rfl⟩]
  obtain ⟨json, colors, quiet, dialect, warningsAsErrors⟩ := context
  cases warningsAsErrors <;> rfl

theorem status_misled {path text : String} (read : readInput text false = .ok ({} : Record).toTree)
    (lost : (World.misled path text).textAt path = .error .nameTooLong) :
    ∃ outcome, run (World.misled path text) ["compile"] = .ok outcome ∧ outcome.status = 0 := by
  have loaded : (World.misled path text).loadTree .standardInput false = .ok ({} : Record).toTree :=
    loadTree_eq_ok_iff.mpr ⟨text, rfl, read⟩
  have ready := prepare_eq_ok_iff.mpr ⟨settings_misled lost, loaded⟩
  have asks : (World.misled path text).invocation ["compile"] =
      .ok { request := .input .compile .standardInput false } := rfl
  refine ⟨_, run_of_invocation asks, ?_⟩
  rw [runInvocation_of_prepared rfl ready, status_outcome_eq_zero_iff]
  exact failure_compile_empty _

/-- A record with a bound that is no date and a bias that is no sign. -/
def misdated : Record where
  dueBefore := some "soon"
  dueBias := some "between"

theorem ignoredBiases_misdated : misdated.ignoredBiases = [.biasIgnored "between"] := by
  decide +kernel

theorem prepare_misdated : (World.handed misdated.toJson.compact).prepare .standardInput false =
    .ok ({}, misdated.toTree) :=
  prepare_handed (readInput_of_spells_record (Json.spells_compact misdated.integral_toJson))

theorem not_valid_misdated : (validate misdated.toTree).valid = false := by
  decide +kernel

/-- A check of that record fails, and its log stands before the document. -/
theorem check_misdated :
    ∃ outcome, run (World.handed misdated.toJson.compact) ["check", "--json"] = .ok outcome ∧
      outcome.status = 1 ∧ outcome.log = [.biasIgnored "between"] := by
  have asks : (World.handed misdated.toJson.compact).invocation ["check", "--json"] =
      .ok { json := true, request := .input .check .standardInput false } := rfl
  have logged : (World.handed misdated.toJson.compact).log
      { json := true, request := .input .check .standardInput false } = misdated.ignoredBiases :=
    log_handed rfl rfl
  refine ⟨_, run_of_invocation asks, ?_, ?_⟩
  · have failed := @failure_performOn_of_not_valid
      ((World.handed misdated.toJson.compact).context { json := true } {}) _ not_valid_misdated .check (by decide)
    rw [runInvocation_of_prepared rfl prepare_misdated]
    exact status_outcome_of_failure failed
  · rw [log_runInvocation, logged, ignoredBiases_misdated]

/-- The status is 5 without any file, where no place for the settings can be told. It is 0 with a settings file
that is none by its syntax, where the path that is taken to it is too long for it to be found. And a run that
fails in JSON has its log before the document, if something is ignored of its input. -/
theorem status_without_place_and_errors_with_log :
    ((∀ path, World.homeless.present path = false) ∧
      ∃ outcome, run World.homeless ["compile"] = .ok outcome ∧ outcome.status = 5) ∧
    ((World.misled longPath ({} : Record).toJson.compact).settingsPath = .ok longPath ∧
      (World.misled longPath ({} : Record).toJson.compact).Spoilt "config.toml" ∧
      ∃ outcome, run (World.misled longPath ({} : Record).toJson.compact) ["compile"] = .ok outcome ∧
        outcome.status = 0) ∧
    ∃ outcome, run (World.handed misdated.toJson.compact) ["check", "--json"] = .ok outcome ∧
      outcome.status = 1 ∧
        ¬ TellsError (outcome.standardError (dimmedLine "2025-01-01T00:00:00.000000Z")) (codesOf 1) := by
  have homeless : World.homeless.invocation ["compile"] =
      .ok { request := .input .compile .standardInput false } := rfl
  have read := readInput_of_spells_record (Json.spells_compact (Record.integral_toJson {}))
  have lost := (textAt_misled longPath ({} : Record).toJson.compact longPath).trans (textAt_longPath _)
  refine ⟨⟨fun _ => rfl, _, run_of_invocation homeless, rfl⟩,
    ⟨settingsPath_misled .., spoilt_misled .., status_misled read lost⟩, ?_⟩
  obtain ⟨outcome, ran, one, logged⟩ := check_misdated
  refine ⟨outcome, ran, one, ?_⟩
  rintro ⟨members, code, read, -⟩
  have some : outcome.log ≠ [] := by
    rw [logged]
    exact List.cons_ne_nil _ _
  rw [Json.Source.read_eq_ok_iff, root_standardError some] at read
  cases read.1

end TaskFilter.Command
