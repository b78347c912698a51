import TaskFilter.Command.Run
import TaskFilter.Proofs.Json.Texts
import TaskFilter.Proofs.Record.Spelling
import TaskFilter.Proofs.Tree.Spelling

/-!
# The stages of a run

A command with an input looks at the settings, reads the input, and does its work with the tree that the
input holds. The run ends at the first of these stages that fails. What is proved about such commands is
proved stage by stage.

## Layers

- **Runs**: a run is what its invocation does (`run_eq_ok_iff`).
- **Preparation**: the settings and the tree that a command gets (`World.prepare`), and how a run goes on
  with them or without them.
- **Commands**: the failure that a command ends with, if any.

Main statements: `runInvocation_input` and `prepare_eq_ok_iff`.
-/

namespace TaskFilter.Command

open Json (bind_eq_ok_iff map_eq_ok_iff mapError_eq_ok_iff)

/-! ## Runs -/

/-- A command line that is read leads to the run of its invocation, and no other does. -/
theorem run_eq_ok_iff {world : World} {arguments : List String} {outcome : Outcome} :
    run world arguments = .ok outcome ↔
      ∃ invocation, world.invocation arguments = .ok invocation ∧
        runInvocation world invocation = outcome := by
  rw [run, map_eq_ok_iff]

theorem run_of_invocation {world : World} {arguments : List String} {invocation : Invocation}
    (h : world.invocation arguments = .ok invocation) :
    run world arguments = .ok (runInvocation world invocation) :=
  run_eq_ok_iff.mpr ⟨invocation, h, rfl⟩

/-! ## Preparation -/

/-- The settings and the tree that a command with an input works with, or the failure that the run ends
with before the command begins. The settings are looked at first. -/
def World.prepare (world : World) (source : Source) (asTree : Bool) :
    Except Failure (Settings × Tree) := do
  let settings ← world.settings.mapError Failure.settings
  let tree ← world.loadTree source asTree
  return (settings, tree)

variable {world : World} {invocation : Invocation} {verb : InputVerb} {source : Source} {asTree : Bool}

theorem prepare_eq_ok_iff {settings : Settings} {tree : Tree} :
    world.prepare source asTree = .ok (settings, tree) ↔
      world.settings = .ok settings ∧ world.loadTree source asTree = .ok tree := by
  rw [World.prepare, bind_eq_ok_iff]
  simp only [mapError_eq_ok_iff, bind_eq_ok_iff]
  constructor
  · rintro ⟨_, own, _, loaded, ⟨⟩⟩
    exact ⟨own, loaded⟩
  · rintro ⟨own, loaded⟩
    exact ⟨settings, own, tree, loaded, rfl⟩

theorem prepare_of_settings_error {cause : SettingsFailure} (h : world.settings = .error cause) :
    world.prepare source asTree = .error (.settings cause) := by
  rw [World.prepare, h]
  rfl

theorem prepare_of_loadTree_error {settings : Settings} {failure : Failure}
    (own : world.settings = .ok settings) (h : world.loadTree source asTree = .error failure) :
    world.prepare source asTree = .error failure := by
  rw [World.prepare, own, h]
  rfl

/-! ## Inputs -/

theorem readInput_tree_eq_ok_iff {text : String} {tree : Tree} :
    readInput text true = .ok tree ↔
      Text.trim text ≠ "" ∧ Tree.ofText (Text.trim text) = .ok tree := by
  rw [← String.isEmpty_eq_false_iff]
  simp only [readInput]
  cases (Text.trim text).isEmpty with
  | true => simp
  | false => simp [mapError_eq_ok_iff]

theorem readInput_record_eq_ok_iff {text : String} {tree : Tree} :
    readInput text false = .ok tree ↔
      Text.trim text ≠ "" ∧
        ∃ record, Record.ofText (Text.trim text) = .ok record ∧ record.toTree = tree := by
  rw [← String.isEmpty_eq_false_iff]
  simp only [readInput]
  cases (Text.trim text).isEmpty with
  | true => simp
  | false => cases Record.ofText (Text.trim text) <;> simp

/-- A text that spells a tree is an input with the tree, whatever blanks stand around it. -/
theorem readInput_of_spells_tree {text : String} {tree : Tree}
    (written : Json.Spells text tree.toJson) (flat : tree.toJson.depth ≤ Json.nestingLimit) :
    readInput text true = .ok tree := by
  have trimmed : Json.Spells (Text.trim text) tree.toJson := by
    obtain ⟨members, object⟩ : ∃ members, tree.toJson = .object members := by
      cases tree <;> exact ⟨_, rfl⟩
    rw [object] at written ⊢
    exact Json.spells_trim written
  exact readInput_tree_eq_ok_iff.mpr ⟨Json.ne_empty_of_spells trimmed,
    Tree.ofText_of_spelled trimmed (Tree.spells_toJson tree) flat⟩

/-- A text that spells a record is an input with the record. -/
theorem readInput_of_spells_record {text : String} {record : Record}
    (written : Json.Spells text record.toJson) : readInput text false = .ok record.toTree := by
  have trimmed : Json.Spells (Text.trim text) record.toJson := Json.spells_trim written
  exact readInput_record_eq_ok_iff.mpr ⟨Json.ne_empty_of_spells trimmed, record,
    Record.ofText_of_spelledMembers (Record.spelledMembers_toJson record) trimmed, rfl⟩

theorem loadTree_eq_ok_iff {tree : Tree} :
    world.loadTree source asTree = .ok tree ↔
      ∃ text, world.sourceText source = .ok text ∧ readInput text asTree = .ok tree := by
  rw [World.loadTree, bind_eq_ok_iff]
  simp only [mapError_eq_ok_iff]

/-- An input that is no tree holds a record. -/
theorem exists_record_of_loadTree {tree : Tree} (h : world.loadTree source false = .ok tree) :
    ∃ record : Record, record.toTree = tree := by
  obtain ⟨text, -, read⟩ := loadTree_eq_ok_iff.mp h
  obtain ⟨-, record, -, built⟩ := readInput_record_eq_ok_iff.mp read
  exact ⟨record, built⟩

/-- A world without variables and files, in which a text is handed to the run. -/
def World.handed (text : String) : World where
  env? _ := none
  accountHome := some "/root"
  textAt _ := .error .notFound
  standardInput := .ok text

/-- Nothing is set there. -/
theorem prepare_handed {text : String} {tree : Tree} (h : readInput text asTree = .ok tree) :
    (World.handed text).prepare .standardInput asTree = .ok ({}, tree) :=
  prepare_eq_ok_iff.mpr ⟨rfl, loadTree_eq_ok_iff.mpr ⟨text, rfl, h⟩⟩

/-! ## Runs of commands with an input -/

/-- A run of a command with an input: the command is carried out with what was prepared for it. -/
theorem runInvocation_input (asked : invocation.request = .input verb source asTree) :
    runInvocation world invocation =
      Effect.outcome (match world.prepare source asTree with
        | .ok (settings, tree) => performOn (world.context invocation settings) tree verb
        | .error failure => .ofFailure failure) invocation.json (world.log invocation) := by
  rw [runInvocation, asked, World.settingsFor]
  cases own : world.settings with
  | error cause =>
    -- no command with an input goes on without its settings
    rw [prepare_of_settings_error own]
    rfl
  | ok settings =>
    show Effect.outcome (performInput world (world.context invocation settings) verb source asTree) _ _ = _
    rw [performInput]
    cases loaded : world.loadTree source asTree with
    | error failure => rw [prepare_of_loadTree_error own loaded]
    | ok tree => rw [prepare_eq_ok_iff.mpr ⟨own, loaded⟩]

theorem runInvocation_of_prepared {settings : Settings} {tree : Tree}
    (asked : invocation.request = .input verb source asTree)
    (ready : world.prepare source asTree = .ok (settings, tree)) :
    runInvocation world invocation =
      (performOn (world.context invocation settings) tree verb).outcome invocation.json
        (world.log invocation) := by
  rw [runInvocation_input asked, ready]

theorem runInvocation_of_unprepared {failure : Failure}
    (asked : invocation.request = .input verb source asTree)
    (stopped : world.prepare source asTree = .error failure) :
    runInvocation world invocation =
      (Effect.ofFailure failure).outcome invocation.json (world.log invocation) := by
  rw [runInvocation_input asked, stopped]

/-! ## Outcomes -/

theorem log_runInvocation (world : World) (invocation : Invocation) :
    (runInvocation world invocation).log = world.log invocation :=
  rfl

/-- No failure has the status of success. -/
theorem Failure.status_pos (failure : Failure) : 0 < failure.status := by
  cases failure <;> exact Nat.succ_pos _

/-- A run ends with success if its command did not fail. -/
theorem status_outcome_eq_zero_iff {effect : Effect} {json : Bool} {log : List Event} :
    (effect.outcome json log).status = 0 ↔ effect.failure = none := by
  show (effect.failure.map Failure.status).getD 0 = 0 ↔ _
  cases effect.failure with
  | none => exact ⟨fun _ => rfl, fun _ => rfl⟩
  | some failure =>
    have positive := failure.status_pos
    constructor
    · intro zero
      rw [Option.map_some, Option.getD_some] at zero
      omega
    · intro none
      cases none

theorem status_outcome_of_failure {effect : Effect} {json : Bool} {log : List Event} {failure : Failure}
    (h : effect.failure = some failure) : (effect.outcome json log).status = failure.status := by
  show (effect.failure.map Failure.status).getD 0 = _
  rw [h]
  rfl

/-- A command that noted nothing and failed tells of its failure, and of nothing else behind the log. -/
theorem errors_outcome_of_failure {effect : Effect} {json : Bool} {log : List Event} {failure : Failure}
    (noted : effect.notes = "") (h : effect.failure = some failure) :
    (effect.outcome json log).errors = failureText json failure := by
  show effect.notes ++ (effect.failure.map (failureText json)).getD "" = _
  rw [noted, h, String.empty_append]
  rfl

/-- A run that succeeds was prepared, and its command did not fail. -/
theorem exists_prepared_of_status_eq_zero (asked : invocation.request = .input verb source asTree)
    (success : (runInvocation world invocation).status = 0) :
    ∃ settings tree, world.prepare source asTree = .ok (settings, tree) ∧
      (performOn (world.context invocation settings) tree verb).failure = none := by
  cases ready : world.prepare source asTree with
  | error failure =>
    rw [runInvocation_of_unprepared asked ready, status_outcome_eq_zero_iff] at success
    cases success
  | ok prepared =>
    obtain ⟨settings, tree⟩ := prepared
    rw [runInvocation_of_prepared asked ready, status_outcome_eq_zero_iff] at success
    exact ⟨settings, tree, rfl, success⟩

/-! ## Commands -/

open Validation (validate)

variable {context : Context} {tree : Tree}

/-- Compiling a tree with errors fails with the errors. -/
theorem performOn_compile_of_not_valid (h : (validate tree).valid = false) :
    performOn context tree .compile = .ofFailure (.uncompiled (.rejected (validate tree))) := by
  have compiled : compileIn context tree = .error (.uncompiled (.rejected (validate tree))) := by
    simp [compileIn, compileTree, h, Except.mapError, bind, Except.bind]
  rw [performOn, compiled]

/-- Checking and compiling fail with the report of a tree that is not valid. -/
theorem failure_performOn_of_not_valid (h : (validate tree).valid = false) (verb : InputVerb)
    (judges : verb ≠ .tree) :
    (performOn context tree verb).failure = some (.uncompiled (.rejected (validate tree))) := by
  cases verb with
  | compile =>
    rw [performOn_compile_of_not_valid h]
    rfl
  | check =>
    show verdict context (validate tree) = _
    rw [verdict, h]
    rfl
  | tree => exact absurd rfl judges

/-- Compiling a valid tree that has no expression fails with the reason for that, whatever warnings there
are. -/
theorem performOn_compile_of_emit_error {cause : Script.EmissionError}
    (h : (validate tree).valid = true) (refused : Script.emit context.dialect tree = .error cause) :
    performOn context tree .compile = .ofFailure (.uncompiled (.inexpressible cause)) := by
  have compiled : compileIn context tree = .error (.uncompiled (.inexpressible cause)) := by
    simp [compileIn, compileTree, h, refused, Except.mapError, bind, Except.bind]
  rw [performOn, compiled]

theorem compileIn_of_compiled {compiled : Compiled}
    (h : compileTree context.dialect tree = .ok compiled) :
    compileIn context tree =
      if context.warningsAsErrors && !compiled.warnings.isEmpty then
        .error (.warnings compiled.warnings.length)
      else .ok compiled := by
  rw [compileIn, h]
  show (if _ then _ else _) = _
  cases context.warningsAsErrors && !compiled.warnings.isEmpty <;> rfl

/-- Compiling a valid tree with an expression fails with its warnings, if they count as errors. -/
theorem performOn_compile_of_emit {e : Script.Expr} (h : (validate tree).valid = true)
    (emitted : Script.emit context.dialect tree = .ok e) :
    performOn context tree .compile =
      if context.warningsAsErrors && (validate tree).hasWarnings then
        .ofFailure (.warnings (validate tree).warnings.length)
      else showCompiled context ⟨tree, context.dialect, e.text, (validate tree).warnings⟩ := by
  have compiled : compileTree context.dialect tree =
      .ok ⟨tree, context.dialect, e.text, (validate tree).warnings⟩ := by
    simp [compileTree, h, emitted]
  rw [performOn, compileIn_of_compiled compiled, Report.hasWarnings]
  cases context.warningsAsErrors && !(validate tree).warnings.isEmpty <;> rfl

/-- Nothing fails once a filter is compiled. -/
theorem failure_showCompiled (context : Context) (compiled : Compiled) :
    (showCompiled context compiled).failure = none := by
  rw [showCompiled]
  split <;> rfl

/-- A tree that is compiled is valid and has an expression, and nothing but showing it is left to do. -/
theorem exists_emit_of_success (success : (performOn context tree .compile).failure = none) :
    (validate tree).valid = true ∧ ∃ e, Script.emit context.dialect tree = .ok e ∧
      performOn context tree .compile =
        showCompiled context ⟨tree, context.dialect, e.text, (validate tree).warnings⟩ := by
  cases valid : (validate tree).valid with
  | false =>
    rw [performOn_compile_of_not_valid valid] at success
    cases success
  | true =>
    cases emitted : Script.emit context.dialect tree with
    | error cause =>
      rw [performOn_compile_of_emit_error valid emitted] at success
      cases success
    | ok e =>
      rw [performOn_compile_of_emit valid emitted] at success ⊢
      split at success
      · cases success
      next passed => exact ⟨rfl, e, rfl, if_neg passed⟩

/-- Compiling fails as checking does, if the tree has an expression or is not valid. -/
theorem failure_compile_eq_verdict
    (expressed : (validate tree).valid = true → ∃ e, Script.emit context.dialect tree = .ok e) :
    (performOn context tree .compile).failure = verdict context (validate tree) := by
  cases valid : (validate tree).valid with
  | false =>
    rw [performOn_compile_of_not_valid valid, verdict, valid]
    rfl
  | true =>
    obtain ⟨e, emitted⟩ := expressed valid
    rw [performOn_compile_of_emit valid emitted, verdict, valid]
    -- the warnings are counted by both, or by neither
    cases context.warningsAsErrors && (validate tree).hasWarnings with
    | true => rfl
    | false => exact failure_showCompiled ..

theorem status_of_verdict {report : Report} {failure : Failure}
    (h : verdict context report = some failure) : failure.status = 1 := by
  rw [verdict] at h
  split at h
  · cases h
    rfl
  · split at h
    · cases h
      rfl
    · cases h

end TaskFilter.Command
