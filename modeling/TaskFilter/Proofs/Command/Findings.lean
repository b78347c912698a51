import TaskFilter.Proofs.Command.Statuses
import TaskFilter.Proofs.Report.Reading

/-!
# Findings in what runs print

A check that is asked for JSON prints its report as it is. If the tree is refused, by a check or by a
compilation, the run tells so with all that was found, under the key of the error. Both are read again without
loss, whatever texts the tree has brought into the findings.

Main statement: `reports_read_again`.
-/

namespace TaskFilter.Command

open Json (Document Shows shows_of_spells spells_compact spells_line spells_pretty)
open Validation (validate)

/-! ## Refusals -/

/-- The text tells, as JSON, that a tree was refused for what a report says. -/
structure TellsRefusal (text : String) (report : Report) : Prop where
  errors : ∃ part, Shows text ["error", "errors"] part ∧
    part.readList Diagnostic.read = .ok report.errors
  warnings : ∃ part, Shows text ["error", "warnings"] part ∧
    part.readList Diagnostic.read = .ok report.warnings
  message : Shows text ["error", "message"] (.string (some report.rejectionMessage))

theorem tellsRefusal_of_spells {text : String} {report : Report}
    (written : Json.Spells text (Failure.uncompiled (.rejected report)).toJson) :
    TellsRefusal text report where
  errors := ⟨_, shows_of_spells written rfl, Report.readList_findingsJson report.errors⟩
  warnings := ⟨_, shows_of_spells written rfl, Report.readList_findingsJson report.warnings⟩
  message := shows_of_spells written rfl

variable {context : Context} {tree : Tree}

/-! ## Runs -/

theorem output_check_of_json (json : context.json = true) :
    Json.Spells (performOn context tree .check).output (validate tree).toJson := by
  show Json.Spells (showReport context (validate tree)).output _
  rw [showReport, if_pos json]
  exact spells_line (Report.flat_toJson _).integral

/-- Every report is read again from what is written of it, on one line or on several. And for every world and
every command line that asks for JSON and for a command with an input, if the settings can be used and the
input holds a tree: the output of a check is read as the report of the tree, and if the tree is refused, by a
check or by a compilation, the run tells so behind its log, with the findings of that report. A run that is
shown warnings only logs nothing of a tree, and of a record what is ignored of it. -/
theorem reports_read_again :
    (∀ report : Report, Report.ofText report.toJson.compact = .ok report ∧
      Report.ofText report.toJson.pretty = .ok report) ∧
    ∀ {world : World} {line : List String} {invocation : Invocation} {verb : InputVerb}
        {source : Source} {asTree : Bool} {settings : Settings} {tree : Tree},
      world.invocation line = .ok invocation → invocation.request = .input verb source asTree →
      invocation.json = true →
      world.settings = .ok settings → world.loadTree source asTree = .ok tree →
      ∃ outcome, run world line = .ok outcome ∧
        (verb = .check → Report.ofText outcome.output = .ok (validate tree)) ∧
        (verb ≠ .tree → (validate tree).valid = false →
          outcome.Tells fun text => TellsRefusal text (validate tree)) ∧
        (world.WarnsOnly invocation → outcome.log = if asTree then [] else world.ignored source) := by
  constructor
  · intro report
    have integral := report.flat_toJson.integral
    exact ⟨Report.ofText_of_spells_toJson (spells_compact integral),
      Report.ofText_of_spells_toJson (spells_pretty integral)⟩
  · intro world line invocation verb source asTree settings tree asks asked json own loaded
    have ready := prepare_eq_ok_iff.mpr ⟨own, loaded⟩
    refine ⟨_, run_of_invocation asks, ?_, ?_, fun plain => log_of_input plain asked own⟩
    · rintro rfl
      rw [runInvocation_of_prepared asked ready, json]
      exact Report.ofText_of_spells_toJson (output_check_of_json json)
    · intro judges refused
      have failed := @failure_performOn_of_not_valid (world.context invocation settings) _ refused verb judges
      apply tells_of_errors
      rw [runInvocation_of_prepared asked ready, json,
        errors_outcome_of_failure (performOn_of_failure failed).2.1 failed]
      exact tellsRefusal_of_spells (spells_line (Failure.flat_toJson _).integral)

/-- A path with quotes, with a character outside the basic range and with an empty segment: it stands in the
report that is printed, and in the words of the refusal, before which nothing is logged. -/
theorem reports_read_again_malformed :
    let tree := Tree.presence "say \"no\"..Größe\n" true
    let world := World.handed tree.toJson.compact
    ∃ checked compiled, run world ["check", "--ast", "--json"] = .ok checked ∧
      run world ["compile", "--json", "--ast"] = .ok compiled ∧
      Report.ofText checked.output = .ok (validate tree) ∧
      (checked.Tells fun text => TellsRefusal text (validate tree)) ∧
      (compiled.Tells fun text => TellsRefusal text (validate tree)) ∧
      checked.log = [] ∧ compiled.log = [] := by
  intro tree world
  have integral : tree.toJson.Integral := ⟨trivial, trivial, trivial, trivial⟩
  have read : readInput tree.toJson.compact true = .ok tree :=
    readInput_of_spells_tree (spells_compact integral) (by decide)
  have loaded := (prepare_eq_ok_iff.mp (prepare_handed read)).2
  have refused : (validate tree).valid = false := by decide +kernel
  have checks : world.invocation ["check", "--ast", "--json"] =
      .ok { json := true, request := .input .check .standardInput true } := rfl
  have compiles : world.invocation ["compile", "--json", "--ast"] =
      .ok { json := true, request := .input .compile .standardInput true } := rfl
  obtain ⟨checked, ranCheck, report, told, log⟩ := reports_read_again.2 checks rfl rfl rfl loaded
  obtain ⟨compiled, ranCompile, -, toldToo, logToo⟩ := reports_read_again.2 compiles rfl rfl rfl loaded
  exact ⟨checked, compiled, ranCheck, ranCompile, report rfl, told (by decide) refused,
    toldToo (by decide) refused, log ⟨rfl, rfl⟩, logToo ⟨rfl, rfl⟩⟩

theorem not_tellsRefusal_of_broken {text : String} {report : Report}
    (broken : (Json.Source.ofText text).root = .broken) : ¬ TellsRefusal text report := by
  intro told
  have whole := told.message.whole
  rw [broken] at whole
  cases whole

/-- A record with a bound that is no date is refused by a check. Where JSON was asked for, the channel for errors
is no JSON text with the log before it; and it is none even without the log, where JSON was not asked for. -/
theorem not_tellsRefusal_of_log :
    (validate misdated.toTree).valid = false ∧
    (∃ outcome, run (World.handed misdated.toJson.compact) ["check", "--json"] = .ok outcome ∧
      ¬ TellsRefusal (outcome.standardError (dimmedLine "2025-01-01T00:00:00.000000Z"))
        (validate misdated.toTree)) ∧
    ∃ outcome, run (World.handed misdated.toJson.compact) ["check"] = .ok outcome ∧
      ¬ TellsRefusal outcome.errors (validate misdated.toTree) := by
  refine ⟨not_valid_misdated, ?_, ?_⟩
  · obtain ⟨outcome, ran, -, logged⟩ := check_misdated
    have some : outcome.log ≠ [] := by
      rw [logged]
      exact List.cons_ne_nil _ _
    exact ⟨outcome, ran, not_tellsRefusal_of_broken (root_standardError some)⟩
  · have asks : (World.handed misdated.toJson.compact).invocation ["check"] =
        .ok { request := .input .check .standardInput false } := rfl
    refine ⟨_, run_of_invocation asks, not_tellsRefusal_of_broken ?_⟩
    have failed := @failure_performOn_of_not_valid
      ((World.handed misdated.toJson.compact).context { request := .input .check .standardInput false } {})
      _ not_valid_misdated .check (by decide)
    rw [runInvocation_of_prepared rfl prepare_misdated,
      errors_outcome_of_failure (performOn_of_failure failed).2.1 failed]
    have plain : ∃ rest, (failureText false (.uncompiled (.rejected (validate misdated.toTree)))).toList =
        'E' :: rest := by
      rw [failureText, if_neg Bool.false_ne_true]
      simp only [line, String.toList_append]
      exact ⟨_, rfl⟩
    obtain ⟨rest, begins⟩ := plain
    exact Json.Source.root_of_stray begins rfl rfl

end TaskFilter.Command
