import TaskFilter.Proofs.Command.Stages
import TaskFilter.Proofs.Validation.Verbatim

/-!
# The tables that checks print

A check that is not asked for JSON prints a table of what was found. Its rows are the findings, the errors
before the warnings, and each is a line of its own if the tree cites no text with a line feed in it. If it
does, the row of that finding goes on over several lines.

Main statement: `rows_of_check`.
-/

namespace TaskFilter.Command

open Text (ConsistsOf ofLines)
open Validation (validate Cites)

variable {tree : Tree}

/-- The table of a tree is made of lines that are its rows if and only if no line feed is cited. -/
theorem exists_tabulates_validate_iff
    (found : (validate tree).errors ≠ [] ∨ (validate tree).warnings ≠ []) :
    (∃ lines, ConsistsOf ((validate tree).table false) lines ∧ (validate tree).Tabulates lines) ↔
      ∀ condition ∈ tree.conditions, ∀ text, Cites condition text → '\n' ∉ text.toList :=
  (Report.exists_tabulates_iff found).trans (Validation.lacks_iff (by decide) tree)

theorem exists_consistsOf_validate
    (found : (validate tree).errors ≠ [] ∨ (validate tree).warnings ≠ []) :
    ∃ lines, ConsistsOf ((validate tree).table false) lines ∧
      lines.length = (((validate tree).errors ++ (validate tree).warnings).map Report.height).sum + 3 := by
  have control : '\n'.toNat < 0x20 := by decide
  apply Report.exists_consistsOf_table found
  · -- places and suggestions are never broken
    intro d listed path own
    obtain ⟨location, finding, -, rfl⟩ := Validation.mem_report_iff.mp listed
    obtain rfl := Option.some.inj own
    exact Validation.not_mem_locationText control location
  · intro d listed
    obtain ⟨location, finding, known, rfl⟩ := Validation.mem_report_iff.mp listed
    exact Validation.not_mem_of_mem_suggestions control known

theorem output_check_of_plain {context : Context} (words : context.json = false)
    (loud : context.quiet = false) (plain : context.colors = false) :
    (performOn context tree .check).output = (validate tree).table false := by
  show (showReport context (validate tree)).output = _
  rw [showReport, words, loud, plain]
  rfl

theorem exists_run_check {world : World} {line : List String} {invocation : Invocation} {source : Source}
    {asTree : Bool} {settings : Settings} (asks : world.invocation line = .ok invocation)
    (asked : invocation.request = .input .check source asTree) (words : invocation.json = false)
    (loud : invocation.quiet = false) (own : world.settings = .ok settings)
    (plain : (world.context invocation settings).colors = false)
    (loaded : world.loadTree source asTree = .ok tree) :
    ∃ outcome, run world line = .ok outcome ∧ outcome.output = (validate tree).table false := by
  refine ⟨_, run_of_invocation asks, ?_⟩
  rw [runInvocation_of_prepared asked (prepare_eq_ok_iff.mpr ⟨own, loaded⟩)]
  exact output_check_of_plain words loud plain

/-- The table of every tree in which something was found: whatever texts are in the tree, its rows are the names
of the columns, the errors and then the warnings with their hints, an empty row and the counts. It takes as
many lines as its rows have, and each row is one line if and only if the conditions cite no text with a line
feed in it. For every world and every command line that asks for a check of the tree, in words and without
colours, the table is what is printed. -/
theorem rows_of_check (found : (validate tree).errors ≠ [] ∨ (validate tree).warnings ≠ []) :
    (∃ rows, (validate tree).table false = ofLines rows ∧ (validate tree).Tabulates rows) ∧
    (∃ lines, ConsistsOf ((validate tree).table false) lines ∧
      lines.length = (((validate tree).errors ++ (validate tree).warnings).map Report.height).sum + 3) ∧
    ((∃ lines, ConsistsOf ((validate tree).table false) lines ∧ (validate tree).Tabulates lines) ↔
      ∀ condition ∈ tree.conditions, ∀ text, Cites condition text → '\n' ∉ text.toList) ∧
    ∀ {world : World} {line : List String} {invocation : Invocation} {source : Source} {asTree : Bool}
        {settings : Settings},
      world.invocation line = .ok invocation → invocation.request = .input .check source asTree →
      invocation.json = false → invocation.quiet = false →
      world.settings = .ok settings → (world.context invocation settings).colors = false →
      world.loadTree source asTree = .ok tree →
      ∃ outcome, run world line = .ok outcome ∧ outcome.output = (validate tree).table false :=
  ⟨⟨_, Report.table_eq_ofLines found, Report.tabulates_tableLines _⟩, exists_consistsOf_validate found,
    exists_tabulates_validate_iff found, exists_run_check⟩

/-- A text that is no date, with a tab in it, and an empty group: the table has five lines. -/
theorem rows_of_check_tab :
    let tree := Tree.all [.comparison Field.dueDate.path .le (.string "tomorrow\tnoon"), .any []]
    ∃ outcome lines, run (World.handed tree.toJson.compact) ["check", "--ast", "--no-color"] = .ok outcome ∧
      ConsistsOf outcome.output lines ∧ lines.length = 5 ∧ (validate tree).Tabulates lines := by
  intro tree
  have integral : tree.toJson.Integral := Tree.integral_toJson tree fun _ _ _ listed =>
    absurd (List.mem_singleton.mp listed) (by simp)
  have read : readInput tree.toJson.compact true = .ok tree :=
    readInput_of_spells_tree (Json.spells_compact integral) (by decide)
  have ready := prepare_eq_ok_iff.mp (prepare_handed read)
  have found : (validate tree).errors ≠ [] ∨ (validate tree).warnings ≠ [] := .inl (by decide +kernel)
  obtain ⟨-, ⟨others, consists', length⟩, broken, runs⟩ := rows_of_check found
  have unbroken : ∀ condition ∈ tree.conditions, ∀ text, Cites condition text → '\n' ∉ text.toList := by
    intro condition listed text cites
    rw [List.mem_singleton.mp listed] at cites
    cases cites with
    | path named absent => exact absurd (Option.some.inj named) (absent .dueDate)
    | date => decide
  obtain ⟨lines, consists, tabulates⟩ := broken.mpr unbroken
  have asks : (World.handed tree.toJson.compact).invocation ["check", "--ast", "--no-color"] =
      .ok { noColor := true, request := .input .check .standardInput true } := rfl
  obtain ⟨outcome, ran, printed⟩ := runs asks rfl rfl rfl ready.1 rfl ready.2
  refine ⟨outcome, lines, ran, printed ▸ consists, ?_, tabulates⟩
  rw [consists.unique consists', length]
  decide +kernel

/-- A text with a line feed in it that is no date. It is all that is wrong, and its row takes two of the five
lines of the table. -/
theorem not_tabulates_line_feed :
    let record : Record := { dueBefore := some "tomorrow\nnoon" }
    let report := validate record.toTree
    ∃ outcome, run (World.handed record.toJson.compact) ["check", "--no-color"] = .ok outcome ∧
      report.errors.length = 1 ∧ report.errors.flatMap Diagnostic.suggestions = [] ∧ report.warnings = [] ∧
      (∃ lines, ConsistsOf outcome.output lines ∧ lines.length = 5) ∧
      ¬ ∃ lines, ConsistsOf outcome.output lines ∧ report.Tabulates lines := by
  intro record report
  have read := readInput_of_spells_record (Json.spells_compact (Record.integral_toJson record))
  have ready := prepare_eq_ok_iff.mp (prepare_handed read)
  have asks : (World.handed record.toJson.compact).invocation ["check", "--no-color"] =
      .ok { noColor := true, request := .input .check .standardInput false } := rfl
  obtain ⟨outcome, ran, printed⟩ := exists_run_check asks rfl rfl rfl ready.1 rfl ready.2
  have found : report.errors ≠ [] ∨ report.warnings ≠ [] := .inl (by decide +kernel)
  refine ⟨outcome, ran, by decide +kernel, by decide +kernel, by decide +kernel, ?_, ?_⟩
  · obtain ⟨lines, consists, length⟩ := exists_consistsOf_validate found
    refine ⟨lines, printed ▸ consists, length.trans ?_⟩
    decide +kernel
  · rw [printed, exists_tabulates_validate_iff found]
    intro unbroken
    have unreal : Date.isDate "tomorrow\nnoon" = false := by decide +kernel
    have cites : Cites (.comparison Field.dueDate.path .le (.string "tomorrow\nnoon")) "tomorrow\nnoon" :=
      .date rfl rfl .le unreal
    have listed : record.toTree.conditions = [.presence Field.dueDate.path true,
        .comparison Field.dueDate.path .le (.string "tomorrow\nnoon")] := rfl
    exact unbroken _ (listed ▸ List.mem_cons_of_mem _ List.mem_cons_self) _ cites (by decide)

end TaskFilter.Command
