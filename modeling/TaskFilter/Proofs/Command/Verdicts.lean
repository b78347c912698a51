import TaskFilter.Proofs.Command.Stages
import TaskFilter.Proofs.Record.Expressing
import TaskFilter.Proofs.Script.Refusing

/-!
# Checking and compiling

Two commands judge an input. One validates its tree and looks at the warnings, the other compiles the tree
and looks at the warnings of what it got. They come to the same verdict, save for trees that are valid and
that no dialect can express; no record has such a tree.

## Layers

- **Trees**: a valid tree that one dialect refuses is refused by all (`inexpressible_iff`).
- **Commands**: compiling fails as checking does, or because the tree is inexpressible
  (`failure_compile_or`).
- **Main statement**: `statuses_of_check_and_compile`, for the runs of two command lines.
-/

namespace TaskFilter.Command

open Script (emit)
open Validation (validate)

/-! ## Trees that cannot be expressed -/

/-- A tree that nothing is wrong with and that no dialect can express. -/
structure Inexpressible (tree : Tree) : Prop where
  valid : (validate tree).valid = true
  refused : ∀ dialect, ∃ cause, emit dialect tree = .error cause

/-- One dialect tells whether a valid tree can be expressed. -/
theorem inexpressible_iff {tree : Tree} (valid : (validate tree).valid = true) (dialect : Dialect) :
    Inexpressible tree ↔ ∃ cause, emit dialect tree = .error cause := by
  constructor
  · exact fun h => h.refused dialect
  · intro refused
    refine ⟨valid, fun other => ?_⟩
    rw [Script.exists_error_iff_of_valid valid] at refused ⊢
    exact refused

/-- The tree of a record can be expressed. -/
theorem not_inexpressible_toTree (record : Record) : ¬ Inexpressible record.toTree := by
  intro h
  obtain ⟨cause, refused⟩ := h.refused .standard
  obtain ⟨e, emitted⟩ := Record.expressible_toTree .standard record
  rw [refused] at emitted
  cases emitted

/-! ## Verdicts on a tree -/

/-- Compiling fails with the verdict of checking, or because the tree cannot be expressed. Of the context,
checking looks at nothing but whether warnings count as errors. -/
theorem failure_compile_or {checking compiling : Context}
    (same : checking.warningsAsErrors = compiling.warningsAsErrors) (tree : Tree) :
    ((performOn compiling tree .compile).failure = verdict checking (validate tree) ∧
        ¬ Inexpressible tree) ∨
      (Inexpressible tree ∧ ∃ cause,
        performOn compiling tree .compile = .ofFailure (.uncompiled (.inexpressible cause))) := by
  have verdicts : verdict checking (validate tree) = verdict compiling (validate tree) := by
    rw [verdict, verdict, same]
  rw [verdicts]
  by_cases lost : Inexpressible tree
  · right
    obtain ⟨cause, refused⟩ := lost.refused compiling.dialect
    exact ⟨lost, cause, performOn_compile_of_emit_error lost.valid refused⟩
  · left
    refine ⟨failure_compile_eq_verdict fun valid => ?_, lost⟩
    -- a valid tree that can be expressed in some dialect can be expressed in this one
    cases emitted : emit compiling.dialect tree with
    | ok e => exact ⟨e, rfl⟩
    | error cause => exact absurd ((inexpressible_iff valid _).mpr ⟨cause, emitted⟩) lost

/-! ## Runs -/

variable {world : World} {checking compiling : Invocation} {source : Source} {asTree : Bool}

section

variable (checkAsked : checking.request = .input .check source asTree)
  (compileAsked : compiling.request = .input .compile source asTree)

include checkAsked compileAsked

/-- Where no inexpressible tree is at work, both runs end alike. -/
theorem status_compile_eq_status_check
    (h : ∀ settings tree, world.prepare source asTree = .ok (settings, tree) → ¬ Inexpressible tree) :
    (runInvocation world compiling).status = (runInvocation world checking).status := by
  cases ready : world.prepare source asTree with
  | error failure =>
    -- both runs end before their commands begin
    rw [runInvocation_of_unprepared checkAsked ready, runInvocation_of_unprepared compileAsked ready]
    rfl
  | ok prepared =>
    obtain ⟨settings, tree⟩ := prepared
    rw [runInvocation_of_prepared checkAsked ready, runInvocation_of_prepared compileAsked ready]
    have same : (world.context checking settings).warningsAsErrors =
        (world.context compiling settings).warningsAsErrors := rfl
    rcases failure_compile_or same tree with ⟨judged, -⟩ | ⟨lost, -⟩
    · show ((performOn _ tree .compile).failure.map Failure.status).getD 0 =
        ((verdict _ (validate tree)).map Failure.status).getD 0
      rw [judged]
    · exact absurd lost (h settings tree ready)

/-- An inexpressible tree stops compiling, while checking may find nothing against it. -/
theorem statuses_of_inexpressible {settings : Settings} {tree : Tree}
    (ready : world.prepare source asTree = .ok (settings, tree)) (lost : Inexpressible tree) :
    (runInvocation world compiling).status = 1 ∧ (runInvocation world checking).status ≤ 1 := by
  rw [runInvocation_of_prepared checkAsked ready, runInvocation_of_prepared compileAsked ready]
  constructor
  · obtain ⟨cause, refused⟩ := lost.refused (world.context compiling settings).dialect
    rw [performOn_compile_of_emit_error lost.valid refused]
    rfl
  · show ((verdict _ (validate tree)).map Failure.status).getD 0 ≤ 1
    cases judged : verdict (world.context checking settings) (validate tree) with
    | none => exact Nat.zero_le 1
    | some failure => exact Nat.le_of_eq (status_of_verdict judged)

end

/-- Checking and compiling give the same verdict. For every world and every two command lines that ask for the
one and for the other of the same input, whatever else they say: a record leads to the same status; an input
that does not pass the check leads to the same status; and one that passes the check is compiled, unless it
holds a valid tree that no dialect can express. That does not depend on which dialect was asked for, and
compiling ends with status 1 then. -/
theorem statuses_of_check_and_compile {checkLine compileLine : List String}
    (checks : world.invocation checkLine = .ok checking)
    (checkAsked : checking.request = .input .check source asTree)
    (compiles : world.invocation compileLine = .ok compiling)
    (compileAsked : compiling.request = .input .compile source asTree) :
    ∃ checked compiled, run world checkLine = .ok checked ∧ run world compileLine = .ok compiled ∧
      (asTree = false → compiled.status = checked.status) ∧
      (checked.status ≠ 0 → compiled.status = checked.status) ∧
      (checked.status = 0 →
        (compiled.status ≠ 0 ↔ ∃ tree, world.loadTree source asTree = .ok tree ∧ Inexpressible tree) ∧
        (compiled.status ≠ 0 → compiled.status = 1)) := by
  refine ⟨_, _, run_of_invocation checks, run_of_invocation compiles, ?_⟩
  by_cases stuck : ∃ settings tree,
      world.prepare source asTree = .ok (settings, tree) ∧ Inexpressible tree
  · obtain ⟨settings, tree, ready, lost⟩ := stuck
    have loaded := (prepare_eq_ok_iff.mp ready).2
    obtain ⟨one, few⟩ := statuses_of_inexpressible checkAsked compileAsked ready lost
    refine ⟨?_, ?_, ?_⟩
    · rintro rfl
      -- records have no such trees
      obtain ⟨record, rfl⟩ := exists_record_of_loadTree loaded
      exact absurd lost (not_inexpressible_toTree record)
    · intro failed
      omega
    · intro _
      exact ⟨iff_of_true (by omega) ⟨tree, loaded, lost⟩, fun _ => one⟩
  · have same := status_compile_eq_status_check checkAsked compileAsked
      fun settings tree ready lost => stuck ⟨settings, tree, ready, lost⟩
    refine ⟨fun _ => same, fun _ => same, fun passed => ⟨iff_of_false ?_ ?_, ?_⟩⟩
    · omega
    · rintro ⟨tree, loaded, lost⟩
      -- a check that is passed had its settings, and was made on that tree
      obtain ⟨settings, other, ready, -⟩ := exists_prepared_of_status_eq_zero checkAsked passed
      have own := (prepare_eq_ok_iff.mp ready).1
      exact stuck ⟨settings, tree, prepare_eq_ok_iff.mpr ⟨own, loaded⟩, lost⟩
    · intro failed
      omega

/-- Names cannot be ordered in either dialect, which checking does not see. -/
theorem statuses_of_check_and_compile_ordered_name :
    let tree := Tree.comparison Field.name.path .lt (.string "m")
    let world := World.handed tree.toJson.compact
    ∃ checked compiled, run world ["check", "--ast"] = .ok checked ∧
      run world ["compile", "--ast", "--target", "omnijs"] = .ok compiled ∧
      checked.status = 0 ∧ compiled.status = 1 := by
  intro tree world
  have integral : tree.toJson.Integral := ⟨trivial, trivial, trivial, trivial, trivial⟩
  have read : readInput tree.toJson.compact true = .ok tree :=
    readInput_of_spells_tree (Json.spells_compact integral) (by decide)
  have ready := prepare_handed read
  have lost : Inexpressible tree := (inexpressible_iff (by decide) .jxa).mpr ⟨_, rfl⟩
  have checks : world.invocation ["check", "--ast"] =
      .ok { request := .input .check .standardInput true } := rfl
  have compiles : world.invocation ["compile", "--ast", "--target", "omnijs"] =
      .ok { dialect := some .omnijs, request := .input .compile .standardInput true } := rfl
  obtain ⟨checked, compiled, ranCheck, ranCompile, -, -, passed⟩ :=
    statuses_of_check_and_compile checks rfl compiles rfl
  have zero : checked.status = 0 := by
    obtain rfl : runInvocation world _ = checked :=
      Except.ok.inj ((run_of_invocation checks).symm.trans ranCheck)
    rw [runInvocation_of_prepared rfl ready]
    rfl
  have failed := (passed zero).1.mpr ⟨tree, (prepare_eq_ok_iff.mp ready).2, lost⟩
  exact ⟨checked, compiled, ranCheck, ranCompile, zero, (passed zero).2 failed⟩

end TaskFilter.Command
