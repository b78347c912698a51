import TaskFilter.Command.Failure
import TaskFilter.Proofs.Json.Texts

/-!
# Findings and failures as they are written

The JSON forms of findings, of reports and of failures hold texts and truth values only, and a few brackets
are enough for them. Hence what is printed of them is read again, whatever the texts are.

Main statements: `Report.flat_toJson`, `Compiled.flat_toJson` and `Failure.flat_toJson`.
-/

namespace TaskFilter

open Json (Flat flat_string flat_bool flat_array flat_object flat_strings)

theorem Diagnostic.flat_toJson (d : Diagnostic) : d.toJson.Flat 2 := by
  apply flat_object
  simp only [List.forall_mem_append, List.forall_mem_cons, List.not_mem_nil, false_implies,
    implies_true, and_true]
  refine ⟨⟨⟨flat_string .., flat_string ..⟩, ?_⟩, ?_⟩
  · -- the place, if it is known
    intro member listed
    obtain ⟨path, -, rfl⟩ := Option.map_eq_some_iff.mp (Option.mem_toList.mp listed)
    exact flat_string ..
  · split
    · exact fun member listed => absurd listed List.not_mem_nil
    · rw [List.forall_mem_singleton]
      exact flat_strings _

theorem Report.flat_findingsJson (findings : List Diagnostic) : (findingsJson findings).Flat 3 := by
  apply flat_array
  intro item member
  obtain ⟨finding, -, rfl⟩ := List.mem_map.mp member
  exact finding.flat_toJson

theorem Report.flat_toJson (report : Report) : report.toJson.Flat 4 := by
  apply flat_object
  simp only [List.forall_mem_cons, List.not_mem_nil, false_implies, implies_true, and_true]
  exact ⟨flat_bool .., flat_findingsJson _, flat_findingsJson _⟩

/-- A compiled filter is written with its tree in one more bracket. -/
theorem Compiled.flat_toJson {n : Nat} {compiled : Compiled} (h : compiled.tree.toJson.Flat n)
    (le : 3 ≤ n) : compiled.toJson.Flat (n + 1) := by
  apply flat_object
  simp only [List.forall_mem_cons, List.not_mem_nil, false_implies, implies_true, and_true]
  exact ⟨h, flat_string .., flat_string .., (Report.flat_findingsJson _).mono le⟩

namespace Command.Failure

/-- The findings of a refused filter, under a key, and nothing for any other failure. -/
theorem flat_findings (failure : Failure) (select : Report → List Diagnostic) (key : String) :
    ∀ member ∈ (failure.report?.map fun report =>
      (key, Report.findingsJson (select report))).toList, member.2.Flat 3 := by
  intro member listed
  obtain ⟨report, -, rfl⟩ := Option.map_eq_some_iff.mp (Option.mem_toList.mp listed)
  exact Report.flat_findingsJson _

theorem flat_toJson (failure : Failure) : failure.toJson.Flat 5 := by
  apply flat_object
  rw [List.forall_mem_singleton]
  apply flat_object
  simp only [List.forall_mem_append, List.forall_mem_singleton]
  exact ⟨⟨⟨flat_string .., flat_findings failure _ _⟩, flat_string ..⟩, flat_findings failure _ _⟩

end Command.Failure

end TaskFilter
