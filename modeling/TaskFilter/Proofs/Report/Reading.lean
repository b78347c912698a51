import TaskFilter.Proofs.Json.Members
import TaskFilter.Proofs.Report.Writing

/-!
# Reports are read again

What is written of a finding or of a report is read as the same finding or report, whatever the texts in it
are: a place that is not known and suggestions that are not made are left out and missed by no one.

## Layers

- **Findings**: one lemma for each slot of a finding, and `Diagnostic.read_ofJson`.
- **Reports**: `Report.read_ofJson`, and the same for texts, `Report.ofText_of_spells_toJson`.
-/

namespace TaskFilter

open Json

namespace Diagnostic

section

variable {seen : List String} {draft : Draft} {rest : List (Option String × Document)}

theorem fillMembers_kind (kind : Kind) (fresh : seen.contains "kind" = false) :
    layout.fillMembers seen draft ((some "kind", .ofJson (.string kind.name)) :: rest) =
      layout.fillMembers ("kind" :: seen) { draft with kind := some kind } rest := by
  have named : (Document.ofJson (.string kind.name)).readName kindNamed = .ok kind := by
    show (kindNamed kind.name).mapError _ = _
    rw [kindNamed, Kind.ofName?_name]
    rfl
  exact Layout.fillMembers_of_slot rfl fresh (bind_eq_ok_iff.mpr ⟨kind, named, rfl⟩)

theorem fillMembers_message (message : String) (fresh : seen.contains "message" = false) :
    layout.fillMembers seen draft ((some "message", .ofJson (.string message)) :: rest) =
      layout.fillMembers ("message" :: seen) { draft with message := some message } rest :=
  Layout.fillMembers_of_slot rfl fresh rfl

theorem fillMembers_path (path : String) (fresh : seen.contains "path" = false) :
    layout.fillMembers seen draft ((some "path", .ofJson (.string path)) :: rest) =
      layout.fillMembers ("path" :: seen) { draft with path := some path } rest :=
  Layout.fillMembers_of_slot rfl fresh rfl

theorem fillMembers_suggestions (suggestions : List String)
    (fresh : seen.contains "suggestions" = false) :
    layout.fillMembers seen draft ((some "suggestions", .ofJson (.strings suggestions)) :: rest) =
      layout.fillMembers ("suggestions" :: seen) { draft with suggestions } rest :=
  Layout.fillMembers_of_slot rfl fresh (bind_eq_ok_iff.mpr
    ⟨suggestions, Document.readList_ofJson (fun _ => rfl) suggestions, rfl⟩)

end

/-- The members of a finding fill the slots that they belong to, and the other slots stay empty. -/
theorem exists_filled (d : Diagnostic) :
    ∃ members, Document.ofJson d.toJson = .object members true ∧
      layout.fillMembers [] {} members = .ok ⟨some d.kind, some d.message, d.path, d.suggestions⟩ := by
  obtain ⟨kind, message, path, suggestions⟩ := d
  refine ⟨_, rfl, ?_⟩
  dsimp only
  rw [List.append_assoc, List.cons_append, Document.ofMembers, fillMembers_kind kind rfl,
    List.cons_append, Document.ofMembers, fillMembers_message message rfl]
  cases path with
  | none =>
    cases suggestions with
    | nil => rfl
    | cons first others => exact fillMembers_suggestions _ rfl
  | some path =>
    cases suggestions with
    | nil => exact fillMembers_path path rfl
    | cons first others => exact (fillMembers_path path rfl).trans (fillMembers_suggestions _ rfl)

theorem read_ofJson (d : Diagnostic) : read (Document.ofJson d.toJson) = .ok d := by
  obtain ⟨members, object, filled⟩ := d.exists_filled
  rw [object, read, Layout.read_object filled rfl]
  rfl

end Diagnostic

namespace Report

theorem readList_findingsJson (findings : List Diagnostic) :
    (Document.ofJson (findingsJson findings)).readList Diagnostic.read = .ok findings :=
  Document.readList_ofJson Diagnostic.read_ofJson findings

theorem read_ofJson (report : Report) : read (Document.ofJson report.toJson) = .ok report := by
  obtain ⟨valid, errors, warnings⟩ := report
  have readErrors := readList_findingsJson errors
  have readWarnings := readList_findingsJson warnings
  have filled : layout.fillMembers [] {} (Document.ofMembers [("valid", .bool valid),
      ("errors", findingsJson errors), ("warnings", findingsJson warnings)]) =
        .ok ⟨some valid, some errors, some warnings⟩ :=
    calc
      _ = layout.fillMembers ["valid"] { valid := some valid } (Document.ofMembers
            [("errors", findingsJson errors), ("warnings", findingsJson warnings)]) :=
        Layout.fillMembers_of_slot rfl rfl rfl
      _ = layout.fillMembers ["errors", "valid"] { valid := some valid, errors := some errors }
            (Document.ofMembers [("warnings", findingsJson warnings)]) :=
        Layout.fillMembers_of_slot rfl rfl (bind_eq_ok_iff.mpr ⟨errors, readErrors, rfl⟩)
      _ = layout.fillMembers ["warnings", "errors", "valid"]
            ⟨some valid, some errors, some warnings⟩ [] :=
        Layout.fillMembers_of_slot rfl rfl (bind_eq_ok_iff.mpr ⟨warnings, readWarnings, rfl⟩)
  rw [toJson, Document.ofJson, read, Layout.read_object filled rfl]
  rfl

/-- A text of a report is read as the report. -/
theorem ofText_of_spells_toJson {text : String} {report : Report} (written : Spells text report.toJson) :
    ofText text = .ok report := by
  rw [ofText, Source.read_of_spelled (Document.isWhole_ofJson _) written]
  exact report.read_ofJson

end Report

end TaskFilter
