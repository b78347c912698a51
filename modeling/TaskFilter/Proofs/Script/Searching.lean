import TaskFilter.Proofs.Script.Emitting
import TaskFilter.Proofs.Script.Valuation
import TaskFilter.Proofs.Text.FinalSigma

/-!
# Searching texts for a term

A search compares lower case with lower case: the term is lowered when it is written down, and the text
when the script runs. What it finds is therefore decided by how lower case treats a part of a text
(`Text.forall_lower_infix_iff_settled`).

Main statement: `forall_holdsOf_contains_iff_settled`. A term is found wherever it stands, unless one of its
capital sigmas has a lower-case form that depends on the text around the term.
-/

namespace TaskFilter.Script

variable {dialect : Dialect}

/-- The task answers searches as the script does: the text of the property, in lower case, contains what is
written down. -/
def Searches (task : Valuation) : Prop :=
  ∀ property term text, task.value property = .string text →
    (Atom.contains property term).holdsOf task =
      Text.occursIn term.toList (Text.lower text).toList

/-- A task in which every property holds the same text. -/
def withText (text : String) : Valuation where
  value _ := .string text
  answer
    | .contains _ term => Text.occursIn term.toList (Text.lower text).toList
    | _ => true

theorem searches_withText (text : String) : Searches (withText text) := by
  intro property term other same
  obtain rfl : text = other := Value.string.inj same
  rfl

theorem emit_contains {field : Field} (searched : field = .name ∨ field = .note) (term : String) :
    emit dialect (.comparison field.path .contains (.string term)) =
      .ok (.atom (.contains (dialect.accessor field.path) (Text.lower term))) := by
  have held : expands dialect field = false := by
    rcases searched with rfl | rfl <;> cases dialect <;> rfl
  rw [emit_comparison_property dialect held]
  rcases searched with rfl | rfl <;> rfl

/-- A search of a name or a note for a term is true of every task whose text contains the term as it is
written, exactly if the term settles its capital sigmas. -/
theorem forall_holdsOf_contains_iff_settled {field : Field} (searched : field = .name ∨ field = .note)
    (term : String) :
    ∃ e, emit dialect (.comparison field.path .contains (.string term)) = .ok e ∧
      ((∀ task text, Searches task → task.value (dialect.accessor field.path) = .string text →
        term.toList <:+: text.toList → e.holdsOf task = true) ↔ Text.Settled term.toList) := by
  refine ⟨_, emit_contains searched term, ?_⟩
  rw [← Text.forall_lower_infix_iff_settled]
  constructor
  · intro found text inside
    have holds := found (withText text) text (searches_withText text) rfl inside
    rw [Expr.holdsOf, searches_withText text _ _ text rfl] at holds
    exact (Text.occursIn_iff _ _).mp holds
  · intro found task text searches value inside
    rw [Expr.holdsOf, searches _ _ text value]
    exact (Text.occursIn_iff _ _).mpr (found text inside)

/-- A sigma between a letter and a blank is settled. -/
theorem forall_holdsOf_contains_iff_settled_between :
    ∃ e, emit .omnijs (.comparison Field.note.path .contains (.string "ΟΔΟΣ 7")) = .ok e ∧
      ∀ task text, Searches task → task.value "task.note" = .string text →
        "ΟΔΟΣ 7".toList <:+: text.toList → e.holdsOf task = true := by
  have settled : Text.Settled "ΟΔΟΣ 7".toList := by
    intro before after split
    have once : ['Ο', 'Δ', 'Ο'] ++ 'Σ' :: [' ', '7'] = before ++ 'Σ' :: after := split
    rw [List.append_cons_inj_of_notMem (by decide) (by decide)] at once
    obtain ⟨rfl, -, rfl⟩ := once
    exact .inr (.inr (by decide +kernel))
  obtain ⟨e, emitted, found⟩ := forall_holdsOf_contains_iff_settled (.inr rfl) "ΟΔΟΣ 7"
  exact ⟨e, emitted, found.mpr settled⟩

/-- A sigma that ends a word of the text is not found by a search for the sigma alone. -/
theorem not_holdsOf_contains_final_sigma :
    ∃ e, emit .jxa (.comparison Field.name.path .contains (.string "Σ")) = .ok e ∧
      "Σ".toList <:+: "ΟΔΟΣ".toList ∧ Searches (withText "ΟΔΟΣ") ∧
      (withText "ΟΔΟΣ").value (Dialect.jxa.accessor Field.name.path) = .string "ΟΔΟΣ" ∧
      e.holdsOf (withText "ΟΔΟΣ") = false := by
  refine ⟨_, emit_contains (.inl rfl) "Σ", ⟨['Ο', 'Δ', 'Ο'], [], by decide⟩, searches_withText _,
    rfl, ?_⟩
  rw [Expr.holdsOf, searches_withText _ _ _ _ rfl]
  decide +kernel

end TaskFilter.Script
