import Mathlib.Data.List.ReduceOption
import TaskFilter.Record.Definition

/-!
# What the definitions contribute

The table of definitions applied to a record, written out: which keys are claimed, and which condition each
definition contributes. Everything that is proved about the tree of a record starts from this list.

Main statement: `toTree_eq` says that the tree of a record is the conjunction of its contributions.
-/

namespace TaskFilter.Record

/-! ## Claims -/

/-- Whether today mode decides about the flag and the upper bound of the due date. -/
def todayActive (record : Record) : Bool :=
  (todayBound record).isSome

theorem claimedBy_definitions (record : Record) :
    claimedBy definitions record = todayClaims record := by
  simp [claimedBy, definitions, plain]

theorem flagged_mem_todayClaims (record : Record) :
    Key.flagged ∈ todayClaims record ↔ todayActive record = true := by
  unfold todayClaims todayActive
  split <;> simp_all

theorem dueBefore_mem_todayClaims (record : Record) :
    Key.dueBefore ∈ todayClaims record ↔ todayActive record = true := by
  unfold todayClaims todayActive
  split <;> simp_all

/-! ## Contributions -/

/-- What each definition of the table contributes, in the order of the table. -/
def contributions (record : Record) : List (Option Tree) :=
  [todayCondition record,
   textCondition .id (filled record.id),
   flagCondition .completed record.completed,
   flagCondition .flagged (if todayActive record then none else record.flagged),
   flagCondition .blocked record.blocked,
   flagCondition .available record.available,
   flagCondition .inInbox record.inInbox,
   flagCondition .dropped record.dropped,
   flagCondition .tagStatusValid record.tagStatusValid,
   record.hasRepetitionRule.map (Tree.presence Field.repetitionRule.path),
   textCondition .containingProject record.projectReference,
   tagsCondition record,
   searchCondition record,
   rangeCondition .dueDate record.dueAfter
     (if todayActive record then none else record.dueBefore) record.dueBias,
   rangeCondition .deferDate record.deferAfter record.deferBefore record.deferBias,
   rangeCondition .plannedDate record.plannedAfter record.plannedBefore record.plannedBias,
   rangeCondition .completionDate record.completionAfter record.completionBefore
     record.completionBias]

theorem conditionsBy_definitions (record : Record) :
    conditionsBy definitions record = (contributions record).reduceOption := by
  -- a definition looks at the claims only to ask for its own key, so that two keys decide
  have claims : (definitions.map fun d => d.condition record (todayClaims record)) =
      contributions record := by
    simp only [definitions, contributions, plain, List.map_cons, List.map_nil,
      flagged_mem_todayClaims, dueBefore_mem_todayClaims]
    cases todayActive record <;> rfl
  rw [conditionsBy, claimedBy_definitions, ← claims, List.reduceOption, List.filterMap_map]
  rfl

/-- What holds of a condition for every value holds of the one that a set value contributes. -/
theorem forall_mem_map {α : Type} {p : Tree → Prop} {condition : α → Tree}
    (h : ∀ v, p (condition v)) (value : Option α) : ∀ tree ∈ value.map condition, p tree := by
  intro tree member
  obtain ⟨v, _, rfl⟩ := Option.map_eq_some_iff.mp member
  exact h v

/-- A range asks for the presence of the date, and compares it with bounds. -/
theorem exists_bounds_of_mem_rangeCondition {field : Field} {after before bias : Option String}
    {tree : Tree} (h : tree ∈ rangeCondition field after before bias) :
    ∃ bounds : List Tree, tree = .all (.presence field.path true :: bounds) ∧
      ∀ bound ∈ bounds, ∃ (operator : Operator) (text : String), operator.isOrdering = true ∧
        bound = .comparison field.path operator (.string text) := by
  -- whatever the sign of the range is, both of its operators order
  have lower : (DateBias.ofText bias).lower.isOrdering = true := by
    cases DateBias.ofText bias <;> rfl
  have upper : (DateBias.ofText bias).upper.isOrdering = true := by
    cases DateBias.ofText bias <;> rfl
  unfold rangeCondition at h
  split at h
  · cases h
  · refine ⟨_, (Option.some.inj h).symm, fun bound member => ?_⟩
    rcases List.mem_append.mp member with low | high
    · obtain ⟨text, _, rfl⟩ := Option.map_eq_some_iff.mp (Option.mem_toList.mp low)
      exact ⟨_, text, lower, rfl⟩
    · obtain ⟨text, _, rfl⟩ := Option.map_eq_some_iff.mp (Option.mem_toList.mp high)
      exact ⟨_, text, upper, rfl⟩

/-- The tree of a record is the conjunction of what its definitions contribute. -/
theorem toTree_eq (record : Record) :
    toTree record = conjunction ((contributions record).reduceOption) := by
  rw [toTree, conditionsBy_definitions]

end TaskFilter.Record
