import TaskFilter.Proofs.Json.Texts
import TaskFilter.Proofs.Record.Contributions
import TaskFilter.Proofs.Tree.Spelling

/-!
# Records' trees as they are written

The tree of a record can be printed and read back, whatever texts the record holds: there is no number in
it, and a few brackets are enough for all of it.

## Layers

- **Conditions and groups**: the brackets around each part of what a record's tree is built from.
- **Contributions**: `flat_of_contributions`, one entry for each row of the table.
- **Main statement**: `flat_toTree`.
-/

namespace TaskFilter

namespace Tree

/-! ## Conditions and groups -/

theorem flat_literal (value : Bool) : (literal value).toJson.Flat 1 := by
  apply Json.flat_object
  simp only [List.forall_mem_cons, List.not_mem_nil, false_implies, implies_true, and_true]
  exact ⟨Json.flat_string .., Json.flat_bool ..⟩

theorem flat_presence (path : String) (present : Bool) : (presence path present).toJson.Flat 1 := by
  apply Json.flat_object
  simp only [List.forall_mem_cons, List.not_mem_nil, false_implies, implies_true, and_true]
  exact ⟨Json.flat_string .., Json.flat_string .., Json.flat_bool ..⟩

theorem flat_comparison {n : Nat} {operand : Operand} (h : operand.toJson.Flat n) (path : String)
    (operator : Operator) : (comparison path operator operand).toJson.Flat (n + 1) := by
  apply Json.flat_object
  simp only [List.forall_mem_cons, List.not_mem_nil, false_implies, implies_true, and_true]
  exact ⟨Json.flat_string .., Json.flat_string .., Json.flat_string .., h⟩

theorem flat_not {n : Nat} {child : Tree} (h : child.toJson.Flat n) :
    (not child).toJson.Flat (n + 1) := by
  apply Json.flat_object
  simp only [List.forall_mem_cons, List.not_mem_nil, false_implies, implies_true, and_true]
  exact ⟨Json.flat_string .., h⟩

theorem toJsons_eq_map (trees : List Tree) : toJsons trees = trees.map toJson := by
  induction trees with
  | nil => rfl
  | cons tree trees ih => rw [toJsons, ih, List.map_cons]

section Groups

variable {n : Nat} {children : List Tree} (h : ∀ child ∈ children, child.toJson.Flat n)

include h

/-- Two brackets stand around the children of a group: its own, and that of the list. -/
theorem flat_group (name : String) :
    (Json.object [("type", .string name), ("children", .array (toJsons children))]).Flat (n + 2) := by
  apply Json.flat_object
  simp only [List.forall_mem_cons, List.not_mem_nil, false_implies, implies_true, and_true]
  refine ⟨Json.flat_string .., Json.flat_array ?_⟩
  rw [toJsons_eq_map, List.forall_mem_map]
  exact h

theorem flat_all : (all children).toJson.Flat (n + 2) :=
  flat_group h "and"

theorem flat_any : (any children).toJson.Flat (n + 2) :=
  flat_group h "or"

end Groups

end Tree

namespace Record

open TaskFilter.Tree

/-! ## Contributions -/

theorem flat_bool (path : String) (operator : Operator) (value : Bool) :
    (comparison path operator (.bool value)).toJson.Flat 1 :=
  flat_comparison (Json.flat_bool value 0) path operator

theorem flat_string (path : String) (operator : Operator) (value : String) :
    (comparison path operator (.string value)).toJson.Flat 1 :=
  flat_comparison (Json.flat_string value 0) path operator

theorem flat_array (path : String) (operator : Operator) (items : List String) :
    (comparison path operator (.array items)).toJson.Flat 2 :=
  flat_comparison (Json.flat_strings items) path operator

theorem flat_of_today (record : Record) : ∀ tree ∈ todayCondition record, tree.toJson.Flat 5 := by
  refine forall_mem_map (fun bound => ?_) _
  apply flat_any (n := 3)
  simp only [List.forall_mem_cons, List.not_mem_nil, false_implies, implies_true, and_true]
  refine ⟨flat_all (n := 1) ?_, (flat_bool ..).mono (by omega)⟩
  simp only [List.forall_mem_cons, List.not_mem_nil, false_implies, implies_true, and_true]
  exact ⟨flat_presence .., flat_string ..⟩

theorem flat_of_tags (record : Record) : ∀ tree ∈ tagsCondition record, tree.toJson.Flat 5 := by
  refine forall_mem_map (fun tags => ?_) _
  cases record.tagRule.getD .any with
  | all | any => exact (flat_array ..).mono (by omega)
  | none => exact (flat_not (flat_array ..)).mono (by omega)

theorem flat_of_search (record : Record) : ∀ tree ∈ searchCondition record, tree.toJson.Flat 5 := by
  refine forall_mem_map (fun term => ?_) _
  apply Json.Flat.mono (flat_any (n := 1) _) (by omega)
  simp only [List.forall_mem_cons, List.not_mem_nil, false_implies, implies_true, and_true]
  exact ⟨flat_string .., flat_string ..⟩

theorem flat_of_range {field : Field} (after before bias : Option String) :
    ∀ tree ∈ rangeCondition field after before bias, tree.toJson.Flat 5 := by
  intro tree member
  obtain ⟨bounds, rfl, compared⟩ := exists_bounds_of_mem_rangeCondition member
  apply Json.Flat.mono (flat_all (n := 1) _) (by omega)
  refine List.forall_mem_cons.mpr ⟨flat_presence .., fun bound listed => ?_⟩
  obtain ⟨operator, text, -, rfl⟩ := compared bound listed
  exact flat_string ..

/-- Every contribution is flat. -/
theorem flat_of_contributions (record : Record) :
    ∀ condition ∈ contributions record, ∀ tree ∈ condition, tree.toJson.Flat 5 := by
  simp only [contributions, List.forall_mem_cons, List.not_mem_nil, false_implies, implies_true,
    and_true]
  have flag : ∀ field value, ∀ tree ∈ flagCondition field value, tree.toJson.Flat 5 :=
    fun field value => forall_mem_map (fun b => (flat_bool ..).mono (by omega)) value
  have text : ∀ field value, ∀ tree ∈ textCondition field value, tree.toJson.Flat 5 :=
    fun field value => forall_mem_map (fun s => (flat_string ..).mono (by omega)) value
  have asked : ∀ value : Option Bool,
      ∀ tree ∈ value.map (presence Field.repetitionRule.path), tree.toJson.Flat 5 :=
    fun value => forall_mem_map (fun b => (flat_presence ..).mono (by omega)) value
  -- one entry for each row of the table
  exact ⟨flat_of_today record, text _ _, flag _ _, flag _ _, flag _ _, flag _ _, flag _ _, flag _ _,
    flag _ _, asked _, text _ _, flat_of_tags record, flat_of_search record,
    flat_of_range _ _ _, flat_of_range _ _ _, flat_of_range _ _ _, flat_of_range _ _ _⟩

/-! ## The tree -/

theorem flat_conjunction {conditions : List Tree} {n : Nat}
    (h : ∀ condition ∈ conditions, condition.toJson.Flat n) :
    (conjunction conditions).toJson.Flat (n + 2) := by
  match conditions with
  | [] => exact (flat_literal true).mono (by omega)
  | [condition] => exact (h condition (List.mem_singleton_self _)).mono (by omega)
  | first :: second :: rest => exact flat_all h

/-- The tree of a record is flat, whatever the record holds. -/
theorem flat_toTree (record : Record) : record.toTree.toJson.Flat 7 := by
  rw [toTree_eq]
  apply flat_conjunction
  intro tree member
  exact flat_of_contributions record (some tree) (List.reduceOption_mem_iff.mp member) tree rfl

end Record

end TaskFilter
