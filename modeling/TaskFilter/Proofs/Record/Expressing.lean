import TaskFilter.Proofs.Record.Contributions
import TaskFilter.Proofs.Script.Emitting

/-!
# Records can be expressed

Every condition that a definition contributes has an expression in either dialect, whatever texts the
record holds. Hence the tree of a record has one, even if its dates are none.
-/

namespace TaskFilter.Record

open TaskFilter.Script

variable (dialect : Dialect) (record : Record)

/-! ## Single conditions -/

/-- A truth value can be compared with any field of truth values, derived or not. -/
theorem expressible_equals_bool {field : Field} (h : field.kind = .boolean) (value : Bool) :
    Expressible dialect (equals field (.bool value)) := by
  have noProject : field ≠ .containingProject := by
    rintro rfl
    cases h
  rw [Expressible, equals]
  cases derived : derivedPredicate? dialect field with
  | none =>
    -- the field is a property, and properties of truth values can be compared
    have held : expands dialect field = false := by simp [expands, noProject, derived]
    rw [emit_comparison_property dialect held]
    exact ⟨_, by simp only [propertyAtom, h]; rfl⟩
  | some predicate =>
    -- a predicate takes the place of the comparison, or its negation does
    have expanded : derivedComparison? dialect field .eq (.bool value) =
        some (truthComparison dialect field predicate .eq (.bool value)) := by
      simp [derivedComparison?, noProject, derived]
    rw [emit_comparison_derived dialect expanded]
    exact ⟨_, rfl⟩

theorem expressible_id (value : String) : Expressible dialect (equals .id (.string value)) := by
  have held : expands dialect .id = false := by cases dialect <;> decide
  exact ⟨_, emit_comparison_property dialect held ..⟩

theorem expressible_project (reference : String) :
    Expressible dialect (equals .containingProject (.string reference)) :=
  ⟨_, emit_comparison_derived dialect rfl⟩

theorem expressible_repetition (present : Bool) :
    Expressible dialect (.presence Field.repetitionRule.path present) :=
  ⟨_, emit_presence_path ..⟩

theorem expressible_tags {operator : Operator} (set : operator.isSetMatch = true)
    (names : List String) :
    Expressible dialect (.comparison Field.tags.path operator (.array names)) := by
  have held : expands dialect .tags = false := by cases dialect <;> decide
  rw [Expressible, emit_comparison_property dialect held]
  cases operator <;> simp_all [propertyAtom, needSet, Operator.isSetMatch, Field.kind, Except.map]

theorem expressible_search {field : Field} (h : field.kind = .string)
    (held : expands dialect field = false) {operator : Operator}
    (search : operator.isTextMatch = true) (term : String) :
    Expressible dialect (.comparison field.path operator (.string term)) := by
  rw [Expressible, emit_comparison_property dialect held]
  cases operator <;> simp_all [propertyAtom, needString, Operator.isTextMatch, Except.map]

theorem expressible_date_presence {field : Field} (h : field.kind = .date) (present : Bool) :
    Expressible dialect (.presence field.path present) := by
  rw [Expressible, emit_presence_path]
  simp [(expands_eq_false_of_date dialect h).2, h]

theorem expressible_date {field : Field} (h : field.kind = .date) {operator : Operator}
    (ordering : operator.isOrdering = true) (bound : String) :
    Expressible dialect (.comparison field.path operator (.string bound)) := by
  have held := (expands_eq_false_of_date dialect h).1
  rw [Expressible, emit_comparison_property dialect held, propertyAtom_date dialect h ordering]
  exact ⟨_, rfl⟩

/-! ## Contributions -/

theorem expressible_of_flag {field : Field} (h : field.kind = .boolean) (flag : Option Bool) :
    ∀ tree ∈ flagCondition field flag, Expressible dialect tree :=
  forall_mem_map (expressible_equals_bool dialect h) flag

theorem expressible_of_today : ∀ tree ∈ todayCondition record, Expressible dialect tree := by
  refine forall_mem_map (fun bound => ?_) _
  have ordering : (DateBias.ofText record.dueBias).upper.isOrdering = true := by
    cases DateBias.ofText record.dueBias <;> rfl
  simp only [expressible_any_iff, expressible_all_iff, List.forall_mem_cons, List.not_mem_nil,
    false_implies, implies_true, and_true]
  exact ⟨⟨expressible_date_presence dialect rfl true, expressible_date dialect rfl ordering bound⟩,
    expressible_equals_bool dialect rfl true⟩

theorem expressible_of_tags : ∀ tree ∈ tagsCondition record, Expressible dialect tree := by
  refine forall_mem_map (fun tags => ?_) _
  cases record.tagRule.getD .any with
  | all => exact expressible_tags dialect rfl tags
  | any => exact expressible_tags dialect rfl tags
  | none => exact (expressible_not_iff ..).mpr (expressible_tags dialect rfl tags)

theorem expressible_of_search : ∀ tree ∈ searchCondition record, Expressible dialect tree := by
  have held : expands dialect .name = false ∧ expands dialect .note = false := by
    cases dialect <;> decide
  refine forall_mem_map (fun term => ?_) _
  cases record.textRule.getD .contains with
  | contains | regex =>
    simp only [expressible_any_iff, List.forall_mem_cons, List.not_mem_nil, false_implies,
      implies_true, and_true]
    exact ⟨expressible_search dialect rfl held.1 rfl term,
      expressible_search dialect rfl held.2 rfl term⟩

theorem expressible_of_range {field : Field} (h : field.kind = .date)
    (after before bias : Option String) :
    ∀ tree ∈ rangeCondition field after before bias, Expressible dialect tree := by
  intro tree member
  obtain ⟨bounds, rfl, compared⟩ := exists_bounds_of_mem_rangeCondition member
  refine (expressible_all_iff ..).mpr (List.forall_mem_cons.mpr ⟨?_, fun bound listed => ?_⟩)
  · exact expressible_date_presence dialect h true
  · obtain ⟨operator, text, ordering, rfl⟩ := compared bound listed
    exact expressible_date dialect h ordering text

/-- Every contribution has an expression. -/
theorem expressible_of_contributions :
    ∀ condition ∈ contributions record, ∀ tree ∈ condition, Expressible dialect tree := by
  simp only [contributions, List.forall_mem_cons, List.not_mem_nil, false_implies, implies_true,
    and_true]
  have flag : ∀ {field : Field}, field.kind = .boolean → ∀ value,
      ∀ tree ∈ flagCondition field value, Expressible dialect tree := expressible_of_flag dialect
  have range : ∀ {field : Field}, field.kind = .date → ∀ after before bias,
      ∀ tree ∈ rangeCondition field after before bias, Expressible dialect tree :=
    expressible_of_range dialect
  -- one entry for each row of the table
  exact ⟨expressible_of_today dialect record, forall_mem_map (expressible_id dialect) _,
    flag rfl _, flag rfl _, flag rfl _, flag rfl _, flag rfl _, flag rfl _, flag rfl _,
    forall_mem_map (expressible_repetition dialect) _,
    forall_mem_map (expressible_project dialect) _, expressible_of_tags dialect record,
    expressible_of_search dialect record, range rfl _ _ _, range rfl _ _ _, range rfl _ _ _,
    range rfl _ _ _⟩

/-! ## The tree -/

theorem expressible_conjunction {conditions : List Tree}
    (h : ∀ condition ∈ conditions, Expressible dialect condition) :
    Expressible dialect (conjunction conditions) := by
  match conditions with
  | [] => exact ⟨_, rfl⟩
  | [condition] => exact h condition (List.mem_singleton_self _)
  | first :: second :: rest => exact (expressible_all_iff ..).mpr h

/-- The tree of a record has an expression, whatever the record holds. -/
theorem expressible_toTree : Expressible dialect record.toTree := by
  rw [toTree_eq]
  apply expressible_conjunction
  intro tree member
  have listed := List.reduceOption_mem_iff.mp member
  exact expressible_of_contributions dialect record (some tree) listed tree rfl

end TaskFilter.Record
