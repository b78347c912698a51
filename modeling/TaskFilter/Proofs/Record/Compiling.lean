import TaskFilter.Compilation
import TaskFilter.Proofs.Record.Expressing
import TaskFilter.Proofs.Record.Meaning
import TaskFilter.Proofs.Validation.Causes

/-!
# Compiling records

A record is compiled unless one of its dates is none; nothing else in it can be wrong.

## Layers

- **Dates**: the texts that a record holds for dates, and those that cannot be read.
- **Causes**: what can be wrong with a contribution, and the absence of conflicts between contributions.
- **Main statement**: `compile_record`, the outcome for every record and dialect.
-/

namespace TaskFilter.Record

open TaskFilter.Validation

/-! ## The dates of a record -/

/-- A key that holds a date, with the field it bounds and its text. -/
structure DateEntry where
  key : Key
  field : Field
  text : Option String

def dateEntries (record : Record) : List DateEntry :=
  [⟨.dueAfter, .dueDate, record.dueAfter⟩,
   ⟨.dueBefore, .dueDate, record.dueBefore⟩,
   ⟨.deferAfter, .deferDate, record.deferAfter⟩,
   ⟨.deferBefore, .deferDate, record.deferBefore⟩,
   ⟨.plannedAfter, .plannedDate, record.plannedAfter⟩,
   ⟨.plannedBefore, .plannedDate, record.plannedBefore⟩,
   ⟨.completionAfter, .completionDate, record.completionAfter⟩,
   ⟨.completionBefore, .completionDate, record.completionBefore⟩]

/-- Every text that is set for a date is one. -/
def DatesRead (record : Record) : Prop :=
  ∀ entry ∈ dateEntries record, ∀ text, IsFilled entry.text text → Date.isDate text = true

/-- The text of a key, if it is set and no date. -/
def unread? (text : Option String) : Option String :=
  (filled text).filter fun text => !Date.isDate text

/-- The error that a key deserves: its text is no date. -/
def DateEntry.error? (entry : DateEntry) : Option (Diagnostic.Kind × String) :=
  (unread? entry.text).map fun text =>
    (.typeMismatch,
      "field '" ++ entry.field.path ++ "' expects an ISO-8601 date, found '" ++ text ++ "'")

/-- What is said about the text of a date: nothing, unless it is set and no date. -/
def dateCauses (field : Field) (text : Option String) : List Finding :=
  (unread? text).toList.map (Finding.noDate field)

/-- What is said about the dates of a record, key by key. -/
def unreadDates (record : Record) : List Finding :=
  (dateEntries record).flatMap fun entry => dateCauses entry.field entry.text

theorem unread?_eq_none_iff (text : Option String) :
    unread? text = none ↔ ∀ value, IsFilled text value → Date.isDate value = true := by
  simp [unread?, Option.filter_eq_none_iff, filled_eq_some_iff]

theorem unreadDates_eq_nil_iff (record : Record) :
    unreadDates record = [] ↔ DatesRead record := by
  simp [unreadDates, dateCauses, DatesRead, unread?_eq_none_iff]

theorem exists_noDate_of_mem_unreadDates {record : Record} {finding : Finding}
    (h : finding ∈ unreadDates record) : ∃ field text, finding = .noDate field text := by
  obtain ⟨entry, _, listed⟩ := List.mem_flatMap.mp h
  obtain ⟨text, _, rfl⟩ := List.mem_map.mp listed
  exact ⟨entry.field, text, rfl⟩

/-- The words of the findings are the errors that the keys deserve. -/
theorem unreadDates_map_message (record : Record) :
    (unreadDates record).map (fun finding => (finding.kind, finding.message)) =
      (dateEntries record).filterMap DateEntry.error? := by
  rw [unreadDates, List.map_flatMap, List.filterMap_eq_flatMap_toList]
  congr 1
  funext entry
  unfold dateCauses DateEntry.error?
  cases unread? entry.text <;> rfl

/-! ## Causes in the contributions -/

def causesOf (condition : Option Tree) : List Finding :=
  condition.toList.flatMap causes

theorem causesOf_map {α : Type} {condition : α → Tree} (h : ∀ v, causes (condition v) = [])
    (value : Option α) : causesOf (value.map condition) = [] := by
  cases value <;> simp [causesOf, h]

theorem causes_equals_bool (field : Field) (h : field.kind = .boolean) (value : Bool) :
    causes (equals field (.bool value)) = [] := by
  rw [equals, causes_comparison, comparisonFinding?_path _ rfl]
  unfold fieldMismatch?
  rw [h]
  rfl

theorem suits_string (operator : Operator) (text : String) :
    suits operator (.string text) = true := by
  cases operator <;> rfl

theorem causes_text {field : Field} (h : field.kind = .string) (operator : Operator)
    (text : String) : causes (.comparison field.path operator (.string text)) = [] := by
  rw [causes_comparison, comparisonFinding?_path _ (suits_string operator text)]
  unfold fieldMismatch?
  rw [h]
  rfl

theorem causes_tags {operator : Operator} (set : operator.isSetMatch = true) (tags : List String) :
    causes (.comparison Field.tags.path operator (.array tags)) = [] := by
  rw [causes_comparison, comparisonFinding?_path _ (by rw [suits, if_pos set])]
  rfl

theorem causes_presence_path (field : Field) (present : Bool) :
    causes (.presence field.path present) = [] := by
  rw [causes_presence, presenceFinding?_path]
  rfl

/-- A date is wrong exactly if it cannot be read. -/
theorem causes_date (field : Field) (h : field.kind = .date) (operator : Operator)
    (text : String) :
    causes (.comparison field.path operator (.string text)) =
      if Date.isDate text then [] else [.noDate field text] := by
  rw [causes_comparison, comparisonFinding?_path _ (suits_string operator text)]
  unfold fieldMismatch?
  rw [h]
  dsimp only
  cases Date.isDate text <;> rfl

theorem causesOf_flag (field : Field) (h : field.kind = .boolean) (flag : Option Bool) :
    causesOf (flagCondition field flag) = [] :=
  causesOf_map (causes_equals_bool field h) flag

theorem causesOf_text (field : Field) (h : field.kind = .string) (text : Option String) :
    causesOf (textCondition field text) = [] :=
  causesOf_map (causes_text h .eq) text

theorem causesOf_tags (record : Record) : causesOf (tagsCondition record) = [] := by
  refine causesOf_map (fun tags => ?_) _
  cases record.tagRule.getD .any with
  | all => exact causes_tags rfl tags
  | any => exact causes_tags rfl tags
  | none => exact (causes_not _).trans (causes_tags rfl tags)

theorem causesOf_search (record : Record) : causesOf (searchCondition record) = [] := by
  refine causesOf_map (fun term => ?_) _
  rw [causes_any (by simp), List.flatMap_cons, List.flatMap_cons, causes_text rfl, causes_text rfl]
  rfl

theorem causesOf_today (record : Record) :
    causesOf (todayCondition record) = dateCauses .dueDate (todayBound record) := by
  unfold todayCondition dateCauses unread?
  -- the bound of today mode is never empty, so that filling it in again changes nothing
  have filledBound : filled (todayBound record) = todayBound record := by
    unfold todayBound filled
    split <;> simp
  rw [filledBound]
  cases todayBound record with
  | none => rfl
  | some bound =>
    -- of the three conditions that today mode adds, only the comparison with the bound can fail
    have dated := causes_date .dueDate rfl (DateBias.ofText record.dueBias).upper bound
    have flagged := causes_equals_bool .flagged rfl true
    simp only [causesOf, Option.map_some, Option.toList_some, List.flatMap_singleton]
    rw [causes_any (by simp), List.flatMap_cons, causes_all (by simp)]
    cases read : Date.isDate bound <;>
      simp [dated, flagged, read, causes_presence_path, Option.filter]

theorem causesOf_range (field : Field) (h : field.kind = .date) (after before bias : Option String) :
    causesOf (rangeCondition field after before bias) =
      dateCauses field after ++ dateCauses field before := by
  -- both bounds are treated alike, whatever their operators are
  have bounds : ∀ (operator : Operator) (bound : Option String),
      (bound.map fun text => Tree.comparison field.path operator (.string text)).toList.flatMap
        causes = (bound.filter fun text => !Date.isDate text).toList.map (Finding.noDate field) := by
    intro operator bound
    cases bound with
    | none => rfl
    | some text =>
      cases read : Date.isDate text <;> simp [causes_date field h, read, Option.filter]
  unfold rangeCondition dateCauses unread?
  split
  · next lowest highest => simp [causesOf, lowest, highest]
  · simp only [causesOf, Option.toList_some, List.flatMap_singleton]
    rw [causes_all (by simp), List.flatMap_cons, List.flatMap_append, bounds, bounds,
      causes_presence_path]
    rfl

/-! ## Causes in the tree -/

theorem causes_conjunction (conditions : List Tree) :
    causes (conjunction conditions) = conditions.flatMap causes := by
  match conditions with
  | [] => rfl
  | [condition] => simp [conjunction]
  | first :: second :: rest => exact causes_all (by simp)

theorem flatMap_reduceOption (conditions : List (Option Tree)) :
    conditions.reduceOption.flatMap causes = conditions.flatMap causesOf := by
  rw [List.reduceOption, List.filterMap_eq_flatMap_toList, List.flatMap_assoc]
  rfl

/-- The bound that today mode reads is one of the due date, and is left out of its range. -/
theorem dateCauses_dueBefore (record : Record) :
    (todayActive record = true ∧
        dateCauses .dueDate (todayBound record) = dateCauses .dueDate record.dueBefore) ∨
      (todayActive record = false ∧ dateCauses .dueDate (todayBound record) = []) := by
  unfold todayActive todayBound
  split
  · cases bound : filled record.dueBefore with
    | none => exact .inr ⟨rfl, rfl⟩
    | some text =>
      refine .inl ⟨rfl, ?_⟩
      have set := (filled_eq_some_iff ..).mp bound
      rw [set.1]
  · exact .inr ⟨rfl, rfl⟩

/-- What is wrong with the tree of a record is what is wrong with its dates. -/
theorem causes_toTree (record : Record) : (causes record.toTree).Perm (unreadDates record) := by
  have repetition : causesOf (record.hasRepetitionRule.map
      (Tree.presence Field.repetitionRule.path)) = [] :=
    causesOf_map (causes_presence_path _) _
  rw [toTree_eq, causes_conjunction, flatMap_reduceOption]
  simp only [contributions, List.flatMap_cons, List.flatMap_nil, causesOf_today, causesOf_tags,
    causesOf_search, causesOf_range .dueDate rfl, causesOf_range .deferDate rfl,
    causesOf_range .plannedDate rfl, causesOf_range .completionDate rfl,
    causesOf_text .id rfl, causesOf_text .containingProject rfl, repetition,
    causesOf_flag .completed rfl, causesOf_flag .flagged rfl,
    causesOf_flag .blocked rfl, causesOf_flag .available rfl,
    causesOf_flag .inInbox rfl, causesOf_flag .dropped rfl,
    causesOf_flag .tagStatusValid rfl, List.nil_append, List.append_nil,
    unreadDates, dateEntries, List.append_assoc]
  -- only the upper bound of the due date can stand in two places
  obtain ⟨active, bound⟩ | ⟨active, bound⟩ := dateCauses_dueBefore record
  · rw [active, bound, if_pos rfl]
    exact List.perm_append_comm_assoc ..
  · rw [active, bound, if_neg (by simp)]
    exact List.Perm.refl _

/-! ## Conflicts -/

/-- The paths that a contribution compares for equality. -/
def equatedPaths (condition : Option Tree) : List String :=
  ((condition.bind equality?).map Prod.fst).toList

/-- The paths that the contributions of the table can compare for equality at most. -/
def equatable : List (List String) :=
  [[], [Field.id.path], [Field.completed.path], [Field.flagged.path], [Field.blocked.path],
   [Field.available.path], [Field.inInbox.path], [Field.dropped.path], [Field.tagStatusValid.path],
   [], [Field.containingProject.path], [], [], [], [], [], []]

theorem equatedPaths_map {α : Type} {condition : α → Tree} {paths : List String}
    (h : ∀ v, ((equality? (condition v)).map Prod.fst).toList = paths) (value : Option α) :
    (equatedPaths (value.map condition)).Sublist paths := by
  cases value with
  | none => exact List.nil_sublist _
  | some v => exact (h v ▸ List.Sublist.refl _)

theorem equatedPaths_range (field : Field) (after before bias : Option String) :
    equatedPaths (rangeCondition field after before bias) = [] := by
  unfold rangeCondition
  split <;> rfl

theorem equatedPaths_tags (record : Record) : (equatedPaths (tagsCondition record)).Sublist [] := by
  refine equatedPaths_map (fun tags => ?_) _
  cases record.tagRule.getD .any <;> rfl

theorem equatedPaths_contributions (record : Record) :
    List.Forall₂ (fun condition paths => (equatedPaths condition).Sublist paths)
      (contributions record) equatable := by
  have today : (equatedPaths (todayCondition record)).Sublist [] := by
    refine equatedPaths_map (fun bound => ?_) _
    rfl
  have repetition : (equatedPaths (record.hasRepetitionRule.map
      (Tree.presence Field.repetitionRule.path))).Sublist [] := by
    refine equatedPaths_map (fun present => ?_) _
    rfl
  have search : (equatedPaths (searchCondition record)).Sublist [] := by
    refine equatedPaths_map (fun term => ?_) _
    rfl
  have flag : ∀ (field : Field) (flag : Option Bool),
      (equatedPaths (flagCondition field flag)).Sublist [field.path] := fun _ =>
    equatedPaths_map fun _ => rfl
  have text : ∀ (field : Field) (text : Option String),
      (equatedPaths (textCondition field text)).Sublist [field.path] := fun _ =>
    equatedPaths_map fun _ => rfl
  simp only [contributions, equatable, List.forall₂_cons, List.forall₂_nil_left_iff, and_true, flag,
    text, today, repetition, search, equatedPaths_tags, equatedPaths_range, List.Sublist.refl]

/-- The paths that several conditions compare are among those that they can compare. -/
theorem flatMap_equatedPaths_sublist {conditions : List (Option Tree)} {paths : List (List String)}
    (h : List.Forall₂ (fun condition paths => (equatedPaths condition).Sublist paths)
      conditions paths) :
    (conditions.flatMap equatedPaths).Sublist paths.flatten := by
  induction h with
  | nil => exact List.Sublist.refl _
  | cons head _ ih => simpa using head.append ih

theorem equalities_reduceOption (conditions : List (Option Tree)) :
    (equalities conditions.reduceOption).map Prod.fst = conditions.flatMap equatedPaths := by
  rw [equalities, List.reduceOption, List.filterMap_filterMap, List.map_filterMap,
    List.filterMap_eq_flatMap_toList]
  rfl

/-- No field is compared for equality by two contributions. -/
theorem nodup_equalities (record : Record) :
    ((equalities (contributions record).reduceOption).map Prod.fst).Nodup := by
  rw [equalities_reduceOption]
  -- whatever is set, the paths are some of a fixed row of distinct ones
  exact (flatMap_equatedPaths_sublist (equatedPaths_contributions record)).nodup (by decide)

theorem rootConflicts_contributions (record : Record) :
    ∀ condition ∈ contributions record, ∀ tree ∈ condition, rootConflicts tree = [] := by
  -- today mode is a disjunction, in which the flag is the only equality
  have today : ∀ tree ∈ todayCondition record, rootConflicts tree = [] := by
    refine forall_mem_map (fun bound => tautologies_eq_nil ?_) _
    exact List.nodup_singleton Field.flagged.path
  have search : ∀ tree ∈ searchCondition record, rootConflicts tree = [] := by
    refine forall_mem_map (fun term => tautologies_of_no_equality ?_) _
    cases record.textRule.getD .contains <;> rfl
  have tags : ∀ tree ∈ tagsCondition record, rootConflicts tree = [] := by
    refine forall_mem_map (fun tags => ?_) _
    cases record.tagRule.getD .any <;> rfl
  -- a range is a conjunction, but all of its comparisons are of order
  have range : ∀ (field : Field) (after before bias : Option String),
      ∀ tree ∈ rangeCondition field after before bias, rootConflicts tree = [] := by
    intro field after before bias tree member
    obtain ⟨bounds, rfl, compared⟩ := exists_bounds_of_mem_rangeCondition member
    refine contradictions_of_no_equality (List.filterMap_eq_nil_iff.mpr ?_)
    refine List.forall_mem_cons.mpr ⟨rfl, fun bound listed => ?_⟩
    obtain ⟨operator, text, ordering, rfl⟩ := compared bound listed
    cases operator <;> simp_all [equality?, Operator.isOrdering]
  have repetition : ∀ tree ∈ record.hasRepetitionRule.map
      (Tree.presence Field.repetitionRule.path), rootConflicts tree = [] := by
    refine forall_mem_map (fun present => ?_) _
    rfl
  have text : ∀ (field : Field) (value : Option String),
      ∀ tree ∈ textCondition field value, rootConflicts tree = [] :=
    fun _ => forall_mem_map fun _ => rfl
  have flag : ∀ (field : Field) (value : Option Bool),
      ∀ tree ∈ flagCondition field value, rootConflicts tree = [] :=
    fun _ => forall_mem_map fun _ => rfl
  simp only [contributions, List.forall_mem_cons, List.not_mem_nil, false_implies, implies_true,
    and_true]
  exact ⟨today, text _ _, flag _ _, flag _ _, flag _ _, flag _ _, flag _ _, flag _ _, flag _ _,
    repetition, text _ _, tags, search, range _ _ _ _, range _ _ _ _,
    range _ _ _ _, range _ _ _ _⟩

theorem rootConflicts_toTree (record : Record) : rootConflicts record.toTree = [] := by
  have own : ∀ tree ∈ (contributions record).reduceOption, rootConflicts tree = [] := by
    intro tree member
    have listed := List.reduceOption_mem_iff.mp member
    exact rootConflicts_contributions record (some tree) listed tree rfl
  have apart := nodup_equalities record
  rw [toTree_eq]
  -- the root is a group of its own only if there are two conditions; otherwise it is the condition
  generalize (contributions record).reduceOption = conditions at own apart
  match conditions with
  | [] => rfl
  | [condition] => exact own condition (List.mem_singleton_self condition)
  | first :: second :: rest => exact contradictions_eq_nil apart

/-! ## The outcome -/

/-- If every finding is an error, the report has no warnings. -/
theorem reportOf_of_isError {findings : List (Location × Finding)}
    (h : ∀ finding ∈ findings, finding.2.isError = true) :
    reportOf findings =
      ⟨findings.isEmpty, findings.map fun finding => finding.2.toDiagnostic finding.1, []⟩ := by
  have errors : (findings.filter fun finding => finding.2.isError) = findings :=
    List.filter_eq_self.mpr h
  have warnings : (findings.filter fun finding => !finding.2.isError) = [] :=
    List.filter_eq_nil_iff.mpr fun finding member => by simp [h finding member]
  rw [reportOf, errors, warnings]
  rfl

theorem exists_noDate_of_mem_findings {record : Record} {finding : Location × Finding}
    (h : finding ∈ findings [] record.toTree) : ∃ field text, finding.2 = .noDate field text := by
  have listed : finding.2 ∈ causes record.toTree := List.mem_map_of_mem h
  exact exists_noDate_of_mem_unreadDates ((causes_toTree record).mem_iff.mp listed)

/-- The report on the tree of a record names its dates that cannot be read, and nothing else. -/
theorem validate_toTree (record : Record) :
    validate record.toTree =
      ⟨(findings [] record.toTree).isEmpty,
        (findings [] record.toTree).map fun finding => finding.2.toDiagnostic finding.1, []⟩ := by
  rw [validate, allFindings, rootConflicts_toTree, List.map_nil, List.append_nil]
  apply reportOf_of_isError
  intro finding member
  obtain ⟨field, text, cause⟩ := exists_noDate_of_mem_findings member
  rw [cause]
  rfl

theorem findings_toTree_isEmpty_iff (record : Record) :
    (findings [] record.toTree).isEmpty = true ↔ DatesRead record := by
  have same := (causes_toTree record).length_eq
  rw [causes, List.length_map] at same
  rw [List.isEmpty_iff, ← unreadDates_eq_nil_iff, ← List.length_eq_zero_iff, same,
    List.length_eq_zero_iff]

/-- A record has an expression in every dialect. It is compiled to it, without warnings, exactly if every
text that is set for a date is one; otherwise it is refused, with one error for each key whose text is no
date, and with nothing else. -/
theorem compile_record (dialect : Dialect) (record : Record) :
    ∃ expression, Script.emit dialect record.toTree = .ok expression ∧
      (compile dialect record = .ok ⟨record.toTree, dialect, expression.text, []⟩ ↔
        DatesRead record) ∧
      (¬ DatesRead record → ∃ errors,
        compile dialect record = .error (.rejected ⟨false, errors, []⟩) ∧
        (errors.map fun error => (error.kind, error.message)).Perm
          ((dateEntries record).filterMap DateEntry.error?)) ∧
      ∀ diagnostic ∈ (validate record.toTree).errors ++ (validate record.toTree).warnings,
        diagnostic.kind = .typeMismatch := by
  obtain ⟨expression, emitted⟩ := expressible_toTree dialect record
  refine ⟨expression, emitted, ?_, ?_, ?_⟩
  -- emission succeeds in any case, so that the report alone decides
  · rw [compile, compileTree, validate_toTree, emitted, ← findings_toTree_isEmpty_iff]
    cases (findings [] record.toTree).isEmpty <;> simp
  · intro unread
    have refused := unread
    rw [← findings_toTree_isEmpty_iff, Bool.not_eq_true] at refused
    refine ⟨(findings [] record.toTree).map fun finding => finding.2.toDiagnostic finding.1, ?_, ?_⟩
    · rw [compile, compileTree, validate_toTree, refused]
      rfl
    -- today mode moves a bound to the front, hence the errors up to their order
    · rw [← unreadDates_map_message, List.map_map]
      have named := (causes_toTree record).map fun finding => (finding.kind, finding.message)
      rwa [causes, List.map_map] at named
  · rw [validate_toTree, List.append_nil]
    intro diagnostic member
    obtain ⟨finding, listed, rfl⟩ := List.mem_map.mp member
    obtain ⟨field, text, cause⟩ := exists_noDate_of_mem_findings listed
    rw [cause]
    rfl

end TaskFilter.Record
