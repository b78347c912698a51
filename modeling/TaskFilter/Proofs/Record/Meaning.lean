import TaskFilter.Proofs.Record.Contributions
import TaskFilter.Proofs.Tree.Meaning

/-!
# The meaning of filter records

What a record asks of a task, said without its tree: one statement for each predicate that can be set, over
the truth of single conditions. The tree of a record means exactly that.

## Layers

- **Predicates**: what each predicate asks for when it is set (`Satisfied`).
- **Contributions**: what each part of the tree means (`Asked`), one lemma for each kind of part.
- **Main statement**: `holds_toTree_iff`, which joins the two.
-/

namespace TaskFilter.Record

variable (leaves : Leaves) (record : Record)

/-! ## What the predicates ask for -/

/-- The text is set to `value`. An empty text counts as not set. -/
def IsFilled (text : Option String) (value : String) : Prop :=
  text = some value ∧ value ≠ ""

/-- The text of a key, or if that is not set, of the key that came before it. -/
def IsFirstFilled (text older : Option String) (value : String) : Prop :=
  IsFilled text value ∨ (¬ ∃ other, IsFilled text other) ∧ IsFilled older value

/-- Today mode is on, and has a bound to go by: only then does it claim keys. -/
def TodayApplies : Prop :=
  record.todayMode = some true ∧ ∃ bound, IsFilled record.dueBefore bound

/-- The operator of a lower bound: strict if the sign of the range is `>`. -/
def lowerSign (bias : Option String) : Operator :=
  if bias.map Text.trim = some ">" then .gt else .ge

/-- The operator of an upper bound: strict if the sign of the range is `<`. -/
def upperSign (bias : Option String) : Operator :=
  if bias.map Text.trim = some "<" then .lt else .le

/-- If there is a bound, there is a date and it keeps to every bound. -/
def InRange (field : Field) (isLower isUpper : String → Prop) (bias : Option String) : Prop :=
  ((∃ bound, isLower bound) ∨ ∃ bound, isUpper bound) →
    leaves.presence field.path true = true ∧
      (∀ bound, isLower bound →
        leaves.comparison field.path (lowerSign bias) (.string bound) = true) ∧
      ∀ bound, isUpper bound →
        leaves.comparison field.path (upperSign bias) (.string bound) = true

/-- The flags that are compared with a field of their own, whatever else the record holds. -/
def plainFlags : List (Field × Option Bool) :=
  [(.completed, record.completed), (.blocked, record.blocked), (.available, record.available),
   (.inInbox, record.inInbox), (.dropped, record.dropped), (.tagStatusValid, record.tagStatusValid)]

/-- The task carries the listed tags as the rule asks; any one of them if no rule is set. -/
def TagsAsked (rule : Option TagRule) (tags : List String) : Prop :=
  match rule with
  | some .all => leaves.comparison Field.tags.path .all (.array tags) = true
  | some .none => leaves.comparison Field.tags.path .any (.array tags) = false
  | _ => leaves.comparison Field.tags.path .any (.array tags) = true

/-- The operator of a search: the term is part of a text unless it is said to be a pattern. -/
def searchSign (rule : Option TextRule) : Operator :=
  if rule = some .regex then .matches else .contains

/-- What a record asks of a task: every predicate that is set holds. -/
structure Satisfied : Prop where
  /-- Due by the bound, or flagged. -/
  today : ∀ bound, record.todayMode = some true → IsFilled record.dueBefore bound →
    (leaves.presence Field.dueDate.path true = true ∧
        leaves.comparison Field.dueDate.path (upperSign record.dueBias) (.string bound) = true) ∨
      leaves.comparison Field.flagged.path .eq (.bool true) = true
  flags : ∀ flag ∈ plainFlags record, ∀ value, flag.2 = some value →
    leaves.comparison flag.1.path .eq (.bool value) = true
  /-- With today mode, the flag has no other effect. -/
  flagged : ¬ TodayApplies record → ∀ value, record.flagged = some value →
    leaves.comparison Field.flagged.path .eq (.bool value) = true
  repetition : ∀ value, record.hasRepetitionRule = some value →
    leaves.presence Field.repetitionRule.path value = true
  id : ∀ value, IsFilled record.id value →
    leaves.comparison Field.id.path .eq (.string value) = true
  project : ∀ reference, IsFirstFilled record.projectId record.project reference →
    leaves.comparison Field.containingProject.path .eq (.string reference) = true
  tags : ∀ tags, record.tags = some tags → tags ≠ [] → TagsAsked leaves record.tagRule tags
  search : ∀ term, IsFirstFilled record.text record.search term →
    leaves.comparison Field.name.path (searchSign record.textRule) (.string term) = true ∨
      leaves.comparison Field.note.path (searchSign record.textRule) (.string term) = true
  /-- With today mode, the upper bound has no other effect. -/
  due : InRange leaves .dueDate (IsFilled record.dueAfter)
    (fun bound => ¬ TodayApplies record ∧ IsFilled record.dueBefore bound) record.dueBias
  defer : InRange leaves .deferDate (IsFilled record.deferAfter) (IsFilled record.deferBefore)
    record.deferBias
  planned : InRange leaves .plannedDate (IsFilled record.plannedAfter)
    (IsFilled record.plannedBefore) record.plannedBias
  completion : InRange leaves .completionDate (IsFilled record.completionAfter)
    (IsFilled record.completionBefore) record.completionBias

/-! ## Texts and signs -/

theorem filled_eq_some_iff (text : Option String) (value : String) :
    filled text = some value ↔ IsFilled text value := by
  simp [filled, IsFilled, Option.filter_eq_some_iff]

theorem filled_eq_none_iff (text : Option String) :
    filled text = none ↔ ¬ ∃ value, IsFilled text value := by
  simp [Option.eq_none_iff_forall_ne_some, filled_eq_some_iff]

theorem or_filled_eq_some_iff (text older : Option String) (value : String) :
    (filled text).or (filled older) = some value ↔ IsFirstFilled text older value := by
  rw [Option.or_eq_some_iff, filled_eq_some_iff, filled_eq_none_iff, filled_eq_some_iff]
  rfl

theorem lower_ofText (bias : Option String) : (DateBias.ofText bias).lower = lowerSign bias := by
  unfold DateBias.ofText lowerSign
  split
  · next h => simp [h, DateBias.lower]
  · next h => simp [h, DateBias.lower]
  · next strict _ => rw [if_neg strict]; rfl

theorem upper_ofText (bias : Option String) : (DateBias.ofText bias).upper = upperSign bias := by
  unfold DateBias.ofText upperSign
  split
  · next h => simp [h, DateBias.upper]
  · next h => simp [h, DateBias.upper]
  · next _ strict => rw [if_neg strict]; rfl

theorem todayBound_eq_some_iff (bound : String) :
    todayBound record = some bound ↔
      record.todayMode = some true ∧ IsFilled record.dueBefore bound := by
  unfold todayBound
  split
  · next on => simp [on, filled_eq_some_iff]
  · next off => simp [off]

theorem todayActive_iff : todayActive record = true ↔ TodayApplies record := by
  simp [todayActive, TodayApplies, Option.isSome_iff_exists, todayBound_eq_some_iff]

/-! ## What the contributions mean -/

/-- What a contribution to the tree asks for; nothing if there is none. -/
def Asked (condition : Option Tree) : Prop :=
  ∀ tree, condition = some tree → tree.holds leaves = true

theorem holds_conjunction (conditions : List Tree) :
    (conjunction conditions).holds leaves = true ↔
      ∀ condition ∈ conditions, condition.holds leaves = true := by
  match conditions with
  | [] => simp [conjunction, Tree.holds]
  | [condition] =>
    -- a condition by itself is not put into a group
    simp [conjunction]
  | first :: second :: rest => rw [conjunction, Tree.holds_all] <;> simp

/-- A tree holds if everything that the definitions contribute does. -/
theorem holds_toTree_iff_asked :
    record.toTree.holds leaves = true ↔
      ∀ condition ∈ contributions record, Asked leaves condition := by
  rw [toTree_eq, holds_conjunction]
  constructor
  · intro h condition member tree set
    exact h tree (List.reduceOption_mem_iff.mpr (set ▸ member))
  · intro h tree member
    exact h (some tree) (List.reduceOption_mem_iff.mp member) tree rfl

theorem asked_map {α : Type} (value : Option α) (condition : α → Tree) :
    Asked leaves (value.map condition) ↔
      ∀ v, value = some v → (condition v).holds leaves = true := by
  cases value <;> simp [Asked]

theorem asked_flag (field : Field) (flag : Option Bool) :
    Asked leaves (flagCondition field flag) ↔
      ∀ value, flag = some value → leaves.comparison field.path .eq (.bool value) = true := by
  rw [flagCondition, asked_map]
  rfl

theorem asked_text (field : Field) (text : Option String) :
    Asked leaves (textCondition field text) ↔
      ∀ value, text = some value → leaves.comparison field.path .eq (.string value) = true := by
  rw [textCondition, asked_map]
  rfl

theorem asked_repetition :
    Asked leaves (record.hasRepetitionRule.map (Tree.presence Field.repetitionRule.path)) ↔
      ∀ value, record.hasRepetitionRule = some value →
        leaves.presence Field.repetitionRule.path value = true := by
  rw [asked_map]
  rfl

theorem asked_today :
    Asked leaves (todayCondition record) ↔
      ∀ bound, record.todayMode = some true → IsFilled record.dueBefore bound →
        (leaves.presence Field.dueDate.path true = true ∧
            leaves.comparison Field.dueDate.path (upperSign record.dueBias) (.string bound) = true) ∨
          leaves.comparison Field.flagged.path .eq (.bool true) = true := by
  rw [todayCondition, asked_map]
  simp only [todayBound_eq_some_iff, and_imp, upper_ofText]
  simp [equals, Tree.holds, Tree.allHold, Tree.anyHolds]

theorem asked_tags :
    Asked leaves (tagsCondition record) ↔
      ∀ tags, record.tags = some tags → tags ≠ [] → TagsAsked leaves record.tagRule tags := by
  have set : ∀ tags, record.tagSet = some tags ↔ record.tags = some tags ∧ tags ≠ [] := by
    intro tags
    simp [tagSet, Option.filter_eq_some_iff]
  rw [tagsCondition, asked_map]
  simp only [set, and_imp, TagsAsked]
  -- no rule and the rule for any tag ask for the same
  cases record.tagRule with
  | none => rfl
  | some rule => cases rule <;> simp [Tree.holds]

theorem asked_search :
    Asked leaves (searchCondition record) ↔
      ∀ term, IsFirstFilled record.text record.search term →
        leaves.comparison Field.name.path (searchSign record.textRule) (.string term) = true ∨
          leaves.comparison Field.note.path (searchSign record.textRule) (.string term) = true := by
  rw [searchCondition, asked_map]
  simp only [searchTerm, or_filled_eq_some_iff, Tree.holds_any]
  cases record.textRule with
  | none => simp [searchSign, Tree.holds]
  | some rule => cases rule <;> simp [searchSign, Tree.holds]

theorem asked_range (field : Field) (after before bias : Option String) :
    Asked leaves (rangeCondition field after before bias) ↔
      InRange leaves field (IsFilled after) (IsFilled before) bias := by
  unfold InRange rangeCondition
  simp only [← filled_eq_some_iff, lower_ofText, upper_ofText]
  -- without bounds there is no condition, not even that the date is present
  cases filled after <;> cases filled before <;>
    simp [Asked, Tree.holds, Tree.allHold]

/-! ## The meaning of the tree -/

/-- What is left of a key that today mode claims. -/
theorem unclaimed_eq_some_iff {α : Type} (value : Option α) (v : α) :
    (if todayActive record then none else value) = some v ↔
      ¬ TodayApplies record ∧ value = some v := by
  rw [← todayActive_iff]
  cases todayActive record <;> simp

theorem isFilled_unclaimed (text : Option String) :
    IsFilled (if todayActive record then none else text) =
      fun value => ¬ TodayApplies record ∧ IsFilled text value := by
  funext value
  simp only [IsFilled, unclaimed_eq_some_iff, and_assoc]

theorem flags_iff :
    (∀ flag ∈ plainFlags record, ∀ value, flag.2 = some value →
        leaves.comparison flag.1.path .eq (.bool value) = true) ↔
      ∀ flag ∈ plainFlags record, Asked leaves (flagCondition flag.1 flag.2) := by
  simp only [asked_flag]

/-- The tree of a record holds exactly if every predicate that is set holds. -/
theorem holds_toTree_iff :
    record.toTree.holds leaves = true ↔ Satisfied leaves record := by
  rw [holds_toTree_iff_asked]
  simp only [contributions, List.forall_mem_cons, List.not_mem_nil, false_implies, implies_true,
    and_true]
  -- apart from the flag and the upper bound of the due date, which today mode may claim, every
  -- predicate is the meaning of one contribution
  constructor
  · rintro ⟨today, id, completed, flagged, blocked, available, inInbox, dropped, tagStatusValid,
      repetition, project, tags, search, due, defer, planned, completion⟩
    rw [asked_flag] at flagged
    rw [asked_range, isFilled_unclaimed] at due
    exact {
      today := (asked_today leaves record).mp today
      flags := (flags_iff leaves record).mpr (by
        simp only [plainFlags, List.forall_mem_cons, List.not_mem_nil, false_implies, implies_true,
          and_true]
        exact ⟨completed, blocked, available, inInbox, dropped, tagStatusValid⟩)
      flagged := fun off value set =>
        flagged value ((unclaimed_eq_some_iff record _ value).mpr ⟨off, set⟩)
      repetition := (asked_repetition leaves record).mp repetition
      id := by simpa only [asked_text, filled_eq_some_iff] using id
      project := by simpa only [asked_text, projectReference, or_filled_eq_some_iff] using project
      tags := (asked_tags leaves record).mp tags
      search := (asked_search leaves record).mp search
      due := due
      defer := (asked_range ..).mp defer
      planned := (asked_range ..).mp planned
      completion := (asked_range ..).mp completion }
  · intro h
    have flags := (flags_iff leaves record).mp h.flags
    simp only [plainFlags, List.forall_mem_cons, List.not_mem_nil, false_implies, implies_true,
      and_true] at flags
    obtain ⟨completed, blocked, available, inInbox, dropped, tagStatusValid⟩ := flags
    refine ⟨(asked_today leaves record).mpr h.today, ?_, completed, ?_, blocked, available, inInbox,
      dropped, tagStatusValid, (asked_repetition leaves record).mpr h.repetition, ?_,
      (asked_tags leaves record).mpr h.tags, (asked_search leaves record).mpr h.search, ?_,
      (asked_range ..).mpr h.defer, (asked_range ..).mpr h.planned,
      (asked_range ..).mpr h.completion⟩
    · simpa only [asked_text, filled_eq_some_iff] using h.id
    · rw [asked_flag]
      intro value set
      obtain ⟨off, set⟩ := (unclaimed_eq_some_iff record _ value).mp set
      exact h.flagged off value set
    · simpa only [asked_text, projectReference, or_filled_eq_some_iff] using h.project
    · rw [asked_range, isFilled_unclaimed]
      exact h.due

end TaskFilter.Record
