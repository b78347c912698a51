import TaskFilter.Proofs.Record.Contributions
import TaskFilter.Proofs.Tree.Conditions

/-!
# The contract of the table

A definition of the table declares which keys it reads and which fields its condition asks about. It keeps
to that: it claims none but its own keys, its condition asks about none but its fields, and neither changes
with a key that it does not declare. Of the claims of the whole table it sees only which keys are claimed.
Hence the order of the table decides about nothing but the order of the conditions.

## Layers

- **Fields**: what it means that a tree asks about some fields only (`Tree.AsksAbout`).
- **Contract**: `Definition.KeepsContract`, with one lemma for each kind of row.
- **Order**: what the permutations of a table have in common, if its rows keep the contract
  (`conditionsBy_eq_of_perm`, `sameUpToOrder_of_perm`).
- **Main statement**: `keepsContract_and_sameUpToOrder`.
-/

namespace TaskFilter

/-! ## Fields -/

namespace Tree

/-- Every condition in the tree is about one of the fields. -/
def AsksAbout (fields : List Field) (tree : Tree) : Prop :=
  ∀ condition ∈ tree.conditions, ∀ path ∈ condition.field?, path ∈ fields.map Field.path

variable {fields : List Field} {field : Field}

theorem asksAbout_comparison (declared : field ∈ fields) (operator : Operator) (operand : Operand) :
    (Tree.comparison field.path operator operand).AsksAbout fields := by
  intro condition listed path asked
  obtain rfl := List.mem_singleton.mp listed
  obtain rfl : field.path = path := Option.some.inj asked
  exact List.mem_map_of_mem declared

theorem asksAbout_presence (declared : field ∈ fields) (present : Bool) :
    (Tree.presence field.path present).AsksAbout fields := by
  intro condition listed path asked
  obtain rfl := List.mem_singleton.mp listed
  obtain rfl : field.path = path := Option.some.inj asked
  exact List.mem_map_of_mem declared

/-- A group asks about what its children ask about. -/
theorem asksAbout_children {children : List Tree} (asked : ∀ child ∈ children, child.AsksAbout fields) :
    ∀ condition ∈ allConditions children, ∀ path ∈ condition.field?, path ∈ fields.map Field.path := by
  induction children with
  | nil => exact fun condition listed => absurd listed List.not_mem_nil
  | cons child rest ih =>
    obtain ⟨first, later⟩ := List.forall_mem_cons.mp asked
    intro condition listed
    rcases List.mem_append.mp listed with own | others
    · exact first condition own
    · exact ih later condition others

theorem asksAbout_all {children : List Tree} (asked : ∀ child ∈ children, child.AsksAbout fields) :
    (Tree.all children).AsksAbout fields :=
  asksAbout_children asked

theorem asksAbout_any {children : List Tree} (asked : ∀ child ∈ children, child.AsksAbout fields) :
    (Tree.any children).AsksAbout fields :=
  asksAbout_children asked

/-- The same tree, but for the order in which a conjunction lists its conditions. -/
def SameUpToOrder (tree other : Tree) : Prop :=
  tree = other ∨
    ∃ conditions others : List Tree, conditions.Perm others ∧ tree = .all conditions ∧ other = .all others

end Tree

namespace Record

/-! ## The contract -/

/-- The records hold the same under every key of a list. -/
def AgreeOn (keys : List Key) (r s : Record) : Prop :=
  ∀ key ∈ keys, r.get key = s.get key

/-- The same keys are listed, in any order and any number of times. -/
def SameKeys (claimed other : List Key) : Prop :=
  ∀ key, key ∈ claimed ↔ key ∈ other

/-- A definition keeps to what it declares: it claims none but its inputs, its condition asks about none but
the fields that it touches, and both depend on nothing but its inputs and on which keys are claimed. -/
structure Definition.KeepsContract (definition : Definition) : Prop where
  claims_subset (record : Record) : definition.claims record ⊆ definition.inputs
  asksAbout (record : Record) (claimed : List Key) :
    ∀ tree ∈ definition.condition record claimed, tree.AsksAbout definition.touches
  claims_congr {r s : Record} (same : AgreeOn definition.inputs r s) :
    definition.claims r = definition.claims s
  condition_congr {r s : Record} {claimed other : List Key} (same : AgreeOn definition.inputs r s)
    (keys : SameKeys claimed other) : definition.condition r claimed = definition.condition s other

/-! ## Rows -/

theorem keepsContract_plain {name : String} {inputs : List Key} {touches : List Field}
    {condition : Record → Option Tree}
    (asks : ∀ record, ∀ tree ∈ condition record, tree.AsksAbout touches)
    (reads : ∀ {r s}, AgreeOn inputs r s → condition r = condition s) :
    (plain name inputs touches condition).KeepsContract where
  claims_subset _ := List.nil_subset _
  asksAbout record _ := asks record
  claims_congr _ := rfl
  condition_congr same _ := reads same

theorem asksAbout_equals {field : Field} {fields : List Field} (declared : field ∈ fields)
    (operand : Operand) : (equals field operand).AsksAbout fields :=
  Tree.asksAbout_comparison declared .eq operand

theorem keepsContract_flag {name : String} {key : Key} {field : Field} (value : Record → Option Bool)
    (reads : ∀ {r s : Record}, r.get key = s.get key → value r = value s) :
    (plain name [key] [field] fun r => flagCondition field (value r)).KeepsContract := by
  refine keepsContract_plain (fun record => ?_) fun same => ?_
  · exact forall_mem_map (fun value => asksAbout_equals List.mem_cons_self (.bool value)) _
  · rw [reads (same key List.mem_cons_self)]

theorem keepsContract_text {name : String} {keys : List Key} {field : Field}
    (value : Record → Option String)
    (reads : ∀ {r s : Record}, AgreeOn keys r s → value r = value s) :
    (plain name keys [field] fun r => textCondition field (value r)).KeepsContract := by
  refine keepsContract_plain (fun record => ?_) fun same => ?_
  · exact forall_mem_map (fun value => asksAbout_equals List.mem_cons_self (.string value)) _
  · rw [reads same]

theorem asksAbout_range (field : Field) (after before bias : Option String) :
    ∀ tree ∈ rangeCondition field after before bias, tree.AsksAbout [field] := by
  intro tree listed
  obtain ⟨bounds, rfl, compared⟩ := exists_bounds_of_mem_rangeCondition listed
  refine Tree.asksAbout_all (List.forall_mem_cons.mpr ⟨?_, fun bound member => ?_⟩)
  · exact Tree.asksAbout_presence List.mem_cons_self true
  · obtain ⟨operator, text, -, rfl⟩ := compared bound member
    exact Tree.asksAbout_comparison List.mem_cons_self operator (.string text)

/-- A range reads its two bounds and its sign. -/
theorem keepsContract_range {name : String} {after before bias : Key} {field : Field}
    (lower upper sign : Record → Option String)
    (readsLower : ∀ {r s : Record}, r.get after = s.get after → lower r = lower s)
    (readsUpper : ∀ {r s : Record}, r.get before = s.get before → upper r = upper s)
    (readsSign : ∀ {r s : Record}, r.get bias = s.get bias → sign r = sign s) :
    (plain name [after, before, bias] [field] fun r =>
      rangeCondition field (lower r) (upper r) (sign r)).KeepsContract := by
  refine keepsContract_plain (fun record => asksAbout_range _ _ _ _) fun same => ?_
  obtain ⟨low, high, strict⟩ : _ ∧ _ ∧ _ := by simpa [AgreeOn] using same
  rw [readsLower low, readsUpper high, readsSign strict]

theorem keepsContract_repetition :
    (plain "hasRepetitionRule" [.hasRepetitionRule] [.repetitionRule] fun r =>
      r.hasRepetitionRule.map (Tree.presence Field.repetitionRule.path)).KeepsContract := by
  refine keepsContract_plain (fun record => ?_) fun {r s} same => ?_
  · exact forall_mem_map (Tree.asksAbout_presence List.mem_cons_self) _
  · have set : r.hasRepetitionRule = s.hasRepetitionRule := same .hasRepetitionRule List.mem_cons_self
    rw [set]

theorem keepsContract_tags : (plain "tags" [.tags, .tagRule] [.tags] tagsCondition).KeepsContract := by
  refine keepsContract_plain (fun record => forall_mem_map (fun tags => ?_) _) fun {r s} same => ?_
  · have asked : ∀ operator, (Tree.comparison Field.tags.path operator (.array tags)).AsksAbout [.tags] :=
      fun operator => Tree.asksAbout_comparison List.mem_cons_self operator _
    -- a negation asks about what is negated
    cases record.tagRule.getD .any with
    | all => exact asked .all
    | any => exact asked .any
    | none => exact asked .any
  · have tags : r.tags = s.tags := same .tags (by decide)
    have rule : r.tagRule = s.tagRule := same .tagRule (by decide)
    rw [tagsCondition, tagsCondition, tagSet, tagSet, tags, rule]

theorem keepsContract_search :
    (plain "text" [.text, .search, .textRule] [.name, .note] searchCondition).KeepsContract := by
  refine keepsContract_plain (fun record => forall_mem_map (fun term => ?_) _) fun {r s} same => ?_
  · refine Tree.asksAbout_any (List.forall_mem_cons.mpr ⟨?_, List.forall_mem_singleton.mpr ?_⟩)
    · exact Tree.asksAbout_comparison (by decide) _ _
    · exact Tree.asksAbout_comparison (by decide) _ _
  · have text : r.text = s.text := same .text (by decide)
    have search : r.search = s.search := same .search (by decide)
    have rule : r.textRule = s.textRule := same .textRule (by decide)
    rw [searchCondition, searchCondition, searchTerm, searchTerm, text, search, rule]

/-- The flag is used unless it is claimed. -/
theorem keepsContract_flagged : Definition.KeepsContract {
    name := "flagged"
    inputs := [.flagged]
    touches := [.flagged]
    claims := fun _ => []
    condition := fun record claimed =>
      if Key.flagged ∈ claimed then none else flagCondition .flagged record.flagged } where
  claims_subset _ := List.nil_subset _
  asksAbout record claimed := by
    show ∀ tree ∈ if Key.flagged ∈ claimed then none else flagCondition .flagged record.flagged, _
    split
    · exact fun _ listed => by cases listed
    · exact forall_mem_map (fun value => asksAbout_equals List.mem_cons_self (.bool value)) _
  claims_congr _ := rfl
  condition_congr {r s claimed other} same keys := by
    have set : r.flagged = s.flagged := same .flagged List.mem_cons_self
    simp only [set, keys .flagged]

/-- The upper bound is used unless it is claimed. -/
theorem keepsContract_due : Definition.KeepsContract {
    name := "dueDate"
    inputs := [.dueAfter, .dueBefore, .dueBias]
    touches := [.dueDate]
    claims := fun _ => []
    condition := fun record claimed =>
      rangeCondition .dueDate record.dueAfter
        (if Key.dueBefore ∈ claimed then none else record.dueBefore) record.dueBias } where
  claims_subset _ := List.nil_subset _
  asksAbout _ _ := asksAbout_range _ _ _ _
  claims_congr _ := rfl
  condition_congr {r s claimed other} same keys := by
    have after : r.dueAfter = s.dueAfter := same .dueAfter (by decide)
    have before : r.dueBefore = s.dueBefore := same .dueBefore (by decide)
    have bias : r.dueBias = s.dueBias := same .dueBias (by decide)
    simp only [after, before, bias, keys .dueBefore]

theorem todayBound_congr {r s : Record} (mode : r.todayMode = s.todayMode)
    (before : r.dueBefore = s.dueBefore) : todayBound r = todayBound s := by
  rw [todayBound, todayBound, mode, before]

/-- Today mode is the one definition that claims. -/
theorem keepsContract_today : Definition.KeepsContract {
    name := "todayMode"
    inputs := [.todayMode, .dueBefore, .dueBias, .flagged]
    touches := [.dueDate, .flagged]
    claims := todayClaims
    condition := fun record _ => todayCondition record } where
  claims_subset record := by
    show todayClaims record ⊆ _
    rw [todayClaims]
    split
    · decide
    · exact List.nil_subset _
  asksAbout record _ := by
    refine forall_mem_map (fun bound => Tree.asksAbout_any ?_) _
    refine List.forall_mem_cons.mpr ⟨Tree.asksAbout_all ?_, List.forall_mem_singleton.mpr ?_⟩
    · refine List.forall_mem_cons.mpr ⟨?_, List.forall_mem_singleton.mpr ?_⟩
      · exact Tree.asksAbout_presence (by decide) true
      · exact Tree.asksAbout_comparison (by decide) _ _
    · exact asksAbout_equals (by decide) _
  claims_congr {r s} same := by
    show todayClaims r = todayClaims s
    rw [todayClaims, todayClaims,
      todayBound_congr (same .todayMode (by decide)) (same .dueBefore (by decide))]
  condition_congr {r s _ _} same _ := by
    have bias : r.dueBias = s.dueBias := same .dueBias (by decide)
    show todayCondition r = todayCondition s
    rw [todayCondition, todayCondition,
      todayBound_congr (same .todayMode (by decide)) (same .dueBefore (by decide)), bias]

theorem projectReference_congr {r s : Record} (same : AgreeOn [.projectId, .project] r s) :
    r.projectReference = s.projectReference := by
  have present : r.projectId = s.projectId := same .projectId (by decide)
  have older : r.project = s.project := same .project (by decide)
  rw [projectReference, projectReference, present, older]

theorem filled_id_congr {r s : Record} (same : AgreeOn [.id] r s) : filled r.id = filled s.id := by
  have id : r.id = s.id := same .id (by decide)
  rw [id]

/-- Every row of the table keeps the contract. -/
theorem keepsContract_of_mem_definitions : ∀ definition ∈ definitions, definition.KeepsContract := by
  simp only [definitions, List.forall_mem_cons, List.not_mem_nil, false_implies, implies_true, and_true]
  -- what is looked up under a key is the field itself
  have self : ∀ {p : Prop}, p → p := fun same => same
  -- one entry for each row of the table
  exact ⟨keepsContract_today, keepsContract_text (fun r => filled r.id) filled_id_congr,
    keepsContract_flag (·.completed) self, keepsContract_flagged, keepsContract_flag (·.blocked) self,
    keepsContract_flag (·.available) self, keepsContract_flag (·.inInbox) self,
    keepsContract_flag (·.dropped) self, keepsContract_flag (·.tagStatusValid) self,
    keepsContract_repetition, keepsContract_text projectReference projectReference_congr,
    keepsContract_tags, keepsContract_search, keepsContract_due,
    keepsContract_range (·.deferAfter) (·.deferBefore) (·.deferBias) self self self,
    keepsContract_range (·.plannedAfter) (·.plannedBefore) (·.plannedBias) self self self,
    keepsContract_range (·.completionAfter) (·.completionBefore) (·.completionBias) self self self⟩

/-! ## The order of the table -/

section Order

variable {table other : List Definition} (record : Record)

theorem sameKeys_claimedBy_of_perm (reordered : table.Perm other) :
    SameKeys (claimedBy table record) (claimedBy other record) :=
  fun _ => (reordered.flatMap_right _).mem_iff

/-- Each row contributes what it contributes in the other order of the table. -/
theorem conditionsBy_eq_of_perm (keeps : ∀ definition ∈ table, definition.KeepsContract)
    (reordered : table.Perm other) :
    conditionsBy table record =
      table.filterMap fun definition => definition.condition record (claimedBy other record) := by
  refine List.filterMap_congr fun definition listed => ?_
  exact (keeps definition listed).condition_congr (fun _ _ => rfl)
    (sameKeys_claimedBy_of_perm record reordered)

theorem sameUpToOrder_conjunction {conditions others : List Tree} (reordered : conditions.Perm others) :
    (conjunction conditions).SameUpToOrder (conjunction others) := by
  match conditions with
  | [] =>
    obtain rfl := reordered.nil_eq
    exact .inl rfl
  | [condition] =>
    obtain rfl := List.singleton_perm.mp reordered
    exact .inl rfl
  | first :: second :: rest =>
    -- the other conjunction has as many conditions
    obtain ⟨third, fourth, others, rfl⟩ : ∃ third fourth tail, others = third :: fourth :: tail := by
      match others, reordered.length_eq with
      | third :: fourth :: tail, _ => exact ⟨third, fourth, tail, rfl⟩
    exact .inr ⟨_, _, reordered, rfl, rfl⟩

theorem sameUpToOrder_of_perm (keeps : ∀ definition ∈ table, definition.KeepsContract)
    (reordered : table.Perm other) :
    (conjunction (conditionsBy table record)).SameUpToOrder (conjunction (conditionsBy other record)) := by
  rw [conditionsBy_eq_of_perm record keeps reordered]
  exact sameUpToOrder_conjunction (reordered.filterMap _)

end Order

/-- Every row of the table keeps its contract. Therefore, however the table is ordered, the same keys of a
record are claimed, each row contributes the same condition, the conditions stand in the order of the table,
and the tree is the same up to the order of its conditions. -/
theorem keepsContract_and_sameUpToOrder :
    (∀ definition ∈ definitions, definition.KeepsContract) ∧
      ∀ table : List Definition, table.Perm definitions → ∀ record : Record,
        SameKeys (claimedBy table record) (claimedBy definitions record) ∧
        conditionsBy table record =
          table.filterMap (fun definition => definition.condition record (claimedBy definitions record)) ∧
        (conjunction (conditionsBy table record)).SameUpToOrder record.toTree := by
  refine ⟨keepsContract_of_mem_definitions, fun table reordered record => ?_⟩
  have keeps : ∀ definition ∈ table, definition.KeepsContract :=
    fun definition listed => keepsContract_of_mem_definitions definition (reordered.subset listed)
  exact ⟨sameKeys_claimedBy_of_perm record reordered, conditionsBy_eq_of_perm record keeps reordered,
    sameUpToOrder_of_perm record keeps reordered⟩

/-- With today mode in the last row instead of the first, the flag and the upper bound are claimed as well. -/
theorem keepsContract_and_sameUpToOrder_reversed :
    let record : Record :=
      { todayMode := some true, dueBefore := some "2025-01-02", dueAfter := some "2025-01-01",
        flagged := some false }
    (∃ row ∈ definitions, row.name = "todayMode" ∧ row.KeepsContract) ∧
      definitions.reverse.Perm definitions ∧
      SameKeys (claimedBy definitions.reverse record) [.flagged, .dueBefore] ∧
      (conditionsBy definitions.reverse record).length = 2 ∧
      (conjunction (conditionsBy definitions.reverse record)).SameUpToOrder record.toTree := by
  intro record
  have reordered : definitions.reverse.Perm definitions := List.reverse_perm definitions
  obtain ⟨keys, conditions, tree⟩ := keepsContract_and_sameUpToOrder.2 _ reordered record
  exact ⟨⟨_, List.mem_cons_self, rfl, keepsContract_and_sameUpToOrder.1 _ List.mem_cons_self⟩, reordered, keys,
    by rw [conditions]; rfl, tree⟩

end Record

end TaskFilter
