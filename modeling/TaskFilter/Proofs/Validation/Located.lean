import TaskFilter.Proofs.Validation.Causes
import TaskFilter.Proofs.Validation.Places

/-!
# Findings at their places

A report lists what is wrong with the nodes of a tree, one finding for each node, in the order of the tree.
Which nodes those are is said here without the checks: a condition has the first of four faults, and a group
can be empty. Every finding carries the text of its place, and the conflicts at the root follow at the end.

## Layers

- **Nodes**: the faults of a condition (`Faulty`) and the empty groups (`Vacant`), and that a node is checked
  for them and nothing else (`faulty_iff`, `vacant_iff`).
- **Trees**: the findings are those of the nodes, place by place (`findings_eq`).
- **Main statement**: `reported_validate`.
-/

namespace TaskFilter.Validation

/-! ## What is wrong with a node -/

/-- The path is empty, or a part of it between two dots is. -/
def Malformed (path : String) : Prop :=
  path = "" ∨ "" ∈ Text.segments path

/-- The operand has a shape that the operator takes. -/
structure Suited (operator : Operator) (operand : Operand) : Prop where
  set : operator ∈ [.all, .any] →
    (∃ items, operand = .array items) ∨ ∃ text, operand = .string text
  text : operator ∈ [.contains, .matches] → ∃ text, operand = .string text
  ordering : operator ∈ [.lt, .gt, .le, .ge] →
    (∃ text, operand = .string text) ∨ ∃ number, operand = .number number

/-- The operands for fields of a kind. There are none for related objects. -/
inductive OfKind : ValueKind → Operator → Operand → Prop where
  | truth (operator : Operator) (value : Bool) : OfKind .boolean operator (.bool value)
  | text (operator : Operator) (value : String) : OfKind .string operator (.string value)
  | date (operator : Operator) {value : String} (h : Date.isDate value = true) :
      OfKind .date operator (.string value)
  | names (operator : Operator) (names : List String) : OfKind .array operator (.array names)
  /-- A collection is searched for whatever suits the operator. -/
  | searched {operator : Operator} (h : operator ∈ [.all, .any]) (operand : Operand) :
      OfKind .array operator operand

/-- What is wrong with a condition: the first of four faults that it has. -/
inductive Faulty : Tree → Diagnostic.Kind → Prop where
  | malformed {condition : Tree} {path : String} (named : condition.field? = some path)
      (h : Malformed path) : Faulty condition .invalidNode
  | unknown {condition : Tree} {path : String} (named : condition.field? = some path)
      (formed : ¬ Malformed path) (h : ∀ field : Field, field.path ≠ path) :
      Faulty condition .unknownField
  | unsuited {operator : Operator} {operand : Operand} (field : Field)
      (h : ¬ Suited operator operand) :
      Faulty (.comparison field.path operator operand) .invalidNode
  | mismatched {operator : Operator} {operand : Operand} (field : Field)
      (suited : Suited operator operand) (h : ¬ OfKind field.kind operator operand) :
      Faulty (.comparison field.path operator operand) .typeMismatch

/-- A group without children. -/
inductive Vacant : Tree → Diagnostic.Kind → Prop where
  | all : Vacant (.all []) .emptyNode
  | any : Vacant (.any []) .emptyNode

/-! ## The checks of a node -/

variable {node : Tree} {kind : Diagnostic.Kind} {path : String} {operator : Operator}
  {operand : Operand} {field : Field} {finding : Finding}

theorem isWellFormedPath_eq_false_iff : Text.isWellFormedPath path = false ↔ Malformed path := by
  rw [← Bool.not_eq_true, Text.isWellFormedPath_iff, not_not]
  constructor
  · exact .inr
  · rintro (rfl | empty)
    · decide
    · exact empty

theorem resolve_of_malformed (h : Malformed path) :
    resolve path = .error (.malformedPath path) := by
  rw [resolve, isWellFormedPath_eq_false_iff.mpr h]
  rfl

theorem resolve_of_unknown (formed : ¬ Malformed path) (h : ∀ field : Field, field.path ≠ path) :
    resolve path = .error (.unknownField path (suggestions path)) := by
  have none : Field.ofPath? path = none := by
    cases known : Field.ofPath? path with
    | none => rfl
    | some field => exact absurd (Field.path_of_ofPath? known) (h field)
  rw [← isWellFormedPath_eq_false_iff, Bool.not_eq_false] at formed
  rw [resolve, if_pos formed, none]

/-- A path is malformed, or of no field, or the path of a field. -/
theorem resolve_cases (path : String) :
    Malformed path ∨ (¬ Malformed path ∧ ∀ field : Field, field.path ≠ path) ∨
      ∃ field : Field, field.path = path := by
  by_cases malformed : Malformed path
  · exact .inl malformed
  · by_cases known : ∃ field : Field, field.path = path
    · exact .inr (.inr known)
    · exact .inr (.inl ⟨malformed, not_exists.mp known⟩)

theorem suits_iff : suits operator operand = true ↔ Suited operator operand := by
  have taken : Suited operator operand ↔
      (operator ∈ [.all, .any] →
        (∃ items, operand = .array items) ∨ ∃ text, operand = .string text) ∧
      (operator ∈ [.contains, .matches] → ∃ text, operand = .string text) ∧
      (operator ∈ [.lt, .gt, .le, .ge] →
        (∃ text, operand = .string text) ∨ ∃ number, operand = .number number) :=
    ⟨fun h => ⟨h.set, h.text, h.ordering⟩, fun h => ⟨h.1, h.2.1, h.2.2⟩⟩
  rw [taken]
  -- the three classes of operators have no member in common
  cases operator <;> cases operand <;>
    simp [suits, Operator.isSetMatch, Operator.isTextMatch, Operator.isOrdering]

theorem isSetMatch_iff : operator.isSetMatch = true ↔ operator ∈ [.all, .any] := by
  cases operator <;> simp [Operator.isSetMatch]

theorem fieldMismatch?_eq_none_iff :
    fieldMismatch? field operator operand = none ↔ OfKind field.kind operator operand := by
  unfold fieldMismatch?
  constructor
  · intro h
    split at h
    next own => exact own ▸ .truth operator _
    next own => exact own ▸ .text operator _
    next own =>
      split at h
      next real => exact own ▸ .date operator real
      next => cases h
    next own => exact own ▸ .names operator _
    next own _ =>
      split at h
      next set => exact own ▸ .searched (isSetMatch_iff.mp set) _
      next => cases h
    next => cases h
    next => cases h
  · generalize field.kind = kind
    rintro (_ | _ | ⟨_, real⟩ | _ | ⟨set, _⟩)
    · rfl
    · rfl
    · exact if_pos real
    · rfl
    · cases operand <;> simp [isSetMatch_iff.mpr set]

theorem kind_of_fieldMismatch? (h : fieldMismatch? field operator operand = some finding) :
    finding.kind = .typeMismatch := by
  unfold fieldMismatch? at h
  split at h
  case h_3 | h_5 =>
    split at h <;> cases h
    rfl
  all_goals cases h <;> rfl

theorem ownFinding?_of_resolve (named : node.field? = some path)
    (h : resolve path = .error finding) : ownFinding? node = some finding := by
  cases node with
  | comparison own operator operand =>
    obtain rfl := Option.some.inj named
    rw [ownFinding?, comparisonFinding?, h]
  | presence own present =>
    obtain rfl := Option.some.inj named
    rw [ownFinding?, presenceFinding?, h]
  | _ => cases named

theorem ownFinding?_of_unsuited (field : Field) (h : ¬ Suited operator operand) :
    ownFinding? (.comparison field.path operator operand) =
      some (.unsuitedOperand operator operand) := by
  rw [ownFinding?, comparisonFinding?, resolve_path]
  exact if_neg (mt suits_iff.mp h)

theorem ownFinding?_of_suited (field : Field) (h : Suited operator operand) :
    ownFinding? (.comparison field.path operator operand) =
      fieldMismatch? field operator operand := by
  rw [ownFinding?, comparisonFinding?_path field (suits_iff.mpr h)]

/-- A fault of a condition is what is found. -/
theorem exists_ownFinding?_of_faulty (h : Faulty node kind) :
    ∃ finding, ownFinding? node = some finding ∧ finding.isError = true ∧ finding.kind = kind := by
  cases h with
  | malformed named bad =>
    exact ⟨_, ownFinding?_of_resolve named (resolve_of_malformed bad), rfl, rfl⟩
  | unknown named formed absent =>
    exact ⟨_, ownFinding?_of_resolve named (resolve_of_unknown formed absent), rfl, rfl⟩
  | unsuited field bad => exact ⟨_, ownFinding?_of_unsuited field bad, rfl, rfl⟩
  | mismatched field suited bad =>
    obtain ⟨finding, found⟩ :=
      Option.ne_none_iff_exists'.mp (mt fieldMismatch?_eq_none_iff.mp bad)
    exact ⟨finding, (ownFinding?_of_suited field suited).trans found,
      (isFault_of_fieldMismatch? found).1, kind_of_fieldMismatch? found⟩

/-- What is found in a condition is wrong with its path, or with its operand on a field. The checks follow one
another, and each has what the ones before it let pass. -/
theorem cases_of_ownFinding? (named : node.field? = some path) (h : ownFinding? node = some finding) :
    (Malformed path ∧ finding = .malformedPath path) ∨
      (¬ Malformed path ∧ (∀ field : Field, field.path ≠ path) ∧
        finding = .unknownField path (suggestions path)) ∨
      ∃ field operator operand, node = .comparison (Field.path field) operator operand ∧
        ((¬ Suited operator operand ∧ finding = .unsuitedOperand operator operand) ∨
          (Suited operator operand ∧ fieldMismatch? field operator operand = some finding)) := by
  rcases resolve_cases path with malformed | ⟨formed, absent⟩ | ⟨field, rfl⟩
  · rw [ownFinding?_of_resolve named (resolve_of_malformed malformed)] at h
    exact .inl ⟨malformed, (Option.some.inj h).symm⟩
  · rw [ownFinding?_of_resolve named (resolve_of_unknown formed absent)] at h
    exact .inr (.inl ⟨formed, absent, (Option.some.inj h).symm⟩)
  · cases node with
    | presence own present =>
      obtain rfl := Option.some.inj named
      rw [ownFinding?, presenceFinding?_path] at h
      cases h
    | comparison own operator operand =>
      obtain rfl := Option.some.inj named
      refine .inr (.inr ⟨field, operator, operand, rfl, ?_⟩)
      by_cases suited : Suited operator operand
      · exact .inr ⟨suited, (ownFinding?_of_suited field suited).symm.trans h⟩
      · rw [ownFinding?_of_unsuited field suited] at h
        exact .inl ⟨suited, (Option.some.inj h).symm⟩
    | _ => cases named

/-- What is found in a condition is the first fault that it has. -/
theorem faulty_of_ownFinding? (named : node.field? = some path)
    (h : ownFinding? node = some finding) : Faulty node finding.kind := by
  rcases cases_of_ownFinding? named h with ⟨malformed, rfl⟩ | ⟨formed, absent, rfl⟩ |
    ⟨field, operator, operand, rfl, ⟨unsuited, rfl⟩ | ⟨suited, found⟩⟩
  · exact .malformed named malformed
  · exact .unknown named formed absent
  · exact .unsuited field unsuited
  · rw [kind_of_fieldMismatch? found]
    refine .mismatched field suited fun fits => ?_
    rw [fieldMismatch?_eq_none_iff.mpr fits] at found
    cases found

/-- A node is a condition, or it is an empty group, or nothing is wrong with it by itself. -/
theorem ownFinding?_cases (h : ownFinding? node = some finding) :
    (∃ path, node.field? = some path) ∨
      (Vacant node finding.kind ∧ ∃ shape, finding = .emptyGroup shape) := by
  cases node with
  | literal | not => cases h
  | comparison | presence => exact .inl ⟨_, rfl⟩
  | all children =>
    cases children with
    | nil => exact .inr (Option.some.inj h ▸ ⟨.all, _, rfl⟩)
    | cons => cases h
  | any children =>
    cases children with
    | nil => exact .inr (Option.some.inj h ▸ ⟨.any, _, rfl⟩)
    | cons => cases h

theorem faulty_iff : Faulty node kind ↔
    ∃ finding, ownFinding? node = some finding ∧ finding.isError = true ∧ finding.kind = kind := by
  constructor
  · exact exists_ownFinding?_of_faulty
  · rintro ⟨finding, found, error, rfl⟩
    rcases ownFinding?_cases found with ⟨path, named⟩ | ⟨-, shape, rfl⟩
    · exact faulty_of_ownFinding? named found
    · cases error

theorem vacant_iff : Vacant node kind ↔
    ∃ finding, ownFinding? node = some finding ∧ finding.isError = false ∧ finding.kind = kind := by
  constructor
  · rintro (_ | _) <;> exact ⟨_, rfl, rfl, rfl⟩
  · rintro ⟨finding, found, warning, rfl⟩
    rcases ownFinding?_cases found with ⟨path, named⟩ | ⟨vacant, -⟩
    · have error := (isFault_of_ownFinding? (Option.isSome_iff_exists.mpr ⟨path, named⟩) found).1
      rw [warning] at error
      cases error
    · exact vacant

/-! ## The findings of a tree -/

/-- What is wrong with the node at a place below a location. -/
def findingAt? (location : Location) (place : Location × Tree) : Option (Location × Finding) :=
  (ownFinding? place.2).map (location ++ place.1, ·)

theorem filterMap_below (location : Location) (step : Step) (listed : List (Location × Tree)) :
    (listed.map (below step)).filterMap (findingAt? location) =
      listed.filterMap (findingAt? (location ++ [step])) := by
  rw [List.filterMap_map]
  apply List.filterMap_congr
  intro place _
  simp [findingAt?, below]

theorem findings_leaf (location : Location) (leaf : Tree) :
    ((ownFinding? leaf).map (location, ·)).toList =
      [([], leaf)].filterMap (findingAt? location) := by
  cases h : ownFinding? leaf <;> simp [findingAt?, h]

mutual

/-- The findings are those of the nodes, place by place. -/
theorem findings_eq (location : Location) : (tree : Tree) →
    findings location tree = (places tree).filterMap (findingAt? location)
  | .literal value => findings_leaf location (.literal value)
  | .comparison path operator operand => findings_leaf location (.comparison path operator operand)
  | .presence path present => findings_leaf location (.presence path present)
  -- what is wrong with a group itself comes before what is wrong with its children
  | .all children => by
    rw [findings, places, findings_leaf, childFindings_eq, ← List.filterMap_append]
    rfl
  | .any children => by
    rw [findings, places, findings_leaf, childFindings_eq, ← List.filterMap_append]
    rfl
  | .not child => by
    -- nothing is wrong with a negation by itself
    rw [findings, places, findings_eq _ child, List.filterMap_cons_none rfl, filterMap_below]

theorem childFindings_eq (location : Location) (index : Nat) : (children : List Tree) →
    childFindings location index children =
      (childPlaces index children).filterMap (findingAt? location)
  | [] => rfl
  | child :: rest => by
    rw [childFindings, childPlaces, List.filterMap_append, filterMap_below, findings_eq _ child,
      childFindings_eq location (index + 1) rest]

end

/-! ## Reports -/

/-- One diagnostic for each place whose node is wrong, with its kind and the text of the place, in the order
of the places, and none for any other place. -/
inductive Reported (wrong : Tree → Diagnostic.Kind → Prop) :
    List (Location × Tree) → List Diagnostic → Prop where
  | nil : Reported wrong [] []
  | wrong {location : Location} {node : Tree} {diagnostic : Diagnostic}
      {rest : List (Location × Tree)} {others : List Diagnostic} (h : wrong node diagnostic.kind)
      (located : diagnostic.path = some location.text) (later : Reported wrong rest others) :
      Reported wrong ((location, node) :: rest) (diagnostic :: others)
  | right {location : Location} {node : Tree} {rest : List (Location × Tree)}
      {others : List Diagnostic} (h : ∀ kind, ¬ wrong node kind)
      (later : Reported wrong rest others) : Reported wrong ((location, node) :: rest) others

theorem Reported.exists_wrong {wrong : Tree → Diagnostic.Kind → Prop}
    {listed : List (Location × Tree)} {reported : List Diagnostic}
    (h : Reported wrong listed reported) : ∀ d ∈ reported, ∃ node, wrong node d.kind := by
  induction h with
  | nil => exact fun _ member => absurd member List.not_mem_nil
  | @wrong location node diagnostic _ _ bad _ _ ih =>
    intro d member
    rcases List.mem_cons.mp member with rfl | later
    · exact ⟨node, bad⟩
    · exact ih d later
  | right _ _ ih => exact ih

/-- The diagnostics of the findings that are errors, or of those that are not. -/
def diagnostics (error : Bool) (findings : List (Location × Finding)) : List Diagnostic :=
  (findings.filter fun f => f.2.isError == error).map fun f => f.2.toDiagnostic f.1

theorem diagnostics_append (error : Bool) (first last : List (Location × Finding)) :
    diagnostics error (first ++ last) = diagnostics error first ++ diagnostics error last := by
  rw [diagnostics, List.filter_append, List.map_append]
  rfl

theorem errors_validate (tree : Tree) :
    (validate tree).errors = diagnostics true (allFindings tree) := by
  simp only [validate, reportOf, diagnostics, beq_true]

theorem warnings_validate (tree : Tree) :
    (validate tree).warnings = diagnostics false (allFindings tree) := by
  simp only [validate, reportOf, diagnostics, beq_false]

/-- Nodes that are told wrong by their findings are reported by their findings. -/
theorem reported_diagnostics {wrong : Tree → Diagnostic.Kind → Prop} {error : Bool}
    (h : ∀ {node kind}, wrong node kind ↔ ∃ finding,
      ownFinding? node = some finding ∧ finding.isError = error ∧ finding.kind = kind)
    (listed : List (Location × Tree)) :
    Reported wrong listed (diagnostics error (listed.filterMap (findingAt? []))) := by
  induction listed with
  | nil => exact .nil
  | cons place rest ih =>
    obtain ⟨location, node⟩ := place
    cases found : ownFinding? node with
    | none =>
      have nothing : findingAt? [] (location, node) = none := by simp [findingAt?, found]
      rw [List.filterMap_cons_none nothing]
      refine .right (fun kind bad => ?_) ih
      obtain ⟨finding, other, -⟩ := h.mp bad
      rw [found] at other
      cases other
    | some finding =>
      have here : findingAt? [] (location, node) = some (location, finding) := by
        simp [findingAt?, found]
      rw [List.filterMap_cons_some here, diagnostics, List.filter_cons]
      -- a finding of the other sort is in the other list, and the node is right for this one
      split
      next same => exact .wrong (h.mpr ⟨finding, found, eq_of_beq same, rfl⟩) rfl ih
      next different =>
        refine .right (fun kind bad => ?_) ih
        obtain ⟨other, again, same, -⟩ := h.mp bad
        obtain rfl := Option.some.inj (found.symm.trans again)
        exact different (beq_iff_eq.mpr same)

/-- Of the conflicts at the root, the errors are contradictions and the others tautologies. -/
theorem kind_of_mem_rootConflicts {tree : Tree} (listed : finding ∈ rootConflicts tree) :
    finding.kind = if finding.isError then .contradiction else .tautology := by
  cases tree with
  | all children =>
    obtain ⟨path, -, made⟩ := List.mem_filterMap.mp listed
    split at made <;> cases made
    rfl
  | any children =>
    obtain ⟨path, -, made⟩ := List.mem_filterMap.mp listed
    split at made <;> cases made
    rfl
  | _ => exact absurd listed List.not_mem_nil

theorem kind_of_mem_diagnostics (tree : Tree) (error : Bool) :
    ∀ diagnostic ∈ diagnostics error ((rootConflicts tree).map fun finding => ([], finding)),
      diagnostic.kind = (if error then .contradiction else .tautology) ∧
        diagnostic.path = some "$" := by
  intro diagnostic listed
  obtain ⟨⟨location, finding⟩, kept, rfl⟩ := List.mem_map.mp listed
  obtain ⟨member, same⟩ := List.mem_filter.mp kept
  obtain ⟨conflict, atRoot, pair⟩ := List.mem_map.mp member
  cases pair
  rw [← eq_of_beq same]
  exact ⟨kind_of_mem_rootConflicts atRoot, rfl⟩

/-- What is found is found in the node at its place, or is a conflict at the root. -/
theorem mem_allFindings_iff {tree : Tree} {location : Location} :
    (location, finding) ∈ allFindings tree ↔
      (∃ node, nodeAt? location tree = some node ∧ ownFinding? node = some finding) ∨
        location = [] ∧ finding ∈ rootConflicts tree := by
  rw [allFindings, findings_eq, List.mem_append, List.mem_filterMap, List.mem_map]
  refine or_congr ⟨?_, ?_⟩ ⟨?_, ?_⟩
  · rintro ⟨⟨place, node⟩, listed, found⟩
    obtain ⟨_, own, pair⟩ := Option.map_eq_some_iff.mp found
    cases pair
    exact ⟨node, (mem_places_iff tree _ _).mp listed, own⟩
  · rintro ⟨node, stands, own⟩
    refine ⟨_, (mem_places_iff tree _ _).mpr stands, ?_⟩
    rw [findingAt?, own]
    rfl
  · rintro ⟨conflict, member, pair⟩
    cases pair
    exact ⟨rfl, member⟩
  · rintro ⟨rfl, member⟩
    exact ⟨finding, member, rfl⟩

theorem mem_diagnostics_iff {error : Bool} {found : List (Location × Finding)} {d : Diagnostic} :
    d ∈ diagnostics error found ↔ ∃ location finding,
      (location, finding) ∈ found ∧ finding.isError = error ∧ finding.toDiagnostic location = d := by
  simp only [diagnostics, List.mem_map, List.mem_filter, beq_iff_eq, Prod.exists, and_assoc]

/-- What a report lists is what was found. -/
theorem mem_report_iff {tree : Tree} {d : Diagnostic} :
    d ∈ (validate tree).errors ++ (validate tree).warnings ↔ ∃ location finding,
      (location, finding) ∈ allFindings tree ∧ finding.toDiagnostic location = d := by
  rw [List.mem_append, errors_validate, warnings_validate, mem_diagnostics_iff, mem_diagnostics_iff]
  constructor
  · rintro (⟨location, finding, found, -, rfl⟩ | ⟨location, finding, found, -, rfl⟩) <;>
      exact ⟨location, finding, found, rfl⟩
  · rintro ⟨location, finding, found, rfl⟩
    cases error : finding.isError with
    | true => exact .inl ⟨location, finding, found, error, rfl⟩
    | false => exact .inr ⟨location, finding, found, error, rfl⟩

theorem mem_errors_of_ownFinding? {tree : Tree} {location : Location}
    (stands : nodeAt? location tree = some node) (found : ownFinding? node = some finding)
    (error : finding.isError = true) : finding.toDiagnostic location ∈ (validate tree).errors := by
  rw [errors_validate, mem_diagnostics_iff]
  exact ⟨location, finding, mem_allFindings_iff.mpr (.inl ⟨node, stands, found⟩), error, rfl⟩

/-- An error is that of a node, or a conflict at the root. -/
theorem cases_of_mem_errors {tree : Tree} {error : Diagnostic} (h : error ∈ (validate tree).errors) :
    (∃ location node finding, nodeAt? location tree = some node ∧ ownFinding? node = some finding ∧
      error = finding.toDiagnostic location) ∨ error.kind = .contradiction := by
  rw [errors_validate, mem_diagnostics_iff] at h
  obtain ⟨location, finding, found, stops, rfl⟩ := h
  rcases mem_allFindings_iff.mp found with ⟨node, stands, own⟩ | ⟨-, conflict⟩
  · exact .inl ⟨location, node, finding, stands, own, rfl⟩
  · refine .inr ?_
    show finding.kind = _
    rw [kind_of_mem_rootConflicts conflict, stops]
    rfl

/-- A report is exact. The places of a tree are those of its nodes, in the order of the tree, and the text
of each leads to its node and to no other. At the places of faulty conditions there is one error each and
at those of empty groups one warning each, in the order of the places; after them come the conflicts at the
root. -/
theorem reported_validate (tree : Tree) :
    (∀ location node, (location, node) ∈ places tree ↔ nodeAt? location tree = some node) ∧
    ((places tree).Pairwise fun p q => p.1.Precedes q.1) ∧
    (∀ place ∈ places tree, nodeAtText? place.1.text tree = some place.2) ∧
    ((places tree).map fun place => place.1.text).Nodup ∧
    (∃ faults contradictions, (validate tree).errors = faults ++ contradictions ∧
      Reported Faulty (places tree) faults ∧
      ∀ error ∈ contradictions, error.kind = .contradiction ∧ error.path = some "$") ∧
    (∃ gaps tautologies, (validate tree).warnings = gaps ++ tautologies ∧
      Reported Vacant (places tree) gaps ∧
      ∀ warning ∈ tautologies, warning.kind = .tautology ∧ warning.path = some "$") := by
  refine ⟨mem_places_iff tree, pairwise_places tree, fun _ => nodeAtText?_of_mem_places,
    nodup_texts tree, ?_, ?_⟩
  · refine ⟨_, _, ?_, reported_diagnostics faulty_iff (places tree),
      kind_of_mem_diagnostics tree true⟩
    rw [errors_validate, allFindings, diagnostics_append, findings_eq]
  · refine ⟨_, _, ?_, reported_diagnostics vacant_iff (places tree),
      kind_of_mem_diagnostics tree false⟩
    rw [warnings_validate, allFindings, diagnostics_append, findings_eq]

/-- The text of a place in a negation in a group. -/
theorem reported_validate_nested :
    nodeAtText? "$.children[1].child" (.all [.any [], .not (.presence "task.flag" true)]) =
      some (.presence "task.flag" true) := by
  have listed : ([.child 1, .negated], .presence "task.flag" true) ∈
      places (.all [.any [], .not (.presence "task.flag" true)]) := by
    simp [places, childPlaces, below]
  exact (reported_validate _).2.2.1 _ listed

end TaskFilter.Validation
