import Mathlib.Data.List.Nodup
import TaskFilter.Proofs.Tree.Conditions
import TaskFilter.Validation.Basic

/-!
# Causes of findings

What is wrong with a tree, without the places where it is wrong: the causes found in its nodes, and the
conflicts at its root.

Main statements: `causes_all` and its companions give the causes of a tree from those of its parts, and
`contradictions_eq_nil` and `tautologies_eq_nil` say that a group that compares no field twice for equality
has no conflict.
-/

namespace TaskFilter.Validation

/-! ## Causes in the nodes of a tree -/

/-- The causes found in the nodes of a tree, in the order of the tree. -/
def causes (tree : Tree) : List Finding :=
  (findings [] tree).map Prod.snd

mutual

/-- What is wrong with a tree does not depend on where it stands. -/
theorem snd_findings (location : Location) :
    (tree : Tree) → (findings location tree).map Prod.snd = causes tree
  | .literal _ => rfl
  -- conditions have no children: what is wrong with them is their own cause
  | .comparison path operator operand => by
    cases h : ownFinding? (.comparison path operator operand) <;> simp [causes, findings, h]
  | .presence path present => by
    cases h : ownFinding? (.presence path present) <;> simp [causes, findings, h]
  -- the children stand at other locations, which is why those are arbitrary on the left
  | .all children => by
    simp only [causes, findings, List.map_append, snd_childFindings _ _ children]
    cases ownFinding? (.all children) <;> rfl
  | .any children => by
    simp only [causes, findings, List.map_append, snd_childFindings _ _ children]
    cases ownFinding? (.any children) <;> rfl
  | .not child => by
    rw [causes, findings, findings, snd_findings _ child, snd_findings _ child]

theorem snd_childFindings (location : Location) (index : Nat) :
    (children : List Tree) →
      (childFindings location index children).map Prod.snd = children.flatMap causes
  | [] => rfl
  | child :: rest => by
    simp only [childFindings, List.map_append, List.flatMap_cons, snd_findings _ child,
      snd_childFindings _ _ rest]

end

theorem causes_comparison (path : String) (operator : Operator) (operand : Operand) :
    causes (.comparison path operator operand) =
      (comparisonFinding? path operator operand).toList := by
  cases h : comparisonFinding? path operator operand <;> simp [causes, findings, ownFinding?, h]

theorem causes_presence (path : String) (present : Bool) :
    causes (.presence path present) = (presenceFinding? path).toList := by
  cases h : presenceFinding? path <;> simp [causes, findings, ownFinding?, h]

theorem causes_all {children : List Tree} (h : children ≠ []) :
    causes (.all children) = children.flatMap causes := by
  obtain ⟨child, rest, rfl⟩ := List.exists_cons_of_ne_nil h
  rw [causes, findings, List.map_append, snd_childFindings]
  rfl

theorem causes_any {children : List Tree} (h : children ≠ []) :
    causes (.any children) = children.flatMap causes := by
  obtain ⟨child, rest, rfl⟩ := List.exists_cons_of_ne_nil h
  rw [causes, findings, List.map_append, snd_childFindings]
  rfl

theorem causes_not (child : Tree) : causes (.not child) = causes child := by
  rw [causes, findings, snd_findings]

/-! ## Paths of known fields -/

theorem resolve_path (field : Field) : resolve field.path = .ok field := by
  have wellFormed : Text.isWellFormedPath field.path = true := by
    cases field <;> decide
  rw [resolve, if_pos wellFormed, Field.ofPath?_path]

theorem path_of_resolve {path : String} {field : Field} (h : resolve path = .ok field) :
    field.path = path := by
  unfold resolve at h
  split at h
  · cases known : Field.ofPath? path with
    | none => simp [known] at h
    | some found =>
      simp only [known] at h
      obtain rfl := Except.ok.inj h
      exact Field.path_of_ofPath? known
  · cases h

theorem presenceFinding?_path (field : Field) : presenceFinding? field.path = none := by
  rw [presenceFinding?, resolve_path]

theorem exists_path_of_presenceFinding? {path : String} (h : presenceFinding? path = none) :
    ∃ field : Field, field.path = path := by
  unfold presenceFinding? at h
  cases resolved : resolve path with
  | error finding => simp [resolved] at h
  | ok field => exact ⟨field, path_of_resolve resolved⟩

theorem comparisonFinding?_path (field : Field) {operator : Operator} {operand : Operand}
    (h : suits operator operand = true) :
    comparisonFinding? field.path operator operand = fieldMismatch? field operator operand := by
  rw [comparisonFinding?, resolve_path]
  exact if_pos h

/-! ## Conflicts at the root -/

/-- A group that compares no path twice for equality has one operand at most for each path. -/
theorem length_operandsOf_le_one {children : List Tree}
    (h : ((equalities children).map Prod.fst).Nodup) (path : String) :
    (operandsOf path children).length ≤ 1 := by
  -- the count of a path in a list without repetitions is one at most
  have few : ((equalities children).filter fun e => e.1 == path).length ≤ 1 := by
    rw [← List.countP_eq_length_filter]
    have count := List.nodup_iff_count_le_one.mp h path
    rwa [List.count, List.countP_map] at count
  unfold operandsOf
  generalize (equalities children).filter (fun e => e.1 == path) = own at few
  match own, few with
  | [], _ => simp
  | [e], _ => simp [List.eraseDups_cons]

theorem contradictions_eq_nil {children : List Tree}
    (h : ((equalities children).map Prod.fst).Nodup) : contradictions children = [] := by
  rw [contradictions, List.filterMap_eq_nil_iff]
  intro path _
  have few := length_operandsOf_le_one h path
  exact if_neg (by omega)

/-- Truth values equal nothing but themselves. -/
theorem eq_bool_of_beq {operand : Operand} {b : Bool} (h : (.bool b == operand) = true) :
    Operand.bool b = operand := by
  cases operand with
  | bool c =>
    have same : (b == c) = true := h
    rw [eq_of_beq same]
  | number | string | array => exact absurd h (by simp [BEq.beq, instBEqOperand.beq])

theorem tautologies_eq_nil {children : List Tree}
    (h : ((equalities children).map Prod.fst).Nodup) : tautologies children = [] := by
  rw [tautologies, List.filterMap_eq_nil_iff]
  intro path _
  have few := length_operandsOf_le_one h path
  -- a tautology takes both truth values, and one operand cannot be equal to both
  refine if_neg fun both => ?_
  generalize operandsOf path children = operands at few both
  match operands, few with
  | [], _ => simp at both
  | [operand], _ =>
    simp only [Bool.and_eq_true, List.contains_cons, List.contains_nil, Bool.or_false] at both
    have isTrue := eq_bool_of_beq both.1
    have isFalse := eq_bool_of_beq both.2
    rw [← isTrue] at isFalse
    exact absurd isFalse (by simp)

/-- A group without comparisons for equality has no conflict. -/
theorem contradictions_of_no_equality {children : List Tree} (h : equalities children = []) :
    contradictions children = [] :=
  contradictions_eq_nil (by rw [h]; exact List.nodup_nil)

theorem tautologies_of_no_equality {children : List Tree} (h : equalities children = []) :
    tautologies children = [] :=
  tautologies_eq_nil (by rw [h]; exact List.nodup_nil)

/-! ## Findings about conditions -/

theorem causes_subset_all (children : List Tree) :
    children.flatMap causes ⊆ causes (.all children) := by
  cases children with
  | nil => exact List.nil_subset _
  | cons child rest =>
    rw [causes_all (List.cons_ne_nil child rest)]
    exact List.Subset.refl _

theorem causes_subset_any (children : List Tree) :
    children.flatMap causes ⊆ causes (.any children) := by
  cases children with
  | nil => exact List.nil_subset _
  | cons child rest =>
    rw [causes_any (List.cons_ne_nil child rest)]
    exact List.Subset.refl _

mutual

/-- What is wrong with a condition is found in the tree. -/
theorem mem_causes_of_mem_conditions : (tree : Tree) → ∀ condition ∈ tree.conditions,
    ∀ finding, ownFinding? condition = some finding → finding ∈ causes tree
  | .literal _, condition, member, finding, h => absurd member List.not_mem_nil
  | .comparison path operator operand, condition, member, finding, h => by
    rw [List.mem_singleton.mp member] at h
    rw [causes_comparison]
    exact Option.mem_toList.mpr h
  | .presence path present, condition, member, finding, h => by
    rw [List.mem_singleton.mp member] at h
    rw [causes_presence]
    exact Option.mem_toList.mpr h
  | .all children, condition, member, finding, h =>
    causes_subset_all children (mem_causes_of_mem_allConditions children condition member finding h)
  | .any children, condition, member, finding, h =>
    causes_subset_any children (mem_causes_of_mem_allConditions children condition member finding h)
  | .not child, condition, member, finding, h => by
    rw [causes_not]
    exact mem_causes_of_mem_conditions child condition member finding h

theorem mem_causes_of_mem_allConditions : (children : List Tree) →
    ∀ condition ∈ Tree.allConditions children,
      ∀ finding, ownFinding? condition = some finding → finding ∈ children.flatMap causes
  | [], condition, member, finding, h => absurd member List.not_mem_nil
  | child :: rest, condition, member, finding, h => by
    rw [List.flatMap_cons, List.mem_append]
    rcases List.mem_append.mp member with first | later
    · exact .inl (mem_causes_of_mem_conditions child condition first finding h)
    · exact .inr (mem_causes_of_mem_allConditions rest condition later finding h)

end

/-- The finding stops a tree from being compiled, and is no contradiction. -/
def Finding.IsFault (finding : Finding) : Prop :=
  finding.isError = true ∧ finding.kind ≠ .contradiction

theorem isFault_of_resolve {path : String} {finding : Finding}
    (h : resolve path = .error finding) : finding.IsFault := by
  unfold resolve at h
  split at h
  · cases known : Field.ofPath? path with
    | none =>
      simp only [known] at h
      obtain rfl := Except.error.inj h
      exact ⟨rfl, by simp [Finding.kind]⟩
    | some field => simp [known] at h
  · obtain rfl := Except.error.inj h
    exact ⟨rfl, by simp [Finding.kind]⟩

theorem isFault_of_fieldMismatch? {field : Field} {operator : Operator} {operand : Operand}
    {finding : Finding} (h : fieldMismatch? field operator operand = some finding) :
    finding.IsFault := by
  have fault : ∀ {other : Finding}, (∃ text, other = .noDate field text) ∨
      (∃ operand, other = .wrongKind field operand) ∨ other = .presenceOnly field →
        other.IsFault := by
    rintro other (⟨text, rfl⟩ | ⟨operand, rfl⟩ | rfl) <;> exact ⟨rfl, by simp [Finding.kind]⟩
  unfold fieldMismatch? at h
  apply fault
  -- a text is looked into for a date, and an operator for a collection
  split at h
  case h_3 | h_5 =>
    split at h <;> cases h
    simp
  all_goals cases h <;> simp

/-- What is wrong with a condition is always an error. -/
theorem isFault_of_ownFinding? {condition : Tree} {finding : Finding}
    (listed : condition.field?.isSome = true) (h : ownFinding? condition = some finding) :
    finding.IsFault := by
  cases condition with
  | literal | all | any | not => cases listed
  | presence path present =>
    simp only [ownFinding?, presenceFinding?] at h
    cases resolved : resolve path with
    | ok field => simp [resolved] at h
    | error cause =>
      simp only [resolved] at h
      exact Option.some.inj h ▸ isFault_of_resolve resolved
  | comparison path operator operand =>
    simp only [ownFinding?, comparisonFinding?] at h
    cases resolved : resolve path with
    | error cause =>
      simp only [resolved] at h
      exact Option.some.inj h ▸ isFault_of_resolve resolved
    | ok field =>
      simp only [resolved] at h
      split at h
      · exact isFault_of_fieldMismatch? h
      · exact Option.some.inj h ▸ ⟨rfl, by simp [Finding.kind]⟩

/-- If the only errors are contradictions, nothing is wrong with a condition. -/
theorem ownFinding?_of_contradictions {tree : Tree}
    (errors : ∀ error ∈ (validate tree).errors, error.kind = .contradiction)
    {condition : Tree} (listed : condition ∈ tree.conditions) : ownFinding? condition = none := by
  by_contra wrong
  obtain ⟨finding, found⟩ := Option.ne_none_iff_exists'.mp wrong
  have fault := isFault_of_ownFinding? (tree.isSome_field?_of_mem_conditions condition listed) found
  have cause := mem_causes_of_mem_conditions tree condition listed finding found
  obtain ⟨place, located, rfl⟩ := List.mem_map.mp cause
  have error : place ∈ (allFindings tree).filter fun f => f.2.isError :=
    List.mem_filter.mpr ⟨List.mem_append_left _ located, fault.1⟩
  exact fault.2 (errors _ (List.mem_map_of_mem error))

theorem errors_of_valid {tree : Tree} (valid : (validate tree).valid = true) :
    (validate tree).errors = [] := by
  have none : (allFindings tree).filter (fun f => f.2.isError) = [] := List.isEmpty_iff.mp valid
  rw [validate, reportOf, none]
  rfl

/-- In a valid tree, nothing is wrong with a condition. -/
theorem ownFinding?_of_valid {tree : Tree} (valid : (validate tree).valid = true)
    {condition : Tree} (listed : condition ∈ tree.conditions) : ownFinding? condition = none := by
  apply ownFinding?_of_contradictions _ listed
  rw [errors_of_valid valid]
  exact fun error member => absurd member List.not_mem_nil

end TaskFilter.Validation
