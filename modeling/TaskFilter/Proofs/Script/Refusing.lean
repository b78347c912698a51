import TaskFilter.Proofs.Script.Emitting
import TaskFilter.Proofs.Validation.Causes

/-!
# Valid trees without an expression

Not every valid tree can be expressed: validation looks at a condition's operand, and emission at its
operator as well. What lies between the two is a property of single conditions, the same in both dialects.

## Layers

- **Order**: the error of a tree is that of the first of its conditions that has one
  (`emit_eq_error_iff`).
- **Conditions**: with which operators an operand suits a kind of field (`Fits`), and what emission makes
  of such a condition (`refusal?_of_ownFinding?`).
- **Main statement**: `emit_of_valid`.
-/

namespace TaskFilter.Script

variable {dialect : Dialect}

/-! ## The first error counts -/

/-- Why a condition cannot be expressed, if it cannot. -/
def refusal? (dialect : Dialect) (tree : Tree) : Option EmissionError :=
  match emit dialect tree with
  | .ok _ => none
  | .error cause => some cause

theorem refusal?_eq_some_iff {tree : Tree} {cause : EmissionError} :
    refusal? dialect tree = some cause ↔ emit dialect tree = .error cause := by
  unfold refusal?
  cases emit dialect tree <;> simp

theorem emit_all_eq_error_iff (children : List Tree) (cause : EmissionError) :
    emit dialect (.all children) = .error cause ↔ emitAll dialect children = .error cause := by
  rw [emit]
  cases emitAll dialect children <;> simp [bind, Except.bind]

theorem emit_any_eq_error_iff (children : List Tree) (cause : EmissionError) :
    emit dialect (.any children) = .error cause ↔ emitAll dialect children = .error cause := by
  rw [emit]
  cases emitAll dialect children <;> simp [bind, Except.bind]

theorem emit_not_eq_error_iff (child : Tree) (cause : EmissionError) :
    emit dialect (.not child) = .error cause ↔ emit dialect child = .error cause := by
  rw [emit]
  cases emit dialect child <;> simp [bind, Except.bind]

theorem emitAll_cons_eq_error_iff (child : Tree) (rest : List Tree) (cause : EmissionError) :
    emitAll dialect (child :: rest) = .error cause ↔
      emit dialect child = .error cause ∨
        (refusal? dialect child = none ∧ emitAll dialect rest = .error cause) := by
  rw [emitAll, refusal?]
  cases emit dialect child with
  | error first => simp [bind, Except.bind]
  | ok part => cases emitAll dialect rest <;> simp [bind, Except.bind]

-- the induction is that of emission; in a group, the conditions of the first child come first
mutual

/-- A tree has the error of the first of its conditions that has one. -/
theorem emit_eq_error_iff : (tree : Tree) → ∀ {cause : EmissionError},
    emit dialect tree = .error cause ↔
      tree.conditions.findSome? (refusal? dialect) = some cause
  | .literal value, cause => by simp [emit, Tree.conditions]
  | .comparison path operator operand, cause => by
    simp [Tree.conditions, List.findSome?_singleton, refusal?_eq_some_iff]
  | .presence path present, cause => by
    simp [Tree.conditions, List.findSome?_singleton, refusal?_eq_some_iff]
  | .all children, cause => by
    rw [emit_all_eq_error_iff, emitAll_eq_error_iff children, Tree.conditions]
  | .any children, cause => by
    rw [emit_any_eq_error_iff, emitAll_eq_error_iff children, Tree.conditions]
  | .not child, cause => by
    rw [emit_not_eq_error_iff, emit_eq_error_iff child, Tree.conditions]

theorem emitAll_eq_error_iff : (children : List Tree) → ∀ {cause : EmissionError},
    emitAll dialect children = .error cause ↔
      (Tree.allConditions children).findSome? (refusal? dialect) = some cause
  | [], cause => by simp [emitAll, Tree.allConditions]
  | child :: rest, cause => by
    have expressed : refusal? dialect child = none ↔
        child.conditions.findSome? (refusal? dialect) = none := by
      simp only [Option.eq_none_iff_forall_ne_some, ne_eq, refusal?_eq_some_iff, emit_eq_error_iff child]
    rw [emitAll_cons_eq_error_iff, emit_eq_error_iff child, emitAll_eq_error_iff rest, expressed,
      Tree.allConditions, List.findSome?_append, Option.or_eq_some_iff]

end

/-! ## Conditions that nothing is wrong with -/

/-- The operands of fields of a kind. A truth value is compared for equality only. -/
inductive Fits : ValueKind → Operator → Operand → Prop where
  | truth (operator : Operator) (h : (polarity? operator).isSome = true) (value : Bool) :
      Fits .boolean operator (.bool value)
  | text (operator : Operator) (value : String) : Fits .string operator (.string value)
  | date (operator : Operator) (value : String) : Fits .date operator (.string value)
  | names (operator : Operator) (names : List String) : Fits .array operator (.array names)
  | name (operator : Operator) (name : String) : Fits .array operator (.string name)

theorem isSome_polarity?_of_suits_bool {operator : Operator} {value : Bool}
    (h : Validation.suits operator (.bool value) = true) : (polarity? operator).isSome = true := by
  cases operator <;> first | rfl | cases h

/-- Sets have names in them, and nothing else is looked up in one. -/
theorem fits_array {field : Field} {operator : Operator} {operand : Operand}
    (kind : field.kind = .array) (suited : Validation.suits operator operand = true)
    (h : Validation.fieldMismatch? field operator operand = none) :
    Fits .array operator operand := by
  cases operand with
  | array names => exact .names operator names
  | string name => exact .name operator name
  | bool | number =>
    unfold Validation.fieldMismatch? at h
    unfold Validation.suits at suited
    rw [kind] at h
    -- either it is a set that the operand does not suit, or the field
    split at suited <;> simp_all

/-- An operand that suits both its operator and its field fits the kind of the field. -/
theorem fits_of_fieldMismatch? {field : Field} {operator : Operator} {operand : Operand}
    (suited : Validation.suits operator operand = true)
    (h : Validation.fieldMismatch? field operator operand = none) :
    Fits field.kind operator operand := by
  cases kind : field.kind with
  | array => exact fits_array kind suited h
  | boolean =>
    unfold Validation.fieldMismatch? at h
    rw [kind] at h
    cases operand with
    | bool value => exact .truth operator (isSome_polarity?_of_suits_bool suited) value
    | number | string | array => cases h
  | string =>
    unfold Validation.fieldMismatch? at h
    rw [kind] at h
    cases operand with
    | string value => exact .text operator value
    | bool | number | array => cases h
  | date =>
    unfold Validation.fieldMismatch? at h
    rw [kind] at h
    cases operand with
    | string value => exact .date operator value
    | bool | number | array => cases h
  | object =>
    unfold Validation.fieldMismatch? at h
    rw [kind] at h
    cases operand <;> cases h

/-- A comparison that nothing is wrong with is about a known field, and its operand fits. -/
theorem fits_of_comparisonFinding? {path : String} {operator : Operator} {operand : Operand}
    (h : Validation.comparisonFinding? path operator operand = none) :
    ∃ field : Field, field.path = path ∧ Fits field.kind operator operand := by
  unfold Validation.comparisonFinding? at h
  cases resolved : Validation.resolve path with
  | error finding => simp [resolved] at h
  | ok field =>
    simp only [resolved] at h
    split at h
    next suited =>
      exact ⟨field, Validation.path_of_resolve resolved, fits_of_fieldMismatch? suited h⟩
    next => cases h

/-! ## What emission makes of them -/

/-- Whether no dialect has the operator for the field. -/
def refuses (field : Field) (operator : Operator) : Bool :=
  match field with
  | .id | .name | .note => operator.isOrdering || operator.isSetMatch
  | .containingProject => operator != .eq && operator != .ne
  | .dueDate | .deferDate | .plannedDate | .completionDate => !operator.isOrdering
  | .tags => !operator.isSetMatch
  | _ => false

/-- Whether the condition is about a field that does not have its operator, or has no presence test. -/
def isRefused : Tree → Bool
  | .comparison path operator _ => (Field.ofPath? path).any fun field => refuses field operator
  | .presence path _ =>
    (Field.ofPath? path).any fun field => field.kind == .boolean || field.isDerived
  | _ => false

/-- What a field is called in the error of a comparison. -/
def fieldClass (field : Field) : String :=
  if field = .containingProject then "synthetic" else field.kind.name

theorem refuses_of_ne {field : Field} (h : field ≠ .containingProject) (operator : Operator) :
    refuses field operator = match field.kind with
      | .string => operator.isOrdering || operator.isSetMatch
      | .date => !operator.isOrdering
      | .array => !operator.isSetMatch
      | .boolean | .object => false := by
  cases field <;> first | rfl | exact absurd rfl h

/-- Derived fields are truth values, save for the project. -/
theorem kind_of_derivedPredicate? {field : Field} {predicate : Expr}
    (h : derivedPredicate? dialect field = some predicate) :
    field.kind = .boolean ∧ field ≠ .containingProject := by
  cases dialect <;> cases field <;> first | exact ⟨rfl, by decide⟩ | cases h

theorem refusal?_project (operator : Operator) (reference : String) :
    refusal? dialect (.comparison Field.containingProject.path operator (.string reference)) =
      if refuses .containingProject operator then
        some (.unsupportedOperator Field.containingProject.path operator "synthetic" dialect)
      else none := by
  have derived : derivedComparison? dialect .containingProject operator (.string reference) =
      some (projectComparison dialect operator (.string reference)) := rfl
  rw [refusal?, emit_comparison_derived dialect derived]
  cases operator <;> rfl

theorem refusal?_truth {field : Field} {predicate : Expr} {operator : Operator}
    (h : derivedPredicate? dialect field = some predicate)
    (polar : (polarity? operator).isSome = true) (value : Bool) :
    refusal? dialect (.comparison field.path operator (.bool value)) = none := by
  have derived : derivedComparison? dialect field operator (.bool value) =
      some (truthComparison dialect field predicate operator (.bool value)) := by
    rw [derivedComparison?, if_neg (kind_of_derivedPredicate? h).2, h]
    rfl
  obtain ⟨positive, sign⟩ := Option.isSome_iff_exists.mp polar
  rw [refusal?, emit_comparison_derived dialect derived, truthComparison, Operand.bool?]
  simp only [sign]

/-- On a property, an operator is refused for its kind. -/
theorem refusal?_property {field : Field} {operator : Operator} {operand : Operand}
    (held : expands dialect field = false) (other : field ≠ .containingProject)
    (fits : Fits field.kind operator operand) :
    refusal? dialect (.comparison field.path operator operand) =
      if refuses field operator then
        some (.unsupportedOperator field.path operator field.kind.name dialect)
      else none := by
  rw [refusal?, emit_comparison_property dialect held, refuses_of_ne other]
  unfold propertyAtom
  generalize field.kind = kind at fits
  cases fits with
  | truth _ polar value => cases operator <;> first | rfl | cases polar
  | text _ value | date _ value | names _ names | name _ name => cases operator <;> rfl

/-- Whether a comparison is refused depends on its field and its operator, and not on the dialect. -/
theorem refusal?_comparison {field : Field} {operator : Operator} {operand : Operand}
    (fits : Fits field.kind operator operand) :
    refusal? dialect (.comparison field.path operator operand) =
      if refuses field operator then
        some (.unsupportedOperator field.path operator (fieldClass field) dialect)
      else none := by
  by_cases project : field = .containingProject
  · subst project
    cases fits with
    | text _ reference => exact refusal?_project operator reference
  · rw [fieldClass, if_neg project]
    cases derived : derivedPredicate? dialect field with
    | none =>
      have held : expands dialect field = false := by
        rw [expands, derived, beq_eq_false_iff_ne.mpr project]
        rfl
      exact refusal?_property held project fits
    | some predicate =>
      obtain ⟨kind, -⟩ := kind_of_derivedPredicate? derived
      rw [refuses_of_ne project, kind]
      rw [kind] at fits
      cases fits with
      | truth _ polar value => exact refusal?_truth derived polar value

theorem refusal?_presence (field : Field) (present : Bool) :
    refusal? dialect (.presence field.path present) =
      if field.kind == .boolean || field.isDerived then
        some (.unsupportedPresence field.path dialect)
      else none := by
  rw [refusal?, emit_presence_path, beq_eq_decide, Bool.or_comm]
  cases decide (field.kind = .boolean) || field.isDerived <;> rfl

/-- The same error, of another dialect. -/
def EmissionError.inDialect (dialect : Dialect) : EmissionError → EmissionError
  | .unsupportedOperator path operator fieldClass _ =>
    .unsupportedOperator path operator fieldClass dialect
  | .unsupportedPresence path _ => .unsupportedPresence path dialect
  | cause => cause

/-- The operator of a comparison is not supported, or a presence test is not. -/
inductive EmissionError.Unsupported (dialect : Dialect) : EmissionError → Prop where
  | operator (path : String) (operator : Operator) (fieldClass : String) :
      Unsupported dialect (.unsupportedOperator path operator fieldClass dialect)
  | presence (path : String) : Unsupported dialect (.unsupportedPresence path dialect)

theorem EmissionError.inDialect_inDialect (cause : EmissionError) (dialect other : Dialect) :
    (cause.inDialect dialect).inDialect other = cause.inDialect other := by
  cases cause <;> rfl

/-- A condition that nothing is wrong with is expressed in both dialects, or it is refused in both for the
same reason. -/
theorem refusal?_of_ownFinding? {condition : Tree} (listed : condition.field?.isSome = true)
    (h : Validation.ownFinding? condition = none) :
    ∃ cause : EmissionError, ∀ dialect, (cause.inDialect dialect).Unsupported dialect ∧
      refusal? dialect condition =
        if isRefused condition then some (cause.inDialect dialect) else none := by
  cases condition with
  | literal | all | any | not => cases listed
  | comparison path operator operand =>
    obtain ⟨field, rfl, fits⟩ := fits_of_comparisonFinding? h
    refine ⟨.unsupportedOperator field.path operator (fieldClass field) .jxa, ?_⟩
    intro dialect
    rw [isRefused, Field.ofPath?_path]
    exact ⟨.operator .., refusal?_comparison fits⟩
  | presence path present =>
    obtain ⟨field, rfl⟩ := Validation.exists_path_of_presenceFinding? h
    refine ⟨.unsupportedPresence field.path .jxa, ?_⟩
    intro dialect
    rw [isRefused, Field.ofPath?_path]
    exact ⟨.presence .., refusal?_presence field present⟩

/-! ## Valid trees -/

/-- In a valid tree, the conditions that are refused are told without regard to the dialect. -/
theorem exists_causes_of_valid {tree : Tree} (valid : (Validation.validate tree).valid = true) :
    ∀ condition ∈ tree.conditions, ∃ cause : EmissionError, ∀ dialect,
      (cause.inDialect dialect).Unsupported dialect ∧
        refusal? dialect condition =
          if isRefused condition then some (cause.inDialect dialect) else none := by
  intro condition listed
  exact refusal?_of_ownFinding? (tree.isSome_field?_of_mem_conditions condition listed)
    (Validation.ownFinding?_of_valid valid listed)

/-- The first refusal is that of the first condition that is refused. -/
theorem findSome?_refusal? {conditions : List Tree}
    (h : ∀ condition ∈ conditions, (refusal? dialect condition).isSome = isRefused condition) :
    conditions.findSome? (refusal? dialect) =
      (conditions.find? isRefused).bind (refusal? dialect) := by
  induction conditions with
  | nil => rfl
  | cons condition rest ih =>
    rw [List.forall_mem_cons] at h
    rw [List.findSome?_cons, List.find?_cons, ← h.1]
    cases known : refusal? dialect condition with
    | none => exact ih h.2
    | some cause => exact known.symm

theorem emit_eq_error_iff_of_valid {tree : Tree}
    (valid : (Validation.validate tree).valid = true) (dialect : Dialect) (cause : EmissionError) :
    emit dialect tree = .error cause ↔
      ∃ condition, tree.conditions.find? isRefused = some condition ∧
        refusal? dialect condition = some cause := by
  have told : ∀ condition ∈ tree.conditions,
      (refusal? dialect condition).isSome = isRefused condition := by
    intro condition listed
    obtain ⟨cause, known⟩ := exists_causes_of_valid valid condition listed
    rw [(known dialect).2]
    cases isRefused condition <;> rfl
  rw [emit_eq_error_iff, findSome?_refusal? told, Option.bind_eq_some_iff]

/-- Whether a valid tree has an expression is told without regard to the dialect. -/
theorem exists_error_iff_of_valid {tree : Tree}
    (valid : (Validation.validate tree).valid = true) (dialect : Dialect) :
    (∃ cause, emit dialect tree = .error cause) ↔
      ∃ condition ∈ tree.conditions, isRefused condition = true := by
  simp only [emit_eq_error_iff_of_valid valid]
  constructor
  · rintro ⟨cause, condition, first, -⟩
    exact ⟨condition, List.mem_of_find?_eq_some first, List.find?_some first⟩
  · rintro ⟨condition, listed, refused⟩
    obtain ⟨first, found⟩ :=
      Option.isSome_iff_exists.mp (List.find?_isSome.mpr ⟨condition, listed, refused⟩)
    obtain ⟨cause, known⟩ := exists_causes_of_valid valid first (List.mem_of_find?_eq_some found)
    refine ⟨cause.inDialect dialect, first, found, ?_⟩
    rw [(known dialect).2, if_pos (List.find?_some found)]

/-- What validation lets through and emission does not. A valid tree has no expression in a dialect exactly
if one of its conditions is refused; its error is then that of the first such condition, is about an operator
or a presence test, and is the same in the other dialect, save for the dialect's name. -/
theorem emit_of_valid {tree : Tree} (valid : (Validation.validate tree).valid = true) :
    (∀ dialect, (∃ cause, emit dialect tree = .error cause) ↔
      ∃ condition ∈ tree.conditions, isRefused condition = true) ∧
    ∀ dialect cause, emit dialect tree = .error cause →
      (∃ condition, tree.conditions.find? isRefused = some condition ∧
        emit dialect condition = .error cause) ∧
      cause.Unsupported dialect ∧
      ∀ other, emit other tree = .error (cause.inDialect other) := by
  have causes := exists_causes_of_valid valid
  constructor
  · exact exists_error_iff_of_valid valid
  · intro dialect cause failed
    obtain ⟨first, found, refused⟩ := (emit_eq_error_iff_of_valid valid dialect cause).mp failed
    obtain ⟨common, known⟩ := causes first (List.mem_of_find?_eq_some found)
    simp only [List.find?_some found, ↓reduceIte] at known
    -- the error is the common one, in this dialect
    obtain rfl : common.inDialect dialect = cause :=
      Option.some.inj ((known dialect).2.symm.trans refused)
    refine ⟨⟨first, found, refusal?_eq_some_iff.mp refused⟩, (known dialect).1, ?_⟩
    intro other
    rw [EmissionError.inDialect_inDialect, emit_eq_error_iff_of_valid valid]
    exact ⟨first, found, (known other).2⟩

/-- A text that is to be ordered, inside a negation and behind a condition that is expressed. -/
theorem emit_of_valid_ordered_name :
    (Validation.validate (.any [.comparison Field.flagged.path .eq (.bool true),
      .not (.comparison Field.name.path .lt (.string "m"))])).valid = true ∧
    emit .omnijs (.any [.comparison Field.flagged.path .eq (.bool true),
      .not (.comparison Field.name.path .lt (.string "m"))]) =
        .error (.unsupportedOperator Field.name.path .lt "string" .omnijs) := by
  have valid : (Validation.validate (.any [.comparison Field.flagged.path .eq (.bool true),
      .not (.comparison Field.name.path .lt (.string "m"))])).valid = true := by decide
  have failed : emit .jxa (.any [.comparison Field.flagged.path .eq (.bool true),
      .not (.comparison Field.name.path .lt (.string "m"))]) =
        .error (.unsupportedOperator Field.name.path .lt "string" .jxa) := rfl
  obtain ⟨-, -, same⟩ := (emit_of_valid valid).2 .jxa _ failed
  exact ⟨valid, same .omnijs⟩

end TaskFilter.Script
