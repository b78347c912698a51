import Mathlib.Data.List.Forall2
import TaskFilter.Script.Emission

/-!
# Emission, node by node

When a tree has an expression, and which one, said from its children: a group has an expression exactly if
every child has one. The theory of emission uses these lemmas and not the monadic definition.
-/

namespace TaskFilter.Script

variable (dialect : Dialect)

/-- The tree has an expression in the dialect. -/
def Expressible (tree : Tree) : Prop :=
  ∃ expression, emit dialect tree = .ok expression

/-! ## Several trees -/

theorem emitAll_eq_ok_iff (children : List Tree) (parts : List Expr) :
    emitAll dialect children = .ok parts ↔
      List.Forall₂ (fun child part => emit dialect child = .ok part) children parts := by
  induction children generalizing parts with
  | nil => simp [emitAll, eq_comm]
  | cons child rest ih =>
    -- either the first child is refused, or one of the others is, or none
    rw [emitAll]
    cases first : emit dialect child with
    | error cause => cases parts <;> simp [bind, Except.bind, first]
    | ok part =>
      cases others : emitAll dialect rest with
      | error cause => cases parts <;> simp [bind, Except.bind, first, ← ih, others]
      | ok more => cases parts <;> simp [bind, Except.bind, first, ← ih, others]

theorem exists_emitAll_iff (children : List Tree) :
    (∃ parts, emitAll dialect children = .ok parts) ↔
      ∀ child ∈ children, Expressible dialect child := by
  simp only [emitAll_eq_ok_iff]
  induction children with
  | nil => simp
  | cons child rest ih =>
    rw [List.forall_mem_cons, ← ih]
    simp only [List.forall₂_cons_left_iff, Expressible]
    constructor
    · rintro ⟨_, part, parts, head, tail, rfl⟩
      exact ⟨⟨part, head⟩, parts, tail⟩
    · rintro ⟨⟨part, head⟩, parts, tail⟩
      exact ⟨part :: parts, part, parts, head, tail, rfl⟩

/-! ## Single nodes -/

theorem emit_all_eq_ok_iff (children : List Tree) (e : Expr) :
    emit dialect (.all children) = .ok e ↔
      ∃ parts, emitAll dialect children = .ok parts ∧ group .and parts = e := by
  rw [emit]
  cases emitAll dialect children <;> simp [bind, Except.bind]

theorem emit_any_eq_ok_iff (children : List Tree) (e : Expr) :
    emit dialect (.any children) = .ok e ↔
      ∃ parts, emitAll dialect children = .ok parts ∧ group .or parts = e := by
  rw [emit]
  cases emitAll dialect children <;> simp [bind, Except.bind]

theorem emit_not_eq_ok_iff (child : Tree) (e : Expr) :
    emit dialect (.not child) = .ok e ↔
      ∃ inner, emit dialect child = .ok inner ∧ Expr.not (.parens inner) = e := by
  rw [emit]
  cases emit dialect child <;> simp [bind, Except.bind]

theorem expressible_all_iff (children : List Tree) :
    Expressible dialect (.all children) ↔ ∀ child ∈ children, Expressible dialect child := by
  rw [← exists_emitAll_iff]
  simp [Expressible, emit_all_eq_ok_iff]

theorem expressible_any_iff (children : List Tree) :
    Expressible dialect (.any children) ↔ ∀ child ∈ children, Expressible dialect child := by
  rw [← exists_emitAll_iff]
  simp [Expressible, emit_any_eq_ok_iff]

theorem expressible_not_iff (child : Tree) :
    Expressible dialect (.not child) ↔ Expressible dialect child := by
  simp [Expressible, emit_not_eq_ok_iff]

/-! ## Conditions on known fields -/

theorem derivedComparison?_eq_none_iff (field : Field) (operator : Operator) (operand : Operand) :
    derivedComparison? dialect field operator operand = none ↔ expands dialect field = false := by
  unfold derivedComparison? expands
  by_cases project : field = .containingProject
  · simp [project]
  · simp [project]

theorem emit_comparison_derived {field : Field} {operator : Operator} {operand : Operand}
    {result : Except EmissionError Expr}
    (h : derivedComparison? dialect field operator operand = some result) :
    emit dialect (.comparison field.path operator operand) = result := by
  simp only [emit, comparison, Field.ofPath?_path, h]

theorem emit_comparison_property {field : Field} (h : expands dialect field = false)
    (operator : Operator) (operand : Operand) :
    emit dialect (.comparison field.path operator operand) =
      (propertyAtom dialect field operator operand).map Expr.atom := by
  have held := (derivedComparison?_eq_none_iff dialect field operator operand).mpr h
  simp only [emit, comparison, Field.ofPath?_path, held]

theorem emit_presence_path (field : Field) (present : Bool) :
    emit dialect (.presence field.path present) =
      if field.isDerived || field.kind = .boolean then
        .error (.unsupportedPresence field.path dialect)
      else .ok (.atom (.equality (dialect.accessor field.path) (!present) .null)) := by
  rw [emit, presence, Field.ofPath?_path]

/-- Dates are held as properties. -/
theorem expands_eq_false_of_date {field : Field} (h : field.kind = .date) :
    expands dialect field = false ∧ field.isDerived = false := by
  revert h
  cases dialect <;> cases field <;> decide

theorem propertyAtom_date {field : Field} (h : field.kind = .date) {operator : Operator}
    (ordering : operator.isOrdering = true) (text : String) :
    propertyAtom dialect field operator (.string text) =
      .ok (.order (dialect.accessor field.path) operator (.date text)) := by
  cases operator <;> simp_all [propertyAtom, needString, Operator.isOrdering, Except.map]

/-! ## What can be emitted -/

/-- A condition on a property of the task. -/
inductive Atom.On (property : String) : Atom → Prop where
  | equality (same : Bool) (operand : Operand) :
      On property (.equality property same (.operand operand))
  | presence (same : Bool) : On property (.equality property same .null)
  | order (operator : Operator) (h : operator.isOrdering = true) (date : String) :
      On property (.order property operator (.date date))
  | contains (term : String) : On property (.contains property term)
  | «matches» (pattern : String) : On property (.matches property pattern)
  | membership (quantifier : Quantifier) (names : List String) :
      On property (.membership quantifier names property)

variable {dialect}

theorem on_of_propertyAtom {field : Field} {operator : Operator} {operand : Operand} {atom : Atom}
    (h : propertyAtom dialect field operator operand = .ok atom) :
    atom.On (dialect.accessor field.path) := by
  unfold propertyAtom at h
  generalize field.kind = kind at h
  -- an operand that the operator needs is taken out first, and is part of the atom then
  have mapped : ∀ {α : Type} {result : Except EmissionError α} {build : α → Atom},
      result.map build = .ok atom → ∃ value, build value = atom := by
    intro α result build built
    cases result with
    | error cause => cases built
    | ok value => exact ⟨value, Except.ok.inj built⟩
  -- every operator is for some kinds of fields; on a field of another kind it is refused
  cases operator with
  | eq | ne =>
    cases kind with
    | boolean | string =>
      obtain rfl := Except.ok.inj h
      exact .equality _ operand
    | date | array | object => cases h
  | lt | gt | le | ge =>
    cases kind with
    | date =>
      obtain ⟨date, rfl⟩ := mapped h
      exact .order _ rfl date
    | boolean | string | array | object => cases h
  | contains =>
    cases kind with
    | string =>
      obtain ⟨term, rfl⟩ := mapped h
      exact .contains _
    | boolean | date | array | object => cases h
  | «matches» =>
    cases kind with
    | string =>
      obtain ⟨pattern, rfl⟩ := mapped h
      exact .matches pattern
    | boolean | date | array | object => cases h
  | all | any =>
    cases kind with
    | array =>
      obtain ⟨names, rfl⟩ := mapped h
      exact .membership _ names
    | boolean | string | date | object => cases h

/-- The forms of the expressions of trees: what holds of the expressions of conditions, and of groups and
negations if it holds of their parts, holds of every expression that is emitted. -/
structure Emits (dialect : Dialect) (P : Expr → Prop) : Prop where
  constant : ∀ value, P (.atom (.constant value))
  property : ∀ (field : Field) (atom : Atom), atom.On (dialect.accessor field.path) → P (.atom atom)
  derived : ∀ field predicate, derivedPredicate? dialect field = some predicate → P predicate
  project : ∀ reference, P (projectMatch dialect reference)
  otherProject : ∀ reference, P (.not (projectMatch dialect reference))
  group : ∀ junction parts, (∀ part ∈ parts, P part) → P (group junction parts)
  negation : ∀ e, P e → P (.not (.parens e))

namespace Emits

variable {P : Expr → Prop}

theorem comparison (forms : Emits dialect P) {path : String} {operator : Operator}
    {operand : Operand} {e : Expr} (h : Script.comparison dialect path operator operand = .ok e) :
    P e := by
  unfold Script.comparison at h
  cases known : Field.ofPath? path with
  | none => simp [known] at h
  | some field =>
    simp only [known, derivedComparison?] at h
    by_cases project : field = .containingProject
    · -- a project is compared with a reference, for equality only
      simp only [project, ↓reduceIte, projectComparison] at h
      cases operand with
      | string reference =>
        cases operator with
        | eq =>
          obtain rfl := Except.ok.inj h
          exact forms.project reference
        | ne =>
          obtain rfl := Except.ok.inj h
          exact forms.otherProject reference
        | lt | gt | le | ge | contains | «matches» | all | any => cases h
      | bool | number | array => cases h
    · simp only [project, ↓reduceIte] at h
      cases derived : derivedPredicate? dialect field with
      | none =>
        simp only [derived, Option.map_none] at h
        cases atom : propertyAtom dialect field operator operand with
        | error cause => simp [atom, Except.map] at h
        | ok a =>
          obtain rfl := Except.ok.inj (atom ▸ h)
          exact forms.property field a (on_of_propertyAtom atom)
      | some predicate =>
        -- the predicate stands for one of the truth values, its negation for the other
        simp only [derived, Option.map_some, truthComparison] at h
        have positive := forms.derived field predicate derived
        have negative := forms.negation predicate positive
        cases operand with
        | bool value =>
          cases sign : polarity? operator with
          | none => simp [sign, Operand.bool?] at h
          | some expected =>
            simp only [sign, Operand.bool?] at h
            split at h
            · exact Except.ok.inj h ▸ positive
            · exact Except.ok.inj h ▸ negative
        | number | string | array => cases h

theorem presence (forms : Emits dialect P) {path : String} {present : Bool} {e : Expr}
    (h : Script.presence dialect path present = .ok e) : P e := by
  unfold Script.presence at h
  cases known : Field.ofPath? path with
  | none => simp [known] at h
  | some field =>
    simp only [known] at h
    split at h
    · cases h
    · obtain rfl := Except.ok.inj h
      rw [← Field.path_of_ofPath? known]
      exact forms.property field _ (.presence _)

-- the recursion is that of emission: over a tree, and over the children of a group
mutual

/-- Whatever holds of the forms of expressions holds of the expression of a tree. -/
theorem emit (forms : Emits dialect P) : (tree : Tree) → ∀ {e : Expr},
    Script.emit dialect tree = .ok e → P e
  | .literal value, _, h => Except.ok.inj h ▸ forms.constant value
  | .comparison .., _, h => forms.comparison h
  | .presence .., _, h => forms.presence h
  | .all children, e, h => by
    obtain ⟨parts, emitted, rfl⟩ := (emit_all_eq_ok_iff dialect children e).mp h
    exact forms.group .and parts (emitAll forms children emitted)
  | .any children, e, h => by
    obtain ⟨parts, emitted, rfl⟩ := (emit_any_eq_ok_iff dialect children e).mp h
    exact forms.group .or parts (emitAll forms children emitted)
  | .not child, e, h => by
    obtain ⟨inner, emitted, rfl⟩ := (emit_not_eq_ok_iff dialect child e).mp h
    exact forms.negation inner (emit forms child emitted)

theorem emitAll (forms : Emits dialect P) : (children : List Tree) → ∀ {parts : List Expr},
    Script.emitAll dialect children = .ok parts → ∀ part ∈ parts, P part
  | [], _, h => by
    obtain rfl := Except.ok.inj h
    exact fun part member => absurd member List.not_mem_nil
  | child :: rest, parts, h => by
    rw [emitAll_eq_ok_iff] at h
    cases h with
    | cons head tail =>
      rw [List.forall_mem_cons]
      exact ⟨emit forms child head, emitAll forms rest ((emitAll_eq_ok_iff ..).mpr tail)⟩

end

end Emits

end TaskFilter.Script
