import TaskFilter.Proofs.Script.Atoms

/-!
# The text keeps the structure of the tree

Reading the text of an expression finds the structure that it was made from: whatever the atoms are taken
to be, the text is one condition, and its truth is that of the tree's groups and negations.

## Layers

- **Expressions**: the truth of an expression by its structure (`Expr.holds`), and by its text.
- **Emission**: both agree on every expression that is emitted (`emits_readable`).
- **Main statement**: `truth_emit`.
-/

namespace TaskFilter.Script

variable (v : List Char → Bool)

/-! ## Expressions -/

namespace Expr

mutual

/-- The truth of an expression, by its structure. -/
def holds : Expr → Bool
  | .atom condition => atomTruth v condition.write
  | .not operand => !holds operand
  | .parens inner => holds inner
  | .joined .and parts => (truths parts).all fun t => t
  | .joined .or parts => (truths parts).any fun t => t

def truths : List Expr → List Bool
  | [] => []
  | part :: rest => holds part :: truths rest

end

theorem truths_eq_map (parts : List Expr) : truths v parts = parts.map (holds v) := by
  induction parts with
  | nil => rfl
  | cons part rest ih => rw [truths, ih, List.map_cons]

theorem write_not (operand : Expr) : (Expr.not operand).write = '!' :: operand.write := rfl

theorem write_parens (inner : Expr) : (Expr.parens inner).write = '(' :: inner.write ++ [')'] := by
  rw [write, pieces, List.flatMap_append]
  rfl

/-- The parts of a group stand in its text with signs between them. -/
theorem write_joined (junction : Junction) (parts : List Expr) :
    (Expr.joined junction parts).write = junction.sign.toList.intercalate (parts.map write) := by
  rw [write, pieces]
  induction parts with
  | nil => rfl
  | cons part rest ih =>
    cases rest with
    -- the sign stands in front of every part but the first
    | nil => rw [joinedPieces, List.map_singleton, List.intercalate_singleton, write]
    | cons second rest =>
      rw [joinedPieces, List.flatMap_append, List.flatMap_cons, ih, List.map_cons, List.map_cons,
        List.map_cons, List.intercalate_cons_cons, List.append_assoc]
      · rfl
      · exact List.cons_ne_nil second rest

end Expr

/-- The text of the expression is an operand with the truth of its structure. -/
def Readable (e : Expr) : Prop :=
  ReadsOperand v e.write (e.holds v)

variable {v}

/-- In parentheses, an expression is an operand in one chunk. -/
theorem readsUnary_parens {e : Expr} (h : ReadsRow v e.write (e.holds v)) :
    ReadsUnary v (Expr.parens e).write ((Expr.parens e).holds v) := by
  rw [Expr.write_parens, Expr.holds]
  exact h.parens

theorem readsUnary_not {e : Expr} (h : ReadsUnary v e.write (e.holds v)) :
    ReadsUnary v (Expr.not e).write ((Expr.not e).holds v) := by
  rw [Expr.write_not, Expr.holds]
  exact h.not

theorem readsRow_joined (junction : Junction) {parts : List Expr} (nonempty : parts ≠ [])
    (h : ∀ part ∈ parts, Readable v part) :
    ReadsRow v (Expr.joined junction parts).write ((Expr.joined junction parts).holds v) := by
  have members : List.Forall₂ (ReadsOperand v) (parts.map Expr.write)
      (parts.map (Expr.holds v)) := by
    rw [List.forall₂_map_left_iff, List.forall₂_map_right_iff, List.forall₂_same]
    exact h
  have several : parts.map Expr.write ≠ [] := fun none => nonempty (List.map_eq_nil_iff.mp none)
  rw [Expr.write_joined]
  cases junction with
  | and =>
    rw [Expr.holds, Expr.truths_eq_map]
    exact readsRow_conjunction several members
  | or =>
    rw [Expr.holds, Expr.truths_eq_map]
    exact readsRow_disjunction several members

theorem holds_constant (value : Bool) : (Expr.atom (.constant value)).holds v = value := by
  cases value <;> rfl

/-- The constants are read as what they are. -/
theorem readable_constant (value : Bool) : Readable v (.atom (.constant value)) := by
  cases value <;> exact (readsUnary_of_any rfl).operand

/-! ## Emission -/

theorem readable_parens_joined (junction : Junction) {part : Expr} {rest : List Expr}
    (h : ∀ member ∈ part :: rest, Readable v member) :
    ReadsUnary v (Expr.parens (.joined junction (part :: rest))).write
      ((Expr.parens (.joined junction (part :: rest))).holds v) :=
  readsUnary_parens (readsRow_joined junction (List.cons_ne_nil part rest) h)

theorem readable_group (junction : Junction) {parts : List Expr}
    (h : ∀ part ∈ parts, Readable v part) : Readable v (group junction parts) := by
  cases parts with
  | nil => exact readable_constant junction.neutral
  | cons part rest => exact (readable_parens_joined junction h).operand

/-- A property that is one name compared with another name. -/
theorem readable_names {property : String} (named : (items v property.toList).any isTight = true)
    (same : Bool) {term : Term}
    (value : (items v (term.pieces.flatMap Piece.write)).any isTight = true) :
    Readable v (.atom (.equality property same term)) :=
  readsOperand_equality (readsValue_of_any named) same (readsValue_of_any value)

-- the longest of the fixed texts has more characters than the standard depth allows for
set_option maxRecDepth 1000 in
/-- What takes the place of a derived field keeps its structure as well. -/
theorem readable_derived {dialect : Dialect} {field : Field} {predicate : Expr}
    (h : derivedPredicate? dialect field = some predicate) : Readable v predicate := by
  unfold derivedPredicate? at h
  split at h
  -- a status is compared with its name
  · obtain rfl := Option.some.inj h
    exact readable_names rfl true rfl
  · obtain rfl := Option.some.inj h
    exact readable_names rfl true rfl
  -- several statuses are looked up in one call
  · obtain rfl := Option.some.inj h
    exact (readsUnary_of_any rfl).operand
  -- no tags, or one of them is in use
  · obtain rfl := Option.some.inj h
    refine (readable_parens_joined .or ?_).operand
    simp only [List.forall_mem_cons, List.not_mem_nil, false_implies, implies_true, and_true]
    exact ⟨readable_names rfl true rfl, (readsUnary_of_any rfl).operand⟩
  -- neither completed nor dropped nor blocked, and not deferred either
  · obtain rfl := Option.some.inj h
    have undeferred : ∀ part ∈ [Expr.atom (.equality "task.deferDate()" true .null),
        .atom (.order "task.deferDate()" .le .now)], Readable v part := by
      simp only [List.forall_mem_cons, List.not_mem_nil, false_implies, implies_true, and_true]
      exact ⟨readable_names rfl true rfl, readsOperand_order (readsValue_of_any rfl) rfl .now⟩
    refine (readable_parens_joined .and ?_).operand
    simp only [List.forall_mem_cons, List.not_mem_nil, false_implies, implies_true, and_true]
    exact ⟨(readsUnary_not (readsUnary_of_any rfl)).operand,
      (readsUnary_not (readsUnary_of_any rfl)).operand,
      (readsUnary_not (readsUnary_of_any rfl)).operand,
      (readable_parens_joined .or undeferred).operand⟩
  · obtain rfl := Option.some.inj h
    refine (readable_parens_joined .or ?_).operand
    simp only [List.forall_mem_cons, List.not_mem_nil, false_implies, implies_true, and_true]
    exact ⟨readable_names rfl true rfl, (readsUnary_of_any rfl).operand⟩
  · cases h

theorem readsValue_referenceProperty (dialect : Dialect) (reference : String) :
    ReadsValue v (referenceProperty dialect reference).toList := by
  apply readsValue_of_any
  unfold referenceProperty
  cases dialect with
  | jxa =>
    dsimp only
    rfl
  | omnijs =>
    dsimp only
    split <;> rfl

theorem readsUnary_projectMatch (dialect : Dialect) (reference : String) :
    ReadsUnary v (projectMatch dialect reference).write
      ((projectMatch dialect reference).holds v) := by
  have present : Readable v (.atom (.equality (projectProperty dialect) false .null)) := by
    cases dialect <;> exact readable_names rfl false rfl
  have same : Readable v (.atom (.equality (referenceProperty dialect reference) true
      (.operand (.string reference)))) :=
    readsOperand_equality (readsValue_referenceProperty dialect reference) true
      (readsValue_operand (.string reference))
  refine readable_parens_joined .and ?_
  simp only [List.forall_mem_cons, List.not_mem_nil, false_implies, implies_true, and_true]
  exact ⟨present, same⟩

/-- Every expression of a tree is read as what it was made from. -/
theorem emits_readable (dialect : Dialect) : Emits dialect (Readable v) where
  constant value := readable_constant value
  property field _ on := readsOperand_of_on (readsValue_accessor dialect field) on
  derived _ _ h := readable_derived h
  project reference := (readsUnary_projectMatch dialect reference).operand
  otherProject reference := (readsUnary_not (readsUnary_projectMatch dialect reference)).operand
  group junction _ h := readable_group junction h
  negation _ h := (readsUnary_not (readsUnary_parens h.row)).operand

/-! ## The text of a tree -/

theorem truth_of_readsRow {e : Expr} {value : Bool} (h : ReadsRow v e.write value) :
    truth v e.text = some value := by
  obtain ⟨row, read, known⟩ := h
  rw [truth, Expr.text, String.toList_ofList, read]
  exact known

/-- The truth of the text of a tree is that of the structure of its expression. -/
theorem truth_text {dialect : Dialect} {tree : Tree} {e : Expr}
    (h : emit dialect tree = .ok e) : truth v e.text = some (e.holds v) :=
  truth_of_readsRow ((emits_readable dialect).emit tree h).row

/-- The tree has a text, with the given truth under the valuation. -/
def Says (v : List Char → Bool) (dialect : Dialect) (tree : Tree) (value : Bool) : Prop :=
  ∃ e, emit dialect tree = .ok e ∧ truth v e.text = some value

theorem says_iff {dialect : Dialect} {tree : Tree} {e : Expr} (h : emit dialect tree = .ok e)
    (value : Bool) : Says v dialect tree value ↔ e.holds v = value := by
  constructor
  · rintro ⟨e', emitted, known⟩
    obtain rfl := Except.ok.inj (h.symm.trans emitted)
    exact Option.some.inj ((truth_text h).symm.trans known)
  · rintro rfl
    exact ⟨e, h, truth_text h⟩

/-- All children say the truth if all parts of the group that they become hold, and one child does if one
part does. -/
theorem says_of_emitAll {dialect : Dialect} {children : List Tree} {parts : List Expr}
    (h : emitAll dialect children = .ok parts) :
    ((∀ child ∈ children, Says v dialect child true) ↔ ∀ part ∈ parts, part.holds v = true) ∧
      ((∃ child ∈ children, Says v dialect child true) ↔ ∃ part ∈ parts, part.holds v = true) := by
  rw [emitAll_eq_ok_iff] at h
  -- child by child, with the part that each of them has become
  induction h with
  | nil => simp
  | cons head _ ih => simp [says_iff head, ih]

theorem holds_group_and (parts : List Expr) :
    (group .and parts).holds v = true ↔ ∀ part ∈ parts, part.holds v = true := by
  cases parts with
  | nil => simp [group, holds_constant, Junction.neutral]
  | cons part rest => simp [group, Expr.holds, Expr.truths_eq_map]

theorem holds_group_or (parts : List Expr) :
    (group .or parts).holds v = true ↔ ∃ part ∈ parts, part.holds v = true := by
  cases parts with
  | nil => simp [group, holds_constant, Junction.neutral]
  | cons part rest => simp [group, Expr.holds, Expr.truths_eq_map]

/-- The text of a tree keeps its structure. Under every valuation of atoms it is one condition; the text
of a conjunction is true if those of all its children are, that of a disjunction if that of a child is,
and that of a negation if that of the child is false. -/
theorem truth_emit (v : List Char → Bool) (dialect : Dialect) (tree : Tree) {e : Expr}
    (h : emit dialect tree = .ok e) :
    (truth v e.text).isSome = true ∧
      (∀ children, tree = .all children →
        (truth v e.text = some true ↔ ∀ child ∈ children, Says v dialect child true)) ∧
      (∀ children, tree = .any children →
        (truth v e.text = some true ↔ ∃ child ∈ children, Says v dialect child true)) ∧
      ∀ child, tree = .not child →
        (truth v e.text = some true ↔ Says v dialect child false) := by
  rw [truth_text h]
  simp only [Option.isSome_some, Option.some.injEq, true_and]
  refine ⟨?_, ?_, ?_⟩
  · rintro children rfl
    obtain ⟨parts, emitted, rfl⟩ := (emit_all_eq_ok_iff ..).mp h
    rw [holds_group_and]
    exact (says_of_emitAll emitted).1.symm
  · rintro children rfl
    obtain ⟨parts, emitted, rfl⟩ := (emit_any_eq_ok_iff ..).mp h
    rw [holds_group_or]
    exact (says_of_emitAll emitted).2.symm
  · rintro child rfl
    obtain ⟨inner, emitted, rfl⟩ := (emit_not_eq_ok_iff ..).mp h
    rw [says_iff emitted, Expr.holds, Expr.holds, Bool.not_eq_true']

/-- A term that is written like a disjunction and an open bracket does not change the structure. -/
theorem truth_emit_brackets : ∃ e,
    emit .jxa (.all [.not (.comparison Field.name.path .contains (.string "\") || ((")), .any []]) =
      .ok e ∧
      (truth (fun _ => true) e.text).isSome = true ∧
      (truth (fun _ => true) e.text = some true ↔
        ∀ child ∈ [.not (.comparison Field.name.path .contains (.string "\") || ((")), .any []],
          Says (fun _ => true) .jxa child true) := by
  have emitted : ∃ e, emit .jxa
      (.all [.not (.comparison Field.name.path .contains (.string "\") || ((")), .any []]) = .ok e :=
    ⟨_, rfl⟩
  obtain ⟨e, h⟩ := emitted
  obtain ⟨readable, conjunction, _⟩ := truth_emit (fun _ => true) .jxa _ h
  exact ⟨e, h, readable, conjunction _ rfl⟩

end TaskFilter.Script
