import TaskFilter.Proofs.Script.Structure
import TaskFilter.Proofs.Validation.Contradictions
import TaskFilter.Proofs.Validation.Located

/-!
# Tautologies and the tasks that they hold for

A disjunction is reported as a tautology if it is content with a field being true and with the field being
false. That is a fact about how the children are written. Of the text that is emitted it follows that it is
true of every task whose truth values are truth values, whatever else the disjunction asks for.

## Layers

- **Findings**: only the group at the root is found to be a tautology (`exists_tautology_of_warning`), and
  then it compares a field with both truth values (`comparison_of_tautology`).
- **Fields**: one of the two comparisons holds, because a predicate stands beside its negation, or because
  the property has one of the two values (`exists_says_of_truth_values`).
- **Main statement**: `truth_text_of_tautology`.
-/

namespace TaskFilter.Validation

open Script

/-! ## What is found to be a tautology -/

/-- A tautology that is reported was found in a disjunction at the root. -/
theorem exists_tautology_of_warning {tree : Tree} {warning : Diagnostic}
    (listed : warning ∈ (validate tree).warnings) (kind : warning.kind = .tautology) :
    ∃ children path, tree = .any children ∧ .tautology path ∈ tautologies children := by
  rw [warnings_validate, mem_diagnostics_iff] at listed
  obtain ⟨location, finding, found, -, rfl⟩ := listed
  have named : ∃ path, finding = .tautology path := by
    change finding.kind = .tautology at kind
    cases finding with
    | tautology path => exact ⟨path, rfl⟩
    | _ => cases kind
  obtain ⟨path, rfl⟩ := named
  rcases mem_allFindings_iff.mp found with ⟨node, -, own⟩ | ⟨-, conflict⟩
  · -- the nodes have other things wrong with them
    rcases ownFinding?_cases own with ⟨_, condition⟩ | ⟨-, shape, other⟩
    · cases (isFault_of_ownFinding? (Option.isSome_iff_exists.mpr ⟨_, condition⟩) own).1
    · cases other
  · cases tree with
    | any children => exact ⟨children, path, rfl, conflict⟩
    | all children =>
      obtain ⟨other, -, made⟩ := List.mem_filterMap.mp conflict
      split at made <;> cases made
    | _ => exact absurd conflict List.not_mem_nil

/-- First appearances are members of the list, whatever counts as a repetition. -/
theorem mem_of_mem_eraseDups {α : Type} [BEq α] {a : α} :
    (as : List α) → a ∈ as.eraseDups → a ∈ as
  | [], listed => absurd listed List.not_mem_nil
  | b :: rest, listed => by
    rw [List.eraseDups_cons, List.mem_cons] at listed
    rcases listed with rfl | later
    · exact List.mem_cons_self
    · exact List.mem_cons_of_mem b (List.mem_of_mem_filter (mem_of_mem_eraseDups _ later))
termination_by as => as.length
decreasing_by exact Nat.lt_succ_of_le (List.length_filter_le _ _)

/-- An operand that a path is compared with is the operand of a child. -/
theorem comparison_of_mem_operandsOf {path : String} {operand : Operand} {children : List Tree}
    (listed : operand ∈ operandsOf path children) : .comparison path .eq operand ∈ children := by
  have kept : operand ∈ ((equalities children).filter fun e => e.1 == path).map Prod.snd :=
    mem_of_mem_eraseDups _ listed
  obtain ⟨⟨own, _⟩, equal, rfl⟩ := List.mem_map.mp kept
  obtain ⟨equated, same⟩ := List.mem_filter.mp equal
  obtain rfl : own = path := eq_of_beq same
  exact mem_equalities_iff.mp equated

/-- A tautology compares its path with either truth value. -/
theorem comparison_of_tautology {path : String} {children : List Tree}
    (named : .tautology path ∈ tautologies children) (b : Bool) :
    .comparison path .eq (.bool b) ∈ children := by
  obtain ⟨other, -, found⟩ := List.mem_filterMap.mp named
  split at found
  next both =>
    obtain rfl : other = path := Finding.tautology.inj (Option.some.inj found)
    rw [Bool.and_eq_true] at both
    have held : (operandsOf other children).contains (.bool b) = true := by
      cases b with
      | true => exact both.1
      | false => exact both.2
    obtain ⟨operand, listed, same⟩ := List.contains_iff_exists_mem_beq.mp held
    obtain rfl := eq_bool_of_beq same
    exact comparison_of_mem_operandsOf listed
  next => cases found

/-! ## Excluded middle -/

variable {dialect : Dialect} {task : Valuation} {v : List Char → Bool}

/-- The texts that compare a property with a truth value are true as the task has it. About all other texts
nothing is said. -/
def AnswersFor (v : List Char → Bool) (task : Valuation) : Prop :=
  ∀ property b, v (Atom.equality property true (.operand (.bool b))).write =
    (Atom.equality property true (.operand (.bool b))).holdsOf task

theorem write_equality_bool (property : String) (b : Bool) :
    (Atom.equality property true (.operand (.bool b))).write =
      property.toList ++ (" === ".toList ++ (Operand.boolText b).toList) := by
  simp [Atom.write, Atom.pieces, Piece.write, Term.pieces, operandPieces]

/-- The text of such a comparison has one property and one truth value in it. -/
theorem write_equality_bool_injective {p q : String} {b c : Bool}
    (same : (Atom.equality p true (.operand (.bool b))).write =
      (Atom.equality q true (.operand (.bool c))).write) : p = q ∧ b = c := by
  rw [write_equality_bool, write_equality_bool] at same
  -- the last letters tell the truth values apart
  have ends := congrArg (fun text => text.reverse.take 4) same
  have values : b = c := by
    revert ends
    cases b <;> cases c <;> simp [Operand.boolText]
  subst values
  exact ⟨String.toList_inj.mp (List.append_cancel_right same), rfl⟩

open Classical in
/-- Every task has answers. -/
theorem exists_answersFor (task : Valuation) : ∃ v, AnswersFor v task := by
  refine ⟨fun text => decide (∃ property b,
    text = (Atom.equality property true (.operand (.bool b))).write ∧
      (Atom.equality property true (.operand (.bool b))).holdsOf task = true), ?_⟩
  intro property b
  rw [Bool.eq_iff_iff, decide_eq_true_iff]
  constructor
  · rintro ⟨other, c, same, holds⟩
    obtain ⟨rfl, rfl⟩ := write_equality_bool_injective same
    exact holds
  · exact fun holds => ⟨property, b, rfl, holds⟩

/-- A text that compares a property is an atom and no constant. -/
theorem holds_equality {property : String} {same : Bool} {term : Term} :
    (Expr.atom (.equality property same term)).holds v =
      v (Atom.equality property same term).write := by
  have blank : ' ' ∈ (Atom.equality property same term).write := by
    cases same <;> simp [Atom.write, Atom.pieces, Piece.write]
  rw [Expr.holds, atomTruth, if_neg, if_neg]
  · intro constant
    rw [constant] at blank
    exact absurd blank (by decide)
  · intro constant
    rw [constant] at blank
    exact absurd blank (by decide)

/-- A field that a tree asks about, which the dialect holds as a truth value. -/
structure ReadsTruthValue (dialect : Dialect) (tree : Tree) (field : Field) : Prop where
  kind : field.kind = .boolean
  held : expands dialect field = false
  asked : ∃ condition ∈ tree.conditions, condition.field? = some field.path

example : (Field.all.filter fun field => field.kind = .boolean && !expands .jxa field) =
    [.completed, .flagged, .inInbox, .blocked, .dropped] := by decide
example : (Field.all.filter fun field => field.kind = .boolean && !expands .omnijs field) =
    [.completed, .flagged, .inInbox] := by decide

/-- The expression of a derived field that is compared with a truth value: the predicate of the field, or
its negation. -/
theorem emit_truthComparison {field : Field} {predicate : Expr}
    (derived : derivedPredicate? dialect field = some predicate) (b : Bool) :
    emit dialect (.comparison field.path .eq (.bool b)) =
      .ok (if b then predicate else .not (.parens predicate)) := by
  apply emit_comparison_derived
  rw [derivedComparison?, if_neg (kind_of_derivedPredicate? derived).2, derived]
  cases b <;> rfl

/-- One of the comparisons of a field with the two truth values holds. -/
theorem exists_says_of_truth_values {field : Field} (kind : field.kind = .boolean)
    (answers : AnswersFor v task)
    (value : expands dialect field = false →
      ∃ b, task.value (dialect.accessor field.path) = .bool b) :
    ∃ b, Says v dialect (.comparison field.path .eq (.bool b)) true := by
  cases derived : derivedPredicate? dialect field with
  | some predicate =>
    -- whatever the predicate says, it says it in both comparisons
    refine ⟨predicate.holds v, (says_iff (emit_truthComparison derived _) true).mpr ?_⟩
    cases said : predicate.holds v with
    | true => exact said
    | false =>
      show (!predicate.holds v) = true
      rw [said]
      rfl
  | none =>
    have held : expands dialect field = false := by
      have other : field ≠ .containingProject := by
        rintro rfl
        cases kind
      rw [expands, derived, beq_eq_false_iff_ne.mpr other]
      rfl
    obtain ⟨b, own⟩ := value held
    have emitted : emit dialect (.comparison field.path .eq (.bool b)) =
        .ok (.atom (.equality (dialect.accessor field.path) true (.operand (.bool b)))) := by
      rw [emit_comparison_property dialect held, propertyAtom]
      · rfl
      · exact kind
    refine ⟨b, (says_iff emitted true).mpr ?_⟩
    rw [holds_equality, answers, holdsOf_equality_bool]
    exact own

/-! ## Trees -/

/-- A valid tree with a tautology compares a truth value with both truth values, in a disjunction at its
root. -/
theorem exists_field_of_tautology {tree : Tree} (valid : (validate tree).valid = true)
    {warning : Diagnostic} (listed : warning ∈ (validate tree).warnings)
    (kind : warning.kind = .tautology) :
    ∃ children, tree = .any children ∧ ∃ field : Field, field.kind = .boolean ∧
      ∀ b, .comparison field.path .eq (.bool b) ∈ children := by
  obtain ⟨children, path, rfl, named⟩ := exists_tautology_of_warning listed kind
  have compared := comparison_of_tautology named
  have condition : .comparison path .eq (.bool true) ∈ (Tree.any children).conditions :=
    Tree.conditions_subset_allConditions (compared true) List.mem_cons_self
  obtain ⟨field, rfl, fits⟩ := fits_of_comparisonFinding? (ownFinding?_of_valid valid condition)
  -- nothing but a field of truth values takes one
  cases boolean : field.kind with
  | boolean => exact ⟨children, rfl, field, boolean, compared⟩
  | _ =>
    rw [boolean] at fits
    cases fits

/-- A warning of a tautology is right. If a valid tree has one, what is emitted for it in either dialect is
true of every task in which the properties that are read as truth values are truth values, whatever the
other texts in it are taken to be. -/
theorem truth_text_of_tautology {tree : Tree} (valid : (validate tree).valid = true)
    {warning : Diagnostic} (listed : warning ∈ (validate tree).warnings)
    (kind : warning.kind = .tautology) {e : Expr} (emitted : emit dialect tree = .ok e)
    (answers : AnswersFor v task)
    (boolean : ∀ field, ReadsTruthValue dialect tree field →
      ∃ b, task.value (dialect.accessor field.path) = .bool b) :
    truth v e.text = some true := by
  obtain ⟨children, rfl, field, truthful, compared⟩ := exists_field_of_tautology valid listed kind
  have value : expands dialect field = false →
      ∃ b, task.value (dialect.accessor field.path) = .bool b := by
    intro held
    refine boolean field ⟨truthful, held, .comparison field.path .eq (.bool true), ?_, rfl⟩
    exact Tree.conditions_subset_allConditions (compared true) List.mem_cons_self
  obtain ⟨b, holds⟩ := exists_says_of_truth_values truthful answers value
  obtain ⟨parts, made, rfl⟩ := (emit_any_eq_ok_iff dialect children e).mp emitted
  -- one part holds, and the group holds with it
  have one := (says_of_emitAll made).2.mp ⟨_, compared b, holds⟩
  rw [truth_text emitted, (holds_group_or parts).mpr one]

/-- A disjunction with a third part, which is true of a flagged task. -/
theorem truth_text_of_tautology_flagged :
    let tree := Tree.any [.comparison Field.flagged.path .eq (.bool false),
      .comparison Field.name.path .eq (.string "a || b"), .comparison Field.flagged.path .eq (.bool true)]
    ∃ e v, emit .jxa tree = .ok e ∧ truth v e.text = some true := by
  intro tree
  let task : Valuation := ⟨fun _ => .bool true, fun _ => false⟩
  obtain ⟨v, answers⟩ := exists_answersFor task
  have kinds : (validate tree).warnings.map Diagnostic.kind = [.tautology] := by decide
  have one : Diagnostic.Kind.tautology ∈ (validate tree).warnings.map Diagnostic.kind := by
    rw [kinds]
    exact List.mem_singleton_self _
  obtain ⟨warning, listed, kind⟩ := List.mem_map.mp one
  have expressible : ∃ e, emit .jxa tree = .ok e := ⟨_, rfl⟩
  obtain ⟨e, emitted⟩ := expressible
  exact ⟨e, v, emitted, truth_text_of_tautology (by decide) listed kind emitted answers
    fun _ _ => ⟨true, rfl⟩⟩

end TaskFilter.Validation
