import TaskFilter.Proofs.Script.Refusing
import TaskFilter.Proofs.Script.Valuation

/-!
# Contradictions and the tasks they exclude

A conjunction is refused if it asks a field to equal two operands. Validation tells operands apart as they
are written; whether a task can satisfy both is a question about the expressions that they become. For all
fields but one the two agree. A project is found by its identifier or by its name, depending on how the
reference looks, so that in one dialect a reference of each kind can name the same project.

## Layers

- **Fields**: one task satisfies two comparisons of a field only if their operands are the same, or refer to
  a project in different ways (`eq_or_mixed_of_satisfied`).
- **Groups**: the operands behind a contradiction, and what nothing else being wrong says of them.
- **Main statement**: `exists_valuation_iff_of_contradiction`.
-/

namespace TaskFilter.Validation

open Script

variable {dialect : Dialect} {task : Valuation}

/-! ## Two comparisons of a field -/

/-- The comparison has an expression in the dialect, and the task satisfies it. -/
def Satisfied (dialect : Dialect) (task : Valuation) (field : Field) (operand : Operand) : Prop :=
  ∃ e, emit dialect (.comparison field.path .eq operand) = .ok e ∧ e.holdsOf task = true

/-- References to a project by an identifier and by a name. -/
def MixedReferences (a b : Operand) : Prop :=
  ∃ s t, a = .string s ∧ b = .string t ∧ looksLikeIdentifier s ≠ looksLikeIdentifier t

theorem value_of_satisfied_project {reference : String}
    (h : Satisfied dialect task .containingProject (.string reference)) :
    task.value (referenceProperty dialect reference) = .string reference := by
  obtain ⟨e, emitted, holds⟩ := h
  have derived : derivedComparison? dialect .containingProject .eq (.string reference) =
      some (.ok (projectMatch dialect reference)) := rfl
  rw [emit_comparison_derived dialect derived] at emitted
  obtain rfl := Except.ok.inj emitted
  simp only [projectMatch, Expr.holdsOf, Expr.allHoldOf, Bool.and_eq_true,
    holdsOf_equality_string] at holds
  exact holds.2.1

/-- Two references that are compared with one property are the same. -/
theorem eq_of_satisfied_project {s t : String}
    (property : referenceProperty dialect s = referenceProperty dialect t)
    (hs : Satisfied dialect task .containingProject (.string s))
    (ht : Satisfied dialect task .containingProject (.string t)) : s = t := by
  have first := value_of_satisfied_project hs
  have second := value_of_satisfied_project ht
  rw [property, second] at first
  exact (Value.string.inj first).symm

/-- The predicate of a derived field has the truth value that it is compared with. -/
theorem holdsOf_of_satisfied_truth {field : Field} {predicate : Expr} {b : Bool}
    (derived : derivedPredicate? dialect field = some predicate)
    (h : Satisfied dialect task field (.bool b)) : predicate.holdsOf task = b := by
  obtain ⟨e, emitted, holds⟩ := h
  have result : derivedComparison? dialect field .eq (.bool b) =
      some (.ok (if b == true then predicate else .not (.parens predicate))) := by
    rw [derivedComparison?, if_neg (kind_of_derivedPredicate? derived).2, derived]
    rfl
  rw [emit_comparison_derived dialect result] at emitted
  obtain rfl := Except.ok.inj emitted
  cases b with
  | true => exact holds
  | false =>
    simp only [Bool.false_beq, Bool.not_true, Bool.false_eq_true, ↓reduceIte, Expr.holdsOf,
      Bool.not_eq_true'] at holds
    exact holds

/-- A property has the truth value or the text that it is compared with. -/
theorem value_of_satisfied_property {field : Field} {operand : Operand}
    (held : expands dialect field = false) (fits : Fits field.kind .eq operand)
    (h : Satisfied dialect task field operand) :
    (∃ b, operand = .bool b ∧ task.value (dialect.accessor field.path) = .bool b) ∨
      ∃ s, operand = .string s ∧ task.value (dialect.accessor field.path) = .string s := by
  obtain ⟨e, emitted, holds⟩ := h
  rw [emit_comparison_property dialect held] at emitted
  unfold propertyAtom at emitted
  generalize field.kind = kind at fits emitted
  cases fits with
  | truth _ polar b =>
    obtain rfl := Except.ok.inj emitted
    exact .inl ⟨b, rfl, (holdsOf_equality_bool task).mp holds⟩
  | text _ s =>
    obtain rfl := Except.ok.inj emitted
    exact .inr ⟨s, rfl, (holdsOf_equality_string task).mp holds⟩
  -- dates and collections are not compared for equality
  | date | names | name => cases emitted

/-- One task satisfies two comparisons of a field only if their operands are the same, or if they refer to a
project by its identifier and by its name. -/
theorem eq_or_mixed_of_satisfied {field : Field} {a b : Operand}
    (fitsA : Fits field.kind .eq a) (fitsB : Fits field.kind .eq b)
    (ha : Satisfied dialect task field a) (hb : Satisfied dialect task field b) :
    a = b ∨ (dialect = .omnijs ∧ field = .containingProject ∧ MixedReferences a b) := by
  by_cases project : field = .containingProject
  · subst project
    cases fitsA with
    | text _ s =>
      cases fitsB with
      | text _ t =>
        -- the property depends on the look of the reference, and on nothing else
        by_cases property : referenceProperty dialect s = referenceProperty dialect t
        · exact .inl (congrArg _ (eq_of_satisfied_project property ha hb))
        · cases dialect with
          | jxa => exact absurd rfl property
          | omnijs =>
            refine .inr ⟨rfl, rfl, s, t, rfl, rfl, ?_⟩
            intro same
            apply property
            rw [referenceProperty, referenceProperty, same]
  · left
    cases derived : derivedPredicate? dialect field with
    | some predicate =>
      rw [(kind_of_derivedPredicate? derived).1] at fitsA fitsB
      cases fitsA with
      | truth _ _ x =>
        cases fitsB with
        | truth _ _ y =>
          have first := holdsOf_of_satisfied_truth derived ha
          have second := holdsOf_of_satisfied_truth derived hb
          rw [first.symm.trans second]
    | none =>
      have held : expands dialect field = false := by
        rw [expands, derived, beq_eq_false_iff_ne.mpr project]
        rfl
      rcases value_of_satisfied_property held fitsA ha with ⟨x, rfl, first⟩ | ⟨s, rfl, first⟩ <;>
        rcases value_of_satisfied_property held fitsB hb with ⟨y, rfl, second⟩ | ⟨t, rfl, second⟩ <;>
        simp_all

/-! ## The operands behind a contradiction -/

/-- The comparisons of a path for equality among the children of a group. -/
def comparisonsOf (path : String) (children : List Tree) : List Tree :=
  children.filter fun child => (equality? child).any fun equality => equality.1 == path

theorem mem_comparisonsOf_iff {path : String} {children : List Tree} {child : Tree} :
    child ∈ comparisonsOf path children ↔
      child ∈ children ∧ ∃ operand, child = .comparison path .eq operand := by
  rw [comparisonsOf, List.mem_filter]
  refine and_congr_right fun _ => ?_
  constructor
  · intro equal
    obtain ⟨⟨other, operand⟩, found, same⟩ := (Option.any_eq_true ..).mp equal
    obtain rfl : other = path := eq_of_beq same
    refine ⟨operand, ?_⟩
    unfold equality? at found
    split at found
    · cases found
      rfl
    · cases found
  · rintro ⟨operand, rfl⟩
    simp [equality?]

theorem mem_equalities_iff {path : String} {operand : Operand} {children : List Tree} :
    (path, operand) ∈ equalities children ↔ .comparison path .eq operand ∈ children := by
  rw [equalities, List.mem_filterMap]
  constructor
  · rintro ⟨child, member, found⟩
    unfold equality? at found
    split at found
    · cases found
      exact member
    · cases found
  · intro member
    exact ⟨_, member, rfl⟩

/-- Behind a contradiction stand two operands that are not equal. -/
theorem exists_unequal_of_contradiction {path : String} {operands : List Operand}
    {children : List Tree} (named : .contradiction path operands ∈ contradictions children) :
    ∃ a b, .comparison path .eq a ∈ children ∧ .comparison path .eq b ∈ children ∧
      (b == a) = false := by
  obtain ⟨other, -, found⟩ := List.mem_filterMap.mp named
  split at found
  · next several =>
    obtain rfl : other = path := by
      injection found with same
      injection same
    have compared : ∀ {operand}, operand ∈ ((equalities children).filter
        fun e => e.1 == other).map Prod.snd → .comparison other .eq operand ∈ children := by
      intro operand member
      obtain ⟨⟨own, _⟩, listed, rfl⟩ := List.mem_map.mp member
      obtain ⟨equated, same⟩ := List.mem_filter.mp listed
      obtain rfl : own = other := eq_of_beq same
      exact mem_equalities_iff.mp equated
    unfold operandsOf at several
    generalize ((equalities children).filter fun e => e.1 == other).map Prod.snd = own
      at several compared
    match own, several with
    | a :: rest, several =>
      rw [List.eraseDups_cons, List.length_cons] at several
      -- something is left when the first operand and those equal to it are taken out
      cases left : rest.filter (fun b => !b == a) with
      | nil => simp [left] at several
      | cons b others =>
        have member : b ∈ rest.filter (fun b => !b == a) := left ▸ List.mem_cons_self
        obtain ⟨member, unequal⟩ := List.mem_filter.mp member
        exact ⟨a, b, compared List.mem_cons_self, compared (List.mem_cons_of_mem a member),
          Bool.not_eq_true' _ ▸ unequal⟩
  · cases found

/-! ## Groups -/

theorem beq_self_of_fits {kind : ValueKind} {operand : Operand} (fits : Fits kind .eq operand) :
    (operand == operand) = true := by
  cases fits with
  | truth _ _ value => exact beq_self_eq_true value
  | text _ value | date _ value | name _ value => exact beq_self_eq_true value
  | names _ names => exact beq_self_eq_true names

/-- Where contradictions are the only errors, the operands of a comparison fit a known field. -/
theorem fits_of_contradictions {children : List Tree}
    (errors : ∀ error ∈ (validate (.all children)).errors, error.kind = .contradiction)
    {path : String} {operand : Operand} (member : .comparison path .eq operand ∈ children) :
    ∃ field : Field, field.path = path ∧ Fits field.kind .eq operand := by
  have listed : .comparison path .eq operand ∈ (Tree.all children).conditions :=
    Tree.conditions_subset_allConditions member (List.mem_singleton.mpr rfl)
  exact fits_of_comparisonFinding? (ownFinding?_of_contradictions errors listed)

/-- A task makes the expressions of several trees true exactly if each tree has one that it makes true. -/
theorem forall_holdsOf_iff {trees : List Tree} {parts : List Expr}
    (emitted : emitAll dialect trees = .ok parts) :
    (∀ part ∈ parts, part.holdsOf task = true) ↔
      ∀ tree ∈ trees, ∃ e, emit dialect tree = .ok e ∧ e.holdsOf task = true := by
  rw [emitAll_eq_ok_iff] at emitted
  induction emitted with
  | nil => simp
  | cons head _ ih => simp [head, ih]

theorem forall_satisfied_iff {field : Field} {children : List Tree} {parts : List Expr}
    (emitted : emitAll dialect (comparisonsOf field.path children) = .ok parts) :
    (∀ part ∈ parts, part.holdsOf task = true) ↔
      ∀ operand, .comparison field.path .eq operand ∈ children →
        Satisfied dialect task field operand := by
  rw [forall_holdsOf_iff emitted]
  constructor
  · intro all operand member
    exact all _ (mem_comparisonsOf_iff.mpr ⟨member, operand, rfl⟩)
  · intro all tree listed
    obtain ⟨member, operand, rfl⟩ := mem_comparisonsOf_iff.mp listed
    exact all operand member

/-- A task whose project has the given identifier and the given name. -/
def inProject (id name : String) : Valuation where
  value text :=
    if text = "task.containingProject.id.primaryKey" then .string id
    else if text = "task.containingProject.name" then .string name
    else .object text
  answer _ := true

theorem satisfied_inProject {id name reference : String} (isId : looksLikeIdentifier id = true)
    (isName : looksLikeIdentifier name = false) (h : reference = id ∨ reference = name) :
    Satisfied .omnijs (inProject id name) .containingProject (.string reference) := by
  refine ⟨projectMatch .omnijs reference, rfl, ?_⟩
  rcases h with rfl | rfl <;>
    simp [projectMatch, referenceProperty, projectProperty, isId, isName, inProject, Expr.holdsOf,
      Expr.allHoldOf, Atom.holdsOf, Term.value?, Value.same]

/-- The comparisons behind a contradiction refer to one project, by its identifier and by its name. -/
def OneProjectTwice (children : List Tree) : Prop :=
  ∃ id name, looksLikeIdentifier id = true ∧ looksLikeIdentifier name = false ∧
    ∀ operand, .comparison Field.containingProject.path .eq operand ∈ children →
      operand = .string id ∨ operand = .string name

/-- A reference that is compatible with two references of different looks is one of them. -/
theorem eq_or_eq_of_mixed {a b c : Operand} (mixed : MixedReferences a b)
    (first : c = a ∨ MixedReferences c a) (second : c = b ∨ MixedReferences c b) :
    c = a ∨ c = b := by
  obtain ⟨s, t, rfl, rfl, differ⟩ := mixed
  rcases first with same | ⟨u, s', rfl, is, look⟩
  · exact .inl same
  rcases second with same | ⟨u', t', iu, it, look'⟩
  · exact .inr same
  -- there are two looks only
  obtain rfl := Operand.string.inj is
  obtain rfl := Operand.string.inj iu
  obtain rfl := Operand.string.inj it
  revert look look' differ
  cases looksLikeIdentifier s <;> cases looksLikeIdentifier t <;> cases looksLikeIdentifier u <;>
    simp

/-- A contradiction excludes every task, except where it is about references to a project by an identifier
and by a name. Where contradictions are the only errors, some task makes the expressions of all the
comparisons behind one of them true exactly in that case, and then in one dialect only. -/
theorem exists_valuation_iff_of_contradiction {children : List Tree} {path : String}
    {operands : List Operand} {parts : List Expr}
    (errors : ∀ error ∈ (validate (.all children)).errors, error.kind = .contradiction)
    (named : .contradiction path operands ∈ rootConflicts (.all children))
    (emitted : emitAll dialect (comparisonsOf path children) = .ok parts) :
    (∃ task : Valuation, ∀ part ∈ parts, part.holdsOf task = true) ↔
      dialect = .omnijs ∧ path = Field.containingProject.path ∧ OneProjectTwice children := by
  obtain ⟨a, b, memberA, memberB, unequal⟩ := exists_unequal_of_contradiction named
  obtain ⟨field, rfl, fitsA⟩ := fits_of_contradictions errors memberA
  have fits : ∀ operand, .comparison field.path .eq operand ∈ children →
      Fits field.kind .eq operand := by
    intro operand member
    obtain ⟨other, same, fitting⟩ := fits_of_contradictions errors member
    exact Field.path_injective same ▸ fitting
  have differ : a ≠ b := by
    rintro rfl
    rw [beq_self_of_fits fitsA] at unequal
    cases unequal
  constructor
  · rintro ⟨task, all⟩
    rw [forall_satisfied_iff emitted] at all
    have compatible : ∀ {c d}, .comparison field.path .eq c ∈ children →
        .comparison field.path .eq d ∈ children →
          c = d ∨ (dialect = .omnijs ∧ field = .containingProject ∧ MixedReferences c d) :=
      fun mc md => eq_or_mixed_of_satisfied (fits _ mc) (fits _ md) (all _ mc) (all _ md)
    rcases compatible memberA memberB with same | ⟨rfl, rfl, mixed⟩
    · exact absurd same differ
    refine ⟨rfl, rfl, ?_⟩
    have only : ∀ c, .comparison Field.containingProject.path .eq c ∈ children → c = a ∨ c = b := by
      intro c member
      exact eq_or_eq_of_mixed mixed ((compatible member memberA).imp_right fun h => h.2.2)
        ((compatible member memberB).imp_right fun h => h.2.2)
    obtain ⟨s, t, rfl, rfl, looks⟩ := mixed
    cases look : looksLikeIdentifier s with
    | true => exact ⟨s, t, look, by simpa [look] using looks, only⟩
    | false => exact ⟨t, s, by simpa [look] using looks, look, fun c member => (only c member).symm⟩
  · rintro ⟨rfl, project, id, name, isId, isName, only⟩
    obtain rfl := Field.path_injective project
    refine ⟨inProject id name, (forall_satisfied_iff emitted).mpr ?_⟩
    intro operand member
    rcases only operand member with rfl | rfl
    · exact satisfied_inProject isId isName (.inl rfl)
    · exact satisfied_inProject isId isName (.inr rfl)

/-- In the dialect that knows projects by their identifiers only, an identifier and a name exclude every
task. -/
theorem exists_valuation_iff_of_contradiction_identifiers :
    ¬ ∃ task : Valuation, ∀ part ∈ [projectMatch .jxa "hXk3_9aBc2D", projectMatch .jxa "Groceries"],
      part.holdsOf task = true := by
  have errors : ∀ error ∈ (validate (.all
      [.comparison Field.containingProject.path .eq (.string "hXk3_9aBc2D"),
       .comparison Field.containingProject.path .eq (.string "Groceries")])).errors,
      error.kind = .contradiction := by decide
  have named : .contradiction Field.containingProject.path
      [.string "hXk3_9aBc2D", .string "Groceries"] ∈ rootConflicts (.all
        [.comparison Field.containingProject.path .eq (.string "hXk3_9aBc2D"),
         .comparison Field.containingProject.path .eq (.string "Groceries")]) :=
    List.mem_singleton.mpr rfl
  have emitted : emitAll .jxa (comparisonsOf Field.containingProject.path
      [.comparison Field.containingProject.path .eq (.string "hXk3_9aBc2D"),
       .comparison Field.containingProject.path .eq (.string "Groceries")]) =
        .ok [projectMatch .jxa "hXk3_9aBc2D", projectMatch .jxa "Groceries"] := rfl
  rw [exists_valuation_iff_of_contradiction errors named emitted]
  rintro ⟨dialect, -⟩
  cases dialect

/-- In the other dialect, a filter that is refused as a contradiction is satisfied by the tasks of a project
with that identifier and that name. -/
theorem contradiction_of_identifier_and_name :
    (validate (.all [.comparison Field.containingProject.path .eq (.string "hXk3_9aBc2D"),
      .comparison Field.containingProject.path .eq (.string "Groceries")])).errors.map
        Diagnostic.kind = [.contradiction] ∧
    ∃ e, emit .omnijs (.all [.comparison Field.containingProject.path .eq (.string "hXk3_9aBc2D"),
      .comparison Field.containingProject.path .eq (.string "Groceries")]) = .ok e ∧
      e.holdsOf (inProject "hXk3_9aBc2D" "Groceries") = true := by
  have satisfied : ∀ {reference}, reference = "hXk3_9aBc2D" ∨ reference = "Groceries" →
      (projectMatch .omnijs reference).holdsOf (inProject "hXk3_9aBc2D" "Groceries") = true := by
    intro reference h
    obtain ⟨e, emitted, holds⟩ := satisfied_inProject (by decide) (by decide) h
    exact Except.ok.inj emitted ▸ holds
  refine ⟨by decide, .parens (.joined .and [projectMatch .omnijs "hXk3_9aBc2D",
    projectMatch .omnijs "Groceries"]), rfl, ?_⟩
  simp only [Expr.holdsOf, Expr.allHoldOf, Bool.and_true, Bool.and_eq_true]
  exact ⟨satisfied (.inl rfl), satisfied (.inr rfl)⟩

end TaskFilter.Validation
