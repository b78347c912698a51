import Mathlib.Data.List.Pairwise
import Mathlib.Logic.Relation
import TaskFilter.Proofs.Validation.Distinct
import TaskFilter.Proofs.Validation.Located
import TaskFilter.Proofs.Validation.Tautologies

/-!
# Conflicts in the group at the root

Among the children of the root, only those that compare a field for equality can be in conflict. A conjunction
is in conflict about the fields that are to equal different operands, and a disjunction about those that are
compared with both truth values. The fields are reported in the order of their first comparison.

## Layers

- **Groups**: the fields that are compared, in order (`inOrder_comparedPaths`), and the operands that a field
  is compared with (`operandsOf_eq`).
- **Reports**: the conflicts are all that a report says under their kinds (`errorsOf_contradiction`,
  `warningsOf_tautology`).
- **Edits**: what is done to other children, and to children that are written twice or in another order,
  leaves the conflicts as they are (`mem_conflictPaths_iff_of_edits`).
- **Main statement**: `conflicts_exact`.
-/

namespace TaskFilter.Validation

variable {children others : List Tree} {child : Tree} {path : String} {operand : Operand}

/-! ## The comparisons of a group -/

/-- Whether a child compares the field of a path for equality. -/
def equates (path : String) : Tree → Bool
  | .comparison own .eq _ => own == path
  | _ => false

/-- The operand that a child compares the field of a path with for equality. -/
def equated? (path : String) : Tree → Option Operand
  | .comparison own .eq operand => if own = path then some operand else none
  | _ => none

/-- The operands that a path is compared with, in the order of the children. -/
def operandsWritten (path : String) (children : List Tree) : List Operand :=
  children.filterMap (equated? path)

/-- The paths stand in the order in which the children first compare them for equality. -/
def InOrder (children : List Tree) (paths : List String) : Prop :=
  paths.Pairwise fun p q => children.findIdx (equates p) < children.findIdx (equates q)

theorem equality?_eq_none (h : ∀ own operand, child ≠ .comparison own .eq operand) :
    equality? child = none := by
  unfold equality?
  split
  · exact absurd rfl (h _ _)
  · rfl

theorem equates_iff : equates path child = true ↔ ∃ operand, child = .comparison path .eq operand := by
  constructor
  · intro equal
    unfold equates at equal
    split at equal
    · exact ⟨_, by rw [eq_of_beq equal]⟩
    · cases equal
  · rintro ⟨operand, rfl⟩
    exact beq_self_eq_true path

theorem equated?_eq_some_iff :
    equated? path child = some operand ↔ child = .comparison path .eq operand := by
  constructor
  · intro found
    unfold equated? at found
    split at found
    · split at found
      next same => rw [same, Option.some.inj found]
      next => cases found
    · cases found
  · rintro rfl
    exact if_pos rfl

theorem mem_operandsWritten_iff :
    operand ∈ operandsWritten path children ↔ .comparison path .eq operand ∈ children := by
  rw [operandsWritten, List.mem_filterMap]
  constructor
  · rintro ⟨child, member, found⟩
    exact equated?_eq_some_iff.mp found ▸ member
  · exact fun member => ⟨_, member, equated?_eq_some_iff.mpr rfl⟩

theorem operandsOf_eq (path : String) (children : List Tree) :
    operandsOf path children = (operandsWritten path children).eraseDups := by
  have same : ((equalities children).filter fun e => e.1 == path).map Prod.snd =
      operandsWritten path children := by
    rw [equalities, operandsWritten, List.filter_filterMap, List.map_filterMap]
    congr 1
    funext child
    unfold equated?
    split
    next own operand =>
      by_cases same : own = path <;> simp [equality?, Option.filter, same]
    next other => rw [equality?_eq_none fun own operand => other own operand]; rfl
  rw [operandsOf, same]

theorem mem_comparedPaths_iff :
    path ∈ comparedPaths children ↔ ∃ operand, .comparison path .eq operand ∈ children := by
  rw [comparedPaths, List.mem_eraseDups]
  constructor
  · intro listed
    obtain ⟨⟨own, operand⟩, member, rfl⟩ := List.mem_map.mp listed
    exact ⟨operand, mem_equalities_iff.mp member⟩
  · rintro ⟨operand, member⟩
    exact List.mem_map.mpr ⟨_, mem_equalities_iff.mpr member, rfl⟩

theorem findIdx_lt_length_iff :
    children.findIdx (equates path) < children.length ↔ path ∈ comparedPaths children := by
  rw [List.findIdx_lt_length, mem_comparedPaths_iff]
  constructor
  · rintro ⟨child, member, equal⟩
    obtain ⟨operand, rfl⟩ := equates_iff.mp equal
    exact ⟨operand, member⟩
  · rintro ⟨operand, member⟩
    exact ⟨_, member, equates_iff.mpr ⟨operand, rfl⟩⟩

/-- A child at the end does not change where a path is first compared. -/
theorem findIdx_append_singleton (child : Tree) (known : path ∈ comparedPaths children) :
    (children ++ [child]).findIdx (equates path) = children.findIdx (equates path) := by
  rw [List.findIdx_append, if_pos (findIdx_lt_length_iff.mpr known)]

/-- A child at the end adds its path if no child before it has it. -/
theorem comparedPaths_append_singleton (children : List Tree) (child : Tree) :
    comparedPaths (children ++ [child]) = comparedPaths children ∨
      ∃ path, path ∉ comparedPaths children ∧ equates path child = true ∧
        comparedPaths (children ++ [child]) = comparedPaths children ++ [path] := by
  by_cases equal : ∃ path operand, child = .comparison path .eq operand
  · obtain ⟨path, operand, rfl⟩ := equal
    have last : (equalities (children ++ [.comparison path .eq operand])).map Prod.fst =
        (equalities children).map Prod.fst ++ [path] := by
      simp [equalities, equality?]
    rw [comparedPaths, comparedPaths, last, eraseDups_append_singleton]
    split
    -- a path that is known keeps its place
    next => exact .inl rfl
    next unknown =>
      refine .inr ⟨path, ?_, equates_iff.mpr ⟨operand, rfl⟩, rfl⟩
      rwa [List.mem_eraseDups, ← List.contains_iff_mem]
  · have other : equality? child = none :=
      equality?_eq_none fun own operand same => equal ⟨own, operand, same⟩
    left
    simp [comparedPaths, equalities, other]

/-- The paths are taken in the order of their first comparison. -/
theorem inOrder_comparedPaths (children : List Tree) : InOrder children (comparedPaths children) := by
  induction children using List.reverseRecOn with
  | nil => exact List.Pairwise.nil
  | append_singleton children child ih =>
    have before : (comparedPaths children).Pairwise fun p q =>
        (children ++ [child]).findIdx (equates p) < (children ++ [child]).findIdx (equates q) := by
      refine List.Pairwise.imp_of_mem (fun {p q} hp hq earlier => ?_) ih
      rwa [findIdx_append_singleton child hp, findIdx_append_singleton child hq]
    rcases comparedPaths_append_singleton children child with same | ⟨path, unknown, equal, last⟩
    · rwa [InOrder, same]
    · rw [InOrder, last, List.pairwise_append]
      refine ⟨before, List.pairwise_singleton _ _, ?_⟩
      intro p known q listed
      -- a new path is first compared by the child at the end
      rw [List.mem_singleton.mp listed, findIdx_append_singleton child known, List.findIdx_append,
        if_neg (mt findIdx_lt_length_iff.mp unknown)]
      have inside := findIdx_lt_length_iff.mpr known
      omega

/-! ## The fields of the conflicts -/

/-- The path that a conflict is about. -/
def Finding.conflict? : Finding → Option String
  | .contradiction path _ => some path
  | .tautology path => some path
  | _ => none

/-- The paths of the conflicts in the group at the root, as they are reported. -/
def conflictPaths (tree : Tree) : List String :=
  (rootConflicts tree).filterMap Finding.conflict?

theorem filterMap_if {α β : Type} (p : α → Bool) (f : α → β) (as : List α) :
    as.filterMap (fun a => if p a then some (f a) else none) = (as.filter p).map f := by
  induction as with
  | nil => rfl
  | cons a rest ih => cases h : p a <;> simp [h, ih]

theorem contradictions_eq (children : List Tree) :
    contradictions children =
      ((comparedPaths children).filter fun path => 1 < (operandsOf path children).length).map
        fun path => .contradiction path (operandsOf path children) := by
  have found := filterMap_if (fun path => decide (1 < (operandsOf path children).length))
    (fun path => Finding.contradiction path (operandsOf path children)) (comparedPaths children)
  simp only [decide_eq_true_eq] at found
  exact found

theorem conflictPaths_all (children : List Tree) :
    conflictPaths (.all children) =
      (comparedPaths children).filter fun path => 1 < (operandsOf path children).length := by
  rw [conflictPaths, rootConflicts, contradictions_eq, List.filterMap_map]
  exact List.filterMap_some

theorem conflictPaths_any (children : List Tree) :
    conflictPaths (.any children) =
      (comparedPaths children).filter fun path =>
        (operandsOf path children).contains (.bool true) &&
          (operandsOf path children).contains (.bool false) := by
  rw [conflictPaths, rootConflicts, tautologies, filterMap_if, List.filterMap_map]
  exact List.filterMap_some

theorem rootConflicts_all (children : List Tree) :
    rootConflicts (.all children) =
      (conflictPaths (.all children)).map fun path =>
        .contradiction path (operandsOf path children) := by
  rw [conflictPaths_all, rootConflicts, contradictions_eq]

theorem rootConflicts_any (children : List Tree) :
    rootConflicts (.any children) = (conflictPaths (.any children)).map .tautology := by
  rw [conflictPaths_any, rootConflicts, tautologies, filterMap_if]

/-- Two values that are picked from a list come from two of its members. -/
theorem pair_sublist_filterMap_iff {α β : Type} {f : α → Option β} {x y : β} {as : List α} :
    [x, y].Sublist (as.filterMap f) ↔ ∃ a b, [a, b].Sublist as ∧ f a = some x ∧ f b = some y := by
  constructor
  · intro picked
    -- between the two there may be members from which nothing is picked
    obtain ⟨kept, listed, same⟩ := List.sublist_filterMap_iff.mp picked
    obtain ⟨_, a, rest, rfl, -, first, later⟩ := List.filterMap_eq_cons_iff.mp same.symm
    obtain ⟨_, b, _, rfl, -, second, -⟩ := List.filterMap_eq_cons_iff.mp later
    refine ⟨a, b, .trans ?_ listed, first, second⟩
    exact .trans (.cons_cons a (.trans (.cons_cons b (List.nil_sublist _))
      (List.sublist_append_right _ _))) (List.sublist_append_right _ _)
  · rintro ⟨a, b, listed, first, second⟩
    have picked := listed.filterMap f
    rwa [List.filterMap_cons_some first, List.filterMap_cons_some second, List.filterMap_nil]
      at picked

theorem mem_conflictPaths_all_iff_written :
    path ∈ conflictPaths (.all children) ↔
      ∃ v w, [v, w].Sublist (operandsWritten path children) ∧ (v == w) = false := by
  rw [conflictPaths_all, List.mem_filter, decide_eq_true_iff, operandsOf_eq,
    one_lt_length_eraseDups_iff]
  refine and_iff_right_of_imp ?_
  rintro ⟨v, w, listed, -⟩
  exact mem_comparedPaths_iff.mpr
    ⟨v, mem_operandsWritten_iff.mp (listed.subset List.mem_cons_self)⟩

/-- A conjunction is in conflict about the paths that two children compare with different operands. -/
theorem mem_conflictPaths_all_iff :
    path ∈ conflictPaths (.all children) ↔ ∃ v w,
      [.comparison path .eq v, .comparison path .eq w].Sublist children ∧ (v == w) = false := by
  rw [mem_conflictPaths_all_iff_written]
  simp only [operandsWritten, pair_sublist_filterMap_iff, equated?_eq_some_iff]
  constructor
  · rintro ⟨v, w, ⟨_, _, listed, rfl, rfl⟩, unequal⟩
    exact ⟨v, w, listed, unequal⟩
  · rintro ⟨v, w, listed, unequal⟩
    exact ⟨v, w, ⟨_, _, listed, rfl, rfl⟩, unequal⟩

theorem contains_operandsOf_bool_iff {b : Bool} :
    (operandsOf path children).contains (.bool b) = true ↔
      .comparison path .eq (.bool b) ∈ children := by
  rw [operandsOf_eq, contains_eraseDups, List.contains_iff_exists_mem_beq, ← mem_operandsWritten_iff]
  constructor
  · rintro ⟨operand, listed, same⟩
    exact eq_bool_of_beq same ▸ listed
  · exact fun listed => ⟨_, listed, beq_self_eq_true b⟩

/-- A disjunction is in conflict about the paths that are compared with either truth value. -/
theorem mem_conflictPaths_any_iff :
    path ∈ conflictPaths (.any children) ↔
      .comparison path .eq (.bool true) ∈ children ∧
        .comparison path .eq (.bool false) ∈ children := by
  rw [conflictPaths_any, List.mem_filter, Bool.and_eq_true, contains_operandsOf_bool_iff,
    contains_operandsOf_bool_iff]
  exact and_iff_right_of_imp fun both => mem_comparedPaths_iff.mpr ⟨_, both.1⟩

theorem inOrder_conflictPaths_all (children : List Tree) :
    InOrder children (conflictPaths (.all children)) := by
  rw [conflictPaths_all]
  exact (inOrder_comparedPaths children).filter _

theorem inOrder_conflictPaths_any (children : List Tree) :
    InOrder children (conflictPaths (.any children)) := by
  rw [conflictPaths_any]
  exact (inOrder_comparedPaths children).filter _

/-! ## What is reported -/

/-- Under the kind of conflicts, nothing but the conflicts at the root is reported. -/
theorem filter_diagnostics {wrong : Tree → Diagnostic.Kind → Prop} {error : Bool}
    (h : ∀ {node kind}, wrong node kind ↔ ∃ finding,
      ownFinding? node = some finding ∧ finding.isError = error ∧ finding.kind = kind)
    (never : ∀ node, ¬ wrong node (if error then .contradiction else .tautology)) (tree : Tree) :
    (diagnostics error (allFindings tree)).filter
        (fun d => d.kind == if error then .contradiction else .tautology) =
      diagnostics error ((rootConflicts tree).map fun finding => ([], finding)) := by
  rw [allFindings, diagnostics_append, findings_eq, List.filter_append, List.filter_eq_nil_iff.mpr,
    List.filter_eq_self.mpr, List.nil_append]
  · intro d listed
    exact beq_iff_eq.mpr (kind_of_mem_diagnostics tree error d listed).1
  -- what is wrong with a node by itself is reported under another kind
  · intro d listed same
    obtain ⟨node, bad⟩ := (reported_diagnostics h (places tree)).exists_wrong d listed
    rw [eq_of_beq same] at bad
    exact never node bad

theorem errorsOf_contradiction (tree : Tree) :
    (validate tree).errorsOf .contradiction =
      diagnostics true ((rootConflicts tree).map fun finding => ([], finding)) := by
  rw [Report.errorsOf, errors_validate]
  refine filter_diagnostics faulty_iff (fun node faulty => ?_) tree
  cases faulty

theorem warningsOf_tautology (tree : Tree) :
    (validate tree).warningsOf .tautology =
      diagnostics false ((rootConflicts tree).map fun finding => ([], finding)) := by
  rw [Report.warningsOf, warnings_validate]
  refine filter_diagnostics vacant_iff (fun node vacant => ?_) tree
  cases vacant

/-- The error about a path that is to equal all of the operands. -/
def contradictionError (path : String) (operands : List Operand) : Diagnostic where
  kind := .contradiction
  message := "field '" ++ path ++ "' must equal " ++
    " and ".intercalate (operands.map Operand.display) ++
      " at the same time; the filter can never match"
  path := some "$"

/-- The warning about a path that is compared with both truth values. -/
def tautologyWarning (path : String) : Diagnostic where
  kind := .tautology
  message := "field '" ++ path ++ "' is tested for both true and false; the group always matches"
  path := some "$"

theorem diagnostics_of_isError {error : Bool} {found : List Finding}
    (h : ∀ finding ∈ found, finding.isError = error) :
    diagnostics error (found.map fun finding => ([], finding)) =
      found.map fun finding => finding.toDiagnostic [] := by
  rw [diagnostics, List.filter_eq_self.mpr, List.map_map]
  · rfl
  · intro place listed
    obtain ⟨finding, member, rfl⟩ := List.mem_map.mp listed
    exact beq_iff_eq.mpr (h finding member)

theorem diagnostics_eq_nil {error : Bool} {found : List Finding}
    (h : ∀ finding ∈ found, finding.isError ≠ error) :
    diagnostics error (found.map fun finding => ([], finding)) = [] := by
  rw [diagnostics, List.filter_eq_nil_iff.mpr, List.map_nil]
  intro place listed same
  obtain ⟨finding, member, rfl⟩ := List.mem_map.mp listed
  exact h finding member (eq_of_beq same)

theorem isError_of_mem_rootConflicts_all :
    ∀ finding ∈ rootConflicts (.all children), finding.isError = true := by
  rw [rootConflicts_all]
  exact List.forall_mem_map.mpr fun _ _ => rfl

theorem isError_of_mem_rootConflicts_any :
    ∀ finding ∈ rootConflicts (.any children), finding.isError = false := by
  rw [rootConflicts_any]
  exact List.forall_mem_map.mpr fun _ _ => rfl

theorem errorsOf_contradiction_all (children : List Tree) :
    (validate (.all children)).errorsOf .contradiction =
      (conflictPaths (.all children)).map fun path =>
        contradictionError path (operandsOf path children) := by
  rw [errorsOf_contradiction, diagnostics_of_isError isError_of_mem_rootConflicts_all,
    rootConflicts_all, List.map_map]
  rfl

theorem warningsOf_tautology_all (children : List Tree) :
    (validate (.all children)).warningsOf .tautology = [] := by
  rw [warningsOf_tautology, diagnostics_eq_nil]
  intro finding listed warning
  rw [isError_of_mem_rootConflicts_all finding listed] at warning
  cases warning

theorem warningsOf_tautology_any (children : List Tree) :
    (validate (.any children)).warningsOf .tautology =
      (conflictPaths (.any children)).map tautologyWarning := by
  rw [warningsOf_tautology, diagnostics_of_isError isError_of_mem_rootConflicts_any,
    rootConflicts_any, List.map_map]
  rfl

theorem errorsOf_contradiction_any (children : List Tree) :
    (validate (.any children)).errorsOf .contradiction = [] := by
  rw [errorsOf_contradiction, diagnostics_eq_nil]
  intro finding listed error
  rw [isError_of_mem_rootConflicts_any finding listed] at error
  cases error

/-- Only groups can be in conflict. -/
theorem rootConflicts_eq_nil {tree : Tree} (noAll : ∀ children, tree ≠ .all children)
    (noAny : ∀ children, tree ≠ .any children) : rootConflicts tree = [] := by
  cases tree with
  | all children => exact absurd rfl (noAll children)
  | any children => exact absurd rfl (noAny children)
  | _ => rfl

/-! ## Edits that leave the comparisons alone -/

/-- What can be done to the children of a group without a new comparison for equality. -/
inductive Edit : List Tree → List Tree → Prop where
  /-- Children that are no comparisons for equality are put in, taken out or changed. -/
  | exchanged (front back : List Tree) {removed added : List Tree}
      (h : ∀ path operand, .comparison path .eq operand ∉ removed)
      (h' : ∀ path operand, .comparison path .eq operand ∉ added) :
      Edit (front ++ (removed ++ back)) (front ++ (added ++ back))
  /-- A child is written once more. If it compares a field, its operand must equal itself. -/
  | repeated (front back : List Tree) {child : Tree} (listed : child ∈ front ++ back)
      (real : ∀ path operand, child = .comparison path .eq operand → operand.Real) :
      Edit (front ++ back) (front ++ child :: back)
  /-- The children are written in another order. -/
  | permuted {children others : List Tree} (h : children.Perm others) : Edit children others

theorem mem_iff_of_edit (edit : Edit children others) :
    .comparison path .eq operand ∈ children ↔ .comparison path .eq operand ∈ others := by
  cases edit with
  | exchanged front back h h' => simp only [List.mem_append, h path operand, h' path operand]
  | repeated front back listed =>
    -- the new child is one of the others
    rw [List.perm_middle.mem_iff, List.mem_cons]
    exact (or_iff_right_of_imp fun same => same ▸ listed).symm
  | permuted h => exact h.mem_iff

theorem mem_conflictPaths_any_iff_of_edit (edit : Edit children others) :
    path ∈ conflictPaths (.any children) ↔ path ∈ conflictPaths (.any others) := by
  rw [mem_conflictPaths_any_iff, mem_conflictPaths_any_iff, mem_iff_of_edit edit,
    mem_iff_of_edit edit]

/-- A conjunction is not in conflict about a path if the operands equal each other, in whatever order. -/
theorem mem_conflictPaths_all_iff_not_pairwise :
    path ∈ conflictPaths (.all children) ↔
      ¬ (operandsWritten path children).Pairwise fun v w => (v == w) = true := by
  rw [mem_conflictPaths_all_iff_written, List.pairwise_iff_forall_sublist]
  simp only [not_forall, Bool.not_eq_true, exists_prop]

theorem operandsWritten_eq_nil (h : ∀ path operand, .comparison path .eq operand ∉ children) :
    operandsWritten path children = [] :=
  List.eq_nil_iff_forall_not_mem.mpr fun _ listed => h _ _ (mem_operandsWritten_iff.mp listed)

theorem operandsWritten_append (first last : List Tree) :
    operandsWritten path (first ++ last) =
      operandsWritten path first ++ operandsWritten path last :=
  List.filterMap_append

/-- Operands that equal each other and themselves still do when one of them is written again. -/
theorem pairwise_cons_iff {operands : List Operand} (listed : operand ∈ operands)
    (real : operand.Real) :
    (operand :: operands).Pairwise (fun v w => (v == w) = true) ↔
      operands.Pairwise fun v w => (v == w) = true := by
  rw [List.pairwise_cons]
  refine and_iff_right_of_imp fun pairs other member => ?_
  by_cases same : operand = other
  · exact same ▸ Operand.beq_self_of_real real
  · have symmetric : Std.Symm fun v w : Operand => (v == w) = true := ⟨fun _ _ => BEq.symm⟩
    exact pairs.forall listed member same

theorem mem_conflictPaths_all_iff_of_edit (edit : Edit children others) :
    path ∈ conflictPaths (.all children) ↔ path ∈ conflictPaths (.all others) := by
  rw [mem_conflictPaths_all_iff_not_pairwise, mem_conflictPaths_all_iff_not_pairwise]
  apply not_congr
  -- what the operands have to do with each other does not depend on their order
  cases edit with
  | exchanged front back h h' =>
    simp only [operandsWritten_append, operandsWritten_eq_nil h, operandsWritten_eq_nil h']
  | permuted h => exact (h.filterMap _).pairwise_iff BEq.symm
  | @repeated front back child listed real =>
    rw [operandsWritten, operandsWritten,
      (List.perm_middle.filterMap (equated? path)).pairwise_iff BEq.symm]
    cases found : equated? path child with
    | none => rw [List.filterMap_cons_none found]
    | some operand =>
      obtain rfl := equated?_eq_some_iff.mp found
      rw [List.filterMap_cons_some found]
      exact (pairwise_cons_iff (mem_operandsWritten_iff.mpr listed) (real path operand rfl)).symm

theorem mem_conflictPaths_iff_of_edits (edits : Relation.ReflTransGen Edit children others) :
    (path ∈ conflictPaths (.all children) ↔ path ∈ conflictPaths (.all others)) ∧
      (path ∈ conflictPaths (.any children) ↔ path ∈ conflictPaths (.any others)) := by
  induction edits with
  | refl => exact ⟨Iff.rfl, Iff.rfl⟩
  | tail _ edit ih =>
    exact ⟨ih.1.trans (mem_conflictPaths_all_iff_of_edit edit),
      ih.2.trans (mem_conflictPaths_any_iff_of_edit edit)⟩

/-- The conflicts that are reported are those that there are. A conjunction is reported for the paths that
two of its children compare with different operands, and the message has each operand once, as they first
appear; a disjunction is reported for the paths that are compared with both truth values. The reports follow
the first comparisons of their paths. No other root is reported, and edits that leave the comparisons alone
do not change for which paths a group is reported. -/
theorem conflicts_exact :
    (∀ children,
      (validate (.all children)).errorsOf .contradiction =
          (conflictPaths (.all children)).map
            (fun path => contradictionError path (operandsOf path children)) ∧
        (∀ path, path ∈ conflictPaths (.all children) ↔ ∃ v w,
          [.comparison path .eq v, .comparison path .eq w].Sublist children ∧ (v == w) = false) ∧
        InOrder children (conflictPaths (.all children)) ∧
        (∀ path, FirstAppearances (operandsWritten path children) (operandsOf path children)) ∧
        (validate (.all children)).warningsOf .tautology = []) ∧
    (∀ children,
      (validate (.any children)).warningsOf .tautology =
          (conflictPaths (.any children)).map tautologyWarning ∧
        (∀ path, path ∈ conflictPaths (.any children) ↔
          .comparison path .eq (.bool true) ∈ children ∧
            .comparison path .eq (.bool false) ∈ children) ∧
        InOrder children (conflictPaths (.any children)) ∧
        (validate (.any children)).errorsOf .contradiction = []) ∧
    (∀ tree, (∀ children, tree ≠ .all children) → (∀ children, tree ≠ .any children) →
      (validate tree).errorsOf .contradiction = [] ∧ (validate tree).warningsOf .tautology = []) ∧
    (∀ children others, Relation.ReflTransGen Edit children others → ∀ path,
      (path ∈ conflictPaths (.all children) ↔ path ∈ conflictPaths (.all others)) ∧
        (path ∈ conflictPaths (.any children) ↔ path ∈ conflictPaths (.any others))) := by
  refine ⟨fun children => ?_, fun children => ?_, fun tree noAll noAny => ?_,
    fun children others edits path => mem_conflictPaths_iff_of_edits edits⟩
  · refine ⟨errorsOf_contradiction_all children, fun _ => mem_conflictPaths_all_iff,
      inOrder_conflictPaths_all children, fun path => ?_, warningsOf_tautology_all children⟩
    rw [operandsOf_eq]
    exact firstAppearances_eraseDups _
  · exact ⟨warningsOf_tautology_any children, fun _ => mem_conflictPaths_any_iff,
      inOrder_conflictPaths_any children, errorsOf_contradiction_any children⟩
  · rw [errorsOf_contradiction, warningsOf_tautology, rootConflicts_eq_nil noAll noAny]
    exact ⟨rfl, rfl⟩

/-- A disjunction keeps its conflict when a child that is no comparison is taken out, one of the others is
written twice, and the children change places. -/
theorem conflicts_exact_edited :
    Field.flagged.path ∈ conflictPaths (.any
      [.comparison Field.flagged.path .eq (.bool false),
       .comparison Field.flagged.path .eq (.bool true),
       .comparison Field.flagged.path .eq (.bool false)]) := by
  let isTrue : Tree := .comparison Field.flagged.path .eq (.bool true)
  let isFalse : Tree := .comparison Field.flagged.path .eq (.bool false)
  have out : Edit ([isTrue] ++ ([.literal true] ++ [isFalse])) ([isTrue] ++ ([] ++ [isFalse])) :=
    .exchanged [isTrue] [isFalse] (by simp) (by simp)
  have real : ∀ path operand, isFalse = .comparison path .eq operand → operand.Real := by
    rintro path operand same x rfl
    simp [isFalse] at same
  have twice : Edit ([isTrue, isFalse] ++ []) ([isTrue, isFalse] ++ [isFalse]) :=
    .repeated [isTrue, isFalse] [] (List.mem_cons_of_mem _ List.mem_cons_self) real
  have moved : Edit [isTrue, isFalse, isFalse] [isFalse, isTrue, isFalse] :=
    .permuted (.swap _ _ _)
  have edits := ((Relation.ReflTransGen.single out).tail twice).tail moved
  have known : Field.flagged.path ∈ conflictPaths (.any [isTrue, .literal true, isFalse]) :=
    ((conflicts_exact.2.1 _).2.1 _).mpr ⟨by simp [isTrue], by simp [isFalse]⟩
  exact (conflicts_exact.2.2.2 _ _ edits _).2.mp known

end TaskFilter.Validation
