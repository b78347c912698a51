import TaskFilter.Proofs.Script.Emitting

/-!
# What expressions are written with

The code of an emitted expression is put together from a few fixed fragments and from numbers; everything
else in it is a literal. So what holds of literals, of numbers and of every fragment, and is kept when code is
joined, holds of all pieces of an expression.

Main statement: `Covers.forall_mem_pieces`.
-/

namespace TaskFilter.Script

/-! ## Fragments -/

/-- The names by which a dialect reads the properties of a task and of its project. -/
def propertyNames (dialect : Dialect) : List String :=
  Field.all.map (fun field => dialect.accessor field.path) ++
    [projectProperty dialect, "task.containingProject().id()", "task.containingProject.id.primaryKey",
      "task.containingProject.name"]

/-- The code of the pieces that are code. -/
def codeOf (pieces : List Piece) : List String :=
  pieces.filterMap fun
    | .code text => some text
    | .literal _ => none

/-- The code of the derived truth values of a dialect. -/
def derivedCode (dialect : Dialect) : List String :=
  (Field.all.filterMap (derivedPredicate? dialect)).flatMap fun predicate => codeOf predicate.pieces

/-- The fragments that stand between names, numbers and literals. -/
def codeSigns : List String :=
  ["true", "false", "null", "!", "(", ")", "[", "]", "[]", ",", ".", " ", " && ", " || ", " === ", " !== ",
    "<", ">", "<=", ">=", "new Date(", " || \"\").toLowerCase().includes(", "new RegExp(",
    ", \"i\").test(", " || \"\")", "every", "some", "(t => ", ".includes(t))"]

def fragments : List String :=
  codeSigns ++ [Dialect.jxa, .omnijs].flatMap fun dialect => propertyNames dialect ++ derivedCode dialect

/-- The pieces of a class cover what expressions are written with. -/
structure Covers (P : Piece → Prop) : Prop where
  literal : ∀ value, P (.literal value)
  numeral : ∀ number : Number, P (.code (String.ofList number.write))
  append : ∀ {a b}, P (.code a) → P (.code b) → P (.code (a ++ b))
  fragment : ∀ text ∈ fragments, P (.code text)

/-! ## Expressions -/

theorem mem_dialects (dialect : Dialect) : dialect ∈ [Dialect.jxa, .omnijs] := by
  cases dialect <;> simp

theorem accessor_mem_fragments (dialect : Dialect) (field : Field) :
    dialect.accessor field.path ∈ fragments := by
  have named : dialect.accessor field.path ∈ propertyNames dialect :=
    List.mem_append_left _ (List.mem_map_of_mem (Field.mem_all field))
  exact List.mem_append_right _
    (List.mem_flatMap.mpr ⟨dialect, mem_dialects dialect, List.mem_append_left _ named⟩)

theorem projectProperty_mem_fragments (dialect : Dialect) : projectProperty dialect ∈ fragments := by
  have named : projectProperty dialect ∈ propertyNames dialect :=
    List.mem_append_right _ List.mem_cons_self
  exact List.mem_append_right _
    (List.mem_flatMap.mpr ⟨dialect, mem_dialects dialect, List.mem_append_left _ named⟩)

theorem referenceProperty_mem_fragments (dialect : Dialect) (reference : String) :
    referenceProperty dialect reference ∈ fragments := by
  have named : referenceProperty dialect reference ∈ propertyNames dialect := by
    apply List.mem_append_right
    unfold referenceProperty
    cases dialect with
    | jxa => simp
    | omnijs => dsimp only; split <;> simp
  exact List.mem_append_right _
    (List.mem_flatMap.mpr ⟨dialect, mem_dialects dialect, List.mem_append_left _ named⟩)

theorem derived_mem_fragments {dialect : Dialect} {field : Field} {predicate : Expr}
    (h : derivedPredicate? dialect field = some predicate) {text : String}
    (listed : .code text ∈ predicate.pieces) : text ∈ fragments := by
  have code : text ∈ derivedCode dialect :=
    List.mem_flatMap.mpr ⟨predicate, List.mem_filterMap.mpr ⟨field, Field.mem_all field, h⟩,
      List.mem_filterMap.mpr ⟨_, listed, rfl⟩⟩
  exact List.mem_append_right _
    (List.mem_flatMap.mpr ⟨dialect, mem_dialects dialect, List.mem_append_right _ code⟩)

namespace Covers

variable {P : Piece → Prop} (covers : Covers P)

include covers

theorem sign {text : String} (h : codeSigns.contains text = true) : P (.code text) :=
  covers.fragment text (List.mem_append_left _ (List.contains_iff_mem.mp h))

theorem arrayPieces (items : List String) : ∀ piece ∈ arrayPieces items, P piece := by
  cases items with
  | nil => exact List.forall_mem_singleton.mpr (covers.sign rfl)
  | cons first rest =>
    simp only [Script.arrayPieces, List.cons_append, List.forall_mem_cons, List.forall_mem_append,
      List.not_mem_nil, false_implies, implies_true, and_true]
    refine ⟨covers.sign rfl, covers.literal first, ?_, covers.sign rfl⟩
    intro piece member
    obtain ⟨item, -, pair⟩ := List.mem_flatMap.mp member
    simp only [List.mem_cons, List.not_mem_nil, or_false] at pair
    rcases pair with rfl | rfl
    · exact covers.sign rfl
    · exact covers.literal item

theorem operandPieces (operand : Operand) : ∀ piece ∈ operandPieces operand, P piece := by
  cases operand with
  | bool value =>
    refine List.forall_mem_singleton.mpr (covers.sign ?_)
    cases value <;> rfl
  | number value => exact List.forall_mem_singleton.mpr (covers.numeral value)
  | string s => exact List.forall_mem_singleton.mpr (covers.literal s)
  | array items => exact covers.arrayPieces items

/-- The pieces of a condition on a property whose name is covered. -/
theorem on {property : String} (named : P (.code property)) {atom : Atom} (h : atom.On property) :
    ∀ piece ∈ atom.pieces, P piece := by
  cases h with
  | equality same operand =>
    refine List.forall_mem_cons.mpr ⟨covers.append named (covers.sign ?_), covers.operandPieces operand⟩
    cases same <;> rfl
  | presence same =>
    refine List.forall_mem_cons.mpr ⟨covers.append named (covers.sign ?_), ?_⟩
    · cases same <;> rfl
    · exact List.forall_mem_singleton.mpr (covers.sign rfl)
  | order operator ordering date =>
    have token : P (.code operator.token) := by
      cases operator with
      | lt | gt | le | ge => exact covers.sign rfl
      | eq | ne | contains | «matches» | all | any => cases ordering
    have spaced : P (.code (property ++ " " ++ operator.token ++ " ")) :=
      covers.append (covers.append (covers.append named (covers.sign rfl)) token) (covers.sign rfl)
    simp only [Atom.pieces, Moment.pieces, List.forall_mem_cons, List.not_mem_nil, false_implies,
      implies_true, and_true]
    exact ⟨spaced, covers.sign rfl, covers.literal date, covers.sign rfl⟩
  | contains term =>
    have before : P (.code ("(" ++ property ++ " || \"\").toLowerCase().includes(")) :=
      covers.append (covers.append (covers.sign rfl) named) (covers.sign rfl)
    simp only [Atom.pieces, List.forall_mem_cons, List.not_mem_nil, false_implies, implies_true, and_true]
    exact ⟨before, covers.literal term, covers.sign rfl⟩
  | «matches» pattern =>
    have behind : P (.code (", \"i\").test(" ++ property ++ " || \"\")")) :=
      covers.append (covers.append (covers.sign rfl) named) (covers.sign rfl)
    simp only [Atom.pieces, List.forall_mem_cons, List.not_mem_nil, false_implies, implies_true, and_true]
    exact ⟨covers.sign rfl, covers.literal pattern, behind⟩
  | membership quantifier names =>
    have method : P (.code ("." ++ quantifier.method)) := by
      refine covers.append (covers.sign rfl) (covers.sign ?_)
      cases quantifier <;> rfl
    have call : P (.code ("." ++ quantifier.method ++ "(t => " ++ property ++ ".includes(t))")) :=
      covers.append (covers.append (covers.append method (covers.sign rfl)) named) (covers.sign rfl)
    exact List.forall_mem_append.mpr
      ⟨covers.arrayPieces names, List.forall_mem_singleton.mpr call⟩

theorem parens {e : Expr} (h : ∀ piece ∈ e.pieces, P piece) :
    ∀ piece ∈ (Expr.parens e).pieces, P piece :=
  List.forall_mem_append.mpr ⟨List.forall_mem_cons.mpr ⟨covers.sign rfl, h⟩,
    List.forall_mem_singleton.mpr (covers.sign rfl)⟩

theorem not {e : Expr} (h : ∀ piece ∈ e.pieces, P piece) : ∀ piece ∈ (Expr.not e).pieces, P piece :=
  List.forall_mem_cons.mpr ⟨covers.sign rfl, h⟩

theorem joined (junction : Junction) {parts : List Expr}
    (h : ∀ part ∈ parts, ∀ piece ∈ part.pieces, P piece) :
    ∀ piece ∈ (Expr.joined junction parts).pieces, P piece := by
  have sign : P (.code junction.sign) := by
    cases junction <;> exact covers.sign rfl
  show ∀ piece ∈ Expr.joinedPieces junction parts, P piece
  induction parts with
  | nil => exact fun piece member => absurd member List.not_mem_nil
  | cons part rest ih =>
    rw [List.forall_mem_cons] at h
    cases rest with
    | nil => exact h.1
    | cons second rest =>
      exact List.forall_mem_append.mpr ⟨h.1, List.forall_mem_cons.mpr ⟨sign, ih h.2⟩⟩

theorem group (junction : Junction) {parts : List Expr}
    (h : ∀ part ∈ parts, ∀ piece ∈ part.pieces, P piece) :
    ∀ piece ∈ (group junction parts).pieces, P piece := by
  cases parts with
  | nil =>
    refine List.forall_mem_singleton.mpr (covers.sign ?_)
    cases junction <;> rfl
  | cons part rest => exact covers.parens (covers.joined junction h)

theorem projectMatch (dialect : Dialect) (reference : String) :
    ∀ piece ∈ (projectMatch dialect reference).pieces, P piece := by
  refine covers.parens (covers.joined .and ?_)
  simp only [List.forall_mem_cons, List.not_mem_nil, false_implies, implies_true, and_true]
  exact ⟨covers.on (covers.fragment _ (projectProperty_mem_fragments dialect)) (.presence false),
    covers.on (covers.fragment _ (referenceProperty_mem_fragments dialect reference)) (.equality true _)⟩

theorem emits (dialect : Dialect) : Emits dialect fun e => ∀ piece ∈ e.pieces, P piece where
  constant value := by
    refine List.forall_mem_singleton.mpr (covers.sign ?_)
    cases value <;> rfl
  property field atom on := covers.on (covers.fragment _ (accessor_mem_fragments dialect field)) on
  derived field predicate h piece member := by
    cases piece with
    | code text => exact covers.fragment text (derived_mem_fragments h member)
    | literal value => exact covers.literal value
  project reference := covers.projectMatch dialect reference
  otherProject reference := covers.not (covers.projectMatch dialect reference)
  group junction parts h := covers.group junction h
  negation e h := covers.not (covers.parens h)

/-- Every piece of an emitted expression is covered. -/
theorem forall_mem_pieces {dialect : Dialect} {tree : Tree} {e : Expr} (h : emit dialect tree = .ok e) :
    ∀ piece ∈ e.pieces, P piece :=
  (covers.emits dialect).emit tree h

end Covers

end TaskFilter.Script
