import TaskFilter.Proofs.Script.Emitting
import TaskFilter.Proofs.Script.Precedence

/-!
# Reading atoms

Every atom that is emitted is read as one operand, whatever texts it holds: its literals are opaque, and
each of its brackets ends where it was meant to.

Main statement: `readsOperand_of_on`, for every condition on a property.
-/

namespace TaskFilter.Script

variable {v : List Char → Bool}

/-! ## Names and values -/

theorem readsValue_of_any {cs : List Char} (h : (items v cs).any isTight = true) :
    ReadsValue v cs := by
  obtain ⟨row, read, tight⟩ := (Option.any_eq_true ..).mp h
  exact readsValue_of_isTight read tight

theorem readsUnary_of_any {cs : List Char}
    (h : ((items v cs).any fun row => isTight row && row.length != 1) = true) :
    ReadsUnary v cs (atomTruth v cs) := by
  obtain ⟨row, read, call⟩ := (Option.any_eq_true ..).mp h
  rw [Bool.and_eq_true, bne_iff_ne] at call
  exact readsUnary_of_isTight read call.1 call.2

theorem readsValue_accessor (dialect : Dialect) (field : Field) :
    ReadsValue v (dialect.accessor field.path).toList := by
  apply readsValue_of_any
  cases dialect <;> cases field <;> rfl

theorem readsValue_string (s : String) : ReadsValue v (Json.encode s) :=
  readsValue_of_isTight (items_encode s) rfl

theorem readsValue_number (n : Number) : ReadsValue v n.write :=
  readsValue_of_numeral n.numeral_write n.exists_isDigit_write

/-- The names of an array after the first, with commas before them. -/
theorem exists_items_separated (names : List String) : ∃ row,
    items v ((names.flatMap fun name => [Piece.code ",", .literal name]).flatMap Piece.write) =
      some row := by
  induction names with
  | nil => exact ⟨[], rfl⟩
  | cons name names ih =>
    obtain ⟨row, read⟩ := ih
    have comma : items v [','] = some [.code ','] := items_of_isPlain (by decide)
    have pair := items_append comma (items_append (items_encode name) items_nil)
    rw [List.flatMap_cons, List.flatMap_append]
    exact ⟨_, items_append pair read⟩

/-- An array is read as square brackets. -/
theorem exists_items_array (names : List String) : ∃ text,
    items v ((arrayPieces names).flatMap Piece.write) = some [.square text] := by
  cases names with
  | nil => exact ⟨_, items_brackets (.inr rfl) items_nil⟩
  | cons first rest =>
    obtain ⟨row, read⟩ := exists_items_separated (v := v) rest
    have bracketed := items_brackets (.inr rfl) (items_append (items_encode first) read)
    have same : (arrayPieces (first :: rest)).flatMap Piece.write =
        '[' :: (Json.encode first ++ (rest.flatMap fun name =>
          [Piece.code ",", .literal name]).flatMap Piece.write) ++ [closing '['] := by
      simp [arrayPieces, Piece.write, closing]
    rw [same, bracketed]
    exact ⟨_, rfl⟩

theorem readsValue_operand (operand : Operand) :
    ReadsValue v ((operandPieces operand).flatMap Piece.write) := by
  cases operand with
  | bool value =>
    apply readsValue_of_any
    cases value <;> rfl
  | number value =>
    have written : (operandPieces (.number value)).flatMap Piece.write = value.write := by
      simp [operandPieces, Piece.write]
    rw [written]
    exact readsValue_number value
  | string s =>
    have written : (operandPieces (.string s)).flatMap Piece.write = Json.encode s := by
      simp [operandPieces, Piece.write]
    rw [written]
    exact readsValue_string s
  | array items =>
    obtain ⟨text, read⟩ := exists_items_array (v := v) items
    exact readsValue_of_isTight read rfl

/-- A moment is read as a value that is made with `new`. -/
theorem readsValue_moment (moment : Moment) :
    ReadsValue v (moment.pieces.flatMap Piece.write) := by
  -- what the row of the name looks like does not matter beyond its being a name
  have name : ∃ row, items v "Date".toList = some row ∧
      ∀ text truth, isTight (row ++ [.parens text truth]) = true :=
    ⟨_, rfl, fun _ _ => rfl⟩
  obtain ⟨row, read, tight⟩ := name
  cases moment with
  | date text =>
    have call := items_append read (items_brackets (.inl rfl) (items_encode text))
    have value := readsValue_new call (tight _ _)
    have written : (Moment.date text).pieces.flatMap Piece.write =
        "new ".toList ++ ("Date".toList ++ ('(' :: Json.encode text ++ [closing '('])) := by
      simp [Moment.pieces, Piece.write, closing]
    rw [written]
    exact value
  | now =>
    have call := items_append read (items_brackets (.inl rfl) items_nil)
    exact readsValue_new call (tight _ _)

/-! ## Conditions -/

def Atom.write (atom : Atom) : List Char :=
  atom.pieces.flatMap Piece.write

/-- A property compared with a fixed value is an atom. -/
theorem readsOperand_equality {property : String} (named : ReadsValue v property.toList)
    (same : Bool) {term : Term} (value : ReadsValue v (term.pieces.flatMap Piece.write)) :
    ReadsOperand v (Atom.equality property same term).write
      (atomTruth v (Atom.equality property same term).write) := by
  cases same with
  | true =>
    have written : (Atom.equality property true term).write =
        property.toList ++ ' ' :: ['=', '=', '='] ++ ' ' :: term.pieces.flatMap Piece.write := by
      simp [Atom.write, Atom.pieces, Piece.write]
    rw [written]
    exact readsOperand_comparison named value (by decide)
  | false =>
    have written : (Atom.equality property false term).write =
        property.toList ++ ' ' :: ['!', '=', '='] ++ ' ' :: term.pieces.flatMap Piece.write := by
      simp [Atom.write, Atom.pieces, Piece.write]
    rw [written]
    exact readsOperand_comparison named value (by decide)

/-- A property compared with a moment is an atom. -/
theorem readsOperand_order {property : String} (named : ReadsValue v property.toList)
    {operator : Operator} (ordering : operator.isOrdering = true) (moment : Moment) :
    ReadsOperand v (Atom.order property operator moment).write
      (atomTruth v (Atom.order property operator moment).write) := by
  have sign : operator.token.toList ∈ comparisonSigns := by
    cases operator <;> revert ordering <;> decide
  have written : (Atom.order property operator moment).write =
      property.toList ++ ' ' :: operator.token.toList ++
        ' ' :: moment.pieces.flatMap Piece.write := by
    simp [Atom.write, Atom.pieces, Piece.write]
  rw [written]
  exact readsOperand_comparison named (readsValue_moment moment) sign

/-- The text of a property, or no text, in parentheses. -/
theorem exists_items_orEmpty {property : String} (named : ReadsValue v property.toList) :
    ∃ text truth, items v ('(' :: (property.toList ++ " || \"\"".toList) ++ [closing '(']) =
      some [.parens text truth] := by
  obtain ⟨row, read, _⟩ := named
  have empty : ∃ row, items v " || \"\"".toList = some row := ⟨_, rfl⟩
  obtain ⟨others, read'⟩ := empty
  exact ⟨_, _, items_brackets (.inl rfl) (items_append read read')⟩

/-- A search for a term is an atom. -/
theorem readsOperand_contains {property : String} (named : ReadsValue v property.toList)
    (term : String) :
    ReadsOperand v (Atom.contains property term).write
      (atomTruth v (Atom.contains property term).write) := by
  obtain ⟨text, truth, read⟩ := exists_items_orEmpty named
  -- the parentheses come first, but the call behind them makes the row an atom
  have method : ∃ row, items v ".toLowerCase().includes".toList = some row ∧
      ∀ first value text truth,
        isTight ([.parens first value] ++ (row ++ [.parens text truth])) = true :=
    ⟨_, rfl, fun _ _ _ _ => rfl⟩
  obtain ⟨row, read', tight⟩ := method
  have argument := items_brackets (.inl rfl) (items_encode (v := v) term)
  have whole := items_append read (items_append read' argument)
  have written : (Atom.contains property term).write =
      '(' :: (property.toList ++ " || \"\"".toList) ++ [closing '('] ++
        (".toLowerCase().includes".toList ++ ('(' :: Json.encode term ++ [closing '('])) := by
    simp [Atom.write, Atom.pieces, Piece.write, closing]
  rw [written]
  exact (readsUnary_of_isTight whole (tight _ _ _ _) (by simp)).operand

/-- A match with a pattern is an atom. -/
theorem readsOperand_matches {property : String} (named : ReadsValue v property.toList)
    (pattern : String) :
    ReadsOperand v (Atom.matches property pattern).write
      (atomTruth v (Atom.matches property pattern).write) := by
  obtain ⟨text, truth, read⟩ := exists_items_orEmpty named
  have options : ∃ row, items v ", \"i\"".toList = some row := ⟨_, rfl⟩
  obtain ⟨others, read'⟩ := options
  have arguments := items_brackets (.inl rfl) (items_append (items_encode (v := v) pattern) read')
  have parts : ∃ row more, items v "RegExp".toList = some row ∧ items v ".test".toList = some more ∧
      ∀ first value text truth,
        isTight (row ++ ([.parens first value] ++ (more ++ [.parens text truth]))) = true :=
    ⟨_, _, rfl, rfl, fun _ _ _ _ => rfl⟩
  obtain ⟨row, more, name, method, tight⟩ := parts
  have whole := items_append name (items_append arguments (items_append method read))
  have written : (Atom.matches property pattern).write =
      "new ".toList ++ ("RegExp".toList ++
        (('(' :: (Json.encode pattern ++ ", \"i\"".toList) ++ [closing '(']) ++
          (".test".toList ++ ('(' :: (property.toList ++ " || \"\"".toList) ++ [closing '('])))) := by
    simp [Atom.write, Atom.pieces, Piece.write, closing]
  rw [written]
  exact readsOperand_new whole (tight _ _ _ _)

/-- A search for names in a collection is an atom. -/
theorem readsOperand_membership {property : String} (named : ReadsValue v property.toList)
    (quantifier : Quantifier) (names : List String) :
    ReadsOperand v (Atom.membership quantifier names property).write
      (atomTruth v (Atom.membership quantifier names property).write) := by
  obtain ⟨collection, read, _⟩ := named
  obtain ⟨array, listed⟩ := exists_items_array (v := v) names
  have opening : ∃ row, items v "t => ".toList = some row := ⟨_, rfl⟩
  have ending : ∃ row, items v ".includes(t)".toList = some row := ⟨_, rfl⟩
  have method : ∃ row, items v ('.' :: quantifier.method.toList) = some row ∧
      ∀ first text truth, isTight ([.square first] ++ (row ++ [.parens text truth])) = true := by
    cases quantifier <;> exact ⟨_, rfl, fun _ _ _ => rfl⟩
  -- the arrow stands in the brackets of the call, where nothing is looked at
  obtain ⟨first, read₁⟩ := opening
  obtain ⟨last, read₂⟩ := ending
  obtain ⟨row, read', tight⟩ := method
  have argument := items_brackets (.inl rfl) (items_append read₁ (items_append read read₂))
  have whole := items_append listed (items_append read' argument)
  have written : (Atom.membership quantifier names property).write =
      (arrayPieces names).flatMap Piece.write ++ ('.' :: quantifier.method.toList ++
        ('(' :: ("t => ".toList ++ (property.toList ++ ".includes(t)".toList)) ++ [closing '('])) := by
    simp [Atom.write, Atom.pieces, Piece.write, closing]
  rw [written]
  exact (readsUnary_of_isTight whole (tight _ _ _) (by simp)).operand

/-- Every condition on a property is read as one atom. -/
theorem readsOperand_of_on {property : String} (named : ReadsValue v property.toList) {atom : Atom}
    (on : atom.On property) : ReadsOperand v atom.write (atomTruth v atom.write) := by
  cases on with
  | equality same operand => exact readsOperand_equality named same (readsValue_operand operand)
  | presence same => exact readsOperand_equality named same (readsValue_of_any rfl)
  | order operator ordering date => exact readsOperand_order named ordering (.date date)
  | contains term => exact readsOperand_contains named term
  | «matches» pattern => exact readsOperand_matches named pattern
  | membership quantifier names => exact readsOperand_membership named quantifier names

end TaskFilter.Script
