import TaskFilter.Proofs.Script.Fragments
import TaskFilter.Proofs.Script.Operands
import TaskFilter.Proofs.Text.LowerCase
import TaskFilter.Proofs.Tree.Conditions

/-!
# Expressions on one line

An expression is meant to stand on one line of a script and to be ended by whoever uses it. Its code keeps to
that, and its literals hold no control characters. But a script knows two line ends more, the line separator
and the paragraph separator, and these are written as they are.

## Layers

- **Characters of code**: code is made of printable basic characters without the semicolon (`covers_plain`).
- **Characters of literals**: beyond the basic range a literal has the characters of its value
  (`mem_encode_iff`), and the values are the operands of the tree (`literalsOf_pieces`).
- **Main statement**: `mem_text_lineEnd_iff`.
-/

namespace TaskFilter

/-! ## Operands of trees -/

namespace Tree

/-- The condition is a comparison with texts, and the character stands in one of them. -/
def InOperand (c : Char) : Tree → Prop
  | .comparison _ _ operand => ∃ text ∈ operand.texts, c ∈ text.toList
  | _ => False

/-- The character stands in a text operand of some condition of the tree. -/
def HasInOperand (tree : Tree) (c : Char) : Prop :=
  ∃ condition ∈ tree.conditions, condition.InOperand c

theorem exists_textsFor_iff {c : Char} (h : Text.isCaseless c = true) (operator : Operator)
    (operand : Operand) :
    (∃ text ∈ operand.textsFor operator, c ∈ text.toList) ↔ ∃ text ∈ operand.texts, c ∈ text.toList := by
  unfold Operand.textsFor
  split
  · -- a term is searched for in lower case, in which the character stands where it stood
    simp only [List.mem_map, exists_exists_and_eq_and, Text.mem_lower_iff h]
  · exact Iff.rfl

mutual

theorem exists_operandTexts_iff {c : Char} (h : Text.isCaseless c = true) : (tree : Tree) →
    ((∃ text ∈ tree.operandTexts, c ∈ text.toList) ↔
      ∃ condition ∈ tree.conditions, condition.InOperand c)
  | .literal _ => by simp [operandTexts, conditions]
  | .comparison path operator operand => by
    rw [operandTexts, conditions, exists_textsFor_iff h]
    simp [InOperand]
  | .presence _ _ => by simp [operandTexts, conditions, InOperand]
  | .all children => exists_allOperandTexts_iff h children
  | .any children => exists_allOperandTexts_iff h children
  | .not child => exists_operandTexts_iff h child

theorem exists_allOperandTexts_iff {c : Char} (h : Text.isCaseless c = true) : (children : List Tree) →
    ((∃ text ∈ allOperandTexts children, c ∈ text.toList) ↔
      ∃ condition ∈ allConditions children, condition.InOperand c)
  | [] => by simp [allOperandTexts, allConditions]
  | child :: rest => by
    have first := exists_operandTexts_iff h child
    have later := exists_allOperandTexts_iff h rest
    simp only [allOperandTexts, allConditions, List.mem_append, or_and_right, exists_or, first, later]

end

end Tree

namespace Script

variable {dialect : Dialect} {tree : Tree} {e : Expr}

/-! ## Characters of code -/

/-- A printable character of the basic range, and no semicolon. -/
def isCodeChar (c : Char) : Bool :=
  decide (0x20 ≤ c.toNat) && decide (c.toNat < 0x7f) && c != ';'

/-- Code is made of such characters. A literal is not looked into. -/
def Piece.Plain : Piece → Prop
  | .code text => text.toList.all isCodeChar = true
  | .literal _ => True

theorem isCodeChar_of_isNumeral {c : Char} (h : Decimal.isNumeral c = true) : isCodeChar c = true := by
  simp only [Decimal.isNumeral, Char.isDigit, Bool.or_eq_true, Bool.and_eq_true, decide_eq_true_eq] at h
  rcases h with (((digit | rfl) | rfl) | rfl) | rfl
  · have low : 48 ≤ c.toNat := digit.1
    have high : c.toNat ≤ 57 := digit.2
    have other : c ≠ ';' := by
      rintro rfl
      exact absurd high (by decide)
    simp [isCodeChar, other, (by omega : 32 ≤ c.toNat), (by omega : c.toNat < 127)]
  all_goals rfl

/-- No fragment has a line end or a semicolon in it. -/
theorem covers_plain : Covers Piece.Plain where
  literal _ := trivial
  numeral number := by
    show (String.ofList number.write).toList.all isCodeChar = true
    rw [String.toList_ofList, List.all_eq_true]
    exact fun c member => isCodeChar_of_isNumeral (number.numeral_write c member)
  append {a b} ha hb := by
    show (a ++ b).toList.all isCodeChar = true
    rw [String.toList_append, List.all_append, Bool.and_eq_true]
    exact ⟨ha, hb⟩
  fragment := by
    have all : (fragments.all fun text => text.toList.all isCodeChar) = true := by decide +kernel
    exact List.all_eq_true.mp all

/-! ## Characters of literals -/

/-- Beyond the basic range a character of a literal is a character of its value. -/
theorem mem_encodeChar_iff {c d : Char} (h : 0x7f < c.toNat) : c ∈ Json.encodeChar d ↔ c = d := by
  by_cases basic : d.toNat ≤ 0x7f
  · -- whatever a basic character is written as, it stays in the basic range
    have all : ∀ n < 0x80, ((Json.encodeChar (Char.ofNat n)).all fun c => c.toNat ≤ 0x7f) = true := by
      decide
    have written := all d.toNat (by omega)
    rw [Char.ofNat_toNat, List.all_eq_true] at written
    constructor
    · intro member
      have small := of_decide_eq_true (written c member)
      omega
    · rintro rfl
      omega
  · have itself : Json.encodeChar d = [d] := by
      cases Json.written d with
      | short name escape =>
        have special : d.toNat ≤ 0x7f := by
          unfold Json.shortEscape? at escape
          split_ifs at escape <;> cases escape <;> decide
        omega
      | numeric control => omega
      | plain _ _ _ form => exact form
    rw [itself, List.mem_singleton]

theorem mem_encode_iff {c : Char} (h : 0x7f < c.toNat) (s : String) :
    c ∈ Json.encode s ↔ c ∈ s.toList := by
  have quote : c ≠ '"' := by
    rintro rfl
    exact absurd h (by decide)
  simp [Json.encode, quote, mem_encodeChar_iff h]

/-- The values of the literals of a row of pieces. -/
def literalsOf (pieces : List Piece) : List String :=
  pieces.filterMap fun
    | .code _ => none
    | .literal value => some value

theorem literalsOf_eq_of_parallel {ps qs : List Piece} {values others : List String}
    (h : Parallel ps values qs others) : literalsOf ps = values := by
  induction h with
  | nil => rfl
  | code text _ ih => exact ih
  | literal value other _ ih => exact congrArg (value :: ·) ih

/-- The literals of an expression stand for the operands of its tree. -/
theorem literalsOf_pieces (h : emit dialect tree = .ok e) : literalsOf e.pieces = tree.operandTexts := by
  have alike := alike_emit dialect tree tree tree.sameShape_self
  rw [h] at alike
  cases alike with
  | ok parallel => exact literalsOf_eq_of_parallel parallel

/-! ## Characters of texts -/

theorem mem_text_iff (c : Char) : c ∈ e.text.toList ↔ ∃ piece ∈ e.pieces, c ∈ piece.write := by
  rw [Expr.text, String.toList_ofList, Expr.write, List.mem_flatMap]

/-- No character of an expression is a control character. -/
theorem printable_of_mem_text (h : emit dialect tree = .ok e) {c : Char} (member : c ∈ e.text.toList) :
    0x20 ≤ c.toNat := by
  obtain ⟨piece, listed, inside⟩ := (mem_text_iff c).mp member
  have plain := covers_plain.forall_mem_pieces h piece listed
  cases piece with
  | code text =>
    have allowed := List.all_eq_true.mp plain c inside
    simp only [isCodeChar, Bool.and_eq_true, decide_eq_true_eq] at allowed
    exact allowed.1.1
  | literal value =>
    rcases List.mem_append.mp inside with front | quote
    · rcases List.mem_cons.mp front with rfl | written
      · decide
      · obtain ⟨d, -, written⟩ := List.mem_flatMap.mp written
        exact Json.printable_of_mem_encodeChar written
    · rw [List.mem_singleton.mp quote]
      decide

/-- Beyond the basic range the characters of an expression are those of the operands of its tree. -/
theorem mem_text_iff_operandTexts (h : emit dialect tree = .ok e) {c : Char} (beyond : 0x7f < c.toNat) :
    c ∈ e.text.toList ↔ ∃ text ∈ tree.operandTexts, c ∈ text.toList := by
  rw [mem_text_iff, ← literalsOf_pieces h]
  constructor
  · rintro ⟨piece, listed, inside⟩
    have plain := covers_plain.forall_mem_pieces h piece listed
    cases piece with
    | code text =>
      have allowed := List.all_eq_true.mp plain c inside
      simp only [isCodeChar, Bool.and_eq_true, decide_eq_true_eq] at allowed
      omega
    | literal value =>
      exact ⟨value, List.mem_filterMap.mpr ⟨_, listed, rfl⟩, (mem_encode_iff beyond value).mp inside⟩
  · rintro ⟨value, listed, inside⟩
    obtain ⟨piece, member, same⟩ := List.mem_filterMap.mp listed
    cases piece with
    | code text => cases same
    | literal other =>
      obtain rfl := Option.some.inj same
      exact ⟨_, member, (mem_encode_iff beyond other).mpr inside⟩

/-- A plain piece does not end with a semicolon: code has none, and literals end with a quote. -/
theorem getLast?_write_ne {piece : Piece} (h : piece.Plain) : piece.write.getLast? ≠ some ';' := by
  intro last
  cases piece with
  | code text =>
    have allowed := List.all_eq_true.mp h ';' (List.mem_of_getLast? last)
    simp [isCodeChar] at allowed
  | literal value =>
    rw [Piece.write, Json.encode, List.getLast?_concat] at last
    exact absurd (Option.some.inj last) (by simp)

theorem getLast?_flatMap_write_ne {pieces : List Piece} (h : ∀ piece ∈ pieces, piece.Plain) :
    (pieces.flatMap Piece.write).getLast? ≠ some ';' := by
  induction pieces with
  | nil => simp
  | cons piece rest ih =>
    rw [List.forall_mem_cons] at h
    rw [List.flatMap_cons, List.getLast?_append]
    -- the last character is the one of the rest, if the rest has any
    cases last : (rest.flatMap Piece.write).getLast? with
    | none => simpa using getLast?_write_ne h.1
    | some c =>
      rw [Option.some_or, ← last]
      exact ih h.2

/-! ## Line ends -/

/-- The line ends that are control characters. -/
def breaks : List Char :=
  ['\n', '\r']

/-- The line ends that JSON texts hold as they are. -/
def separators : List Char :=
  ['\u2028', '\u2029']

/-- The characters that end a line of a script. -/
def lineEnds : List Char :=
  breaks ++ separators

theorem lt_of_mem_breaks {c : Char} (h : c ∈ breaks) : c.toNat < 0x20 := by
  have all : (breaks.all fun c => c.toNat < 0x20) = true := by decide
  exact of_decide_eq_true (List.all_eq_true.mp all c h)

theorem lt_of_mem_separators {c : Char} (h : c ∈ separators) : 0x7f < c.toNat := by
  have all : (separators.all fun c => 0x7f < c.toNat) = true := by decide
  exact of_decide_eq_true (List.all_eq_true.mp all c h)

theorem isCaseless_of_mem_separators {c : Char} (h : c ∈ separators) : Text.isCaseless c = true := by
  have all : separators.all Text.isCaseless = true := by decide +kernel
  exact List.all_eq_true.mp all c h

/-- An expression ends with no semicolon and has no control character in it. Of the characters that end a line
it has the separators only, and just those that stand in a text operand of its tree. -/
theorem mem_text_lineEnd_iff (h : emit dialect tree = .ok e) :
    (∀ c ∈ e.text.toList, 0x20 ≤ c.toNat) ∧ e.text.toList.getLast? ≠ some ';' ∧
      ∀ c ∈ lineEnds, (c ∈ e.text.toList ↔ c ∈ separators ∧ tree.HasInOperand c) := by
  refine ⟨fun c member => printable_of_mem_text h member, ?_, ?_⟩
  · rw [Expr.text, String.toList_ofList, Expr.write]
    exact getLast?_flatMap_write_ne (covers_plain.forall_mem_pieces h)
  · intro c ends
    rcases List.mem_append.mp ends with breaking | separates
    · have absent : c ∉ e.text.toList := fun member => by
        have printable := printable_of_mem_text h member
        have small := lt_of_mem_breaks breaking
        omega
      have other : c ∉ separators := fun separates => by
        have small := lt_of_mem_breaks breaking
        have beyond := lt_of_mem_separators separates
        omega
      simp [absent, other]
    · have caseless : Text.isCaseless c = true := isCaseless_of_mem_separators separates
      rw [mem_text_iff_operandTexts h (lt_of_mem_separators separates),
        Tree.exists_operandTexts_iff caseless]
      exact (and_iff_right separates).symm

/-- A note with a line separator, in a group: the expression holds it, between the quotes of its literal. -/
theorem mem_text_lineEnd_iff_note :
    ∃ e, emit .omnijs (.all [.comparison Field.note.path .eq (.string "a\u2028b")]) = .ok e ∧
      ((∀ c ∈ e.text.toList, 0x20 ≤ c.toNat) ∧ e.text.toList.getLast? ≠ some ';' ∧
        ∀ c ∈ lineEnds, (c ∈ e.text.toList ↔ c ∈ separators ∧
          (Tree.all [.comparison Field.note.path .eq (.string "a\u2028b")]).HasInOperand c)) := by
  obtain ⟨e, emitted⟩ : ∃ e,
      emit .omnijs (.all [.comparison Field.note.path .eq (.string "a\u2028b")]) = .ok e := ⟨_, rfl⟩
  exact ⟨e, emitted, mem_text_lineEnd_iff emitted⟩

/-- An expression that a line ends within. -/
theorem exists_lineEnd_mem_text :
    ∃ e, emit .jxa (.comparison Field.name.path .eq (.string "a\u2028b")) = .ok e ∧
      ∃ c ∈ lineEnds, c ∈ e.text.toList := by
  refine ⟨_, rfl, '\u2028', ?_, ?_⟩
  · simp [lineEnds, separators]
  · exact List.contains_iff_mem.mp (by decide)

end Script

end TaskFilter
