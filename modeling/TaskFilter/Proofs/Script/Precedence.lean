import Mathlib.Data.List.Forall2
import TaskFilter.Proofs.Script.Reading

/-!
# Rules of reading

What the reader finds in a text, derived from what it finds in the parts of the text: one rule for each
way in which conditions are put together. There are three levels, as tight as the operators that may
stand at the top of a text.

## Layers

- **Chunks**: blanks in a row, and the words and signs that chunks can be.
- **Levels**: operands in one chunk (`ReadsUnary`), other operands (`ReadsOperand`), and whole conditions
  (`ReadsRow`); every level is part of the next one.
- **Rules**: parentheses, negations, comparisons and groups.
-/

namespace TaskFilter.Script

/-! ## Words -/

theorem isChar_eq_true_iff (c : Char) (item : Item) : item.isChar c = true ↔ item = .code c := by
  cases item <;> simp [Item.isChar, eq_comm]

/-- A row is a word if it has the same characters, all of them code. -/
theorem isWord_eq_true_iff (word : List Char) (row : List Item) :
    isWord word row = true ↔ row = word.map Item.code := by
  induction word generalizing row with
  | nil => cases row <;> simp [isWord]
  | cons c word ih =>
    cases row with
    | nil => simp [isWord]
    | cons item row =>
      have rest := ih row
      simp only [isWord, Bool.and_eq_true, decide_eq_true_eq] at rest
      simp [isWord, isChar_eq_true_iff, ← rest]
      grind

/-- The signs that stand between operands. -/
def signs : List (List Char) :=
  ['&', '&'] :: ['|', '|'] :: comparisonSigns

/-- Whether a chunk can stand in a value: it is no sign. -/
def isOperandChunk (chunk : List Item) : Bool :=
  isTight chunk || isNumber chunk || isWord ['n', 'e', 'w'] chunk

theorem isWord_eq_false_of_isOperandChunk {chunk : List Item} (h : isOperandChunk chunk = true)
    {sign : List Char} (member : sign ∈ signs) : isWord sign chunk = false := by
  have noOperand : ∀ sign ∈ signs, isOperandChunk (sign.map Item.code) = false := by
    decide
  rw [Bool.eq_false_iff, Ne, isWord_eq_true_iff]
  rintro rfl
  exact absurd h (by simp [noOperand sign member])

theorem isComparison_eq_false_of_isOperandChunk {chunk : List Item}
    (h : isOperandChunk chunk = true) : isComparison chunk = false := by
  simp only [isComparison, List.any_eq_false, Bool.not_eq_true]
  intro sign member
  exact isWord_eq_false_of_isOperandChunk h (List.mem_cons_of_mem _ (List.mem_cons_of_mem _ member))

/-- Whether a chunk is no sign of a group. -/
def isApart (chunk : List Item) : Bool :=
  !isWord ['&', '&'] chunk && !isWord ['|', '|'] chunk

theorem isApart_of_isOperandChunk {chunk : List Item} (h : isOperandChunk chunk = true) :
    isApart chunk = true := by
  simp [isApart, isWord_eq_false_of_isOperandChunk h (by decide : ['&', '&'] ∈ signs),
    isWord_eq_false_of_isOperandChunk h (by decide : ['|', '|'] ∈ signs)]

/-! ## Blanks -/

theorem isSuffix_noBlank {named : Bool} {row : List Item} (h : isSuffix named row = true) :
    ∀ item ∈ row, item.isBlank = false := by
  induction row generalizing named with
  | nil => exact fun item member => absurd member List.not_mem_nil
  | cons item row ih =>
    rw [List.forall_mem_cons]
    cases item with
    | code c =>
      simp only [isSuffix, Bool.and_eq_true] at h
      refine ⟨?_, ih h.2⟩
      rw [Item.isBlank, decide_eq_false_iff_not]
      rintro rfl
      cases named <;> exact absurd h.1 (by decide)
    | literal raw => simp [isSuffix] at h
    | parens text truth => exact ⟨rfl, ih h⟩
    | square text => exact ⟨rfl, ih h⟩

theorem isTight_noBlank {row : List Item} (h : isTight row = true) :
    ∀ item ∈ row, item.isBlank = false := by
  cases row with
  | nil => cases h
  | cons item row =>
    cases item with
    | literal raw => exact List.forall_mem_cons.mpr ⟨rfl, isSuffix_noBlank h⟩
    | code | parens | square =>
      have suffix : isSuffix true (_ :: row) = true := h
      exact isSuffix_noBlank suffix

theorem chunks_of_noBlank {row : List Item} (h : ∀ item ∈ row, item.isBlank = false) :
    chunks row = [row] :=
  List.splitOnP_eq_singleton h

theorem chunks_append (row more : List Item) :
    chunks (row ++ .code ' ' :: more) = chunks row ++ chunks more :=
  List.splitOnP_append_cons row more rfl

theorem chunks_ne_nil (row : List Item) : chunks row ≠ [] :=
  List.splitOnP_ne_nil _ _

/-- The chunks of a row, with blanks between them, make up its text. -/
theorem intercalate_chunks (row : List Item) :
    [' '].intercalate ((chunks row).map rowText) = rowText row := by
  induction row with
  | nil => rfl
  | cons item row ih =>
    obtain ⟨chunk, others, split⟩ := List.exists_cons_of_ne_nil (chunks_ne_nil row)
    rw [split] at ih
    rw [chunks, List.splitOnP_cons_eq_if_modifyHead, ← chunks, split]
    split
    · next blank =>
      -- the blank ends an empty chunk, and stands in front of the others
      have isSpace : item = .code ' ' := by
        cases item <;> simp_all [Item.isBlank]
      rw [isSpace, List.map_cons, List.map_cons, List.intercalate_cons_cons, ← List.map_cons, ih]
      rfl
    · -- the item belongs to the first chunk, which may be the only one
      cases others with
      | nil =>
        simp only [List.modifyHead_cons, List.map_cons, List.map_nil,
          List.intercalate_singleton] at ih ⊢
        rw [rowText, List.flatMap_cons, ← rowText, ih]
        rfl
      | cons second others =>
        simp only [List.modifyHead_cons, List.map_cons, List.intercalate_cons_cons] at ih ⊢
        rw [rowText, List.flatMap_cons, ← rowText, List.append_assoc, List.append_assoc,
          ← List.append_assoc (rowText chunk), ih]
        rfl

/-! ## Levels -/

variable (v : List Char → Bool)

/-- The text is an operand in one chunk, with the given truth. -/
def ReadsUnary (cs : List Char) (value : Bool) : Prop :=
  ∃ row, items v cs = some row ∧ (∀ item ∈ row, item.isBlank = false) ∧
    unaryTruth v row = some value

/-- The text is an operand, with the given truth. -/
def ReadsOperand (cs : List Char) (value : Bool) : Prop :=
  ∃ row, items v cs = some row ∧ (∀ chunk ∈ chunks row, isApart chunk = true) ∧
    operandTruth v (chunks row) = some value

/-- The text is a condition, with the given truth. -/
def ReadsRow (cs : List Char) (value : Bool) : Prop :=
  ∃ row, items v cs = some row ∧ rowTruth v row = some value

/-- The text is a value that can be compared. -/
def ReadsValue (cs : List Char) : Prop :=
  ∃ row, items v cs = some row ∧ isValue (chunks row) = true

variable {v}

/-- The sign of a group is no operand. -/
theorem isApart_of_unaryTruth {row : List Item} {value : Bool} (h : unaryTruth v row = some value) :
    isApart row = true := by
  rw [isApart, Bool.and_eq_true, Bool.not_eq_true', Bool.not_eq_true', Bool.eq_false_iff, Ne,
    Bool.eq_false_iff, Ne, isWord_eq_true_iff, isWord_eq_true_iff]
  constructor
  · rintro rfl
    cases h
  · rintro rfl
    cases h

theorem ReadsUnary.operand {cs : List Char} {value : Bool} (h : ReadsUnary v cs value) :
    ReadsOperand v cs value := by
  obtain ⟨row, read, noBlank, known⟩ := h
  refine ⟨row, read, ?_, ?_⟩
  · rw [chunks_of_noBlank noBlank, List.forall_mem_singleton]
    exact isApart_of_unaryTruth known
  · rw [chunks_of_noBlank noBlank]
    exact known

theorem conjunctionTruth_some (truths : List Bool) :
    conjunctionTruth (truths.map some) = some (truths.all fun t => t) := by
  simp [conjunctionTruth, Function.comp_def]

theorem disjunctionTruth_some (truths : List Bool) :
    disjunctionTruth (truths.map some) = some (truths.any fun t => t) := by
  simp [disjunctionTruth, Function.comp_def]

/-- An operand stands alone in its conjunction. -/
theorem conjunctTruth_of_isApart {cs : List (List Item)} {value : Bool}
    (apart : ∀ chunk ∈ cs, isApart chunk = true) (known : operandTruth v cs = some value) :
    conjunctTruth v cs = some value := by
  have single : cs.splitOnP (isWord ['&', '&']) = [cs] := by
    refine List.splitOnP_eq_singleton fun chunk member => ?_
    have sign := apart chunk member
    simp only [isApart, Bool.and_eq_true, Bool.not_eq_true'] at sign
    exact sign.1
  rw [conjunctTruth, single, List.map_singleton, known]
  simpa using conjunctionTruth_some [value]

theorem ReadsOperand.row {cs : List Char} {value : Bool} (h : ReadsOperand v cs value) :
    ReadsRow v cs value := by
  obtain ⟨row, read, apart, known⟩ := h
  refine ⟨row, read, ?_⟩
  have single : (chunks row).splitOnP (isWord ['|', '|']) = [chunks row] := by
    refine List.splitOnP_eq_singleton fun chunk member => ?_
    have sign := apart chunk member
    simp only [isApart, Bool.and_eq_true, Bool.not_eq_true'] at sign
    exact sign.2
  rw [rowTruth, single, List.map_singleton, conjunctTruth_of_isApart apart known]
  simpa using disjunctionTruth_some [value]

/-! ## Rules -/

/-- A condition in parentheses is an operand. -/
theorem ReadsRow.parens {cs : List Char} {value : Bool} (h : ReadsRow v cs value) :
    ReadsUnary v ('(' :: cs ++ [')']) value := by
  obtain ⟨row, read, known⟩ := h
  refine ⟨_, items_brackets (.inl rfl) read, List.forall_mem_singleton.mpr rfl, ?_⟩
  exact known

/-- The negation of an operand in one chunk is one. -/
theorem ReadsUnary.not {cs : List Char} {value : Bool} (h : ReadsUnary v cs value) :
    ReadsUnary v ('!' :: cs) (!value) := by
  obtain ⟨row, read, noBlank, known⟩ := h
  have sign : items v ['!'] = some [.code '!'] := items_of_isPlain (by decide)
  refine ⟨.code '!' :: row, items_append sign read, List.forall_mem_cons.mpr ⟨rfl, noBlank⟩, ?_⟩
  cases row with
  | nil => cases known
  | cons item row =>
    show (unaryTruth v (item :: row)).map (!·) = _
    rw [known]
    rfl

/-- What binds tightest is an atom, unless it is a condition in parentheses. -/
theorem readsUnary_of_isTight {cs : List Char} {row : List Item} (read : items v cs = some row)
    (tight : isTight row = true) (several : row.length ≠ 1) :
    ReadsUnary v cs (atomTruth v cs) := by
  refine ⟨row, read, isTight_noBlank tight, ?_⟩
  have noSign : ∀ rest, row ≠ .code '!' :: rest := by
    rintro rest rfl
    cases tight
  rw [← rowText_items read]
  cases row with
  | nil => cases tight
  | cons item rest =>
    -- the third equation is for rows that are not just parentheses
    rw [unaryTruth.eq_3]
    · have noNegation : item.isChar '!' = false := by
        rw [Bool.eq_false_iff, Ne, isChar_eq_true_iff]
        rintro rfl
        exact noSign rest rfl
      simp [noNegation, tight]
    · rintro text truth rfl rfl
      exact several rfl

theorem readsValue_of_isTight {cs : List Char} {row : List Item} (read : items v cs = some row)
    (tight : isTight row = true) : ReadsValue v cs := by
  refine ⟨row, read, ?_⟩
  rw [chunks_of_noBlank (isTight_noBlank tight)]
  simp [isValue, tight]

theorem readsValue_of_numeral {cs : List Char} (numeral : Decimal.Numeral cs)
    (digit : ∃ c ∈ cs, c.isDigit = true) : ReadsValue v cs := by
  have plain : cs.all isPlain = true := by
    rw [List.all_eq_true]
    intro c member
    have one := numeral c member
    simp only [Decimal.isNumeral, Bool.or_eq_true, decide_eq_true_eq] at one
    rcases one with (((digit | rfl) | rfl) | rfl) | rfl
    · simp [isPlain, Char.isAlphanum, digit]
    · rfl
    · rfl
    · rfl
    · rfl
  have noBlank : ∀ item ∈ cs.map Item.code, item.isBlank = false := by
    intro item member
    obtain ⟨c, inside, rfl⟩ := List.mem_map.mp member
    rw [Item.isBlank, decide_eq_false_iff_not]
    rintro rfl
    exact absurd (numeral _ inside) (by decide)
  have read := items_of_isPlain (v := v) plain
  refine ⟨_, read, ?_⟩
  rw [chunks_of_noBlank noBlank, isValue, isNumber, rowText_items read]
  have numerals : cs.all Decimal.isNumeral = true := List.all_eq_true.mpr numeral
  have digits : cs.any Char.isDigit = true := List.any_eq_true.mpr digit
  simp [numerals, digits]

theorem items_new {cs : List Char} {row : List Item} (read : items v cs = some row) :
    items v ("new ".toList ++ cs) =
      some (['n', 'e', 'w'].map Item.code ++ .code ' ' :: row) := by
  have word : items v "new ".toList = some ("new ".toList.map Item.code) :=
    items_of_isPlain (by decide)
  have whole := items_append word read
  exact whole

theorem chunks_new {row : List Item} (tight : isTight row = true) :
    chunks (['n', 'e', 'w'].map Item.code ++ .code ' ' :: row) =
      [['n', 'e', 'w'].map Item.code, row] := by
  rw [chunks_append, chunks_of_noBlank (isTight_noBlank tight)]
  rfl

theorem readsValue_new {cs : List Char} {row : List Item} (read : items v cs = some row)
    (tight : isTight row = true) : ReadsValue v ("new ".toList ++ cs) := by
  refine ⟨_, items_new read, ?_⟩
  rw [chunks_new tight]
  simp [isValue, isWord_eq_true_iff, tight]

theorem isOperandChunk_of_isValue {cs : List (List Item)} (h : isValue cs = true) :
    ∀ chunk ∈ cs, isOperandChunk chunk = true := by
  match cs with
  | [] => cases h
  | [chunk] =>
    rw [List.forall_mem_singleton, isOperandChunk, Bool.or_eq_true]
    exact .inl h
  | [word, chunk] =>
    simp only [isValue, Bool.and_eq_true] at h
    simp [isOperandChunk, h]
  | _ :: _ :: _ :: _ => cases h

/-- A value by itself is an atom. -/
theorem readsOperand_value {cs : List Char} {row : List Item} (read : items v cs = some row)
    (value : isValue (chunks row) = true) (several : (chunks row).length ≠ 1) :
    ReadsOperand v cs (atomTruth v cs) := by
  have operands := isOperandChunk_of_isValue value
  refine ⟨row, read, fun chunk member => isApart_of_isOperandChunk (operands chunk member), ?_⟩
  have whole : (chunks row).splitOnP isComparison = [chunks row] :=
    List.splitOnP_eq_singleton fun chunk member =>
      isComparison_eq_false_of_isOperandChunk (operands chunk member)
  have atom : isAtom (chunks row) = true := by
    rw [isAtom, whole]
    exact value
  rw [operandTruth, if_pos atom, intercalate_chunks, rowText_items read]
  intro chunk single
  exact several (by rw [single]; rfl)

theorem readsOperand_new {cs : List Char} {row : List Item} (read : items v cs = some row)
    (tight : isTight row = true) :
    ReadsOperand v ("new ".toList ++ cs) (atomTruth v ("new ".toList ++ cs)) := by
  have split := chunks_new tight
  refine readsOperand_value (items_new read) ?_ ?_
  · rw [split]
    simp [isValue, isWord_eq_true_iff, tight]
  · rw [split]
    exact Nat.succ_succ_ne_one 0

/-- Two values that are compared are an atom. -/
theorem readsOperand_comparison {left right sign : List Char} (hl : ReadsValue v left)
    (hr : ReadsValue v right) (member : sign ∈ comparisonSigns) :
    ReadsOperand v (left ++ ' ' :: sign ++ ' ' :: right)
      (atomTruth v (left ++ ' ' :: sign ++ ' ' :: right)) := by
  obtain ⟨row, read, value⟩ := hl
  obtain ⟨row', read', value'⟩ := hr
  have operands := isOperandChunk_of_isValue value
  have operands' := isOperandChunk_of_isValue value'
  have facts : ∀ sign ∈ comparisonSigns, (' ' :: sign).all isPlain = true ∧
      (∀ item ∈ sign.map Item.code, item.isBlank = false) ∧
      isComparison (sign.map Item.code) = true ∧ isApart (sign.map Item.code) = true := by
    decide
  obtain ⟨plain, noBlank, compares, apart⟩ := facts sign member
  have blank : items v [' '] = some [.code ' '] := items_of_isPlain (by decide)
  have whole : items v (left ++ ' ' :: sign ++ ' ' :: right) =
      some (row ++ .code ' ' :: sign.map Item.code ++ .code ' ' :: row') :=
    items_append (items_append read (items_of_isPlain plain)) (items_append blank read')
  have split : chunks (row ++ .code ' ' :: sign.map Item.code ++ .code ' ' :: row') =
      chunks row ++ sign.map Item.code :: chunks row' := by
    rw [List.append_assoc, List.cons_append, chunks_append, chunks_append, chunks_of_noBlank noBlank]
    rfl
  refine ⟨_, whole, ?_, ?_⟩
  · rw [split, List.forall_mem_append, List.forall_mem_cons]
    exact ⟨fun chunk inside => isApart_of_isOperandChunk (operands chunk inside), apart,
      fun chunk inside => isApart_of_isOperandChunk (operands' chunk inside)⟩
  · have compared : (chunks row ++ sign.map Item.code :: chunks row').splitOnP isComparison =
        [chunks row, chunks row'] := by
      rw [List.splitOnP_append_cons_of_forall_mem _ _ compares, List.splitOnP_eq_singleton]
      · exact fun chunk inside => isComparison_eq_false_of_isOperandChunk (operands' chunk inside)
      · exact fun chunk inside => isComparison_eq_false_of_isOperandChunk (operands chunk inside)
    have atom : isAtom (chunks row ++ sign.map Item.code :: chunks row') = true := by
      simp [isAtom, compared, value, value']
    rw [← rowText_items whole, ← intercalate_chunks, split, operandTruth, if_pos atom]
    -- the left value has at least one chunk, so that there is more than one
    intro chunk single
    have long := congrArg List.length single
    have nonempty := List.length_pos_iff.mpr (chunks_ne_nil row)
    simp only [List.length_append, List.length_cons, List.length_nil] at long
    omega

/-! ### Groups -/

/-- Chunks that are an operand of a group, with its truth. -/
def IsMember (v : List Char → Bool) (cs : List (List Item)) (value : Bool) : Prop :=
  (∀ chunk ∈ cs, isApart chunk = true) ∧ operandTruth v cs = some value

/-- A group is cut into its operands at its signs. -/
theorem splitOnP_intercalate {p : List Item → Bool} {sign : List Item} (h : p sign = true)
    {groups : List (List (List Item))} (nonempty : groups ≠ [])
    (free : ∀ group ∈ groups, ∀ chunk ∈ group, p chunk = false) :
    ([sign].intercalate groups).splitOnP p = groups := by
  induction groups with
  | nil => exact absurd rfl nonempty
  | cons group groups ih =>
    rw [List.forall_mem_cons] at free
    cases groups with
    | nil => rw [List.intercalate_singleton, List.splitOnP_eq_singleton free.1]
    | cons second others =>
      rw [List.intercalate_cons_cons, List.append_assoc, List.singleton_append,
        List.splitOnP_append_cons_of_forall_mem free.1 _ h, ih (List.cons_ne_nil _ _) free.2]

/-- What holds of the operands of a group and of the sign between them holds of all of the group. -/
theorem forall_mem_intercalate {p : List Item → Prop} {sign : List Item} (h : p sign)
    {groups : List (List (List Item))} (inside : ∀ group ∈ groups, ∀ chunk ∈ group, p chunk) :
    ∀ chunk ∈ [sign].intercalate groups, p chunk := by
  induction groups with
  | nil => exact fun chunk member => absurd member List.not_mem_nil
  | cons group groups ih =>
    rw [List.forall_mem_cons] at inside
    cases groups with
    | nil =>
      rw [List.intercalate_singleton]
      exact inside.1
    | cons second others =>
      rw [List.intercalate_cons_cons, List.append_assoc, List.forall_mem_append,
        List.forall_mem_append, List.forall_mem_singleton]
      exact ⟨inside.1, h, ih inside.2⟩

/-- The chunks of operands between signs are the chunks of the operands between signs. -/
theorem items_intercalate (word : List Char)
    (plain : (' ' :: word ++ [' ']).all isPlain = true)
    (noBlank : ∀ item ∈ word.map Item.code, item.isBlank = false)
    {texts : List (List Char)} {values : List Bool} (nonempty : texts ≠ [])
    (h : List.Forall₂ (ReadsOperand v) texts values) :
    ∃ row groups, items v ((' ' :: word ++ [' ']).intercalate texts) = some row ∧
      chunks row = [word.map Item.code].intercalate groups ∧ groups ≠ [] ∧
      List.Forall₂ (IsMember v) groups values := by
  induction h with
  | nil => exact absurd rfl nonempty
  | cons head tail ih =>
    obtain ⟨row, read, member⟩ := head
    cases tail with
    | nil =>
      -- the last operand has no sign behind it
      refine ⟨row, [chunks row], ?_, ?_, List.cons_ne_nil _ _, .cons member .nil⟩
      · rw [List.intercalate_singleton, read]
      · rw [List.intercalate_singleton]
    | cons second others =>
      obtain ⟨more, groups, read', split, several, members⟩ := ih (List.cons_ne_nil _ _)
      have sign := items_of_isPlain (v := v) plain
      refine ⟨row ++ (' ' :: word ++ [' ']).map Item.code ++ more, chunks row :: groups, ?_, ?_,
        List.cons_ne_nil _ _, .cons member members⟩
      · rw [List.intercalate_cons_cons]
        exact items_append (items_append read sign) read'
      · rw [List.intercalate_cons_of_ne_nil several, ← split, List.map_append, List.map_cons,
          List.append_assoc, List.append_assoc, List.map_singleton, List.singleton_append,
          List.cons_append, chunks_append, chunks_append, chunks_of_noBlank noBlank,
          List.append_assoc]

theorem map_operandTruth {groups : List (List (List Item))} {values : List Bool}
    (h : List.Forall₂ (IsMember v) groups values) :
    groups.map (operandTruth v) = values.map some := by
  induction h with
  | nil => rfl
  | cons head _ ih => rw [List.map_cons, List.map_cons, head.2, ih]

theorem map_conjunctTruth {groups : List (List (List Item))} {values : List Bool}
    (h : List.Forall₂ (IsMember v) groups values) :
    groups.map (conjunctTruth v) = values.map some := by
  induction h with
  | nil => rfl
  | cons head _ ih =>
    rw [List.map_cons, List.map_cons, conjunctTruth_of_isApart head.1 head.2, ih]

/-- No sign of a group stands in an operand of one. -/
theorem not_sign_of_isMember {groups : List (List (List Item))} {values : List Bool}
    (h : List.Forall₂ (IsMember v) groups values) : ∀ group ∈ groups, ∀ chunk ∈ group,
      isWord ['&', '&'] chunk = false ∧ isWord ['|', '|'] chunk = false := by
  induction h with
  | nil => exact fun group member => absurd member List.not_mem_nil
  | cons head _ ih =>
    refine List.forall_mem_cons.mpr ⟨fun chunk inside => ?_, ih⟩
    have apart := head.1 chunk inside
    rwa [isApart, Bool.and_eq_true, Bool.not_eq_true', Bool.not_eq_true'] at apart

/-- Operands joined by the sign of conjunction are true if all of them are. -/
theorem readsRow_conjunction {texts : List (List Char)} {values : List Bool} (nonempty : texts ≠ [])
    (h : List.Forall₂ (ReadsOperand v) texts values) :
    ReadsRow v (" && ".toList.intercalate texts) (values.all fun t => t) := by
  obtain ⟨row, groups, read, split, several, members⟩ :=
    items_intercalate ['&', '&'] (by decide) (by decide) nonempty h
  have apart := not_sign_of_isMember members
  have cut : (chunks row).splitOnP (isWord ['&', '&']) = groups := by
    rw [split]
    exact splitOnP_intercalate rfl several fun group member chunk inside =>
      (apart group member chunk inside).1
  -- the other sign does not occur, so that the group is one conjunction
  have whole : (chunks row).splitOnP (isWord ['|', '|']) = [chunks row] := by
    have own : isWord ['|', '|'] (['&', '&'].map Item.code) = false := rfl
    rw [split]
    refine List.splitOnP_eq_singleton (forall_mem_intercalate own ?_)
    exact fun group member chunk inside => (apart group member chunk inside).2
  refine ⟨row, read, ?_⟩
  rw [rowTruth, whole, List.map_singleton, conjunctTruth, cut, map_operandTruth members,
    conjunctionTruth_some]
  simpa using disjunctionTruth_some [values.all fun t => t]

/-- Operands joined by the sign of disjunction are true if one of them is. -/
theorem readsRow_disjunction {texts : List (List Char)} {values : List Bool} (nonempty : texts ≠ [])
    (h : List.Forall₂ (ReadsOperand v) texts values) :
    ReadsRow v (" || ".toList.intercalate texts) (values.any fun t => t) := by
  obtain ⟨row, groups, read, split, several, members⟩ :=
    items_intercalate ['|', '|'] (by decide) (by decide) nonempty h
  have apart := not_sign_of_isMember members
  have cut : (chunks row).splitOnP (isWord ['|', '|']) = groups := by
    rw [split]
    exact splitOnP_intercalate rfl several fun group member chunk inside =>
      (apart group member chunk inside).2
  refine ⟨row, read, ?_⟩
  rw [rowTruth, cut, map_conjunctTruth members, disjunctionTruth_some]

-- only `a` is true: parentheses change the truth of the row, and an open one makes it no condition
example : truth (fun text => text = ['a']) "a || b && !a" = some true := by decide
example : truth (fun text => text = ['a']) "(a || b) && !a" = some false := by decide
example : truth (fun text => text = ['a']) "a || b && !(a" = none := by decide

end TaskFilter.Script
