import Mathlib.Data.List.Forall2
import Mathlib.Data.List.TakeWhile
import TaskFilter.Record.Rules

/-!
# Spellings of rules

A rule has several names, and each of them can be written in any case with white space around it. The
relation `SpelledRule` says what those texts are, and `ofText?_eq_some_iff` of either kind of rule that no
other text is recognised.
-/

namespace TaskFilter

namespace Text

/-- A letter is its capital or the small letter of it. -/
theorem eq_toUpper_or (c : Char) : c = c.toUpper ∨ c = c.toUpper.toLower := by
  by_cases basic : c.toNat < 128
  -- beyond the basic characters, every character is its own capital
  · have each : ∀ n < 128, Char.ofNat n = (Char.ofNat n).toUpper ∨
        Char.ofNat n = (Char.ofNat n).toUpper.toLower := by
      decide
    have own := each c.toNat basic
    rwa [Char.ofNat_toNat] at own
  · refine .inl ?_
    have beyond : ¬('a'.val ≤ c.val ∧ c.val ≤ 'z'.val) := by
      rintro ⟨-, upper⟩
      have small : c.toNat ≤ 122 := upper
      omega
    have form : c.toUpper = if h : 'a'.val ≤ c.val ∧ c.val ≤ 'z'.val then _ else c := rfl
    rw [form, dif_neg beyond]

theorem skipBlanks_append {blanks rest : List Char} (h : ∀ c ∈ blanks, isBlank c = true)
    (first : ∀ c ∈ rest.head?, isBlank c = false) : skipBlanks (blanks ++ rest) = rest := by
  rw [skipBlanks, List.dropWhile_append_of_pos h]
  cases rest with
  | nil => rfl
  | cons c rest => exact List.dropWhile_cons_of_neg (by simp [first c rfl])

/-- Trimming leaves what stands between white space, if it neither starts nor ends with a blank. -/
theorem trim_of_ends {text : String} {front word back : List Char}
    (spelled : text.toList = front ++ (word ++ back)) (hf : ∀ c ∈ front, isBlank c = true)
    (hb : ∀ c ∈ back, isBlank c = true) (nonempty : word ≠ [])
    (first : ∀ c ∈ word.head?, isBlank c = false) (last : ∀ c ∈ word.getLast?, isBlank c = false) :
    trim text = String.ofList word := by
  have start : ∀ c ∈ (word ++ back).head?, isBlank c = false := by
    rwa [List.head?_append_of_ne_nil _ nonempty]
  have finish : ∀ c ∈ word.reverse.head?, isBlank c = false := by
    rwa [List.head?_reverse]
  rw [trim, spelled, skipBlanks_append hf start, List.reverse_append,
    skipBlanks_append (fun c listed => hb c (List.mem_reverse.mp listed)) finish, List.reverse_reverse]

/-- A word without blanks in it is such a text. -/
theorem trim_eq {text : String} {front word back : List Char}
    (spelled : text.toList = front ++ (word ++ back)) (hf : ∀ c ∈ front, isBlank c = true)
    (hb : ∀ c ∈ back, isBlank c = true) (nonempty : word ≠ [])
    (inside : ∀ c ∈ word, isBlank c = false) : trim text = String.ofList word :=
  trim_of_ends spelled hf hb nonempty (fun c first => inside c (List.mem_of_mem_head? first))
    fun c last => inside c (List.mem_of_mem_getLast? last)

/-- A text is what is left of it by trimming, between white space. -/
theorem exists_eq_trim (text : String) : ∃ front back,
    text.toList = front ++ ((trim text).toList ++ back) ∧ (∀ c ∈ front, isBlank c = true) ∧
      ∀ c ∈ back, isBlank c = true := by
  refine ⟨text.toList.takeWhile isBlank,
    ((skipBlanks text.toList).reverse.takeWhile isBlank).reverse, ?_, ?_, ?_⟩
  · rw [trim, String.toList_ofList, skipBlanks, skipBlanks, ← List.reverse_append,
      List.takeWhile_append_dropWhile, List.reverse_reverse, List.takeWhile_append_dropWhile]
  · exact fun c listed => List.mem_takeWhile_imp listed
  · exact fun c listed => List.mem_takeWhile_imp (List.mem_reverse.mp listed)

end Text

/-- What can be written for a row of capitals, each of them as a capital or as a small letter. -/
def Cased (letters word : List Char) : Prop :=
  List.Forall₂ (fun letter c => c = letter ∨ c = letter.toLower) letters word

/-- What can be written for a rule: one of its names, each letter a capital or a small one, and white space
around it. -/
inductive SpelledRule {α : Type} (names : List (String × α)) (rule : α) (text : String) : Prop where
  | mk (name : String) (front word back : List Char) (named : names.lookup name = some rule)
      (cased : Cased name.toList word)
      (hf : ∀ c ∈ front, Text.isBlank c = true) (hb : ∀ c ∈ back, Text.isBlank c = true)
      (spelled : text.toList = front ++ (word ++ back))

/-- The character stands for itself among capitals, and no form of it is white space. -/
def isCapital (c : Char) : Bool :=
  c.toUpper == c && c.toLower.toUpper == c && !Text.isBlank c && !Text.isBlank c.toLower

theorem isCapital_iff {c : Char} : isCapital c = true ↔ c.toUpper = c ∧ c.toLower.toUpper = c ∧
    Text.isBlank c = false ∧ Text.isBlank c.toLower = false := by
  simp [isCapital, and_assoc]

/-- Nothing but capitals, and one of them at least. -/
def isCapitals (name : String) : Bool :=
  !name.toList.isEmpty && name.toList.all isCapital

section

variable {letters word : List Char} (cased : Cased letters word)
  (capitals : ∀ c ∈ letters, isCapital c = true)

include cased capitals

theorem map_toUpper_of_cased : word.map Char.toUpper = letters := by
  induction cased with
  | nil => rfl
  | cons first _ ih =>
    obtain ⟨own, others⟩ := List.forall_mem_cons.mp capitals
    rw [List.map_cons, ih others]
    rw [isCapital_iff] at own
    rcases first with rfl | rfl
    · rw [own.1]
    · rw [own.2.1]

theorem isBlank_of_cased : ∀ c ∈ word, Text.isBlank c = false := by
  induction cased with
  | nil => exact fun _ listed => absurd listed List.not_mem_nil
  | cons first _ ih =>
    obtain ⟨own, others⟩ := List.forall_mem_cons.mp capitals
    rw [isCapital_iff] at own
    refine List.forall_mem_cons.mpr ⟨?_, ih others⟩
    rcases first with rfl | rfl
    · exact own.2.2.1
    · exact own.2.2.2

end

/-- A text is recognised as a rule if it is one of the rule's spellings. -/
theorem lookup_eq_some_iff_spelledRule {α : Type} {names : List (String × α)}
    (capitals : (names.all fun entry => isCapitals entry.1) = true) {rule : α} {text : String} :
    names.lookup (Text.asciiUpper (Text.trim text)) = some rule ↔ SpelledRule names rule text := by
  constructor
  · intro found
    obtain ⟨front, back, spelled, hf, hb⟩ := Text.exists_eq_trim text
    refine .mk _ front _ back found ?_ hf hb spelled
    rw [Cased, Text.asciiUpper, String.toList_ofList, List.forall₂_map_left_iff, List.forall₂_same]
    exact fun c _ => Text.eq_toUpper_or c
  · rintro ⟨name, front, word, back, named, cased, hf, hb, spelled⟩
    obtain ⟨before, after, own, -⟩ := List.lookup_eq_some_iff.mp named
    have entry := List.all_eq_true.mp capitals (name, rule) (by simp [own])
    rw [isCapitals, Bool.and_eq_true, List.all_eq_true] at entry
    obtain ⟨nonempty, each⟩ := entry
    have filled : word ≠ [] := by
      rintro rfl
      rw [List.forall₂_nil_right_iff.mp cased] at nonempty
      cases nonempty
    rw [Text.trim_eq spelled hf hb filled (isBlank_of_cased cased each), Text.asciiUpper,
      String.toList_ofList, map_toUpper_of_cased cased each, String.ofList_toList]
    exact named

namespace TagRule

theorem ofText?_eq_some_iff {rule : TagRule} {text : String} :
    ofText? text = some rule ↔ SpelledRule names rule text :=
  lookup_eq_some_iff_spelledRule (by decide)

theorem ofText?_name (rule : TagRule) : ofText? rule.name = some rule := by
  cases rule <;> decide

end TagRule

namespace TextRule

theorem ofText?_eq_some_iff {rule : TextRule} {text : String} :
    ofText? text = some rule ↔ SpelledRule names rule text :=
  lookup_eq_some_iff_spelledRule (by decide)

theorem ofText?_name (rule : TextRule) : ofText? rule.name = some rule := by
  cases rule <;> decide

end TextRule

end TaskFilter
