import Mathlib.Algebra.GroupWithZero.Nat
import Mathlib.Data.List.Basic
import TaskFilter.Text.Styled

/-!
# Texts made of lines

A text that is printed line by line has a line feed at the end of each line and nowhere else. A text that is
meant to be a line and has a line feed in it is read as several.

## Layers

- **Lines**: the text of a row of lines (`ofLines`), and the lines that a text consists of (`ConsistsOf`).
- **Reading**: the lines of a text are told by cutting it at its line feeds (`ConsistsOf.unique`), and there
  are as many of them (`ConsistsOf.length_eq_count`).
- **Characters**: those of padded, of joined and of fixed texts (`count_padded`, `mem_intercalate_iff`,
  `not_mem_of_printable`).
-/

namespace TaskFilter.Text

/-! ## Lines -/

/-- The text of lines, each ended by a line feed. -/
def ofLines (lines : List String) : String :=
  String.join (lines.map (· ++ "\n"))

/-- The text is made of just these lines: each is ended by a line feed, and none has one in it. -/
structure ConsistsOf (text : String) (lines : List String) : Prop where
  ended : text = ofLines lines
  unbroken : ∀ line ∈ lines, '\n' ∉ line.toList

theorem toList_ofLines (lines : List String) :
    (ofLines lines).toList = lines.flatMap fun line => line.toList ++ ['\n'] := by
  simp [ofLines, String.toList_join, List.flatMap_map]

theorem ofLines_cons (line : String) (rest : List String) :
    ofLines (line :: rest) = line ++ "\n" ++ ofLines rest := by
  apply String.toList_inj.mp
  simp [toList_ofLines]

theorem ofLines_append (lines others : List String) :
    ofLines (lines ++ others) = ofLines lines ++ ofLines others := by
  apply String.toList_inj.mp
  simp [toList_ofLines]

/-! ## Reading lines -/

variable {text : String} {lines others : List String}

/-- Cut at its line feeds, a text has its lines in front, and nothing behind the last line feed. -/
theorem ConsistsOf.splitOn_eq (h : ConsistsOf text lines) :
    text.toList.splitOn '\n' = lines.map String.toList ++ [[]] := by
  obtain ⟨rfl, unbroken⟩ := h
  induction lines with
  | nil => rfl
  | cons line rest ih =>
    rw [List.forall_mem_cons] at unbroken
    have split : (ofLines (line :: rest)).toList = line.toList ++ '\n' :: (ofLines rest).toList := by
      simp [ofLines_cons]
    rw [split, List.splitOn_append_cons_self_of_not_mem unbroken.1, ih unbroken.2]
    rfl

/-- A text does not consist of lines in two ways. -/
theorem ConsistsOf.unique (h : ConsistsOf text lines) (h' : ConsistsOf text others) : lines = others := by
  have same := h.splitOn_eq.symm.trans h'.splitOn_eq
  have chars := List.append_cancel_right same
  exact List.map_injective_iff.mpr (fun _ _ => String.toList_inj.mp) chars

/-- A text that is written as a line ends with a line feed, beside those that it has. -/
theorem count_ofLines (lines : List String) :
    (ofLines lines).toList.count '\n' = (lines.map fun line => line.toList.count '\n' + 1).sum := by
  induction lines with
  | nil => rfl
  | cons line rest ih =>
    simp only [ofLines_cons, String.toList_append, List.count_append, ih, List.map_cons, List.sum_cons]
    rfl

/-- There are as many lines as line feeds. -/
theorem ConsistsOf.length_eq_count (h : ConsistsOf text lines) :
    lines.length = text.toList.count '\n' := by
  have single : ∀ line ∈ lines, line.toList.count '\n' + 1 = 1 := by
    intro line member
    rw [List.count_eq_zero_of_not_mem (h.unbroken line member)]
  rw [h.ended, count_ofLines, List.map_congr_left single]
  simp

/-- What is meant to be one line consists of one at least. -/
theorem exists_lines_of_line (chars : List Char) :
    ∃ first rest, ConsistsOf (String.ofList chars ++ "\n") (first :: rest) := by
  induction chars with
  | nil => exact ⟨"", [], rfl, by simp⟩
  | cons c chars ih =>
    obtain ⟨first, rest, ended, unbroken⟩ := ih
    have text : String.ofList (c :: chars) ++ "\n" =
        String.ofList [c] ++ (String.ofList chars ++ "\n") := by
      apply String.toList_inj.mp
      simp
    by_cases feed : c = '\n'
    · -- a line feed in front ends an empty line of its own
      subst feed
      refine ⟨"", first :: rest, ?_, ?_⟩
      · rw [text, ended, ofLines_cons "" (first :: rest)]
        rfl
      · simpa using unbroken
    · refine ⟨String.ofList [c] ++ first, rest, ?_, ?_⟩
      · rw [text, ended, ofLines_cons, ofLines_cons]
        simp only [String.append_assoc]
      · simpa [Ne.symm feed] using unbroken

/-- Whatever texts are written as lines, what is written consists of lines. -/
theorem exists_consistsOf_ofLines (lines : List String) : ∃ others, ConsistsOf (ofLines lines) others := by
  induction lines with
  | nil => exact ⟨[], rfl, by simp⟩
  | cons line rest ih =>
    obtain ⟨first, more, here⟩ := exists_lines_of_line line.toList
    obtain ⟨later, there⟩ := ih
    rw [String.ofList_toList] at here
    refine ⟨first :: more ++ later, ?_, ?_⟩
    · rw [ofLines_cons, here.ended, there.ended, ofLines_append]
    · intro l listed
      rcases List.mem_append.mp listed with own | other
      · exact here.unbroken l own
      · exact there.unbroken l other

/-! ## Characters -/

variable {c : Char}

theorem count_padded (h : c ≠ ' ') (width : Nat) (text : String) :
    (padded width text).toList.count c = text.toList.count c := by
  simp [padded, List.count_replicate, Ne.symm h]

/-- But for blanks, a padded text has the characters of the text. -/
theorem mem_padded_iff (h : c ≠ ' ') (width : Nat) (text : String) :
    c ∈ (padded width text).toList ↔ c ∈ text.toList := by
  rw [← List.count_pos_iff, count_padded h, List.count_pos_iff]

/-- A joined text has the characters of its parts, but for those that it is joined with. -/
theorem mem_intercalate_iff {mark : String} (h : c ∉ mark.toList) (parts : List String) :
    c ∈ (mark.intercalate parts).toList ↔ ∃ part ∈ parts, c ∈ part.toList := by
  induction parts with
  | nil => simp
  | cons part rest ih =>
    cases rest with
    | nil => simp
    | cons next rest =>
      rw [String.intercalate_cons_cons, String.toList_append, String.toList_append]
      simp only [List.mem_append, ih, h, or_false, List.exists_mem_cons_iff]

/-- A text of printable characters has no control character. -/
theorem not_mem_of_printable (control : c.toNat < 0x20)
    (printable : (text.toList.all fun c => 0x20 ≤ c.toNat) = true) : c ∉ text.toList := by
  intro listed
  have shown := of_decide_eq_true (List.all_eq_true.mp printable c listed)
  omega

theorem not_mem_toDigits (control : c.toNat < 0x20) (n : Nat) : c ∉ Nat.toDigits 10 n := by
  intro listed
  have digit := Nat.isDigit_of_mem_toDigits (by decide) (by decide) listed
  simp only [Char.isDigit, Bool.and_eq_true, decide_eq_true_eq] at digit
  have least : 48 ≤ c.toNat := digit.1
  omega

end TaskFilter.Text
