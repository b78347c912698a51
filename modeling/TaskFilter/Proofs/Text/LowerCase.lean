import Mathlib.Tactic.SplitIfs
import TaskFilter.Text.LowerCase
import TaskFilter.Text.Segments

/-!
# Lower case, character by character

Separators and line ends are no letters: lower case does not change them, and it makes no letter into one of
them. So a text can be cut at such a character before its case is lowered or afterwards, if its letters are
lowered one by one, which they are but for the capital sigma.

## Layers

- **Characters without case**: such a character stays where it is (`mem_lower_iff`), and a text is cut there
  into parts that can be lowered by themselves (`splitOn_flatMap_lowerChar`).
- **Texts without sigma**: the last segment of a path (`lastSegment_lower`), and texts of basic characters
  (`lower_of_basic`).
-/

namespace TaskFilter.Text

/-! ## Characters without case -/

/-- The character is none of those that lower case changes or ends up with. -/
def isCaseless (c : Char) : Bool :=
  !(['İ', 'i', '\u0307', 'Σ', 'σ', 'ς', '\x00'].contains c) &&
    lowerRuns.all fun r =>
      !(decide (r.first ≤ c.toNat) && decide (c.toNat ≤ r.last)) &&
        !(decide (r.first + r.offset ≤ c.toNat) && decide ((c.toNat : Int) ≤ r.last + r.offset))

theorem splitOn_append_of_not_mem {c : Char} {front : List Char} (h : c ∉ front) (rest : List Char) :
    (front ++ rest).splitOn c = (rest.splitOn c).modifyHead (front ++ ·) := by
  induction front with
  | nil =>
    show rest.splitOn c = _
    cases rest.splitOn c <;> rfl
  | cons d front ih =>
    rw [List.mem_cons, not_or] at h
    rw [List.cons_append, List.splitOn_cons_eq_if_modifyHead, if_neg (by simpa using Ne.symm h.1),
      ih h.2, List.modifyHead_modifyHead]
    rfl

section

variable {c d : Char} (h : isCaseless c = true)

include h

theorem not_mem_special : c ∉ ['İ', 'i', '\u0307', 'Σ', 'σ', 'ς', '\x00'] := by
  simp only [isCaseless, Bool.and_eq_true, Bool.not_eq_true', List.contains_eq_mem,
    decide_eq_false_iff_not] at h
  exact h.1

theorem outside_run {r : CaseRun} (listed : r ∈ lowerRuns) :
    ¬ (r.first ≤ c.toNat ∧ c.toNat ≤ r.last) ∧
      ¬ (r.first + r.offset ≤ c.toNat ∧ (c.toNat : Int) ≤ r.last + r.offset) := by
  simp only [isCaseless, Bool.and_eq_true, List.all_eq_true] at h
  have apart := h.2 r listed
  simp only [Bool.not_eq_true', Bool.and_eq_false_iff, decide_eq_false_iff_not] at apart
  exact ⟨fun inside => by omega, fun inside => by omega⟩

theorem lowerChar_of_isCaseless : lowerChar c = [c] := by
  have special := not_mem_special h
  have none : lowerRuns.find? (·.contains c) = none := by
    rw [List.find?_eq_none]
    intro r listed inside
    simp only [CaseRun.contains, Bool.and_eq_true, decide_eq_true_eq] at inside
    exact (outside_run h listed).1 inside.1
  simp only [List.mem_cons, not_or] at special
  rw [lowerChar, if_neg special.1, none]

/-- Lower case makes no other character into a character without case. -/
theorem not_mem_lowerChar (other : d ≠ c) : c ∉ lowerChar d := by
  have special := not_mem_special h
  simp only [List.mem_cons, not_or, List.not_mem_nil, not_false_eq_true, and_true] at special
  obtain ⟨-, i, dot, -, -, -, null⟩ := special
  unfold lowerChar
  split_ifs
  · simp [i, dot]
  · split
    · next r found =>
      -- the character that a run leads to lies among those that the run ends up with
      have listed := List.mem_of_find?_eq_some found
      have inside := List.find?_some found
      simp only [CaseRun.contains, Bool.and_eq_true, decide_eq_true_eq] at inside
      have apart := (outside_run h listed).2
      rw [List.mem_singleton]
      intro same
      by_cases valid : (d.toNat + r.offset).toNat.isValidChar
      · have code : c.toNat = (d.toNat + r.offset).toNat := by
          rw [same, Char.ofNat, dif_pos valid]
          rfl
        have positive : c.toNat ≠ 0 := fun zero => null (Char.toNat_inj.mp zero)
        omega
      · rw [Char.ofNat, dif_neg valid] at same
        exact null same
    · simpa using Ne.symm other

/-- A text is cut at such a character into the same parts before its case is lowered and afterwards. -/
theorem splitOn_flatMap_lowerChar (cs : List Char) :
    (cs.flatMap lowerChar).splitOn c = (cs.splitOn c).map (·.flatMap lowerChar) := by
  induction cs with
  | nil => rfl
  | cons d cs ih =>
    rw [List.flatMap_cons, List.splitOn_cons_eq_if_modifyHead]
    by_cases same : d = c
    · subst same
      rw [lowerChar_of_isCaseless h, List.singleton_append, List.splitOn_cons_eq_if_modifyHead,
        if_pos (beq_self_eq_true d), if_pos (beq_self_eq_true d), ih]
      rfl
    · rw [if_neg (by simpa using same), splitOn_append_of_not_mem (not_mem_lowerChar h same), ih]
      -- the letters stand at the head of the first part
      cases cs.splitOn c <;> rfl

theorem mem_lowerFrom_iff (before cs : List Char) : c ∈ lowerFrom before cs ↔ c ∈ cs := by
  have special := not_mem_special h
  simp only [List.mem_cons, not_or, List.not_mem_nil, not_false_eq_true, and_true] at special
  obtain ⟨-, -, -, sigma, small, final, -⟩ := special
  induction cs generalizing before with
  | nil => rfl
  | cons d cs ih =>
    rw [lowerFrom, List.mem_append, List.mem_cons]
    refine or_congr ?_ (ih (d :: before))
    by_cases capital : d = 'Σ'
    · -- a sigma becomes one of two small ones
      subst capital
      simp only [↓reduceIte, List.mem_singleton, sigma, iff_false, lowerSigma]
      split <;> assumption
    · rw [if_neg capital]
      by_cases same : d = c
      · subst same
        rw [lowerChar_of_isCaseless h]
        simp
      · simp [not_mem_lowerChar h same, Ne.symm same]

/-- Lower case keeps a character without case where it is, and adds none. -/
theorem mem_lower_iff (s : String) : c ∈ (lower s).toList ↔ c ∈ s.toList := by
  rw [lower, String.toList_ofList, mem_lowerFrom_iff h]

end

/-! ## Empty texts -/

theorem lowerChar_ne_nil (c : Char) : lowerChar c ≠ [] := by
  unfold lowerChar
  split_ifs
  · simp
  · split <;> simp

/-- Only the empty text becomes empty in lower case. -/
theorem eq_nil_of_lower_eq_nil {s : String} (h : (lower s).toList = []) : s.toList = [] := by
  rw [lower, String.toList_ofList] at h
  cases cs : s.toList with
  | nil => rfl
  | cons c rest =>
    rw [cs, lowerFrom, List.append_eq_nil_iff] at h
    obtain ⟨first, -⟩ := h
    split at first
    · cases first
    · exact absurd first (lowerChar_ne_nil c)

/-! ## Texts without sigma -/

/-- A capital sigma becomes one of the two small ones. -/
theorem exists_mem_lower_of_sigma {s : String} (h : 'Σ' ∈ s.toList) :
    'σ' ∈ (lower s).toList ∨ 'ς' ∈ (lower s).toList := by
  have found : ∀ before cs, 'Σ' ∈ cs → 'σ' ∈ lowerFrom before cs ∨ 'ς' ∈ lowerFrom before cs := by
    intro before cs
    induction cs generalizing before with
    | nil => exact fun member => absurd member List.not_mem_nil
    | cons c cs ih =>
      intro member
      rw [lowerFrom, List.mem_append, List.mem_append]
      by_cases capital : c = 'Σ'
      · subst capital
        simp only [↓reduceIte, List.mem_singleton, lowerSigma]
        split <;> simp
      · rcases List.mem_cons.mp member with same | later
        · exact absurd same.symm capital
        · exact (ih (c :: before) later).imp .inr .inr
  rw [lower, String.toList_ofList]
  exact found [] s.toList h

theorem lower_of_not_mem {s : String} (h : 'Σ' ∉ s.toList) :
    lower s = String.ofList (s.toList.flatMap lowerChar) := by
  rw [lower, lowerFrom_eq_flatMap _ _ h]

theorem subset_of_mem_splitOn {c : Char} {part cs : List Char} (h : part ∈ cs.splitOn c) : part ⊆ cs := by
  induction cs generalizing part with
  | nil =>
    rw [List.mem_singleton.mp h]
    exact List.Subset.refl _
  | cons d cs ih =>
    rw [List.splitOn_cons_eq_if_modifyHead] at h
    split at h
    · rcases List.mem_cons.mp h with rfl | later
      · exact List.nil_subset _
      · exact List.subset_cons_of_subset d (ih later)
    · -- the first part has one character more
      cases parts : cs.splitOn c with
      | nil => exact absurd parts (List.splitOn_ne_nil c cs)
      | cons first others =>
        rw [parts, List.modifyHead_cons] at h
        rcases List.mem_cons.mp h with rfl | later
        · exact List.cons_subset_cons d (ih (parts ▸ List.mem_cons_self))
        · exact List.subset_cons_of_subset d (ih (parts ▸ List.mem_cons_of_mem first later))

/-- A path has a last segment. -/
theorem exists_lastSegment (path : String) :
    ∃ last, (path.toList.splitOn '.').getLast? = some last ∧ lastSegment path = String.ofList last := by
  have ends := List.getLast?_eq_some_getLast (List.splitOn_ne_nil '.' path.toList)
  refine ⟨_, ends, ?_⟩
  rw [lastSegment, segments, List.getLast?_map, ends]
  rfl

/-- Without sigmas, the last segment is lowered by itself. -/
theorem lastSegment_lower {path : String} (h : 'Σ' ∉ path.toList) :
    lastSegment (lower path) = lower (lastSegment path) := by
  obtain ⟨last, ends, segment⟩ := exists_lastSegment path
  obtain ⟨last', ends', segment'⟩ := exists_lastSegment (lower path)
  have dot : isCaseless '.' = true := by decide +kernel
  have none : 'Σ' ∉ (String.ofList last).toList := by
    rw [String.toList_ofList]
    exact fun member => h (subset_of_mem_splitOn (List.mem_of_getLast? ends) member)
  rw [lower_of_not_mem h, String.toList_ofList, splitOn_flatMap_lowerChar dot, List.getLast?_map, ends,
    Option.map_some] at ends'
  rw [segment', segment, lower_of_not_mem none, String.toList_ofList, ← Option.some.inj ends']

/-- The lower-case form of a basic character. -/
def lowerBasic (c : Char) : Char :=
  if 0x41 ≤ c.toNat ∧ c.toNat ≤ 0x5a then Char.ofNat (c.toNat + 32) else c

theorem lowerChar_of_basic {c : Char} (h : c.toNat < 0x80) : lowerChar c = [lowerBasic c] := by
  have noDot : c ≠ 'İ' := by
    rintro rfl
    exact absurd h (by decide)
  rw [lowerChar, if_neg noDot, lowerBasic]
  -- of the runs only the first has basic characters
  have later : (lowerRuns.tail.all fun r => 0x80 ≤ r.first) = true := by decide +kernel
  have nothing : lowerRuns.tail.find? (·.contains c) = none := by
    rw [List.find?_eq_none]
    intro r listed inside
    have far := of_decide_eq_true (List.all_eq_true.mp later r listed)
    simp only [CaseRun.contains, Bool.and_eq_true, decide_eq_true_eq] at inside
    omega
  have first : lowerRuns = ⟨0x41, 0x5a, 1, 32⟩ :: lowerRuns.tail := rfl
  rw [first, List.find?_cons, nothing]
  by_cases capital : 0x41 ≤ c.toNat ∧ c.toNat ≤ 0x5a
  · have inside : CaseRun.contains ⟨0x41, 0x5a, 1, 32⟩ c = true := by
      simp only [CaseRun.contains, Bool.and_eq_true, decide_eq_true_eq, beq_iff_eq]
      exact ⟨capital, Nat.mod_one _⟩
    rw [inside, if_pos capital]
    rfl
  · have outside : CaseRun.contains ⟨0x41, 0x5a, 1, 32⟩ c = false := by
      rw [← Bool.not_eq_true]
      intro inside
      simp only [CaseRun.contains, Bool.and_eq_true, decide_eq_true_eq] at inside
      exact capital inside.1
    rw [outside, if_neg capital]

theorem lower_of_basic {s : String} (h : ∀ c ∈ s.toList, c.toNat < 0x80) :
    lower s = String.ofList (s.toList.map lowerBasic) := by
  have noSigma : 'Σ' ∉ s.toList := fun member => absurd (h _ member) (by decide)
  have single : ∀ cs : List Char, (∀ c ∈ cs, c.toNat < 0x80) → cs.flatMap lowerChar = cs.map lowerBasic := by
    intro cs basic
    induction cs with
    | nil => rfl
    | cons c cs ih =>
      rw [List.forall_mem_cons] at basic
      rw [List.flatMap_cons, lowerChar_of_basic basic.1, ih basic.2]
      rfl
  rw [lower_of_not_mem noSigma, single s.toList h]

end TaskFilter.Text
