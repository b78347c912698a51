import Mathlib.Data.List.Infix
import Mathlib.Data.List.TakeWhile
import TaskFilter.Text.LowerCase

/-!
# Lower case and substrings

Letter by letter, a part of a text becomes the same whatever stands around it. The one exception is the
capital sigma, which looks for letters on both sides. So the lower case of a term need not occur in the
lower case of a text in which the term occurs.

## Layers

- **Contexts**: of what stands before and behind a part of a text, it only counts whether a letter is met
  there (`lowerWithin_congr`).
- **Settled sigmas**: the sigmas of a term that become the same in every text.
- **Main statement**: `forall_lower_infix_iff_settled`.
-/

namespace TaskFilter.Text

/-! ## Contexts -/

/-- The lower-case form of a part of a text that stands between `before` (the nearest character first) and
`after`. -/
def lowerWithin (before : List Char) : List Char → (after : List Char) → List Char
  | [], _ => []
  | c :: rest, after =>
    (if c = 'Σ' then [lowerSigma before (rest ++ after)] else lowerChar c) ++
      lowerWithin (c :: before) rest after

theorem lowerFrom_append (before part rest : List Char) :
    lowerFrom before (part ++ rest) =
      lowerWithin before part rest ++ lowerFrom (part.reverse ++ before) rest := by
  -- what has been read stands in front of the rest, the nearest character first
  induction part generalizing before with
  | nil => rfl
  | cons c part ih => simp [lowerFrom, lowerWithin, ih]

theorem lowerFrom_eq_lowerWithin (before part : List Char) :
    lowerFrom before part = lowerWithin before part [] := by
  have whole := lowerFrom_append before part []
  simpa [lowerFrom] using whole

theorem lowerWithin_append (before part rest after : List Char) :
    lowerWithin before (part ++ rest) after =
      lowerWithin before part (rest ++ after) ++ lowerWithin (part.reverse ++ before) rest after := by
  induction part generalizing before with
  | nil => rfl
  | cons c part ih => simp [lowerWithin, ih]

theorem lowerWithin_of_not_mem {part : List Char} (before after : List Char) (h : 'Σ' ∉ part) :
    lowerWithin before part after = part.flatMap lowerChar := by
  induction part generalizing before with
  | nil => rfl
  | cons c part ih =>
    rw [List.mem_cons, not_or] at h
    simp [lowerWithin, Ne.symm h.1, ih _ h.2]

/-- The first character that counts is no cased letter. -/
def meetsUncased (cs : List Char) : Bool :=
  match cs.dropWhile caseIgnorableRanges.contains with
  | c :: _ => !casedRanges.contains c
  | [] => false

theorem meetsCased_append (cs after : List Char) :
    meetsCased (cs ++ after) = (meetsCased cs || (!meetsUncased cs && meetsCased after)) := by
  rw [meetsCased, meetsCased, meetsUncased, List.dropWhile_append]
  cases cs.dropWhile caseIgnorableRanges.contains with
  | nil => simp [meetsCased]
  | cons c rest =>
    show casedRanges.contains c = (casedRanges.contains c || (!!casedRanges.contains c && meetsCased after))
    cases casedRanges.contains c <;> rfl

theorem counts_sigma : caseIgnorableRanges.contains 'Σ' = false := by
  decide +kernel

theorem meetsCased_sigma (cs : List Char) : meetsCased ('Σ' :: cs) = true := by
  have cased : casedRanges.contains 'Σ' = true := by decide +kernel
  simp [meetsCased, counts_sigma, cased]

/-- Nothing counts in a row in which no first character counts. -/
theorem not_mem_sigma {cs : List Char} (cased : meetsCased cs = false)
    (uncased : meetsUncased cs = false) : 'Σ' ∉ cs := by
  have none : cs.dropWhile caseIgnorableRanges.contains = [] := by
    unfold meetsCased at cased
    unfold meetsUncased at uncased
    cases left : cs.dropWhile caseIgnorableRanges.contains with
    | nil => rfl
    | cons c rest => simp_all
  intro member
  have ignored := List.dropWhile_eq_nil_iff.mp none _ member
  rw [counts_sigma] at ignored
  cases ignored

/-- Of what stands around a part of a text, it only counts whether a letter is met on either side. -/
theorem lowerWithin_congr {before before' after after' : List Char}
    (front : meetsCased before = meetsCased before') (back : meetsCased after = meetsCased after')
    (part : List Char) : lowerWithin before part after = lowerWithin before' part after' := by
  induction part generalizing before before' with
  | nil => rfl
  | cons c part ih =>
    have next : meetsCased (c :: before) = meetsCased (c :: before') := by
      rw [← List.singleton_append, meetsCased_append, front, ← meetsCased_append]
      rfl
    have sigma : lowerSigma before (part ++ after) = lowerSigma before' (part ++ after') := by
      rw [lowerSigma, lowerSigma, front, meetsCased_append, meetsCased_append, back]
    rw [lowerWithin, lowerWithin, ih next, sigma]

/-! ## Settled sigmas -/

/-- What stands around a capital sigma settles its lower-case form, whatever stands further away: a letter
follows, or something else precedes, or a letter precedes and something else follows. -/
def SettlesSigma (before after : List Char) : Prop :=
  meetsCased after = true ∨ meetsUncased before = true ∨
    (meetsCased before = true ∧ meetsUncased after = true)

/-- The term settles the lower-case forms of its own capital sigmas. -/
def Settled (term : List Char) : Prop :=
  ∀ before after, term = before ++ 'Σ' :: after → SettlesSigma before.reverse after

theorem not_meetsCased_of_meetsUncased {cs : List Char} (h : meetsUncased cs = true) :
    meetsCased cs = false := by
  unfold meetsUncased at h
  unfold meetsCased
  cases left : cs.dropWhile caseIgnorableRanges.contains with
  | nil => rfl
  | cons c rest =>
    rw [left] at h
    simpa using h

theorem lowerSigma_append_of_settlesSigma {before after : List Char} (h : SettlesSigma before after)
    (front back : List Char) :
    lowerSigma (before ++ front) (after ++ back) = lowerSigma before after := by
  rw [lowerSigma, lowerSigma, meetsCased_append, meetsCased_append]
  rcases h with follows | precedes | ⟨precedes, follows⟩
  · simp [follows]
  · simp [precedes, not_meetsCased_of_meetsUncased precedes]
  · simp [precedes, follows]

/-- A settled part becomes the same in every context. -/
theorem lowerWithin_of_settled (front back : List Char) :
    ∀ (part before : List Char),
      (∀ u w, part = u ++ 'Σ' :: w → SettlesSigma (u.reverse ++ before) w) →
        lowerWithin (before ++ front) part back = lowerWithin before part [] := by
  intro part
  -- the context in front grows with every character, and stays settled
  induction part with
  | nil => intros; rfl
  | cons c part ih =>
    intro before settled
    have rest : lowerWithin (c :: before ++ front) part back = lowerWithin (c :: before) part [] := by
      apply ih
      intro u w same
      have own := settled (c :: u) w (by rw [same]; rfl)
      simpa using own
    rw [List.cons_append] at rest
    rw [lowerWithin, lowerWithin, rest, List.append_nil]
    by_cases sigma : c = 'Σ'
    · subst sigma
      have own : SettlesSigma before part := settled [] part rfl
      rw [lowerSigma_append_of_settlesSigma own]
    · rw [if_neg sigma, if_neg sigma]

/-! ## Terms in texts -/

theorem toList_lower (text : String) : (lower text).toList = lowerWithin [] text.toList [] := by
  rw [lower, String.toList_ofList, lowerFrom_eq_lowerWithin]

/-- The lower case of a part, and of the text around it. -/
theorem lowerWithin_three (front part back : List Char) :
    lowerWithin [] (front ++ part ++ back) [] =
      lowerWithin [] front (part ++ back) ++ lowerWithin front.reverse part back ++
        lowerWithin (part.reverse ++ front.reverse) back [] := by
  simp [lowerWithin_append]

theorem infix_of_settled {term : List Char} (settled : Settled term) (front back : List Char) :
    lowerWithin [] term [] <:+: lowerWithin [] (front ++ term ++ back) [] := by
  have same : lowerWithin ([] ++ front.reverse) term back = lowerWithin [] term [] := by
    apply lowerWithin_of_settled
    intro u w split
    simpa using settled u w split
  rw [List.nil_append] at same
  rw [lowerWithin_three, same]
  exact ⟨_, _, rfl⟩

theorem lowerChar_a : lowerChar 'a' = ['a'] := by
  decide +kernel

theorem meetsCased_a : meetsCased ['a'] = true := by
  decide +kernel

/-- A letter behind the term changes a sigma after which nothing counts. The term has one final sigma more
than the text. -/
theorem not_infix_of_open_end {u w : List Char} (precedes : meetsCased u.reverse = true)
    (cased : meetsCased w = false) (uncased : meetsUncased w = false) :
    ¬ lowerWithin [] (u ++ 'Σ' :: w) [] <:+: lowerWithin [] (u ++ 'Σ' :: w ++ ['a']) [] := by
  have front : lowerWithin [] u ('Σ' :: (w ++ ['a'])) = lowerWithin [] u ('Σ' :: w) :=
    lowerWithin_congr rfl (by rw [meetsCased_sigma, meetsCased_sigma]) u
  have none : 'Σ' ∉ w := not_mem_sigma cased uncased
  have alone : lowerSigma u.reverse w = 'ς' := by
    simp [lowerSigma, precedes, cased]
  have followed : lowerSigma u.reverse (w ++ ['a']) = 'σ' := by
    simp [lowerSigma, meetsCased_append, uncased, meetsCased_a]
  have term : lowerWithin [] (u ++ 'Σ' :: w) [] =
      lowerWithin [] u ('Σ' :: w) ++ 'ς' :: w.flatMap lowerChar := by
    simp [lowerWithin_append, lowerWithin, lowerWithin_of_not_mem _ _ none, alone]
  have text : lowerWithin [] (u ++ 'Σ' :: w ++ ['a']) [] =
      lowerWithin [] u ('Σ' :: w) ++ 'σ' :: (w.flatMap lowerChar ++ ['a']) := by
    simp [lowerWithin_append, lowerWithin, front, lowerWithin_of_not_mem _ _ none, followed, lowerChar_a]
  intro inside
  -- a part of a text has no more final sigmas than the text
  have count := inside.sublist.count_le 'ς'
  rw [term, text] at count
  simp only [List.count_append, List.count_cons_self, ne_eq, Char.reduceEq, not_false_eq_true,
    List.count_cons_of_ne, List.count_nil] at count
  omega

/-- A letter before the term changes a sigma before which nothing counts. The term has one sigma that is
not final more than the text. -/
theorem not_infix_of_open_start {u w : List Char} (cased : meetsCased u.reverse = false)
    (uncased : meetsUncased u.reverse = false) (follows : meetsCased w = false) :
    ¬ lowerWithin [] (u ++ 'Σ' :: w) [] <:+: lowerWithin [] ('a' :: (u ++ 'Σ' :: w)) [] := by
  have back : lowerWithin ('Σ' :: (u.reverse ++ ['a'])) w [] = lowerWithin ('Σ' :: u.reverse) w [] :=
    lowerWithin_congr (by rw [meetsCased_sigma, meetsCased_sigma]) rfl w
  have none : 'Σ' ∉ u := by
    have reversed := not_mem_sigma cased uncased
    rwa [List.mem_reverse] at reversed
  have alone : lowerSigma u.reverse w = 'σ' := by
    simp [lowerSigma, cased]
  have preceded : lowerSigma (u.reverse ++ ['a']) w = 'ς' := by
    simp [lowerSigma, meetsCased_append, uncased, meetsCased_a, follows]
  have term : lowerWithin [] (u ++ 'Σ' :: w) [] =
      u.flatMap lowerChar ++ 'σ' :: lowerWithin ('Σ' :: u.reverse) w [] := by
    simp [lowerWithin_append, lowerWithin, lowerWithin_of_not_mem _ _ none, alone]
  have text : lowerWithin [] ('a' :: (u ++ 'Σ' :: w)) [] =
      'a' :: (u.flatMap lowerChar ++ 'ς' :: lowerWithin ('Σ' :: u.reverse) w []) := by
    simp [lowerWithin_append, lowerWithin, back, lowerWithin_of_not_mem _ _ none, preceded, lowerChar_a]
  intro inside
  have count := inside.sublist.count_le 'σ'
  rw [term, text] at count
  simp only [List.count_append, List.count_cons_self, ne_eq, Char.reduceEq, not_false_eq_true,
    List.count_cons_of_ne] at count
  omega

/-- A term that settles its sigmas is found in every text in which it stands, and no other term is. -/
theorem forall_lower_infix_iff_settled (term : String) :
    (∀ text : String, term.toList <:+: text.toList → (lower term).toList <:+: (lower text).toList) ↔
      Settled term.toList := by
  constructor
  · intro found before after split
    rw [toList_lower, split] at found
    -- the term is looked for in front of a letter, and behind one
    have behind := found (String.ofList (before ++ 'Σ' :: after ++ ['a']))
    have ahead := found (String.ofList ('a' :: (before ++ 'Σ' :: after)))
    rw [toList_lower, String.toList_ofList] at behind ahead
    by_contra unsettled
    simp only [SettlesSigma, not_or, not_and, Bool.not_eq_true] at unsettled
    obtain ⟨follows, precedes, between⟩ := unsettled
    cases cased : meetsCased before.reverse with
    | true => exact not_infix_of_open_end cased follows (between cased) (behind ⟨[], ['a'], by simp⟩)
    | false => exact not_infix_of_open_start cased precedes follows (ahead ⟨['a'], [], by simp⟩)
  · rintro settled text ⟨front, back, whole⟩
    rw [toList_lower, toList_lower, ← whole]
    exact infix_of_settled settled front back

end TaskFilter.Text
