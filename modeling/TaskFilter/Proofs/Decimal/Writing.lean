import Mathlib.Tactic.SplitIfs
import TaskFilter.Json.Number

/-!
# The characters of written numbers

A written number is a row of digits, points, signs and exponent marks, with a digit at least. Nothing else
about its form matters where a number stands among other text. Natural numbers are written so that they
read back.

Main statements: `Number.numeral_write` and `Number.exists_isDigit_write`, and `natural_toDigits`.
-/

namespace TaskFilter

namespace Decimal

/-- A character that written numbers are made of. -/
def isNumeral (c : Char) : Bool :=
  c.isDigit || c = '.' || c = '-' || c = '+' || c = 'e'

/-- A text of such characters. -/
def Numeral (cs : List Char) : Prop :=
  ∀ c ∈ cs, isNumeral c = true

theorem numeral_cons (c : Char) (cs : List Char) :
    Numeral (c :: cs) ↔ isNumeral c = true ∧ Numeral cs :=
  List.forall_mem_cons

theorem numeral_append (a b : List Char) : Numeral (a ++ b) ↔ Numeral a ∧ Numeral b :=
  List.forall_mem_append

theorem numeral_nil : Numeral [] :=
  fun _ member => absurd member List.not_mem_nil

theorem numeral_toDigits (n : Nat) : Numeral (Nat.toDigits 10 n) := by
  intro c member
  have digit := Nat.isDigit_of_mem_toDigits (by decide) (by decide) member
  simp [isNumeral, digit]

theorem numeral_replicate (n : Nat) : Numeral (List.replicate n '0') := by
  intro c member
  rw [List.eq_of_mem_replicate member]
  rfl

/-- However the digits are laid out, a numeral is written. -/
theorem numeral_layOut (x : Scaled) : Numeral (layOut x) := by
  have digits := numeral_toDigits x.digits
  have taken : ∀ n, Numeral ((Nat.toDigits 10 x.digits).take n) :=
    fun n c member => digits c (List.mem_of_mem_take member)
  have dropped : ∀ n, Numeral ((Nat.toDigits 10 x.digits).drop n) :=
    fun n c member => digits c (List.mem_of_mem_drop member)
  have signs : isNumeral '0' = true ∧ isNumeral '.' = true ∧ isNumeral '-' = true ∧
      isNumeral '+' = true ∧ isNumeral 'e' = true := by decide
  unfold layOut
  dsimp only
  -- in each layout, parts of the row of digits stand between signs and zeros
  split_ifs <;>
    simp only [numeral_append, numeral_cons, numeral_nil, numeral_toDigits, numeral_replicate, taken,
      dropped, signs, and_true]

theorem exists_isDigit_toDigits (n : Nat) :
    ∃ c rest, Nat.toDigits 10 n = c :: rest ∧ c.isDigit = true := by
  obtain ⟨c, rest, written⟩ := List.exists_cons_of_ne_nil (Nat.toDigits_ne_nil (n := n) (b := 10))
  have listed : c ∈ Nat.toDigits 10 n := written ▸ List.mem_cons_self
  exact ⟨c, rest, written, Nat.isDigit_of_mem_toDigits (by decide) (by decide) listed⟩

theorem exists_isDigit_layOut (x : Scaled) : ∃ c ∈ layOut x, c.isDigit = true := by
  obtain ⟨c, rest, written, digit⟩ := exists_isDigit_toDigits x.digits
  have zero : '0'.isDigit = true := rfl
  unfold layOut
  rw [written]
  dsimp only
  split_ifs
  · exact ⟨c, by simp, digit⟩
  · exact ⟨c, by simp, digit⟩
  -- digits far behind the point come after a zero
  · exact ⟨'0', by simp, zero⟩
  all_goals exact ⟨c, by simp, digit⟩

theorem numeral_write (x : Float) : Numeral (write x) := by
  unfold write
  dsimp only
  -- a sign or none, in front of zero or of digits that are laid out
  split_ifs <;> simp only [numeral_cons, numeral_layOut, numeral_nil, and_true] <;> decide

theorem exists_isDigit_write (x : Float) : ∃ c ∈ write x, c.isDigit = true := by
  have zero : ∃ c ∈ ['0', '.', '0'], c.isDigit = true := ⟨'0', by simp, rfl⟩
  unfold write
  dsimp only
  split_ifs
  · exact ⟨'0', by simp, rfl⟩
  · obtain ⟨c, member, digit⟩ := exists_isDigit_layOut (shortest (Binary.ofBits (x.toBits % signBit)))
    exact ⟨c, List.mem_cons_of_mem _ member, digit⟩
  · exact zero
  · exact exists_isDigit_layOut _

/-! ## Natural numbers read back -/

theorem isDigit_iff {c : Char} : isDigit c = true ↔ c.isDigit = true := by
  simp only [isDigit, Char.isDigit, Bool.and_eq_true, decide_eq_true_eq, UInt32.le_iff_toNat_le]
  exact Iff.rfl

theorem isDigit_of_mem_toDigits {n : Nat} {c : Char} (h : c ∈ Nat.toDigits 10 n) :
    isDigit c = true :=
  isDigit_iff.mpr (Nat.isDigit_of_mem_toDigits (by decide) (by decide) h)

/-- The digits of a number stand for the number. -/
theorem natural_toDigits (n : Nat) : natural (Nat.toDigits 10 n) = n := by
  have step : natural = fun ds => Nat.ofDigitChars 10 ds 0 := by
    funext ds
    simp only [natural, Nat.ofDigitChars_eq_foldl, digitValue, Nat.mul_comm]
  rw [step]
  exact Nat.ofDigitChars_ten_toDigits

/-- No number but zero is written with a zero in front. -/
theorem head?_toDigits {n : Nat} (h : 0 < n) : (Nat.toDigits 10 n).head? ≠ some '0' := by
  induction n using Nat.strongRecOn with
  | ind n ih =>
    by_cases small : n < 10
    · rw [Nat.toDigits_of_lt_base small]
      have digits : ∀ m < 10, 0 < m → [m.digitChar].head? ≠ some '0' := by decide
      exact digits n small h
    · rw [Nat.toDigits_of_base_le (by decide) (by omega)]
      -- the front digits are those of a smaller number
      obtain ⟨c, others, front⟩ := List.exists_cons_of_ne_nil (Nat.toDigits_ne_nil (n := n / 10) (b := 10))
      have smaller := ih (n / 10) (by omega) (by omega)
      rw [front] at smaller ⊢
      exact smaller

end Decimal

namespace Number

open Decimal (Numeral)

theorem numeral_write (n : Number) : Numeral n.write := by
  cases n with
  | integer value =>
    cases value with
    | ofNat n => exact Decimal.numeral_toDigits n
    | negSucc n => exact (Decimal.numeral_cons ..).mpr ⟨rfl, Decimal.numeral_toDigits (n + 1)⟩
  | float value => exact Decimal.numeral_write value

theorem exists_isDigit_write (n : Number) : ∃ c ∈ n.write, c.isDigit = true := by
  cases n with
  | integer value =>
    cases value with
    | ofNat n =>
      obtain ⟨c, rest, written, digit⟩ := Decimal.exists_isDigit_toDigits n
      exact ⟨c, by simp [write, writeInteger, written], digit⟩
    | negSucc n =>
      obtain ⟨c, rest, written, digit⟩ := Decimal.exists_isDigit_toDigits (n + 1)
      exact ⟨c, by simp [write, writeInteger, written], digit⟩
  | float value => exact Decimal.exists_isDigit_write value

end Number

end TaskFilter
