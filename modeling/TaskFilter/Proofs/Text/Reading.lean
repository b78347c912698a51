import Mathlib.Data.List.TakeWhile
import TaskFilter.Text.Reading

/-!
# What readers read

A reader that is run on a text whose start is known: what it reads, and what it leaves. A reader that is
built from others is run by running these one after the other. And the other way round: what the text must
have been, of which a reader read something.

Main statements: `run_number_of_length`, `run_number_to_end` and `run_number_up_to`, which read a row of
digits where it has the width that is asked for, and where it ends by itself; `exists_of_run_number`, that
nothing else is read as a number.
-/

namespace TaskFilter.Text.Reading

variable {α : Type} {c d : Char} {cs ds rest : List Char}

@[simp]
theorem run_failure : (failure : Reading α).run cs = none :=
  rfl

@[simp]
theorem run_char_self : (char c).run (c :: cs) = some ((), cs) := by
  simp [char]

theorem run_char_of_ne (h : c ≠ d) : (char c).run (d :: cs) = none := by
  simp [char, h]

@[simp]
theorem run_char_nil : (char c).run [] = none := by
  simp [char]

theorem run_one_of_pos {p : Char → Bool} (h : p c = true) :
    (one p).run (c :: cs) = some (c, cs) := by
  simp [one, h]

@[simp]
theorem run_one_nil {p : Char → Bool} : (one p).run [] = none := by
  simp [one]

@[simp]
theorem run_finish_nil : finish.run [] = some ((), []) := by
  simp [finish]

@[simp]
theorem run_finish_cons : finish.run (c :: cs) = none := by
  simp [finish]

/-- As many digits are read as are asked for, even if more follow. -/
theorem run_number_of_length {least most : Nat} (digits : ∀ c ∈ ds, Decimal.isDigit c = true)
    (length : ds.length = most) (enough : least ≤ most) :
    (number least (some most)).run (ds ++ rest) = some (Decimal.natural ds, rest) := by
  have taken : ((ds ++ rest).takeWhile Decimal.isDigit).take most = ds := by
    rw [List.takeWhile_append_of_pos digits, ← length, List.take_left]
  have width : ¬ ds.length < least := by omega
  simp [number, taken, width, -List.length_take]

/-- Digits are read up to a character that is none. -/
theorem run_number_to_end {least : Nat} (digits : ∀ c ∈ ds, Decimal.isDigit c = true)
    (enough : least ≤ ds.length) (ends : rest.takeWhile Decimal.isDigit = []) :
    (number least none).run (ds ++ rest) = some (Decimal.natural ds, rest) := by
  have taken : (ds ++ rest).takeWhile Decimal.isDigit = ds := by
    rw [List.takeWhile_append_of_pos digits, ends, List.append_nil]
  have width : ¬ ds.length < least := by omega
  simp [number, taken, width]

/-- Fewer digits than are allowed are read, if no more follow. -/
theorem run_number_up_to {least most : Nat} (digits : ∀ c ∈ ds, Decimal.isDigit c = true)
    (enough : least ≤ ds.length) (few : ds.length ≤ most) (ends : rest.takeWhile Decimal.isDigit = []) :
    (number least (some most)).run (ds ++ rest) = some (Decimal.natural ds, rest) := by
  have taken : ((ds ++ rest).takeWhile Decimal.isDigit).take most = ds := by
    rw [List.takeWhile_append_of_pos digits, ends, List.append_nil, List.take_of_length_le few]
  have width : ¬ ds.length < least := by omega
  simp [number, taken, width, -List.length_take]

/-! ## What was there to be read -/

/-- Readers one after the other read what the first reads, and then what the second reads of the rest. -/
theorem run_bind_eq_some_iff {β : Type} {part : Reading α} {next : α → Reading β} {b : β} :
    (part >>= next).run cs = some (b, rest) ↔
      ∃ a mid, part.run cs = some (a, mid) ∧ (next a).run mid = some (b, rest) := by
  simp [Option.bind_eq_some_iff]

theorem run_char_eq_some_iff : (char c).run cs = some ((), rest) ↔ cs = c :: rest := by
  cases cs with
  | nil => simp
  | cons d cs =>
    by_cases same : c = d
    · simp [same]
    · simp [run_char_of_ne same, Ne.symm same]

theorem run_one_eq_some_iff {p : Char → Bool} :
    (one p).run cs = some (c, rest) ↔ cs = c :: rest ∧ p c = true := by
  cases cs with
  | nil => simp
  | cons d cs =>
    cases holds : p d with
    | true =>
      rw [run_one_of_pos holds]
      constructor
      · rintro ⟨⟩
        exact ⟨rfl, holds⟩
      · rintro ⟨⟨⟩, -⟩
        rfl
    | false =>
      refine iff_of_false (by simp [one, holds]) ?_
      rintro ⟨⟨⟩, other⟩
      rw [holds] at other
      cases other

/-- The digits that a number takes: all that there are, or as many as it may have. -/
def takenDigits (most : Option Nat) (cs : List Char) : List Char :=
  match most with
  | some n => (cs.takeWhile Decimal.isDigit).take n
  | none => cs.takeWhile Decimal.isDigit

theorem isPrefix_takenDigits (most : Option Nat) (cs : List Char) :
    takenDigits most cs <+: cs.takeWhile Decimal.isDigit := by
  cases most with
  | none => exact List.prefix_rfl
  | some n => exact List.take_prefix ..

theorem run_number (least : Nat) (most : Option Nat) (cs : List Char) :
    (number least most).run cs =
      if (takenDigits most cs).length < least then none
      else some (Decimal.natural (takenDigits most cs), cs.drop (takenDigits most cs).length) := by
  by_cases width : (takenDigits most cs).length < least <;> cases most <;>
    simp only [takenDigits] at width ⊢ <;>
    simp [number, width, -List.length_take]

theorem exists_of_run_number {least n : Nat} {most : Option Nat}
    (read : (number least most).run cs = some (n, rest)) :
    ∃ ds, cs = ds ++ rest ∧ (∀ c ∈ ds, Decimal.isDigit c = true) ∧ least ≤ ds.length ∧
      (∀ m ∈ most, ds.length ≤ m) ∧ Decimal.natural ds = n := by
  rw [run_number] at read
  split at read
  · cases read
  · next width =>
    cases read
    have front : takenDigits most cs <+: cs :=
      (isPrefix_takenDigits most cs).trans (List.takeWhile_prefix _)
    refine ⟨takenDigits most cs, (List.prefix_iff_eq_append.mp front).symm, fun c listed => ?_, by omega,
      ?_, rfl⟩
    · exact List.mem_takeWhile_imp ((isPrefix_takenDigits most cs).subset listed)
    · rintro m ⟨⟩
      exact List.length_take_le ..

end TaskFilter.Text.Reading
