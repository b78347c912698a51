import Mathlib.Data.List.Induction
import TaskFilter.Operand

/-!
# Operands that are told apart

Operands are compared by their values. The comparison is symmetric and transitive, and reflexive but for one
double. Where only the first of equal values is kept, the values that are left are those that appear for the
first time.

## Layers

- **Equality**: doubles are equal if they are the same number or both zero (`beq_float_iff`), and operands
  are compared part by part.
- **First appearances**: `FirstAppearances` follows a list from its start, and
  `firstAppearances_eraseDups` says that this is what is kept.
- **Main statement**: `one_lt_length_eraseDups_iff`.
-/

namespace TaskFilter

/-! ## Equality of operands -/

open Float.Model (UnpackedFloat)

/-- The same number, or zero with different signs. -/
def SameNumber (a b : UnpackedFloat) : Prop :=
  (a = b ∧ a ≠ .notANumber) ∨ ∃ s t, a = .zero s ∧ b = .zero t

theorem beq_finite_iff {s : UnpackedFloat.Sign} {m n : Nat} {e f : Int} {hm : 0 < m} {hn : 0 < n}
    {order : Ordering} (h : order = .eq ↔ m = n ∧ e = f) :
    (some order == some .eq) = true ↔ SameNumber (.finite s m e hm) (.finite s n f hn) := by
  rw [beq_iff_eq, Option.some.injEq, h]
  constructor
  · rintro ⟨rfl, rfl⟩
    exact .inl ⟨rfl, nofun⟩
  · rintro (⟨⟨⟩, -⟩ | ⟨_, _, ⟨⟩, -⟩)
    exact ⟨rfl, rfl⟩

/-- Numbers of different shapes or signs are equal only if both are zero. -/
theorem beq_unpacked_iff_of_ne {a b : UnpackedFloat} (unequal : a.beq b = false) (different : a ≠ b)
    (zeros : ∀ s t, a = .zero s → b ≠ .zero t) : a.beq b = true ↔ SameNumber a b := by
  rw [unequal]
  refine iff_of_false Bool.false_ne_true ?_
  rintro (⟨same, -⟩ | ⟨s, t, first, second⟩)
  · exact different same
  · exact zeros s t first second

theorem beq_unpacked_iff (a b : UnpackedFloat) : a.beq b = true ↔ SameNumber a b := by
  cases a with
  | notANumber =>
    have none : ¬ SameNumber .notANumber b := by
      rintro (⟨-, h⟩ | ⟨_, _, ⟨⟩, -⟩)
      exact h rfl
    cases b <;> exact iff_of_false nofun none
  | infinity s =>
    cases b with
    | infinity t =>
      cases s <;> cases t
      · exact iff_of_true rfl (.inl ⟨rfl, nofun⟩)
      · exact beq_unpacked_iff_of_ne rfl nofun nofun
      · exact beq_unpacked_iff_of_ne rfl nofun nofun
      · exact iff_of_true rfl (.inl ⟨rfl, nofun⟩)
    | _ => cases s <;> exact beq_unpacked_iff_of_ne rfl nofun nofun
  | zero s =>
    cases b with
    | zero t => exact iff_of_true rfl (.inr ⟨s, t, rfl, rfl⟩)
    | infinity t => cases t <;> exact beq_unpacked_iff_of_ne rfl nofun nofun
    | finite t => cases t <;> exact beq_unpacked_iff_of_ne rfl nofun nofun
    | notANumber => exact beq_unpacked_iff_of_ne rfl nofun nofun
  | finite s m e hm =>
    cases b with
    | finite t n f hn =>
      cases s <;> cases t
      · exact beq_finite_iff (by simp [Ordering.then_eq_eq, and_comm])
      · exact beq_unpacked_iff_of_ne rfl nofun nofun
      · exact beq_unpacked_iff_of_ne rfl nofun nofun
      · exact beq_finite_iff (by simp [Ordering.then_eq_eq, and_comm])
    | infinity t => cases t <;> exact beq_unpacked_iff_of_ne rfl nofun nofun
    | _ => cases s <;> exact beq_unpacked_iff_of_ne rfl nofun nofun

theorem beq_float_iff {x y : Float} :
    (x == y) = true ↔ SameNumber x.toModel.unpack y.toModel.unpack :=
  beq_unpacked_iff _ _

instance partialEquivBEqFloat : PartialEquivBEq Float where
  symm h := by
    rw [beq_float_iff] at h ⊢
    rcases h with ⟨same, number⟩ | ⟨s, t, first, second⟩
    · exact .inl ⟨same.symm, same ▸ number⟩
    · exact .inr ⟨t, s, second, first⟩
  trans h h' := by
    rw [beq_float_iff] at h h' ⊢
    rcases h with ⟨same, -⟩ | ⟨s, t, first, second⟩
    · rw [same]
      exact h'
    · rcases h' with ⟨same, -⟩ | ⟨_, u, -, third⟩
      · exact .inr ⟨s, t, first, same ▸ second⟩
      · exact .inr ⟨s, u, first, third⟩

instance partialEquivBEqNumber : PartialEquivBEq Number where
  symm {a b} h := by
    cases a <;> cases b
    case integer.integer x y => exact BEq.symm (α := Int) h
    case float.float x y => exact BEq.symm (α := Float) h
    all_goals cases h
  trans {a b c} h h' := by
    cases a <;> cases b <;> cases c
    case integer.integer.integer x y z => exact BEq.trans (α := Int) h h'
    case float.float.float x y z => exact BEq.trans (α := Float) h h'
    all_goals first | cases h | cases h'

instance partialEquivBEqOperand : PartialEquivBEq Operand where
  symm {a b} h := by
    cases a <;> cases b
    case bool.bool x y => exact BEq.symm (α := Bool) h
    case number.number x y => exact BEq.symm (α := Number) h
    case string.string x y => exact BEq.symm (α := String) h
    case array.array x y => exact BEq.symm (α := List String) h
    all_goals cases h
  trans {a b c} h h' := by
    cases a <;> cases b
    case bool.bool x y => cases c <;> first | exact BEq.trans (α := Bool) h h' | cases h'
    case number.number x y => cases c <;> first | exact BEq.trans (α := Number) h h' | cases h'
    case string.string x y => cases c <;> first | exact BEq.trans (α := String) h h' | cases h'
    case array.array x y => cases c <;> first | exact BEq.trans (α := List String) h h' | cases h'
    all_goals cases h

/-- The operand is not a double that is no number. There is no JSON text for one. -/
def Operand.Real (operand : Operand) : Prop :=
  ∀ x, operand = .number (.float x) → x.isNaN = false

theorem Operand.beq_self_of_real {operand : Operand} (real : operand.Real) :
    (operand == operand) = true := by
  cases operand with
  | bool value => exact beq_self_eq_true value
  | string value => exact beq_self_eq_true value
  | array items => exact beq_self_eq_true items
  | number value =>
    cases value with
    | integer value => exact beq_self_eq_true value
    | float x =>
      have number : x.toModel.unpack ≠ .notANumber := by
        intro none
        have isNaN : x.isNaN = true := congrArg UnpackedFloat.isNaN none
        rw [real x rfl] at isNaN
        cases isNaN
      have same : (x == x) = true := beq_float_iff.mpr (.inl ⟨rfl, number⟩)
      exact same

/-! ## First appearances -/

section FirstAppearances

variable {α : Type} [BEq α]

/-- The values of a list that equal none before them, in their order. -/
inductive FirstAppearances : List α → List α → Prop where
  | nil : FirstAppearances [] []
  | fresh {values distinct : List α} {value : α} (earlier : FirstAppearances values distinct)
      (h : ∀ v ∈ values, (v == value) = false) :
      FirstAppearances (values ++ [value]) (distinct ++ [value])
  | again {values distinct : List α} {value : α} (earlier : FirstAppearances values distinct)
      (h : ∃ v ∈ values, (v == value) = true) : FirstAppearances (values ++ [value]) distinct

theorem one_lt_length_eraseDups_cons_iff {a : α} {as : List α} :
    1 < (a :: as).eraseDups.length ↔ ∃ b ∈ as, (b == a) = false := by
  rw [List.eraseDups_cons, List.length_cons]
  -- something is left when what equals the first value is taken out
  cases left : as.filter fun x => !x == a with
  | nil =>
    have same : ∀ b ∈ as, (b == a) = true := by simpa using List.filter_eq_nil_iff.mp left
    simp only [List.eraseDups_nil, List.length_nil, Nat.lt_irrefl, false_iff, not_exists, not_and]
    intro b listed
    rw [same b listed]
    exact Bool.noConfusion
  | cons b rest =>
    have member : b ∈ as.filter fun x => !x == a := left ▸ List.mem_cons_self
    obtain ⟨listed, unequal⟩ := List.mem_filter.mp member
    rw [Bool.not_eq_true'] at unequal
    rw [List.eraseDups_cons, List.length_cons]
    exact iff_of_true (by omega) ⟨b, listed, unequal⟩

variable [PartialEquivBEq α]

/-- Whether a value equals one of a list is not changed by taking those out that equal another value. -/
theorem contains_filter_unequal {as : List α} {a b : α} (h : (b == a) = false) :
    (as.filter fun x => !x == a).contains b = as.contains b := by
  rw [Bool.eq_iff_iff, List.contains_iff_exists_mem_beq, List.contains_iff_exists_mem_beq]
  constructor
  · rintro ⟨x, listed, same⟩
    exact ⟨x, (List.mem_filter.mp listed).1, same⟩
  · rintro ⟨x, listed, same⟩
    -- a value that equals `b` cannot equal `a` as well
    have kept : (x == a) = false := by
      rw [← Bool.not_eq_true]
      intro equal
      rw [BEq.trans same equal] at h
      cases h
    exact ⟨x, List.mem_filter.mpr ⟨listed, by rw [kept]; rfl⟩, same⟩

/-- A value at the end is kept if it equals none before it. -/
theorem eraseDups_append_singleton (b : α) : (as : List α) →
    (as ++ [b]).eraseDups = if as.contains b then as.eraseDups else as.eraseDups ++ [b]
  | [] => by simp [List.eraseDups_cons]
  | a :: as => by
    rw [List.cons_append, List.eraseDups_cons, List.eraseDups_cons, List.filter_append,
      List.contains_cons]
    cases equal : b == a with
    | true => simp [equal]
    | false =>
      have last : [b].filter (fun x => !x == a) = [b] := by simp [equal]
      -- the value stays at the end of what is left, and equals one there if it equals one at all
      rw [last, eraseDups_append_singleton b (as.filter fun x => !x == a),
        contains_filter_unequal equal, Bool.false_or]
      split <;> rfl
termination_by as => as.length
decreasing_by exact Nat.lt_succ_of_le (List.length_filter_le _ _)

/-- What is kept of a list are the first appearances. -/
theorem firstAppearances_eraseDups (values : List α) : FirstAppearances values values.eraseDups := by
  induction values using List.reverseRecOn with
  | nil => exact .nil
  | append_singleton values value ih =>
    rw [eraseDups_append_singleton]
    split
    next known =>
      obtain ⟨v, listed, same⟩ := List.contains_iff_exists_mem_beq.mp known
      exact .again ih ⟨v, listed, BEq.symm same⟩
    next unknown =>
      refine .fresh ih fun v listed => ?_
      rw [← Bool.not_eq_true]
      exact fun same => unknown (List.contains_iff_exists_mem_beq.mpr ⟨v, listed, BEq.symm same⟩)

theorem contains_eraseDups (b : α) : (as : List α) → as.eraseDups.contains b = as.contains b
  | [] => rfl
  | a :: as => by
    rw [List.eraseDups_cons, List.contains_cons, List.contains_cons,
      contains_eraseDups b (as.filter fun x => !x == a)]
    cases equal : b == a with
    | true => rfl
    | false => rw [contains_filter_unequal equal]
termination_by as => as.length
decreasing_by exact Nat.lt_succ_of_le (List.length_filter_le _ _)

/-- Several values are kept exactly if two values of the list are told apart. -/
theorem one_lt_length_eraseDups_iff {as : List α} :
    1 < as.eraseDups.length ↔ ∃ a b, [a, b].Sublist as ∧ (a == b) = false := by
  cases as with
  | nil => simp
  | cons first rest =>
    rw [one_lt_length_eraseDups_cons_iff]
    constructor
    · rintro ⟨b, listed, unequal⟩
      refine ⟨first, b, .cons_cons first (List.singleton_sublist.mpr listed), ?_⟩
      rwa [BEq.comm]
    · rintro ⟨a, b, pair, unequal⟩
      by_contra none
      have same : ∀ c ∈ rest, (c == first) = true := by simpa using none
      -- values that equal the first equal each other
      have equal : (a == b) = true := by
        cases pair with
        | cons_cons _ later =>
          exact BEq.symm (same b (List.singleton_sublist.mp later))
        | cons _ later =>
          have one := same a (later.subset List.mem_cons_self)
          have other := same b (later.subset (List.mem_cons_of_mem a List.mem_cons_self))
          exact BEq.trans one (BEq.symm other)
      rw [unequal] at equal
      cases equal

end FirstAppearances

end TaskFilter
