import TaskFilter.Decimal.Reading

/-!
# The range of doubles

Whether a decimal is too large for a double: it is from the point on that lies half-way between the
largest double and the power of two above it.
-/

namespace TaskFilter.Decimal

/-- The least number that no double is near enough to. -/
def overflowBound : Nat :=
  Nat.pow 2 1024 - Nat.pow 2 970

/-- Whether `digits * 10 ^ exponent` is too large for a double. The number of its digits settles all but
the close cases. -/
def overflows (digits : Nat) (exponent : Int) : Bool :=
  let places : Int := (Nat.toDigits 10 digits).length + exponent
  if digits = 0 || places < 308 then false
  else if 310 < places then true
  else overflowBound * Nat.pow 10 (-exponent).toNat ≤ digits * Nat.pow 10 exponent.toNat

end TaskFilter.Decimal
