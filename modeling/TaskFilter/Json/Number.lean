import TaskFilter.Decimal.Reading
import TaskFilter.Decimal.Shortest

/-!
# Numbers of JSON texts

A number keeps its kind: an integer that fits 64 bits stays exact, and everything else is a double. The
kind shows in the written form (a double always has a point or an exponent) and in equality, which never
mixes the two.
-/

namespace TaskFilter

/-- A number as a JSON text holds it. -/
inductive Number where
  /-- An integer literal of at most 64 bits. -/
  | integer (value : Int)
  /-- Any other finite number. -/
  | float (value : Float)
  deriving BEq, Repr

namespace Number

/-- The integers that have a form of their own: those of 64 bits, signed or not. -/
def HasIntegerForm (value : Int) : Prop :=
  -(Nat.pow 2 63 : Int) ≤ value ∧ value < Nat.pow 2 64

/-- The number of a literal, from its sign, the digits before and after the point, and its exponent (`none`
for an exponent that is not written). A literal too large for a double is no number. Minus zero is kept as
a double, because no integer is. -/
def ofLiteral (negative : Bool) (whole : List Char) (fraction : List Char) (exponent : Option Int) :
    Option Number :=
  let n := Decimal.natural whole
  if fraction.isEmpty && exponent.isNone && !negative && n < Nat.pow 2 64 then
    some (.integer n)
  -- below zero, half as many integers fit
  else if fraction.isEmpty && exponent.isNone && negative && n ≠ 0 && n ≤ Nat.pow 2 63 then
    some (.integer (-n))
  else
    (Decimal.toDouble whole fraction (exponent.getD 0)).map fun x =>
      .float (if negative then -x else x)

def writeInteger : Int → List Char
  | .ofNat n => Nat.toDigits 10 n
  | .negSucc n => '-' :: Nat.toDigits 10 (n + 1)

def write : Number → List Char
  | .integer value => writeInteger value
  | .float value => Decimal.write value

end Number

end TaskFilter
