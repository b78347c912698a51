/-!
# The shortest decimal that reads back

A double stands for an interval of real numbers: those nearer to it than to its neighbours. Of the
decimals in that interval, the one on the coarsest decimal grid is its shortest form; where that grid has
several points in the interval, the one nearest to the double is taken, and of two equally near ones the
even one. Everything here is exact arithmetic on natural numbers.
-/

namespace TaskFilter.Decimal

/-- The number `digits * 10 ^ exponent`. -/
structure Scaled where
  digits : Nat
  exponent : Int
  deriving DecidableEq, Repr

/-- The number `mantissa * 2 ^ exponent`, as a double holds it; `tight` if the neighbour below is only half
as far away as the one above. -/
structure Binary where
  mantissa : Nat
  exponent : Int
  tight : Bool
  deriving DecidableEq, Repr

/-- The magnitude that the 64 bits of a finite double stand for. -/
def Binary.ofBits (bits : UInt64) : Binary :=
  let field : Nat := (bits.toNat / Nat.pow 2 52) % Nat.pow 2 11
  let fraction : Nat := bits.toNat % Nat.pow 2 52
  if field = 0 then ⟨fraction, -1074, false⟩
  else ⟨Nat.pow 2 52 + fraction, (field : Int) - 1075, fraction == 0 && field != 1⟩

/-- The factors `(a, b)` with `a / b = 2 ^ twos / 10 ^ tens`. -/
def gridRatio (twos tens : Int) : Nat × Nat :=
  (Nat.pow 2 twos.toNat * Nat.pow 10 (-tens).toNat, Nat.pow 2 (-twos).toNat * Nat.pow 10 tens.toNat)

/-- The nearest natural number to `n / d`; a half goes to the even neighbour. -/
def nearest (n d : Nat) : Nat :=
  let q := n / d
  let r := n % d
  if 2 * r < d then q else if d < 2 * r then q + 1 else if q % 2 = 0 then q else q + 1

/-- The point of the grid `10 ^ tens` that is nearest to the number, among those that read back as it.
The ends of the interval read back too when the mantissa is even. -/
def gridPoint (x : Binary) (tens : Int) : Option Nat :=
  -- in quarters of the last place, so that the ends of the interval are whole
  let (a, d) := gridRatio (x.exponent - 2) tens
  let value := 4 * x.mantissa * a
  let low := (4 * x.mantissa - if x.tight then 1 else 2) * a
  let high := (4 * x.mantissa + 2) * a
  let inside := fun point => if x.mantissa % 2 = 0
    then decide (low ≤ point * d) && decide (point * d ≤ high)
    else decide (low < point * d) && decide (point * d < high)
  if inside (nearest value d) then some (nearest value d)
  else if inside (value / d) then some (value / d)
  else if inside (value / d + 1) then some (value / d + 1)
  else none

/-- An exponent of ten above which no grid has a point in the interval of the number: the number is below
`2 ^ twos`, and `10 ^ 0.30103` is a little more than 2. -/
def coarsestExponent (x : Binary) : Int :=
  let twos := (x.mantissa.log2 : Int) + 2 + x.exponent
  twos * 30103 / 100000 + 1

/-- The shortest decimal that reads back as the number. A grid of 25 steps below the coarsest is finer
than the interval, so the search ends with a point. -/
def shortest (x : Binary) : Scaled :=
  let start := coarsestExponent x
  ((List.range 26).findSome? fun (step : Nat) =>
    (gridPoint x (start - step)).map fun point => Scaled.mk point (start - step)).getD ⟨0, 0⟩

/-- How the digits are laid out: positional where the leading digit stands between the fifth place after
the point and the sixteenth before it, otherwise one digit before the point and a signed exponent. -/
def layOut (x : Scaled) : List Char :=
  let ds := Nat.toDigits 10 x.digits
  let lead : Int := x.exponent + ds.length - 1
  -- a whole number, a point among the digits, or a point before all of them
  if 0 ≤ x.exponent && lead < 16 then ds ++ List.replicate x.exponent.toNat '0' ++ ['.', '0']
  else if 0 ≤ lead && lead < 16 then ds.take (lead.toNat + 1) ++ '.' :: ds.drop (lead.toNat + 1)
  else if -5 ≤ lead && lead < 0 then '0' :: '.' :: List.replicate (-lead - 1).toNat '0' ++ ds
  else
    -- a single digit gets no point
    ds.take 1 ++ (if ds.length = 1 then [] else '.' :: ds.drop 1) ++
      'e' :: (if lead < 0 then '-' else '+') :: Nat.toDigits 10 lead.natAbs

/-- The bit of a double that holds its sign, above all others. -/
def signBit : UInt64 := 0x8000000000000000

/-- The text of a finite double. -/
def write (x : Float) : List Char :=
  let magnitude := Binary.ofBits (x.toBits % signBit)
  let text := if magnitude.mantissa = 0 then ['0', '.', '0'] else layOut (shortest magnitude)
  if x.toBits ≥ signBit then '-' :: text else text

end TaskFilter.Decimal
