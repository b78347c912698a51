/-!
# Reading a decimal as a double

A decimal is a whole part, a fraction and an exponent of ten. Its digits are gathered into one number of
at most 64 bits, and the double is that number scaled by a power of ten: each of the two is rounded once,
so that the result can differ from the nearest double in its last place.
-/

namespace TaskFilter.Decimal

/-- The largest number that digits are gathered into. -/
def gatherLimit : Nat := Nat.pow 2 64 - 1

def digitValue (c : Char) : Nat :=
  c.toNat - '0'.toNat

def isDigit (c : Char) : Bool :=
  '0'.toNat ≤ c.toNat && c.toNat ≤ '9'.toNat

/-- The natural number that a row of digits stands for. -/
def natural (ds : List Char) : Nat :=
  ds.foldl (fun n c => n * 10 + digitValue c) 0

/-- Gathers digits behind `start` for as long as the number stays within the limit, and returns the digits
that are left. -/
def gather (start : Nat) : List Char → Nat × List Char
  | [] => (start, [])
  | c :: rest =>
    if start * 10 + digitValue c ≤ gatherLimit then gather (start * 10 + digitValue c) rest
    else (start, c :: rest)

def powerOfTen (n : Nat) : Float :=
  Float.ofScientific 1 false n

/-- The number scaled by a power of ten. A scale beyond the range of doubles is applied in steps of the
largest power; `none` if the result is too large. Four steps are enough: after three, nothing is left of a
number of 64 bits. -/
def scale (steps : Nat) (x : Float) (exponent : Int) : Option Float :=
  if exponent.natAbs ≤ 308 then
    if exponent < 0 then some (x / powerOfTen exponent.natAbs)
    else
      let y := x * powerOfTen exponent.natAbs
      if y.isInf then none else some y
  -- zero stays zero, and nothing else can be scaled up so far
  else if x == 0.0 then some x
  else if 0 < exponent then none
  else match steps with
    | 0 => some 0.0
    | steps + 1 => scale steps (x / powerOfTen 308) (exponent + 308)

/-- The double for the digits before the point, those after it, and an exponent. The digits of the whole
part that are not gathered still count as places; those of the fraction are dropped. -/
def toDouble (whole fraction : List Char) (exponent : Int) : Option Float :=
  let (front, skipped) := gather 0 whole
  let (all, dropped) := gather front fraction
  let places : Int := fraction.length - dropped.length
  scale 4 all.toUInt64.toFloat (exponent + skipped.length - places)

end TaskFilter.Decimal
