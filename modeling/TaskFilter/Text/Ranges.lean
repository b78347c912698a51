/-!
# Sets of characters as ranges

A Unicode property is a finite union of intervals of code points. This module holds the type of such
tables and the one question asked of them: whether a character belongs to one.
-/

namespace TaskFilter.Text

/-- A set of characters, as inclusive intervals of code points. -/
abbrev Ranges := List (Nat × Nat)

/-- Whether the code point of `c` lies in one of the intervals. -/
def Ranges.contains (ranges : Ranges) (c : Char) : Bool :=
  ranges.any fun r => r.1 ≤ c.toNat && c.toNat ≤ r.2

end TaskFilter.Text
