/-!
# Similarity of words

How alike two words are, as a number between 0 and 1. The measure counts the letters that the words
share at nearly the same place, lowers the count by the shared letters that stand in another order, and
favours words that begin alike.
-/

namespace TaskFilter.Text

/-- A letter matches an equal one that stands at most this far from its own place: half the length of the
longer word, less one. -/
def matchReach (a b : List Char) : Nat :=
  max a.length b.length / 2 - 1

/-- The first place in `b`, not yet `taken`, that holds `c` and lies within `reach` of place `i`. -/
def matchAt (reach : Nat) (b : List Char) (taken : List Nat) (i : Nat) (c : Char) : Option Nat :=
  (List.range (min b.length (i + reach + 1))).find? fun j =>
    i - reach ≤ j && b[j]? == some c && !taken.contains j

/-- The shared letters of `a` and `b`: each letter of `a`, from the left, with the place it matches. -/
def sharedLetters (a b : List Char) : List (Char × Nat) :=
  (a.zipIdx.foldl (fun found ci =>
    match matchAt (matchReach a b) b (found.map Prod.snd) ci.2 ci.1 with
    | some j => (ci.1, j) :: found
    | none => found) []).reverse

/-- How many shared letters stand in another order in the second word, counting each exchange of two
letters once. -/
def exchanges (shared : List (Char × Nat)) : Nat :=
  let inOrder := shared.mergeSort (fun x y => decide (x.2 ≤ y.2))
  ((shared.zip inOrder).filter fun p => p.1.1 != p.2.1).length / 2

/-- The mean of three shares: of the letters of either word that are shared, and of the shared letters
that keep their order. -/
def letterSimilarity (a b : List Char) : Float :=
  let shared := sharedLetters a b
  let count := shared.length
  if a.isEmpty && b.isEmpty then 1.0
  else if count = 0 then 0.0
  else
    (count.toFloat / a.length.toFloat + count.toFloat / b.length.toFloat
      + (count - exchanges shared).toFloat / count.toFloat) / 3.0

/-- How many of the first four letters agree before the first difference. -/
def sharedBeginning (a b : List Char) : Nat :=
  ((a.take 4).zip b |>.takeWhile fun p => p.1 == p.2).length

/-- The similarity of two words: words that are already much alike gain by a common beginning. -/
def similarity (a b : List Char) : Float :=
  -- the remaining distance is shortened by a tenth for each common letter
  let base := letterSimilarity a b
  if base > 0.7 then base + 0.1 * (sharedBeginning a b).toFloat * (1.0 - base) else base

/-- Similarities in order of size: the bits of a number that is not negative grow with it. -/
def similarityKey (a b : List Char) : UInt64 :=
  (similarity a b).toBits

end TaskFilter.Text
