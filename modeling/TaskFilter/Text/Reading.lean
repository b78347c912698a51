import TaskFilter.Decimal.Reading

/-!
# Reading a text from left to right

A reader takes something off the start of a text, or fails. Readers are combined one after the other, and
where one fails another can be tried at the same place.
-/

namespace TaskFilter.Text

/-- A reader of the start of a text: what it read, and what follows. -/
abbrev Reading (α : Type) := StateT (List Char) Option α

namespace Reading

def char (c : Char) : Reading Unit := do
  match ← get with
  | d :: cs => if c = d then set cs else failure
  | [] => failure

def one (p : Char → Bool) : Reading Char := do
  match ← get with
  | d :: cs => if p d then do set cs; return d else failure
  | [] => failure

def word (text : String) : Reading Unit := do
  let cs ← get
  if text.toList.isPrefixOf cs then set (cs.drop text.length) else failure

/-- The characters with a property, as many as there are. -/
def many (p : Char → Bool) : Reading (List Char) := do
  let cs ← get
  set (cs.dropWhile p)
  return cs.takeWhile p

/-- At least one character with a property, and as many as there are. -/
def several (p : Char → Bool) : Reading (List Char) := do
  let ds ← many p
  if ds.isEmpty then failure else return ds

/-- What a reader reads, if it can. -/
def possibly {α : Type} (r : Reading α) : Reading (Option α) :=
  (do let a ← r; return some a) <|> pure none

/-- A number of at least `least` and at most `most` digits, as many as there are. -/
def number (least : Nat) (most : Option Nat) : Reading Nat := do
  let cs ← get
  let all := cs.takeWhile Decimal.isDigit
  let ds := match most with
    | some n => all.take n
    | none => all
  if ds.length < least then failure
  set (cs.drop ds.length)
  return Decimal.natural ds

def finish : Reading Unit := do
  unless (← get).isEmpty do failure

end Reading

end TaskFilter.Text
