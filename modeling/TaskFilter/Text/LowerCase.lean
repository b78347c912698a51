import TaskFilter.Text.CaseTables

/-!
# Lower case

The full Unicode lower-case mapping of a text. Two things set it apart from a character-wise mapping of
characters to characters: the capital I with a dot above becomes two characters, and a capital sigma
becomes a final sigma at the end of a word.
-/

namespace TaskFilter.Text

def CaseRun.contains (r : CaseRun) (c : Char) : Bool :=
  r.first ≤ c.toNat && c.toNat ≤ r.last && (c.toNat - r.first) % r.stride == 0

/-- The lower-case form of a character taken by itself. -/
def lowerChar (c : Char) : List Char :=
  -- the only character whose lower-case form is two characters
  if c = 'İ' then ['i', '\u0307'] else
  match lowerRuns.find? (·.contains c) with
  | some r => [Char.ofNat (c.toNat + r.offset).toNat]
  | none => [c]

/-- Whether the first character that counts (one that is not case-ignorable) is a cased letter. -/
def meetsCased (cs : List Char) : Bool :=
  match cs.dropWhile caseIgnorableRanges.contains with
  | c :: _ => casedRanges.contains c
  | [] => false

/-- The lower-case form of a capital sigma: final if a letter precedes it in its word and none follows.
`before` holds the preceding characters, the nearest first. -/
def lowerSigma (before after : List Char) : Char :=
  if meetsCased before && !meetsCased after then 'ς' else 'σ'

/-- The lower-case form of `cs`, where `before` precedes it (the nearest character first). -/
def lowerFrom (before : List Char) : List Char → List Char
  | [] => []
  | c :: rest =>
    (if c = 'Σ' then [lowerSigma before rest] else lowerChar c) ++ lowerFrom (c :: before) rest

def lower (s : String) : String :=
  String.ofList (lowerFrom [] s.toList)

/-- Without a capital sigma the mapping works on each character by itself. -/
theorem lowerFrom_eq_flatMap (before cs : List Char) (h : 'Σ' ∉ cs) :
    lowerFrom before cs = cs.flatMap lowerChar := by
  induction cs generalizing before with
  | nil => rfl
  | cons c rest ih =>
    have hc : c ≠ 'Σ' := fun e => h (by simp [e])
    have hr : 'Σ' ∉ rest := fun m => h (by simp [m])
    simp [lowerFrom, hc, ih _ hr]

end TaskFilter.Text
