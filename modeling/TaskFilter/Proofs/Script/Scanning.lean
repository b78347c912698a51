import TaskFilter.Proofs.Json.Quoted

/-!
# Code and literals

A text of the script is scanned from left to right: what stands between double quotes is a literal, a
backslash in it takes the next character along, and everything else is code.

Main statements: `scan_append` says that texts that end outside a literal can be scanned one after the
other, `scan_encode` that a written string is one literal, and `text_scan` that nothing is lost.
-/

namespace TaskFilter.Script

/-! ## The scan -/

/-- A part of a scanned text. -/
inductive Mark where
  /-- A character outside of literals. -/
  | code (c : Char)
  /-- A literal, as it is written between its quotes. -/
  | literal (raw : List Char)
  deriving DecidableEq, Repr

def Mark.text : Mark → List Char
  | .code c => [c]
  | .literal raw => '"' :: raw ++ ['"']

/-- Where the scan stands. The characters of an unfinished literal are kept, the last one first. -/
inductive Mode where
  | code
  | literal (gathered : List Char)
  /-- Behind a backslash in a literal. -/
  | escape (gathered : List Char)

/-- The characters of an unfinished literal, from its opening quote on. -/
def Mode.text : Mode → List Char
  | .code => []
  | .literal gathered => '"' :: gathered.reverse
  | .escape gathered => '"' :: gathered.reverse

/-- The parts of a text from the given mode on; `none` if its last literal has no end. -/
def scanFrom : Mode → List Char → Option (List Mark)
  | .code, [] => some []
  | .literal _, [] => none
  | .escape _, [] => none
  | .code, c :: rest =>
    if c = '"' then scanFrom (.literal []) rest else (scanFrom .code rest).map (.code c :: ·)
  | .literal gathered, c :: rest =>
    if c = '"' then (scanFrom .code rest).map (.literal gathered.reverse :: ·)
    else if c = '\\' then scanFrom (.escape (c :: gathered)) rest
    else scanFrom (.literal (c :: gathered)) rest
  | .escape gathered, c :: rest => scanFrom (.literal (c :: gathered)) rest

def scan (cs : List Char) : Option (List Mark) :=
  scanFrom .code cs

/-! ## Texts one after the other -/

theorem scanFrom_append {mode : Mode} {cs : List Char} {marks : List Mark}
    (h : scanFrom mode cs = some marks) (rest : List Char) :
    scanFrom mode (cs ++ rest) = (scan rest).map (marks ++ ·) := by
  -- the mode is arbitrary, since it changes within a literal
  induction cs generalizing mode marks with
  | nil =>
    cases mode with
    | code =>
      obtain rfl := Option.some.inj h
      simp [scan]
    | literal | escape =>
      -- a text does not end in a literal
      cases h
  | cons c cs ih =>
    cases mode with
    | code =>
      simp only [List.cons_append, scanFrom] at h ⊢
      split_ifs at h ⊢
      · exact ih h
      · obtain ⟨others, scanned, rfl⟩ := Option.map_eq_some_iff.mp h
        rw [ih scanned, Option.map_map]
        rfl
    | literal gathered =>
      simp only [List.cons_append, scanFrom] at h ⊢
      split_ifs at h ⊢
      · obtain ⟨others, scanned, rfl⟩ := Option.map_eq_some_iff.mp h
        rw [ih scanned, Option.map_map]
        rfl
      · exact ih h
      · exact ih h
    | escape gathered => exact ih h

/-- Texts that end outside a literal are scanned one after the other. -/
theorem scan_append {a b : List Char} {marks others : List Mark} (ha : scan a = some marks)
    (hb : scan b = some others) : scan (a ++ b) = some (marks ++ others) := by
  rw [scan, scanFrom_append ha, hb]
  rfl

/-- Code without quotes is scanned character by character. -/
theorem scan_of_not_mem {cs : List Char} (h : '"' ∉ cs) : scan cs = some (cs.map Mark.code) := by
  induction cs with
  | nil => rfl
  | cons c cs ih =>
    rw [List.mem_cons, not_or] at h
    rw [scan, scanFrom, if_neg (Ne.symm h.1), ← scan, ih h.2]
    rfl

/-! ## Written strings -/

/-- A written character does not end the literal it stands in. -/
theorem scanFrom_encodeChar (gathered : List Char) (c : Char) (rest : List Char) :
    scanFrom (.literal gathered) (Json.encodeChar c ++ rest) =
      scanFrom (.literal ((Json.encodeChar c).reverse ++ gathered)) rest := by
  cases Json.written c with
  | short name escape form => simp [form, scanFrom]
  | numeric control form =>
    -- only the two digits depend on the character, and a digit neither quotes nor escapes
    have digits : ∀ n < 0x10, Json.hexDigit n ≠ '"' ∧ Json.hexDigit n ≠ '\\' := by
      decide
    have high := digits (c.toNat / 16) (by omega)
    have low := digits (c.toNat % 16) (by omega)
    simp [form, scanFrom, high, low]
  | plain quote backslash printable form => simp [form, scanFrom, quote, backslash]

theorem scanFrom_encoded (gathered cs rest : List Char) :
    scanFrom (.literal gathered) (cs.flatMap Json.encodeChar ++ '"' :: rest) =
      (scan rest).map (.literal (gathered.reverse ++ cs.flatMap Json.encodeChar) :: ·) := by
  induction cs generalizing gathered with
  | nil => simp [scanFrom, scan]
  | cons c cs ih =>
    rw [List.flatMap_cons, List.append_assoc, scanFrom_encodeChar, ih]
    simp

/-- A written string is one literal. -/
theorem scan_encode (s : String) :
    scan (Json.encode s) = some [.literal (s.toList.flatMap Json.encodeChar)] := by
  have closed := scanFrom_encoded [] s.toList []
  rw [scan, Json.encode, List.cons_append, scanFrom, if_pos rfl, closed]
  rfl

/-! ## Nothing is lost -/

theorem text_scanFrom {mode : Mode} {cs : List Char} {marks : List Mark}
    (h : scanFrom mode cs = some marks) : marks.flatMap Mark.text = mode.text ++ cs := by
  induction cs generalizing mode marks with
  | nil =>
    cases mode with
    | code =>
      obtain rfl := Option.some.inj h
      rfl
    | literal | escape => cases h
  | cons c cs ih =>
    cases mode with
    | code =>
      simp only [scanFrom] at h
      split_ifs at h with quote
      · rw [ih h, quote]
        rfl
      · obtain ⟨others, scanned, rfl⟩ := Option.map_eq_some_iff.mp h
        rw [List.flatMap_cons, ih scanned]
        rfl
    | literal gathered =>
      simp only [scanFrom] at h
      split_ifs at h with quote
      · obtain ⟨others, scanned, rfl⟩ := Option.map_eq_some_iff.mp h
        rw [List.flatMap_cons, ih scanned, quote]
        simp [Mark.text, Mode.text]
      · rw [ih h]
        simp [Mode.text]
      · rw [ih h]
        simp [Mode.text]
    | escape gathered =>
      rw [ih h]
      simp [Mode.text]

/-- The parts of a text make up the text. -/
theorem text_scan {cs : List Char} {marks : List Mark} (h : scan cs = some marks) :
    marks.flatMap Mark.text = cs :=
  text_scanFrom h

end TaskFilter.Script
