import TaskFilter.Proofs.Decimal.Writing
import TaskFilter.Proofs.Script.Scanning

/-!
# Reading conditions

The text of a condition, read by the grammar of the script and without knowledge of how it was made.
Literals are opaque, and what stands in brackets belongs to them. A negation binds tighter than a
conjunction, and that binds tighter than a disjunction. Operands without any of these at their top are
atoms, and any truth may be given to them.

The reader accepts less than the script does: it wants blanks around binary operators, and knows no
other brackets than round and square ones.

## Layers

- **Items**: the row of a text, with every pair of brackets as one item (`step`, `run`, `items`).
- **Rows**: the truth of a row, from those of its operands (`rowTruth`).
- **Joining**: `items_append` and `items_brackets`, and `rowText_items`, which says that nothing is lost.
-/

namespace TaskFilter.Script

/-! ## Items -/

/-- A part of a row. -/
inductive Item where
  | code (c : Char)
  | literal (raw : List Char)
  /-- Round brackets with their text, and its truth if a condition stands in them. -/
  | parens (text : List Char) (truth : Option Bool)
  /-- Square brackets with their text. -/
  | square (text : List Char)

namespace Item

def text : Item → List Char
  | .code c => [c]
  | .literal raw => '"' :: raw ++ ['"']
  | .parens text _ => text
  | .square text => text

/-- Whether the item separates chunks. -/
def isBlank : Item → Bool
  | .code c => c = ' '
  | _ => false

def isChar (c : Char) : Item → Bool
  | .code d => c = d
  | _ => false

end Item

def rowText (row : List Item) : List Char :=
  row.flatMap Item.text

def isWord (word : List Char) (row : List Item) : Bool :=
  row.length = word.length && (List.zipWith Item.isChar word row).all id

/-! ## Atoms -/

/-- Whether a name or its parts go on with the row: with more of the name, if it stands in one, with
another part behind a point, or with brackets. -/
def isSuffix : Bool → List Item → Bool
  | _, [] => true
  | named, .code c :: rest =>
    (if named then c.isAlphanum || c = '.' || c = '_' else c = '.') && isSuffix true rest
  | _, .parens _ _ :: rest => isSuffix false rest
  | _, .square _ :: rest => isSuffix false rest
  | _, .literal _ :: _ => false

/-- Whether a row is a name, a literal or brackets, with what is read or called from it. Nothing binds
tighter. -/
def isTight : List Item → Bool
  | [] => false
  | .literal _ :: rest => isSuffix false rest
  | row => isSuffix true row

def isNumber (row : List Item) : Bool :=
  (rowText row).all Decimal.isNumeral && (rowText row).any Char.isDigit

/-- Whether chunks of a row are a value that can be compared. -/
def isValue : List (List Item) → Bool
  | [chunk] => isTight chunk || isNumber chunk
  | [word, chunk] => isWord ['n', 'e', 'w'] word && isTight chunk
  | _ => false

def comparisonSigns : List (List Char) :=
  [['=', '=', '='], ['!', '=', '='], ['<'], ['<', '='], ['>'], ['>', '=']]

def isComparison (chunk : List Item) : Bool :=
  comparisonSigns.any (isWord · chunk)

/-- Whether several chunks are an atom: a value, or two that are compared. -/
def isAtom (chunks : List (List Item)) : Bool :=
  match chunks.splitOnP isComparison with
  | [value] => isValue value
  | [left, right] => isValue left && isValue right
  | _ => false

/-! ## Rows -/

/-- The truth of an atom: constants have their own. -/
def atomTruth (valuation : List Char → Bool) (text : List Char) : Bool :=
  if text = ['t', 'r', 'u', 'e'] then true
  else if text = ['f', 'a', 'l', 's', 'e'] then false
  else valuation text

variable (v : List Char → Bool)

/-- The truth of an operand in one chunk. -/
def unaryTruth : List Item → Option Bool
  | [] => none
  -- nothing but parentheses: the condition in them, and no atom
  | [.parens _ truth] => truth
  | item :: rest =>
    if item.isChar '!' then (unaryTruth rest).map (!·)
    else if isTight (item :: rest) then some (atomTruth v (rowText (item :: rest)))
    else none

/-- The truth of an operand. -/
def operandTruth : List (List Item) → Option Bool
  | [chunk] => unaryTruth v chunk
  | chunks =>
    if isAtom chunks then some (atomTruth v ([' '].intercalate (chunks.map rowText))) else none

/-- Whether every truth is known and says so. -/
def conjunctionTruth (truths : List (Option Bool)) : Option Bool :=
  if truths.all Option.isSome then some (truths.all (· == some true)) else none

/-- Whether every truth is known and one of them says so. -/
def disjunctionTruth (truths : List (Option Bool)) : Option Bool :=
  if truths.all Option.isSome then some (truths.any (· == some true)) else none

def chunks (row : List Item) : List (List Item) :=
  row.splitOnP Item.isBlank

/-- The truth of chunks without a disjunction. -/
def conjunctTruth (chunks : List (List Item)) : Option Bool :=
  conjunctionTruth ((chunks.splitOnP (isWord ['&', '&'])).map (operandTruth v))

/-- The truth of a row; `none` if it is no condition. -/
def rowTruth (row : List Item) : Option Bool :=
  disjunctionTruth (((chunks row).splitOnP (isWord ['|', '|'])).map (conjunctTruth v))

/-! ## Brackets -/

def closing (opening : Char) : Char :=
  if opening = '(' then ')' else ']'

/-- The item of a pair of brackets. -/
def bracketItem (opening : Char) (inner : List Item) : Item :=
  let text := opening :: rowText inner ++ [closing opening]
  if opening = '(' then .parens text (rowTruth v inner) else .square text

/-- A character that code is made of, besides brackets. -/
def isPlain (c : Char) : Bool :=
  c.isAlphanum || ['_', '.', ',', ' ', '+', '-', '!', '&', '|', '=', '<', '>'].contains c

/-- What has been read and not yet been put between brackets. -/
inductive Entry where
  | item (item : Item)
  /-- A bracket that is still open. -/
  | opened (opening : Char)

/-- The items since the last open bracket in front of others, and the entries from that bracket on. The
last entry comes first. -/
def gather (behind : List Item) : List Entry → List Item × List Entry
  | .item item :: rest => gather (item :: behind) rest
  | entries => (behind, entries)

/-- Reads one part of a text. `none` if a bracket ends what was not begun, or if there is another
character than code is made of. -/
def step (entries : List Entry) : Mark → Option (List Entry)
  | .literal raw => some (.item (.literal raw) :: entries)
  | .code c =>
    if c = '(' || c = '[' then some (.opened c :: entries)
    else if c = ')' || c = ']' then
      -- the items since the last open bracket, which must be of the same kind
      match gather [] entries with
      | (inner, .opened opening :: rest) =>
        if c = closing opening then some (.item (bracketItem v opening inner) :: rest) else none
      | _ => none
    else if isPlain c then some (.item (.code c) :: entries)
    else none

def run : List Mark → List Entry → Option (List Entry)
  | [], entries => some entries
  | mark :: rest, entries => (step v entries mark).bind (run rest)

/-- The row of a text; `none` if its brackets do not match. -/
def items (cs : List Char) : Option (List Item) :=
  match (scan cs).bind fun marks => run v marks [] with
  | some entries =>
    match gather [] entries with
    | (row, []) => some row
    | _ => none
  | none => none

/-- The truth of a text under a valuation of its atoms; `none` if it is not one condition. -/
def truth (text : String) : Option Bool :=
  (items v text.toList).bind (rowTruth v)

/-! ## Texts in a row -/

variable {v}

theorem gather_map (row behind : List Item) (entries : List Entry) :
    gather behind (row.map Entry.item ++ entries) = gather (row.reverse ++ behind) entries := by
  induction row generalizing behind with
  | nil => rfl
  | cons item row ih =>
    rw [List.map_cons, List.cons_append, gather, ih]
    simp

theorem gather_append {behind inner : List Item} {entries rest : List Entry} {opening : Char}
    (h : gather behind entries = (inner, .opened opening :: rest)) (base : List Entry) :
    gather behind (entries ++ base) = (inner, .opened opening :: (rest ++ base)) := by
  induction entries generalizing behind with
  | nil => cases h
  | cons entry entries ih =>
    cases entry with
    | item item => exact ih h
    | opened c =>
      cases h
      rfl

/-- Items are all that there is if no bracket is open. -/
theorem eq_map_of_gather {behind row : List Item} {entries : List Entry}
    (h : gather behind entries = (row, [])) :
    ∃ own : List Item, entries = own.map Entry.item ∧ row = own.reverse ++ behind := by
  induction entries generalizing behind with
  | nil =>
    obtain rfl := (Prod.mk.inj h).1
    exact ⟨[], rfl, rfl⟩
  | cons entry entries ih =>
    cases entry with
    | item item =>
      obtain ⟨own, rfl, rfl⟩ := ih h
      exact ⟨item :: own, rfl, by simp⟩
    | opened c => cases h

theorem run_append (marks others : List Mark) (entries : List Entry) :
    run v (marks ++ others) entries = (run v marks entries).bind (run v others) := by
  induction marks generalizing entries with
  | nil => rfl
  | cons mark marks ih =>
    rw [List.cons_append, run, run, Option.bind_assoc]
    congr 1
    funext next
    exact ih next

/-- Reading does not look at what lies behind the entries it needs. -/
theorem step_frame {mark : Mark} {entries next : List Entry} (h : step v entries mark = some next)
    (base : List Entry) : step v (entries ++ base) mark = some (next ++ base) := by
  cases mark with
  | literal raw =>
    obtain rfl := Option.some.inj h
    rfl
  | code c =>
    unfold step at h ⊢
    dsimp only at h ⊢
    split_ifs at h ⊢ with opens closes plain
    · obtain rfl := Option.some.inj h
      rfl
    · split at h
      · next inner opening rest gathered =>
        -- the bracket that is closed was opened among the entries, hence above the base
        rw [gather_append gathered base]
        dsimp only
        split_ifs at h ⊢
        obtain rfl := Option.some.inj h
        rfl
      · cases h
    · obtain rfl := Option.some.inj h
      rfl

theorem run_frame {marks : List Mark} {entries final : List Entry}
    (h : run v marks entries = some final) (base : List Entry) :
    run v marks (entries ++ base) = some (final ++ base) := by
  induction marks generalizing entries with
  | nil =>
    obtain rfl := Option.some.inj h
    rfl
  | cons mark marks ih =>
    obtain ⟨next, stepped, rest⟩ := Option.bind_eq_some_iff.mp h
    rw [run, step_frame stepped base]
    exact ih rest

theorem items_eq_some_iff (cs : List Char) (row : List Item) :
    items v cs = some row ↔
      ∃ marks, scan cs = some marks ∧ run v marks [] = some (row.reverse.map Entry.item) := by
  unfold items
  cases scanned : scan cs with
  | none => simp
  | some marks =>
    simp only [Option.bind_some, Option.some.injEq, exists_eq_left']
    cases final : run v marks [] with
    | none => simp
    | some entries =>
      dsimp only
      constructor
      · intro h
        -- a row is left only if no bracket is open, and then the entries are its items
        split at h
        · next gathered =>
          obtain rfl := Option.some.inj h
          obtain ⟨own, rfl, rfl⟩ := eq_map_of_gather gathered
          simp
        · cases h
      · intro h
        obtain rfl := Option.some.inj h
        have gathered := gather_map row.reverse [] []
        simp only [List.append_nil, List.reverse_reverse] at gathered
        rw [gathered]
        rfl

/-- Texts with matching brackets are read one after the other. -/
theorem items_append {cs ds : List Char} {row more : List Item} (h : items v cs = some row)
    (h' : items v ds = some more) : items v (cs ++ ds) = some (row ++ more) := by
  rw [items_eq_some_iff] at h h' ⊢
  obtain ⟨marks, scanned, final⟩ := h
  obtain ⟨others, scanned', final'⟩ := h'
  refine ⟨marks ++ others, scan_append scanned scanned', ?_⟩
  rw [run_append, final, Option.bind_some]
  -- the second text is read as it would be by itself, on top of what the first one left
  have framed := run_frame final' (row.reverse.map Entry.item)
  rw [List.nil_append] at framed
  rw [framed, List.reverse_append, List.map_append]

theorem items_nil : items v [] = some [] := rfl

/-- Brackets around a text make it one item. -/
theorem items_brackets {opening : Char} (h : opening = '(' ∨ opening = '[') {cs : List Char}
    {row : List Item} (h' : items v cs = some row) :
    items v (opening :: cs ++ [closing opening]) = some [bracketItem v opening row] := by
  rw [items_eq_some_iff] at h' ⊢
  obtain ⟨marks, scanned, final⟩ := h'
  refine ⟨.code opening :: marks ++ [.code (closing opening)], ?_, ?_⟩
  · have first : scan [opening] = some [.code opening] := by
      rcases h with rfl | rfl <;> rfl
    have last : scan [closing opening] = some [.code (closing opening)] := by
      rcases h with rfl | rfl <;> rfl
    exact scan_append (scan_append first scanned) last
  · have opens : step v [] (.code opening) = some [.opened opening] := by
      rcases h with rfl | rfl <;> rfl
    have framed := run_frame final [.opened opening]
    have gathered := gather_map row.reverse [] [.opened opening]
    simp only [List.nil_append, List.append_nil, List.reverse_reverse] at framed gathered
    have closes : step v (row.reverse.map .item ++ [.opened opening]) (.code (closing opening)) =
        some [.item (bracketItem v opening row)] := by
      unfold step
      rw [gathered]
      rcases h with rfl | rfl <;> rfl
    rw [List.cons_append, run, opens, Option.bind_some, run_append, framed, Option.bind_some, run,
      closes]
    rfl

theorem items_encode (s : String) :
    items v (Json.encode s) = some [.literal (s.toList.flatMap Json.encodeChar)] :=
  (items_eq_some_iff ..).mpr ⟨_, scan_encode s, rfl⟩

/-- Other code is read character by character. -/
theorem items_of_isPlain {cs : List Char} (h : cs.all isPlain = true) :
    items v cs = some (cs.map Item.code) := by
  have one : ∀ c, isPlain c = true → items v [c] = some [.code c] := by
    intro c plain
    -- none of the characters that the scan or the brackets care for is plain
    have noQuote : c ≠ '"' := by
      rintro rfl
      exact absurd plain (by decide)
    have noBracket : c ≠ '(' ∧ c ≠ '[' ∧ c ≠ ')' ∧ c ≠ ']' := by
      refine ⟨?_, ?_, ?_, ?_⟩ <;> rintro rfl <;> exact absurd plain (by decide)
    rw [items_eq_some_iff]
    refine ⟨[.code c], scan_of_not_mem (by simpa using Ne.symm noQuote), ?_⟩
    simp [run, step, noBracket, plain]
  induction cs with
  | nil => rfl
  | cons c cs ih =>
    rw [List.all_cons, Bool.and_eq_true] at h
    exact items_append (one c h.1) (ih h.2)

/-! ## Nothing is lost -/

def Entry.text : Entry → List Char
  | .item part => part.text
  | .opened opening => [opening]

def entriesText (entries : List Entry) : List Char :=
  entries.reverse.flatMap Entry.text

theorem entriesText_cons (entry : Entry) (entries : List Entry) :
    entriesText (entry :: entries) = entriesText entries ++ entry.text := by
  simp [entriesText]

theorem entriesText_gather (behind : List Item) (entries : List Entry) :
    entriesText (gather behind entries).2 ++ rowText (gather behind entries).1 =
      entriesText entries ++ rowText behind := by
  induction entries generalizing behind with
  | nil => rfl
  | cons entry entries ih =>
    cases entry with
    | item part =>
      rw [gather, ih, entriesText_cons]
      simp [rowText, Entry.text]
    | opened opening => rfl

theorem text_bracketItem (opening : Char) (inner : List Item) :
    (bracketItem v opening inner).text = opening :: rowText inner ++ [closing opening] := by
  unfold bracketItem
  dsimp only
  split <;> rfl

theorem entriesText_step {mark : Mark} {entries next : List Entry}
    (h : step v entries mark = some next) : entriesText next = entriesText entries ++ mark.text := by
  cases mark with
  | literal raw =>
    obtain rfl := Option.some.inj h
    exact entriesText_cons ..
  | code c =>
    unfold step at h
    dsimp only at h
    split_ifs at h with opens closes plain
    · obtain rfl := Option.some.inj h
      exact entriesText_cons ..
    · -- the gathered items are put into brackets, which are the two characters that they lack
      have kept := entriesText_gather [] entries
      split at h
      · next inner opening rest gathered =>
        split_ifs at h with matched
        obtain rfl := Option.some.inj h
        rw [gathered, entriesText_cons] at kept
        rw [entriesText_cons, Mark.text, matched]
        simpa [Entry.text, text_bracketItem, rowText] using congrArg (· ++ [closing opening]) kept
      · cases h
    · obtain rfl := Option.some.inj h
      exact entriesText_cons ..

theorem entriesText_run {marks : List Mark} {entries final : List Entry}
    (h : run v marks entries = some final) :
    entriesText final = entriesText entries ++ marks.flatMap Mark.text := by
  induction marks generalizing entries with
  | nil =>
    obtain rfl := Option.some.inj h
    simp
  | cons mark marks ih =>
    obtain ⟨next, stepped, rest⟩ := Option.bind_eq_some_iff.mp h
    rw [ih rest, entriesText_step stepped, List.append_assoc]
    rfl

/-- The items of a text make up the text. -/
theorem rowText_items {cs : List Char} {row : List Item} (h : items v cs = some row) :
    rowText row = cs := by
  obtain ⟨marks, scanned, final⟩ := (items_eq_some_iff ..).mp h
  have kept := entriesText_run final
  have own : entriesText (row.reverse.map Entry.item) = rowText row := by
    rw [entriesText, ← List.map_reverse, List.reverse_reverse, List.flatMap_map]
    rfl
  rw [own, text_scan scanned] at kept
  exact kept

end TaskFilter.Script
