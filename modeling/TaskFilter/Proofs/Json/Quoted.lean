import Mathlib.Data.Option.Basic
import Mathlib.Tactic.SplitIfs
import TaskFilter.Json.Quoted

/-!
# Writing and reading strings

What is written for a string reads back as the string, whatever follows its closing quote, and holds no
control character.

Main statements: `readLetters_encoded` and `characters_letterOf` together say that reading undoes writing,
and `decode_encoded` says it in one step.
-/

namespace TaskFilter.Json

/-! ## Written characters -/

/-- The letter that a written character is read back as. -/
def letterOf (c : Char) : Letter :=
  match encodeChar c with
  | '\\' :: 'u' :: _ => .unit c.toNat
  | _ => .char c

/-- How a character is written: behind a backslash, as a number, or as it is. -/
inductive Written (c : Char) : Prop where
  | short (name : Char) (h : shortEscape? name = some c) (written : encodeChar c = ['\\', name])
      (letter : letterOf c = .char c)
  | numeric (h : c.toNat < 0x20)
      (written : encodeChar c =
        ['\\', 'u', '0', '0', hexDigit (c.toNat / 16), hexDigit (c.toNat % 16)])
      (letter : letterOf c = .unit c.toNat)
  | plain (quote : c ≠ '"') (backslash : c ≠ '\\') (printable : 0x20 ≤ c.toNat)
      (written : encodeChar c = [c]) (letter : letterOf c = .char c)

theorem written (c : Char) : Written c := by
  -- the cases are those of the definition, in its order
  by_cases quote : c = '"'
  · subst quote
    exact .short '"' rfl rfl rfl
  by_cases backslash : c = '\\'
  · subst backslash
    exact .short '\\' rfl rfl rfl
  by_cases backspace : c = '\x08'
  · subst backspace
    exact .short 'b' rfl rfl rfl
  by_cases feed : c = '\x0c'
  · subst feed
    exact .short 'f' rfl rfl rfl
  by_cases newline : c = '\n'
  · subst newline
    exact .short 'n' rfl rfl rfl
  by_cases carriage : c = '\r'
  · subst carriage
    exact .short 'r' rfl rfl rfl
  by_cases tab : c = '\t'
  · subst tab
    exact .short 't' rfl rfl rfl
  by_cases control : c.toNat < 0x20
  · have form : encodeChar c =
        ['\\', 'u', '0', '0', hexDigit (c.toNat / 16), hexDigit (c.toNat % 16)] := by
      simp only [encodeChar, quote, backslash, backspace, feed, newline, carriage, tab, control,
        ↓reduceIte]
    exact .numeric control form (by rw [letterOf, form]; rfl)
  · have form : encodeChar c = [c] := by
      simp only [encodeChar, quote, backslash, backspace, feed, newline, carriage, tab, control,
        ↓reduceIte]
    exact .plain quote backslash (by omega) form (by rw [letterOf, form]; simp)

/-- Two hexadecimal digits are enough for a control character. -/
theorem hexNumber?_control {n : Nat} (h : n < 0x20) :
    hexNumber? ['0', '0', hexDigit (n / 16), hexDigit (n % 16)] = some n := by
  have each : ∀ m < 0x20, hexNumber? ['0', '0', hexDigit (m / 16), hexDigit (m % 16)] = some m := by
    decide
  exact each n h

/-- No control character is written as it is. -/
theorem printable_of_mem_encodeChar {c d : Char} (h : d ∈ encodeChar c) : 0x20 ≤ d.toNat := by
  cases written c with
  | short name escape form =>
    -- the names of short escapes are letters, or are written as they are
    have plain : ∀ name value, shortEscape? name = some value → 0x20 ≤ name.toNat := by
      intro name value escape
      unfold shortEscape? at escape
      split_ifs at escape <;> simp_all
    simp only [form, List.mem_cons, List.not_mem_nil, or_false] at h
    rcases h with backslash | short
    · rw [backslash]
      decide
    · rw [short]
      exact plain name c escape
  | numeric control form =>
    have digits : ∀ n < 0x20, (['\\', 'u', '0', '0', hexDigit (n / 16), hexDigit (n % 16)].all
        fun d => 0x20 ≤ d.toNat) = true := by
      decide
    have each := List.all_eq_true.mp (digits _ control) d (form ▸ h)
    exact of_decide_eq_true each
  | plain quote backslash printable form =>
    rw [form, List.mem_singleton] at h
    exact h ▸ printable

/-! ## Reading one letter -/

theorem readLetters_short {c value : Char} (h : shortEscape? c = some value) (rest : List Char) :
    readLetters ('\\' :: c :: rest) = (readLetters rest).map fun r => (.char value :: r.1, r.2) := by
  have notNumeric : c ≠ 'u' := by
    rintro rfl
    cases h
  -- the equation for numbers comes first, and does not apply
  rw [readLetters.eq_4]
  · cases readLetters rest <;> simp [h, bind]
  · rintro a b c d rest rfl
    exact absurd rfl notNumeric

theorem readLetters_unit {a b c d : Char} {value : Nat} (h : hexNumber? [a, b, c, d] = some value)
    (rest : List Char) :
    readLetters ('\\' :: 'u' :: a :: b :: c :: d :: rest) =
      (readLetters rest).map fun r => (.unit value :: r.1, r.2) := by
  rw [readLetters]
  cases readLetters rest <;> simp [h]

theorem readLetters_plain {c : Char} (quote : c ≠ '"') (backslash : c ≠ '\\')
    (printable : 0x20 ≤ c.toNat) (rest : List Char) :
    readLetters (c :: rest) = (readLetters rest).map fun r => (.char c :: r.1, r.2) := by
  rw [readLetters]
  · have allowed : (guard (0x20 ≤ c.toNat && c ≠ '\\') : Option Unit) = some () :=
      if_pos (by simp [printable, backslash])
    rw [allowed]
    cases readLetters rest <;> rfl
  all_goals simp_all

/-! ## Reading what was written -/

/-- A written character is read back as one letter. -/
theorem readLetters_encodeChar (c : Char) (rest : List Char) :
    readLetters (encodeChar c ++ rest) =
      (readLetters rest).map fun r => (letterOf c :: r.1, r.2) := by
  cases written c with
  | short name escape form letter =>
    rw [form, letter]
    exact readLetters_short escape rest
  | numeric control form letter =>
    rw [form, letter]
    exact readLetters_unit (hexNumber?_control control) rest
  | plain quote backslash printable form letter =>
    rw [form, letter]
    exact readLetters_plain quote backslash printable rest

/-- A string is read up to its own closing quote. -/
theorem readLetters_encoded (cs rest : List Char) :
    readLetters (cs.flatMap encodeChar ++ '"' :: rest) = some (cs.map letterOf, rest) := by
  induction cs with
  | nil => rfl
  | cons c cs ih =>
    rw [List.flatMap_cons, List.append_assoc, readLetters_encodeChar, ih]
    rfl

/-- A letter that is read back stands for the character that was written, whatever letters follow. -/
theorem characters_letterOf_cons (c : Char) (letters : List Letter) :
    characters (letterOf c :: letters) = (characters letters).map (c :: ·) := by
  cases written c with
  | short _ _ _ letter | plain _ _ _ _ letter => rw [letter, characters]
  | numeric control _ letter =>
    -- a control character is no half of a pair, so that it does not wait for the next letter
    have leading : isLeading c.toNat = false := by simp [isLeading]; omega
    have trailing : isTrailing c.toNat = false := by simp [isTrailing]; omega
    rw [letter]
    match letters with
    | [] => simp [characters, leading, trailing, Char.ofNat_toNat]
    | .char _ :: _ => simp [characters, leading, trailing, Char.ofNat_toNat]
    | .unit _ :: _ => rw [characters]; simp [leading, trailing, Char.ofNat_toNat]

theorem characters_letterOf (cs : List Char) : characters (cs.map letterOf) = some cs := by
  induction cs with
  | nil => rfl
  | cons c cs ih =>
    rw [List.map_cons, characters_letterOf_cons, ih]
    rfl

/-- What the text between two quotes stands for; `none` if it is not all of one string. -/
def decode (raw : List Char) : Option String :=
  match readLetters (raw ++ ['"']) with
  | some (letters, []) => (characters letters).map String.ofList
  | _ => none

theorem decode_encoded (s : String) : decode (s.toList.flatMap encodeChar) = some s := by
  rw [decode, readLetters_encoded]
  simp only [characters_letterOf, Option.map_some, String.ofList_toList]

end TaskFilter.Json
