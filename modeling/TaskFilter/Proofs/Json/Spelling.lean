import Mathlib.Data.Option.Basic
import Mathlib.Tactic.SplitIfs
import TaskFilter.Json.Token
import TaskFilter.Proofs.Json.Quoted

/-!
# Spellings of tokens

One row of tokens has many texts: blanks stand between tokens in any number, a character of a string can be
escaped in several ways, and a number can have a point or an exponent. The relations of this module say what
the texts of tokens are, without saying how they are read.

## Layers

- **Letters and numbers**: `Letter.Spelled` and `SpelledNumber`, with what the readers of strings and of
  numbers make of them.
- **Tokens**: `Token.Spelled`, and `read_spelled` for the first token of a text.
- **Texts**: `Spelled`, and the main statement `ofText_spelled`: the tokens of a text are those that it
  spells.
-/

namespace TaskFilter.Json

/-! ## Strings -/

/-- What can be written for a letter between quotes. -/
inductive Letter.Spelled : Letter → List Char → Prop where
  | plain (c : Char) (quote : c ≠ '"') (backslash : c ≠ '\\') (printable : 0x20 ≤ c.toNat) :
      Spelled (.char c) [c]
  | short (name c : Char) (h : shortEscape? name = some c) : Spelled (.char c) ['\\', name]
  | numeric (a b c d : Char) (n : Nat) (h : hexNumber? [a, b, c, d] = some n) :
      Spelled (.unit n) ['\\', 'u', a, b, c, d]

/-- What can be written for a row of letters. -/
inductive SpelledLetters : List Letter → List Char → Prop where
  | nil : SpelledLetters [] []
  | cons {letter : Letter} {letters : List Letter} {cs rest : List Char} (first : letter.Spelled cs)
      (others : SpelledLetters letters rest) : SpelledLetters (letter :: letters) (cs ++ rest)

/-- The letters between two quotes are read up to the second one. -/
theorem readLetters_spelled {letters : List Letter} {cs : List Char} (h : SpelledLetters letters cs)
    (rest : List Char) : readLetters (cs ++ '"' :: rest) = some (letters, rest) := by
  induction h with
  | nil => rfl
  | cons first _ ih =>
    rw [List.append_assoc]
    cases first with
    | plain c quote backslash printable =>
      rw [List.singleton_append, readLetters_plain quote backslash printable, ih]
      rfl
    | short name c h =>
      rw [List.cons_append, List.singleton_append, readLetters_short h, ih]
      rfl
    | numeric a b c d n h =>
      simp only [List.cons_append, List.nil_append]
      rw [readLetters_unit h, ih]
      rfl

/-- What is written for a string spells its letters. -/
theorem spelledLetters_encode (cs : List Char) :
    SpelledLetters (cs.map letterOf) (cs.flatMap encodeChar) := by
  induction cs with
  | nil => exact .nil
  | cons c cs ih =>
    refine .cons ?_ ih
    cases written c with
    | short name h form letter =>
      rw [form, letter]
      exact .short name c h
    | numeric control form letter =>
      rw [form, letter]
      exact .numeric _ _ _ _ _ (hexNumber?_control control)
    | plain quote backslash printable form letter =>
      rw [form, letter]
      exact .plain c quote backslash printable

/-! ## Numbers -/

/-- A row of at least one digit. -/
def Digits (ds : List Char) : Prop :=
  ds ≠ [] ∧ ∀ c ∈ ds, Decimal.isDigit c = true

/-- A fraction: a point and digits, or nothing. -/
inductive SpelledFraction : List Char → List Char → Prop where
  | none : SpelledFraction [] []
  | some (ds : List Char) (h : Digits ds) : SpelledFraction ds ('.' :: ds)

/-- An exponent: its mark, perhaps a sign, and digits; or nothing. -/
inductive SpelledExponent : Option Int → List Char → Prop where
  | none : SpelledExponent none []
  | unsigned (mark : Char) (marked : mark = 'e' ∨ mark = 'E') (ds : List Char) (h : Digits ds) :
      SpelledExponent (some (Decimal.natural ds)) (mark :: ds)
  | positive (mark : Char) (marked : mark = 'e' ∨ mark = 'E') (ds : List Char) (h : Digits ds) :
      SpelledExponent (some (Decimal.natural ds)) (mark :: '+' :: ds)
  | negative (mark : Char) (marked : mark = 'e' ∨ mark = 'E') (ds : List Char) (h : Digits ds) :
      SpelledExponent (some (-Decimal.natural ds)) (mark :: '-' :: ds)

/-- A number: perhaps a minus sign, a whole part without needless zeros, a fraction and an exponent. The
number is `none` if it is too large for a double. -/
inductive SpelledNumber : Option Number → List Char → Prop where
  | mk (negative : Bool) (whole fraction : List Char) (exponent : Option Int)
      (fractionText exponentText : List Char) (digits : Digits whole)
      (leading : whole.head? ≠ some '0' ∨ whole.length = 1)
      (hf : SpelledFraction fraction fractionText) (he : SpelledExponent exponent exponentText) :
      SpelledNumber (Number.ofLiteral negative whole fraction exponent)
        ((if negative then ['-'] else []) ++ (whole ++ (fractionText ++ exponentText)))

/-- The text does not start with a character that could belong to a number before it. -/
def EndsNumber (rest : List Char) : Prop :=
  ∀ c ∈ rest.head?, Decimal.isDigit c = false ∧ c ≠ '.' ∧ c ≠ 'e' ∧ c ≠ 'E'

/-- The text does not start with a digit. -/
def EndsDigits (rest : List Char) : Prop :=
  ∀ c ∈ rest.head?, Decimal.isDigit c = false

theorem digits_append {ds rest : List Char} (h : Digits ds) (ends : EndsDigits rest) :
    Token.digits (ds ++ rest) = (ds, rest) := by
  have left : rest.takeWhile Decimal.isDigit = [] ∧ rest.dropWhile Decimal.isDigit = rest := by
    cases rest with
    | nil => exact ⟨rfl, rfl⟩
    | cons c rest =>
      have digit := ends c rfl
      simp [digit]
  rw [Token.digits, List.takeWhile_append_of_pos h.2, List.dropWhile_append_of_pos h.2, left.1,
    left.2, List.append_nil]

theorem Digits.exists_cons {ds : List Char} (h : Digits ds) :
    ∃ d rest, ds = d :: rest ∧ Decimal.isDigit d = true := by
  obtain ⟨d, rest, rfl⟩ := List.exists_cons_of_ne_nil h.1
  exact ⟨d, rest, rfl, h.2 d List.mem_cons_self⟩

theorem SpelledExponent.endsDigits {exponent : Option Int} {text rest : List Char}
    (h : SpelledExponent exponent text) (ends : EndsNumber rest) : EndsDigits (text ++ rest) := by
  cases h with
  | none => exact fun c first => (ends c first).1
  | unsigned mark marked | positive mark marked | negative mark marked =>
    intro c first
    obtain rfl : mark = c := Option.some.inj first
    rcases marked with rfl | rfl <;> rfl

theorem SpelledExponent.head?_ne_point {exponent : Option Int} {text rest : List Char}
    (h : SpelledExponent exponent text) (ends : EndsNumber rest) :
    ∀ c ∈ (text ++ rest).head?, c ≠ '.' := by
  cases h with
  | none => exact fun c first => (ends c first).2.1
  | unsigned mark marked | positive mark marked | negative mark marked =>
    intro c first
    obtain rfl : mark = c := Option.some.inj first
    rcases marked with rfl | rfl <;> decide

theorem unsigned_spelled {ds rest : List Char} (h : Digits ds) (ends : EndsDigits rest)
    (sign : Int → Int) :
    Token.readExponent.unsigned (ds ++ rest) sign = some (some (sign (Decimal.natural ds)), rest) := by
  simp only [Token.readExponent.unsigned, digits_append h ends]
  exact if_neg (by simpa using h.1)

/-- Digits are no sign. -/
theorem signed_spelled {ds rest : List Char} (h : Digits ds) (ends : EndsDigits rest) :
    Token.readExponent.signed (ds ++ rest) = some (some (Decimal.natural ds : Int), rest) := by
  obtain ⟨d, others, rfl, digit⟩ := h.exists_cons
  rw [← unsigned_spelled h ends fun n => n]
  unfold Token.readExponent.signed
  -- neither sign is a digit
  split
  next same =>
    obtain rfl := (List.cons.inj same).1
    cases digit
  next same =>
    obtain rfl := (List.cons.inj same).1
    cases digit
  next => rfl

theorem readExponent_spelled {exponent : Option Int} {text rest : List Char}
    (h : SpelledExponent exponent text) (ends : EndsNumber rest) :
    Token.readExponent (text ++ rest) = some (exponent, rest) := by
  have ended : EndsDigits rest := fun c first => (ends c first).1
  cases h with
  | none =>
    rw [List.nil_append]
    unfold Token.readExponent
    -- what follows starts with no mark of an exponent
    split
    next => exact absurd rfl (ends 'e' rfl).2.2.1
    next => exact absurd rfl (ends 'E' rfl).2.2.2
    next => rfl
  | unsigned mark marked ds digits =>
    rcases marked with rfl | rfl <;> exact signed_spelled digits ended
  | positive mark marked ds digits =>
    rcases marked with rfl | rfl <;> exact unsigned_spelled digits ended fun n => n
  | negative mark marked ds digits =>
    rcases marked with rfl | rfl <;> exact unsigned_spelled digits ended fun n => -n

theorem readFraction_spelled {fraction text rest : List Char} (h : SpelledFraction fraction text)
    (ends : EndsDigits rest) (point : ∀ c ∈ rest.head?, c ≠ '.') :
    Token.readFraction (text ++ rest) = some (fraction, rest) := by
  cases h with
  | none =>
    rw [List.nil_append]
    unfold Token.readFraction
    split
    next => exact absurd rfl (point '.' rfl)
    next => rfl
  | some _ digits =>
    simp only [List.cons_append, Token.readFraction, digits_append digits ends]
    exact if_neg (by simpa using digits.1)

theorem SpelledFraction.endsDigits {fraction text rest : List Char}
    (h : SpelledFraction fraction text) (ends : EndsDigits rest) : EndsDigits (text ++ rest) := by
  cases h with
  | none => exact ends
  | some _ _ =>
    intro c first
    obtain rfl : '.' = c := Option.some.inj first
    rfl

/-- A number is read up to its end. -/
theorem readNumber_spelled {negative : Bool} {whole fraction : List Char} {exponent : Option Int}
    {fractionText exponentText rest : List Char} (digits : Digits whole)
    (leading : whole.head? ≠ some '0' ∨ whole.length = 1)
    (hf : SpelledFraction fraction fractionText) (he : SpelledExponent exponent exponentText)
    (ends : EndsNumber rest) :
    Token.readNumber negative (whole ++ (fractionText ++ (exponentText ++ rest))) =
      some (.number (Number.ofLiteral negative whole fraction exponent), rest) := by
  have behindFraction := he.endsDigits ends
  have allowed : (!whole.isEmpty && (whole.head? != some '0' || whole.length == 1)) = true := by
    have nonempty := digits.1
    simpa [nonempty] using leading
  simp only [Token.readNumber, digits_append digits (hf.endsDigits behindFraction), allowed, guard,
    readFraction_spelled hf behindFraction (he.head?_ne_point ends), readExponent_spelled he ends,
    Option.bind_eq_bind, Option.bind_some, if_true, Option.pure_def]

/-! ## Tokens -/

/-- What can be written for a token. -/
inductive Token.Spelled : Token → List Char → Prop where
  | comma : Spelled .comma [',']
  | colon : Spelled .colon [':']
  | openArray : Spelled .openArray ['[']
  | closeArray : Spelled .closeArray [']']
  | openObject : Spelled .openObject ['\x7b']
  | closeObject : Spelled .closeObject ['\x7d']
  | null : Spelled .null ['n', 'u', 'l', 'l']
  | yes : Spelled (.bool true) ['t', 'r', 'u', 'e']
  | no : Spelled (.bool false) ['f', 'a', 'l', 's', 'e']
  | number {n : Option Number} {cs : List Char} (h : SpelledNumber n cs) : Spelled (.number n) cs
  | string {letters : List Letter} {cs : List Char} (h : SpelledLetters letters cs) :
      Spelled (.string ((characters letters).map String.ofList)) ('"' :: (cs ++ ['"']))

/-- Whether the text behind a token keeps apart from it. Only numbers have no end of their own. -/
def Token.Apart : Token → List Char → Prop
  | .number _, rest => EndsNumber rest
  | _, _ => True

theorem read_digits {ds rest : List Char} (h : Digits ds) :
    Token.read (ds ++ rest) = Token.readNumber false (ds ++ rest) := by
  obtain ⟨d, others, rfl, digit⟩ := h.exists_cons
  unfold Token.read
  -- no other token starts with a digit
  split
  all_goals first
    | rfl
    | next same =>
      obtain rfl := (List.cons.inj same).1
      cases digit

/-- The first token of a text is read up to its end. -/
theorem read_spelled {token : Token} {cs rest : List Char} (h : token.Spelled cs)
    (apart : token.Apart rest) : Token.read (cs ++ rest) = some (token, rest) := by
  cases h with
  | comma | colon | openArray | closeArray | openObject | closeObject | null | yes | no => rfl
  | string h =>
    rw [List.cons_append, List.append_assoc, List.singleton_append]
    simp only [Token.read, readLetters_spelled h, Option.map_some]
  | number h =>
    obtain ⟨negative, whole, fraction, exponent, fractionText, exponentText, digits, leading, hf, he⟩ := h
    have read := @readNumber_spelled negative _ _ _ _ _ _ digits leading hf he apart
    cases negative with
    | false =>
      simp only [Bool.false_eq_true, ↓reduceIte, List.nil_append, List.append_assoc]
      rw [read_digits digits, read]
    | true =>
      simp only [↓reduceIte, List.cons_append, List.nil_append, List.append_assoc]
      exact read

/-- A token starts with a character of its own. -/
theorem Token.Spelled.exists_cons {token : Token} {cs : List Char} (h : token.Spelled cs) :
    ∃ c others, cs = c :: others ∧ Token.isSpace c = false := by
  cases h with
  | comma | colon | openArray | closeArray | openObject | closeObject | null | yes | no | string =>
    exact ⟨_, _, rfl, rfl⟩
  | number h =>
    obtain ⟨negative, whole, fraction, exponent, fractionText, exponentText, digits, leading, hf, he⟩ := h
    obtain ⟨d, others, rfl, digit⟩ := digits.exists_cons
    cases negative with
    | true => exact ⟨_, _, rfl, rfl⟩
    | false =>
      refine ⟨_, _, rfl, ?_⟩
      -- a digit is no blank
      simp only [Token.isSpace, Bool.or_eq_false_iff, decide_eq_false_iff_not]
      refine ⟨⟨⟨?_, ?_⟩, ?_⟩, ?_⟩ <;> rintro rfl <;> cases digit

/-! ## Texts -/

/-- Characters that may stand between two tokens. -/
def Blank (cs : List Char) : Prop :=
  ∀ c ∈ cs, Token.isSpace c = true

/-- What can be written for a row of tokens: one token after the other, with blanks around them. -/
inductive Spelled : List Token → List Char → Prop where
  | nil {blank : List Char} (h : Blank blank) : Spelled [] blank
  | cons {token : Token} {tokens : List Token} {blank cs rest : List Char} (h : Blank blank)
      (first : token.Spelled cs) (apart : token.Apart rest) (others : Spelled tokens rest) :
      Spelled (token :: tokens) (blank ++ (cs ++ rest))

theorem dropWhile_blank {blank rest : List Char} (h : Blank blank) :
    (blank ++ rest).dropWhile Token.isSpace = rest.dropWhile Token.isSpace :=
  List.dropWhile_append_of_pos h

/-- Each token takes one step of the scanner. -/
theorem scan_spelled {tokens : List Token} {cs : List Char} (h : Spelled tokens cs) :
    ∀ {steps : Nat}, tokens.length ≤ steps → Token.scan steps cs = tokens := by
  induction h with
  | @nil blank h =>
    intro steps _
    cases steps with
    | zero => rfl
    | succ steps =>
      have none : blank.dropWhile Token.isSpace = [] := by
        have dropped := @dropWhile_blank blank [] h
        rwa [List.append_nil] at dropped
      rw [Token.scan, none]
  | cons h first apart _ ih =>
    intro steps enough
    rw [List.length_cons] at enough
    cases steps with
    | zero => omega
    | succ steps =>
      have read := read_spelled first apart
      obtain ⟨c, others, rfl, own⟩ := first.exists_cons
      rw [List.cons_append] at read
      rw [Token.scan, dropWhile_blank h, List.cons_append, List.dropWhile_cons_of_neg (by simp [own])]
      simp only [read]
      rw [ih (by omega)]

theorem length_le_of_spelled {tokens : List Token} {cs : List Char} (h : Spelled tokens cs) :
    tokens.length ≤ cs.length := by
  induction h with
  | nil => exact Nat.zero_le _
  | cons _ first _ _ ih =>
    obtain ⟨c, others, rfl, -⟩ := first.exists_cons
    simp only [List.length_cons, List.length_append]
    omega

/-- The tokens of a text are those that it spells. -/
theorem ofText_spelled {tokens : List Token} {text : String} (h : Spelled tokens text.toList) :
    Token.ofText text = tokens :=
  scan_spelled h (length_le_of_spelled h)

/-! ## Putting spellings together -/

theorem Spelled.blank {tokens : List Token} {blank rest : List Char} (h : Blank blank)
    (others : Spelled tokens rest) : Spelled tokens (blank ++ rest) := by
  have both : ∀ {own : List Char}, Blank own → Blank (blank ++ own) :=
    fun own => List.forall_mem_append.mpr ⟨h, own⟩
  cases others with
  | nil own => exact .nil (both own)
  | cons own first apart others =>
    rw [← List.append_assoc]
    exact .cons (both own) first apart others

/-- A token in front of a text, without a blank. -/
theorem Spelled.token {token : Token} {tokens : List Token} {cs rest : List Char}
    (first : token.Spelled cs) (apart : token.Apart rest) (others : Spelled tokens rest) :
    Spelled (token :: tokens) (cs ++ rest) :=
  .cons (fun _ member => absurd member List.not_mem_nil) first apart others

end TaskFilter.Json
