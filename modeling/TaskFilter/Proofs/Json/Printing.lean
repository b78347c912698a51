import TaskFilter.Json.Printer
import TaskFilter.Proofs.Decimal.Writing
import TaskFilter.Proofs.Json.Parsing

/-!
# Written values

A value is written so that its text spells it, compact or over several lines, and so the text is read as the
value again. Numbers are integers here: doubles are written by rounding, which is another matter.

## Layers

- **Documents of values**: `ofJson`, and what is read of it (`value?_ofJson`).
- **Writing**: `spelled_write` and `spelled_writeLines`, for any text behind the value.
- **Main statements**: `spells_compact` and `spells_pretty`.
-/

namespace TaskFilter

namespace Number

/-- The number is an integer of at most 64 bits. -/
def IsIntegral : Number → Prop
  | .integer value => HasIntegerForm value
  | .float _ => False

end Number

namespace Json

/-! ## Documents of values -/

namespace Document

mutual

/-- The document of a text that spells a value. -/
def ofJson : Json → Document
  | .null => .null
  | .bool value => .bool value
  | .number value => .number (some value)
  | .string value => .string (some value)
  | .array items => .array (ofJsons items) true
  | .object members => .object (ofMembers members) true

def ofJsons : List Json → List Document
  | [] => []
  | item :: rest => ofJson item :: ofJsons rest

def ofMembers : List (String × Json) → List (Option String × Document)
  | [] => []
  | (key, value) :: rest => (some key, ofJson value) :: ofMembers rest

end

theorem ofMembers_eq_map (members : List (String × Json)) :
    ofMembers members = members.map fun member => (some member.1, ofJson member.2) := by
  induction members with
  | nil => rfl
  | cons member members ih => rw [ofMembers, ih]; rfl

theorem ofJsons_strings (items : List String) :
    ofJsons (items.map .string) = items.map fun item => .string (some item) := by
  induction items with
  | nil => rfl
  | cons item items ih => rw [List.map_cons, ofJsons, ih]; rfl

mutual

theorem isWhole_ofJson : (value : Json) → (ofJson value).isWhole = true
  | .null | .bool _ | .number _ | .string _ => rfl
  | .array items => by rw [ofJson, isWhole, areWhole_ofJsons items]; rfl
  | .object members => by rw [ofJson, isWhole, areMembersWhole_ofMembers members]; rfl

theorem areWhole_ofJsons : (items : List Json) → areWhole (ofJsons items) = true
  | [] => rfl
  | item :: rest => by rw [ofJsons, areWhole, isWhole_ofJson item, areWhole_ofJsons rest]; rfl

theorem areMembersWhole_ofMembers : (members : List (String × Json)) →
    areMembersWhole (ofMembers members) = true
  | [] => rfl
  | (key, value) :: rest => by
    rw [ofMembers, areMembersWhole, isWhole_ofJson value, areMembersWhole_ofMembers rest]; rfl

end

mutual

/-- The document of a value holds the value, if that is not nested too deeply. -/
theorem value?_ofJson : (value : Json) → ∀ {limit : Nat}, value.depth ≤ limit →
    (ofJson value).value? limit = some value
  | .null, _, _ | .bool _, _, _ | .number _, _, _ | .string _, _, _ => by
    simp [ofJson, value?]
  | .array items, limit, enough => by
    rw [depth] at enough
    have inner := values?_ofJsons items (by omega : depthItems items ≤ limit - 1)
    simp [ofJson, value?, inner, guard, (by omega : 0 < limit)]
  | .object members, limit, enough => by
    rw [depth] at enough
    have inner := memberValues?_ofMembers members (by omega : depthMembers members ≤ limit - 1)
    simp [ofJson, value?, inner, guard, (by omega : 0 < limit)]

theorem values?_ofJsons : (items : List Json) → ∀ {limit : Nat}, depthItems items ≤ limit →
    values? limit (ofJsons items) = some items
  | [], _, _ => rfl
  | item :: rest, limit, enough => by
    rw [depthItems] at enough
    simp [ofJsons, values?, value?_ofJson item (by omega : item.depth ≤ limit),
      values?_ofJsons rest (by omega : depthItems rest ≤ limit)]

theorem memberValues?_ofMembers : (members : List (String × Json)) → ∀ {limit : Nat},
    depthMembers members ≤ limit → memberValues? limit (ofMembers members) = some members
  | [], _, _ => rfl
  | (key, value) :: rest, limit, enough => by
    rw [depthMembers] at enough
    simp [ofMembers, memberValues?, value?_ofJson value (by omega : value.depth ≤ limit),
      memberValues?_ofMembers rest (by omega : depthMembers rest ≤ limit)]

end

end Document

/-- What can be written for a value. -/
def Spells (text : String) (value : Json) : Prop :=
  Spelled (Document.ofJson value).tokens text.toList

/-! ## Written tokens -/

/-- What is written for a string spells it. -/
theorem spelled_encode (s : String) : Token.Spelled (.string (some s)) (encode s) := by
  have spelled := Token.Spelled.string (spelledLetters_encode s.toList)
  rw [characters_letterOf, Option.map_some, String.ofList_toList] at spelled
  exact spelled

theorem digits_toDigits (n : Nat) : Digits (Nat.toDigits 10 n) :=
  ⟨Nat.toDigits_ne_nil, fun _ member => Decimal.isDigit_of_mem_toDigits member⟩

theorem leading_toDigits (n : Nat) :
    (Nat.toDigits 10 n).head? ≠ some '0' ∨ (Nat.toDigits 10 n).length = 1 := by
  rcases Nat.eq_zero_or_pos n with rfl | positive
  · exact .inr rfl
  · exact .inl (Decimal.head?_toDigits positive)

/-- What is written for an integer spells it. -/
theorem spelledNumber_write : (n : Number) → n.IsIntegral → SpelledNumber (some n) n.write
  | .integer (.ofNat n), small => by
    have literal : Number.ofLiteral false (Nat.toDigits 10 n) [] none = some (.integer n) := by
      simp only [Number.ofLiteral, Decimal.natural_toDigits]
      exact if_pos (by simpa using Int.ofNat_lt.mp small.2)
    have spelled := SpelledNumber.mk false (Nat.toDigits 10 n) [] none [] [] (digits_toDigits n)
      (leading_toDigits n) .none .none
    rw [literal] at spelled
    simpa [Number.write, Number.writeInteger] using spelled
  | .integer (.negSucc n), small => by
    have literal : Number.ofLiteral true (Nat.toDigits 10 (n + 1)) [] none =
        some (.integer (.negSucc n)) := by
      -- below zero, the bound itself still fits
      have bound : n + 1 ≤ Nat.pow 2 63 := by
        have lower := small.1
        omega
      simp only [Number.ofLiteral, Decimal.natural_toDigits]
      simp [bound, Int.negSucc_eq]
    have spelled := SpelledNumber.mk true (Nat.toDigits 10 (n + 1)) [] none [] []
      (digits_toDigits (n + 1)) (leading_toDigits (n + 1)) .none .none
    rw [literal] at spelled
    simpa [Number.write, Number.writeInteger] using spelled

/-! ## Written values -/

mutual

/-- All the numbers in the value are integers. -/
def Integral : Json → Prop
  | .number n => n.IsIntegral
  | .array items => AllIntegral items
  | .object members => MembersIntegral members
  | _ => True

def AllIntegral : List Json → Prop
  | [] => True
  | item :: rest => Integral item ∧ AllIntegral rest

def MembersIntegral : List (String × Json) → Prop
  | [] => True
  | (_, value) :: rest => Integral value ∧ MembersIntegral rest

end

theorem allIntegral_strings (items : List String) : AllIntegral (items.map .string) := by
  induction items with
  | nil => exact trivial
  | cons item items ih => exact ⟨trivial, ih⟩

theorem endsNumber_cons {c : Char}
    (h : (!Decimal.isDigit c && c != '.' && c != 'e' && c != 'E') = true) (rest : List Char) :
    EndsNumber (c :: rest) := by
  rintro _ ⟨⟩
  simpa [and_assoc] using h

/-- A token that is a single character, which no number goes on with. -/
theorem Spelled.sign {token : Token} {tokens : List Token} {c : Char} {rest : List Char}
    (first : token.Spelled [c]) (apart : token.Apart rest) (others : Spelled tokens rest) :
    Spelled (token :: tokens) (c :: rest) :=
  Spelled.token first apart others

-- every bracket, comma and colon is put in front of a text that is spelled already; a comma stands between two
-- items, so the cases of a row are no item, one item and more
mutual

/-- The text of a value spells it, whatever text follows that does not go on with a number. -/
theorem spelled_write : (value : Json) → value.Integral → ∀ {tokens : List Token}
    {rest : List Char}, Spelled tokens rest → EndsNumber rest →
      Spelled ((Document.ofJson value).tokens ++ tokens) (value.write ++ rest)
  | .null, _, _, _, others, _ => others.token .null trivial
  | .bool true, _, _, _, others, _ => others.token .yes trivial
  | .bool false, _, _, _, others, _ => others.token .no trivial
  | .number n, integral, _, _, others, ends => others.token (.number (spelledNumber_write n integral)) ends
  | .string s, _, _, _, others, _ => others.token (spelled_encode s) trivial
  | .array items, integral, _, _, others, _ => by
    have closing := others.sign .closeArray trivial
    have inner := spelled_writeItems items integral closing (endsNumber_cons rfl _)
    simpa [Document.ofJson, Document.tokens, write] using inner.sign .openArray trivial
  | .object members, integral, _, _, others, _ => by
    have closing := others.sign .closeObject trivial
    have inner := spelled_writeMembers members integral closing (endsNumber_cons rfl _)
    simpa [Document.ofJson, Document.tokens, write] using inner.sign .openObject trivial

theorem spelled_writeItems : (items : List Json) → AllIntegral items → ∀ {tokens : List Token}
    {rest : List Char}, Spelled tokens rest → EndsNumber rest →
      Spelled (Document.itemTokens (Document.ofJsons items) ++ tokens) (writeItems items ++ rest)
  | [], _, _, _, others, _ => others
  | [item], integral, _, _, others, ends => spelled_write item integral.1 others ends
  | item :: second :: items, integral, _, _, others, ends => by
    have later := spelled_writeItems (second :: items) integral.2 others ends
    have first := spelled_write item integral.1 (later.sign .comma trivial) (endsNumber_cons rfl _)
    simpa [Document.ofJsons, Document.itemTokens, writeItems] using first

theorem spelled_writeMembers : (members : List (String × Json)) → MembersIntegral members →
    ∀ {tokens : List Token} {rest : List Char}, Spelled tokens rest → EndsNumber rest →
      Spelled (Document.memberTokens (Document.ofMembers members) ++ tokens)
        (writeMembers members ++ rest)
  | [], _, _, _, others, _ => others
  | [(key, value)], integral, _, _, others, ends => by
    have first := spelled_write value integral.1 others ends
    simpa [Document.ofMembers, Document.memberTokens, writeMembers] using
      (first.sign .colon trivial).token (spelled_encode key) trivial
  | (key, value) :: second :: members, integral, _, _, others, ends => by
    have later := spelled_writeMembers (second :: members) integral.2 others ends
    have first := spelled_write value integral.1 (later.sign .comma trivial) (endsNumber_cons rfl _)
    simpa [Document.ofMembers, Document.memberTokens, writeMembers] using
      (first.sign .colon trivial).token (spelled_encode key) trivial

end

/-! ## Written lines -/

theorem blank_newLine (level : Nat) : Blank (newLine level) := by
  intro c member
  rcases List.mem_cons.mp member with rfl | space
  · rfl
  · rw [List.eq_of_mem_replicate space]
    rfl

mutual

/-- The same over several lines. -/
theorem spelled_writeLines : (value : Json) → value.Integral → ∀ {level : Nat}
    {tokens : List Token} {rest : List Char}, Spelled tokens rest → EndsNumber rest →
      Spelled ((Document.ofJson value).tokens ++ tokens) (value.writeLines level ++ rest)
  | .null, _, _, _, _, others, _ => others.token .null trivial
  | .bool true, _, _, _, _, others, _ => others.token .yes trivial
  | .bool false, _, _, _, _, others, _ => others.token .no trivial
  | .number n, integral, _, _, _, others, ends => others.token (.number (spelledNumber_write n integral)) ends
  | .string s, _, _, _, _, others, _ => others.token (spelled_encode s) trivial
  | .array [], _, _, _, _, others, _ => (others.sign .closeArray trivial).sign .openArray trivial
  | .object [], _, _, _, _, others, _ => (others.sign .closeObject trivial).sign .openObject trivial
  | .array (item :: items), integral, level, _, _, others, _ => by
    have closing := (others.sign .closeArray trivial).blank (blank_newLine level)
    have inner := @spelled_writeItemLines (item :: items) integral (level + 1) _ _ closing
      (endsNumber_cons rfl _)
    simpa [Document.ofJson, Document.tokens, writeLines] using inner.sign .openArray trivial
  | .object (member :: members), integral, level, _, _, others, _ => by
    have closing := (others.sign .closeObject trivial).blank (blank_newLine level)
    have inner := @spelled_writeMemberLines (member :: members) integral (level + 1) _ _ closing
      (endsNumber_cons rfl _)
    simpa [Document.ofJson, Document.tokens, writeLines] using inner.sign .openObject trivial

theorem spelled_writeItemLines : (items : List Json) → AllIntegral items → ∀ {level : Nat}
    {tokens : List Token} {rest : List Char}, Spelled tokens rest → EndsNumber rest →
      Spelled (Document.itemTokens (Document.ofJsons items) ++ tokens)
        (writeItemLines level items ++ rest)
  | [], _, _, _, _, others, _ => others
  | [item], integral, level, _, _, others, ends => by
    have first := @spelled_writeLines item integral.1 level _ _ others ends
    simpa [Document.ofJsons, Document.itemTokens, writeItemLines] using
      first.blank (blank_newLine level)
  | item :: second :: items, integral, level, _, _, others, ends => by
    have later := @spelled_writeItemLines (second :: items) integral.2 level _ _ others ends
    have first := @spelled_writeLines item integral.1 level _ _ (later.sign .comma trivial)
      (endsNumber_cons rfl _)
    simpa [Document.ofJsons, Document.itemTokens, writeItemLines] using
      first.blank (blank_newLine level)

theorem spelled_writeMemberLines : (members : List (String × Json)) → MembersIntegral members →
    ∀ {level : Nat} {tokens : List Token} {rest : List Char}, Spelled tokens rest →
      EndsNumber rest → Spelled (Document.memberTokens (Document.ofMembers members) ++ tokens)
        (writeMemberLines level members ++ rest)
  | [], _, _, _, _, others, _ => others
  | [(key, value)], integral, level, _, _, others, ends => by
    have first := @spelled_writeLines value integral.1 level _ _ others ends
    have spaced := first.blank (by simp [Blank, Token.isSpace] : Blank [' '])
    simpa [Document.ofMembers, Document.memberTokens, writeMemberLines] using
      ((spaced.sign .colon trivial).token (spelled_encode key) trivial).blank (blank_newLine level)
  | (key, value) :: second :: members, integral, level, _, _, others, ends => by
    have later := @spelled_writeMemberLines (second :: members) integral.2 level _ _ others ends
    have first := @spelled_writeLines value integral.1 level _ _ (later.sign .comma trivial)
      (endsNumber_cons rfl _)
    have spaced := first.blank (by simp [Blank, Token.isSpace] : Blank [' '])
    simpa [Document.ofMembers, Document.memberTokens, writeMemberLines] using
      ((spaced.sign .colon trivial).token (spelled_encode key) trivial).blank (blank_newLine level)

end

theorem spelled_nil : Spelled [] [] :=
  .nil fun _ member => absurd member List.not_mem_nil

theorem endsNumber_nil : EndsNumber [] :=
  fun _ first => by cases first

/-- A value on one line spells itself. -/
theorem spells_compact {value : Json} (integral : value.Integral) : Spells value.compact value := by
  have spelled := spelled_write value integral spelled_nil endsNumber_nil
  rw [List.append_nil, List.append_nil] at spelled
  rw [Spells, compact, String.toList_ofList]
  exact spelled

/-- A value over several lines spells itself. -/
theorem spells_pretty {value : Json} (integral : value.Integral) : Spells value.pretty value := by
  have spelled := @spelled_writeLines value integral 0 _ _ spelled_nil endsNumber_nil
  rw [List.append_nil, List.append_nil] at spelled
  rw [Spells, pretty, String.toList_ofList]
  exact spelled

end Json

end TaskFilter
