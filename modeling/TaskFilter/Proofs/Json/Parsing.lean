import TaskFilter.Json.Document
import TaskFilter.Proofs.Json.Spelling

/-!
# Parsing what a text spells

The tokens of a document are those of its parts, with brackets around them and commas between them. A text
that spells the tokens of a whole document is read as that document and nothing else.

Main statements: `parse_tokens`, for any tokens behind the document, and `ofText_of_spelled`.
-/

namespace TaskFilter.Json

namespace Document

/-! ## The tokens of a document -/

mutual

def tokens : Document → List Token
  | .broken => [.bad]
  | .null => [.null]
  | .bool value => [.bool value]
  | .number value => [.number value]
  | .string value => [.string value]
  | .array items _ => .openArray :: itemTokens items ++ [.closeArray]
  | .object members _ => .openObject :: memberTokens members ++ [.closeObject]

/-- The tokens of the items of an array, with commas between them. -/
def itemTokens : List Document → List Token
  | [] => []
  | [item] => tokens item
  | item :: rest => tokens item ++ .comma :: itemTokens rest

/-- The tokens of the members of an object, with commas between them. -/
def memberTokens : List (Option String × Document) → List Token
  | [] => []
  | [(key, value)] => .string key :: .colon :: tokens value
  | (key, value) :: rest => .string key :: .colon :: tokens value ++ .comma :: memberTokens rest

end

theorem itemTokens_cons {item : Document} {rest : List Document} (h : rest ≠ []) :
    itemTokens (item :: rest) = tokens item ++ .comma :: itemTokens rest := by
  cases rest with
  | nil => exact absurd rfl h
  | cons second others => rw [itemTokens]; exact List.cons_ne_nil second others

theorem memberTokens_cons {key : Option String} {value : Document}
    {rest : List (Option String × Document)} (h : rest ≠ []) :
    memberTokens ((key, value) :: rest) =
      .string key :: .colon :: tokens value ++ .comma :: memberTokens rest := by
  cases rest with
  | nil => exact absurd rfl h
  | cons second others => rw [memberTokens]; exact List.cons_ne_nil second others

/-- No document starts with the closing bracket of an array. -/
theorem exists_tokens_eq_cons (document : Document) :
    ∃ token rest, document.tokens = token :: rest ∧ token ≠ .closeArray := by
  cases document <;> exact ⟨_, _, rfl, nofun⟩

theorem exists_itemTokens_eq_cons (item : Document) (items : List Document) :
    ∃ token rest, itemTokens (item :: items) = token :: rest ∧ token ≠ .closeArray := by
  obtain ⟨token, rest, first, other⟩ := item.exists_tokens_eq_cons
  cases items with
  | nil => exact ⟨token, rest, first, other⟩
  | cons second items =>
    rw [itemTokens_cons (List.cons_ne_nil second items), first]
    exact ⟨token, _, rfl, other⟩

theorem exists_memberTokens_eq_cons (member : Option String × Document)
    (members : List (Option String × Document)) :
    ∃ key rest, memberTokens (member :: members) = .string key :: rest := by
  cases members with
  | nil => exact ⟨_, _, rfl⟩
  | cons second members => exact ⟨_, _, rfl⟩

/-! ## Parsing -/

theorem parse_openArray {token : Token} (h : token ≠ .closeArray) (rest : List Token) (steps : Nat) :
    parse (steps + 1) (.openArray :: token :: rest) =
      (.array (parseItems steps (token :: rest)).1 (parseItems steps (token :: rest)).2.1,
        (parseItems steps (token :: rest)).2.2) := by
  cases token <;> first | rfl | exact absurd rfl h

-- one case for each kind of document; twice the number of tokens leaves a step for every item and value
mutual

/-- A whole document is parsed from its tokens, whatever tokens follow. -/
theorem parse_tokens : (document : Document) → document.isWhole = true → ∀ (rest : List Token)
    {steps : Nat}, 2 * document.tokens.length ≤ steps →
      parse steps (document.tokens ++ rest) = (document, rest)
  | .broken, whole, _, _, _ => by cases whole
  | .null, _, rest, steps + 1, _ => rfl
  | .bool value, _, rest, steps + 1, _ => rfl
  | .number value, _, rest, steps + 1, _ => rfl
  | .string value, _, rest, steps + 1, _ => rfl
  | .array [] closed, whole, rest, steps + 1, _ => by
    obtain rfl : closed = true := by simpa [isWhole, areWhole] using whole
    rfl
  | .array (item :: items) closed, whole, rest, steps + 1, enough => by
    rw [isWhole, Bool.and_eq_true] at whole
    obtain ⟨whole, rfl⟩ := whole
    simp only [tokens, List.length_cons, List.length_append, List.length_nil] at enough
    have parsed := parseItems_tokens item items whole rest (by omega : _ ≤ steps)
    obtain ⟨token, others, first, other⟩ := exists_itemTokens_eq_cons item items
    rw [tokens, List.cons_append, List.cons_append, List.append_assoc, List.singleton_append]
    rw [first] at parsed ⊢
    rw [List.cons_append] at parsed ⊢
    rw [parse_openArray other, parsed]
  | .object [] closed, whole, rest, steps + 1, enough => by
    obtain rfl : closed = true := by simpa [isWhole, areMembersWhole] using whole
    rfl
  | .object (member :: members) closed, whole, rest, steps + 1, enough => by
    rw [isWhole, Bool.and_eq_true] at whole
    obtain ⟨whole, rfl⟩ := whole
    simp only [tokens, List.length_cons, List.length_append, List.length_nil] at enough
    have parsed := parseMembers_tokens member members whole rest (by omega : _ ≤ steps)
    obtain ⟨key, others, first⟩ := exists_memberTokens_eq_cons member members
    rw [tokens, List.cons_append, List.cons_append, List.append_assoc, List.singleton_append]
    rw [first] at parsed ⊢
    rw [List.cons_append] at parsed ⊢
    rw [parse, parsed]
    exact nofun
  -- a document has a token at least
  | document, _, _, 0, enough => by
    obtain ⟨token, others, first, -⟩ := document.exists_tokens_eq_cons
    rw [first] at enough
    cases enough

theorem parseItems_tokens : (item : Document) → (items : List Document) →
    areWhole (item :: items) = true → ∀ (rest : List Token) {steps : Nat},
      2 * (itemTokens (item :: items)).length + 1 ≤ steps →
        parseItems steps (itemTokens (item :: items) ++ .closeArray :: rest) =
          (item :: items, true, rest)
  | item, [], whole, rest, steps + 1, enough => by
    rw [areWhole, Bool.and_eq_true] at whole
    rw [itemTokens] at enough ⊢
    rw [parseItems, parse_tokens item whole.1 _ (by omega)]
  | item, second :: items, whole, rest, steps + 1, enough => by
    rw [areWhole, Bool.and_eq_true] at whole
    rw [itemTokens_cons (List.cons_ne_nil second items)] at enough ⊢
    simp only [List.length_cons, List.length_append] at enough
    rw [List.append_assoc, List.cons_append, parseItems, parse_tokens item whole.1 _ (by omega)]
    simp only [parseItems_tokens second items whole.2 rest (by omega : _ ≤ steps)]

theorem parseMembers_tokens : (member : Option String × Document) →
    (members : List (Option String × Document)) → areMembersWhole (member :: members) = true →
      ∀ (rest : List Token) {steps : Nat},
        2 * (memberTokens (member :: members)).length + 1 ≤ steps →
          parseMembers steps (memberTokens (member :: members) ++ .closeObject :: rest) =
            (member :: members, true, rest)
  | (key, value), [], whole, rest, steps + 1, enough => by
    rw [areMembersWhole, Bool.and_eq_true] at whole
    rw [memberTokens] at enough ⊢
    simp only [List.length_cons] at enough
    simp only [List.cons_append, parseMembers, parse_tokens value whole.1 _ (by omega : _ ≤ steps)]
  | (key, value), second :: members, whole, rest, steps + 1, enough => by
    rw [areMembersWhole, Bool.and_eq_true] at whole
    rw [memberTokens_cons (List.cons_ne_nil second members)] at enough ⊢
    simp only [List.length_cons, List.length_append] at enough
    simp only [List.cons_append, List.append_assoc, parseMembers,
      parse_tokens value whole.1 _ (by omega : _ ≤ steps),
      parseMembers_tokens second members whole.2 rest (by omega : _ ≤ steps)]

end

end Document

/-- A text that spells a whole document is read as that document, to its end. -/
theorem Source.ofText_of_spelled {document : Document} (whole : document.isWhole = true)
    {text : String} (h : Spelled document.tokens text.toList) :
    Source.ofText text = ⟨document, true⟩ := by
  have parsed := Document.parse_tokens document whole []
    (by omega : _ ≤ 2 * document.tokens.length + 1)
  rw [List.append_nil] at parsed
  rw [Source.ofText, ofText_spelled h, parsed]
  rfl

/-- So that a reader sees that document only. -/
theorem Source.read_of_spelled {α : Type} {readRoot : Document → Except ReadError α}
    {document : Document} (whole : document.isWhole = true) {text : String}
    (h : Spelled document.tokens text.toList) : Source.read readRoot text = readRoot document := by
  rw [Source.read, Source.ofText_of_spelled whole h]
  cases readRoot document <;> rfl

end TaskFilter.Json
