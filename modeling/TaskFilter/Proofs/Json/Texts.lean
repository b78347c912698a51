import TaskFilter.Proofs.Json.Printing
import TaskFilter.Proofs.Json.Reading
import TaskFilter.Proofs.Record.Rules

/-!
# Texts of values on their way

A text that spells a value is read as that value. It may be printed on lines of its own before that, and what
reads it may trim it: both leave it a text of the same value.

## Layers

- **Values**: values without fractions and with few brackets (`Flat`), from their items and members.
- **Texts**: reading a text (`read_of_spells`), a text with its end of line (`spells_line`, `read_line`), and
  a text without the blanks around it (`spells_trim`).
-/

namespace TaskFilter.Json

/-! ## Values -/

theorem allIntegral_iff {items : List Json} : AllIntegral items ↔ ∀ item ∈ items, item.Integral := by
  induction items with
  | nil => exact ⟨fun _ _ member => absurd member List.not_mem_nil, fun _ => trivial⟩
  | cons item items ih => rw [AllIntegral, ih, List.forall_mem_cons]

theorem membersIntegral_iff {members : List (String × Json)} :
    MembersIntegral members ↔ ∀ member ∈ members, member.2.Integral := by
  induction members with
  | nil => exact ⟨fun _ _ member => absurd member List.not_mem_nil, fun _ => trivial⟩
  | cons member members ih => rw [MembersIntegral, ih, List.forall_mem_cons]

theorem depthItems_le_iff {items : List Json} {n : Nat} :
    depthItems items ≤ n ↔ ∀ item ∈ items, item.depth ≤ n := by
  induction items with
  | nil => simp [depthItems]
  | cons item items ih => rw [depthItems, Nat.max_le, ih, List.forall_mem_cons]

theorem depthMembers_le_iff {members : List (String × Json)} {n : Nat} :
    depthMembers members ≤ n ↔ ∀ member ∈ members, member.2.depth ≤ n := by
  induction members with
  | nil => simp [depthMembers]
  | cons member members ih => rw [depthMembers, Nat.max_le, ih, List.forall_mem_cons]

/-- The value has no number but integers in it, and no part of it stands in more than `limit` brackets. -/
structure Flat (limit : Nat) (value : Json) : Prop where
  integral : value.Integral
  depth_le : value.depth ≤ limit

theorem Flat.mono {m n : Nat} {value : Json} (h : value.Flat m) (le : m ≤ n) : value.Flat n :=
  ⟨h.integral, Nat.le_trans h.depth_le le⟩

theorem flat_bool (value : Bool) (n : Nat) : (bool value).Flat n :=
  ⟨trivial, Nat.zero_le n⟩

theorem flat_string (value : String) (n : Nat) : (string value).Flat n :=
  ⟨trivial, Nat.zero_le n⟩

theorem flat_array {n : Nat} {items : List Json} (h : ∀ item ∈ items, item.Flat n) :
    (array items).Flat (n + 1) := by
  refine ⟨allIntegral_iff.mpr fun item member => (h item member).integral, ?_⟩
  rw [depth]
  exact Nat.succ_le_succ (depthItems_le_iff.mpr fun item member => (h item member).depth_le)

theorem flat_object {n : Nat} {members : List (String × Json)}
    (h : ∀ member ∈ members, member.2.Flat n) : (object members).Flat (n + 1) := by
  refine ⟨membersIntegral_iff.mpr fun member listed => (h member listed).integral, ?_⟩
  rw [depth]
  exact Nat.succ_le_succ (depthMembers_le_iff.mpr fun member listed => (h member listed).depth_le)

theorem flat_strings (items : List String) : (strings items).Flat 1 := by
  apply flat_array
  intro item member
  obtain ⟨text, -, rfl⟩ := List.mem_map.mp member
  exact flat_string text 0

/-! ## Reading -/

/-- A text that spells a value is read as the value, and nothing is left of the text. -/
theorem read_of_spells {text : String} {value : Json} (written : Spells text value)
    (flat : value.depth ≤ nestingLimit) : Source.read readValue text = .ok value := by
  rw [Source.read_of_spelled (Document.isWhole_ofJson value) written]
  exact readValue_eq_ok_iff.mpr (Document.value?_ofJson value flat)

/-- A text that starts with what starts no token has no value. -/
theorem Source.root_of_stray {text : String} {c : Char} {rest : List Char} (h : text.toList = c :: rest)
    (space : Token.isSpace c = false) (stray : Token.read (c :: rest) = none) :
    (Source.ofText text).root = .broken := by
  have tokens : Token.ofText text = [.bad] := by
    rw [Token.ofText, h, List.length_cons, Token.scan, List.dropWhile_cons_of_neg (by simp [space])]
    simp only [stray]
  simp only [Source.ofText, tokens]
  rfl

/-- No value is written as nothing. -/
theorem ne_empty_of_spells {text : String} {value : Json} (written : Spells text value) : text ≠ "" := by
  rintro rfl
  obtain ⟨token, rest, first, -⟩ := (Document.ofJson value).exists_tokens_eq_cons
  rw [Spells, first] at written
  have long := length_le_of_spelled written
  rw [String.toList_empty, List.length_nil, List.length_cons] at long
  omega

/-- A value over several lines, with the end of the last line. -/
theorem spells_line {value : Json} (integral : value.Integral) :
    Spells (value.pretty ++ "\n") value := by
  have ended : Spelled [] ['\n'] := .nil (by simp [Blank, Token.isSpace])
  have spelled := @spelled_writeLines value integral 0 _ _ ended (endsNumber_cons rfl [])
  rw [List.append_nil] at spelled
  rw [Spells, pretty, String.toList_append, String.toList_ofList]
  exact spelled

/-- What is printed of a flat value is read as the value. -/
theorem read_line {value : Json} {n : Nat} (flat : value.Flat n) (le : n ≤ nestingLimit) :
    Source.read readValue (value.pretty ++ "\n") = .ok value :=
  read_of_spells (spells_line flat.integral) (Nat.le_trans flat.depth_le le)

/-! ## Trimming -/

theorem isBlank_of_isSpace {c : Char} (h : Token.isSpace c = true) : Text.isBlank c = true := by
  simp only [Token.isSpace, Bool.or_eq_true, decide_eq_true_eq] at h
  rcases h with ((rfl | rfl) | rfl) | rfl <;> decide

/-- The first token of an object stands behind blanks. -/
theorem exists_of_spelled_openObject {tokens : List Token} {cs : List Char}
    (h : Spelled (.openObject :: tokens) cs) :
    ∃ blank rest, cs = blank ++ '\x7b' :: rest ∧ Blank blank ∧
      Spelled (.openObject :: tokens) ('\x7b' :: rest) := by
  cases h with
  | @cons _ _ blank _ rest before first apart others =>
    cases first with
    | openObject => exact ⟨blank, rest, rfl, before, others.sign .openObject trivial⟩

theorem apart_append {token : Token} {front back : List Char} (nonempty : front ≠ [])
    (apart : token.Apart (front ++ back)) : token.Apart front := by
  cases token with
  | number value =>
    intro c first
    apply apart c
    rwa [List.head?_append_of_ne_nil _ nonempty]
  | _ => trivial

/-- Behind the last token of an object stand blanks. -/
theorem exists_of_spelled_closeObject {tokens : List Token} : ∀ {cs : List Char},
    Spelled (tokens ++ [.closeObject]) cs →
      ∃ front blank, cs = (front ++ ['\x7d']) ++ blank ∧ Blank blank ∧
        Spelled (tokens ++ [.closeObject]) (front ++ ['\x7d']) := by
  induction tokens with
  | nil =>
    intro cs h
    cases h with
    | @cons _ _ blank _ rest before first apart others =>
      cases first with
      | closeObject =>
        cases others with
        | nil behind =>
          refine ⟨blank, rest, by simp, behind, ?_⟩
          exact (spelled_nil.sign .closeObject trivial).blank before
  | cons token tokens ih =>
    intro cs h
    cases h with
    | @cons _ _ blank text rest before first apart others =>
      obtain ⟨front, behind, rfl, blanks, spelled⟩ := ih others
      refine ⟨blank ++ (text ++ front), behind, by simp, blanks, ?_⟩
      have own := apart_append (List.append_ne_nil_of_right_ne_nil front (List.cons_ne_nil _ _)) apart
      simpa using (spelled.token first own).blank before

/-- A text of an object without the blanks around it is a text of the object. -/
theorem spells_trim {text : String} {members : List (String × Json)}
    (written : Spells text (.object members)) : Spells (Text.trim text) (.object members) := by
  have tokens : (Document.ofJson (.object members)).tokens =
      .openObject :: (Document.memberTokens (Document.ofMembers members) ++ [.closeObject]) := by
    simp [Document.ofJson, Document.tokens]
  rw [Spells, tokens] at *
  obtain ⟨front, behind, whole, after, spelled⟩ :=
    @exists_of_spelled_closeObject (.openObject :: _) _ written
  obtain ⟨before, rest, start, blanks, spelled⟩ := exists_of_spelled_openObject spelled
  have trimmed : Text.trim text = String.ofList ('\x7b' :: rest) := by
    have parts : text.toList = before ++ ('\x7b' :: rest ++ behind) := by
      rw [whole, start, List.append_assoc]
    apply Text.trim_of_ends parts
    · exact fun c listed => isBlank_of_isSpace (blanks c listed)
    · exact fun c listed => isBlank_of_isSpace (after c listed)
    · exact List.cons_ne_nil _ _
    · rintro _ ⟨⟩
      decide
    · -- what is left ends as the text does without the blanks behind it
      have last : ('\x7b' :: rest).getLast? = some '\x7d' := by
        have ends := congrArg List.getLast? start
        rwa [List.getLast?_concat, List.getLast?_append_of_ne_nil _ (List.cons_ne_nil _ _),
          eq_comm] at ends
      rw [last]
      rintro _ ⟨⟩
      decide
  rw [trimmed, String.toList_ofList]
  exact spelled

end TaskFilter.Json
