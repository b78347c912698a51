import TaskFilter.Proofs.Report.Rows
import TaskFilter.Proofs.Validation.Conflicts

/-!
# Texts of a tree in the words of its findings

The words of a finding hold one text of the tree as it is at most: the path of a condition, if it is no
field's, or an operand that is no date. All else that they hold is fixed, or the name of something, or an
operand in quotes. So a control character comes into a report from such texts only.

## Layers

- **Quotes**: a text in quotes is printable (`printable_of_mem_quoted`).
- **Findings**: the text that the words of a finding hold (`Finding.verbatim?`, `mem_message_iff`).
- **Trees**: the texts of conditions that are held so (`Cites`), and that these are the texts of what is found
  in them (`cites_iff`). What is suggested has no texts of the tree in it.
- **Main statement**: `lacks_iff`.
-/

namespace TaskFilter

open Text (not_mem_of_printable not_mem_toDigits)

/-! ## Quotes -/

namespace Text

theorem exists_digitChar_of_mem_toDigits {c : Char} {n : Nat} (h : c ∈ Nat.toDigits 16 n) :
    ∃ d < 16, c = Nat.digitChar d := by
  induction n using Nat.strongRecOn with
  | ind n ih =>
    by_cases small : n < 16
    · rw [Nat.toDigits_of_lt_base small, List.mem_singleton] at h
      exact ⟨n, small, h⟩
    · rw [Nat.toDigits_of_base_le (by decide) (by omega), List.mem_append, List.mem_singleton] at h
      rcases h with front | last
      · exact ih (n / 16) (by omega) front
      · exact ⟨n % 16, Nat.mod_lt n (by decide), last⟩

theorem printable_of_mem_quotedChar {c d : Char} (h : d ∈ quotedChar c) : 0x20 ≤ d.toNat := by
  unfold quotedChar at h
  split_ifs at h with null tab back feed quote slash visible
  -- the short escapes are fixed
  case pos | pos | pos | pos | pos | pos =>
    simp only [List.mem_cons, List.not_mem_nil, or_false] at h
    rcases h with rfl | rfl <;> decide
  · rw [List.mem_singleton.mp h]
    unfold isVisible at visible
    split at visible
    · exact of_decide_eq_true visible
    · omega
  · simp only [codePointEscape, hex, List.mem_append, List.mem_cons, List.not_mem_nil, or_false] at h
    rcases h with ((rfl | rfl | rfl) | digit) | rfl
    · decide
    · decide
    · decide
    · obtain ⟨value, small, rfl⟩ := exists_digitChar_of_mem_toDigits digit
      have digits : ∀ value < 16, 0x20 ≤ (Nat.digitChar value).toNat := by decide
      exact digits value small
    · decide

theorem printable_of_mem_quoted {c : Char} {text : String} (h : c ∈ (quoted text).toList) :
    0x20 ≤ c.toNat := by
  rw [quoted, String.toList_ofList, List.mem_append, List.mem_cons, List.mem_singleton] at h
  rcases h with (rfl | inside) | rfl
  · decide
  · obtain ⟨d, -, written⟩ := List.mem_flatMap.mp inside
    exact printable_of_mem_quotedChar written
  · decide

/-- Operands are shown by printable characters. -/
theorem printable_of_mem_display {c : Char} {operand : Operand} (h : c ∈ operand.display.toList) :
    0x20 ≤ c.toNat := by
  cases operand with
  | bool value =>
    have fixed : (value : Bool) → ((Operand.boolText value).toList.all fun c => 0x20 ≤ c.toNat) = true := by
      decide
    exact of_decide_eq_true (List.all_eq_true.mp (fixed value) c h)
  | number number =>
    rw [Operand.display, String.toList_ofList] at h
    have numeral := number.numeral_write c h
    simp only [Decimal.isNumeral, Char.isDigit, Bool.or_eq_true, Bool.and_eq_true, decide_eq_true_eq] at numeral
    rcases numeral with (((digit | rfl) | rfl) | rfl) | rfl
    · have least : 48 ≤ c.toNat := digit.1
      omega
    all_goals decide
  | string text => exact printable_of_mem_quoted h
  | array items =>
    by_contra small
    have control : c.toNat < 0x20 := by omega
    have mark : c ∉ ", ".toList := not_mem_of_printable control (by decide)
    rw [Operand.display, quotedList, String.toList_append, String.toList_append, List.mem_append,
      List.mem_append, mem_intercalate_iff mark] at h
    rcases h with (front | ⟨part, listed, inside⟩) | back
    · exact not_mem_of_printable control (by decide) front
    · obtain ⟨item, -, rfl⟩ := List.mem_map.mp listed
      exact small (printable_of_mem_quoted inside)
    · exact not_mem_of_printable control (by decide) back

end Text

namespace Validation

/-! ## Findings -/

/-- The text that the words of a finding hold as it is. -/
def Finding.verbatim? : Finding → Option String
  | .malformedPath path | .unknownField path _ | .contradiction path _ | .tautology path => some path
  | .noDate _ text => some text
  | .unsuitedOperand .. | .presenceOnly _ | .wrongKind .. | .emptyGroup _ => none

/-- What the words of findings have in common, whatever they are about. -/
def phrases : List String :=
  ["malformed field path '", "unknown field '", "'", "operator '", "' cannot take a ", " operand", "field '",
   "' supports existence checks only", "' expects an ISO-8601 date, found '", "' expects a ",
   " value, found ", "' must equal ", " at the same time; the filter can never match",
   "' is tested for both true and false; the group always matches", "empty '", "' group"]

section Control

variable {c : Char} (control : c.toNat < 0x20)

include control

theorem not_mem_path (field : Field) : c ∉ field.path.toList := by
  cases field <;> exact not_mem_of_printable control (by decide)

theorem not_mem_display (operand : Operand) : c ∉ operand.display.toList := by
  intro listed
  have shown := Text.printable_of_mem_display listed
  omega

theorem not_mem_phrase {phrase : String} (listed : phrase ∈ phrases) : c ∉ phrase.toList := by
  have printable : (phrases.all fun phrase => phrase.toList.all fun c => 0x20 ≤ c.toNat) = true := by
    decide +kernel
  exact not_mem_of_printable control (List.all_eq_true.mp printable phrase listed)

theorem not_mem_intercalate_display (operands : List Operand) :
    c ∉ (" and ".intercalate (operands.map Operand.display)).toList := by
  intro listed
  have mark : c ∉ " and ".toList := not_mem_of_printable control (by decide)
  obtain ⟨part, shown, inside⟩ := (Text.mem_intercalate_iff mark _).mp listed
  obtain ⟨operand, -, rfl⟩ := List.mem_map.mp shown
  exact not_mem_display control operand inside

/-- A control character comes into the words of a finding with the text that they hold. -/
theorem mem_message_iff (finding : Finding) :
    c ∈ finding.message.toList ↔ ∃ text ∈ finding.verbatim?, c ∈ text.toList := by
  have token : ∀ operator : Operator, c ∉ operator.token.toList := by
    intro operator
    cases operator <;> exact not_mem_of_printable control (by decide)
  have name : ∀ operand : Operand, c ∉ operand.kindName.toList := by
    intro operand
    cases operand <;> rw [Operand.kindName] <;> exact not_mem_of_printable control (by decide)
  have kind : ∀ kind : ValueKind, c ∉ kind.name.toList := by
    intro kind
    cases kind <;> exact not_mem_of_printable control (by decide)
  have shape : ∀ shape : Tree.Shape, c ∉ shape.name.toList := by
    intro shape
    cases shape <;> exact not_mem_of_printable control (by decide)
  have fixed : ∀ phrase ∈ phrases, c ∉ phrase.toList := fun _ listed => not_mem_phrase control listed
  simp only [phrases, List.forall_mem_cons] at fixed
  -- what stands around the text has no control character, whatever the finding is
  cases finding <;> unfold Finding.message Finding.verbatim? <;>
    simp only [String.toList_append, List.mem_append, fixed, not_mem_path control, token, name, kind,
      shape, not_mem_intercalate_display control, or_false, false_or, Option.mem_def, Option.some.injEq,
      exists_eq_left', reduceCtorEq, false_and, exists_false]

theorem not_mem_locationText (location : Location) : c ∉ location.text.toList := by
  intro listed
  rw [Location.text, String.toList_append, String.toList_join, List.mem_append, List.mem_flatMap] at listed
  rcases listed with root | ⟨text, member, inside⟩
  · exact not_mem_of_printable control (by decide) root
  · obtain ⟨step, -, rfl⟩ := List.mem_map.mp member
    cases step with
    | negated => exact not_mem_of_printable control (by decide) inside
    | child index =>
      simp only [Step.text, String.toList_append, List.mem_append, Nat.repr, String.toList_ofList] at inside
      rcases inside with (front | digit) | back
      · exact not_mem_of_printable control (by decide) front
      · exact not_mem_toDigits control index digit
      · exact not_mem_of_printable control (by decide) back

end Control

/-! ## Trees -/

variable {tree node : Tree} {location : Location} {finding : Finding} {field : Field} {text : String}

/-- The condition has a text that is held as it is in the words of what is wrong with it. -/
inductive Cites : Tree → String → Prop where
  /-- The path of no field. -/
  | path {condition : Tree} {path : String} (named : condition.field? = some path)
      (h : ∀ field : Field, field.path ≠ path) : Cites condition path
  /-- An operand that is no date, for a field that takes dates. -/
  | date {field : Field} {path text : String} (known : field.path = path) (kind : field.kind = .date)
      (operator : Operator) (h : Date.isDate text = false) :
      Cites (.comparison path operator (.string text)) text

theorem Cites.isSome_field? (h : Cites node text) : node.field?.isSome = true := by
  cases h with
  | path named => rw [named, Option.isSome_some]
  | date => rfl

theorem ne_path_of_malformed {path : String} (h : Malformed path) (field : Field) : field.path ≠ path := by
  rintro rfl
  have known := resolve_path field
  rw [resolve_of_malformed h] at known
  cases known

theorem exists_fieldMismatch?_iff {operator : Operator} {operand : Operand} :
    (∃ finding, fieldMismatch? field operator operand = some finding ∧ finding.verbatim? = some text) ↔
      field.kind = .date ∧ operand = .string text ∧ Date.isDate text = false := by
  constructor
  · rintro ⟨finding, found, holds⟩
    unfold fieldMismatch? at found
    -- only the check for a date puts the operand itself into its words
    split at found
    case h_3 kind =>
      split at found <;> cases found
      next unreal =>
        obtain rfl := Option.some.inj holds
        exact ⟨kind, rfl, Bool.eq_false_iff.mpr unreal⟩
    case h_5 =>
      split at found <;> cases found
      cases holds
    all_goals
      cases found <;> cases holds
  · rintro ⟨kind, rfl, unreal⟩
    refine ⟨.noDate field text, ?_, rfl⟩
    unfold fieldMismatch?
    rw [kind]
    simp [unreal]

/-- The texts that a condition cites are those in the words of what is wrong with it. -/
theorem cites_iff :
    Cites node text ↔ ∃ finding, ownFinding? node = some finding ∧ finding.verbatim? = some text := by
  constructor
  · rintro (⟨named, absent⟩ | ⟨rfl, kind, operator, unreal⟩)
    · -- the path of no field is told as malformed or as unknown, and held either way
      by_cases malformed : Malformed text
      · exact ⟨_, ownFinding?_of_resolve named (resolve_of_malformed malformed), rfl⟩
      · exact ⟨_, ownFinding?_of_resolve named (resolve_of_unknown malformed absent), rfl⟩
    · -- whatever the operator, it takes texts
      have suited : Suited operator (.string text) :=
        ⟨fun _ => .inr ⟨text, rfl⟩, fun _ => ⟨text, rfl⟩, fun _ => .inl ⟨text, rfl⟩⟩
      rw [ownFinding?_of_suited _ suited]
      exact exists_fieldMismatch?_iff.mpr ⟨kind, rfl, unreal⟩
  · rintro ⟨finding, own, holds⟩
    rcases ownFinding?_cases own with ⟨path, named⟩ | ⟨-, shape, rfl⟩
    · rcases cases_of_ownFinding? named own with ⟨malformed, rfl⟩ | ⟨-, absent, rfl⟩ |
        ⟨field, operator, operand, rfl, ⟨-, rfl⟩ | ⟨-, found⟩⟩
      · obtain rfl := Option.some.inj holds
        exact .path named (ne_path_of_malformed malformed)
      · obtain rfl := Option.some.inj holds
        exact .path named absent
      · cases holds
      · obtain ⟨kind, rfl, unreal⟩ := exists_fieldMismatch?_iff.mp ⟨finding, found, holds⟩
        exact .date rfl kind operator unreal
    · cases holds

/-- A conflict at the root is about the path of a child. -/
theorem exists_condition_of_conflict (conflict : finding ∈ rootConflicts tree)
    (holds : finding.verbatim? = some text) : ∃ condition ∈ tree.conditions, condition.field? = some text := by
  have compared : ∀ {children : List Tree}, text ∈ comparedPaths children →
      ∃ condition ∈ Tree.allConditions children, condition.field? = some text := by
    intro children listed
    obtain ⟨operand, member⟩ := mem_comparedPaths_iff.mp listed
    exact ⟨_, Tree.conditions_subset_allConditions member List.mem_cons_self, rfl⟩
  cases tree with
  | all children =>
    obtain ⟨path, listed, made⟩ := List.mem_filterMap.mp conflict
    split at made <;> cases made
    exact compared (Option.some.inj holds ▸ listed)
  | any children =>
    obtain ⟨path, listed, made⟩ := List.mem_filterMap.mp conflict
    split at made <;> cases made
    exact compared (Option.some.inj holds ▸ listed)
  | _ => exact absurd conflict List.not_mem_nil

/-! ## Suggestions -/

theorem suggestions_of_kind_ne (h : finding.kind ≠ .unknownField) : finding.suggestions = [] := by
  cases finding with
  | unknownField => exact absurd rfl h
  | _ => rfl

/-- Nothing but the paths of fields is suggested. -/
theorem exists_field_of_mem_suggestions {path : String} (h : text ∈ suggestions path) :
    ∃ field : Field, field.path = text := by
  unfold suggestions at h
  split at h
  · exact absurd h List.not_mem_nil
  · obtain ⟨field, -, same⟩ := List.mem_map.mp h
    exact ⟨field, same⟩

theorem exists_field_of_suggestion (found : (location, finding) ∈ allFindings tree)
    (listed : text ∈ finding.suggestions) : ∃ field : Field, field.path = text := by
  have unknown : finding.kind = .unknownField := by
    by_contra other
    rw [suggestions_of_kind_ne other] at listed
    exact absurd listed List.not_mem_nil
  rcases mem_allFindings_iff.mp found with ⟨node, -, own⟩ | ⟨-, conflict⟩
  · rcases ownFinding?_cases own with ⟨path, named⟩ | ⟨-, shape, rfl⟩
    · rcases cases_of_ownFinding? named own with ⟨-, rfl⟩ | ⟨-, -, rfl⟩ | ⟨_, _, _, -, ⟨-, rfl⟩ | ⟨-, bad⟩⟩
      · cases unknown
      · rw [Finding.suggestions] at listed
        exact exists_field_of_mem_suggestions listed
      · cases unknown
      · rw [kind_of_fieldMismatch? bad] at unknown
        cases unknown
    · cases unknown
  · rw [kind_of_mem_rootConflicts conflict] at unknown
    split at unknown <;> cases unknown

/-! ## Reports -/

section Control

variable {c : Char} (control : c.toNat < 0x20)

include control

theorem not_mem_of_mem_suggestions (found : (location, finding) ∈ allFindings tree) :
    ∀ suggestion ∈ finding.suggestions, c ∉ suggestion.toList := by
  intro suggestion listed
  obtain ⟨field, rfl⟩ := exists_field_of_suggestion found listed
  exact not_mem_path control field

theorem lacks_toDiagnostic_iff (found : (location, finding) ∈ allFindings tree) :
    (finding.toDiagnostic location).Lacks c ↔ ∀ text ∈ finding.verbatim?, c ∉ text.toList := by
  have words := not_congr (mem_message_iff control finding)
  simp only [not_exists, not_and] at words
  rw [← words]
  refine ⟨fun lacks => lacks.message, fun message => ⟨message, ?_, not_mem_of_mem_suggestions control found⟩⟩
  intro path own
  obtain rfl := Option.some.inj own
  exact not_mem_locationText control location

/-- A control character stands in no finding about a tree if and only if it stands in no text that a condition
cites. -/
theorem lacks_iff (tree : Tree) :
    (∀ d ∈ (validate tree).errors ++ (validate tree).warnings, d.Lacks c) ↔
      ∀ condition ∈ tree.conditions, ∀ text, Cites condition text → c ∉ text.toList := by
  constructor
  · intro lacks condition listed text cites
    obtain ⟨finding, own, holds⟩ := cites_iff.mp cites
    obtain ⟨-, location, stands⟩ := mem_conditions_iff.mp listed
    have found := mem_allFindings_iff.mpr (.inl ⟨condition, stands, own⟩)
    have diagnostic := lacks _ (mem_report_iff.mpr ⟨location, finding, found, rfl⟩)
    exact (lacks_toDiagnostic_iff control found).mp diagnostic text holds
  · intro free d listed
    obtain ⟨location, finding, found, rfl⟩ := mem_report_iff.mp listed
    rw [lacks_toDiagnostic_iff control found]
    intro text holds
    rcases mem_allFindings_iff.mp found with ⟨node, stands, own⟩ | ⟨-, conflict⟩
    · have cites : Cites node text := cites_iff.mpr ⟨finding, own, holds⟩
      exact free node (mem_conditions_iff.mpr ⟨cites.isSome_field?, location, stands⟩) text cites
    · -- the path of a conflict is cited only if it is no field's, and a field's has no control character
      obtain ⟨condition, member, named⟩ := exists_condition_of_conflict conflict holds
      by_cases known : ∃ field : Field, field.path = text
      · obtain ⟨field, rfl⟩ := known
        exact not_mem_path control field
      · exact free condition member text (.path named (not_exists.mp known))

end Control

end Validation

end TaskFilter
