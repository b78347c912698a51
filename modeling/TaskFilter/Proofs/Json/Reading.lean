import Mathlib.Data.Option.Basic
import TaskFilter.Json.Layout

/-!
# What readers accept

Readers return a value or the first problem they meet. The lemmas here say when they return a value: for
readers that are put together from others, for whole texts, and for values that are read as they stand.
-/

namespace TaskFilter.Json

/-! ## Results -/

section Results

variable {ε ε' α β : Type}

theorem bind_eq_ok_iff {x : Except ε α} {f : α → Except ε β} {b : β} :
    x >>= f = .ok b ↔ ∃ a, x = .ok a ∧ f a = .ok b := by
  cases x <;> simp [bind, Except.bind]

theorem map_eq_ok_iff {x : Except ε α} {f : α → β} {b : β} :
    x.map f = .ok b ↔ ∃ a, x = .ok a ∧ f a = b := by
  cases x <;> simp [Except.map]

theorem mapError_eq_ok_iff {x : Except ε α} {f : ε → ε'} {a : α} :
    x.mapError f = .ok a ↔ x = .ok a := by
  cases x <;> simp [Except.mapError]

end Results

/-! ## Texts -/

/-- A text is read if its value is and nothing follows it. -/
theorem Source.read_eq_ok_iff {α : Type} {readRoot : Document → Except ReadError α} {text : String}
    {a : α} : Source.read readRoot text = .ok a ↔
      readRoot (Source.ofText text).root = .ok a ∧ (Source.ofText text).complete = true := by
  rw [Source.read]
  cases readRoot (Source.ofText text).root with
  | error cause => simp [bind, Except.bind]
  | ok value => cases (Source.ofText text).complete <;> simp [bind, Except.bind]

/-! ## Values as they stand -/

theorem readValue_eq_ok_iff {document : Document} {value : Json} :
    readValue document = .ok value ↔ document.value? nestingLimit = some value := by
  rw [readValue]
  cases document.value? nestingLimit <;> simp

namespace Document

theorem value?_array_eq_some_iff {limit : Nat} {items : List Document} {closed : Bool}
    {value : Json} : (array items closed).value? limit = some value ↔
      0 < limit ∧ closed = true ∧
        ∃ values, values? (limit - 1) items = some values ∧ value = .array values := by
  simp only [value?, Option.bind_eq_bind, Option.bind_eq_some_iff, Option.guard_eq_some']
  constructor
  · rintro ⟨_, positive, values, read, _, shut, ⟨⟩⟩
    exact ⟨positive, shut, values, read, rfl⟩
  · rintro ⟨positive, shut, values, read, rfl⟩
    exact ⟨(), positive, values, read, (), shut, rfl⟩

theorem value?_object_eq_some_iff {limit : Nat} {members : List (Option String × Document)}
    {closed : Bool} {value : Json} : (object members closed).value? limit = some value ↔
      0 < limit ∧ closed = true ∧
        ∃ values, memberValues? (limit - 1) members = some values ∧ value = .object values := by
  simp only [value?, Option.bind_eq_bind, Option.bind_eq_some_iff, Option.guard_eq_some']
  constructor
  · rintro ⟨_, positive, values, read, _, shut, ⟨⟩⟩
    exact ⟨positive, shut, values, read, rfl⟩
  · rintro ⟨positive, shut, values, read, rfl⟩
    exact ⟨(), positive, values, read, (), shut, rfl⟩

theorem values?_cons_eq_some_iff {limit : Nat} {item : Document} {items : List Document}
    {values : List Json} : values? limit (item :: items) = some values ↔
      ∃ first rest, item.value? limit = some first ∧ values? limit items = some rest ∧
        values = first :: rest := by
  simp [values?, Option.bind_eq_some_iff, eq_comm (a := values)]

theorem memberValues?_cons_eq_some_iff {limit : Nat} {key : Option String} {value : Document}
    {members : List (Option String × Document)} {values : List (String × Json)} :
    memberValues? limit ((key, value) :: members) = some values ↔
      ∃ name first rest, key = some name ∧ value.value? limit = some first ∧
        memberValues? limit members = some rest ∧ values = (name, first) :: rest := by
  simp [memberValues?, Option.bind_eq_some_iff, eq_comm (a := values)]

/-- Only a string is read as a string. -/
theorem value?_eq_string_iff {limit : Nat} {document : Document} {s : String} :
    document.value? limit = some (.string s) ↔ document = .string (some s) := by
  cases document with
  | array items closed => simp [value?_array_eq_some_iff]
  | object members closed => simp [value?_object_eq_some_iff]
  | _ => simp [value?]

mutual

/-- No value that is read goes beyond the limit. -/
theorem depth_le_of_value? : (document : Document) → ∀ {limit : Nat} {value : Json},
    document.value? limit = some value → value.depth ≤ limit
  | .broken, _, _, h => by cases h
  | .null, _, _, h => by cases h; exact Nat.zero_le _
  | .bool _, _, _, h => by cases h; exact Nat.zero_le _
  | .number _, _, _, h => by
    obtain ⟨n, -, rfl⟩ := Option.map_eq_some_iff.mp h
    exact Nat.zero_le _
  | .string _, _, _, h => by
    obtain ⟨s, -, rfl⟩ := Option.map_eq_some_iff.mp h
    exact Nat.zero_le _
  | .array items _, _, _, h => by
    obtain ⟨positive, -, values, read, rfl⟩ := value?_array_eq_some_iff.mp h
    have inner := depthItems_le_of_values? items read
    rw [Json.depth]
    omega
  | .object members _, _, _, h => by
    obtain ⟨positive, -, values, read, rfl⟩ := value?_object_eq_some_iff.mp h
    have inner := depthMembers_le_of_memberValues? members read
    rw [Json.depth]
    omega

theorem depthItems_le_of_values? : (items : List Document) → ∀ {limit : Nat} {values : List Json},
    values? limit items = some values → depthItems values ≤ limit
  | [], _, _, h => by cases h; exact Nat.zero_le _
  | item :: items, _, _, h => by
    obtain ⟨first, rest, read, others, rfl⟩ := values?_cons_eq_some_iff.mp h
    exact Nat.max_le.mpr ⟨depth_le_of_value? item read, depthItems_le_of_values? items others⟩

theorem depthMembers_le_of_memberValues? : (members : List (Option String × Document)) →
    ∀ {limit : Nat} {values : List (String × Json)}, memberValues? limit members = some values →
      depthMembers values ≤ limit
  | [], _, _, h => by cases h; exact Nat.zero_le _
  | (_, value) :: members, _, _, h => by
    obtain ⟨name, first, rest, -, read, others, rfl⟩ := memberValues?_cons_eq_some_iff.mp h
    exact Nat.max_le.mpr
      ⟨depth_le_of_value? value read, depthMembers_le_of_memberValues? members others⟩

end

end Document

end TaskFilter.Json
