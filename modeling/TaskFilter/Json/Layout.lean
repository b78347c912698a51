import TaskFilter.Json.Document

/-!
# Structured values

A structured value is read from an object, by the keys of its slots, or from an array, by their order.
Keys that belong to no slot are skipped: what stands behind them must be well formed, and nothing more is
asked of it. A slot is filled once; a second occurrence of its key is an error wherever it stands.
-/

namespace TaskFilter.Json

/-- A slot of a structured value: its key, and how what stands there changes the value. -/
structure Slot (σ : Type) where
  key : String
  fill : Document → σ → Except ReadError σ

/-- The slots of a structured value, in the order in which an array fills them, and its name in messages. -/
structure Layout (σ : Type) where
  name : String
  slots : List (Slot σ)

namespace Layout

variable {σ : Type}

/-- Fills slots by the members of an object. `seen` are the keys of the slots that were filled before. -/
def fillMembers (layout : Layout σ) (seen : List String) (state : σ) :
    List (Option String × Document) → Except ReadError σ
  | [] => .ok state
  | (none, _) :: _ => .error .malformed
  | (some key, value) :: rest =>
    match layout.slots.find? (·.key == key) with
    | none =>
      if value.isWhole then fillMembers layout seen state rest else .error .malformed
    | some slot =>
      if seen.contains key then .error (.mismatch (.repeated key))
      else do
        let state ← slot.fill value state
        fillMembers layout (key :: seen) state rest

/-- Fills slots by the items of an array, and returns the slots and the items that are left. -/
def fillItems (state : σ) : List (Slot σ) → List Document →
    Except ReadError (σ × List (Slot σ) × List Document)
  | slot :: slots, item :: items => do
    let state ← slot.fill item state
    fillItems state slots items
  | slots, items => .ok (state, slots, items)

/-! ## What reading comes to -/

/-- The keys of slots that are filled by members, with the parts that fill them, up to the member at which
filling stops. The part of the last one may be the fault. -/
def reachedMembers (layout : Layout σ) (seen : List String) (state : σ) :
    List (Option String × Document) → List (String × Document)
  | [] => []
  | (none, _) :: _ => []
  | (some key, value) :: rest =>
    match layout.slots.find? (·.key == key) with
    | none => if value.isWhole then reachedMembers layout seen state rest else []
    | some slot =>
      if seen.contains key then []
      else
        (key, value) ::
          match slot.fill value state with
          | .ok state => reachedMembers layout (key :: seen) state rest
          | .error _ => []

/-- The keys of slots that are filled by items, with the items, up to the one at which filling stops. -/
def reachedItems (state : σ) : List (Slot σ) → List Document → List (String × Document)
  | slot :: slots, item :: items =>
    (slot.key, item) ::
      match slot.fill item state with
      | .ok state => reachedItems state slots items
      | .error _ => []
  | _, _ => []

/-- The parts of a document that reading comes to, each with the key of its slot. -/
def reached (layout : Layout σ) (start : σ) : Document → List (String × Document)
  | .object members _ => layout.reachedMembers [] start members
  | .array items _ => reachedItems start layout.slots items
  | _ => []

/-! ## Reading -/

/-- Reads a structured value into `start`. The first `required` slots must be filled: `missing` says
which of them an object left empty. -/
def read (layout : Layout σ) (required : Nat) (missing : σ → Option String) (start : σ) :
    Document → Except ReadError σ
  | .object members closed => do
    let state ← layout.fillMembers [] start members
    if !closed then throw .malformed
    match missing state with
    | some key => throw (.mismatch (.missing key))
    | none => pure state
  | .array items closed => do
    let (state, slots, items) ← fillItems start layout.slots items
    if !items.isEmpty || !closed then throw .malformed
    let filled := layout.slots.length - slots.length
    if filled < required then throw (.mismatch (.wrongLength filled (layout.name ++
      " with " ++ Nat.repr layout.slots.length ++ " elements")))
    pure state
  | other => .error (other.unexpected layout.name)

end Layout

end TaskFilter.Json
