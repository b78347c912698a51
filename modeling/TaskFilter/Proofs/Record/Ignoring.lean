import TaskFilter.Log.Filter
import TaskFilter.Proofs.Record.Spelling

/-!
# What is ignored of a record

A text for a rule that names none, and a text for the bias of a range that is no sign, are ignored with a
warning. Nothing else is warned of while a text is read as a record and the tree of the record is built.

## Layers

- **Reading**: what a reader comes to (`Layout.reachedMembers_of_fillMembers`), hence the rules that are ignored
  of a record that is read (`eventsOfReading_of_fillMembers`).
- **Building**: the biases that are ignored (`ignoredBiases`), one time for each definition that looks at them.
- **Main statements**: `filter_eventsOfText`, and `ignoredIn_of_spells` for a record as it is written.
-/

namespace TaskFilter

open Json (Document bind_eq_ok_iff)

/-! ## Reading -/

namespace Json.Layout

variable {σ : Type} {layout : Layout σ}

/-- A member with its key, if there is a slot for it. -/
def slotted? (layout : Layout σ) (member : Option String × Document) : Option (String × Document) :=
  member.1.bind fun key => (layout.slots.find? (·.key == key)).map fun _ => (key, member.2)

/-- An object that is read to its end was looked at in all its members that have a slot. -/
theorem reachedMembers_of_fillMembers {seen : List String} {state state' : σ}
    {members : List (Option String × Document)} (h : layout.fillMembers seen state members = .ok state') :
    layout.reachedMembers seen state members = members.filterMap layout.slotted? := by
  fun_induction layout.fillMembers seen state members with
  | case1 => rfl
  | case2 | case4 | case5 => cases h
  | case3 seen state key value rest noSlot whole ih =>
    have skipped : layout.slotted? (some key, value) = none := by
      rw [slotted?, Option.bind_some, noSlot, Option.map_none]
    rw [List.filterMap_cons_none skipped, ← ih h, reachedMembers, noSlot]
    exact if_pos whole
  | case6 seen state key value rest slot found fresh ih =>
    obtain ⟨filled, fills, h⟩ := bind_eq_ok_iff.mp h
    have taken : layout.slotted? (some key, value) = some (key, value) := by
      rw [slotted?, Option.bind_some, found, Option.map_some]
    rw [List.filterMap_cons_some taken, ← ih filled h, reachedMembers, found]
    show (if _ then _ else _) = _
    rw [if_neg fresh, fills]

end Json.Layout

namespace Record

/-- The rules that are ignored of an object that is read as a record: all those among its members. -/
theorem eventsOfReading_of_fillMembers {members : List (Option String × Document)} {closed : Bool}
    {record : Record} (h : layout.fillMembers [] {} members = .ok record) :
    eventsOfReading (.object members closed) =
      members.filterMap fun member => member.1.bind fun name => ignoredRule? name member.2 := by
  rw [eventsOfReading, Json.Layout.reached, Json.Layout.reachedMembers_of_fillMembers h,
    List.filterMap_filterMap]
  congr 1
  funext member
  obtain ⟨name, value⟩ := member
  cases name with
  | none => rfl
  | some name =>
    show ((layout.slots.find? (·.key == name)).map _).bind _ = ignoredRule? name value
    rw [find?_slots]
    cases known : Key.ofName? name with
    | some key => rfl
    | none =>
      -- a name of no key is a name of no rule
      unfold ignoredRule?
      rw [show Key.all.find? (·.name == name) = none from known]
      rfl

/-- Reading a record does nothing but warn. -/
theorem filter_eventsOfReading (document : Document) :
    (eventsOfReading document).filter (Event.isShown false) = eventsOfReading document := by
  rw [List.filter_eq_self]
  intro event logged
  obtain ⟨part, -, ignored⟩ := List.mem_filterMap.mp logged
  unfold ignoredRule? at ignored
  split at ignored
  · split at ignored <;> cases ignored
    rfl
  · split at ignored <;> cases ignored
    rfl
  · cases ignored

/-- Nothing is ignored of the value that is written under a key, since rules are written by their names. -/
theorem ignoredRule?_toJson (key : Key) (value : key.kind.Value) :
    ignoredRule? key.name (Document.ofJson (key.kind.toJson value)) = none := by
  unfold ignoredRule?
  rw [show Key.all.find? (·.name == key.name) = some key from Key.ofName?_name key]
  cases key with
  | tagRule =>
    change TagRule at value
    show (if (TagRule.ofText? (TagRule.name value)).isNone then _ else none) = none
    rw [TagRule.ofText?_name]
    rfl
  | textRule =>
    change TextRule at value
    show (if (TextRule.ofText? (TextRule.name value)).isNone then _ else none) = none
    rw [TextRule.ofText?_name]
    rfl
  | _ => rfl

theorem eventsOfReading_toJson (record : Record) :
    eventsOfReading (Document.ofJson record.toJson) = [] := by
  have filled := (fillMembers_eq_ok_iff _).mpr (spelledMembers_toJson record).accepts
  show eventsOfReading (.object (Document.ofMembers (Key.all.filterMap record.member)) true) = []
  rw [eventsOfReading_of_fillMembers filled, List.filterMap_eq_nil_iff]
  intro written listed
  rw [Document.ofMembers_eq_map] at listed
  obtain ⟨own, held, rfl⟩ := List.mem_map.mp listed
  obtain ⟨key, -, set⟩ := List.mem_filterMap.mp held
  obtain ⟨value, -, rfl⟩ := Option.map_eq_some_iff.mp set
  exact ignoredRule?_toJson key value

/-! ## Building -/

/-- The biases that are ignored in asking a definition for its condition. -/
def ignoredBy (record : Record) (claimed : List Key) (definition : Definition) : List Event :=
  if (definition.condition record claimed).isSome then
    definition.inputs.filterMap fun key =>
      (DateBias.unknown? (record.biasUnder key)).map Event.biasIgnored
  else []

/-- The biases that are ignored in building the tree of a record. -/
def ignoredBiases (record : Record) : List Event :=
  definitions.flatMap (record.ignoredBy (claimedBy definitions record))

theorem filter_eventsOfDefinition (record : Record) (claimed : List Key) (definition : Definition) :
    (record.eventsOfDefinition claimed definition).filter (Event.isShown false) =
      record.ignoredBy claimed definition := by
  rw [eventsOfDefinition, ignoredBy]
  cases definition.condition record claimed with
  | none => rfl
  | some condition =>
    have warned : ∀ event ∈ definition.inputs.filterMap fun key =>
        (DateBias.unknown? (record.biasUnder key)).map Event.biasIgnored, event.isShown false = true := by
      intro event logged
      obtain ⟨key, -, ignored⟩ := List.mem_filterMap.mp logged
      obtain ⟨text, -, rfl⟩ := Option.map_eq_some_iff.mp ignored
      rfl
    rw [List.filter_append, List.filter_eq_self.mpr warned]
    exact List.append_nil _

/-- Building a record warns of nothing but biases. -/
theorem filter_eventsOfBuilding (record : Record) :
    record.eventsOfBuilding.filter (Event.isShown false) = record.ignoredBiases := by
  rw [eventsOfBuilding]
  split
  next empty =>
    -- the empty record has no condition for which a bias would be looked at
    obtain rfl : record = {} := eq_of_beq empty
    rfl
  · have claims : (if (claimedBy definitions record).isEmpty then []
        else [Event.claimed (claimedBy definitions record)]).filter (Event.isShown false) = [] := by
      split <;> rfl
    rw [List.filter_append, claims, List.nil_append, List.filter_flatMap, ignoredBiases]
    congr 1
    funext definition
    exact filter_eventsOfDefinition record _ definition

/-! ## Texts -/

/-- What is ignored of a text that is read as a record: rules, up to the fault if there is one, and biases, if
there is none. -/
def ignoredIn (text : String) : List Event :=
  eventsOfReading (Json.Source.ofText text).root ++ ((ofText text).toOption.map ignoredBiases).getD []

theorem filter_eventsOfText (text : String) :
    (eventsOfText text).filter (Event.isShown false) = ignoredIn text := by
  rw [eventsOfText, ignoredIn, List.filter_append, filter_eventsOfReading]
  cases ofText text with
  | ok record =>
    show _ ++ record.eventsOfBuilding.filter _ = _
    rw [filter_eventsOfBuilding]
    rfl
  | error cause => rfl

/-- Only biases are ignored of a record as it is written. -/
theorem ignoredIn_of_spells {record : Record} {text : String} (written : Json.Spells text record.toJson) :
    ignoredIn text = record.ignoredBiases := by
  rw [ignoredIn, Json.Source.ofText_of_spelled (Document.isWhole_ofJson _) written, eventsOfReading_toJson,
    ofText_of_spelledMembers (spelledMembers_toJson record) written]
  rfl

end Record

end TaskFilter
