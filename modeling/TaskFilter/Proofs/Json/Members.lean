import TaskFilter.Json.Layout
import TaskFilter.Proofs.Json.Texts

/-!
# Parts of JSON texts

What stands under some keys of a JSON text, and what readers make of the documents of values: of rows, and of
structured values slot by slot.

## Layers

- **Parts**: the part of a document under some keys (`Document.under`), and a text that shows it (`Shows`).
- **Readers**: rows (`Document.readList_ofJson`) and structured values (`Layout.fillMembers_of_slot`,
  `Layout.read_object`).
-/

namespace TaskFilter.Json

/-! ## Parts -/

/-- The part of a document that stands under some keys, the outermost first. -/
def Document.under : List String → Document → Option Document
  | [], document => some document
  | key :: keys, .object members true => (members.lookup (some key)).bind (under keys)
  | _ :: _, _ => none

/-- The text is one JSON text, and this part stands under the keys in it. -/
structure Shows (text : String) (keys : List String) (part : Document) : Prop where
  whole : (Source.ofText text).root.isWhole = true
  complete : (Source.ofText text).complete = true
  under : (Source.ofText text).root.under keys = some part

theorem shows_of_spells {text : String} {value : Json} (written : Spells text value) {keys : List String}
    {part : Document} (h : (Document.ofJson value).under keys = some part) : Shows text keys part := by
  have source := Source.ofText_of_spelled (Document.isWhole_ofJson value) written
  exact ⟨by rw [source]; exact Document.isWhole_ofJson value, by rw [source], by rw [source]; exact h⟩

/-! ## Rows -/

/-- A row of written values is read if each of them is. -/
theorem Document.readList_ofJson {α : Type} {read : Document → Except ReadError α} {toJson : α → Json}
    (h : ∀ a, read (ofJson (toJson a)) = .ok a) (as : List α) :
    readList read (ofJson (.array (as.map toJson))) = .ok as := by
  have items : (ofJsons (as.map toJson)).mapM read = .ok as := by
    induction as with
    | nil => rfl
    | cons a as ih =>
      rw [List.map_cons, ofJsons, List.mapM_cons, h, ih]
      rfl
  rw [ofJson, readList, items]
  rfl

/-! ## Structured values -/

namespace Layout

variable {σ : Type} {layout : Layout σ} {state state' : σ}

/-- The member of a slot that was not filled before fills it. -/
theorem fillMembers_of_slot {seen : List String} {key : String} {value : Document} {slot : Slot σ}
    {rest : List (Option String × Document)} (found : layout.slots.find? (·.key == key) = some slot)
    (fresh : seen.contains key = false) (filled : slot.fill value state = .ok state') :
    layout.fillMembers seen state ((some key, value) :: rest) =
      layout.fillMembers (key :: seen) state' rest := by
  rw [fillMembers, found]
  simp only [fresh, filled]
  rfl

theorem read_object {required : Nat} {missing : σ → Option String} {start : σ}
    {members : List (Option String × Document)}
    (filled : layout.fillMembers [] start members = .ok state) (full : missing state = none) :
    layout.read required missing start (.object members true) = .ok state := by
  simp only [read, filled, bind, Except.bind, full]
  rfl

end Layout

end TaskFilter.Json
