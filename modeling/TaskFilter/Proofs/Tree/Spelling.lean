import Mathlib.Data.List.Forall2
import TaskFilter.Proofs.Json.Printing
import TaskFilter.Proofs.Tree.Conditions
import TaskFilter.Proofs.Tree.Reading

/-!
# Spellings of trees

One tree can be written in many ways: each node as an object, with its members in any order and others
among them, or as an array; and each operator as a name or as an object. The relation `Spells` says what
can be written for a tree, without saying how it is read.

## Layers

- **Layouts**: `LaidOut` for a node whose parts are written, and `Spells` for a whole tree.
- **Drafts**: `fillMembers_of_fills` and `fillItems_of_fills`, a node's parts read in any order.
- **Trees**: `ofJson_of_spells`, every spelling of a tree is read as the tree.
- **Texts**: `ofText_of_spells`, the main statement.
-/

namespace TaskFilter.Tree

open TaskFilter.Json (Document Mismatch ReadError Source nestingLimit readValue)

/-! ## Layouts -/

/-- What can be written for an operator. -/
inductive SpelledOperator (operator : Operator) : Json → Prop where
  | name : SpelledOperator operator (.string operator.token)
  | key : SpelledOperator operator (.object [(operator.token, .null)])

/-- The keys that mean something in a node of a shape. -/
def Shape.keys (shape : Shape) : List String :=
  "type" :: shape.parts.map Part.key

/-- What can be written for a node from what is written for its parts: an array with the name of its shape
in front, or an object with the name under `type`, in any order and with members of other keys. -/
inductive LaidOut (shape : Shape) (values : List Json) : Json → Prop where
  | array : LaidOut shape values (.array (.string shape.name :: values))
  | object (members others : List (String × Json)) (unknown : ∀ member ∈ others, member.1 ∉ shape.keys)
      (order : members.Perm (shape.keys.zip (.string shape.name :: values) ++ others)) :
      LaidOut shape values (.object members)

mutual

/-- What can be written for a tree, each node in a layout of its own. -/
def Spells : Tree → Json → Prop
  | .literal value, json => LaidOut .literal [.bool value] json
  | .comparison field operator operand, json =>
    ∃ written, SpelledOperator operator written ∧
      LaidOut .comparison [.string field, written, operand.toJson] json
  | .presence field present, json => LaidOut .presence [.string field, .bool present] json
  | .all children, json => ∃ items, SpellsAll children items ∧ LaidOut .all [.array items] json
  | .any children, json => ∃ items, SpellsAll children items ∧ LaidOut .any [.array items] json
  | .not child, json => ∃ written, Spells child written ∧ LaidOut .not [written] json

def SpellsAll : List Tree → List Json → Prop
  | [], [] => True
  | child :: rest, item :: items => Spells child item ∧ SpellsAll rest items
  | _, _ => False

end

/-! ## Drafts -/

/-- All the parts of a node. -/
def draft : Tree → Draft
  | .literal value => { value := some value }
  | .comparison field operator operand =>
    { field := some field, operator := some operator, operand := some operand }
  | .presence field present => { field := some field, present := some present }
  | .all children => { children := some children }
  | .any children => { children := some children }
  | .not child => { child := some child }

theorem assemble_draft (tree : Tree) : tree.draft.assemble tree.shape = .ok tree := by
  cases tree <;> rfl

/-- The draft with a part taken from a node. -/
def Draft.take (tree : Tree) (draft : Draft) : Part → Draft
  | .value => { draft with value := tree.draft.value }
  | .field => { draft with field := tree.draft.field }
  | .operator => { draft with operator := tree.draft.operator }
  | .operand => { draft with operand := tree.draft.operand }
  | .present => { draft with present := tree.draft.present }
  | .children => { draft with children := tree.draft.children }
  | .child => { draft with child := tree.draft.child }

theorem Draft.has_take_of_ne {part other : Part} (h : other ≠ part) (tree : Tree) (draft : Draft) :
    (draft.take tree part).has other = draft.has other := by
  cases part <;> cases other <;> first | rfl | exact absurd rfl h

theorem Draft.take_comm (tree : Tree) (draft : Draft) (part other : Part) :
    (draft.take tree part).take tree other = (draft.take tree other).take tree part := by
  cases part <;> cases other <;> rfl

/-- The parts of its shape make up the node. -/
theorem foldl_take_parts (tree : Tree) : tree.shape.parts.foldl (Draft.take tree) {} = tree.draft := by
  cases tree <;> rfl

/-- A part of a node is read from a value, whatever other parts have been read. -/
def Fills (tree : Tree) (part : Part) (value : Json) : Prop :=
  ∀ draft, part.fill value (fun _ => ofJson value) (fun _ => listOfJson value) draft =
    .ok (draft.take tree part)

theorem fillItems_of_fills {tree : Tree} {parts : List Part} {values : List Json}
    (h : List.Forall₂ (Fills tree) parts values) : ∀ {shape : Shape} {count : Nat} {draft : Draft},
      fillItems shape count parts draft values = .ok (parts.foldl (Draft.take tree) draft) := by
  induction h with
  | nil =>
    intro shape count draft
    rw [fillItems, List.foldl_nil]
  | cons first _ ih =>
    intro shape count draft
    rw [fillItems, first draft, List.foldl_cons]
    exact ih

/-- The part of a shape that is written under a key. -/
def Shape.part? (shape : Shape) (key : String) : Option Part :=
  shape.parts.find? (·.key == key)

/-- No two parts of a shape have the same key. -/
theorem Shape.part?_key {shape : Shape} {part : Part} (h : part ∈ shape.parts) :
    shape.part? part.key = some part := by
  cases shape <;> revert part <;> decide

theorem Shape.part?_eq_none {shape : Shape} {key : String} (h : key ∉ shape.parts.map Part.key) :
    shape.part? key = none := by
  rw [part?, List.find?_eq_none]
  intro part member same
  exact h (List.mem_map.mpr ⟨part, member, eq_of_beq same⟩)

theorem Shape.part?_type (shape : Shape) : shape.part? "type" = none := by
  cases shape <;> rfl

theorem Shape.nodup_parts (shape : Shape) : shape.parts.Nodup := by
  cases shape <;> decide

/-- The parts of a shape that members are written for. -/
def Shape.partsOf (shape : Shape) (members : List (String × Json)) : List Part :=
  members.filterMap fun member => shape.part? member.1

theorem Shape.partsOf_cons_of_none {shape : Shape} {key : String} (h : shape.part? key = none)
    (value : Json) (members : List (String × Json)) :
    shape.partsOf ((key, value) :: members) = shape.partsOf members :=
  List.filterMap_cons_none h

theorem Shape.partsOf_cons_of_some {shape : Shape} {key : String} {part : Part}
    (h : shape.part? key = some part) (value : Json) (members : List (String × Json)) :
    shape.partsOf ((key, value) :: members) = part :: shape.partsOf members :=
  List.filterMap_cons_some h

/-- The parts of a node are read in whatever order they are written, each of them once. -/
theorem fillMembers_of_fills {tree : Tree} (members : List (String × Json)) : ∀ {draft : Draft},
    (∀ key value part, (key, value) ∈ members → tree.shape.part? key = some part →
      Fills tree part value) →
    (tree.shape.partsOf members).Nodup →
    (∀ part ∈ tree.shape.partsOf members, draft.has part = false) →
      fillMembers tree.shape draft members =
        .ok ((tree.shape.partsOf members).foldl (Draft.take tree) draft) := by
  induction members with
  | nil =>
    intro draft _ _ _
    rw [fillMembers]
    rfl
  | cons member members ih =>
    obtain ⟨key, value⟩ := member
    intro draft fills once free
    have later := fun key value part listed => fills key value part (List.mem_cons_of_mem _ listed)
    rw [fillMembers]
    cases found : tree.shape.part? key with
    | none =>
      rw [Shape.partsOf_cons_of_none found] at once free ⊢
      rw [Shape.part?] at found
      simp only [found]
      exact ih later once free
    | some part =>
      -- the part is still free, and filling it leaves the others free
      rw [Shape.partsOf_cons_of_some found] at once free ⊢
      obtain ⟨new, once⟩ := List.nodup_cons.mp once
      have first := fills key value part List.mem_cons_self found draft
      rw [Shape.part?] at found
      simp only [found, free part List.mem_cons_self, first]
      refine ih later once fun other listed => ?_
      have apart : other ≠ part := fun same => new (same ▸ listed)
      rw [Draft.has_take_of_ne apart]
      exact free other (List.mem_cons_of_mem _ listed)

/-! ## Nodes -/

section Nodes

variable {tree : Tree} {values : List Json}

/-- What is written for the parts of a shape, by their keys. -/
theorem Shape.partsOf_zip {shape : Shape} {parts : List Part} (h : parts ⊆ shape.parts) :
    ∀ {values : List Json}, values.length = parts.length →
      shape.partsOf ((parts.map Part.key).zip values) = parts := by
  induction parts with
  | nil => exact fun _ => rfl
  | cons part parts ih =>
    intro values same
    cases values with
    | nil => cases same
    | cons value values =>
      have first := Shape.part?_key (h List.mem_cons_self)
      rw [List.map_cons, List.zip_cons_cons, Shape.partsOf_cons_of_some first,
        ih (fun _ listed => h (List.mem_cons_of_mem _ listed)) (Nat.succ.inj same)]

theorem fills_of_mem_zip {parts : List Part} (h : List.Forall₂ (Fills tree) parts values) :
    parts ⊆ tree.shape.parts → ∀ key value part,
      (key, value) ∈ (parts.map Part.key).zip values → tree.shape.part? key = some part →
        Fills tree part value := by
  induction h with
  | nil => exact fun _ _ _ _ listed => absurd listed List.not_mem_nil
  | @cons own first parts values fills _ ih =>
    intro inside key value part listed found
    rcases List.mem_cons.mp listed with same | later
    · obtain ⟨rfl, rfl⟩ := Prod.mk.inj same
      rw [Shape.part?_key (inside List.mem_cons_self)] at found
      exact Option.some.inj found ▸ fills
    · exact ih (fun _ other => inside (List.mem_cons_of_mem _ other)) key value part later found

/-- Behind the shape, members of other keys make no difference. -/
theorem findShape_some_of_filter (shape : Shape) {members : List (String × Json)}
    (none : members.filter (·.1 == "type") = []) : findShape (some shape) members = .ok shape := by
  induction members with
  | nil => rfl
  | cons member members ih =>
    obtain ⟨key, value⟩ := member
    rw [List.filter_cons] at none
    split at none
    · cases none
    next other =>
      rw [findShape_cons_of_ne (by simpa using other)]
      exact ih none

/-- The shape is found wherever it stands, if it stands there once. -/
theorem findShape_of_filter {shape : Shape} {tag : Json} (read : readShape tag = .ok shape)
    {members : List (String × Json)} (once : members.filter (·.1 == "type") = [("type", tag)]) :
    findShape none members = .ok shape := by
  induction members with
  | nil => cases once
  | cons member members ih =>
    obtain ⟨key, value⟩ := member
    rw [List.filter_cons] at once
    split at once
    next same =>
      obtain ⟨⟨rfl, rfl⟩, rest⟩ := by simpa using once
      refine findShape_none_eq_ok_iff.mpr ⟨shape, read, ?_⟩
      exact findShape_some_of_filter shape (by simpa using rest)
    next other =>
      rw [findShape_cons_of_ne (by simpa using other)]
      exact ih once

theorem readShape_name (shape : Shape) : readShape (.string shape.name) = .ok shape := by
  cases shape <;> rfl

/-- The shape's name stands among the members of a node once. -/
theorem filter_type_of_perm {shape : Shape} {members others : List (String × Json)}
    (unknown : ∀ member ∈ others, member.1 ∉ shape.keys)
    (order : members.Perm (shape.keys.zip (.string shape.name :: values) ++ others)) :
    members.filter (·.1 == "type") = [("type", .string shape.name)] := by
  have parts : ((shape.parts.map Part.key).zip values).filter (·.1 == "type") = [] := by
    have keys : ∀ key ∈ shape.parts.map Part.key, ¬(key == "type") = true := by
      cases shape <;> decide
    exact List.filter_eq_nil_iff.mpr fun member listed => keys member.1 (List.of_mem_zip listed).1
  have rest : others.filter (·.1 == "type") = [] := by
    refine List.filter_eq_nil_iff.mpr fun member listed same => ?_
    exact unknown member listed (eq_of_beq same ▸ List.mem_cons_self)
  have own := order.filter (·.1 == "type")
  rw [List.filter_append, rest, Shape.keys, List.zip_cons_cons, List.filter_cons_of_pos rfl, parts] at own
  exact List.perm_singleton.mp own

section Members

variable {members others : List (String × Json)}
  (fills : List.Forall₂ (Fills tree) tree.shape.parts values)
  (unknown : ∀ member ∈ others, member.1 ∉ tree.shape.keys)
  (order : members.Perm (tree.shape.keys.zip (.string tree.shape.name :: values) ++ others))

include fills unknown order

/-- The members of other keys stand for no part. -/
theorem perm_partsOf : (tree.shape.partsOf members).Perm tree.shape.parts := by
  have none : ∀ member ∈ others, tree.shape.part? member.1 = none := fun member listed =>
    Shape.part?_eq_none fun key => unknown member listed (List.mem_cons_of_mem _ key)
  have filled := order.filterMap fun member => tree.shape.part? member.1
  rw [List.filterMap_append, List.filterMap_eq_nil_iff.mpr none, List.append_nil] at filled
  have own := @Shape.partsOf_zip tree.shape _ (List.Subset.refl _) values fills.length_eq.symm
  rw [← Shape.partsOf_cons_of_none (Shape.part?_type tree.shape) (.string tree.shape.name)] at own
  exact filled.trans (.of_eq own)

theorem fills_of_mem {key : String} {value : Json} {part : Part} (listed : (key, value) ∈ members)
    (found : tree.shape.part? key = some part) : Fills tree part value := by
  rcases List.mem_append.mp (order.subset listed) with own | other
  · rcases List.mem_cons.mp own with same | own
    -- the shape is no part
    · obtain ⟨rfl, rfl⟩ := Prod.mk.inj same
      rw [Shape.part?_type] at found
      cases found
    · exact fills_of_mem_zip fills (List.Subset.refl _) key value part own found
  · have none := Shape.part?_eq_none fun known =>
      unknown (key, value) other (List.mem_cons_of_mem _ known)
    rw [none] at found
    cases found

/-- The members are read in whatever order they stand: the parts that they fill make up the node. -/
theorem fillMembers_of_perm : fillMembers tree.shape {} members = .ok tree.draft := by
  have parts := perm_partsOf fills unknown order
  have once := parts.nodup_iff.mpr tree.shape.nodup_parts
  have filled := @fillMembers_of_fills tree members {}
    (fun _ _ _ => fills_of_mem fills unknown order) once (fun part _ => by cases part <;> rfl)
  rw [filled, parts.foldl_eq' fun part _ other _ draft => Draft.take_comm tree draft part other,
    foldl_take_parts]

end Members

/-- A node is read however it is laid out. -/
theorem ofJson_of_laidOut {json : Json} (fills : List.Forall₂ (Fills tree) tree.shape.parts values)
    (laid : LaidOut tree.shape values json) : ofJson json = .ok tree := by
  cases laid with
  | array =>
    apply ofJson_array_eq_ok_iff.mpr
    refine ⟨tree.shape, tree.draft, readShape_name tree.shape, ?_, assemble_draft tree⟩
    rw [fillItems_of_fills fills, foldl_take_parts]
  | object members others unknown order =>
    apply ofJson_object_eq_ok_iff.mpr
    refine ⟨tree.shape, tree.draft, ?_, fillMembers_of_perm fills unknown order, assemble_draft tree⟩
    exact findShape_of_filter (readShape_name tree.shape) (filter_type_of_perm unknown order)

end Nodes

/-! ## Trees -/

theorem readOperator_of_spelled {operator : Operator} {json : Json}
    (h : SpelledOperator operator json) : readOperator json = .ok operator := by
  have named : operatorNamed operator.token = .ok operator := by
    rw [operatorNamed, Operator.ofToken?_token]
  cases h with
  | name => exact named
  | key => rw [readOperator, named]; rfl

theorem strings?_map (items : List String) :
    Operand.strings? (items.map .string) = some items := by
  induction items with
  | nil => rfl
  | cons item items ih =>
    rw [Operand.strings?] at ih ⊢
    simp [ih]

/-- What is written for an operand is read as the operand. -/
theorem readOperand_toJson (operand : Operand) : readOperand operand.toJson = .ok operand := by
  rw [readOperand_eq_ok_iff]
  cases operand with
  | array items =>
    rw [Operand.toJson, Json.strings, Operand.ofJson?, strings?_map]
    rfl
  | bool | number | string => rfl

/-- The children of a group are read from a list of nodes. -/
theorem fills_children {tree : Tree} {children : List Tree} {items : List Json}
    (own : tree.draft.children = some children) (read : ofJsons items = .ok children) :
    Fills tree .children (.array items) := by
  intro draft
  rw [Part.fill, listOfJson, read, Draft.take, own]
  rfl

-- one case for each shape: its parts are read, the nodes among them by recursion
mutual

/-- Every spelling of a tree is read as the tree. -/
theorem ofJson_of_spells : (tree : Tree) → ∀ {json : Json}, tree.Spells json → ofJson json = .ok tree
  | .literal value, json, laid =>
    ofJson_of_laidOut (.cons (fun _ => rfl) .nil) laid
  | .comparison field operator operand, json, ⟨written, spelled, laid⟩ => by
    have own : Fills (.comparison field operator operand) .operator written := fun draft => by
      rw [Part.fill, readOperator_of_spelled spelled]
      rfl
    have compared : Fills (.comparison field operator operand) .operand operand.toJson :=
      fun draft => by
        rw [Part.fill, readOperand_toJson]
        rfl
    exact ofJson_of_laidOut (.cons (fun _ => rfl) (.cons own (.cons compared .nil))) laid
  | .presence field present, json, laid =>
    ofJson_of_laidOut (.cons (fun _ => rfl) (.cons (fun _ => rfl) .nil)) laid
  | .all children, json, ⟨items, spelled, laid⟩ =>
    ofJson_of_laidOut (.cons (fills_children rfl (ofJsons_of_spellsAll children spelled)) .nil) laid
  | .any children, json, ⟨items, spelled, laid⟩ =>
    ofJson_of_laidOut (.cons (fills_children rfl (ofJsons_of_spellsAll children spelled)) .nil) laid
  | .not child, json, ⟨written, spelled, laid⟩ => by
    have read := ofJson_of_spells child spelled
    have own : Fills (.not child) .child written := fun draft => by
      rw [Part.fill, read]
      rfl
    exact ofJson_of_laidOut (.cons own .nil) laid

theorem ofJsons_of_spellsAll : (trees : List Tree) → ∀ {items : List Json}, SpellsAll trees items →
    ofJsons items = .ok trees
  | [], [], _ => rfl
  | tree :: trees, item :: items, spelled => by
    rw [ofJsons, ofJson_of_spells tree spelled.1, ofJsons_of_spellsAll trees spelled.2]
    rfl

end

/-! ## Texts -/

theorem named_of_laidOut {shape : Shape} {values : List Json} {json : Json}
    (laid : LaidOut shape values json) : Named json := by
  cases laid with
  | array => exact ⟨shape.name, rfl⟩
  | object members others unknown order =>
    intro tag listed
    have once := filter_type_of_perm unknown order
    have kept : ("type", tag) ∈ members.filter (·.1 == "type") := List.mem_filter.mpr ⟨listed, rfl⟩
    rw [once, List.mem_singleton] at kept
    exact ⟨shape.name, (Prod.mk.inj kept).2⟩

theorem named_of_spells {tree : Tree} {json : Json} (h : tree.Spells json) : Named json := by
  cases tree with
  | literal | presence => exact named_of_laidOut h
  | comparison =>
    obtain ⟨_, _, laid⟩ := h
    exact named_of_laidOut laid
  | all | any | not =>
    obtain ⟨_, _, laid⟩ := h
    exact named_of_laidOut laid

theorem ofText_of_spelled {tree : Tree} {text : String} {value : Json} (written : Json.Spells text value)
    (spelled : tree.Spells value) (flat : value.depth ≤ nestingLimit) : ofText text = .ok tree := by
  rw [ofText, Source.read_of_spelled (Document.isWhole_ofJson value) written, read_eq_ok_iff]
  exact ⟨value, Document.value?_ofJson value flat, named_of_spells spelled, ofJson_of_spells tree spelled⟩

/-- All the numbers that a tree compares with are integers. -/
def HasIntegers (tree : Tree) : Prop :=
  ∀ field operator n, comparison field operator (.number n) ∈ tree.conditions → n.IsIntegral

theorem laidOut_object (shape : Shape) (values : List Json) :
    LaidOut shape values (.object (shape.keys.zip (.string shape.name :: values))) :=
  .object _ [] nofun (.of_eq (List.append_nil _).symm)

mutual

/-- A tree is written as one of its spellings. -/
theorem spells_toJson : (tree : Tree) → tree.Spells tree.toJson
  | .literal value => laidOut_object .literal [.bool value]
  | .comparison field operator operand =>
    ⟨.string operator.token, .name,
      laidOut_object .comparison [.string field, .string operator.token, operand.toJson]⟩
  | .presence field present => laidOut_object .presence [.string field, .bool present]
  | .all children => ⟨toJsons children, spellsAll_toJsons children, laidOut_object .all _⟩
  | .any children => ⟨toJsons children, spellsAll_toJsons children, laidOut_object .any _⟩
  | .not child => ⟨toJson child, spells_toJson child, laidOut_object .not _⟩

theorem spellsAll_toJsons : (trees : List Tree) → SpellsAll trees (toJsons trees)
  | [] => trivial
  | tree :: trees => ⟨spells_toJson tree, spellsAll_toJsons trees⟩

end

mutual

theorem integral_toJson : (tree : Tree) → tree.HasIntegers → tree.toJson.Integral
  | .literal _, _ => ⟨trivial, trivial, trivial⟩
  | .comparison field operator operand, integers => by
    refine ⟨trivial, trivial, trivial, ?_, trivial⟩
    cases operand with
    | number n => exact integers field operator n List.mem_cons_self
    | array items => exact Json.allIntegral_strings items
    | bool | string => exact trivial
  | .presence _ _, _ => ⟨trivial, trivial, trivial, trivial⟩
  | .all children, integers => ⟨trivial, allIntegral_toJsons children integers, trivial⟩
  | .any children, integers => ⟨trivial, allIntegral_toJsons children integers, trivial⟩
  | .not child, integers => ⟨trivial, integral_toJson child integers, trivial⟩

theorem allIntegral_toJsons : (trees : List Tree) →
    (∀ field operator n, comparison field operator (.number n) ∈ allConditions trees → n.IsIntegral) →
      Json.AllIntegral (toJsons trees)
  | [], _ => trivial
  | tree :: trees, integers =>
    ⟨integral_toJson tree fun field operator n listed =>
        integers field operator n (List.mem_append_left _ listed),
      allIntegral_toJsons trees fun field operator n listed =>
        integers field operator n (List.mem_append_right _ listed)⟩

end

theorem ofText_toJson {tree : Tree} (integers : tree.HasIntegers)
    (flat : tree.toJson.depth ≤ nestingLimit) :
    ofText tree.toJson.compact = .ok tree ∧ ofText tree.toJson.pretty = .ok tree :=
  have integral := integral_toJson tree integers
  ⟨ofText_of_spelled (Json.spells_compact integral) (spells_toJson tree) flat,
    ofText_of_spelled (Json.spells_pretty integral) (spells_toJson tree) flat⟩

/-- Reading undoes writing. Every text that spells a tree is read as the tree, if it is not nested too
deeply; so are the two texts that are written for the tree. And whatever text a tree was read from, that text
holds a value, and the tree is written with no more nesting than the value has, so that it can be read
again. -/
theorem ofText_of_spells (tree : Tree) :
    (∀ text value, Json.Spells text value → tree.Spells value → value.depth ≤ nestingLimit →
      ofText text = .ok tree) ∧
    (tree.HasIntegers → tree.toJson.depth ≤ nestingLimit →
      ofText tree.toJson.compact = .ok tree ∧ ofText tree.toJson.pretty = .ok tree) ∧
    (∀ text, ofText text = .ok tree → ∃ value, Source.read readValue text = .ok value ∧
      tree.toJson.depth ≤ value.depth ∧ value.depth ≤ nestingLimit ∧
        (tree.HasIntegers →
          ofText tree.toJson.compact = .ok tree ∧ ofText tree.toJson.pretty = .ok tree)) := by
  refine ⟨fun text value => ofText_of_spelled, ofText_toJson, fun text accepted => ?_⟩
  obtain ⟨value, held, -, read⟩ := ofText_eq_ok_iff.mp accepted
  have shallow := depth_toJson_le value read
  have flat := Document.depth_le_of_value? _
    (Json.readValue_eq_ok_iff.mp (Json.Source.read_eq_ok_iff.mp held).1)
  exact ⟨value, held, shallow, flat, fun integers => ofText_toJson integers (Nat.le_trans shallow flat)⟩

/-- A node with its members out of order and one too many, around a node in an array; and what is written
for the tree that they spell. -/
theorem ofText_of_spells_reordered :
    let tree := Tree.not (.comparison "id" .eq (.number (.integer 3)))
    ofText "\x7b\"note\":[],\"child\":[\"comparison\",\"id\",\x7b\"==\":null\x7d,3],\"type\":\"not\"\x7d" =
      .ok tree ∧ tree.HasIntegers ∧ tree.toJson.depth = 2 ∧ ofText tree.toJson.compact = .ok tree ∧
        ofText tree.toJson.pretty = .ok tree := by
  intro tree
  let own : Json := .array [.string "comparison", .string "id", .object [("==", .null)],
    .number (.integer 3)]
  let value : Json := .object [("note", .array []), ("child", own), ("type", .string "not")]
  have small : (Number.integer 3).IsIntegral := ⟨by decide, by decide⟩
  have integral : value.Integral :=
    ⟨trivial, ⟨trivial, trivial, ⟨trivial, trivial⟩, small, trivial⟩, trivial, trivial⟩
  have spelled : tree.Spells value :=
    ⟨own, ⟨.object [("==", .null)], .key, .array⟩,
      .object _ [("note", .array [])] (by decide) (List.reverse_perm _).symm⟩
  have integers : tree.HasIntegers := by
    rintro field operator n listed
    cases List.mem_singleton.mp listed
    exact small
  have accepted := (ofText_of_spells tree).1 value.compact value (Json.spells_compact integral) spelled
    (by decide)
  have written := (ofText_of_spells tree).2.1 integers (by decide)
  obtain ⟨_, _, _, _, again⟩ := (ofText_of_spells tree).2.2 value.compact accepted
  exact ⟨accepted, integers, rfl, written.1, (again integers).2⟩

end TaskFilter.Tree
