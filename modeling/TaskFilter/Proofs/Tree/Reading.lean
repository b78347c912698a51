import TaskFilter.Proofs.Json.Reading
import TaskFilter.Tree.Reading

/-!
# How trees are read

The root of a tree is read member by member from the text, and every other node from a value. Both ways
accept the same trees: a tree is read from a text if the text holds a value that a node is read from, and
the shape of the outermost node is given by name.

## Layers

- **Shapes**: `rootMembers_eq_ok_iff` finds the shape and the value among the members of the root.
- **The root**: `ofText_eq_ok_iff`, the main statement.
- **Depth**: `depth_toJson_le`, a tree is written with no more nesting than it was read from.
-/

namespace TaskFilter.Tree

open TaskFilter.Json (Document Mismatch ReadError Source bind_eq_ok_iff mapError_eq_ok_iff
  nestingLimit readValue)

/-! ## Shapes -/

theorem readRootShape_eq_ok_iff {document : Document} {shape : Shape} :
    readRootShape document = .ok shape ↔
      ∃ name, document = .string (some name) ∧ shapeNamed name = .ok shape := by
  cases document with
  | string value => cases value <;> simp [readRootShape, mapError_eq_ok_iff]
  | _ => simp [readRootShape]

/-- The outermost node gives its shape by name, where there is one. -/
def Named : Json → Prop
  | .object members => ∀ tag, ("type", tag) ∈ members → ∃ name, tag = .string name
  | .array (tag :: _) => ∃ name, tag = .string name
  | _ => True

theorem named_object_cons {key : String} {value : Json} {members : List (String × Json)} :
    Named (.object ((key, value) :: members)) ↔
      (key = "type" → ∃ name, value = .string name) ∧ Named (.object members) := by
  constructor
  · intro named
    refine ⟨?_, fun tag listed => named tag (List.mem_cons_of_mem _ listed)⟩
    rintro rfl
    exact named value List.mem_cons_self
  · rintro ⟨first, others⟩ tag listed
    rcases List.mem_cons.mp listed with same | later
    · obtain ⟨rfl, rfl⟩ := Prod.mk.inj same
      exact first rfl
    · exact others tag later

theorem findShape_cons_of_ne {key : String} (h : key ≠ "type") (found : Option Shape) (value : Json)
    (members : List (String × Json)) :
    findShape found ((key, value) :: members) = findShape found members := by
  rw [findShape, if_neg h]

theorem findShape_none_eq_ok_iff {value : Json} {members : List (String × Json)} {shape : Shape} :
    findShape none (("type", value) :: members) = .ok shape ↔
      ∃ first, readShape value = .ok first ∧ findShape (some first) members = .ok shape := by
  rw [findShape, if_pos rfl, ← bind_eq_ok_iff]
  exact Iff.rfl

theorem rootMembers_type_eq_ok_iff {value : Document} {members : List (Option String × Document)}
    {gathered : Option Shape × List (String × Json)} :
    rootMembers none ((some "type", value) :: members) = .ok gathered ↔
      ∃ name shape, value = .string (some name) ∧ shapeNamed name = .ok shape ∧
        rootMembers (some shape) members = .ok gathered := by
  rw [rootMembers, if_pos rfl]
  refine bind_eq_ok_iff.trans ⟨?_, ?_⟩
  · rintro ⟨shape, read, others⟩
    obtain ⟨name, rfl, named⟩ := readRootShape_eq_ok_iff.mp read
    exact ⟨name, shape, rfl, named, others⟩
  · rintro ⟨name, shape, rfl, named, others⟩
    exact ⟨shape, readRootShape_eq_ok_iff.mpr ⟨name, rfl, named⟩, others⟩

theorem rootMembers_cons_eq_ok_iff {key : String} (h : key ≠ "type") {found shape : Option Shape}
    {value : Document} {members : List (Option String × Document)} {others : List (String × Json)} :
    rootMembers found ((some key, value) :: members) = .ok (shape, others) ↔
      ∃ json rest, value.value? memberDepth = some json ∧
        rootMembers found members = .ok (shape, rest) ∧ others = (key, json) :: rest := by
  rw [rootMembers, if_neg h]
  cases value.value? memberDepth with
  | none => simp
  | some json =>
    rcases rootMembers found members with _ | ⟨shape', rest⟩
    · simp [bind, Except.bind]
    · simp [bind, Except.bind, pure, Except.pure, and_assoc, eq_comm]

/-- The members of the root are gathered if they have values and one of them is a shape. -/
theorem rootMembers_eq_ok_iff (members : List (Option String × Document)) :
    ∀ {found : Option Shape} {shape : Shape} {others : List (String × Json)},
      rootMembers found members = .ok (some shape, others) ↔
        ∃ values, Document.memberValues? memberDepth members = some values ∧
          Named (.object values) ∧ findShape found values = .ok shape ∧
            values.filter (·.1 != "type") = others := by
  induction members with
  | nil =>
    intro found shape others
    cases found <;> simp [rootMembers, Document.memberValues?, findShape, Named, eq_comm]
  | cons member members ih =>
    -- `found` is the shape that was met before; a second one is refused on both sides
    intro found shape others
    obtain ⟨key, value⟩ := member
    simp only [Document.memberValues?_cons_eq_some_iff]
    constructor
    · intro gathered
      cases key with
      | none => cases gathered
      | some key =>
        by_cases tag : key = "type"
        · subst tag
          cases found with
          | some found => cases gathered
          | none =>
            obtain ⟨name, first, rfl, meant, rest⟩ := rootMembers_type_eq_ok_iff.mp gathered
            obtain ⟨values, held, named, found, rfl⟩ := ih.mp rest
            refine ⟨_, ⟨"type", .string name, values, rfl, rfl, held, rfl⟩, ?_, ?_, rfl⟩
            · exact named_object_cons.mpr ⟨fun _ => ⟨name, rfl⟩, named⟩
            · exact findShape_none_eq_ok_iff.mpr ⟨first, meant, found⟩
        · obtain ⟨json, rest, first, rest, rfl⟩ := (rootMembers_cons_eq_ok_iff tag).mp gathered
          obtain ⟨values, held, named, found, rfl⟩ := ih.mp rest
          refine ⟨_, ⟨key, json, values, rfl, first, held, rfl⟩, ?_, ?_, ?_⟩
          · exact named_object_cons.mpr ⟨fun same => absurd same tag, named⟩
          · rw [findShape_cons_of_ne tag, found]
          · exact List.filter_cons_of_pos (by simpa using tag)
    · rintro ⟨_, ⟨key, json, values, rfl, first, held, rfl⟩, named, shaped, rfl⟩
      rw [named_object_cons] at named
      by_cases tag : key = "type"
      · subst tag
        obtain ⟨name, rfl⟩ := named.1 rfl
        cases found with
        | some found => cases shaped
        | none =>
          obtain ⟨own, meant, shaped⟩ := findShape_none_eq_ok_iff.mp shaped
          have rest := ih.mpr ⟨values, held, named.2, shaped, rfl⟩
          exact rootMembers_type_eq_ok_iff.mpr
            ⟨name, own, Document.value?_eq_string_iff.mp first, meant, rest⟩
      · rw [findShape_cons_of_ne tag] at shaped
        have rest := ih.mpr ⟨values, held, named.2, shaped, rfl⟩
        exact (rootMembers_cons_eq_ok_iff tag).mpr
          ⟨json, _, first, rest, List.filter_cons_of_pos (by simpa using tag)⟩

/-! ## The root -/

/-- The shape is none of the parts. -/
theorem fillMembers_filter (shape : Shape) (draft : Draft) (members : List (String × Json)) :
    fillMembers shape draft (members.filter (·.1 != "type")) = fillMembers shape draft members := by
  induction members generalizing draft with
  | nil => rfl
  | cons member members ih =>
    obtain ⟨key, value⟩ := member
    by_cases tag : key = "type"
    · subst tag
      have none : shape.parts.find? (·.key == "type") = none := by cases shape <;> rfl
      rw [List.filter_cons_of_neg (by simp), ih, fillMembers, none]
    · rw [List.filter_cons_of_pos (by simpa using tag), fillMembers, fillMembers]
      simp only [ih]

theorem ofJson_object_eq_ok_iff {members : List (String × Json)} {tree : Tree} :
    ofJson (.object members) = .ok tree ↔
      ∃ shape draft, findShape none members = .ok shape ∧
        fillMembers shape {} members = .ok draft ∧ draft.assemble shape = .ok tree := by
  simp only [ofJson, bind_eq_ok_iff, exists_and_left]

theorem ofJson_array_eq_ok_iff {tag : Json} {items : List Json} {tree : Tree} :
    ofJson (.array (tag :: items)) = .ok tree ↔
      ∃ shape draft, readShape tag = .ok shape ∧
        fillItems shape 0 shape.parts {} items = .ok draft ∧ draft.assemble shape = .ok tree := by
  simp only [ofJson, bind_eq_ok_iff, exists_and_left]

theorem read_object_eq_ok_iff {members : List (Option String × Document)} {closed : Bool}
    {tree : Tree} : read (.object members closed) = .ok tree ↔
      closed = true ∧ ∃ shape others draft, rootMembers none members = .ok (some shape, others) ∧
        fillMembers shape {} others = .ok draft ∧ draft.assemble shape = .ok tree := by
  rw [read]
  rcases rootMembers none members with _ | ⟨_ | shape, others⟩
  · simp [bind, Except.bind]
  · cases closed <;> simp [bind, Except.bind, throw, throwThe, MonadExceptOf.throw]
  cases closed with
  | false => simp [bind, Except.bind, throw, throwThe, MonadExceptOf.throw]
  | true =>
    -- what is left of the reader are the parts and the node
    show (fillMembers shape {} others >>= fun draft => draft.assemble shape).mapError ReadError.mismatch =
      .ok tree ↔ _
    rw [mapError_eq_ok_iff, bind_eq_ok_iff]
    constructor
    · rintro ⟨draft, filled, assembled⟩
      exact ⟨rfl, shape, others, draft, rfl, filled, assembled⟩
    · rintro ⟨-, _, _, draft, ⟨⟩, filled, assembled⟩
      exact ⟨draft, filled, assembled⟩

theorem read_array_eq_ok_iff {tag : Document} {items : List Document} {closed : Bool} {tree : Tree} :
    read (.array (tag :: items) closed) = .ok tree ↔
      closed = true ∧ ∃ shape values draft, readRootShape tag = .ok shape ∧
        Document.values? memberDepth items = some values ∧
        fillItems shape 0 shape.parts {} values = .ok draft ∧ draft.assemble shape = .ok tree := by
  rw [read]
  cases readRootShape tag with
  | error => simp [bind, Except.bind]
  | ok shape =>
    cases Document.values? memberDepth items with
    | none => simp [bind, Except.bind, throw, throwThe, MonadExceptOf.throw]
    | some values =>
      cases closed with
      | false => simp [bind, Except.bind, throw, throwThe, MonadExceptOf.throw]
      | true =>
        show (fillItems shape 0 shape.parts {} values >>= fun draft =>
          draft.assemble shape).mapError ReadError.mismatch = .ok tree ↔ _
        rw [mapError_eq_ok_iff, bind_eq_ok_iff]
        constructor
        · rintro ⟨draft, filled, assembled⟩
          exact ⟨rfl, shape, values, draft, rfl, rfl, filled, assembled⟩
        · rintro ⟨-, _, _, draft, ⟨⟩, ⟨⟩, filled, assembled⟩
          exact ⟨draft, filled, assembled⟩

/-- The root is read like any other node, but for shapes that are given by their places. -/
theorem read_eq_ok_iff {document : Document} {tree : Tree} : read document = .ok tree ↔
    ∃ value, document.value? nestingLimit = some value ∧ Named value ∧ ofJson value = .ok tree := by
  cases document with
  | object members closed =>
    rw [read_object_eq_ok_iff]
    simp only [rootMembers_eq_ok_iff, Document.value?_object_eq_some_iff]
    constructor
    · rintro ⟨rfl, shape, _, draft, ⟨values, held, named, shaped, rfl⟩, filled, assembled⟩
      rw [fillMembers_filter] at filled
      exact ⟨_, ⟨by decide, rfl, values, held, rfl⟩, named,
        ofJson_object_eq_ok_iff.mpr ⟨shape, draft, shaped, filled, assembled⟩⟩
    · rintro ⟨_, ⟨-, rfl, values, held, rfl⟩, named, accepted⟩
      obtain ⟨shape, draft, shaped, filled, assembled⟩ := ofJson_object_eq_ok_iff.mp accepted
      rw [← fillMembers_filter] at filled
      exact ⟨rfl, shape, _, draft, ⟨values, held, named, shaped, rfl⟩, filled, assembled⟩
  | array items closed =>
    cases items with
    | nil =>
      cases closed <;> simp [read, Document.value?_array_eq_some_iff, Document.values?, ofJson]
    | cons tag items =>
      rw [read_array_eq_ok_iff]
      simp only [readRootShape_eq_ok_iff, Document.value?_array_eq_some_iff,
        Document.values?_cons_eq_some_iff]
      constructor
      · rintro ⟨rfl, shape, values, draft, ⟨name, rfl, meant⟩, held, filled, assembled⟩
        exact ⟨_, ⟨by decide, rfl, _, ⟨.string name, values, rfl, held, rfl⟩, rfl⟩, ⟨name, rfl⟩,
          ofJson_array_eq_ok_iff.mpr ⟨shape, draft, meant, filled, assembled⟩⟩
      · rintro ⟨_, ⟨-, rfl, _, ⟨first, values, own, held, rfl⟩, rfl⟩, ⟨name, rfl⟩, accepted⟩
        obtain ⟨shape, draft, meant, filled, assembled⟩ := ofJson_array_eq_ok_iff.mp accepted
        exact ⟨rfl, shape, values, draft, ⟨name, Document.value?_eq_string_iff.mp own, meant⟩, held,
          filled, assembled⟩
  | broken => simp [read, Document.value?]
  | null => simp [read, Document.value?, ofJson, unexpected]
  | bool value => simp [read, Document.value?, ofJson, unexpected]
  | number value => simp [read, Document.value?, ofJson, unexpected]
  | string value => simp [read, Document.value?, ofJson, unexpected]

/-- A text is read as a tree if it holds a value that is one. -/
theorem ofText_eq_ok_iff {text : String} {tree : Tree} : ofText text = .ok tree ↔
    ∃ value, Source.read readValue text = .ok value ∧ Named value ∧ ofJson value = .ok tree := by
  simp only [ofText, Source.read_eq_ok_iff, read_eq_ok_iff, Json.readValue_eq_ok_iff]
  constructor
  · rintro ⟨⟨value, held, named, read⟩, complete⟩
    exact ⟨value, ⟨held, complete⟩, named, read⟩
  · rintro ⟨value, ⟨held, complete⟩, named, read⟩
    exact ⟨⟨value, held, named, read⟩, complete⟩

/-! ## Depth -/

theorem readOperand_eq_ok_iff {value : Json} {operand : Operand} :
    readOperand value = .ok operand ↔ Operand.ofJson? value = some operand := by
  rw [readOperand]
  cases Operand.ofJson? value <;> simp

theorem depthItems_strings (items : List String) : Json.depthItems (items.map .string) = 0 := by
  induction items with
  | nil => rfl
  | cons item items ih => simp [Json.depthItems, Json.depth, ih]

/-- An operand is written as flat as it was read. -/
theorem depth_operand_le {value : Json} {operand : Operand} (h : Operand.ofJson? value = some operand) :
    operand.toJson.depth ≤ value.depth := by
  cases value with
  | array items =>
    obtain ⟨texts, -, rfl⟩ := Option.map_eq_some_iff.mp h
    rw [Operand.toJson, Json.strings, Json.depth, Json.depth, depthItems_strings]
    exact Nat.le_add_left 1 _
  | null | object => cases h
  | bool | number | string =>
    cases h
    exact Nat.le_refl _

/-- No part of the draft is written deeper than `limit`. -/
structure Draft.Within (limit : Nat) (draft : Draft) : Prop where
  operand : ∀ operand ∈ draft.operand, operand.toJson.depth ≤ limit
  children : ∀ children ∈ draft.children, (Json.array (toJsons children)).depth ≤ limit
  child : ∀ child ∈ draft.child, child.toJson.depth ≤ limit

theorem Draft.within_empty (limit : Nat) : Draft.Within limit {} :=
  ⟨nofun, nofun, nofun⟩

theorem Draft.need_eq_ok_iff {α : Type} {part : Part} {value : Option α} {a : α} :
    Draft.need part value = .ok a ↔ value = some a := by
  cases value <;> simp [Draft.need]

/-- A node is one bracket around its parts. -/
theorem depth_assemble_le {limit : Nat} {draft : Draft} (within : draft.Within limit) {shape : Shape}
    {tree : Tree} (h : draft.assemble shape = .ok tree) : tree.toJson.depth ≤ limit + 1 := by
  cases shape <;>
    simp only [Draft.assemble, bind_eq_ok_iff, Draft.need_eq_ok_iff, pure, Except.pure,
      Except.ok.injEq] at h
  case literal =>
    obtain ⟨value, -, rfl⟩ := h
    simp [toJson, Json.depth, Json.depthMembers]
  case comparison =>
    obtain ⟨field, -, operator, -, operand, drafted, rfl⟩ := h
    have inner := within.operand operand drafted
    simp only [toJson, Json.depth, Json.depthMembers]
    omega
  case presence =>
    obtain ⟨field, -, present, -, rfl⟩ := h
    simp [toJson, Json.depth, Json.depthMembers]
  case all | any =>
    obtain ⟨children, drafted, rfl⟩ := h
    have inner := within.children children drafted
    simp only [Json.depth] at inner
    simp only [toJson, Json.depth, Json.depthMembers]
    omega
  case not =>
    obtain ⟨child, drafted, rfl⟩ := h
    have inner := within.child child drafted
    simp only [toJson, Json.depth, Json.depthMembers]
    omega

/-- A part is filled with what is no deeper than the value it is read from. -/
theorem Part.fill_within {part : Part} {value : Json} {node : Unit → Except Mismatch Tree}
    {nodes : Unit → Except Mismatch (List Tree)} {draft filled : Draft} {limit : Nat}
    (flat : ∀ tree, node () = .ok tree → tree.toJson.depth ≤ value.depth)
    (allFlat : ∀ trees, nodes () = .ok trees → (Json.array (toJsons trees)).depth ≤ value.depth)
    (enough : value.depth ≤ limit) (within : draft.Within limit)
    (h : part.fill value node nodes draft = .ok filled) : filled.Within limit := by
  cases part <;> simp only [Part.fill, bind_eq_ok_iff, pure, Except.pure, Except.ok.injEq] at h
  case operand =>
    obtain ⟨operand, read, rfl⟩ := h
    have inner := depth_operand_le (readOperand_eq_ok_iff.mp read)
    exact ⟨by rintro _ ⟨⟩; exact Nat.le_trans inner enough, within.children, within.child⟩
  case children =>
    obtain ⟨trees, read, rfl⟩ := h
    exact ⟨within.operand, by rintro _ ⟨⟩; exact Nat.le_trans (allFlat trees read) enough, within.child⟩
  case child =>
    obtain ⟨tree, read, rfl⟩ := h
    exact ⟨within.operand, within.children, by rintro _ ⟨⟩; exact Nat.le_trans (flat tree read) enough⟩
  -- the other parts are no brackets
  all_goals
    obtain ⟨value, -, rfl⟩ := h
    exact ⟨within.operand, within.children, within.child⟩

-- the recursion follows the readers; the bound on a draft is the depth of all that it is filled from
mutual

/-- A tree is written with no more nesting than it was read from. -/
theorem depth_toJson_le : (value : Json) → ∀ {tree : Tree}, ofJson value = .ok tree →
    tree.toJson.depth ≤ value.depth
  | .object members, tree, h => by
    obtain ⟨shape, draft, -, filled, assembled⟩ := ofJson_object_eq_ok_iff.mp h
    have within := fillMembers_within members (Nat.le_refl _) (Draft.within_empty _) filled
    exact depth_assemble_le within assembled
  | .array [], _, h => by cases h
  | .array (tag :: items), tree, h => by
    obtain ⟨shape, draft, -, filled, assembled⟩ := ofJson_array_eq_ok_iff.mp h
    have enough : Json.depthItems items ≤ Json.depthItems (tag :: items) := Nat.le_max_right _ _
    have within := fillItems_within items enough (Draft.within_empty _) filled
    exact depth_assemble_le within assembled
  | .null, _, h | .bool _, _, h | .number _, _, h | .string _, _, h => by cases h

theorem depth_list_le : (value : Json) → ∀ {trees : List Tree}, listOfJson value = .ok trees →
    (Json.array (toJsons trees)).depth ≤ value.depth
  | .array items, trees, h => by
    rw [listOfJson] at h
    exact Nat.succ_le_succ (depthItems_toJsons_le items h)
  | .object _, _, h | .null, _, h | .bool _, _, h | .number _, _, h | .string _, _, h => by cases h

theorem depthItems_toJsons_le : (items : List Json) → ∀ {trees : List Tree},
    ofJsons items = .ok trees → Json.depthItems (toJsons trees) ≤ Json.depthItems items
  | [], _, h => by cases h; exact Nat.le_refl _
  | item :: items, _, h => by
    simp only [ofJsons, bind_eq_ok_iff, pure, Except.pure, Except.ok.injEq] at h
    obtain ⟨tree, read, trees, rest, rfl⟩ := h
    have first := depth_toJson_le item read
    have others := depthItems_toJsons_le items rest
    simp only [toJsons, Json.depthItems]
    omega

theorem fillMembers_within : (members : List (String × Json)) → ∀ {limit : Nat} {shape : Shape}
    {draft filled : Draft}, Json.depthMembers members ≤ limit → draft.Within limit →
      fillMembers shape draft members = .ok filled → filled.Within limit
  | [], _, _, _, _, _, within, h => by cases h; exact within
  | (key, value) :: members, limit, shape, draft, filled, enough, within, h => by
    rw [Json.depthMembers] at enough
    rw [fillMembers] at h
    split at h
    · exact fillMembers_within members (by omega) within h
    · split at h
      · cases h
      · obtain ⟨next, read, rest⟩ := bind_eq_ok_iff.mp h
        have step := Part.fill_within (fun _ => depth_toJson_le value) (fun _ => depth_list_le value)
          (by omega) within read
        exact fillMembers_within members (by omega) step rest

theorem fillItems_within : (items : List Json) → ∀ {limit count : Nat} {shape : Shape}
    {parts : List Part} {draft filled : Draft}, Json.depthItems items ≤ limit → draft.Within limit →
      fillItems shape count parts draft items = .ok filled → filled.Within limit
  | [], _, _, _, [], _, _, _, within, h => by cases h; exact within
  | [], _, _, _, _ :: _, _, _, _, _, h => by cases h
  | _ :: _, _, _, _, [], _, _, _, _, h => by cases h
  | value :: items, limit, _, _, part :: parts, _, _, enough, within, h => by
    rw [Json.depthItems] at enough
    rw [fillItems] at h
    obtain ⟨next, read, rest⟩ := bind_eq_ok_iff.mp h
    have step := Part.fill_within (fun _ => depth_toJson_le value) (fun _ => depth_list_le value)
      (by omega) within read
    exact fillItems_within items (by omega) step rest

end

end TaskFilter.Tree
