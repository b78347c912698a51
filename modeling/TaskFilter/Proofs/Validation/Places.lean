import Mathlib.Data.List.Infix
import TaskFilter.Proofs.Decimal.Writing
import TaskFilter.Proofs.Tree.Conditions
import TaskFilter.Validation.Finding

/-!
# The places of a tree

Every node of a tree stands at one place, and the text of the place leads back to the node. A tree is written
with each node before the nodes below it and the children of a group one after the other, which is an order of
their places.

## Layers

- **Listing**: the places of a tree with their nodes (`places`) are those at which there is a node
  (`mem_places_iff`), in the order of the tree (`pairwise_places`). The conditions are among the nodes
  (`conditions_eq`).
- **Texts**: a place is read back from its text (`Location.ofText?_text`).
- **Main statements**: `nodeAtText?_of_mem_places` and `nodup_texts`.
-/

namespace TaskFilter.Validation

/-! ## Listing the places -/

/-- A place below a node, as a place of the tree that the step leads down from. -/
def below (step : Step) (place : Location × Tree) : Location × Tree :=
  (step :: place.1, place.2)

mutual

/-- The nodes of a tree with their places, in the order of the tree. -/
def places : Tree → List (Location × Tree)
  | .all children => ([], .all children) :: childPlaces 0 children
  | .any children => ([], .any children) :: childPlaces 0 children
  | .not child => ([], .not child) :: (places child).map (below .negated)
  | leaf => [([], leaf)]

def childPlaces (index : Nat) : List Tree → List (Location × Tree)
  | [] => []
  | child :: rest => (places child).map (below (.child index)) ++ childPlaces (index + 1) rest

end

theorem mem_map_below_iff {step : Step} {listed : List (Location × Tree)} {location : Location}
    {node : Tree} :
    (location, node) ∈ listed.map (below step) ↔
      ∃ rest, location = step :: rest ∧ (rest, node) ∈ listed := by
  simp only [List.mem_map, below, Prod.exists, Prod.mk.injEq]
  constructor
  · rintro ⟨rest, _, member, rfl, rfl⟩
    exact ⟨rest, rfl, member⟩
  · rintro ⟨rest, rfl, member⟩
    exact ⟨rest, node, member, rfl, rfl⟩

mutual

/-- The places that are listed are those at which there is a node. -/
theorem mem_places_iff : (tree : Tree) → ∀ location node,
    (location, node) ∈ places tree ↔ nodeAt? location tree = some node
  | .literal value, location, node => by
    cases location <;> simp [places, nodeAt?, @eq_comm _ node]
  | .comparison path operator operand, location, node => by
    cases location <;> simp [places, nodeAt?, @eq_comm _ node]
  | .presence path present, location, node => by
    cases location <;> simp [places, nodeAt?, @eq_comm _ node]
  | .all children, location, node => by
    rw [places, List.mem_cons, mem_childPlaces_iff 0 children]
    rcases location with _ | ⟨_ | _, rest⟩ <;>
      simp [nodeAt?, @eq_comm _ node, Option.bind_eq_some_iff, and_assoc]
  | .any children, location, node => by
    rw [places, List.mem_cons, mem_childPlaces_iff 0 children]
    rcases location with _ | ⟨_ | _, rest⟩ <;>
      simp [nodeAt?, @eq_comm _ node, Option.bind_eq_some_iff, and_assoc]
  | .not child, location, node => by
    rw [places, List.mem_cons, mem_map_below_iff]
    rcases location with _ | ⟨_ | _, rest⟩ <;> simp [nodeAt?, @eq_comm _ node, mem_places_iff child]

theorem mem_childPlaces_iff (index : Nat) : (children : List Tree) → ∀ location node,
    (location, node) ∈ childPlaces index children ↔
      ∃ position rest, location = .child (index + position) :: rest ∧
        ∃ child, children[position]? = some child ∧ nodeAt? rest child = some node
  | [], location, node => by simp [childPlaces]
  | child :: others, location, node => by
    rw [childPlaces, List.mem_append, mem_map_below_iff, mem_childPlaces_iff (index + 1) others]
    -- the first child is at position zero, and the others are one position further on
    constructor
    · rintro (⟨rest, rfl, member⟩ | ⟨position, rest, rfl, found⟩)
      · exact ⟨0, rest, rfl, child, rfl, (mem_places_iff child rest node).mp member⟩
      · exact ⟨position + 1, rest, by rw [Nat.add_right_comm, Nat.add_assoc], found⟩
    · rintro ⟨_ | position, rest, rfl, found⟩
      · obtain ⟨first, same, stands⟩ := found
        obtain rfl := Option.some.inj same
        exact .inl ⟨rest, rfl, (mem_places_iff child rest node).mpr stands⟩
      · exact .inr ⟨position, rest, by rw [Nat.add_right_comm, Nat.add_assoc], found⟩

end

theorem map_snd_below (step : Step) (listed : List (Location × Tree)) :
    (listed.map (below step)).map Prod.snd = listed.map Prod.snd := by
  rw [List.map_map]
  rfl

mutual

/-- The conditions of a tree are its nodes that are about a field. -/
theorem conditions_eq : (tree : Tree) →
    tree.conditions = ((places tree).map Prod.snd).filter fun node => node.field?.isSome
  | .literal _ => rfl
  | .comparison .. => rfl
  | .presence .. => rfl
  -- a group is no condition itself
  | .all children => allConditions_eq 0 children
  | .any children => allConditions_eq 0 children
  | .not child => by
    rw [places, List.map_cons, map_snd_below]
    exact conditions_eq child

theorem allConditions_eq (index : Nat) : (children : List Tree) →
    Tree.allConditions children =
      ((childPlaces index children).map Prod.snd).filter fun node => node.field?.isSome
  | [] => rfl
  | child :: rest => by
    rw [Tree.allConditions, childPlaces, List.map_append, map_snd_below, List.filter_append,
      conditions_eq child, allConditions_eq (index + 1) rest]

end

theorem mem_conditions_iff {tree condition : Tree} : condition ∈ tree.conditions ↔
    condition.field?.isSome = true ∧ ∃ location, nodeAt? location tree = some condition := by
  rw [conditions_eq, List.mem_filter, and_comm, List.mem_map]
  refine and_congr_right fun _ => ⟨?_, ?_⟩
  · rintro ⟨⟨location, _⟩, listed, rfl⟩
    exact ⟨location, (mem_places_iff tree _ _).mp listed⟩
  · rintro ⟨location, stands⟩
    exact ⟨_, (mem_places_iff tree _ _).mpr stands, rfl⟩

/-- The children of a group come one after the other. -/
inductive Step.Earlier : Step → Step → Prop where
  | child {i j : Nat} (h : i < j) : Step.Earlier (.child i) (.child j)

/-- A place comes before those below it, and before those below later children. -/
abbrev Location.Precedes (p q : Location) : Prop :=
  List.Lex Step.Earlier p q

theorem Location.not_precedes_self (location : Location) : ¬ location.Precedes location := by
  apply List.lex_irrefl
  rintro _ ⟨h⟩
  exact Nat.lt_irrefl _ h

theorem pairwise_map_below {step : Step} {listed : List (Location × Tree)}
    (h : listed.Pairwise fun p q => p.1.Precedes q.1) :
    (listed.map (below step)).Pairwise fun p q => p.1.Precedes q.1 :=
  List.pairwise_map.mpr (h.imp fun before => .cons before)

mutual

/-- The places are listed in the order of the tree. -/
theorem pairwise_places : (tree : Tree) →
    (places tree).Pairwise fun p q => p.1.Precedes q.1
  | .literal _ => List.pairwise_singleton _ _
  | .comparison .. => List.pairwise_singleton _ _
  | .presence .. => List.pairwise_singleton _ _
  | .all children =>
    List.pairwise_cons.mpr ⟨precedes_childPlaces children, pairwise_childPlaces 0 children⟩
  | .any children =>
    List.pairwise_cons.mpr ⟨precedes_childPlaces children, pairwise_childPlaces 0 children⟩
  | .not child => by
    refine List.pairwise_cons.mpr ⟨?_, pairwise_map_below (pairwise_places child)⟩
    rintro ⟨location, node⟩ listed
    obtain ⟨rest, rfl, -⟩ := mem_map_below_iff.mp listed
    exact .nil

theorem precedes_childPlaces (children : List Tree) :
    ∀ place ∈ childPlaces 0 children, Location.Precedes [] place.1 := by
  rintro ⟨location, node⟩ listed
  obtain ⟨position, rest, rfl, -⟩ := (mem_childPlaces_iff 0 children location node).mp listed
  exact .nil

theorem pairwise_childPlaces (index : Nat) : (children : List Tree) →
    (childPlaces index children).Pairwise fun p q => p.1.Precedes q.1
  | [] => List.Pairwise.nil
  | child :: others => by
    refine List.pairwise_append.mpr ⟨pairwise_map_below (pairwise_places child),
      pairwise_childPlaces (index + 1) others, ?_⟩
    -- what is below a child comes before what is below a later one
    rintro ⟨p, _⟩ first ⟨q, _⟩ later
    obtain ⟨_, rfl, -⟩ := mem_map_below_iff.mp first
    obtain ⟨position, _, rfl, -⟩ := (mem_childPlaces_iff (index + 1) others _ _).mp later
    exact .rel (.child (by omega))

end

/-! ## Reading the text of a place -/

/-- The step that a text between two dots stands for. -/
def Step.ofSegment? (segment : List Char) : Option Step :=
  if segment = "child".toList then some .negated
  else do
    let indexed ← "children[".toList.isPrefixOf? segment
    let index ← "]".toList.isSuffixOf? indexed
    guard (index ≠ [] ∧ index.all Decimal.isDigit)
    return .child (Decimal.natural index)

/-- The place that a text stands for. -/
def Location.ofText? (text : String) : Option Location :=
  match text.toList.splitOn '.' with
  | ['$'] :: segments => segments.mapM Step.ofSegment?
  | _ => none

/-- The node that is found by following a text from the root. -/
def nodeAtText? (text : String) (tree : Tree) : Option Tree :=
  (Location.ofText? text).bind (nodeAt? · tree)

/-- The text of a step without the dot in front. -/
def Step.segment : Step → String
  | .child index => "children[" ++ (Nat.repr index ++ "]")
  | .negated => "child"

theorem Step.toList_text (step : Step) : step.text.toList = '.' :: step.segment.toList := by
  cases step <;> simp [Step.text, Step.segment]

theorem Step.toList_segment_child (index : Nat) :
    (Step.child index).segment.toList =
      "children[".toList ++ (Nat.toDigits 10 index ++ "]".toList) := by
  simp only [Step.segment, String.toList_append, Nat.repr, String.toList_ofList]

theorem Step.dot_not_mem_segment (step : Step) : '.' ∉ step.segment.toList := by
  cases step with
  | negated => simp [Step.segment]
  | child index =>
    have digits : '.' ∉ Nat.toDigits 10 index := fun listed =>
      absurd (Decimal.isDigit_of_mem_toDigits listed) (by decide)
    simp [Step.toList_segment_child, digits]

theorem Step.ofSegment?_segment (step : Step) :
    Step.ofSegment? step.segment.toList = some step := by
  cases step with
  | negated => rfl
  | child index =>
    have other : (Step.child index).segment.toList ≠ "child".toList := by
      simp [Step.toList_segment_child]
    have front : "children[".toList.isPrefixOf? (Step.child index).segment.toList =
        some (Nat.toDigits 10 index ++ "]".toList) := by
      rw [List.isPrefixOf?_eq_some_iff_append_eq, Step.toList_segment_child]
    have back : "]".toList.isSuffixOf? (Nat.toDigits 10 index ++ "]".toList) =
        some (Nat.toDigits 10 index) := by
      rw [List.isSuffixOf?_eq_some_iff_append_eq]
    have digits : Nat.toDigits 10 index ≠ [] ∧ (Nat.toDigits 10 index).all Decimal.isDigit :=
      ⟨Nat.toDigits_ne_nil, List.all_eq_true.mpr fun _ => Decimal.isDigit_of_mem_toDigits⟩
    rw [Step.ofSegment?, if_neg other, front]
    simp only [Option.bind_eq_bind, Option.bind_some, back, guard, if_pos digits]
    rw [Decimal.natural_toDigits]
    rfl

/-- The text of a place is `$` and its steps, with dots in between. -/
theorem Location.toList_text (location : Location) :
    location.text.toList = ['.'].intercalate (['$'] :: location.map (·.segment.toList)) := by
  have joined : ∀ (front : List Char) (location : Location),
      ['.'].intercalate (front :: location.map (·.segment.toList)) =
        front ++ location.flatMap fun step => '.' :: step.segment.toList := by
    intro front location
    -- what stands before the next dot is arbitrary in the induction
    induction location generalizing front with
    | nil => simp [List.intercalate]
    | cons step rest ih =>
      rw [List.map_cons, List.intercalate_cons_cons, ih step.segment.toList]
      simp
  rw [joined, Location.text, String.toList_append, String.toList_join, List.flatMap_map]
  simp only [Step.toList_text]
  rfl

theorem mapM_ofSegment? (location : Location) :
    (location.map (·.segment.toList)).mapM Step.ofSegment? = some location := by
  induction location with
  | nil => rfl
  | cons step rest ih => simp [Step.ofSegment?_segment, ih]

/-- A place is read back from its text. -/
theorem Location.ofText?_text (location : Location) :
    Location.ofText? location.text = some location := by
  have apart : ∀ segment ∈ ['$'] :: location.map (·.segment.toList), '.' ∉ segment := by
    intro segment listed
    rcases List.mem_cons.mp listed with rfl | later
    · decide
    · obtain ⟨step, -, rfl⟩ := List.mem_map.mp later
      exact step.dot_not_mem_segment
  rw [Location.ofText?, Location.toList_text,
    List.splitOn_intercalate '.' apart (List.cons_ne_nil _ _)]
  exact mapM_ofSegment? location

example : Location.ofText? "$.children[12].child.children[0]" =
    some [.child 12, .negated, .child 0] := by decide

/-! ## Places by their texts -/

/-- The text of a place leads to the node that stands there. -/
theorem nodeAtText?_of_mem_places {tree : Tree} {place : Location × Tree}
    (listed : place ∈ places tree) : nodeAtText? place.1.text tree = some place.2 := by
  rw [nodeAtText?, Location.ofText?_text]
  exact (mem_places_iff tree place.1 place.2).mp listed

/-- No two places of a tree have the same text. -/
theorem nodup_texts (tree : Tree) : ((places tree).map fun place => place.1.text).Nodup := by
  apply List.pairwise_map.mpr
  refine (pairwise_places tree).imp ?_
  intro p q before same
  have location := congrArg Location.ofText? same
  rw [Location.ofText?_text, Location.ofText?_text] at location
  rw [Option.some.inj location] at before
  exact Location.not_precedes_self _ before

end TaskFilter.Validation
