import TaskFilter.Json.Document
import TaskFilter.Tree.Basic

/-!
# Reading trees

A tree is written as an object with the shape's name under `type`, or as an array with that name first.
The members of the root are gathered before any of them is looked at, save for its shape; from then on a
problem is found in the order of the text, and a part that is missing is found last.
-/

namespace TaskFilter.Tree

open TaskFilter.Json (Document Found Mismatch ReadError)

/-! ## The parts of a node -/

/-- A part of a node, besides its shape. -/
inductive Part where
  | value | field | operator | operand | present | children | child
  deriving DecidableEq, Repr

def Part.key : Part → String
  | .value => "value"
  | .field => "field"
  | .operator => "operator"
  | .operand => "value"
  | .present => "exists"
  | .children => "children"
  | .child => "child"

/-- The parts of a shape, in the order in which an array holds them. -/
def Shape.parts : Shape → List Part
  | .literal => [.value]
  | .comparison => [.field, .operator, .operand]
  | .presence => [.field, .present]
  | .all => [.children]
  | .any => [.children]
  | .not => [.child]

/-- The shape as messages about arrays name it. -/
def Shape.title : Shape → String
  | .literal => "Literal"
  | .comparison => "Comparison"
  | .presence => "Exists"
  | .all => "And"
  | .any => "Or"
  | .not => "Not"

def elementCount (n : Nat) : String :=
  Nat.repr n ++ if n = 1 then " element" else " elements"

/-- The parts of a node that have been read. -/
structure Draft where
  value : Option Bool := none
  field : Option String := none
  operator : Option Operator := none
  operand : Option Operand := none
  present : Option Bool := none
  children : Option (List Tree) := none
  child : Option Tree := none

namespace Draft

def has (draft : Draft) : Part → Bool
  | .value => draft.value.isSome
  | .field => draft.field.isSome
  | .operator => draft.operator.isSome
  | .operand => draft.operand.isSome
  | .present => draft.present.isSome
  | .children => draft.children.isSome
  | .child => draft.child.isSome

/-- The part, which must have been read. -/
def need {α : Type} (part : Part) : Option α → Except Mismatch α
  | some a => .ok a
  | none => .error (.missing part.key)

/-- The node of a shape with the parts that have been read. -/
def assemble (draft : Draft) : Shape → Except Mismatch Tree
  | .literal => do return .literal (← need .value draft.value)
  | .comparison => do
    let field ← need .field draft.field
    let operator ← need .operator draft.operator
    let operand ← need .operand draft.operand
    return .comparison field operator operand
  | .presence => do
    let field ← need .field draft.field
    let present ← need .present draft.present
    return .presence field present
  | .all => do return .all (← need .children draft.children)
  | .any => do return .any (← need .children draft.children)
  | .not => do return .not (← need .child draft.child)

end Draft

/-! ## Values of parts -/

/-- What a value is, for a message. -/
def found : Json → Found
  | .null => .null
  | .bool b => .bool b
  | .number n => .number n
  | .string s => .string s
  | .array _ => .sequence
  | .object _ => .map

/-- The mismatch of meeting a value where something else is expected. -/
def unexpected {α : Type} (value : Json) (expected : String) : Except Mismatch α :=
  .error (.wrongType (found value) expected)

def readBool : Json → Except Mismatch Bool
  | .bool b => .ok b
  | other => unexpected other "a boolean"

def readString : Json → Except Mismatch String
  | .string s => .ok s
  | other => unexpected other "a string"

def operatorNamed (token : String) : Except Mismatch Operator :=
  match Operator.ofToken? token with
  | some op => .ok op
  | none => .error (.unknownName token (Operator.listed.map (·.token)))

/-- Reads an operator: its token, or an object with the token as its only key and nothing behind it. -/
def readOperator : Json → Except Mismatch Operator
  | .string token => operatorNamed token
  | .object [(token, value)] => do
    let op ← operatorNamed token
    match value with
    | .null => pure op
    | .object [] => pure op
    | other => unexpected other "unit"
  | .object _ => .error .notSingle
  | other => unexpected other "string or map"

def readOperand (value : Json) : Except Mismatch Operand :=
  match Operand.ofJson? value with
  | some operand => .ok operand
  | none => .error (.noAlternative "FilterValue")

def shapeNamed (name : String) : Except Mismatch Shape :=
  match Shape.ofName? name with
  | some shape => .ok shape
  | none => .error (.unknownName name (Shape.listed.map (·.name)))

/-- Reads the shape of a node below the root: its name, or its place in the list of shapes. -/
def readShape : Json → Except Mismatch Shape
  | .string name => shapeNamed name
  | .number (.integer (.ofNat n)) =>
    match Shape.listed[n]? with
    | some shape => .ok shape
    | none => .error (.badIndex n Shape.listed.length)
  | other => unexpected other "variant identifier"

/-- The shape among the members of a node below the root. -/
def findShape (found : Option Shape) : List (String × Json) → Except Mismatch Shape
  | [] =>
    match found with
    | some shape => .ok shape
    | none => .error (.missing "type")
  | (key, value) :: rest =>
    if key = "type" then
      if found.isSome then .error (.repeated "type")
      else do
        let shape ← readShape value
        findShape (some shape) rest
    else findShape found rest

/-- Fills a part. The parts that hold nodes are read by `node` and `nodes`. -/
def Part.fill (part : Part) (value : Json) (node : Unit → Except Mismatch Tree)
    (nodes : Unit → Except Mismatch (List Tree)) (draft : Draft) : Except Mismatch Draft :=
  match part with
  | .value => do return { draft with value := some (← readBool value) }
  | .field => do return { draft with field := some (← readString value) }
  | .operator => do return { draft with operator := some (← readOperator value) }
  | .operand => do return { draft with operand := some (← readOperand value) }
  | .present => do return { draft with present := some (← readBool value) }
  | .children => do return { draft with children := some (← nodes ()) }
  | .child => do return { draft with child := some (← node ()) }

/-! ## Nodes -/

/-- What a value is called where a node is expected. -/
def nodeTitle : String := "internally tagged enum FilterNode"

mutual

/-- Reads a node below the root. -/
def ofJson : Json → Except Mismatch Tree
  | .object members => do
    let shape ← findShape none members
    let draft ← fillMembers shape {} members
    draft.assemble shape
  | .array [] => .error (.missing "type")
  | .array (tag :: items) => do
    let shape ← readShape tag
    let draft ← fillItems shape 0 shape.parts {} items
    draft.assemble shape
  | other => unexpected other nodeTitle

def listOfJson : Json → Except Mismatch (List Tree)
  | .array items => ofJsons items
  | other => unexpected other "a sequence"

def ofJsons : List Json → Except Mismatch (List Tree)
  | [] => .ok []
  | item :: rest => do
    let tree ← ofJson item
    let trees ← ofJsons rest
    return tree :: trees

/-- Fills the parts of a shape by the members of an object; other members do not count. -/
def fillMembers (shape : Shape) (draft : Draft) : List (String × Json) → Except Mismatch Draft
  | [] => .ok draft
  | (key, value) :: rest =>
    match shape.parts.find? (·.key == key) with
    | none => fillMembers shape draft rest
    | some part =>
      if draft.has part then .error (.repeated key)
      else do
        let draft ← part.fill value (fun _ => ofJson value) (fun _ => listOfJson value) draft
        fillMembers shape draft rest

/-- Fills the parts of a shape by the items of an array, of which `count` have been used; there must be
as many items as parts. -/
def fillItems (shape : Shape) (count : Nat) (parts : List Part) (draft : Draft) :
    List Json → Except Mismatch Draft
  | [] =>
    match parts with
    | [] => .ok draft
    | _ :: _ =>
      .error (.wrongLength count ("struct variant FilterNode::" ++ shape.title ++ " with " ++
        elementCount shape.parts.length))
  | item :: items =>
    match parts with
    -- all the items are counted, those behind this one included
    | [] => .error (.wrongLength (count + items.length + 1)
        (elementCount shape.parts.length ++ " in sequence"))
    | part :: parts => do
      let draft ← part.fill item (fun _ => ofJson item) (fun _ => listOfJson item) draft
      fillItems shape (count + 1) parts draft items

end

/-! ## The root -/

/-- Reads the shape of the root, which must be a name. -/
def readRootShape : Document → Except ReadError Shape
  | .string (some name) => (shapeNamed name).mapError .mismatch
  | other => .error (other.unexpected "variant identifier")

/-- How many brackets may stand around a part of a member of the root. -/
def memberDepth : Nat := Json.nestingLimit - 1

/-- Reads the members of the root: its shape, where it occurs, and the others as they stand. -/
def rootMembers (shape : Option Shape) : List (Option String × Document) →
    Except ReadError (Option Shape × List (String × Json))
  | [] => .ok (shape, [])
  | (none, _) :: _ => .error .malformed
  | (some key, value) :: rest =>
    if key = "type" then
      if shape.isSome then .error (.mismatch (.repeated "type"))
      else do
        let shape ← readRootShape value
        rootMembers (some shape) rest
    else
      match value.value? memberDepth with
      | none => .error .malformed
      | some value => do
        let (shape, others) ← rootMembers shape rest
        return (shape, (key, value) :: others)

def read : Document → Except ReadError Tree
  | .object members closed => do
    let (shape, members) ← rootMembers none members
    if !closed then throw .malformed
    match shape with
    | none => throw (.mismatch (.missing "type"))
    | some shape =>
      (do let draft ← fillMembers shape {} members; draft.assemble shape).mapError .mismatch
  | .array [] closed => .error (if closed then .mismatch (.missing "type") else .malformed)
  | .array (tag :: items) closed => do
    let shape ← readRootShape tag
    match Document.values? memberDepth items, closed with
    | some items, true =>
      (do let draft ← fillItems shape 0 shape.parts {} items
          draft.assemble shape).mapError .mismatch
    | _, _ => throw .malformed
  | other => .error (other.unexpected nodeTitle)

def ofText (text : String) : Except ReadError Tree :=
  Json.Source.read read text

end TaskFilter.Tree
