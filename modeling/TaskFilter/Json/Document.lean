import TaskFilter.Json.ReadError
import TaskFilter.Json.Token
import TaskFilter.Json.Value

/-!
# JSON texts as they are read

A document is the structure of a text as far as it is well formed. Where the text breaks off, or goes on
in a way that it must not, the document says so at that place; a reader that goes from left to right can
then tell whether a mismatch or the break comes first.
-/

namespace TaskFilter.Json

/-- The structure of a text, from the start of a value to its end or to the first fault. -/
inductive Document where
  /-- No value starts here. -/
  | broken
  | null
  | bool (value : Bool)
  /-- A number; `none` if it is too large for a double. -/
  | number (value : Option Number)
  /-- A string; `none` if half of a pair of escapes stands alone in it. -/
  | string (value : Option String)
  /-- An array, and whether its closing bracket follows the items. -/
  | array (items : List Document) (closed : Bool)
  /-- An object, and whether its closing bracket follows the members; a key is `none` if half of a pair of
  escapes stands alone in it. -/
  | object (members : List (Option String × Document)) (closed : Bool)

namespace Document

/-! ## From tokens -/

mutual

/-- The document that starts with the first token, and the tokens behind it; none are left behind a break.
Twice the number of tokens bounds the steps. -/
def parse : Nat → List Token → Document × List Token
  | 0, _ => (.broken, [])
  | steps + 1, tokens =>
    match tokens with
    | .null :: rest => (.null, rest)
    | .bool b :: rest => (.bool b, rest)
    | .number n :: rest => (.number n, rest)
    | .string s :: rest => (.string s, rest)
    -- empty brackets apart: an item is read before the closing bracket is looked for
    | .openArray :: .closeArray :: rest => (.array [] true, rest)
    | .openArray :: rest =>
      let (items, closed, rest) := parseItems steps rest
      (.array items closed, rest)
    | .openObject :: .closeObject :: rest => (.object [] true, rest)
    | .openObject :: rest =>
      let (members, closed, rest) := parseMembers steps rest
      (.object members closed, rest)
    | _ => (.broken, [])

def parseItems : Nat → List Token → List Document × Bool × List Token
  | 0, _ => ([], false, [])
  | steps + 1, tokens =>
    match parse steps tokens with
    | (item, .comma :: rest) =>
      let (items, closed, rest) := parseItems steps rest
      (item :: items, closed, rest)
    | (item, .closeArray :: rest) => ([item], true, rest)
    | (item, _) => ([item], false, [])

/-- The members of an object from the next one on, whether the object is closed, and the tokens behind
it. -/
def parseMembers : Nat → List Token → List (Option String × Document) × Bool × List Token
  | 0, _ => ([], false, [])
  | steps + 1, tokens =>
    match tokens with
    | .string key :: .colon :: rest =>
      match parse steps rest with
      | (value, .comma :: rest) =>
        let (members, closed, rest) := parseMembers steps rest
        ((key, value) :: members, closed, rest)
      | (value, .closeObject :: rest) => ([(key, value)], true, rest)
      | (value, _) => ([(key, value)], false, [])
    -- a key without a colon still counts as a member
    | .string key :: _ => ([(key, .broken)], false, [])
    | _ => ([], false, [])

end

/-! ## What a document holds -/

mutual

/-- Whether the document has no break. Numbers out of range and halves of pairs are no breaks. -/
def isWhole : Document → Bool
  | .broken => false
  | .array items closed => areWhole items && closed
  | .object members closed => areMembersWhole members && closed
  | _ => true

def areWhole : List Document → Bool
  | [] => true
  | item :: rest => isWhole item && areWhole rest

def areMembersWhole : List (Option String × Document) → Bool
  | [] => true
  | (_, value) :: rest => isWhole value && areMembersWhole rest

end

mutual

/-- The value that the document holds, if it has one and no more than `depth` brackets stand around any
part of it. -/
def value? (depth : Nat) : Document → Option Json
  | .broken => none
  | .null => some .null
  | .bool b => some (.bool b)
  | .number n => n.map .number
  | .string s => s.map .string
  | .array items closed => do
    guard (0 < depth)
    let items ← values? (depth - 1) items
    guard closed
    some (.array items)
  | .object members closed => do
    guard (0 < depth)
    let members ← memberValues? (depth - 1) members
    guard closed
    some (.object members)

def values? (depth : Nat) : List Document → Option (List Json)
  | [] => some []
  | item :: rest => do
    let item ← value? depth item
    let rest ← values? depth rest
    some (item :: rest)

def memberValues? (depth : Nat) : List (Option String × Document) → Option (List (String × Json))
  | [] => some []
  | (key, value) :: rest => do
    let key ← key
    let value ← value? depth value
    let rest ← memberValues? depth rest
    some ((key, value) :: rest)

end

/-- What stands at the start of the document; `none` if nothing does that has a value. -/
def found? : Document → Option Found
  | .broken => none
  | .null => some .null
  | .bool b => some (.bool b)
  | .number n => n.map .number
  | .string s => s.map .string
  | .array _ _ => some .sequence
  | .object _ _ => some .map

/-- The error of meeting this document where something else is expected. -/
def unexpected (document : Document) (expected : String) : ReadError :=
  match document.found? with
  | some found => .mismatch (.wrongType found expected)
  | none => .malformed

/-! ## Reading simple values -/

def readBool : Document → Except ReadError Bool
  | .bool b => .ok b
  | other => .error (other.unexpected "a boolean")

def readString : Document → Except ReadError String
  | .string (some s) => .ok s
  | other => .error (other.unexpected "a string")

def readList {α : Type} (readItem : Document → Except ReadError α) (document : Document) :
    Except ReadError (List α) :=
  match document with
  | .array items closed => do
    let items ← items.mapM readItem
    if closed then .ok items else .error .malformed
  | other => .error (other.unexpected "a sequence")

/-- Reads a value that may be `null` instead. -/
def readOptional {α : Type} (read : Document → Except ReadError α) (document : Document) :
    Except ReadError (Option α) :=
  match document with
  | .null => .ok none
  | other => (read other).map some

end Document

/-- A text: its value, as far as it is well formed, and whether nothing follows it. -/
structure Source where
  root : Document
  complete : Bool

namespace Source

def ofText (text : String) : Source :=
  let tokens := Token.ofText text
  let (root, rest) := Document.parse (2 * tokens.length + 1) tokens
  ⟨root, rest.isEmpty⟩

/-- Reads the whole text: what follows the value is looked at last. -/
def read {α : Type} (readRoot : Document → Except ReadError α) (text : String) :
    Except ReadError α := do
  let source := ofText text
  let value ← readRoot source.root
  if source.complete then .ok value else .error .malformed

end Source

/-- How many brackets may stand around a part of a value that is read as it stands. -/
def nestingLimit : Nat := 127

def readValue (document : Document) : Except ReadError Json :=
  match document.value? nestingLimit with
  | some value => .ok value
  | none => .error .malformed

end TaskFilter.Json
