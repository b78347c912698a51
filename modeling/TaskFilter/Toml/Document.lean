import TaskFilter.Toml.Quoted
import TaskFilter.Toml.Scalar

/-!
# Reading settings files

A file is a row of lines: comments, headers that open tables, and keys with their values. Values nest;
the bound on their depth, and on the parts of a key, is the same. A file is refused as a whole if any line
is malformed or says something twice.
-/

namespace TaskFilter.Toml

/-- Brackets around a value and parts of a key are fewer than this. -/
def depthBound : Nat := 80

/-! ## Spaces and comments -/

/-- The text behind a comment, if one starts here. -/
def skipComment : List Char → List Char
  | '#' :: rest => rest.dropWhile isPlain
  | cs => cs

/-- The text behind the end of a line, with spaces and a comment before it; the end of the file ends a
line too. -/
def endLine? (cs : List Char) : Option (List Char) :=
  match skipComment (cs.dropWhile isSpace) with
  | [] => some []
  | cs => newLine? cs

/-- The text without spaces, ends of lines and comments at its start. -/
def skipBetween : Nat → List Char → List Char
  | 0, cs => cs
  | steps + 1, cs =>
    let cs := skipComment (cs.dropWhile isSpace)
    match newLine? cs with
    | some rest => skipBetween steps rest
    | none => cs

/-! ## Keys -/

/-- A character of a key without quotes. -/
def isBare (c : Char) : Bool :=
  c.isAlphanum || c = '_' || c = '-'

/-- One part of a key, and what follows it. -/
def readPart (cs : List Char) : Option (String × List Char) :=
  match cs with
  | '"' :: _ => readLineString cs
  | '\'' :: _ => readLineString cs
  | _ =>
    let name := cs.takeWhile isBare
    if name.isEmpty then none else some (String.ofList name, cs.drop name.length)

/-- The parts of a key with points between them, spaces around each part, and what follows. -/
def readParts : Nat → List Char → Option (List String × List Char)
  | 0, _ => none
  | steps + 1, cs => do
    let (part, rest) ← readPart (cs.dropWhile isSpace)
    match rest.dropWhile isSpace with
    | '.' :: rest => do
      let (parts, rest) ← readParts steps rest
      some (part :: parts, rest)
    | rest => some ([part], rest)

/-- A key: the path to a table and the name in it. -/
def readKey (cs : List Char) :
    Option ((List String × String) × List Char) := do
  let (parts, rest) ← readParts (cs.length + 1) cs
  guard (parts.length < depthBound)
  let name ← parts.getLast?
  some ((parts.dropLast, name), rest)

/-! ## Values -/

mutual

/-- A value inside `depth` brackets, and what follows it. -/
def readItem : Nat → Nat → List Char → Option (Item × List Char)
  | 0, _, _ => none
  | steps + 1, depth, cs =>
    match cs with
    | '"' :: _ => (readString cs).map fun (text, rest) => (.string text, rest)
    | '\'' :: _ => (readString cs).map fun (text, rest) => (.string text, rest)
    | '[' :: rest => do
      guard (depth + 1 < depthBound)
      let (items, rest) ← readItems steps (depth + 1) (skipBetween rest.length rest)
      some (.array items, rest)
    | '\x7b' :: rest => do
      guard (depth + 1 < depthBound)
      match rest.dropWhile isSpace with
      | '\x7d' :: rest => some (.table .braces [], rest)
      | rest => do
        let (entries, rest) ← readMembers steps (depth + 1) [] rest
        some (.table .braces entries, rest)
    | _ => scalar.run cs

/-- The items of an array up to its closing bracket, and what follows that. -/
def readItems : Nat → Nat → List Char → Option (List Item × List Char)
  | 0, _, _ => none
  | steps + 1, depth, cs =>
    match cs with
    | ']' :: rest => some ([], rest)
    | cs => do
      let (item, rest) ← readItem steps depth cs
      match skipBetween rest.length rest with
      | ',' :: rest => do
        let (items, rest) ← readItems steps depth (skipBetween rest.length rest)
        some (item :: items, rest)
      | ']' :: rest => some ([item], rest)
      | _ => none

/-- The members of a table between braces up to its closing brace, and what follows that. -/
def readMembers : Nat → Nat → Entries → List Char → Option (Entries × List Char)
  | 0, _, _, _ => none
  | steps + 1, depth, entries, cs => do
    let ((path, name), rest) ← readKey cs
    match rest with
    | '=' :: rest => do
      let (item, rest) ← readItem steps depth (rest.dropWhile isSpace)
      let entries ← insertDotted path name item entries
      match rest.dropWhile isSpace with
      | ',' :: rest => readMembers steps depth entries rest
      | '\x7d' :: rest => some (entries, rest)
      | _ => none
    | _ => none

end

/-! ## Lines -/

/-- A file that has been read so far: its items, and the table that keys go to. -/
structure State where
  entries : Entries := []
  current : List String := []

/-- A header of an array of tables, after its opening brackets, and the text behind its line. -/
def readElementHeader (state : State) (cs : List Char) : Option (State × List Char) := do
  let ((path, name), rest) ← readKey cs
  match rest with
  | ']' :: ']' :: rest => do
    let rest ← endLine? rest
    let entries ← openElement path name state.entries
    some (⟨entries, path ++ [name]⟩, rest)
  | _ => none

/-- A header of a table, after its opening bracket, and the text behind its line. -/
def readTableHeader (state : State) (cs : List Char) : Option (State × List Char) := do
  let ((path, name), rest) ← readKey cs
  match rest with
  | ']' :: rest => do
    let rest ← endLine? rest
    let entries ← openTable path name state.entries
    some (⟨entries, path ++ [name]⟩, rest)
  | _ => none

/-- A key with its value, and the text behind its line. -/
def readAssignment (state : State) (cs : List Char) : Option (State × List Char) := do
  let ((path, name), rest) ← readKey cs
  match rest with
  | '=' :: rest => do
    let (item, rest) ← readItem (2 * rest.length + 1) 0 (rest.dropWhile isSpace)
    let rest ← endLine? rest
    let entries ← changeUnder state.current (insertDotted path name item) state.entries
    some ({ state with entries := entries }, rest)
  | _ => none

/-- The lines of a file from the next one on. -/
def readFrom : Nat → State → List Char → Option State
  | 0, _, _ => none
  | steps + 1, state, cs =>
    match cs.dropWhile isSpace with
    | [] => some state
    | '#' :: rest => do
      let rest ← endLine? ('#' :: rest)
      readFrom steps state rest
    | '\n' :: rest => readFrom steps state rest
    | '\r' :: '\n' :: rest => readFrom steps state rest
    | '[' :: '[' :: rest => do
      let (state, rest) ← readElementHeader state rest
      readFrom steps state rest
    | '[' :: rest => do
      let (state, rest) ← readTableHeader state rest
      readFrom steps state rest
    | cs => do
      let (state, rest) ← readAssignment state cs
      readFrom steps state rest

/-- The items of a file. A mark of the byte order at its start does not count. -/
def ofText? (text : String) : Option Entries :=
  let cs := match text.toList with
    | '\ufeff' :: rest => rest
    | cs => cs
  (readFrom (cs.length + 1) {} cs).map State.entries

end TaskFilter.Toml
