import TaskFilter.Json.Quoted

/-!
# Strings of settings files

Four kinds of strings: between double quotes, where a backslash escapes, and between single quotes, where
nothing does; each on one line, or between triple quotes over several. Control characters other than the
tab stand in none of them.
-/

namespace TaskFilter.Toml

def isSpace (c : Char) : Bool :=
  c = ' ' || c = '\t'

/-- A character that a line of text or a comment may hold. -/
def isPlain (c : Char) : Bool :=
  c = '\t' || (0x20 ≤ c.toNat && c.toNat ≠ 0x7f)

/-- What follows the end of a line, if a line ends here. -/
def newLine? : List Char → Option (List Char)
  | '\n' :: rest => some rest
  | '\r' :: '\n' :: rest => some rest
  | _ => none

/-! ## Escapes -/

/-- The character that stands behind a backslash for another one. -/
def shortEscape? (c : Char) : Option Char :=
  if c = 'b' then some '\x08'
  else if c = 't' then some '\t'
  else if c = 'n' then some '\n'
  else if c = 'f' then some '\x0c'
  else if c = 'r' then some '\r'
  else if c = '"' then some '"'
  else if c = '\\' then some '\\'
  else none

/-- The character of a code point; halves of pairs have none. -/
def scalar? (n : Nat) : Option Char :=
  if n < 0xd800 || (0xe000 ≤ n && n < 0x110000) then some (Char.ofNat n) else none

/-- The character that so many hexadecimal digits stand for, and what follows them. -/
def numericEscape? (count : Nat) (cs : List Char) : Option (Char × List Char) := do
  guard (count ≤ cs.length)
  let n ← Json.hexNumber? (cs.take count)
  let c ← scalar? n
  some (c, cs.drop count)

def escape? : List Char → Option (Char × List Char)
  | 'u' :: rest => numericEscape? 4 rest
  | 'U' :: rest => numericEscape? 8 rest
  | c :: rest => (shortEscape? c).map (·, rest)
  | [] => none

/-! ## Strings on one line -/

/-- The characters up to the closing double quote, and what follows it. -/
def readBasic : Nat → List Char → Option (List Char × List Char)
  | 0, _ => none
  | steps + 1, cs =>
    match cs with
    | [] => none
    | '"' :: rest => some ([], rest)
    | '\\' :: rest => do
      let (c, rest) ← escape? rest
      let (text, rest) ← readBasic steps rest
      some (c :: text, rest)
    | c :: rest => do
      guard (isPlain c)
      let (text, rest) ← readBasic steps rest
      some (c :: text, rest)

/-- The characters up to the closing single quote, and what follows it. -/
def readLiteral (cs : List Char) : Option (List Char × List Char) :=
  let text := cs.takeWhile fun c => isPlain c && c ≠ '\''
  match cs.drop text.length with
  | '\'' :: rest => some (text, rest)
  | _ => none

/-! ## Strings over several lines -/

/-- The text without spaces and ends of lines at its start. -/
def skipLines : Nat → List Char → List Char
  | 0, cs => cs
  | steps + 1, cs =>
    let cs := cs.dropWhile isSpace
    match newLine? cs with
    | some rest => skipLines steps rest
    | none => cs

/-- The characters up to the closing triple quote, and what follows it. One or two quotes may stand
anywhere in the text, and directly before its end too. If `escapes`, a backslash escapes; at the end of a
line it joins the line with the next text. -/
def readLines (quote : Char) (escapes : Bool) : Nat → List Char → Option (List Char × List Char)
  | 0, _ => none
  | steps + 1, cs =>
    match cs with
    | [] => none
    | c :: rest =>
      if c = quote then
        -- of up to five quotes in a row, the last three end the text
        let run := (cs.takeWhile (· = quote)).length
        if run ≤ 2 then do
          let (text, rest) ← readLines quote escapes steps (cs.drop run)
          some (List.replicate run quote ++ text, rest)
        else some (List.replicate (min run 5 - 3) quote, cs.drop (min run 5))
      else if escapes && c = '\\' then
        match newLine? (rest.dropWhile isSpace) with
        | some next => readLines quote escapes steps (skipLines next.length next)
        | none => do
          let (c, rest) ← escape? rest
          let (text, rest) ← readLines quote escapes steps rest
          some (c :: text, rest)
      else
        match newLine? cs with
        | some next => do
          let (text, rest) ← readLines quote escapes steps next
          some ('\n' :: text, rest)
        | none => do
          guard (isPlain c)
          let (text, rest) ← readLines quote escapes steps rest
          some (c :: text, rest)

/-- The text without an end of line at its very start. -/
def dropNewLine (cs : List Char) : List Char :=
  (newLine? cs).getD cs

/-! ## All kinds -/

/-- A string on one line, and what follows it. -/
def readLineString : List Char → Option (String × List Char)
  | '"' :: rest => (readBasic (rest.length + 1) rest).map fun (text, rest) => (String.ofList text, rest)
  | '\'' :: rest => (readLiteral rest).map fun (text, rest) => (String.ofList text, rest)
  | _ => none

/-- A string of any kind, and what follows it. -/
def readString : List Char → Option (String × List Char)
  | '"' :: '"' :: '"' :: rest =>
    (readLines '"' true (rest.length + 1) (dropNewLine rest)).map fun (text, rest) =>
      (String.ofList text, rest)
  | '\'' :: '\'' :: '\'' :: rest =>
    (readLines '\'' false (rest.length + 1) (dropNewLine rest)).map fun (text, rest) =>
      (String.ofList text, rest)
  | cs => readLineString cs

end TaskFilter.Toml
