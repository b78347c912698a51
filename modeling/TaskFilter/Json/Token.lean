import TaskFilter.Json.Number
import TaskFilter.Json.Quoted

/-!
# Tokens of JSON texts

A text is cut into brackets, commas, colons, names, numbers and strings, with spaces between them. The
tokens of a text end where it stops being well formed, with the token `bad`. Two faults are left to
whoever uses a token, because a value that nobody asks for may have them: a number outside the range of
doubles, and a string with half of a pair of escapes.
-/

namespace TaskFilter.Json

/-- A token. -/
inductive Token where
  | comma
  | colon
  | openArray
  | closeArray
  | openObject
  | closeObject
  | null
  | bool (value : Bool)
  /-- A number; `none` if it is too large for a double. -/
  | number (value : Option Number)
  /-- A string; `none` if half of a pair of escapes stands alone in it. -/
  | string (value : Option String)
  /-- Text that is no token. -/
  | bad
  deriving BEq

namespace Token

/-- The characters that may stand between two tokens. -/
def isSpace (c : Char) : Bool :=
  c = ' ' || c = '\t' || c = '\n' || c = '\r'

/-- The digits at the start of the text, and what follows them. -/
def digits (cs : List Char) : List Char × List Char :=
  (cs.takeWhile Decimal.isDigit, cs.dropWhile Decimal.isDigit)

/-- The digits of a fraction after its point, and what follows them: none if there is no point, and at
least one if there is. -/
def readFraction : List Char → Option (List Char × List Char)
  | '.' :: rest =>
    let (ds, rest) := digits rest
    if ds.isEmpty then none else some (ds, rest)
  | rest => some ([], rest)

/-- An exponent with its sign, and what follows it. -/
def readExponent (cs : List Char) : Option (Option Int × List Char) :=
  match cs with
  | 'e' :: rest => signed rest
  | 'E' :: rest => signed rest
  | _ => some (none, cs)
where
  /-- The digits of the exponent behind an optional sign. -/
  signed : List Char → Option (Option Int × List Char)
    | '-' :: rest => unsigned rest fun n => -n
    | '+' :: rest => unsigned rest fun n => n
    | rest => unsigned rest fun n => n
  /-- At least one digit. -/
  unsigned (cs : List Char) (sign : Int → Int) : Option (Option Int × List Char) :=
    let (ds, rest) := digits cs
    if ds.isEmpty then none else some (some (sign (Decimal.natural ds)), rest)

/-- A number without its sign, and what follows it. A whole part of several digits starts with no zero. -/
def readNumber (negative : Bool) (cs : List Char) : Option (Token × List Char) := do
  let (whole, rest) := digits cs
  guard (!whole.isEmpty && (whole.head? != some '0' || whole.length == 1))
  let (fraction, rest) ← readFraction rest
  let (exponent, rest) ← readExponent rest
  some (.number (Number.ofLiteral negative whole fraction exponent), rest)

/-- The first token of a text that starts with no space, and what follows it. -/
def read (cs : List Char) : Option (Token × List Char) :=
  match cs with
  | ',' :: rest => some (.comma, rest)
  | ':' :: rest => some (.colon, rest)
  | '[' :: rest => some (.openArray, rest)
  | ']' :: rest => some (.closeArray, rest)
  | '\x7b' :: rest => some (.openObject, rest)
  | '\x7d' :: rest => some (.closeObject, rest)
  | 'n' :: 'u' :: 'l' :: 'l' :: rest => some (.null, rest)
  | 't' :: 'r' :: 'u' :: 'e' :: rest => some (.bool true, rest)
  | 'f' :: 'a' :: 'l' :: 's' :: 'e' :: rest => some (.bool false, rest)
  | '"' :: rest =>
    (readLetters rest).map fun (letters, rest) =>
      (.string ((characters letters).map String.ofList), rest)
  | '-' :: rest => readNumber true rest
  | _ => readNumber false cs

/-- The tokens of a text, as far as it is well formed. A token has at least one character, so the length
of the text bounds their number. -/
def scan : Nat → List Char → List Token
  | 0, _ => []
  | steps + 1, cs =>
    match cs.dropWhile isSpace with
    | [] => []
    | c :: rest =>
      match read (c :: rest) with
      | some (token, rest) => token :: scan steps rest
      | none => [.bad]

/-- The tokens of a text. -/
def ofText (text : String) : List Token :=
  scan text.toList.length text.toList

end Token

end TaskFilter.Json
