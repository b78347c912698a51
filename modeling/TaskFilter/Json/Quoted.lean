import TaskFilter.Decimal.Reading

/-!
# Strings of JSON texts

How a string is written between double quotes, and how what stands between two quotes is read. Writing
escapes no more than it must; reading accepts every escape, and pairs of escapes for the characters beyond
the sixteen-bit range.
-/

namespace TaskFilter.Json

/-! ## Writing -/

/-- One hexadecimal digit, a small letter above nine. -/
def hexDigit (n : Nat) : Char :=
  Nat.digitChar n

def encodeChar (c : Char) : List Char :=
  if c = '"' then ['\\', '"']
  else if c = '\\' then ['\\', '\\']
  else if c = '\x08' then ['\\', 'b']
  else if c = '\x0c' then ['\\', 'f']
  else if c = '\n' then ['\\', 'n']
  else if c = '\r' then ['\\', 'r']
  else if c = '\t' then ['\\', 't']
  else if c.toNat < 0x20 then ['\\', 'u', '0', '0', hexDigit (c.toNat / 16), hexDigit (c.toNat % 16)]
  else [c]

def encode (s : String) : List Char :=
  '"' :: s.toList.flatMap encodeChar ++ ['"']

/-! ## Reading -/

/-- A letter of a string literal: a character, or the sixteen bits of a numeric escape. -/
inductive Letter where
  | char (value : Char)
  | unit (value : Nat)
  deriving DecidableEq, Repr

def hexValue? (c : Char) : Option Nat :=
  if Decimal.isDigit c then some (Decimal.digitValue c)
  else if 'a'.toNat ≤ c.toNat && c.toNat ≤ 'f'.toNat then some (c.toNat - 'a'.toNat + 10)
  else if 'A'.toNat ≤ c.toNat && c.toNat ≤ 'F'.toNat then some (c.toNat - 'A'.toNat + 10)
  else none

def hexNumber? (ds : List Char) : Option Nat :=
  ds.foldlM (fun n c => (hexValue? c).map (n * 16 + ·)) 0

/-- The character that stands for itself, or for a control character, behind a backslash. -/
def shortEscape? (c : Char) : Option Char :=
  if c = '"' then some '"'
  else if c = '\\' then some '\\'
  else if c = '/' then some '/'
  else if c = 'b' then some '\x08'
  else if c = 'f' then some '\x0c'
  else if c = 'n' then some '\n'
  else if c = 'r' then some '\r'
  else if c = 't' then some '\t'
  else none

/-- The letters up to the closing quote, and what follows it. `none` if there is no closing quote, or an
escape of no known form, or a control character that is not escaped. -/
def readLetters : List Char → Option (List Letter × List Char)
  | [] => none
  | '"' :: rest => some ([], rest)
  | '\\' :: 'u' :: a :: b :: c :: d :: rest => do
    let n ← hexNumber? [a, b, c, d]
    let (letters, rest) ← readLetters rest
    some (.unit n :: letters, rest)
  | '\\' :: c :: rest => do
    let c ← shortEscape? c
    let (letters, rest) ← readLetters rest
    some (.char c :: letters, rest)
  | c :: rest => do
    guard (0x20 ≤ c.toNat && c ≠ '\\')
    let (letters, rest) ← readLetters rest
    some (.char c :: letters, rest)

def isLeading (n : Nat) : Bool :=
  0xd800 ≤ n && n < 0xdc00

def isTrailing (n : Nat) : Bool :=
  0xdc00 ≤ n && n < 0xe000

/-- The characters that letters stand for; `none` if half of a pair stands alone. -/
def characters : List Letter → Option (List Char)
  | [] => some []
  | .char c :: rest => (characters rest).map (c :: ·)
  | .unit n :: .unit m :: rest =>
    if isLeading n then
      if isTrailing m then
        (characters rest).map (Char.ofNat (0x10000 + (n - 0xd800) * 0x400 + (m - 0xdc00)) :: ·)
      else none
    else if isTrailing n then none
    else (characters (.unit m :: rest)).map (Char.ofNat n :: ·)
  | .unit n :: rest =>
    if isLeading n || isTrailing n then none
    else (characters rest).map (Char.ofNat n :: ·)

end TaskFilter.Json
