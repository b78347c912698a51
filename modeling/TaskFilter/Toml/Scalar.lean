import TaskFilter.Date.Calendar
import TaskFilter.Decimal.Range
import TaskFilter.Json.Quoted
import TaskFilter.Text.Reading
import TaskFilter.Toml.Item

/-!
# Numbers, truth values and dates of settings files

A value that is neither a string nor a bracket. Integers have 64 bits and may be written in four bases,
with low lines between their digits; a number with a fraction or an exponent must not be too large; a date
must exist, and may be followed by a time and an offset.
-/

namespace TaskFilter.Toml

open TaskFilter.Text (Reading)
open TaskFilter.Text.Reading

/-! ## Integers -/

/-- Whether low lines in a row of digits each stand between two digits. -/
def isGrouped : List Char → Bool
  | [] => false
  | ['_'] => false
  | '_' :: '_' :: _ => false
  | [_] => true
  | _ :: rest => isGrouped rest

/-- A row of digits with low lines between them: the digits. -/
def digitRow (isDigit : Char → Bool) : Reading (List Char) := do
  let cs ← several fun c => isDigit c || c = '_'
  if cs.head? ≠ some '_' && isGrouped cs then return cs.filter (· ≠ '_') else failure

/-- A sign: whether it is a minus. -/
def minus : Reading Bool := do
  match ← possibly (one fun c => c = '+' || c = '-') with
  | some '-' => return true
  | _ => return false

/-- The digits of a whole number: a zero, or a row that starts with no zero. -/
def wholeDigits : Reading (List Char) := do
  match ← get with
  | '0' :: cs => do set cs; return ['0']
  | _ => digitRow Decimal.isDigit

/-- An integer of 64 bits with its sign. -/
def bounded (negative : Bool) (n : Nat) : Reading Item :=
  if n < Nat.pow 2 63 || (negative && n = Nat.pow 2 63) then
    return .integer (if negative then -n else n)
  else failure

/-- A decimal integer. -/
def decimalInteger : Reading Item := do
  let negative ← minus
  bounded negative (Decimal.natural (← wholeDigits))

/-- The value of a digit in bases up to sixteen. -/
def digitOf (c : Char) : Nat :=
  (Json.hexValue? c).getD 16

/-- An integer in the base that the letter behind a zero stands for. -/
def basedInteger (letter : Char) (base : Nat) : Reading Item := do
  char '0'
  char letter
  let ds ← digitRow fun c => digitOf c < base
  bounded false (ds.foldl (fun n c => n * base + digitOf c) 0)

def integer : Reading Item :=
  basedInteger 'x' 16 <|> basedInteger 'o' 8 <|> basedInteger 'b' 2 <|> decimalInteger

/-! ## Numbers with a fraction -/

def exponent : Reading Int := do
  let _ ← one fun c => c = 'e' || c = 'E'
  let negative ← minus
  let n := Decimal.natural (← digitRow Decimal.isDigit)
  return if negative then -n else n

/-- A number with a fraction, an exponent or both. -/
def finiteFloat : Reading Item := do
  let negative ← minus
  let whole ← wholeDigits
  let fraction ← possibly do
    char '.'
    digitRow Decimal.isDigit
  let scale ← possibly exponent
  if fraction.isNone && scale.isNone then failure
  let ds := fraction.getD []
  if !negative && Decimal.overflows (Decimal.natural (whole ++ ds)) (scale.getD 0 - ds.length) then
    failure
  return .float

/-- A number that is not finite, or none at all. -/
def specialFloat : Reading Item := do
  let _ ← minus
  word "inf" <|> word "nan"
  return .float

/-! ## Dates and times -/

/-- A number of exactly so many digits. -/
def fixedNumber (digits : Nat) : Reading Nat :=
  number digits (some digits)

/-- A day that exists. -/
def day : Reading Unit := do
  let year ← fixedNumber 4
  char '-'
  let month ← fixedNumber 2
  char '-'
  let d : Date.Day := ⟨year, month, ← fixedNumber 2⟩
  unless d.isReal do failure

/-- A time that exists, with a fraction of a second if one is written. -/
def time : Reading Unit := do
  let hour ← fixedNumber 2
  char ':'
  let minute ← fixedNumber 2
  char ':'
  let t : Date.Clock := ⟨hour, minute, ← fixedNumber 2⟩
  unless t.isReal do failure
  let _ ← possibly do
    char '.'
    several Decimal.isDigit

def offset : Reading Unit := do
  let c ← one ['Z', 'z', '+', '-'].contains
  if c = '+' || c = '-' then do
    let hour ← fixedNumber 2
    char ':'
    let minute ← fixedNumber 2
    unless (Date.Clock.mk hour minute 0).isReal do failure

/-- A day, if need be with a time and an offset. -/
def dayMoment : Reading Item := do
  day
  let _ ← possibly do
    let _ ← one ['T', 't', ' '].contains
    time
    possibly offset
  return .moment

/-- A time alone. -/
def timeMoment : Reading Item := do
  time
  return .moment

/-! ## All scalars -/

def boolean : Reading Item :=
  (do word "true"; return .boolean true) <|> (do word "false"; return .boolean false)

/-- A scalar that is no string. -/
def scalar : Reading Item :=
  boolean <|> dayMoment <|> timeMoment <|> finiteFloat <|> specialFloat <|> integer

end TaskFilter.Toml
