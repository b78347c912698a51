import TaskFilter.Date.Calendar
import TaskFilter.Text.Blank
import TaskFilter.Text.Reading

/-!
# Written dates

The five written forms in which a date or a moment is accepted: a day, a moment of the internet profile,
a moment with an offset in the basic or the extended form, a local moment with seconds, and a local moment
without. In all but the internet profile a number may have fewer digits than its place, and white space
may precede it.
-/

namespace TaskFilter.Date

open TaskFilter.Text (Reading)
open TaskFilter.Text.Reading

def blanks : Reading Unit :=
  modify Text.skipBlanks

/-- A sign in front of an offset: the minus is written as a hyphen or as the mathematical sign. -/
def sign : Reading Int := do
  let c ← one ['+', '-', '−'].contains
  return if c = '+' then 1 else -1

/-! ## The loose forms -/

/-- A year: up to four digits, or any number of them behind a sign. -/
def looseYear : Reading Int := do
  blanks
  match ← get with
  | '-' :: cs => do set cs; let n ← number 1 none; return -(n : Int)
  | '+' :: cs => do set cs; let n ← number 1 none; return n
  | _ => do let n ← number 1 (some 4); return n

/-- A number of one or two digits, with white space before it. -/
def looseNumber : Reading Nat := do
  blanks
  number 1 (some 2)

/-- A day, the parts joined by hyphens. -/
def looseDay : Reading Day := do
  let year ← looseYear
  char '-'
  let month ← looseNumber
  char '-'
  let day ← looseNumber
  let d : Day := ⟨year, month, day⟩
  if d.isReal then return d else failure

def looseMinutes : Reading Clock := do
  let hour ← looseNumber
  char ':'
  let minute ← looseNumber
  return ⟨hour, minute, 0⟩

def looseSeconds : Reading Clock := do
  let t ← looseMinutes
  char ':'
  let second ← looseNumber
  return { t with second := second }

/-- A fraction of a second, if a point follows: at least one digit. -/
def fraction : Reading Unit := do
  match ← get with
  | '.' :: cs => do set cs; let _ ← number 1 none
  | _ => return

/-- Two digits of hours and two of minutes, with `separator` between them, in seconds. -/
def offsetSeconds (separator : Reading Unit) : Reading Int := do
  let s ← sign
  let hours ← number 2 (some 2)
  separator
  let minutes ← number 2 (some 2)
  -- the hours may be anything below a day
  let total : Int := hours * 3600 + minutes * 60
  if minutes ≤ 59 && total < 86400 then return s * total else failure

/-- Colons and white space in any number and order, also none at all. -/
def looseColons : Reading Unit :=
  modify fun cs => cs.dropWhile fun c => c = ':' || Text.isBlank c

/-- A clock time that exists, read by `clock`. -/
def realClock (clock : Reading Clock) : Reading Clock := do
  let t ← clock
  if t.isReal then return t else failure

def dayForm : Reading Unit := do
  let _ ← looseDay
  finish

def minuteForm : Reading Unit := do
  let _ ← looseDay
  char 'T'
  let _ ← realClock looseMinutes
  finish

def secondForm : Reading Unit := do
  let _ ← looseDay
  char 'T'
  let _ ← realClock looseSeconds
  fraction
  finish

def offsetForm : Reading Unit := do
  let d ← looseDay
  char 'T'
  let t ← realClock looseSeconds
  fraction
  blanks
  let offset ← offsetSeconds looseColons
  finish
  unless keepsInRange d t offset do failure

/-! ## The internet profile -/

/-- The offset of the internet profile: a letter for universal time, or hours and minutes with a colon. -/
def internetOffset : Reading Int := do
  match ← get with
  | 'Z' :: cs => do set cs; return 0
  | 'z' :: cs => do set cs; return 0
  | _ => offsetSeconds (char ':')

/-- The form of the internet profile: every number has all its digits. -/
def internetForm : Reading Unit := do
  let year ← number 4 (some 4)
  char '-'
  let month ← number 2 (some 2)
  char '-'
  let day ← number 2 (some 2)
  let _ ← one ['T', 't', ' '].contains
  let hour ← number 2 (some 2)
  char ':'
  let minute ← number 2 (some 2)
  char ':'
  let second ← number 2 (some 2)
  fraction
  let offset ← internetOffset
  finish
  let d : Day := ⟨year, month, day⟩
  let t : Clock := ⟨hour, minute, second⟩
  unless d.isReal && t.isReal && keepsInRange d t offset do failure

/-- Whether the whole text has the form. -/
def hasForm (form : Reading Unit) (text : List Char) : Bool :=
  (form.run text).isSome

/-- Whether a text is a date or a moment in one of the five forms. -/
def isDate (text : String) : Bool :=
  hasForm dayForm text.toList || hasForm internetForm text.toList || hasForm offsetForm text.toList ||
    hasForm secondForm text.toList || hasForm minuteForm text.toList

end TaskFilter.Date
