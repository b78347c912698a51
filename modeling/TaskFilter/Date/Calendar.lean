/-!
# Calendar dates and clock times

The Gregorian calendar, extended to all years, and the times of a day with room for a leap second. A
moment is a date and a time at some offset from universal time; the years that can be told apart are
bounded, and a moment must keep within them when it is moved to universal time.
-/

namespace TaskFilter.Date

structure Day where
  year : Int
  month : Nat
  day : Nat
  deriving DecidableEq, Repr

structure Clock where
  hour : Nat
  minute : Nat
  second : Nat
  deriving DecidableEq, Repr

def isLeapYear (year : Int) : Bool :=
  year % 4 == 0 && (year % 100 != 0 || year % 400 == 0)

/-- The number of days of a month; none for a number that is no month. -/
def daysInMonth (year : Int) (month : Nat) : Nat :=
  match month with
  | 1 | 3 | 5 | 7 | 8 | 10 | 12 => 31
  | 4 | 6 | 9 | 11 => 30
  | 2 => if isLeapYear year then 29 else 28
  | _ => 0

def firstYear : Int := -262143

def lastYear : Int := 262142

def Day.isReal (d : Day) : Bool :=
  firstYear ≤ d.year && d.year ≤ lastYear && 1 ≤ d.day && d.day ≤ daysInMonth d.year d.month

/-- Whether the time exists; second 60 is a leap second. -/
def Clock.isReal (t : Clock) : Bool :=
  t.hour ≤ 23 && t.minute ≤ 59 && t.second ≤ 60

/-- The number of the day, counted through all years. Years are taken from March to February, so that the
leap day is the last one. -/
def Day.number (d : Day) : Int :=
  let year := if d.month ≤ 2 then d.year - 1 else d.year
  let month := if d.month ≤ 2 then d.month + 9 else d.month - 3
  365 * year + year / 4 - year / 100 + year / 400 + (153 * month + 2) / 5 + d.day

/-- The seconds of the day before the time; a leap second counts with the second before it. -/
def Clock.seconds (t : Clock) : Int :=
  t.hour * 3600 + t.minute * 60 + min t.second 59

/-- Whether a moment, `offset` seconds ahead of universal time, keeps within the years when it is moved
there. -/
def keepsInRange (d : Day) (t : Clock) (offset : Int) : Bool :=
  let moment := d.number * 86400 + t.seconds - offset
  (Day.mk firstYear 1 1).number * 86400 ≤ moment &&
    moment < ((Day.mk lastYear 12 31).number + 1) * 86400

end TaskFilter.Date
