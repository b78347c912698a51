import TaskFilter.Date.Forms
import TaskFilter.Proofs.Text.Reading

/-!
# Dates of fixed width

The dates that are written with all their digits: a day; a day and a time without seconds; a day and a time
with seconds, a fraction of a second where it is given, and a zone where it is given. Of the five accepted
forms some are looser than that and some are stricter, and they overlap. On dates of fixed width they
accept together exactly the dates that exist.

## Layers

- **Shapes**: `WrittenDate`, the dates of fixed width, and which of them exist (`WrittenDate.Exists`).
- **Parts**: what each reader reads of a part, and that no moment of a year with four digits leaves the
  range of years (`keepsInRange_of_exists`).
- **Forms**: for each shape, which forms accept it.
- **Main statement**: `isDate_text_iff`.
-/

namespace TaskFilter.Date

open TaskFilter.Text (Reading)
open TaskFilter.Text.Reading

/-! ## Shapes -/

/-- A row of digits of fixed width. -/
structure Digits (width : Nat) where
  chars : List Char
  length_chars : chars.length = width
  isDigit_chars : ∀ c ∈ chars, Decimal.isDigit c = true

/-- The number that a row of digits stands for. -/
def Digits.value {width : Nat} (ds : Digits width) : Nat :=
  Decimal.natural ds.chars

/-- A fraction of a second: at least one digit behind a point. -/
structure WrittenFraction where
  more : Nat
  digits : Digits (more + 1)

inductive WrittenZone where
  /-- Universal time, as a letter. -/
  | utc
  /-- Hours and minutes behind a sign, in the extended form with a colon between them. -/
  | offset (ahead extended : Bool) (hours minutes : Digits 2)

inductive WrittenTime where
  | minutes (hour minute : Digits 2)
  | seconds (hour minute second : Digits 2) (fraction : Option WrittenFraction)
      (zone : Option WrittenZone)

/-- A date of fixed width. -/
structure WrittenDate where
  year : Digits 4
  month : Digits 2
  day : Digits 2
  time : Option WrittenTime

def WrittenFraction.chars (fraction : WrittenFraction) : List Char :=
  '.' :: fraction.digits.chars

def WrittenZone.chars : WrittenZone → List Char
  | .utc => ['Z']
  | .offset ahead extended hours minutes =>
    (if ahead then '+' else '-') ::
      (hours.chars ++ ((if extended then [':'] else []) ++ minutes.chars))

def WrittenTime.chars : WrittenTime → List Char
  | .minutes hour minute => hour.chars ++ ':' :: minute.chars
  | .seconds hour minute second fraction zone =>
    hour.chars ++ ':' :: (minute.chars ++ ':' :: (second.chars ++
      (fraction.elim [] WrittenFraction.chars ++ zone.elim [] WrittenZone.chars)))

def WrittenDate.dayChars (date : WrittenDate) : List Char :=
  date.year.chars ++ '-' :: (date.month.chars ++ '-' :: date.day.chars)

def WrittenDate.text (date : WrittenDate) : String :=
  String.ofList (date.dayChars ++ date.time.elim [] fun time => 'T' :: time.chars)

/-! ## The calendar -/

/-- Every fourth year is a leap year, but of the full centuries only every fourth. -/
def IsLeapYear (year : Nat) : Prop :=
  4 ∣ year ∧ (100 ∣ year → 400 ∣ year)

/-- The day exists in the Gregorian calendar. -/
structure DayExists (year month day : Nat) : Prop where
  month_mem : 1 ≤ month ∧ month ≤ 12
  day_mem : 1 ≤ day ∧ day ≤ 31
  short : month ∈ [4, 6, 9, 11] → day ≤ 30
  february : month = 2 → day ≤ 29 ∧ (day = 29 → IsLeapYear year)

def WrittenZone.Exists : WrittenZone → Prop
  | .utc => True
  | .offset _ _ hours minutes => hours.value ≤ 23 ∧ minutes.value ≤ 59

/-- The time exists; a minute has room for a leap second. -/
def WrittenTime.Exists : WrittenTime → Prop
  | .minutes hour minute => hour.value ≤ 23 ∧ minute.value ≤ 59
  | .seconds hour minute second _ zone =>
    hour.value ≤ 23 ∧ minute.value ≤ 59 ∧ second.value ≤ 60 ∧ ∀ z ∈ zone, z.Exists

def WrittenDate.Exists (date : WrittenDate) : Prop :=
  DayExists date.year.value date.month.value date.day.value ∧ ∀ time ∈ date.time, time.Exists

instance : DecidablePred WrittenZone.Exists
  | .utc => isTrue trivial
  | .offset _ _ hours minutes => inferInstanceAs (Decidable (hours.value ≤ 23 ∧ minutes.value ≤ 59))

theorem isLeapYear_iff (year : Nat) : isLeapYear year = true ↔ IsLeapYear year := by
  simp [isLeapYear, IsLeapYear]
  omega

theorem le_daysInMonth_iff {year : Int} {month day : Nat} (first : 1 ≤ day) :
    day ≤ daysInMonth year month ↔
      (1 ≤ month ∧ month ≤ 12) ∧ day ≤ 31 ∧ (month ∈ [4, 6, 9, 11] → day ≤ 30) ∧
        (month = 2 → day ≤ 29 ∧ (day = 29 → isLeapYear year = true)) := by
  unfold daysInMonth
  split
  case h_12 =>
    -- February
    cases isLeapYear year <;> simp <;> omega
  case h_13 =>
    -- no month
    simp only [imp_false] at *
    simp
    omega
  all_goals simp <;> omega

/-- Among the years that have four digits, the days that are real are those of the calendar. -/
theorem isReal_iff_dayExists {year month day : Nat} (digits : year < 10000) :
    (Day.mk year month day).isReal = true ↔ DayExists year month day := by
  have range : firstYear ≤ (year : Int) ∧ (year : Int) ≤ lastYear := by
    simp only [firstYear, lastYear]
    omega
  have leap := isLeapYear_iff year
  simp only [Day.isReal, Bool.and_eq_true, decide_eq_true_eq, range, true_and]
  constructor
  · rintro ⟨first, last⟩
    obtain ⟨month_mem, last, short, february⟩ := (le_daysInMonth_iff first).mp last
    refine ⟨month_mem, ⟨first, last⟩, short, fun same => ?_⟩
    exact (february same).imp_right fun h day => leap.mp (h day)
  · rintro ⟨month_mem, ⟨first, last⟩, short, february⟩
    refine ⟨first, (le_daysInMonth_iff first).mpr ⟨month_mem, last, short, fun same => ?_⟩⟩
    exact (february same).imp_right fun h day => leap.mpr (h day)

theorem Day.number_mem {d : Day} (digits : -10000 < d.year ∧ d.year < 10000) (real : d.isReal = true) :
    -4000000 ≤ d.number ∧ d.number ≤ 4000000 := by
  simp only [Day.isReal, Bool.and_eq_true, decide_eq_true_eq] at real
  obtain ⟨month_mem, last, -, -⟩ := (le_daysInMonth_iff real.1.2).mp real.2
  unfold Day.number
  by_cases early : d.month ≤ 2
  · simp only [early, if_true]
    omega
  · simp only [early, if_false]
    omega

/-- No moment of a year with four digits leaves the range of years when it is moved to universal time. -/
theorem keepsInRange_of_isReal {d : Day} (digits : -10000 < d.year ∧ d.year < 10000)
    (real : d.isReal = true) {t : Clock} (clock : t.isReal = true) {offset : Int}
    (ahead : offset < 86400) (behind : -86400 < offset) : keepsInRange d t offset = true := by
  have first : (Day.mk firstYear 1 1).number ≤ -5000000 := by decide
  have last : 5000000 ≤ (Day.mk lastYear 12 31).number := by decide
  have number := Day.number_mem digits real
  simp only [Clock.isReal, Bool.and_eq_true, decide_eq_true_eq] at clock
  unfold keepsInRange Clock.seconds
  simp only [Bool.and_eq_true, decide_eq_true_eq]
  omega

theorem keepsInRange_of_exists {year month day : Nat} (digits : year < 10000)
    (real : DayExists year month day) {t : Clock} (clock : t.isReal = true) {offset : Int}
    (ahead : offset < 86400) (behind : -86400 < offset) :
    keepsInRange ⟨year, month, day⟩ t offset = true :=
  keepsInRange_of_isReal (by dsimp only; omega) ((isReal_iff_dayExists digits).mpr real) clock ahead behind

/-! ## Digits -/

theorem isBlank_of_isDigit {c : Char} (digit : Decimal.isDigit c = true) :
    Text.isBlank c = false := by
  simp [Decimal.isDigit] at digit
  simp [Text.isBlank, Text.blankRanges, Text.Ranges.contains]
  omega

theorem isDigit_of_isBlank {c : Char} (blank : Text.isBlank c = true) : Decimal.isDigit c = false := by
  rw [← Bool.not_eq_true]
  intro digit
  rw [isBlank_of_isDigit digit] at blank
  cases blank

/-- A row of digits is below the power of ten of its length. -/
theorem natural_lt {ds : List Char} (digits : ∀ c ∈ ds, Decimal.isDigit c = true) :
    Decimal.natural ds < Nat.pow 10 ds.length := by
  -- the number that stands before the row is arbitrary in the induction
  have bound : ∀ (start : Nat), ds.foldl (fun n c => n * 10 + Decimal.digitValue c) start <
      (start + 1) * 10 ^ ds.length := by
    induction ds with
    | nil => simp
    | cons c ds ih =>
      intro start
      obtain ⟨digit, others⟩ := List.forall_mem_cons.mp digits
      have small : Decimal.digitValue c ≤ 9 := by
        simp [Decimal.isDigit] at digit
        simp [Decimal.digitValue]
        omega
      calc (c :: ds).foldl (fun n c => n * 10 + Decimal.digitValue c) start
          < (start * 10 + Decimal.digitValue c + 1) * 10 ^ ds.length := ih others _
        _ ≤ ((start + 1) * 10) * 10 ^ ds.length := Nat.mul_le_mul_right _ (by omega)
        _ = (start + 1) * 10 ^ (c :: ds).length := by
          rw [List.length_cons, Nat.pow_succ', Nat.mul_assoc]
  simpa [Decimal.natural] using bound 0

namespace Digits

variable {width : Nat}

theorem value_lt (ds : Digits width) : ds.value < Nat.pow 10 width := by
  have bound := natural_lt ds.isDigit_chars
  rwa [ds.length_chars] at bound

theorem exists_cons (ds : Digits (width + 1)) :
    ∃ c cs, ds.chars = c :: cs ∧ Decimal.isDigit c = true := by
  obtain ⟨c, cs, written⟩ := List.exists_cons_of_length_eq_add_one ds.length_chars
  exact ⟨c, cs, written, ds.isDigit_chars c (written ▸ List.mem_cons_self)⟩

end Digits

theorem WrittenDate.year_lt (date : WrittenDate) : date.year.value < 10000 :=
  date.year.value_lt

/-! ## Parts -/

variable {rest : List Char}

theorem run_blanks_digits {width : Nat} (ds : Digits (width + 1)) :
    blanks.run (ds.chars ++ rest) = some ((), ds.chars ++ rest) := by
  obtain ⟨c, cs, written, digit⟩ := ds.exists_cons
  simp [blanks, Text.skipBlanks, written, isBlank_of_isDigit digit]

theorem run_number_digits {width : Nat} (ds : Digits width) {least : Nat} (enough : least ≤ width) :
    (number least (some width)).run (ds.chars ++ rest) = some (ds.value, rest) :=
  run_number_of_length ds.isDigit_chars ds.length_chars enough

theorem run_number_last {width : Nat} (ds : Digits width) {least : Nat} (enough : least ≤ width) :
    (number least (some width)).run ds.chars = some (ds.value, []) := by
  have read : (number least (some width)).run (ds.chars ++ []) = some (ds.value, []) :=
    run_number_digits ds enough
  rwa [List.append_nil] at read

theorem run_looseNumber (ds : Digits 2) :
    looseNumber.run (ds.chars ++ rest) = some (ds.value, rest) := by
  simp [looseNumber, run_blanks_digits, run_number_digits]

theorem run_looseNumber_last (ds : Digits 2) : looseNumber.run ds.chars = some (ds.value, []) := by
  have read : looseNumber.run (ds.chars ++ []) = some (ds.value, []) := run_looseNumber ds
  rwa [List.append_nil] at read

theorem run_looseYear (ds : Digits 4) :
    looseYear.run (ds.chars ++ rest) = some ((ds.value : Int), rest) := by
  have read : (number 1 (some 4)).run (ds.chars ++ rest) = some (ds.value, rest) :=
    run_number_digits ds (by decide)
  obtain ⟨c, cs, written, digit⟩ := ds.exists_cons
  -- a digit is no sign
  have minus : c ≠ '-' := by rintro rfl; cases digit
  have plus : c ≠ '+' := by rintro rfl; cases digit
  simp only [looseYear, StateT.run_bind, run_blanks_digits, StateT.run_get, Option.bind_eq_bind,
    Option.bind_some, Option.pure_def]
  rw [written, List.cons_append] at read ⊢
  split
  next same => exact absurd (List.cons.inj same).1 minus
  next same => exact absurd (List.cons.inj same).1 plus
  next => simp [read]

/-- The day of a date of fixed width. -/
def WrittenDate.toDay (date : WrittenDate) : Day :=
  ⟨date.year.value, date.month.value, date.day.value⟩

theorem run_looseDay (date : WrittenDate) :
    looseDay.run (date.dayChars ++ rest) =
      if date.toDay.isReal then some (date.toDay, rest) else none := by
  cases real : date.toDay.isReal <;>
    simp_all [looseDay, WrittenDate.dayChars, WrittenDate.toDay, run_looseYear, run_looseNumber]

theorem run_looseMinutes (hour minute : Digits 2) :
    looseMinutes.run (hour.chars ++ ':' :: (minute.chars ++ rest)) =
      some (⟨hour.value, minute.value, 0⟩, rest) := by
  simp [looseMinutes, run_looseNumber]

theorem run_looseMinutes_last (hour minute : Digits 2) :
    looseMinutes.run (hour.chars ++ ':' :: minute.chars) =
      some (⟨hour.value, minute.value, 0⟩, []) := by
  simp [looseMinutes, run_looseNumber, run_looseNumber_last]

theorem run_looseSeconds (hour minute second : Digits 2) :
    looseSeconds.run (hour.chars ++ ':' :: (minute.chars ++ ':' :: (second.chars ++ rest))) =
      some (⟨hour.value, minute.value, second.value⟩, rest) := by
  simp [looseSeconds, run_looseMinutes, run_looseNumber]

theorem run_looseSeconds_minutes (hour minute : Digits 2) :
    looseSeconds.run (hour.chars ++ ':' :: minute.chars) = none := by
  simp [looseSeconds, run_looseMinutes_last]

/-- A fraction ends where the zone begins. -/
theorem run_fraction (f : Option WrittenFraction) (zone : Option WrittenZone) :
    fraction.run (f.elim [] WrittenFraction.chars ++ zone.elim [] WrittenZone.chars) =
      some ((), zone.elim [] WrittenZone.chars) := by
  have ends : (zone.elim [] WrittenZone.chars).takeWhile Decimal.isDigit = [] := by
    cases zone with
    | none => rfl
    | some zone =>
      cases zone with
      | utc => rfl
      | offset ahead => cases ahead <;> rfl
  cases f with
  | some f =>
    have enough : 1 ≤ f.digits.chars.length := by
      rw [f.digits.length_chars]
      omega
    simp [fraction, WrittenFraction.chars, run_number_to_end f.digits.isDigit_chars enough ends]
  | none =>
    -- no zone begins with a point
    cases zone with
    | none => rfl
    | some zone =>
      cases zone with
      | utc => rfl
      | offset ahead => cases ahead <;> rfl

/-- The seconds by which a zone is ahead of universal time. -/
def WrittenZone.seconds : WrittenZone → Int
  | .utc => 0
  | .offset ahead _ hours minutes =>
    (if ahead then 1 else -1) * (hours.value * 3600 + minutes.value * 60)

/-- The zone is a letter, or has a colon. -/
def WrittenZone.isExtended : WrittenZone → Bool
  | .utc => true
  | .offset _ extended _ _ => extended

theorem run_sign (ahead : Bool) :
    sign.run ((if ahead then '+' else '-') :: rest) = some ((if ahead then 1 else -1), rest) := by
  cases ahead <;> rfl

/-- An offset is read if it exists, whatever is accepted between the hours and the minutes. -/
theorem run_offsetSeconds {separator : Reading Unit} (ahead extended : Bool) (hours minutes : Digits 2)
    (read : separator.run ((if extended then [':'] else []) ++ minutes.chars) =
      some ((), minutes.chars)) :
    (offsetSeconds separator).run (WrittenZone.offset ahead extended hours minutes).chars =
      if (WrittenZone.offset ahead extended hours minutes).Exists then
        some ((WrittenZone.offset ahead extended hours minutes).seconds, [])
      else none := by
  have bound : (minutes.value ≤ 59 ∧ hours.value * 3600 + minutes.value * 60 < (86400 : Int)) ↔
      (WrittenZone.offset ahead extended hours minutes).Exists := by
    simp only [WrittenZone.Exists]
    omega
  simp [WrittenZone.chars, offsetSeconds, run_sign, run_number_digits, run_number_last, read, bound]
  split <;> simp [WrittenZone.seconds]

theorem run_looseColons (extended : Bool) {width : Nat} (ds : Digits (width + 1)) :
    looseColons.run ((if extended then [':'] else []) ++ ds.chars) = some ((), ds.chars) := by
  obtain ⟨c, cs, written, digit⟩ := ds.exists_cons
  have colon : c ≠ ':' := by rintro rfl; cases digit
  cases extended <;> simp [looseColons, written, colon, isBlank_of_isDigit digit]

theorem run_blanks_sign (ahead extended : Bool) (hours minutes : Digits 2) :
    blanks.run (WrittenZone.offset ahead extended hours minutes).chars =
      some ((), (WrittenZone.offset ahead extended hours minutes).chars) := by
  cases ahead <;> rfl

theorem WrittenZone.seconds_mem {z : WrittenZone} (real : z.Exists) :
    -86400 < z.seconds ∧ z.seconds < 86400 := by
  cases z with
  | utc => decide
  | offset ahead extended hours minutes =>
    obtain ⟨few, fewer⟩ := real
    cases ahead <;> simp [WrittenZone.seconds] <;> omega

theorem run_internetOffset (z : WrittenZone) :
    internetOffset.run z.chars =
      if z.isExtended = true ∧ z.Exists then some (z.seconds, []) else none := by
  cases z with
  | utc => rfl
  | offset ahead extended hours minutes =>
    -- a sign is no letter
    have figures : internetOffset.run (WrittenZone.offset ahead extended hours minutes).chars =
        (offsetSeconds (char ':')).run (WrittenZone.offset ahead extended hours minutes).chars := by
      cases ahead <;> rfl
    rw [figures]
    cases extended with
    | true =>
      rw [run_offsetSeconds ahead true hours minutes run_char_self]
      simp [WrittenZone.isExtended]
    | false =>
      have none : (char ':').run minutes.chars = none := by
        obtain ⟨c, cs, written, digit⟩ := minutes.exists_cons
        rw [written]
        exact run_char_of_ne (by rintro rfl; cases digit)
      simp [WrittenZone.chars, WrittenZone.isExtended, offsetSeconds, run_sign, run_number_digits, none]

/-! ## Forms -/

theorem hasForm_bind {α : Type} {part : Reading α} {form : α → Reading Unit} {cs : List Char} {a : α}
    (read : part.run cs = some (a, rest)) :
    hasForm (part >>= form) cs = hasForm (form a) rest := by
  simp [hasForm, read]

theorem hasForm_bind_none {α : Type} {part : Reading α} {form : α → Reading Unit} {cs : List Char}
    (read : part.run cs = none) : hasForm (part >>= form) cs = false := by
  simp [hasForm, read]

theorem hasForm_finish : hasForm finish rest = rest.isEmpty := by
  cases rest <;> simp [hasForm]

theorem hasForm_unless {condition : Bool} :
    hasForm (unless condition do failure) rest = condition := by
  cases condition <;> rfl

theorem hasForm_realClock {clock : Reading Clock} {form : Clock → Reading Unit} {cs : List Char}
    {t : Clock} (read : clock.run cs = some (t, rest)) :
    hasForm (realClock clock >>= form) cs = (t.isReal && hasForm (form t) rest) := by
  cases real : t.isReal <;> simp [hasForm, realClock, read, real]

theorem hasForm_realClock_none {clock : Reading Clock} {form : Clock → Reading Unit} {cs : List Char}
    (read : clock.run cs = none) : hasForm (realClock clock >>= form) cs = false := by
  simp [hasForm, realClock, read]

section Forms

variable (date : WrittenDate) (hour minute second : Digits 2) (fraction : Option WrittenFraction)
  (zone : Option WrittenZone)

theorem hasForm_looseDay {form : Day → Reading Unit} :
    hasForm (looseDay >>= form) (date.dayChars ++ rest) =
      (date.toDay.isReal && hasForm (form date.toDay) rest) := by
  cases real : date.toDay.isReal <;> simp [hasForm, run_looseDay, real]

theorem hasForm_dayForm :
    hasForm dayForm (date.dayChars ++ rest) = (date.toDay.isReal && rest.isEmpty) := by
  rw [dayForm, hasForm_looseDay, hasForm_finish]

theorem hasForm_minuteForm_minutes :
    hasForm minuteForm (date.dayChars ++ 'T' :: (WrittenTime.minutes hour minute).chars) =
      (date.toDay.isReal && (Clock.mk hour.value minute.value 0).isReal) := by
  rw [minuteForm, hasForm_looseDay, hasForm_bind run_char_self, WrittenTime.chars,
    hasForm_realClock (run_looseMinutes_last hour minute), hasForm_finish, List.isEmpty_nil,
    Bool.and_true]

theorem hasForm_minuteForm_seconds :
    hasForm minuteForm (date.dayChars ++
      'T' :: (WrittenTime.seconds hour minute second fraction zone).chars) = false := by
  rw [minuteForm, hasForm_looseDay, hasForm_bind run_char_self, WrittenTime.chars,
    hasForm_realClock (run_looseMinutes hour minute), hasForm_finish, List.isEmpty_cons,
    Bool.and_false, Bool.and_false]

theorem hasForm_secondForm_minutes :
    hasForm secondForm (date.dayChars ++ 'T' :: (WrittenTime.minutes hour minute).chars) = false := by
  rw [secondForm, hasForm_looseDay, hasForm_bind run_char_self, WrittenTime.chars,
    hasForm_realClock_none (run_looseSeconds_minutes hour minute), Bool.and_false]

theorem hasForm_secondForm_seconds :
    hasForm secondForm (date.dayChars ++
        'T' :: (WrittenTime.seconds hour minute second fraction zone).chars) =
      (date.toDay.isReal && ((Clock.mk hour.value minute.value second.value).isReal &&
        zone.isNone)) := by
  rw [secondForm, hasForm_looseDay, hasForm_bind run_char_self, WrittenTime.chars,
    hasForm_realClock (run_looseSeconds hour minute second), hasForm_bind (run_fraction fraction zone),
    hasForm_finish]
  cases zone with
  | none => rfl
  | some zone => cases zone <;> rfl

theorem hasForm_offsetForm_minutes :
    hasForm offsetForm (date.dayChars ++ 'T' :: (WrittenTime.minutes hour minute).chars) = false := by
  rw [offsetForm, hasForm_looseDay, hasForm_bind run_char_self, WrittenTime.chars,
    hasForm_realClock_none (run_looseSeconds_minutes hour minute), Bool.and_false]

/-- The offset form wants an offset in figures, and takes it with and without a colon. -/
theorem hasForm_offsetForm_seconds :
    hasForm offsetForm (date.dayChars ++
        'T' :: (WrittenTime.seconds hour minute second fraction zone).chars) = true ↔
      date.toDay.isReal = true ∧ (Clock.mk hour.value minute.value second.value).isReal = true ∧
        ∃ z ∈ zone, z ≠ .utc ∧ z.Exists ∧
          keepsInRange date.toDay ⟨hour.value, minute.value, second.value⟩ z.seconds = true := by
  rw [offsetForm, hasForm_looseDay, hasForm_bind run_char_self, WrittenTime.chars,
    hasForm_realClock (run_looseSeconds hour minute second), hasForm_bind (run_fraction fraction zone),
    Bool.and_eq_true, Bool.and_eq_true]
  refine and_congr_right fun _ => and_congr_right fun _ => ?_
  cases zone with
  | none => simp [hasForm, blanks, offsetSeconds, sign, Text.skipBlanks]
  | some z =>
    cases z with
    | utc =>
      -- a letter is no sign
      have refused : hasForm (do
          blanks
          let offset ← offsetSeconds looseColons
          finish
          unless keepsInRange date.toDay ⟨hour.value, minute.value, second.value⟩ offset do
            failure) WrittenZone.utc.chars = false := rfl
      simpa using refused
    | offset ahead extended hours minutes =>
      have read := run_offsetSeconds ahead extended hours minutes (run_looseColons extended minutes)
      rw [Option.elim_some, hasForm_bind (run_blanks_sign ahead extended hours minutes)]
      by_cases real : (WrittenZone.offset ahead extended hours minutes).Exists
      · rw [if_pos real] at read
        rw [hasForm_bind read, hasForm_bind run_finish_nil, hasForm_unless]
        simp [real]
      · rw [if_neg real] at read
        rw [hasForm_bind_none read]
        simp [real]

theorem hasForm_fullDay {form : Nat → Nat → Nat → Reading Unit} :
    hasForm (do
        let year ← number 4 (some 4)
        char '-'
        let month ← number 2 (some 2)
        char '-'
        let day ← number 2 (some 2)
        form year month day) (date.dayChars ++ rest) =
      hasForm (form date.year.value date.month.value date.day.value) rest := by
  rw [WrittenDate.dayChars, List.append_assoc, List.cons_append, List.append_assoc, List.cons_append,
    hasForm_bind (run_number_digits date.year (Nat.le_refl 4)), hasForm_bind run_char_self,
    hasForm_bind (run_number_digits date.month (Nat.le_refl 2)), hasForm_bind run_char_self,
    hasForm_bind (run_number_digits date.day (Nat.le_refl 2))]

theorem hasForm_internetForm_day : hasForm internetForm date.dayChars = false := by
  have read : hasForm internetForm (date.dayChars ++ []) = _ := hasForm_fullDay date
  rwa [List.append_nil, hasForm_bind_none run_one_nil] at read

theorem hasForm_internetForm_minutes :
    hasForm internetForm (date.dayChars ++ 'T' :: (WrittenTime.minutes hour minute).chars) = false := by
  rw [internetForm, hasForm_fullDay, hasForm_bind (run_one_of_pos rfl), WrittenTime.chars,
    hasForm_bind (run_number_digits hour (Nat.le_refl 2)), hasForm_bind run_char_self,
    hasForm_bind (run_number_last minute (Nat.le_refl 2)), hasForm_bind_none run_char_nil]

/-- The internet profile wants a zone, in the extended form if it is an offset. -/
theorem hasForm_internetForm_seconds :
    hasForm internetForm (date.dayChars ++
        'T' :: (WrittenTime.seconds hour minute second fraction zone).chars) = true ↔
      date.toDay.isReal = true ∧ (Clock.mk hour.value minute.value second.value).isReal = true ∧
        ∃ z ∈ zone, z.isExtended = true ∧ z.Exists ∧
          keepsInRange date.toDay ⟨hour.value, minute.value, second.value⟩ z.seconds = true := by
  rw [internetForm, hasForm_fullDay, hasForm_bind (run_one_of_pos rfl), WrittenTime.chars,
    hasForm_bind (run_number_digits hour (Nat.le_refl 2)), hasForm_bind run_char_self,
    hasForm_bind (run_number_digits minute (Nat.le_refl 2)), hasForm_bind run_char_self,
    hasForm_bind (run_number_digits second (Nat.le_refl 2)), hasForm_bind (run_fraction fraction zone)]
  cases zone with
  | none =>
    have read : internetOffset.run [] = none := rfl
    rw [Option.elim_none, hasForm_bind_none read]
    simp
  | some z =>
    have read := run_internetOffset z
    rw [Option.elim_some]
    by_cases accepted : z.isExtended = true ∧ z.Exists
    · rw [if_pos accepted] at read
      rw [hasForm_bind read, hasForm_bind run_finish_nil, hasForm_unless]
      simp [accepted, WrittenDate.toDay, and_assoc]
    · rw [if_neg accepted] at read
      rw [hasForm_bind_none read]
      simp only [Bool.false_eq_true, Option.mem_some_iff, false_iff]
      rintro ⟨-, -, _, rfl, extended, real, -⟩
      exact accepted ⟨extended, real⟩

end Forms

/-! ## Dates -/

theorem WrittenDate.isReal_toDay_iff (date : WrittenDate) : date.toDay.isReal = true ↔
    DayExists date.year.value date.month.value date.day.value :=
  isReal_iff_dayExists date.year_lt

theorem isReal_clock_iff {hour minute second : Nat} :
    (Clock.mk hour minute second).isReal = true ↔ hour ≤ 23 ∧ minute ≤ 59 ∧ second ≤ 60 := by
  simp [Clock.isReal, and_assoc]

theorem isDate_day (date : WrittenDate) :
    isDate (String.ofList date.dayChars) = true ↔ date.toDay.isReal = true := by
  have ends : ∀ {form : Day → Reading Unit}, hasForm (looseDay >>= form) date.dayChars =
      (date.toDay.isReal && hasForm (form date.toDay) []) := by
    intro form
    have read : hasForm (looseDay >>= form) (date.dayChars ++ []) = _ := hasForm_looseDay date
    rwa [List.append_nil] at read
  -- the other forms want a time
  simp only [isDate, String.toList_ofList, hasForm_internetForm_day, dayForm, offsetForm, secondForm,
    minuteForm, ends, hasForm_finish, hasForm_bind_none run_char_nil, List.isEmpty_nil, Bool.and_true,
    Bool.and_false, Bool.or_false]

theorem isDate_minutes (date : WrittenDate) (hour minute : Digits 2) :
    isDate (String.ofList (date.dayChars ++ 'T' :: (WrittenTime.minutes hour minute).chars)) = true ↔
      date.toDay.isReal = true ∧ (WrittenTime.minutes hour minute).Exists := by
  rw [isDate, String.toList_ofList, hasForm_dayForm, hasForm_internetForm_minutes,
    hasForm_offsetForm_minutes, hasForm_secondForm_minutes, hasForm_minuteForm_minutes]
  simp [isReal_clock_iff, WrittenTime.Exists]

theorem isDate_seconds (date : WrittenDate) (hour minute second : Digits 2)
    (fraction : Option WrittenFraction) (zone : Option WrittenZone) :
    isDate (String.ofList (date.dayChars ++
        'T' :: (WrittenTime.seconds hour minute second fraction zone).chars)) = true ↔
      date.toDay.isReal = true ∧ (WrittenTime.seconds hour minute second fraction zone).Exists := by
  have exists_iff : (WrittenTime.seconds hour minute second fraction zone).Exists ↔
      (Clock.mk hour.value minute.value second.value).isReal = true ∧ ∀ z ∈ zone, z.Exists := by
    rw [isReal_clock_iff, WrittenTime.Exists, and_assoc, and_assoc]
  have inRange : date.toDay.isReal = true →
      (Clock.mk hour.value minute.value second.value).isReal = true → ∀ z : WrittenZone, z.Exists →
        keepsInRange date.toDay ⟨hour.value, minute.value, second.value⟩ z.seconds = true :=
    fun day clock z real => keepsInRange_of_exists date.year_lt (date.isReal_toDay_iff.mp day) clock
      (z.seconds_mem real).2 (z.seconds_mem real).1
  rw [exists_iff, isDate, String.toList_ofList, hasForm_dayForm, hasForm_minuteForm_seconds,
    hasForm_secondForm_seconds]
  simp only [Bool.or_eq_true, Bool.and_eq_true, hasForm_internetForm_seconds, hasForm_offsetForm_seconds,
    List.isEmpty_cons, Bool.false_eq_true, and_false, false_or, or_false, Option.isNone_iff_eq_none]
  constructor
  · rintro ((⟨day, clock, z, same, -, real, -⟩ | ⟨day, clock, z, same, -, real, -⟩) |
      ⟨day, clock, none⟩)
    · exact ⟨day, clock, fun other given => Option.mem_unique same given ▸ real⟩
    · exact ⟨day, clock, fun other given => Option.mem_unique same given ▸ real⟩
    · exact ⟨day, clock, fun z given => absurd given (by simp [none])⟩
  · rintro ⟨day, clock, real⟩
    cases zone with
    | none => exact .inr ⟨day, clock, rfl⟩
    | some z =>
      have range := inRange day clock z (real z rfl)
      -- a letter has the form of the internet profile, and every offset the form of offsets
      by_cases utc : z = .utc
      · subst utc
        exact .inl (.inl ⟨day, clock, .utc, rfl, rfl, real _ rfl, range⟩)
      · exact .inl (.inr ⟨day, clock, z, rfl, utc, real z rfl, range⟩)

/-- A date of fixed width is accepted exactly if it exists: its day in the Gregorian calendar, its time in a
day, where a minute has room for a leap second, and its offset within a day. -/
theorem isDate_text_iff (date : WrittenDate) : isDate date.text = true ↔ date.Exists := by
  rw [WrittenDate.text, WrittenDate.Exists, ← date.isReal_toDay_iff]
  cases date.time with
  | none =>
    rw [Option.elim_none, List.append_nil, isDate_day]
    simp
  | some time =>
    cases time with
    | minutes hour minute =>
      rw [Option.elim_some, isDate_minutes]
      simp
    | seconds hour minute second fraction zone =>
      rw [Option.elim_some, isDate_seconds]
      simp

end TaskFilter.Date
