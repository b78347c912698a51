import TaskFilter.Proofs.Date.FixedWidth

/-!
# The spellings of dates

All texts that are accepted as dates, written out as a grammar. Four of the five forms are loose: white space
may stand before a number, a number may have fewer digits than its place, a year may have a sign, and the
hours and the minutes of an offset may be kept apart by colons and white space. The fifth is the internet
profile, in which every number has all its digits.

## Layers

- **Grammar**: `LooseDate` and `InternetDate`, with the text of each, and which of them exist.
- **Reading on**: what each reader reads of a spelled part (`run_looseNumber_chars` and its like).
- **Reading back**: of what spelled part a reader has read (`exists_of_run_looseNumber` and its like).
- **Main statement**: `isDate_iff_exists_spelling`, that a text is accepted exactly if it is the spelling of a
  date that exists.
-/

namespace TaskFilter.Date

open TaskFilter.Text (Reading)
open TaskFilter.Text.Reading

/-! ## Grammar -/

/-- A row of white space. -/
structure Blanks where
  chars : List Char
  isBlank_chars : ∀ c ∈ chars, Text.isBlank c = true

/-- A number of one or two digits, behind white space. -/
structure LooseNumber where
  blanks : Blanks
  more : Nat
  digits : Digits (more + 1)
  more_le : more ≤ 1

inductive YearSign where
  | plus | minus
  deriving DecidableEq, Repr

/-- A year behind white space: up to four digits, or any number of them behind a sign. -/
structure LooseYear where
  blanks : Blanks
  sign : Option YearSign
  more : Nat
  digits : Digits (more + 1)
  more_le : sign = none → more ≤ 3

structure LooseDay where
  year : LooseYear
  month : LooseNumber
  day : LooseNumber

/-- The sign of an offset. The minus is written as a hyphen or as the mathematical sign. -/
inductive OffsetSign where
  | plus | hyphen | minus
  deriving DecidableEq, Repr

/-- An offset behind white space, with colons and white space between its hours and its minutes. -/
structure LooseOffset where
  blanks : Blanks
  sign : OffsetSign
  hours : Digits 2
  colons : List Char
  minutes : Digits 2
  isColon_colons : ∀ c ∈ colons, c = ':' ∨ Text.isBlank c = true

inductive LooseTime where
  | minutes (hour minute : LooseNumber)
  | seconds (hour minute second : LooseNumber) (fraction : Option WrittenFraction)
      (offset : Option LooseOffset)

/-- A date in one of the loose forms. -/
structure LooseDate where
  day : LooseDay
  time : Option LooseTime

inductive InternetZone where
  /-- Universal time, as a capital or as a small letter. -/
  | utc (capital : Bool)
  | offset (sign : OffsetSign) (hours minutes : Digits 2)

/-- What may stand between the day and the time in the internet profile. -/
def separators : List Char :=
  ['T', 't', ' ']

/-- A moment of the internet profile. -/
structure InternetDate where
  year : Digits 4
  month : Digits 2
  day : Digits 2
  separator : Char
  isSeparator : separator ∈ separators
  hour : Digits 2
  minute : Digits 2
  second : Digits 2
  fraction : Option WrittenFraction
  zone : InternetZone

inductive Spelling where
  | loose (date : LooseDate)
  | internet (date : InternetDate)

/-! ## Texts -/

def LooseNumber.chars (n : LooseNumber) : List Char :=
  n.blanks.chars ++ n.digits.chars

def YearSign.char : YearSign → Char
  | .plus => '+'
  | .minus => '-'

def LooseYear.chars (year : LooseYear) : List Char :=
  year.blanks.chars ++ ((year.sign.map YearSign.char).toList ++ year.digits.chars)

def LooseDay.chars (day : LooseDay) : List Char :=
  day.year.chars ++ '-' :: (day.month.chars ++ '-' :: day.day.chars)

def OffsetSign.char : OffsetSign → Char
  | .plus => '+'
  | .hyphen => '-'
  | .minus => '−'

def LooseOffset.chars (offset : LooseOffset) : List Char :=
  offset.blanks.chars ++
    offset.sign.char :: (offset.hours.chars ++ (offset.colons ++ offset.minutes.chars))

def LooseTime.chars : LooseTime → List Char
  | .minutes hour minute => hour.chars ++ ':' :: minute.chars
  | .seconds hour minute second fraction offset =>
    hour.chars ++ ':' :: (minute.chars ++ ':' :: (second.chars ++
      (fraction.elim [] WrittenFraction.chars ++ offset.elim [] LooseOffset.chars)))

def LooseDate.chars (date : LooseDate) : List Char :=
  date.day.chars ++ date.time.elim [] fun time => 'T' :: time.chars

def InternetZone.chars : InternetZone → List Char
  | .utc capital => [if capital then 'Z' else 'z']
  | .offset sign hours minutes => sign.char :: (hours.chars ++ ':' :: minutes.chars)

/-- The day, as a date without a time. -/
def InternetDate.date (date : InternetDate) : WrittenDate :=
  ⟨date.year, date.month, date.day, none⟩

/-- All but the zone. -/
def InternetDate.localChars (date : InternetDate) : List Char :=
  date.date.dayChars ++ date.separator :: (date.hour.chars ++ ':' :: (date.minute.chars ++
    ':' :: (date.second.chars ++ date.fraction.elim [] WrittenFraction.chars)))

def InternetDate.chars (date : InternetDate) : List Char :=
  date.localChars ++ date.zone.chars

def Spelling.chars : Spelling → List Char
  | .loose date => date.chars
  | .internet date => date.chars

/-! ## Dates that exist -/

def LooseNumber.value (n : LooseNumber) : Nat :=
  n.digits.value

def LooseYear.value (year : LooseYear) : Int :=
  match year.sign with
  | some .minus => -(year.digits.value : Int)
  | _ => year.digits.value

def LooseDay.toDay (day : LooseDay) : Day :=
  ⟨day.year.value, day.month.value, day.day.value⟩

def OffsetSign.direction : OffsetSign → Int
  | .plus => 1
  | .hyphen | .minus => -1

/-- The seconds by which an offset is ahead of universal time. -/
def secondsAhead (sign : OffsetSign) (hours minutes : Digits 2) : Int :=
  sign.direction * (hours.value * 3600 + minutes.value * 60)

/-- An offset is less than a day, and its minutes less than an hour. -/
def OffsetExists (hours minutes : Digits 2) : Prop :=
  hours.value ≤ 23 ∧ minutes.value ≤ 59

def LooseTime.clock : LooseTime → Clock
  | .minutes hour minute => ⟨hour.value, minute.value, 0⟩
  | .seconds hour minute second _ _ => ⟨hour.value, minute.value, second.value⟩

def LooseTime.offset? : LooseTime → Option LooseOffset
  | .minutes _ _ => none
  | .seconds _ _ _ _ offset => offset

/-- The day and the time exist, and so does the moment in universal time if there is an offset. -/
def LooseDate.Exists (date : LooseDate) : Prop :=
  date.day.toDay.isReal = true ∧ ∀ time ∈ date.time, time.clock.isReal = true ∧
    ∀ offset ∈ time.offset?, OffsetExists offset.hours offset.minutes ∧
      keepsInRange date.day.toDay time.clock (secondsAhead offset.sign offset.hours offset.minutes) = true

def InternetZone.Exists : InternetZone → Prop
  | .utc _ => True
  | .offset _ hours minutes => OffsetExists hours minutes

def InternetZone.seconds : InternetZone → Int
  | .utc _ => 0
  | .offset sign hours minutes => secondsAhead sign hours minutes

def InternetDate.clock (date : InternetDate) : Clock :=
  ⟨date.hour.value, date.minute.value, date.second.value⟩

def InternetDate.Exists (date : InternetDate) : Prop :=
  date.date.toDay.isReal = true ∧ date.clock.isReal = true ∧ date.zone.Exists ∧
    keepsInRange date.date.toDay date.clock date.zone.seconds = true

def Spelling.Exists : Spelling → Prop
  | .loose date => date.Exists
  | .internet date => date.Exists

/-! ## Reading on -/

variable {cs rest : List Char}

theorem Blanks.skipBlanks_append (bs : Blanks) : Text.skipBlanks (bs.chars ++ cs) = Text.skipBlanks cs := by
  rw [Text.skipBlanks, List.dropWhile_append_of_pos bs.isBlank_chars, Text.skipBlanks]

/-- White space is skipped up to a character that is none. -/
theorem run_blanks_append (bs : Blanks) (ends : Text.skipBlanks cs = cs) :
    blanks.run (bs.chars ++ cs) = some ((), cs) := by
  simp [blanks, bs.skipBlanks_append, ends]

theorem skipBlanks_digits {width : Nat} (ds : Digits (width + 1)) :
    Text.skipBlanks (ds.chars ++ rest) = ds.chars ++ rest := by
  obtain ⟨c, cs, written, digit⟩ := ds.exists_cons
  simp [Text.skipBlanks, written, isBlank_of_isDigit digit]

theorem run_looseNumber_chars (n : LooseNumber) (ends : rest.takeWhile Decimal.isDigit = []) :
    looseNumber.run (n.chars ++ rest) = some (n.value, rest) := by
  have few := n.more_le
  have read : (number 1 (some 2)).run (n.digits.chars ++ rest) = some (n.value, rest) :=
    run_number_up_to n.digits.isDigit_chars (by rw [n.digits.length_chars]; omega)
      (by rw [n.digits.length_chars]; omega) ends
  rw [LooseNumber.chars, List.append_assoc]
  simp [looseNumber, run_blanks_append n.blanks (skipBlanks_digits n.digits), read]

theorem run_looseYear_chars (year : LooseYear) (ends : rest.takeWhile Decimal.isDigit = []) :
    looseYear.run (year.chars ++ rest) = some (year.value, rest) := by
  obtain ⟨blanks, sign, more, digits, more_le⟩ := year
  have all : (number 1 none).run (digits.chars ++ rest) = some (digits.value, rest) :=
    run_number_to_end digits.isDigit_chars (by rw [digits.length_chars]; omega) ends
  cases sign with
  | some sign =>
    have skipped : Text.skipBlanks (sign.char :: (digits.chars ++ rest)) =
        sign.char :: (digits.chars ++ rest) := by
      cases sign <;> rfl
    simp only [LooseYear.chars, List.append_assoc, Option.map_some, Option.toList_some,
      List.cons_append, List.nil_append, looseYear, StateT.run_bind, run_blanks_append blanks skipped,
      StateT.run_get, Option.bind_eq_bind, Option.bind_some, Option.pure_def]
    -- behind a sign any number of digits is read
    cases sign <;> simp [YearSign.char, all, LooseYear.value]
  | none =>
    have few := more_le rfl
    have some_ : (number 1 (some 4)).run (digits.chars ++ rest) = some (digits.value, rest) :=
      run_number_up_to digits.isDigit_chars (by rw [digits.length_chars]; omega)
        (by rw [digits.length_chars]; omega) ends
    obtain ⟨c, cs, written, digit⟩ := digits.exists_cons
    -- a digit is no sign
    have minus : c ≠ '-' := by rintro rfl; cases digit
    have plus : c ≠ '+' := by rintro rfl; cases digit
    simp only [LooseYear.chars, List.append_assoc, Option.map_none, Option.toList_none, List.nil_append,
      looseYear, StateT.run_bind, run_blanks_append blanks (skipBlanks_digits digits), StateT.run_get,
      Option.bind_eq_bind, Option.bind_some, Option.pure_def]
    rw [written, List.cons_append] at some_ ⊢
    split
    next same => exact absurd (List.cons.inj same).1 minus
    next same => exact absurd (List.cons.inj same).1 plus
    next => simp [some_, LooseYear.value]

theorem run_looseDay_chars (day : LooseDay) (ends : rest.takeWhile Decimal.isDigit = []) :
    looseDay.run (day.chars ++ rest) = if day.toDay.isReal then some (day.toDay, rest) else none := by
  have year : ∀ {cs}, looseYear.run (day.year.chars ++ '-' :: cs) = some (day.year.value, '-' :: cs) :=
    run_looseYear_chars day.year rfl
  have month : ∀ {cs}, looseNumber.run (day.month.chars ++ '-' :: cs) = some (day.month.value, '-' :: cs) :=
    run_looseNumber_chars day.month rfl
  cases real : day.toDay.isReal <;>
    simp_all [looseDay, LooseDay.chars, LooseDay.toDay, run_looseNumber_chars day.day ends]

theorem run_looseMinutes_chars (hour minute : LooseNumber) (ends : rest.takeWhile Decimal.isDigit = []) :
    looseMinutes.run (hour.chars ++ ':' :: (minute.chars ++ rest)) =
      some (⟨hour.value, minute.value, 0⟩, rest) := by
  have read : ∀ {cs}, looseNumber.run (hour.chars ++ ':' :: cs) = some (hour.value, ':' :: cs) :=
    run_looseNumber_chars hour rfl
  simp [looseMinutes, read, run_looseNumber_chars minute ends]

theorem run_looseSeconds_chars (hour minute second : LooseNumber)
    (ends : rest.takeWhile Decimal.isDigit = []) :
    looseSeconds.run (hour.chars ++ ':' :: (minute.chars ++ ':' :: (second.chars ++ rest))) =
      some (⟨hour.value, minute.value, second.value⟩, rest) := by
  have read : ∀ {cs}, looseMinutes.run (hour.chars ++ ':' :: (minute.chars ++ ':' :: cs)) =
      some (⟨hour.value, minute.value, 0⟩, ':' :: cs) :=
    run_looseMinutes_chars hour minute rfl
  simp [looseSeconds, read, run_looseNumber_chars second ends]

/-- A fraction is read up to what is neither a digit nor, if there is none, the point of another. -/
theorem run_fraction_append (f : Option WrittenFraction) (ends : rest.takeWhile Decimal.isDigit = [])
    (noPoint : rest.head? ≠ some '.') :
    fraction.run (f.elim [] WrittenFraction.chars ++ rest) = some ((), rest) := by
  cases f with
  | some f =>
    have enough : 1 ≤ f.digits.chars.length := by
      rw [f.digits.length_chars]
      omega
    simp [fraction, WrittenFraction.chars, run_number_to_end f.digits.isDigit_chars enough ends]
  | none =>
    rw [Option.elim_none, List.nil_append, fraction]
    simp only [StateT.run_bind, StateT.run_get, Option.bind_eq_bind, Option.bind_some, Option.pure_def]
    split
    · exact absurd rfl noPoint
    · rfl

theorem OffsetSign.run_sign (s : OffsetSign) : sign.run (s.char :: rest) = some (s.direction, rest) := by
  cases s <;> rfl

instance (hours minutes : Digits 2) : Decidable (OffsetExists hours minutes) :=
  inferInstanceAs (Decidable (hours.value ≤ 23 ∧ minutes.value ≤ 59))

/-- The hours and the minutes of an offset that exists are less than a day, and no others are. -/
theorem offsetExists_iff (hours minutes : Digits 2) :
    OffsetExists hours minutes ↔
      minutes.value ≤ 59 ∧ (hours.value : Int) * 3600 + minutes.value * 60 < 86400 := by
  rw [OffsetExists]
  omega

/-- An offset is read if it exists, whatever is accepted between the hours and the minutes. -/
theorem run_offsetSeconds_chars {separator : Reading Unit} {between : List Char} (s : OffsetSign)
    {hours minutes : Digits 2} (real : OffsetExists hours minutes)
    (read : separator.run (between ++ minutes.chars) = some ((), minutes.chars)) :
    (offsetSeconds separator).run (s.char :: (hours.chars ++ (between ++ minutes.chars))) =
      some (secondsAhead s hours minutes, []) := by
  have bound := (offsetExists_iff hours minutes).mp real
  simp [offsetSeconds, s.run_sign, run_number_digits, run_number_last, read, bound, secondsAhead]

theorem run_looseColons_append {colons : List Char} {width : Nat} (ds : Digits (width + 1))
    (between : ∀ c ∈ colons, c = ':' ∨ Text.isBlank c = true) :
    looseColons.run (colons ++ ds.chars) = some ((), ds.chars) := by
  obtain ⟨c, cs, written, digit⟩ := ds.exists_cons
  have colon : c ≠ ':' := by rintro rfl; cases digit
  have skipped : (colons ++ ds.chars).dropWhile (fun c => c = ':' || Text.isBlank c) = ds.chars := by
    rw [List.dropWhile_append_of_pos fun c listed => by simpa using between c listed]
    simp [written, colon, isBlank_of_isDigit digit]
  simp [looseColons, skipped]

theorem run_internetOffset_chars {zone : InternetZone} (real : zone.Exists) :
    internetOffset.run zone.chars = some (zone.seconds, []) := by
  cases zone with
  | utc capital => cases capital <;> rfl
  | offset s hours minutes =>
    -- a sign is no letter
    have figures : internetOffset.run (InternetZone.offset s hours minutes).chars =
        (offsetSeconds (char ':')).run (s.char :: (hours.chars ++ ([':'] ++ minutes.chars))) := by
      cases s <;> rfl
    rw [figures]
    exact run_offsetSeconds_chars s real run_char_self

/-- What follows a second and its fraction: no digit, and no point. -/
theorem LooseOffset.takeWhile_chars (offset : LooseOffset) :
    offset.chars.takeWhile Decimal.isDigit = [] ∧ offset.chars.head? ≠ some '.' := by
  obtain ⟨⟨blanks, isBlank⟩, s, hours, colons, minutes, -⟩ := offset
  cases blanks with
  | nil => cases s <;> exact ⟨rfl, by simp [LooseOffset.chars, OffsetSign.char]⟩
  | cons c blanks =>
    have blank : Text.isBlank c = true := isBlank c List.mem_cons_self
    have point : c ≠ '.' := by rintro rfl; cases blank
    simp [LooseOffset.chars, isDigit_of_isBlank blank, point]

/-! ## Reading back -/

theorem exists_of_run_blanks (read : blanks.run cs = some ((), rest)) :
    ∃ bs : Blanks, cs = bs.chars ++ rest := by
  obtain rfl : Text.skipBlanks cs = rest := by simpa [blanks] using read
  refine ⟨⟨cs.takeWhile Text.isBlank, fun c listed => List.mem_takeWhile_imp listed⟩, ?_⟩
  exact List.takeWhile_append_dropWhile.symm

/-- A number of fixed width. -/
theorem exists_of_run_number_fixed {width n : Nat}
    (read : (number width (some width)).run cs = some (n, rest)) :
    ∃ ds : Digits width, cs = ds.chars ++ rest ∧ ds.value = n := by
  obtain ⟨ds, split, digits, enough, few, value⟩ := exists_of_run_number read
  exact ⟨⟨ds, by have := few width rfl; omega, digits⟩, split, value⟩

/-- A number with at least one digit. -/
theorem exists_of_run_number_loose {n : Nat} {most : Option Nat}
    (read : (number 1 most).run cs = some (n, rest)) :
    ∃ more, ∃ ds : Digits (more + 1), cs = ds.chars ++ rest ∧ (∀ m ∈ most, more + 1 ≤ m) ∧
      ds.value = n := by
  obtain ⟨ds, split, digits, enough, few, value⟩ := exists_of_run_number read
  have width : ds.length = ds.length - 1 + 1 := by omega
  refine ⟨ds.length - 1, ⟨ds, width, digits⟩, split, fun m most => ?_, value⟩
  rw [← width]
  exact few m most

theorem exists_of_run_looseNumber {value : Nat} (h : looseNumber.run cs = some (value, rest)) :
    ∃ n : LooseNumber, cs = n.chars ++ rest ∧ n.value = value := by
  obtain ⟨⟨⟩, mid, skipped, read⟩ := run_bind_eq_some_iff.mp h
  obtain ⟨bs, rfl⟩ := exists_of_run_blanks skipped
  obtain ⟨more, ds, rfl, few, rfl⟩ := exists_of_run_number_loose read
  have few := few 2 rfl
  exact ⟨⟨bs, more, ds, by omega⟩, (List.append_assoc ..).symm, rfl⟩

theorem exists_of_run_looseYear {value : Int} (h : looseYear.run cs = some (value, rest)) :
    ∃ year : LooseYear, cs = year.chars ++ rest ∧ year.value = value := by
  obtain ⟨⟨⟩, mid, skipped, read⟩ := run_bind_eq_some_iff.mp h
  obtain ⟨bs, rfl⟩ := exists_of_run_blanks skipped
  obtain ⟨_, _, ⟨⟩, read⟩ := run_bind_eq_some_iff.mp read
  split at read
  · next cs =>
    obtain ⟨⟨⟩, _, ⟨⟩, read⟩ := run_bind_eq_some_iff.mp read
    obtain ⟨n, tail, read, ⟨⟩⟩ := run_bind_eq_some_iff.mp read
    obtain ⟨more, ds, rfl, -, rfl⟩ := exists_of_run_number_loose read
    exact ⟨⟨bs, some .minus, more, ds, nofun⟩, by simp [LooseYear.chars, YearSign.char], rfl⟩
  · next cs =>
    obtain ⟨⟨⟩, _, ⟨⟩, read⟩ := run_bind_eq_some_iff.mp read
    obtain ⟨n, tail, read, ⟨⟩⟩ := run_bind_eq_some_iff.mp read
    obtain ⟨more, ds, rfl, -, rfl⟩ := exists_of_run_number_loose read
    exact ⟨⟨bs, some .plus, more, ds, nofun⟩, by simp [LooseYear.chars, YearSign.char], rfl⟩
  · obtain ⟨n, tail, read, ⟨⟩⟩ := run_bind_eq_some_iff.mp read
    obtain ⟨more, ds, rfl, few, rfl⟩ := exists_of_run_number_loose read
    have few := few 4 rfl
    exact ⟨⟨bs, none, more, ds, fun _ => by omega⟩, by simp [LooseYear.chars], rfl⟩

theorem exists_of_run_looseDay {d : Day} (h : looseDay.run cs = some (d, rest)) :
    ∃ day : LooseDay, cs = day.chars ++ rest ∧ day.toDay = d ∧ d.isReal = true := by
  obtain ⟨y, _, readYear, read⟩ := run_bind_eq_some_iff.mp h
  obtain ⟨⟨⟩, _, hyphen, read⟩ := run_bind_eq_some_iff.mp read
  obtain ⟨m, _, readMonth, read⟩ := run_bind_eq_some_iff.mp read
  obtain ⟨⟨⟩, _, hyphen', read⟩ := run_bind_eq_some_iff.mp read
  obtain ⟨n, _, readDay, read⟩ := run_bind_eq_some_iff.mp read
  obtain ⟨year, rfl, rfl⟩ := exists_of_run_looseYear readYear
  obtain rfl := run_char_eq_some_iff.mp hyphen
  obtain ⟨month, rfl, rfl⟩ := exists_of_run_looseNumber readMonth
  obtain rfl := run_char_eq_some_iff.mp hyphen'
  obtain ⟨day, rfl, rfl⟩ := exists_of_run_looseNumber readDay
  dsimp only at read
  split at read
  · next real =>
    cases read
    exact ⟨⟨year, month, day⟩, by simp [LooseDay.chars], rfl, real⟩
  · cases read

theorem exists_of_run_looseMinutes {t : Clock} (h : looseMinutes.run cs = some (t, rest)) :
    ∃ hour minute : LooseNumber, cs = hour.chars ++ ':' :: (minute.chars ++ rest) ∧
      t = ⟨hour.value, minute.value, 0⟩ := by
  obtain ⟨h, _, readHour, read⟩ := run_bind_eq_some_iff.mp h
  obtain ⟨⟨⟩, _, colon, read⟩ := run_bind_eq_some_iff.mp read
  obtain ⟨m, _, readMinute, ⟨⟩⟩ := run_bind_eq_some_iff.mp read
  obtain ⟨hour, rfl, rfl⟩ := exists_of_run_looseNumber readHour
  obtain rfl := run_char_eq_some_iff.mp colon
  obtain ⟨minute, rfl, rfl⟩ := exists_of_run_looseNumber readMinute
  exact ⟨hour, minute, rfl, rfl⟩

theorem exists_of_run_looseSeconds {t : Clock} (h : looseSeconds.run cs = some (t, rest)) :
    ∃ hour minute second : LooseNumber,
      cs = hour.chars ++ ':' :: (minute.chars ++ ':' :: (second.chars ++ rest)) ∧
        t = ⟨hour.value, minute.value, second.value⟩ := by
  obtain ⟨_, _, readMinutes, read⟩ := run_bind_eq_some_iff.mp h
  obtain ⟨⟨⟩, _, colon, read⟩ := run_bind_eq_some_iff.mp read
  obtain ⟨s, _, readSecond, ⟨⟩⟩ := run_bind_eq_some_iff.mp read
  obtain ⟨hour, minute, rfl, rfl⟩ := exists_of_run_looseMinutes readMinutes
  obtain rfl := run_char_eq_some_iff.mp colon
  obtain ⟨second, rfl, rfl⟩ := exists_of_run_looseNumber readSecond
  exact ⟨hour, minute, second, rfl, rfl⟩

theorem exists_of_run_fraction (h : fraction.run cs = some ((), rest)) :
    ∃ f : Option WrittenFraction, cs = f.elim [] WrittenFraction.chars ++ rest := by
  obtain ⟨_, _, ⟨⟩, read⟩ := run_bind_eq_some_iff.mp h
  split at read
  · obtain ⟨⟨⟩, _, ⟨⟩, read⟩ := run_bind_eq_some_iff.mp read
    obtain ⟨n, _, read, ⟨⟩⟩ := run_bind_eq_some_iff.mp read
    obtain ⟨more, ds, rfl, -, -⟩ := exists_of_run_number_loose read
    exact ⟨some ⟨more, ds⟩, rfl⟩
  · cases read
    exact ⟨none, rfl⟩

theorem exists_of_run_sign {direction : Int} (h : sign.run cs = some (direction, rest)) :
    ∃ s : OffsetSign, cs = s.char :: rest ∧ s.direction = direction := by
  obtain ⟨c, _, readSign, ⟨⟩⟩ := run_bind_eq_some_iff.mp h
  obtain ⟨rfl, listed⟩ := run_one_eq_some_iff.mp readSign
  rw [List.contains_iff_mem] at listed
  simp only [List.mem_cons, List.not_mem_nil, or_false] at listed
  rcases listed with rfl | rfl | rfl
  · exact ⟨.plus, rfl, rfl⟩
  · exact ⟨.hyphen, rfl, rfl⟩
  · exact ⟨.minus, rfl, rfl⟩

theorem exists_of_run_offsetSeconds {separator : Reading Unit} {n : Int}
    (h : (offsetSeconds separator).run cs = some (n, rest)) :
    ∃ (s : OffsetSign) (hours minutes : Digits 2) (mid : List Char), cs = s.char :: (hours.chars ++ mid) ∧
      separator.run mid = some ((), minutes.chars ++ rest) ∧ OffsetExists hours minutes ∧
        secondsAhead s hours minutes = n := by
  obtain ⟨_, _, readSign, read⟩ := run_bind_eq_some_iff.mp h
  obtain ⟨_, _, readHours, read⟩ := run_bind_eq_some_iff.mp read
  obtain ⟨⟨⟩, _, apart, read⟩ := run_bind_eq_some_iff.mp read
  obtain ⟨_, _, readMinutes, read⟩ := run_bind_eq_some_iff.mp read
  obtain ⟨s, rfl, rfl⟩ := exists_of_run_sign readSign
  obtain ⟨hours, rfl, rfl⟩ := exists_of_run_number_fixed readHours
  obtain ⟨minutes, rfl, rfl⟩ := exists_of_run_number_fixed readMinutes
  dsimp only at read
  split at read
  · next bound =>
    cases read
    refine ⟨s, hours, minutes, _, rfl, apart, (offsetExists_iff ..).mpr ?_, rfl⟩
    simpa using bound
  · cases read

theorem exists_of_run_looseColons (read : looseColons.run cs = some ((), rest)) :
    ∃ colons : List Char, cs = colons ++ rest ∧ ∀ c ∈ colons, c = ':' ∨ Text.isBlank c = true := by
  obtain rfl : cs.dropWhile (fun c => c = ':' || Text.isBlank c) = rest := by
    simpa [looseColons] using read
  refine ⟨cs.takeWhile fun c => c = ':' || Text.isBlank c, List.takeWhile_append_dropWhile.symm,
    fun c listed => ?_⟩
  simpa using List.mem_takeWhile_imp listed

theorem exists_of_run_internetOffset {n : Int} (h : internetOffset.run cs = some (n, rest)) :
    ∃ zone : InternetZone, cs = zone.chars ++ rest ∧ zone.Exists ∧ zone.seconds = n := by
  obtain ⟨_, _, ⟨⟩, read⟩ := run_bind_eq_some_iff.mp h
  split at read
  · obtain ⟨⟨⟩, _, ⟨⟩, ⟨⟩⟩ := run_bind_eq_some_iff.mp read
    exact ⟨.utc true, rfl, trivial, rfl⟩
  · obtain ⟨⟨⟩, _, ⟨⟩, ⟨⟩⟩ := run_bind_eq_some_iff.mp read
    exact ⟨.utc false, rfl, trivial, rfl⟩
  · obtain ⟨s, hours, minutes, mid, rfl, colon, real, rfl⟩ := exists_of_run_offsetSeconds read
    obtain rfl := run_char_eq_some_iff.mp colon
    exact ⟨.offset s hours minutes, by simp [InternetZone.chars], real, rfl⟩

/-! ## Forms -/

theorem hasForm_bind_iff {α : Type} {part : Reading α} {form : α → Reading Unit} :
    hasForm (part >>= form) cs = true ↔
      ∃ a rest, part.run cs = some (a, rest) ∧ hasForm (form a) rest = true := by
  constructor
  · intro h
    cases read : part.run cs with
    | none =>
      rw [hasForm_bind_none read] at h
      cases h
    | some result =>
      obtain ⟨a, rest⟩ := result
      rw [hasForm_bind read] at h
      exact ⟨a, rest, rfl, h⟩
  · rintro ⟨a, rest, read, h⟩
    rwa [hasForm_bind read]

theorem hasForm_realClock_iff {clock : Reading Clock} {form : Clock → Reading Unit} :
    hasForm (realClock clock >>= form) cs = true ↔
      ∃ t rest, clock.run cs = some (t, rest) ∧ t.isReal = true ∧ hasForm (form t) rest = true := by
  constructor
  · intro h
    cases read : clock.run cs with
    | none =>
      rw [hasForm_realClock_none read] at h
      cases h
    | some result =>
      obtain ⟨t, rest⟩ := result
      rw [hasForm_realClock read, Bool.and_eq_true] at h
      exact ⟨t, rest, rfl, h⟩
  · rintro ⟨t, rest, read, real, h⟩
    rw [hasForm_realClock read, real, h]
    rfl

theorem hasForm_finish_iff : hasForm finish cs = true ↔ cs = [] := by
  rw [hasForm_finish, List.isEmpty_iff]

/-- A form that begins with a day and the sign of a time. -/
theorem hasForm_timed_iff {form : Day → Reading Unit} :
    hasForm (do let d ← looseDay; char 'T'; form d) cs = true ↔
      ∃ (day : LooseDay) (rest : List Char), cs = day.chars ++ 'T' :: rest ∧ day.toDay.isReal = true ∧
        hasForm (form day.toDay) rest = true := by
  rw [hasForm_bind_iff]
  constructor
  · rintro ⟨d, _, readDay, h⟩
    obtain ⟨⟨⟩, rest, sign, h⟩ := hasForm_bind_iff.mp h
    obtain ⟨day, rfl, rfl, real⟩ := exists_of_run_looseDay readDay
    obtain rfl := run_char_eq_some_iff.mp sign
    exact ⟨day, rest, rfl, real, h⟩
  · rintro ⟨day, rest, rfl, real, h⟩
    refine ⟨day.toDay, 'T' :: rest, ?_, ?_⟩
    · rw [run_looseDay_chars day rfl, if_pos real]
    · rwa [hasForm_bind run_char_self]

theorem hasForm_dayForm_iff :
    hasForm dayForm cs = true ↔ ∃ day : LooseDay, cs = day.chars ∧ day.toDay.isReal = true := by
  rw [dayForm, hasForm_bind_iff]
  constructor
  · rintro ⟨d, rest, readDay, h⟩
    obtain ⟨day, rfl, rfl, real⟩ := exists_of_run_looseDay readDay
    obtain rfl := hasForm_finish_iff.mp h
    exact ⟨day, List.append_nil _, real⟩
  · rintro ⟨day, rfl, real⟩
    have read : looseDay.run (day.chars ++ []) = some (day.toDay, []) := by
      rw [run_looseDay_chars day rfl, if_pos real]
    rw [List.append_nil] at read
    exact ⟨day.toDay, [], read, hasForm_finish_iff.mpr rfl⟩

theorem hasForm_minuteForm_iff :
    hasForm minuteForm cs = true ↔ ∃ (day : LooseDay) (hour minute : LooseNumber),
      cs = (LooseDate.mk day (some (.minutes hour minute))).chars ∧
        (LooseDate.mk day (some (.minutes hour minute))).Exists := by
  rw [minuteForm, hasForm_timed_iff]
  constructor
  · rintro ⟨day, _, rfl, real, timed⟩
    obtain ⟨t, rest, readClock, clock, ended⟩ := hasForm_realClock_iff.mp timed
    obtain ⟨hour, minute, rfl, rfl⟩ := exists_of_run_looseMinutes readClock
    obtain rfl := hasForm_finish_iff.mp ended
    rw [List.append_nil]
    refine ⟨day, hour, minute, rfl, real, ?_⟩
    rintro _ ⟨⟩
    exact ⟨clock, fun _ given => by cases given⟩
  · rintro ⟨day, hour, minute, rfl, real, timed⟩
    refine ⟨day, _, rfl, real, hasForm_realClock_iff.mpr ⟨_, [], ?_, (timed _ rfl).1, rfl⟩⟩
    have read : looseMinutes.run (hour.chars ++ ':' :: (minute.chars ++ [])) =
        some (⟨hour.value, minute.value, 0⟩, []) := run_looseMinutes_chars hour minute rfl
    rwa [List.append_nil] at read

theorem hasForm_secondForm_iff :
    hasForm secondForm cs = true ↔
      ∃ (day : LooseDay) (hour minute second : LooseNumber) (fraction : Option WrittenFraction),
        cs = (LooseDate.mk day (some (.seconds hour minute second fraction none))).chars ∧
          (LooseDate.mk day (some (.seconds hour minute second fraction none))).Exists := by
  rw [secondForm, hasForm_timed_iff]
  constructor
  · rintro ⟨day, _, rfl, real, timed⟩
    obtain ⟨t, _, readClock, clock, behind⟩ := hasForm_realClock_iff.mp timed
    obtain ⟨⟨⟩, rest, readFraction, ended⟩ := hasForm_bind_iff.mp behind
    obtain ⟨hour, minute, second, rfl, rfl⟩ := exists_of_run_looseSeconds readClock
    obtain ⟨fraction, rfl⟩ := exists_of_run_fraction readFraction
    obtain rfl := hasForm_finish_iff.mp ended
    refine ⟨day, hour, minute, second, fraction, rfl, real, ?_⟩
    rintro _ ⟨⟩
    exact ⟨clock, fun _ given => by cases given⟩
  · rintro ⟨day, hour, minute, second, fraction, rfl, real, timed⟩
    have noDigits : (fraction.elim [] WrittenFraction.chars ++ []).takeWhile Decimal.isDigit = [] := by
      cases fraction <;> rfl
    refine ⟨day, _, rfl, real, hasForm_realClock_iff.mpr ⟨_, _,
      run_looseSeconds_chars hour minute second noDigits, (timed _ rfl).1, ?_⟩⟩
    rw [hasForm_bind (run_fraction_append fraction rfl (by simp))]
    rfl

/-- A condition that is looked at when all is read. -/
theorem hasForm_finish_unless_iff {condition : Bool} :
    hasForm (do finish; unless condition do failure) cs = true ↔ cs = [] ∧ condition = true := by
  rw [hasForm_bind_iff]
  constructor
  · rintro ⟨⟨⟩, rest, ended, holds⟩
    rw [hasForm_unless] at holds
    exact ⟨hasForm_finish_iff.mp (by rw [hasForm, ended]; rfl), holds⟩
  · rintro ⟨rfl, holds⟩
    exact ⟨(), [], run_finish_nil, by rwa [hasForm_unless]⟩

theorem hasForm_offsetForm_iff :
    hasForm offsetForm cs = true ↔
      ∃ (day : LooseDay) (hour minute second : LooseNumber) (fraction : Option WrittenFraction)
        (offset : LooseOffset),
        cs = (LooseDate.mk day (some (.seconds hour minute second fraction (some offset)))).chars ∧
          (LooseDate.mk day (some (.seconds hour minute second fraction (some offset)))).Exists := by
  rw [offsetForm, hasForm_timed_iff]
  constructor
  · rintro ⟨day, _, rfl, real, timed⟩
    obtain ⟨t, _, readClock, clock, behind⟩ := hasForm_realClock_iff.mp timed
    obtain ⟨⟨⟩, _, readFraction, offset⟩ := hasForm_bind_iff.mp behind
    obtain ⟨⟨⟩, _, skipped, figures⟩ := hasForm_bind_iff.mp offset
    obtain ⟨_, _, readOffset, ended⟩ := hasForm_bind_iff.mp figures
    -- the parts of the text in which the readers found what they read
    obtain ⟨hour, minute, second, rfl, rfl⟩ := exists_of_run_looseSeconds readClock
    obtain ⟨fraction, rfl⟩ := exists_of_run_fraction readFraction
    obtain ⟨bs, rfl⟩ := exists_of_run_blanks skipped
    obtain ⟨s, hours, minutes, _, rfl, readColons, bound, rfl⟩ := exists_of_run_offsetSeconds readOffset
    obtain ⟨colons, rfl, isColon⟩ := exists_of_run_looseColons readColons
    obtain ⟨rfl, range⟩ := hasForm_finish_unless_iff.mp ended
    rw [List.append_nil]
    refine ⟨day, hour, minute, second, fraction, ⟨bs, s, hours, colons, minutes, isColon⟩, rfl, real, ?_⟩
    rintro _ ⟨⟩
    refine ⟨clock, ?_⟩
    rintro _ ⟨⟩
    exact ⟨bound, range⟩
  · rintro ⟨day, hour, minute, second, fraction, offset, rfl, real, timed⟩
    obtain ⟨clock, zoned⟩ := timed _ rfl
    obtain ⟨bound, range⟩ := zoned offset rfl
    -- the seconds end where the fraction begins, or else the offset
    obtain ⟨noDigit, noPoint⟩ := offset.takeWhile_chars
    have noDigits : (fraction.elim [] WrittenFraction.chars ++ offset.chars).takeWhile Decimal.isDigit =
        [] := by
      cases fraction with
      | none => exact noDigit
      | some fraction => rfl
    have skipped : Text.skipBlanks (offset.sign.char :: (offset.hours.chars ++
        (offset.colons ++ offset.minutes.chars))) =
          offset.sign.char :: (offset.hours.chars ++ (offset.colons ++ offset.minutes.chars)) := by
      cases offset.sign <;> rfl
    refine ⟨day, _, rfl, real, hasForm_realClock_iff.mpr ⟨_, _,
      run_looseSeconds_chars hour minute second noDigits, clock, ?_⟩⟩
    rw [Option.elim_some, hasForm_bind (run_fraction_append fraction noDigit noPoint), LooseOffset.chars,
      hasForm_bind (run_blanks_append offset.blanks skipped),
      hasForm_bind (run_offsetSeconds_chars offset.sign bound
        (run_looseColons_append offset.minutes offset.isColon_colons))]
    exact hasForm_finish_unless_iff.mpr ⟨rfl, range⟩

/-- What follows a second and its fraction in the internet profile: no digit, and no point. -/
theorem InternetZone.takeWhile_chars (zone : InternetZone) :
    zone.chars.takeWhile Decimal.isDigit = [] ∧ zone.chars.head? ≠ some '.' := by
  cases zone with
  | utc capital => cases capital <;> exact ⟨rfl, by simp [InternetZone.chars]⟩
  | offset s => cases s <;> exact ⟨rfl, by simp [InternetZone.chars, OffsetSign.char]⟩

theorem hasForm_internetForm_iff :
    hasForm internetForm cs = true ↔ ∃ date : InternetDate, cs = date.chars ∧ date.Exists := by
  constructor
  · intro h
    -- what each reader in turn found
    obtain ⟨_, _, readYear, h₁⟩ := hasForm_bind_iff.mp h
    obtain ⟨⟨⟩, _, hyphen, h₂⟩ := hasForm_bind_iff.mp h₁
    obtain ⟨_, _, readMonth, h₃⟩ := hasForm_bind_iff.mp h₂
    obtain ⟨⟨⟩, _, hyphen', h₄⟩ := hasForm_bind_iff.mp h₃
    obtain ⟨_, _, readDay, h₅⟩ := hasForm_bind_iff.mp h₄
    obtain ⟨separator, _, readSeparator, h₆⟩ := hasForm_bind_iff.mp h₅
    obtain ⟨_, _, readHour, h₇⟩ := hasForm_bind_iff.mp h₆
    obtain ⟨⟨⟩, _, colon, h₈⟩ := hasForm_bind_iff.mp h₇
    obtain ⟨_, _, readMinute, h₉⟩ := hasForm_bind_iff.mp h₈
    obtain ⟨⟨⟩, _, colon', h₁₀⟩ := hasForm_bind_iff.mp h₉
    obtain ⟨_, _, readSecond, h₁₁⟩ := hasForm_bind_iff.mp h₁₀
    obtain ⟨⟨⟩, _, readFraction, h₁₂⟩ := hasForm_bind_iff.mp h₁₁
    obtain ⟨_, _, readZone, ended⟩ := hasForm_bind_iff.mp h₁₂
    -- hence the text, part by part
    obtain ⟨year, rfl, rfl⟩ := exists_of_run_number_fixed readYear
    obtain rfl := run_char_eq_some_iff.mp hyphen
    obtain ⟨month, rfl, rfl⟩ := exists_of_run_number_fixed readMonth
    obtain rfl := run_char_eq_some_iff.mp hyphen'
    obtain ⟨day, rfl, rfl⟩ := exists_of_run_number_fixed readDay
    obtain ⟨rfl, listed⟩ := run_one_eq_some_iff.mp readSeparator
    obtain ⟨hour, rfl, rfl⟩ := exists_of_run_number_fixed readHour
    obtain rfl := run_char_eq_some_iff.mp colon
    obtain ⟨minute, rfl, rfl⟩ := exists_of_run_number_fixed readMinute
    obtain rfl := run_char_eq_some_iff.mp colon'
    obtain ⟨second, rfl, rfl⟩ := exists_of_run_number_fixed readSecond
    obtain ⟨fraction, rfl⟩ := exists_of_run_fraction readFraction
    obtain ⟨zone, rfl, bound, rfl⟩ := exists_of_run_internetOffset readZone
    obtain ⟨rfl, real⟩ := hasForm_finish_unless_iff.mp ended
    simp only [Bool.and_eq_true] at real
    refine ⟨⟨year, month, day, separator, List.contains_iff_mem.mp listed, hour, minute, second, fraction,
      zone⟩, ?_, real.1.1, real.1.2, bound, real.2⟩
    simp [InternetDate.chars, InternetDate.localChars, InternetDate.date, WrittenDate.dayChars]
  · rintro ⟨date, rfl, real, clock, bound, range⟩
    obtain ⟨noDigit, noPoint⟩ := date.zone.takeWhile_chars
    have separated : List.contains ['T', 't', ' '] date.separator = true :=
      List.contains_iff_mem.mpr date.isSeparator
    simp only [InternetDate.chars, InternetDate.localChars, List.append_assoc, List.cons_append]
    rw [internetForm, hasForm_fullDay, hasForm_bind (run_one_of_pos separated),
      hasForm_bind (run_number_digits date.hour (Nat.le_refl 2)), hasForm_bind run_char_self,
      hasForm_bind (run_number_digits date.minute (Nat.le_refl 2)), hasForm_bind run_char_self,
      hasForm_bind (run_number_digits date.second (Nat.le_refl 2)),
      hasForm_bind (run_fraction_append date.fraction noDigit noPoint),
      hasForm_bind (run_internetOffset_chars bound)]
    refine hasForm_finish_unless_iff.mpr ⟨rfl, ?_⟩
    simp only [Bool.and_eq_true]
    exact ⟨⟨real, clock⟩, range⟩

/-! ## Dates -/

/-- Of the five forms, each takes the spellings of one shape. -/
theorem forms_iff_exists_spelling :
    (hasForm dayForm cs = true ∨ hasForm internetForm cs = true ∨ hasForm offsetForm cs = true ∨
        hasForm secondForm cs = true ∨ hasForm minuteForm cs = true) ↔
      ∃ spelling : Spelling, spelling.chars = cs ∧ spelling.Exists := by
  constructor
  · rintro (h | h | h | h | h)
    · obtain ⟨day, rfl, real⟩ := hasForm_dayForm_iff.mp h
      refine ⟨.loose ⟨day, none⟩, List.append_nil _, real, ?_⟩
      rintro _ ⟨⟩
    · obtain ⟨date, rfl, real⟩ := hasForm_internetForm_iff.mp h
      exact ⟨.internet date, rfl, real⟩
    · obtain ⟨day, hour, minute, second, fraction, offset, rfl, real⟩ := hasForm_offsetForm_iff.mp h
      exact ⟨.loose _, rfl, real⟩
    · obtain ⟨day, hour, minute, second, fraction, rfl, real⟩ := hasForm_secondForm_iff.mp h
      exact ⟨.loose _, rfl, real⟩
    · obtain ⟨day, hour, minute, rfl, real⟩ := hasForm_minuteForm_iff.mp h
      exact ⟨.loose _, rfl, real⟩
  · rintro ⟨spelling, rfl, real⟩
    match spelling with
    | .internet date => exact .inr (.inl (hasForm_internetForm_iff.mpr ⟨date, rfl, real⟩))
    | .loose ⟨day, none⟩ =>
      exact .inl (hasForm_dayForm_iff.mpr ⟨day, List.append_nil _, real.1⟩)
    | .loose ⟨day, some (.minutes hour minute)⟩ =>
      exact .inr (.inr (.inr (.inr (hasForm_minuteForm_iff.mpr ⟨day, hour, minute, rfl, real⟩))))
    | .loose ⟨day, some (.seconds hour minute second fraction none)⟩ =>
      exact .inr (.inr (.inr (.inl (hasForm_secondForm_iff.mpr
        ⟨day, hour, minute, second, fraction, rfl, real⟩))))
    | .loose ⟨day, some (.seconds hour minute second fraction (some offset))⟩ =>
      exact .inr (.inr (.inl (hasForm_offsetForm_iff.mpr
        ⟨day, hour, minute, second, fraction, offset, rfl, real⟩)))

/-- A text is accepted as a date exactly if it spells one that exists. -/
theorem isDate_iff_exists_spelling {text : String} :
    isDate text = true ↔ ∃ spelling : Spelling, spelling.chars = text.toList ∧ spelling.Exists := by
  rw [← forms_iff_exists_spelling]
  simp only [isDate, Bool.or_eq_true, or_assoc]

end TaskFilter.Date
