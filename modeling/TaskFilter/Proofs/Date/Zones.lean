import TaskFilter.Proofs.Date.Tightness

/-!
# Local moments and their zones

A moment may be written without a zone, as a local one. Whether the same text is accepted with a zone behind
it depends on the forms. Local moments have two forms, one with seconds and one without. Only the form with
seconds has a companion for offsets in figures, and the letter for universal time stands in the internet
profile alone, in which nothing is loose.

## Layers

- **Local moments**: `IsLocalMoment`, and the digits of the year of a text.
- **With a zone**: the local moments that are accepted with an offset (`isDate_append_offset`) and with the
  letter (`isDate_append_utc`).
- **Without one**: a time without seconds takes no zone (`not_isDate_minutes_append`), and a loose spelling
  takes no letter (`isFixedWidth_of_isDate_append_utc`).
- **Main statement**: `isDate_append_zone_iff`.
-/

namespace TaskFilter.Date

open TaskFilter.Text (Reading)
open TaskFilter.Text.Reading

variable {rest : List Char}

/-! ## Local moments -/

/-- A day and a time in one of the two forms that have no zone. -/
def IsLocalMoment (text : String) : Prop :=
  hasForm secondForm text.toList = true ∨ hasForm minuteForm text.toList = true

/-- The digits of the year, with which the digits of a date begin. -/
def yearDigits (cs : List Char) : List Char :=
  (cs.dropWhile fun c => !Decimal.isDigit c).takeWhile Decimal.isDigit

theorem yearDigits_append (year : LooseYear) (ends : rest.takeWhile Decimal.isDigit = []) :
    yearDigits (year.chars ++ rest) = year.digits.chars := by
  obtain ⟨⟨blanks, isBlank⟩, sign, more, digits, few⟩ := year
  have blank : ∀ c ∈ blanks, (!Decimal.isDigit c) = true := by
    intro c listed
    rw [isDigit_of_isBlank (isBlank c listed)]
    rfl
  -- nor is a sign a digit
  have signed : ∀ c ∈ (sign.map YearSign.char).toList, (!Decimal.isDigit c) = true := by
    cases sign with
    | none => nofun
    | some sign => cases sign <;> exact List.forall_mem_singleton.mpr rfl
  have kept : (digits.chars ++ rest).dropWhile (fun c => !Decimal.isDigit c) = digits.chars ++ rest := by
    obtain ⟨c, cs, written, digit⟩ := digits.exists_cons
    rw [written, List.cons_append, List.dropWhile_cons_of_neg (by simp [digit])]
  simp only [LooseYear.chars, List.append_assoc]
  rw [yearDigits, List.dropWhile_append_of_pos blank, List.dropWhile_append_of_pos signed, kept,
    List.takeWhile_append_of_pos digits.isDigit_chars, ends, List.append_nil]

theorem LooseDate.yearDigits_chars (date : LooseDate) :
    yearDigits date.chars = date.day.year.digits.chars := by
  rw [LooseDate.chars, LooseDay.chars, List.append_assoc]
  exact yearDigits_append date.day.year rfl

theorem LooseYear.value_mem {year : LooseYear} (four : year.digits.chars.length = 4) :
    -10000 < year.value ∧ year.value < 10000 := by
  have bound := natural_lt year.digits.isDigit_chars
  rw [four] at bound
  have small : year.digits.value < 10000 := bound
  unfold LooseYear.value
  split <;> omega

/-! ## With a zone -/

/-- The offset, without white space. -/
def looseOffset (ahead extended : Bool) (hours minutes : Digits 2) : LooseOffset where
  blanks := ⟨[], nofun⟩
  sign := if ahead then .plus else .hyphen
  hours := hours
  colons := if extended then [':'] else []
  minutes := minutes
  isColon_colons := by cases extended <;> simp

theorem chars_looseOffset (ahead extended : Bool) (hours minutes : Digits 2) :
    (looseOffset ahead extended hours minutes).chars =
      (WrittenZone.offset ahead extended hours minutes).chars := by
  cases ahead <;> rfl

theorem secondsAhead_mem (s : OffsetSign) {hours minutes : Digits 2} (real : OffsetExists hours minutes) :
    -86400 < secondsAhead s hours minutes ∧ secondsAhead s hours minutes < 86400 := by
  obtain ⟨few, fewer⟩ := real
  cases s <;> simp only [secondsAhead, OffsetSign.direction] <;> omega

section Seconds

variable {day : LooseDay} {hour minute second : LooseNumber} {fraction : Option WrittenFraction}

/-- A moment with seconds takes every offset. -/
theorem isDate_append_offset
    (real : (LooseDate.mk day (some (.seconds hour minute second fraction none))).Exists)
    (four : day.year.digits.chars.length = 4) {ahead extended : Bool} {hours minutes : Digits 2}
    (zone : (WrittenZone.offset ahead extended hours minutes).Exists) :
    isDate (String.ofList ((LooseDate.mk day (some (.seconds hour minute second fraction none))).chars ++
      (WrittenZone.offset ahead extended hours minutes).chars)) = true := by
  obtain ⟨realDay, timed⟩ := real
  obtain ⟨clock, -⟩ := timed _ rfl
  have range : keepsInRange day.toDay ⟨hour.value, minute.value, second.value⟩
      (secondsAhead (looseOffset ahead extended hours minutes).sign hours minutes) = true :=
    keepsInRange_of_isReal (LooseYear.value_mem four) realDay clock (secondsAhead_mem _ zone).2
      (secondsAhead_mem _ zone).1
  rw [isDate_iff_exists_spelling, String.toList_ofList]
  refine ⟨.loose ⟨day, some (.seconds hour minute second fraction
    (some (looseOffset ahead extended hours minutes)))⟩, ?_, realDay, ?_⟩
  · rw [Spelling.chars, LooseDate.chars, LooseDate.chars]
    simp [LooseTime.chars, chars_looseOffset]
  · rintro _ ⟨⟩
    refine ⟨clock, ?_⟩
    rintro _ ⟨⟩
    exact ⟨zone, range⟩

/-- A moment with seconds takes the letter for universal time if it has fixed width. -/
theorem isDate_append_utc
    (real : (LooseDate.mk day (some (.seconds hour minute second fraction none))).Exists)
    (fixed : IsFixedWidth (LooseDate.mk day (some (.seconds hour minute second fraction none))).chars) :
    isDate (String.ofList ((LooseDate.mk day (some (.seconds hour minute second fraction none))).chars ++
      WrittenZone.utc.chars)) = true := by
  obtain ⟨realDay, timed⟩ := real
  obtain ⟨clock, -⟩ := timed _ rfl
  obtain ⟨tightDay, tightTime⟩ := LooseDate.isTight_of_isFixedWidth fixed
  obtain ⟨⟨hour, minute⟩, second, -⟩ := tightTime _ rfl
  obtain ⟨date, sameDay, value⟩ := tightDay.exists_date
  obtain ⟨h, hour, valueHour⟩ := hour.exists_digits
  obtain ⟨m, minute, valueMinute⟩ := minute.exists_digits
  obtain ⟨s, second, valueSecond⟩ := second.exists_digits
  rw [LooseTime.clock, valueHour, valueMinute, valueSecond] at clock
  rw [value] at realDay
  have accepted := (isDate_seconds date h m s fraction (some .utc)).mpr
    ⟨realDay, isReal_clock_iff.mp clock |>.1, isReal_clock_iff.mp clock |>.2.1,
      isReal_clock_iff.mp clock |>.2.2, fun z given => by cases given; trivial⟩
  rw [LooseDate.chars, sameDay]
  simpa [LooseTime.chars, WrittenTime.chars, hour, minute, second] using accepted

/-! ## Without one -/

theorem hasForm_looseDay_chars {form : Day → Reading Unit} (real : day.toDay.isReal = true)
    (ends : rest.takeWhile Decimal.isDigit = []) :
    hasForm (looseDay >>= form) (day.chars ++ rest) = hasForm (form day.toDay) rest := by
  refine hasForm_bind ?_
  rw [run_looseDay_chars day ends, if_pos real]

/-- Seconds are not read where no colon follows the minutes. -/
theorem run_looseSeconds_of_no_colon (hour minute : LooseNumber) (ends : rest.takeWhile Decimal.isDigit = [])
    (noColon : rest.head? ≠ some ':') :
    looseSeconds.run (hour.chars ++ ':' :: (minute.chars ++ rest)) = none := by
  have none : (char ':').run rest = none := by
    cases rest with
    | nil => rfl
    | cons c cs => exact run_char_of_ne fun same => noColon (by rw [same]; rfl)
  simp [looseSeconds, run_looseMinutes_chars hour minute ends, none]

/-- A loose moment that is written like one of the internet profile, up to the minutes: seconds follow, and
nothing up to there is loose. -/
theorem InternetDate.areTight_of_chars_eq {date : InternetDate} (ends : rest.takeWhile Decimal.isDigit = [])
    (same : day.chars ++ 'T' :: (hour.chars ++ ':' :: (minute.chars ++ rest)) = date.chars) :
    (day.IsTight ∧ hour.IsTight ∧ minute.IsTight) ∧
      ∃ tail, tail.takeWhile Decimal.isDigit = [] ∧ rest = ':' :: (date.second.chars ++ tail) := by
  have noDigit : ∀ separator ∈ separators, ∀ cs, (separator :: cs).takeWhile Decimal.isDigit = [] := by
    simp [separators, Decimal.isDigit]
  simp only [InternetDate.chars, InternetDate.localChars, List.append_assoc, List.cons_append] at same
  obtain ⟨tightDay, times⟩ :=
    LooseDay.isTight_of_append_eq rfl (noDigit date.separator date.isSeparator _) same
  obtain ⟨tight, rests⟩ := LooseNumber.areTight_of_append_eq ends rfl (List.cons.inj times).2
  refine ⟨⟨tightDay, tight⟩, _, ?_, rests⟩
  cases date.fraction with
  | none => exact date.zone.takeWhile_chars.1
  | some fraction => rfl

theorem WrittenZone.ends_chars (zone : WrittenZone) : zone.chars.takeWhile Decimal.isDigit = [] ∧
    zone.chars.head? ≠ some ':' ∧ zone.chars ≠ [] := by
  cases zone with
  | utc => exact ⟨rfl, by simp [WrittenZone.chars], List.cons_ne_nil _ _⟩
  | offset ahead => cases ahead <;> exact ⟨rfl, by simp [WrittenZone.chars], List.cons_ne_nil _ _⟩

/-- A time without seconds takes no zone. -/
theorem not_isDate_minutes_append (real : day.toDay.isReal = true) (zone : WrittenZone) :
    ¬ isDate (String.ofList ((LooseDate.mk day (some (.minutes hour minute))).chars ++ zone.chars)) = true := by
  obtain ⟨ends, noColon, some_⟩ := zone.ends_chars
  have noSeconds := run_looseSeconds_of_no_colon hour minute ends noColon
  have text : (LooseDate.mk day (some (.minutes hour minute))).chars ++ zone.chars =
      day.chars ++ 'T' :: (hour.chars ++ ':' :: (minute.chars ++ zone.chars)) := by
    simp [LooseDate.chars, LooseTime.chars]
  rw [text, isDate, String.toList_ofList]
  simp only [Bool.or_eq_true]
  -- seconds are wanted by all forms but two, and these two end before the zone
  rintro ((((h | h) | h) | h) | h)
  · rw [dayForm, hasForm_looseDay_chars real rfl, hasForm_finish] at h
    cases h
  · obtain ⟨date, same, -⟩ := hasForm_internetForm_iff.mp h
    obtain ⟨-, tail, -, rests⟩ := date.areTight_of_chars_eq ends same
    exact noColon (by rw [rests]; rfl)
  · rw [offsetForm, hasForm_looseDay_chars real rfl, hasForm_bind run_char_self,
      hasForm_realClock_none noSeconds] at h
    cases h
  · rw [secondForm, hasForm_looseDay_chars real rfl, hasForm_bind run_char_self,
      hasForm_realClock_none noSeconds] at h
    cases h
  · rw [minuteForm, hasForm_looseDay_chars real rfl, hasForm_bind run_char_self,
      hasForm_realClock (run_looseMinutes_chars hour minute ends), hasForm_finish, Bool.and_eq_true,
      List.isEmpty_iff] at h
    exact some_ h.2

/-- A loose spelling takes no letter. -/
theorem isFixedWidth_of_isDate_append_utc (real : day.toDay.isReal = true)
    (accepted : isDate (String.ofList
      ((LooseDate.mk day (some (.seconds hour minute second fraction none))).chars ++
        WrittenZone.utc.chars)) = true) :
    IsFixedWidth (LooseDate.mk day (some (.seconds hour minute second fraction none))).chars := by
  have text : (LooseDate.mk day (some (.seconds hour minute second fraction none))).chars ++
      WrittenZone.utc.chars = day.chars ++ 'T' :: (hour.chars ++ ':' :: (minute.chars ++
        ':' :: (second.chars ++ (fraction.elim [] WrittenFraction.chars ++ ['Z'])))) := by
    simp [LooseDate.chars, LooseTime.chars, WrittenZone.chars]
  have ends : (fraction.elim [] WrittenFraction.chars ++ ['Z']).takeWhile Decimal.isDigit = [] := by
    cases fraction <;> rfl
  have readSeconds := run_looseSeconds_chars hour minute second ends
  have readFraction : Date.fraction.run (fraction.elim [] WrittenFraction.chars ++ ['Z']) =
      some ((), ['Z']) := run_fraction_append fraction rfl (by simp)
  rw [text, isDate, String.toList_ofList] at accepted
  simp only [Bool.or_eq_true] at accepted
  -- the loose forms leave the letter unread, or find no sign where it stands
  rcases accepted with (((h | h) | h) | h) | h
  · rw [dayForm, hasForm_looseDay_chars real rfl, hasForm_finish] at h
    cases h
  · obtain ⟨date, same, -⟩ := hasForm_internetForm_iff.mp h
    obtain ⟨⟨tightDay, tightHour, tightMinute⟩, tail, endsTail, rests⟩ := date.areTight_of_chars_eq rfl same
    obtain ⟨tightSecond, -⟩ := LooseNumber.isTight_of_append_eq ends endsTail (List.cons.inj rests).2
    refine LooseDate.IsTight.isFixedWidth ⟨tightDay, ?_⟩
    rintro _ ⟨⟩
    exact ⟨⟨tightHour, tightMinute⟩, tightSecond, fun _ given => by cases given⟩
  · rw [offsetForm, hasForm_looseDay_chars real rfl, hasForm_bind run_char_self,
      hasForm_realClock readSeconds, hasForm_bind readFraction, Bool.and_eq_true] at h
    cases h.2
  · rw [secondForm, hasForm_looseDay_chars real rfl, hasForm_bind run_char_self,
      hasForm_realClock readSeconds, hasForm_bind readFraction, Bool.and_eq_true] at h
    cases h.2
  · rw [minuteForm, hasForm_looseDay_chars real rfl, hasForm_bind run_char_self,
      hasForm_realClock (run_looseMinutes_chars hour minute rfl), hasForm_finish, Bool.and_eq_true] at h
    cases h.2

end Seconds

/-- A time without seconds is not read as one with seconds. -/
theorem not_hasForm_secondForm_minutes {day : LooseDay} {hour minute : LooseNumber}
    (real : day.toDay.isReal = true) :
    ¬ hasForm secondForm (LooseDate.mk day (some (.minutes hour minute))).chars = true := by
  have noSeconds : looseSeconds.run (hour.chars ++ ':' :: (minute.chars ++ [])) = none :=
    run_looseSeconds_of_no_colon hour minute rfl (by simp)
  rw [List.append_nil] at noSeconds
  rw [LooseDate.chars, Option.elim_some, LooseTime.chars, secondForm, hasForm_looseDay_chars real rfl,
    hasForm_bind run_char_self, hasForm_realClock_none noSeconds]
  exact Bool.false_ne_true

/-! ## Moments and zones -/

/-- A local moment of a year with four digits is accepted with a zone behind it exactly if it has seconds and,
where the zone is the letter for universal time, fixed width. -/
theorem isDate_append_zone_iff {text : String} (moment : IsLocalMoment text)
    (four : (yearDigits text.toList).length = 4) {zone : WrittenZone} (real : zone.Exists) :
    isDate (text ++ String.ofList zone.chars) = true ↔
      hasForm secondForm text.toList = true ∧ (zone = .utc → IsFixedWidth text.toList) := by
  have joined : text ++ String.ofList zone.chars = String.ofList (text.toList ++ zone.chars) := by
    rw [String.ofList_append, String.ofList_toList]
  rw [joined]
  rcases moment with seconds | minutes
  · -- with seconds the year decides nothing but the range, and the letter wants the internet profile
    obtain ⟨day, hour, minute, second, fraction, written, exist⟩ := hasForm_secondForm_iff.mp seconds
    rw [written, LooseDate.yearDigits_chars] at four
    rw [and_iff_right seconds, written]
    cases zone with
    | utc =>
      refine ⟨fun accepted _ => isFixedWidth_of_isDate_append_utc exist.1 accepted, fun fixed => ?_⟩
      exact isDate_append_utc exist (fixed rfl)
    | offset ahead extended hours minutes =>
      exact iff_of_true (isDate_append_offset exist four real) nofun
  · obtain ⟨day, hour, minute, written, exist⟩ := hasForm_minuteForm_iff.mp minutes
    rw [written]
    exact iff_of_false (not_isDate_minutes_append exist.1 zone)
      fun h => not_hasForm_secondForm_minutes exist.1 h.1

/-- Half past five ahead of universal time, in the basic form. -/
def basicOffset : WrittenZone :=
  .offset true false ⟨['0', '5'], rfl, List.all_eq_true.mp rfl⟩ ⟨['3', '0'], rfl, List.all_eq_true.mp rfl⟩

/-- A fraction of a second and an offset in the basic form go together. -/
theorem isDate_append_zone_fraction_basic :
    IsLocalMoment "2025-01-01T10:00:00.5" ∧ (yearDigits "2025-01-01T10:00:00.5".toList).length = 4 ∧
      basicOffset.Exists ∧ isDate ("2025-01-01T10:00:00.5" ++ String.ofList basicOffset.chars) = true := by
  have moment : IsLocalMoment "2025-01-01T10:00:00.5" := .inl (by decide +kernel)
  have four : (yearDigits "2025-01-01T10:00:00.5".toList).length = 4 := by decide +kernel
  have real : basicOffset.Exists := by decide +kernel
  exact ⟨moment, four, real,
    (isDate_append_zone_iff moment four real).mpr ⟨by decide +kernel, nofun⟩⟩

/-- A local moment without seconds is accepted, and with the letter for universal time it is not. -/
theorem isDate_minutes_without_zone_only :
    IsLocalMoment "2025-01-01T10:00" ∧ (yearDigits "2025-01-01T10:00".toList).length = 4 ∧
      isDate "2025-01-01T10:00" = true ∧
        isDate ("2025-01-01T10:00" ++ String.ofList WrittenZone.utc.chars) = false :=
  ⟨.inr (by decide +kernel), by decide +kernel, by decide +kernel, by decide +kernel⟩

end TaskFilter.Date
