import TaskFilter.Proofs.Date.Spelling

/-!
# Dates of the documented form

Dates are documented as texts of fixed width: a year of four digits without a sign, two digits for every other
number of the day and of the time, and no white space but the separator between the two. More than that is
accepted. What an accepted text has beyond the documented form is told by its spelling: white space, the
sign of a year, or a number with fewer digits.

## Layers

- **Shapes**: the texts of the documented form (`IsFixedWidth`), and the spellings in which nothing is left
  out and nothing put in (`Spelling.IsTight`).
- **Alignment**: a loose part that is written like a part of fixed width is tight
  (`LooseDay.isTight_of_append_eq` and its like).
- **Main statement**: `isDate_and_isFixedWidth_iff`.
-/

namespace TaskFilter.Date

/-! ## Shapes -/

/-- A text of the documented form: a day of fixed width, and behind a separator hours and minutes, and seconds
if there are any, of two digits each. What follows the seconds is free of white space. -/
inductive IsFixedWidth : List Char → Prop where
  | day (date : WrittenDate) : IsFixedWidth date.dayChars
  | minutes (date : WrittenDate) (separator : Char) (listed : separator ∈ separators)
      (hour minute : Digits 2) :
      IsFixedWidth (date.dayChars ++ separator :: (hour.chars ++ ':' :: minute.chars))
  | seconds (date : WrittenDate) (separator : Char) (listed : separator ∈ separators)
      (hour minute second : Digits 2) (tail : List Char) (ends : tail.takeWhile Decimal.isDigit = [])
      (solid : ∀ c ∈ tail, Text.isBlank c = false) :
      IsFixedWidth (date.dayChars ++
        separator :: (hour.chars ++ ':' :: (minute.chars ++ ':' :: (second.chars ++ tail))))

/-- The number has both digits, and no white space before them. -/
structure LooseNumber.IsTight (n : LooseNumber) : Prop where
  solid : n.blanks.chars = []
  full : n.more = 1

/-- The year has four digits, and neither white space nor a sign before them. -/
structure LooseYear.IsTight (year : LooseYear) : Prop where
  solid : year.blanks.chars = []
  unsigned : year.sign = none
  full : year.more = 3

structure LooseDay.IsTight (day : LooseDay) : Prop where
  year : day.year.IsTight
  month : day.month.IsTight
  day : day.day.IsTight

/-- The offset has no white space, neither before it nor in it. -/
structure LooseOffset.IsTight (offset : LooseOffset) : Prop where
  solid : offset.blanks.chars = []
  colons : ∀ c ∈ offset.colons, c = ':'

def LooseTime.IsTight : LooseTime → Prop
  | .minutes hour minute => hour.IsTight ∧ minute.IsTight
  | .seconds hour minute second _ offset =>
    (hour.IsTight ∧ minute.IsTight) ∧ second.IsTight ∧ ∀ o ∈ offset, o.IsTight

def LooseDate.IsTight (date : LooseDate) : Prop :=
  date.day.IsTight ∧ ∀ time ∈ date.time, time.IsTight

/-- Nothing is left out of the spelling and nothing put in. The internet profile leaves no choice. -/
def Spelling.IsTight : Spelling → Prop
  | .loose date => date.IsTight
  | .internet _ => True

/-! ## Alignment -/

variable {rest rest' : List Char}

/-- A row of digits ends where its digits end. -/
theorem append_inj_of_digits {ds ds' : List Char} (digits : ∀ c ∈ ds, Decimal.isDigit c = true)
    (digits' : ∀ c ∈ ds', Decimal.isDigit c = true) (ends : rest.takeWhile Decimal.isDigit = [])
    (ends' : rest'.takeWhile Decimal.isDigit = []) (same : ds ++ rest = ds' ++ rest') :
    ds = ds' ∧ rest = rest' := by
  have taken : (ds ++ rest).takeWhile Decimal.isDigit = ds := by
    rw [List.takeWhile_append_of_pos digits, ends, List.append_nil]
  have taken' : (ds' ++ rest').takeWhile Decimal.isDigit = ds' := by
    rw [List.takeWhile_append_of_pos digits', ends', List.append_nil]
  obtain rfl : ds = ds' := by rw [← taken, same, taken']
  exact ⟨rfl, List.append_cancel_left same⟩

theorem Digits.append_inj {width width' : Nat} {ds : Digits width} {ds' : Digits width'}
    (ends : rest.takeWhile Decimal.isDigit = []) (ends' : rest'.takeWhile Decimal.isDigit = [])
    (same : ds.chars ++ rest = ds'.chars ++ rest') : width = width' ∧ rest = rest' := by
  obtain ⟨chars, rests⟩ := append_inj_of_digits ds.isDigit_chars ds'.isDigit_chars ends ends' same
  exact ⟨by rw [← ds.length_chars, chars, ds'.length_chars], rests⟩

/-- White space does not begin with a digit. -/
theorem Blanks.chars_eq_nil {bs : Blanks} {width : Nat} {ds : Digits (width + 1)} {cs : List Char}
    (same : bs.chars ++ cs = ds.chars ++ rest) : bs.chars = [] := by
  obtain ⟨d, others, written, digit⟩ := ds.exists_cons
  obtain ⟨blanks, isBlank⟩ := bs
  cases blanks with
  | nil => rfl
  | cons c blanks =>
    have blank : Text.isBlank c = true := isBlank c List.mem_cons_self
    rw [written] at same
    obtain rfl : c = d := (List.cons.inj same).1
    rw [isDigit_of_isBlank blank] at digit
    cases digit

theorem LooseNumber.isTight_of_append_eq {n : LooseNumber} {ds : Digits 2}
    (ends : rest.takeWhile Decimal.isDigit = []) (ends' : rest'.takeWhile Decimal.isDigit = [])
    (same : n.chars ++ rest = ds.chars ++ rest') : n.IsTight ∧ rest = rest' := by
  rw [LooseNumber.chars, List.append_assoc] at same
  have solid := Blanks.chars_eq_nil same
  rw [solid, List.nil_append] at same
  obtain ⟨width, rests⟩ := Digits.append_inj ends ends' same
  exact ⟨⟨solid, by omega⟩, rests⟩

theorem LooseYear.isTight_of_append_eq {year : LooseYear} {ds : Digits 4}
    (ends : rest.takeWhile Decimal.isDigit = []) (ends' : rest'.takeWhile Decimal.isDigit = [])
    (same : year.chars ++ rest = ds.chars ++ rest') : year.IsTight ∧ rest = rest' := by
  rw [LooseYear.chars, List.append_assoc] at same
  have solid := Blanks.chars_eq_nil same
  rw [solid, List.nil_append] at same
  have unsigned : year.sign = none := by
    obtain ⟨d, others, written, digit⟩ := ds.exists_cons
    rw [written] at same
    cases given : year.sign with
    | none => rfl
    | some sign =>
      -- a sign is no digit
      rw [given] at same
      obtain rfl : sign.char = d := (List.cons.inj same).1
      cases sign <;> cases digit
  rw [unsigned, Option.map_none, Option.toList_none, List.nil_append] at same
  obtain ⟨width, rests⟩ := Digits.append_inj ends ends' same
  exact ⟨⟨solid, unsigned, by omega⟩, rests⟩

theorem LooseDay.isTight_of_append_eq {day : LooseDay} {date : WrittenDate}
    (ends : rest.takeWhile Decimal.isDigit = []) (ends' : rest'.takeWhile Decimal.isDigit = [])
    (same : day.chars ++ rest = date.dayChars ++ rest') : day.IsTight ∧ rest = rest' := by
  simp only [LooseDay.chars, WrittenDate.dayChars, List.append_assoc, List.cons_append] at same
  obtain ⟨year, months⟩ := LooseYear.isTight_of_append_eq rfl rfl same
  obtain ⟨month, days⟩ := LooseNumber.isTight_of_append_eq rfl rfl (List.cons.inj months).2
  obtain ⟨day, rests⟩ := LooseNumber.isTight_of_append_eq ends ends' (List.cons.inj days).2
  exact ⟨⟨year, month, day⟩, rests⟩

theorem LooseNumber.areTight_of_append_eq {hour minute : LooseNumber} {hour' minute' : Digits 2}
    (ends : rest.takeWhile Decimal.isDigit = []) (ends' : rest'.takeWhile Decimal.isDigit = [])
    (same : hour.chars ++ ':' :: (minute.chars ++ rest) = hour'.chars ++ ':' :: (minute'.chars ++ rest')) :
    (hour.IsTight ∧ minute.IsTight) ∧ rest = rest' := by
  obtain ⟨hour, minutes⟩ := LooseNumber.isTight_of_append_eq rfl rfl same
  obtain ⟨minute, rests⟩ := LooseNumber.isTight_of_append_eq ends ends' (List.cons.inj minutes).2
  exact ⟨⟨hour, minute⟩, rests⟩

/-! ## Spellings of fixed width -/

/-- What follows the seconds of a loose spelling begins with no digit. -/
theorem takeWhile_fraction_offset (fraction : Option WrittenFraction) (offset : Option LooseOffset) :
    (fraction.elim [] WrittenFraction.chars ++ offset.elim [] LooseOffset.chars).takeWhile
      Decimal.isDigit = [] := by
  cases fraction with
  | some fraction => rfl
  | none =>
    cases offset with
    | none => rfl
    | some offset => exact offset.takeWhile_chars.1

theorem LooseOffset.isTight_of_solid {offset : LooseOffset}
    (solid : ∀ c ∈ offset.chars, Text.isBlank c = false) : offset.IsTight := by
  constructor
  · rw [List.eq_nil_iff_forall_not_mem]
    intro c listed
    have blank := offset.blanks.isBlank_chars c listed
    rw [solid c (List.mem_append_left _ listed)] at blank
    cases blank
  · intro c listed
    have inside : c ∈ offset.chars := by simp [LooseOffset.chars, listed]
    rcases offset.isColon_colons c listed with colon | blank
    · exact colon
    · rw [solid c inside] at blank
      cases blank

theorem LooseTime.isTight_of_minutes {time : LooseTime} {hour minute : Digits 2}
    (same : time.chars = hour.chars ++ ':' :: minute.chars) : time.IsTight := by
  rw [← List.append_nil minute.chars] at same
  cases time with
  | minutes looseHour looseMinute =>
    rw [LooseTime.chars, ← List.append_nil looseMinute.chars] at same
    exact (LooseNumber.areTight_of_append_eq rfl rfl same).1
  | seconds =>
    -- there would be no colon for the seconds
    cases (LooseNumber.areTight_of_append_eq rfl rfl same).2

theorem LooseTime.isTight_of_seconds {time : LooseTime} {hour minute second : Digits 2} {tail : List Char}
    (ends : tail.takeWhile Decimal.isDigit = []) (solid : ∀ c ∈ tail, Text.isBlank c = false)
    (same : time.chars = hour.chars ++ ':' :: (minute.chars ++ ':' :: (second.chars ++ tail))) :
    time.IsTight := by
  cases time with
  | minutes looseHour looseMinute =>
    rw [LooseTime.chars, ← List.append_nil looseMinute.chars] at same
    cases (LooseNumber.areTight_of_append_eq rfl rfl same).2
  | seconds looseHour looseMinute looseSecond fraction offset =>
    obtain ⟨minutes, seconds⟩ := LooseNumber.areTight_of_append_eq rfl rfl same
    obtain ⟨second, rfl⟩ := LooseNumber.isTight_of_append_eq (takeWhile_fraction_offset fraction offset) ends
      (List.cons.inj seconds).2
    refine ⟨minutes, second, ?_⟩
    rintro offset ⟨⟩
    exact LooseOffset.isTight_of_solid fun c listed => solid c (List.mem_append_right _ listed)

/-- A loose spelling of fixed width is tight. -/
theorem LooseDate.isTight_of_isFixedWidth {date : LooseDate} (fixed : IsFixedWidth date.chars) :
    date.IsTight := by
  obtain ⟨day, time⟩ := date
  have ends : (time.elim [] fun time => 'T' :: time.chars).takeWhile Decimal.isDigit = [] := by
    cases time <;> rfl
  have noDigit : ∀ separator ∈ separators, ∀ cs, (separator :: cs).takeWhile Decimal.isDigit = [] := by
    simp [separators, Decimal.isDigit]
  generalize same : LooseDate.chars ⟨day, time⟩ = cs at fixed
  cases fixed with
  | day date =>
    rw [← List.append_nil date.dayChars] at same
    obtain ⟨tight, rests⟩ := LooseDay.isTight_of_append_eq ends rfl same
    cases time with
    | none => exact ⟨tight, fun _ given => by cases given⟩
    | some time => cases rests
  | minutes date separator listed hour minute =>
    obtain ⟨tight, rests⟩ := LooseDay.isTight_of_append_eq ends (noDigit separator listed _) same
    cases time with
    | none => cases rests
    | some time =>
      refine ⟨tight, ?_⟩
      rintro _ ⟨⟩
      exact LooseTime.isTight_of_minutes (List.cons.inj rests).2
  | seconds date separator listed hour minute second tail endsTail solid =>
    obtain ⟨tight, rests⟩ := LooseDay.isTight_of_append_eq ends (noDigit separator listed _) same
    cases time with
    | none => cases rests
    | some time =>
      refine ⟨tight, ?_⟩
      rintro _ ⟨⟩
      exact LooseTime.isTight_of_seconds endsTail solid (List.cons.inj rests).2

/-! ## Tight spellings -/

theorem LooseNumber.IsTight.exists_digits {n : LooseNumber} (tight : n.IsTight) :
    ∃ ds : Digits 2, n.chars = ds.chars ∧ n.value = ds.value := by
  obtain ⟨blanks, more, digits, few⟩ := n
  obtain ⟨solid, full⟩ := tight
  obtain rfl : more = 1 := full
  exact ⟨digits, by rw [LooseNumber.chars, solid, List.nil_append], rfl⟩

theorem LooseYear.IsTight.exists_digits {year : LooseYear} (tight : year.IsTight) :
    ∃ ds : Digits 4, year.chars = ds.chars ∧ year.value = ds.value := by
  obtain ⟨blanks, sign, more, digits, few⟩ := year
  obtain ⟨solid, unsigned, full⟩ := tight
  obtain rfl : more = 3 := full
  obtain rfl : sign = none := unsigned
  exact ⟨digits, by rw [LooseYear.chars, solid]; rfl, rfl⟩

theorem LooseDay.IsTight.exists_date {day : LooseDay} (tight : day.IsTight) :
    ∃ date : WrittenDate, day.chars = date.dayChars ∧ day.toDay = date.toDay := by
  obtain ⟨year, same, value⟩ := tight.year.exists_digits
  obtain ⟨month, same', value'⟩ := tight.month.exists_digits
  obtain ⟨ds, same'', value''⟩ := tight.day.exists_digits
  refine ⟨⟨year, month, ds, none⟩, ?_, ?_⟩
  · rw [LooseDay.chars, same, same', same'']
    rfl
  · rw [LooseDay.toDay, value, value', value'']
    rfl

theorem Digits.solid {width : Nat} (ds : Digits width) : ∀ c ∈ ds.chars, Text.isBlank c = false :=
  fun c listed => isBlank_of_isDigit (ds.isDigit_chars c listed)

theorem WrittenFraction.solid (fraction : WrittenFraction) :
    ∀ c ∈ fraction.chars, Text.isBlank c = false :=
  List.forall_mem_cons.mpr ⟨by decide, fraction.digits.solid⟩

theorem OffsetSign.solid (s : OffsetSign) : Text.isBlank s.char = false := by
  cases s <;> decide

theorem LooseOffset.IsTight.solid_chars {offset : LooseOffset} (tight : offset.IsTight) :
    ∀ c ∈ offset.chars, Text.isBlank c = false := by
  rw [LooseOffset.chars, tight.solid, List.nil_append]
  refine List.forall_mem_cons.mpr ⟨offset.sign.solid, fun c listed => ?_⟩
  simp only [List.mem_append] at listed
  rcases listed with hours | colons | minutes
  · exact offset.hours.solid c hours
  · rw [tight.colons c colons]
    decide
  · exact offset.minutes.solid c minutes

theorem InternetZone.solid (zone : InternetZone) : ∀ c ∈ zone.chars, Text.isBlank c = false := by
  cases zone with
  | utc capital => cases capital <;> exact List.forall_mem_singleton.mpr (by decide)
  | offset s hours minutes =>
    refine List.forall_mem_cons.mpr ⟨s.solid, fun c listed => ?_⟩
    rcases List.mem_append.mp listed with first | later
    · exact hours.solid c first
    · exact List.forall_mem_cons.mpr ⟨by decide, minutes.solid⟩ c later

/-- What follows the seconds is free of white space if its parts are. -/
theorem solid_tail {fraction : Option WrittenFraction} {zone : List Char}
    (solid : ∀ c ∈ zone, Text.isBlank c = false) :
    ∀ c ∈ fraction.elim [] WrittenFraction.chars ++ zone, Text.isBlank c = false := by
  intro c listed
  rcases List.mem_append.mp listed with inside | behind
  · cases fraction with
    | none => cases inside
    | some fraction => exact fraction.solid c inside
  · exact solid c behind

/-- A tight spelling has fixed width. -/
theorem LooseDate.IsTight.isFixedWidth {date : LooseDate} (tight : date.IsTight) :
    IsFixedWidth date.chars := by
  obtain ⟨day, time⟩ := date
  obtain ⟨written, same, -⟩ := tight.1.exists_date
  rw [LooseDate.chars, same]
  cases time with
  | none =>
    rw [Option.elim_none, List.append_nil]
    exact .day written
  | some time =>
    have timed : time.IsTight := tight.2 time rfl
    cases time with
    | minutes hour minute =>
      obtain ⟨h, hour, -⟩ := timed.1.exists_digits
      obtain ⟨m, minute, -⟩ := timed.2.exists_digits
      rw [Option.elim_some, LooseTime.chars, hour, minute]
      exact .minutes written 'T' (by decide) h m
    | seconds hour minute second fraction offset =>
      obtain ⟨⟨hour, minute⟩, second, tightOffset⟩ := timed
      obtain ⟨h, hour, -⟩ := hour.exists_digits
      obtain ⟨m, minute, -⟩ := minute.exists_digits
      obtain ⟨s, second, -⟩ := second.exists_digits
      have solid : ∀ c ∈ offset.elim [] LooseOffset.chars, Text.isBlank c = false := by
        cases offset with
        | none => exact fun c listed => absurd listed List.not_mem_nil
        | some offset => exact (tightOffset offset rfl).solid_chars
      rw [Option.elim_some, LooseTime.chars, hour, minute, second]
      exact .seconds written 'T' (by decide) h m s _ (takeWhile_fraction_offset fraction offset)
        (solid_tail solid)

theorem InternetDate.isFixedWidth (date : InternetDate) : IsFixedWidth date.chars := by
  have ends : (date.fraction.elim [] WrittenFraction.chars ++ date.zone.chars).takeWhile Decimal.isDigit =
      [] := by
    cases date.fraction with
    | none => exact date.zone.takeWhile_chars.1
    | some fraction => rfl
  simp only [InternetDate.chars, InternetDate.localChars, List.append_assoc, List.cons_append]
  exact .seconds date.date date.separator date.isSeparator date.hour date.minute date.second _ ends
    (solid_tail date.zone.solid)

/-- Of the spellings, those have fixed width in which nothing is left out and nothing put in. -/
theorem isFixedWidth_chars_iff (spelling : Spelling) : IsFixedWidth spelling.chars ↔ spelling.IsTight := by
  cases spelling with
  | loose date => exact ⟨LooseDate.isTight_of_isFixedWidth, LooseDate.IsTight.isFixedWidth⟩
  | internet date => exact iff_of_true date.isFixedWidth trivial

/-- The texts of the documented form that are accepted are the tight spellings of dates that exist. The others
that are accepted are the spellings of dates that exist in which white space or the sign of a year is put in,
or a digit left out. -/
theorem isDate_and_isFixedWidth_iff (text : String) :
    ((isDate text = true ∧ IsFixedWidth text.toList) ↔
        ∃ spelling : Spelling, spelling.chars = text.toList ∧ spelling.Exists ∧ spelling.IsTight) ∧
      ((isDate text = true ∧ ¬ IsFixedWidth text.toList) ↔
        ∃ spelling : Spelling, spelling.chars = text.toList ∧ spelling.Exists ∧ ¬ spelling.IsTight) := by
  have tight : ∀ spelling : Spelling, spelling.chars = text.toList →
      (IsFixedWidth text.toList ↔ spelling.IsTight) := by
    intro spelling same
    rw [← same, isFixedWidth_chars_iff]
  rw [isDate_iff_exists_spelling]
  constructor
  · constructor
    · rintro ⟨⟨spelling, same, real⟩, fixed⟩
      exact ⟨spelling, same, real, (tight spelling same).mp fixed⟩
    · rintro ⟨spelling, same, real, holds⟩
      exact ⟨⟨spelling, same, real⟩, (tight spelling same).mpr holds⟩
  · constructor
    · rintro ⟨⟨spelling, same, real⟩, loose⟩
      exact ⟨spelling, same, real, fun holds => loose ((tight spelling same).mpr holds)⟩
    · rintro ⟨spelling, same, real, loose⟩
      exact ⟨⟨spelling, same, real⟩, fun fixed => loose ((tight spelling same).mp fixed)⟩

theorem IsFixedWidth.ten_le_length {cs : List Char} (fixed : IsFixedWidth cs) : 10 ≤ cs.length := by
  have width : ∀ date : WrittenDate, date.dayChars.length = 10 := by
    intro date
    simp [WrittenDate.dayChars, date.year.length_chars, date.month.length_chars, date.day.length_chars]
  cases fixed with
  | day date => exact (width date).ge
  | minutes date | seconds date =>
    rw [List.length_append, width date]
    exact Nat.le_add_right 10 _

/-- A month and a day of one digit each are accepted. -/
theorem isDate_short_month_and_day :
    isDate "2025-1-1" = true ∧ ¬ IsFixedWidth "2025-1-1".toList :=
  ⟨by decide +kernel, fun fixed => absurd fixed.ten_le_length (by decide)⟩

end TaskFilter.Date
