import Linkly.CalendarDays
import Linkly.CoupleRoute
import Linkly.TransitKeys

/-!
The times of requests to TMAP as texts of Korean local time: what one service writes and the other
one reads, and which of the texts that are accepted name a time that exists.
-/
namespace TmapTimes
open JsText IsoDate LocalDate TransitService
open SettingText (decimalValue numberText)
open CoupleRoute (formatTmapDateTime)

theorem kst_range : -1440 < (540 : Int) ∧ (540 : Int) < 1440 := by decide

def kst : Zone := ⟨540, kst_range⟩

section Fields

/-- A day of the calendar and a time of that day, to the minute. -/
@[ext]
structure LocalTime where
  date : CivilDate
  hour : Int
  minute : Int

/-- What the clocks of a zone show at a time. -/
def localTime (zone : Zone) (ms : Int) : LocalTime where
  date := localDate zone ms
  hour := (ms + zone.minutes * 60000) % 86400000 / 3600000
  minute := (ms + zone.minutes * 60000) / 60000 % 60

/-- yyyyMMddHHmm -/
def timeText (time : LocalTime) : JsString :=
  (if 0 ≤ time.date.year ∧ time.date.year ≤ 9999 then pad 4 time.date.year.toNat
    else numberText time.date.year) ++
  (pad 2 time.date.month.toNat ++ (pad 2 time.date.day.toNat ++
    (pad 2 time.hour.toNat ++ pad 2 time.minute.toNat)))

end Fields

section Slices

theorem slice_front (width n : Nat) (rest : JsString) :
    slice (pad width n ++ rest) 0 width = pad width n := by
  rw [slice, List.drop_zero, Nat.sub_zero]
  exact List.take_left' (pad_length width n)

theorem slice_behind (width n : Nat) (rest : JsString) (first last : Nat) :
    slice (pad width n ++ rest) (width + first) (width + last) = slice rest first last := by
  have back : (pad width n ++ rest).drop (width + first) = rest.drop first := by
    rw [← List.drop_drop, List.drop_left' (pad_length width n)]
  rw [slice, back, slice, Nat.add_sub_add_left]

theorem slice_end (width n : Nat) : slice (pad width n) 0 width = pad width n := by
  simpa using slice_front width n []

end Slices

section Days

theorem date_utc_real {year month : Int} (years : 100 ≤ year) (months : 1 ≤ month ∧ month ≤ 12)
    (day hour minute second : Int) : dateUTC year (month - 1) day hour minute second =
      (dayNumber year month day - 719468) * 86400000 + hour * 3600000 + minute * 60000 +
        second * 1000 := by
  have long : ¬ (0 ≤ year ∧ year ≤ 99) := by omega
  have whole : (month - 1) / 12 = 0 := by omega
  have part : (month - 1) % 12 + 1 = month := by omega
  rw [dateUTC, fullYear, if_neg long, whole, part, Int.add_zero]

end Days

section Reading

def digitsOf (value : JsString) : JsString := value.filter isDigit

def number (value : JsString) (first last : Nat) : Int :=
  decimalValue (slice (digitsOf value) first last)

/-- The fields that the first twelve digits stand for, whatever their values. -/
def namedTime (value : JsString) : LocalTime :=
  ⟨⟨number value 0 4, number value 4 6, number value 6 8⟩, number value 8 10, number value 10 12⟩

def namedSecond (value : JsString) : Int :=
  if 14 ≤ (digitsOf value).length then number value 12 14 else 0

variable {value : JsString} {ms : Int}

theorem parse_eq_iff : parseTmapDateTime value = some ms ↔
    (12 ≤ (digitsOf value).length ∧ (digitsOf value).length ≤ 14) ∧
      ms + 540 * 60000 = dateUTC (namedTime value).date.year ((namedTime value).date.month - 1)
        (namedTime value).date.day (namedTime value).hour (namedTime value).minute
        (namedSecond value) := by
  have parsed : parseTmapDateTime value =
      if 12 ≤ (digitsOf value).length ∧ (digitsOf value).length ≤ 14 then
        some (dateUTC (namedTime value).date.year ((namedTime value).date.month - 1)
          (namedTime value).date.day (namedTime value).hour (namedTime value).minute
          (namedSecond value) - 540 * 60 * 1000)
      else none := rfl
  rw [parsed]
  generalize dateUTC _ _ _ _ _ _ = utc
  split_ifs with size
  · simp only [Option.some.injEq, size, true_and]
    omega
  · simp [size]

theorem all_digits_filter {text : JsString} (digits : text.all isDigit = true) :
    text.filter isDigit = text :=
  List.filter_eq_self.mpr (List.all_eq_true.mp digits)

/-- Two digits for each field but the year. -/
structure LocalTime.Short (time : LocalTime) : Prop where
  year : 0 ≤ time.date.year ∧ time.date.year ≤ 9999
  month : 0 ≤ time.date.month ∧ time.date.month ≤ 99
  day : 0 ≤ time.date.day ∧ time.date.day ≤ 99
  hour : 0 ≤ time.hour ∧ time.hour ≤ 99
  minute : 0 ≤ time.minute ∧ time.minute ≤ 99

theorem digits_of_time_text {time : LocalTime} (short : time.Short) :
    digitsOf (timeText time) = timeText time ∧ (timeText time).length = 12 := by
  rw [digitsOf, timeText, if_pos short.year]
  constructor
  · rw [all_digits_filter]
    simp [pad_all_digits]
  · simp [pad_length]

/-- The fields are read back from their text. -/
theorem named_time_text {time : LocalTime} (short : time.Short) :
    namedTime (timeText time) = time ∧ namedSecond (timeText time) = 0 := by
  obtain ⟨digits, length⟩ := digits_of_time_text short
  obtain ⟨year, month, day, hour, minute⟩ := short
  have text : timeText time = pad 4 time.date.year.toNat ++ (pad 2 time.date.month.toNat ++
      (pad 2 time.date.day.toNat ++ (pad 2 time.hour.toNat ++ pad 2 time.minute.toNat))) := by
    rw [timeText, if_pos year]
  have number_0 : decimalValue (slice (timeText time) 0 4) = time.date.year.toNat := by
    rw [text, slice_front, pad_value]
    omega
  have number_4 : decimalValue (slice (timeText time) 4 6) = time.date.month.toNat := by
    rw [text, slice_behind 4 _ _ 0 2, slice_front, pad_value]
    omega
  have number_6 : decimalValue (slice (timeText time) 6 8) = time.date.day.toNat := by
    rw [text, slice_behind 4 _ _ 2 4, slice_behind 2 _ _ 0 2, slice_front, pad_value]
    omega
  have number_8 : decimalValue (slice (timeText time) 8 10) = time.hour.toNat := by
    rw [text, slice_behind 4 _ _ 4 6, slice_behind 2 _ _ 2 4, slice_behind 2 _ _ 0 2, slice_front,
      pad_value]
    omega
  have number_10 : decimalValue (slice (timeText time) 10 12) = time.minute.toNat := by
    rw [text, slice_behind 4 _ _ 6 8, slice_behind 2 _ _ 4 6, slice_behind 2 _ _ 2 4,
      slice_behind 2 _ _ 0 2, slice_end, pad_value]
    omega
  constructor
  · simp only [namedTime, number, digits, number_0, number_4, number_6, number_8, number_10]
    exact LocalTime.ext (CivilDate.ext (Int.toNat_of_nonneg year.1) (Int.toNat_of_nonneg month.1)
      (Int.toNat_of_nonneg day.1)) (Int.toNat_of_nonneg hour.1) (Int.toNat_of_nonneg minute.1)
  · rw [namedSecond, digits, length, if_neg (by decide)]

theorem parse_time_text {time : LocalTime} (short : time.Short) {ms : Int} :
    parseTmapDateTime (timeText time) = some ms ↔ ms + 540 * 60000 = dateUTC time.date.year
      (time.date.month - 1) time.date.day time.hour time.minute 0 := by
  obtain ⟨digits, length⟩ := digits_of_time_text short
  obtain ⟨named, second⟩ := named_time_text short
  rw [parse_eq_iff, named, second, digits, length]
  simp

end Reading

section Months

def IsLeapYear (year : Int) : Prop := year % 4 = 0 ∧ (year % 100 ≠ 0 ∨ year % 400 = 0)

instance (year : Int) : Decidable (IsLeapYear year) :=
  inferInstanceAs (Decidable (_ ∧ _))

def daysInMonth (year month : Int) : Int :=
  if month = 2 then if IsLeapYear year then 29 else 28
  else if month = 4 ∨ month = 6 ∨ month = 9 ∨ month = 11 then 30 else 31

theorem day_number_month (year : Int) {month : Int} (months : 1 ≤ month ∧ month ≤ 12) :
    dayNumber (year + month / 12) (month % 12 + 1) 1 =
      dayNumber year month 1 + daysInMonth year month := by
  rcases (by omega : month = 1 ∨ month = 2 ∨ month = 3 ∨ month = 4 ∨ month = 5 ∨ month = 6 ∨
    month = 7 ∨ month = 8 ∨ month = 9 ∨ month = 10 ∨ month = 11 ∨ month = 12) with
    rfl | rfl | rfl | rfl | rfl | rfl | rfl | rfl | rfl | rfl | rfl | rfl <;>
    simp [dayNumber, daysInMonth, IsLeapYear] <;> omega

theorem day_number_day (year month day : Int) :
    dayNumber year month day = dayNumber year month 1 + (day - 1) := by
  simp only [dayNumber]
  omega

theorem civil_of_day_number {year month day : Int} (months : 1 ≤ month ∧ month ≤ 12)
    (days : 1 ≤ day ∧ day ≤ daysInMonth year month) :
    civilDate (marchDate (dayNumber year month day)) = ⟨year, month, day⟩ := by
  have first := day_number_day year month day
  have next := day_number_month year months
  obtain ⟨same_year, same_month⟩ := (in_month_iff months).mp
    (⟨by omega, by omega⟩ : dayNumber year month 1 ≤ dayNumber year month day ∧ _)
  have number := day_number_civil (dayNumber year month day)
  generalize civilDate (marchDate (dayNumber year month day)) = civil at *
  rw [same_year, same_month, day_number_day] at number
  exact CivilDate.ext same_year same_month (show civil.day = day by omega)

/-- The days of the calendar are those that a month has. -/
theorem civil_date_in_month (days : Int) : 1 ≤ (civilDate (marchDate days)).day ∧
    (civilDate (marchDate days)).day ≤ daysInMonth (civilDate (marchDate days)).year
      (civilDate (marchDate days)).month := by
  have range := month_and_day_range (day_of_year_range days)
  have inside := (in_month_iff range.1).mpr ⟨rfl, rfl⟩
  rw [day_number_month _ range.1] at inside
  have number := day_number_civil days
  rw [day_number_day] at number
  omega

end Months

section Digits

theorem pad_of_digits {text : JsString} (digits : ∀ u ∈ text, isDigit u = true) :
    pad text.length (decimalValue text) = text := by
  induction text using List.reverseRecOn with
  | nil => rfl
  | append_singleton front u ih =>
    have front_digits : ∀ v ∈ front, isDigit v = true :=
      fun v mem => digits v (List.mem_append_left _ mem)
    have last : isDigit u = true := digits u (List.mem_append_right _ List.mem_cons_self)
    simp only [isDigit, Bool.and_eq_true, decide_eq_true_eq, UInt16.le_iff_toNat_le] at last
    have low : 48 ≤ u.toNat := last.1
    have high : u.toNat ≤ 57 := last.2
    have value : decimalValue (front ++ [u]) = decimalValue front * 10 + (u.toNat - 48) := by
      simp [decimalValue]
    have tens : (decimalValue front * 10 + (u.toNat - 48)) / 10 = decimalValue front := by omega
    have unit_eq : digit (decimalValue front * 10 + (u.toNat - 48)) = u := by
      apply UInt16.toNat_inj.mp
      rw [digit, UInt16.toNat_ofNat']
      omega
    rw [value, List.length_append, List.length_singleton, pad, tens, ih front_digits, unit_eq]

theorem take_slices (text : JsString) : text.take 12 = slice text 0 4 ++ (slice text 4 6 ++
    (slice text 6 8 ++ (slice text 8 10 ++ slice text 10 12))) := by
  rw [show 12 = 4 + (2 + (2 + (2 + 2))) from rfl, List.take_add, List.take_add, List.take_add,
    List.take_add, List.drop_drop, List.drop_drop, List.drop_drop]
  rfl

end Digits

section RoundTrip

theorem short_year_near {days : Int} (short : (civilDate (marchDate days)).year ≤ 9999) :
    days ≤ 4000000 := by
  have number := day_number_civil days
  have range := month_and_day_range (day_of_year_range days)
  simp only [dayNumber] at number
  split at number <;> omega

variable {date : Date}

theorem format_eq
    (year : 1000 ≤ (localDate kst date.ms).year ∧ (localDate kst date.ms).year ≤ 9999) :
    formatTmapDateTime date = timeText (localTime kst date.ms) := by
  have day_eq : localDay kst date.ms = (date.ms + 9 * 60 * 60000) / 86400000 + 719468 := rfl
  have near := short_year_near year.2
  have valid : date.ms + 9 * 60 * 60000 ≤ 8640000000000000 := by omega
  have hour : ((date.ms + 9 * 60 * 60000) % 86400000).toNat / 3600000 =
      ((date.ms + 540 * 60000) % 86400000 / 3600000).toNat := by omega
  have minute : ((date.ms + 9 * 60 * 60000) % 86400000).toNat / 60000 % 60 =
      ((date.ms + 540 * 60000) / 60000 % 60).toNat := by omega
  have digits : numberText (localDate kst date.ms).year =
      pad 4 (localDate kst date.ms).year.toNat := by
    rw [← CalendarDays.four_digits (by omega), Int.toNat_of_nonneg (by omega)]
  simp only [formatTmapDateTime, if_pos valid, hour, minute, timeText, localTime,
    if_pos (show 0 ≤ (localDate kst date.ms).year ∧ _ from ⟨by omega, year.2⟩), ← digits,
    List.append_assoc]
  rfl

theorem local_time_short {ms : Int} (year : 0 ≤ (localDate kst ms).year ∧
    (localDate kst ms).year ≤ 9999) : (localTime kst ms).Short := by
  have range := month_and_day_range (day_of_year_range (localDay kst ms))
  refine ⟨year, ?_, ?_, ?_, ?_⟩
  · simp only [localTime, localDate]
    omega
  · simp only [localTime, localDate]
    omega
  · simp only [localTime]
    omega
  · simp only [localTime]
    omega

/-- The minute that the clocks show, read as a time. -/
theorem parse_local_time {ms : Int} (year : 100 ≤ (localDate kst ms).year ∧
    (localDate kst ms).year ≤ 9999) :
    parseTmapDateTime (timeText (localTime kst ms)) = some (ms / 60000 * 60000) := by
  have month : 1 ≤ (localDate kst ms).month ∧ (localDate kst ms).month ≤ 12 :=
    (month_and_day_range (day_of_year_range _)).1
  have number_eq : dayNumber (localDate kst ms).year (localDate kst ms).month
      (localDate kst ms).day = localDay kst ms := day_number_civil _
  have offset : kst.minutes = 540 := rfl
  rw [parse_time_text (local_time_short ⟨by omega, year.2⟩)]
  simp only [localTime]
  rw [date_utc_real year.1 month, number_eq, localDay, offset]
  omega

theorem parse_undoes_format (date : Date) (year : 1000 ≤ (localDate kst date.ms).year ∧
    (localDate kst date.ms).year ≤ 9999) :
    parseTmapDateTime (formatTmapDateTime date) = some (date.ms / 60000 * 60000) := by
  rw [format_eq year, parse_local_time (by omega)]

/-- In the last second of a year that is still another one in UTC, before the epoch. -/
theorem parse_undoes_format_at_new_year : (1000 ≤ (localDate kst (-32400001)).year ∧
      (localDate kst (-32400001)).year ≤ 9999) ∧
    parseTmapDateTime (formatTmapDateTime ⟨-32400001, by decide⟩) = some (-32460000) :=
  ⟨by decide, parse_undoes_format ⟨-32400001, by decide⟩ (by decide)⟩

end RoundTrip

section Accepted

/-- A day of the calendar from the year 100 on, and a time of a day. -/
structure RealTime (time : LocalTime) (second : Int) : Prop where
  year : 100 ≤ time.date.year
  month : 1 ≤ time.date.month ∧ time.date.month ≤ 12
  day : 1 ≤ time.date.day ∧ time.date.day ≤ daysInMonth time.date.year time.date.month
  hour : time.hour ≤ 23
  minute : time.minute ≤ 59
  second : second ≤ 59

variable {value : JsString} {ms : Int}

theorem digits_of_value (value : JsString) : ∀ u ∈ digitsOf value, isDigit u = true :=
  fun _ mem => (List.mem_filter.mp mem).2

theorem named_short (value : JsString) : (namedTime value).Short := by
  have below (first last size : Nat) (short : last - first ≤ size) :
      0 ≤ number value first last ∧ number value first last < 10 ^ size := by
    have less := TransitKeys.slice_value_lt (digits_of_value value) size short
    unfold number
    exact ⟨Int.natCast_nonneg _, by exact_mod_cast less⟩
  have year := below 0 4 4 (by decide)
  have month := below 4 6 2 (by decide)
  have day := below 6 8 2 (by decide)
  have hour := below 8 10 2 (by decide)
  have minute := below 10 12 2 (by decide)
  refine ⟨?_, ?_, ?_, ?_, ?_⟩ <;> simp only [namedTime] <;> omega

theorem named_second_range (value : JsString) : 0 ≤ namedSecond value ∧ namedSecond value ≤ 99 := by
  have less := TransitKeys.slice_value_lt (digits_of_value value) 2 (show 14 - 12 ≤ 2 by decide)
  unfold namedSecond number
  split_ifs <;> omega

/-- The fields are what the first twelve digits say. -/
theorem named_text (long : 12 ≤ (digitsOf value).length) :
    timeText (namedTime value) = (digitsOf value).take 12 := by
  have field (first last size : Nat) (inside : first + size = last) (short : last ≤ 12) :
      pad size (number value first last).toNat = slice (digitsOf value) first last := by
    have length : (slice (digitsOf value) first last).length = size := by
      simp only [slice, List.length_take, List.length_drop]
      omega
    have digits : ∀ u ∈ slice (digitsOf value) first last, isDigit u = true :=
      fun u mem => digits_of_value value u (List.mem_of_mem_drop (List.mem_of_mem_take mem))
    have whole := pad_of_digits digits
    rw [length] at whole
    exact whole
  rw [take_slices, timeText, if_pos (named_short value).year]
  simp only [namedTime]
  rw [field 0 4 4 rfl (by decide), field 4 6 2 rfl (by decide), field 6 8 2 rfl (by decide),
    field 8 10 2 rfl (by decide), field 10 12 2 rfl (by decide)]

theorem number_text_length {n : Int} (long : 9999 < n) : 5 ≤ (numberText n).length := by
  have digits : ∀ u ∈ numberText n, isDigit u = true := by
    intro u mem
    have positive : ¬ n < 0 := by omega
    rw [numberText, if_neg positive] at mem
    obtain ⟨c, in_digits, rfl⟩ := List.mem_map.mp mem
    have value :=
      SettingText.unit_digit (Nat.isDigit_of_mem_toDigits (by decide) (by decide) in_digits)
    simp only [isDigit, Bool.and_eq_true, decide_eq_true_eq, UInt16.le_iff_toNat_le]
    have low : (48 : UInt16).toNat = 48 := rfl
    have high : (57 : UInt16).toNat = 57 := rfl
    omega
  have value : decimalValue (numberText n) = n.natAbs := by
    rw [numberText, if_neg (by omega), SettingText.decimal_value_digits]
  have less := SettingText.decimal_value_lt digits
  by_contra short
  have power : 10 ^ (numberText n).length ≤ 10 ^ 4 := Nat.pow_le_pow_right (by decide) (by omega)
  omega

/-- A time whose year is not negative is read off its text. -/
theorem time_text_injective {time other : LocalTime} (short : other.Short)
    (year : 0 ≤ time.date.year) (within : time.date.year ≤ 9999 → time.Short)
    (same : timeText time = timeText other) : time = other := by
  by_cases long : 9999 < time.date.year
  · have lengths := congrArg List.length same
    have at_least := number_text_length long
    rw [timeText, if_neg (by omega), timeText, if_pos short.year] at lengths
    simp only [List.length_append, pad_length] at lengths
    omega
  · have own := within (by omega)
    rw [timeText, if_pos own.year, timeText, if_pos short.year] at same
    obtain ⟨own_year, own_month, own_day, own_hour, own_minute⟩ := own
    obtain ⟨other_year, other_month, other_day, other_hour, other_minute⟩ := short
    obtain ⟨years, same⟩ := pad_append_injective (by omega) (by omega) same
    obtain ⟨months, same⟩ := pad_append_injective (by omega) (by omega) same
    obtain ⟨days, same⟩ := pad_append_injective (by omega) (by omega) same
    obtain ⟨hours, same⟩ := pad_append_injective (by omega) (by omega) same
    have minutes := pad_injective (by omega) (by omega) same
    exact LocalTime.ext (CivilDate.ext (by omega) (by omega) (by omega)) (by omega) (by omega)

/-- What the clocks show is what the fields say exactly when these are a real time. -/
theorem local_time_eq_iff_real {time : LocalTime} {second : Int} (short : time.Short)
    (seconds : 0 ≤ second ∧ second ≤ 99)
    (utc : ms + 540 * 60000 = dateUTC time.date.year (time.date.month - 1) time.date.day time.hour
      time.minute second) : localTime kst ms = time ↔ RealTime time second := by
  have offset : kst.minutes = 540 := rfl
  obtain ⟨year, _, _, hour, minute⟩ := short
  constructor
  · rintro rfl
    have date : (localTime kst ms).date = civilDate (marchDate (localDay kst ms)) := rfl
    have day_of_ms : localDay kst ms = (ms + 540 * 60000) / 86400000 + 719468 := rfl
    have month := (month_and_day_range (day_of_year_range (localDay kst ms))).1
    have day := civil_date_in_month (localDay kst ms)
    have number_eq := day_number_civil (localDay kst ms)
    rw [← date] at month day number_eq
    have years : 100 ≤ (localTime kst ms).date.year := by
      by_contra early
      have whole : ((localTime kst ms).date.month - 1) / 12 = 0 := by omega
      have part : ((localTime kst ms).date.month - 1) % 12 + 1 = (localTime kst ms).date.month := by
        omega
      rw [dateUTC, fullYear, if_pos (by omega), whole, part, Int.add_zero] at utc
      have later : dayNumber (localTime kst ms).date.year (localTime kst ms).date.month
          (localTime kst ms).date.day < dayNumber (1900 + (localTime kst ms).date.year)
          (localTime kst ms).date.month (localTime kst ms).date.day := by
        simp only [dayNumber]
        omega
      omega
    rw [date_utc_real years month, number_eq] at utc
    refine ⟨years, month, day, ?_, ?_, ?_⟩ <;>
      simp only [localTime, offset] at utc hour minute ⊢ <;> omega
  · intro real
    rw [date_utc_real real.year real.month] at utc
    have clock := real.hour
    have minutes := real.minute
    have second_le := real.second
    have day_eq : localDay kst ms = dayNumber time.date.year time.date.month time.date.day := by
      rw [localDay, offset]
      omega
    have date : localDate kst ms = time.date := by
      rw [localDate, day_eq, civil_of_day_number real.month real.day]
    refine LocalTime.ext date ?_ ?_ <;> simp only [localTime, offset] <;> omega

/-- No field carries a time back behind the year 0. -/
theorem carried_year {time : LocalTime} {second : Int} (short : time.Short)
    (seconds : 0 ≤ second ∧ second ≤ 99)
    (utc : ms + 540 * 60000 = dateUTC time.date.year (time.date.month - 1) time.date.day time.hour
      time.minute second) : 0 ≤ (localDate kst ms).year := by
  obtain ⟨year, month, day, hour, minute⟩ := short
  have day_of_ms : localDay kst ms = (ms + 540 * 60000) / 86400000 + 719468 := rfl
  have number_eq := day_number_civil (localDay kst ms)
  have range := month_and_day_range (day_of_year_range (localDay kst ms))
  have late (full month day : Int) (years : 99 ≤ full) (months : 1 ≤ month ∧ month ≤ 12)
      (days : 0 ≤ day) : 0 < dayNumber full month day := by
    simp only [dayNumber]
    split_ifs <;> omega
  rw [dateUTC] at utc
  have full : 99 ≤ fullYear time.date.year + (time.date.month - 1) / 12 := by
    unfold fullYear
    split_ifs <;> omega
  have later := late _ ((time.date.month - 1) % 12 + 1) time.date.day full (by omega) day.1
  rw [localDate]
  generalize civilDate (marchDate (localDay kst ms)) = civil at *
  by_contra early
  simp only [dayNumber] at number_eq
  split_ifs at number_eq <;> omega

/-- The first twelve digits are what the parsed time shows on a Korean clock exactly when they are
    a real time whose seconds, if there are any, do not run into the next minute. -/
theorem rendered_iff_real_time (value : JsString) (ms : Int)
    (accepted : parseTmapDateTime value = some ms) :
    timeText (localTime kst ms) = (digitsOf value).take 12 ↔
      RealTime (namedTime value) (namedSecond value) := by
  obtain ⟨⟨long, _⟩, utc⟩ := parse_eq_iff.mp accepted
  have short := named_short value
  rw [← local_time_eq_iff_real short (named_second_range value) utc, ← named_text long]
  constructor
  · intro same
    have positive := carried_year short (named_second_range value) utc
    exact time_text_injective short positive (fun early => local_time_short ⟨positive, early⟩) same
  · intro same
    rw [same]

theorem local_time_real {ms : Int} (year : 100 ≤ (localDate kst ms).year) :
    RealTime (localTime kst ms) 0 where
  year := year
  month := (month_and_day_range (day_of_year_range _)).1
  day := civil_date_in_month _
  hour := by
    simp only [localTime]
    omega
  minute := by
    simp only [localTime]
    omega
  second := by decide

theorem bucket_of_minute (minutes ms : Int) :
    ms / 60000 * 60000 / (minutes * 60 * 1000) = ms / (minutes * 60 * 1000) := by
  have length : minutes * 60 * 1000 = 60000 * minutes := by omega
  rw [length, Int.mul_comm (ms / 60000), Int.mul_ediv_mul_of_pos _ _ (by decide), Int.ediv_ediv]
  simp

/-- A text that names no real time has the bucket, and so the cache key, of the text that it is
    carried over to. -/
theorem unreal_time_shares_bucket (accepted : parseTmapDateTime value = some ms)
    (year : 100 ≤ (localDate kst ms).year ∧ (localDate kst ms).year ≤ 9999)
    (bucketMinutes : Option Int) : ∃ other, RealTime (namedTime other) (namedSecond other) ∧
      getBucketInfo bucketMinutes other = getBucketInfo bucketMinutes value := by
  have short : (localTime kst ms).Short := local_time_short ⟨by omega, year.2⟩
  obtain ⟨named, second⟩ := named_time_text short
  refine ⟨timeText (localTime kst ms), ?_, ?_⟩
  · rw [named, second]
    exact local_time_real year.1
  · simp only [getBucketInfo, parse_local_time year, accepted]
    cases bucketMinutes.filter (1 ≤ ·) with
    | none => rfl
    | some minutes => simp [bucket_of_minute]

/-- The thirtieth of February is taken for the second of March. -/
theorem thirtieth_of_february_accepted : ¬ ∀ value ms, parseTmapDateTime value = some ms →
    timeText (localTime kst ms) = (digitsOf value).take 12 := by
  intro every
  have rendered := every (js "202602301200") 1772420400000 (by decide)
  revert rendered
  decide

theorem rendered_at_leap_day : parseTmapDateTime (js "2024-02-29 12:00:59") = some 1709175659000 ∧
    (timeText (localTime kst 1709175659000) =
        (digitsOf (js "2024-02-29 12:00:59")).take 12 ↔
      RealTime (namedTime (js "2024-02-29 12:00:59")) (namedSecond (js "2024-02-29 12:00:59"))) :=
  ⟨by decide, rendered_iff_real_time _ _ (by decide)⟩

end Accepted

end TmapTimes
