import Linkly.IsoDate
import Linkly.SettingText

/-!
Dates in a time zone with a fixed offset: the local calendar, and `new Date` of a text in the date
time string format. What an engine makes of texts in other formats is left open.
-/
namespace LocalDate
open JsText IsoDate
open SettingText (decimalValue)

/-- The offset from UTC in minutes. -/
structure Zone where
  minutes : Int
  range : -1440 < minutes ∧ minutes < 1440
  deriving DecidableEq, Repr

def Zone.utc : Zone := ⟨0, by decide⟩

/-- The number of a day of the Gregorian calendar, counted from 1 March of the year 0. -/
def dayNumber (year month day : Int) : Int :=
  let marchYear := if month ≤ 2 then year - 1 else year
  let marchMonth := if month ≤ 2 then month + 9 else month - 3
  365 * marchYear + marchYear / 4 - marchYear / 100 + marchYear / 400 +
    (153 * marchMonth + 2) / 5 + day - 1

/-- The years 0 to 99 of `Date.UTC` and `new Date` are those of the 20th century. -/
def fullYear (year : Int) : Int := if 0 ≤ year ∧ year ≤ 99 then 1900 + year else year

/-- 719468 days lie between day 0 and the epoch. -/
def localDay (zone : Zone) (ms : Int) : Int := (ms + zone.minutes * 60000) / 86400000 + 719468

/-- The date that a local calendar shows at a time. -/
def localDate (zone : Zone) (ms : Int) : CivilDate := civilDate (marchDate (localDay zone ms))

def timeClip (ms : Int) : Option Date :=
  if range : -8640000000000000 ≤ ms ∧ ms ≤ 8640000000000000 then some ⟨ms, range⟩ else none

section Reading

def readDigits (width : Nat) (text : JsString) : Option (Nat × JsString) :=
  if (text.take width).length = width ∧ (text.take width).all isDigit then
    some (decimalValue (text.take width), text.drop width)
  else none

def readLead (lead : Char) (width : Nat) : JsString → Option (Nat × JsString)
  | [] => none
  | u :: rest => if u = unit lead then readDigits width rest else none

/-- A part of the format that may be missing, with the value that stands for it then. -/
def readPart (lead : Char) (width missing : Nat) (text : JsString) : Option (Nat × JsString) :=
  if text.head? = some (unit lead) then readLead lead width text else some (missing, text)

/-- Seconds may be missing, and so may their thousandths. -/
def readSeconds (text : JsString) : Option ((Nat × Nat) × JsString) :=
  if text.head? = some (unit ':') then do
    let (second, text) ← readLead ':' 2 text
    let (millisecond, text) ← readPart '.' 3 0 text
    some ((second, millisecond), text)
  else some ((0, 0), text)

/-- Four digits, or a sign and six digits. There is no year -000000. -/
def readYear : JsString → Option (Int × JsString)
  | [] => none
  | u :: rest =>
    if u = unit '+' then (readDigits 6 rest).map fun read => (read.1, read.2)
    else if u = unit '-' then
      (readDigits 6 rest).bind fun read => if read.1 = 0 then none else some (-read.1, read.2)
    else (readDigits 4 (u :: rest)).map fun read => (read.1, read.2)

/-- An offset has a sign, hours and minutes. -/
abbrev Offset := Int × Nat × Nat

/-- `some none` is a time without an offset. -/
def readOffset : JsString → Option (Option Offset)
  | [] => some none
  | u :: rest => do
    if u = unit 'Z' then
      if rest = [] then some (some (1, 0, 0)) else none
    else
      let sign ← if u = unit '+' then some 1 else if u = unit '-' then some (-1) else none
      let (hours, text) ← readDigits 2 rest
      let (minutes, text) ← readLead ':' 2 text
      if text = [] then some (some (sign, hours, minutes)) else none

structure Fields where
  year : Int
  month : Nat
  day : Nat
  hour : Nat
  minute : Nat
  second : Nat
  millisecond : Nat
  offset : Option Offset
  deriving DecidableEq, Repr

/-- The parts of a text in the format. A date without a time is one of UTC. -/
def fields (text : JsString) : Option Fields := do
  let (year, text) ← readYear text
  let (month, text) ← readPart '-' 2 1 text
  let (day, text) ← readPart '-' 2 1 text
  if text = [] then some ⟨year, month, day, 0, 0, 0, 0, some (1, 0, 0)⟩
  else
    let (hour, text) ← readLead 'T' 2 text
    let (minute, text) ← readLead ':' 2 text
    let ((second, millisecond), text) ← readSeconds text
    let offset ← readOffset text
    some ⟨year, month, day, hour, minute, second, millisecond, offset⟩

def Fields.Legal (f : Fields) : Prop :=
  (1 ≤ f.month ∧ f.month ≤ 12) ∧ (1 ≤ f.day ∧ f.day ≤ 31) ∧
    (f.hour ≤ 23 ∨ f.hour = 24 ∧ f.minute = 0 ∧ f.second = 0 ∧ f.millisecond = 0) ∧
    f.minute ≤ 59 ∧ f.second ≤ 59 ∧ ∀ offset ∈ f.offset, offset.2.1 ≤ 23 ∧ offset.2.2 ≤ 59

instance (f : Fields) : Decidable f.Legal := inferInstanceAs (Decidable (_ ∧ _))

def Fields.offsetMinutes (zone : Zone) (f : Fields) : Int :=
  match f.offset with
  | none => zone.minutes
  | some (sign, hours, minutes) => sign * (60 * hours + minutes)

def Fields.date (zone : Zone) (f : Fields) : Option Date :=
  if f.Legal then
    timeClip ((dayNumber f.year f.month f.day - 719468) * 86400000 + f.hour * 3600000 +
      f.minute * 60000 + f.second * 1000 + f.millisecond - f.offsetMinutes zone * 60000)
  else none

/-- Where JavaScript runs. -/
structure Host where
  engine : JsString → Option Date
  zone : Zone

/-- `new Date(text)`, `none` for an invalid date. -/
def newDate (host : Host) (text : JsString) : Option Date :=
  match fields text with
  | some f => f.date host.zone
  | none => host.engine text

end Reading

section Calendar

theorem march_year_parts (days : Int) : ∃ era century cycle yearOfCycle : Int,
    (marchDate days).year = 400 * era + 100 * century + 4 * cycle + yearOfCycle ∧
    (marchDate days).dayOfYear =
      days - 146097 * era - 36524 * century - 1461 * cycle - 365 * yearOfCycle ∧
    (0 ≤ century ∧ century ≤ 3) ∧ (0 ≤ cycle ∧ cycle ≤ 24) ∧
    (0 ≤ yearOfCycle ∧ yearOfCycle ≤ 3) ∧ ((marchDate days).dayOfYear ≤ 364 ∨
      yearOfCycle = 3 ∧ (marchDate days).dayOfYear = 365 ∧ (cycle ≤ 23 ∨ century = 3)) := by
  refine ⟨_, _, _, _, rfl, ?_, ?_, ?_, ?_, ?_⟩
  · simp only [marchDate]
    omega
  · omega
  · omega
  · omega
  · simp only [marchDate]
    omega

/-- The first day of a year that starts in March. -/
def marchYearStart (year : Int) : Int := 365 * year + year / 4 - year / 100 + year / 400

theorem march_year_start_mono {a b : Int} (le : a ≤ b) : marchYearStart a ≤ marchYearStart b := by
  unfold marchYearStart
  omega

theorem march_year_start_parts {era century cycle yearOfCycle : Int}
    (centuries : 0 ≤ century ∧ century ≤ 3) (cycles : 0 ≤ cycle ∧ cycle ≤ 24)
    (years : 0 ≤ yearOfCycle ∧ yearOfCycle ≤ 3) :
    marchYearStart (400 * era + 100 * century + 4 * cycle + yearOfCycle) =
      146097 * era + 36524 * century + 1461 * cycle + 365 * yearOfCycle := by
  have quarters : (400 * era + 100 * century + 4 * cycle + yearOfCycle) / 4 =
      100 * era + 25 * century + cycle := by omega
  have hundreds : (400 * era + 100 * century + 4 * cycle + yearOfCycle) / 100 =
      4 * era + century := by omega
  have eras : (400 * era + 100 * century + 4 * cycle + yearOfCycle) / 400 = era := by omega
  rw [marchYearStart, quarters, hundreds, eras]
  omega

theorem march_year_days (days : Int) : days = marchYearStart (marchDate days).year +
    (marchDate days).dayOfYear ∧ days < marchYearStart ((marchDate days).year + 1) := by
  obtain ⟨era, century, cycle, yearOfCycle, year, day, centuries, cycles, years, last⟩ :=
    march_year_parts days
  rw [year]
  constructor
  · rw [march_year_start_parts centuries cycles years]
    omega
  -- The next year is one of the same cycle, or it starts a cycle, a century or an era.
  · rcases (by omega : yearOfCycle ≤ 2 ∨ yearOfCycle = 3 ∧ cycle ≤ 23 ∨
      yearOfCycle = 3 ∧ cycle = 24 ∧ century ≤ 2 ∨ yearOfCycle = 3 ∧ cycle = 24 ∧ century = 3) with
      within | ⟨rfl, within⟩ | ⟨rfl, rfl, within⟩ | ⟨rfl, rfl, rfl⟩
    · rw [Int.add_assoc _ yearOfCycle 1, march_year_start_parts centuries cycles (by omega)]
      omega
    · have next : 400 * era + 100 * century + 4 * cycle + 3 + 1 =
          400 * era + 100 * century + 4 * (cycle + 1) + 0 := by omega
      rw [next, march_year_start_parts centuries (by omega) (by decide)]
      omega
    · have next : 400 * era + 100 * century + 4 * 24 + 3 + 1 =
          400 * era + 100 * (century + 1) + 4 * 0 + 0 := by omega
      rw [next, march_year_start_parts (by omega) (by decide) (by decide)]
      omega
    · have next : 400 * era + 100 * 3 + 4 * 24 + 3 + 1 =
          400 * (era + 1) + 100 * 0 + 4 * 0 + 0 := by omega
      rw [next, march_year_start_parts (by decide) (by decide) (by decide)]
      omega

theorem day_number_march (date : MarchDate) (range : 0 ≤ date.dayOfYear ∧ date.dayOfYear ≤ 365) :
    dayNumber (civilDate date).year (civilDate date).month (civilDate date).day =
      marchYearStart date.year + date.dayOfYear := by
  obtain ⟨year, day⟩ := date
  simp only [dayNumber, civilDate, marchYearStart] at range ⊢
  split_ifs <;> omega

theorem day_number_civil (days : Int) :
    dayNumber (civilDate (marchDate days)).year (civilDate (marchDate days)).month
      (civilDate (marchDate days)).day = days := by
  rw [day_number_march _ (day_of_year_range days)]
  exact (march_year_days days).1.symm

/-- The months of a year that starts in March, from 0 to 11. -/
def marchMonthEnd (year month : Int) : Int :=
  if month = 11 then marchYearStart (year + 1)
  else marchYearStart year + (153 * (month + 1) + 2) / 5

theorem in_march_month_iff {days year month : Int} (range : 0 ≤ month ∧ month ≤ 11) :
    marchYearStart year + (153 * month + 2) / 5 ≤ days ∧ days < marchMonthEnd year month ↔
      (marchDate days).year = year ∧ (5 * (marchDate days).dayOfYear + 2) / 153 = month := by
  obtain ⟨start, stop⟩ := march_year_days days
  have day := day_of_year_range days
  generalize (marchDate days).year = own, (marchDate days).dayOfYear = dayOfYear at *
  have year_length : marchYearStart year + 365 ≤ marchYearStart (year + 1) := by
    unfold marchYearStart
    omega
  unfold marchMonthEnd
  constructor
  · rintro ⟨from_first, to_next⟩
    have same : own = year := by
      rcases Int.lt_trichotomy own year with less | same | more
      · have := march_year_start_mono (show own + 1 ≤ year by omega)
        split at to_next <;> omega
      · exact same
      · have := march_year_start_mono (show year + 1 ≤ own by omega)
        split at to_next <;> omega
    subst same
    split at to_next <;> omega
  · rintro ⟨rfl, same⟩
    split <;> omega

theorem day_number_first (year month : Int) : dayNumber year month 1 =
    marchYearStart (if month ≤ 2 then year - 1 else year) +
      (153 * (if month ≤ 2 then month + 9 else month - 3) + 2) / 5 := by
  simp only [dayNumber, marchYearStart]
  omega

theorem day_number_next {year month : Int} (range : 1 ≤ month ∧ month ≤ 12) :
    dayNumber (year + month / 12) (month % 12 + 1) 1 =
      marchMonthEnd (if month ≤ 2 then year - 1 else year)
        (if month ≤ 2 then month + 9 else month - 3) := by
  unfold marchMonthEnd
  rw [day_number_first]
  rcases (by omega : month = 1 ∨ month = 2 ∨ 3 ≤ month ∧ month ≤ 11 ∨ month = 12) with
    rfl | rfl | within | rfl
  · simp
  · simp
  · have same : month / 12 = 0 := by omega
    have next : month % 12 = month := by omega
    rw [same, next, if_neg (by omega), if_neg (by omega), if_neg (by omega), if_neg (by omega),
      if_neg (by omega), Int.add_zero, show month + 1 - 3 = month - 3 + 1 by omega]
  · simp

/-- A day lies in a month of the calendar exactly if it is between the firsts of it and the next. -/
theorem in_month_iff {days year month : Int} (range : 1 ≤ month ∧ month ≤ 12) :
    dayNumber year month 1 ≤ days ∧ days < dayNumber (year + month / 12) (month % 12 + 1) 1 ↔
      (civilDate (marchDate days)).year = year ∧ (civilDate (marchDate days)).month = month := by
  have day := day_of_year_range days
  rw [day_number_first, day_number_next range, in_march_month_iff (by split <;> omega)]
  simp only [civilDate]
  omega

end Calendar

section Digits

theorem digit_is_digit (n : Nat) : isDigit (digit n) = true := by
  have digits : ∀ d : Fin 10, isDigit (UInt16.ofNat (48 + d)) = true := by decide
  exact digits ⟨n % 10, Nat.mod_lt _ (by decide)⟩

theorem digit_value (n : Nat) : (digit n).toNat - 48 = n % 10 := by
  simp only [digit, UInt16.toNat_ofNat']
  omega

theorem pad_value (width n : Nat) : decimalValue (pad width n) = n % 10 ^ width := by
  induction width generalizing n with
  | zero => simp [pad, decimalValue, Nat.mod_one]
  | succ width ih =>
    have front := ih (n / 10)
    unfold decimalValue at front ⊢
    rw [pad, List.foldl_append, front, List.foldl_cons, List.foldl_nil, digit_value, Nat.pow_succ',
      Nat.mod_mul, Nat.add_comm, Nat.mul_comm]

theorem pad_all_digits (width n : Nat) : (pad width n).all isDigit = true := by
  rw [List.all_eq_true]
  intro u mem
  obtain ⟨k, rfl⟩ := pad_digits mem
  exact digit_is_digit k

theorem read_digits_pad (width n : Nat) (rest : JsString) :
    readDigits width (pad width n ++ rest) = some (n % 10 ^ width, rest) := by
  have front : (pad width n ++ rest).take width = pad width n :=
    List.take_left' (pad_length width n)
  have back : (pad width n ++ rest).drop width = rest := List.drop_left' (pad_length width n)
  simp only [readDigits, front, back, pad_length, pad_all_digits, pad_value, and_self, if_true]

theorem read_lead_pad (lead : Char) (width n : Nat) (rest : JsString) :
    readLead lead width (unit lead :: (pad width n ++ rest)) = some (n % 10 ^ width, rest) := by
  rw [readLead, if_pos rfl, read_digits_pad]

theorem read_part_pad (lead : Char) (width missing n : Nat) (rest : JsString) :
    readPart lead width missing (unit lead :: (pad width n ++ rest)) =
      some (n % 10 ^ width, rest) := by
  rw [readPart, if_pos List.head?_cons, read_lead_pad]

theorem read_year_text {year : Int} (range : -999999 ≤ year ∧ year ≤ 999999) (rest : JsString) :
    readYear (yearText year ++ rest) = some (year, rest) := by
  unfold yearText
  split_ifs with short positive
  · have digits := read_digits_pad 4 year.toNat rest
    cases text : pad 4 year.toNat with
    | nil => simpa [text] using pad_length 4 year.toNat
    | cons u more =>
      obtain ⟨k, rfl⟩ := pad_digits (text ▸ List.mem_cons_self : u ∈ pad 4 year.toNat)
      rw [text, List.cons_append] at digits
      rw [List.cons_append, readYear, if_neg (digit_not_sign k).1, if_neg (digit_not_sign k).2,
        digits]
      simp only [Option.map_some, Option.some.injEq, Prod.mk.injEq, and_true]
      omega
  · rw [List.cons_append, readYear, if_pos rfl, read_digits_pad]
    simp only [Option.map_some, Option.some.injEq, Prod.mk.injEq, and_true]
    omega
  · rw [List.cons_append, readYear, if_neg (by decide), if_pos rfl, read_digits_pad]
    have small : (-year).toNat % 10 ^ 6 = (-year).toNat := by omega
    have positive : (-year).toNat ≠ 0 := by omega
    rw [small, Option.bind_some, if_neg positive]
    simp only [Option.some.injEq, Prod.mk.injEq, and_true]
    omega

end Digits

section RoundTrip

/-- What the two texts of a date have in common: its day in front. -/
theorem fields_date_text (date : Date) (rest : JsString) :
    fields (dateText (civilDate date.marchDate) ++ unit 'T' :: rest) = (do
      let (hour, text) ← readLead 'T' 2 (unit 'T' :: rest)
      let (minute, text) ← readLead ':' 2 text
      let ((second, millisecond), text) ← readSeconds text
      let offset ← readOffset text
      some ⟨(civilDate date.marchDate).year, (civilDate date.marchDate).month.toNat,
        (civilDate date.marchDate).day.toNat, hour, minute, second, millisecond, offset⟩) := by
  have range := month_and_day_range (day_of_year_range (date.ms / 86400000 + 719468))
  rw [← Date.marchDate] at range
  have month : (civilDate date.marchDate).month.toNat % 10 ^ 2 =
      (civilDate date.marchDate).month.toNat := by omega
  have day : (civilDate date.marchDate).day.toNat % 10 ^ 2 =
      (civilDate date.marchDate).day.toNat := by omega
  simp only [dateText, List.append_assoc, List.cons_append, fields, read_year_text date.year_range,
    read_part_pad, month, day, bind, Option.bind_some, reduceCtorEq, if_false]

variable (host : Host) (zone : Zone) (date : Date)

/-- The time of the local calendar is read back, whatever the offset is. -/
theorem fields_date {hour minute second millisecond : Nat} (offset : Option Offset)
    (clock : hour < 24 ∧ minute < 60 ∧ second < 60)
    (small : ∀ o ∈ offset, o.2.1 ≤ 23 ∧ o.2.2 ≤ 59) :
    let f : Fields := ⟨(civilDate date.marchDate).year, (civilDate date.marchDate).month.toNat,
      (civilDate date.marchDate).day.toNat, hour, minute, second, millisecond, offset⟩
    f.date zone = timeClip (date.ms / 86400000 * 86400000 + hour * 3600000 + minute * 60000 +
      second * 1000 + millisecond - f.offsetMinutes zone * 60000) := by
  have range := month_and_day_range (day_of_year_range (date.ms / 86400000 + 719468))
  have days := day_number_civil (date.ms / 86400000 + 719468)
  rw [← Date.marchDate] at range days
  have month : ((civilDate date.marchDate).month.toNat : Int) = (civilDate date.marchDate).month :=
    Int.toNat_of_nonneg (by omega)
  have day : ((civilDate date.marchDate).day.toNat : Int) = (civilDate date.marchDate).day :=
    Int.toNat_of_nonneg (by omega)
  intro f
  have legal : f.Legal := by
    refine ⟨?_, ?_, ?_, ?_, ?_, small⟩ <;> simp only [f] <;> omega
  rw [Fields.date, if_pos legal]
  simp only [f, month, day, days]
  congr 2
  omega

theorem time_clip_ms : timeClip date.ms = some date := by
  rw [timeClip, dif_pos date.range]

/-- The digits of a part that is small enough are the part. -/
theorem clock_parts (msOfDay : Nat) (small : msOfDay < 86400000) :
    msOfDay / 3600000 % 10 ^ 2 = msOfDay / 3600000 ∧
      msOfDay / 60000 % 60 % 10 ^ 2 = msOfDay / 60000 % 60 ∧
      msOfDay / 1000 % 60 % 10 ^ 2 = msOfDay / 1000 % 60 ∧
      msOfDay % 1000 % 10 ^ 3 = msOfDay % 1000 := by
  omega

theorem new_date_iso : newDate host (toISOString date) = some date := by
  obtain ⟨msOfDay, ms⟩ : ∃ n : Nat, date.ms % 86400000 = n :=
    Int.eq_ofNat_of_zero_le (Int.emod_nonneg _ (by decide))
  have small : msOfDay < 86400000 := by omega
  obtain ⟨hour, minute, second, millisecond⟩ := clock_parts msOfDay small
  have read : fields (toISOString date) = some ⟨(civilDate date.marchDate).year,
      (civilDate date.marchDate).month.toNat, (civilDate date.marchDate).day.toNat,
      msOfDay / 3600000, msOfDay / 60000 % 60, msOfDay / 1000 % 60, msOfDay % 1000,
      some (1, 0, 0)⟩ := by
    simp only [toISOString, ms, Int.toNat_natCast, timeText, List.append_assoc, List.cons_append,
      fields_date_text, read_lead_pad, readSeconds, List.head?_cons, if_true, read_part_pad, hour,
      minute, second, millisecond, bind, Option.bind_some]
    rfl
  simp only [newDate, read]
  rw [fields_date host.zone date _ (by omega) (by simp), ← time_clip_ms date]
  simp only [Fields.offsetMinutes]
  congr 1
  omega

/-- The text of a date down to its minute. -/
def minuteText : JsString :=
  dateText (civilDate date.marchDate) ++ unit 'T' ::
    (pad 2 ((date.ms % 86400000).toNat / 3600000) ++ unit ':' ::
      (pad 2 ((date.ms % 86400000).toNat / 60000 % 60) ++ []))

theorem iso_eq_minute_text : ∃ rest, toISOString date = minuteText date ++ rest := by
  refine ⟨unit ':' :: pad 2 ((date.ms % 86400000).toNat / 1000 % 60) ++ unit '.' ::
    pad 3 ((date.ms % 86400000).toNat % 1000) ++ [unit 'Z'], ?_⟩
  simp [toISOString, timeText, minuteText]

theorem minute_text_length : (minuteText date).length =
    (yearText (civilDate date.marchDate).year).length + 12 := by
  simp [minuteText, dateText, pad_length]

def ShortYear (year : Int) : Prop := 0 ≤ year ∧ year ≤ 9999

instance (year : Int) : Decidable (ShortYear year) := inferInstanceAs (Decidable (_ ∧ _))

theorem year_text_length (year : Int) :
    (yearText year).length = if ShortYear year then 4 else 7 := by
  by_cases short : ShortYear year
  · have range : 0 ≤ year ∧ year ≤ 9999 := short
    rw [if_pos short, yearText, if_pos range, pad_length]
  · have range : ¬ (0 ≤ year ∧ year ≤ 9999) := short
    rw [if_neg short, yearText, if_neg range]
    split <;> simp [pad_length]

theorem take_iso : (toISOString date).take 16 = (minuteText date).take 16 := by
  obtain ⟨rest, split_at⟩ := iso_eq_minute_text date
  rw [split_at, List.take_append_of_le_length]
  rw [minute_text_length, year_text_length]
  split_ifs <;> decide

theorem minute_text_congr {a b : Date} (same : a.ms / 60000 = b.ms / 60000) :
    minuteText a = minuteText b := by
  have day : a.marchDate = b.marchDate := by
    unfold Date.marchDate
    congr 2
    omega
  have hour : (a.ms % 86400000).toNat / 3600000 = (b.ms % 86400000).toNat / 3600000 := by omega
  have minute : (a.ms % 86400000).toNat / 60000 % 60 = (b.ms % 86400000).toNat / 60000 % 60 := by
    omega
  rw [minuteText, minuteText, day, hour, minute]

/-- A time to the minute without an offset, as the value of a `datetime-local` input. -/
theorem new_date_local (short : ShortYear (civilDate date.marchDate).year) :
    newDate host ((toISOString date).take 16) =
      timeClip (date.ms / 60000 * 60000 - host.zone.minutes * 60000) := by
  obtain ⟨msOfDay, ms⟩ : ∃ n : Nat, date.ms % 86400000 = n :=
    Int.eq_ofNat_of_zero_le (Int.emod_nonneg _ (by decide))
  have small : msOfDay < 86400000 := by omega
  obtain ⟨hour, minute, _, _⟩ := clock_parts msOfDay small
  have whole : (toISOString date).take 16 = minuteText date := by
    rw [take_iso, List.take_of_length_le]
    rw [minute_text_length, year_text_length, if_pos short]
  have read : fields ((toISOString date).take 16) = some ⟨(civilDate date.marchDate).year,
      (civilDate date.marchDate).month.toNat, (civilDate date.marchDate).day.toNat,
      msOfDay / 3600000, msOfDay / 60000 % 60, 0, 0, none⟩ := by
    simp only [whole, minuteText, ms, Int.toNat_natCast, fields_date_text, read_lead_pad, hour,
      minute, bind, Option.bind_some]
    rfl
  simp only [newDate, read]
  rw [fields_date host.zone date _ (by omega) (by simp)]
  simp only [Fields.offsetMinutes]
  congr 1
  omega

theorem short_year_range (short : ShortYear (civilDate date.marchDate).year) :
    -62200000000000 ≤ date.ms ∧ date.ms ≤ 253500000000000 := by
  have days := day_of_year_range (date.ms / 86400000 + 719468)
  obtain ⟨era, century, cycle, yearOfCycle, year, day, _, _, _, _⟩ :=
    march_year_parts (date.ms / 86400000 + 719468)
  simp only [ShortYear, civilDate, Date.marchDate] at short
  omega

/-- With a year of more digits, the same part of the text ends after the hour. -/
theorem new_date_cut (long : ¬ ShortYear (civilDate date.marchDate).year) :
    newDate host ((toISOString date).take 16) = host.engine ((toISOString date).take 16) := by
  have cut : (toISOString date).take 16 = dateText (civilDate date.marchDate) ++ unit 'T' ::
      (pad 2 ((date.ms % 86400000).toNat / 3600000) ++ []) := by
    have front : minuteText date = (dateText (civilDate date.marchDate) ++ unit 'T' ::
        (pad 2 ((date.ms % 86400000).toNat / 3600000) ++ [])) ++
          (unit ':' :: (pad 2 ((date.ms % 86400000).toNat / 60000 % 60) ++ [])) := by
      simp [minuteText]
    rw [take_iso, front]
    refine List.take_left' ?_
    have year := year_text_length (civilDate date.marchDate).year
    rw [if_neg long] at year
    simp [dateText, year, pad_length]
  have unread : fields ((toISOString date).take 16) = none := by
    rw [cut, fields_date_text]
    simp only [read_lead_pad, bind, Option.bind_some]
    rfl
  rw [newDate, unread]

end RoundTrip

end LocalDate
