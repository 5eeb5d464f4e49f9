import Linkly.JsText
import Mathlib.Algebra.Order.Group.Nat

/-!
`Date.prototype.toISOString` on whole milliseconds since the epoch, in the proleptic Gregorian
calendar. Years are counted from March, so that the leap day is the last day of its year.
-/
namespace IsoDate
open JsText

def digit (n : Nat) : UInt16 := UInt16.ofNat (48 + n % 10)

/-- The last `width` decimal digits of a number. -/
def pad : Nat → Nat → JsString
  | 0, _ => []
  | width + 1, n => pad width (n / 10) ++ [digit n]

structure MarchDate where
  year : Int
  dayOfYear : Int

/-- The day with a number, counted from 1 March of the year 0. -/
def marchDate (days : Int) : MarchDate :=
  let era := days / 146097
  let dayOfEra := days % 146097
  let century := min (dayOfEra / 36524) 3
  let dayOfCentury := dayOfEra - century * 36524
  let cycle := dayOfCentury / 1461
  let dayOfCycle := dayOfCentury % 1461
  let yearOfCycle := min (dayOfCycle / 365) 3
  ⟨400 * era + 100 * century + 4 * cycle + yearOfCycle, dayOfCycle - yearOfCycle * 365⟩

@[ext]
structure CivilDate where
  year : Int
  month : Int
  day : Int

def civilDate (date : MarchDate) : CivilDate :=
  let marchMonth := (5 * date.dayOfYear + 2) / 153
  let month := if marchMonth < 10 then marchMonth + 3 else marchMonth - 9
  ⟨if month ≤ 2 then date.year + 1 else date.year, month,
    date.dayOfYear - (153 * marchMonth + 2) / 5 + 1⟩

def yearText (year : Int) : JsString :=
  if 0 ≤ year ∧ year ≤ 9999 then pad 4 year.toNat
  else if 0 ≤ year then unit '+' :: pad 6 year.toNat
  else unit '-' :: pad 6 (-year).toNat

def dateText (date : CivilDate) : JsString :=
  yearText date.year ++
    (unit '-' :: pad 2 date.month.toNat ++ unit '-' :: pad 2 date.day.toNat)

def timeText (msOfDay : Nat) : JsString :=
  pad 2 (msOfDay / 3600000) ++ unit ':' :: pad 2 (msOfDay / 60000 % 60) ++
    unit ':' :: pad 2 (msOfDay / 1000 % 60) ++ unit '.' :: pad 3 (msOfDay % 1000)

/-- The time value of a valid date: at most 100 000 000 days from the epoch. -/
structure Date where
  ms : Int
  range : -8640000000000000 ≤ ms ∧ ms ≤ 8640000000000000
  deriving DecidableEq, Repr

/-- 719468 days lie between 1 March of the year 0 and the epoch. -/
def Date.marchDate (date : Date) : MarchDate := IsoDate.marchDate (date.ms / 86400000 + 719468)

def toISOString (date : Date) : JsString :=
  dateText (civilDate date.marchDate) ++
    (unit 'T' :: timeText (date.ms % 86400000).toNat ++ [unit 'Z'])

section Digits

theorem digit_injective {n k : Nat} (same : digit n = digit k) : n % 10 = k % 10 := by
  have values := congrArg UInt16.toNat same
  simp only [digit, UInt16.toNat_ofNat'] at values
  omega

theorem pad_length (width n : Nat) : (pad width n).length = width := by
  induction width generalizing n with
  | zero => rfl
  | succ width ih => simp [pad, ih]

theorem pad_injective {width n k : Nat} (small_n : n < 10 ^ width) (small_k : k < 10 ^ width)
    (same : pad width n = pad width k) : n = k := by
  induction width generalizing n k with
  | zero => omega
  | succ width ih =>
    obtain ⟨front, last⟩ := List.append_inj same (by simp [pad_length])
    have high := ih (by omega) (by omega) front
    have low := digit_injective (List.singleton_inj.mp last)
    omega

theorem pad_digits {width n : Nat} {u : UInt16} (mem : u ∈ pad width n) : ∃ k, u = digit k := by
  induction width generalizing n with
  | zero => simp [pad] at mem
  | succ width ih =>
    rcases List.mem_append.mp mem with front | last
    · exact ih front
    · exact ⟨n, List.mem_singleton.mp last⟩

end Digits

section Calendar

theorem march_date_injective {a b : Int} (same : marchDate a = marchDate b) : a = b := by
  simp only [marchDate, MarchDate.mk.injEq] at same
  omega

theorem day_of_year_range (days : Int) :
    0 ≤ (marchDate days).dayOfYear ∧ (marchDate days).dayOfYear ≤ 365 := by
  simp only [marchDate]
  omega

theorem civil_date_injective {a b : MarchDate} (range_a : 0 ≤ a.dayOfYear ∧ a.dayOfYear ≤ 365)
    (range_b : 0 ≤ b.dayOfYear ∧ b.dayOfYear ≤ 365) (same : civilDate a = civilDate b) :
    a = b := by
  obtain ⟨year_a, day_a⟩ := a
  obtain ⟨year_b, day_b⟩ := b
  simp only [civilDate, CivilDate.mk.injEq] at same range_a range_b
  simp only [MarchDate.mk.injEq]
  omega

theorem month_and_day_range {date : MarchDate}
    (range : 0 ≤ date.dayOfYear ∧ date.dayOfYear ≤ 365) :
    (1 ≤ (civilDate date).month ∧ (civilDate date).month ≤ 12) ∧
      1 ≤ (civilDate date).day ∧ (civilDate date).day ≤ 31 := by
  simp only [civilDate]
  omega

theorem year_range {days : Int} (near : -200000000 ≤ days ∧ days ≤ 200000000) :
    -999999 ≤ (civilDate (marchDate days)).year ∧
      (civilDate (marchDate days)).year ≤ 999999 := by
  simp only [civilDate, marchDate]
  omega

theorem Date.days_near (date : Date) :
    -200000000 ≤ date.ms / 86400000 + 719468 ∧ date.ms / 86400000 + 719468 ≤ 200000000 := by
  have := date.range
  omega

theorem Date.year_range (date : Date) :
    -999999 ≤ (civilDate date.marchDate).year ∧ (civilDate date.marchDate).year ≤ 999999 :=
  IsoDate.year_range date.days_near

end Calendar

section Text

/-- A padded number in front of two texts that agree can be read back from them. -/
theorem pad_append_injective {width n k : Nat} {x y : JsString} (small_n : n < 10 ^ width)
    (small_k : k < 10 ^ width) (same : pad width n ++ x = pad width k ++ y) : n = k ∧ x = y := by
  obtain ⟨front, back⟩ := List.append_inj same (by simp [pad_length])
  exact ⟨pad_injective small_n small_k front, back⟩

theorem digit_not_sign (n : Nat) : digit n ≠ unit '+' ∧ digit n ≠ unit '-' := by
  constructor <;>
  · intro same
    have values := congrArg UInt16.toNat same
    simp [digit, unit] at values
    omega

theorem pad_head_not_sign {n : Nat} {sign : UInt16} {x y : JsString}
    (signed : sign = unit '+' ∨ sign = unit '-') : pad 4 n ++ x ≠ sign :: y := by
  intro same
  cases text : pad 4 n with
  | nil => simpa [text] using pad_length 4 n
  | cons head rest =>
    have first : head = sign := by
      rw [text] at same
      exact (List.cons.inj same).1
    obtain ⟨k, rfl⟩ := pad_digits (text ▸ List.mem_cons_self : head ∈ pad 4 n)
    rcases signed with plus | minus
    · exact (digit_not_sign k).1 (first.trans plus)
    · exact (digit_not_sign k).2 (first.trans minus)

theorem year_text_append_injective {a b : Int} {x y : JsString}
    (range_a : -999999 ≤ a ∧ a ≤ 999999) (range_b : -999999 ≤ b ∧ b ≤ 999999)
    (same : yearText a ++ x = yearText b ++ y) : a = b ∧ x = y := by
  unfold yearText at same
  split_ifs at same with short_a short_b late_b late_a short_b late_b short_b late_b
  · obtain ⟨number, rest⟩ := pad_append_injective (by omega) (by omega) same
    exact ⟨by omega, rest⟩
  · exact absurd same (pad_head_not_sign (Or.inl rfl))
  · exact absurd same (pad_head_not_sign (Or.inr rfl))
  · exact absurd same.symm (pad_head_not_sign (Or.inl rfl))
  · obtain ⟨number, rest⟩ := pad_append_injective (by omega) (by omega) (List.cons.inj same).2
    exact ⟨by omega, rest⟩
  · simp [unit] at same
  · exact absurd same.symm (pad_head_not_sign (Or.inr rfl))
  · simp [unit] at same
  · obtain ⟨number, rest⟩ := pad_append_injective (by omega) (by omega) (List.cons.inj same).2
    exact ⟨by omega, rest⟩

theorem day_text_append_injective {a b : Int} {x y : JsString}
    (near_a : -200000000 ≤ a ∧ a ≤ 200000000) (near_b : -200000000 ≤ b ∧ b ≤ 200000000)
    (same : dateText (civilDate (marchDate a)) ++ x = dateText (civilDate (marchDate b)) ++ y) :
    a = b ∧ x = y := by
  have range_a := month_and_day_range (day_of_year_range a)
  have range_b := month_and_day_range (day_of_year_range b)
  simp only [dateText, List.append_assoc, List.cons_append] at same
  obtain ⟨year, same⟩ := year_text_append_injective (year_range near_a) (year_range near_b) same
  obtain ⟨month, same⟩ := pad_append_injective (by omega) (by omega) (List.cons.inj same).2
  obtain ⟨day, rest⟩ := pad_append_injective (by omega) (by omega) (List.cons.inj same).2
  have civil : civilDate (marchDate a) = civilDate (marchDate b) :=
    CivilDate.ext year (by omega) (by omega)
  exact ⟨march_date_injective (civil_date_injective (day_of_year_range a) (day_of_year_range b)
    civil), rest⟩

theorem time_text_append_injective {n k : Nat} {x y : JsString} (small_n : n < 86400000)
    (small_k : k < 86400000) (same : timeText n ++ x = timeText k ++ y) : n = k ∧ x = y := by
  simp only [timeText, List.append_assoc, List.cons_append] at same
  obtain ⟨hours, same⟩ := pad_append_injective (by omega) (by omega) same
  obtain ⟨minutes, same⟩ := pad_append_injective (by omega) (by omega) (List.cons.inj same).2
  obtain ⟨seconds, same⟩ := pad_append_injective (by omega) (by omega) (List.cons.inj same).2
  obtain ⟨milliseconds, rest⟩ := pad_append_injective (by omega) (by omega) (List.cons.inj same).2
  exact ⟨by omega, rest⟩

/-- No two dates have the same text, and no text of a date starts that of another one. -/
theorem iso_append_injective {a b : Date} {x y : JsString}
    (same : toISOString a ++ x = toISOString b ++ y) : a = b ∧ x = y := by
  simp only [toISOString, List.append_assoc, List.cons_append] at same
  obtain ⟨days, same⟩ := day_text_append_injective a.days_near b.days_near same
  obtain ⟨clock, rest⟩ :=
    time_text_append_injective (by omega) (by omega) (List.cons.inj same).2
  refine ⟨?_, by simpa using rest⟩
  obtain ⟨ms_a, _⟩ := a
  obtain ⟨ms_b, _⟩ := b
  simp only [Date.mk.injEq] at days clock ⊢
  omega

end Text

example : toISOString ⟨951782400000, by decide⟩ = js "2000-02-29T00:00:00.000Z" := by decide

example : toISOString ⟨-62198755200001, by decide⟩ = js "-000002-12-31T23:59:59.999Z" := by decide

end IsoDate
