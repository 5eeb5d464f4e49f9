import Linkly.CalendarDays
import Linkly.UniqueReading

/-!
Birthdays and anniversaries in the settings: the day that is chosen in a date input, the instant
that the server stores for it, the text that the input offers later and the one that is shown.
-/
namespace SettingsDates
open JsText IsoDate LocalDate CalendarDays
open SettingText (numberText number_text_plain number_text_injective)
open UniqueReading (before_separator_injective)

/-- The text of a day with a number, as a date input has it for the years that it writes with four
    digits. -/
def inputText (day : Int) : JsString := dateText (civilDate (marchDate day))

/-- The value of the field: the part of the JSON text before its `T`. -/
def fieldValue (stored : Option Date) : JsString :=
  match stored with
  | some date => beforeT (toISOString date)
  | none => []

/-- The body of the request of `onSave`. -/
def onSave (val : JsString) : Option JsString := if val = [] then none else some val

/-- EditableField sends nothing when the text is the one it had. -/
def handleSave (value draft : JsString) : Option (Option JsString) :=
  if draft = value then none else some (onSave draft)

/-- What updateMe and updateCouple store. The database client rejects an invalid date, `none`. -/
def dateOfDto (server : Host) : Option JsString → Option (Option Date)
  | none => some none
  | some text => if text = [] then some none else (newDate server text).map some

def dateLabel (civil : CivilDate) : JsString :=
  numberText civil.year ++ js ". " ++ numberText civil.month ++ js ". " ++ numberText civil.day ++
    js "."

def formatDate (browser : Host) (iso : JsString) : JsString :=
  match newDate browser iso with
  | some date => dateLabel (localDate browser.zone date.ms)
  | none => js "NaN. NaN. NaN."

section Labels

theorem number_text_no_dot (n : Int) : unit '.' ∉ numberText n := by
  intro mem
  rcases number_text_plain mem with sign | digit
  · exact absurd sign (by decide)
  · exact absurd digit (by decide)

theorem date_label_injective {a b : CivilDate} (same : dateLabel a = dateLabel b) : a = b := by
  have parts (civil : CivilDate) : dateLabel civil = numberText civil.year ++ unit '.' ::
      (unit ' ' :: (numberText civil.month ++ unit '.' ::
        (unit ' ' :: (numberText civil.day ++ unit '.' :: [])))) := by
    simp [dateLabel, js]
  rw [parts, parts] at same
  obtain ⟨year, same⟩ :=
    before_separator_injective (number_text_no_dot _) (number_text_no_dot _) same
  obtain ⟨month, same⟩ := before_separator_injective (number_text_no_dot _)
    (number_text_no_dot _) (List.cons.inj same).2
  obtain ⟨day, _⟩ := before_separator_injective (number_text_no_dot _) (number_text_no_dot _)
    (List.cons.inj same).2
  exact CivilDate.ext (number_text_injective year) (number_text_injective month)
    (number_text_injective day)

end Labels

section Days
variable {day : Int} {date : Date}

theorem day_near (short : ShortYear (civilDate (marchDate day)).year) :
    0 ≤ day + 400 ∧ day ≤ 3660000 := by
  obtain ⟨era, century, cycle, yearOfCycle, year, of_year, _, _, _, _⟩ := march_year_parts day
  have range := day_of_year_range day
  simp only [ShortYear, civilDate] at short
  omega

/-- The midnight of UTC with which the day begins. -/
theorem midnight (short : ShortYear (civilDate (marchDate day)).year) :
    ∃ date : Date, date.ms = (day - 719468) * 86400000 := by
  obtain ⟨low, high⟩ := day_near short
  exact ⟨⟨(day - 719468) * 86400000, by omega⟩, rfl⟩

/-- A text that is a date alone is a time of UTC. -/
theorem new_date_day (short : ShortYear (civilDate (marchDate day)).year) (host : Host)
    (starts : date.ms = (day - 719468) * 86400000) : newDate host (inputText day) = some date := by
  have same_day : date.marchDate = marchDate day := by
    unfold Date.marchDate
    congr 1
    omega
  have range := month_and_day_range (day_of_year_range day)
  have month : (civilDate (marchDate day)).month.toNat % 10 ^ 2 =
      (civilDate (marchDate day)).month.toNat := by omega
  have of_month : (civilDate (marchDate day)).day.toNat % 10 ^ 2 =
      (civilDate (marchDate day)).day.toNat := by omega
  have read : fields (inputText day) = some ⟨(civilDate date.marchDate).year,
      (civilDate date.marchDate).month.toNat, (civilDate date.marchDate).day.toNat, 0, 0, 0, 0,
      some (1, 0, 0)⟩ := by
    have near := day_near short
    have years : -999999 ≤ (civilDate (marchDate day)).year ∧
        (civilDate (marchDate day)).year ≤ 999999 := year_range (by omega)
    have text : inputText day = yearText (civilDate (marchDate day)).year ++ (unit '-' ::
        (pad 2 (civilDate (marchDate day)).month.toNat ++ (unit '-' ::
          (pad 2 (civilDate (marchDate day)).day.toNat ++ [])))) := by
      simp [inputText, dateText]
    rw [same_day]
    simp only [text, fields, read_year_text years, read_part_pad, month, of_month, bind,
      Option.bind_some, if_true]
  simp only [newDate, read]
  rw [fields_date host.zone date _ (by omega) (by simp), ← time_clip_ms date]
  simp only [Fields.offsetMinutes]
  congr 1
  omega

/-- The day that the browser's calendar shows at a midnight of UTC. -/
theorem local_day_midnight (zone : Zone) (starts : date.ms = (day - 719468) * 86400000) :
    localDay zone date.ms = if 0 ≤ zone.minutes then day else day - 1 := by
  have range := zone.range
  unfold localDay
  split <;> omega

theorem field_value_midnight (starts : date.ms = (day - 719468) * 86400000) :
    fieldValue (some date) = inputText day := by
  have utc : localDay Zone.utc date.ms = day := by
    rw [local_day_midnight Zone.utc starts]
    rfl
  rw [fieldValue, before_t_iso, utc, inputText]

theorem input_text_ne_nil (day : Int) : inputText day ≠ [] := by
  simp [inputText, dateText]

theorem field_value_iff (short : ShortYear (civilDate (marchDate day)).year)
    (stored : Option Date) :
    inputText day = fieldValue stored ↔ ∃ date ∈ stored, localDay Zone.utc date.ms = day := by
  cases stored with
  | none => simp [fieldValue, input_text_ne_nil]
  | some date =>
    have near := day_near short
    rw [fieldValue, before_t_iso]
    constructor
    · intro same
      have texts : dateText (civilDate (marchDate day)) ++ [] =
          dateText (civilDate (marchDate (localDay Zone.utc date.ms))) ++ [] := by
        simpa [inputText] using same
      have days := day_text_append_injective (by omega)
        (local_day_near ⟨fun _ => none, Zone.utc⟩ date) texts
      exact ⟨date, rfl, days.1.symm⟩
    · rintro ⟨other, known, same⟩
      obtain rfl := Option.some.inj known
      rw [same, inputText]

end Days

/-- For every day of the years 0 to 9999, every stored date and every two time zones. -/
theorem chosen_day_round_trip (browser server : Host) (stored : Option Date) {day : Int}
    (short : ShortYear (civilDate (marchDate day)).year) :
    (handleSave (fieldValue stored) (inputText day) = none ↔
      ∃ date ∈ stored, localDay Zone.utc date.ms = day) ∧
    ∃ date, dateOfDto server (onSave (inputText day)) = some (some date) ∧
      date.ms = (day - 719468) * 86400000 ∧ fieldValue (some date) = inputText day ∧
      formatDate browser (fieldValue (some date)) = formatDate browser (toISOString date) ∧
      formatDate browser (toISOString date) =
        dateLabel (civilDate (marchDate (if 0 ≤ browser.zone.minutes then day else day - 1))) ∧
      (formatDate browser (toISOString date) = dateLabel (civilDate (marchDate day)) ↔
        0 ≤ browser.zone.minutes) := by
  obtain ⟨date, starts⟩ := midnight short
  have value := field_value_midnight starts
  have shown : formatDate browser (toISOString date) =
      dateLabel (civilDate (marchDate (if 0 ≤ browser.zone.minutes then day else day - 1))) := by
    rw [formatDate, new_date_iso]
    simp only [localDate, local_day_midnight browser.zone starts]
  refine ⟨?_, date, ?_, starts, value, ?_, shown, ?_⟩
  · rw [← field_value_iff short stored, handleSave]
    split <;> simp [*]
  · rw [onSave, if_neg (input_text_ne_nil day), dateOfDto, if_neg (input_text_ne_nil day),
      new_date_day short server starts]
    rfl
  · rw [value, formatDate, formatDate, new_date_iso, new_date_day short browser starts]
  · rw [shown]
    constructor
    · intro same
      by_contra west
      rw [if_neg west] at same
      have days := march_date_injective (civil_date_injective (day_of_year_range (day - 1))
        (day_of_year_range day) (date_label_injective same))
      omega
    · intro east
      rw [if_pos east]

def newfoundland : Host := ⟨fun _ => none, ⟨-210, by decide⟩⟩

/-- A birthday on a leap day. -/
theorem leap_day_shown_a_day_early : inputText 730484 = js "2000-02-29" ∧
    ∃ date, dateOfDto newfoundland (onSave (js "2000-02-29")) = some (some date) ∧
      formatDate newfoundland (toISOString date) ≠ js "2000. 2. 29." := by
  have text : inputText 730484 = js "2000-02-29" := by decide
  have label : dateLabel (civilDate (marchDate 730484)) = js "2000. 2. 29." := by decide
  have short : ShortYear (civilDate (marchDate 730484)).year := by decide
  obtain ⟨_, date, saved, _, _, _, _, shown⟩ :=
    chosen_day_round_trip newfoundland newfoundland none short
  rw [text] at saved
  rw [label] at shown
  exact ⟨text, date, saved, fun same => absurd (shown.mp same) (by decide)⟩

end SettingsDates
