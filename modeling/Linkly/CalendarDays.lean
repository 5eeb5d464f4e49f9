import Linkly.CalendarTab

/-!
The days on which events are shown. The client cuts the day of an event out of its time in UTC, the
cells of the calendar are days of the browser's zone, and the server reads a month in its own zone.
-/
namespace CalendarDays
open JsText IsoDate LocalDate EventService CalendarTab
open SettingText (decimalValue numberText)

variable {Num : Type}

/-- `text.startsWith(start)` -/
def startsWith (start text : JsString) : Bool := start.isPrefixOf text

def eventsOnDay (events : List (CalendarEventData Num)) (dateStr : JsString) :
    List (CalendarEventData Num) :=
  events.filter fun e => e.appointmentAt.any (startsWith dateStr)

def dayEvents (events : List (CalendarEventData Num)) (selectedDate : Option JsString) :
    List (CalendarEventData Num) :=
  match selectedDate with
  | none => []
  | some dateStr => if dateStr = [] then [] else eventsOnDay events dateStr

structure CalendarEntry where
  id : Nat
  title : JsString
  date : Option JsString
  deriving DecidableEq, Repr

/-- `text.split('T')[0]` -/
def beforeT (text : JsString) : JsString := text.takeWhile (· ≠ unit 'T')

/-- An empty text is no date. -/
def calendarEntry (e : CalendarEventData Num) : CalendarEntry where
  id := e.id
  title := e.title
  date := (e.appointmentAt.filter (· ≠ [])).map beforeT

def calendarEvents (events : List (CalendarEventData Num)) : List CalendarEntry :=
  events.map calendarEntry

inductive ModalView where
  | closed
  | list
  | create
  | edit
  deriving DecidableEq, Repr

structure TabState (Num : Type) where
  selectedDate : Option JsString
  selectedEvent : Option (CalendarEventData Num)
  modalView : ModalView
  showRouteDetail : Bool
  deriving DecidableEq, Repr

def handleDateClick (events : List (CalendarEventData Num)) (dateStr : JsString) : TabState Num :=
  match eventsOnDay events dateStr with
  | [] => ⟨some dateStr, none, .create, false⟩
  | [event] => ⟨some dateStr, some event, .edit, false⟩
  | _ => ⟨some dateStr, none, .list, false⟩

/-- The month that the client asks for when the view shows the days from `start` to `stop`. -/
def handleDatesSet (browser : Host) (start stop : Date) : JsString :=
  let mid := localDate browser.zone ((start.ms + stop.ms).tdiv 2)
  numberText mid.year ++ unit '-' :: pad 2 mid.month.toNat

/-- The day of the calendar cell that a date falls into, as FullCalendar writes it. -/
def dayText (browser : Host) (date : Date) : JsString := dateText (localDate browser.zone date.ms)

/-- The month of the query is the one that the date falls into in the browser. -/
structure FallsIn (browser : Host) (date : Date) (month : MonthText) : Prop where
  year : month.year = (localDate browser.zone date.ms).year
  month : month.month = (localDate browser.zone date.ms).month

section Days
variable (browser : Host) (date : Date)

theorem local_day_near : -200000000 ≤ localDay browser.zone date.ms ∧
    localDay browser.zone date.ms ≤ 200000000 := by
  have range := date.range
  have zone := browser.zone.range
  simp only [localDay]
  omega

theorem iso_eq_day_text : ∃ rest, toISOString date =
    dateText (civilDate (marchDate (localDay Zone.utc date.ms))) ++ unit 'T' :: rest := by
  refine ⟨timeText (date.ms % 86400000).toNat ++ [unit 'Z'], ?_⟩
  simp [toISOString, localDay, Zone.utc, Date.marchDate]

theorem digit_ne_t (k : Nat) : digit k ≠ unit 'T' := by
  intro same
  have values := congrArg UInt16.toNat same
  simp [digit, unit] at values
  omega

theorem date_text_no_t (civil : CivilDate) : ∀ u ∈ dateText civil, u ≠ unit 'T' := by
  have digits : ∀ {width n : Nat}, ∀ u ∈ pad width n, u ≠ unit 'T' := by
    intro width n u mem
    obtain ⟨k, rfl⟩ := pad_digits mem
    exact digit_ne_t k
  have sign : unit '-' ≠ unit 'T' ∧ unit '+' ≠ unit 'T' := by decide
  have year : ∀ u ∈ yearText civil.year, u ≠ unit 'T' := by
    unfold yearText
    split_ifs
    · exact digits
    · exact List.forall_mem_cons.mpr ⟨sign.2, digits⟩
    · exact List.forall_mem_cons.mpr ⟨sign.1, digits⟩
  refine List.forall_mem_append.mpr ⟨year, List.forall_mem_append.mpr ⟨?_, ?_⟩⟩
  · exact List.forall_mem_cons.mpr ⟨sign.1, digits⟩
  · exact List.forall_mem_cons.mpr ⟨sign.1, digits⟩

theorem iso_ne_nil : toISOString date ≠ [] := by
  intro nothing
  have short := iso_take_ne_nil date
  simp [nothing] at short

theorem before_t_iso : beforeT (toISOString date) =
    dateText (civilDate (marchDate (localDay Zone.utc date.ms))) := by
  obtain ⟨rest, text⟩ := iso_eq_day_text date
  rw [beforeT, text, List.takeWhile_append_of_pos (by simpa using date_text_no_t _)]
  simp

theorem starts_with_iff (other : Date) : startsWith (dayText browser other) (toISOString date) ↔
    localDay browser.zone other.ms = localDay Zone.utc date.ms := by
  obtain ⟨rest, text⟩ := iso_eq_day_text date
  rw [startsWith, List.isPrefixOf_iff_prefix, text]
  constructor
  · rintro ⟨more, same⟩
    exact (day_text_append_injective (local_day_near browser other)
      (local_day_near ⟨browser.engine, Zone.utc⟩ date) same).1
  · intro same
    rw [dayText, localDate, same]
    exact List.prefix_append _ _

/-- The start of the text of a date is not empty. -/
theorem day_text_ne_nil (other : Date) : dayText browser other ≠ [] := by
  simp [dayText, dateText]

end Days

theorem local_date_eq_iff {zone other : Zone} {a b : Int} :
    localDate zone a = localDate other b ↔ localDay zone a = localDay other b := by
  constructor
  · intro same
    exact march_date_injective (civil_date_injective (day_of_year_range _) (day_of_year_range _)
      same)
  · intro same
    rw [localDate, localDate, same]

section Month

theorem month_text_year_range (month : MonthText) : 0 ≤ month.year ∧ month.year ≤ 9999 := by
  have format := month.format
  simp only [isMonthText, Bool.and_eq_true, decide_eq_true_eq] at format
  obtain ⟨⟨⟨length, digits⟩, _⟩, _⟩ := format
  have value := SettingText.decimal_value_lt (List.all_eq_true.mp digits)
  rw [List.length_take, length, show min 4 7 = 4 from rfl] at value
  unfold MonthText.year
  omega

/-- The first day of a month of a year with four digits. -/
theorem first_of_month (zone : Zone) {year monthIndex : Int} (years : 0 ≤ year ∧ year ≤ 9999)
    (months : 0 ≤ monthIndex ∧ monthIndex ≤ 12) :
    ∃ first, firstOfMonth zone year monthIndex = some first ∧ ∀ ms, first.ms ≤ ms ↔
      dayNumber (fullYear year + monthIndex / 12) (monthIndex % 12 + 1) 1 ≤ localDay zone ms := by
  have zones := zone.range
  have full : 0 ≤ fullYear year ∧ fullYear year ≤ 9999 := by
    unfold fullYear
    split <;> omega
  have near : -400 ≤ dayNumber (fullYear year + monthIndex / 12) (monthIndex % 12 + 1) 1 ∧
      dayNumber (fullYear year + monthIndex / 12) (monthIndex % 12 + 1) 1 ≤ 4000000 := by
    generalize fullYear year = full at *
    simp only [dayNumber]
    split <;> omega
  refine ⟨_, by rw [firstOfMonth, timeClip, dif_pos (by omega)], fun ms => ?_⟩
  simp only [localDay]
  omega

theorem unit_digit_char {d : Nat} (small : d < 10) : unit (Nat.digitChar d) = digit d := by
  have digits : ∀ d : Fin 10, unit (Nat.digitChar d) = digit d := by decide
  exact digits ⟨d, small⟩

theorem four_digits {n : Nat} (range : 1000 ≤ n ∧ n ≤ 9999) : numberText n = pad 4 n := by
  have positive : ¬ (n : Int) < 0 := by omega
  rw [numberText, if_neg positive, Int.natAbs_natCast, Nat.toDigits_of_base_le (by decide) (by omega),
    Nat.toDigits_of_base_le (by decide) (by omega), Nat.toDigits_of_base_le (by decide) (by omega),
    Nat.toDigits_of_lt_base (by omega)]
  simp only [List.map_append, List.map_cons, List.map_nil, pad, List.nil_append,
    unit_digit_char (Nat.mod_lt _ (show 10 > 0 by decide)),
    unit_digit_char (show n / 10 / 10 / 10 < 10 by omega), digit, Nat.mod_mod]

/-- The client asks for the month that the middle of its view falls into. -/
theorem dates_set_falls_in (browser : Host) {start stop mid : Date}
    (middle : mid.ms = (start.ms + stop.ms).tdiv 2)
    (years : 1000 ≤ (localDate browser.zone mid.ms).year ∧
      (localDate browser.zone mid.ms).year ≤ 9999) :
    ∃ month : MonthText, month.text = handleDatesSet browser start stop ∧
      FallsIn browser mid month := by
  have months := (month_and_day_range (day_of_year_range (localDay browser.zone mid.ms))).1
  obtain ⟨year, year_eq⟩ := Int.eq_ofNat_of_zero_le (show 0 ≤ (localDate browser.zone mid.ms).year
    by omega)
  have text : handleDatesSet browser start stop =
      pad 4 year ++ unit '-' :: pad 2 (localDate browser.zone mid.ms).month.toNat := by
    rw [handleDatesSet, ← middle, year_eq, four_digits (by omega)]
  have front : (handleDatesSet browser start stop).take 4 = pad 4 year := by
    rw [text, List.take_left' (pad_length 4 year)]
  have back : (handleDatesSet browser start stop).drop 5 =
      pad 2 (localDate browser.zone mid.ms).month.toNat := by
    rw [text, List.append_cons, List.drop_left' (by simp [pad_length])]
  have dash : (handleDatesSet browser start stop)[4]? = some (unit '-') := by
    rw [text, List.getElem?_append_right (by simp [pad_length])]
    simp [pad_length]
  have format : isMonthText (handleDatesSet browser start stop) = true := by
    simp only [isMonthText, front, back, pad_all_digits, dash]
    simp [text, pad_length]
  refine ⟨⟨_, format⟩, rfl, ?_, ?_⟩
  · rw [MonthText.year, front, pad_value]
    omega
  · rw [MonthText.month, back, pad_value]
    change 1 ≤ (localDate browser.zone mid.ms).month ∧ (localDate browser.zone mid.ms).month ≤ 12
      at months
    omega

/-- Days on which two calendars may be at one time. -/
theorem year_near {a b : Int} (near : a - 3 ≤ b ∧ b ≤ a + 3)
    (early : (civilDate (marchDate a)).year < 100) : (civilDate (marchDate b)).year < 1900 := by
  have year_a := march_year_days a
  have year_b := march_year_days b
  have after := day_of_year_range b
  simp only [civilDate] at early ⊢
  have late : marchYearStart ((marchDate a).year + 1) ≤ marchYearStart 101 :=
    march_year_start_mono (by omega)
  by_contra not_early
  have start : marchYearStart 1899 ≤ marchYearStart (marchDate b).year :=
    march_year_start_mono (by omega)
  have gap : marchYearStart 101 + 3 < marchYearStart 1899 := by decide
  omega

variable (browser server : Host) {s : Store Num} {userId : Nat} {event : CalendarEvent Num}
  {date : Date} {month : MonthText}

theorem found_by_month_iff (stored : event ∈ s.events) (appointed : event.appointmentAt = some date)
    (member : s.isMember event.coupleId userId = true) (falls : FallsIn browser date month) :
    (∃ rows, findByMonth server s ⟨event.coupleId, some month, userId⟩ = .ok rows ∧
      event ∈ rows) ↔
    100 ≤ month.year ∧ (localDate server.zone date.ms).year = month.year ∧
      (localDate server.zone date.ms).month = month.month := by
  have years := month_text_year_range month
  have months : 1 ≤ month.month ∧ month.month ≤ 12 := by
    rw [falls.month]
    exact (month_and_day_range (day_of_year_range _)).1
  obtain ⟨start, start_eq, from_start⟩ :=
    first_of_month server.zone years (show 0 ≤ month.month - 1 ∧ month.month - 1 ≤ 12 by omega)
  obtain ⟨stop, stop_eq, from_stop⟩ :=
    first_of_month server.zone years (show 0 ≤ month.month ∧ month.month ≤ 12 by omega)
  have found : (∃ rows, findByMonth server s ⟨event.coupleId, some month, userId⟩ = .ok rows ∧
      event ∈ rows) ↔ start.ms ≤ date.ms ∧ ¬ stop.ms ≤ date.ms := by
    simp [findByMonth, ensureCoupleMember, member, start_eq, stop_eq, bind, Except.bind, pure,
      Except.pure, stored, appointed, List.mem_insertionSort]
  rw [found, from_start, from_stop, Int.not_le,
    show fullYear month.year + (month.month - 1) / 12 = fullYear month.year by omega,
    show (month.month - 1) % 12 + 1 = month.month by omega, in_month_iff months]
  change (localDate server.zone date.ms).year = fullYear month.year ∧
    (localDate server.zone date.ms).month = month.month ↔ _
  by_cases early : month.year < 100
  · have near : localDay browser.zone date.ms - 3 ≤ localDay server.zone date.ms ∧
        localDay server.zone date.ms ≤ localDay browser.zone date.ms + 3 := by
      have zone_b := browser.zone.range
      have zone_s := server.zone.range
      simp only [localDay]
      omega
    have elsewhere : (localDate server.zone date.ms).year < 1900 :=
      year_near near (falls.year ▸ early)
    rw [fullYear, if_pos (by omega)]
    omega
  · rw [fullYear, if_neg (by omega)]
    omega

end Month

/-- What is expected of an event on a day of a month: a member gets it with the month, the calendar
    has it on that day, and the list of a day has it exactly if it is that day. -/
structure ShownOnItsDay (browser server : Host) (s : Store Num) (userId : Nat)
    (event : CalendarEvent Num) (date : Date) (month : MonthText) : Prop where
  fetched : ∃ rows, findByMonth server s ⟨event.coupleId, some month, userId⟩ = .ok rows ∧
    event ∈ rows
  dated : ∀ (events : List (CalendarEventData Num)) (index : Nat),
    events[index]? = some (toJson event) →
      (calendarEvents events)[index]?.bind CalendarEntry.date = some (dayText browser date)
  clicked : ∀ events, toJson event ∈ events → ∀ other : Date,
    toJson event ∈ eventsOnDay events (dayText browser other) ↔
      localDate browser.zone other.ms = localDate browser.zone date.ms
  listed : ∀ events, toJson event ∈ events → ∀ other : Date,
    toJson event ∈ dayEvents events
        (handleDateClick events (dayText browser other)).selectedDate ↔
      localDate browser.zone other.ms = localDate browser.zone date.ms

/-- The three places are on one day, or in one month, and the server's reading of the month has the
    year that the text has. -/
structure CalendarsAgree (browser server : Host) (date : Date) : Prop where
  day : localDate Zone.utc date.ms = localDate browser.zone date.ms
  year : (localDate server.zone date.ms).year = (localDate browser.zone date.ms).year
  month : (localDate server.zone date.ms).month = (localDate browser.zone date.ms).month
  late : 100 ≤ (localDate browser.zone date.ms).year

theorem clicked_date (events : List (CalendarEventData Num)) (dateStr : JsString) :
    (handleDateClick events dateStr).selectedDate = some dateStr := by
  unfold handleDateClick
  split <;> rfl

section Shown
variable (browser server : Host) {s : Store Num} {userId : Nat} {event : CalendarEvent Num}
  {date : Date} {month : MonthText} (appointed : event.appointmentAt = some date)
include appointed

theorem entry_date_iff {events : List (CalendarEventData Num)} {index : Nat}
    (received : events[index]? = some (toJson event)) :
    (calendarEvents events)[index]?.bind CalendarEntry.date = some (dayText browser date) ↔
      localDate Zone.utc date.ms = localDate browser.zone date.ms := by
  have entry : (calendarEvents events)[index]?.bind CalendarEntry.date =
      some (dateText (localDate Zone.utc date.ms)) := by
    rw [calendarEvents, List.getElem?_map, received]
    simp [calendarEntry, toJson, appointed, iso_ne_nil, before_t_iso, localDate]
  rw [entry, Option.some.injEq, local_date_eq_iff]
  constructor
  · intro same
    have texts : dateText (civilDate (marchDate (localDay Zone.utc date.ms))) ++ [] =
        dateText (civilDate (marchDate (localDay browser.zone date.ms))) ++ [] :=
      congrArg (· ++ []) same
    exact (day_text_append_injective (local_day_near ⟨browser.engine, Zone.utc⟩ date)
      (local_day_near browser date) texts).1
  · intro same
    rw [dayText, localDate, localDate, same]

theorem on_day_iff {events : List (CalendarEventData Num)} (received : toJson event ∈ events)
    (other : Date) : toJson event ∈ eventsOnDay events (dayText browser other) ↔
      localDay browser.zone other.ms = localDay Zone.utc date.ms := by
  have text : (toJson event).appointmentAt = some (toISOString date) := by
    rw [toJson, appointed, Option.map_some]
  rw [← starts_with_iff, eventsOnDay, List.mem_filter, text, Option.any_some]
  exact and_iff_right received

theorem shown_on_its_day_iff (stored : event ∈ s.events)
    (member : s.isMember event.coupleId userId = true) (falls : FallsIn browser date month) :
    ShownOnItsDay browser server s userId event date month ↔
      CalendarsAgree browser server date := by
  have fetched := found_by_month_iff browser server stored appointed member falls
  rw [falls.year, falls.month] at fetched
  constructor
  · rintro ⟨rows, dated, -, -⟩
    obtain ⟨late, year, same⟩ := fetched.mp rows
    have alone : [toJson event][0]? = some (toJson event) := rfl
    exact ⟨(entry_date_iff browser appointed alone).mp (dated _ 0 alone), year, same, late⟩
  · rintro ⟨day, year, same, late⟩
    have clicked (events : List (CalendarEventData Num)) (received : toJson event ∈ events)
        (other : Date) : toJson event ∈ eventsOnDay events (dayText browser other) ↔
          localDate browser.zone other.ms = localDate browser.zone date.ms := by
      rw [on_day_iff browser appointed received, ← local_date_eq_iff, day]
    refine ⟨fetched.mpr ⟨late, year, same⟩,
      fun events index received => (entry_date_iff browser appointed received).mpr day, clicked,
      fun events received other => ?_⟩
    rw [clicked_date, dayEvents, if_neg (day_text_ne_nil browser other)]
    exact clicked events received other

end Shown

/-- 2026-03-10T16:00:00.000Z, the 11th in Seoul. -/
def lateUtc : Date := ⟨1773158400000, by decide⟩

def march2026 : MonthText := ⟨js "2026-03", by decide⟩

theorem dinner_shown_on_its_day :
    ShownOnItsDay seoul greenwich dinnerStore 1 dinner elevenUtc march2026 :=
  (shown_on_its_day_iff seoul greenwich (show dinner.appointmentAt = some elevenUtc from rfl)
    (s := dinnerStore) List.mem_cons_self rfl ⟨by decide, by decide⟩).mpr
      ⟨rfl, rfl, rfl, by decide⟩

/-- In Seoul an event of one in the night is shown on the day before. -/
theorem night_event_shown_a_day_early : ¬ ∀ (browser server : Host) (s : Store Nat) (userId : Nat)
    (event : CalendarEvent Nat) (date : Date) (month : MonthText), event ∈ s.events →
      event.appointmentAt = some date → s.isMember event.coupleId userId = true →
        FallsIn browser date month →
          ShownOnItsDay browser server s userId event date month := by
  intro every
  have shown := every seoul greenwich
    { dinnerStore with events := [{ dinner with appointmentAt := some lateUtc }] } 1
    { dinner with appointmentAt := some lateUtc } lateUtc march2026 List.mem_cons_self rfl rfl
    ⟨by decide, by decide⟩
  exact absurd (shown.dated [toJson { dinner with appointmentAt := some lateUtc }] 0 rfl) (by decide)

end CalendarDays
