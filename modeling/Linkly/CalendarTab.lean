import Linkly.EventService

/-!
The calendar of the web client: the form in which an event is edited, and the days on which the
calendar shows it. A form holds a time as the text of a `datetime-local` input.
-/
namespace CalendarTab
open JsText IsoDate LocalDate EventService

variable {Num : Type}

/-- An event as the client receives it. -/
structure CalendarEventData (Num : Type) where
  id : Nat
  coupleId : Nat
  title : JsString
  placeName : Option JsString
  placeAddress : Option JsString
  placeLat : Option Num
  placeLng : Option Num
  appointmentAt : Option JsString
  detail : Option JsString
  createdByUserId : Nat
  deriving DecidableEq, Repr

def toJson (e : CalendarEvent Num) : CalendarEventData Num where
  id := e.id
  coupleId := e.coupleId
  title := e.title
  placeName := e.placeName
  placeAddress := e.placeAddress
  placeLat := e.placeLat
  placeLng := e.placeLng
  appointmentAt := e.appointmentAt.map toISOString
  detail := e.detail
  createdByUserId := e.createdByUserId

structure EventFormData (Num : Type) where
  title : JsString
  appointmentAt : JsString
  placeName : JsString
  placeAddress : JsString
  placeLat : Option Num
  placeLng : Option Num
  detail : JsString
  deriving DecidableEq, Repr

def toFormData (e : CalendarEventData Num) : EventFormData Num where
  title := e.title
  appointmentAt := (e.appointmentAt.getD []).take 16
  placeName := e.placeName.getD []
  placeAddress := e.placeAddress.getD []
  placeLat := e.placeLat
  placeLng := e.placeLng
  detail := e.detail.getD []

/-- The fields of a form other than the time. -/
structure OtherFields (Num : Type) where
  title : JsString
  placeName : JsString
  placeAddress : JsString
  placeLat : Option Num
  placeLng : Option Num
  detail : JsString
  deriving DecidableEq, Repr

def OtherFields.fill (fields : OtherFields Num) (form : EventFormData Num) : EventFormData Num where
  title := fields.title
  appointmentAt := form.appointmentAt
  placeName := fields.placeName
  placeAddress := fields.placeAddress
  placeLat := fields.placeLat
  placeLng := fields.placeLng
  detail := fields.detail

section Editing
variable [DecidableEq Num]

/-- The modal's own handleUpdate: what it hands on, if its button is enabled. -/
def submitted (original form : EventFormData Num) : Option (EventFormData Num) :=
  if trim form.title ≠ [] ∧ form.appointmentAt ≠ [] ∧ form ≠ original then
    some { form with title := trim form.title }
  else none

/-- `text || null` -/
def orNull (text : JsString) : Option JsString := if text = [] then none else some text

/-- The body of the request; `none` when `toISOString` throws, which handleUpdate catches. -/
def handleUpdate (browser : Host) (form : EventFormData Num) : Option (UpdateEventDto Num) := do
  let appointmentAt ← if form.appointmentAt = [] then some none
    else (newDate browser form.appointmentAt).map fun date => some (toISOString date)
  return {
    title := some form.title
    placeName := some (orNull form.placeName)
    placeAddress := some (orNull form.placeAddress)
    placeLat := some form.placeLat
    placeLng := some form.placeLng
    appointmentAt := some appointmentAt
    detail := some (orNull form.detail) }

structure Edit (Num : Type) where
  fields : OtherFields Num
  draw : Draw
  deriving DecidableEq, Repr

/-- Opens an event for edit, changes fields other than the time, and saves. -/
def save (browser server : Host) (eventId userId : Nat) (s : Store Num) (edit : Edit Num) :
    Store Num :=
  match s.events.find? (·.id = eventId) with
  | none => s
  | some event =>
    let form := toFormData (toJson event)
    match (submitted form (edit.fields.fill form)).bind (handleUpdate browser) with
    | none => s
    | some dto =>
      match update server edit.draw s eventId userId dto with
      | .error _ => s
      | .ok (t, _) => t

/-- The event is there, with a time in the given minute. -/
def InMinute (s : Store Num) (eventId userId : Nat) (minute : Int) : Prop :=
  ∃ event date, s.events.find? (·.id = eventId) = some event ∧
    s.isMember event.coupleId userId = true ∧ event.appointmentAt = some date ∧
      date.ms / 60000 = minute

/-- What a browser makes of the time in the form of an event. -/
def reread (browser : Host) (date : Date) : Option Date :=
  newDate browser ((toISOString date).take 16)

theorem reread_congr (browser : Host) {a b : Date} (same : a.ms / 60000 = b.ms / 60000) :
    reread browser a = reread browser b := by
  rw [reread, reread, take_iso, take_iso, minute_text_congr same]

theorem iso_take_ne_nil (date : Date) : (toISOString date).take 16 ≠ [] := by
  intro empty
  have long := minute_text_length date
  have cut := congrArg List.length (take_iso date)
  rw [empty, List.length_take, List.length_nil] at cut
  omega

section Saving
variable (browser server : Host) {eventId userId : Nat} {s : Store Num}
  {event : CalendarEvent Num} {date : Date}
  (found : s.events.find? (·.id = eventId) = some event)
  (member : s.isMember event.coupleId userId = true)
  (appointed : event.appointmentAt = some date)
include found member appointed

/-- The save writes the time that the browser makes of the text, or nothing if it makes none. -/
theorem save_submitted (edit : Edit Num)
    (changed : (submitted (toFormData (toJson event))
      (edit.fields.fill (toFormData (toJson event)))).isSome) :
    (reread browser date = none ∧ save browser server eventId userId s edit = s) ∨
      ∃ r updated, reread browser date = some r ∧
        (save browser server eventId userId s edit).events.find? (·.id = eventId) = some updated ∧
        (save browser server eventId userId s edit).members = s.members ∧
        updated.coupleId = event.coupleId ∧ updated.appointmentAt = some r := by
  obtain ⟨form, handed⟩ := Option.isSome_iff_exists.mp changed
  have time : form.appointmentAt = (toISOString date).take 16 := by
    simp only [submitted, Option.ite_none_right_eq_some, Option.some.injEq] at handed
    rw [← handed.2]
    simp [OtherFields.fill, toFormData, toJson, appointed]
  have given : form.appointmentAt ≠ [] := by
    rw [time]
    exact iso_take_ne_nil date
  cases read : reread browser date with
  | none =>
    have thrown : handleUpdate browser form = none := by
      rw [reread, ← time] at read
      simp [handleUpdate, given, read]
    refine Or.inl ⟨rfl, ?_⟩
    simp only [save, found, handed, Option.bind_some, thrown]
  | some r =>
    rw [reread, ← time] at read
    obtain ⟨dto, body, sent⟩ : ∃ dto, handleUpdate browser form = some dto ∧
        dto.appointmentAt = some (some (toISOString r)) := by
      simp [handleUpdate, given, read]
    obtain ⟨t, updated, done, row, members, couple, at_r⟩ :=
      update_time server edit.draw found member sent
    have saved : save browser server eventId userId s edit = t := by
      simp only [save, found, handed, Option.bind_some, body, done]
    rw [saved]
    exact Or.inr ⟨r, updated, rfl, row, members, couple, at_r⟩

theorem save_cases (edit : Edit Num) : save browser server eventId userId s edit = s ∨
    ∃ r updated, reread browser date = some r ∧
      (save browser server eventId userId s edit).events.find? (·.id = eventId) = some updated ∧
      (save browser server eventId userId s edit).members = s.members ∧
      updated.coupleId = event.coupleId ∧ updated.appointmentAt = some r := by
  cases changed : submitted (toFormData (toJson event))
      (edit.fields.fill (toFormData (toJson event))) with
  | none =>
    left
    simp only [save, found, changed, Option.bind_none]
  | some form =>
    rcases save_submitted browser server found member appointed edit
      (by simp [changed]) with ⟨_, same⟩ | written
    · exact Or.inl same
    · exact Or.inr written

end Saving

/-- The offset is that of UTC; where the year has more than four digits, the form shows the start of
    a text only, and what matters is what the engine makes of it. -/
def KeepsMinute (browser : Host) (date : Date) : Prop :=
  if ShortYear (civilDate date.marchDate).year then browser.zone.minutes = 0
  else ∀ r ∈ browser.engine ((toISOString date).take 16), r.ms / 60000 = date.ms / 60000

theorem reread_keeps_iff (browser : Host) (date : Date) :
    (∀ r ∈ reread browser date, r.ms / 60000 = date.ms / 60000) ↔ KeepsMinute browser date := by
  unfold KeepsMinute
  split
  · rename_i short
    have range := short_year_range date short
    have zone := browser.zone.range
    have read : reread browser date = some ⟨date.ms / 60000 * 60000 -
        browser.zone.minutes * 60000, by omega⟩ := by
      rw [reread, new_date_local browser date short, timeClip, dif_pos]
    rw [read]
    simp only [Option.mem_def, Option.some.injEq, forall_eq']
    omega
  · rename_i long
    rw [reread, new_date_cut browser date long]

theorem save_in_minute {browser server : Host} {eventId userId : Nat} {s : Store Num} {minute : Int}
    (keeps : ∀ date : Date, date.ms / 60000 = minute →
      ∀ r ∈ reread browser date, r.ms / 60000 = minute)
    (edit : Edit Num) (there : InMinute s eventId userId minute) :
    InMinute (save browser server eventId userId s edit) eventId userId minute := by
  obtain ⟨event, date, found, member, appointed, same⟩ := there
  rcases save_cases browser server found member appointed edit with
    unchanged | ⟨r, updated, read, row, members, couple, at_r⟩
  · rw [unchanged]
    exact ⟨event, date, found, member, appointed, same⟩
  · refine ⟨updated, r, row, ?_, at_r, keeps date same r read⟩
    rw [Store.isMember, members, couple]
    exact member

theorem saves_in_minute {browser server : Host} {eventId userId : Nat} {minute : Int}
    (keeps : ∀ date : Date, date.ms / 60000 = minute →
      ∀ r ∈ reread browser date, r.ms / 60000 = minute) (edits : List (Edit Num)) {s : Store Num}
    (there : InMinute s eventId userId minute) :
    InMinute (edits.foldl (save browser server eventId userId) s) eventId userId minute := by
  induction edits generalizing s with
  | nil => exact there
  | cons edit rest ih => exact ih (save_in_minute keeps edit there)

/-- Some change of a title enables the button. -/
theorem some_change_submitted (form : EventFormData Num) (given : form.appointmentAt ≠ []) :
    ∃ fields : OtherFields Num, (submitted form (fields.fill form)).isSome := by
  refine ⟨⟨if form.title = js "a" then js "b" else js "a", form.placeName, form.placeAddress,
    form.placeLat, form.placeLng, form.detail⟩, ?_⟩
  rw [submitted, if_pos, Option.isSome_some]
  refine ⟨?_, given, fun same => ?_⟩
  · simp only [OtherFields.fill]
    split <;> decide
  · have title := congrArg EventFormData.title same
    simp only [OtherFields.fill] at title
    split at title
    · rename_i was
      rw [was] at title
      exact absurd title (by decide)
    · rename_i other
      exact other title.symm

/-- For every event with a time and everyone who may edit it. -/
theorem edits_keep_minute_iff (browser server : Host) {s : Store Num} {eventId userId : Nat}
    {event : CalendarEvent Num} {date : Date}
    (found : s.events.find? (·.id = eventId) = some event)
    (member : s.isMember event.coupleId userId = true)
    (appointed : event.appointmentAt = some date) :
    (∀ edits : List (Edit Num), InMinute (edits.foldl (save browser server eventId userId) s)
      eventId userId (date.ms / 60000)) ↔ KeepsMinute browser date := by
  rw [← reread_keeps_iff]
  constructor
  · intro every r read
    obtain ⟨fields, changed⟩ := some_change_submitted (toFormData (toJson event))
      (by simpa [toFormData, toJson, appointed] using iso_take_ne_nil date)
    have once := every [⟨fields, ⟨0, date, false, false, false⟩⟩]
    obtain ⟨saved, shown, row, _, at_shown, same⟩ := once
    rcases save_submitted browser server found member appointed
      ⟨fields, ⟨0, date, false, false, false⟩⟩ changed with
      ⟨unread, _⟩ | ⟨r', updated, read', row', _, _, at_r⟩
    · simp [unread] at read
    · rw [List.foldl_cons, List.foldl_nil, row'] at row
      cases row
      cases at_r.symm.trans at_shown
      cases read'.symm.trans read
      exact same
  · intro keeps edits
    refine saves_in_minute (fun other same r read => ?_) edits
      ⟨event, date, found, member, appointed, rfl⟩
    rw [reread_congr browser same] at read
    exact keeps r read

end Editing

/-- 2026-03-10T11:00:00.000Z -/
def elevenUtc : Date := ⟨1773140400000, by decide⟩

def dinner : CalendarEvent Nat where
  id := 7
  coupleId := 0
  title := js "dinner"
  placeName := none
  placeAddress := none
  placeLat := none
  placeLng := none
  appointmentAt := some elevenUtc
  detail := none
  createdByUserId := 1
  createdAt := elevenUtc
  updatedAt := elevenUtc

def dinnerStore : Store Nat := ⟨[⟨0, 1⟩, ⟨0, 2⟩], [dinner], [], []⟩

def greenwich : Host := ⟨fun _ => none, Zone.utc⟩

def seoul : Host := ⟨fun _ => none, ⟨540, by decide⟩⟩

theorem greenwich_edits_keep_dinner : KeepsMinute greenwich elevenUtc ∧
    ∀ edits : List (Edit Nat),
      InMinute (edits.foldl (save greenwich greenwich 7 1) dinnerStore) 7 1 29552340 := by
  have keeps : KeepsMinute greenwich elevenUtc := by
    rw [KeepsMinute, if_pos (by decide)]
    rfl
  exact ⟨keeps, (edits_keep_minute_iff greenwich greenwich (s := dinnerStore) rfl rfl
    (show dinner.appointmentAt = some elevenUtc from rfl)).mpr keeps⟩

/-- A new title, saved in Seoul, moves the dinner to two in the morning, UTC. -/
theorem seoul_edit_moves_dinner : ¬ ∀ (browser server : Host) (s : Store Nat) (eventId userId : Nat)
    (event : CalendarEvent Nat) (date : Date), s.events.find? (·.id = eventId) = some event →
      s.isMember event.coupleId userId = true → event.appointmentAt = some date →
        ∀ edits : List (Edit Nat), InMinute (edits.foldl (save browser server eventId userId) s)
          eventId userId (date.ms / 60000) := by
  intro every
  obtain ⟨event, date, found, _, appointed, same⟩ :=
    every seoul greenwich dinnerStore 7 1 dinner elevenUtc rfl rfl rfl
      [⟨⟨js "late dinner", [], [], none, none, []⟩, ⟨8, elevenUtc, false, false, false⟩⟩]
  have moved : ((save seoul greenwich 7 1 dinnerStore
      ⟨⟨js "late dinner", [], [], none, none, []⟩,
        ⟨8, elevenUtc, false, false, false⟩⟩).events.find? (·.id = 7)).bind
      (fun e => e.appointmentAt.map fun d => d.ms / 60000) = some (29552340 - 540) := by
    decide +kernel
  rw [List.foldl_cons, List.foldl_nil] at found
  rw [found, Option.bind_some, appointed, Option.map_some, same] at moved
  exact absurd moved (by decide)

end CalendarTab
