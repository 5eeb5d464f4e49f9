import Linkly.LocalDate
import Mathlib.Data.List.Sort

/-!
The event service over its tables and the route caches that it clears.
-/
namespace EventService
open JsText IsoDate LocalDate
open SettingText (decimalValue)

variable {Num : Type}

structure CalendarEvent (Num : Type) where
  id : Nat
  coupleId : Nat
  title : JsString
  placeName : Option JsString
  placeAddress : Option JsString
  placeLat : Option Num
  placeLng : Option Num
  appointmentAt : Option Date
  detail : Option JsString
  createdByUserId : Nat
  createdAt : Date
  updatedAt : Date
  deriving DecidableEq, Repr

structure CoupleMember where
  coupleId : Nat
  userId : Nat
  deriving DecidableEq, Repr

structure RouteCache where
  eventId : Nat
  cacheKey : JsString
  deriving DecidableEq, Repr

/-- Of Redis only the keys are kept, as this service does nothing but delete them. -/
structure Store (Num : Type) where
  members : List CoupleMember
  events : List (CalendarEvent Num)
  routeCaches : List RouteCache
  redis : List JsString
  deriving DecidableEq, Repr

inductive Exception where
  | notFound (message : String)
  | forbidden (message : String)
  | database
  deriving DecidableEq, Repr

/-- What a call draws from outside: a new row id, the clock, and which of the three statements that
    clear the route caches fail. -/
structure Draw where
  id : Nat
  now : Date
  findFails : Bool
  delFails : Bool
  deleteFails : Bool
  deriving DecidableEq, Repr

structure CreateEventDto (Num : Type) where
  coupleId : Nat
  title : JsString
  placeName : Option JsString
  placeAddress : Option JsString
  placeLat : Option Num
  placeLng : Option Num
  appointmentAt : Option JsString
  detail : Option JsString
  deriving DecidableEq, Repr

/-- The texts that `/^\d{4}-\d{2}$/` matches. -/
def isMonthText (text : JsString) : Bool :=
  text.length = 7 && (text.take 4).all isDigit && text[4]? = some (unit '-') &&
    (text.drop 5).all isDigit

structure MonthText where
  text : JsString
  format : isMonthText text = true
  deriving DecidableEq

structure EventQueryDto where
  coupleId : Nat
  month : Option MonthText
  userId : Nat
  deriving DecidableEq

/-- An absent field is `none`; null is `some none`. -/
structure UpdateEventDto (Num : Type) where
  title : Option JsString
  placeName : Option (Option JsString)
  placeAddress : Option (Option JsString)
  placeLat : Option (Option Num)
  placeLng : Option (Option Num)
  appointmentAt : Option (Option JsString)
  detail : Option (Option JsString)
  deriving DecidableEq, Repr

def Store.isMember (s : Store Num) (coupleId userId : Nat) : Bool :=
  s.members.any fun m => m.coupleId = coupleId ∧ m.userId = userId

def ensureCoupleMember (s : Store Num) (coupleId userId : Nat) : Except Exception Unit :=
  if s.isMember coupleId userId then .ok ()
  else .error (.forbidden "User is not a member of this couple.")

/-- `text ? new Date(text) : null`. The database client rejects an invalid date. -/
def dateOrNull (server : Host) (text : Option JsString) : Except Exception (Option Date) :=
  match text with
  | none => .ok none
  | some [] => .ok none
  | some (u :: rest) =>
    match newDate server (u :: rest) with
    | none => .error .database
    | some date => .ok (some date)

def create (server : Host) (draw : Draw) (s : Store Num) (dto : CreateEventDto Num)
    (userId : Nat) : Except Exception (Store Num × CalendarEvent Num) := do
  ensureCoupleMember s dto.coupleId userId
  let appointmentAt ← dateOrNull server dto.appointmentAt
  let event : CalendarEvent Num :=
    { id := draw.id
      coupleId := dto.coupleId
      title := dto.title
      placeName := dto.placeName
      placeAddress := dto.placeAddress
      placeLat := dto.placeLat
      placeLng := dto.placeLng
      appointmentAt := appointmentAt
      detail := dto.detail
      createdByUserId := userId
      createdAt := draw.now
      updatedAt := draw.now }
  return ({ s with events := s.events ++ [event] }, event)

/-- `new Date(year, monthIndex, 1)` -/
def firstOfMonth (zone : Zone) (year monthIndex : Int) : Option Date :=
  timeClip ((dayNumber (fullYear year + monthIndex / 12) (monthIndex % 12 + 1) 1 - 719468) *
    86400000 - zone.minutes * 60000)

/-- What `split('-').map(Number)` makes of the text. -/
def MonthText.year (month : MonthText) : Int := decimalValue (month.text.take 4)

def MonthText.month (month : MonthText) : Int := decimalValue (month.text.drop 5)

/-- Ascending, with null after all dates. -/
def noLater (a b : CalendarEvent Num) : Prop :=
  match a.appointmentAt, b.appointmentAt with
  | _, none => True
  | none, some _ => False
  | some x, some y => x.ms ≤ y.ms

instance (a b : CalendarEvent Num) : Decidable (noLater a b) := by
  unfold noLater
  split <;> infer_instance

/-- Events of one time are left in the order of the table, which the database does not promise. -/
def findByMonth (server : Host) (s : Store Num) (query : EventQueryDto) :
    Except Exception (List (CalendarEvent Num)) := do
  ensureCoupleMember s query.coupleId query.userId
  let rows := s.events.filter (·.coupleId = query.coupleId)
  match query.month with
  | none => return rows.insertionSort noLater
  | some month =>
    match firstOfMonth server.zone month.year (month.month - 1),
        firstOfMonth server.zone month.year month.month with
    | some start, some stop =>
      let within := rows.filter fun e =>
        e.appointmentAt.any fun date => start.ms ≤ date.ms ∧ date.ms < stop.ms
      return within.insertionSort noLater
    | _, _ => throw .database

def findById (s : Store Num) (id userId : Nat) : Except Exception (CalendarEvent Num) :=
  match s.events.find? (·.id = id) with
  | none => .error (.notFound "Event not found")
  | some event => do
    ensureCoupleMember s event.coupleId userId
    return event

/-- An error of one of the statements is logged and goes no further. -/
def invalidateRouteCaches (draw : Draw) (s : Store Num) (eventId : Nat) : Store Num :=
  let keys := (s.routeCaches.filter (·.eventId = eventId)).map RouteCache.cacheKey
  if draw.findFails ∨ keys = [] then s
  else
    let redis := if draw.delFails then s.redis else s.redis.filter (· ∉ keys)
    let routeCaches :=
      if draw.deleteFails then s.routeCaches else s.routeCaches.filter (·.eventId ≠ eventId)
    { s with redis := redis, routeCaches := routeCaches }

def applyUpdate (dto : UpdateEventDto Num) (appointmentAt : Option (Option Date)) (now : Date)
    (event : CalendarEvent Num) : CalendarEvent Num :=
  { event with
    title := dto.title.getD event.title
    placeName := dto.placeName.getD event.placeName
    placeAddress := dto.placeAddress.getD event.placeAddress
    placeLat := dto.placeLat.getD event.placeLat
    placeLng := dto.placeLng.getD event.placeLng
    appointmentAt := appointmentAt.getD event.appointmentAt
    detail := dto.detail.getD event.detail
    updatedAt := now }

def replaceRow (id : Nat) (updated e : CalendarEvent Num) : CalendarEvent Num :=
  if e.id = id then updated else e

def update (server : Host) (draw : Draw) (s : Store Num) (id userId : Nat)
    (dto : UpdateEventDto Num) : Except Exception (Store Num × CalendarEvent Num) := do
  let event ← findById s id userId
  let placeOrTimeChanged := dto.placeLat.isSome || dto.placeLng.isSome || dto.appointmentAt.isSome
  let appointmentAt ← match dto.appointmentAt with
    | none => pure none
    | some text => (dateOrNull server text).map some
  let updated := applyUpdate dto appointmentAt draw.now event
  let written := { s with events := s.events.map (replaceRow id updated) }
  return (if placeOrTimeChanged then invalidateRouteCaches draw written id else written, updated)

def remove (draw : Draw) (s : Store Num) (id userId : Nat) : Except Exception (Store Num) := do
  let _ ← findById s id userId
  let cleared := invalidateRouteCaches draw s id
  return { cleared with
    events := cleared.events.filter (·.id ≠ id)
    routeCaches := cleared.routeCaches.filter (·.eventId ≠ id) }

section Lemmas
variable {server : Host} {draw : Draw} {s : Store Num}

theorem invalidate_keeps_rows (eventId : Nat) :
    (invalidateRouteCaches draw s eventId).events = s.events ∧
      (invalidateRouteCaches draw s eventId).members = s.members := by
  simp only [invalidateRouteCaches]
  split <;> exact ⟨rfl, rfl⟩

theorem date_or_null_iso (date : Date) :
    dateOrNull server (some (toISOString date)) = .ok (some date) := by
  have read := new_date_iso server date
  cases text : toISOString date with
  | nil => simp [toISOString] at text
  | cons u rest =>
    rw [text] at read
    simp only [dateOrNull, read]

theorem find_by_id_ok {id userId : Nat} {event : CalendarEvent Num}
    (found : s.events.find? (·.id = id) = some event)
    (member : s.isMember event.coupleId userId = true) : findById s id userId = .ok event := by
  simp only [findById, found, ensureCoupleMember, member, if_true]
  rfl

/-- What an update with a time leaves in the table. -/
theorem update_time (server : Host) (draw : Draw) {id userId : Nat} {event : CalendarEvent Num}
    {dto : UpdateEventDto Num} {date : Date} (found : s.events.find? (·.id = id) = some event)
    (member : s.isMember event.coupleId userId = true)
    (time : dto.appointmentAt = some (some (toISOString date))) :
    ∃ t updated, update server draw s id userId dto = .ok (t, updated) ∧
      t.events.find? (·.id = id) = some updated ∧ t.members = s.members ∧
      updated.coupleId = event.coupleId ∧ updated.appointmentAt = some date := by
  have same : event.id = id := by simpa using List.find?_some found
  have done : update server draw s id userId dto = .ok
      (invalidateRouteCaches draw { s with
        events := s.events.map (replaceRow id
          (applyUpdate dto (some (some date)) draw.now event)) } id,
        applyUpdate dto (some (some date)) draw.now event) := by
    simp only [update, find_by_id_ok found member, time, date_or_null_iso, Option.isSome_some,
      Bool.or_true, if_true]
    rfl
  refine ⟨_, _, done, ?_, (invalidate_keeps_rows id).2, rfl, rfl⟩
  rw [(invalidate_keeps_rows id).1, List.find?_map]
  have keeps : ((fun e : CalendarEvent Num => decide (e.id = id)) ∘
      replaceRow id (applyUpdate dto (some (some date)) draw.now event)) =
        fun e => decide (e.id = id) := by
    funext e
    simp only [Function.comp_apply, replaceRow]
    split
    · rename_i here
      simp [applyUpdate, same, here]
    · rfl
  rw [keeps, found, Option.map_some, replaceRow, if_pos same]

theorem ensure_ok_bind {α : Type} {coupleId userId : Nat} {next : Except Exception α} {r : α}
    (done : (do ensureCoupleMember s coupleId userId; next) = .ok r) : next = .ok r := by
  unfold ensureCoupleMember at done
  split at done
  · exact done
  · cases done

/-- A new row goes behind the others. -/
theorem create_ok {t : Store Num} {dto : CreateEventDto Num} {userId : Nat}
    {event : CalendarEvent Num} (done : create server draw s dto userId = .ok (t, event)) :
    t = { s with events := s.events ++ [event] } ∧ event.id = draw.id := by
  have rest := ensure_ok_bind done
  cases date : dateOrNull server dto.appointmentAt with
  | error e =>
    rw [date] at rest
    cases rest
  | ok appointmentAt =>
    rw [date] at rest
    obtain ⟨rfl, rfl⟩ := Prod.mk.inj (Except.ok.inj rest)
    exact ⟨rfl, rfl⟩

theorem find_by_id_eq {id userId : Nat} {event : CalendarEvent Num}
    (done : findById s id userId = .ok event) : s.events.find? (·.id = id) = some event := by
  unfold findById at done
  split at done
  case h_1 => cases done
  case h_2 found listed =>
    cases ensure_ok_bind done
    exact listed

/-- What the update writes, and the caches that it may clear. -/
def written (draw : Draw) (s : Store Num) (id : Nat) (clears : Bool) (updated : CalendarEvent Num) :
    Store Num :=
  let t := { s with events := s.events.map (replaceRow id updated) }
  if clears then invalidateRouteCaches draw t id else t

/-- The rows with the id are replaced, and the new one keeps it. -/
theorem update_ok {t : Store Num} {id userId : Nat} {dto : UpdateEventDto Num}
    {updated : CalendarEvent Num}
    (done : update server draw s id userId dto = .ok (t, updated)) :
    t.events = s.events.map (replaceRow id updated) ∧ t.members = s.members ∧ updated.id = id := by
  have kept : ∀ (clears : Bool) (event : CalendarEvent Num),
      (written draw s id clears event).events = s.events.map (replaceRow id event) ∧
        (written draw s id clears event).members = s.members := by
    intro clears event
    cases clears
    · exact ⟨rfl, rfl⟩
    · exact invalidate_keeps_rows id
  suffices ∃ clears, t = written draw s id clears updated ∧ updated.id = id by
    obtain ⟨clears, rfl, same⟩ := this
    exact ⟨(kept clears updated).1, (kept clears updated).2, same⟩
  unfold update at done
  cases found : findById s id userId with
  | error e =>
    rw [found] at done
    cases done
  | ok event =>
    have same : event.id = id := by simpa using List.find?_some (find_by_id_eq found)
    rw [found] at done
    cases time : dto.appointmentAt with
    | none =>
      simp only [time] at done
      obtain ⟨rfl, rfl⟩ := Prod.mk.inj (Except.ok.inj done)
      exact ⟨_, rfl, same⟩
    | some text =>
      simp only [time] at done
      cases date : dateOrNull server text with
      | error e =>
        rw [date] at done
        cases done
      | ok appointmentAt =>
        rw [date] at done
        obtain ⟨rfl, rfl⟩ := Prod.mk.inj (Except.ok.inj done)
        exact ⟨_, rfl, same⟩

theorem remove_ok {t : Store Num} {id userId : Nat} (done : remove draw s id userId = .ok t) :
    t.events = s.events.filter (·.id ≠ id) ∧ t.members = s.members := by
  unfold remove at done
  cases found : findById s id userId with
  | error e =>
    rw [found] at done
    cases done
  | ok event =>
    rw [found] at done
    obtain ⟨events, members⟩ := @invalidate_keeps_rows _ draw s id
    obtain rfl := Except.ok.inj done
    exact ⟨by rw [events], members⟩

end Lemmas

end EventService
