import Linkly.EventsHook
import Linkly.PoiSearch

/-!
The events that the forms of all clients make. A form may be opened on any row that the server has
ever answered, be edited and sent more than once, and be served at any later time.
-/
namespace EventForms
open JsText SettingText IsoDate LocalDate EventService CalendarTab TransitionRuns
open EventsHook (Session Request Answer serve)
open PoiSearch (PoiResult Modal handlePoiSelect handlePoiClear)

variable {Num : Type}

/-- An open form. `selected` is the event that it edits. -/
structure Dialog (Num : Type) where
  session : Session
  browser : Host
  selected : Option Nat
  modal : Modal Num

/-- `copies` are the rows that the server has answered. -/
structure World (Num : Type) where
  store : Store Num
  copies : List (CalendarEventData Num)
  dialogs : List (Dialog Num)
  requests : List (Session × Request Num)

def emptyEvent : EventFormData Num := ⟨[], [], [], [], none, none, []⟩

/-- The body of the request; `none` when `toISOString` throws, which handleCreate catches. -/
def handleCreate (browser : Host) (coupleId : Nat) (form : EventFormData Num) :
    Option (CreateEventDto Num) := do
  let appointmentAt ← if form.appointmentAt = [] then some none
    else (newDate browser form.appointmentAt).map fun date => some (toISOString date)
  return {
    coupleId := coupleId
    title := form.title
    placeName := orNull form.placeName
    placeAddress := orNull form.placeAddress
    placeLat := form.placeLat
    placeLng := form.placeLng
    appointmentAt := appointmentAt
    detail := orNull form.detail }

section Requests
variable [DecidableEq Num]

/-- What the button of the form sends, if it is enabled. -/
def Dialog.request (d : Dialog Num) : Option (Request Num) :=
  let form := d.modal.formData
  match d.selected with
  | none =>
    if trim form.title ≠ [] ∧ form.appointmentAt ≠ [] then
      (handleCreate d.browser d.session.coupleId { form with title := trim form.title }).map .create
    else none
  | some id =>
    ((submitted d.modal.originalData form).bind (handleUpdate d.browser)).map (.update id)

/-- The rows of an answer. -/
def answered : Answer Num → List (CalendarEventData Num)
  | .events data => data
  | .created event | .updated _ event => [event]
  | _ => []

inductive Act (Num : Type) where
  | fetch (session : Session) (month : MonthText)
  | openNew (session : Session) (browser : Host)
  | openCopy (session : Session) (browser : Host) (index : Nat)
  | edit (index : Nat) (e : PoiSearch.Event Num)
  | submit (index : Nat)
  | delete (index : Nat)
  | close (index : Nat)
  | serve (index : Nat) (draw : Draw)

def step (y : World Num) : Act Num → Option (World Num)
  | .fetch session month => some { y with requests := y.requests ++ [(session, .fetch month)] }
  | .openNew session browser =>
    some { y with dialogs := ⟨session, browser, none, .mounted emptyEvent⟩ :: y.dialogs }
  | .openCopy session browser index => do
    let event ← y.copies[index]?
    return { y with
      dialogs := ⟨session, browser, some event.id, .mounted (toFormData event)⟩ :: y.dialogs }
  | .edit index e => do
    let d ← y.dialogs[index]?
    let modal ← PoiSearch.step d.modal e
    return { y with dialogs := y.dialogs.set index { d with modal := modal } }
  | .submit index => do
    let d ← y.dialogs[index]?
    let request ← d.request
    return { y with requests := y.requests ++ [(d.session, request)] }
  | .delete index => do
    let d ← y.dialogs[index]?
    let id ← d.selected
    return { y with requests := y.requests ++ [(d.session, .delete id)] }
  | .close index => some { y with dialogs := y.dialogs.eraseIdx index }
  | .serve index draw => do
    let (session, request) ← y.requests[index]?
    let served := EventsHook.serve session draw y.store request
    return { y with
      store := served.1
      copies := y.copies ++ answered served.2
      requests := y.requests.eraseIdx index }

end Requests

def start (members : List CoupleMember) : World Num := ⟨⟨members, [], [], []⟩, [], [], []⟩

section Whole
variable (served : PoiResult Num → Prop)

/-- The name and the address of one place, with its coordinates, or nothing of any place. -/
def WholePlace (placeName placeAddress : Option JsString) (placeLat placeLng : Option Num) :
    Prop :=
  (placeName = none ∧ placeAddress = none ∧ placeLat = none ∧ placeLng = none) ∨
  ∃ poi, served poi ∧ placeName = orNull poi.name ∧ placeAddress = orNull poi.address ∧
    placeLat = some poi.lat ∧ placeLng = some poi.lng

def WholeForm (form : EventFormData Num) : Prop :=
  WholePlace served (orNull form.placeName) (orNull form.placeAddress) form.placeLat form.placeLng

structure Tidy (event : CalendarEventData Num) : Prop where
  title : event.title ≠ [] ∧ trim event.title = event.title
  time : event.appointmentAt.isSome
  place : WholePlace served event.placeName event.placeAddress event.placeLat event.placeLng

/-- A form shows a whole place, and its search offers only places that were served. -/
structure TidyModal (modal : Modal Num) : Prop where
  form : WholeForm served modal.formData
  offered : ∀ poi ∈ modal.hook.results, served poi

end Whole

section Modals
variable {served : PoiResult Num → Prop} {y z : Modal Num}

theorem whole_cleared (form : EventFormData Num) : WholeForm served (handlePoiClear form) :=
  Or.inl ⟨rfl, rfl, rfl, rfl⟩

theorem whole_selected {poi : PoiResult Num} (known : served poi) (form : EventFormData Num) :
    WholeForm served (handlePoiSelect poi form) :=
  Or.inr ⟨poi, known, rfl, rfl, rfl, rfl⟩

theorem or_null_idempotent (text : JsString) : orNull ((orNull text).getD []) = orNull text := by
  by_cases empty : text = [] <;> simp [orNull, empty]

theorem whole_copy {event : CalendarEventData Num} (tidy : Tidy served event) :
    WholeForm served (toFormData event) := by
  rcases tidy.place with ⟨name, address, lat, lng⟩ | ⟨poi, known, name, address, lat, lng⟩
  · left
    simp [toFormData, name, address, lat, lng, orNull]
  · right
    refine ⟨poi, known, ?_, ?_, lat, lng⟩
    · simp only [toFormData, name, or_null_idempotent]
    · simp only [toFormData, address, or_null_idempotent]

theorem tidy_mounted {form : EventFormData Num} (whole : WholeForm served form) :
    TidyModal served (.mounted form) :=
  ⟨whole, by simp [Modal.mounted, PoiSearch.Hook.mounted]⟩

theorem show_value_form : (PoiSearch.showValue y z).formData = z.formData := by
  unfold PoiSearch.showValue
  split <;> rfl

/-- The answers of the server to a search hold such places only. -/
def AnswersOnly (served : PoiResult Num → Prop) : PoiSearch.Event Num → Prop
  | .settle _ serve => ∀ keyword pois, serve keyword = some pois → ∀ poi ∈ pois, served poi
  | _ => True

theorem tidy_modal_step {e : PoiSearch.Event Num} (answers : AnswersOnly served e)
    (moved : PoiSearch.step y e = some z) (tidy : TidyModal served y) : TidyModal served z := by
  cases e with
  | type text =>
    obtain rfl := Option.some.inj moved
    unfold PoiSearch.handleInputChange
    split
    · rename_i asked
      refine ⟨tidy.form, ?_⟩
      simpa [PoiSearch.Hook.search, asked, PoiSearch.Hook.abort, PoiSearch.Hook.clearTimeout]
        using tidy.offered
    · refine ⟨?_, ?_⟩
      · rw [show_value_form]
        exact whole_cleared _
      · rw [PoiSearch.show_value_hook]
        simp [PoiSearch.Hook.clear]
  | select index =>
    simp only [PoiSearch.step, Option.ite_none_right_eq_some, Option.map_eq_some_iff] at moved
    obtain ⟨_, poi, listed, rfl⟩ := moved
    refine ⟨?_, ?_⟩
    · unfold PoiSearch.handleSelect
      rw [show_value_form]
      exact whole_selected (tidy.offered poi (List.mem_of_getElem? listed)) _
    · unfold PoiSearch.handleSelect
      rw [PoiSearch.show_value_hook]
      simp [PoiSearch.Hook.clear]
  | clickOutside =>
    cases moved
    exact ⟨tidy.form, tidy.offered⟩
  | change key value =>
    cases moved
    cases key <;> exact ⟨tidy.form, tidy.offered⟩
  | fire id =>
    obtain ⟨k, fired, rfl⟩ := Option.map_eq_some_iff.mp moved
    obtain ⟨t, _, rfl⟩ := Option.map_eq_some_iff.mp fired
    exact ⟨tidy.form, tidy.offered⟩
  | settle index serve =>
    obtain ⟨k, ended, rfl⟩ := Option.map_eq_some_iff.mp moved
    obtain ⟨r, _, rfl⟩ := Option.map_eq_some_iff.mp ended
    refine ⟨tidy.form, ?_⟩
    intro poi mem
    dsimp only at mem
    split at mem
    · exact tidy.offered poi mem
    · cases answer : serve r.keyword with
      | none => simp [answer] at mem
      | some pois =>
        rw [answer] at mem
        exact answers _ pois answer poi mem

end Modals

section Worlds
variable {served : PoiResult Num → Prop}

/-- What a button sends: a form with a title, a time and a whole place. -/
def TidyRequest (served : PoiResult Num → Prop) : Request Num → Prop
  | .create body => (body.title ≠ [] ∧ trim body.title = body.title) ∧
    (∃ date, body.appointmentAt = some (toISOString date)) ∧
    WholePlace served body.placeName body.placeAddress body.placeLat body.placeLng
  | .update _ body => ∃ title placeName placeAddress placeLat placeLng date detail,
    body = ⟨some title, some placeName, some placeAddress, some placeLat, some placeLng,
      some (some (toISOString date)), some detail⟩ ∧
    (title ≠ [] ∧ trim title = title) ∧ WholePlace served placeName placeAddress placeLat placeLng
  | _ => True

theorem tidy_request [DecidableEq Num] {d : Dialog Num} {request : Request Num}
    (sent : d.request = some request) (tidy : TidyModal served d.modal) :
    TidyRequest served request := by
  unfold Dialog.request at sent
  split at sent
  · simp only [Option.ite_none_right_eq_some, Option.map_eq_some_iff] at sent
    obtain ⟨⟨title, time⟩, body, made, rfl⟩ := sent
    simp only [handleCreate, time, if_false, Option.bind_eq_bind, Option.bind_eq_some_iff,
      Option.map_eq_some_iff, Option.pure_def, Option.some.injEq] at made
    obtain ⟨_, ⟨date, _, rfl⟩, rfl⟩ := made
    exact ⟨⟨title, trim_trim _⟩, ⟨date, rfl⟩, tidy.form⟩
  · simp only [Option.map_eq_some_iff, Option.bind_eq_some_iff, submitted,
      Option.ite_none_right_eq_some, Option.some.injEq] at sent
    obtain ⟨body, ⟨form, ⟨⟨title, time, _⟩, rfl⟩, made⟩, rfl⟩ := sent
    simp only [handleUpdate, time, if_false, Option.bind_eq_bind, Option.bind_eq_some_iff,
      Option.map_eq_some_iff, Option.pure_def, Option.some.injEq] at made
    obtain ⟨_, ⟨date, _, rfl⟩, rfl⟩ := made
    exact ⟨_, _, _, _, _, date, _, rfl, ⟨title, trim_trim _⟩, tidy.form⟩

variable {session : Session} {draw : Draw} {s t : Store Num} {event : CalendarEvent Num}

theorem created_tidy {body : CreateEventDto Num} {userId : Nat} {server : Host}
    (done : create server draw s body userId = .ok (t, event))
    (tidy : TidyRequest served (.create body)) : Tidy served (toJson event) := by
  obtain ⟨title, ⟨date, time⟩, place⟩ := tidy
  have rest := ensure_ok_bind done
  rw [time, date_or_null_iso] at rest
  obtain ⟨_, rfl⟩ := Prod.mk.inj (Except.ok.inj rest)
  exact ⟨title, rfl, place⟩

theorem updated_tidy {id userId : Nat} {server : Host} {body : UpdateEventDto Num}
    (done : update server draw s id userId body = .ok (t, event))
    (tidy : TidyRequest served (.update id body)) : Tidy served (toJson event) := by
  obtain ⟨_, _, _, _, _, date, _, rfl, title, place⟩ := tidy
  unfold update at done
  cases found : findById s id userId with
  | error e =>
    rw [found] at done
    cases done
  | ok old =>
    rw [found] at done
    simp only [date_or_null_iso] at done
    obtain ⟨_, rfl⟩ := Prod.mk.inj (Except.ok.inj done)
    exact ⟨title, rfl, place⟩

variable (session draw) in
/-- What the server makes of a request, and what it answers. -/
theorem tidy_serve {request : Request Num} (asked : TidyRequest served request)
    (rows : ∀ row ∈ s.events, Tidy served (toJson row)) :
    (∀ row ∈ (serve session draw s request).1.events, Tidy served (toJson row)) ∧
      ∀ data ∈ answered (serve session draw s request).2, Tidy served data := by
  cases request with
  | fetch month =>
    unfold serve
    dsimp only
    split
    · rename_i listed found
      refine ⟨rows, ?_⟩
      intro data mem
      obtain ⟨row, in_month, rfl⟩ := List.mem_map.mp mem
      have of_month : row ∈ EventsHook.monthRows session s month := by
        rw [EventsHook.monthRows, found]
        exact in_month
      exact rows row (EventsHook.mem_month_rows.mp of_month).2.1
    · exact ⟨rows, by simp [answered]⟩
  | create body =>
    unfold serve
    dsimp only
    split
    · rename_i t event done
      have new := created_tidy done asked
      obtain ⟨rfl, _⟩ := create_ok done
      refine ⟨?_, by simpa [answered] using new⟩
      intro row mem
      rcases List.mem_append.mp mem with old | added
      · exact rows row old
      · rw [List.mem_singleton.mp added]
        exact new
    · exact ⟨rows, by simp [answered]⟩
  | update id body =>
    unfold serve
    dsimp only
    split
    · rename_i t event done
      have new := updated_tidy done asked
      obtain ⟨events, _, _⟩ := update_ok done
      refine ⟨?_, by simpa [answered] using new⟩
      intro row mem
      rw [events] at mem
      obtain ⟨old, mo, rfl⟩ := List.mem_map.mp mem
      unfold replaceRow
      split
      · exact new
      · exact rows old mo
    · exact ⟨rows, by simp [answered]⟩
  | delete id =>
    unfold serve
    dsimp only
    split
    · rename_i t done
      obtain ⟨events, _⟩ := remove_ok done
      refine ⟨?_, by simp [answered]⟩
      intro row mem
      rw [events] at mem
      exact rows row (List.mem_of_mem_filter mem)
    · exact ⟨rows, by simp [answered]⟩

structure TidyWorld (served : PoiResult Num → Prop) (y : World Num) : Prop where
  rows : ∀ row ∈ y.store.events, Tidy served (toJson row)
  copies : ∀ data ∈ y.copies, Tidy served data
  dialogs : ∀ d ∈ y.dialogs, TidyModal served d.modal
  requests : ∀ r ∈ y.requests, TidyRequest served r.2

/-- The server answers searches with such places only. -/
def ActAnswers (served : PoiResult Num → Prop) : Act Num → Prop
  | .edit _ e => AnswersOnly served e
  | _ => True

theorem requests_append {requests : List (Session × Request Num)} {r : Session × Request Num}
    (old : ∀ q ∈ requests, TidyRequest served q.2) (new : TidyRequest served r.2) :
    ∀ q ∈ requests ++ [r], TidyRequest served q.2 := by
  intro q mem
  rcases List.mem_append.mp mem with present | added
  · exact old q present
  · rw [List.mem_singleton.mp added]
    exact new

theorem tidy_step [DecidableEq Num] {y z : World Num} {act : Act Num}
    (moved : step y act = some z) (answers : ActAnswers served act) (tidy : TidyWorld served y) :
    TidyWorld served z := by
  cases act with
  | fetch session month =>
    cases moved
    exact { tidy with requests := requests_append tidy.requests trivial }
  | openNew session browser =>
    cases moved
    have blank : TidyModal served (.mounted emptyEvent) :=
      tidy_mounted (Or.inl ⟨rfl, rfl, rfl, rfl⟩)
    exact { tidy with dialogs := List.forall_mem_cons.mpr ⟨blank, tidy.dialogs⟩ }
  | openCopy session browser index =>
    obtain ⟨event, listed, opened⟩ := Option.bind_eq_some_iff.mp moved
    cases opened
    have shown := tidy_mounted (whole_copy (tidy.copies event (List.mem_of_getElem? listed)))
    exact { tidy with dialogs := List.forall_mem_cons.mpr ⟨shown, tidy.dialogs⟩ }
  | edit index e =>
    obtain ⟨d, listed, rest⟩ := Option.bind_eq_some_iff.mp moved
    obtain ⟨modal, edited, kept⟩ := Option.bind_eq_some_iff.mp rest
    cases kept
    have mine := tidy.dialogs d (List.mem_of_getElem? listed)
    refine { tidy with dialogs := ?_ }
    intro other mem
    rcases List.mem_or_eq_of_mem_set mem with present | rfl
    · exact tidy.dialogs other present
    · exact tidy_modal_step answers edited mine
  | submit index =>
    obtain ⟨d, listed, rest⟩ := Option.bind_eq_some_iff.mp moved
    obtain ⟨request, sent, kept⟩ := Option.bind_eq_some_iff.mp rest
    cases kept
    have asked := tidy_request sent (tidy.dialogs d (List.mem_of_getElem? listed))
    exact { tidy with requests := requests_append tidy.requests asked }
  | delete index =>
    obtain ⟨d, listed, rest⟩ := Option.bind_eq_some_iff.mp moved
    obtain ⟨id, selected, kept⟩ := Option.bind_eq_some_iff.mp rest
    cases kept
    exact { tidy with requests := requests_append tidy.requests trivial }
  | close index =>
    cases moved
    exact
      { tidy with dialogs := fun d mem => tidy.dialogs d (List.mem_of_mem_eraseIdx mem) }
  | serve index draw =>
    obtain ⟨⟨session, request⟩, listed, answer⟩ := Option.bind_eq_some_iff.mp moved
    cases answer
    have asked := tidy.requests _ (List.mem_of_getElem? listed)
    obtain ⟨rows, data⟩ := tidy_serve session draw asked tidy.rows
    refine ⟨rows, ?_, tidy.dialogs, ?_⟩
    · intro event mem
      rcases List.mem_append.mp mem with present | new
      · exact tidy.copies event present
      · exact data event new
    · exact fun r mem => tidy.requests r (List.mem_of_mem_eraseIdx mem)

theorem run_tidy [DecidableEq Num] {y z : World Num} {acts : List (Act Num)}
    (answers : ∀ act ∈ acts, ActAnswers served act) (reached : run step y acts = some z)
    (tidy : TidyWorld served y) : TidyWorld served z := by
  induction acts generalizing y with
  | nil => cases reached; exact tidy
  | cons act rest ih =>
    obtain ⟨next, once, later⟩ := run_cons_iff.mp reached
    exact ih (fun a mem => answers a (List.mem_cons_of_mem _ mem)) later
      (tidy_step once (answers act List.mem_cons_self) tidy)

end Worlds

/-- The server has answered a search of one of the forms with this place. -/
def Offered (acts : List (Act Num)) (poi : PoiResult Num) : Prop :=
  ∃ index request serve keyword pois, .edit index (.settle request serve) ∈ acts ∧
    serve keyword = some pois ∧ poi ∈ pois

/-- An event has a title and a time, and its place is empty or one that a search has offered. -/
theorem events_have_whole_places [DecidableEq Num] {members : List CoupleMember}
    {acts : List (Act Num)} {y : World Num} (reached : run step (start members) acts = some y) :
    ∀ row ∈ y.store.events, Tidy (Offered acts) (toJson row) := by
  have answers : ∀ act ∈ acts, ActAnswers (Offered acts) act := by
    intro act mem
    cases act with
    | edit index e =>
      cases e with
      | settle request serve =>
        intro keyword pois answer poi listed
        exact ⟨index, request, serve, keyword, pois, mem, answer, listed⟩
      | _ => trivial
    | _ => trivial
  have tidy : TidyWorld (Offered acts) (start members) := by
    constructor <;> simp [start]
  exact (run_tidy answers reached tidy).rows

def seat : Session := ⟨greenwich, 0, 1⟩

def sampleDraw : Draw := ⟨9, ⟨86400009, by decide⟩, false, false, false⟩

/-- A place is picked for a new event, which is then opened again and cleared of its place. -/
def pickAndClear : List (Act Nat) :=
  [.openNew seat greenwich, .edit 0 (.change .title (js " tea ")),
    .edit 0 (.change .appointmentAt (js "2026-03-10T11:00")), .edit 0 (.type (js "cafe")),
    .edit 0 (.fire 0), .edit 0 (.settle 0 PoiSearch.onlyCafe), .edit 0 (.select 0), .submit 0,
    .serve 0 sampleDraw, .openCopy seat greenwich 0, .edit 0 (.type []), .submit 0]

theorem picked_place_is_whole : ∃ y row, run step (start [⟨0, 1⟩]) pickAndClear = some y ∧
    row ∈ y.store.events ∧ row.placeLat = some 37 ∧ Tidy (Offered pickAndClear) (toJson row) := by
  obtain ⟨y, row, reached, mem, lat⟩ :
      ∃ y row, run step (start [⟨0, 1⟩]) pickAndClear = some y ∧ row ∈ y.store.events ∧
        row.placeLat = some 37 := ⟨_, _, rfl, List.mem_singleton_self _, by decide⟩
  exact ⟨y, row, reached, mem, lat, events_have_whole_places reached row mem⟩

end EventForms
