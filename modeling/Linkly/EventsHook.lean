import Linkly.CalendarTab
import Linkly.KeyedRows
import Linkly.TransitionRuns

/-!
The events of a month as the web client holds them: switches of the month, the requests that fetch
and change events, and their answers in any order.
-/
namespace EventsHook
open LocalDate EventService CalendarTab KeyedRows TransitionRuns

variable {Num : Type}

/-- The host that answers, and the couple and the user of the client. -/
structure Session where
  server : Host
  coupleId : Nat
  userId : Nat

inductive Request (Num : Type) where
  | fetch (month : MonthText)
  | create (body : CreateEventDto Num)
  | update (id : Nat) (body : UpdateEventDto Num)
  | delete (id : Nat)

/-- An answer, with the id that the client asked for. `failed` is any that is not ok. -/
inductive Answer (Num : Type) where
  | events (data : List (CalendarEventData Num))
  | created (event : CalendarEventData Num)
  | updated (id : Nat) (event : CalendarEventData Num)
  | deleted (id : Nat)
  | failed

/-- A request under way, with its answer once the server has served it. -/
structure InFlight (Num : Type) where
  request : Request Num
  answer : Option (Answer Num)

/-- `deleted` has the ids of all events that were deleted. -/
structure System (Num : Type) where
  store : Store Num
  deleted : List Nat
  events : List (CalendarEventData Num)
  currentMonth : MonthText
  requests : List (InFlight Num)
  failed : Bool

inductive Event (Num : Type) where
  | setCurrentMonth (month : MonthText)
  | createEvent (body : CreateEventDto Num)
  | updateEvent (id : Nat) (body : UpdateEventDto Num)
  | deleteEvent (id : Nat)
  | serve (index : Nat) (draw : Draw)
  | respond (index : Nat)
  | lose (index : Nat)

def InFlight.fetches (q : InFlight Num) (month : MonthText) : Prop :=
  match q.request with
  | .fetch asked => asked = month
  | _ => False

/-- The answer puts an event with this id into the list, or a new version in its place. -/
def InFlight.brings (q : InFlight Num) (id : Nat) : Prop :=
  match q.answer with
  | some (.created event) => event.id = id
  | some (.updated asked _) => asked = id
  | _ => False

def InFlight.removes (q : InFlight Num) (id : Nat) : Prop :=
  match q.answer with
  | some (.deleted asked) => asked = id
  | _ => False

section Server
variable (session : Session)

def monthQuery (month : MonthText) : EventQueryDto := ⟨session.coupleId, some month, session.userId⟩

def serve (draw : Draw) (s : Store Num) : Request Num → Store Num × Answer Num
  | .fetch month =>
    match findByMonth session.server s (monthQuery session month) with
    | .ok rows => (s, .events (rows.map toJson))
    | .error _ => (s, .failed)
  | .create body =>
    let dto := { body with coupleId := session.coupleId }
    match create session.server draw s dto session.userId with
    | .ok (t, event) => (t, .created (toJson event))
    | .error _ => (s, .failed)
  | .update id body =>
    match update session.server draw s id session.userId body with
    | .ok (t, event) => (t, .updated id (toJson event))
    | .error _ => (s, .failed)
  | .delete id =>
    match remove draw s id session.userId with
    | .ok t => (t, .deleted id)
    | .error _ => (s, .failed)

/-- The stored events of a month. -/
def monthRows (s : Store Num) (month : MonthText) : List (CalendarEvent Num) :=
  match findByMonth session.server s (monthQuery session month) with
  | .ok rows => rows
  | .error _ => []

end Server

def Answer.deletes : Answer Num → List Nat
  | .deleted id => [id]
  | _ => []

namespace System
variable (y : System Num)

def send (request : Request Num) : System Num :=
  { y with requests := y.requests ++ [⟨request, none⟩] }

def settle : Answer Num → System Num
  | .events data => { y with events := data }
  | .created event => { y with events := y.events ++ [event] }
  | .updated id event =>
    { y with events := y.events.map fun e => if e.id = id then event else e }
  | .deleted id => { y with events := y.events.filter (·.id ≠ id) }
  | .failed => { y with failed := true }

end System

section Steps
variable (session : Session)

/-- The first fetch is that of the first effect. -/
def initial (s : Store Num) (month : MonthText) : System Num :=
  ⟨s, [], [], month, [⟨.fetch month, none⟩], false⟩

/-- The effect that follows a switch of the month runs at once. Ids are never used again. -/
def step (y : System Num) : Event Num → Option (System Num)
  | .setCurrentMonth month =>
    if month = y.currentMonth then some y
    else some ({ y with currentMonth := month }.send (.fetch month))
  | .createEvent body => some (y.send (.create body))
  | .updateEvent id body => some (y.send (.update id body))
  | .deleteEvent id => some (y.send (.delete id))
  | .serve index draw =>
    match y.requests[index]? with
    | some ⟨request, none⟩ =>
      if draw.id ∈ y.deleted ∨ draw.id ∈ y.store.events.map CalendarEvent.id then none
      else
        let served := serve session draw y.store request
        some { y with
          store := served.1
          deleted := served.2.deletes ++ y.deleted
          requests := y.requests.set index ⟨request, some served.2⟩ }
    | _ => none
  | .respond index =>
    match y.requests[index]? with
    | some ⟨_, some answer⟩ => some ({ y with requests := y.requests.eraseIdx index }.settle answer)
    | _ => none
  | .lose index =>
    if index < y.requests.length then
      some { y with requests := y.requests.eraseIdx index, failed := true }
    else none

/-- Nothing is in flight, and nothing has failed. -/
def Quiet (y : System Num) : Prop := y.requests = [] ∧ y.failed = false

instance (y : System Num) : Decidable (Quiet y) :=
  decidable_of_iff (y.requests.isEmpty = true ∧ y.failed = false)
    (and_congr_left' List.isEmpty_iff)

/-- The list has every stored event of the month and no deleted one. -/
def Complete (y : System Num) : Prop :=
  (∀ row ∈ monthRows session y.store y.currentMonth, toJson row ∈ y.events) ∧
    ∀ e ∈ y.events, e.id ∉ y.deleted

/-- The list is complete but for what the answers under way will still do to it. -/
structure Holds (y : System Num) (pending : List (InFlight Num))
    (list : List (CalendarEventData Num)) : Prop where
  rows : ∀ row ∈ monthRows session y.store y.currentMonth,
    toJson row ∈ list ∨ ∃ q ∈ pending, q.brings row.id
  deleted : ∀ e ∈ list, e.id ∈ y.deleted → ∃ q ∈ pending, q.removes e.id

/-- The answer is not outdated, next to what the others under way will still do: a list of events
    holds, a new event is neither deleted nor changed, and a changed one is listed and not changed
    again. -/
def Timely (y : System Num) (pending : List (InFlight Num)) : Answer Num → Prop
  | .events data => Holds session y pending data
  | .created event =>
    (event.id ∈ y.deleted → ∃ q ∈ pending, q.removes event.id) ∧
      ∀ row ∈ monthRows session y.store y.currentMonth, row.id = event.id →
        (toJson row = event ∨ toJson row ∈ y.events) ∨ ∃ q ∈ pending, q.brings row.id
  | .updated id event =>
    ∀ row ∈ monthRows session y.store y.currentMonth, row.id = id →
      (toJson row = event ∧ ∃ e ∈ y.events, e.id = id) ∨ ∃ q ∈ pending, q.brings row.id
  | .deleted _ => True
  | .failed => True

def Refreshing (y : System Num) (pending : List (InFlight Num)) : Prop :=
  ∃ q ∈ pending, q.fetches y.currentMonth

/-- An answer comes while a fetch of the month is still under way, or it is not outdated. -/
def InTime (y : System Num) : Event Num → Prop
  | .respond index => ∀ q ∈ y.requests[index]?, ∀ answer ∈ q.answer,
      Refreshing y (y.requests.eraseIdx index) ∨
        Timely session y (y.requests.eraseIdx index) answer
  | _ => True

section Decide
variable [DecidableEq Num] (y : System Num) (pending : List (InFlight Num))

instance (q : InFlight Num) (id : Nat) : Decidable (q.brings id) := by
  unfold InFlight.brings
  split <;> infer_instance

instance (q : InFlight Num) (id : Nat) : Decidable (q.removes id) := by
  unfold InFlight.removes
  split <;> infer_instance

instance (q : InFlight Num) (month : MonthText) : Decidable (q.fetches month) := by
  unfold InFlight.fetches
  split <;> infer_instance

instance (list : List (CalendarEventData Num)) : Decidable (Holds session y pending list) :=
  decidable_of_iff
    ((∀ row ∈ monthRows session y.store y.currentMonth,
        toJson row ∈ list ∨ ∃ q ∈ pending, q.brings row.id) ∧
      ∀ e ∈ list, e.id ∈ y.deleted → ∃ q ∈ pending, q.removes e.id)
    ⟨fun ⟨rows, deleted⟩ => ⟨rows, deleted⟩, fun holds => ⟨holds.rows, holds.deleted⟩⟩

instance : Decidable (Complete session y) :=
  inferInstanceAs (Decidable ((∀ row ∈ monthRows session y.store y.currentMonth,
    toJson row ∈ y.events) ∧ ∀ e ∈ y.events, e.id ∉ y.deleted))

instance (answer : Answer Num) : Decidable (Timely session y pending answer) := by
  cases answer <;> unfold Timely <;> infer_instance

instance : Decidable (Refreshing y pending) :=
  inferInstanceAs (Decidable (∃ q ∈ pending, q.fetches y.currentMonth))

instance (e : Event Num) : Decidable (InTime session y e) := by
  cases e <;> unfold InTime <;> infer_instance

end Decide

end Steps

section Serving
variable {session : Session} {draw : Draw} {s t : Store Num}

/-- The part of the query that is about the row alone. -/
def OfMonth (session : Session) (month : MonthText) (row : CalendarEvent Num) : Prop :=
  row.coupleId = session.coupleId ∧
    ∃ start stop, firstOfMonth session.server.zone month.year (month.month - 1) = some start ∧
      firstOfMonth session.server.zone month.year month.month = some stop ∧
      row.appointmentAt.any (fun date => start.ms ≤ date.ms ∧ date.ms < stop.ms) = true

theorem mem_month_rows {month : MonthText} {row : CalendarEvent Num} :
    row ∈ monthRows session s month ↔
      s.isMember session.coupleId session.userId = true ∧ row ∈ s.events ∧
        OfMonth session month row := by
  unfold monthRows findByMonth ensureCoupleMember OfMonth
  by_cases member : s.isMember session.coupleId session.userId = true
  · simp only [monthQuery, member, if_true, true_and]
    cases first : firstOfMonth session.server.zone month.year (month.month - 1) with
    | none => simp [bind, Except.bind, throw, throwThe, MonadExceptOf.throw]
    | some start =>
      cases last : firstOfMonth session.server.zone month.year month.month with
      | none => simp [bind, Except.bind, throw, throwThe, MonadExceptOf.throw]
      | some stop =>
        simp only [bind, Except.bind, pure, Except.pure, List.mem_insertionSort, List.mem_filter,
          Option.some.injEq, exists_and_left, exists_eq_left']
        constructor
        · rintro ⟨⟨present, ours⟩, within⟩
          exact ⟨present, of_decide_eq_true ours, within⟩
        · rintro ⟨present, ours, within⟩
          exact ⟨⟨present, decide_eq_true ours⟩, within⟩
  · simp [monthQuery, member, bind, Except.bind]

/-- A row of the month was one before, if it was there. -/
theorem month_rows_mono {month : MonthText} {row : CalendarEvent Num}
    (members : t.members = s.members) (mem : row ∈ monthRows session t month)
    (present : row ∈ s.events) : row ∈ monthRows session s month := by
  obtain ⟨member, _, month⟩ := mem_month_rows.mp mem
  exact mem_month_rows.mpr ⟨by rwa [Store.isMember, members] at member, present, month⟩

/-- What the server does with a request: each row is an old one or the answer has its id, no id is
    one that was not there but for a new one, and the answer fits the rows. -/
structure Served (s t : Store Num) (draw : Draw) (answer : Answer Num) : Prop where
  members : t.members = s.members
  rows : ∀ row ∈ t.events, row ∈ s.events ∨
    ∀ request : Request Num, InFlight.brings ⟨request, some answer⟩ row.id
  ids : ∀ row ∈ t.events, row.id = draw.id ∨ ∃ old ∈ s.events, old.id = row.id
  removed : ∀ id ∈ answer.deletes, ∀ row ∈ t.events, row.id ≠ id
  updated : ∀ id event, answer = .updated id event → event.id = id

theorem served_unchanged {answer : Answer Num} (deletes : answer.deletes = [])
    (updated : ∀ id event, answer ≠ .updated id event) : Served s s draw answer where
  members := rfl
  rows row mem := .inl mem
  ids row mem := .inr ⟨row, mem, rfl⟩
  removed id listed := by simp [deletes] at listed
  updated id event same := absurd same (updated id event)

theorem created_served {dto : CreateEventDto Num} {event : CalendarEvent Num}
    (done : create session.server draw s dto session.userId = .ok (t, event)) :
    Served s t draw (.created (toJson event)) := by
  obtain ⟨rfl, fresh⟩ := create_ok done
  constructor
  · rfl
  · intro row mem
    rcases List.mem_append.mp mem with present | added
    · exact .inl present
    · exact .inr fun _ => by rw [List.mem_singleton.mp added]; rfl
  · intro row mem
    rcases List.mem_append.mp mem with present | added
    · exact .inr ⟨row, present, rfl⟩
    · rw [List.mem_singleton.mp added]
      exact .inl fresh
  · simp [Answer.deletes]
  · simp

theorem updated_served {id : Nat} {dto : UpdateEventDto Num} {event : CalendarEvent Num}
    (done : update session.server draw s id session.userId dto = .ok (t, event)) :
    Served s t draw (.updated id (toJson event)) := by
  obtain ⟨events, members, same⟩ := update_ok done
  constructor
  · exact members
  · intro row mem
    rw [events] at mem
    obtain ⟨old, present, rfl⟩ := List.mem_map.mp mem
    unfold replaceRow
    split
    · exact .inr fun _ => same.symm
    · exact .inl present
  · intro row mem
    rw [events] at mem
    obtain ⟨old, present, rfl⟩ := List.mem_map.mp mem
    refine .inr ⟨old, present, ?_⟩
    unfold replaceRow
    split
    · rename_i this_row
      rw [this_row, same]
    · rfl
  · simp [Answer.deletes]
  · intro asked answered equal
    obtain ⟨rfl, rfl⟩ := Answer.updated.inj equal
    exact same

theorem removed_served {id : Nat} (done : remove draw s id session.userId = .ok t) :
    Served s t draw (.deleted id) := by
  obtain ⟨events, members⟩ := remove_ok done
  constructor
  · exact members
  · intro row mem
    rw [events] at mem
    exact .inl (List.mem_of_mem_filter mem)
  · intro row mem
    rw [events] at mem
    exact .inr ⟨row, List.mem_of_mem_filter mem, rfl⟩
  · intro asked listed row mem
    rw [events] at mem
    rw [List.mem_singleton.mp listed]
    simpa using (List.mem_filter.mp mem).2
  · simp

theorem serve_served (request : Request Num) :
    Served s (serve session draw s request).1 draw (serve session draw s request).2 := by
  cases request with
  | fetch month =>
    simp only [serve]
    split <;> exact served_unchanged rfl (by simp)
  | create body =>
    simp only [serve]
    split
    case h_1 t event done => exact created_served done
    case h_2 => exact served_unchanged rfl (by simp)
  | update id body =>
    simp only [serve]
    split
    case h_1 t event done => exact updated_served done
    case h_2 => exact served_unchanged rfl (by simp)
  | delete id =>
    simp only [serve]
    split
    case h_1 t done => exact removed_served done
    case h_2 => exact served_unchanged rfl (by simp)

end Serving

section Invariant
variable {session : Session} {y z : System Num}

/-- An answer under way fits its request and the rows. -/
structure AnswerFits (deleted : List Nat) (q : InFlight Num) : Prop where
  updated : ∀ id event, q.answer = some (.updated id event) → event.id = id
  removes : ∀ id, q.removes id → id ∈ deleted
  fetches : ∀ month answer, q.fetches month → q.answer = some answer →
    answer = .failed ∨ ∃ data, answer = .events data

/-- The list is fetched anew, or holds. -/
def Right (session : Session) (y : System Num) : Prop :=
  y.failed = true ∨ Refreshing y y.requests ∨ Holds session y y.requests y.events

structure Good (session : Session) (y : System Num) : Prop where
  apart : ∀ row ∈ y.store.events, row.id ∉ y.deleted
  answers : ∀ q ∈ y.requests, AnswerFits y.deleted q
  right : Right session y

theorem holds_pending {pending more : List (InFlight Num)} {list : List (CalendarEventData Num)}
    (subset : pending ⊆ more) (holds : Holds session y pending list) :
    Holds session y more list where
  rows row mem := (holds.rows row mem).imp_right fun ⟨q, listed, brings⟩ =>
    ⟨q, subset listed, brings⟩
  deleted e mem gone :=
    let ⟨q, listed, removes⟩ := holds.deleted e mem gone
    ⟨q, subset listed, removes⟩

theorem right_pending (right : Right session y) {requests : List (InFlight Num)}
    (subset : y.requests ⊆ requests) : Right session { y with requests := requests } := by
  rcases right with failed | ⟨q, mem, fetches⟩ | holds
  · exact .inl failed
  · exact .inr (.inl ⟨q, subset mem, fetches⟩)
  · exact .inr (.inr ⟨(holds_pending subset holds).rows, (holds_pending subset holds).deleted⟩)

theorem good_send (good : Good session y) (request : Request Num) :
    Good session (y.send request) where
  apart := good.apart
  answers q mem := by
    rcases List.mem_append.mp mem with present | added
    · exact good.answers q present
    · rw [List.mem_singleton.mp added]
      exact ⟨by simp, by simp [InFlight.removes], by simp⟩
  right := right_pending good.right (List.subset_append_left _ _)

theorem good_switch (good : Good session y) (month : MonthText) :
    Good session ({ y with currentMonth := month }.send (.fetch month)) where
  apart := good.apart
  answers := (good_send good (.fetch month)).answers
  right := .inr (.inl ⟨⟨.fetch month, none⟩, by simp [System.send], rfl⟩)

section Serve
variable {index : Nat} {request : Request Num} {answer : Answer Num}
  (found : y.requests[index]? = some ⟨request, none⟩)
include found

theorem mem_served {q : InFlight Num} (mem : q ∈ y.requests) (answered : q.answer ≠ none)
    (served : InFlight Num) : q ∈ y.requests.set index served := by
  obtain ⟨other, at_other⟩ := List.getElem?_of_mem mem
  have apart : index ≠ other := by
    rintro rfl
    rw [found] at at_other
    obtain rfl := Option.some.inj at_other
    exact answered rfl
  exact List.mem_of_getElem? (by rwa [List.getElem?_set_ne apart])

omit found in
theorem served_fits {t : Store Num} {draw : Draw} (served : Served y.store t draw answer)
    (fetched : ∀ month, request = .fetch month → answer = .failed ∨ ∃ data, answer = .events data) :
    AnswerFits (answer.deletes ++ y.deleted) ⟨request, some answer⟩ where
  updated id event same := served.updated id event (Option.some.inj same)
  removes id removes := by
    cases answer with
    | deleted asked => exact List.mem_append_left _ (List.mem_singleton.mpr removes.symm)
    | events _ | created _ | updated _ _ | failed => simp [InFlight.removes] at removes
  fetches month given fetches same := by
    obtain rfl := Option.some.inj same
    cases request with
    | fetch asked => exact fetched asked rfl
    | create _ | update _ _ | delete _ => simp [InFlight.fetches] at fetches

/-- The list still holds: the answer under way brings what the server has changed. -/
theorem served_holds (holds : Holds session y y.requests y.events) {t : Store Num} {draw : Draw}
    (served : Served y.store t draw answer) :
    Holds session { y with store := t, deleted := answer.deletes ++ y.deleted }
      (y.requests.set index ⟨request, some answer⟩) y.events := by
  have inside : index < y.requests.length := (List.getElem?_eq_some_iff.mp found).1
  have listed : ⟨request, some answer⟩ ∈ y.requests.set index ⟨request, some answer⟩ :=
    List.mem_set inside _
  constructor
  · intro row mem
    rcases served.rows row (mem_month_rows.mp mem).2.1 with before | brings
    · refine (holds.rows row (month_rows_mono served.members mem before)).imp_right ?_
      intro pending
      obtain ⟨q, present, brings⟩ := pending
      refine ⟨q, mem_served found present ?_ _, brings⟩
      intro unanswered
      simp [InFlight.brings, unanswered] at brings
    · exact .inr ⟨_, listed, brings request⟩
  · intro e mem gone
    rcases List.mem_append.mp gone with now | before
    · refine ⟨_, listed, ?_⟩
      cases answer with
      | deleted asked => exact (List.mem_singleton.mp now).symm
      | events _ | created _ | updated _ _ | failed => simp [Answer.deletes] at now
    · obtain ⟨q, present, removes⟩ := holds.deleted e mem before
      refine ⟨q, mem_served found present ?_ _, removes⟩
      intro unanswered
      simp [InFlight.removes, unanswered] at removes

theorem good_serve (good : Good session y) {t : Store Num} {draw : Draw}
    (fresh : draw.id ∉ y.deleted) (served : Served y.store t draw answer)
    (fetched : ∀ month, request = .fetch month → answer = .failed ∨ ∃ data, answer = .events data) :
    Good session { y with
      store := t
      deleted := answer.deletes ++ y.deleted
      requests := y.requests.set index ⟨request, some answer⟩ } := by
  constructor
  · intro row mem gone
    rcases List.mem_append.mp gone with now | before
    · exact served.removed row.id now row mem rfl
    · rcases served.ids row mem with new | ⟨old, present, same⟩
      · exact fresh (new ▸ before)
      · exact good.apart old present (same ▸ before)
  · intro q mem
    rcases List.mem_or_eq_of_mem_set mem with old | rfl
    · have fits := good.answers q old
      exact ⟨fits.updated, fun id gone => List.mem_append_right _ (fits.removes id gone),
        fits.fetches⟩
    · exact served_fits served fetched
  · rcases good.right with failed | ⟨q, mem, fetches⟩ | holds
    · exact .inl failed
    · refine .inr (.inl ?_)
      have inside : index < y.requests.length := (List.getElem?_eq_some_iff.mp found).1
      obtain ⟨other, at_other⟩ := List.getElem?_of_mem mem
      by_cases same : index = other
      · rw [← same, found] at at_other
        obtain rfl := Option.some.inj at_other
        exact ⟨_, List.mem_set inside _, fetches⟩
      · exact ⟨q, List.mem_of_getElem? (by rwa [List.getElem?_set_ne same]), fetches⟩
    · have still := served_holds found holds served
      exact .inr (.inr ⟨still.rows, still.deleted⟩)

end Serve

section Respond
variable {request : Request Num} {pending : List (InFlight Num)}

/-- What a request under way will do is done by this answer or by another one. -/
theorem brings_or {answer : Answer Num}
    (cover : ∀ q ∈ y.requests, q = ⟨request, some answer⟩ ∨ q ∈ pending)
    {does : InFlight Num → Prop} (will : ∃ q ∈ y.requests, does q) :
    does ⟨request, some answer⟩ ∨ ∃ q ∈ pending, does q := by
  obtain ⟨q, mem, brings⟩ := will
  rcases cover q mem with rfl | other
  · exact .inl brings
  · exact .inr ⟨q, other, brings⟩

theorem holds_created {event : CalendarEventData Num}
    (cover : ∀ q ∈ y.requests, q = ⟨request, some (.created event)⟩ ∨ q ∈ pending)
    (before : Holds session y y.requests y.events)
    (timely : Timely session y pending (.created event)) :
    Holds session y pending (y.events ++ [event]) := by
  obtain ⟨gone, latest⟩ := timely
  constructor
  · intro row mem
    rcases before.rows row mem with listed | will
    · exact .inl (List.mem_append_left _ listed)
    · rcases brings_or cover will with this_one | other
      · refine (latest row mem (Eq.symm this_one)).imp_left ?_
        rintro (same | listed)
        · exact List.mem_append_right _ (List.mem_singleton.mpr same)
        · exact List.mem_append_left _ listed
      · exact .inr other
  · intro e mem deleted
    rcases List.mem_append.mp mem with listed | added
    · exact (brings_or cover (before.deleted e listed deleted)).resolve_left
        (by simp [InFlight.removes])
    · obtain rfl := List.mem_singleton.mp added
      exact gone deleted

theorem holds_updated {id : Nat} {event : CalendarEventData Num}
    (cover : ∀ q ∈ y.requests, q = ⟨request, some (.updated id event)⟩ ∨ q ∈ pending)
    (before : Holds session y y.requests y.events) (same_id : event.id = id)
    (timely : Timely session y pending (.updated id event)) :
    Holds session y pending (y.events.map fun e => if e.id = id then event else e) := by
  have patched : ∀ row ∈ monthRows session y.store y.currentMonth, row.id = id →
      toJson row ∈ y.events.map (fun e => if e.id = id then event else e) ∨
        ∃ q ∈ pending, q.brings row.id := by
    intro row mem this_row
    refine (timely row mem this_row).imp_left ?_
    rintro ⟨same, e, listed, this_event⟩
    exact List.mem_map.mpr ⟨e, listed, by rw [if_pos this_event, same]⟩
  constructor
  · intro row mem
    by_cases this_row : row.id = id
    · exact patched row mem this_row
    · rcases before.rows row mem with listed | will
      · exact .inl (List.mem_map.mpr ⟨_, listed, if_neg this_row⟩)
      · rcases brings_or cover will with this_one | other
        · exact absurd (Eq.symm this_one) this_row
        · exact .inr other
  · intro e mem deleted
    obtain ⟨old, listed, rfl⟩ := List.mem_map.mp mem
    have kept : (if old.id = id then event else old).id = old.id := by
      split
      · rename_i this_event
        rw [same_id, this_event]
      · rfl
    rw [kept] at deleted ⊢
    exact (brings_or cover (before.deleted old listed deleted)).resolve_left
      (by simp [InFlight.removes])

theorem holds_deleted {id : Nat}
    (cover : ∀ q ∈ y.requests, q = ⟨request, some (.deleted id)⟩ ∨ q ∈ pending)
    (before : Holds session y y.requests y.events)
    (gone : ∀ row ∈ y.store.events, row.id ≠ id) :
    Holds session y pending (y.events.filter (·.id ≠ id)) := by
  constructor
  · intro row mem
    rcases before.rows row mem with listed | will
    · have stored := (mem_month_rows.mp mem).2.1
      exact .inl (List.mem_filter.mpr ⟨listed, decide_eq_true (gone row stored)⟩)
    · exact .inr ((brings_or cover will).resolve_left (by simp [InFlight.brings]))
  · intro e mem deleted
    obtain ⟨listed, kept⟩ := List.mem_filter.mp mem
    rcases brings_or cover (before.deleted e listed deleted) with this_one | other
    · exact absurd (Eq.symm this_one) (of_decide_eq_true kept)
    · exact other

/-- An answer changes the list alone, or marks a failure. -/
structure Settled (y z : System Num) (pending : List (InFlight Num)) : Prop where
  store : z.store = y.store
  deleted : z.deleted = y.deleted
  month : z.currentMonth = y.currentMonth
  requests : z.requests = pending
  failed : y.failed = true → z.failed = true

theorem settle_settled (y : System Num) (pending : List (InFlight Num)) (answer : Answer Num) :
    Settled y ({ y with requests := pending }.settle answer) pending := by
  cases answer with
  | failed => exact ⟨rfl, rfl, rfl, rfl, fun _ => rfl⟩
  | events _ | created _ | updated _ _ | deleted _ => exact ⟨rfl, rfl, rfl, rfl, id⟩

theorem holds_settled {list : List (CalendarEventData Num)} (settled : Settled y z pending) :
    Holds session z pending list ↔ Holds session y pending list := by
  constructor
  · intro holds
    exact ⟨settled.store ▸ settled.month ▸ holds.rows, settled.deleted ▸ holds.deleted⟩
  · intro holds
    refine ⟨?_, ?_⟩
    · rw [settled.store, settled.month]
      exact holds.rows
    · rw [settled.deleted]
      exact holds.deleted

/-- The list after an answer that is not outdated. -/
theorem timely_holds {answer : Answer Num} (good : Good session y)
    (mem : ⟨request, some answer⟩ ∈ y.requests)
    (cover : ∀ q ∈ y.requests, q = ⟨request, some answer⟩ ∨ q ∈ pending)
    (before : (∀ data, answer ≠ .events data) → Holds session y y.requests y.events)
    (timely : Timely session y pending answer) (ok : answer ≠ .failed) :
    Holds session y pending ({ y with requests := pending }.settle answer).events := by
  have fits := good.answers _ mem
  cases answer with
  | events data => exact timely
  | created event => exact holds_created cover (before (by simp)) timely
  | updated id event =>
    exact holds_updated cover (before (by simp)) (fits.updated id event rfl) timely
  | deleted id =>
    refine holds_deleted cover (before (by simp)) ?_
    intro row present same
    exact good.apart row present (fits.removes row.id same.symm)
  | failed => exact absurd rfl ok

section Answered
variable {index : Nat} {answer : Answer Num} (good : Good session y)
  (found : y.requests[index]? = some ⟨request, some answer⟩)
include good found

/-- With no other fetch of the month under way, the list that a change meets holds. -/
theorem holds_before (refreshing : ¬ Refreshing y (y.requests.eraseIdx index))
    (runs : y.failed = false) (ok : answer ≠ .failed) (patch : ∀ data, answer ≠ .events data) :
    Holds session y y.requests y.events := by
  rcases good.right with failed | ⟨q, mem, fetches⟩ | holds
  · simp [runs] at failed
  · rcases (mem_taken_iff found q).mp mem with rfl | other
    · rcases (good.answers _ mem).fetches _ _ fetches rfl with failed | ⟨data, events⟩
      · exact absurd failed ok
      · exact absurd events (patch data)
    · exact absurd ⟨q, other, fetches⟩ refreshing
  · exact holds

theorem good_respond (in_time : InTime session y (.respond index)) :
    Good session ({ y with requests := y.requests.eraseIdx index }.settle answer) := by
  have settled := settle_settled y (y.requests.eraseIdx index) answer
  generalize same : ({ y with requests := y.requests.eraseIdx index } : System Num).settle answer = z
    at settled
  constructor
  · rw [settled.store, settled.deleted]
    exact good.apart
  · intro q mem
    rw [settled.requests] at mem
    have fits := good.answers q (List.mem_of_mem_eraseIdx mem)
    exact ⟨fits.updated, settled.deleted ▸ fits.removes, fits.fetches⟩
  · by_cases refreshing : Refreshing y (y.requests.eraseIdx index)
    · obtain ⟨q, mem, fetches⟩ := refreshing
      exact .inr (.inl ⟨q, settled.requests ▸ mem, settled.month ▸ fetches⟩)
    · have timely := (in_time _ found answer rfl).resolve_left refreshing
      by_cases ok : answer = .failed
      · left
        rw [← same, ok]
        rfl
      · by_cases runs : y.failed = true
        · exact .inl (settled.failed runs)
        · right; right
          have before := holds_before good found refreshing (by simpa using runs) ok
          have cover := fun q => (mem_taken_iff found q).mp
          have holds := timely_holds good (List.mem_of_getElem? found) cover before timely ok
          rw [same, ← holds_settled settled, ← settled.requests] at holds
          exact holds

end Answered

/-- The last answer leaves a complete list only when it is not outdated. -/
theorem complete_timely {answer : Answer Num}
    (complete : Complete session ({ y with requests := [] }.settle answer)) :
    Timely session y [] answer := by
  obtain ⟨rows, deleted⟩ := complete
  cases answer with
  | events data =>
    constructor
    · exact fun row mem => .inl (rows row mem)
    · exact fun e mem gone => absurd gone (deleted e mem)
  | created event =>
    constructor
    · intro gone
      exact absurd gone (deleted event (List.mem_append_right _ (List.mem_singleton.mpr rfl)))
    · intro row mem same
      left
      rcases List.mem_append.mp (rows row mem) with listed | added
      · exact .inr listed
      · exact .inl (List.mem_singleton.mp added)
  | updated id event =>
    intro row mem this_row
    left
    obtain ⟨old, listed, patched⟩ := List.mem_map.mp (rows row mem)
    by_cases this_event : old.id = id
    · rw [if_pos this_event] at patched
      exact ⟨patched.symm, old, listed, this_event⟩
    · rw [if_neg this_event] at patched
      rw [patched] at this_event
      exact absurd this_row this_event
  | deleted _ | failed => trivial

end Respond

theorem good_initial (s : Store Num) (month : MonthText) : Good session (initial s month) where
  apart row _ := by simp [initial]
  answers q mem := by
    rw [List.mem_singleton.mp mem]
    exact ⟨by simp, by simp [InFlight.removes], by simp⟩
  right := .inr (.inl ⟨⟨.fetch month, none⟩, by simp [initial], rfl⟩)

theorem good_step {e : Event Num} (moved : step session y e = some z)
    (in_time : InTime session y e) (good : Good session y) : Good session z := by
  cases e with
  | setCurrentMonth month =>
    simp only [step] at moved
    split at moved
    · obtain rfl := Option.some.inj moved
      exact good
    · obtain rfl := Option.some.inj moved
      exact good_switch good month
  | createEvent body | updateEvent id body | deleteEvent id =>
    obtain rfl := Option.some.inj moved
    exact good_send good _
  | serve index draw =>
    simp only [step] at moved
    split at moved
    case h_2 => simp at moved
    case h_1 request found =>
    split at moved
    · simp at moved
    · rename_i fresh
      obtain rfl := Option.some.inj moved
      refine good_serve found good (fun used => fresh (.inl used)) (serve_served request) ?_
      rintro month rfl
      simp only [serve]
      split
      · exact .inr ⟨_, rfl⟩
      · exact .inl rfl
  | respond index =>
    simp only [step] at moved
    split at moved
    case h_2 => simp at moved
    case h_1 request answer found =>
      obtain rfl := Option.some.inj moved
      exact good_respond good found in_time
  | lose index =>
    simp only [step, Option.ite_none_right_eq_some, Option.some.injEq] at moved
    obtain ⟨_, rfl⟩ := moved
    exact ⟨good.apart, fun q mem => good.answers q (List.mem_of_mem_eraseIdx mem), .inl rfl⟩

theorem complete_of_quiet (good : Good session y) (quiet : Quiet y) : Complete session y := by
  obtain ⟨nothing, runs⟩ := quiet
  rcases good.right with failed | refreshing | holds
  · simp [runs] at failed
  · obtain ⟨q, mem, _⟩ := refreshing
    simp [nothing] at mem
  · rw [nothing] at holds
    constructor
    · exact fun row mem => (holds.rows row mem).resolve_right (by simp)
    · intro e mem gone
      obtain ⟨q, listed, _⟩ := holds.deleted e mem gone
      simp at listed

/-- A step to a state with nothing under way leaves a complete list exactly when it is in time. -/
theorem complete_iff_in_time {e : Event Num} (good : Good session y)
    (moved : step session y e = some z) (quiet : Quiet z) :
    Complete session z ↔ InTime session y e := by
  constructor
  · intro complete
    cases e with
    | respond index =>
      intro q found answer answered
      obtain ⟨request, given⟩ := q
      obtain rfl : given = some answer := answered
      simp only [step, Option.mem_def.mp found, Option.some.injEq] at moved
      obtain rfl := moved
      have last : y.requests.eraseIdx index = [] := by
        rw [← quiet.1, (settle_settled y _ answer).requests]
      rw [last] at complete ⊢
      exact .inr (complete_timely complete)
    | setCurrentMonth _ | createEvent _ | updateEvent _ _ | deleteEvent _ | serve _ _ | lose _ =>
      trivial
  · intro in_time
    exact complete_of_quiet (good_step moved in_time good) quiet

end Invariant

/-- As long as each answer is in time, the list is complete whenever nothing is under way. A first
    answer that is not in time leaves it incomplete if it is the last one under way. -/
theorem quiet_list_complete {session : Session} {s : Store Num} {month : MonthText}
    {events : List (Event Num)} {y : System Num}
    (moved : run (step session) (initial s month) events = some y)
    (in_time : EachStep (step session) (InTime session) (initial s month) events) :
    (Quiet y → Complete session y) ∧ ∀ e z, step session y e = some z → Quiet z →
      (Complete session z ↔ InTime session y e) := by
  have good : Good session y := guarded_run_keeps (Good session)
    (fun _ _ _ moved met kept => good_step moved met kept) moved in_time (good_initial s month)
  exact ⟨complete_of_quiet good, fun e z next quiet => complete_iff_in_time good next quiet⟩

section Sample

def sampleSession : Session := ⟨greenwich, 1, 7⟩

def march : MonthText := ⟨JsText.js "2026-03", rfl⟩

def april : MonthText := ⟨JsText.js "2026-04", by decide⟩

/-- On 10 April. -/
def dinner : CalendarEvent Nat :=
  ⟨5, 1, JsText.js "Dinner", none, none, none, none, some ⟨1775847600000, by decide⟩, none, 7,
    ⟨1772000000000, by decide⟩, ⟨1772000000000, by decide⟩⟩

def sampleStore : Store Nat := ⟨[⟨1, 7⟩], [dinner], [], []⟩

def sampleDraw : Draw := ⟨6, ⟨1773000000000, by decide⟩, false, false, false⟩

def walk : CreateEventDto Nat :=
  ⟨0, JsText.js "Walk", none, none, none, none, some (JsText.js "2026-04-12T09:00:00.000Z"), none⟩

/-- March is asked for first, and its answer comes before that for April. Then a new event is made
    and the other one deleted. -/
def orderly : List (Event Nat) :=
  [.setCurrentMonth april, .serve 0 sampleDraw, .serve 1 sampleDraw, .respond 0, .respond 0,
    .createEvent walk, .serve 0 sampleDraw, .deleteEvent 5, .respond 0,
    .serve 0 { sampleDraw with id := 8 }, .respond 0]

def sampleStart : System Nat := initial sampleStore march

theorem orderly_complete : ∃ y, run (step sampleSession) sampleStart orderly = some y ∧ Quiet y ∧
    y.events.map (·.id) = [6] ∧ Complete sampleSession y := by
  have reached : run (step sampleSession) sampleStart orderly =
      some ((run (step sampleSession) sampleStart orderly).get (by decide +kernel)) :=
    (Option.some_get _).symm
  refine ⟨_, reached, by decide +kernel, by decide +kernel, ?_⟩
  exact (quiet_list_complete reached (by decide +kernel)).1 (by decide +kernel)

/-- The answer for March comes last, and the list of April is empty. -/
theorem late_march_empties_april : ¬ ∀ (session : Session) (s : Store Nat) (month : MonthText)
    (events : List (Event Nat)) (y : System Nat),
      run (step session) (initial s month) events = some y → Quiet y → Complete session y := by
  intro complete
  let switched : List (Event Nat) :=
    [.setCurrentMonth april, .serve 0 sampleDraw, .serve 1 sampleDraw, .respond 1, .respond 0]
  have reached : run (step sampleSession) sampleStart switched =
      some ((run (step sampleSession) sampleStart switched).get (by decide +kernel)) :=
    (Option.some_get _).symm
  have all := complete sampleSession sampleStore march switched _ reached (by decide +kernel)
  exact absurd all (by decide +kernel)

end Sample

end EventsHook
