import Linkly.JsText
import Linkly.TransitionRuns

/-!
The route of the selected event as the calendar holds it: selections, the effect that follows a
change of the selected event, refreshes, and responses in any order.
-/
namespace CoupleRouteHook
open JsText TransitionRuns

variable {Data : Type}

inductive ModalView where
  | closed
  | list
  | create
  | edit
  deriving DecidableEq, Repr

/-- `hasLocation` says that both coordinates are there and not zero. -/
structure SelectedEvent where
  id : JsString
  hasLocation : Bool
  deriving DecidableEq, Repr

def routeEventId (modalView : ModalView) (selectedEvent : Option SelectedEvent) : Option JsString :=
  if modalView = .edit then (selectedEvent.filter (·.hasLocation)).map (·.id) else none

structure Request where
  eventId : JsString
  forceRefresh : Bool
  deriving DecidableEq, Repr

inductive Response (Data : Type) where
  | route (data : Data)
  | refused (message : Option JsString)
  /-- The request or the reading of its body fails. -/
  | thrown (message : JsString)

/-- The state of the hook. `effectDue` says that the event has changed since the effect last ran;
    `answers` has every route from the server with the event it was asked for. -/
structure Hook (Data : Type) where
  eventId : Option JsString
  effectDue : Bool
  route : Option Data
  loading : Bool
  error : Option JsString
  requests : List Request
  answers : List (JsString × Data)
  deriving DecidableEq, Repr

def initial : Hook Data := ⟨none, false, none, false, none, [], []⟩

inductive Event (Data : Type) where
  | select (modalView : ModalView) (selectedEvent : Option SelectedEvent)
  | runEffect
  | refresh
  | respond (index : Nat) (response : Response Data)

namespace Hook
variable (y : Hook Data)

/-- An empty id is falsy. -/
def fetchRoute (forceRefresh : Bool) : Hook Data :=
  match y.eventId.filter (· ≠ []) with
  | none => y
  | some eventId =>
    { y with
      loading := true
      error := none
      requests := y.requests ++ [⟨eventId, forceRefresh⟩] }

/-- What is left of a request when its response is there. -/
def settle (request : Request) : Response Data → Hook Data
  | .route data =>
    { y with
      route := some data
      loading := false
      answers := y.answers ++ [(request.eventId, data)] }
  | .refused message =>
    { y with
      error := some (message.getD (js "Route analysis failed"))
      route := none
      loading := false }
  | .thrown message => { y with error := some message, route := none, loading := false }

end Hook

def step (y : Hook Data) : Event Data → Option (Hook Data)
  | .select modalView selectedEvent =>
    let eventId := routeEventId modalView selectedEvent
    some { y with eventId := eventId, effectDue := y.effectDue || eventId ≠ y.eventId }
  | .runEffect => if y.effectDue then some ({ y with effectDue := false }.fetchRoute false) else none
  | .refresh => some (y.fetchRoute true)
  | .respond index response => do
    let request ← y.requests[index]?
    return { y with requests := y.requests.eraseIdx index }.settle request response

/-- Were the event selected, a route that is not loading would be an answer for it. -/
def Shows (y : Hook Data) (eventId : Option JsString) : Prop :=
  ∀ id data, eventId = some id → y.loading = false → y.route = some data → (id, data) ∈ y.answers

/-- The route is an answer for the selected event. -/
def ShowsOwn (y : Hook Data) : Prop := Shows y y.eventId

/-- A selection meets no route of another event, and a route arrives for the event that is selected,
    or for any when none is. -/
def Fits (y : Hook Data) : Event Data → Prop
  | .select modalView selectedEvent => Shows y (routeEventId modalView selectedEvent)
  | .respond index (.route data) => ∀ request, y.requests[index]? = some request →
      ∀ id, y.eventId = some id → request.eventId = id ∨ (id, data) ∈ y.answers
  | _ => True

section Steps
variable {y z : Hook Data}

theorem fetch_route_shows_own (shows : ShowsOwn y) (forceRefresh : Bool) :
    ShowsOwn (y.fetchRoute forceRefresh) := by
  unfold Hook.fetchRoute
  cases y.eventId.filter (· ≠ []) with
  | none => exact shows
  | some eventId =>
    intro id data _ loaded
    simp at loaded

theorem settle_shows_own_iff {request : Request} {data : Data} :
    ShowsOwn (y.settle request (.route data)) ↔
      ∀ id, y.eventId = some id → request.eventId = id ∨ (id, data) ∈ y.answers := by
  simp only [ShowsOwn, Shows, Hook.settle, Option.some.injEq, List.mem_append, List.mem_singleton,
    Prod.mk.injEq]
  constructor
  · intro shows id selected
    rcases shows id data selected trivial rfl with answered | ⟨rfl, _⟩
    · exact Or.inr answered
    · exact Or.inl rfl
  · rintro fits id _ selected _ rfl
    rcases fits id selected with same | answered
    · exact Or.inr ⟨same.symm, rfl⟩
    · exact Or.inl answered

theorem shows_own_without_route (nothing : y.route = none) : ShowsOwn y := by
  intro id data _ _ found
  simp [nothing] at found

/-- A step keeps the route that of the selected event exactly when it fits. -/
theorem shows_own_iff_fits {e : Event Data} (moved : step y e = some z) (shows : ShowsOwn y) :
    ShowsOwn z ↔ Fits y e := by
  cases e with
  | select modalView selectedEvent =>
    obtain rfl := Option.some.inj moved
    exact Iff.rfl
  | runEffect =>
    simp only [step] at moved
    split_ifs at moved
    obtain rfl := Option.some.inj moved
    have kept : ShowsOwn { y with effectDue := false } := shows
    exact iff_of_true (fetch_route_shows_own kept false) trivial
  | refresh =>
    obtain rfl := Option.some.inj moved
    exact iff_of_true (fetch_route_shows_own shows true) trivial
  | respond index response =>
    simp only [step, bind, Option.bind_eq_some_iff, pure, Option.some.injEq] at moved
    obtain ⟨request, at_index, rfl⟩ := moved
    cases response with
    | route data =>
      rw [settle_shows_own_iff]
      simp only [Fits, at_index, Option.some.injEq, forall_eq']
    | refused message => exact iff_of_true (shows_own_without_route rfl) trivial
    | thrown message => exact iff_of_true (shows_own_without_route rfl) trivial

end Steps

/-- In every state of a run the route is that of the selected event, if and only if each of its
    selections and responses fits. -/
theorem own_route_iff_fits (es : List (Event Data)) :
    EveryState step ShowsOwn initial es ↔ EachStep step Fits initial es :=
  every_state_iff_each_step (fun _ => True) (fun _ _ _ _ _ _ => trivial)
    (fun _ _ _ _ moved _ shows => shows_own_iff_fits moved shows) trivial
    (shows_own_without_route rfl)

def pick (id : String) : Event Nat := .select .edit (some ⟨js id, true⟩)

/-- The response to the first request comes last. -/
def lateResponse : List (Event Nat) :=
  [pick "e1", .runEffect, pick "e2", .runEffect, .respond 1 (.route 2), .respond 0 (.route 1)]

theorem late_response_shows_other_route :
    ¬ ∀ (Data : Type) (es : List (Event Data)), EveryState step ShowsOwn initial es := by
  intro every
  have reached : run step initial lateResponse =
      some ⟨some (js "e2"), false, some 1, false, none, [], [(js "e2", 2), (js "e1", 1)]⟩ := by
    decide
  have shows := every_state_last reached (every Nat lateResponse)
  have own := shows (js "e2") 1 rfl rfl rfl
  revert own
  decide

end CoupleRouteHook
