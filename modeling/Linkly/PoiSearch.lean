import Linkly.CalendarTab
import Linkly.TransitionRuns
import Mathlib.Data.List.Perm.Basic

/-!
The search for places in the form of an event: the timers and requests of usePoiSearch, the input
of PoiSearchInput and the place in the form. What the server answers to a keyword may be another
thing at each request.
-/
namespace PoiSearch
open JsText CalendarTab TransitionRuns

variable {Num : Type}

structure PoiResult (Num : Type) where
  name : JsString
  address : JsString
  lat : Num
  lng : Num
  deriving DecidableEq, Repr

/-- A timer that has been neither cleared nor fired. -/
structure Timer where
  id : Nat
  keyword : JsString
  deriving DecidableEq, Repr

/-- A request that has not ended, with the keyword that it sends. -/
structure Request where
  controller : Nat
  keyword : JsString
  aborted : Bool
  deriving DecidableEq, Repr

structure Hook (Num : Type) where
  results : List (PoiResult Num)
  loading : Bool
  timers : List Timer
  timerRef : Option Nat
  requests : List Request
  abortRef : Option Nat
  nextId : Nat

namespace Hook

def mounted : Hook Num := ⟨[], false, [], none, [], none, 0⟩

/-- To clear a timer that has fired does nothing. -/
def clearTimeout (h : Hook Num) : Hook Num :=
  { h with timers := h.timers.filter fun t => h.timerRef ≠ some t.id }

def abort (h : Hook Num) : Hook Num :=
  { h with
    requests := h.requests.map fun r =>
      if h.abortRef = some r.controller then { r with aborted := true } else r }

def clear (h : Hook Num) : Hook Num :=
  { h.clearTimeout.abort with results := [], loading := false }

def search (keyword : JsString) (h : Hook Num) : Hook Num :=
  if trim keyword = [] then h.clear
  else
    { h.clearTimeout.abort with
      loading := true
      timers := h.clearTimeout.timers ++ [⟨h.nextId, keyword⟩]
      timerRef := some h.nextId
      nextId := h.nextId + 1 }

/-- The callback of a timer up to its first `await`. -/
def fire (id : Nat) (h : Hook Num) : Option (Hook Num) :=
  (h.timers.find? (·.id = id)).map fun t =>
    { h with
      timers := h.timers.filter (·.id ≠ id)
      requests := h.requests ++ [⟨h.nextId, trim t.keyword, false⟩]
      abortRef := some h.nextId
      nextId := h.nextId + 1 }

/-- The rest of the callback. An aborted request ends with an AbortError whatever the server says;
    any other error, `none` here, empties the results. -/
def settle (index : Nat) (serve : JsString → Option (List (PoiResult Num))) (h : Hook Num) :
    Option (Hook Num) :=
  h.requests[index]?.map fun r =>
    { h with
      results := if r.aborted then h.results else (serve r.keyword).getD []
      loading := false
      requests := h.requests.eraseIdx index }

/-- Nothing that is under way can change the results any more. -/
def Quiet (h : Hook Num) : Prop := h.timers = [] ∧ ∀ r ∈ h.requests, r.aborted = true

/-- One search is under way, the one for this keyword: its timer runs, or its request. -/
def Pending (h : Hook Num) (keyword : JsString) : Prop :=
  (∃ t, h.timers = [t] ∧ h.timerRef = some t.id ∧ trim t.keyword = keyword ∧
    ∀ r ∈ h.requests, r.aborted = true) ∨
  h.timers = [] ∧ ∃ r, h.requests.filter (!·.aborted) = [r] ∧ h.abortRef = some r.controller ∧
    r.keyword = keyword

end Hook

/-- The form of an event with the input for its place. -/
structure Modal (Num : Type) where
  hook : Hook Num
  inputValue : JsString
  isOpen : Bool
  originalData : EventFormData Num
  formData : EventFormData Num

def Modal.mounted (baseEvent : EventFormData Num) : Modal Num :=
  ⟨.mounted, baseEvent.placeName, false, baseEvent, baseEvent⟩

def handlePoiSelect (poi : PoiResult Num) (form : EventFormData Num) : EventFormData Num :=
  { form with
    placeName := poi.name
    placeAddress := poi.address
    placeLat := some poi.lat
    placeLng := some poi.lng }

def handlePoiClear (form : EventFormData Num) : EventFormData Num :=
  { form with placeName := [], placeAddress := [], placeLat := none, placeLng := none }

/-- The effect on the value of the input, which runs when the value has changed. -/
def showValue (before after : Modal Num) : Modal Num :=
  if after.formData.placeName = before.formData.placeName then after
  else { after with inputValue := after.formData.placeName }

def handleInputChange (text : JsString) (y : Modal Num) : Modal Num :=
  if trim text ≠ [] then
    { y with inputValue := text, hook := y.hook.search text, isOpen := true }
  else
    showValue y
      { y with
        inputValue := text
        hook := y.hook.clear
        formData := handlePoiClear y.formData
        isOpen := false }

def handleSelect (poi : PoiResult Num) (y : Modal Num) : Modal Num :=
  showValue y
    { y with
      inputValue := poi.name
      isOpen := false
      hook := y.hook.clear
      formData := handlePoiSelect poi y.formData }

/-- The fields that the other inputs of the form change. -/
inductive Field where
  | title | appointmentAt | detail

def handleChange (key : Field) (value : JsString) (form : EventFormData Num) : EventFormData Num :=
  match key with
  | .title => { form with title := value }
  | .appointmentAt => { form with appointmentAt := value }
  | .detail => { form with detail := value }

inductive Event (Num : Type) where
  | type (text : JsString)
  | select (index : Nat)
  | clickOutside
  | change (key : Field) (value : JsString)
  | fire (id : Nat)
  | settle (index : Nat) (serve : JsString → Option (List (PoiResult Num)))

/-- A result can be selected while the list of them is open. -/
def step (y : Modal Num) : Event Num → Option (Modal Num)
  | .type text => some (handleInputChange text y)
  | .select index =>
    if y.isOpen then y.hook.results[index]?.map fun poi => handleSelect poi y else none
  | .clickOutside => some { y with isOpen := false }
  | .change key value => some { y with formData := handleChange key value y.formData }
  | .fire id => (y.hook.fire id).map fun h => { y with hook := h }
  | .settle index serve => (y.hook.settle index serve).map fun h => { y with hook := h }

section Hooks
variable {h : Hook Num}

theorem live_erased {l : List Request} {index : Nat} {r : Request} (here : l[index]? = some r) :
    (r.aborted = true → ((l.eraseIdx index).filter (!·.aborted)).Perm (l.filter (!·.aborted))) ∧
      (r.aborted = false →
        (r :: (l.eraseIdx index).filter (!·.aborted)).Perm (l.filter (!·.aborted))) := by
  obtain ⟨below, rfl⟩ := List.getElem?_eq_some_iff.mp here
  have moved := (List.getElem_cons_eraseIdx_perm below).filter (!·.aborted)
  constructor <;>
  · intro flag
    simpa [List.filter_cons, flag] using moved

theorem all_aborted_iff {l : List Request} :
    (∀ r ∈ l, r.aborted = true) ↔ l.filter (!·.aborted) = [] := by
  simp [List.filter_eq_nil_iff]

/-- Either nothing counts that is under way or the search for one keyword does. -/
def Settled (h : Hook Num) (keyword : JsString) : Prop := h.Quiet ∨ h.Pending keyword

theorem quiet_cancelled {keyword : JsString} (settled : Settled h keyword) :
    h.clearTimeout.abort.Quiet := by
  rcases settled with ⟨no_timer, aborted⟩ | ⟨t, timers, ref, _, aborted⟩ |
    ⟨no_timer, r, live, ref, _⟩
  · refine ⟨by simp [Hook.clearTimeout, Hook.abort, no_timer], ?_⟩
    intro r mem
    obtain ⟨old, mo, rfl⟩ := List.mem_map.mp mem
    split <;> simp [aborted old mo]
  · refine ⟨by simp [Hook.clearTimeout, Hook.abort, timers, ref], ?_⟩
    intro r mem
    obtain ⟨old, mo, rfl⟩ := List.mem_map.mp mem
    split <;> simp [aborted old mo]
  · refine ⟨by simp [Hook.clearTimeout, Hook.abort, no_timer], ?_⟩
    intro other mem
    obtain ⟨old, mo, rfl⟩ := List.mem_map.mp mem
    by_cases dead : old.aborted = true
    · split <;> simp [dead]
    · have only : old ∈ h.requests.filter (!·.aborted) :=
        List.mem_filter.mpr ⟨mo, by simpa using dead⟩
      rw [live, List.mem_singleton] at only
      simp [Hook.clearTimeout, only, ref]

theorem quiet_clear {keyword : JsString} (settled : Settled h keyword) : h.clear.Quiet :=
  quiet_cancelled settled

theorem pending_search {keyword text : JsString} (settled : Settled h keyword)
    (asked : trim text ≠ []) : (h.search text).Pending (trim text) := by
  obtain ⟨no_timer, aborted⟩ := quiet_cancelled settled
  left
  refine ⟨⟨h.nextId, text⟩, ?_, ?_, rfl, ?_⟩
  · have none_left : h.clearTimeout.timers = [] := no_timer
    simp [Hook.search, asked, none_left]
  · simp [Hook.search, asked]
  · simpa [Hook.search, asked] using aborted

theorem pending_fire {keyword : JsString} {id : Nat} {k : Hook Num}
    (settled : Settled h keyword) (fired : h.fire id = some k) :
    h.Pending keyword ∧ k.Pending keyword := by
  obtain ⟨t, found, rfl⟩ := Option.map_eq_some_iff.mp fired
  have mem := List.mem_of_find?_eq_some found
  have named : t.id = id := by simpa using List.find?_some found
  rcases settled with ⟨no_timer, _⟩ | ⟨only, timers, ref, wanted, aborted⟩ | ⟨no_timer, _⟩
  · simp [no_timer] at mem
  · have same : t = only := by simpa [timers] using mem
    subst same
    refine ⟨Or.inl ⟨t, timers, ref, wanted, aborted⟩, Or.inr ⟨by simp [timers, named], ?_⟩⟩
    refine ⟨⟨h.nextId, trim t.keyword, false⟩, ?_, rfl, wanted⟩
    simp [List.filter_append, all_aborted_iff.mp aborted]
  · simp [no_timer] at mem

theorem settle_aborted {index : Nat} {serve : JsString → Option (List (PoiResult Num))}
    {k : Hook Num} {r : Request} (here : h.requests[index]? = some r) (dead : r.aborted = true)
    (ended : h.settle index serve = some k) :
    k.results = h.results ∧ k.loading = false ∧ (k.Quiet ↔ h.Quiet) ∧
      ∀ keyword, k.Pending keyword ↔ h.Pending keyword := by
  simp only [Hook.settle, here, dead, if_true, Option.map_some, Option.some.injEq] at ended
  subst ended
  have same := (live_erased here).1 dead
  have live_one (other : Request) : (h.requests.eraseIdx index).filter (!·.aborted) = [other] ↔
      h.requests.filter (!·.aborted) = [other] := by
    constructor <;> intro one
    · rw [one] at same
      exact (List.singleton_perm.mp same).symm
    · rw [one] at same
      exact List.perm_singleton.mp same
  have live_none : (h.requests.eraseIdx index).filter (!·.aborted) = [] ↔
      h.requests.filter (!·.aborted) = [] := by
    constructor <;> intro none_left
    · rw [none_left] at same
      exact List.nil_perm.mp same
    · rw [none_left] at same
      exact List.perm_nil.mp same
  refine ⟨rfl, rfl, ?_, fun keyword => ?_⟩
  · simp only [Hook.Quiet, all_aborted_iff, live_none]
  · simp only [Hook.Pending, all_aborted_iff, live_none, live_one]

theorem settle_alive {keyword : JsString} {index : Nat}
    {serve : JsString → Option (List (PoiResult Num))} {k : Hook Num} {r : Request}
    (settled : Settled h keyword) (here : h.requests[index]? = some r) (alive : r.aborted = false)
    (ended : h.settle index serve = some k) :
    h.Pending keyword ∧ r.keyword = keyword ∧ k.Quiet ∧ k.loading = false ∧
      k.results = (serve keyword).getD [] := by
  simp only [Hook.settle, here, alive, Option.map_some, Option.some.injEq] at ended
  subst ended
  have mem := List.mem_of_getElem? here
  have same := (live_erased here).2 alive
  have counts {l : List Request} (inside : r ∈ l) : ¬ ∀ q ∈ l, q.aborted = true := by
    intro aborted
    simp [aborted r inside] at alive
  rcases settled with ⟨_, aborted⟩ | ⟨_, _, _, _, aborted⟩ | ⟨no_timer, only, live, ref, rfl⟩
  · exact absurd aborted (counts mem)
  · exact absurd aborted (counts mem)
  · rw [live] at same
    obtain ⟨rfl, none_left⟩ := List.cons.inj (List.perm_singleton.mp same)
    exact ⟨Or.inr ⟨no_timer, r, live, ref, rfl⟩, rfl,
      ⟨no_timer, all_aborted_iff.mpr none_left⟩, rfl, by simp⟩

theorem pending_not_quiet {keyword : JsString} (pending : h.Pending keyword) : ¬ h.Quiet := by
  intro quiet
  rcases pending with ⟨t, timers, _⟩ | ⟨_, r, live, _⟩
  · simp [quiet.1] at timers
  · simp [all_aborted_iff.mp quiet.2] at live

end Hooks

section Modals
variable {y z : Modal Num}

/-- A search that is under way is one for the text in the input. -/
structure Sound (y : Modal Num) : Prop where
  settled : Settled y.hook (trim y.inputValue)
  loading : y.hook.loading = true → y.hook.Pending (trim y.inputValue)
  blank : trim y.inputValue = [] → y.hook.Quiet ∧ y.hook.results = []

theorem sound_mounted (baseEvent : EventFormData Num) : Sound (.mounted baseEvent) where
  settled := Or.inl ⟨rfl, by simp [Modal.mounted, Hook.mounted]⟩
  loading := by simp [Modal.mounted, Hook.mounted]
  blank _ := ⟨⟨rfl, by simp [Modal.mounted, Hook.mounted]⟩, rfl⟩

theorem sound_cleared (sound : Sound y) (cleared : z.hook = y.hook.clear) : Sound z := by
  have quiet := quiet_clear sound.settled
  rw [← cleared] at quiet
  exact
    { settled := Or.inl quiet
      loading := by simp [cleared, Hook.clear]
      blank := fun _ => ⟨quiet, by simp [cleared, Hook.clear]⟩ }

theorem show_value_hook : (showValue y z).hook = z.hook := by
  unfold showValue
  split <;> rfl

theorem sound_step {e : Event Num} (moved : step y e = some z) (sound : Sound y) : Sound z := by
  cases e with
  | type text =>
    obtain rfl := Option.some.inj moved
    unfold handleInputChange
    split
    · rename_i asked
      have pending := pending_search sound.settled asked
      exact
        { settled := Or.inr pending
          loading := fun _ => pending
          blank := fun empty => absurd empty asked }
    · exact sound_cleared sound show_value_hook
  | select index =>
    simp only [step, Option.ite_none_right_eq_some, Option.map_eq_some_iff] at moved
    obtain ⟨_, poi, _, rfl⟩ := moved
    exact sound_cleared sound show_value_hook
  | clickOutside =>
    cases moved
    exact ⟨sound.settled, sound.loading, sound.blank⟩
  | change key value =>
    cases moved
    exact ⟨sound.settled, sound.loading, sound.blank⟩
  | fire id =>
    obtain ⟨k, fired, rfl⟩ := Option.map_eq_some_iff.mp moved
    obtain ⟨before, after⟩ := pending_fire sound.settled fired
    exact
      { settled := Or.inr after
        loading := fun _ => after
        blank := fun empty => absurd (sound.blank empty).1 (pending_not_quiet before) }
  | settle index serve =>
    obtain ⟨k, ended, rfl⟩ := Option.map_eq_some_iff.mp moved
    obtain ⟨r, here, _⟩ := Option.map_eq_some_iff.mp ended
    by_cases dead : r.aborted = true
    · obtain ⟨results, loaded, quiet, pending⟩ := settle_aborted here dead ended
      exact
        { settled := sound.settled.imp quiet.mpr (pending _).mpr
          loading := by simp [loaded]
          blank := fun empty =>
            ⟨quiet.mpr (sound.blank empty).1, results.trans (sound.blank empty).2⟩ }
    · obtain ⟨before, _, quiet, loaded, _⟩ :=
        settle_alive sound.settled here (by simpa using dead) ended
      exact
        { settled := Or.inl quiet
          loading := by simp [loaded]
          blank := fun empty => absurd (sound.blank empty).1 (pending_not_quiet before) }

theorem run_sound {baseEvent : EventFormData Num} {es : List (Event Num)}
    (reached : run step (.mounted baseEvent) es = some y) : Sound y :=
  run_keeps Sound (fun _ _ _ => sound_step) reached (sound_mounted baseEvent)

/-- Results that count for the text in the input. -/
def Shown (y : Modal Num) (x : JsString × List (PoiResult Num)) : Prop :=
  y.hook.Quiet ∧ trim y.inputValue = x.1 ∧ y.hook.results = x.2 ∧ x.2 ≠ []

/-- The server answers the request that counts. -/
def Answered (y : Modal Num) (e : Event Num) (x : JsString × List (PoiResult Num)) : Prop :=
  ∃ index serve r, e = .settle index serve ∧ y.hook.requests[index]? = some r ∧
    r.aborted = false ∧ trim y.inputValue = x.1 ∧ serve r.keyword = some x.2

theorem shown_step {e : Event Num} {x : JsString × List (PoiResult Num)}
    (moved : step y e = some z) (shown : Shown z x) : Shown y x ∨ Answered y e x := by
  obtain ⟨quiet, text, results, some_result⟩ := shown
  have not_cleared {y' : Modal Num} (cleared : z.hook = y'.hook.clear) : False := by
    rw [cleared] at results
    exact some_result results.symm
  cases e with
  | type new =>
    obtain rfl := Option.some.inj moved
    unfold handleInputChange at quiet not_cleared
    split at quiet
    · rename_i asked
      simp [Hook.search, asked, Hook.Quiet] at quiet
    · rename_i empty
      rw [if_neg empty] at not_cleared
      exact (not_cleared show_value_hook).elim
  | select index =>
    simp only [step, Option.ite_none_right_eq_some, Option.map_eq_some_iff] at moved
    obtain ⟨_, poi, _, rfl⟩ := moved
    exact (not_cleared show_value_hook).elim
  | clickOutside =>
    cases moved
    exact Or.inl ⟨quiet, text, results, some_result⟩
  | change key value =>
    cases moved
    exact Or.inl ⟨quiet, text, results, some_result⟩
  | fire id =>
    obtain ⟨k, fired, rfl⟩ := Option.map_eq_some_iff.mp moved
    obtain ⟨t, _, rfl⟩ := Option.map_eq_some_iff.mp fired
    have := quiet.2 ⟨y.hook.nextId, trim t.keyword, false⟩ (by simp)
    simp at this
  | settle index serve =>
    obtain ⟨k, ended, rfl⟩ := Option.map_eq_some_iff.mp moved
    obtain ⟨r, here, _⟩ := Option.map_eq_some_iff.mp ended
    by_cases dead : r.aborted = true
    · obtain ⟨same, _, quiet_iff, _⟩ := settle_aborted here dead ended
      exact Or.inl ⟨quiet_iff.mp quiet, text, same.symm.trans results, some_result⟩
    · right
      have alive : r.aborted = false := by simpa using dead
      refine ⟨index, serve, r, rfl, here, alive, text, ?_⟩
      simp only [Hook.settle, here, alive, Option.map_some, Option.some.injEq] at ended
      subst ended
      cases answer : serve r.keyword with
      | none => simp [answer, ← results] at some_result
      | some pois => simpa [answer] using results

/-- Timers and requests go on, with a server that answers like this. -/
def ByItself (serve : JsString → Option (List (PoiResult Num))) : Event Num → Prop
  | .fire _ => True
  | .settle _ answer => answer = serve
  | _ => False

theorem request_ends {keyword : JsString} {r : Request} (sound : Sound y)
    (serve : JsString → Option (List (PoiResult Num))) (mem : r ∈ y.hook.requests)
    (alive : r.aborted = false) (own : trim y.inputValue = keyword) :
    ∃ index z, step y (.settle index serve) = some z ∧ z.hook.Quiet ∧
      z.inputValue = y.inputValue ∧ z.formData = y.formData ∧
      z.hook.results = (serve keyword).getD [] := by
  obtain ⟨index, here⟩ := List.getElem?_of_mem mem
  have ended : ∃ k, y.hook.settle index serve = some k := by
    simp [Hook.settle, here]
  obtain ⟨k, ended⟩ := ended
  obtain ⟨_, _, quiet, _, results⟩ := settle_alive sound.settled here alive ended
  refine ⟨index, { y with hook := k }, by simp [step, ended], quiet, rfl, rfl, ?_⟩
  rw [← own]
  exact results

theorem search_ends (sound : Sound y) (serve : JsString → Option (List (PoiResult Num)))
    (pending : y.hook.Pending (trim y.inputValue)) :
    ∃ more z, run step y more = some z ∧ (∀ e ∈ more, ByItself serve e) ∧ z.hook.Quiet ∧
      z.inputValue = y.inputValue ∧ z.formData = y.formData ∧
      z.hook.results = (serve (trim y.inputValue)).getD [] := by
  rcases pending with ⟨t, timers, _, wanted, _⟩ | ⟨_, r, live, _⟩
  · have fired : ∃ k, y.hook.fire t.id = some k ∧
        ⟨y.hook.nextId, trim t.keyword, false⟩ ∈ k.requests := by
      simp [Hook.fire, timers]
    obtain ⟨k, fired, mem⟩ := fired
    have once : step y (.fire t.id) = some { y with hook := k } := by simp [step, fired]
    obtain ⟨index, z, last, done⟩ := request_ends (sound_step once sound) serve mem rfl rfl
    refine ⟨[.fire t.id, .settle index serve], z, ?_, by simp [ByItself], done⟩
    simp [run, once, last]
  · have mem : r ∈ y.hook.requests.filter (!·.aborted) := by simp [live]
    rw [List.mem_filter] at mem
    obtain ⟨index, z, last, done⟩ := request_ends sound serve mem.1 (by simpa using mem.2) rfl
    refine ⟨[.settle index serve], z, ?_, by simp [ByItself], done⟩
    simp [run, last]

end Modals

/-- A search that is under way is for the text in the input and comes to an end; the results that
    are left are what the server has answered for that text. -/
theorem results_answer_input {baseEvent : EventFormData Num} {es : List (Event Num)}
    {y : Modal Num} (reached : run step (.mounted baseEvent) es = some y) :
    (y.hook.Quiet ∨ trim y.inputValue ≠ [] ∧ y.hook.Pending (trim y.inputValue)) ∧
    (y.hook.loading = true → ¬ y.hook.Quiet) ∧
    (y.hook.Quiet → y.hook.results ≠ [] → ∃ front index serve back,
      es = front ++ .settle index serve :: back ∧
        serve (trim y.inputValue) = some y.hook.results) ∧
    ∀ serve, ¬ y.hook.Quiet → ∃ more z, run step y more = some z ∧
      (∀ e ∈ more, ByItself serve e) ∧ z.hook.Quiet ∧ z.inputValue = y.inputValue ∧
      z.formData = y.formData ∧ z.hook.results = (serve (trim y.inputValue)).getD [] := by
  have sound := run_sound reached
  have pending (busy : ¬ y.hook.Quiet) : y.hook.Pending (trim y.inputValue) :=
    sound.settled.resolve_left busy
  refine ⟨?_, ?_, ?_, fun serve busy => search_ends sound serve (pending busy)⟩
  · by_cases quiet : y.hook.Quiet
    · exact Or.inl quiet
    · exact Or.inr ⟨fun empty => quiet (sound.blank empty).1, pending quiet⟩
  · exact fun loading => pending_not_quiet (sound.loading loading)
  · intro quiet some_result
    rcases caused_in_run Shown Answered (fun _ _ _ _ => shown_step) reached
      (x := (_, _)) ⟨quiet, rfl, rfl, some_result⟩ with start | sent
    · simp [Shown, Modal.mounted, Hook.mounted] at start
    · obtain ⟨front, _, back, w, split_run, to_w, index, serve, r, rfl, here, alive, same, answer⟩ :=
        sent
      have ended : ∃ k, w.hook.settle index serve = some k := by simp [Hook.settle, here]
      obtain ⟨k, ended⟩ := ended
      obtain ⟨_, own, _⟩ := settle_alive (run_sound to_w).settled here alive ended
      rw [own, same] at answer
      exact ⟨front, index, serve, back, split_run, answer⟩

def cafe : PoiResult Nat := ⟨js "Cafe", js "Seoul", 37, 127⟩

def onlyCafe (keyword : JsString) : Option (List (PoiResult Nat)) :=
  if keyword = js "cafe" then some [cafe] else none

def blankForm : EventFormData Nat := ⟨[], [], [], [], none, none, []⟩

/-- The first request is aborted by the second text and ends late. -/
def retyped : List (Event Nat) :=
  [.type (js "ca"), .fire 0, .type (js "cafe "), .fire 2, .settle 1 onlyCafe, .settle 0 onlyCafe]

theorem retyped_answers_input : ∃ y, run step (.mounted blankForm) retyped = some y ∧
      y.hook.results = [cafe] ∧ ∃ front index serve back,
        retyped = front ++ .settle index serve :: back ∧
          serve (trim y.inputValue) = some y.hook.results := by
  obtain ⟨y, reached, no_timer, no_request, shown⟩ :
      ∃ y, run step (.mounted blankForm) retyped = some y ∧ y.hook.timers = [] ∧
        y.hook.requests = [] ∧ y.hook.results = [cafe] := ⟨_, rfl, by decide, by decide, by decide⟩
  have quiet : y.hook.Quiet := ⟨no_timer, by simp [no_request]⟩
  have answer := (results_answer_input reached).2.2.1 quiet (by simp [shown])
  exact ⟨y, reached, shown, answer⟩

end PoiSearch
