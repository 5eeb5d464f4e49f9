import Linkly.AuthService
import Linkly.TransitionRuns

/-!
A browser tab from one load of the app to the next: AuthProvider, the page that the login comes
back to, the login page and the main page. Navigations and the answers to requests come in any
order, and other tabs write to the storage at any time.
-/
namespace AuthSession
open KeyedRows TransitionRuns

inductive Page where
  | callback (token : Option String)
  | login
  | main
  deriving DecidableEq, Repr

structure AuthUser where
  id : Nat
  email : Option String
  displayName : String
  avatarUrl : Option String
  deriving DecidableEq, Repr

/-- What MainPage reads of the answer. -/
structure UserStatus where
  hasCouple : Bool
  coupleId : Option Nat
  deriving DecidableEq, Repr

/-- A request of the effect on the token, with the flag that the effect's cleanup sets. -/
structure ProfileRequest where
  token : String
  cancelled : Bool
  deriving DecidableEq, Repr

/-- A request of `fetchStatus`. Its page is mounted until another one takes its place. -/
structure StatusRequest where
  token : Option String
  mounted : Bool
  deriving DecidableEq, Repr

structure Session where
  stored : Option String
  token : Option String
  user : Option AuthUser
  loading : Bool
  profiles : List ProfileRequest
  page : Page
  heading : Option Page
  status : Option UserStatus
  statusLoading : Bool
  statuses : List StatusRequest
  deriving DecidableEq, Repr

inductive StatusAnswer where
  | ok (status : UserStatus)
  | unauthorized
  | failed
  deriving DecidableEq, Repr

inductive View where
  | processing
  | loading
  | buttons
  | blank
  | setup
  | tabs (coupleId : Option Nat)
  deriving DecidableEq, Repr

/-- The empty string is falsy. -/
def truthy (text : Option String) : Option String := text.filter (· ≠ "")

namespace Session

def setToken (newToken : String) (s : Session) : Session :=
  { s with stored := some newToken, token := some newToken }

def logout (s : Session) : Session := { s with stored := none, token := none, user := none }

/-- `authFetch` sends the token that is stored, whatever token the page has. -/
def request (s : Session) : Session :=
  { s with statuses := s.statuses ++ [⟨truthy s.stored, true⟩] }

def fetchStatus (s : Session) : Session := if truthy s.token = none then s else s.request

/-- The effects of the two pages that depend on `loading` and on the token. -/
def redirect (s : Session) : Session :=
  match s.page with
  | .callback _ => s
  | .login =>
    if s.loading = false ∧ truthy s.token ≠ none then { s with heading := some .main } else s
  | .main =>
    if s.loading = false ∧ truthy s.token = none then { s with heading := some .login } else s

def statusEffect (s : Session) : Session := if s.page = .main then s.fetchStatus else s

/-- The cleanup of the last effect on the token, and the effect on the token that is there now. -/
def tokenEffect (s : Session) : Session :=
  let cancelled := s.profiles.map fun r => { r with cancelled := true }
  match truthy s.token with
  | none => { s with profiles := cancelled, user := none }
  | some token => { s with profiles := cancelled ++ [⟨token, false⟩] }

/-- Runs the effects whose dependencies are others than in the last rendering. -/
def rerender (last s : Session) : Session :=
  let s := if s.loading = last.loading ∧ s.token = last.token then s else s.redirect
  if s.token = last.token then s else s.statusEffect.tokenEffect

def handleCallback (s : Session) : Option Session :=
  match s.page, s.heading with
  | .callback token, none =>
    match truthy token with
    | some token => some { rerender s (s.setToken token) with heading := some .main }
    | none => some { s with heading := some .login }
  | _, _ => none

/-- The rest of the token's effect, from the answer on: `none` for each way it can fail. -/
def answerProfile (index : Nat) (answer : Option AuthUser) (s : Session) : Option Session :=
  s.profiles[index]?.map fun r =>
    let s := { s with profiles := s.profiles.eraseIdx index }
    if r.cancelled then s
    else
      match answer with
      | some user => rerender s { s with user := some user, loading := false }
      | none => rerender s { s.logout with loading := false }

def answerStatus (index : Nat) (answer : StatusAnswer) (s : Session) : Option Session :=
  s.statuses[index]?.map fun r =>
    let s := { s with statuses := s.statuses.eraseIdx index }
    let done :=
      match answer with
      | .ok status => if r.mounted then { s with status := some status } else s
      | .unauthorized => s.logout
      | .failed => s
    rerender s (if r.mounted then { done with statusLoading := false } else done)

/-- The page that the router heads for is mounted, with state of its own. -/
def arrive (s : Session) : Option Session :=
  s.heading.map fun page =>
    let statuses := s.statuses.map fun r => { r with mounted := false }
    { s with page, heading := none, status := none, statusLoading := true, statuses
      }.redirect.statusEffect

/-- A couple that was found or formed by a component of the main page. -/
def coupleReady (coupleId : Nat) (s : Session) : Option Session :=
  if s.page = .main then
    some { s with status := s.status.map fun _ => ⟨true, some coupleId⟩ }
  else none

/-- The settings call `fetchStatus` as it was when they were shown, so with a token. -/
def breakUp (s : Session) : Option Session :=
  if s.page = .main ∧ s.loading = false ∧ s.statusLoading = false then some s.request else none

def view (s : Session) : View :=
  match s.page with
  | .callback _ => .processing
  | .login => if s.loading then .loading else .buttons
  | .main =>
    if s.loading ∨ s.statusLoading then .loading
    else if s.user = none then .blank
    else
      match s.status with
      | some ⟨true, coupleId⟩ => .tabs coupleId
      | _ => .setup

def mount (stored : Option String) (page : Page) : Session :=
  ⟨stored, none, none, true, [], page, none, none, true, []⟩

/-- The effect of AuthProvider that runs once. -/
def init (s : Session) : Session :=
  match truthy s.stored with
  | some stored => rerender s { s with token := some stored }
  | none => rerender s { s with loading := false }

/-- The effect of the callback's page runs before the ones of AuthProvider, or it is an event of
    its own when the page is rendered later, inside of its Suspense. -/
def load (stored : Option String) (page : Page) (callbackFirst : Bool) : Session :=
  init (if callbackFirst then (mount stored page).handleCallback.getD (mount stored page)
    else mount stored page)

end Session
open Session

inductive Event where
  | handleCallback
  | answerProfile (index : Nat) (answer : Option AuthUser)
  | answerStatus (index : Nat) (answer : StatusAnswer)
  | arrive
  | coupleReady (coupleId : Nat)
  | breakUp
  | otherTab (stored : Option String)
  deriving DecidableEq, Repr

def step (s : Session) : Event → Option Session
  | .handleCallback => s.handleCallback
  | .answerProfile index answer => s.answerProfile index answer
  | .answerStatus index answer => s.answerStatus index answer
  | .arrive => s.arrive
  | .coupleReady coupleId => s.coupleReady coupleId
  | .breakUp => s.breakUp
  | .otherTab stored => some { s with stored }

/-- Neither a page nor an answer is awaited, other than answers that nothing depends on. -/
structure Quiet (s : Session) : Prop where
  handled : ∀ token, s.page ≠ .callback token
  arrived : s.heading = none
  profiles : ∀ r ∈ s.profiles, r.cancelled = true
  statuses : s.statuses = []

def SignedIn (s : Session) : Prop :=
  s.token ≠ none ∧ s.user ≠ none ∧ (s.view = .setup ∨ ∃ coupleId, s.view = .tabs coupleId)

def SignedOut (s : Session) : Prop := s.token = none ∧ s.user = none ∧ s.view = .buttons

/-- The event is no 401 to a request for the status that comes while the profile is loading. -/
def NotRefused (s : Session) (e : Event) : Prop :=
  s.loading = true → ∀ index, e ≠ .answerStatus index .unauthorized

/-- What the effect on the token and the ones of the main page see to. -/
structure Requested (s : Session) : Prop where
  current : ∀ r ∈ s.profiles, r.cancelled = false → s.token = some r.token
  no_user : s.token = none → s.user = none
  profile : s.token ≠ none → (s.loading = true ∨ s.user = none) →
    ∃ r ∈ s.profiles, r.cancelled = false
  status : s.page = .main → s.token ≠ none → s.statusLoading = true →
    ∃ r ∈ s.statuses, r.mounted = true

/-- The router heads away from a page that is not for the token that there is. -/
structure Redirected (s : Session) : Prop where
  main : s.page = .main → s.loading = false → s.token = none → s.heading = some .login
  login : s.page = .login → s.loading = false → s.token ≠ none → s.heading = some .main

/-- As long as the profile is loading, the main page stays and only it asks for the status. -/
structure Grounded (s : Session) : Prop where
  token : s.token ≠ some ""
  stays : s.page = .main → s.loading = true → s.heading = none
  asks : s.loading = true → s.statuses ≠ [] → s.page = .main
  refused : s.loading = true → s.token = none → s.page = .main

structure Wf (s : Session) : Prop where
  requested : Requested s
  redirected : Redirected s
  grounded : Grounded s

section Effects
variable {s last : Session}

theorem truthy_token {text : Option String} (given : text ≠ some "") : truthy text = text := by
  cases text with
  | none => rfl
  | some text =>
    have differs : text ≠ "" := fun empty => given (congrArg some empty)
    simp [truthy, differs]

theorem truthy_given (text : Option String) : truthy text ≠ some "" := by
  cases text with
  | none => simp [truthy]
  | some text => simp [truthy]

theorem redirect_spec (given : s.token ≠ some "") :
    ∃ heading, s.redirect = { s with heading } ∧ Redirected { s with heading } ∧
      (s.loading = true → heading = s.heading) := by
  unfold redirect
  rw [truthy_token given]
  split
  · rename_i page
    refine ⟨s.heading, rfl, ⟨?_, ?_⟩, fun _ => rfl⟩ <;> simp [page]
  · rename_i page
    split
    · rename_i away
      refine ⟨some .main, rfl, ⟨?_, ?_⟩, ?_⟩ <;> simp [page, away.1]
    · rename_i stays
      refine ⟨s.heading, rfl, ⟨by simp [page], ?_⟩, fun _ => rfl⟩
      exact fun _ loaded signed => absurd ⟨loaded, signed⟩ stays
  · rename_i page
    split
    · rename_i away
      refine ⟨some .login, rfl, ⟨?_, ?_⟩, ?_⟩ <;> simp [page, away.1]
    · rename_i stays
      refine ⟨s.heading, rfl, ⟨?_, by simp [page]⟩, fun _ => rfl⟩
      exact fun _ loaded unsigned => absurd ⟨loaded, unsigned⟩ stays

theorem status_effect_spec (given : s.token ≠ some "") :
    ∃ statuses, s.statusEffect = { s with statuses } ∧
      (s.page = .main → s.token ≠ none → ∃ r ∈ statuses, r.mounted = true) ∧
      (s.page ≠ .main → statuses = s.statuses) := by
  unfold statusEffect fetchStatus request
  rw [truthy_token given]
  split
  · rename_i main
    split
    · rename_i unsigned
      exact ⟨s.statuses, rfl, fun _ signed => absurd unsigned signed, fun _ => rfl⟩
    · refine ⟨_, rfl, fun _ _ => ?_, fun other => absurd main other⟩
      exact ⟨_, List.mem_append_right _ List.mem_cons_self, rfl⟩
  · rename_i other
    exact ⟨s.statuses, rfl, fun main => absurd main other, fun _ => rfl⟩

theorem token_effect_spec (given : s.token ≠ some "") :
    ∃ profiles user, s.tokenEffect = { s with profiles, user } ∧
      (∀ r ∈ profiles, r.cancelled = false → s.token = some r.token) ∧
      (s.token = none → user = none) ∧
      (s.token ≠ none → user = s.user ∧ ∃ r ∈ profiles, r.cancelled = false) := by
  have cleaned : ∀ r ∈ s.profiles.map fun r => { r with cancelled := true },
      r.cancelled = true := by
    intro r mem
    obtain ⟨_, _, rfl⟩ := List.mem_map.mp mem
    rfl
  unfold tokenEffect
  rw [truthy_token given]
  dsimp only
  split
  · rename_i unsigned
    refine ⟨_, none, rfl, ?_, fun _ => rfl, fun signed => absurd unsigned signed⟩
    intro r mem live
    rw [cleaned r mem] at live
    cases live
  · rename_i text signed
    refine ⟨_, s.user, rfl, ?_, ?_, fun _ => ⟨rfl, ?_⟩⟩
    · intro r mem live
      rcases List.mem_append.mp mem with old | new
      · rw [cleaned r old] at live
        cases live
      · rw [List.mem_singleton.mp new]
        exact signed
    · intro unsigned
      rw [signed] at unsigned
      cases unsigned
    · exact ⟨_, List.mem_append_right _ List.mem_cons_self, rfl⟩

theorem rerender_same (loading : s.loading = last.loading) (token : s.token = last.token) :
    rerender last s = s := by
  simp [rerender, loading, token]

theorem rerender_loaded {heading : Option Page} (redirected : s.redirect = { s with heading })
    (loading : s.loading ≠ last.loading) (token : s.token = last.token) :
    rerender last s = { s with heading } := by
  have differs : ¬ (s.loading = last.loading ∧ s.token = last.token) :=
    fun same => loading same.1
  unfold rerender
  rw [if_neg differs, redirected]
  exact if_pos token

theorem rerender_token {heading : Option Page} (redirected : s.redirect = { s with heading })
    (token : s.token ≠ last.token) :
    rerender last s = tokenEffect (statusEffect { s with heading }) := by
  have differs : ¬ (s.loading = last.loading ∧ s.token = last.token) :=
    fun same => token same.2
  unfold rerender
  rw [if_neg differs, redirected]
  exact if_neg token

/-- What the effects change, and what they see to. -/
theorem rerender_spec (last : Session) (given : s.token ≠ some "") :
    ∃ heading statuses profiles user,
      rerender last s = { s with heading, statuses, profiles, user } ∧
      (s.loading = true → heading = s.heading) ∧
      (s.page ≠ .main → statuses = s.statuses) ∧
      ((s.loading = last.loading → s.token = last.token → Redirected s) →
        Redirected { s with heading, statuses, profiles, user }) ∧
      ((s.token = last.token → Requested s) →
        Requested { s with heading, statuses, profiles, user }) ∧
      (s.token = last.token → profiles = s.profiles ∧ user = s.user) ∧
      (s.token ≠ last.token → s.token ≠ none → ∃ r ∈ profiles, r.cancelled = false) := by
  obtain ⟨heading, redirected, headed, loading⟩ := redirect_spec given
  obtain ⟨statuses, asked, pending, elsewhere⟩ :=
    status_effect_spec (s := { s with heading }) given
  obtain ⟨profiles, user, fetched, current, unsigned, signed⟩ :=
    token_effect_spec (s := { s with heading, statuses }) given
  by_cases token : s.token = last.token
  · by_cases same : s.loading = last.loading
    · refine ⟨s.heading, s.statuses, s.profiles, s.user, rerender_same same token, ?_⟩
      exact ⟨fun _ => rfl, fun _ => rfl, fun kept => kept same token, fun kept => kept token,
        fun _ => ⟨rfl, rfl⟩, fun changes => absurd token changes⟩
    · refine ⟨heading, s.statuses, s.profiles, s.user, rerender_loaded redirected same token, ?_⟩
      refine ⟨loading, fun _ => rfl, fun _ => ⟨headed.main, headed.login⟩, ?_,
        fun _ => ⟨rfl, rfl⟩, fun changes => absurd token changes⟩
      intro kept
      obtain ⟨current, no_user, profile, status⟩ := kept token
      exact ⟨current, no_user, profile, status⟩
  · refine ⟨heading, statuses, profiles, user, ?_, loading, elsewhere, ?_, ?_, ?_, ?_⟩
    · rw [rerender_token redirected token, asked, fetched]
    · exact fun _ => ⟨headed.main, headed.login⟩
    · exact fun _ => ⟨current, unsigned, fun given _ => (signed given).2,
        fun main given _ => pending main given⟩
    · exact fun same => absurd same token
    · exact fun _ given => (signed given).2

theorem rerender_wf (last : Session) (grounded : Grounded s)
    (redirected : s.loading = last.loading → s.token = last.token → Redirected s)
    (requested : s.token = last.token → Requested s) : Wf (rerender last s) := by
  obtain ⟨heading, statuses, profiles, user, changed, loading, elsewhere, head, ask, _⟩ :=
    rerender_spec last grounded.token
  rw [changed]
  refine ⟨ask requested, head redirected, grounded.token, ?_, ?_, grounded.refused⟩
  · intro main waits
    exact (loading waits).trans (grounded.stays main waits)
  · intro waits some_asked
    by_contra other
    exact other (grounded.asks waits fun empty => some_asked ((elsewhere other).trans empty))

end Effects

section Loads
variable {s : Session}

theorem other_page_wf {param : Option String} {heading : Option Page} (wf : Wf s)
    (page : s.page = .callback param) : Wf { s with heading } := by
  obtain ⟨⟨current, no_user, profile, status⟩, _, ⟨token, _, asks, refused⟩⟩ := wf
  refine ⟨⟨current, no_user, profile, status⟩, ⟨?_, ?_⟩, token, ?_, asks, refused⟩ <;>
    simp [page]

/-- On a page that has asked for nothing, or that is as it should be. -/
theorem handled_wf {t : Session} (asks : s.loading = true → s.statuses = [] ∨ s.page = .main)
    (kept : s.token ≠ none → Requested s) (handled : s.handleCallback = some t)
    (wf : Wf s ∨ ∃ param, s.page = .callback param ∧ truthy param ≠ none) : Wf t := by
  unfold handleCallback at handled
  split at handled
  · rename_i param page still
    split at handled
    · rename_i token given
      cases handled
      have page_after : (rerender s (s.setToken token)).page = .callback param := by
        obtain ⟨heading, statuses, profiles, user, changed, _⟩ := rerender_spec (s :=
          s.setToken token) s fun empty => truthy_given param (given.trans empty)
        rw [changed]
        exact page
      refine other_page_wf (rerender_wf s ⟨?_, ?_, ?_, ?_⟩ ?_ ?_) page_after
      · exact fun empty => truthy_given param (given.trans empty)
      · exact fun main _ => absurd (main.symm.trans page) (by simp)
      · intro waits some_asked
        exact (asks waits).resolve_left some_asked
      · exact fun _ unsigned => absurd unsigned (Option.some_ne_none token)
      · intro _ _
        exact ⟨fun main => absurd (main.symm.trans page) (by simp),
          fun login => absurd (login.symm.trans page) (by simp)⟩
      · intro same
        have stored : s.setToken token = { s with stored := some token } := by
          have known : some token = s.token := same
          simp [setToken, known]
        have signed : s.token ≠ none := fun unsigned =>
          absurd (same.trans unsigned) (by simp [setToken])
        obtain ⟨current, no_user, profile, status⟩ := kept signed
        rw [stored]
        exact ⟨current, no_user, profile, status⟩
    · cases handled
      rename_i empty
      rcases wf with wf | ⟨other, elsewhere, given⟩
      · exact other_page_wf wf page
      · cases page.symm.trans elsewhere
        exact absurd empty given
  · cases handled

theorem init_wf (unsigned : s.token = none) (nobody : s.user = none) (profiles : s.profiles = [])
    (statuses : s.statuses = []) (still : s.page = .main → s.heading = none)
    (waits : s.loading = true) : Wf s.init := by
  unfold init
  split
  · rename_i stored given
    have changes : some stored ≠ s.token := by simp [unsigned]
    refine rerender_wf s ⟨?_, ?_, ?_, ?_⟩ ?_ ?_
    · exact fun empty => truthy_given s.stored (given.trans empty)
    · exact fun main _ => still main
    · exact fun _ asked => absurd statuses asked
    · exact fun _ none => absurd none (Option.some_ne_none stored)
    · exact fun _ same => absurd same changes
    · exact fun same => absurd same changes
  · refine rerender_wf s ⟨?_, ?_, ?_, ?_⟩ ?_ ?_
    · simp [unsigned]
    · exact fun _ loading => nomatch loading
    · exact fun loading => nomatch loading
    · exact fun loading => nomatch loading
    · exact fun same => absurd (same.trans waits) (by simp)
    · intro _
      refine ⟨by simp [profiles], fun _ => nobody, ?_, ?_⟩ <;> simp [unsigned]

theorem init_of_token (same : s.stored = s.token) (given : s.stored ≠ none) (wf : Wf s) :
    Wf s.init := by
  have truthy_stored : truthy s.stored = s.token := by
    rw [same]
    exact truthy_token wf.grounded.token
  cases signed : s.token with
  | none => exact absurd (same.trans signed) given
  | some token =>
    have unchanged : { s with token := some token } = s := by rw [← signed]
    rw [init, truthy_stored, signed]
    simp only [unchanged]
    rw [rerender_same rfl rfl]
    exact wf

theorem load_wf (stored : Option String) (page : Page) (callbackFirst : Bool) :
    Wf (load stored page callbackFirst) := by
  have plain : Wf (mount stored page).init := init_wf rfl rfl rfl rfl (fun _ => rfl) rfl
  unfold load
  cases callbackFirst with
  | false => exact plain
  | true =>
    cases handled : (mount stored page).handleCallback with
    | none => simpa [handled] using plain
    | some t =>
      simp only [if_true, Option.getD_some]
      cases page with
      | login => simp [handleCallback, mount] at handled
      | main => simp [handleCallback, mount] at handled
      | callback param =>
        cases given : truthy param with
        | none =>
          have same : t = { mount stored (.callback param) with heading := some .login } := by
            simpa [handleCallback, mount, given] using handled.symm
          rw [same]
          exact init_wf rfl rfl rfl rfl (fun main => nomatch main) rfl
        | some token =>
          have wf : Wf t := handled_wf (fun _ => Or.inl rfl) (fun signed => absurd rfl signed)
            handled (Or.inr ⟨param, rfl, by simp [given]⟩)
          have valid : (setToken token (mount stored (.callback param))).token ≠ some "" :=
            fun empty => truthy_given param (given.trans empty)
          obtain ⟨heading, statuses, profiles, user, changed, _⟩ :=
            rerender_spec (mount stored (.callback param)) valid
          have kept : t.token = some token ∧ t.stored = some token := by
            simp only [handleCallback, mount, given, Option.some.injEq] at handled
            subst handled
            simp only [mount] at changed
            rw [changed]
            exact ⟨rfl, rfl⟩
          refine init_of_token (kept.2.trans kept.1.symm) ?_ wf
          simp [kept.2]

end Loads

section Steps
variable {s t : Session} {index : Nat}

theorem profile_wf {answer : Option AuthUser} (wf : Wf s)
    (answered : s.answerProfile index answer = some t) : Wf t := by
  obtain ⟨⟨current, no_user, profile, status⟩, ⟨main, login⟩, ⟨token, stays, asks, refused⟩⟩ := wf
  obtain ⟨r, at_index, rfl⟩ := Option.map_eq_some_iff.mp answered
  have left : ∀ r ∈ s.profiles.eraseIdx index, r.cancelled = false → s.token = some r.token :=
    fun r mem => current r (List.mem_of_mem_eraseIdx mem)
  split
  · rename_i cancelled
    refine ⟨⟨left, no_user, ?_, status⟩, ⟨main, login⟩, token, stays, asks, refused⟩
    intro signed waits
    obtain ⟨live, mem, running⟩ := profile signed waits
    refine ⟨live, ((mem_taken_iff at_index live).mp mem).resolve_left fun same => ?_, running⟩
    rw [same, cancelled] at running
    cases running
  · rename_i running
    have signed := current r (List.mem_of_getElem? at_index) (by simpa using running)
    cases answer with
    | some user =>
      refine rerender_wf _ ⟨token, ?_, ?_, ?_⟩ (fun same _ => ⟨?_, ?_⟩) fun _ => ⟨left, ?_, ?_, ?_⟩
      · exact fun _ loading => nomatch loading
      · exact fun loading => nomatch loading
      · exact fun loading => nomatch loading
      · exact fun here _ unsigned => main here same.symm unsigned
      · exact fun here _ => login here same.symm
      · exact fun unsigned => absurd (signed.symm.trans unsigned) (by simp)
      · simp
      · exact status
    | none =>
      refine rerender_wf _ ⟨by simp [logout], ?_, ?_, ?_⟩ (fun _ same => ?_) fun same => ?_
      · exact fun _ loading => nomatch loading
      · exact fun loading => nomatch loading
      · exact fun loading => nomatch loading
      · exact absurd (same.trans signed) (by simp [logout])
      · exact absurd (same.trans signed) (by simp [logout])

theorem answered_wf {status : Option UserStatus} {statusLoading : Bool}
    {statuses : List StatusRequest} (wf : Wf s)
    (asks : s.loading = true → statuses ≠ [] → s.page = .main)
    (pending : s.page = .main → s.token ≠ none → statusLoading = true →
      ∃ r ∈ statuses, r.mounted = true) :
    Wf (rerender { s with statuses } { s with status, statusLoading, statuses }) := by
  obtain ⟨⟨current, no_user, profile, _⟩, ⟨main, login⟩, ⟨token, stays, _, refused⟩⟩ := wf
  rw [rerender_same]
  case loading => rfl
  case token => rfl
  exact ⟨⟨current, no_user, profile, pending⟩, ⟨main, login⟩, token, stays, asks, refused⟩

theorem logout_wf {statusLoading : Bool} {statuses : List StatusRequest} (wf : Wf s)
    (asked : s.loading = true → s.page = .main) :
    Wf (rerender { s with statuses } { s.logout with statusLoading, statuses }) := by
  obtain ⟨⟨current, _, _, _⟩, ⟨main, _⟩, ⟨_, stays, _, _⟩⟩ := wf
  refine rerender_wf _ ⟨by simp [logout], stays, fun waits _ => asked waits,
    fun waits _ => asked waits⟩ (fun _ same => ⟨?_, by simp [logout]⟩) fun same => ⟨?_, ?_, ?_, ?_⟩
  · exact fun here loaded _ => main here loaded same.symm
  · intro r mem live
    exact absurd (same.trans (current r mem live)) (by simp [logout])
  · exact fun _ => rfl
  · simp [logout]
  · simp [logout]

theorem status_wf {answer : StatusAnswer} (wf : Wf s)
    (answered : s.answerStatus index answer = some t) : Wf t := by
  obtain ⟨r, at_index, rfl⟩ := Option.map_eq_some_iff.mp answered
  have asked : s.loading = true → s.page = .main := fun waits =>
    wf.grounded.asks waits (List.ne_nil_of_mem (List.mem_of_getElem? at_index))
  have pending : s.page = .main → s.token ≠ none → s.statusLoading = true → r.mounted = false →
      ∃ r ∈ s.statuses.eraseIdx index, r.mounted = true := by
    intro here signed waits gone
    obtain ⟨live, mem, mounted⟩ := wf.requested.status here signed waits
    refine ⟨live, ((mem_taken_iff at_index live).mp mem).resolve_left fun same => ?_, mounted⟩
    rw [same, gone] at mounted
    cases mounted
  cases answer with
  | unauthorized =>
    cases r.mounted with
    | true => exact logout_wf wf asked
    | false => exact logout_wf wf asked
  | ok _ | failed =>
    cases mounted : r.mounted with
    | true =>
      exact answered_wf wf (fun waits _ => asked waits) fun _ _ loading => nomatch loading
    | false =>
      exact answered_wf wf (fun waits _ => asked waits) fun here signed waits =>
        pending here signed waits mounted

theorem arrive_spec (given : s.token ≠ some "") (arrived : s.arrive = some t) :
    ∃ page heading statuses, s.heading = some page ∧
      t = { s with page, heading, status := none, statusLoading := true, statuses } ∧
      (s.loading = true → heading = none) ∧ (page ≠ .main → s.statuses = [] → statuses = []) ∧
      (page = .main → s.token ≠ none → ∃ r ∈ statuses, r.mounted = true) ∧ Redirected t := by
  obtain ⟨page, headed, rfl⟩ := Option.map_eq_some_iff.mp arrived
  dsimp only
  generalize mounts : ({ s with
      page, heading := none, status := none, statusLoading := true
      statuses := s.statuses.map fun r => { r with mounted := false } } : Session) = mounted
  have given_there : mounted.token ≠ some "" := by
    rw [← mounts]
    exact given
  obtain ⟨heading, redirected, away, waiting⟩ := redirect_spec given_there
  obtain ⟨statuses, asked, pending, others⟩ :=
    status_effect_spec (s := { mounted with heading }) given_there
  rw [redirected, asked]
  subst mounts
  refine ⟨page, heading, statuses, headed, rfl, waiting, ?_, pending, away.main, away.login⟩
  exact fun other empty => (others other).trans (by simp [empty])

theorem arrive_wf (wf : Wf s) (arrived : s.arrive = some t) : Wf t := by
  obtain ⟨page, heading, statuses, headed, rfl, still, idle, pending, redirected⟩ :=
    arrive_spec wf.grounded.token arrived
  obtain ⟨⟨current, no_user, profile, _⟩, _, ⟨token, stays, asks, refused⟩⟩ := wf
  have elsewhere : s.loading = true → s.page ≠ .main := fun waits main =>
    absurd (headed.symm.trans (stays main waits)) (by simp)
  refine ⟨⟨current, no_user, profile, fun here signed _ => pending here signed⟩, redirected,
    token, fun _ => still, ?_, fun waits unsigned => ?_⟩
  · intro waits some_asked
    by_contra other
    refine some_asked (idle other ?_)
    by_contra asked
    exact elsewhere waits (asks waits asked)
  · exact absurd (refused waits unsigned) (elsewhere waits)

theorem step_wf {e : Event} (wf : Wf s) (moved : step s e = some t) : Wf t := by
  cases e with
  | handleCallback =>
    refine handled_wf (fun waits => ?_) (fun _ => wf.requested) moved (Or.inl wf)
    by_cases asked : s.statuses = []
    · exact Or.inl asked
    · exact Or.inr (wf.grounded.asks waits asked)
  | answerProfile index answer => exact profile_wf wf moved
  | answerStatus index answer => exact status_wf wf moved
  | arrive => exact arrive_wf wf moved
  | coupleReady coupleId =>
    obtain ⟨⟨current, no_user, profile, status⟩, ⟨main, login⟩, grounded⟩ := wf
    simp only [step, coupleReady] at moved
    split at moved
    · cases moved
      obtain ⟨token, stays, asks, refused⟩ := grounded
      exact ⟨⟨current, no_user, profile, status⟩, ⟨main, login⟩, token, stays, asks, refused⟩
    · cases moved
  | breakUp =>
    obtain ⟨⟨current, no_user, profile, status⟩, ⟨main, login⟩, grounded⟩ := wf
    simp only [step, breakUp] at moved
    split at moved
    · rename_i shown
      cases moved
      obtain ⟨token, stays, asks, refused⟩ := grounded
      refine ⟨⟨current, no_user, profile, fun _ _ _ => ?_⟩, ⟨main, login⟩, token, stays, ?_,
        refused⟩
      · exact ⟨_, List.mem_append_right _ List.mem_cons_self, rfl⟩
      · exact fun _ _ => shown.1
    · cases moved
  | otherTab stored =>
    obtain ⟨⟨current, no_user, profile, status⟩, ⟨main, login⟩, grounded⟩ := wf
    cases moved
    obtain ⟨token, stays, asks, refused⟩ := grounded
    exact ⟨⟨current, no_user, profile, status⟩, ⟨main, login⟩, token, stays, asks, refused⟩

/-- The user that is shown is one that the token stands for, unless another one is asked for. -/
def Shown (owns : String → AuthUser → Prop) (s : Session) : Prop :=
  ∀ user ∈ s.user, ∀ token ∈ s.token, owns token user ∨ ∃ r ∈ s.profiles, r.cancelled = false

theorem rerender_shown {owns : String → AuthUser → Prop} (last : Session)
    (given : s.token ≠ some "") (kept : s.token = last.token → Shown owns s) :
    Shown owns (rerender last s) := by
  obtain ⟨heading, statuses, profiles, user, changed, _, _, _, _, same, other⟩ :=
    rerender_spec last given
  rw [changed]
  intro shown known token signed
  by_cases unchanged : s.token = last.token
  · obtain ⟨rfl, rfl⟩ := same unchanged
    exact kept unchanged shown known token signed
  · exact Or.inr (other unchanged fun unsigned => nomatch unsigned.symm.trans signed)

theorem handled_shown {owns : String → AuthUser → Prop} (handled : s.handleCallback = some t)
    (shown : Shown owns s) : Shown owns t := by
  unfold handleCallback at handled
  split at handled
  · rename_i param page _
    split at handled
    · rename_i token valid
      cases handled
      have sent : (s.setToken token).token ≠ some "" := fun empty =>
        truthy_given param (valid.trans empty)
      refine rerender_shown s sent fun same user known held signed => ?_
      exact shown user known held (same.symm.trans signed)
    · cases handled
      exact shown
  · cases handled

theorem profile_shown {owns : String → AuthUser → Prop} {index : Nat} {answer : Option AuthUser}
    (wf : Wf s)
    (answers : ∀ user r, answer = some user → s.profiles[index]? = some r → owns r.token user)
    (answered : s.answerProfile index answer = some t) (shown : Shown owns s) : Shown owns t := by
  obtain ⟨r, at_index, rfl⟩ := Option.map_eq_some_iff.mp answered
  split
  · rename_i cancelled
    intro user known token signed
    refine (shown user known token signed).imp_right fun ⟨live, mem, running⟩ => ?_
    refine ⟨live, ((mem_taken_iff at_index live).mp mem).resolve_left fun same => ?_, running⟩
    rw [same, cancelled] at running
    cases running
  · rename_i running
    have signed := wf.requested.current r (List.mem_of_getElem? at_index) (by simpa using running)
    cases answer with
    | some user =>
      refine rerender_shown _ (by exact wf.grounded.token) fun _ known_user known token held =>
        Or.inl ?_
      obtain rfl : user = known_user := Option.some.inj known
      obtain rfl : r.token = token := Option.some.inj (signed.symm.trans held)
      exact answers user r rfl at_index
    | none => exact rerender_shown _ (by simp [logout]) fun _ _ known => nomatch known

theorem shown_step {owns : String → AuthUser → Prop} {e : Event} (wf : Wf s)
    (answers : ∀ index user r, e = .answerProfile index (some user) →
      s.profiles[index]? = some r → owns r.token user)
    (moved : step s e = some t) (shown : Shown owns s) : Shown owns t := by
  have given := wf.grounded.token
  cases e with
  | handleCallback => exact handled_shown moved shown
  | answerProfile index answer =>
    exact profile_shown wf (fun user r answered => answers index user r (by rw [answered])) moved
      shown
  | answerStatus index answer =>
    obtain ⟨r, at_index, rfl⟩ := Option.map_eq_some_iff.mp moved
    cases answer with
    | unauthorized =>
      cases r.mounted with
      | true => exact rerender_shown _ (by simp [logout]) fun _ _ known => nomatch known
      | false => exact rerender_shown _ (by simp [logout]) fun _ _ known => nomatch known
    | ok _ | failed =>
      cases r.mounted with
      | true => exact rerender_shown _ (by exact given) fun _ => shown
      | false => exact rerender_shown _ (by exact given) fun _ => shown
  | arrive =>
    obtain ⟨page, heading, statuses, _, rfl, _⟩ := arrive_spec given moved
    exact shown
  | coupleReady coupleId =>
    simp only [step, coupleReady] at moved
    split at moved <;> cases moved
    exact shown
  | breakUp =>
    simp only [step, breakUp] at moved
    split at moved <;> cases moved
    exact shown
  | otherTab stored =>
    cases moved
    exact shown

/-- The profile is loading and no request for it will be answered. -/
def Lost (s : Session) : Prop := s.loading = true ∧ s.token = none

theorem rerender_lost_iff (last : Session) (given : s.token ≠ some "") :
    Lost (rerender last s) ↔ Lost s := by
  obtain ⟨heading, statuses, profiles, user, changed, _⟩ := rerender_spec last given
  rw [changed]
  rfl

theorem handled_lost_iff (wf : Wf s) (handled : s.handleCallback = some t) : Lost t ↔ Lost s := by
  unfold handleCallback at handled
  split at handled
  · rename_i param page _
    have found : ¬ Lost s := fun lost =>
      absurd (page.symm.trans (wf.grounded.refused lost.1 lost.2)) (by simp)
    split at handled
    · rename_i token valid
      cases handled
      refine (rerender_lost_iff s fun empty => truthy_given param (valid.trans empty)).trans ?_
      exact iff_of_false (fun lost => absurd lost.2 (by simp [setToken])) found
    · cases handled
      exact Iff.rfl
  · cases handled

theorem profile_lost_iff {index : Nat} {answer : Option AuthUser} (wf : Wf s)
    (answered : s.answerProfile index answer = some t) : Lost t ↔ Lost s := by
  obtain ⟨r, at_index, rfl⟩ := Option.map_eq_some_iff.mp answered
  split
  · exact Iff.rfl
  · rename_i running
    have signed := wf.requested.current r (List.mem_of_getElem? at_index) (by simpa using running)
    have found : ¬ Lost s := fun lost => absurd (lost.2.symm.trans signed) (by simp)
    cases answer with
    | some user =>
      refine (rerender_lost_iff _ (by exact wf.grounded.token)).trans ?_
      exact iff_of_false (fun lost => nomatch lost.1) found
    | none =>
      refine (rerender_lost_iff _ (by simp [logout])).trans ?_
      exact iff_of_false (fun lost => nomatch lost.1) found

theorem lost_iff {e : Event} (wf : Wf s) (moved : step s e = some t) :
    Lost t ↔ Lost s ∨ ¬ NotRefused s e := by
  have given := wf.grounded.token
  have other (differs : ∀ index, e ≠ .answerStatus index .unauthorized) (same : Lost t ↔ Lost s) :
      Lost t ↔ Lost s ∨ ¬ NotRefused s e :=
    same.trans (or_iff_left fun refused => refused fun _ => differs).symm
  cases e with
  | handleCallback => exact other (fun _ same => nomatch same) (handled_lost_iff wf moved)
  | answerProfile index answer =>
    exact other (fun _ same => nomatch same) (profile_lost_iff wf moved)
  | answerStatus index answer =>
    obtain ⟨r, at_index, rfl⟩ := Option.map_eq_some_iff.mp moved
    cases answer with
    | unauthorized =>
      have done : Lost { s.logout with statuses := s.statuses.eraseIdx index } ↔
          Lost s ∨ ¬ NotRefused s (.answerStatus index .unauthorized) := by
        simp only [Lost, logout, NotRefused]
        grind
      cases r.mounted with
      | true => exact (rerender_lost_iff _ (by simp [logout])).trans done
      | false => exact (rerender_lost_iff _ (by simp [logout])).trans done
    | ok _ | failed =>
      refine other (fun _ same => nomatch same) ?_
      cases r.mounted with
      | true => exact rerender_lost_iff _ (by exact given)
      | false => exact rerender_lost_iff _ (by exact given)
  | arrive =>
    refine other (fun _ same => nomatch same) ?_
    obtain ⟨page, heading, statuses, _, rfl, _⟩ := arrive_spec given moved
    exact Iff.rfl
  | coupleReady coupleId =>
    refine other (fun _ same => nomatch same) ?_
    simp only [step, coupleReady] at moved
    split at moved <;> cases moved
    exact Iff.rfl
  | breakUp =>
    refine other (fun _ same => nomatch same) ?_
    simp only [step, breakUp] at moved
    split at moved <;> cases moved
    exact Iff.rfl
  | otherTab stored =>
    refine other (fun _ same => nomatch same) ?_
    cases moved
    exact Iff.rfl

/-- What no event brings to an end. -/
theorem lost_stays {es : List Event} (wf : Wf s) (lost : Lost s) (moved : run step s es = some t) :
    Lost t :=
  (run_keeps (fun s => Wf s ∧ Lost s)
    (fun _ _ _ moved kept => ⟨step_wf kept.1 moved, (lost_iff kept.1 moved).mpr (Or.inl kept.2)⟩)
    moved ⟨wf, lost⟩).2

theorem lost_view (wf : Wf s) (lost : Lost s) : s.view = .loading := by
  have main := wf.grounded.refused lost.1 lost.2
  simp [view, main, lost.1]

theorem quiet_outcome (wf : Wf s) (quiet : Quiet s) :
    SignedIn s ∨ SignedOut s ∨ Lost s := by
  obtain ⟨⟨_, no_user, profile, status⟩, ⟨main, login⟩, _⟩ := wf
  have answered : s.token ≠ none → s.loading = false ∧ s.user ≠ none := by
    intro signed
    by_contra waits
    have unknown : s.loading = true ∨ s.user = none := by
      by_contra known
      push Not at known
      exact waits ⟨by simpa using known.1, known.2⟩
    obtain ⟨r, mem, running⟩ := profile signed unknown
    exact absurd ((quiet.profiles r mem).symm.trans running) (by simp)
  by_cases signed : s.token = none
  · cases loading : s.loading with
    | true => exact Or.inr (Or.inr ⟨loading, signed⟩)
    | false =>
      refine Or.inr (Or.inl ⟨signed, no_user signed, ?_⟩)
      cases page : s.page with
      | callback token => exact absurd page (quiet.handled token)
      | login => simp [view, page, loading]
      | main =>
        have heading := main page loading signed
        rw [quiet.arrived] at heading
        cases heading
  · obtain ⟨loading, known⟩ := answered signed
    refine Or.inl ⟨signed, known, ?_⟩
    cases page : s.page with
    | callback token => exact absurd page (quiet.handled token)
    | login =>
      have heading := login page loading signed
      rw [quiet.arrived] at heading
      cases heading
    | main =>
      have shown : s.statusLoading = false := by
        by_contra waits
        obtain ⟨r, mem, _⟩ := status page signed (by simpa using waits)
        rw [quiet.statuses] at mem
        cases mem
      simp only [view, page, loading, shown, known, Bool.false_eq_true, or_self, if_false]
      split
      · rename_i coupleId _
        exact Or.inr ⟨coupleId, rfl⟩
      · exact Or.inl rfl

end Steps

section Outcomes
variable {s t : Session}

theorem handled_token (given : s.token ≠ some "") (handled : s.handleCallback = some t) :
    t.token ≠ some "" := by
  unfold handleCallback at handled
  split at handled
  · rename_i param _ _
    split at handled
    · rename_i token valid
      have sent : (s.setToken token).token ≠ some "" := fun empty =>
        truthy_given param (valid.trans empty)
      obtain ⟨_, _, _, _, changed, _⟩ := rerender_spec s sent
      cases handled
      rw [changed]
      exact sent
    · cases handled
      exact given
  · cases handled

theorem init_not_lost (given : s.token ≠ some "") : ¬ Lost s.init := by
  unfold init
  split
  · rename_i stored valid
    rw [rerender_lost_iff _ fun empty => truthy_given s.stored (valid.trans empty)]
    exact fun lost => nomatch lost.2
  · rw [rerender_lost_iff _ (by exact given)]
    exact fun lost => nomatch lost.1

theorem load_not_lost (stored : Option String) (page : Page) (callbackFirst : Bool) :
    ¬ Lost (load stored page callbackFirst) := by
  have unsigned : (mount stored page).token ≠ some "" := by simp [mount]
  unfold load
  cases callbackFirst with
  | false => exact init_not_lost unsigned
  | true =>
    cases handled : (mount stored page).handleCallback with
    | none => simpa [handled] using init_not_lost unsigned
    | some t => simpa [handled] using init_not_lost (handled_token unsigned handled)

theorem init_shown {owns : String → AuthUser → Prop} (given : s.token ≠ some "")
    (shown : Shown owns s) : Shown owns s.init := by
  unfold init
  split
  · rename_i stored valid
    refine rerender_shown s (fun empty => truthy_given s.stored (valid.trans empty)) ?_
    exact fun same user known token signed => shown user known token (same.symm.trans signed)
  · exact rerender_shown s (by exact given) fun _ => shown

theorem load_shown (owns : String → AuthUser → Prop) (stored : Option String) (page : Page)
    (callbackFirst : Bool) : Shown owns (load stored page callbackFirst) := by
  have unsigned : (mount stored page).token ≠ some "" := by simp [mount]
  have nobody : Shown owns (mount stored page) := fun _ known => nomatch known
  unfold load
  cases callbackFirst with
  | false => exact init_shown unsigned nobody
  | true =>
    cases handled : (mount stored page).handleCallback with
    | none => simpa [handled] using init_shown unsigned nobody
    | some t =>
      simpa [handled] using init_shown (handled_token unsigned handled)
        (handled_shown handled nobody)

theorem lost_iff_refused {es : List Event} (wf : Wf s) (found : ¬ Lost s)
    (moved : run step s es = some t) : Lost t ↔ ¬ EachStep step NotRefused s es := by
  have preserved : ∀ s e t, step s e = some t → Wf s → Wf t := fun _ _ _ moved wf =>
    step_wf wf moved
  have steps : EveryState step (fun s => ¬ Lost s) s es ↔ EachStep step NotRefused s es := by
    refine every_state_iff_each_step Wf (fun e _ s t => preserved s e t) ?_ wf found
    intro e _ s t moved wf found
    rw [lost_iff wf moved, or_iff_right found, not_not]
  have last : EveryState step (fun s => ¬ Lost s) s es ↔ ¬ Lost t :=
    every_state_iff_last Wf preserved
      (fun s e t moved wf kept lost => kept ((lost_iff wf moved).mpr (Or.inl lost))) moved wf
  rw [← steps, last, not_not]

end Outcomes

/-- For every stored token, every page and every order of events. -/
theorem load_outcome (stored : Option String) (page : Page) (callbackFirst : Bool)
    (es : List Event) {t : Session} (moved : run step (load stored page callbackFirst) es = some t)
    (quiet : Quiet t) :
    (SignedIn t ∨ SignedOut t ∨ t.view = .loading) ∧
      (t.view = .loading ↔ ¬ EachStep step NotRefused (load stored page callbackFirst) es) ∧
      (t.view = .loading → ∀ more u, run step t more = some u → u.view = .loading) := by
  have start := load_wf stored page callbackFirst
  have wf : Wf t := run_keeps Wf (fun _ _ _ moved wf => step_wf wf moved) moved start
  have outcome := quiet_outcome wf quiet
  have lost : t.view = .loading ↔ Lost t := by
    refine ⟨fun shown => ?_, lost_view wf⟩
    rcases outcome with ⟨_, _, setup | ⟨coupleId, tabs⟩⟩ | ⟨_, _, buttons⟩ | lost
    · exact absurd (shown.symm.trans setup) (by simp)
    · exact absurd (shown.symm.trans tabs) (by simp)
    · exact absurd (shown.symm.trans buttons) (by simp)
    · exact lost
  refine ⟨outcome.imp_right (Or.imp_right lost.mpr), ?_, ?_⟩
  · rw [lost]
    exact lost_iff_refused start (load_not_lost stored page callbackFirst) moved
  · intro shown more u later
    have stuck := lost_stays wf (lost.mp shown) later
    exact lost_view (run_keeps Wf (fun _ _ _ moved wf => step_wf wf moved) later wf) stuck

/-- The token has expired, and the answer about the couple comes before the one about the user. -/
theorem expired_token_shows_loading :
    ∃ t, run step (load (some "old") .main false) [.answerStatus 0 .unauthorized] = some t ∧
      t.view = .loading ∧ ∀ more u, run step t more = some u → u.view = .loading := by
  have moved : run step (load (some "old") .main false) [.answerStatus 0 .unauthorized] =
      some ⟨none, none, none, true, [⟨"old", true⟩], .main, none, none, false, []⟩ := by decide
  have quiet : Quiet ⟨none, none, none, true, [⟨"old", true⟩], .main, none, none, false, []⟩ :=
    ⟨by simp, rfl, by simp, rfl⟩
  obtain ⟨_, refused, forever⟩ := load_outcome _ _ _ _ moved quiet
  have shown := refused.mpr fun met => (met _ moved).1 (by decide) 0 rfl
  exact ⟨_, moved, shown, forever shown⟩

end AuthSession
