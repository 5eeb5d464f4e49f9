import Linkly.AuthSession
import Mathlib.Logic.Function.Basic

/-!
Logins from the provider's answer to the user that a tab shows: the token of a login goes to the
browser in the address of the callback's page, from there to the storage that the tabs of the
browser share, and back to the server with each request for the profile.
-/
namespace LoginSessions
open AuthService AuthSession TransitionRuns KeyedRows

structure JwtPayload where
  sub : Nat
  provider : AuthProvider
  deriving DecidableEq, Repr

/-- The storage is the browser's, so the session's copy is as of the last event in the tab. -/
structure Tab where
  browser : Nat
  session : Session

structure World where
  store : Store
  stored : Nat → Option String
  tabs : List Tab

def World.start (store : Store) : World := ⟨store, fun _ => none, []⟩

def findById (s : Store) (id : Nat) : Option User := s.users.find? (·.id = id)

/-- The other fields of the answer are not read. -/
def authUser (user : User) : AuthUser := ⟨user.id, user.email, user.displayName, user.avatarUrl⟩

def rename (userId : Nat) (displayName : String) (user : User) : User :=
  if user.id = userId then { user with displayName } else user

section Rename
variable (userId : Nat) (displayName : String)

theorem rename_id : User.id ∘ rename userId displayName = User.id := by
  funext user
  simp only [Function.comp, rename]
  split <;> rfl

theorem rename_account : User.account ∘ rename userId displayName = User.account := by
  funext user
  simp only [Function.comp, rename]
  split <;> rfl

theorem rename_email : User.email ∘ rename userId displayName = User.email := by
  funext user
  simp only [Function.comp, rename]
  split <;> rfl

/-- The part of `updateMe` that the profile shows. -/
def updateMe (s : Store) : Store where
  users := s.users.map (rename userId displayName)
  nextId := s.nextId
  below := by
    intro u mem
    obtain ⟨old, here, rfl⟩ := List.mem_map.mp mem
    have same : (rename userId displayName old).id = old.id :=
      congrFun (rename_id userId displayName) old
    rw [same]
    exact s.below old here
  ids := by
    rw [List.map_map, rename_id]
    exact s.ids
  accounts := by
    rw [List.map_map, rename_account]
    exact s.accounts
  emails := by
    rw [List.filterMap_map, rename_email]
    exact s.emails

end Rename

namespace World

/-- A page of the app is loaded in a new tab. -/
def visit (browser : Nat) (page : Page) (callbackFirst : Bool) (w : World) : World :=
  let session := Session.load (w.stored browser) page callbackFirst
  { w with
    stored := Function.update w.stored browser session.stored
    tabs := w.tabs ++ [⟨browser, session⟩] }

def proceed (index : Nat) (event : Event) (w : World) : Option World :=
  w.tabs[index]?.bind fun tab =>
    (AuthSession.step { tab.session with stored := w.stored tab.browser } event).map fun session =>
      { w with
        stored := Function.update w.stored tab.browser session.stored
        tabs := w.tabs.set index ⟨tab.browser, session⟩ }

end World

/-- What the providers, the browsers and the server do. Any address may be visited, with any text
    as its token; a profile is answered by the server, or its answer is lost on the way. -/
inductive Action where
  | login (browser : Nat) (profile : OAuthProfile) (now : Nat) (callbackFirst : Bool)
  | visit (browser : Nat) (page : Page) (callbackFirst : Bool)
  | close (index : Nat)
  | answerProfile (index request now : Nat) (reached : Bool)
  | other (index : Nat) (event : Event)
  | updateMe (userId : Nat) (displayName : String)

section Server
variable (sign : Nat → JwtPayload → String) (verify : Nat → String → Option JwtPayload)

def issueToken (now userId : Nat) (provider : AuthProvider) : String :=
  sign now ⟨userId, provider⟩

/-- `JwtStrategy.validate` before `findMe`: both look up the user of the token. -/
def getMe (s : Store) (now : Nat) (token : String) : Option AuthUser :=
  (verify now token).bind fun payload => (findById s payload.sub).map authUser

/-- The callback of a provider, after `validate` of its strategy. -/
def handleLogin (browser : Nat) (profile : OAuthProfile) (now : Nat) (callbackFirst : Bool)
    (w : World) : World :=
  let (store, result) := validateOrCreateUser w.store profile
  match result with
  | .ok user =>
    let token := issueToken sign now user.id user.authProvider
    { w with store }.visit browser (.callback (some token)) callbackFirst
  | .error _ => { w with store }

def answer (index request now : Nat) (reached : Bool) (w : World) : Option World :=
  w.tabs[index]?.bind fun tab => tab.session.profiles[request]?.bind fun sent =>
    w.proceed index (.answerProfile request
      (if reached then getMe verify w.store now sent.token else none))

def step (w : World) : Action → Option World
  | .login browser profile now callbackFirst =>
    some (handleLogin sign browser profile now callbackFirst w)
  | .visit browser page callbackFirst => some (w.visit browser page callbackFirst)
  | .close index =>
    if index < w.tabs.length then some { w with tabs := w.tabs.eraseIdx index } else none
  | .answerProfile index request now reached => answer verify index request now reached w
  | .other index event =>
    match event with
    | .answerProfile _ _ => none
    | event => w.proceed index event
  | .updateMe userId displayName => some { w with store := updateMe userId displayName w.store }

/-- The server takes the token for the user's. -/
def Owns (token : String) (user : AuthUser) : Prop :=
  ∃ now payload, verify now token = some payload ∧ payload.sub = user.id

/-- Every tab is as its effects leave it and shows the user of its token. -/
def Sound (w : World) : Prop :=
  ∀ tab ∈ w.tabs, Wf tab.session ∧ Shown (Owns verify) tab.session

/-- The row of an account: its id and its account are for ever. -/
def Registered (id : Nat) (account : Account) (w : World) : Prop :=
  ∃ row ∈ w.store.users, row.id = id ∧ row.account = account

variable {sign verify} {w z : World}

theorem sound_visit {browser : Nat} {page : Page} {callbackFirst : Bool} (sound : Sound verify w) :
    Sound verify (w.visit browser page callbackFirst) := by
  intro tab mem
  rcases List.mem_append.mp mem with old | new
  · exact sound tab old
  · rw [List.mem_singleton.mp new]
    exact ⟨load_wf _ _ _, load_shown _ _ _ _⟩

theorem sound_proceed {index : Nat} {event : Event} (sound : Sound verify w)
    (answers : ∀ tab request user sent, w.tabs[index]? = some tab →
      event = .answerProfile request (some user) → tab.session.profiles[request]? = some sent →
      Owns verify sent.token user)
    (moved : w.proceed index event = some z) : Sound verify z := by
  obtain ⟨tab, at_index, stepped⟩ := Option.bind_eq_some_iff.mp moved
  obtain ⟨session, done, rfl⟩ := Option.map_eq_some_iff.mp stepped
  obtain ⟨wf, shown⟩ := sound tab (List.mem_of_getElem? at_index)
  have synced : Wf { tab.session with stored := w.stored tab.browser } :=
    step_wf (e := .otherTab (w.stored tab.browser)) wf rfl
  intro other mem
  rcases List.mem_or_eq_of_mem_set mem with old | rfl
  · exact sound other old
  · refine ⟨step_wf synced done, shown_step synced ?_ done shown⟩
    exact fun request user sent same pending => answers tab request user sent at_index same pending

/-- The server answers with the user of the token. -/
theorem get_me_owned {store : Store} {now : Nat} {token : String} {user : AuthUser}
    (found : getMe verify store now token = some user) : Owns verify token user := by
  obtain ⟨payload, verified, row⟩ := Option.bind_eq_some_iff.mp found
  obtain ⟨row, known, rfl⟩ := Option.map_eq_some_iff.mp row
  unfold findById at known
  have same := List.find?_some known
  exact ⟨now, payload, verified, (of_decide_eq_true same).symm⟩

theorem other_proceeds {index : Nat} {event : Event}
    (moved : step sign verify w (.other index event) = some z) :
    w.proceed index event = some z ∧ ∀ request answer, event ≠ .answerProfile request answer := by
  cases event with
  | answerProfile request answer => cases moved
  | _ => exact ⟨moved, fun _ _ same => nomatch same⟩

theorem sound_step {action : Action} (moved : step sign verify w action = some z)
    (sound : Sound verify w) : Sound verify z := by
  cases action with
  | login browser profile now callbackFirst =>
    cases moved
    unfold handleLogin
    dsimp only
    split
    · exact sound_visit (by exact sound)
    · exact sound
  | visit browser page callbackFirst =>
    cases moved
    exact sound_visit sound
  | close index =>
    simp only [step] at moved
    split at moved <;> cases moved
    exact fun tab mem => sound tab (List.mem_of_mem_eraseIdx mem)
  | answerProfile index request now reached =>
    obtain ⟨tab, at_index, pending⟩ := Option.bind_eq_some_iff.mp moved
    obtain ⟨sent, at_request, answered⟩ := Option.bind_eq_some_iff.mp pending
    refine sound_proceed sound ?_ answered
    intro other number user asked at_other same pending
    obtain ⟨rfl, found⟩ : request = number ∧ (if reached then getMe verify w.store now sent.token
      else none) = some user := by simpa using same
    obtain rfl : tab = other := Option.some.inj (at_index.symm.trans at_other)
    obtain rfl : sent = asked := Option.some.inj (at_request.symm.trans pending)
    cases reached with
    | true => exact get_me_owned found
    | false => cases found
  | other index event =>
    obtain ⟨done, plain⟩ := other_proceeds moved
    exact sound_proceed sound (fun _ request user _ _ same => absurd same (plain request _)) done
  | updateMe userId displayName =>
    cases moved
    exact sound

theorem proceed_store {index : Nat} {event : Event} (moved : w.proceed index event = some z) :
    z.store = w.store := by
  obtain ⟨tab, at_index, stepped⟩ := Option.bind_eq_some_iff.mp moved
  obtain ⟨session, done, rfl⟩ := Option.map_eq_some_iff.mp stepped
  rfl

/-- Users are neither deleted nor moved to another account. -/
theorem registered_step {id : Nat} {account : Account} {action : Action}
    (moved : step sign verify w action = some z) (registered : Registered id account w) :
    Registered id account z := by
  obtain ⟨row, mem, same_id, same_account⟩ := registered
  cases action with
  | login browser profile now callbackFirst =>
    cases moved
    have kept : row ∈ (validateOrCreateUser w.store profile).1.users := users_kept row mem
    unfold handleLogin
    dsimp only
    split
    · exact ⟨row, kept, same_id, same_account⟩
    · exact ⟨row, kept, same_id, same_account⟩
  | visit browser page callbackFirst =>
    cases moved
    exact ⟨row, mem, same_id, same_account⟩
  | close index =>
    simp only [step] at moved
    split at moved <;> cases moved
    exact ⟨row, mem, same_id, same_account⟩
  | answerProfile index request now reached =>
    obtain ⟨tab, at_index, pending⟩ := Option.bind_eq_some_iff.mp moved
    obtain ⟨sent, at_request, answered⟩ := Option.bind_eq_some_iff.mp pending
    rw [Registered, proceed_store answered]
    exact ⟨row, mem, same_id, same_account⟩
  | other index event =>
    rw [Registered, proceed_store (other_proceeds moved).1]
    exact ⟨row, mem, same_id, same_account⟩
  | updateMe userId displayName =>
    cases moved
    refine ⟨rename userId displayName row, List.mem_map_of_mem mem, ?_, ?_⟩
    · exact (congrFun (rename_id userId displayName) row).trans same_id
    · exact (congrFun (rename_account userId displayName) row).trans same_account

theorem sound_start (store : Store) : Sound verify (.start store) := fun _ mem => nomatch mem

theorem login_registers {browser now : Nat} {profile : OAuthProfile} {callbackFirst : Bool}
    {user : User} (done : (validateOrCreateUser w.store profile).2 = .ok user) :
    Registered user.id profile.account (handleLogin sign browser profile now callbackFirst w) := by
  obtain ⟨mem, account⟩ := validated_user done
  unfold handleLogin
  dsimp only
  rw [done]
  exact ⟨user, mem, rfl, account⟩

end Server

/-- A token is opened to what it was signed with, as long as it is valid. The text of a token keeps
    its form in an address. -/
theorem shown_user_logged_in (sign : Nat → JwtPayload → String)
    (verify : Nat → String → Option JwtPayload)
    (genuine : ∀ issued now payload opened,
      verify now (sign issued payload) = some opened → opened = payload)
    (store : Store) {front back : List Action} {browser now : Nat} {profile : OAuthProfile}
    {callbackFirst : Bool} {user : User} {w z : World}
    (before : run (step sign verify) (.start store) front = some w)
    (done : (validateOrCreateUser w.store profile).2 = .ok user)
    (after : run (step sign verify) w (.login browser profile now callbackFirst :: back) = some z)
    {tab : Tab} (mem : tab ∈ z.tabs)
    (holds : tab.session.token = some (issueToken sign now user.id user.authProvider))
    (answered : ∀ r ∈ tab.session.profiles, r.cancelled = true)
    {shown : AuthUser} (shows : tab.session.user = some shown) :
    shown.id = user.id ∧ Registered user.id profile.account z := by
  have preserved : ∀ w a z, step sign verify w a = some z → Sound verify w → Sound verify z :=
    fun _ _ _ => sound_step
  have sound := run_keeps (Sound verify) preserved after
    (run_keeps (Sound verify) preserved before (sound_start store))
  obtain ⟨next, first, rest⟩ := run_cons_iff.mp after
  cases first
  refine ⟨?_, run_keeps _ (fun _ _ _ => registered_step) rest (login_registers done)⟩
  rcases (sound tab mem).2 shown shows _ holds with owned | ⟨r, pending, running⟩
  · obtain ⟨later, payload, verified, same⟩ := owned
    rw [genuine _ _ _ _ verified] at same
    exact same.symm
  · exact absurd ((answered r pending).symm.trans running) (by simp)

/-- A token that names its user by its length and never expires. -/
def plainSign (_ : Nat) (payload : JwtPayload) : String :=
  String.ofList ((match payload.provider with
    | .kakao => 'k'
    | .google => 'g'
    | .naver => 'n'
    | .local' => 'l') :: List.replicate payload.sub 'u')

def plainVerify (_ : Nat) (token : String) : Option JwtPayload :=
  match token.toList with
  | 'k' :: rest => some ⟨rest.length, .kakao⟩
  | 'g' :: rest => some ⟨rest.length, .google⟩
  | 'n' :: rest => some ⟨rest.length, .naver⟩
  | 'l' :: rest => some ⟨rest.length, .local'⟩
  | _ => none

theorem plain_genuine (issued now : Nat) (payload opened : JwtPayload)
    (verified : plainVerify now (plainSign issued payload) = some opened) : opened = payload := by
  obtain ⟨sub, provider⟩ := payload
  cases provider <;> simpa [plainVerify, plainSign, eq_comm] using verified

/-- Someone signs up with Google and the server answers to the page that the login ends on. -/
theorem new_user_is_shown :
    ∃ z, run (step plainSign plainVerify) (.start noUsers)
        [.login 0 ⟨.google, "g1", some "kim@example.com", "Kim", none⟩ 0 true,
          .answerProfile 0 0 0 true] = some z ∧
      (∃ tab ∈ z.tabs, tab.session.user ≠ none) ∧ ∀ tab ∈ z.tabs,
        ∀ shown, tab.session.user = some shown → shown.id = 0 ∧ Registered 0 (.google, "g1") z := by
  refine ⟨_, rfl, ⟨_, List.mem_cons_self, fun unknown => nomatch unknown⟩, ?_⟩
  intro tab mem shown shows
  obtain rfl := List.mem_singleton.mp mem
  have done : (validateOrCreateUser noUsers
      ⟨.google, "g1", some "kim@example.com", "Kim", none⟩).2 =
        .ok (newUser 0 ⟨.google, "g1", some "kim@example.com", "Kim", none⟩) := rfl
  exact @shown_user_logged_in plainSign plainVerify plain_genuine noUsers []
    [.answerProfile 0 0 0 true] 0 0 _ true _ _ _ rfl done rfl _ mem rfl
    (fun _ pending => nomatch pending) shown shows

end LoginSessions
