import Linkly.KeyedRows

/-!
Logins through the identity providers. A user is looked up by the provider and the provider's id,
while the table has a second unique key, the email, that may stop a user from being created.
-/
namespace AuthService
open KeyedRows

inductive AuthProvider where
  | kakao
  | google
  | naver
  | local'
  deriving DecidableEq, Repr

/-- What identifies a user: the provider and the id that the provider gives. -/
abbrev Account := AuthProvider × String

structure OAuthProfile where
  provider : AuthProvider
  providerUserId : String
  email : Option String
  displayName : String
  avatarUrl : Option String
  deriving DecidableEq, Repr

def OAuthProfile.account (profile : OAuthProfile) : Account :=
  (profile.provider, profile.providerUserId)

structure User where
  id : Nat
  email : Option String
  displayName : String
  avatarUrl : Option String
  authProvider : AuthProvider
  providerUserId : String
  deriving DecidableEq, Repr

def User.account (user : User) : Account := (user.authProvider, user.providerUserId)

/-- The table with its unique keys. An email that is null is in no key. -/
structure Store where
  users : List User
  nextId : Nat
  below : ∀ u ∈ users, u.id < nextId
  ids : (users.map User.id).Nodup
  accounts : (users.map User.account).Nodup
  emails : (users.filterMap User.email).Nodup

inductive Exception where
  | uniqueConstraint
  deriving DecidableEq, Repr

def newUser (id : Nat) (profile : OAuthProfile) : User where
  id := id
  email := profile.email
  displayName := profile.displayName
  avatarUrl := profile.avatarUrl
  authProvider := profile.provider
  providerUserId := profile.providerUserId

namespace Store

def findByAccount (s : Store) (account : Account) : Option User :=
  s.users.find? (·.account = account)

/-- No stored user has the account or the email of the profile. -/
def Free (s : Store) (profile : OAuthProfile) : Prop :=
  profile.account ∉ s.users.map User.account ∧
    ∀ email ∈ profile.email, email ∉ s.users.filterMap User.email

instance (s : Store) (profile : OAuthProfile) : Decidable (s.Free profile) :=
  inferInstanceAs (Decidable (_ ∧ _))

def add (s : Store) (profile : OAuthProfile) (free : s.Free profile) : Store where
  users := s.users ++ [newUser s.nextId profile]
  nextId := s.nextId + 1
  below := by
    intro u mem
    rcases List.mem_append.mp mem with old | new
    · exact Nat.lt_succ_of_lt (s.below u old)
    · rw [List.mem_singleton.mp new]
      exact Nat.lt_succ_self _
  ids := append_fresh_key s.ids fun u mem => Nat.ne_of_lt (s.below u mem)
  accounts := append_fresh_key s.accounts fun u mem same =>
    free.1 (List.mem_map.mpr ⟨u, mem, same⟩)
  emails := by
    rw [List.filterMap_append]
    apply s.emails.append
    · cases email : profile.email <;> simp [newUser, email]
    · intro email old new
      have given : profile.email = some email := by
        simpa [newUser, Option.eq_some_iff_get_eq] using new
      exact free.2 email given old

def createUser (s : Store) (profile : OAuthProfile) : Except Exception (Store × User) :=
  if free : s.Free profile then .ok (s.add profile free, newUser s.nextId profile)
  else .error .uniqueConstraint

end Store

/-- Logs in a user that is there, or signs up a new one. -/
def validateOrCreateUser (s : Store) (profile : OAuthProfile) : Store × Except Exception User :=
  match s.findByAccount profile.account with
  | some user => (s, .ok user)
  | none =>
    match s.createUser profile with
    | .ok (t, user) => (t, .ok user)
    | .error error => (s, .error error)

section Strategies

/-- `entries?.[0]?.value` -/
def firstValue (entries : Option (List (Option String))) : Option String :=
  (entries.getD []).head?.join

structure GoogleProfile where
  id : String
  emails : Option (List (Option String))
  displayName : Option String
  photos : Option (List (Option String))

def GoogleProfile.oauthProfile (profile : GoogleProfile) : OAuthProfile where
  provider := .google
  providerUserId := profile.id
  email := firstValue profile.emails
  displayName := profile.displayName.getD "Google User"
  avatarUrl := firstValue profile.photos

/-- `id` is the text of the number that the provider gives. -/
structure KakaoProfile where
  id : String
  email : Option String
  displayName : Option String
  nickname : Option String
  profileImage : Option String

def KakaoProfile.oauthProfile (profile : KakaoProfile) : OAuthProfile where
  provider := .kakao
  providerUserId := profile.id
  email := profile.email
  displayName := (profile.displayName <|> profile.nickname).getD "Kakao User"
  avatarUrl := profile.profileImage

structure NaverProfile where
  id : String
  email : Option String
  nickname : Option String
  name : Option String
  profileImage : Option String

def NaverProfile.oauthProfile (profile : NaverProfile) : OAuthProfile where
  provider := .naver
  providerUserId := profile.id
  email := profile.email
  displayName := (profile.nickname <|> profile.name).getD "Naver User"
  avatarUrl := profile.profileImage

inductive Login where
  | google (profile : GoogleProfile)
  | kakao (profile : KakaoProfile)
  | naver (profile : NaverProfile)
  | dev

def Login.oauthProfile : Login → OAuthProfile
  | .google profile => profile.oauthProfile
  | .kakao profile => profile.oauthProfile
  | .naver profile => profile.oauthProfile
  | .dev => ⟨.local', "seed_user_1", some "linkly.one@example.com", "링클리",
      some "https://i.pravatar.cc/150?img=32"⟩

/-- A provider may hand over any profile of its own. -/
theorem login_of_profile (profile : OAuthProfile) (remote : profile.provider ≠ .local') :
    ∃ login : Login, login.oauthProfile = profile := by
  obtain ⟨provider, id, email, displayName, avatarUrl⟩ := profile
  cases provider with
  | google => exact ⟨.google ⟨id, some [email], some displayName, some [avatarUrl]⟩, rfl⟩
  | kakao => exact ⟨.kakao ⟨id, email, some displayName, none, avatarUrl⟩, rfl⟩
  | naver => exact ⟨.naver ⟨id, email, some displayName, none, avatarUrl⟩, rfl⟩
  | local' => exact absurd rfl remote

end Strategies

/-- The table after some calls, one after the other. -/
def after (s : Store) (profiles : List OAuthProfile) : Store :=
  profiles.foldl (fun s profile => (validateOrCreateUser s profile).1) s

/-- What the calls return. -/
def results : Store → List OAuthProfile → List (Except Exception User)
  | _, [] => []
  | s, profile :: rest =>
    (validateOrCreateUser s profile).2 :: results (validateOrCreateUser s profile).1 rest

/-- The first profile of each account that is not known. -/
def newcomers (known : List Account) : List OAuthProfile → List OAuthProfile
  | [] => []
  | profile :: rest =>
    if profile.account ∈ known then newcomers known rest
    else profile :: newcomers (known ++ [profile.account]) rest

/-- The stored users and the newcomers have different emails, as far as they have one. -/
def EmailsApart (s : Store) (profiles : List OAuthProfile) : Prop :=
  (s.users.filterMap User.email ++
    (newcomers (s.users.map User.account) profiles).filterMap OAuthProfile.email).Nodup

instance (s : Store) (profiles : List OAuthProfile) : Decidable (EmailsApart s profiles) :=
  inferInstanceAs (Decidable (List.Nodup _))

/-- Every call succeeds, and two calls return one user exactly if they are for one account. -/
structure OneUserPerAccount (s : Store) (profiles : List OAuthProfile) : Prop where
  succeeds : ∀ result ∈ results s profiles, ∃ user, result = .ok user
  same_iff : ∀ (i j : Nat) (p q : OAuthProfile) (user other : User), profiles[i]? = some p →
    profiles[j]? = some q → (results s profiles)[i]? = some (.ok user) →
      (results s profiles)[j]? = some (.ok other) → (user = other ↔ p.account = q.account)

section Calls
variable {s : Store} {profile : OAuthProfile}

theorem validate_cases (s : Store) (profile : OAuthProfile) :
    (∃ user ∈ s.users, user.account = profile.account ∧
      validateOrCreateUser s profile = (s, .ok user)) ∨
    profile.account ∉ s.users.map User.account ∧
      ((∃ free, validateOrCreateUser s profile =
        (s.add profile free, .ok (newUser s.nextId profile))) ∨
      (∃ email ∈ profile.email, email ∈ s.users.filterMap User.email) ∧
        validateOrCreateUser s profile = (s, .error .uniqueConstraint)) := by
  cases found : s.findByAccount profile.account with
  | some user =>
    left
    have same := List.find?_some found
    refine ⟨user, List.mem_of_find?_eq_some found, of_decide_eq_true same, ?_⟩
    simp only [validateOrCreateUser, found]
  | none =>
    have absent : profile.account ∉ s.users.map User.account := by
      intro listed
      obtain ⟨user, mem, same⟩ := List.mem_map.mp listed
      have differs := List.find?_eq_none.mp found user mem
      exact differs (decide_eq_true same)
    refine Or.inr ⟨absent, ?_⟩
    by_cases free : s.Free profile
    · left
      refine ⟨free, ?_⟩
      simp only [validateOrCreateUser, found, Store.createUser, dif_pos free]
    · right
      constructor
      · by_contra unused
        exact free ⟨absent, fun email given taken => unused ⟨email, given, taken⟩⟩
      · simp only [validateOrCreateUser, found, Store.createUser, dif_neg free]

theorem users_kept : ∀ user ∈ s.users, user ∈ (validateOrCreateUser s profile).1.users := by
  intro user mem
  rcases validate_cases s profile with ⟨_, _, _, same⟩ | ⟨_, ⟨_, created⟩ | ⟨_, failed⟩⟩
  · rw [same]
    exact mem
  · rw [created]
    exact List.mem_append_left _ mem
  · rw [failed]
    exact mem

theorem users_kept_after {profiles : List OAuthProfile} :
    ∀ user ∈ s.users, user ∈ (after s profiles).users := by
  induction profiles generalizing s with
  | nil => exact fun user mem => mem
  | cons profile rest ih => exact fun user mem => ih user (users_kept user mem)

theorem validated_user {user : User} (done : (validateOrCreateUser s profile).2 = .ok user) :
    user ∈ (validateOrCreateUser s profile).1.users ∧ user.account = profile.account := by
  rcases validate_cases s profile with ⟨found, mem, account, same⟩ | ⟨_, ⟨_, created⟩ | ⟨_, failed⟩⟩
  · rw [same] at done ⊢
    obtain rfl := Except.ok.inj done
    exact ⟨mem, account⟩
  · rw [created] at done ⊢
    obtain rfl := Except.ok.inj done
    exact ⟨List.mem_append_right _ List.mem_cons_self, rfl⟩
  · rw [failed] at done
    cases done

/-- The user that a call returns is the one of its account, then and ever after. -/
theorem result_user {profiles : List OAuthProfile} {i : Nat} {user : User}
    (at_i : profiles[i]? = some profile) (returned : (results s profiles)[i]? = some (.ok user)) :
    user ∈ (after s profiles).users ∧ user.account = profile.account := by
  induction profiles generalizing s i with
  | nil => simp at at_i
  | cons first rest ih =>
    cases i with
    | zero =>
      simp only [List.getElem?_cons_zero, Option.some.injEq] at at_i
      subst at_i
      simp only [results, List.getElem?_cons_zero, Option.some.injEq] at returned
      obtain ⟨mem, account⟩ := validated_user returned
      have kept : user ∈ (after (validateOrCreateUser s first).1 rest).users :=
        users_kept_after user mem
      exact ⟨kept, account⟩
    | succ i =>
      simp only [results, List.getElem?_cons_succ] at at_i returned
      exact ih at_i returned

theorem same_user_iff {profiles : List OAuthProfile} {i j : Nat} {p q : OAuthProfile}
    {user other : User} (at_i : profiles[i]? = some p) (at_j : profiles[j]? = some q)
    (returned : (results s profiles)[i]? = some (.ok user))
    (returned_j : (results s profiles)[j]? = some (.ok other)) :
    user = other ↔ p.account = q.account := by
  obtain ⟨mem, account⟩ := result_user at_i returned
  obtain ⟨mem_j, account_j⟩ := result_user at_j returned_j
  rw [← account, ← account_j]
  exact ⟨congrArg User.account, row_unique (after s profiles).accounts mem mem_j⟩

/-- After a call that succeeds, the emails are apart exactly if they were before. -/
theorem emails_apart_cons {rest : List OAuthProfile} {user : User}
    (done : (validateOrCreateUser s profile).2 = .ok user) :
    EmailsApart (validateOrCreateUser s profile).1 rest ↔ EmailsApart s (profile :: rest) := by
  have first (known : List Account) : newcomers known (profile :: rest) =
      if profile.account ∈ known then newcomers known rest
      else profile :: newcomers (known ++ [profile.account]) rest := rfl
  rw [EmailsApart, EmailsApart, first]
  rcases validate_cases s profile with
    ⟨found, mem, account, same⟩ | ⟨absent, ⟨free, created⟩ | ⟨_, failed⟩⟩
  · rw [same, if_pos (List.mem_map.mpr ⟨found, mem, account⟩)]
  · rw [created, if_neg absent]
    have emails : (s.add profile free).users.filterMap User.email =
        s.users.filterMap User.email ++ [profile].filterMap OAuthProfile.email :=
      List.filterMap_append
    have accounts : (s.add profile free).users.map User.account =
        s.users.map User.account ++ [profile.account] := List.map_append
    rw [emails, accounts, List.append_assoc, ← List.filterMap_append, List.singleton_append]
  · rw [failed] at done
    cases done

theorem all_succeed_iff (profiles : List OAuthProfile) :
    (∀ result ∈ results s profiles, ∃ user, result = .ok user) ↔ EmailsApart s profiles := by
  induction profiles generalizing s with
  | nil => simp [results, EmailsApart, newcomers, s.emails]
  | cons profile rest ih =>
    rw [results, List.forall_mem_cons]
    cases done : (validateOrCreateUser s profile).2 with
    | ok user =>
      rw [ih, emails_apart_cons done]
      exact and_iff_right ⟨user, rfl⟩
    | error error =>
      constructor
      · rintro ⟨⟨user, success⟩, _⟩
        cases success
      · intro apart
        rcases validate_cases s profile with
          ⟨_, _, _, same⟩ | ⟨absent, ⟨_, created⟩ | ⟨⟨email, given, taken⟩, _⟩⟩
        · simp [same] at done
        · simp [created] at done
        · unfold EmailsApart newcomers at apart
          rw [if_neg absent] at apart
          have newcomer : email ∈ (profile :: newcomers (s.users.map User.account ++
              [profile.account]) rest).filterMap OAuthProfile.email :=
            List.mem_filterMap.mpr ⟨profile, List.mem_cons_self, given⟩
          exact absurd newcomer (List.disjoint_of_nodup_append apart taken)

end Calls

/-- For every table and every sequence of logins. -/
theorem one_user_per_account_iff (s : Store) (profiles : List OAuthProfile) :
    OneUserPerAccount s profiles ↔ EmailsApart s profiles := by
  rw [← all_succeed_iff]
  exact ⟨OneUserPerAccount.succeeds, fun succeeds => ⟨succeeds, fun _ _ _ _ _ _ => same_user_iff⟩⟩

def noUsers : Store := ⟨[], 0, by simp, by simp, by simp, by simp⟩

/-- Someone logs in with Google and later with Kakao, and has one email at both. -/
theorem second_provider_is_rejected :
    ¬ ∀ (s : Store) (profiles : List OAuthProfile), OneUserPerAccount s profiles := by
  intro every
  have one := every noUsers (List.map Login.oauthProfile
    [.google ⟨"g1", some [some "kim@example.com"], some "Kim", none⟩,
      .kakao ⟨"k1", some "kim@example.com", some "Kim", none, none⟩])
  obtain ⟨user, done⟩ := one.succeeds (.error .uniqueConstraint) (by decide)
  cases done

end AuthService
