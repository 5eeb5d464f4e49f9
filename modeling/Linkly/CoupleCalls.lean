import Linkly.CoupleRaces

/-!
Calls that run from their first statement to their last with no other call in between, any of whose
statements the database may reject. A call meets each statement at most once, so that the part of
the environment is a function of the statement.
-/
namespace CoupleCalls
open CoupleStore CoupleService CoupleConsistency CoupleFrames CoupleRaces TransitionRuns

structure Attempt where
  choice : Choice
  /-- The database rejects the statement, which then changes nothing. -/
  fails : Bool

/-- declineInvite and cancelInvite catch the error of their last statement. -/
def onFailure : Frame → Outcome
  | .declineDelete _ | .cancelDelete _ => .returned .unit
  | _ => .rejected .database

def attempt (a : Attempt) (s : Store) (f : Frame) : Store × Outcome :=
  if a.fails then (s, onFailure f) else exec a.choice s f

/-- Runs a number of statements of a call, which is still open when they do not suffice. -/
def finish (attempts : Frame → Attempt) : Nat → Store → Frame → Store × Outcome
  | 0, s, f => (s, .next f)
  | n + 1, s, f =>
    match attempt (attempts f) s f with
    | (t, .next g) => finish attempts n t g
    | ended => ended

/-- No call has more than seven statements. -/
def complete (attempts : Frame → Attempt) (s : Store) (c : Call) : Store × Outcome :=
  finish attempts 7 s (entry c)

section Ends
variable {attempts : Frame → Attempt}

theorem attempt_served {a : Attempt} (served : a.fails = false) (s : Store) (f : Frame) :
    attempt a s f = exec a.choice s f := by
  simp [attempt, served]

theorem attempt_next {a : Attempt} {s : Store} {f g : Frame} (moved : (attempt a s f).2 = .next g) :
    a.fails = false ∧ Next a.choice s f g := by
  unfold attempt at moved
  split at moved
  · cases f <;> simp [onFailure] at moved
  · rename_i served
    exact ⟨by simpa using served, exec_next moved⟩

/-- How many statements a call still has, at most. -/
def left : Frame → Nat
  | .sendFindInviter .. => 7
  | .sendFindInvitee .. => 6
  | .sendCheckMine .. => 5
  | .sendCheckTheirs .. | .acceptFind .. => 4
  | .sendCancelPending .. | .acceptCheckMine .. | .declineFind .. | .cancelFind _
  | .breakUpCheck .. => 3
  | .sendCreateCouple .. | .acceptCheckInviter .. | .declineUpdate _ | .cancelUpdate _
  | .breakUpPhotos .. => 2
  | .sendCreateInvite .. | .acceptCommit .. | .declineDelete _ | .cancelDelete _
  | .breakUpDelete .. => 1

theorem next_left {choice : Choice} {s : Store} {f g : Frame} (next : Next choice s f g) :
    left g < left f := by
  cases next <;> exact Nat.lt_succ_self _

theorem left_pos (f : Frame) : 0 < left f := by
  cases f <;> exact Nat.succ_pos _

theorem finish_ends {n : Nat} {s : Store} {f : Frame} (enough : left f ≤ n) (g : Frame) :
    (finish attempts n s f).2 ≠ .next g := by
  induction n generalizing s f with
  | zero => cases f <;> simp [left] at enough
  | succ n ih =>
    rw [finish]
    split
    · rename_i t h moved
      have next := (attempt_next (congrArg Prod.snd moved)).2
      exact ih (by have := next_left next; omega)
    · rename_i open_still
      intro same
      exact open_still _ g (Prod.ext rfl same)

/-- A call that runs by itself comes to an end. -/
theorem complete_ends (s : Store) (c : Call) (g : Frame) : (complete attempts s c).2 ≠ .next g :=
  finish_ends (by cases c <;> simp [left, entry]) g

variable (attempts) in
/-- The statements of one call, run with no other one in between, are a run of the system. Where a
    statement fails, the call is left standing at it. -/
theorem finish_is_run (n : Nat) (s : Store) (f : Frame) (calls : List Frame) :
    ∃ es rest, run step ⟨s, f :: calls⟩ es = some ⟨(finish attempts n s f).1, rest ++ calls⟩ := by
  induction n generalizing s f with
  | zero => exact ⟨[], [f], rfl⟩
  | succ n ih =>
    cases failing : (attempts f).fails with
    | true =>
      refine ⟨[], [f], ?_⟩
      cases f <;> simp [finish, attempt, failing, onFailure, run]
    | false =>
      have moved : step ⟨s, f :: calls⟩ (.statement 0 (attempts f).choice) =
          some ⟨(exec (attempts f).choice s f).1,
            (exec (attempts f).choice s f).2.frames ++ calls⟩ := rfl
      rw [finish, attempt_served failing]
      split
      · rename_i t g after
        obtain ⟨es, rest, reached⟩ := ih t g
        rw [after] at moved
        exact ⟨_, rest, run_cons_iff.mpr ⟨_, moved, reached⟩⟩
      · exact ⟨[.statement 0 (attempts f).choice], _, run_cons_iff.mpr ⟨_, moved, rfl⟩⟩

theorem complete_is_run (attempts : Frame → Attempt) (s : Store) (c : Call) :
    ∃ es rest, run step (initial s) es = some ⟨(complete attempts s c).1, rest⟩ := by
  obtain ⟨es, rest, reached⟩ := finish_is_run attempts 7 s (entry c) []
  exact ⟨.call c :: es, rest ++ [], run_cons_iff.mpr ⟨_, rfl, reached⟩⟩

/-- What holds of the rows and the statement the call stands at, from one statement to the next,
    gives what holds of the rows when it ends. -/
theorem finish_keeps (holds : Store → Frame → Prop) {good : Store → Prop}
    (sound : ∀ s f, holds s f → good s)
    (goes : ∀ choice s f g, holds s f → Next choice s f g → holds (exec choice s f).1 g)
    (ends : ∀ choice s f, holds s f → good (exec choice s f).1) {n : Nat} {s : Store} {f : Frame}
    (start : holds s f) : good (finish attempts n s f).1 := by
  induction n generalizing s f with
  | zero => exact sound s f start
  | succ n ih =>
    rw [finish]
    split
    · rename_i t g moved
      obtain ⟨served, next⟩ := attempt_next (congrArg Prod.snd moved)
      rw [attempt_served served] at moved
      rw [show t = (exec (attempts f).choice s f).1 by rw [moved]]
      exact ih (goes _ s f g start next)
    · unfold attempt
      split
      · exact sound s f start
      · exact ends _ s f start

theorem complete_consistent {s : Store} (consistent : Consistent s) (c : Call) :
    Consistent (complete attempts s c).1 := by
  obtain ⟨es, rest, reached⟩ := complete_is_run attempts s c
  obtain ⟨ok, paired⟩ := run_consistent reached
    (initial_ok consistent.keyed consistent.linked) consistent.paired
  exact ⟨ok.keyed, ok.linked, paired⟩

end Ends

section Statements
variable {attempts : Frame → Attempt} {n : Nat} {s : Store} {f g : Frame}

theorem finish_failed (failing : (attempts f).fails = true) :
    finish attempts (n + 1) s f = (s, onFailure f) := by
  rw [finish, attempt, failing]
  cases f <;> rfl

theorem finish_next (served : (attempts f).fails = false)
    (moved : (exec (attempts f).choice s f).2 = .next g) :
    finish attempts (n + 1) s f = finish attempts n (exec (attempts f).choice s f).1 g := by
  rw [finish, attempt_served served]
  generalize exec (attempts f).choice s f = effect at moved
  obtain ⟨t, outcome⟩ := effect
  cases moved
  rfl

theorem finish_ended (served : (attempts f).fails = false)
    (ended : ∀ g, (exec (attempts f).choice s f).2 ≠ .next g) :
    finish attempts (n + 1) s f = exec (attempts f).choice s f := by
  rw [finish, attempt_served served]
  split
  · rename_i t g moved
    exact absurd (congrArg Prod.snd moved) (ended g)
  · rfl

theorem finish_last (served : (attempts f).fails = false) (last : left f = 1) :
    finish attempts (n + 1) s f = exec (attempts f).choice s f := by
  refine finish_ended served fun g moved => ?_
  have := next_left (exec_next moved)
  have := left_pos g
  omega

theorem finish_read (served : (attempts f).fails = false) (reading : reads f = true)
    (moved : (exec (attempts f).choice s f).2 = .next g) :
    finish attempts (n + 1) s f = finish attempts n s g := by
  rw [finish_next served moved, exec_reads reading]

/-- A statement that is rejected has changed nothing. -/
theorem exec_rejected {choice : Choice} {error : Exception}
    (rejected : (exec choice s f).2 = .rejected error) : (exec choice s f).1 = s := by
  cases f with
  | sendCancelPending | sendCreateCouple | declineDelete | cancelDelete => simp [exec] at rejected
  | sendCreateInvite | acceptCommit | declineUpdate | cancelUpdate | breakUpDelete =>
    simp only [exec] at rejected ⊢
    split at rejected
    · rfl
    · simp at rejected
  | _ => exact exec_reads rfl

/-- The calls whose last statement is the only one that writes. -/
def WritesLast : Frame → Prop
  | .acceptFind .. | .acceptCheckMine .. | .acceptCheckInviter .. | .acceptCommit .. => True
  | .breakUpCheck .. | .breakUpPhotos .. | .breakUpDelete .. => True
  | _ => False

theorem writes_last_next {choice : Choice} (once : WritesLast f) (next : Next choice s f g) :
    reads f = true ∧ WritesLast g := by
  cases next <;> first | exact ⟨rfl, trivial⟩ | exact once.elim

theorem finish_rejected {error : Exception} (once : WritesLast f)
    (rejected : (finish attempts n s f).2 = .rejected error) : (finish attempts n s f).1 = s := by
  induction n generalizing f with
  | zero => simp [finish] at rejected
  | succ n ih =>
    cases served : (attempts f).fails with
    | true => rw [finish_failed served]
    | false =>
      cases outcome : (exec (attempts f).choice s f).2 with
      | next g =>
        obtain ⟨reading, later⟩ := writes_last_next once (exec_next outcome)
        rw [finish_read served reading outcome] at rejected ⊢
        exact ih later rejected
      | returned | rejected =>
        rw [finish_ended served (by simp [outcome])] at rejected ⊢
        exact exec_rejected rejected

/-- A call that stands at a statement that only reads ends there with the rows as they are, or it
    goes on. -/
theorem stops_or_passes {passed : Prop} (reading : reads f = true)
    (rest : ∀ g, (attempts f).fails = false → Next (attempts f).choice s f g →
      (∃ o, finish attempts n s g = (s, o)) ∨ passed) :
    (∃ o, finish attempts (n + 1) s f = (s, o)) ∨ passed := by
  cases served : (attempts f).fails with
  | true => exact Or.inl ⟨_, finish_failed served⟩
  | false =>
    cases outcome : (exec (attempts f).choice s f).2 with
    | next g =>
      rw [finish_read served reading outcome]
      exact rest g served (exec_next outcome)
    | returned result | rejected error =>
      refine Or.inl ⟨(exec (attempts f).choice s f).2, ?_⟩
      rw [finish_ended served (by simp [outcome])]
      exact Prod.ext (exec_reads reading) rfl

end Statements

section Operations
variable (attempts : Frame → Attempt) (s : Store)

/-- A sendInvite call that has passed its checks and canceled the sender's pending invites. -/
structure SendPasses (userId : Nat) (inviteeEmail : String) (inviter invitee : User) : Prop where
  inviter_found : s.userById userId = some inviter
  invitee_found : s.userByEmail inviteeEmail = some invitee
  different : invitee.id ≠ inviter.id
  inviter_free : s.memberByUser inviter.id = none
  invitee_free : s.memberByUser invitee.id = none
  served : ∀ f ∈ [.sendFindInviter userId inviteeEmail, .sendFindInvitee inviter inviteeEmail,
    .sendCheckMine inviter invitee, .sendCheckTheirs inviter invitee,
    .sendCancelPending inviter invitee], (attempts f).fails = false

/-- The last statement of sendInvite, after it has made the couple, is not rejected either. -/
def MakesInvite (inviter invitee : User) : Prop :=
  (attempts (.sendCreateInvite inviter invitee s.nextId)).fails = false ∧ ∀ i ∈ s.invites,
    i.code ≠ (attempts (.sendCreateInvite inviter invitee s.nextId)).choice.code

/-- An acceptInvite call that has passed its checks and whose transaction is not rejected. -/
structure AcceptPasses (inviteId userId : Nat) (invite : CoupleInvite) : Prop where
  checked : checkReceived s inviteId userId = .ok invite
  invitee_free : s.memberByUser userId = none
  inviter_free : s.memberByUser invite.inviterUserId = none
  served : ∀ f ∈ [.acceptFind inviteId userId, .acceptCheckMine invite userId,
    .acceptCheckInviter invite userId, .acceptCommit invite userId], (attempts f).fails = false

/-- A declineInvite call that has declined the invite. -/
structure DeclinePasses (inviteId userId : Nat) (invite : CoupleInvite) : Prop where
  checked : checkReceived s inviteId userId = .ok invite
  served : ∀ f ∈ [.declineFind inviteId userId, .declineUpdate invite], (attempts f).fails = false

/-- A cancelInvite call that has canceled the invite. -/
structure CancelPasses (userId : Nat) (invite : CoupleInvite) : Prop where
  found : findFirst (s.pendingInvitesOf userId) (attempts (.cancelFind userId)).choice.pick =
    some invite
  served : ∀ f ∈ [.cancelFind userId, .cancelUpdate invite], (attempts f).fails = false

/-- The last statement of declineInvite and cancelInvite. -/
def cleanUp (a : Attempt) (invite : CoupleInvite) (t : Store) : Store :=
  if a.fails then t else (t.deleteCouple invite.coupleId).getD t

variable {attempts s} {userId inviteId : Nat} {inviteeEmail : String}

theorem finish_delete {n : Nat} {f : Frame} {invite : CoupleInvite}
    (frame : f = .declineDelete invite ∨ f = .cancelDelete invite) :
    finish attempts (n + 1) s f = (cleanUp (attempts f) invite s, .returned .unit) := by
  unfold cleanUp
  cases failing : (attempts f).fails with
  | true =>
    rw [finish_failed failing]
    rcases frame with rfl | rfl <;> rfl
  | false =>
    rcases frame with rfl | rfl <;> rw [finish_last failing rfl] <;> rfl

theorem makes_invite_cancel {inviter invitee : User} {id : Nat} :
    MakesInvite attempts (s.cancelPendingOf id) inviter invitee ↔
      MakesInvite attempts s inviter invitee := by
  have code_kept := fun i =>
    ((cancel_when_retires fun i : CoupleInvite => i.inviterUserId = id).same i).code
  simp only [MakesInvite, Store.cancelPendingOf, Store.mapInvites, List.forall_mem_map, code_kept]

theorem complete_send_passes {inviter invitee : User}
    (passes : SendPasses attempts s userId inviteeEmail inviter invitee) :
    complete attempts s (.sendInvite userId inviteeEmail) =
      finish attempts 2 (s.cancelPendingOf inviter.id) (.sendCreateCouple inviter invitee) := by
  obtain ⟨inviter_found, invitee_found, different, inviter_free, invitee_free, served⟩ := passes
  simp only [List.forall_mem_cons] at served
  obtain ⟨first, second, third, fourth, fifth, _⟩ := served
  calc finish attempts 7 s (.sendFindInviter userId inviteeEmail)
    _ = finish attempts 6 s (.sendFindInvitee inviter inviteeEmail) :=
        finish_read first rfl (by simp [exec, inviter_found])
    _ = finish attempts 5 s (.sendCheckMine inviter invitee) :=
        finish_read second rfl (by simp [exec, invitee_found, different])
    _ = finish attempts 4 s (.sendCheckTheirs inviter invitee) :=
        finish_read third rfl (by simp [exec, inviter_free])
    _ = finish attempts 3 s (.sendCancelPending inviter invitee) :=
        finish_read fourth rfl (by simp [exec, invitee_free])
    _ = finish attempts 2 (s.cancelPendingOf inviter.id) (.sendCreateCouple inviter invitee) :=
        finish_next fifth rfl

/-- How the last two statements of sendInvite end: with both rows, with a couple, or with neither. -/
inductive SendEnds (attempts : Frame → Attempt) (s : Store) (inviter invitee : User) :
    Store × Outcome → Prop where
  | noCouple (failed : (attempts (.sendCreateCouple inviter invitee)).fails = true) :
      SendEnds attempts s inviter invitee (s, .rejected .database)
  | noInvite {now : Nat} (served : (attempts (.sendCreateCouple inviter invitee)).fails = false)
      (failed : ¬ MakesInvite attempts s inviter invitee) :
      SendEnds attempts s inviter invitee (s.createCouple now, .rejected .database)
  | made {now : Nat} {choice : Choice} {t : Store}
      (served : (attempts (.sendCreateCouple inviter invitee)).fails = false)
      (makes : MakesInvite attempts s inviter invitee)
      (done : (s.createCouple now).createInvite
        (inviteRow (s.createCouple now) choice inviter invitee s.nextId) = some t) :
      SendEnds attempts s inviter invitee
        (t, .returned (.invite (inviteRow (s.createCouple now) choice inviter invitee s.nextId)))

variable (attempts s) in
theorem finish_send_ends (inviter invitee : User) : SendEnds attempts s inviter invitee
    (finish attempts 2 s (.sendCreateCouple inviter invitee)) := by
  cases first : (attempts (.sendCreateCouple inviter invitee)).fails with
  | true =>
    rw [finish_failed first]
    exact .noCouple first
  | false =>
    rw [finish_next (g := .sendCreateInvite inviter invitee s.nextId) first rfl]
    simp only [exec]
    generalize (attempts (.sendCreateCouple inviter invitee)).choice.now = now
    cases second : (attempts (.sendCreateInvite inviter invitee s.nextId)).fails with
    | true =>
      rw [finish_failed second]
      exact .noInvite first fun makes => by simp [makes.1] at second
    | false =>
      have made : ((s.createCouple now).createInvite (inviteRow (s.createCouple now)
          (attempts (.sendCreateInvite inviter invitee s.nextId)).choice inviter invitee
          s.nextId)).isSome ↔ ∀ i ∈ s.invites,
            i.code ≠ (attempts (.sendCreateInvite inviter invitee s.nextId)).choice.code :=
        create_invite_some ⟨_, List.mem_append_right _ (List.mem_singleton_self _), rfl⟩
      rw [finish_last second rfl]
      simp only [exec]
      split
      · rename_i collides
        exact .noInvite first fun makes => by simpa [collides] using made.mpr makes.2
      · rename_i t done
        exact .made first ⟨second, made.mp (by simp [done])⟩ done

/-- A sendInvite call leaves the rows as they are, or it passes its checks. -/
theorem complete_send_cases :
    (∃ o, complete attempts s (.sendInvite userId inviteeEmail) = (s, o)) ∨
      ∃ inviter invitee, SendPasses attempts s userId inviteeEmail inviter invitee := by
  refine stops_or_passes rfl fun _ first next => ?_
  cases next with | @sendFindInviter _ _ inviter inviter_found
  refine stops_or_passes rfl fun _ second next => ?_
  cases next with | @sendFindInvitee _ invitee _ invitee_found different
  refine stops_or_passes rfl fun _ third next => ?_
  cases next with | sendCheckMine inviter_free
  refine stops_or_passes rfl fun _ fourth next => ?_
  cases next with | sendCheckTheirs invitee_free
  cases fifth : (attempts (.sendCancelPending inviter invitee)).fails with
  | true => exact Or.inl ⟨_, finish_failed fifth⟩
  | false =>
    refine Or.inr ⟨inviter, invitee, inviter_found, invitee_found, different, inviter_free,
      invitee_free, ?_⟩
    simpa [entry, second, third, fourth, fifth] using first

theorem complete_accept_passes {invite : CoupleInvite}
    (passes : AcceptPasses attempts s inviteId userId invite) :
    complete attempts s (.acceptInvite inviteId userId) =
      exec (attempts (.acceptCommit invite userId)).choice s (.acceptCommit invite userId) := by
  obtain ⟨checked, invitee_free, inviter_free, served⟩ := passes
  simp only [List.forall_mem_cons] at served
  obtain ⟨first, second, third, fourth, _⟩ := served
  calc finish attempts 7 s (.acceptFind inviteId userId)
    _ = finish attempts 6 s (.acceptCheckMine invite userId) :=
        finish_read first rfl (by simp [exec, checked])
    _ = finish attempts 5 s (.acceptCheckInviter invite userId) :=
        finish_read second rfl (by simp [exec, invitee_free])
    _ = finish attempts 4 s (.acceptCommit invite userId) :=
        finish_read third rfl (by simp [exec, inviter_free])
    _ = exec (attempts (.acceptCommit invite userId)).choice s (.acceptCommit invite userId) :=
        finish_last fourth rfl

theorem complete_accept_cases :
    (∃ o, complete attempts s (.acceptInvite inviteId userId) = (s, o)) ∨
      ∃ invite, AcceptPasses attempts s inviteId userId invite := by
  refine stops_or_passes rfl fun _ first next => ?_
  cases next with | @acceptFind _ _ invite checked
  refine stops_or_passes rfl fun _ second next => ?_
  cases next with | acceptCheckMine invitee_free
  refine stops_or_passes rfl fun _ third next => ?_
  cases next with | acceptCheckInviter inviter_free
  cases fourth : (attempts (.acceptCommit invite userId)).fails with
  | true => exact Or.inl ⟨_, finish_failed fourth⟩
  | false =>
    refine Or.inr ⟨invite, checked, invitee_free, inviter_free, ?_⟩
    simpa [entry, second, third, fourth] using first

theorem complete_decline_passes {invite : CoupleInvite}
    (passes : DeclinePasses attempts s inviteId userId invite) :
    complete attempts s (.declineInvite inviteId userId) =
      (cleanUp (attempts (.declineDelete invite)) invite (s.mapInvites (respond invite.id .declined
        (some (attempts (.declineUpdate invite)).choice.now))), .returned .unit) := by
  obtain ⟨checked, served⟩ := passes
  simp only [List.forall_mem_cons] at served
  obtain ⟨first, second, _⟩ := served
  have declined := update_invite_some ⟨_, (check_received_ok checked).1, rfl⟩ .declined
    (some (attempts (.declineUpdate invite)).choice.now)
  calc finish attempts 7 s (.declineFind inviteId userId)
    _ = finish attempts 6 s (.declineUpdate invite) :=
        finish_read first rfl (by simp [exec, checked])
    _ = finish attempts 5 _ (.declineDelete invite) :=
        finish_next second (by simp [exec, declined])
    _ = _ := by rw [finish_delete (Or.inl rfl)]; simp [exec, declined]

theorem complete_decline_cases :
    (∃ o, complete attempts s (.declineInvite inviteId userId) = (s, o)) ∨
      ∃ invite, DeclinePasses attempts s inviteId userId invite := by
  refine stops_or_passes rfl fun _ first next => ?_
  cases next with | @declineFind _ _ invite checked
  cases second : (attempts (.declineUpdate invite)).fails with
  | true => exact Or.inl ⟨_, finish_failed second⟩
  | false =>
    refine Or.inr ⟨invite, checked, ?_⟩
    simpa [entry, second] using first

theorem complete_cancel_passes {invite : CoupleInvite}
    (passes : CancelPasses attempts s userId invite) :
    complete attempts s (.cancelInvite userId) =
      (cleanUp (attempts (.cancelDelete invite)) invite
        (s.mapInvites (respond invite.id .canceled none)), .returned .unit) := by
  obtain ⟨found, served⟩ := passes
  simp only [List.forall_mem_cons] at served
  obtain ⟨first, second, _⟩ := served
  have canceled := update_invite_some ⟨_, (find_first_pending found).1, rfl⟩ .canceled none
  calc finish attempts 7 s (.cancelFind userId)
    _ = finish attempts 6 s (.cancelUpdate invite) :=
        finish_read first rfl (by simp [exec, found])
    _ = finish attempts 5 _ (.cancelDelete invite) :=
        finish_next second (by simp [exec, canceled])
    _ = _ := by rw [finish_delete (Or.inr rfl)]; simp [exec, canceled]

theorem complete_cancel_cases :
    (∃ o, complete attempts s (.cancelInvite userId) = (s, o)) ∨
      ∃ invite, CancelPasses attempts s userId invite := by
  refine stops_or_passes rfl fun _ first next => ?_
  cases next with | @cancelFind _ invite found
  cases second : (attempts (.cancelUpdate invite)).fails with
  | true => exact Or.inl ⟨_, finish_failed second⟩
  | false =>
    refine Or.inr ⟨invite, found, ?_⟩
    simpa [entry, second] using first

end Operations

/-- What a call has to meet where its checks pass, if it has nothing to meet where they do not. The
    checks pass for at most one choice of the rows that they find. -/
theorem iff_of_passes {α : Type} {P G : α → Prop} {Q : Prop}
    (stops : (¬ ∃ a, P a) → Q) (exactly : ∀ a, P a → (Q ↔ G a)) : Q ↔ ∀ a, P a → G a := by
  constructor
  · intro holds a pass
    exact (exactly a pass).mp holds
  · intro goals
    by_cases some_pass : ∃ a, P a
    · obtain ⟨a, pass⟩ := some_pass
      exact (exactly a pass).mpr (goals a pass)
    · exact stops some_pass

/-- Complete calls one after another, each with its own attempts. -/
def serve (s : Store) (e : Call × (Frame → Attempt)) : Option Store :=
  some (complete e.2 s e.1).1

theorem serve_consistent {s t : Store} {e : Call × (Frame → Attempt)} (served : serve s e = some t)
    (consistent : Consistent s) : Consistent t := by
  cases served
  exact complete_consistent consistent e.1

/-- No statement fails, and each invite code is new. -/
def smoothly (code : String) (_ : Frame) : Attempt := ⟨⟨1000, code, 0⟩, false⟩

end CoupleCalls
