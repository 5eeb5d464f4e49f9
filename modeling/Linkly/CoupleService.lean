import Linkly.CoupleStore
import Linkly.TransitionRuns

/-!
CoupleService as interleaved calls. A frame is the place of one call between two of its database
statements, with the values it has read so far; a system step runs the next statement of any one
call, together with the code up to the statement after it. Calls of any users may be open at once.
-/
namespace CoupleService
open CoupleStore

inductive Exception where
  | notFound (message : String)
  | forbidden (message : String)
  | badRequest (message : String)
  | database
  deriving DecidableEq, Repr

inductive Call where
  | sendInvite (userId : Nat) (inviteeEmail : String)
  | acceptInvite (inviteId userId : Nat)
  | declineInvite (inviteId userId : Nat)
  | cancelInvite (userId : Nat)
  | breakUp (coupleId userId : Nat)
  deriving DecidableEq, Repr

inductive Frame where
  | sendFindInviter (userId : Nat) (inviteeEmail : String)
  | sendFindInvitee (inviter : User) (inviteeEmail : String)
  | sendCheckMine (inviter invitee : User)
  | sendCheckTheirs (inviter invitee : User)
  | sendCancelPending (inviter invitee : User)
  | sendCreateCouple (inviter invitee : User)
  | sendCreateInvite (inviter invitee : User) (coupleId : Nat)
  | acceptFind (inviteId userId : Nat)
  | acceptCheckMine (invite : CoupleInvite) (userId : Nat)
  | acceptCheckInviter (invite : CoupleInvite) (userId : Nat)
  | acceptCommit (invite : CoupleInvite) (userId : Nat)
  | declineFind (inviteId userId : Nat)
  | declineUpdate (invite : CoupleInvite)
  | declineDelete (invite : CoupleInvite)
  | cancelFind (userId : Nat)
  | cancelUpdate (invite : CoupleInvite)
  | cancelDelete (invite : CoupleInvite)
  | breakUpCheck (coupleId userId : Nat)
  | breakUpPhotos (coupleId userId : Nat)
  | breakUpDelete (coupleId userId : Nat)
  deriving DecidableEq, Repr

inductive Result where
  | invite (row : CoupleInvite)
  | couple (coupleId : Nat)
  | unit
  deriving DecidableEq, Repr

inductive Outcome where
  | next (frame : Frame)
  | returned (result : Result)
  | rejected (error : Exception)
  deriving DecidableEq, Repr

/-- What the environment decides about one statement: the clock, the random invite code and the
    row a `findFirst` answers with. -/
structure Choice where
  now : Nat
  code : String
  pick : Nat
  deriving DecidableEq, Repr

def sevenDays : Nat := 7 * 24 * 60 * 60 * 1000

def entry : Call → Frame
  | .sendInvite userId inviteeEmail => .sendFindInviter userId inviteeEmail
  | .acceptInvite inviteId userId => .acceptFind inviteId userId
  | .declineInvite inviteId userId => .declineFind inviteId userId
  | .cancelInvite userId => .cancelFind userId
  | .breakUp coupleId userId => .breakUpCheck coupleId userId

def inviteRow (s : Store) (choice : Choice) (inviter invitee : User) (coupleId : Nat) :
    CoupleInvite where
  id := s.nextId
  coupleId := coupleId
  inviterUserId := inviter.id
  inviteeEmail := invitee.email
  inviteeUserId := some invitee.id
  code := choice.code
  status := .pending
  expiresAt := choice.now + sevenDays
  createdAt := choice.now
  respondedAt := none

/-- acceptInvite and declineInvite open with the same three checks of the invite they read. -/
def checkReceived (s : Store) (inviteId userId : Nat) : Except Exception CoupleInvite :=
  match s.inviteById inviteId with
  | none => .error (.notFound "Invite not found")
  | some invite =>
    if invite.inviteeUserId ≠ some userId then .error (.forbidden "권한이 없습니다.")
    else if invite.status ≠ .pending then .error (.badRequest "이미 처리된 초대입니다.")
    else .ok invite

/-- Runs the statement the frame stands at. `none` from a statement is the database's rejection. -/
def exec (choice : Choice) (s : Store) : Frame → Store × Outcome
  | .sendFindInviter userId inviteeEmail =>
    match s.userById userId with
    | none => (s, .rejected (.notFound "User not found"))
    | some inviter => (s, .next (.sendFindInvitee inviter inviteeEmail))
  | .sendFindInvitee inviter inviteeEmail =>
    match s.userByEmail inviteeEmail with
    | none => (s, .rejected (.notFound "해당 이메일의 사용자를 찾을 수 없습니다."))
    | some invitee =>
      if invitee.id = inviter.id then
        (s, .rejected (.badRequest "자기 자신에게는 신청할 수 없습니다."))
      else (s, .next (.sendCheckMine inviter invitee))
  | .sendCheckMine inviter invitee =>
    match s.memberByUser inviter.id with
    | some _ => (s, .rejected (.badRequest "이미 커플이 등록되어 있습니다."))
    | none => (s, .next (.sendCheckTheirs inviter invitee))
  | .sendCheckTheirs inviter invitee =>
    match s.memberByUser invitee.id with
    | some _ => (s, .rejected (.badRequest "상대방은 이미 커플이 등록되어 있습니다."))
    | none => (s, .next (.sendCancelPending inviter invitee))
  | .sendCancelPending inviter invitee =>
    (s.cancelPendingOf inviter.id, .next (.sendCreateCouple inviter invitee))
  | .sendCreateCouple inviter invitee =>
    (s.createCouple choice.now, .next (.sendCreateInvite inviter invitee s.nextId))
  | .sendCreateInvite inviter invitee coupleId =>
    match s.createInvite (inviteRow s choice inviter invitee coupleId) with
    | none => (s, .rejected .database)
    | some t => (t, .returned (.invite (inviteRow s choice inviter invitee coupleId)))
  | .acceptFind inviteId userId =>
    match checkReceived s inviteId userId with
    | .error error => (s, .rejected error)
    | .ok invite => (s, .next (.acceptCheckMine invite userId))
  | .acceptCheckMine invite userId =>
    match s.memberByUser userId with
    | some _ => (s, .rejected (.badRequest "이미 커플이 등록되어 있습니다."))
    | none => (s, .next (.acceptCheckInviter invite userId))
  | .acceptCheckInviter invite userId =>
    match s.memberByUser invite.inviterUserId with
    | some _ => (s, .rejected (.badRequest "신청자가 이미 다른 커플에 등록되어 있습니다."))
    | none => (s, .next (.acceptCommit invite userId))
  | .acceptCommit invite userId =>
    match s.acceptTransaction invite userId choice.now with
    | none => (s, .rejected .database)
    | some t => (t, .returned (.couple invite.coupleId))
  | .declineFind inviteId userId =>
    match checkReceived s inviteId userId with
    | .error error => (s, .rejected error)
    | .ok invite => (s, .next (.declineUpdate invite))
  | .declineUpdate invite =>
    match s.updateInvite invite.id .declined (some choice.now) with
    | none => (s, .rejected .database)
    | some t => (t, .next (.declineDelete invite))
  | .declineDelete invite => ((s.deleteCouple invite.coupleId).getD s, .returned .unit)
  | .cancelFind userId =>
    match findFirst (s.pendingInvitesOf userId) choice.pick with
    | none => (s, .returned .unit)
    | some invite => (s, .next (.cancelUpdate invite))
  | .cancelUpdate invite =>
    match s.updateInvite invite.id .canceled none with
    | none => (s, .rejected .database)
    | some t => (t, .next (.cancelDelete invite))
  | .cancelDelete invite => ((s.deleteCouple invite.coupleId).getD s, .returned .unit)
  | .breakUpCheck coupleId userId =>
    match s.memberByCoupleUser coupleId userId with
    | none => (s, .rejected (.forbidden "User is not a member of this couple."))
    | some _ => (s, .next (.breakUpPhotos coupleId userId))
  -- The photo rows are read here only to unlink their files, which are no rows of the store.
  | .breakUpPhotos coupleId userId => (s, .next (.breakUpDelete coupleId userId))
  | .breakUpDelete coupleId _ =>
    match s.deleteCouple coupleId with
    | none => (s, .rejected .database)
    | some t => (t, .returned .unit)

structure System where
  store : Store
  calls : List Frame
  deriving DecidableEq, Repr

inductive Event where
  | call (c : Call)
  | statement (index : Nat) (choice : Choice)
  deriving DecidableEq, Repr

def Outcome.frames : Outcome → List Frame
  | .next frame => [frame]
  | .returned _ => []
  | .rejected _ => []

theorem mem_frames_iff {outcome : Outcome} {f : Frame} :
    f ∈ outcome.frames ↔ outcome = .next f := by
  cases outcome <;> simp [Outcome.frames, eq_comm]

/-- The order of the open calls carries no meaning: the call that moved is put first. -/
def step (y : System) : Event → Option System
  | .call c => some { y with calls := entry c :: y.calls }
  | .statement index choice =>
    y.calls[index]?.map fun frame =>
      ⟨(exec choice y.store frame).1,
        (exec choice y.store frame).2.frames ++ y.calls.eraseIdx index⟩

def initial (s : Store) : System := ⟨s, []⟩

end CoupleService
