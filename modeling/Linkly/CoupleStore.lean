import Mathlib.Data.List.Basic
import Mathlib.Data.List.Nodup

/-!
The couple tables of the schema and the single database statements the couple service issues.
Row ids come from a counter, as generated ids are never reused. A statement that finds no row
to change, or that breaks a unique key or a foreign key, yields `none` and changes nothing.
-/
namespace CoupleStore

inductive CoupleStatus where
  | pending
  | active
  deriving DecidableEq, Repr

inductive CoupleMemberRole where
  | owner
  | member
  deriving DecidableEq, Repr

inductive InviteStatus where
  | pending
  | accepted
  | declined
  | expired
  | canceled
  deriving DecidableEq, Repr

structure User where
  id : Nat
  email : Option String
  displayName : String
  birthday : Option Int
  homeAddress : Option String
  deriving DecidableEq, Repr

structure Couple where
  id : Nat
  status : CoupleStatus
  anniversaryDate : Option Int
  createdAt : Nat
  updatedAt : Nat
  deriving DecidableEq, Repr

structure CoupleMember where
  id : Nat
  coupleId : Nat
  userId : Nat
  nickname : Option String
  role : CoupleMemberRole
  deriving DecidableEq, Repr

structure CoupleInvite where
  id : Nat
  coupleId : Nat
  inviterUserId : Nat
  inviteeEmail : Option String
  inviteeUserId : Option Nat
  code : String
  status : InviteStatus
  expiresAt : Nat
  createdAt : Nat
  respondedAt : Option Nat
  deriving DecidableEq, Repr

/-- The tables whose rows go with their couple: events, photos and messages. -/
inductive OwnedTable where
  | calendarEvent
  | galleryPhoto
  | chatMessage
  deriving DecidableEq, Repr

structure OwnedRow where
  table : OwnedTable
  id : Nat
  coupleId : Nat
  deriving DecidableEq, Repr

structure Store where
  users : List User
  couples : List Couple
  members : List CoupleMember
  invites : List CoupleInvite
  owned : List OwnedRow
  nextId : Nat
  deriving DecidableEq, Repr

def Store.empty (users : List User) : Store := ⟨users, [], [], [], [], 0⟩

def CoupleInvite.Involves (i : CoupleInvite) (userId : Nat) : Prop :=
  i.inviterUserId = userId ∨ i.inviteeUserId = some userId

instance (i : CoupleInvite) (userId : Nat) : Decidable (i.Involves userId) :=
  inferInstanceAs (Decidable (_ ∨ _))

def Store.userById (s : Store) (id : Nat) : Option User := s.users.find? (·.id = id)

def Store.userByEmail (s : Store) (email : String) : Option User :=
  s.users.find? (·.email = some email)

def Store.memberByUser (s : Store) (userId : Nat) : Option CoupleMember :=
  s.members.find? (·.userId = userId)

def Store.memberByCoupleUser (s : Store) (coupleId userId : Nat) : Option CoupleMember :=
  s.members.find? fun m => m.coupleId = coupleId ∧ m.userId = userId

def Store.inviteById (s : Store) (id : Nat) : Option CoupleInvite := s.invites.find? (·.id = id)

def Store.pendingInvitesOf (s : Store) (userId : Nat) : List CoupleInvite :=
  s.invites.filter fun i => i.inviterUserId = userId ∧ i.status = .pending

/-- A `findFirst` without an order may answer with any of the matching rows: `pick` says which. -/
def findFirst (rows : List CoupleInvite) (pick : Nat) : Option CoupleInvite :=
  rows[pick % rows.length]?

def Store.mapInvites (s : Store) (f : CoupleInvite → CoupleInvite) : Store :=
  { s with invites := s.invites.map f }

def cancelWhen (test : CoupleInvite → Bool) (i : CoupleInvite) : CoupleInvite :=
  if test i ∧ i.status = .pending then { i with status := .canceled } else i

def respond (id : Nat) (status : InviteStatus) (respondedAt : Option Nat)
    (i : CoupleInvite) : CoupleInvite :=
  if i.id = id then { i with status := status, respondedAt := respondedAt <|> i.respondedAt } else i

def Store.cancelPendingOf (s : Store) (userId : Nat) : Store :=
  s.mapInvites (cancelWhen fun i => i.inviterUserId = userId)

def Store.updateInvite (s : Store) (id : Nat) (status : InviteStatus)
    (respondedAt : Option Nat) : Option Store :=
  if s.invites.any (·.id = id) then some (s.mapInvites (respond id status respondedAt)) else none

def Store.createCouple (s : Store) (now : Nat) : Store :=
  { s with couples := s.couples ++ [⟨s.nextId, .pending, none, now, now⟩]
           nextId := s.nextId + 1 }

/-- The row given here carries the id that the statement assigns to it. -/
def Store.createInvite (s : Store) (row : CoupleInvite) : Option Store :=
  if s.couples.any (·.id = row.coupleId) ∧ ¬ s.invites.any (·.code = row.code) then
    some { s with invites := s.invites ++ [row], nextId := s.nextId + 1 }
  else none

def Store.activateCouple (s : Store) (id now : Nat) : Option Store :=
  if s.couples.any (·.id = id) then
    some { s with couples := s.couples.map fun c =>
      if c.id = id then { c with status := .active, updatedAt := now } else c }
  else none

def Store.createMember (s : Store) (coupleId userId : Nat) (role : CoupleMemberRole) :
    Option Store :=
  if s.couples.any (·.id = coupleId) ∧ ¬ s.members.any (·.userId = userId) then
    some { s with members := s.members ++ [⟨s.nextId, coupleId, userId, none, role⟩],
                  nextId := s.nextId + 1 }
  else none

def Store.cancelOthers (s : Store) (inviteId inviter invitee : Nat) : Store :=
  s.mapInvites (cancelWhen fun i => i.id ≠ inviteId ∧ (i.Involves inviter ∨ i.Involves invitee))

def Store.createMembers (s : Store) (rows : List (Nat × Nat × CoupleMemberRole)) : Option Store :=
  rows.foldlM (fun s row => s.createMember row.1 row.2.1 row.2.2) s

/-- The transaction of acceptInvite. A failing statement rolls all of it back. -/
def Store.acceptTransaction (s : Store) (invite : CoupleInvite) (userId now : Nat) :
    Option Store := do
  let accepted ← s.updateInvite invite.id .accepted (some now)
  let activated ← accepted.activateCouple invite.coupleId now
  let joined ← activated.createMembers
    [(invite.coupleId, invite.inviterUserId, .owner), (invite.coupleId, userId, .member)]
  some (joined.cancelOthers invite.id invite.inviterUserId userId)

/-- Members, invites and owned rows go with their couple. -/
def Store.deleteCouple (s : Store) (id : Nat) : Option Store :=
  if s.couples.any (·.id = id) then
    some { s with couples := s.couples.filter (·.id ≠ id)
                  members := s.members.filter (·.coupleId ≠ id)
                  invites := s.invites.filter (·.coupleId ≠ id)
                  owned := s.owned.filter (·.coupleId ≠ id) }
  else none

end CoupleStore
