import Linkly.CoupleService
import Linkly.CoupleConsistency

/-!
One statement of one call, seen by the store and by all other open calls. `Write` lists the ways
a statement may change the store, `Evolves` what any of them leaves in place, and `FrameOk` what a
call may still rely on from the rows it has read, whatever other calls did in between.
-/
namespace CoupleFrames
open CoupleStore CoupleService CoupleConsistency

/-- The couple that a sendInvite call has created and no invite refers to yet. -/
def reserved : Frame → Option Nat
  | .sendCreateInvite _ _ coupleId => some coupleId
  | _ => none

def deletes : Frame → Option Nat
  | .declineDelete invite => some invite.coupleId
  | .cancelDelete invite => some invite.coupleId
  | .breakUpDelete coupleId _ => some coupleId
  | _ => none

inductive Write (f : Frame) (s : Store) : Store → Prop where
  | unchanged : Write f s s
  | retired {g : CoupleInvite → CoupleInvite} (retires : Retires g) : Write f s (s.mapInvites g)
  | newCouple {now : Nat} : Write f s (s.createCouple now)
  | newInvite {choice : Choice} {inviter invitee : User} {coupleId : Nat} {t : Store}
      (frame : f = .sendCreateInvite inviter invitee coupleId)
      (done : s.createInvite (inviteRow s choice inviter invitee coupleId) = some t) : Write f s t
  | accepted {invite : CoupleInvite} {userId now : Nat} (frame : f = .acceptCommit invite userId)
      (can : CanPair s invite userId) : Write f s (acceptEffect s invite userId now)
  | deleted {id : Nat} {t : Store} (frame : deletes f = some id)
      (done : s.deleteCouple id = some t) : Write f s t

theorem delete_or_keep {f : Frame} {s : Store} {id : Nat} (frame : deletes f = some id) :
    Write f s ((s.deleteCouple id).getD s) := by
  cases done : s.deleteCouple id with
  | none => exact .unchanged
  | some t => exact .deleted frame done

theorem update_or_keep {f : Frame} {s t : Store} {id : Nat} {status : InviteStatus}
    {respondedAt : Option Nat} (closed : status ≠ .pending)
    (done : s.updateInvite id status respondedAt = some t) : Write f s t := by
  obtain ⟨_, rfl⟩ := update_invite_eq done
  exact .retired (respond_retires id status respondedAt closed)

/-- The statements that only read rows. -/
def reads : Frame → Bool
  | .sendFindInviter .. | .sendFindInvitee .. | .sendCheckMine .. | .sendCheckTheirs ..
  | .acceptFind .. | .acceptCheckMine .. | .acceptCheckInviter .. | .declineFind ..
  | .cancelFind _ | .breakUpCheck .. | .breakUpPhotos .. => true
  | _ => false

theorem exec_reads {choice : Choice} {s : Store} {f : Frame} (reading : reads f = true) :
    (exec choice s f).1 = s := by
  cases f with
  | sendFindInvitee inviter inviteeEmail =>
    simp only [exec]
    split
    · rfl
    · split <;> rfl
  | breakUpPhotos => rfl
  | sendFindInviter | sendCheckMine | sendCheckTheirs | acceptFind | acceptCheckMine
  | acceptCheckInviter | declineFind | cancelFind | breakUpCheck =>
    simp only [exec]
    split <;> rfl
  | _ => simp [reads] at reading

theorem exec_write (choice : Choice) (s : Store) (f : Frame) :
    Write f s (exec choice s f).1 := by
  cases f with
  | sendCancelPending inviter invitee => exact .retired (cancel_when_retires _)
  | sendCreateCouple inviter invitee => exact .newCouple
  | sendCreateInvite inviter invitee coupleId =>
    simp only [exec]
    split
    · exact .unchanged
    · rename_i t done
      exact .newInvite rfl done
  | acceptCommit invite userId =>
    simp only [exec]
    split
    · exact .unchanged
    · rename_i t done
      obtain ⟨can, rfl⟩ := accept_transaction_eq done
      exact .accepted rfl can
  | declineUpdate invite =>
    simp only [exec]
    split
    · exact .unchanged
    · rename_i t done
      exact update_or_keep (by simp) done
  | cancelUpdate invite =>
    simp only [exec]
    split
    · exact .unchanged
    · rename_i t done
      exact update_or_keep (by simp) done
  | declineDelete invite => exact delete_or_keep rfl
  | cancelDelete invite => exact delete_or_keep rfl
  | breakUpDelete coupleId userId =>
    simp only [exec]
    split
    · exact .unchanged
    · rename_i t done
      exact .deleted rfl done
  | _ =>
    rw [exec_reads rfl]
    exact .unchanged

/-- The statement that a call goes on to, with what it has found out by the one before. -/
inductive Next (choice : Choice) (s : Store) : Frame → Frame → Prop where
  | sendFindInviter {userId : Nat} {inviteeEmail : String} {inviter : User}
      (found : s.userById userId = some inviter) :
      Next choice s (.sendFindInviter userId inviteeEmail) (.sendFindInvitee inviter inviteeEmail)
  | sendFindInvitee {inviter invitee : User} {inviteeEmail : String}
      (found : s.userByEmail inviteeEmail = some invitee) (different : invitee.id ≠ inviter.id) :
      Next choice s (.sendFindInvitee inviter inviteeEmail) (.sendCheckMine inviter invitee)
  | sendCheckMine {inviter invitee : User} (free : s.memberByUser inviter.id = none) :
      Next choice s (.sendCheckMine inviter invitee) (.sendCheckTheirs inviter invitee)
  | sendCheckTheirs {inviter invitee : User} (free : s.memberByUser invitee.id = none) :
      Next choice s (.sendCheckTheirs inviter invitee) (.sendCancelPending inviter invitee)
  | sendCancelPending {inviter invitee : User} :
      Next choice s (.sendCancelPending inviter invitee) (.sendCreateCouple inviter invitee)
  | sendCreateCouple {inviter invitee : User} :
      Next choice s (.sendCreateCouple inviter invitee)
        (.sendCreateInvite inviter invitee s.nextId)
  | acceptFind {inviteId userId : Nat} {invite : CoupleInvite}
      (checked : checkReceived s inviteId userId = .ok invite) :
      Next choice s (.acceptFind inviteId userId) (.acceptCheckMine invite userId)
  | acceptCheckMine {invite : CoupleInvite} {userId : Nat} (free : s.memberByUser userId = none) :
      Next choice s (.acceptCheckMine invite userId) (.acceptCheckInviter invite userId)
  | acceptCheckInviter {invite : CoupleInvite} {userId : Nat}
      (free : s.memberByUser invite.inviterUserId = none) :
      Next choice s (.acceptCheckInviter invite userId) (.acceptCommit invite userId)
  | declineFind {inviteId userId : Nat} {invite : CoupleInvite}
      (checked : checkReceived s inviteId userId = .ok invite) :
      Next choice s (.declineFind inviteId userId) (.declineUpdate invite)
  | declineUpdate {invite : CoupleInvite} :
      Next choice s (.declineUpdate invite) (.declineDelete invite)
  | cancelFind {userId : Nat} {invite : CoupleInvite}
      (found : findFirst (s.pendingInvitesOf userId) choice.pick = some invite) :
      Next choice s (.cancelFind userId) (.cancelUpdate invite)
  | cancelUpdate {invite : CoupleInvite} : Next choice s (.cancelUpdate invite) (.cancelDelete invite)
  | breakUpCheck {coupleId userId : Nat} {m : CoupleMember}
      (found : s.memberByCoupleUser coupleId userId = some m) :
      Next choice s (.breakUpCheck coupleId userId) (.breakUpPhotos coupleId userId)
  | breakUpPhotos {coupleId userId : Nat} :
      Next choice s (.breakUpPhotos coupleId userId) (.breakUpDelete coupleId userId)

theorem exec_next {choice : Choice} {s : Store} {f g : Frame}
    (moved : (exec choice s f).2 = .next g) : Next choice s f g := by
  cases f with
  | sendFindInvitee inviter inviteeEmail =>
    simp only [exec] at moved
    split at moved
    · simp at moved
    · rename_i invitee found
      split at moved
      · simp at moved
      · rename_i different
        cases moved
        exact .sendFindInvitee found different
  | sendCancelPending => cases moved; exact .sendCancelPending
  | sendCreateCouple => cases moved; exact .sendCreateCouple
  | breakUpPhotos => cases moved; exact .breakUpPhotos
  | declineDelete | cancelDelete => simp [exec] at moved
  | _ =>
    simp only [exec] at moved
    split at moved <;> cases moved <;> constructor <;> assumption

structure Evolves (f : Frame) (s t : Store) : Prop where
  next_le : s.nextId ≤ t.nextId
  couples_from : ∀ k ∈ t.couples, (∃ c ∈ s.couples, c.id = k.id) ∨ s.nextId ≤ k.id
  couples_kept : ∀ c ∈ s.couples, deletes f ≠ some c.id →
    ∃ k ∈ t.couples, k.id = c.id ∧ (c.status = .active → k.status = .active)
  activated : ∀ k ∈ t.couples, k.status = .active →
    (∃ c ∈ s.couples, c.id = k.id ∧ c.status = .active) ∨
    ∃ invite userId, f = .acceptCommit invite userId ∧ invite.coupleId = k.id ∧
      CanPair s invite userId
  invites_from : ∀ j ∈ t.invites, (∃ i ∈ s.invites, SameInvite i j) ∨
    s.nextId ≤ j.id ∧ reserved f = some j.coupleId
  invites_kept : ∀ i ∈ s.invites, (∃ k ∈ t.couples, k.id = i.coupleId) →
    ∃ j ∈ t.invites, SameInvite i j
  members_kept : ∀ m ∈ s.members, (∃ k ∈ t.couples, k.id = m.coupleId) → m ∈ t.members
  owned_kept : ∀ r ∈ s.owned, (∃ k ∈ t.couples, k.id = r.coupleId) → r ∈ t.owned

theorem evolves_map_invites {f : Frame} {s : Store} {g : CoupleInvite → CoupleInvite}
    (retires : Retires g) : Evolves f s (s.mapInvites g) where
  next_le := Nat.le_refl _
  couples_from := fun k mem => Or.inl ⟨k, mem, rfl⟩
  couples_kept := fun c mem _ => ⟨c, mem, rfl, id⟩
  activated := fun k mem active => Or.inl ⟨k, mem, rfl, active⟩
  invites_from := by
    intro j mem
    obtain ⟨i, mi, rfl⟩ := List.mem_map.mp mem
    exact Or.inl ⟨i, mi, retires.same i⟩
  invites_kept := fun i mem _ => ⟨g i, List.mem_map_of_mem mem, retires.same i⟩
  members_kept := fun _ mem _ => mem
  owned_kept := fun _ mem _ => mem

theorem id_retires : Retires id := ⟨same_invite_refl, fun _ => id⟩

theorem map_invites_id (s : Store) : s.mapInvites id = s := by
  simp [Store.mapInvites]

theorem evolves_refl (f : Frame) (s : Store) : Evolves f s s := by
  have same := evolves_map_invites (f := f) (s := s) id_retires
  rwa [map_invites_id] at same

theorem evolves_create_couple (f : Frame) (s : Store) (now : Nat) :
    Evolves f s (s.createCouple now) where
  next_le := Nat.le_succ _
  couples_from := by
    intro k mem
    rcases List.mem_append.mp mem with old | new
    · exact Or.inl ⟨k, old, rfl⟩
    · rw [List.mem_singleton.mp new]
      exact Or.inr (Nat.le_refl _)
  couples_kept := fun c mem _ => ⟨c, List.mem_append_left _ mem, rfl, id⟩
  activated := by
    intro k mem active
    rcases List.mem_append.mp mem with old | new
    · exact Or.inl ⟨k, old, rfl, active⟩
    · rw [List.mem_singleton.mp new] at active
      simp at active
  invites_from := fun j mem => Or.inl ⟨j, mem, same_invite_refl j⟩
  invites_kept := fun i mem _ => ⟨i, mem, same_invite_refl i⟩
  members_kept := fun _ mem _ => mem
  owned_kept := fun _ mem _ => mem

theorem evolves_create_invite {f : Frame} {s t : Store} {row : CoupleInvite}
    (done : s.createInvite row = some t) (fresh : row.id = s.nextId)
    (own : reserved f = some row.coupleId) : Evolves f s t := by
  obtain ⟨_, rfl⟩ := create_invite_eq done
  exact {
    next_le := Nat.le_succ _
    couples_from := fun k mem => Or.inl ⟨k, mem, rfl⟩
    couples_kept := fun c mem _ => ⟨c, mem, rfl, id⟩
    activated := fun k mem active => Or.inl ⟨k, mem, rfl, active⟩
    invites_from := by
      intro j mem
      rcases List.mem_append.mp mem with old | new
      · exact Or.inl ⟨j, old, same_invite_refl j⟩
      · rw [List.mem_singleton.mp new]
        exact Or.inr ⟨Nat.le_of_eq fresh.symm, own⟩
    invites_kept := fun i mem _ => ⟨i, List.mem_append_left _ mem, same_invite_refl i⟩
    members_kept := fun _ mem _ => mem
    owned_kept := fun _ mem _ => mem }

theorem evolves_accept {s : Store} {invite : CoupleInvite} {userId now : Nat}
    (can : CanPair s invite userId) :
    Evolves (.acceptCommit invite userId) s (acceptEffect s invite userId now) := by
  have answer := respond_retires invite.id .accepted (some now) (by simp)
  have both : ∀ test i,
      SameInvite i (cancelWhen test (respond invite.id .accepted (some now) i)) :=
    fun test i => same_invite_trans (answer.same i) ((cancel_when_retires test).same _)
  exact {
    next_le := Nat.le_add_right _ 2
    couples_from := by
      intro k mem
      obtain ⟨c, mc, rfl⟩ := List.mem_map.mp mem
      exact Or.inl ⟨c, mc, (activate_id _ _ c).symm⟩
    couples_kept := by
      intro c mem _
      refine ⟨activate invite.coupleId now c, List.mem_map_of_mem mem, activate_id _ _ c, ?_⟩
      intro active
      unfold activate
      split
      · rfl
      · exact active
    activated := by
      intro k mem active
      obtain ⟨c, mc, rfl⟩ := List.mem_map.mp mem
      rw [activate_id]
      rcases activate_active active with here | old
      · exact Or.inr ⟨invite, userId, rfl, here.symm, can⟩
      · exact Or.inl ⟨c, mc, rfl, old⟩
    invites_from := by
      intro j mem
      obtain ⟨i, mi, rfl⟩ := List.mem_map.mp mem
      obtain ⟨old, mo, rfl⟩ := List.mem_map.mp mi
      exact Or.inl ⟨old, mo, both _ old⟩
    invites_kept := by
      intro i mem _
      exact ⟨_, List.mem_map_of_mem (List.mem_map_of_mem mem), both _ i⟩
    members_kept := fun _ mem _ => List.mem_append_left _ mem
    owned_kept := fun _ mem _ => mem }

theorem evolves_delete {f : Frame} {s t : Store} {gone : Nat} (frame : deletes f = some gone)
    (done : s.deleteCouple gone = some t) : Evolves f s t := by
  obtain ⟨_, rfl⟩ := delete_couple_eq done
  -- A row of a couple that is still there was not among the rows that went with `gone`.
  have stays : ∀ ref, (∃ k ∈ s.couples.filter (·.id ≠ gone), k.id = ref) → ref ≠ gone := by
    intro ref left
    obtain ⟨k, mk, rfl⟩ := left
    simpa using (List.mem_filter.mp mk).2
  exact {
    next_le := Nat.le_refl _
    couples_from := fun k mem => Or.inl ⟨k, (List.mem_filter.mp mem).1, rfl⟩
    couples_kept := by
      intro c mem other
      rw [frame] at other
      have differs : c.id ≠ gone := fun same => other (congrArg some same.symm)
      exact ⟨c, List.mem_filter.mpr ⟨mem, by simpa using differs⟩, rfl, id⟩
    activated := fun k mem active => Or.inl ⟨k, (List.mem_filter.mp mem).1, rfl, active⟩
    invites_from := fun j mem => Or.inl ⟨j, (List.mem_filter.mp mem).1, same_invite_refl j⟩
    invites_kept := fun i mem left =>
      ⟨i, List.mem_filter.mpr ⟨mem, by simpa using stays _ left⟩, same_invite_refl i⟩
    members_kept := fun _ mem left => List.mem_filter.mpr ⟨mem, by simpa using stays _ left⟩
    owned_kept := fun _ mem left => List.mem_filter.mpr ⟨mem, by simpa using stays _ left⟩ }

theorem write_evolves {f : Frame} {s t : Store} (write : Write f s t) : Evolves f s t := by
  cases write with
  | unchanged => exact evolves_refl f s
  | retired retires => exact evolves_map_invites retires
  | newCouple => exact evolves_create_couple f s _
  | newInvite frame done =>
    subst frame
    exact evolves_create_invite done rfl rfl
  | accepted frame can =>
    subst frame
    exact evolves_accept can
  | deleted frame done => exact evolves_delete frame done

/-- The invite row that a call holds is the row the store still has, if it has one. -/
structure Known (s : Store) (invite : CoupleInvite) : Prop where
  below : invite.id < s.nextId
  couple_below : invite.coupleId < s.nextId
  same : ∀ j ∈ s.invites, j.id = invite.id → SameInvite invite j
  present : (∃ c ∈ s.couples, c.id = invite.coupleId) → ∃ j ∈ s.invites, j.id = invite.id

/-- A couple that a sendInvite call made and that no invite, hence no member, refers to yet. -/
structure Unused (s : Store) (coupleId : Nat) : Prop where
  below : coupleId < s.nextId
  no_invite : ∀ i ∈ s.invites, i.coupleId ≠ coupleId
  pending : ∀ c ∈ s.couples, c.id = coupleId → c.status = .pending

/-- Who passed the membership check of breakUp stays a member for as long as the couple exists. -/
structure Joined (s : Store) (coupleId userId : Nat) : Prop where
  below : coupleId < s.nextId
  member : (∃ c ∈ s.couples, c.id = coupleId) →
    ∃ m ∈ s.members, m.coupleId = coupleId ∧ m.userId = userId

def FrameOk (s : Store) : Frame → Prop
  | .sendCheckMine inviter invitee => invitee.id ≠ inviter.id
  | .sendCheckTheirs inviter invitee => invitee.id ≠ inviter.id
  | .sendCancelPending inviter invitee => invitee.id ≠ inviter.id
  | .sendCreateCouple inviter invitee => invitee.id ≠ inviter.id
  | .sendCreateInvite inviter invitee coupleId => invitee.id ≠ inviter.id ∧ Unused s coupleId
  | .acceptCheckMine invite userId => Known s invite ∧ invite.inviteeUserId = some userId
  | .acceptCheckInviter invite userId => Known s invite ∧ invite.inviteeUserId = some userId
  | .acceptCommit invite userId => Known s invite ∧ invite.inviteeUserId = some userId
  | .declineUpdate invite => Known s invite
  | .declineDelete invite => Known s invite
  | .cancelUpdate invite => Known s invite
  | .cancelDelete invite => Known s invite
  | .breakUpPhotos coupleId userId => Joined s coupleId userId
  | .breakUpDelete coupleId userId => Joined s coupleId userId
  | _ => True

section Stable
variable {f : Frame} {s t : Store} (evolves : Evolves f s t)
include evolves

theorem couple_was_there {id : Nat} (below : id < s.nextId) (found : ∃ k ∈ t.couples, k.id = id) :
    ∃ c ∈ s.couples, c.id = id := by
  obtain ⟨k, mk, rfl⟩ := found
  rcases evolves.couples_from k mk with old | new
  · exact old
  · exact False.elim (Nat.not_lt.mpr new below)

theorem known_stable {invite : CoupleInvite} (known : Known s invite) : Known t invite where
  below := Nat.lt_of_lt_of_le known.below evolves.next_le
  couple_below := Nat.lt_of_lt_of_le known.couple_below evolves.next_le
  same := by
    intro j mj same
    rcases evolves.invites_from j mj with ⟨i, mi, row⟩ | ⟨new, _⟩
    · exact same_invite_trans (known.same i mi (row.id.symm.trans same)) row
    · have := known.below
      omega
  present := by
    intro found
    obtain ⟨i, mi, same⟩ := known.present (couple_was_there evolves known.couple_below found)
    have couple := (known.same i mi same).couple
    obtain ⟨j, mj, row⟩ := evolves.invites_kept i mi (by rw [couple]; exact found)
    exact ⟨j, mj, row.id.trans same⟩

theorem joined_stable {coupleId userId : Nat} (joined : Joined s coupleId userId) :
    Joined t coupleId userId where
  below := Nat.lt_of_lt_of_le joined.below evolves.next_le
  member := by
    intro found
    obtain ⟨m, mm, couple, user⟩ := joined.member (couple_was_there evolves joined.below found)
    exact ⟨m, evolves.members_kept m mm (by rw [couple]; exact found), couple, user⟩

/-- Only the call that made the couple puts an invite on it, so nothing else can activate it. -/
theorem unused_stable {coupleId : Nat} (mine : FrameOk s f) (other : reserved f ≠ some coupleId)
    (unused : Unused s coupleId) : Unused t coupleId where
  below := Nat.lt_of_lt_of_le unused.below evolves.next_le
  no_invite := by
    intro j mj same
    rcases evolves.invites_from j mj with ⟨i, mi, row⟩ | ⟨_, own⟩
    · exact unused.no_invite i mi (row.couple.symm.trans same)
    · exact other (own.trans (congrArg some same))
  pending := by
    intro k mk same
    cases status : k.status with
    | pending => rfl
    | active =>
      rcases evolves.activated k mk status with ⟨c, mc, old, active⟩ | ⟨invite, user, rfl, on, can⟩
      · have was := unused.pending c mc (old.trans same)
        simp [was] at active
      · obtain ⟨i, mi, known_id⟩ := can.invite_found
        have couple := (mine.1.same i mi known_id).couple
        exact False.elim (unused.no_invite i mi (couple.trans (on.trans same)))

theorem frame_stable {g : Frame} (mine : FrameOk s f)
    (apart : ∀ coupleId, reserved g = some coupleId → reserved f ≠ some coupleId)
    (ok : FrameOk s g) : FrameOk t g := by
  cases g with
  | sendCreateInvite inviter invitee coupleId =>
    exact ⟨ok.1, unused_stable evolves mine (apart coupleId rfl) ok.2⟩
  | acceptCheckMine | acceptCheckInviter | acceptCommit =>
    exact ⟨known_stable evolves ok.1, ok.2⟩
  | declineUpdate | declineDelete | cancelUpdate | cancelDelete => exact known_stable evolves ok
  | breakUpPhotos | breakUpDelete => exact joined_stable evolves ok
  | _ => exact ok

end Stable

end CoupleFrames
