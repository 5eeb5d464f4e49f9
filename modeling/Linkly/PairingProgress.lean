import Linkly.CoupleCalls

/-!
Two users who are in no couple can always form one. Whatever calls have run before or stand open
between two of their statements, an invite of the one and its acceptance by the other go through
when nothing comes between their own statements.
-/
namespace PairingProgress
open CoupleStore CoupleService CoupleConsistency CoupleFrames CoupleRaces CoupleCalls KeyedRows
  TransitionRuns

/-- The two have a couple of their own, and nobody courts either of them any more. -/
structure NewCouple (s t : Store) (inviter invitee coupleId : Nat) : Prop where
  active : ∃ c ∈ t.couples, c.id = coupleId ∧ c.status = .active
  roles : memberRoles t coupleId = [(inviter, .owner), (invitee, .member)]
  others : ∃ pair, t.members = s.members ++ pair ∧ pair.map CoupleMember.userId = [inviter, invitee]
  uncourted : ∀ i ∈ t.invites, i.status = .pending → ¬ i.Involves inviter ∧ ¬ i.Involves invitee

section Acceptance
variable {s : Store} {invite : CoupleInvite} {userId now : Nat}

/-- A pending invite that an acceptance leaves has nothing to do with its two users. -/
theorem pending_after_accept {j : CoupleInvite}
    (mem : j ∈ (acceptEffect s invite userId now).invites) (pending : j.status = .pending) :
    ¬ j.Involves invite.inviterUserId ∧ ¬ j.Involves userId := by
  obtain ⟨i, mi, rfl⟩ := List.mem_map.mp mem
  obtain ⟨old, mo, rfl⟩ := List.mem_map.mp mi
  have cancel := cancel_when_retires fun i : CoupleInvite =>
    i.id ≠ invite.id ∧ (i.Involves invite.inviterUserId ∨ i.Involves userId)
  have open_still := cancel.status _ pending
  have other : (respond invite.id .accepted (some now) old).id ≠ invite.id := by
    intro same
    unfold respond at same open_still
    split_ifs at same open_still with here
    exact here same
  have apart : ¬ ((respond invite.id .accepted (some now) old).Involves invite.inviterUserId ∨
      (respond invite.id .accepted (some now) old).Involves userId) := by
    intro party
    rw [cancelWhen, if_pos ⟨by simpa using ⟨other, party⟩, open_still⟩] at pending
    simp at pending
  rw [cancelWhen, if_neg (by simp [apart])]
  exact not_or.mp apart

theorem accept_couples : (acceptEffect s invite userId now).couples =
    s.couples.map (activate invite.coupleId now) := rfl

theorem accept_members : (acceptEffect s invite userId now).members =
    s.members ++ [⟨s.nextId, invite.coupleId, invite.inviterUserId, none, .owner⟩,
      ⟨s.nextId + 1, invite.coupleId, userId, none, .member⟩] := rfl

theorem new_couple_of_accept (can : CanPair s invite userId)
    (empty : ∀ m ∈ s.members, m.coupleId ≠ invite.coupleId) (now : Nat) :
    NewCouple s (acceptEffect s invite userId now) invite.inviterUserId userId invite.coupleId where
  active := by
    obtain ⟨c, mc, same⟩ := can.couple_found
    rw [accept_couples]
    exact ⟨activate invite.coupleId now c, List.mem_map_of_mem mc, by rw [activate_id, same],
      by simp [activate, same]⟩
  roles := by
    have nobody := member_roles_empty invite.coupleId empty
    unfold memberRoles at nobody ⊢
    rw [accept_members, List.filter_append, List.map_append, nobody]
    simp
  others := ⟨_, accept_members, rfl⟩
  uncourted := fun _ mem pending => pending_after_accept mem pending

end Acceptance

/-- The row of a new invite, and what an acceptance of it needs, stand in the table. -/
theorem invite_can_pair {s t : Store} {row : CoupleInvite} {inviter invitee : Nat}
    (keyed : Keyed s) (done : s.createInvite row = some t) (fresh : row.id = s.nextId)
    (sender : row.inviterUserId = inviter) (receiver : row.inviteeUserId = some invitee)
    (pending : row.status = .pending) (inviter_free : ∀ m ∈ s.members, m.userId ≠ inviter)
    (invitee_free : ∀ m ∈ s.members, m.userId ≠ invitee) (different : inviter ≠ invitee) :
    checkReceived t row.id invitee = .ok row ∧ CanPair t row invitee := by
  obtain ⟨couple, rfl⟩ := create_invite_eq done
  have found : ({ s with invites := s.invites ++ [row], nextId := s.nextId + 1 } : Store).inviteById
      row.id = some row := by
    have absent : s.invites.find? (·.id = row.id) = none := by
      rw [List.find?_eq_none]
      intro i mi
      have := keyed.invite_below i mi
      simp only [decide_eq_true_eq]
      omega
    simp [Store.inviteById, List.find?_append, absent]
  constructor
  · simp [checkReceived, found, receiver, pending]
  · exact ⟨⟨row, List.mem_append_right _ (List.mem_singleton_self _), rfl⟩, couple,
      by rw [sender]; exact inviter_free, invitee_free, by rw [sender]; exact different⟩

theorem member_by_user_free {s : Store} {userId : Nat} (free : ∀ m ∈ s.members, m.userId ≠ userId) :
    s.memberByUser userId = none := by
  unfold Store.memberByUser
  rw [List.find?_eq_none]
  intro m mem
  simpa using free m mem

theorem accept_completes {s : Store} {row : CoupleInvite} {userId : Nat}
    {attempts : Frame → Attempt} (checked : checkReceived s row.id userId = .ok row)
    (can : CanPair s row userId) (served : ∀ f, (attempts f).fails = false) :
    ∃ now, complete attempts s (.acceptInvite row.id userId) =
      (acceptEffect s row userId now, .returned (.couple row.coupleId)) := by
  refine ⟨(attempts (.acceptCommit row userId)).choice.now, ?_⟩
  rw [complete_accept_passes ⟨checked, member_by_user_free can.invitee_free,
    member_by_user_free can.inviter_free, fun f _ => served f⟩]
  simp only [exec, accept_transaction_some can]

theorem pair_of_consistent {s : Store} (consistent : Consistent s) {inviter invitee : User}
    {email : String} (inviter_found : s.userById inviter.id = some inviter)
    (invitee_found : s.userByEmail email = some invitee) (different : invitee.id ≠ inviter.id)
    (inviter_free : s.memberByUser inviter.id = none)
    (invitee_free : s.memberByUser invitee.id = none) {sends accepts : Frame → Attempt}
    (sends_served : ∀ f, (sends f).fails = false)
    (accepts_served : ∀ f, (accepts f).fails = false)
    (new_code : ∀ f, ∀ i ∈ s.invites, i.code ≠ (sends f).choice.code) :
    ∃ invite t z,
      complete sends s (.sendInvite inviter.id email) = (t, .returned (.invite invite)) ∧
      complete accepts t (.acceptInvite invite.id invitee.id) =
        (z, .returned (.couple invite.coupleId)) ∧
      NewCouple s z inviter.id invitee.id invite.coupleId := by
  have mine := member_by_user_none inviter_free
  have theirs := member_by_user_none invitee_free
  have passes : SendPasses sends s inviter.id email inviter invitee :=
    ⟨inviter_found, invitee_found, different, inviter_free, invitee_free, fun f _ => sends_served f⟩
  have ends := finish_send_ends sends (s.cancelPendingOf inviter.id) inviter invitee
  rw [← complete_send_passes passes] at ends
  generalize complete sends s (.sendInvite inviter.id email) = sent at ends
  cases ends with
  | noCouple failed => simp [sends_served] at failed
  | noInvite _ failed =>
    exact absurd (makes_invite_cancel.mpr ⟨sends_served _, new_code _⟩) failed
  | @made now choice t _ _ done =>
    have cancelled := consistent_map_invites (cancel_when_retires fun i =>
      i.inviterUserId = inviter.id) consistent
    have keyed : Keyed ((s.cancelPendingOf inviter.id).createCouple now) :=
      keyed_create_couple cancelled.keyed
    obtain ⟨checked, can⟩ := invite_can_pair keyed done rfl rfl rfl rfl mine theirs different.symm
    have members : t.members = s.members := by
      rw [(create_invite_eq done).2]
      rfl
    have empty : ∀ m ∈ t.members, m.coupleId ≠ s.nextId := by
      intro m mem
      rw [members] at mem
      obtain ⟨c, mc, same⟩ := consistent.keyed.member_couple m mem
      have := consistent.keyed.couple_below c mc
      omega
    obtain ⟨later, accepted⟩ := accept_completes checked can accepts_served
    have formed := new_couple_of_accept can empty later
    exact ⟨_, t, _, rfl, accepted, { formed with others := members ▸ formed.others }⟩

/-- In any state that calls in any interleaving have reached, open calls included. The invited user
    is one with an e-mail, which sendInvite looks up. -/
theorem free_users_can_pair {users : List User} {es : List Event} {y : System}
    (reached : run step (initial (Store.empty users)) es = some y) {inviter invitee : User}
    {email : String} (inviter_found : y.store.userById inviter.id = some inviter)
    (invitee_found : y.store.userByEmail email = some invitee)
    (different : invitee.id ≠ inviter.id) (inviter_free : y.store.memberByUser inviter.id = none)
    (invitee_free : y.store.memberByUser invitee.id = none) {sends accepts : Frame → Attempt}
    (sends_served : ∀ f, (sends f).fails = false)
    (accepts_served : ∀ f, (accepts f).fails = false)
    (new_code : ∀ f, ∀ i ∈ y.store.invites, i.code ≠ (sends f).choice.code) :
    ∃ invite t z,
      complete sends y.store (.sendInvite inviter.id email) = (t, .returned (.invite invite)) ∧
      complete accepts t (.acceptInvite invite.id invitee.id) =
        (z, .returned (.couple invite.coupleId)) ∧
      NewCouple y.store z inviter.id invitee.id invite.coupleId := by
  have start := consistent_empty users
  obtain ⟨ok, paired⟩ := run_consistent reached (initial_ok start.keyed start.linked) start.paired
  exact pair_of_consistent ⟨ok.keyed, ok.linked, paired⟩ inviter_found invitee_found different
    inviter_free invitee_free sends_served accepts_served new_code

/-- User 1 has been declined by user 2, whose call has not deleted the couple yet. -/
def declinedEvents : List Event :=
  inviteEvents ++ .call (.declineInvite 1 2) :: List.replicate 2 (.statement 0 (answer 0))

def firstUser : User := ⟨1, some "one@example.com", "one", none, none⟩

def secondUser : User := ⟨2, some "two@example.com", "two", none, none⟩

theorem declined_user_can_pair : ∃ y, run step (initial (Store.empty twoUsers)) declinedEvents =
      some y ∧ y.calls ≠ [] ∧ ∃ invite t z,
        complete (smoothly "new") y.store (.sendInvite secondUser.id "one@example.com") =
          (t, .returned (.invite invite)) ∧
        complete (smoothly "") t (.acceptInvite invite.id firstUser.id) =
          (z, .returned (.couple invite.coupleId)) ∧
        NewCouple y.store z secondUser.id firstUser.id invite.coupleId := by
  obtain ⟨y, reached, standing, found, other_found, free, other_free, codes⟩ :
      ∃ y, run step (initial (Store.empty twoUsers)) declinedEvents = some y ∧ y.calls ≠ [] ∧
        y.store.userById secondUser.id = some secondUser ∧
        y.store.userByEmail "one@example.com" = some firstUser ∧
        y.store.memberByUser secondUser.id = none ∧ y.store.memberByUser firstUser.id = none ∧
        ∀ i ∈ y.store.invites, i.code ≠ "new" :=
    ⟨_, rfl, by decide, by decide, by decide, by decide, by decide, by decide⟩
  exact ⟨y, reached, standing, free_users_can_pair reached found other_found (by decide) free
    other_free (fun _ => rfl) (fun _ => rfl) fun _ => codes⟩

end PairingProgress
