import Linkly.CoupleCalls

/-!
The invites of a user who has found a partner. Calls that run one after another never leave a
pending invite from or to a member of a couple: sendInvite sends none, and acceptInvite cancels
whatever else its two users have sent or been sent.
-/
namespace InviteCleanup
open CoupleStore CoupleService CoupleConsistency CoupleFrames CoupleRaces CoupleCalls KeyedRows
  TransitionRuns

def MembersUncourted (s : Store) : Prop :=
  ∀ m ∈ s.members, ∀ i ∈ s.invites, i.status = .pending → ¬ i.Involves m.userId

def Unmarried (s : Store) (userId : Nat) : Prop := ∀ m ∈ s.members, m.userId ≠ userId

/-- What a sendInvite call has checked so far still holds, as no other call runs. -/
def Checked (s : Store) : Frame → Prop
  | .sendCheckTheirs inviter _ => Unmarried s inviter.id
  | .sendCancelPending inviter invitee => Unmarried s inviter.id ∧ Unmarried s invitee.id
  | .sendCreateCouple inviter invitee => Unmarried s inviter.id ∧ Unmarried s invitee.id
  | .sendCreateInvite inviter invitee _ => Unmarried s inviter.id ∧ Unmarried s invitee.id
  | _ => True

section Courting
variable {s t : Store}

theorem involves_same {i j : CoupleInvite} (row : SameInvite i j) (userId : Nat) :
    j.Involves userId ↔ i.Involves userId := by
  simp [CoupleInvite.Involves, row.inviter, row.invitee]

theorem uncourted_map_invites {g : CoupleInvite → CoupleInvite} (retires : Retires g)
    (uncourted : MembersUncourted s) : MembersUncourted (s.mapInvites g) := by
  intro m mm j mj pending involved
  obtain ⟨i, mi, rfl⟩ := List.mem_map.mp mj
  rw [involves_same (retires.same i)] at involved
  exact uncourted m mm i mi (retires.status i pending) involved

theorem uncourted_create_invite {row : CoupleInvite} (done : s.createInvite row = some t)
    (apart : ∀ m ∈ s.members, ¬ row.Involves m.userId) (uncourted : MembersUncourted s) :
    MembersUncourted t := by
  obtain ⟨_, rfl⟩ := create_invite_eq done
  intro m mm i mi pending
  rcases List.mem_append.mp mi with old | new
  · exact uncourted m mm i old pending
  · rw [List.mem_singleton.mp new]
    exact apart m mm

/-- A pending invite that is left involves neither of the two, as a member or as a new one. -/
theorem uncourted_accept {invite : CoupleInvite} {userId now : Nat}
    (uncourted : MembersUncourted s) : MembersUncourted (acceptEffect s invite userId now) := by
  intro m mm j mj pending involved
  obtain ⟨i, mi, rfl⟩ := List.mem_map.mp mj
  obtain ⟨old, mo, rfl⟩ := List.mem_map.mp mi
  have answer := respond_retires invite.id .accepted (some now) (by simp)
  have cancel := cancel_when_retires fun i : CoupleInvite =>
    i.id ≠ invite.id ∧ (i.Involves invite.inviterUserId ∨ i.Involves userId)
  have open_still := cancel.status _ pending
  rw [involves_same (cancel.same _), involves_same (answer.same _)] at involved
  rcases List.mem_append.mp mm with before | new
  · exact uncourted m before old mo (answer.status old open_still) involved
  · have party : old.Involves invite.inviterUserId ∨ old.Involves userId := by
      simp only [List.mem_cons, List.not_mem_nil, or_false] at new
      rcases new with rfl | rfl
      · exact Or.inl involved
      · exact Or.inr involved
    by_cases accepted : old.id = invite.id
    · simp [respond, accepted] at open_still
    · rw [respond, if_neg accepted] at pending open_still
      simp [cancelWhen, accepted, party, open_still] at pending

theorem uncourted_delete_couple {id : Nat} (done : s.deleteCouple id = some t)
    (uncourted : MembersUncourted s) : MembersUncourted t := by
  obtain ⟨_, rfl⟩ := delete_couple_eq done
  intro m mm i mi
  exact uncourted m (List.mem_filter.mp mm).1 i (List.mem_filter.mp mi).1

theorem uncourted_write {f : Frame} (write : Write f s t) (checked : Checked s f)
    (uncourted : MembersUncourted s) : MembersUncourted t := by
  cases write with
  | unchanged => exact uncourted
  | retired retires => exact uncourted_map_invites retires uncourted
  | newCouple => exact uncourted
  | newInvite frame done =>
    subst frame
    refine uncourted_create_invite done ?_ uncourted
    intro m mm involved
    rcases involved with mine | theirs
    · exact checked.1 m mm mine.symm
    · exact checked.2 m mm (Option.some.inj theirs).symm
  | accepted frame can => exact uncourted_accept uncourted
  | deleted frame done => exact uncourted_delete_couple done uncourted

theorem next_checked {choice : Choice} {f g : Frame} (checked : Checked s f)
    (next : Next choice s f g) : Checked (exec choice s f).1 g := by
  cases next with
  | sendCheckMine free =>
    rw [exec_reads rfl]
    exact member_by_user_none free
  | sendCheckTheirs free =>
    rw [exec_reads rfl]
    exact ⟨checked, member_by_user_none free⟩
  | sendCancelPending | sendCreateCouple => exact checked
  | _ => trivial

theorem complete_uncourted {attempts : Frame → Attempt} {c : Call}
    (uncourted : MembersUncourted s) : MembersUncourted (complete attempts s c).1 := by
  refine finish_keeps (fun s f => MembersUncourted s ∧ Checked s f)
    (fun _ _ holds => holds.1) ?_ ?_ ⟨uncourted, by cases c <;> trivial⟩
  · intro choice s f g holds next
    exact ⟨uncourted_write (exec_write choice s f) holds.2 holds.1, next_checked holds.2 next⟩
  · intro choice s f holds
    exact uncourted_write (exec_write choice s f) holds.2 holds.1

end Courting

/-- Whatever calls are made and whichever of their statements the database rejects. -/
theorem members_have_no_pending_invites (users : List User)
    (es : List (Call × (Frame → Attempt))) :
    EveryState serve MembersUncourted (Store.empty users) es := by
  refine every_state_of_keeps ?_ (by simp [MembersUncourted, Store.empty])
  intro s e t served uncourted
  cases served
  exact complete_uncourted uncourted

end InviteCleanup
