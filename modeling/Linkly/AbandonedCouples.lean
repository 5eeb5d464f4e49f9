import Linkly.CoupleCalls

/-!
The couples that complete calls leave behind. Each sendInvite call makes a couple for its invite.
declineInvite and cancelInvite delete that couple when they close the invite; the bulk updates by
which sendInvite and acceptInvite close invites do not.
-/
namespace AbandonedCouples
open CoupleStore CoupleService CoupleConsistency CoupleFrames CoupleRaces CoupleCalls KeyedRows
  TransitionRuns

def Awaited (s : Store) (coupleId : Nat) : Prop :=
  ∃ i ∈ s.invites, i.coupleId = coupleId ∧ i.status = .pending

instance (s : Store) (coupleId : Nat) : Decidable (Awaited s coupleId) :=
  inferInstanceAs (Decidable (∃ _ ∈ s.invites, _))

def NoneAbandoned (s : Store) : Prop :=
  ∀ c ∈ s.couples, (c.status = .active ∧ (s.members.filter (·.coupleId = c.id)).length = 2) ∨
    (c.status = .pending ∧ Awaited s c.id)

instance (s : Store) : Decidable (NoneAbandoned s) :=
  inferInstanceAs (Decidable (∀ _ ∈ s.couples, _))

def PendingAwaited (s : Store) : Prop :=
  ∀ c ∈ s.couples, c.status = .pending → Awaited s c.id

section Store
variable {s : Store}

theorem none_abandoned_iff (consistent : Consistent s) : NoneAbandoned s ↔ PendingAwaited s := by
  constructor
  · intro none_abandoned c mc pending
    rcases none_abandoned c mc with ⟨active, _⟩ | ⟨_, awaited⟩
    · simp [pending] at active
    · exact awaited
  · intro awaited c mc
    cases status : c.status with
    | pending => exact Or.inr ⟨rfl, awaited c mc status⟩
    | active =>
      obtain ⟨i, _, _, v, _, roles⟩ := consistent.paired.active_couple c mc status
      have two := congrArg List.length roles
      exact Or.inl ⟨rfl, by simpa [memberRoles] using two⟩

/-- The couple of a pending invite is pending, and no other invite is one of it. -/
theorem couple_of_pending (consistent : Consistent s) {i : CoupleInvite} (mi : i ∈ s.invites)
    (pending : i.status = .pending) : ∃ c ∈ s.couples, c.id = i.coupleId ∧ c.status = .pending := by
  obtain ⟨c, mc, same⟩ := consistent.keyed.invite_couple i mi
  exact ⟨c, mc, same, consistent.linked.pending_invite i mi pending c mc same⟩

theorem awaited_map_iff (consistent : Consistent s) {g : CoupleInvite → CoupleInvite}
    (retires : Retires g) {i : CoupleInvite} (mi : i ∈ s.invites) :
    Awaited (s.mapInvites g) i.coupleId ↔ (g i).status = .pending := by
  constructor
  · intro awaited
    obtain ⟨j, mj, couple, pending⟩ := awaited
    obtain ⟨old, mo, rfl⟩ := List.mem_map.mp mj
    rw [(retires.same old).couple] at couple
    rwa [← row_unique consistent.linked.own_couple mo mi couple]
  · intro pending
    exact ⟨g i, List.mem_map_of_mem mi, (retires.same i).couple, pending⟩

theorem awaited_map_invites (consistent : Consistent s) {g : CoupleInvite → CoupleInvite}
    (retires : Retires g) (awaited : PendingAwaited s) :
    PendingAwaited (s.mapInvites g) ↔
      ∀ i ∈ s.invites, i.status = .pending → (g i).status = .pending := by
  constructor
  · intro still i mi pending
    obtain ⟨c, mc, same, open_couple⟩ := couple_of_pending consistent mi pending
    have := still c mc open_couple
    rw [same] at this
    exact (awaited_map_iff consistent retires mi).mp this
  · intro kept c mc open_couple
    obtain ⟨i, mi, same, pending⟩ := awaited c mc open_couple
    rw [← same]
    exact (awaited_map_iff consistent retires mi).mpr (kept i mi pending)

theorem cancel_when_pending {test : CoupleInvite → Bool} {i : CoupleInvite}
    (pending : i.status = .pending) : (cancelWhen test i).status = .pending ↔ test i = false := by
  unfold cancelWhen
  cases test i <;> simp [pending]

theorem awaited_cancel_pending (consistent : Consistent s) (awaited : PendingAwaited s)
    (userId : Nat) :
    PendingAwaited (s.cancelPendingOf userId) ↔ s.pendingInvitesOf userId = [] := by
  unfold Store.cancelPendingOf
  rw [awaited_map_invites consistent (cancel_when_retires _) awaited, Store.pendingInvitesOf,
    List.filter_eq_nil_iff]
  refine forall₂_congr fun i _ => ?_
  constructor
  · intro kept both
    simp only [decide_eq_true_eq] at both
    have := (cancel_when_pending both.2).mp (kept both.2)
    simp [both.1] at this
  · intro other pending
    rw [cancel_when_pending pending]
    simpa [pending] using other

/-- The couple that sendInvite has just made waits for the invite. -/
theorem awaited_create_couple (consistent : Consistent s) (now : Nat) :
    ¬ PendingAwaited (s.createCouple now) := by
  intro awaited
  obtain ⟨i, mi, same, _⟩ := awaited ⟨s.nextId, .pending, none, now, now⟩
    (List.mem_append_right _ (List.mem_singleton_self _)) rfl
  have unused : Unused (s.createCouple now) s.nextId := unused_created consistent.keyed
  exact unused.no_invite i mi same

theorem awaited_create_invite {t : Store} {now : Nat} {row : CoupleInvite}
    (consistent : Consistent s) (couple : row.coupleId = s.nextId) (open_row : row.status = .pending)
    (done : (s.createCouple now).createInvite row = some t) :
    PendingAwaited t ↔ PendingAwaited s := by
  obtain ⟨_, rfl⟩ := create_invite_eq done
  constructor
  · intro still c mc pending
    obtain ⟨i, mi, same, open_invite⟩ := still c (List.mem_append_left _ mc) pending
    rcases List.mem_append.mp mi with old | new
    · exact ⟨i, old, same, open_invite⟩
    · rw [List.mem_singleton.mp new, couple] at same
      exact absurd same.symm (Nat.ne_of_lt (consistent.keyed.couple_below c mc))
  · intro awaited c mc pending
    rcases List.mem_append.mp mc with old | new
    · obtain ⟨i, mi, facts⟩ := awaited c old pending
      exact ⟨i, List.mem_append_left _ mi, facts⟩
    · rw [List.mem_singleton.mp new]
      exact ⟨row, List.mem_append_right _ (List.mem_singleton_self _), couple, open_row⟩

theorem awaited_delete_couple {t : Store} {id : Nat} (done : s.deleteCouple id = some t)
    (others : ∀ c ∈ s.couples, c.status = .pending → c.id ≠ id → Awaited s c.id) :
    PendingAwaited t := by
  obtain ⟨_, rfl⟩ := delete_couple_eq done
  intro c mc pending
  obtain ⟨old, left⟩ := List.mem_filter.mp mc
  obtain ⟨i, mi, same, open_invite⟩ := others c old pending (by simpa using left)
  exact ⟨i, List.mem_filter.mpr ⟨mi, by simpa [same] using left⟩, same, open_invite⟩

/-- What the transaction of acceptInvite does to a row of an invite. -/
def settle (invite : CoupleInvite) (userId now : Nat) (i : CoupleInvite) : CoupleInvite :=
  cancelWhen (fun i => i.id ≠ invite.id ∧ (i.Involves invite.inviterUserId ∨ i.Involves userId))
    (respond invite.id .accepted (some now) i)

theorem settle_retires (invite : CoupleInvite) (userId now : Nat) :
    Retires (settle invite userId now) := by
  have answer := respond_retires invite.id .accepted (some now) (by simp)
  have cancel := cancel_when_retires fun i : CoupleInvite =>
    i.id ≠ invite.id ∧ (i.Involves invite.inviterUserId ∨ i.Involves userId)
  exact ⟨fun i => same_invite_trans (answer.same i) (cancel.same _),
    fun i pending => answer.status i (cancel.status _ pending)⟩

theorem settle_pending {invite i : CoupleInvite} {userId now : Nat} (pending : i.status = .pending) :
    (settle invite userId now i).status = .pending ↔
      i.id ≠ invite.id ∧ ¬ (i.Involves invite.inviterUserId ∨ i.Involves userId) := by
  unfold settle respond
  split
  · rename_i same
    simp [cancelWhen, same]
  · rename_i other
    rw [cancel_when_pending pending]
    simp [other]

theorem accept_effect_eq (invite : CoupleInvite) (userId now : Nat) :
    acceptEffect s invite userId now =
      formPair (s.mapInvites (settle invite userId now)) invite.coupleId invite.inviterUserId
        userId now := by
  simp only [acceptEffect, Store.cancelOthers, formPair, Store.mapInvites, List.map_map]
  rfl

theorem awaited_form_pair {id inviter invitee now : Nat} :
    PendingAwaited (formPair s id inviter invitee now) ↔
      ∀ c ∈ s.couples, c.id ≠ id → c.status = .pending → Awaited s c.id := by
  constructor
  · intro awaited c mc other pending
    have := awaited (activate id now c) (List.mem_map_of_mem mc) (by simp [activate, other, pending])
    rwa [activate_id] at this
  · intro awaited d md pending
    obtain ⟨c, mc, rfl⟩ := List.mem_map.mp md
    obtain ⟨other, open_couple⟩ := activate_pending pending
    rw [activate_id]
    exact awaited c mc other open_couple

theorem awaited_accept (consistent : Consistent s) (awaited : PendingAwaited s)
    {invite : CoupleInvite} (mem : invite ∈ s.invites) (userId now : Nat) :
    PendingAwaited (acceptEffect s invite userId now) ↔
      ∀ i ∈ s.invites, i.status = .pending → i.id ≠ invite.id →
        ¬ (i.Involves invite.inviterUserId ∨ i.Involves userId) := by
  have retires := settle_retires invite userId now
  rw [accept_effect_eq, awaited_form_pair]
  constructor
  · intro still i mi pending other
    obtain ⟨c, mc, same, open_couple⟩ := couple_of_pending consistent mi pending
    have apart : c.id ≠ invite.coupleId := by
      intro here
      have := row_unique consistent.linked.own_couple mi mem (same.symm.trans here)
      exact other (congrArg CoupleInvite.id this)
    have := still c mc apart open_couple
    rw [same] at this
    exact ((settle_pending pending).mp ((awaited_map_iff consistent retires mi).mp this)).2
  · intro apart c mc other pending
    obtain ⟨i, mi, same, open_invite⟩ := awaited c mc pending
    have different : i.id ≠ invite.id := by
      intro here
      have := row_unique consistent.keyed.invite_key mi mem here
      exact other (same.symm.trans (congrArg CoupleInvite.coupleId this))
    rw [← same]
    exact (awaited_map_iff consistent retires mi).mpr
      ((settle_pending open_invite).mpr ⟨different, apart i mi open_invite different⟩)

end Store

/-- The operations that close an invite leave no couple of it behind. -/
def CleansUp (s : Store) (e : Call × (Frame → Attempt)) : Prop :=
  match e.1 with
  | .sendInvite userId inviteeEmail => ∀ inviter invitee,
      SendPasses e.2 s userId inviteeEmail inviter invitee →
        s.pendingInvitesOf inviter.id = [] ∧
        ((e.2 (.sendCreateCouple inviter invitee)).fails = true ∨
          MakesInvite e.2 s inviter invitee)
  | .acceptInvite inviteId userId => ∀ invite, AcceptPasses e.2 s inviteId userId invite →
      ∀ i ∈ s.invites, i.status = .pending → i.id ≠ invite.id →
        ¬ (i.Involves invite.inviterUserId ∨ i.Involves userId)
  | .declineInvite inviteId userId => ∀ invite, DeclinePasses e.2 s inviteId userId invite →
      (e.2 (.declineDelete invite)).fails = false
  | .cancelInvite userId => ∀ invite, CancelPasses e.2 s userId invite →
      (e.2 (.cancelDelete invite)).fails = false
  | .breakUp .. => True

section Calls
variable {attempts : Frame → Attempt} {s : Store}

/-- The last two statements of sendInvite make the couple and the invite, or leave a couple. -/
theorem finish_send_awaited (consistent : Consistent s) (inviter invitee : User) :
    PendingAwaited (finish attempts 2 s (.sendCreateCouple inviter invitee)).1 ↔
      PendingAwaited s ∧ ((attempts (.sendCreateCouple inviter invitee)).fails = true ∨
        MakesInvite attempts s inviter invitee) := by
  have ends := finish_send_ends attempts s inviter invitee
  generalize finish attempts 2 s (.sendCreateCouple inviter invitee) = result at ends
  cases ends with
  | noCouple failed => simp [failed]
  | @noInvite now served failed => simp [served, failed, awaited_create_couple consistent now]
  | made served makes done => simp [makes, awaited_create_invite consistent rfl rfl done]

/-- declineInvite and cancelInvite once they have closed the invite. -/
theorem clean_up_awaited (consistent : Consistent s) (awaited : PendingAwaited s)
    {invite : CoupleInvite} (mem : invite ∈ s.invites) (pending : invite.status = .pending)
    {status : InviteStatus} (closed : status ≠ .pending) (respondedAt : Option Nat) (a : Attempt) :
    PendingAwaited (cleanUp a invite (s.mapInvites (respond invite.id status respondedAt))) ↔
      a.fails = false := by
  have retires := respond_retires invite.id status respondedAt closed
  cases failing : a.fails with
  | true =>
    rw [cleanUp, if_pos failing, awaited_map_invites consistent retires awaited]
    simp only [Bool.true_eq_false, iff_false]
    intro kept
    have := kept invite mem pending
    simp [respond, closed] at this
  | false =>
    obtain ⟨c, mc, same, _⟩ := couple_of_pending consistent mem pending
    have done : ∃ t, (s.mapInvites (respond invite.id status respondedAt)).deleteCouple
        invite.coupleId = some t := by
      unfold Store.deleteCouple
      exact ⟨_, if_pos (by simpa [Store.mapInvites] using ⟨c, mc, same⟩)⟩
    obtain ⟨t, done⟩ := done
    rw [cleanUp, if_neg (by simp [failing]), done, Option.getD_some]
    simp only [iff_true]
    refine awaited_delete_couple done fun d md open_couple other => ?_
    obtain ⟨i, mi, own, open_invite⟩ := awaited d md open_couple
    have different : i.id ≠ invite.id := by
      intro here
      rw [row_unique consistent.keyed.invite_key mi mem here] at own
      exact other own.symm
    rw [← own]
    exact (awaited_map_iff consistent retires mi).mpr (by simpa [respond, different])

theorem can_pair_of_checks (consistent : Consistent s) {inviteId userId : Nat}
    {invite : CoupleInvite} (passes : AcceptPasses attempts s inviteId userId invite) :
    CanPair s invite userId := by
  obtain ⟨mem, received, _⟩ := check_received_ok passes.checked
  obtain ⟨v, to_v, distinct⟩ := consistent.paired.parties invite mem
  obtain rfl := Option.some.inj (to_v.symm.trans received)
  exact ⟨⟨invite, mem, rfl⟩, consistent.keyed.invite_couple invite mem,
    member_by_user_none passes.inviter_free, member_by_user_none passes.invitee_free, distinct.symm⟩

def BreakingUp (f : Frame) : Prop :=
  ∃ coupleId userId, f = .breakUpCheck coupleId userId ∨ f = .breakUpPhotos coupleId userId ∨
    f = .breakUpDelete coupleId userId

theorem exec_break_up_awaited {choice : Choice} {f : Frame} (breaking : BreakingUp f)
    (awaited : PendingAwaited s) : PendingAwaited (exec choice s f).1 := by
  obtain ⟨coupleId, userId, rfl | rfl | rfl⟩ := breaking
  · rwa [exec_reads rfl]
  · rwa [exec_reads rfl]
  · simp only [exec]
    split
    · exact awaited
    · rename_i t done
      exact awaited_delete_couple done fun c mc pending _ => awaited c mc pending

theorem break_up_awaited {coupleId userId : Nat} (awaited : PendingAwaited s) :
    PendingAwaited (complete attempts s (.breakUp coupleId userId)).1 := by
  refine finish_keeps (fun s f => PendingAwaited s ∧ BreakingUp f) (fun _ _ holds => holds.1) ?_
    (fun _ _ _ holds => exec_break_up_awaited holds.2 holds.1)
    ⟨awaited, coupleId, userId, Or.inl rfl⟩
  intro choice s f g holds next
  refine ⟨exec_break_up_awaited holds.2 holds.1, ?_⟩
  obtain ⟨coupleId, userId, rfl | rfl | rfl⟩ := holds.2
  · cases next
    exact ⟨coupleId, userId, Or.inr (Or.inl rfl)⟩
  · cases next
    exact ⟨coupleId, userId, Or.inr (Or.inr rfl)⟩
  · cases next

theorem complete_cleans_up (consistent : Consistent s) (awaited : PendingAwaited s) (c : Call) :
    PendingAwaited (complete attempts s c).1 ↔ CleansUp s (c, attempts) := by
  have stopped : (∃ o, complete attempts s c = (s, o)) →
      PendingAwaited (complete attempts s c).1 := by
    intro stop
    obtain ⟨o, stop⟩ := stop
    rwa [stop]
  cases c with
  | sendInvite userId inviteeEmail =>
    refine Iff.trans (iff_of_passes (P := fun p => SendPasses attempts s userId inviteeEmail p.1 p.2)
      (G := fun p : User × User => s.pendingInvitesOf p.1.id = [] ∧
        ((attempts (.sendCreateCouple p.1 p.2)).fails = true ∨ MakesInvite attempts s p.1 p.2))
      (fun none => stopped (complete_send_cases.resolve_right ?_)) ?_) Prod.forall
    · rintro ⟨inviter, invitee, passes⟩
      exact none ⟨(inviter, invitee), passes⟩
    · rintro ⟨inviter, invitee⟩ passes
      have canceled : Consistent (s.cancelPendingOf inviter.id) :=
        consistent_map_invites (cancel_when_retires _) consistent
      rw [complete_send_passes passes, finish_send_awaited canceled, makes_invite_cancel,
        awaited_cancel_pending consistent awaited]
  | acceptInvite inviteId userId =>
    refine iff_of_passes (fun none => stopped (complete_accept_cases.resolve_right none)) ?_
    intro invite passes
    rw [complete_accept_passes passes]
    simp only [exec, accept_transaction_some (can_pair_of_checks consistent passes)]
    exact awaited_accept consistent awaited (check_received_ok passes.checked).1 userId _
  | declineInvite inviteId userId =>
    refine iff_of_passes (fun none => stopped (complete_decline_cases.resolve_right none)) ?_
    intro invite passes
    obtain ⟨mem, _, pending⟩ := check_received_ok passes.checked
    rw [complete_decline_passes passes]
    exact clean_up_awaited consistent awaited mem pending (by simp) _ _
  | cancelInvite userId =>
    refine iff_of_passes (fun none => stopped (complete_cancel_cases.resolve_right none)) ?_
    intro invite passes
    obtain ⟨mem, _, pending⟩ := find_first_pending passes.found
    rw [complete_cancel_passes passes]
    exact clean_up_awaited consistent awaited mem pending (by simp) _ _
  | breakUp coupleId userId =>
    simp only [CleansUp, iff_true]
    exact break_up_awaited awaited

end Calls

/-- From an empty store, the couples are all accounted for exactly as long as each call that closes
    an invite cleans up after it. -/
theorem none_abandoned_iff_calls_clean_up (users : List User)
    (es : List (Call × (Frame → Attempt))) :
    EveryState serve NoneAbandoned (Store.empty users) es ↔
      EachStep serve CleansUp (Store.empty users) es := by
  refine every_state_iff_each_step Consistent (fun e _ s t served => serve_consistent served) ?_
    (consistent_empty users) (by simp [NoneAbandoned, Store.empty])
  intro e _ s t served consistent none_abandoned
  rw [none_abandoned_iff (serve_consistent served consistent)]
  cases served
  exact complete_cleans_up consistent ((none_abandoned_iff consistent).mp none_abandoned) e.1

/-- User 1 invites user 2 twice. -/
theorem second_invite_abandons_couple : ¬ ∀ users es,
    EveryState serve NoneAbandoned (Store.empty users) es := by
  intro every
  have reached : run serve (Store.empty twoUsers) [(.sendInvite 1 "two@example.com", smoothly "a"),
      (.sendInvite 1 "two@example.com", smoothly "b")] = some _ := rfl
  exact absurd (every_state_last reached (every _ _)) (by decide)

end AbandonedCouples
