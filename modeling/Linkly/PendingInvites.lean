import Linkly.CoupleRaces

/-!
One pending invite for each sender. sendInvite cancels the sender's pending invites and creates the
new one two statements later. As long as no other sendInvite call of the same user stands between
these statements when one cancels, a user never has two pending invites.
-/
namespace PendingInvites
open CoupleStore CoupleService CoupleConsistency CoupleFrames CoupleRaces TransitionRuns

def OnePending (s : Store) : Prop := ∀ userId, (s.pendingInvitesOf userId).length ≤ 1

/-- The user whose pending invites a sendInvite call has canceled, before it creates the new one. -/
def sending : Frame → Option Nat
  | .sendCreateCouple inviter _ | .sendCreateInvite inviter _ _ => some inviter.id
  | _ => none

/-- When a sendInvite call cancels, no other one of the same user is about to create. -/
def SendsApart (y : System) : Event → Prop
  | .call _ => True
  | .statement index _ =>
    match y.calls[index]? with
    | some (.sendCancelPending inviter _) => inviter.id ∉ y.calls.filterMap sending
    | _ => True

/-- The user whose pending invites the event cancels. -/
def canceling (y : System) : Event → Option Nat
  | .call _ => none
  | .statement index _ =>
    match y.calls[index]? with
    | some (.sendCancelPending inviter _) => some inviter.id
    | _ => none

theorem sends_apart_iff {y : System} {e : Event} :
    (∀ id ∈ canceling y e, id ∉ y.calls.filterMap sending) ↔ SendsApart y e := by
  cases e with
  | call c => simp [canceling, SendsApart]
  | statement index choice =>
    dsimp only [canceling, SendsApart]
    rcases y.calls[index]? with _ | f
    · simp
    · cases f <;> simp

instance (y : System) (e : Event) : Decidable (SendsApart y e) :=
  decidable_of_iff _ sends_apart_iff

section Counts
variable {s : Store} {userId : Nat}

/-- The pending invites of a user and its calls that are about to create one. -/
def weight (s : Store) (calls : List Frame) (userId : Nat) : Nat :=
  (s.pendingInvitesOf userId).length + (calls.filterMap sending).count userId

theorem pending_map_invites {f : CoupleInvite → CoupleInvite} (retires : Retires f) :
    ((s.mapInvites f).pendingInvitesOf userId).length ≤ (s.pendingInvitesOf userId).length := by
  have fewer : ∀ rows : List CoupleInvite,
      ((rows.map f).filter fun i => i.inviterUserId = userId ∧ i.status = .pending).length ≤
        (rows.filter fun i => i.inviterUserId = userId ∧ i.status = .pending).length := by
    intro rows
    induction rows with
    | nil => exact Nat.le_refl _
    | cons i rows ih =>
      by_cases after : (f i).inviterUserId = userId ∧ (f i).status = .pending
      · have before : i.inviterUserId = userId ∧ i.status = .pending :=
          ⟨(retires.same i).inviter.symm.trans after.1, retires.status i after.2⟩
        simp only [List.map_cons, List.filter_cons, after, before, and_self, decide_true,
          ↓reduceIte, List.length_cons]
        omega
      · simp only [List.map_cons, List.filter_cons, after, decide_false, Bool.false_eq_true,
          ↓reduceIte]
        split
        · exact Nat.le_succ_of_le ih
        · exact ih
  exact fewer s.invites

theorem pending_after_cancel : (s.cancelPendingOf userId).pendingInvitesOf userId = [] := by
  rw [Store.pendingInvitesOf, List.filter_eq_nil_iff]
  intro j mem
  obtain ⟨i, mi, rfl⟩ := List.mem_map.mp mem
  unfold cancelWhen
  split_ifs with cancels
  · simp
  · simpa using cancels

theorem pending_create_invite {row : CoupleInvite} {t : Store}
    (done : s.createInvite row = some t) : (t.pendingInvitesOf userId).length ≤
      (s.pendingInvitesOf userId).length + [row.inviterUserId].count userId := by
  obtain ⟨_, rfl⟩ := create_invite_eq done
  simp only [Store.pendingInvitesOf, List.filter_append, List.length_append,
    List.count_singleton, beq_iff_eq]
  by_cases own : row.inviterUserId = userId
  · simp only [own, ↓reduceIte, Nat.add_le_add_iff_left]
    exact List.length_filter_le _ _
  · simp [own]

theorem pending_delete_couple {id : Nat} {t : Store} (done : s.deleteCouple id = some t) :
    (t.pendingInvitesOf userId).length ≤ (s.pendingInvitesOf userId).length := by
  obtain ⟨_, rfl⟩ := delete_couple_eq done
  exact (List.filter_sublist.filter _).length_le

theorem pending_accept {invite : CoupleInvite} {inviteeId now : Nat} :
    ((acceptEffect s invite inviteeId now).pendingInvitesOf userId).length ≤
      (s.pendingInvitesOf userId).length := by
  have answered : ((s.mapInvites (respond invite.id .accepted (some now))).pendingInvitesOf
      userId).length ≤ (s.pendingInvitesOf userId).length :=
    pending_map_invites (respond_retires invite.id .accepted (some now) (by simp))
  exact Nat.le_trans (pending_map_invites (cancel_when_retires _)) answered

variable (userId) in
theorem pending_write {f : Frame} {t : Store} (write : Write f s t) :
    (t.pendingInvitesOf userId).length ≤ weight s [f] userId := by
  cases write with
  | unchanged | newCouple => exact Nat.le_add_right _ _
  | retired retires => exact Nat.le_add_right_of_le (pending_map_invites retires)
  | newInvite frame done =>
    subst frame
    exact pending_create_invite done
  | accepted frame can => exact Nat.le_add_right_of_le pending_accept
  | deleted frame done => exact Nat.le_add_right_of_le (pending_delete_couple done)

/-- Only a cancellation of the user's own invites lets a call of the user go on to create. -/
theorem weight_exec (choice : Choice) (s : Store) {f : Frame} {userId : Nat}
    (other : ∀ inviter invitee, f = .sendCancelPending inviter invitee → inviter.id ≠ userId) :
    weight (exec choice s f).1 (exec choice s f).2.frames userId ≤ weight s [f] userId := by
  have pending := pending_write userId (exec_write choice s f)
  cases outcome : (exec choice s f).2 with
  | returned result | rejected error => simpa [weight, Outcome.frames] using pending
  | next g =>
    cases exec_next outcome with
    | sendCancelPending =>
      have differs := other _ _ rfl
      simpa [weight, Outcome.frames, sending, differs] using pending
    | sendCreateCouple => exact Nat.le_refl _
    | _ => simpa [weight, Outcome.frames, List.filterMap_cons, sending] using pending

end Counts

/-- A user with a pending invite is not about to create one, and has only this one. -/
def SingleSend (y : System) : Prop := ∀ userId, weight y.store y.calls userId ≤ 1

theorem weight_append (s : Store) (calls more : List Frame) (userId : Nat) :
    weight s (calls ++ more) userId =
      weight s calls userId + (more.filterMap sending).count userId := by
  simp only [weight, List.filterMap_append, List.count_append]
  omega

theorem step_single_send {y z : System} {e : Event} (moved : step y e = some z)
    (apart : SendsApart y e) (single : SingleSend y) : SingleSend z := by
  intro userId
  have before := single userId
  cases e with
  | call c =>
    obtain rfl := Option.some.inj moved
    cases c <;> simpa [weight, entry, List.filterMap_cons, sending] using before
  | statement index choice =>
    obtain ⟨f, at_index, rfl⟩ := statement_iff.mp moved
    have split_calls : weight y.store y.calls userId = weight y.store [f] userId +
        ((y.calls.eraseIdx index).filterMap sending).count userId := by
      rw [← weight_append, weight, weight,
        ((calls_perm at_index).filterMap sending).count_eq, List.singleton_append]
    simp only [weight_append]
    by_cases cancels : ∃ inviter invitee, f = .sendCancelPending inviter invitee ∧
        inviter.id = userId
    · obtain ⟨inviter, invitee, rfl, rfl⟩ := cancels
      simp only [SendsApart, at_index] at apart
      have nobody : (y.calls.filterMap sending).count inviter.id = 0 :=
        List.count_eq_zero.mpr apart
      have rest : ((y.calls.eraseIdx index).filterMap sending).count inviter.id = 0 := by
        simp only [weight, List.filterMap_cons, List.filterMap_nil, sending,
          List.count_nil] at split_calls
        omega
      simp [weight, exec, pending_after_cancel, Outcome.frames, sending, rest]
    · have kept := weight_exec choice y.store
        fun inviter invitee frame same => cancels ⟨inviter, invitee, frame, same⟩
      omega

theorem apart_sends_keep_one_pending {s : Store} (one : OnePending s) {es : List Event}
    {y : System} (reached : run step (initial s) es = some y)
    (apart : EachStep step SendsApart (initial s) es) : OnePending y.store := by
  have start : SingleSend (initial s) := by
    intro userId
    simpa [weight, initial] using one userId
  have single := guarded_run_keeps SingleSend
    (fun _ _ _ moved met kept => step_single_send moved met kept) reached apart start
  intro userId
  exact Nat.le_trans (Nat.le_add_right _ _) (single userId)

def sendEvents (count : Nat) (code : String) : List Event :=
  List.replicate count (.statement 0 ⟨1000, code, 0⟩)

/-- User 1 sends to user 2 twice at once: both calls cancel, and both create then. -/
def twiceEvents : List Event :=
  .call (.sendInvite 1 "two@example.com") :: sendEvents 5 "c0de" ++
    .call (.sendInvite 1 "two@example.com") :: sendEvents 7 "c0de" ++ sendEvents 2 "beef"

theorem overlapping_sends_leave_two_pending :
    ¬ ∀ users es y, (∀ coupleId userId, .call (.breakUp coupleId userId) ∉ es) →
      run step (initial (Store.empty users)) es = some y → y.calls = [] → OnePending y.store := by
  intro every
  have one := every twoUsers twiceEvents _ (by simp [twiceEvents, sendEvents]) rfl rfl 1
  revert one
  decide

/-- User 1 sends to user 2 again after the first call has ended. -/
def againEvents : List Event :=
  .call (.sendInvite 1 "two@example.com") :: sendEvents 7 "c0de" ++
    .call (.sendInvite 1 "two@example.com") :: sendEvents 7 "beef"

def againSystem : System :=
  (run step (initial (Store.empty twoUsers)) againEvents).get (by decide)

theorem second_send_leaves_one_pending : againSystem.calls = [] ∧ OnePending againSystem.store := by
  have none_there : OnePending (Store.empty twoUsers) := fun _ => Nat.zero_le _
  exact ⟨by decide, apart_sends_keep_one_pending none_there (Option.some_get _).symm (by decide)⟩

end PendingInvites
