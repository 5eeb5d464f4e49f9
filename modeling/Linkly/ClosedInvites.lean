import Linkly.CoupleDeletion

/-!
Which invites a couple is formed by. acceptInvite checks that the invite is pending and updates it
by its id later, whatever has become of it since. As long as no other call closes the invite in
between, only pending invites are accepted and closed ones stay closed.
-/
namespace ClosedInvites
open CoupleStore CoupleService CoupleConsistency CoupleFrames CoupleRaces CoupleDeletion KeyedRows
open TransitionRuns

def Closed (i : CoupleInvite) : Prop := i.status = .canceled ∨ i.status = .declined

instance (i : CoupleInvite) : Decidable (Closed i) := inferInstanceAs (Decidable (_ ∨ _))

/-- A couple that the event makes active gets so by the transaction of an acceptInvite call, whose
    invite is pending when it starts. -/
def FormsFromPending (y : System) (e : Event) : Prop :=
  ∀ z, step y e = some z → ∀ coupleId, Active z.store coupleId → ¬ Active y.store coupleId →
    ∃ index choice invite userId, e = .statement index choice ∧
      y.calls[index]? = some (.acceptCommit invite userId) ∧
      ∃ i ∈ y.store.invites, i.id = invite.id ∧ i.coupleId = coupleId ∧ i.status = .pending

def NeverAccepted (y z : System) : Prop :=
  ∀ i ∈ y.store.invites, Closed i → ∀ j ∈ z.store.invites, j.id = i.id → j.status ≠ .accepted

/-- The invite that an acceptInvite call has found pending and not accepted yet. -/
def accepting : Frame → Option CoupleInvite
  | .acceptCheckMine invite _ | .acceptCheckInviter invite _ | .acceptCommit invite _ => some invite
  | _ => none

/-- The statement at which a call stands cancels or declines the row. -/
def closes (s : Store) (i : CoupleInvite) : Frame → Prop
  | .sendCancelPending inviter _ => i.inviterUserId = inviter.id
  | .declineUpdate invite | .cancelUpdate invite => i.id = invite.id
  | .acceptCommit invite userId =>
    i.id ≠ invite.id ∧ (i.Involves invite.inviterUserId ∨ i.Involves userId) ∧
      CanPair s invite userId
  | _ => False

instance (s : Store) (i : CoupleInvite) : ∀ f, Decidable (closes s i f)
  | .sendCancelPending .. | .declineUpdate _ | .cancelUpdate _ | .acceptCommit .. => by
    dsimp only [closes]
    infer_instance
  | .sendFindInviter .. | .sendFindInvitee .. | .sendCheckMine .. | .sendCheckTheirs ..
  | .sendCreateCouple .. | .sendCreateInvite .. | .acceptFind .. | .acceptCheckMine ..
  | .acceptCheckInviter .. | .declineFind .. | .declineDelete _ | .cancelFind _ | .cancelDelete _
  | .breakUpCheck .. | .breakUpPhotos .. | .breakUpDelete .. => isFalse id

/-- No statement closes a pending invite that another call has found pending and means to accept. -/
def AcceptsUndisturbed (y : System) : Event → Prop
  | .call _ => True
  | .statement index _ => ∀ f ∈ y.calls[index]?,
      ∀ held ∈ (y.calls.eraseIdx index).filterMap accepting,
        ∀ i ∈ y.store.invites, i.id = held.id → i.status = .pending → ¬ closes y.store i f

instance (y : System) : ∀ e, Decidable (AcceptsUndisturbed y e)
  | .call _ => isTrue trivial
  | .statement _ _ => by
    dsimp only [AcceptsUndisturbed]
    infer_instance

section Rows
variable {choice : Choice} {s : Store} {f : Frame}

/-- What one statement makes of an invite row that was there before it. -/
inductive RowChange (choice : Choice) (s : Store) (f : Frame) (i j : CoupleInvite) : Prop where
  | kept (status : j.status = i.status)
  | closed (now_closed : Closed j) (by_statement : closes s i f)
  | accepted {invite : CoupleInvite} {userId : Nat} (frame : f = .acceptCommit invite userId)
      (same : i.id = invite.id) (can : CanPair s invite userId)
      (committed : (exec choice s f).1 = acceptEffect s invite userId choice.now)

/-- The row goes back to one that was there, or it is new. -/
def Traced (choice : Choice) (s : Store) (f : Frame) (j : CoupleInvite) : Prop :=
  (∃ i ∈ s.invites, SameInvite i j ∧ RowChange choice s f i j) ∨ s.nextId ≤ j.id

theorem traced_of_mem {j : CoupleInvite} (mem : j ∈ s.invites) : Traced choice s f j :=
  Or.inl ⟨j, mem, same_invite_refl j, .kept rfl⟩

theorem traced_update {id : Nat} {status : InviteStatus} {respondedAt : Option Nat} {t : Store}
    (done : s.updateInvite id status respondedAt = some t)
    (closing : status = .canceled ∨ status = .declined)
    (own : ∀ i : CoupleInvite, i.id = id → closes s i f) :
    ∀ j ∈ t.invites, Traced choice s f j := by
  intro j mem
  obtain ⟨_, rfl⟩ := update_invite_eq done
  obtain ⟨i, mi, rfl⟩ := List.mem_map.mp mem
  have pending : status ≠ .pending := by rcases closing with rfl | rfl <;> simp
  refine Or.inl ⟨i, mi, (respond_retires id status respondedAt pending).same i, ?_⟩
  by_cases here : i.id = id
  · refine .closed ?_ (own i here)
    simpa [respond, here, Closed] using closing
  · exact .kept (by simp [respond, here])

theorem traced_delete (id : Nat) : ∀ j ∈ ((s.deleteCouple id).getD s).invites,
    Traced choice s f j := by
  intro j mem
  cases done : s.deleteCouple id with
  | none => exact traced_of_mem (by simpa [done] using mem)
  | some t =>
    obtain ⟨_, rfl⟩ := delete_couple_eq done
    simp only [done, Option.getD_some] at mem
    exact traced_of_mem (List.mem_of_mem_filter mem)

theorem traced_accept {invite : CoupleInvite} {userId : Nat} {t : Store}
    (done : s.acceptTransaction invite userId choice.now = some t) :
    ∀ j ∈ t.invites, Traced choice s (.acceptCommit invite userId) j := by
  intro j mem
  obtain ⟨can, effect⟩ := accept_transaction_eq done
  rw [effect] at mem done
  obtain ⟨k, mk, rfl⟩ := List.mem_map.mp mem
  obtain ⟨i, mi, rfl⟩ := List.mem_map.mp mk
  have answered := (respond_retires invite.id .accepted (some choice.now) (by simp)).same i
  refine Or.inl ⟨i, mi, same_invite_trans answered ((cancel_when_retires _).same _), ?_⟩
  by_cases here : i.id = invite.id
  · exact .accepted rfl here can (by simp [exec, done])
  · have other : respond invite.id .accepted (some choice.now) i = i := by simp [respond, here]
    rw [other]
    unfold cancelWhen
    split_ifs with cancels
    · have involved := of_decide_eq_true cancels.1
      exact .closed (Or.inl rfl) ⟨here, involved.2, can⟩
    · exact .kept rfl

theorem exec_traced : ∀ j ∈ (exec choice s f).1.invites, Traced choice s f j := by
  cases f with
  | sendCancelPending inviter invitee =>
    intro j mem
    obtain ⟨i, mi, rfl⟩ := List.mem_map.mp mem
    refine Or.inl ⟨i, mi, (cancel_when_retires _).same i, ?_⟩
    unfold cancelWhen
    split_ifs with cancels
    · exact .closed (Or.inl rfl) (by simpa [closes] using cancels.1)
    · exact .kept rfl
  | sendCreateCouple inviter invitee => exact fun j mem => traced_of_mem mem
  | sendCreateInvite inviter invitee coupleId =>
    simp only [exec]
    split
    · exact fun j mem => traced_of_mem mem
    · rename_i t done
      obtain ⟨_, rfl⟩ := create_invite_eq done
      intro j mem
      rcases List.mem_append.mp mem with old | new
      · exact traced_of_mem old
      · rw [List.mem_singleton.mp new]
        exact Or.inr (Nat.le_refl _)
  | acceptCommit invite userId =>
    simp only [exec]
    split
    · exact fun j mem => traced_of_mem mem
    · rename_i t done
      exact traced_accept done
  | declineUpdate invite =>
    simp only [exec]
    split
    · exact fun j mem => traced_of_mem mem
    · rename_i t done
      exact traced_update done (Or.inr rfl) fun i same => same
  | cancelUpdate invite =>
    simp only [exec]
    split
    · exact fun j mem => traced_of_mem mem
    · rename_i t done
      exact traced_update done (Or.inl rfl) fun i same => same
  | declineDelete invite => exact traced_delete invite.coupleId
  | cancelDelete invite => exact traced_delete invite.coupleId
  | breakUpDelete coupleId userId =>
    have left : ∀ j ∈ ((s.deleteCouple coupleId).getD s).invites,
        Traced choice s (.breakUpDelete coupleId userId) j := traced_delete coupleId
    simp only [exec]
    split
    · exact fun j mem => traced_of_mem mem
    · rename_i t done
      simpa [done] using left
  | _ =>
    rw [exec_reads rfl]
    exact fun j mem => traced_of_mem mem

end Rows

section Runs

/-- An invite that a call means to accept is still pending, or its couple has been formed. -/
structure Answerable (y : System) : Prop where
  ok : SystemOk y
  paired : Paired y.store
  open_or_formed : ∀ g ∈ y.calls, ∀ held, accepting g = some held →
    ∀ i ∈ y.store.invites, i.id = held.id → i.status = .pending ∨ Active y.store i.coupleId

theorem accepting_known {s : Store} {f : Frame} {held : CoupleInvite} (ok : FrameOk s f)
    (own : accepting f = some held) : Known s held := by
  cases f with
  | acceptCheckMine | acceptCheckInviter | acceptCommit =>
    cases own
    exact ok.1
  | _ => simp [accepting] at own

/-- Once its couple is formed, an invite cannot be accepted: its inviter is no longer free. -/
theorem formed_not_acceptable {s : Store} {invite i : CoupleInvite} {userId : Nat}
    (linked : Linked s) (paired : Paired s) (can : CanPair s invite userId) (mi : i ∈ s.invites)
    (same : SameInvite invite i) : ¬ Active s i.coupleId := by
  intro active
  obtain ⟨c, mc, couple, status⟩ := active
  obtain ⟨j, mj, own, v, _, roles⟩ := paired.active_couple c mc status
  have one : j = i := row_unique linked.own_couple mj mi (own.trans couple)
  have there : (j.inviterUserId, CoupleMemberRole.owner) ∈ memberRoles s c.id := by
    rw [roles]
    exact List.mem_cons_self
  obtain ⟨m, mm, eq⟩ := List.mem_map.mp there
  have user : m.userId = j.inviterUserId := congrArg Prod.fst eq
  rw [one, same.inviter] at user
  exact can.inviter_free m (List.mem_filter.mp mm).1 user

theorem accepted_was_pending {y : System} (ans : Answerable y) {invite : CoupleInvite}
    {userId : Nat} (mem : .acceptCommit invite userId ∈ y.calls)
    (can : CanPair y.store invite userId) {i : CoupleInvite} (mi : i ∈ y.store.invites)
    (same : i.id = invite.id) : i.status = .pending := by
  have known := accepting_known (ans.ok.frames _ mem) rfl
  rcases ans.open_or_formed _ mem invite rfl i mi same with pending | formed
  · exact pending
  · exact absurd formed
      (formed_not_acceptable ans.ok.linked ans.paired can mi (known.same i mi same))

theorem forms_from_pending {y : System} {e : Event} (ans : Answerable y) :
    FormsFromPending y e := by
  intro z moved coupleId active not_before
  cases e with
  | call c =>
    obtain rfl := Option.some.inj moved
    exact absurd active not_before
  | statement index choice =>
    obtain ⟨f, at_index, rfl⟩ := statement_iff.mp moved
    have mf := List.mem_of_getElem? at_index
    have evolves := write_evolves (exec_write choice y.store f)
    obtain ⟨k, mk, there, status⟩ := active
    rcases evolves.activated k mk status with ⟨c, mc, old, was⟩ | ⟨invite, userId, rfl, on, can⟩
    · exact absurd ⟨c, mc, old.trans there, was⟩ not_before
    · obtain ⟨i, mi, same⟩ := can.invite_found
      have known := accepting_known (ans.ok.frames _ mf) rfl
      exact ⟨index, choice, invite, userId, rfl, at_index, i, mi, same,
        (known.same i mi same).couple.trans (on.trans there),
        accepted_was_pending ans mf can mi same⟩

/-- A call takes up an invite only when it has just found it pending. -/
theorem accepting_next {choice : Choice} {s : Store} {f g : Frame} {held : CoupleInvite}
    (moved : (exec choice s f).2 = .next g) (own : accepting g = some held) :
    (exec choice s f).1 = s ∧
      (accepting f = some held ∨ held ∈ s.invites ∧ held.status = .pending) := by
  cases exec_next moved with
  | acceptFind checked =>
    cases own
    obtain ⟨mem, _, pending⟩ := check_received_ok checked
    exact ⟨exec_reads rfl, Or.inr ⟨mem, pending⟩⟩
  | acceptCheckMine free | acceptCheckInviter free => exact ⟨exec_reads rfl, Or.inl own⟩
  | _ => simp [accepting] at own

theorem active_kept {f : Frame} {s t : Store} {coupleId : Nat} (write : Write f s t)
    (active : Active s coupleId) (there : ∃ k ∈ t.couples, k.id = coupleId) :
    Active t coupleId := by
  obtain ⟨c, mc, same, status⟩ := active
  cases write with
  | unchanged => exact ⟨c, mc, same, status⟩
  | retired retires => exact ⟨c, mc, same, status⟩
  | newCouple => exact ⟨c, List.mem_append_left _ mc, same, status⟩
  | newInvite frame done =>
    obtain ⟨_, rfl⟩ := create_invite_eq done
    exact ⟨c, mc, same, status⟩
  | accepted frame can =>
    refine ⟨_, List.mem_map_of_mem mc, (activate_id _ _ c).trans same, ?_⟩
    unfold activate
    split
    · rfl
    · exact status
  | deleted frame done =>
    obtain ⟨_, rfl⟩ := delete_couple_eq done
    obtain ⟨k, mk, here⟩ := there
    have stays := (List.mem_filter.mp mk).2
    rw [here, ← same] at stays
    exact ⟨c, List.mem_filter.mpr ⟨mc, stays⟩, same, status⟩

theorem formed_by_accept {s : Store} {invite : CoupleInvite} {userId now : Nat}
    (can : CanPair s invite userId) : Active (acceptEffect s invite userId now) invite.coupleId := by
  obtain ⟨c, mc, same⟩ := can.couple_found
  exact ⟨_, List.mem_map_of_mem mc, (activate_id _ _ c).trans same, by simp [activate, same]⟩

theorem step_answerable {y z : System} {e : Event} (moved : step y e = some z)
    (undisturbed : AcceptsUndisturbed y e) (ans : Answerable y) : Answerable z := by
  refine ⟨step_ok ans.ok moved, step_paired ans.ok moved ans.paired, ?_⟩
  have after := step_ok ans.ok moved
  cases e with
  | call c =>
    obtain rfl := Option.some.inj moved
    intro g mem held own
    rcases List.mem_cons.mp mem with rfl | old
    · cases c <;> simp [entry, accepting] at own
    · exact ans.open_or_formed g old held own
  | statement index choice =>
    obtain ⟨f, at_index, rfl⟩ := statement_iff.mp moved
    have mf := List.mem_of_getElem? at_index
    intro g mem held own j mj same
    rcases List.mem_append.mp mem with new | other
    · obtain ⟨unchanged, before⟩ := accepting_next (mem_frames_iff.mp new) own
      simp only [unchanged] at mj ⊢
      rcases before with mine | ⟨there, pending⟩
      · exact ans.open_or_formed f mf held mine j mj same
      · rw [row_unique ans.ok.keyed.invite_key mj there same]
        exact Or.inl pending
    · have mg := List.mem_of_mem_eraseIdx other
      have known := accepting_known (ans.ok.frames g mg) own
      rcases exec_traced j mj with ⟨i, mi, row, change⟩ | fresh
      · have same_i := row.id.symm.trans same
        have before := ans.open_or_formed g mg held own i mi same_i
        cases change with
        | kept status =>
          rcases before with pending | formed
          · exact Or.inl (status.trans pending)
          · rw [← row.couple] at formed
            exact Or.inr (active_kept (exec_write choice y.store f) formed
              (after.keyed.invite_couple j mj))
        | closed now_closed by_statement =>
          rcases before with pending | formed
          · exact absurd by_statement (undisturbed f at_index held
              (List.mem_filterMap.mpr ⟨g, other, own⟩) i mi same_i pending)
          · rw [← row.couple] at formed
            exact Or.inr (active_kept (exec_write choice y.store f) formed
              (after.keyed.invite_couple j mj))
        | accepted frame same_invite can committed =>
          subst frame
          have mine := accepting_known (ans.ok.frames _ mf) rfl
          refine Or.inr ?_
          rw [committed, row.couple, (mine.same i mi same_invite).couple]
          exact formed_by_accept can
      · have := known.below
        omega

/-- The invite of this id is closed, and stays so. -/
def ClosedFor (id : Nat) (s : Store) : Prop :=
  id < s.nextId ∧ ∀ j ∈ s.invites, j.id = id → Closed j

theorem closed_stays_closed {y z : System} {e : Event} (moved : step y e = some z)
    (ans : Answerable y) {id : Nat} (closed : ClosedFor id y.store) : ClosedFor id z.store := by
  cases e with
  | call c =>
    obtain rfl := Option.some.inj moved
    exact closed
  | statement index choice =>
    obtain ⟨f, at_index, rfl⟩ := statement_iff.mp moved
    have mf := List.mem_of_getElem? at_index
    have evolves := write_evolves (exec_write choice y.store f)
    refine ⟨Nat.lt_of_lt_of_le closed.1 evolves.next_le, ?_⟩
    intro j mj same
    rcases exec_traced j mj with ⟨i, mi, row, change⟩ | fresh
    · have was_closed := closed.2 i mi (row.id.symm.trans same)
      cases change with
      | kept status => rwa [Closed, status]
      | closed now_closed by_statement => exact now_closed
      | accepted frame same_invite can committed =>
        subst frame
        have pending := accepted_was_pending ans mf can mi same_invite
        simp [Closed, pending] at was_closed
    · have := closed.1
      omega

theorem undisturbed_accepts_find_pending_invites {s : Store} (consistent : Consistent s)
    {es : List Event} (undisturbed : EachStep step AcceptsUndisturbed (initial s) es) :
    EachStep step FormsFromPending (initial s) es ∧
      EachLater step NeverAccepted (initial s) es := by
  have start : Answerable (initial s) :=
    ⟨initial_ok consistent.keyed consistent.linked, consistent.paired, by simp [initial]⟩
  have preserved : ∀ y e z, step y e = some z → AcceptsUndisturbed y e → Answerable y →
      Answerable z := fun y e z moved met ans => step_answerable moved met ans
  constructor
  · exact each_step_of_each_step Answerable preserved
      (fun y e z _ _ ans => forms_from_pending ans) start undisturbed
  · intro front middle back a b split_run before after
    have later : EachLater step
        (fun y z => ∀ id, ClosedFor id y.store → ClosedFor id z.store) (initial s) es :=
      each_later_of_each_step Answerable (fun _ _ closed => closed)
        (fun _ _ _ first second id closed => second id (first id closed)) preserved
        (fun y e z moved _ ans id closed => closed_stays_closed moved ans closed) start undisturbed
    rw [split_run] at undisturbed
    obtain ⟨reached, _⟩ := (each_step_append_iff before).mp undisturbed
    have keyed := (guarded_run_keeps Answerable preserved before reached start).ok.keyed
    intro i mi closed j mj same accepted
    have closed_for : ClosedFor i.id a.store := by
      refine ⟨keyed.invite_below i mi, ?_⟩
      intro k mk same_id
      rw [row_unique keyed.invite_key mk mi same_id]
      exact closed
    have still := (later front middle back a b split_run before after i.id closed_for).2 j mj same
    simp [Closed, accepted] at still

end Runs

/-- User 2 is about to accept when user 1 sends the invite again, which cancels the first one. -/
def resentEvents : List Event :=
  inviteEvents ++ .call (.acceptInvite 1 2) :: List.replicate 3 (.statement 0 (answer 0)) ++
    .call (.sendInvite 1 "two@example.com") :: List.replicate 5 (.statement 0 (answer 0))

theorem resent_invite_is_accepted :
    ¬ ∀ users es, EachStep step FormsFromPending (initial (Store.empty users)) es ∧
      EachLater step NeverAccepted (initial (Store.empty users)) es := by
  intro every
  have never := (every twoUsers (resentEvents ++ [.statement 1 (answer 0)])).2 resentEvents
    [.statement 1 (answer 0)] [] _ _ rfl rfl rfl
  revert never
  unfold NeverAccepted
  decide

theorem accepted_invite_was_pending :
    EachStep step FormsFromPending (initial (Store.empty twoUsers)) (inviteEvents ++ acceptEvents) ∧
      EachLater step NeverAccepted (initial (Store.empty twoUsers))
        (inviteEvents ++ acceptEvents) :=
  undisturbed_accepts_find_pending_invites (consistent_empty twoUsers) (by decide)

end ClosedInvites
