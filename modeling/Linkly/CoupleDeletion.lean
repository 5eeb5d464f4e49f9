import Linkly.CoupleRaces

/-!
Who deletes an active couple. declineInvite and cancelInvite check that the invite is pending and
delete its couple two statements later, whatever has become of the couple since. As long as no
acceptance of the invite commits inside that window they only ever meet pending couples.
-/
namespace CoupleDeletion
open CoupleStore CoupleService CoupleConsistency CoupleFrames CoupleRaces KeyedRows TransitionRuns

/-- The invite that a decline or a cancellation has found pending and is not done with yet. -/
def retiring : Frame → Option CoupleInvite
  | .declineUpdate invite => some invite
  | .declineDelete invite => some invite
  | .cancelUpdate invite => some invite
  | .cancelDelete invite => some invite
  | _ => none

def Active (s : Store) (coupleId : Nat) : Prop :=
  ∃ c ∈ s.couples, c.id = coupleId ∧ c.status = .active

/-- The couple is still active and has kept its events, photos and messages. -/
def StaysIntact (s t : Store) (coupleId : Nat) : Prop :=
  Active t coupleId ∧ ∀ r ∈ s.owned, r.coupleId = coupleId → r ∈ t.owned

/-- The event is the deleting statement of a breakUp call of one of the couple's members. -/
def ByBreakUp (y : System) (e : Event) (coupleId : Nat) : Prop :=
  ∃ index choice userId, e = .statement index choice ∧
    y.calls[index]? = some (.breakUpDelete coupleId userId) ∧
    ∃ m ∈ y.store.members, m.coupleId = coupleId ∧ m.userId = userId

def KeepsActive (y : System) (e : Event) (z : System) : Prop :=
  ∀ coupleId, Active y.store coupleId →
    StaysIntact y.store z.store coupleId ∨ ByBreakUp y e coupleId

/-- No acceptance commits while a decline or a cancellation of the same invite is between its
    check and the end of its cleanup. -/
def AcceptsApart (y : System) : Event → Prop
  | .call _ => True
  | .statement index choice =>
    match y.calls[index]? with
    | some (.acceptCommit invite userId) =>
      (y.store.acceptTransaction invite userId choice.now).isSome →
        ∀ held ∈ y.calls.filterMap retiring, held.id ≠ invite.id
    | _ => True

instance (y : System) (e : Event) : Decidable (AcceptsApart y e) := by
  cases e with
  | call c => exact isTrue trivial
  | statement index choice =>
    unfold AcceptsApart
    dsimp only
    split <;> infer_instance

theorem accepts_apart_iff {y : System} {index : Nat} {choice : Choice} {invite : CoupleInvite}
    {userId : Nat} (at_index : y.calls[index]? = some (.acceptCommit invite userId)) :
    AcceptsApart y (.statement index choice) ↔
      ((y.store.acceptTransaction invite userId choice.now).isSome →
        ∀ f ∈ y.calls, ∀ held, retiring f = some held → held.id ≠ invite.id) := by
  simp only [AcceptsApart, at_index, List.mem_filterMap, forall_exists_index, and_imp]
  constructor
  · intro apart committed f mem held own
    exact apart committed held f mem own
  · intro apart committed held f mem own
    exact apart committed f mem held own

def NotActive (s : Store) (invite : CoupleInvite) : Prop := ¬ Active s invite.coupleId

structure RaceFree (y : System) : Prop where
  ok : SystemOk y
  pending : ∀ f ∈ y.calls, ∀ held, retiring f = some held → NotActive y.store held

theorem pending_not_active {s : Store} (linked : Linked s) {i : CoupleInvite}
    (mi : i ∈ s.invites) (pending : i.status = .pending) : NotActive s i := by
  intro active
  obtain ⟨c, mc, same, status⟩ := active
  have still := linked.pending_invite i mi pending c mc same
  simp [still] at status

/-- A call enters the window only with an invite it has just found pending. -/
theorem retiring_next {choice : Choice} {s : Store} {f g : Frame} {held : CoupleInvite}
    (moved : (exec choice s f).2 = .next g) (own : retiring g = some held) :
    retiring f = some held ∨
      (exec choice s f).1 = s ∧ held ∈ s.invites ∧ held.status = .pending := by
  cases exec_next moved with
  | declineFind checked =>
    cases own
    obtain ⟨mem, _, pending⟩ := check_received_ok checked
    exact Or.inr ⟨exec_reads rfl, mem, pending⟩
  | cancelFind found =>
    cases own
    obtain ⟨mem, _, pending⟩ := find_first_pending found
    exact Or.inr ⟨exec_reads rfl, mem, pending⟩
  | declineUpdate | cancelUpdate => exact Or.inl own
  | _ => simp [retiring] at own

/-- The one way a couple turns active under the call that holds its invite is a commit that the
    condition rules out. -/
theorem not_active_stable {y : System} {f : Frame} {t : Store} {held : CoupleInvite}
    (ok : SystemOk y) (mine : FrameOk y.store f) (evolves : Evolves f y.store t)
    (apart : ∀ invite userId, f = .acceptCommit invite userId → held.id ≠ invite.id)
    (known : Known y.store held) (before : NotActive y.store held) : NotActive t held := by
  intro active
  obtain ⟨k, mk, same, status⟩ := active
  rcases evolves.activated k mk status with ⟨c, mc, old, was⟩ | ⟨invite, userId, frame, on, can⟩
  · exact before ⟨c, mc, old.trans same, was⟩
  · subst frame
    obtain ⟨i, mi, found⟩ := can.invite_found
    have couple := (mine.1.same i mi found).couple
    obtain ⟨c, mc, there⟩ := ok.keyed.invite_couple i mi
    obtain ⟨j, mj, held_id⟩ :=
      known.present ⟨c, mc, there.trans (couple.trans (on.trans same))⟩
    have held_couple := (known.same j mj held_id).couple
    have one : i = j := row_unique ok.linked.own_couple mi mj
      (couple.trans (on.trans (same.trans held_couple.symm)))
    exact apart invite userId rfl (held_id.symm.trans (one ▸ found))

theorem retiring_known {s : Store} {f : Frame} {held : CoupleInvite} (ok : FrameOk s f)
    (own : retiring f = some held) : Known s held := by
  cases f with
  | declineUpdate | declineDelete | cancelUpdate | cancelDelete =>
    cases own
    exact ok
  | _ => simp [retiring] at own

theorem accept_not_retiring {f : Frame} {invite held : CoupleInvite} {userId : Nat}
    (own : retiring f = some held) : f ≠ .acceptCommit invite userId := by
  intro same
  simp [same, retiring] at own

theorem step_race_free {y z : System} {e : Event} (moved : step y e = some z)
    (apart : AcceptsApart y e) (free : RaceFree y) : RaceFree z := by
  refine ⟨step_ok free.ok moved, ?_⟩
  cases e with
  | call c =>
    obtain rfl := Option.some.inj moved
    intro f mem held own
    rcases List.mem_cons.mp mem with rfl | old
    · cases c <;> simp [entry, retiring] at own
    · exact free.pending f old held own
  | statement index choice =>
    obtain ⟨f, at_index, rfl⟩ := statement_iff.mp moved
    have mf := List.mem_of_getElem? at_index
    have mine := free.ok.frames f mf
    have evolves := write_evolves (exec_write choice y.store f)
    -- A transaction that rolls back leaves the store as it was.
    have kept : ∀ g ∈ y.calls, ∀ held, retiring g = some held →
        NotActive (exec choice y.store f).1 held := by
      intro g mg held own
      by_cases rolled_back : (exec choice y.store f).1 = y.store
      · rw [rolled_back]
        exact free.pending g mg held own
      · refine not_active_stable free.ok mine evolves ?_
          (retiring_known (free.ok.frames g mg) own) (free.pending g mg held own)
        intro invite userId frame
        subst frame
        refine (accepts_apart_iff at_index).mp apart ?_ g mg held own
        cases committed : y.store.acceptTransaction invite userId choice.now with
        | none => simp [exec, committed] at rolled_back
        | some t => rfl
    intro g mem held own
    rcases List.mem_append.mp mem with new | other
    · rcases retiring_next (mem_frames_iff.mp new) own with before | ⟨unchanged, there, pending⟩
      · exact kept f mf held before
      · simp only [unchanged]
        exact pending_not_active free.ok.linked there pending
    · exact kept g (List.mem_of_mem_eraseIdx other) held own

theorem race_free_step_keeps_active {y z : System} {e : Event} (free : RaceFree y)
    (moved : step y e = some z) : KeepsActive y e z := by
  intro coupleId active
  cases e with
  | call c =>
    obtain rfl := Option.some.inj moved
    exact Or.inl ⟨active, fun r mem _ => mem⟩
  | statement index choice =>
    obtain ⟨f, at_index, rfl⟩ := statement_iff.mp moved
    have mf := List.mem_of_getElem? at_index
    have evolves := write_evolves (exec_write choice y.store f)
    obtain ⟨c, mc, same, status⟩ := active
    by_cases deleted : deletes f = some coupleId
    · cases f with
      | breakUpDelete id userId =>
        cases deleted
        obtain ⟨m, mm, member⟩ := (free.ok.frames _ mf).member ⟨c, mc, same⟩
        exact Or.inr ⟨index, choice, userId, rfl, at_index, m, mm, member⟩
      | declineDelete invite | cancelDelete invite =>
        cases deleted
        exact False.elim (free.pending _ mf invite rfl ⟨c, mc, same, status⟩)
      | _ => simp [deletes] at deleted
    · obtain ⟨k, mk, kept, still⟩ := evolves.couples_kept c mc (by rwa [same])
      refine Or.inl ⟨⟨k, mk, kept.trans same, still status⟩, ?_⟩
      intro r mr owner
      exact evolves.owned_kept r mr ⟨k, mk, kept.trans (same.trans owner.symm)⟩

theorem initial_race_free {s : Store} (keyed : Keyed s) (linked : Linked s) :
    RaceFree (initial s) :=
  ⟨initial_ok keyed linked, by simp [initial]⟩

theorem apart_accepts_keep_active_couples {s : Store} (keyed : Keyed s) (linked : Linked s)
    {es : List Event} {y z : System} {e : Event} (reached : run step (initial s) es = some y)
    (apart : EachStep step AcceptsApart (initial s) es) (moved : step y e = some z) :
    KeepsActive y e z := by
  have free := guarded_run_keeps RaceFree (fun _ _ _ once met kept => step_race_free once met kept)
    reached apart (initial_race_free keyed linked)
  exact race_free_step_keeps_active free moved

/-- The state still runs to a deletion of an active couple that no breakUp call asked for. -/
def CanLose (y : System) : Prop :=
  ∃ es w e z, run step y es = some w ∧ step w e = some z ∧ ¬ KeepsActive w e z

theorem not_active_after_delete {s t : Store} {id : Nat} (done : s.deleteCouple id = some t) :
    ¬ Active t id := by
  obtain ⟨_, rfl⟩ := delete_couple_eq done
  intro active
  obtain ⟨c, mem, same, _⟩ := active
  simp [same] at mem

theorem cleanup_loses_active {y : System} {f : Frame} {coupleId : Nat} (mem : f ∈ y.calls)
    (frame : ∀ userId, f ≠ .breakUpDelete coupleId userId)
    (effect : ∀ choice, (exec choice y.store f).1 = (y.store.deleteCouple coupleId).getD y.store)
    (active : Active y.store coupleId) : CanLose y := by
  obtain ⟨index, at_index⟩ := List.getElem?_of_mem mem
  refine ⟨[], y, .statement index ⟨0, "", 0⟩, _, rfl, statement_iff.mpr ⟨f, at_index, rfl⟩, ?_⟩
  intro keeps
  rcases keeps coupleId active with intact | broken
  · have still := intact.1
    obtain ⟨c, mc, same, _⟩ := active
    have there : y.store.couples.any (·.id = coupleId) := by
      simp only [List.any_eq_true, decide_eq_true_eq]
      exact ⟨c, mc, same⟩
    rw [effect] at still
    cases done : y.store.deleteCouple coupleId with
    | none => simp [Store.deleteCouple, there] at done
    | some t => exact not_active_after_delete done (by simpa [done] using still)
  · obtain ⟨i, choice, userId, same, found, _⟩ := broken
    cases same
    exact frame userId (Option.some.inj (at_index.symm.trans found))

theorem update_then_cleanup_loses_active {y : System} {f g : Frame} {held : CoupleInvite}
    {status : InviteStatus} {respondedAt : Option Nat} (mem : f ∈ y.calls)
    (known : Known y.store held) (active : Active y.store held.coupleId)
    (effect : exec ⟨0, "", 0⟩ y.store f = match y.store.updateInvite held.id status respondedAt with
      | none => (y.store, .rejected .database)
      | some t => (t, .next g))
    (frame : ∀ userId, g ≠ .breakUpDelete held.coupleId userId)
    (cleanup : ∀ choice t, (exec choice t g).1 = (t.deleteCouple held.coupleId).getD t) :
    CanLose y := by
  obtain ⟨index, at_index⟩ := List.getElem?_of_mem mem
  obtain ⟨c, mc, same, was_active⟩ := active
  obtain ⟨j, mj, found⟩ := known.present ⟨c, mc, same⟩
  have there : y.store.invites.any (·.id = held.id) := by
    simp only [List.any_eq_true, decide_eq_true_eq]
    exact ⟨j, mj, found⟩
  simp only [Store.updateInvite, there, ↓reduceIte] at effect
  let next : System :=
    ⟨y.store.mapInvites (respond held.id status respondedAt), g :: y.calls.eraseIdx index⟩
  have moved : step y (.statement index ⟨0, "", 0⟩) = some next :=
    statement_iff.mpr ⟨f, at_index, by rw [effect]; rfl⟩
  obtain ⟨es, w, e, z, reached, last, lost⟩ := cleanup_loses_active (y := next)
    (List.mem_cons_self) frame (fun choice => cleanup choice _) ⟨c, mc, same, was_active⟩
  exact ⟨_ :: es, w, e, z, run_cons_iff.mpr ⟨next, moved, reached⟩, last, lost⟩

theorem retiring_call_loses_active {y : System} (ok : SystemOk y) {f : Frame}
    {held : CoupleInvite} (mem : f ∈ y.calls) (own : retiring f = some held)
    (active : Active y.store held.coupleId) : CanLose y := by
  have known := retiring_known (ok.frames f mem) own
  cases f with
  | declineUpdate invite | cancelUpdate invite =>
    cases own
    exact update_then_cleanup_loses_active mem known active rfl (by simp) (fun _ _ => rfl)
  | declineDelete invite | cancelDelete invite =>
    cases own
    exact cleanup_loses_active mem (by simp) (fun _ => rfl) active
  | _ => simp [retiring] at own

/-- A commit that breaks the condition leaves a call behind, and there is a continuation in which
    that call deletes the couple that the commit has just made active. -/
theorem overlapping_accept_can_lose_couple {y z : System} {e : Event} (ok : SystemOk y)
    (moved : step y e = some z) (overlap : ¬ AcceptsApart y e) : CanLose z := by
  cases e with
  | call c => exact False.elim (overlap trivial)
  | statement index choice =>
    have after := step_ok ok moved
    obtain ⟨f, at_index, rfl⟩ := statement_iff.mp moved
    have mf := List.mem_of_getElem? at_index
    cases f with
    | acceptCommit invite userId =>
      rw [accepts_apart_iff at_index] at overlap
      push Not at overlap
      obtain ⟨committed, g, mg, held, own, same⟩ := overlap
      obtain ⟨t, done⟩ := Option.isSome_iff_exists.mp committed
      obtain ⟨can, effect⟩ := accept_transaction_eq done
      have stays : g ∈ y.calls.eraseIdx index := by
        rcases List.mem_cons.mp ((calls_perm at_index).mem_iff.mp mg) with now | other
        · exact False.elim (accept_not_retiring own now)
        · exact other
      obtain ⟨j, mj, found⟩ := can.invite_found
      have mine := ((ok.frames _ mf).1.same j mj found).couple
      have theirs :=
        ((retiring_known (ok.frames g mg) own).same j mj (found.trans same.symm)).couple
      obtain ⟨c, mc, couple⟩ := can.couple_found
      refine retiring_call_loses_active after (List.mem_append_right _ stays) own ?_
      simp only [exec, done, effect]
      refine ⟨activate invite.coupleId choice.now c, List.mem_map_of_mem mc, ?_, ?_⟩
      · rw [activate_id, couple, ← mine, theirs]
      · simp [activate, couple]
    | _ => exact False.elim (overlap (by simp [AcceptsApart, at_index]))

/-- User 2 declines and accepts one invite: the decline finds it pending, the acceptance commits,
    and the decline goes on. -/
def racedEvents : List Event :=
  [.call (.acceptInvite 1 2), .statement 0 (answer 0), .statement 0 (answer 0),
    .statement 0 (answer 0), .call (.declineInvite 1 2), .statement 0 (answer 0),
    .statement 1 (answer 0), .statement 0 (answer 0)]

def racedInvite (status : InviteStatus) (respondedAt : Option Nat) : CoupleInvite :=
  ⟨1, 0, 1, some "two@example.com", some 2, "c0de", status, 1000 + sevenDays, 1000, respondedAt⟩

def racedSystem : System where
  store :=
    { Store.empty twoUsers with
      couples := [⟨0, .active, none, 1000, 1000⟩]
      members := [⟨2, 0, 1, none, .owner⟩, ⟨3, 0, 2, none, .member⟩]
      invites := [racedInvite .declined (some 1000)]
      nextId := 4 }
  calls := [.declineDelete (racedInvite .pending none)]

theorem decline_deletes_active_couple :
    ¬ ∀ es y e z, run step (initial (Store.empty twoUsers)) es = some y →
      step y e = some z → KeepsActive y e z := by
  intro every
  have reached : run step (initial (Store.empty twoUsers)) (inviteEvents ++ racedEvents) =
      some racedSystem := by decide
  have kept := every _ _ (.statement 0 (answer 0)) _ reached rfl 0
    ⟨⟨0, .active, none, 1000, 1000⟩, by decide, rfl, rfl⟩
  rcases kept with intact | broken
  · obtain ⟨c, mem, _⟩ := intact.1
    simp [racedSystem, racedInvite, exec, Store.deleteCouple] at mem
  · obtain ⟨index, choice, userId, same, at_index, _⟩ := broken
    cases same
    simp [racedSystem] at at_index

/-- Two calls that do not overlap: the invite is accepted, and one member breaks the couple up. -/
theorem accepted_couple_lost_to_its_member :
    KeepsActive ⟨pairedSystem.store, [.breakUpDelete 0 2]⟩ (.statement 0 (answer 0))
      ⟨{ Store.empty twoUsers with nextId := 4 }, []⟩ := by
  have reached : run step (initial (Store.empty twoUsers)) (inviteEvents ++ acceptEvents ++
      [.call (.breakUp 0 2), .statement 0 (answer 0), .statement 0 (answer 0)]) =
        some ⟨pairedSystem.store, [.breakUpDelete 0 2]⟩ := by decide
  have empty := consistent_empty twoUsers
  exact apart_accepts_keep_active_couples empty.keyed empty.linked reached (by decide) (by decide)

end CoupleDeletion
