import Linkly.CoupleFrames
import Mathlib.Data.List.Perm.Basic

/-!
All interleavings of the couple service. Every statement keeps the tables consistent and keeps what
the other open calls rely on, so both hold in each reachable state. The one race left is that of
an acceptance against a decline or a cancellation of the same invite, which deletes its couple.
-/
namespace CoupleRaces
open CoupleStore CoupleService CoupleConsistency CoupleFrames KeyedRows TransitionRuns

section Statement
variable {f : Frame} {s t : Store} (write : Write f s t)
include write

theorem keyed_write (keyed : Keyed s) : Keyed t := by
  cases write with
  | unchanged => exact keyed
  | retired retires => exact keyed_map_invites retires keyed
  | newCouple => exact keyed_create_couple keyed
  | newInvite frame done => exact keyed_create_invite done rfl keyed
  | accepted frame can => exact keyed_accept keyed can
  | deleted frame done => exact keyed_delete_couple done keyed

variable (ok : FrameOk s f)
include ok

theorem linked_write (linked : Linked s) : Linked t := by
  cases write with
  | unchanged => exact linked
  | retired retires => exact linked_map_invites retires linked
  | newCouple => exact linked_create_couple linked
  | newInvite frame done =>
    subst frame
    exact linked_create_invite done ok.2.no_invite ok.2.pending linked
  | accepted frame can =>
    subst frame
    obtain ⟨j, mj, same⟩ := can.invite_found
    exact linked_accept linked mj (ok.1.same j mj same)
  | deleted frame done => exact linked_delete_couple done linked

theorem paired_write (keyed : Keyed s) (linked : Linked s) (paired : Paired s) : Paired t := by
  cases write with
  | unchanged => exact paired
  | retired retires => exact paired_map_invites retires paired
  | newCouple => exact paired_create_couple keyed paired
  | newInvite frame done =>
    subst frame
    exact paired_create_invite done ⟨_, rfl, ok.1⟩ paired
  | accepted frame can =>
    subst frame
    obtain ⟨j, mj, same⟩ := can.invite_found
    exact paired_accept linked paired can mj (ok.1.same j mj same) ok.2
  | deleted frame done => exact paired_delete_couple done paired

end Statement

theorem known_of_mem {s : Store} (keyed : Keyed s) {invite : CoupleInvite}
    (mem : invite ∈ s.invites) : Known s invite where
  below := keyed.invite_below invite mem
  couple_below := by
    obtain ⟨c, mc, same⟩ := keyed.invite_couple invite mem
    rw [← same]
    exact keyed.couple_below c mc
  same := by
    intro j mj same
    rw [row_unique keyed.invite_key mj mem same]
    exact same_invite_refl invite
  present := fun _ => ⟨invite, mem, rfl⟩

theorem check_received_ok {s : Store} {inviteId userId : Nat} {invite : CoupleInvite}
    (passed : checkReceived s inviteId userId = .ok invite) :
    invite ∈ s.invites ∧ invite.inviteeUserId = some userId ∧ invite.status = .pending := by
  unfold checkReceived at passed
  split at passed
  · simp at passed
  · rename_i row found
    split at passed
    · simp at passed
    · split at passed
      · simp at passed
      · rename_i addressed open_invite
        simp only [Except.ok.injEq] at passed
        subst passed
        exact ⟨List.mem_of_find?_eq_some found, not_not.mp addressed, not_not.mp open_invite⟩

theorem find_first_pending {s : Store} {userId pick : Nat} {invite : CoupleInvite}
    (found : findFirst (s.pendingInvitesOf userId) pick = some invite) :
    invite ∈ s.invites ∧ invite.inviterUserId = userId ∧ invite.status = .pending := by
  have mem := List.mem_of_getElem? found
  simp only [Store.pendingInvitesOf, List.mem_filter, decide_eq_true_eq] at mem
  exact mem

theorem joined_of_member {s : Store} (keyed : Keyed s) {coupleId userId : Nat} {m : CoupleMember}
    (found : s.memberByCoupleUser coupleId userId = some m) : Joined s coupleId userId := by
  have mem := List.mem_of_find?_eq_some found
  have matched := List.find?_some found
  simp only [decide_eq_true_eq] at matched
  obtain ⟨c, mc, same⟩ := keyed.member_couple m mem
  exact ⟨by rw [← matched.1, ← same]; exact keyed.couple_below c mc, fun _ => ⟨m, mem, matched⟩⟩

theorem unused_created {s : Store} {now : Nat} (keyed : Keyed s) :
    Unused (s.createCouple now) s.nextId where
  below := Nat.lt_succ_self _
  no_invite := by
    intro i mi same
    obtain ⟨c, mc, couple⟩ := keyed.invite_couple i mi
    have := keyed.couple_below c mc
    omega
  pending := by
    intro c mem same
    rcases List.mem_append.mp mem with old | new
    · have := keyed.couple_below c old
      omega
    · rw [List.mem_singleton.mp new]

/-- The statement a call goes on to finds what it relies on. -/
theorem exec_next_ok {choice : Choice} {s : Store} {f g : Frame} (keyed : Keyed s)
    (ok : FrameOk s f) (moved : (exec choice s f).2 = .next g) :
    FrameOk (exec choice s f).1 g ∧ (reserved g = none ∨ reserved g = some s.nextId) := by
  have evolves := write_evolves (exec_write choice s f)
  cases exec_next moved with
  | sendFindInviter found => exact ⟨trivial, Or.inl rfl⟩
  | sendFindInvitee found different => exact ⟨different, Or.inl rfl⟩
  | sendCheckMine free | sendCheckTheirs free =>
    rw [exec_reads rfl]
    exact ⟨ok, Or.inl rfl⟩
  | sendCancelPending => exact ⟨ok, Or.inl rfl⟩
  | sendCreateCouple => exact ⟨⟨ok, unused_created keyed⟩, Or.inr rfl⟩
  | acceptFind checked =>
    obtain ⟨mem, addressed, _⟩ := check_received_ok checked
    rw [exec_reads rfl]
    exact ⟨⟨known_of_mem keyed mem, addressed⟩, Or.inl rfl⟩
  | acceptCheckMine free | acceptCheckInviter free =>
    rw [exec_reads rfl]
    exact ⟨ok, Or.inl rfl⟩
  | declineFind checked =>
    rw [exec_reads rfl]
    exact ⟨known_of_mem keyed (check_received_ok checked).1, Or.inl rfl⟩
  | declineUpdate | cancelUpdate => exact ⟨known_stable evolves ok, Or.inl rfl⟩
  | cancelFind found =>
    rw [exec_reads rfl]
    exact ⟨known_of_mem keyed (find_first_pending found).1, Or.inl rfl⟩
  | breakUpCheck found =>
    rw [exec_reads rfl]
    exact ⟨joined_of_member keyed found, Or.inl rfl⟩
  | breakUpPhotos => exact ⟨ok, Or.inl rfl⟩

structure SystemOk (y : System) : Prop where
  keyed : Keyed y.store
  linked : Linked y.store
  frames : ∀ f ∈ y.calls, FrameOk y.store f
  apart : (y.calls.filterMap reserved).Nodup
  reserved_below : ∀ f ∈ y.calls, ∀ id, reserved f = some id → id < y.store.nextId

theorem entry_ok (s : Store) (c : Call) : FrameOk s (entry c) ∧ reserved (entry c) = none := by
  cases c <;> exact ⟨trivial, rfl⟩

theorem initial_ok {s : Store} (keyed : Keyed s) (linked : Linked s) : SystemOk (initial s) :=
  ⟨keyed, linked, by simp [initial], by simp [initial], by simp [initial]⟩

/-- The open calls are the call that moves and the others. -/
theorem calls_perm {y : System} {index : Nat} {f : Frame} (at_index : y.calls[index]? = some f) :
    y.calls.Perm (f :: y.calls.eraseIdx index) := by
  obtain ⟨inside, rfl⟩ := List.getElem?_eq_some_iff.mp at_index
  exact (List.getElem_cons_eraseIdx_perm inside).symm

theorem statement_iff {y z : System} {index : Nat} {choice : Choice} :
    step y (.statement index choice) = some z ↔ ∃ f, y.calls[index]? = some f ∧
      z = ⟨(exec choice y.store f).1,
        (exec choice y.store f).2.frames ++ y.calls.eraseIdx index⟩ := by
  simp only [step, Option.map_eq_some_iff]
  constructor
  · intro moved
    obtain ⟨f, at_index, rfl⟩ := moved
    exact ⟨f, at_index, rfl⟩
  · intro moved
    obtain ⟨f, at_index, rfl⟩ := moved
    exact ⟨f, at_index, rfl⟩

theorem others_apart {f : Frame} {rest : List Frame} (apart : ((f :: rest).filterMap reserved).Nodup)
    {g : Frame} (mem : g ∈ rest) {id : Nat} (own : reserved g = some id) :
    reserved f ≠ some id := by
  intro same
  simp only [List.filterMap_cons, same, List.nodup_cons, List.mem_filterMap] at apart
  exact apart.1 ⟨g, mem, own⟩

theorem step_ok {y z : System} {e : Event} (ok : SystemOk y) (moved : step y e = some z) :
    SystemOk z := by
  cases e with
  | call c =>
    obtain rfl := Option.some.inj moved
    obtain ⟨fresh, nothing⟩ := entry_ok y.store c
    refine ⟨ok.keyed, ok.linked, ?_, ?_, ?_⟩
    · intro f mem
      rcases List.mem_cons.mp mem with rfl | old
      · exact fresh
      · exact ok.frames f old
    · simpa [nothing] using ok.apart
    · intro f mem id own
      rcases List.mem_cons.mp mem with rfl | old
      · simp [nothing] at own
      · exact ok.reserved_below f old id own
  | statement index choice =>
    obtain ⟨f, at_index, rfl⟩ := statement_iff.mp moved
    have mf := List.mem_of_getElem? at_index
    have mine := ok.frames f mf
    have write := exec_write choice y.store f
    have evolves := write_evolves write
    have apart := ((calls_perm at_index).filterMap reserved).nodup_iff.mp ok.apart
    have old : ∀ g ∈ y.calls.eraseIdx index, g ∈ y.calls := fun g => List.mem_of_mem_eraseIdx
    have next : ∀ g ∈ (exec choice y.store f).2.frames, FrameOk (exec choice y.store f).1 g ∧
        (reserved g = none ∨ reserved g = some y.store.nextId) := by
      intro g mem
      exact exec_next_ok ok.keyed mine (mem_frames_iff.mp mem)
    have rest_apart : ((y.calls.eraseIdx index).filterMap reserved).Nodup :=
      apart.sublist ((List.sublist_cons_self f _).filterMap reserved)
    refine ⟨keyed_write write ok.keyed, linked_write write mine ok.linked, ?_, ?_, ?_⟩
    · intro g mem
      rcases List.mem_append.mp mem with new | other
      · exact (next g new).1
      · exact frame_stable evolves mine (fun _ own => others_apart apart other own)
          (ok.frames g (old g other))
    · rw [List.filterMap_append]
      refine List.Nodup.append ?_ rest_apart ?_
      · cases (exec choice y.store f).2 with
        | next h => cases own : reserved h <;> simp [Outcome.frames, own]
        | returned result => simp [Outcome.frames]
        | rejected error => simp [Outcome.frames]
      · intro id new other
        obtain ⟨g, mg, own⟩ := List.mem_filterMap.mp new
        obtain ⟨h, mh, held⟩ := List.mem_filterMap.mp other
        have below := ok.reserved_below h (old h mh) id held
        rcases (next g mg).2 with none_own | made
        · simp [none_own] at own
        · have : id = y.store.nextId := Option.some.inj (own.symm.trans made)
          omega
    · intro g mem id own
      rcases List.mem_append.mp mem with new | other
      · have fresh := (next g new).1
        cases g with
        | sendCreateInvite inviter invitee coupleId =>
          cases own
          exact fresh.2.below
        | _ => simp [reserved] at own
      · exact Nat.lt_of_lt_of_le (ok.reserved_below g (old g other) id own) evolves.next_le

theorem step_paired {y z : System} {e : Event} (ok : SystemOk y) (moved : step y e = some z)
    (paired : Paired y.store) : Paired z.store := by
  cases e with
  | call c =>
    obtain rfl := Option.some.inj moved
    exact paired
  | statement index choice =>
    obtain ⟨f, at_index, rfl⟩ := statement_iff.mp moved
    exact paired_write (exec_write choice y.store f) (ok.frames f (List.mem_of_getElem? at_index))
      ok.keyed ok.linked paired

theorem run_consistent {y z : System} {es : List Event} (moved : run step y es = some z)
    (ok : SystemOk y) (paired : Paired y.store) : SystemOk z ∧ Paired z.store :=
  run_keeps (fun w => SystemOk w ∧ Paired w.store)
    (fun _ _ _ once kept => ⟨step_ok kept.1 once, step_paired kept.1 once kept.2⟩)
    moved ⟨ok, paired⟩

/-- What the tables say about couples, members and invites when read as a whole. -/
structure Agree (s : Store) : Prop where
  active_pair : ∀ c ∈ s.couples, c.status = .active →
    ∃ i owner member, s.invites.filter (·.coupleId = c.id) = [i] ∧
      s.members.filter (·.coupleId = c.id) = [owner, member] ∧
      owner.role = .owner ∧ owner.userId = i.inviterUserId ∧
      member.role = .member ∧ i.inviteeUserId = some member.userId ∧
      owner.userId ≠ member.userId
  pending_empty : ∀ c ∈ s.couples, c.status = .pending →
    s.members.filter (·.coupleId = c.id) = []
  pending_invite : ∀ i ∈ s.invites, i.status = .pending →
    (∃ c ∈ s.couples, c.id = i.coupleId ∧ c.status = .pending) ∧
      s.invites.filter (·.coupleId = i.coupleId) = [i]
  one_couple : ∀ m ∈ s.members, ∀ n ∈ s.members, m.userId = n.userId → m.coupleId = n.coupleId

theorem agree_of_consistent {s : Store} (keyed : Keyed s) (linked : Linked s) (paired : Paired s) :
    Agree s where
  active_pair := by
    intro c mc active
    obtain ⟨i, mi, couple, v, invitee, roles⟩ := paired.active_couple c mc active
    obtain ⟨w, to_w, different⟩ := paired.parties i mi
    obtain rfl := Option.some.inj (to_w.symm.trans invitee)
    have single := filter_key_singleton linked.own_couple mi
    rw [couple] at single
    unfold memberRoles at roles
    cases rows : s.members.filter (·.coupleId = c.id) with
    | nil => simp [rows] at roles
    | cons owner more =>
      cases more with
      | nil => simp [rows] at roles
      | cons member rest =>
        simp only [rows, List.map_cons, List.cons.injEq, Prod.mk.injEq,
          List.map_eq_nil_iff] at roles
        obtain ⟨⟨owner_user, owner_role⟩, ⟨member_user, member_role⟩, rfl⟩ := roles
        refine ⟨i, owner, member, single, rfl, owner_role, owner_user, member_role, ?_, ?_⟩
        · rw [member_user]
          exact invitee
        · rw [owner_user, member_user]
          exact Ne.symm different
  pending_empty := by
    intro c mc pending
    rw [List.filter_eq_nil_iff]
    intro m mm
    simpa using paired.pending_couple c mc pending m mm
  pending_invite := by
    intro i mi pending
    obtain ⟨c, mc, same⟩ := keyed.invite_couple i mi
    exact ⟨⟨c, mc, same, linked.pending_invite i mi pending c mc same⟩,
      filter_key_singleton linked.own_couple mi⟩
  one_couple := by
    intro m mm n mn same
    rw [row_unique keyed.member_key mm mn same]

theorem interleavings_keep_couples_paired (users : List User) (es : List Event) (y : System)
    (reached : run step (initial (Store.empty users)) es = some y) : Agree y.store := by
  have start := consistent_empty users
  obtain ⟨ok, paired⟩ := run_consistent reached (initial_ok start.keyed start.linked) start.paired
  exact agree_of_consistent ok.keyed ok.linked paired

def twoUsers : List User :=
  [⟨1, some "one@example.com", "one", none, none⟩, ⟨2, some "two@example.com", "two", none, none⟩]

def answer (pick : Nat) : Choice := ⟨1000, "c0de", pick⟩

/-- User 1 invites user 2 without any other call in between; the invite gets id 1. -/
def inviteEvents : List Event :=
  .call (.sendInvite 1 "two@example.com") :: List.replicate 7 (.statement 0 (answer 0))

def acceptEvents : List Event :=
  .call (.acceptInvite 1 2) :: List.replicate 4 (.statement 0 (answer 0))

def pairedSystem : System where
  store :=
    { Store.empty twoUsers with
      couples := [⟨0, .active, none, 1000, 1000⟩]
      members := [⟨2, 0, 1, none, .owner⟩, ⟨3, 0, 2, none, .member⟩]
      invites := [⟨1, 0, 1, some "two@example.com", some 2, "c0de", .accepted,
        1000 + sevenDays, 1000, some 1000⟩]
      nextId := 4 }
  calls := []

theorem accepted_invite_pairs_couple : Agree pairedSystem.store :=
  interleavings_keep_couples_paired twoUsers (inviteEvents ++ acceptEvents) pairedSystem
    (by decide)

end CoupleRaces
