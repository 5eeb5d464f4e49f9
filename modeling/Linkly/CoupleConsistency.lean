import Linkly.CoupleStore
import Linkly.KeyedRows

/-!
What the couple tables look like whenever no statement is half done. `Keyed` is what the schema
and the id counter enforce, `Linked` ties an invite to the couple made for it, and `Paired` says
who the members of a couple are. Each statement of the service keeps all three, at every point
where the service may issue it.
-/
namespace CoupleConsistency
open CoupleStore KeyedRows

structure Keyed (s : Store) : Prop where
  couple_below : ∀ c ∈ s.couples, c.id < s.nextId
  invite_below : ∀ i ∈ s.invites, i.id < s.nextId
  couple_key : (s.couples.map Couple.id).Nodup
  invite_key : (s.invites.map CoupleInvite.id).Nodup
  member_key : (s.members.map CoupleMember.userId).Nodup
  invite_couple : ∀ i ∈ s.invites, ∃ c ∈ s.couples, c.id = i.coupleId
  member_couple : ∀ m ∈ s.members, ∃ c ∈ s.couples, c.id = m.coupleId

structure Linked (s : Store) : Prop where
  own_couple : (s.invites.map CoupleInvite.coupleId).Nodup
  pending_invite : ∀ i ∈ s.invites, i.status = .pending →
    ∀ c ∈ s.couples, c.id = i.coupleId → c.status = .pending

def memberRoles (s : Store) (coupleId : Nat) : List (Nat × CoupleMemberRole) :=
  (s.members.filter (·.coupleId = coupleId)).map fun m => (m.userId, m.role)

structure Paired (s : Store) : Prop where
  parties : ∀ i ∈ s.invites, ∃ v, i.inviteeUserId = some v ∧ v ≠ i.inviterUserId
  pending_couple : ∀ c ∈ s.couples, c.status = .pending → ∀ m ∈ s.members, m.coupleId ≠ c.id
  active_couple : ∀ c ∈ s.couples, c.status = .active → ∃ i ∈ s.invites, i.coupleId = c.id ∧
    ∃ v, i.inviteeUserId = some v ∧ memberRoles s c.id = [(i.inviterUserId, .owner), (v, .member)]

/-- Two rows of one invite at different times: only status and answer time may differ. -/
structure SameInvite (i j : CoupleInvite) : Prop where
  id : j.id = i.id
  couple : j.coupleId = i.coupleId
  inviter : j.inviterUserId = i.inviterUserId
  invitee : j.inviteeUserId = i.inviteeUserId
  code : j.code = i.code
  created : j.createdAt = i.createdAt
  expires : j.expiresAt = i.expiresAt

theorem same_invite_refl (i : CoupleInvite) : SameInvite i i :=
  ⟨rfl, rfl, rfl, rfl, rfl, rfl, rfl⟩

theorem same_invite_trans {i j k : CoupleInvite} (first : SameInvite i j)
    (second : SameInvite j k) : SameInvite i k :=
  ⟨second.id.trans first.id, second.couple.trans first.couple,
    second.inviter.trans first.inviter, second.invitee.trans first.invitee,
    second.code.trans first.code, second.created.trans first.created,
    second.expires.trans first.expires⟩

/-- An update of invite rows that never makes an invite pending. -/
structure Retires (f : CoupleInvite → CoupleInvite) : Prop where
  same : ∀ i, SameInvite i (f i)
  status : ∀ i, (f i).status = .pending → i.status = .pending

theorem cancel_when_retires (test : CoupleInvite → Bool) : Retires (cancelWhen test) := by
  constructor
  · intro i
    unfold cancelWhen
    split
    · exact ⟨rfl, rfl, rfl, rfl, rfl, rfl, rfl⟩
    · exact same_invite_refl i
  · intro i pending
    unfold cancelWhen at pending
    split at pending
    · simp at pending
    · exact pending

theorem respond_retires (id : Nat) (status : InviteStatus) (respondedAt : Option Nat)
    (closed : status ≠ .pending) : Retires (respond id status respondedAt) := by
  constructor
  · intro i
    unfold respond
    split
    · exact ⟨rfl, rfl, rfl, rfl, rfl, rfl, rfl⟩
    · exact same_invite_refl i
  · intro i pending
    unfold respond at pending
    split at pending
    · exact False.elim (closed pending)
    · exact pending

theorem map_field_of_retires {α : Type} {f : CoupleInvite → CoupleInvite} (field : CoupleInvite → α)
    (kept : ∀ i, field (f i) = field i) (rows : List CoupleInvite) :
    (rows.map f).map field = rows.map field := by
  simp [Function.comp_def, kept]

section MapInvites
variable {s : Store} {f : CoupleInvite → CoupleInvite} (retires : Retires f)
include retires

theorem keyed_map_invites (keyed : Keyed s) : Keyed (s.mapInvites f) where
  couple_below := keyed.couple_below
  invite_below := by
    intro j mem
    obtain ⟨i, mi, rfl⟩ := List.mem_map.mp mem
    rw [(retires.same i).id]
    exact keyed.invite_below i mi
  couple_key := keyed.couple_key
  invite_key := by
    have kept := map_field_of_retires CoupleInvite.id (fun i => (retires.same i).id) s.invites
    simpa only [Store.mapInvites, kept] using keyed.invite_key
  member_key := keyed.member_key
  invite_couple := by
    intro j mem
    obtain ⟨i, mi, rfl⟩ := List.mem_map.mp mem
    rw [(retires.same i).couple]
    exact keyed.invite_couple i mi
  member_couple := keyed.member_couple

theorem linked_map_invites (linked : Linked s) : Linked (s.mapInvites f) where
  own_couple := by
    have kept :=
      map_field_of_retires CoupleInvite.coupleId (fun i => (retires.same i).couple) s.invites
    simpa only [Store.mapInvites, kept] using linked.own_couple
  pending_invite := by
    intro j mem pending c mc same
    obtain ⟨i, mi, rfl⟩ := List.mem_map.mp mem
    rw [(retires.same i).couple] at same
    exact linked.pending_invite i mi (retires.status i pending) c mc same

theorem paired_map_invites (paired : Paired s) : Paired (s.mapInvites f) where
  parties := by
    intro j mem
    obtain ⟨i, mi, rfl⟩ := List.mem_map.mp mem
    rw [(retires.same i).invitee, (retires.same i).inviter]
    exact paired.parties i mi
  pending_couple := paired.pending_couple
  active_couple := by
    intro c mc active
    obtain ⟨i, mi, couple, v, invitee, roles⟩ := paired.active_couple c mc active
    have same := retires.same i
    refine ⟨f i, List.mem_map_of_mem mi, same.couple.trans couple, v,
      same.invitee.trans invitee, ?_⟩
    rw [same.inviter]
    exact roles

end MapInvites

theorem keyed_create_couple {s : Store} {now : Nat} (keyed : Keyed s) :
    Keyed (s.createCouple now) where
  couple_below := by
    intro c mem
    simp only [Store.createCouple, List.mem_append, List.mem_singleton] at mem ⊢
    rcases mem with old | new
    · have := keyed.couple_below c old
      omega
    · subst c
      exact Nat.lt_succ_self _
  invite_below := by
    intro i mem
    have := keyed.invite_below i mem
    simp only [Store.createCouple]
    omega
  couple_key := append_fresh_key keyed.couple_key fun c mc =>
    Nat.ne_of_lt (keyed.couple_below c mc)
  invite_key := keyed.invite_key
  member_key := keyed.member_key
  invite_couple := by
    intro i mem
    obtain ⟨c, mc, same⟩ := keyed.invite_couple i mem
    exact ⟨c, List.mem_append_left _ mc, same⟩
  member_couple := by
    intro m mem
    obtain ⟨c, mc, same⟩ := keyed.member_couple m mem
    exact ⟨c, List.mem_append_left _ mc, same⟩

theorem linked_create_couple {s : Store} {now : Nat} (linked : Linked s) :
    Linked (s.createCouple now) where
  own_couple := linked.own_couple
  pending_invite := by
    intro i mi pending c mem same
    rcases List.mem_append.mp mem with old | new
    · exact linked.pending_invite i mi pending c old same
    · rw [List.mem_singleton.mp new]

theorem paired_create_couple {s : Store} {now : Nat} (keyed : Keyed s) (paired : Paired s) :
    Paired (s.createCouple now) where
  parties := paired.parties
  pending_couple := by
    intro c mem pending m mm
    rcases List.mem_append.mp mem with old | new
    · exact paired.pending_couple c old pending m mm
    · obtain ⟨d, md, same⟩ := keyed.member_couple m mm
      have below := keyed.couple_below d md
      rw [List.mem_singleton.mp new]
      simp only [ne_eq]
      omega
  active_couple := by
    intro c mem active
    rcases List.mem_append.mp mem with old | new
    · exact paired.active_couple c old active
    · rw [List.mem_singleton.mp new] at active
      simp at active

theorem create_invite_eq {s t : Store} {row : CoupleInvite} (done : s.createInvite row = some t) :
    (∃ c ∈ s.couples, c.id = row.coupleId) ∧
      t = { s with invites := s.invites ++ [row], nextId := s.nextId + 1 } := by
  unfold Store.createInvite at done
  split at done
  · rename_i ok
    have found := ok.1
    simp only [List.any_eq_true, decide_eq_true_eq] at found
    exact ⟨found, (Option.some.inj done).symm⟩
  · simp at done

theorem create_invite_some {s : Store} {row : CoupleInvite}
    (found : ∃ c ∈ s.couples, c.id = row.coupleId) :
    (s.createInvite row).isSome ↔ ∀ i ∈ s.invites, i.code ≠ row.code := by
  unfold Store.createInvite
  split
  · rename_i both
    simpa using both.2
  · rename_i neither
    simp only [List.any_eq_true, decide_eq_true_eq, found, true_and, not_not] at neither
    simpa using neither

section CreateInvite
variable {s t : Store} {row : CoupleInvite} (done : s.createInvite row = some t)
include done

theorem keyed_create_invite (fresh : row.id = s.nextId) (keyed : Keyed s) : Keyed t := by
  obtain ⟨couple, rfl⟩ := create_invite_eq done
  exact {
    couple_below := fun c mc => Nat.lt_succ_of_lt (keyed.couple_below c mc)
    invite_below := by
      intro i mem
      rcases List.mem_append.mp mem with old | new
      · exact Nat.lt_succ_of_lt (keyed.invite_below i old)
      · rw [List.mem_singleton.mp new, fresh]
        exact Nat.lt_succ_self _
    couple_key := keyed.couple_key
    invite_key := append_fresh_key keyed.invite_key fun i mi => by
      rw [fresh]
      exact Nat.ne_of_lt (keyed.invite_below i mi)
    member_key := keyed.member_key
    invite_couple := by
      intro i mem
      rcases List.mem_append.mp mem with old | new
      · exact keyed.invite_couple i old
      · rw [List.mem_singleton.mp new]
        exact couple
    member_couple := keyed.member_couple }

theorem linked_create_invite (unused : ∀ i ∈ s.invites, i.coupleId ≠ row.coupleId)
    (open_couple : ∀ c ∈ s.couples, c.id = row.coupleId → c.status = .pending)
    (linked : Linked s) : Linked t := by
  obtain ⟨_, rfl⟩ := create_invite_eq done
  exact {
    own_couple := append_fresh_key linked.own_couple unused
    pending_invite := by
      intro i mem pending c mc same
      rcases List.mem_append.mp mem with old | new
      · exact linked.pending_invite i old pending c mc same
      · rw [List.mem_singleton.mp new] at same
        exact open_couple c mc same }

theorem paired_create_invite (parties : ∃ v, row.inviteeUserId = some v ∧ v ≠ row.inviterUserId)
    (paired : Paired s) : Paired t := by
  obtain ⟨_, rfl⟩ := create_invite_eq done
  exact {
    parties := by
      intro i mem
      rcases List.mem_append.mp mem with old | new
      · exact paired.parties i old
      · rw [List.mem_singleton.mp new]
        exact parties
    pending_couple := paired.pending_couple
    active_couple := by
      intro c mc active
      obtain ⟨i, mi, facts⟩ := paired.active_couple c mc active
      exact ⟨i, List.mem_append_left _ mi, facts⟩ }

end CreateInvite

theorem delete_couple_eq {s t : Store} {id : Nat} (done : s.deleteCouple id = some t) :
    (∃ c ∈ s.couples, c.id = id) ∧
    t = { s with couples := s.couples.filter (·.id ≠ id)
                 members := s.members.filter (·.coupleId ≠ id)
                 invites := s.invites.filter (·.coupleId ≠ id)
                 owned := s.owned.filter (·.coupleId ≠ id) } := by
  unfold Store.deleteCouple at done
  exact change_found done

section DeleteCouple
variable {s t : Store} {id : Nat} (done : s.deleteCouple id = some t)
include done

theorem keyed_delete_couple (keyed : Keyed s) : Keyed t := by
  obtain ⟨_, rfl⟩ := delete_couple_eq done
  have couple_left : ∀ ref, ref ≠ id → (∃ c ∈ s.couples, c.id = ref) →
      ∃ c ∈ s.couples.filter (·.id ≠ id), c.id = ref := by
    intro ref other found
    obtain ⟨c, mc, same⟩ := found
    exact ⟨c, List.mem_filter.mpr ⟨mc, by simpa [same] using other⟩, same⟩
  exact {
    couple_below := fun c mem => keyed.couple_below c (List.mem_filter.mp mem).1
    invite_below := fun i mem => keyed.invite_below i (List.mem_filter.mp mem).1
    couple_key := keyed.couple_key.sublist (List.filter_sublist.map _)
    invite_key := keyed.invite_key.sublist (List.filter_sublist.map _)
    member_key := keyed.member_key.sublist (List.filter_sublist.map _)
    invite_couple := by
      intro i mem
      obtain ⟨mi, other⟩ := List.mem_filter.mp mem
      exact couple_left _ (by simpa using other) (keyed.invite_couple i mi)
    member_couple := by
      intro m mem
      obtain ⟨mm, other⟩ := List.mem_filter.mp mem
      exact couple_left _ (by simpa using other) (keyed.member_couple m mm) }

theorem linked_delete_couple (linked : Linked s) : Linked t := by
  obtain ⟨_, rfl⟩ := delete_couple_eq done
  exact {
    own_couple := linked.own_couple.sublist (List.filter_sublist.map _)
    pending_invite := fun i mi pending c mc same =>
      linked.pending_invite i (List.mem_filter.mp mi).1 pending c (List.mem_filter.mp mc).1 same }

theorem paired_delete_couple (paired : Paired s) : Paired t := by
  obtain ⟨_, rfl⟩ := delete_couple_eq done
  exact {
    parties := fun i mi => paired.parties i (List.mem_filter.mp mi).1
    pending_couple := fun c mc pending m mm =>
      paired.pending_couple c (List.mem_filter.mp mc).1 pending m (List.mem_filter.mp mm).1
    active_couple := by
      intro c mem active
      obtain ⟨mc, other⟩ := List.mem_filter.mp mem
      have stays : c.id ≠ id := by simpa using other
      obtain ⟨i, mi, couple, v, invitee, roles⟩ := paired.active_couple c mc active
      refine ⟨i, List.mem_filter.mpr ⟨mi, by simpa [couple] using stays⟩, couple, v, invitee, ?_⟩
      rw [← roles]
      unfold memberRoles
      simp only [filter_after_delete _ stays.symm] }

end DeleteCouple

def activate (id now : Nat) (c : Couple) : Couple :=
  if c.id = id then { c with status := .active, updatedAt := now } else c

theorem activate_id (id now : Nat) (c : Couple) : (activate id now c).id = c.id := by
  unfold activate
  split <;> rfl

theorem activate_pending {id now : Nat} {c : Couple}
    (pending : (activate id now c).status = .pending) :
    c.id ≠ id ∧ c.status = .pending := by
  unfold activate at pending
  split at pending
  · simp at pending
  · exact ⟨by assumption, pending⟩

theorem activate_active {id now : Nat} {c : Couple}
    (active : (activate id now c).status = .active) :
    c.id = id ∨ c.status = .active := by
  unfold activate at active
  split at active
  · exact Or.inl (by assumption)
  · exact Or.inr active

/-- What the two middle statements of the transaction do together. -/
def formPair (s : Store) (id inviter invitee now : Nat) : Store :=
  { s with couples := s.couples.map (activate id now)
           members := s.members ++ [⟨s.nextId, id, inviter, none, .owner⟩,
             ⟨s.nextId + 1, id, invitee, none, .member⟩]
           nextId := s.nextId + 2 }

def acceptEffect (s : Store) (invite : CoupleInvite) (userId now : Nat) : Store :=
  (formPair (s.mapInvites (respond invite.id .accepted (some now)))
    invite.coupleId invite.inviterUserId userId now).cancelOthers invite.id invite.inviterUserId userId

structure CanPair (s : Store) (invite : CoupleInvite) (userId : Nat) : Prop where
  invite_found : ∃ j ∈ s.invites, j.id = invite.id
  couple_found : ∃ c ∈ s.couples, c.id = invite.coupleId
  inviter_free : ∀ m ∈ s.members, m.userId ≠ invite.inviterUserId
  invitee_free : ∀ m ∈ s.members, m.userId ≠ userId
  distinct : invite.inviterUserId ≠ userId

theorem member_by_user_none {s : Store} {userId : Nat} (free : s.memberByUser userId = none) :
    ∀ m ∈ s.members, m.userId ≠ userId := by
  intro m mem
  simpa using List.find?_eq_none.mp free m mem

theorem update_invite_eq {s t : Store} {id : Nat} {status : InviteStatus}
    {respondedAt : Option Nat} (done : s.updateInvite id status respondedAt = some t) :
    (∃ j ∈ s.invites, j.id = id) ∧ t = s.mapInvites (respond id status respondedAt) := by
  unfold Store.updateInvite at done
  exact change_found done

theorem activate_couple_eq {s t : Store} {id now : Nat} (done : s.activateCouple id now = some t) :
    (∃ c ∈ s.couples, c.id = id) ∧ t = { s with couples := s.couples.map (activate id now) } := by
  unfold Store.activateCouple at done
  exact change_found done

theorem create_member_eq {s t : Store} {coupleId userId : Nat} {role : CoupleMemberRole}
    (done : s.createMember coupleId userId role = some t) :
    (∀ m ∈ s.members, m.userId ≠ userId) ∧
      t = { s with members := s.members ++ [⟨s.nextId, coupleId, userId, none, role⟩]
                   nextId := s.nextId + 1 } := by
  unfold Store.createMember at done
  split at done
  · rename_i ok
    have free := ok.2
    simp only [List.any_eq_true, decide_eq_true_eq, not_exists, not_and] at free
    exact ⟨free, (Option.some.inj done).symm⟩
  · simp at done

/-- A committed transaction found its rows and both users free, and its effect is determined. -/
theorem accept_transaction_eq {s t : Store} {invite : CoupleInvite} {userId now : Nat}
    (done : s.acceptTransaction invite userId now = some t) :
    CanPair s invite userId ∧ t = acceptEffect s invite userId now := by
  simp only [Store.acceptTransaction, Store.createMembers, List.foldlM_cons, List.foldlM_nil,
    bind, Option.bind_eq_some_iff, pure] at done
  obtain ⟨accepted, first, activated, second, joined, ⟨owner, third, both, fourth, last⟩, final⟩ :=
    done
  obtain ⟨found, rfl⟩ := update_invite_eq first
  obtain ⟨couple, rfl⟩ := activate_couple_eq second
  obtain ⟨inviter_free, rfl⟩ := create_member_eq third
  obtain ⟨invitee_free, rfl⟩ := create_member_eq fourth
  obtain rfl := Option.some.inj last
  obtain rfl := Option.some.inj final
  refine ⟨⟨found, couple, inviter_free, ?_, ?_⟩, ?_⟩
  · intro m mem
    exact invitee_free m (List.mem_append_left _ mem)
  · exact invitee_free ⟨s.nextId, invite.coupleId, invite.inviterUserId, none, .owner⟩
      (List.mem_append_right _ (by simp [Store.mapInvites]))
  · simp [acceptEffect, formPair, Store.mapInvites]

theorem update_invite_some {s : Store} {id : Nat} (found : ∃ j ∈ s.invites, j.id = id)
    (status : InviteStatus) (respondedAt : Option Nat) :
    s.updateInvite id status respondedAt = some (s.mapInvites (respond id status respondedAt)) := by
  unfold Store.updateInvite
  exact if_pos (by simpa using found)

theorem create_member_some {s : Store} {coupleId u : Nat} (role : CoupleMemberRole)
    (found : ∃ c ∈ s.couples, c.id = coupleId) (free : ∀ m ∈ s.members, m.userId ≠ u) :
    s.createMember coupleId u role =
      some { s with members := s.members ++ [⟨s.nextId, coupleId, u, none, role⟩]
                    nextId := s.nextId + 1 } := by
  unfold Store.createMember
  exact if_pos ⟨by simpa using found, by simpa using free⟩

theorem create_pair_some {s : Store} {id inviter invitee : Nat}
    (found : ∃ c ∈ s.couples, c.id = id) (inviter_free : ∀ m ∈ s.members, m.userId ≠ inviter)
    (invitee_free : ∀ m ∈ s.members, m.userId ≠ invitee) (distinct : inviter ≠ invitee) :
    s.createMembers [(id, inviter, .owner), (id, invitee, .member)] =
      some { s with members := s.members ++ [⟨s.nextId, id, inviter, none, .owner⟩,
                      ⟨s.nextId + 1, id, invitee, none, .member⟩]
                    nextId := s.nextId + 2 } := by
  have first := create_member_some .owner found inviter_free
  have second := create_member_some
    (s := { s with members := s.members ++ [⟨s.nextId, id, inviter, none, .owner⟩]
                   nextId := s.nextId + 1 }) .member found (u := invitee) <| by
    intro m mem
    rcases List.mem_append.mp mem with old | new
    · exact invitee_free m old
    · rw [List.mem_singleton.mp new]
      exact distinct
  simp [Store.createMembers, first, second]

theorem accept_transaction_some {s : Store} {invite : CoupleInvite} {userId : Nat}
    (can : CanPair s invite userId) (now : Nat) :
    s.acceptTransaction invite userId now = some (acceptEffect s invite userId now) := by
  obtain ⟨found, couple, inviter_free, invitee_free, distinct⟩ := can
  have first := update_invite_some found .accepted (some now)
  generalize ht : s.mapInvites (respond invite.id .accepted (some now)) = t at first
  obtain ⟨couples_kept, members_kept⟩ : t.couples = s.couples ∧ t.members = s.members := by
    subst ht
    exact ⟨rfl, rfl⟩
  have second : t.activateCouple invite.coupleId now =
      some { t with couples := t.couples.map (activate invite.coupleId now) } := by
    unfold Store.activateCouple
    exact if_pos (by simpa [couples_kept] using couple)
  have third := create_pair_some
    (s := { t with couples := t.couples.map (activate invite.coupleId now) })
    (by simpa [couples_kept, activate_id] using couple)
    (by simpa [members_kept] using inviter_free) (by simpa [members_kept] using invitee_free)
    distinct
  simp only [Store.acceptTransaction, first, second, third, bind, Option.bind_some, acceptEffect,
    ht, formPair]

theorem transaction_commits_iff {s : Store} {invite : CoupleInvite} {userId now : Nat} :
    (s.acceptTransaction invite userId now).isSome ↔ CanPair s invite userId := by
  constructor
  · intro commits
    obtain ⟨t, done⟩ := Option.isSome_iff_exists.mp commits
    exact (accept_transaction_eq done).1
  · intro can
    rw [accept_transaction_some can]
    rfl

instance (s : Store) (invite : CoupleInvite) (userId : Nat) : Decidable (CanPair s invite userId) :=
  decidable_of_iff ((s.acceptTransaction invite userId 0).isSome = true) transaction_commits_iff

section FormPair
variable {s : Store} {id inviter invitee now : Nat}

theorem keyed_form_pair (keyed : Keyed s) (couple : ∃ c ∈ s.couples, c.id = id)
    (inviter_free : ∀ m ∈ s.members, m.userId ≠ inviter)
    (invitee_free : ∀ m ∈ s.members, m.userId ≠ invitee) (distinct : inviter ≠ invitee) :
    Keyed (formPair s id inviter invitee now) := by
  have kept : (s.couples.map (activate id now)).map Couple.id = s.couples.map Couple.id := by
    simp [Function.comp_def, activate_id]
  have found : ∀ ref, (∃ c ∈ s.couples, c.id = ref) →
      ∃ c ∈ s.couples.map (activate id now), c.id = ref := by
    intro ref old
    obtain ⟨c, mc, same⟩ := old
    exact ⟨activate id now c, List.mem_map_of_mem mc, (activate_id id now c).trans same⟩
  exact {
    couple_below := by
      intro d mem
      obtain ⟨c, mc, rfl⟩ := List.mem_map.mp mem
      have := keyed.couple_below c mc
      simp only [activate_id, formPair]
      omega
    invite_below := by
      intro i mem
      have := keyed.invite_below i mem
      simp only [formPair]
      omega
    couple_key := by
      simp only [formPair, kept]
      exact keyed.couple_key
    invite_key := keyed.invite_key
    member_key := by
      simp only [formPair, List.map_append, List.map_cons, List.map_nil]
      refine keyed.member_key.append (by simp [distinct]) ?_
      intro user old new
      obtain ⟨m, mm, rfl⟩ := List.mem_map.mp old
      simp only [List.mem_cons, List.not_mem_nil, or_false] at new
      rcases new with same | same
      · exact inviter_free m mm same
      · exact invitee_free m mm same
    invite_couple := fun i mem => found _ (keyed.invite_couple i mem)
    member_couple := by
      intro m mem
      rcases List.mem_append.mp mem with old | new
      · exact found _ (keyed.member_couple m old)
      · simp only [List.mem_cons, List.not_mem_nil, or_false] at new
        rcases new with rfl | rfl <;> exact found _ couple }

theorem linked_form_pair (linked : Linked s)
    (closed : ∀ i ∈ s.invites, i.coupleId = id → i.status ≠ .pending) :
    Linked (formPair s id inviter invitee now) where
  own_couple := linked.own_couple
  pending_invite := by
    intro i mi pending d mem same
    obtain ⟨c, mc, rfl⟩ := List.mem_map.mp mem
    rw [activate_id] at same
    by_cases here : c.id = id
    · exact False.elim (closed i mi (same.symm.trans here) pending)
    · simp only [activate, here, ↓reduceIte]
      exact linked.pending_invite i mi pending c mc same

theorem member_roles_form_pair (other : Nat) :
    memberRoles (formPair s id inviter invitee now) other = memberRoles s other ++
      if id = other then [(inviter, .owner), (invitee, .member)] else [] := by
  unfold memberRoles formPair
  by_cases here : id = other <;> simp [here]

theorem member_roles_empty (coupleId : Nat) (none_there : ∀ m ∈ s.members, m.coupleId ≠ coupleId) :
    memberRoles s coupleId = [] := by
  unfold memberRoles
  rw [List.map_eq_nil_iff, List.filter_eq_nil_iff]
  intro m mem
  simpa using none_there m mem

/-- A couple whose members are known is active already; as its inviter is still free, the couple
    formed here was pending and had no member. -/
theorem paired_form_pair (linked : Linked s) (paired : Paired s) {j : CoupleInvite}
    (mj : j ∈ s.invites) (couple : j.coupleId = id) (from_inviter : j.inviterUserId = inviter)
    (to_invitee : j.inviteeUserId = some invitee)
    (inviter_free : ∀ m ∈ s.members, m.userId ≠ inviter) :
    Paired (formPair s id inviter invitee now) := by
  have was_pending : ∀ c ∈ s.couples, c.id = id → c.status = .pending := by
    intro c mc same
    cases status : c.status with
    | pending => rfl
    | active =>
      obtain ⟨i, mi, own, v, _, roles⟩ := paired.active_couple c mc status
      have one : i = j := row_unique linked.own_couple mi mj (own.trans (same.trans couple.symm))
      have there : (i.inviterUserId, CoupleMemberRole.owner) ∈ memberRoles s c.id := by
        rw [roles]
        exact List.mem_cons_self
      obtain ⟨m, mm, eq⟩ := List.mem_map.mp there
      have user : m.userId = inviter := by
        rw [one, from_inviter] at eq
        exact congrArg Prod.fst eq
      exact False.elim (inviter_free m (List.mem_filter.mp mm).1 user)
  exact {
    parties := paired.parties
    pending_couple := by
      intro d mem pending m mm
      obtain ⟨c, mc, rfl⟩ := List.mem_map.mp mem
      obtain ⟨other, old_pending⟩ := activate_pending pending
      rw [activate_id]
      rcases List.mem_append.mp mm with old | new
      · exact paired.pending_couple c mc old_pending m old
      · simp only [List.mem_cons, List.not_mem_nil, or_false] at new
        rcases new with rfl | rfl <;> exact Ne.symm other
    active_couple := by
      intro d mem active
      obtain ⟨c, mc, rfl⟩ := List.mem_map.mp mem
      rw [activate_id, member_roles_form_pair]
      by_cases here : c.id = id
      · have empty := member_roles_empty c.id
          (paired.pending_couple c mc (was_pending c mc here))
        refine ⟨j, mj, couple.trans here.symm, invitee, to_invitee, ?_⟩
        rw [empty, from_inviter]
        simp [here]
      · obtain ⟨i, mi, own, v, invited, roles⟩ :=
          paired.active_couple c mc ((activate_active active).resolve_left here)
        refine ⟨i, mi, own, v, invited, ?_⟩
        simp [roles, Ne.symm here] }

end FormPair

structure Consistent (s : Store) : Prop where
  keyed : Keyed s
  linked : Linked s
  paired : Paired s

theorem consistent_map_invites {s : Store} {f : CoupleInvite → CoupleInvite} (retires : Retires f)
    (consistent : Consistent s) : Consistent (s.mapInvites f) :=
  ⟨keyed_map_invites retires consistent.keyed, linked_map_invites retires consistent.linked,
    paired_map_invites retires consistent.paired⟩

/-- The invite a transaction accepts is closed by its first statement, so its couple may form. -/
theorem accepted_closed {s : Store} (linked : Linked s) {j : CoupleInvite} (mj : j ∈ s.invites)
    (now : Nat) : ∀ i ∈ (s.mapInvites (respond j.id .accepted (some now))).invites,
      i.coupleId = j.coupleId → i.status ≠ .pending := by
  intro i mem same
  obtain ⟨old, mo, rfl⟩ := List.mem_map.mp mem
  rw [((respond_retires j.id .accepted (some now) (by simp)).same old).couple] at same
  rw [row_unique linked.own_couple mo mj same]
  simp [respond]

section AcceptEffect
variable {s : Store} {invite j : CoupleInvite} {userId now : Nat}

theorem keyed_accept (keyed : Keyed s) (can : CanPair s invite userId) :
    Keyed (acceptEffect s invite userId now) := by
  have answered := keyed_map_invites
    (respond_retires invite.id .accepted (some now) (by simp)) keyed
  have formed : Keyed (formPair _ invite.coupleId invite.inviterUserId userId now) :=
    keyed_form_pair answered can.couple_found can.inviter_free can.invitee_free can.distinct
  exact keyed_map_invites (cancel_when_retires _) formed

theorem linked_accept (linked : Linked s) (mj : j ∈ s.invites) (same : SameInvite invite j) :
    Linked (acceptEffect s invite userId now) := by
  have answered := linked_map_invites
    (respond_retires invite.id .accepted (some now) (by simp)) linked
  have closed := accepted_closed linked mj now
  rw [same.id, same.couple] at closed
  exact linked_map_invites (cancel_when_retires _) (linked_form_pair answered closed)

theorem paired_accept (linked : Linked s) (paired : Paired s) (can : CanPair s invite userId)
    (mj : j ∈ s.invites) (same : SameInvite invite j)
    (received : invite.inviteeUserId = some userId) :
    Paired (acceptEffect s invite userId now) := by
  have retires := respond_retires invite.id .accepted (some now) (by simp)
  have answer := retires.same j
  have formed : Paired (formPair _ invite.coupleId invite.inviterUserId userId now) :=
    paired_form_pair (linked_map_invites retires linked) (paired_map_invites retires paired)
      (List.mem_map_of_mem mj) (answer.couple.trans same.couple)
      (answer.inviter.trans same.inviter) (answer.invitee.trans (same.invitee.trans received))
      can.inviter_free
  exact paired_map_invites (cancel_when_retires _) formed

end AcceptEffect

theorem consistent_empty (users : List User) : Consistent (Store.empty users) := by
  refine ⟨⟨?_, ?_, ?_, ?_, ?_, ?_, ?_⟩, ⟨?_, ?_⟩, ⟨?_, ?_, ?_⟩⟩ <;> simp [Store.empty]

end CoupleConsistency
