import Linkly.CoupleAtomicity

/-!
The settings of a couple as its two members see them. The statements of requests to change them
come between the statements of the invite calls, and any of them may be rejected by the database;
the couple that a member is shown always has the member and one partner in it.
-/
namespace CoupleSettings
open CoupleStore CoupleService CoupleConsistency CoupleFrames CoupleRaces CoupleCalls CoupleInfo
  CoupleAtomicity KeyedRows TransitionRuns

/-- A request to change the settings, with the statements that it has still to make. -/
structure Edit where
  coupleId : Nat
  userId : Nat
  rest : List Statement
  deriving DecidableEq, Repr

structure Settings where
  system : System
  edits : List Edit

inductive Event where
  | invites (e : CoupleService.Event)
  | update (coupleId userId : Nat) (dto : UpdateCoupleDto) (first : Attempt)
  | write (index : Nat) (a : Attempt)

section Steps
variable (newDate : String → Option Int)

/-- The request looks for the row of its user and for one of a partner. -/
def startEdit (s : Store) (coupleId userId : Nat) (dto : UpdateCoupleDto) (first : Attempt) :
    Option Edit :=
  if first.fails then none
  else
    let members := s.members.filter (·.coupleId = coupleId)
    (members.find? (·.userId = userId)).map fun me =>
      let others := members.filter (·.userId ≠ userId)
      let partner := others[first.choice.pick % others.length]?
      ⟨coupleId, userId, statements newDate me partner dto⟩

/-- A request ends with its last statement or with the first one that is rejected. -/
def write (y : Settings) (index : Nat) (e : Edit) (a : Attempt) : Option Settings :=
  match e.rest with
  | [] => none
  | w :: rest =>
    match execStatement (fun _ => a) e.coupleId e.userId y.system.store w with
    | .error _ => some { y with edits := y.edits.eraseIdx index }
    | .ok t =>
      some
        { system := { y.system with store := t }
          edits := if rest = [] then y.edits.eraseIdx index
            else y.edits.set index { e with rest := rest } }

def step (y : Settings) : Event → Option Settings
  | .invites e => (CoupleService.step y.system e).map fun z => { y with system := z }
  | .update coupleId userId dto first =>
    some
      { y with
        edits := (startEdit newDate y.system.store coupleId userId dto first).toList ++ y.edits }
  | .write index a =>
    match y.edits[index]? with
    | none => none
    | some e => write y index e a

end Steps

def start (users : List User) : Settings := ⟨initial (Store.empty users), []⟩

/-- The two members that the settings show. -/
def settingsMe (info : Info) : Option MemberInfo := info.members.find? (·.isMe)

def settingsPartner (info : Info) : Option MemberInfo := info.members.find? (!·.isMe)

section Rewriting

/-- The rows with other nicknames and another anniversary. -/
structure Restyles (f : Couple → Couple) (g : CoupleMember → CoupleMember) : Prop where
  couple : ∀ c, (f c).id = c.id ∧ (f c).status = c.status
  member : ∀ m, (g m).id = m.id ∧ (g m).coupleId = m.coupleId ∧ (g m).userId = m.userId ∧
    (g m).role = m.role

def restyle (f : Couple → Couple) (g : CoupleMember → CoupleMember) (s : Store) : Store :=
  { s with couples := s.couples.map f, members := s.members.map g }

variable {f : Couple → Couple} {g : CoupleMember → CoupleMember} {s : Store}
  (restyles : Restyles f g)
include restyles

theorem couple_restyled {id : Nat} :
    (∃ c ∈ (restyle f g s).couples, c.id = id) ↔ ∃ c ∈ s.couples, c.id = id := by
  simp [restyle, restyles.couple]

theorem keyed_restyle (keyed : Keyed s) : Keyed (restyle f g s) where
  couple_below := by
    intro c mem
    obtain ⟨old, mo, rfl⟩ := List.mem_map.mp mem
    rw [(restyles.couple old).1]
    exact keyed.couple_below old mo
  invite_below := keyed.invite_below
  couple_key := by
    have same : (s.couples.map f).map Couple.id = s.couples.map Couple.id := by
      simp [Function.comp_def, restyles.couple]
    simpa only [restyle, same] using keyed.couple_key
  invite_key := keyed.invite_key
  member_key := by
    have same : (s.members.map g).map CoupleMember.userId = s.members.map CoupleMember.userId := by
      simp [Function.comp_def, restyles.member]
    simpa only [restyle, same] using keyed.member_key
  invite_couple i mem := (couple_restyled restyles).mpr (keyed.invite_couple i mem)
  member_couple := by
    intro m mem
    obtain ⟨old, mo, rfl⟩ := List.mem_map.mp mem
    rw [(restyles.member old).2.1]
    exact (couple_restyled restyles).mpr (keyed.member_couple old mo)

theorem linked_restyle (linked : Linked s) : Linked (restyle f g s) where
  own_couple := linked.own_couple
  pending_invite := by
    intro i mi pending c mem same
    obtain ⟨old, mo, rfl⟩ := List.mem_map.mp mem
    rw [(restyles.couple old).1] at same
    rw [(restyles.couple old).2]
    exact linked.pending_invite i mi pending old mo same

theorem roles_restyle (coupleId : Nat) :
    memberRoles (restyle f g s) coupleId = memberRoles s coupleId := by
  unfold memberRoles restyle
  rw [filter_rewritten fun m _ => by rw [(restyles.member m).2.1]]
  simp [Function.comp_def, restyles.member]

theorem paired_restyle (paired : Paired s) : Paired (restyle f g s) where
  parties := paired.parties
  pending_couple := by
    intro c mc pending m mm
    obtain ⟨old, mo, rfl⟩ := List.mem_map.mp mc
    obtain ⟨row, mr, rfl⟩ := List.mem_map.mp mm
    rw [(restyles.couple old).1, (restyles.member row).2.1]
    exact paired.pending_couple old mo ((restyles.couple old).2 ▸ pending) row mr
  active_couple := by
    intro c mc active
    obtain ⟨old, mo, rfl⟩ := List.mem_map.mp mc
    rw [(restyles.couple old).1, roles_restyle restyles]
    exact paired.active_couple old mo ((restyles.couple old).2 ▸ active)

theorem frame_restyle {frame : Frame} (ok : FrameOk s frame) : FrameOk (restyle f g s) frame := by
  have known {invite : CoupleInvite} (held : Known s invite) : Known (restyle f g s) invite :=
    ⟨held.below, held.couple_below, held.same, fun found =>
      held.present ((couple_restyled restyles).mp found)⟩
  have joined {coupleId userId : Nat} (held : Joined s coupleId userId) :
      Joined (restyle f g s) coupleId userId := by
    refine ⟨held.below, fun found => ?_⟩
    obtain ⟨m, mm, couple, user⟩ := held.member ((couple_restyled restyles).mp found)
    exact ⟨g m, List.mem_map_of_mem mm, by rw [(restyles.member m).2.1, couple],
      by rw [(restyles.member m).2.2.1, user]⟩
  cases frame with
  | sendCreateInvite inviter invitee coupleId =>
    refine ⟨ok.1, ok.2.below, ok.2.no_invite, ?_⟩
    intro c mem same
    obtain ⟨old, mo, rfl⟩ := List.mem_map.mp mem
    rw [(restyles.couple old).1] at same
    rw [(restyles.couple old).2]
    exact ok.2.pending old mo same
  | acceptCheckMine invite userId => exact ⟨known ok.1, ok.2⟩
  | acceptCheckInviter invite userId => exact ⟨known ok.1, ok.2⟩
  | acceptCommit invite userId => exact ⟨known ok.1, ok.2⟩
  | declineUpdate invite => exact known ok
  | declineDelete invite => exact known ok
  | cancelUpdate invite => exact known ok
  | cancelDelete invite => exact known ok
  | breakUpPhotos coupleId userId => exact joined ok
  | breakUpDelete coupleId userId => exact joined ok
  | _ => exact ok

end Rewriting

section Updates
variable {newDate : String → Option Int} {attempts : Statement → Attempt} {coupleId userId : Nat}
  {s : Store} {dto : UpdateCoupleDto}

theorem couple_effects_keep (ws : List Statement) (c : Couple) :
    (ws.foldl (fun c w => coupleEffect attempts coupleId w c) c).id = c.id ∧
      (ws.foldl (fun c w => coupleEffect attempts coupleId w c) c).status = c.status := by
  induction ws generalizing c with
  | nil => exact ⟨rfl, rfl⟩
  | cons w rest ih =>
    have first : (coupleEffect attempts coupleId w c).id = c.id ∧
        (coupleEffect attempts coupleId w c).status = c.status := by
      cases w with
      | updateCouple value =>
        simp only [coupleEffect, setAnniversary]
        split <;> exact ⟨rfl, rfl⟩
      | _ => exact ⟨rfl, rfl⟩
    obtain ⟨id, status⟩ := ih (coupleEffect attempts coupleId w c)
    exact ⟨id.trans first.1, status.trans first.2⟩

theorem member_effects_keep (ws : List Statement) (m : CoupleMember) :
    (ws.foldl (fun m w => memberEffect w m) m).id = m.id ∧
      (ws.foldl (fun m w => memberEffect w m) m).coupleId = m.coupleId ∧
      (ws.foldl (fun m w => memberEffect w m) m).userId = m.userId ∧
      (ws.foldl (fun m w => memberEffect w m) m).role = m.role := by
  induction ws generalizing m with
  | nil => exact ⟨rfl, rfl, rfl, rfl⟩
  | cons w rest ih =>
    have first : (memberEffect w m).role = m.role := by
      cases w with
      | updateMember memberId nickname =>
        simp only [memberEffect, setNickname]
        split <;> rfl
      | _ => rfl
    obtain ⟨same_id, same_couple, same_user⟩ := member_effect_keeps w m
    obtain ⟨id, couple, user, role⟩ := ih (memberEffect w m)
    exact ⟨id.trans same_id, couple.trans same_couple, user.trans same_user, role.trans first⟩

theorem exec_all_applied {ws : List Statement} {u : Unit}
    (returned : (execAll attempts coupleId userId s ws).2 = .ok u) :
    (execAll attempts coupleId userId s ws).1 = applied attempts coupleId s ws := by
  rcases first_split (Rejected attempts coupleId userId s) ws with
    all_done | ⟨front, w, back, rfl, done, rejected⟩
  · rw [exec_all_done all_done]
  · obtain ⟨error, stops⟩ := exec_all_stops back done rejected
    simp [stops] at returned

/-- A statement of a request changes nicknames or an anniversary at most. -/
theorem statement_restyles {w : Statement} {t : Store}
    (done : execStatement attempts coupleId userId s w = .ok t) :
    ∃ f g, Restyles f g ∧ t = restyle f g s := by
  by_cases rejected : Rejected attempts coupleId userId s w
  · obtain ⟨error, stops⟩ := exec_statement_rejected rejected
    simp [stops] at done
  · rw [exec_statement_done rejected] at done
    cases done
    exact ⟨coupleEffect attempts coupleId w, memberEffect w,
      ⟨couple_effects_keep [w], member_effects_keep [w]⟩, rfl⟩

end Updates

section Reached
variable {users : List User} {s t : Store} {f g : Frame}

def Exists (users : List User) (id : Nat) : Prop := ∃ u ∈ users, u.id = id

/-- Both users of an invite exist. -/
def Between (users : List User) (i : CoupleInvite) : Prop :=
  Exists users i.inviterUserId ∧ ∀ v, i.inviteeUserId = some v → Exists users v

/-- The users that a call has found are users of the table. -/
def FrameUsers (users : List User) : Frame → Prop
  | .sendFindInvitee inviter _ => inviter ∈ users
  | .sendCheckMine inviter invitee | .sendCheckTheirs inviter invitee
  | .sendCancelPending inviter invitee | .sendCreateCouple inviter invitee
  | .sendCreateInvite inviter invitee _ => inviter ∈ users ∧ invitee ∈ users
  | .acceptCheckMine invite userId | .acceptCheckInviter invite userId
  | .acceptCommit invite userId => Between users invite ∧ Exists users userId
  | _ => True

/-- Rows refer to users that exist, and member rows have ids of their own. -/
structure Rooted (users : List User) (s : Store) : Prop where
  table : s.users = users
  invites : ∀ i ∈ s.invites, Between users i
  members : ∀ m ∈ s.members, Exists users m.userId
  member_below : ∀ m ∈ s.members, m.id < s.nextId
  member_ids : (s.members.map CoupleMember.id).Nodup

theorem between_same {i j : CoupleInvite} (same : SameInvite i j) (between : Between users i) :
    Between users j := by
  unfold Between
  rw [same.inviter, same.invitee]
  exact between

theorem rooted_map_invites {h : CoupleInvite → CoupleInvite} (retires : Retires h)
    (rooted : Rooted users s) : Rooted users (s.mapInvites h) :=
  { rooted with
    invites := by
      intro j mem
      obtain ⟨i, mi, rfl⟩ := List.mem_map.mp mem
      exact between_same (retires.same i) (rooted.invites i mi) }

theorem rooted_form_pair {id inviter invitee now : Nat} (sender : Exists users inviter)
    (receiver : Exists users invitee) (rooted : Rooted users s) :
    Rooted users (formPair s id inviter invitee now) where
  table := rooted.table
  invites := rooted.invites
  members := by
    intro m mem
    rcases List.mem_append.mp mem with old | new
    · exact rooted.members m old
    · simp only [List.mem_cons, List.not_mem_nil, or_false] at new
      rcases new with rfl | rfl
      · exact sender
      · exact receiver
  member_below := by
    intro m mem
    change m.id < s.nextId + 2
    rcases List.mem_append.mp mem with old | new
    · have := rooted.member_below m old
      omega
    · simp only [List.mem_cons, List.not_mem_nil, or_false] at new
      rcases new with rfl | rfl <;> simp
  member_ids := by
    have first : ∀ m ∈ s.members, m.id ≠ s.nextId := by
      intro m mem
      have := rooted.member_below m mem
      omega
    have second : ∀ m ∈ s.members ++ [⟨s.nextId, id, inviter, none, .owner⟩],
        m.id ≠ s.nextId + 1 := by
      intro m mem
      rcases List.mem_append.mp mem with old | new
      · have := rooted.member_below m old
        omega
      · simp [List.mem_singleton.mp new]
    have both := append_fresh_key (a := ⟨s.nextId + 1, id, invitee, none, .member⟩)
      (append_fresh_key (a := ⟨s.nextId, id, inviter, none, .owner⟩) rooted.member_ids first) second
    simpa only [formPair, List.append_assoc, List.cons_append, List.nil_append] using both

theorem rooted_write (write : Write f s t) (found : FrameUsers users f) (rooted : Rooted users s) :
    Rooted users t := by
  cases write with
  | unchanged => exact rooted
  | retired retires => exact rooted_map_invites retires rooted
  | newCouple =>
    exact
      { rooted with
        member_below := fun m mem => Nat.lt_succ_of_lt (rooted.member_below m mem) }
  | @newInvite choice inviter invitee coupleId _ frame done =>
    subst frame
    obtain ⟨_, rfl⟩ := create_invite_eq done
    refine
      { rooted with
        invites := ?_
        member_below := fun m mem => Nat.lt_succ_of_lt (rooted.member_below m mem) }
    intro i mem
    rcases List.mem_append.mp mem with old | new
    · exact rooted.invites i old
    · rw [List.mem_singleton.mp new]
      refine ⟨⟨inviter, found.1, rfl⟩, ?_⟩
      intro v same
      exact ⟨invitee, found.2, Option.some.inj same⟩
  | @accepted invite userId now frame can =>
    subst frame
    have answered := rooted_map_invites
      (respond_retires invite.id .accepted (some now) (by simp)) rooted
    exact rooted_map_invites (cancel_when_retires _)
      (rooted_form_pair found.1.1 found.2 answered)
  | deleted frame done =>
    obtain ⟨_, rfl⟩ := delete_couple_eq done
    exact
      { table := rooted.table
        invites := fun i mem => rooted.invites i (List.mem_of_mem_filter mem)
        members := fun m mem => rooted.members m (List.mem_of_mem_filter mem)
        member_below := fun m mem => rooted.member_below m (List.mem_of_mem_filter mem)
        member_ids := rooted.member_ids.sublist (List.filter_sublist.map _) }

theorem next_users {choice : Choice} (rooted : Rooted users s) (found : FrameUsers users f)
    (next : Next choice s f g) : FrameUsers users g := by
  cases next with
  | sendFindInviter row =>
    rw [← rooted.table]
    exact List.mem_of_find?_eq_some row
  | sendFindInvitee row different =>
    refine ⟨found, ?_⟩
    rw [← rooted.table]
    exact List.mem_of_find?_eq_some row
  | sendCheckMine | sendCheckTheirs | sendCancelPending | sendCreateCouple | acceptCheckMine
  | acceptCheckInviter => exact found
  | acceptFind checked =>
    obtain ⟨mem, addressed, _⟩ := check_received_ok checked
    have between := rooted.invites _ mem
    exact ⟨between, between.2 _ addressed⟩
  | _ => trivial

theorem rooted_restyle {f : Couple → Couple} {g : CoupleMember → CoupleMember}
    (restyles : Restyles f g) (rooted : Rooted users s) : Rooted users (restyle f g s) where
  table := rooted.table
  invites := rooted.invites
  members := by
    intro m mem
    obtain ⟨old, mo, rfl⟩ := List.mem_map.mp mem
    rw [(restyles.member old).2.2.1]
    exact rooted.members old mo
  member_below := by
    intro m mem
    obtain ⟨old, mo, rfl⟩ := List.mem_map.mp mem
    rw [(restyles.member old).1]
    exact rooted.member_below old mo
  member_ids := by
    have same : (s.members.map g).map CoupleMember.id = s.members.map CoupleMember.id := by
      simp [Function.comp_def, restyles.member]
    simpa only [restyle, same] using rooted.member_ids

/-- What holds of the rows and the open calls after every event. -/
structure Settled (users : List User) (y : System) : Prop where
  ok : SystemOk y
  paired : Paired y.store
  rooted : Rooted users y.store
  found : ∀ f ∈ y.calls, FrameUsers users f

theorem settled_invites {y z : System} {e : CoupleService.Event}
    (moved : CoupleService.step y e = some z) (settled : Settled users y) : Settled users z := by
  have ok := step_ok settled.ok moved
  have paired := step_paired settled.ok moved settled.paired
  cases e with
  | call c =>
    obtain rfl := Option.some.inj moved
    refine ⟨ok, paired, settled.rooted, ?_⟩
    intro f mem
    rcases List.mem_cons.mp mem with rfl | old
    · cases c <;> trivial
    · exact settled.found f old
  | statement index choice =>
    obtain ⟨f, at_index, rfl⟩ := statement_iff.mp moved
    have mine := settled.found f (List.mem_of_getElem? at_index)
    refine ⟨ok, paired, rooted_write (exec_write choice y.store f) mine settled.rooted, ?_⟩
    intro g mem
    rcases List.mem_append.mp mem with new | other
    · exact next_users settled.rooted mine (exec_next (mem_frames_iff.mp new))
    · exact settled.found g (List.mem_of_mem_eraseIdx other)

theorem settled_restyle {f : Couple → Couple} {g : CoupleMember → CoupleMember} {y : System}
    (restyles : Restyles f g) (settled : Settled users y) :
    Settled users { y with store := restyle f g y.store } where
  ok :=
    { keyed := keyed_restyle restyles settled.ok.keyed
      linked := linked_restyle restyles settled.ok.linked
      frames := fun frame mem => frame_restyle restyles (settled.ok.frames frame mem)
      apart := settled.ok.apart
      reserved_below := settled.ok.reserved_below }
  paired := paired_restyle restyles settled.paired
  rooted := rooted_restyle restyles settled.rooted
  found := settled.found

theorem settled_step {newDate : String → Option Int} {y z : Settings} {e : Event}
    (moved : step newDate y e = some z) (settled : Settled users y.system) :
    Settled users z.system := by
  cases e with
  | invites e =>
    obtain ⟨next, once, rfl⟩ := Option.map_eq_some_iff.mp moved
    exact settled_invites once settled
  | update coupleId userId dto first =>
    cases moved
    exact settled
  | write index a =>
    simp only [step] at moved
    split at moved
    · simp at moved
    rename_i e _
    unfold write at moved
    split at moved
    · simp at moved
    rename_i w rest _
    split at moved
    · cases moved
      exact settled
    · rename_i t done
      cases moved
      obtain ⟨f, g, restyles, rfl⟩ := statement_restyles done
      exact settled_restyle restyles settled

theorem settled_initial (users : List User) : Settled users (initial (Store.empty users)) := by
  have start := consistent_empty users
  refine ⟨initial_ok start.keyed start.linked, start.paired, ⟨rfl, ?_, ?_, ?_, ?_⟩, ?_⟩ <;>
    simp [initial, Store.empty]

theorem run_settled {newDate : String → Option Int} {es : List Event} {y : Settings}
    (reached : run (step newDate) (start users) es = some y) : Settled users y.system :=
  run_keeps (fun y : Settings => Settled users y.system)
    (fun _ _ _ once kept => settled_step once kept) reached (settled_initial users)

end Reached

section Shown
variable {users : List User} {s : Store} {coupleId userId : Nat}

/-- A member as the settings show it to a user. -/
def shownTo (viewer : Nat) (user : User) (m : CoupleMember) : MemberInfo where
  memberId := m.id
  userId := m.userId
  nickname := m.nickname.getD user.displayName
  displayName := user.displayName
  birthday := user.birthday
  homeAddress := user.homeAddress
  role := m.role
  isMe := m.userId = viewer

/-- The rows behind the settings of a couple. -/
structure PairRows (s : Store) (coupleId : Nat) (couple : Couple) (owner member : CoupleMember)
    (ownerUser memberUser : User) : Prop where
  couple_found : s.couples.find? (·.id = coupleId) = some couple
  couple_id : couple.id = coupleId
  active : couple.status = .active
  rows : s.members.filter (·.coupleId = coupleId) = [owner, member]
  roles : owner.role = .owner ∧ member.role = .member
  different : owner.userId ≠ member.userId
  owner_found : s.userById owner.userId = some ownerUser
  member_found : s.userById member.userId = some memberUser

theorem user_by_id_some (rooted : Rooted users s) {id : Nat} (exist : Exists users id) :
    ∃ user, s.userById id = some user := by
  obtain ⟨u, mem, same⟩ := exist
  apply Option.isSome_iff_exists.mp
  unfold Store.userById
  rw [List.find?_isSome, rooted.table]
  exact ⟨u, mem, by simpa using same⟩

theorem pair_rows (agree : Agree s) (keyed : Keyed s) (rooted : Rooted users s) {m : CoupleMember}
    (mem : m ∈ s.members) (own : m.coupleId = coupleId) :
    ∃ couple owner member ownerUser memberUser,
      PairRows s coupleId couple owner member ownerUser memberUser := by
  obtain ⟨couple, mc, same⟩ := keyed.member_couple m mem
  rw [own] at same
  have active : couple.status = .active := by
    cases status : couple.status with
    | active => rfl
    | pending =>
      have empty := agree.pending_empty couple mc status
      rw [List.filter_eq_nil_iff] at empty
      exact absurd (by simp [own, same]) (empty m mem)
  obtain ⟨_, owner, member, _, rows, owner_role, _, member_role, _, different⟩ :=
    agree.active_pair couple mc active
  rw [same] at rows
  have in_rows {row : CoupleMember} (inside : row ∈ [owner, member]) : row ∈ s.members := by
    rw [← rows] at inside
    exact (List.mem_filter.mp inside).1
  obtain ⟨ownerUser, owner_found⟩ :=
    user_by_id_some rooted (rooted.members owner (in_rows (by simp)))
  obtain ⟨memberUser, member_found⟩ :=
    user_by_id_some rooted (rooted.members member (in_rows (by simp)))
  have found : s.couples.find? (·.id = coupleId) = some couple := by
    have some_row : (s.couples.find? (·.id = coupleId)).isSome := by
      rw [List.find?_isSome]
      exact ⟨couple, mc, by simpa using same⟩
    obtain ⟨other, found⟩ := Option.isSome_iff_exists.mp some_row
    have other_id : other.id = coupleId := by simpa using List.find?_some found
    rw [found, row_unique keyed.couple_key (List.mem_of_find?_eq_some found) mc
      (other_id.trans same.symm)]
  exact ⟨couple, owner, member, ownerUser, memberUser, found, same, active, rows,
    ⟨owner_role, member_role⟩, different, owner_found, member_found⟩

section Pair
variable {couple : Couple} {owner member : CoupleMember} {ownerUser memberUser : User}
  (pair : PairRows s coupleId couple owner member ownerUser memberUser)
include pair

/-- The settings of the couple, as its rows give them to one of its members. -/
theorem read_pair (viewer : Nat) : readCouple s coupleId viewer = .ok
    { id := couple.id
      status := couple.status
      anniversaryDate := couple.anniversaryDate
      createdAt := couple.createdAt
      members := [shownTo viewer ownerUser owner, shownTo viewer memberUser member] } := by
  unfold readCouple
  rw [pair.couple_found, pair.rows]
  simp [memberInfo, pair.owner_found, pair.member_found, shownTo]

theorem is_member_iff (viewer : Nat) :
    (∃ m ∈ s.members, m.coupleId = coupleId ∧ m.userId = viewer) ↔
      owner.userId = viewer ∨ member.userId = viewer := by
  have inside (m : CoupleMember) :
      (m ∈ s.members ∧ m.coupleId = coupleId) ↔ m = owner ∨ m = member := by
    have listed : m ∈ s.members.filter (·.coupleId = coupleId) ↔ m = owner ∨ m = member := by
      rw [pair.rows]
      simp
    rw [← listed, List.mem_filter]
    simp
  constructor
  · intro there
    obtain ⟨m, mem, own, user⟩ := there
    rcases (inside m).mp ⟨mem, own⟩ with rfl | rfl
    · exact Or.inl user
    · exact Or.inr user
  · intro user
    rcases user with mine | mine
    · obtain ⟨mem, own⟩ := (inside owner).mpr (Or.inl rfl)
      exact ⟨owner, mem, own, mine⟩
    · obtain ⟨mem, own⟩ := (inside member).mpr (Or.inr rfl)
      exact ⟨member, mem, own, mine⟩

end Pair

theorem find_info_ok {viewer : Nat}
    (there : ∃ m ∈ s.members, m.coupleId = coupleId ∧ m.userId = viewer) :
    findCoupleInfo s coupleId viewer = readCouple s coupleId viewer := by
  obtain ⟨m, mem, own⟩ := there
  have some_row : (s.memberByCoupleUser coupleId viewer).isSome := by
    unfold Store.memberByCoupleUser
    rw [List.find?_isSome]
    exact ⟨m, mem, by simpa using own⟩
  obtain ⟨row, found⟩ := Option.isSome_iff_exists.mp some_row
  simp [findCoupleInfo, ensureCoupleMember, found, bind, Except.bind]

theorem find_info_member {viewer : Nat} {info : Info}
    (shown : findCoupleInfo s coupleId viewer = .ok info) :
    ∃ m ∈ s.members, m.coupleId = coupleId ∧ m.userId = viewer := by
  unfold findCoupleInfo ensureCoupleMember at shown
  cases found : s.memberByCoupleUser coupleId viewer with
  | none => simp [found, bind, Except.bind] at shown
  | some m =>
    have test := List.find?_some found
    simp only [decide_eq_true_eq] at test
    exact ⟨m, List.mem_of_find?_eq_some found, test⟩

/-- A user is shown the couple with the user and one partner in it, who is shown the same two. -/
structure ShowsPair (s : Store) (coupleId userId : Nat) (info : Info) : Prop where
  id : info.id = coupleId
  active : info.status = .active
  two : info.members.length = 2
  pair : ∃ me partner, settingsMe info = some me ∧ settingsPartner info = some partner ∧
    me.userId = userId ∧ partner.userId ≠ userId ∧ me.role ≠ partner.role ∧
    ∃ theirs, findCoupleInfo s coupleId partner.userId = .ok theirs ∧
      settingsMe theirs = some { partner with isMe := true } ∧
      settingsPartner theirs = some { me with isMe := false }

theorem shows_pair (agree : Agree s) (keyed : Keyed s) (rooted : Rooted users s) {info : Info}
    (shown : findCoupleInfo s coupleId userId = .ok info) :
    ShowsPair s coupleId userId info := by
  have there := find_info_member shown
  have ⟨m, mem, own, _⟩ := there
  obtain ⟨couple, owner, member, ownerUser, memberUser, pair⟩ :=
    pair_rows agree keyed rooted mem own
  rw [find_info_ok there, read_pair pair] at shown
  obtain rfl := Except.ok.inj shown
  have different := pair.different
  have roles := pair.roles
  refine ⟨pair.couple_id, pair.active, rfl, ?_⟩
  rcases (is_member_iff pair userId).mp there with mine | mine
  · subst mine
    have theirs := (is_member_iff pair member.userId).mpr (Or.inr rfl)
    refine ⟨shownTo owner.userId ownerUser owner, shownTo owner.userId memberUser member,
      ?_, ?_, rfl, different.symm, by simp [shownTo, roles], _,
      (find_info_ok theirs).trans (read_pair pair _), ?_, ?_⟩ <;>
      simp [settingsMe, settingsPartner, shownTo, different, different.symm]
  · subst mine
    have theirs := (is_member_iff pair owner.userId).mpr (Or.inl rfl)
    refine ⟨shownTo member.userId memberUser member, shownTo member.userId ownerUser owner,
      ?_, ?_, rfl, different, by simp [shownTo, roles], _,
      (find_info_ok theirs).trans (read_pair pair _), ?_, ?_⟩ <;>
      simp [settingsMe, settingsPartner, shownTo, different, different.symm]

end Shown

/-- In every state that is reached, the settings of a couple are shown to its members only, and to
    both of them with the same two people. -/
theorem settings_show_pair {users : List User} {newDate : String → Option Int} {es : List Event}
    {y : Settings} (reached : run (step newDate) (start users) es = some y)
    (coupleId userId : Nat) :
    ((findCoupleInfo y.system.store coupleId userId).isOk = true ↔
      ∃ m ∈ y.system.store.members, m.coupleId = coupleId ∧ m.userId = userId) ∧
    ∀ info, findCoupleInfo y.system.store coupleId userId = .ok info →
      ShowsPair y.system.store coupleId userId info := by
  have settled := run_settled reached
  have agree := agree_of_consistent settled.ok.keyed settled.ok.linked settled.paired
  refine ⟨?_, fun info shown => shows_pair agree settled.ok.keyed settled.rooted shown⟩
  constructor
  · intro shown
    cases found : findCoupleInfo y.system.store coupleId userId with
    | error e => simp [found, Except.isOk, Except.toBool] at shown
    | ok info => exact find_info_member found
  · intro there
    obtain ⟨m, mem, own, user⟩ := there
    obtain ⟨_, _, _, _, _, pair⟩ := pair_rows agree settled.ok.keyed settled.rooted mem own
    rw [find_info_ok ⟨m, mem, own, user⟩, read_pair pair]
    rfl

def pairedEvents : List Event := (inviteEvents ++ acceptEvents).map .invites

def smooth (_ : Statement) : Attempt := ⟨⟨1000, "", 0⟩, false⟩

/-- Both wish for names, and the database rejects the second one, for the partner. -/
def renamingEvents : List Event :=
  pairedEvents ++ [.update 0 2 ⟨none, some (some "Bee"), some (some "Cee")⟩ (smooth .findMembers),
    .write 0 (smooth .findMember), .write 0 ⟨⟨1000, "", 0⟩, true⟩]

theorem renamed_pair_is_shown : ∃ y, run (step fun _ => none) (start twoUsers) renamingEvents =
      some y ∧ ((findCoupleInfo y.system.store 0 2).isOk = true ↔
        ∃ m ∈ y.system.store.members, m.coupleId = 0 ∧ m.userId = 2) ∧
      ∃ info, findCoupleInfo y.system.store 0 2 = .ok info ∧
        ShowsPair y.system.store 0 2 info := by
  obtain ⟨y, reached, info, shown⟩ :
      ∃ y, run (step fun _ => none) (start twoUsers) renamingEvents = some y ∧
        ∃ info, findCoupleInfo y.system.store 0 2 = .ok info := ⟨_, rfl, _, rfl⟩
  have both := settings_show_pair reached 0 2
  exact ⟨y, reached, both.1, info, shown, both.2 info shown⟩

section Wishes
variable {users : List User} {s : Store} {coupleId userId : Nat}
  {newDate : String → Option Int} {attempts : Statement → Attempt} {dto : UpdateCoupleDto}

/-- A nickname that is set to nothing gives way to the display name. -/
def renamed (wish : Option (Option String)) (m : MemberInfo) : MemberInfo :=
  match wish with
  | none => m
  | some value => { m with nickname := (orNull value).getD m.displayName }

/-- What a member wants the settings to say. -/
def rewished (newDate : String → Option Int) (dto : UpdateCoupleDto) (before : Info) : Info :=
  { before with
    anniversaryDate :=
      match dto.anniversaryDate with
      | none => before.anniversaryDate
      | some value => (orNull value).bind newDate
    members := before.members.map fun m =>
      renamed (if m.isMe then dto.myNickname else dto.partnerNickname) m }

/-- The same settings in the eyes of another member. -/
def seenBy (viewer : Nat) (info : Info) : Info :=
  { info with members := info.members.map fun m => { m with isMe := m.userId = viewer } }

def wishedName (wish : Option (Option String)) (m : CoupleMember) : CoupleMember :=
  match wish with
  | none => m
  | some value => { m with nickname := orNull value }

theorem shown_wished (viewer : Nat) (user : User) (wish : Option (Option String))
    (m : CoupleMember) :
    shownTo viewer user (wishedName wish m) = renamed wish (shownTo viewer user m) := by
  cases wish <;> rfl

/-- The statements of a request give both members the names that it asks for. -/
theorem member_after {me partner : CoupleMember} (distinct : partner.id ≠ me.id)
    (m : CoupleMember) :
    (statements newDate me (some partner) dto).foldl (fun m w => memberEffect w m) m =
      if m.id = me.id then wishedName dto.myNickname m
      else if m.id = partner.id then wishedName dto.partnerNickname m else m := by
  obtain ⟨anniversaryDate, myNickname, partnerNickname⟩ := dto
  by_cases mine : m.id = me.id
  · have other : ¬ me.id = partner.id := distinct.symm
    cases anniversaryDate <;> cases myNickname <;> cases partnerNickname <;>
      simp [statements, memberEffect, setNickname, wishedName, mine, other]
  · cases anniversaryDate <;> cases myNickname <;> cases partnerNickname <;>
      simp [statements, memberEffect, setNickname, wishedName, mine]

theorem couple_after {me : CoupleMember} {partner : Option CoupleMember} (c : Couple) :
    ((statements newDate me partner dto).foldl
        (fun c w => coupleEffect attempts coupleId w c) c).anniversaryDate =
      if c.id = coupleId then
        match dto.anniversaryDate with
        | none => c.anniversaryDate
        | some value => (orNull value).bind newDate
      else c.anniversaryDate := by
  obtain ⟨anniversaryDate, myNickname, partnerNickname⟩ := dto
  have joined (value : Option String) : ((orNull value).map newDate).join =
      (orNull value).bind newDate := by
    cases orNull value <;> rfl
  by_cases here : c.id = coupleId <;> cases anniversaryDate <;> cases myNickname <;>
    cases partnerNickname <;> cases partner <;>
    simp [statements, coupleEffect, setAnniversary, here, joined]

theorem couple_after_other {me : CoupleMember} {partner : Option CoupleMember} {c : Couple}
    (other : c.id ≠ coupleId) :
    (statements newDate me partner dto).foldl
      (fun c w => coupleEffect attempts coupleId w c) c = c := by
  exact foldl_misses (fun w c => couple_effect_other) fun w _ (hit : OfCouple coupleId w c) =>
    other hit.1

theorem couple_after_created {ws : List Statement} (c : Couple) :
    (ws.foldl (fun c w => coupleEffect attempts coupleId w c) c).createdAt = c.createdAt := by
  induction ws generalizing c with
  | nil => rfl
  | cons w rest ih =>
    rw [List.foldl_cons, ih]
    cases w with
    | updateCouple value =>
      simp only [coupleEffect, setAnniversary]
      split <;> rfl
    | _ => rfl

theorem update_ok_starts {t : Store} {info : Info}
    (returned : updateCouple newDate attempts coupleId userId s dto = (t, .ok info)) :
    ∃ me partner, UpdateStarts attempts s coupleId userId me partner ∧
      t = applied attempts coupleId s (statements newDate me partner dto) ∧
      readCouple t coupleId userId = .ok info := by
  have found : ∃ me partner, UpdateStarts attempts s coupleId userId me partner := by
    unfold updateCouple at returned
    split at returned
    · simp at returned
    · rename_i served
      dsimp only at returned
      split at returned
      · simp at returned
      · rename_i me mine
        exact ⟨me, _, by simpa using served, mine, rfl⟩
  obtain ⟨me, partner, starts⟩ := found
  rw [update_starts_eq starts, Prod.mk.injEq] at returned
  obtain ⟨rfl, read⟩ := returned
  cases done : (execAll attempts coupleId userId s (statements newDate me partner dto)).2 with
  | error e => simp [done, bind, Except.bind] at read
  | ok u =>
    rw [done] at read
    exact ⟨me, partner, starts, exec_all_applied done, read⟩

theorem pair_rows_restyle {f : Couple → Couple} {g : CoupleMember → CoupleMember}
    (restyles : Restyles f g) {couple : Couple} {owner member : CoupleMember}
    {ownerUser memberUser : User}
    (pair : PairRows s coupleId couple owner member ownerUser memberUser) :
    PairRows (restyle f g s) coupleId (f couple) (g owner) (g member) ownerUser memberUser where
  couple_found := by
    unfold restyle
    rw [find_rewritten fun c _ => by rw [(restyles.couple c).1], pair.couple_found]
    rfl
  couple_id := (restyles.couple couple).1.trans pair.couple_id
  active := (restyles.couple couple).2.trans pair.active
  rows := by
    unfold restyle
    rw [filter_rewritten fun m _ => by rw [(restyles.member m).2.1], pair.rows]
    rfl
  roles := by
    rw [(restyles.member owner).2.2.2, (restyles.member member).2.2.2]
    exact pair.roles
  different := by
    rw [(restyles.member owner).2.2.1, (restyles.member member).2.2.1]
    exact pair.different
  owner_found := by
    rw [(restyles.member owner).2.2.1]
    exact pair.owner_found
  member_found := by
    rw [(restyles.member member).2.2.1]
    exact pair.member_found

/-- The partner that a request finds is the other one of the pair. -/
theorem starts_pair {couple : Couple} {owner member : CoupleMember} {ownerUser memberUser : User}
    (pair : PairRows s coupleId couple owner member ownerUser memberUser) {me : CoupleMember}
    {partner : Option CoupleMember} (starts : UpdateStarts attempts s coupleId userId me partner) :
    (me = owner ∧ userId = owner.userId ∧ partner = some member) ∨
      (me = member ∧ userId = member.userId ∧ partner = some owner) := by
  obtain ⟨_, mine, rfl⟩ := starts
  rw [pair.rows] at mine
  unfold othersOf
  rw [pair.rows]
  have different := pair.different
  by_cases first : owner.userId = userId
  · subst first
    have later : ¬ member.userId = owner.userId := different.symm
    have others : [owner, member].filter (·.userId ≠ owner.userId) = [member] := by
      simp [later]
    left
    rw [others]
    simp only [List.find?_cons, decide_true, Option.some.injEq] at mine
    exact ⟨mine.symm, rfl, by simp [Nat.mod_one]⟩
  · have second : member.userId = userId := by
      simp only [List.find?_cons, first, decide_false, List.find?_nil] at mine
      split at mine
      · rename_i same
        simpa using same
      · simp at mine
    subst second
    have others : [owner, member].filter (·.userId ≠ member.userId) = [owner] := by
      simp [first]
    right
    rw [others]
    simp only [List.find?_cons, first, decide_false, decide_true, Option.some.injEq] at mine
    exact ⟨mine.symm, rfl, by simp [Nat.mod_one]⟩

variable (newDate dto) in
/-- The two members of the couple are shown with the names that the request asks for. -/
theorem pair_after (user : User) {couple : Couple} {owner member : CoupleMember}
    {ownerUser memberUser : User}
    (pair : PairRows s coupleId couple owner member ownerUser memberUser) {me : CoupleMember}
    {partner : Option CoupleMember} (starts : UpdateStarts attempts s coupleId userId me partner)
    (keys : (s.members.map CoupleMember.id).Nodup) {m : CoupleMember}
    (shown : m = owner ∨ m = member) :
    shownTo userId user
        ((statements newDate me partner dto).foldl (fun m w => memberEffect w m) m) =
      renamed (if (shownTo userId user m).isMe then dto.myNickname else dto.partnerNickname)
        (shownTo userId user m) := by
  have apart := partner_distinct starts keys
  have different := pair.different
  rcases starts_pair pair starts with ⟨rfl, rfl, rfl⟩ | ⟨rfl, rfl, rfl⟩ <;>
    rw [member_after (apart _ rfl)] <;> rcases shown with rfl | rfl
  · rw [if_pos rfl, shown_wished]
    simp [shownTo]
  · rw [if_neg (apart _ rfl), if_pos rfl, shown_wished]
    simp [shownTo, different.symm]
  · rw [if_neg (apart _ rfl), if_pos rfl, shown_wished]
    simp [shownTo, different]
  · rw [if_pos rfl, shown_wished]
    simp [shownTo]

/-- A request does not touch the members of other couples. -/
theorem member_after_other {couple : Couple} {owner member : CoupleMember}
    {ownerUser memberUser : User}
    (pair : PairRows s coupleId couple owner member ownerUser memberUser) {me : CoupleMember}
    {partner : Option CoupleMember} (starts : UpdateStarts attempts s coupleId userId me partner)
    (keys : (s.members.map CoupleMember.id).Nodup) {m : CoupleMember} (mem : m ∈ s.members)
    (elsewhere : m.coupleId ≠ coupleId) :
    (statements newDate me partner dto).foldl (fun m w => memberEffect w m) m = m := by
  have apart := partner_distinct starts keys
  have outside {row : CoupleMember} (inside : row ∈ [owner, member]) : m.id ≠ row.id := by
    rw [← pair.rows] at inside
    obtain ⟨stored, own⟩ := List.mem_filter.mp inside
    intro same
    obtain rfl := row_unique keys mem stored same
    exact elsewhere (by simpa using own)
  rcases starts_pair pair starts with ⟨rfl, rfl, rfl⟩ | ⟨rfl, rfl, rfl⟩ <;>
    rw [member_after (apart _ rfl), if_neg (outside (by simp)), if_neg (outside (by simp))]

/-- A request leaves the settings of the other couples as they are. -/
theorem other_couple_kept {f : Couple → Couple} {g : CoupleMember → CoupleMember}
    (restyles : Restyles f g) {other viewer : Nat}
    (couples : ∀ c ∈ s.couples, c.id = other → f c = c)
    (members : ∀ m ∈ s.members, m.coupleId = other → g m = m) :
    findCoupleInfo (restyle f g s) other viewer = findCoupleInfo s other viewer := by
  have same_member : (restyle f g s).memberByCoupleUser other viewer =
      (s.memberByCoupleUser other viewer).map g := by
    unfold Store.memberByCoupleUser restyle
    exact find_rewritten fun m _ => by rw [(restyles.member m).2.1, (restyles.member m).2.2.1]
  have same_couple : (restyle f g s).couples.find? (·.id = other) =
      s.couples.find? (·.id = other) := by
    unfold restyle
    rw [find_rewritten fun c _ => by rw [(restyles.couple c).1]]
    cases found : s.couples.find? (·.id = other) with
    | none => rfl
    | some c =>
      have test := List.find?_some found
      rw [Option.map_some, couples c (List.mem_of_find?_eq_some found) (by simpa using test)]
  have same_rows : (restyle f g s).members.filter (·.coupleId = other) =
      s.members.filter (·.coupleId = other) := by
    unfold restyle
    exact filter_rewritten_fixed (fun m _ => by rw [(restyles.member m).2.1])
      fun m mem own => members m mem (by simpa using own)
  have checked : ensureCoupleMember (restyle f g s) other viewer =
      ensureCoupleMember s other viewer := by
    unfold ensureCoupleMember
    rw [same_member]
    cases s.memberByCoupleUser other viewer <;> rfl
  have read : readCouple (restyle f g s) other viewer = readCouple s other viewer := by
    unfold readCouple
    rw [same_couple, same_rows]
    rfl
  unfold findCoupleInfo
  rw [checked, read]

end Wishes

/-- A request to change the settings that returns has given both members the names it asks for and
    the couple its anniversary, for both of them to see, and has left everybody else alone. -/
theorem update_shows_wishes {users : List User} {newDate : String → Option Int} {es : List Event}
    {y : Settings} (reached : run (step newDate) (start users) es = some y)
    {coupleId userId : Nat} {dto : UpdateCoupleDto} {attempts : Statement → Attempt} {t : Store}
    {info : Info}
    (returned : updateCouple newDate attempts coupleId userId y.system.store dto = (t, .ok info)) :
    ∃ before, findCoupleInfo y.system.store coupleId userId = .ok before ∧
      info = rewished newDate dto before ∧
      (∀ viewer, (∃ m ∈ y.system.store.members, m.coupleId = coupleId ∧ m.userId = viewer) →
        findCoupleInfo t coupleId viewer = .ok (seenBy viewer info)) ∧
      ∀ other viewer, other ≠ coupleId →
        findCoupleInfo t other viewer = findCoupleInfo y.system.store other viewer := by
  have settled := run_settled reached
  have agree := agree_of_consistent settled.ok.keyed settled.ok.linked settled.paired
  obtain ⟨me, partner, starts, rfl, read⟩ := update_ok_starts returned
  have mine := List.mem_filter.mp (List.mem_of_find?_eq_some starts.mine)
  have my_user : me.userId = userId := by simpa using List.find?_some starts.mine
  have my_couple : me.coupleId = coupleId := by simpa using mine.2
  obtain ⟨couple, owner, member, ownerUser, memberUser, pair⟩ :=
    pair_rows agree settled.ok.keyed settled.rooted mine.1 my_couple
  have distinct := partner_distinct starts settled.rooted.member_ids
  have restyles : Restyles
      (fun c => (statements newDate me partner dto).foldl
        (fun c w => coupleEffect attempts coupleId w c) c)
      (fun m => (statements newDate me partner dto).foldl (fun m w => memberEffect w m) m) :=
    ⟨couple_effects_keep _, member_effects_keep _⟩
  have after := pair_rows_restyle restyles pair
  have there : ∃ m ∈ y.system.store.members, m.coupleId = coupleId ∧ m.userId = userId :=
    ⟨me, mine.1, my_couple, my_user⟩
  rw [applied_eq] at read ⊢
  change readCouple (restyle _ _ y.system.store) coupleId userId = .ok info at read
  rw [read_pair after] at read
  obtain rfl := Except.ok.inj read
  refine ⟨_, (find_info_ok there).trans (read_pair pair userId), ?_, ?_, ?_⟩
  · have kept := restyles.couple couple
    have names {user : User} {m : CoupleMember} (shown : m = owner ∨ m = member) :=
      pair_after newDate dto user pair starts settled.rooted.member_ids shown
    simp only [rewished, couple_after, if_pos pair.couple_id, kept, couple_after_created,
      names (Or.inl rfl), names (Or.inr rfl), List.map_cons, List.map_nil]
  · intro viewer known
    have seen := (is_member_iff pair viewer).mp known
    rw [← (restyles.member owner).2.2.1, ← (restyles.member member).2.2.1] at seen
    exact (find_info_ok ((is_member_iff after viewer).mpr seen)).trans (read_pair after viewer)
  · intro other viewer apart
    refine other_couple_kept restyles ?_ ?_
    · intro c _ same
      exact couple_after_other fun here => apart (same.symm.trans here)
    · intro m mem own
      exact member_after_other pair starts settled.rooted.member_ids mem
        fun here => apart (own.symm.trans here)

/-- The partner gets a name back to the display name while the own one is changed. -/
theorem renaming_is_shown : ∃ y t info, run (step fun _ => some 0) (start twoUsers) renamingEvents =
      some y ∧
      updateCouple (fun _ => some 0) smooth 0 1 y.system.store
        ⟨some (some "2024-01-01"), some (some "Ay"), some none⟩ = (t, .ok info) ∧
      ∃ before, findCoupleInfo y.system.store 0 1 = .ok before ∧
        info = rewished (fun _ => some 0)
          ⟨some (some "2024-01-01"), some (some "Ay"), some none⟩ before ∧
        findCoupleInfo t 0 2 = .ok (seenBy 2 info) := by
  obtain ⟨y, t, info, reached, returned, known⟩ :
      ∃ y t info, run (step fun _ => some 0) (start twoUsers) renamingEvents = some y ∧
        updateCouple (fun _ => some 0) smooth 0 1 y.system.store
          ⟨some (some "2024-01-01"), some (some "Ay"), some none⟩ = (t, .ok info) ∧
        ∃ m ∈ y.system.store.members, m.coupleId = 0 ∧ m.userId = 2 :=
    ⟨_, _, _, rfl, rfl, by decide⟩
  obtain ⟨before, found, wishes, both, _⟩ := update_shows_wishes reached returned
  exact ⟨y, t, info, reached, returned, before, found, wishes, both 2 known⟩

section Uninterrupted
variable {newDate : String → Option Int} {attempts : Statement → Attempt} {coupleId userId : Nat}
  {y : System} {edits : List Edit}

variable (newDate attempts coupleId userId y edits) in
theorem edit_runs {ws : List Statement} (more : ws ≠ []) :
    ∃ es, run (step newDate) ⟨y, ⟨coupleId, userId, ws⟩ :: edits⟩ es =
      some ⟨{ y with store := (execAll attempts coupleId userId y.store ws).1 }, edits⟩ := by
  induction ws generalizing y with
  | nil => exact absurd rfl more
  | cons w rest ih =>
    have one : execStatement (fun _ => attempts w) coupleId userId y.store w =
        execStatement attempts coupleId userId y.store w := by
      cases w <;> rfl
    cases done : execStatement attempts coupleId userId y.store w with
    | error e =>
      refine ⟨[.write 0 (attempts w)], ?_⟩
      simp [run, step, write, one, done, execAll]
    | ok t =>
      by_cases last : rest = []
      · subst last
        refine ⟨[.write 0 (attempts w)], ?_⟩
        simp [run, step, write, one, done, execAll]
      · obtain ⟨es, runs⟩ := ih { y with store := t } last
        refine ⟨.write 0 (attempts w) :: es, ?_⟩
        simpa [run, step, write, one, done, execAll, last] using runs

theorem start_edit_eq {s : Store} {dto : UpdateCoupleDto} {me : CoupleMember}
    {partner : Option CoupleMember} (starts : UpdateStarts attempts s coupleId userId me partner) :
    startEdit newDate s coupleId userId dto (attempts .findMembers) =
      some ⟨coupleId, userId, statements newDate me partner dto⟩ := by
  obtain ⟨served, mine, rfl⟩ := starts
  simp only [startEdit, served, mine, Bool.false_eq_true, if_false, Option.map_some]
  rfl

/-- Without statements of other calls in between, the steps of a request are those of the call. -/
theorem update_runs (dto : UpdateCoupleDto) : ∃ es, run (step newDate) ⟨y, edits⟩ es =
    some ⟨{ y with store := (updateCouple newDate attempts coupleId userId y.store dto).1 },
      edits⟩ := by
  by_cases served : (attempts .findMembers).fails = true
  · refine ⟨[.update coupleId userId dto (attempts .findMembers)], ?_⟩
    simp [run, step, startEdit, updateCouple, served]
  · cases mine : (y.store.members.filter (·.coupleId = coupleId)).find? (·.userId = userId) with
    | none =>
      refine ⟨[.update coupleId userId dto (attempts .findMembers)], ?_⟩
      simp [run, step, startEdit, updateCouple, served, mine]
    | some me =>
      obtain ⟨partner, starts⟩ :
          ∃ partner, UpdateStarts attempts y.store coupleId userId me partner :=
        ⟨_, by simpa using served, mine, rfl⟩
      have more : statements newDate me partner dto ≠ [] := by simp [statements]
      obtain ⟨es, runs⟩ := edit_runs newDate attempts coupleId userId y edits more
      refine ⟨.update coupleId userId dto (attempts .findMembers) :: es, ?_⟩
      rw [update_starts_eq starts, run_cons_iff]
      exact ⟨_, rfl, by rw [start_edit_eq starts]; exact runs⟩

end Uninterrupted

end CoupleSettings
