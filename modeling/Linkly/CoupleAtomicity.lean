import Linkly.CoupleInfo

/-!
What is left of a couple request that is rejected. The three checks of an invite come before its
first write and acceptInvite writes in a transaction; sendInvite and updateCouple write in several
statements, any of which may be rejected after the ones before it.
-/
namespace CoupleAtomicity
open CoupleStore CoupleService CoupleConsistency CoupleFrames CoupleRaces CoupleCalls CoupleInfo
  KeyedRows

def SameRows (s t : Store) : Prop :=
  t.couples = s.couples ∧ t.members = s.members ∧ t.invites = s.invites

instance (s t : Store) : Decidable (SameRows s t) := inferInstanceAs (Decidable (_ ∧ _ ∧ _))

/-- Each request comes with what the database makes of its statements. -/
inductive Request where
  | invite (attempts : Frame → Attempt) (c : Call)
  | updateCouple (newDate : String → Option Int) (attempts : Statement → Attempt)
      (coupleId userId : Nat) (dto : UpdateCoupleDto)

def Outcome.isRejected : Outcome → Bool
  | .rejected _ => true
  | _ => false

theorem is_rejected {o : Outcome} (rejected : Outcome.isRejected o = true) :
    ∃ error, o = .rejected error := by
  cases o with
  | rejected error => exact ⟨error, rfl⟩
  | _ => simp [Outcome.isRejected] at rejected

/-- The rows that a request leaves, and whether it was rejected. -/
def perform (s : Store) : Request → Store × Bool
  | .invite attempts c =>
    ((complete attempts s c).1, Outcome.isRejected (complete attempts s c).2)
  | .updateCouple newDate attempts coupleId userId dto =>
    let result := updateCouple newDate attempts coupleId userId s dto
    (result.1, !result.2.isOk)

def Atomic (s : Store) (request : Request) : Prop :=
  (perform s request).2 = true → SameRows s (perform s request).1

instance (s : Store) (request : Request) : Decidable (Atomic s request) :=
  inferInstanceAs (Decidable (_ → _))

section Statements
variable (attempts : Statement → Attempt) (coupleId userId : Nat) (s : Store)

/-- The database rejects the statement, or it finds no row. -/
def Rejected (w : Statement) : Prop :=
  (attempts w).fails = true ∨
    match w with
    | .findMembers => False
    | .updateCouple value => value = some none ∨ ¬ ∃ c ∈ s.couples, c.id = coupleId
    | .updateMember memberId _ => ¬ ∃ m ∈ s.members, m.id = memberId
    | .findMember => ¬ ∃ m ∈ s.members, m.coupleId = coupleId ∧ m.userId = userId
    | .findCouple => ¬ ∃ c ∈ s.couples, c.id = coupleId

/-- The statement writes nothing that is not in its row already. -/
def Stored : Statement → Prop
  | .updateCouple value => ∀ c ∈ s.couples, c.id = coupleId → c.anniversaryDate = value.join ∧
      c.updatedAt = (attempts (.updateCouple value)).choice.now
  | .updateMember memberId nickname => ∀ m ∈ s.members, m.id = memberId → m.nickname = nickname
  | _ => True

def coupleEffect : Statement → Couple → Couple
  | .updateCouple value =>
    setAnniversary coupleId value.join (attempts (.updateCouple value)).choice.now
  | _ => id

def memberEffect : Statement → CoupleMember → CoupleMember
  | .updateMember memberId nickname => setNickname memberId nickname
  | _ => id

def effect (w : Statement) : Store :=
  { s with couples := s.couples.map (coupleEffect attempts coupleId w)
           members := s.members.map (memberEffect w) }

end Statements

section Statements
variable {attempts : Statement → Attempt} {coupleId userId : Nat} {s : Store}

theorem couple_effect_id (w : Statement) (c : Couple) :
    (coupleEffect attempts coupleId w c).id = c.id := by
  cases w with
  | updateCouple value =>
    simp only [coupleEffect, setAnniversary]
    split <;> rfl
  | _ => rfl

theorem member_effect_keeps (w : Statement) (m : CoupleMember) :
    (memberEffect w m).id = m.id ∧ (memberEffect w m).coupleId = m.coupleId ∧
      (memberEffect w m).userId = m.userId := by
  cases w with
  | updateMember memberId nickname =>
    simp only [memberEffect, setNickname]
    split <;> simp
  | _ => exact ⟨rfl, rfl, rfl⟩

theorem rejected_effect (u w : Statement) :
    Rejected attempts coupleId userId (effect attempts coupleId s u) w ↔
      Rejected attempts coupleId userId s w := by
  cases w <;> simp [Rejected, effect, couple_effect_id, member_effect_keeps]

theorem exec_statement_rejected {w : Statement}
    (rejected : Rejected attempts coupleId userId s w) :
    ∃ error, execStatement attempts coupleId userId s w = .error error := by
  rcases rejected with failed | missing
  · exact ⟨_, if_pos failed⟩
  · unfold execStatement
    split
    · exact ⟨_, rfl⟩
    · cases w with
      | findMembers => exact missing.elim
      | updateCouple value =>
        rcases missing with rfl | absent
        · exact ⟨_, rfl⟩
        · rcases value with _ | _ | _ <;> simp [absent]
      | updateMember memberId nickname => simp [missing]
      | findMember =>
        have absent : s.memberByCoupleUser coupleId userId = none := by
          simpa [Store.memberByCoupleUser] using missing
        simp [ensureCoupleMember, absent, Except.map]
      | findCouple =>
        have absent : s.couples.find? (·.id = coupleId) = none := by simpa using missing
        simp [readCouple, absent, Except.map]

theorem exec_statement_done {w : Statement}
    (done : ¬ Rejected attempts coupleId userId s w) :
    execStatement attempts coupleId userId s w = .ok (effect attempts coupleId s w) := by
  simp only [Rejected, not_or] at done
  obtain ⟨served, found⟩ := done
  unfold execStatement
  rw [if_neg served]
  cases w with
  | findMembers => simp [effect, coupleEffect, memberEffect]
  | updateCouple value =>
    simp only [not_or, not_not] at found
    obtain ⟨valid, found⟩ := found
    rcases value with _ | _ | _ <;>
      simp_all [effect, coupleEffect, memberEffect]
  | updateMember memberId nickname =>
    simp only [not_not] at found
    simp [found, effect, coupleEffect, memberEffect]
  | findMember =>
    simp only [not_not] at found
    have some_row : (s.memberByCoupleUser coupleId userId).isSome := by
      simpa [Store.memberByCoupleUser] using found
    obtain ⟨m, found⟩ := Option.isSome_iff_exists.mp some_row
    simp [ensureCoupleMember, found, Except.map, effect, coupleEffect, memberEffect]
  | findCouple =>
    simp only [not_not] at found
    have some_row : (s.couples.find? (·.id = coupleId)).isSome := by simpa using found
    obtain ⟨c, found⟩ := Option.isSome_iff_exists.mp some_row
    simp [readCouple, found, Except.map, effect, coupleEffect, memberEffect]

variable (attempts coupleId s) in
def applied (ws : List Statement) : Store := ws.foldl (effect attempts coupleId) s

theorem applied_eq (ws : List Statement) :
    applied attempts coupleId s ws =
      { s with couples := s.couples.map fun c =>
                 ws.foldl (fun c w => coupleEffect attempts coupleId w c) c
               members := s.members.map fun m => ws.foldl (fun m w => memberEffect w m) m } := by
  induction ws generalizing s with
  | nil => simp [applied]
  | cons w rest ih =>
    have later := ih (s := effect attempts coupleId s w)
    unfold applied at later ⊢
    rw [List.foldl_cons, later]
    simp [effect, Function.comp_def]

theorem rejected_applied (ws : List Statement) (w : Statement) :
    Rejected attempts coupleId userId (applied attempts coupleId s ws) w ↔
      Rejected attempts coupleId userId s w := by
  induction ws generalizing s with
  | nil => rfl
  | cons u rest ih => exact (ih (s := effect attempts coupleId s u)).trans (rejected_effect u w)

theorem read_couple_ok (found : ¬ Rejected attempts coupleId userId s .findCouple) :
    (readCouple s coupleId userId).isOk = true := by
  simp only [Rejected, not_or, not_not] at found
  have some_row : (s.couples.find? (·.id = coupleId)).isSome := by simpa using found.2
  obtain ⟨c, row⟩ := Option.isSome_iff_exists.mp some_row
  simp [readCouple, row, Except.isOk, Except.toBool]

theorem exec_all_done {ws : List Statement}
    (done : ∀ w ∈ ws, ¬ Rejected attempts coupleId userId s w) :
    execAll attempts coupleId userId s ws = (applied attempts coupleId s ws, .ok ()) := by
  induction ws generalizing s with
  | nil => rfl
  | cons w rest ih =>
    obtain ⟨first, later⟩ := List.forall_mem_cons.mp done
    rw [execAll, exec_statement_done first]
    exact ih fun u mem => by
      rw [rejected_effect]
      exact later u mem

theorem exec_all_stops {front : List Statement} {w : Statement} (back : List Statement)
    (done : ∀ u ∈ front, ¬ Rejected attempts coupleId userId s u)
    (rejected : Rejected attempts coupleId userId s w) :
    ∃ error, execAll attempts coupleId userId s (front ++ w :: back) =
      (applied attempts coupleId s front, .error error) := by
  induction front generalizing s with
  | nil =>
    obtain ⟨error, stops⟩ := exec_statement_rejected rejected
    exact ⟨error, by rw [List.nil_append, execAll, stops]; rfl⟩
  | cons u rest ih =>
    obtain ⟨first, later⟩ := List.forall_mem_cons.mp done
    rw [List.cons_append, execAll, exec_statement_done first]
    refine ih (fun v mem => ?_) ((rejected_effect u w).mpr rejected)
    rw [rejected_effect]
    exact later v mem

/-- No two of the statements update one row. -/
def Apart : Statement → Statement → Prop
  | .updateCouple _, .updateCouple _ => False
  | .updateMember a _, .updateMember b _ => a ≠ b
  | _, _ => True

theorem couple_effect_self {w : Statement} :
    (∀ c ∈ s.couples, coupleEffect attempts coupleId w c = c) ∧
      (∀ m ∈ s.members, memberEffect w m = m) ↔ Stored attempts coupleId s w := by
  cases w with
  | updateCouple value =>
    simp only [coupleEffect, setAnniversary, memberEffect, id_eq, implies_true, and_true, Stored]
    refine forall₂_congr fun c _ => ?_
    split
    · rename_i here
      obtain ⟨_, _, _, _, _⟩ := c
      simp_all [eq_comm]
    · simp_all
  | updateMember memberId nickname =>
    simp only [coupleEffect, setNickname, memberEffect, id_eq, implies_true, true_and, Stored]
    refine forall₂_congr fun m _ => ?_
    split
    · rename_i here
      obtain ⟨_, _, _, _, _⟩ := m
      simp_all [eq_comm]
    · simp_all
  | _ => simp [coupleEffect, memberEffect, Stored]

variable (coupleId) in
def OfCouple (w : Statement) (c : Couple) : Prop :=
  c.id = coupleId ∧ ∃ value, w = .updateCouple value

def OfMember (w : Statement) (m : CoupleMember) : Prop := ∃ nickname, w = .updateMember m.id nickname

theorem couple_effect_other {w : Statement} {c : Couple} (other : ¬ OfCouple coupleId w c) :
    coupleEffect attempts coupleId w c = c := by
  cases w with
  | updateCouple value =>
    exact if_neg fun here => other ⟨here, value, rfl⟩
  | _ => rfl

theorem member_effect_other {w : Statement} {m : CoupleMember} (other : ¬ OfMember w m) :
    memberEffect w m = m := by
  cases w with
  | updateMember memberId nickname =>
    refine if_neg fun here => other ⟨nickname, ?_⟩
    rw [here]
  | _ => rfl

theorem same_rows_applied {ws : List Statement} (apart : ws.Pairwise Apart) :
    SameRows s (applied attempts coupleId s ws) ↔ ∀ w ∈ ws, Stored attempts coupleId s w := by
  have couples : ∀ c, ws.foldl (fun c w => coupleEffect attempts coupleId w c) c = c ↔
      ∀ w ∈ ws, coupleEffect attempts coupleId w c = c := by
    intro c
    refine foldl_eq_self_iff (fun w c => couple_effect_other) (fun u w c _ other => ?_)
      (apart.imp ?_)
    · unfold OfCouple
      rwa [couple_effect_id]
    · rintro u w apart ⟨⟨_, _, rfl⟩, _, _, rfl⟩
      exact apart
  have members : ∀ m, ws.foldl (fun m w => memberEffect w m) m = m ↔
      ∀ w ∈ ws, memberEffect w m = m := by
    intro m
    refine foldl_eq_self_iff (fun w m => member_effect_other) (fun u w m _ other => ?_)
      (apart.imp ?_)
    · unfold OfMember
      rwa [(member_effect_keeps w m).1]
    · rintro u w apart ⟨⟨_, rfl⟩, _, rfl⟩
      exact apart rfl
  simp only [SameRows, applied_eq, map_eq_self_iff, couples, members, ← couple_effect_self]
  constructor
  · rintro ⟨rows, more, _⟩ w mem
    exact ⟨fun c mc => rows c mc w mem, fun m mm => more m mm w mem⟩
  · intro rows
    exact ⟨fun c mc w mem => (rows w mem).1 c mc, fun m mm w mem => (rows w mem).2 m mm, trivial⟩

end Statements

section Requests
variable {s : Store}

def othersOf (s : Store) (coupleId userId : Nat) : List CoupleMember :=
  (s.members.filter (·.coupleId = coupleId)).filter (·.userId ≠ userId)

/-- An updateCouple call that has found the row of its user, and perhaps one of a partner. -/
structure UpdateStarts (attempts : Statement → Attempt) (s : Store) (coupleId userId : Nat)
    (me : CoupleMember) (partner : Option CoupleMember) : Prop where
  served : (attempts .findMembers).fails = false
  mine : (s.members.filter (·.coupleId = coupleId)).find? (·.userId = userId) = some me
  other : (othersOf s coupleId userId)[(attempts .findMembers).choice.pick %
    (othersOf s coupleId userId).length]? = partner

/-- Whatever was written before the statement that is rejected was there already. -/
def AtomicWhen (s : Store) : Request → Prop
  | .invite attempts (.sendInvite userId inviteeEmail) => ∀ inviter invitee,
      SendPasses attempts s userId inviteeEmail inviter invitee →
        if (attempts (.sendCreateCouple inviter invitee)).fails then
          s.pendingInvitesOf inviter.id = []
        else MakesInvite attempts s inviter invitee
  | .invite _ _ => True
  | .updateCouple newDate attempts coupleId userId dto => ∀ me partner,
      UpdateStarts attempts s coupleId userId me partner →
        ∀ front w back, statements newDate me partner dto = front ++ w :: back →
          (∀ u ∈ front, ¬ Rejected attempts coupleId userId s u) →
          Rejected attempts coupleId userId s w → ∀ u ∈ front, Stored attempts coupleId s u

theorem statements_apart (newDate : String → Option Int) {me : CoupleMember}
    {partner : Option CoupleMember} (distinct : ∀ p ∈ partner, p.id ≠ me.id)
    (dto : UpdateCoupleDto) : (statements newDate me partner dto).Pairwise Apart := by
  obtain ⟨anniversaryDate, myNickname, partnerNickname⟩ := dto
  cases anniversaryDate <;> cases myNickname <;> cases partnerNickname <;> cases partner <;>
    simp_all [statements, Apart, eq_comm]

theorem same_rows_refl (s : Store) : SameRows s s := ⟨rfl, rfl, rfl⟩

section Invites
variable {attempts : Frame → Attempt}

theorem cancel_pending_same {userId : Nat} :
    SameRows s (s.cancelPendingOf userId) ↔ s.pendingInvitesOf userId = [] := by
  simp only [SameRows, Store.cancelPendingOf, Store.mapInvites, true_and, map_eq_self_iff,
    Store.pendingInvitesOf, List.filter_eq_nil_iff]
  refine forall₂_congr fun i _ => ?_
  unfold cancelWhen
  split
  · rename_i both
    obtain ⟨_, _, _, _, _, _, _, _, _, _⟩ := i
    simp_all
  · rename_i neither
    simpa using neither

theorem finish_send_atomic (inviter invitee : User) {userId : Nat} :
    (Outcome.isRejected (finish attempts 2 (s.cancelPendingOf userId)
        (.sendCreateCouple inviter invitee)).2 = true →
      SameRows s (finish attempts 2 (s.cancelPendingOf userId)
        (.sendCreateCouple inviter invitee)).1) ↔
    if (attempts (.sendCreateCouple inviter invitee)).fails then s.pendingInvitesOf userId = []
    else MakesInvite attempts s inviter invitee := by
  have ends := finish_send_ends attempts (s.cancelPendingOf userId) inviter invitee
  generalize finish attempts 2 _ (.sendCreateCouple inviter invitee) = result at ends
  cases ends with
  | noCouple failed => simp [failed, Outcome.isRejected, cancel_pending_same]
  | noInvite served failed =>
    rw [makes_invite_cancel] at failed
    simp [served, failed, Outcome.isRejected, SameRows, Store.createCouple, Store.cancelPendingOf,
      Store.mapInvites]
  | made served makes done =>
    rw [makes_invite_cancel] at makes
    simp [served, makes, Outcome.isRejected]

theorem invite_atomic_iff (attempts : Frame → Attempt) (c : Call) :
    Atomic s (.invite attempts c) ↔ AtomicWhen s (.invite attempts c) := by
  have unchanged : (complete attempts s c).1 = s → Atomic s (.invite attempts c) := by
    intro same _
    simp only [perform, same]
    exact same_rows_refl s
  cases c with
  | sendInvite userId inviteeEmail =>
    refine Iff.trans (iff_of_passes (P := fun p => SendPasses attempts s userId inviteeEmail p.1 p.2)
      (G := fun p : User × User => if (attempts (.sendCreateCouple p.1 p.2)).fails then
        s.pendingInvitesOf p.1.id = [] else MakesInvite attempts s p.1 p.2)
      (fun none => ?_) ?_) Prod.forall
    · refine unchanged ?_
      obtain ⟨o, stops⟩ := complete_send_cases.resolve_right fun ⟨inviter, invitee, passes⟩ =>
        none ⟨(inviter, invitee), passes⟩
      rw [stops]
    · rintro ⟨inviter, invitee⟩ passes
      simp only [Atomic, perform, complete_send_passes passes]
      exact finish_send_atomic inviter invitee
  | acceptInvite inviteId userId | breakUp coupleId userId =>
    simp only [AtomicWhen, iff_true]
    intro stopped
    obtain ⟨error, rejected⟩ := is_rejected stopped
    exact unchanged (finish_rejected trivial rejected) stopped
  | declineInvite inviteId userId =>
    simp only [AtomicWhen, iff_true]
    rcases complete_decline_cases with ⟨o, stops⟩ | ⟨invite, passes⟩
    · exact unchanged (by rw [stops])
    · simp [Atomic, perform, complete_decline_passes passes, Outcome.isRejected]
  | cancelInvite userId =>
    simp only [AtomicWhen, iff_true]
    rcases complete_cancel_cases with ⟨o, stops⟩ | ⟨invite, passes⟩
    · exact unchanged (by rw [stops])
    · simp [Atomic, perform, complete_cancel_passes passes, Outcome.isRejected]

end Invites

section Update
variable {newDate : String → Option Int} {attempts : Statement → Attempt} {coupleId userId : Nat}
  {dto : UpdateCoupleDto}

theorem update_cases : (∃ r, updateCouple newDate attempts coupleId userId s dto = (s, r)) ∨
    ∃ me partner, UpdateStarts attempts s coupleId userId me partner := by
  unfold updateCouple
  split
  · exact Or.inl ⟨_, rfl⟩
  · rename_i served
    dsimp only
    split
    · exact Or.inl ⟨_, rfl⟩
    · rename_i me mine
      exact Or.inr ⟨me, _, by simpa using served, mine, rfl⟩

variable {me : CoupleMember} {partner : Option CoupleMember}
  (starts : UpdateStarts attempts s coupleId userId me partner)
include starts

theorem update_starts_eq : updateCouple newDate attempts coupleId userId s dto =
    ((execAll attempts coupleId userId s (statements newDate me partner dto)).1, do
      (execAll attempts coupleId userId s (statements newDate me partner dto)).2
      readCouple (execAll attempts coupleId userId s (statements newDate me partner dto)).1
        coupleId userId) := by
  obtain ⟨served, mine, rfl⟩ := starts
  unfold updateCouple
  rw [if_neg (by simp [served])]
  simp only [mine]
  rfl

theorem partner_distinct (keys : (s.members.map CoupleMember.id).Nodup) :
    ∀ p ∈ partner, p.id ≠ me.id := by
  obtain ⟨_, mine, rfl⟩ := starts
  intro p other same
  have mem := List.mem_filter.mp (List.mem_of_getElem? other)
  have mine_mem := List.mem_of_find?_eq_some mine
  have row := row_unique keys (List.mem_filter.mp mem.1).1 (List.mem_filter.mp mine_mem).1 same
  have user := List.find?_some mine
  rw [row] at mem
  simp_all

/-- The call returns when none of its statements is rejected. -/
theorem update_returns (done : ∀ w ∈ statements newDate me partner dto,
    ¬ Rejected attempts coupleId userId s w) :
    (updateCouple newDate attempts coupleId userId s dto).2.isOk = true := by
  rw [update_starts_eq starts, exec_all_done done]
  have last := done .findCouple (by simp [statements])
  exact read_couple_ok ((rejected_applied _ _).not.mpr last)

theorem update_stops {front back : List Statement} {w : Statement}
    (split_at : statements newDate me partner dto = front ++ w :: back)
    (done : ∀ u ∈ front, ¬ Rejected attempts coupleId userId s u)
    (rejected : Rejected attempts coupleId userId s w) :
    ∃ error, updateCouple newDate attempts coupleId userId s dto =
      (applied attempts coupleId s front, .error error) := by
  obtain ⟨error, stops⟩ := exec_all_stops back done rejected
  rw [update_starts_eq starts, split_at, stops]
  exact ⟨error, rfl⟩

end Update

theorem update_atomic_iff (keys : (s.members.map CoupleMember.id).Nodup)
    (newDate : String → Option Int) (attempts : Statement → Attempt) (coupleId userId : Nat)
    (dto : UpdateCoupleDto) :
    Atomic s (.updateCouple newDate attempts coupleId userId dto) ↔
      AtomicWhen s (.updateCouple newDate attempts coupleId userId dto) := by
  constructor
  · intro atomic me partner starts front w back split_at done rejected
    have apart := statements_apart newDate (partner_distinct starts keys) dto
    rw [split_at] at apart
    obtain ⟨error, stops⟩ := update_stops starts split_at done rejected
    have same := atomic (by simp [perform, stops, Except.isOk, Except.toBool])
    simp only [perform, stops] at same
    exact (same_rows_applied (List.pairwise_append.mp apart).1).mp same
  · intro stored rejected
    simp only [perform, Bool.not_eq_true'] at rejected ⊢
    rcases update_cases with ⟨r, stops⟩ | ⟨me, partner, starts⟩
    · rw [stops]
      exact same_rows_refl s
    · have apart := statements_apart newDate (partner_distinct starts keys) dto
      rcases first_split (Rejected attempts coupleId userId s)
        (statements newDate me partner dto) with done | ⟨front, w, back, split_at, done, stop⟩
      · simp [update_returns starts done] at rejected
      · rw [split_at] at apart
        obtain ⟨error, stops⟩ := update_stops starts split_at done stop
        rw [stops]
        exact (same_rows_applied (List.pairwise_append.mp apart).1).mpr
          (stored me partner starts front w back split_at done stop)

end Requests

/-- For all rows in which the ids of the members are a key. -/
theorem rejection_keeps_rows_iff {s : Store} (keys : (s.members.map CoupleMember.id).Nodup)
    (request : Request) : Atomic s request ↔ AtomicWhen s request := by
  cases request with
  | invite attempts c => exact invite_atomic_iff attempts c
  | updateCouple newDate attempts coupleId userId dto =>
    exact update_atomic_iff keys newDate attempts coupleId userId dto

/-- User 1 has invited user 2; the code of the invite is a. -/
def invitedStore : Store :=
  (complete (smoothly "a") (Store.empty twoUsers) (.sendInvite 1 "two@example.com")).1

/-- The second invite draws the code of the first one, when that one is canceled already. -/
theorem colliding_invite_is_half_done : ¬ ∀ s : Store, (s.members.map CoupleMember.id).Nodup →
    ∀ request, Atomic s request := fun every =>
  absurd (every invitedStore (by decide)
    (.invite (smoothly "a") (.sendInvite 1 "two@example.com"))) (by decide)

def pairedStore : Store := pairedSystem.store

/-- User 1 changes the anniversary and the own nickname, and the second update is rejected. -/
def halfUpdate : Request :=
  .updateCouple (fun _ => some 0)
    (fun w => ⟨⟨2000, "", 0⟩, w = .updateMember 2 (some "uno")⟩) 0 1
    ⟨some (some "2026-01-01"), some (some "uno"), none⟩

theorem rejected_update_is_half_done : ¬ AtomicWhen pairedStore halfUpdate := fun stored =>
  absurd ((rejection_keeps_rows_iff (by decide) halfUpdate).mpr stored) (by decide)

end CoupleAtomicity
