import Linkly.CoupleRaces

/-!
Invites under a clock. sendInvite writes the time at which an invite expires, seven days on, and no
other operation reads it: whether an invite is accepted or listed depends on its status alone.
-/
namespace InviteExpiry
open CoupleStore CoupleService CoupleConsistency CoupleFrames CoupleRaces TransitionRuns

/-- The columns of the other user that the two listings select. -/
structure Party where
  id : Nat
  displayName : String
  email : Option String
  deriving DecidableEq, Repr

structure Listed where
  invite : CoupleInvite
  party : Option Party
  deriving DecidableEq, Repr

def partyOf (s : Store) (userId : Nat) : Option Party :=
  (s.userById userId).map fun u => ⟨u.id, u.displayName, u.email⟩

def pendingInvitesTo (s : Store) (userId : Nat) : List CoupleInvite :=
  s.invites.filter fun i => i.inviteeUserId = some userId ∧ i.status = .pending

/-- An answer in the order createdAt desc, which leaves rows of the same time in any order. -/
def NewestFirst (matching rows : List CoupleInvite) : Prop :=
  rows.Perm matching ∧ rows.Pairwise fun i j => j.createdAt ≤ i.createdAt

instance (matching rows : List CoupleInvite) : Decidable (NewestFirst matching rows) :=
  inferInstanceAs (Decidable (_ ∧ _))

def getSentInvite (s : Store) (rows : List CoupleInvite) : Option Listed :=
  rows.head?.map fun i => ⟨i, i.inviteeUserId.bind (partyOf s)⟩

def getReceivedInvites (s : Store) (rows : List CoupleInvite) : List Listed :=
  rows.map fun i => ⟨i, partyOf s i.inviterUserId⟩

structure Timed where
  system : System
  clock : Nat
  deriving DecidableEq, Repr

/-- A listing comes with the rows of its answer in the order in which the database gives them. -/
inductive TimedEvent where
  | operation (e : Event)
  | getSentInvite (userId now : Nat) (rows : List CoupleInvite)
  | getReceivedInvites (userId now : Nat) (rows : List CoupleInvite)
  deriving DecidableEq, Repr

/-- What the clock shows at a statement, which is not before what it showed at an earlier one. -/
def timedStep (y : Timed) : TimedEvent → Option Timed
  | .operation (.call c) => (step y.system (.call c)).map fun z => ⟨z, y.clock⟩
  | .operation (.statement index choice) =>
    if y.clock ≤ choice.now then
      (step y.system (.statement index choice)).map fun z => ⟨z, choice.now⟩
    else none
  | .getSentInvite userId now rows =>
    if y.clock ≤ now ∧ NewestFirst (y.system.store.pendingInvitesOf userId) rows then
      some ⟨y.system, now⟩
    else none
  | .getReceivedInvites userId now rows =>
    if y.clock ≤ now ∧ NewestFirst (pendingInvitesTo y.system.store userId) rows then
      some ⟨y.system, now⟩
    else none

/-- The statement commits an acceptance of the invite with this row. -/
def Accepts (s : Store) (choice : Choice) : Frame → CoupleInvite → Prop
  | .acceptCommit invite userId, i =>
    i.id = invite.id ∧ (s.acceptTransaction invite userId choice.now).isSome
  | _, _ => False

instance (s : Store) (choice : Choice) (f : Frame) (i : CoupleInvite) :
    Decidable (Accepts s choice f i) := by
  cases f <;> dsimp only [Accepts] <;> infer_instance

/-- Invites whose time has passed are neither accepted nor listed. -/
def HonoursExpiry (y : Timed) : TimedEvent → Prop
  | .operation (.call _) => True
  | .operation (.statement index choice) => ∀ f ∈ y.system.calls[index]?,
      ∀ i ∈ y.system.store.invites, Accepts y.system.store choice f i → choice.now ≤ i.expiresAt
  | .getSentInvite _ now rows =>
    ∀ listed ∈ getSentInvite y.system.store rows, now ≤ listed.invite.expiresAt
  | .getReceivedInvites _ now rows =>
    ∀ listed ∈ getReceivedInvites y.system.store rows, now ≤ listed.invite.expiresAt

instance (y : Timed) : (e : TimedEvent) → Decidable (HonoursExpiry y e)
  | .operation (.call _) => isTrue trivial
  | .operation (.statement index choice) => by dsimp only [HonoursExpiry]; infer_instance
  | .getSentInvite _ now rows => by dsimp only [HonoursExpiry]; infer_instance
  | .getReceivedInvites _ now rows => by dsimp only [HonoursExpiry]; infer_instance

/-- No call stands at its transaction for an invite of more than seven days that its two users can
    still form a couple of, and the invites that a listing finds were sent in the last seven. -/
def WithinSevenDays (y : Timed) : TimedEvent → Prop
  | .operation (.call _) => True
  | .operation (.statement index choice) => ∀ invite userId,
      y.system.calls[index]? = some (.acceptCommit invite userId) →
        CanPair y.system.store invite userId →
          ∀ i ∈ y.system.store.invites, i.id = invite.id → choice.now ≤ i.createdAt + sevenDays
  | .getSentInvite userId now _ => y.system.store.pendingInvitesOf userId ≠ [] →
      ∃ i ∈ y.system.store.pendingInvitesOf userId, now ≤ i.createdAt + sevenDays
  | .getReceivedInvites userId now _ => ∀ i ∈ pendingInvitesTo y.system.store userId,
      now ≤ i.createdAt + sevenDays

/-- Each invite expires seven days after it was sent. -/
def SevenDays (s : Store) : Prop := ∀ i ∈ s.invites, i.expiresAt = i.createdAt + sevenDays

section Rows
variable {s t : Store}

theorem seven_days_map_invites {g : CoupleInvite → CoupleInvite} (retires : Retires g)
    (seven : SevenDays s) : SevenDays (s.mapInvites g) := by
  intro j mj
  obtain ⟨i, mi, rfl⟩ := List.mem_map.mp mj
  rw [(retires.same i).expires, (retires.same i).created]
  exact seven i mi

theorem seven_days_write {f : Frame} (write : Write f s t) (seven : SevenDays s) : SevenDays t := by
  cases write with
  | unchanged => exact seven
  | retired retires => exact seven_days_map_invites retires seven
  | newCouple => exact seven
  | newInvite frame done =>
    obtain ⟨_, rfl⟩ := create_invite_eq done
    intro i mi
    rcases List.mem_append.mp mi with old | new
    · exact seven i old
    · rw [List.mem_singleton.mp new]
      rfl
  | @accepted invite userId now frame can =>
    have answered := seven_days_map_invites
      (respond_retires invite.id .accepted (some now) (by simp)) seven
    exact seven_days_map_invites (s := formPair _ _ _ _ _) (cancel_when_retires _) answered
  | deleted frame done =>
    obtain ⟨_, rfl⟩ := delete_couple_eq done
    exact fun i mi => seven i (List.mem_filter.mp mi).1

theorem newest_first_mem {matching rows : List CoupleInvite} (order : NewestFirst matching rows)
    (i : CoupleInvite) : i ∈ rows ↔ i ∈ matching :=
  order.1.mem_iff

/-- The first row is the newest, so it is still good if any row is. -/
theorem head_within_iff {matching rows : List CoupleInvite} (order : NewestFirst matching rows)
    (now : Nat) : (∀ i ∈ rows.head?, now ≤ i.createdAt + sevenDays) ↔
      (matching ≠ [] → ∃ i ∈ matching, now ≤ i.createdAt + sevenDays) := by
  simp only [← newest_first_mem order]
  have empty : matching = [] ↔ rows = [] := by
    rw [← List.length_eq_zero_iff, ← order.1.length_eq, List.length_eq_zero_iff]
  rw [Ne, empty]
  cases rows with
  | nil => simp
  | cons i rest =>
    simp only [List.head?_cons, Option.mem_def, Option.some.injEq, forall_eq', reduceCtorEq,
      not_false_eq_true, forall_const]
    constructor
    · intro within
      exact ⟨i, List.mem_cons_self, within⟩
    · intro found
      obtain ⟨j, mj, within⟩ := found
      rcases List.mem_cons.mp mj with rfl | later
      · exact within
      · have := (List.pairwise_cons.mp order.2).1 j later
        omega

end Rows

theorem timed_step_seven_days {y z : Timed} {e : TimedEvent} (moved : timedStep y e = some z)
    (seven : SevenDays y.system.store) : SevenDays z.system.store := by
  cases e with
  | operation e =>
    cases e with
    | call c =>
      simp only [timedStep, step, Option.map_some, Option.some.injEq] at moved
      subst moved
      exact seven
    | statement index choice =>
      simp only [timedStep, Option.ite_none_right_eq_some, Option.map_eq_some_iff] at moved
      obtain ⟨_, w, taken, rfl⟩ := moved
      obtain ⟨f, _, rfl⟩ := statement_iff.mp taken
      exact seven_days_write (exec_write choice _ f) seven
  | getSentInvite userId now rows | getReceivedInvites userId now rows =>
    simp only [timedStep, Option.ite_none_right_eq_some, Option.some.injEq] at moved
    obtain ⟨_, rfl⟩ := moved
    exact seven

theorem accepts_iff {s : Store} {choice : Choice} {f : Frame} {i : CoupleInvite} :
    Accepts s choice f i ↔ ∃ invite userId, f = .acceptCommit invite userId ∧
      CanPair s invite userId ∧ i.id = invite.id := by
  constructor
  · intro accepts
    cases f with
    | acceptCommit invite userId =>
      exact ⟨invite, userId, rfl, transaction_commits_iff.mp accepts.2, accepts.1⟩
    | _ => exact accepts.elim
  · rintro ⟨invite, userId, rfl, can, same⟩
    exact ⟨same, transaction_commits_iff.mpr can⟩

/-- The conditions say the same of a step from rows that expire in seven days. -/
theorem honours_expiry_iff {y z : Timed} {e : TimedEvent} (moved : timedStep y e = some z)
    (seven : SevenDays y.system.store) : HonoursExpiry y e ↔ WithinSevenDays y e := by
  cases e with
  | operation e =>
    cases e with
    | call c => exact Iff.rfl
    | statement index choice =>
      constructor
      · intro honours invite userId at_index can i mem same
        rw [← seven i mem]
        exact honours _ at_index i mem (accepts_iff.mpr ⟨invite, userId, rfl, can, same⟩)
      · intro within f at_index i mem accepts
        obtain ⟨invite, userId, rfl, can, same⟩ := accepts_iff.mp accepts
        rw [seven i mem]
        exact within invite userId at_index can i mem same
  | getSentInvite userId now rows =>
    simp only [timedStep, Option.ite_none_right_eq_some, Option.some.injEq] at moved
    obtain ⟨⟨_, order⟩, _⟩ := moved
    simp only [HonoursExpiry, WithinSevenDays, getSentInvite, ← head_within_iff order now,
      Option.mem_def, Option.map_eq_some_iff, forall_exists_index, and_imp,
      forall_apply_eq_imp_iff₂]
    refine forall₂_congr fun i first => ?_
    have mem := (newest_first_mem order i).mp (List.mem_of_head? first)
    rw [seven i (List.mem_filter.mp mem).1]
  | getReceivedInvites userId now rows =>
    simp only [timedStep, Option.ite_none_right_eq_some, Option.some.injEq] at moved
    obtain ⟨⟨_, order⟩, _⟩ := moved
    simp only [HonoursExpiry, WithinSevenDays, getReceivedInvites, List.forall_mem_map,
      newest_first_mem order]
    refine forall₂_congr fun i mem => ?_
    rw [seven i (List.mem_filter.mp mem).1]

/-- A day after its seven days, user 2 accepts the invite. -/
def lateAccept : List TimedEvent :=
  inviteEvents.map .operation ++ .operation (.call (.acceptInvite 1 2)) ::
    List.replicate 4 (.operation (.statement 0 ⟨1000 + sevenDays + 86400000, "c0de", 0⟩))

end InviteExpiry
