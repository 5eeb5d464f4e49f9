import Linkly.CoupleCalls

/-!
findCoupleInfo and updateCouple over the couple tables. updateCouple is a sequence of statements
without a transaction, so that what it has written stays written when a later one is rejected.
`newDate` is `new Date` of a text, `none` for an invalid date, which the database client rejects.
-/
namespace CoupleInfo
open CoupleStore CoupleService CoupleCalls

structure MemberInfo where
  memberId : Nat
  userId : Nat
  nickname : String
  displayName : String
  birthday : Option Int
  homeAddress : Option String
  role : CoupleMemberRole
  isMe : Bool
  deriving DecidableEq, Repr

structure Info where
  id : Nat
  status : CoupleStatus
  anniversaryDate : Option Int
  createdAt : Nat
  members : List MemberInfo
  deriving DecidableEq, Repr

def ensureCoupleMember (s : Store) (coupleId userId : Nat) : Except Exception Unit :=
  match s.memberByCoupleUser coupleId userId with
  | none => .error (.forbidden "User is not a member of this couple.")
  | some _ => .ok ()

/-- A member row refers to a user that exists. -/
def memberInfo (s : Store) (userId : Nat) (m : CoupleMember) : Option MemberInfo :=
  (s.userById m.userId).map fun user =>
    { memberId := m.id
      userId := m.userId
      nickname := m.nickname.getD user.displayName
      displayName := user.displayName
      birthday := user.birthday
      homeAddress := user.homeAddress
      role := m.role
      isMe := m.userId = userId }

def readCouple (s : Store) (coupleId userId : Nat) : Except Exception Info :=
  match s.couples.find? (·.id = coupleId) with
  | none => .error (.notFound "Couple not found")
  | some couple => .ok
      { id := couple.id
        status := couple.status
        anniversaryDate := couple.anniversaryDate
        createdAt := couple.createdAt
        members := (s.members.filter (·.coupleId = coupleId)).filterMap (memberInfo s userId) }

def findCoupleInfo (s : Store) (coupleId userId : Nat) : Except Exception Info := do
  ensureCoupleMember s coupleId userId
  readCouple s coupleId userId

/-- A field is undefined, null or a text. -/
structure UpdateCoupleDto where
  anniversaryDate : Option (Option String)
  myNickname : Option (Option String)
  partnerNickname : Option (Option String)
  deriving DecidableEq, Repr

inductive Statement where
  | findMembers
  /-- `some none` is an invalid date. -/
  | updateCouple (anniversaryDate : Option (Option Int))
  | updateMember (memberId : Nat) (nickname : Option String)
  | findMember
  | findCouple
  deriving DecidableEq, Repr

/-- `value || null` -/
def orNull (value : Option String) : Option String := value.filter (· ≠ "")

section Update
variable (newDate : String → Option Int) (attempts : Statement → Attempt) (coupleId userId : Nat)

/-- The statements after the first one, with findCoupleInfo at the end. -/
def statements (me : CoupleMember) (partner : Option CoupleMember) (dto : UpdateCoupleDto) :
    List Statement :=
  (dto.anniversaryDate.toList.map fun value => .updateCouple ((orNull value).map newDate)) ++
  (dto.myNickname.toList.map fun value => .updateMember me.id (orNull value)) ++
  (partner.toList.flatMap fun p =>
    dto.partnerNickname.toList.map fun value => .updateMember p.id (orNull value)) ++
  [.findMember, .findCouple]

def setAnniversary (value : Option Int) (now : Nat) (c : Couple) : Couple :=
  if c.id = coupleId then { c with anniversaryDate := value, updatedAt := now } else c

def setNickname (memberId : Nat) (nickname : Option String) (m : CoupleMember) : CoupleMember :=
  if m.id = memberId then { m with nickname := nickname } else m

def execStatement (s : Store) (w : Statement) : Except Exception Store :=
  if (attempts w).fails then .error .database
  else
    match w with
    | .findMembers => .ok s
    | .updateCouple (some none) => .error .database
    | .updateCouple value =>
      if s.couples.any (·.id = coupleId) then
        let update := setAnniversary coupleId value.join (attempts w).choice.now
        .ok { s with couples := s.couples.map update }
      else .error .database
    | .updateMember memberId nickname =>
      if s.members.any (·.id = memberId) then
        .ok { s with members := s.members.map (setNickname memberId nickname) }
      else .error .database
    | .findMember => (ensureCoupleMember s coupleId userId).map fun _ => s
    | .findCouple => (readCouple s coupleId userId).map fun _ => s

/-- Runs statements up to the first one that is rejected. -/
def execAll : Store → List Statement → Store × Except Exception Unit
  | s, [] => (s, .ok ())
  | s, w :: rest =>
    match execStatement attempts coupleId userId s w with
    | .error error => (s, .error error)
    | .ok t => execAll t rest

def updateCouple (s : Store) (dto : UpdateCoupleDto) : Store × Except Exception Info :=
  if (attempts .findMembers).fails then (s, .error .database)
  else
    let members := s.members.filter (·.coupleId = coupleId)
    match members.find? (·.userId = userId) with
    | none => (s, .error (.forbidden "User is not a member of this couple."))
    | some me =>
      -- The rows come in no particular order, so the partner is any of the other members.
      let others := members.filter (·.userId ≠ userId)
      let partner := others[(attempts .findMembers).choice.pick % others.length]?
      let (t, done) := execAll attempts coupleId userId s (statements newDate me partner dto)
      (t, do done; readCouple t coupleId userId)

end Update

end CoupleInfo
