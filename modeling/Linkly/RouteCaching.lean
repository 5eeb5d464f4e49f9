import Linkly.CoupleRoute

/-!
Calls of the route analysis and of the two update services, one statement at a time, over the rows,
Redis and the route cache table that they share. Statements of all open calls interleave freely, and
any of them may fail.
-/
namespace RouteCaching
open JsText IsoDate KeyedCache TransitService CoupleRoute

variable {Num Value : Type}

structure CalendarEvent (Num : Type) where
  id : JsString
  coupleId : JsString
  placeLat : Option Num
  placeLng : Option Num
  appointmentAt : Option Date

structure CoupleMember where
  coupleId : JsString
  userId : JsString

structure User (Num : Type) where
  id : JsString
  homeLat : Option Num
  homeLng : Option Num

structure RouteCache (Value : Type) where
  eventId : JsString
  userId : JsString
  cacheKey : JsString
  routeData : CoupleRouteResponse Value
  expiresAt : Int

/-- A value in Redis, as the service that wrote it reads it. -/
inductive Cell (Value : Type) where
  | response (data : CoupleRouteResponse Value)
  | route (data : RouteData Value)

structure Store (Num Value : Type) where
  events : List (CalendarEvent Num)
  members : List CoupleMember
  users : List (User Num)
  redis : List (JsString × Cell Value)
  routeCaches : List (RouteCache Value)

namespace Store
variable (s : Store Num Value)

def setRedis (key : JsString) (cell : Cell Value) : Store Num Value :=
  { s with redis := (key, cell) :: s.redis }

def delRedis (keys : List JsString) : Store Num Value :=
  { s with redis := s.redis.filter fun entry => entry.1 ∉ keys }

def getResponse (key : JsString) : Option (CoupleRouteResponse Value) :=
  match s.redis.lookup key with
  | some (.response data) => some data
  | _ => none

def getRoute (key : JsString) : Option (RouteData Value) :=
  match s.redis.lookup key with
  | some (.route data) => some data
  | _ => none

def findEvent (id : JsString) : Option (CalendarEvent Num) := s.events.find? (·.id = id)

def findUser (id : JsString) : Option (User Num) := s.users.find? (·.id = id)

def isMember (coupleId userId : JsString) : Bool :=
  s.members.any fun m => m.coupleId = coupleId ∧ m.userId = userId

def findCache (eventId userId cacheKey : JsString) (now : Int) : Option (RouteCache Value) :=
  s.routeCaches.find? fun row =>
    row.eventId = eventId ∧ row.userId = userId ∧ row.cacheKey = cacheKey ∧ now < row.expiresAt

/-- The key is unique. A row that is there keeps its event and its user; a new row needs both. -/
def upsertCache (row : RouteCache Value) : Store Num Value :=
  if s.routeCaches.any (·.cacheKey = row.cacheKey) then
    { s with routeCaches := s.routeCaches.map fun old =>
        if old.cacheKey = row.cacheKey then
          { old with routeData := row.routeData, expiresAt := row.expiresAt }
        else old }
  else if (s.findEvent row.eventId).isSome ∧ (s.findUser row.userId).isSome then
    { s with routeCaches := s.routeCaches ++ [row] }
  else s

def cacheKeys (eventIds : List JsString) : List JsString :=
  (s.routeCaches.filter (·.eventId ∈ eventIds)).map RouteCache.cacheKey

def deleteCaches (eventIds : List JsString) : Store Num Value :=
  { s with routeCaches := s.routeCaches.filter (·.eventId ∉ eventIds) }

end Store

/-- An absent field is `none`; null is `some none`. -/
structure UpdateEventDto (Num : Type) where
  placeLat : Option (Option Num)
  placeLng : Option (Option Num)
  appointmentAt : Option (Option Date)

def UpdateEventDto.placeOrTimeChanged (dto : UpdateEventDto Num) : Bool :=
  dto.placeLat.isSome || dto.placeLng.isSome || dto.appointmentAt.isSome

def UpdateEventDto.apply (dto : UpdateEventDto Num) (event : CalendarEvent Num) :
    CalendarEvent Num :=
  { event with
    placeLat := dto.placeLat.getD event.placeLat
    placeLng := dto.placeLng.getD event.placeLng
    appointmentAt := dto.appointmentAt.getD event.appointmentAt }

structure UpdateUserDto (Num : Type) where
  homeLat : Option (Option Num)
  homeLng : Option (Option Num)

def UpdateUserDto.homeChanged (dto : UpdateUserDto Num) : Bool :=
  dto.homeLat.isSome || dto.homeLng.isSome

def UpdateUserDto.apply (dto : UpdateUserDto Num) (user : User Num) : User Num :=
  { user with homeLat := dto.homeLat.getD user.homeLat, homeLng := dto.homeLng.getD user.homeLng }

/-- An analysis that has read its values. -/
structure Call (numbers : JsNumbers Num Value) where
  eventId : JsString
  userId : JsString
  inputs : Inputs numbers

/-- How far a request to the transit service is. -/
inductive Progress (Value : Type) where
  | lookup
  | call (bucket : BucketInfo)
  | save (bucket : BucketInfo) (data : RouteData Value)
  | done (data : RouteData Value)

inductive Frame (numbers : JsNumbers Num Value) where
  | analyzeEvent (eventId userId : JsString) (forceRefresh : Bool)
  | analyzeMembers (event : CalendarEvent Num) (userId : JsString) (forceRefresh : Bool)
  | checkRedis (call : Call numbers)
  | checkTable (call : Call numbers)
  | copyToRedis (call : Call numbers) (data : CoupleRouteResponse Value)
  | computeRoutes (call : Call numbers) (mine partners : Progress Value)
  | background (request : RouteRequest) (progress : Progress Value)
  | saveRedis (call : Call numbers) (result : CoupleRouteResponse Value)
  | saveTable (call : Call numbers) (result : CoupleRouteResponse Value)
  | updateFind (id userId : JsString) (dto : UpdateEventDto Num)
  | updateCheck (event : CalendarEvent Num) (userId : JsString) (dto : UpdateEventDto Num)
  | updateWrite (id : JsString) (dto : UpdateEventDto Num)
  | updateMeFind (userId : JsString) (dto : UpdateUserDto Num)
  | updateMeWrite (userId : JsString) (dto : UpdateUserDto Num)
  | invalidateMemberships (userId : JsString)
  | invalidateCouples (coupleIds : List JsString)
  | invalidateFind (eventIds : List JsString) (coupleIds : List JsString)
  | invalidateRedis (eventIds keys : List JsString) (coupleIds : List JsString)
  | invalidateTable (eventIds : List JsString) (coupleIds : List JsString)

inductive Source where
  | redis
  | routeCache
  | computed
  deriving DecidableEq, Repr

structure Returned (numbers : JsNumbers Num Value) where
  call : Call numbers
  source : Source
  response : CoupleRouteResponse Value

/-- What one statement does: the rows, the frames that go on, and a response that is returned. -/
structure Effect (numbers : JsNumbers Num Value) where
  store : Store Num Value
  next : List (Frame numbers)
  returned : List (Returned numbers)

/-- What a statement meets: whether it fails, and the clock. -/
structure Outcome where
  fails : Bool
  now : Date

inductive Side where
  | mine
  | partners
  deriving DecidableEq, Repr

section Exec
variable {numbers : JsNumbers Num Value}

/-- The coordinates that are truthy, or `none` for a bad request. -/
def givenNumber (numbers : JsNumbers Num Value) (value : Option Num) :
    Option {x : Num // numbers.truthy x = true} :=
  value.bind fun x => if truthy : numbers.truthy x = true then some ⟨x, truthy⟩ else none

/-- The home of a member, when its user is there. -/
def home (s : Store Num Value) (member : CoupleMember) : Option Num × Option Num :=
  match s.findUser member.userId with
  | some user => (user.homeLat, user.homeLng)
  | none => (none, none)

/-- `none` is a bad request: the user is no member, or a location is not set. -/
def readInputs (numbers : JsNumbers Num Value) (s : Store Num Value) (event : CalendarEvent Num)
    (userId : JsString) : Option (Inputs numbers) := do
  let placeLat ← givenNumber numbers event.placeLat
  let placeLng ← givenNumber numbers event.placeLng
  let appointmentAt ← event.appointmentAt
  let members := s.members.filter (·.coupleId = event.coupleId)
  let me ← members.find? (·.userId = userId)
  let myLat ← givenNumber numbers (home s me).1
  let myLng ← givenNumber numbers (home s me).2
  let partner ← members.find? (·.userId ≠ userId)
  let partnerLat ← givenNumber numbers (home s partner).1
  let partnerLng ← givenNumber numbers (home s partner).2
  return {
    appointmentAt := appointmentAt
    myLat := myLat
    myLng := myLng
    partnerLat := partnerLat
    partnerLng := partnerLng
    placeLat := placeLat
    placeLng := placeLng
    truthy := by
      simp [myLat.2, myLng.2, partnerLat.2, partnerLng.2, placeLat.2, placeLng.2] }

variable (transit : Transit Value)

/-- A statement whose exception ends the call; `none` stands for one that the code throws. -/
def proceed {α : Type} (outcome : Outcome) (s : Store Num Value) (read : Option α)
    (next : α → Frame numbers) : Effect numbers :=
  match if outcome.fails then none else read with
  | none => ⟨s, [], []⟩
  | some value => ⟨s, [next value], []⟩

/-- One statement of a request; `none` is an exception. -/
def execRequest (outcome : Outcome) (s : Store Num Value) (request : RouteRequest) :
    Progress Value → Store Num Value × Option (Progress Value)
  | .lookup =>
    match transit.bucketOf request with
    | none => (s, none)
    | some bucket =>
      if outcome.fails then (s, some (.call bucket))
      else
        match s.getRoute (transit.keyOf request bucket) with
        | some data => (s, some (.done data))
        | none => (s, some (.call bucket))
  | .call bucket =>
    if outcome.fails then (s, none)
    else (s, some (.save bucket (transit.tmap request.toCoordinates bucket)))
  | .save bucket data =>
    (if outcome.fails then s else s.setRedis (transit.keyOf request bucket) (.route data),
      some (.done data))
  | .done data => (s, some (.done data))

def Call.key (transit : Transit Value) (call : Call numbers) : JsString :=
  buildCacheKey transit.sha256 call.eventId call.inputs

/-- Both routes are there. -/
def analyzed (outcome : Outcome) (s : Store Num Value) (call : Call numbers)
    (mine partners : RouteData Value) : Effect numbers :=
  match call.inputs.analysis mine partners with
  | none => ⟨s, [], []⟩
  | some analysis => ⟨s, [.saveRedis call ⟨analysis, toISOString outcome.now⟩], []⟩

/-- A request that fails ends the call, and the other one goes on by itself. -/
def execRoutes (side : Side) (outcome : Outcome) (s : Store Num Value) (call : Call numbers) :
    Progress Value → Progress Value → Effect numbers
  | .done mine, .done partners => analyzed outcome s call mine partners
  | mine, partners =>
    match side with
    | .mine =>
      match execRequest transit outcome s call.inputs.myRequest mine with
      | (t, some next) => ⟨t, [.computeRoutes call next partners], []⟩
      | (t, none) => ⟨t, [.background call.inputs.partnerRequest partners], []⟩
    | .partners =>
      match execRequest transit outcome s call.inputs.partnerRequest partners with
      | (t, some next) => ⟨t, [.computeRoutes call mine next], []⟩
      | (t, none) => ⟨t, [.background call.inputs.myRequest mine], []⟩

def exec (side : Side) (outcome : Outcome) (s : Store Num Value) : Frame numbers → Effect numbers
  | .analyzeEvent eventId userId forceRefresh =>
    proceed outcome s (s.findEvent eventId) (.analyzeMembers · userId forceRefresh)
  | .analyzeMembers event userId forceRefresh =>
    proceed outcome s (readInputs numbers s event userId) fun inputs =>
      let call : Call numbers := ⟨event.id, userId, inputs⟩
      if forceRefresh then .computeRoutes call .lookup .lookup else .checkRedis call
  | .checkRedis call =>
    match if outcome.fails then none else s.getResponse (call.key transit) with
    | some data => ⟨s, [], [⟨call, .redis, data⟩]⟩
    | none => ⟨s, [.checkTable call], []⟩
  | .checkTable call =>
    match if outcome.fails then none
      else s.findCache call.eventId call.userId (call.key transit) outcome.now.ms with
    | some row => ⟨s, [.copyToRedis call row.routeData], []⟩
    | none => ⟨s, [.computeRoutes call .lookup .lookup], []⟩
  | .copyToRedis call data =>
    ⟨if outcome.fails then s else s.setRedis (call.key transit) (.response data), [],
      [⟨call, .routeCache, data⟩]⟩
  | .computeRoutes call mine partners => execRoutes transit side outcome s call mine partners
  | .background request progress =>
    match execRequest transit outcome s request progress with
    | (t, some (.done _)) => ⟨t, [], []⟩
    | (t, some next) => ⟨t, [.background request next], []⟩
    | (t, none) => ⟨t, [], []⟩
  | .saveRedis call result =>
    ⟨if outcome.fails then s else s.setRedis (call.key transit) (.response result),
      [.saveTable call result], []⟩
  | .saveTable call result =>
    let row : RouteCache Value :=
      ⟨call.eventId, call.userId, call.key transit, result, outcome.now.ms + 24 * 3600000⟩
    ⟨if outcome.fails then s else s.upsertCache row, [], [⟨call, .computed, result⟩]⟩
  | .updateFind id userId dto =>
    proceed outcome s (s.findEvent id) (.updateCheck · userId dto)
  | .updateCheck event userId dto =>
    proceed outcome s (if s.isMember event.coupleId userId then some event.id else none)
      (.updateWrite · dto)
  | .updateWrite id dto =>
    if outcome.fails ∨ (s.findEvent id).isNone then ⟨s, [], []⟩
    else
      ⟨{ s with events :=
          s.events.map fun event => if event.id = id then dto.apply event else event },
        if dto.placeOrTimeChanged then [.invalidateFind [id] []] else [], []⟩
  | .updateMeFind userId dto =>
    proceed outcome s (s.findUser userId) fun _ => .updateMeWrite userId dto
  | .updateMeWrite userId dto =>
    if outcome.fails ∨ (s.findUser userId).isNone then ⟨s, [], []⟩
    else
      ⟨{ s with users :=
          s.users.map fun user => if user.id = userId then dto.apply user else user },
        if dto.homeChanged then [.invalidateMemberships userId] else [], []⟩
  | .invalidateMemberships userId =>
    proceed outcome s (some ((s.members.filter (·.userId = userId)).map CoupleMember.coupleId))
      .invalidateCouples
  | .invalidateCouples [] => ⟨s, [], []⟩
  | .invalidateCouples (coupleId :: coupleIds) =>
    proceed outcome s (some ((s.events.filter (·.coupleId = coupleId)).map CalendarEvent.id))
      fun eventIds =>
      if eventIds = [] then .invalidateCouples coupleIds else .invalidateFind eventIds coupleIds
  | .invalidateFind eventIds coupleIds =>
    proceed outcome s (some (s.cacheKeys eventIds)) fun keys =>
      if keys = [] then .invalidateCouples coupleIds else .invalidateRedis eventIds keys coupleIds
  | .invalidateRedis eventIds keys coupleIds =>
    -- a failure of Redis does not end the invalidation
    ⟨if outcome.fails then s else s.delRedis keys, [.invalidateTable eventIds coupleIds], []⟩
  | .invalidateTable eventIds coupleIds =>
    if outcome.fails then ⟨s, [], []⟩
    else ⟨s.deleteCaches eventIds, [.invalidateCouples coupleIds], []⟩

end Exec

inductive Event (Num : Type) where
  | analyze (eventId userId : JsString) (forceRefresh : Bool)
  | update (id userId : JsString) (dto : UpdateEventDto Num)
  | updateMe (userId : JsString) (dto : UpdateUserDto Num)
  | advance (index : Nat) (side : Side) (outcome : Outcome)
  | expireRedis (key : JsString)
  | removeEvent (id : JsString)

structure System (numbers : JsNumbers Num Value) where
  store : Store Num Value
  frames : List (Frame numbers)
  returned : List (Returned numbers)

section System
variable {numbers : JsNumbers Num Value} (transit : Transit Value)

def initial (s : Store Num Value) : System numbers := ⟨s, [], []⟩

def System.start (y : System numbers) (frame : Frame numbers) : System numbers :=
  { y with frames := y.frames ++ [frame] }

/-- Entries may go at any time: Redis drops a key, and the rows of an event go with it. -/
def step (y : System numbers) : Event Num → Option (System numbers)
  | .analyze eventId userId forceRefresh =>
    some (y.start (.analyzeEvent eventId userId forceRefresh))
  | .update id userId dto => some (y.start (.updateFind id userId dto))
  | .updateMe userId dto => some (y.start (.updateMeFind userId dto))
  | .advance index side outcome => do
    let frame ← y.frames[index]?
    let effect := exec transit side outcome y.store frame
    return ⟨effect.store, y.frames.eraseIdx index ++ effect.next, y.returned ++ effect.returned⟩
  | .expireRedis key => some { y with store := y.store.delRedis [key] }
  | .removeEvent id =>
    let rest := { y.store with events := y.store.events.filter (·.id ≠ id) }
    some { y with store := rest.deleteCaches [id] }

end System

end RouteCaching
