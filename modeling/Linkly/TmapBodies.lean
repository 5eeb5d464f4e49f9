import Linkly.JsonAccess
import Linkly.RouteCacheRuns

/-!
The analysis of a couple's routes on whatever JSON the bodies of TMAP hold, none of it checked
before it is used. Neither route is cached, and what is cached of the result changes no outcome.
Limits of the engine are left out: the stack that deeply nested values take, when they are converted
to text or when saveCache gives the response to `JSON.stringify`, outside its `try`, and the length
of a text.
-/
namespace TmapBodies
open JsText JsonText JsonAccess IsoDate RouteOverlap
open CoupleRoute (JsNumbers Inputs RouteType formatTmapDateTime)

structure BodyNumbers (Num : Type) extends JsNumbers Num Num where
  /-- `Number` of a text. -/
  number : JsString → Num

/-- Why a call rejects. -/
inductive Rejection where
  | badRequest (message : String)
  | badGateway (message : String)
  | uncaught (fault : Fault)
  deriving DecidableEq, Repr

/-- What TMAP does with a request. -/
inductive Reply where
  /-- It cannot be reached, or the status is not 200. -/
  | failure
  /-- The body is no JSON. -/
  | unreadable
  | body (json : Json)

section Transit

def itinerariesOf (body : Json) : Option Json :=
  chain "itineraries" (chain "plan" (body.member? (js "metaData")))

/-- A field that is absent stays so. -/
def pick (names : List String) (value : Json) : Json :=
  .object (names.filterMap fun name => (value.member? (js name)).map (js name, ·))

def safeItinerary (itinerary : Json) : Json :=
  if isObject itinerary then pick ["totalTime", "totalWalkTime", "transferCount", "legs"] itinerary
  else .null

def nest (names : List String) (value : Json) : Json :=
  names.foldr (fun name inner => .object [(js name, inner)]) value

def sanitizeTmapResponse (body : Json) : Json :=
  if isObject body then
    match itinerariesOf body with
    | some (.array itineraries) =>
      nest ["metaData", "plan", "itineraries"] (.array (itineraries.map safeItinerary))
    | _ => body
  else body

def callTmap : Reply → Except Rejection Json
  | .failure => throw (.badGateway "Tmap transit API request failed")
  | .unreadable => throw (.badGateway "Tmap transit API response invalid")
  | .body json => pure (sanitizeTmapResponse json)

/-- `bucketMinutes` is the configured length of a bucket. -/
def computeRoute (bucketMinutes : Option Int) (arrivalTime : JsString) (reply : Reply) :
    Except Rejection Json :=
  if bucketMinutes.filter (1 ≤ ·) = none then
    throw (.badRequest "Invalid cache bucket configuration")
  else if TransitService.parseTmapDateTime arrivalTime = none then
    throw (.badRequest "Invalid arrivalTime value")
  else callTmap reply

end Transit

structure BestItinerary where
  totalTime : Json
  totalWalkTime : Json
  transferCount : Json
  legs : Json

def zero : Json := .number (js "0")

def extractBestItinerary (routeData : Json) : Except Rejection BestItinerary :=
  match itinerariesOf routeData with
  | some (.array (best :: _)) =>
    Except.mapError .uncaught do
      return {
        totalTime := nullish (← property "totalTime" best) zero
        totalWalkTime := nullish (← property "totalWalkTime" best) zero
        transferCount := nullish (← property "transferCount" best) zero
        legs := nullish (← property "legs" best) (.array []) }
  | _ => throw (.badRequest "No transit route found")

structure RouteResult where
  departureTime : JsString
  totalTime : Json
  transferCount : Json
  legs : Json

structure MeetupStation (Num : Type) where
  name : JsString
  lat : Num
  lng : Num

structure CoupleRouteResponse (Num : Type) where
  type : RouteType
  meetupStation : Option (MeetupStation Num)
  myRoute : RouteResult
  partnerDepartureTime : Option JsString
  noOverlapReason : Option String
  cachedAt : JsString

section Analysis
variable {Num : Type} (numbers : BodyNumbers Num)

/-- The text that `parseFloat` reads a value as. -/
def floatText : Option Json → Except Fault JsString
  | none => pure (js "undefined")
  | some value => toText (fun literal => numbers.toText (numbers.number literal)) value

/-- The number that a value is in a product. -/
def toNumber : Json → Except Fault Num
  | .null => pure (numbers.number (js "0"))
  | .bool value => pure (numbers.number (if value then js "1" else js "0"))
  | .number literal => pure (numbers.number literal)
  | .string text => pure (numbers.number text)
  | value => do
    return numbers.number (← toText (fun literal => numbers.toText (numbers.number literal)) value)

/-- The station of a stop, whose name is taken for a text. -/
def stationOf (stop : Json) (order : Nat) : Except Fault (Station Num) := do
  match ← property "stationName" stop with
  | some (.string name) =>
    return {
      name := name
      normalized := normalizeStationName name
      lat := numbers.parseFloat (← floatText numbers (← property "lat" stop))
      lng := numbers.parseFloat (← floatText numbers (← property "lon" stop))
      order := order }
  | _ => throw .typeError

/-- `state` holds the stations so far and the next order. -/
def pushStop (state : List (Station Num) × Nat) (stop : Json) :
    Except Fault (List (Station Num) × Nat) := do
  return (state.1 ++ [← stationOf numbers stop state.2], state.2 + 1)

def skipped (mode : Option Json) : Bool :=
  match mode with
  | some (.string mode) => mode = js "WALK" ∨ mode = js "TRANSFER"
  | _ => false

def pushLeg (state : List (Station Num) × Nat) (leg : Json) :
    Except Fault (List (Station Num) × Nat) := do
  if skipped (← property "mode" leg) then return state
  else
    match chain "stationList" (← property "passStopList" leg) with
    | some (.array stationList) => stationList.foldlM (pushStop numbers) state
    | _ => return state

def extractStations (legs : Json) : Except Fault (List (Station Num)) := do
  return (← (← iterate legs).foldlM (pushLeg numbers) ([], 0)).1

def calculateDepartureTime (appointmentAt : Date) (totalTimeSeconds : Json) :
    Except Fault JsString := do
  match numbers.secondsBefore appointmentAt (← toNumber numbers totalTimeSeconds) with
  | some date => return toISOString date
  | none => throw .rangeError

/-- The itineraries of both become a response that is built at a time `now`. -/
def respond (appointmentAt : Date) (myItinerary partnerItinerary : BestItinerary) (now : Date) :
    Except Fault (CoupleRouteResponse Num) := do
  let myStations ← extractStations numbers myItinerary.legs
  let partnerStations ← extractStations numbers partnerItinerary.legs
  let overlapStations := findOverlapStations numbers.near myStations partnerStations
  let departureTime ← calculateDepartureTime numbers appointmentAt myItinerary.totalTime
  let myRoute : RouteResult :=
    ⟨departureTime, myItinerary.totalTime, myItinerary.transferCount, myItinerary.legs⟩
  match findMeetupStation overlapStations with
  | some meetup =>
    return {
      type := .meetup
      meetupStation := some ⟨meetup.name, meetup.lat, meetup.lng⟩
      myRoute := myRoute
      partnerDepartureTime :=
        some (← calculateDepartureTime numbers appointmentAt partnerItinerary.totalTime)
      noOverlapReason := none
      cachedAt := toISOString now }
  | none =>
    return {
      type := .individual
      meetupStation := none
      myRoute := myRoute
      partnerDepartureTime := none
      noOverlapReason := some "겹치는 경로가 없어 각자 이동합니다."
      cachedAt := toISOString now }

/-- Both routes are computed before either is looked into; of two rejections the first is given. -/
def analyze (bucketMinutes : Option Int) (inputs : Inputs numbers.toJsNumbers)
    (myReply partnerReply : Reply) (now : Date) : Except Rejection (CoupleRouteResponse Num) := do
  let arrivalTime := formatTmapDateTime inputs.appointmentAt
  let myRouteRaw ← computeRoute bucketMinutes arrivalTime myReply
  let partnerRouteRaw ← computeRoute bucketMinutes arrivalTime partnerReply
  let myItinerary ← extractBestItinerary myRouteRaw
  let partnerItinerary ← extractBestItinerary partnerRouteRaw
  (respond numbers inputs.appointmentAt myItinerary partnerItinerary now).mapError .uncaught

end Analysis

/-- The call returns a response or rejects with an exception that the service raises itself. -/
def Handled {α : Type} : Except Rejection α → Prop
  | .ok _ => True
  | .error (.badRequest _) => True
  | .error (.badGateway _) => True
  | .error (.uncaught _) => False

instance {α : Type} (outcome : Except Rejection α) : Decidable (Handled outcome) :=
  match outcome with
  | .ok _ => isTrue trivial
  | .error (.badRequest _) => isTrue trivial
  | .error (.badGateway _) => isTrue trivial
  | .error (.uncaught _) => isFalse id

section Shapes

def firstItinerary (body : Json) : Option Json :=
  match itinerariesOf body with
  | some (.array (best :: _)) => some best
  | _ => none

/-- The stops that are read of a leg. -/
def stopsOf (leg : Json) : List Json :=
  if skipped (leg.member? (js "mode")) then []
  else
    match chain "stationList" (leg.member? (js "passStopList")) with
    | some (.array stationList) => stationList
    | _ => []

/-- A stop is an object with a name that is a text and with coordinates that have a text. -/
def StopReadable (stop : Json) : Prop :=
  (∃ name, stop.member? (js "stationName") = some (.string name)) ∧
    (∀ lat, stop.member? (js "lat") = some lat → printable lat = true) ∧
    ∀ lon, stop.member? (js "lon") = some lon → printable lon = true

def LegReadable (leg : Json) : Prop := leg ≠ .null ∧ ∀ stop ∈ stopsOf leg, StopReadable stop

/-- A text passes for a list of legs without stops. -/
def LegsReadable : Json → Prop
  | .array legs => ∀ leg ∈ legs, LegReadable leg
  | .string _ => True
  | _ => False

def stopsOfLegs : Json → List Json
  | .array legs => legs.flatMap stopsOf
  | _ => []

/-- What is taken out of an itinerary that is an object. -/
def itineraryOf (itinerary : Json) : BestItinerary where
  totalTime := nullish (itinerary.member? (js "totalTime")) zero
  totalWalkTime := nullish (itinerary.member? (js "totalWalkTime")) zero
  transferCount := nullish (itinerary.member? (js "transferCount")) zero
  legs := nullish (itinerary.member? (js "legs")) (.array [])

variable {Num : Type} (numbers : BodyNumbers Num)

/-- The time is a number that leaves a valid date before the appointment. -/
def TimeReadable (appointmentAt : Date) (totalTime : Json) : Prop :=
  ∃ seconds, toNumber numbers totalTime = .ok seconds ∧
    (numbers.secondsBefore appointmentAt seconds).isSome = true

/-- The two stops have one name or are close to each other. -/
def SamePlace (stop partnerStop : Json) : Prop :=
  ∃ a b, stationOf numbers stop 0 = .ok a ∧ stationOf numbers partnerStop 0 = .ok b ∧
    (nameMatches a b = true ∨ isClose numbers.near a b = true)

def SharedPlace (legs partnerLegs : Json) : Prop :=
  ∃ stop ∈ stopsOfLegs legs, ∃ partnerStop ∈ stopsOfLegs partnerLegs,
    SamePlace numbers stop partnerStop

/-- The two itineraries are what the analysis takes them for. -/
structure ItinerariesReadable (appointmentAt : Date) (mine partners : Json) : Prop where
  partner_object : isObject partners = true
  my_legs : LegsReadable (itineraryOf mine).legs
  partner_legs : LegsReadable (itineraryOf partners).legs
  my_time : TimeReadable numbers appointmentAt (itineraryOf mine).totalTime
  partner_time : SharedPlace numbers (itineraryOf mine).legs (itineraryOf partners).legs →
    TimeReadable numbers appointmentAt (itineraryOf partners).totalTime

/-- A body without itineraries ends the call before the bodies after it are looked into. -/
def BodiesReadable (appointmentAt : Date) (myBody partnerBody : Json) : Prop :=
  ∀ mine, firstItinerary myBody = some mine → isObject mine = true ∧
    ∀ partners, firstItinerary partnerBody = some partners →
      ItinerariesReadable numbers appointmentAt mine partners

end Shapes

section Sanitizing

theorem member_object (members : List (JsString × Json)) (name : JsString) :
    (Json.object members).member? name = members.reverse.lookup name := rfl

theorem pick_entry (value : Json) (name other : String) :
    (((value.member? (js other)).map (js other, ·)).toList).lookup (js name) =
      if js name = js other then value.member? (js name) else none := by
  by_cases same : js name = js other
  · rw [same]
    cases value.member? (js other) <;> simp
  · have differs : (js name == js other) = false := by simpa using same
    cases value.member? (js other) <;> simp [same, List.lookup_cons, differs]

theorem pick_member (names : List String) (value : Json) (name : String) :
    (pick names value).member? (js name) =
      if js name ∈ names.map js then value.member? (js name) else none := by
  induction names with
  | nil => simp [pick, Json.member?]
  | cons other names ih =>
    have split_names : (pick (other :: names) value).member? (js name) =
        ((pick names value).member? (js name)).or
          (if js name = js other then value.member? (js name) else none) := by
      rw [← pick_entry]
      cases found : value.member? (js other) <;>
        simp [pick, member_object, found, List.lookup_append]
    rw [split_names, ih]
    by_cases here : js name = js other
    · split_ifs <;> simp_all
    · simp only [here, if_false, Option.or_none, List.map_cons, List.mem_cons, false_or]

theorem itineraries_nested (value : Json) :
    itinerariesOf (nest ["metaData", "plan", "itineraries"] value) = some value := by
  simp [itinerariesOf, nest, chain, member_object]

theorem primitive_without_itineraries {body : Json} (primitive : isObject body = false) :
    itinerariesOf body = none := by
  cases body <;> simp_all [isObject, itinerariesOf, chain, Json.member?]

theorem sanitized_first (body : Json) :
    firstItinerary (sanitizeTmapResponse body) = (firstItinerary body).map safeItinerary := by
  unfold sanitizeTmapResponse
  split_ifs with is_object
  · cases found : itinerariesOf body with
    | none => simp [firstItinerary, found]
    | some itineraries =>
      cases itineraries <;> simp [firstItinerary, found]
      rename_i items
      rw [itineraries_nested]
      cases items <;> rfl
  · simp [firstItinerary, primitive_without_itineraries (by simpa using is_object)]

theorem picked_itinerary {itinerary : Json} (is_object : isObject itinerary = true) :
    itineraryOf (safeItinerary itinerary) = itineraryOf itinerary := by
  simp only [safeItinerary, is_object, if_true, itineraryOf]
  rw [pick_member, pick_member, pick_member, pick_member]
  simp

theorem extract_first (routeData : Json) : extractBestItinerary routeData =
    match firstItinerary routeData with
    | none => .error (.badRequest "No transit route found")
    | some .null => .error (.uncaught .typeError)
    | some best => .ok (itineraryOf best) := by
  unfold extractBestItinerary firstItinerary
  split
  · rename_i best _ _
    cases best <;> rfl
  · rfl

/-- An itinerary that is no object has been made null. -/
theorem extract_sanitized (body : Json) : extractBestItinerary (sanitizeTmapResponse body) =
    match firstItinerary body with
    | none => .error (.badRequest "No transit route found")
    | some best =>
      if isObject best then .ok (itineraryOf best) else .error (.uncaught .typeError) := by
  rw [extract_first, sanitized_first]
  cases firstItinerary body with
  | none => rfl
  | some best =>
    by_cases is_object : isObject best = true
    · simp only [is_object, if_true, ← picked_itinerary is_object, Option.map_some]
      simp [safeItinerary, is_object, pick]
    · simp [safeItinerary, is_object]

end Sanitizing

section Walking
variable {Num : Type} (numbers : BodyNumbers Num)

theorem float_text_ok_iff (value : Option Json) :
    (∃ text, floatText numbers value = .ok text) ↔ ∀ v, value = some v → printable v = true := by
  cases value with
  | none => simp [floatText]
  | some value => simp [floatText, to_text_ok_iff]

theorem station_of_eq_iff {stop : Json} {order : Nat} {station : Station Num} :
    stationOf numbers stop order = .ok station ↔
      stop.member? (js "stationName") = some (.string station.name) ∧
      (∃ text, floatText numbers (stop.member? (js "lat")) = .ok text ∧
        numbers.parseFloat text = station.lat) ∧
      (∃ text, floatText numbers (stop.member? (js "lon")) = .ok text ∧
        numbers.parseFloat text = station.lng) ∧
      station.normalized = normalizeStationName station.name ∧ station.order = order := by
  constructor
  · intro built
    simp only [stationOf, bind_ok_iff, property_ok_iff] at built
    obtain ⟨_, ⟨_, rfl⟩, built⟩ := built
    split at built
    · rename_i found
      simp only [bind_ok_iff, property_ok_iff, pure_ok_iff] at built
      obtain ⟨_, ⟨_, rfl⟩, latText, lat_ok, _, ⟨_, rfl⟩, lonText, lon_ok, rfl⟩ := built
      exact ⟨found, ⟨latText, lat_ok, rfl⟩, ⟨lonText, lon_ok, rfl⟩, rfl, rfl⟩
    · simp at built
  · rintro ⟨found, ⟨latText, lat_ok, lat_eq⟩, ⟨lonText, lon_ok, lng_eq⟩, normalized, ordered⟩
    have object : stop ≠ .null := by
      rintro rfl
      simp [Json.member?] at found
    simp only [stationOf, property_of_ne_null object, found, bind, Except.bind, lat_ok, lon_ok,
      lat_eq, lng_eq, ← normalized, ← ordered]
    rfl

theorem station_ok_iff (stop : Json) (order : Nat) :
    (∃ station, stationOf numbers stop order = .ok station) ↔ StopReadable stop := by
  simp only [StopReadable, ← float_text_ok_iff numbers, station_of_eq_iff]
  constructor
  · rintro ⟨station, found, ⟨latText, lat_ok, _⟩, ⟨lonText, lon_ok, _⟩, _⟩
    exact ⟨⟨_, found⟩, ⟨_, lat_ok⟩, ⟨_, lon_ok⟩⟩
  · rintro ⟨⟨name, found⟩, ⟨latText, lat_ok⟩, ⟨lonText, lon_ok⟩⟩
    exact ⟨⟨name, normalizeStationName name, numbers.parseFloat latText,
      numbers.parseFloat lonText, order⟩, found, ⟨_, lat_ok, rfl⟩, ⟨_, lon_ok, rfl⟩, rfl, rfl⟩

/-- The place of a station does not depend on its order. -/
theorem station_reordered {stop : Json} {order : Nat} {station : Station Num}
    (built : stationOf numbers stop order = .ok station) (other : Nat) :
    stationOf numbers stop other = .ok { station with order := other } := by
  rw [station_of_eq_iff] at built ⊢
  obtain ⟨found, lat, lon, normalized, _⟩ := built
  exact ⟨found, lat, lon, normalized, rfl⟩

/-- The stations of stops, counted from a number on. -/
def stationsFrom : List Json → Nat → Except Fault (List (Station Num))
  | [], _ => pure []
  | stop :: stops, n => do return (← stationOf numbers stop n) :: (← stationsFrom stops (n + 1))

theorem stations_from_ok_iff (stops : List Json) (n : Nat) :
    (∃ stations, stationsFrom numbers stops n = .ok stations) ↔
      ∀ stop ∈ stops, StopReadable stop := by
  induction stops generalizing n with
  | nil => simp [stationsFrom]
  | cons stop stops ih =>
    rw [List.forall_mem_cons, ← station_ok_iff numbers stop n, ← ih (n + 1)]
    simp only [stationsFrom, bind_ok_iff, pure_ok_iff]
    constructor
    · rintro ⟨_, station, built, stations, rest, _⟩
      exact ⟨⟨station, built⟩, stations, rest⟩
    · rintro ⟨⟨station, built⟩, stations, rest⟩
      exact ⟨_, station, built, stations, rest, rfl⟩

theorem stations_from_append {front back : List Json} {n : Nat} {stations : List (Station Num)} :
    stationsFrom numbers (front ++ back) n = .ok stations ↔
      ∃ first last, stationsFrom numbers front n = .ok first ∧
        stationsFrom numbers back (n + front.length) = .ok last ∧ stations = first ++ last := by
  induction front generalizing n stations with
  | nil => simp [stationsFrom]
  | cons stop front ih =>
    simp only [List.cons_append, stationsFrom, bind_ok_iff, pure_ok_iff, ih, List.length_cons]
    constructor
    · rintro ⟨station, built, _, ⟨first, last, front_ok, back_ok, rfl⟩, rfl⟩
      refine ⟨station :: first, last, ⟨station, built, first, front_ok, rfl⟩, ?_, rfl⟩
      rwa [Nat.add_assoc, Nat.add_comm 1] at back_ok
    · rintro ⟨_, last, ⟨station, built, first, front_ok, rfl⟩, back_ok, rfl⟩
      refine ⟨station, built, _, ⟨first, last, front_ok, ?_, rfl⟩, rfl⟩
      rwa [Nat.add_assoc, Nat.add_comm 1]

theorem push_stops_iff {stops : List Json} {state next : List (Station Num) × Nat} :
    stops.foldlM (pushStop numbers) state = .ok next ↔
      ∃ stations, stationsFrom numbers stops state.2 = .ok stations ∧
        next = (state.1 ++ stations, state.2 + stops.length) := by
  induction stops generalizing state with
  | nil =>
    simp only [List.foldlM_nil, stationsFrom, pure_ok_iff]
    constructor
    · rintro rfl
      exact ⟨[], rfl, by simp⟩
    · rintro ⟨_, rfl, rfl⟩
      simp
  | cons stop stops ih =>
    simp only [List.foldlM_cons, bind_ok_iff, ih, pushStop, stationsFrom, pure_ok_iff]
    constructor
    · rintro ⟨_, ⟨station, built, rfl⟩, stations, rest, rfl⟩
      exact ⟨_, ⟨station, built, stations, rest, rfl⟩, by simp [Nat.add_assoc, Nat.add_comm 1]⟩
    · rintro ⟨_, ⟨station, built, stations, rest, rfl⟩, rfl⟩
      exact ⟨_, ⟨station, built, rfl⟩, stations, rest, by simp [Nat.add_assoc, Nat.add_comm 1]⟩

theorem push_leg_iff {leg : Json} {state next : List (Station Num) × Nat} :
    pushLeg numbers state leg = .ok next ↔
      leg ≠ .null ∧ (stopsOf leg).foldlM (pushStop numbers) state = .ok next := by
  by_cases object : leg = .null
  · subst object
    simp [pushLeg, property, throw, throwThe, MonadExceptOf.throw, bind, Except.bind]
  · simp only [pushLeg, property_of_ne_null object, bind, Except.bind, ne_eq, object,
      not_false_eq_true, true_and, stopsOf]
    split_ifs
    · rfl
    · split <;> rfl

theorem push_legs_iff {legs : List Json} {state next : List (Station Num) × Nat} :
    legs.foldlM (pushLeg numbers) state = .ok next ↔ (∀ leg ∈ legs, leg ≠ .null) ∧
      ∃ stations, stationsFrom numbers (legs.flatMap stopsOf) state.2 = .ok stations ∧
        next = (state.1 ++ stations, state.2 + (legs.flatMap stopsOf).length) := by
  induction legs generalizing state with
  | nil =>
    have no_stops : ([] : List Json).foldlM (pushStop numbers) state = .ok next ↔ _ :=
      push_stops_iff numbers
    simpa using no_stops
  | cons leg legs ih =>
    simp only [List.foldlM_cons, bind_ok_iff, push_leg_iff, push_stops_iff, ih,
      List.forall_mem_cons, List.flatMap_cons, stations_from_append]
    constructor
    · rintro ⟨_, ⟨object, first, first_ok, rfl⟩, objects, last, last_ok, rfl⟩
      exact ⟨⟨object, objects⟩, _, ⟨first, last, first_ok, last_ok, rfl⟩,
        by simp [Nat.add_assoc]⟩
    · rintro ⟨⟨object, objects⟩, _, ⟨first, last, first_ok, last_ok, rfl⟩, rfl⟩
      exact ⟨_, ⟨object, first, first_ok, rfl⟩, objects, last, last_ok, by simp [Nat.add_assoc]⟩

theorem characters_without_stops (text : JsString) :
    ((characters text).map Json.string).flatMap stopsOf = [] := by
  simp [stopsOf, Json.member?, skipped, chain]

theorem extract_stations_iff {legs : Json} {stations : List (Station Num)} :
    extractStations numbers legs = .ok stations ↔
      (∃ items, iterate legs = .ok items ∧ ∀ leg ∈ items, leg ≠ .null) ∧
        stationsFrom numbers (stopsOfLegs legs) 0 = .ok stations := by
  have walked (items : List Json) : (∃ state, items.foldlM (pushLeg numbers) ([], 0) = .ok state ∧
      state.1 = stations) ↔ (∀ leg ∈ items, leg ≠ .null) ∧
        stationsFrom numbers (items.flatMap stopsOf) 0 = .ok stations := by
    simp only [push_legs_iff, List.nil_append]
    constructor
    · rintro ⟨_, ⟨objects, _, built, rfl⟩, rfl⟩
      exact ⟨objects, built⟩
    · rintro ⟨objects, built⟩
      exact ⟨_, ⟨objects, stations, built, rfl⟩, rfl⟩
  simp only [extractStations, bind_ok_iff, pure_ok_iff, walked]
  cases legs <;> simp [iterate, stopsOfLegs, characters_without_stops]

theorem extract_ok_iff (legs : Json) :
    (∃ stations, extractStations numbers legs = .ok stations) ↔ LegsReadable legs := by
  simp only [extract_stations_iff, exists_and_left, stations_from_ok_iff]
  cases legs with
  | array items =>
    simp only [iterate, pure_ok_iff, exists_eq_left', LegsReadable, LegReadable, stopsOfLegs,
      List.mem_flatMap, forall_and]
    constructor
    · rintro ⟨objects, readable⟩
      exact ⟨objects, fun leg mem stop in_leg => readable stop ⟨leg, mem, in_leg⟩⟩
    · rintro ⟨objects, readable⟩
      refine ⟨objects, fun stop listed => ?_⟩
      obtain ⟨leg, mem, in_leg⟩ := listed
      exact readable leg mem stop in_leg
  | _ => simp [iterate, LegsReadable, stopsOfLegs]

theorem stations_from_get_iff {stops : List Json} {n : Nat} {stations : List (Station Num)}
    (built : stationsFrom numbers stops n = .ok stations) (i : Nat) (station : Station Num) :
    stations[i]? = some station ↔
      ∃ stop, stops[i]? = some stop ∧ stationOf numbers stop (n + i) = .ok station := by
  induction stops generalizing n stations i with
  | nil =>
    simp only [stationsFrom, pure_ok_iff] at built
    simp [← built]
  | cons stop stops ih =>
    simp only [stationsFrom, bind_ok_iff, pure_ok_iff] at built
    obtain ⟨first, first_ok, rest, rest_ok, rfl⟩ := built
    cases i with
    | zero => simp [first_ok]
    | succ i => simpa [Nat.add_assoc, Nat.add_comm 1] using ih rest_ok i

theorem stations_from_numbered {stops : List Json} {stations : List (Station Num)}
    (built : stationsFrom numbers stops 0 = .ok stations) : Numbered stations := by
  intro i station at_index
  obtain ⟨stop, _, station_ok⟩ := (stations_from_get_iff numbers built i station).mp at_index
  obtain ⟨_, _, _, _, ordered⟩ := (station_of_eq_iff numbers).mp station_ok
  omega

end Walking

section Meetup
variable {Num : Type} {near : Num → Num → Num → Num → Bool}

theorem no_meetup_iff {stationsA stationsB : List (Station Num)} (numberedA : Numbered stationsA)
    (numberedB : Numbered stationsB) :
    findMeetupStation (findOverlapStations near stationsA stationsB) = none ↔
      ∀ a ∈ stationsA, ∀ b ∈ stationsB, ¬ (nameMatches a b = true ∨ isClose near a b = true) := by
  have positions : meetupPositions near stationsA stationsB = none ↔
      ∀ i j, ¬ (table near stationsA stationsB).meet i j := by
    rw [meetup_positions_eq numberedA numberedB, GreedyPairs.cheapest_none_iff]
  rw [meetupPositions, Option.map_eq_none_iff] at positions
  rw [positions]
  simp only [GreedyPairs.Table.meet, table, List.mem_iff_getElem?]
  constructor
  · rintro apart a ⟨i, at_i⟩ b ⟨j, at_j⟩
    simpa [at_i, at_j] using apart i j
  · intro apart i j
    cases at_i : stationsA[i]? with
    | none => simp
    | some a =>
      cases at_j : stationsB[j]? with
      | none => simp
      | some b => simpa using apart a ⟨i, at_i⟩ b ⟨j, at_j⟩

theorem same_place_iff {numbers : BodyNumbers Num} {stop partnerStop : Json} {i j : Nat}
    {a b : Station Num} (is_a : stationOf numbers stop i = .ok a)
    (is_b : stationOf numbers partnerStop j = .ok b) : SamePlace numbers stop partnerStop ↔
      nameMatches a b = true ∨ isClose numbers.near a b = true := by
  have first_a := station_reordered numbers is_a 0
  have first_b := station_reordered numbers is_b 0
  simp only [SamePlace, first_a, first_b, Except.ok.injEq]
  constructor
  · rintro ⟨_, _, rfl, rfl, fits⟩
    exact fits
  · intro fits
    exact ⟨_, _, rfl, rfl, fits⟩

theorem shared_place_iff {numbers : BodyNumbers Num} {legs partnerLegs : Json}
    {stations partnerStations : List (Station Num)}
    (mine : stationsFrom numbers (stopsOfLegs legs) 0 = .ok stations)
    (partners : stationsFrom numbers (stopsOfLegs partnerLegs) 0 = .ok partnerStations) :
    SharedPlace numbers legs partnerLegs ↔ ∃ a ∈ stations, ∃ b ∈ partnerStations,
      nameMatches a b = true ∨ isClose numbers.near a b = true := by
  have at_a := stations_from_get_iff numbers mine
  have at_b := stations_from_get_iff numbers partners
  simp only [SharedPlace, List.mem_iff_getElem?]
  constructor
  · rintro ⟨stop, ⟨i, at_i⟩, partnerStop, ⟨j, at_j⟩, same⟩
    obtain ⟨a, b, is_a, is_b, fits⟩ := same
    have a_listed := (at_a i _).mpr ⟨stop, at_i, station_reordered numbers is_a (0 + i)⟩
    have b_listed := (at_b j _).mpr ⟨partnerStop, at_j, station_reordered numbers is_b (0 + j)⟩
    exact ⟨_, ⟨i, a_listed⟩, _, ⟨j, b_listed⟩, fits⟩
  · rintro ⟨a, ⟨i, at_i⟩, b, ⟨j, at_j⟩, fits⟩
    obtain ⟨stop, in_legs, is_a⟩ := (at_a i a).mp at_i
    obtain ⟨partnerStop, in_partners, is_b⟩ := (at_b j b).mp at_j
    exact ⟨stop, ⟨i, in_legs⟩, partnerStop, ⟨j, in_partners⟩, (same_place_iff is_a is_b).mpr fits⟩

end Meetup

section Outcome
variable {Num : Type} (numbers : BodyNumbers Num)

theorem departure_ok_iff (appointmentAt : Date) (totalTime : Json) :
    (∃ text, calculateDepartureTime numbers appointmentAt totalTime = .ok text) ↔
      TimeReadable numbers appointmentAt totalTime := by
  simp only [calculateDepartureTime, TimeReadable, bind_ok_iff]
  constructor
  · rintro ⟨text, seconds, converted, valid⟩
    refine ⟨seconds, converted, ?_⟩
    cases before : numbers.secondsBefore appointmentAt seconds with
    | none => simp [before] at valid
    | some date => rfl
  · rintro ⟨seconds, converted, valid⟩
    obtain ⟨date, before⟩ := Option.isSome_iff_exists.mp valid
    exact ⟨toISOString date, seconds, converted, by simp [before]⟩

/-- A response comes out of two itineraries exactly when they can be read. -/
theorem respond_ok_iff (appointmentAt : Date) (mine partners : Json) (now : Date) :
    (∃ response, respond numbers appointmentAt (itineraryOf mine) (itineraryOf partners) now =
      .ok response) ↔ LegsReadable (itineraryOf mine).legs ∧
        LegsReadable (itineraryOf partners).legs ∧
        TimeReadable numbers appointmentAt (itineraryOf mine).totalTime ∧
        (SharedPlace numbers (itineraryOf mine).legs (itineraryOf partners).legs →
          TimeReadable numbers appointmentAt (itineraryOf partners).totalTime) := by
  rw [← extract_ok_iff numbers, ← extract_ok_iff numbers, ← departure_ok_iff, ← departure_ok_iff]
  constructor
  · rintro ⟨response, built⟩
    simp only [respond, bind_ok_iff] at built
    obtain ⟨stations, mine_ok, partnerStations, partners_ok, departure, departure_ok, rest⟩ := built
    refine ⟨⟨_, mine_ok⟩, ⟨_, partners_ok⟩, ⟨_, departure_ok⟩, ?_⟩
    intro shared
    have my_stops := ((extract_stations_iff numbers).mp mine_ok).2
    have partner_stops := ((extract_stations_iff numbers).mp partners_ok).2
    obtain ⟨a, mem_a, b, mem_b, fits⟩ := (shared_place_iff my_stops partner_stops).mp shared
    split at rest
    · obtain ⟨partnerDeparture, partner_ok, _⟩ := bind_ok_iff.mp rest
      exact ⟨_, partner_ok⟩
    · rename_i none_found
      exact absurd fits ((no_meetup_iff (stations_from_numbered numbers my_stops)
        (stations_from_numbered numbers partner_stops)).mp none_found a mem_a b mem_b)
  · rintro ⟨⟨stations, mine_ok⟩, ⟨partnerStations, partners_ok⟩, ⟨departure, departure_ok⟩,
      partner_time⟩
    have my_stops := ((extract_stations_iff numbers).mp mine_ok).2
    have partner_stops := ((extract_stations_iff numbers).mp partners_ok).2
    cases found : findMeetupStation (findOverlapStations numbers.near stations partnerStations) with
    | none =>
      simp only [respond, mine_ok, partners_ok, departure_ok, bind, Except.bind, found]
      exact ⟨_, rfl⟩
    | some meetup =>
      have shared : SharedPlace numbers (itineraryOf mine).legs (itineraryOf partners).legs := by
        rw [shared_place_iff my_stops partner_stops]
        by_contra apart
        push Not at apart
        have unmet := (no_meetup_iff (stations_from_numbered numbers my_stops)
          (stations_from_numbered numbers partner_stops)).mpr (by simpa using apart)
        rw [unmet] at found
        simp at found
      obtain ⟨partnerDeparture, partner_ok⟩ := partner_time shared
      simp only [respond, mine_ok, partners_ok, departure_ok, bind, Except.bind, found, partner_ok]
      exact ⟨_, rfl⟩

theorem handled_mapped_iff {α : Type} (x : Except Fault α) :
    Handled (x.mapError .uncaught) ↔ ∃ a, x = .ok a := by
  cases x <;> simp [Except.mapError, Handled]

/-- The request has no bucket, so that TMAP is not asked at all. -/
def Unasked (bucketMinutes : Option Int) (appointmentAt : Date) : Prop :=
  TransitService.getBucketInfo bucketMinutes (formatTmapDateTime appointmentAt) = none

theorem unasked_handled {bucketMinutes : Option Int} {inputs : Inputs numbers.toJsNumbers}
    (unasked : Unasked bucketMinutes inputs.appointmentAt) (myReply partnerReply : Reply)
    (now : Date) : Handled (analyze numbers bucketMinutes inputs myReply partnerReply now) := by
  rw [analyze, computeRoute]
  cases minutes : bucketMinutes.filter (1 ≤ ·) with
  | none => simp [Handled, throw, throwThe, MonadExceptOf.throw, bind, Except.bind]
  | some configured =>
    cases time : TransitService.parseTmapDateTime (formatTmapDateTime inputs.appointmentAt) with
    | none => simp [Handled, throw, throwThe, MonadExceptOf.throw, bind, Except.bind]
    | some ms => simp [Unasked, TransitService.getBucketInfo, minutes, time] at unasked

theorem compute_route_asked {bucketMinutes : Option Int} {appointmentAt : Date}
    (asked : ¬ Unasked bucketMinutes appointmentAt) (body : Json) :
    computeRoute bucketMinutes (formatTmapDateTime appointmentAt) (.body body) =
      .ok (sanitizeTmapResponse body) := by
  cases minutes : bucketMinutes.filter (1 ≤ ·) with
  | none => simp [Unasked, TransitService.getBucketInfo, minutes] at asked
  | some configured =>
    cases time : TransitService.parseTmapDateTime (formatTmapDateTime appointmentAt) with
    | none => simp [Unasked, TransitService.getBucketInfo, minutes, time] at asked
    | some ms =>
      simp only [computeRoute, minutes, time, reduceCtorEq, if_false]
      rfl

theorem analyze_handles_iff_readable (bucketMinutes : Option Int)
    (inputs : Inputs numbers.toJsNumbers) (myBody partnerBody : Json) (now : Date) :
    Handled (analyze numbers bucketMinutes inputs (.body myBody) (.body partnerBody) now) ↔
      Unasked bucketMinutes inputs.appointmentAt ∨
        BodiesReadable numbers inputs.appointmentAt myBody partnerBody := by
  by_cases unasked : Unasked bucketMinutes inputs.appointmentAt
  · simp only [unasked, true_or, iff_true]
    exact unasked_handled numbers unasked _ _ now
  · simp only [unasked, false_or, analyze, compute_route_asked unasked, bind, Except.bind,
      extract_sanitized, BodiesReadable]
    cases firstItinerary myBody with
    | none => simp [Handled]
    | some mine =>
      by_cases my_object : isObject mine = true
      · cases firstItinerary partnerBody with
        | none => simp [Handled, my_object]
        | some partners =>
          by_cases partner_object : isObject partners = true
          · simp only [my_object, partner_object, if_true, handled_mapped_iff, respond_ok_iff,
              Option.some.injEq, forall_eq', true_and]
            constructor
            · rintro ⟨my_legs, partner_legs, my_time, partner_time⟩
              exact ⟨partner_object, my_legs, partner_legs, my_time, partner_time⟩
            · rintro ⟨_, my_legs, partner_legs, my_time, partner_time⟩
              exact ⟨my_legs, partner_legs, my_time, partner_time⟩
          · have unreadable : ¬ ItinerariesReadable numbers inputs.appointmentAt mine partners :=
              fun readable => partner_object readable.partner_object
            simp [Handled, my_object, partner_object, unreadable]
      · simp [Handled, my_object]

end Outcome

def sampleNumbers : BodyNumbers Int where
  toJsNumbers := RouteCacheRuns.wholeNumbers
  number text := (SettingText.parseInt text).getD 0

/-- A body with these itineraries. -/
def sampleBody (itineraries : List Json) : Json :=
  nest ["metaData", "plan", "itineraries"] (.array itineraries)

theorem null_itinerary_escapes : ¬ ∀ (Num : Type) (numbers : BodyNumbers Num)
    (bucketMinutes : Option Int) (inputs : Inputs numbers.toJsNumbers) (myBody partnerBody : Json)
    (now : Date),
    Handled (analyze numbers bucketMinutes inputs (.body myBody) (.body partnerBody) now) := by
  intro every
  have handled := every Int sampleNumbers (some 5) RouteCacheRuns.sampleInputs (sampleBody [.null])
    (sampleBody [.null]) RouteCacheRuns.sampleDate
  revert handled
  decide +kernel

/-- Legs that are no list, a stop without a name, and a total time that leads before all dates. -/
example : ∀ itinerary ∈ [
      [(js "legs", Json.number (js "1"))],
      [(js "legs", .array [nest ["passStopList", "stationList"] (.array [.object []])])],
      [(js "totalTime", .string (js "9999999999999999"))]],
    ¬ Handled (analyze sampleNumbers (some 5) RouteCacheRuns.sampleInputs
      (.body (sampleBody [.object itinerary])) (.body (sampleBody [.object []]))
      RouteCacheRuns.sampleDate) := by decide +kernel

end TmapBodies
