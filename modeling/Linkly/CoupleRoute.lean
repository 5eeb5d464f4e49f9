import Linkly.IsoDate
import Linkly.TransitService

/-!
The analysis of a couple's routes to an event, as a function of the values that a call reads, and
the key it is cached under. JavaScript's numbers are a type parameter with the operations that the
analysis uses.
-/
namespace CoupleRoute
open JsText IsoDate KeyedCache RouteOverlap TransitService

/-- The two zeros count as one number. -/
structure JsNumbers (Num Value : Type) where
  toText : Num → JsString
  /-- Neither zero nor `NaN`. -/
  truthy : Num → Bool
  parseFloat : JsString → Num
  /-- At most 50 metres apart. -/
  near : Num → Num → Num → Num → Bool
  /-- What `JSON.stringify` and `JSON.parse` leave of a number; `none` is null. -/
  json : Num → Option Value
  zero : Value
  /-- `new Date(date.getTime() - seconds * 1_000)`, `none` when that is no valid date. -/
  secondsBefore : Date → Value → Option Date

variable {Num Value : Type}

/-- The values of an event and of two homes that an analysis goes on with. -/
structure Inputs (numbers : JsNumbers Num Value) where
  appointmentAt : Date
  myLat : Num
  myLng : Num
  partnerLat : Num
  partnerLng : Num
  placeLat : Num
  placeLng : Num
  truthy : ∀ x ∈ [myLat, myLng, partnerLat, partnerLng, placeLat, placeLng], numbers.truthy x = true

structure MeetupStation (Value : Type) where
  name : JsString
  lat : Option Value
  lng : Option Value
  deriving DecidableEq, Repr

structure RouteResult (Value : Type) where
  departureTime : JsString
  totalTime : Value
  transferCount : Value
  legs : List Leg
  deriving DecidableEq, Repr

inductive RouteType where
  | meetup
  | individual
  deriving DecidableEq, Repr

/-- A response as JSON, without the time of its computation. -/
structure Analysis (Value : Type) where
  type : RouteType
  meetupStation : Option (MeetupStation Value)
  myRoute : RouteResult Value
  partnerDepartureTime : Option JsString
  noOverlapReason : Option String
  deriving DecidableEq, Repr

structure CoupleRouteResponse (Value : Type) extends Analysis Value where
  cachedAt : JsString
  deriving DecidableEq, Repr

section Analysis
variable (numbers : JsNumbers Num Value)

/-- A time outside the range of dates gives a text without digits. -/
def formatTmapDateTime (date : Date) : JsString :=
  let kst := date.ms + 9 * 60 * 60000
  if kst ≤ 8640000000000000 then
    let civil := civilDate (marchDate (kst / 86400000 + 719468))
    let msOfDay := (kst % 86400000).toNat
    SettingText.numberText civil.year ++ pad 2 civil.month.toNat ++ pad 2 civil.day.toNat ++
      pad 2 (msOfDay / 3600000) ++ pad 2 (msOfDay / 60000 % 60)
  else js "NaNNaNNaNNaNNaN"

def calculateDepartureTime (appointmentAt : Date) (totalTime : Value) : Option JsString :=
  (numbers.secondsBefore appointmentAt totalTime).map toISOString

structure BestItinerary (Value : Type) where
  totalTime : Value
  transferCount : Value
  legs : List Leg

/-- `none` is an exception: no itinerary, or one that is null. -/
def extractBestItinerary (data : RouteData Value) : Option (BestItinerary Value) :=
  match data.itineraries with
  | some (some best :: _) =>
    some ⟨best.totalTime.getD numbers.zero, best.transferCount.getD numbers.zero,
      best.legs.getD []⟩
  | _ => none

namespace Inputs
variable {numbers} (inputs : Inputs numbers)

def request (lat lng : Num) : RouteRequest where
  startX := numbers.toText lng
  startY := numbers.toText lat
  endX := numbers.toText inputs.placeLng
  endY := numbers.toText inputs.placeLat
  searchDttm := formatTmapDateTime inputs.appointmentAt

def myRequest : RouteRequest := inputs.request inputs.myLat inputs.myLng

def partnerRequest : RouteRequest := inputs.request inputs.partnerLat inputs.partnerLng

/-- The analysis of two answers; `none` is an exception. -/
def analysis (myRouteRaw partnerRouteRaw : RouteData Value) : Option (Analysis Value) := do
  let myItinerary ← extractBestItinerary numbers myRouteRaw
  let partnerItinerary ← extractBestItinerary numbers partnerRouteRaw
  let myStations := extractStations numbers.parseFloat myItinerary.legs
  let partnerStations := extractStations numbers.parseFloat partnerItinerary.legs
  let overlapStations := findOverlapStations numbers.near myStations partnerStations
  let departureTime ←
    calculateDepartureTime numbers inputs.appointmentAt myItinerary.totalTime
  let myRoute : RouteResult Value :=
    ⟨departureTime, myItinerary.totalTime, myItinerary.transferCount, myItinerary.legs⟩
  match findMeetupStation overlapStations with
  | some meetup =>
    let partnerDepartureTime ←
      calculateDepartureTime numbers inputs.appointmentAt partnerItinerary.totalTime
    return {
      type := .meetup
      meetupStation := some ⟨meetup.name, numbers.json meetup.lat, numbers.json meetup.lng⟩
      myRoute := myRoute
      partnerDepartureTime := some partnerDepartureTime
      noOverlapReason := none }
  | none =>
    return {
      type := .individual
      meetupStation := none
      myRoute := myRoute
      partnerDepartureTime := none
      noOverlapReason := some "겹치는 경로가 없어 각자 이동합니다." }

/-- What the call would give if it computed its routes now. -/
def recompute (transit : Transit Value) : Option (Analysis Value) := do
  let myRouteRaw ← transit.answer inputs.myRequest
  let partnerRouteRaw ← transit.answer inputs.partnerRequest
  inputs.analysis myRouteRaw partnerRouteRaw

end Inputs

end Analysis

section Keys
variable {numbers : JsNumbers Num Value}

def keyParts (eventId : JsString) (inputs : Inputs numbers) : List JsString :=
  [eventId, toISOString inputs.appointmentAt, numbers.toText inputs.myLat,
    numbers.toText inputs.myLng, numbers.toText inputs.partnerLat,
    numbers.toText inputs.partnerLng, numbers.toText inputs.placeLat,
    numbers.toText inputs.placeLng]

def keyString (eventId : JsString) (inputs : Inputs numbers) : JsString :=
  joined (unit ':') (keyParts eventId inputs)

def buildCacheKey (sha256 : JsString → JsString) (eventId : JsString) (inputs : Inputs numbers) :
    JsString :=
  js "transit:couple-route:" ++ sha256 (keyString eventId inputs)

/-- What the text of a number is good for in a key. -/
structure PlainText (numbers : JsNumbers Num Value) : Prop where
  no_colon : ∀ x, unit ':' ∉ numbers.toText x
  faithful : ∀ x y, numbers.truthy x = true → numbers.truthy y = true →
    numbers.toText x = numbers.toText y → x = y

def numberTexts (inputs : Inputs numbers) : List JsString :=
  [inputs.myLat, inputs.myLng, inputs.partnerLat, inputs.partnerLng, inputs.placeLat,
    inputs.placeLng].map numbers.toText

theorem key_string_eq (eventId : JsString) (inputs : Inputs numbers) :
    keyString eventId inputs = eventId ++ unit ':' :: (toISOString inputs.appointmentAt ++
      unit ':' :: joined (unit ':') (numberTexts inputs)) := rfl

theorem number_texts_injective (plain : PlainText numbers) {a b : Inputs numbers}
    (dates : a.appointmentAt = b.appointmentAt) (texts : numberTexts a = numberTexts b) : a = b := by
  obtain ⟨_, _, _, _, _, _, _, truthy_a⟩ := a
  obtain ⟨_, _, _, _, _, _, _, truthy_b⟩ := b
  simp only [List.forall_mem_cons] at truthy_a truthy_b
  simp only [numberTexts, List.map_cons, List.map_nil, List.cons.injEq, and_true] at texts
  obtain ⟨myLat, myLng, partnerLat, partnerLng, placeLat, placeLng⟩ := texts
  simp only [Inputs.mk.injEq]
  exact ⟨dates, plain.faithful _ _ truthy_a.1 truthy_b.1 myLat,
    plain.faithful _ _ truthy_a.2.1 truthy_b.2.1 myLng,
    plain.faithful _ _ truthy_a.2.2.1 truthy_b.2.2.1 partnerLat,
    plain.faithful _ _ truthy_a.2.2.2.1 truthy_b.2.2.2.1 partnerLng,
    plain.faithful _ _ truthy_a.2.2.2.2.1 truthy_b.2.2.2.2.1 placeLat,
    plain.faithful _ _ truthy_a.2.2.2.2.2.1 truthy_b.2.2.2.2.2.1 placeLng⟩

/-- The string separates all that is hashed into a key, the two homes in their roles included. -/
theorem key_string_injective (plain : PlainText numbers) {eventId other : JsString}
    {a b : Inputs numbers} (absent : unit ':' ∉ eventId) (absent_other : unit ':' ∉ other)
    (same : keyString eventId a = keyString other b) : eventId = other ∧ a = b := by
  rw [key_string_eq, key_string_eq] at same
  obtain ⟨ids, same⟩ := head_injective absent absent_other same
  obtain ⟨dates, same⟩ := iso_append_injective same
  have no_colon (inputs : Inputs numbers) : ∀ text ∈ numberTexts inputs, unit ':' ∉ text := by
    intro text mem
    obtain ⟨x, _, rfl⟩ := List.mem_map.mp mem
    exact plain.no_colon x
  have texts := joined_injective (no_colon a) (no_colon b) rfl (List.cons.inj same).2
  exact ⟨ids, number_texts_injective plain dates texts⟩

theorem cache_key_injective (plain : PlainText numbers) {sha256 : JsString → JsString}
    {keyStrings : Set JsString} (separates : Set.InjOn sha256 keyStrings)
    {eventId other : JsString} {a b : Inputs numbers} (in_a : keyString eventId a ∈ keyStrings)
    (in_b : keyString other b ∈ keyStrings) (absent : unit ':' ∉ eventId)
    (absent_other : unit ':' ∉ other)
    (same : buildCacheKey sha256 eventId a = buildCacheKey sha256 other b) :
    eventId = other ∧ a = b :=
  key_string_injective plain absent absent_other
    (separates in_a in_b (List.append_cancel_left same))

/-- The keys of the two services never meet in Redis. -/
theorem cache_key_ne_route_key (sha256 : JsString → JsString) (eventId : JsString)
    (inputs : Inputs numbers) (bucket : BucketInfo) (c : Coordinates) :
    buildCacheKey sha256 eventId inputs ≠ routeKey sha256 bucket c := by
  intro same
  have ninth := congrArg (fun key => key[8]?) same
  exact absurd ninth (by simp [buildCacheKey, routeKey, js, unit])

end Keys

end CoupleRoute
