import Linkly.JsonText
import Linkly.KeyedCache
import Linkly.LocalDate
import Linkly.RouteOverlap

/-!
Routes from the transit service, which keeps the answers of TMAP in Redis by coordinates and time
bucket. The hash is a parameter, and so is what TMAP answers for coordinates and a bucket. JSON
values that are only passed on have a type of their own.
-/
namespace TransitService
open JsText JsonText SettingText KeyedCache RouteOverlap
open LocalDate (dayNumber fullYear)

/-- A field that is absent or null is `none`. -/
structure Itinerary (Value : Type) where
  totalTime : Option Value
  transferCount : Option Value
  legs : Option (List Leg)
  deriving DecidableEq, Repr

/-- A sanitized answer: `itineraries` is there when it is an array, and an itinerary that is no
    object is `none`. -/
structure RouteData (Value : Type) where
  itineraries : Option (List (Option (Itinerary Value)))
  deriving DecidableEq, Repr

@[ext]
structure Coordinates where
  startX : JsString
  startY : JsString
  endX : JsString
  endY : JsString
  deriving DecidableEq, Repr

structure RouteRequest extends Coordinates where
  searchDttm : JsString
  deriving DecidableEq, Repr

@[ext]
structure BucketInfo where
  bucketStartMs : Int
  bucketMinutes : Int
  deriving DecidableEq, Repr

section Times

/-- `Date.UTC`, with a month that is counted from 0 and may lie outside the year. -/
def dateUTC (year month day hour minute second : Int) : Int :=
  (dayNumber (fullYear year + month / 12) (month % 12 + 1) day - 719468) * 86400000 +
    hour * 3600000 + minute * 60000 + second * 1000

def slice (text : JsString) (first last : Nat) : JsString := (text.drop first).take (last - first)

/-- Korean local time. -/
def parseTmapDateTime (value : JsString) : Option Int :=
  let normalized := value.filter isDigit
  let number (first last : Nat) : Int := decimalValue (slice normalized first last)
  if 12 ≤ normalized.length ∧ normalized.length ≤ 14 then
    let second := if 14 ≤ normalized.length then number 12 14 else 0
    some (dateUTC (number 0 4) (number 4 6 - 1) (number 6 8) (number 8 10) (number 10 12) second -
      540 * 60 * 1000)
  else none

/-- `none` is a bad request: the configured length of a bucket or the time is invalid. -/
def getBucketInfo (bucketMinutes : Option Int) (searchDttm : JsString) : Option BucketInfo := do
  let minutes ← bucketMinutes.filter (1 ≤ ·)
  let baseTime ← parseTmapDateTime searchDttm
  let bucketMs := minutes * 60 * 1000
  return ⟨baseTime / bucketMs * bucketMs, minutes⟩

end Times

section Keys

def payloadFront (bucket : BucketInfo) : JsString :=
  openBrace :: js "\"bucketMinutes\":" ++ numberText bucket.bucketMinutes ++
    js ",\"bucketStartMs\":" ++ numberText bucket.bucketStartMs ++
    js ",\"extraKeyData\":" ++ openBrace :: js "\"bucketMinutes\":undefined" ++ closeBrace ::
    js ",\"payload\":" ++ openBrace :: js "\"endX\":"

def coordinatesText (c : Coordinates) : JsString :=
  quote c.endX ++ (js ",\"endY\":" ++ (quote c.endY ++ (js ",\"startX\":" ++
    (quote c.startX ++ (js ",\"startY\":" ++ (quote c.startY ++ [closeBrace, closeBrace]))))))

/-- `stableStringify` of what the key is made from; its entries are sorted by name. -/
def keyPayload (bucket : BucketInfo) (c : Coordinates) : JsString :=
  payloadFront bucket ++ coordinatesText c

def routeKey (sha256 : JsString → JsString) (bucket : BucketInfo) (c : Coordinates) : JsString :=
  js "transit:route:bucket:" ++ (numberText bucket.bucketStartMs ++
    unit ':' :: sha256 (keyPayload bucket c))

theorem coordinates_text_injective {a b : Coordinates}
    (same : coordinatesText a = coordinatesText b) : a = b := by
  obtain ⟨endX, same⟩ := quote_append_injective same
  obtain ⟨endY, same⟩ := quote_append_injective (List.append_cancel_left same)
  obtain ⟨startX, same⟩ := quote_append_injective (List.append_cancel_left same)
  obtain ⟨startY, _⟩ := quote_append_injective (List.append_cancel_left same)
  exact Coordinates.ext startX startY endX endY

theorem number_text_no_colon (n : Int) : unit ':' ∉ numberText n := by
  intro mem
  rcases number_text_plain mem with sign | digit
  · exact absurd sign (by decide)
  · exact absurd digit (by decide)

/-- A key of a bucket and coordinates is that of no other ones. -/
theorem route_key_injective {sha256 : JsString → JsString} {keyStrings : Set JsString}
    (separates : Set.InjOn sha256 keyStrings) {bucket other : BucketInfo} {a b : Coordinates}
    (in_a : keyPayload bucket a ∈ keyStrings) (in_b : keyPayload other b ∈ keyStrings)
    (configured : bucket.bucketMinutes = other.bucketMinutes)
    (same : routeKey sha256 bucket a = routeKey sha256 other b) : bucket = other ∧ a = b := by
  obtain ⟨start, hashes⟩ := head_injective (number_text_no_colon bucket.bucketStartMs)
    (number_text_no_colon other.bucketStartMs) (List.append_cancel_left same)
  have buckets : bucket = other := BucketInfo.ext (number_text_injective start) configured
  have payloads := separates in_a in_b hashes
  rw [keyPayload, keyPayload, buckets] at payloads
  exact ⟨buckets, coordinates_text_injective (List.append_cancel_left payloads)⟩

end Keys

/-- A process of the transit service, with what TMAP answers it for coordinates and a bucket. -/
structure Transit (Value : Type) where
  sha256 : JsString → JsString
  bucketMinutes : Option Int
  tmap : Coordinates → BucketInfo → RouteData Value

namespace Transit
variable {Value : Type} (transit : Transit Value)

def bucketOf (request : RouteRequest) : Option BucketInfo :=
  getBucketInfo transit.bucketMinutes request.searchDttm

def keyOf (request : RouteRequest) (bucket : BucketInfo) : JsString :=
  routeKey transit.sha256 bucket request.toCoordinates

/-- What a request is answered with, by TMAP or from the cache. -/
def answer (request : RouteRequest) : Option (RouteData Value) :=
  (transit.bucketOf request).map (transit.tmap request.toCoordinates)

theorem bucket_minutes {request : RouteRequest} {bucket : BucketInfo}
    (found : transit.bucketOf request = some bucket) :
    transit.bucketMinutes = some bucket.bucketMinutes := by
  simp only [bucketOf, getBucketInfo, bind, Option.bind_eq_some_iff, Option.filter_eq_some_iff,
    pure, Option.some.injEq] at found
  obtain ⟨minutes, ⟨configured, _⟩, _, _, rfl⟩ := found
  exact configured

end Transit

end TransitService
