import Linkly.IsoDate
import Linkly.TransitService
import Mathlib.Tactic.Positivity

/-!
The cache keys of the transit service for requests with any bucket length and any time. Lengths and
times are numbers of JavaScript: a product is rounded to a double, and one beyond all doubles is
infinite.
-/
namespace TransitKeys
open IsoDate JsText JsonText KeyedCache SettingText TransitService
open LocalDate (dayNumber fullYear)

section Doubles

theorem nearest_double_small {n : Nat} (small : n < 2 ^ 53) : nearestDouble n = n := by
  rw [nearestDouble, if_pos small]

theorem nearest_double_large {n : Nat} (large : 2 ^ 53 ≤ n) : 2 ^ 53 ≤ nearestDouble n := by
  have not_small : ¬ n < 2 ^ 53 := by omega
  rw [nearestDouble, if_neg not_small]
  have magnitude : 53 ≤ n.log2 := (Nat.le_log2 (by omega)).mpr large
  have whole : 2 ^ (n.log2 - 52) * 2 ^ 52 = 2 ^ n.log2 := by
    rw [← Nat.pow_add]
    congr 1
    omega
  have quotient : 2 ^ 52 ≤ n / 2 ^ (n.log2 - 52) := by
    rw [Nat.le_div_iff_mul_le (by positivity), Nat.mul_comm, whole]
    exact Nat.log2_self_le (by omega)
  have power : 2 ^ 53 ≤ 2 ^ n.log2 := Nat.pow_le_pow_right (by decide) magnitude
  have enough : ∀ k, 2 ^ 52 ≤ k → 2 ^ 53 ≤ k * 2 ^ (n.log2 - 52) := by
    intro k at_least
    calc 2 ^ 53 ≤ 2 ^ 52 * 2 ^ (n.log2 - 52) := by rw [Nat.mul_comm, whole]; exact power
      _ ≤ k * 2 ^ (n.log2 - 52) := Nat.mul_le_mul_right _ at_least
  refine Nat.le_min.mpr ⟨enough _ ?_, by decide +kernel⟩
  split <;> omega

end Doubles

/-- Infinity is the power 1024 of two. -/
def infinity : Nat := 2 ^ 1024

/-- `bucketMinutes * 60 * 1000` -/
def bucketMs (bucketMinutes : Nat) : Nat := nearestDouble (nearestDouble (bucketMinutes * 60) * 1000)

def signedDouble (n : Int) : Int := if n < 0 then -nearestDouble n.natAbs else nearestDouble n.natAbs

/-- `Math.floor(baseTime / bucketMs) * bucketMs`. The quotient of a time and a length is never rounded
    across a whole number; an infinite length gives 0 times infinity, which is `NaN`. -/
def bucketStart (bucketMinutes : Nat) (baseTime : Int) : Option Int :=
  if bucketMs bucketMinutes = infinity then none
  else some (signedDouble (baseTime / bucketMs bucketMinutes * bucketMs bucketMinutes))

/-- The times lie between the same two multiples of the length. -/
def SameInterval (bucketMinutes : Nat) (time other : Int) : Prop :=
  time / (bucketMinutes * 60000 : Int) = other / (bucketMinutes * 60000 : Int)

section Intervals

theorem bucket_ms_small {minutes : Nat} (small : minutes * 60000 < 2 ^ 53) :
    bucketMs minutes = minutes * 60000 := by
  have seconds : minutes * 60 < 2 ^ 53 := by omega
  have millis : minutes * 60 * 1000 = minutes * 60000 := by omega
  rw [bucketMs, nearest_double_small seconds, millis, nearest_double_small small]

theorem bucket_ms_large {minutes : Nat} (large : 2 ^ 53 ≤ minutes * 60000) :
    2 ^ 53 ≤ bucketMs minutes := by
  have product : 2 ^ 53 ≤ nearestDouble (minutes * 60) * 1000 := by
    by_cases small : minutes * 60 < 2 ^ 53
    · rw [nearest_double_small small, Nat.mul_assoc]
      exact large
    · have seconds := nearest_double_large (Nat.le_of_not_lt small)
      exact seconds.trans (Nat.le_mul_of_pos_right _ (by decide))
  exact nearest_double_large product

theorem signed_double_small {n : Int} (small : n.natAbs < 2 ^ 53) : signedDouble n = n := by
  rw [signedDouble, nearest_double_small small]
  split <;> omega

theorem signed_double_large {n : Int} (large : 2 ^ 53 ≤ n.natAbs) (negative : n < 0) :
    signedDouble n ≤ -2 ^ 53 := by
  have := nearest_double_large large
  rw [signedDouble, if_pos negative]
  omega

/-- Of a length beyond all times there are two intervals, before and after the epoch. -/
theorem div_large {length : Int} {time : Date} (large : 2 ^ 53 ≤ length) :
    time.ms / length = if time.ms < 0 then -1 else 0 := by
  have range := time.range
  split
  · rw [Int.ediv_eq_iff_of_pos (by omega)]
    omega
  · rw [Int.ediv_eq_zero_of_lt] <;> omega

theorem start_large {minutes : Nat} (large : 2 ^ 53 ≤ minutes * 60000) {time : Date} {start : Int}
    (found : bucketStart minutes time.ms = some start) : start < 0 ↔ time.ms < 0 := by
  have length := bucket_ms_large large
  unfold bucketStart at found
  split_ifs at found
  rw [← Option.some.inj found, div_large (by omega)]
  split
  · rename_i negative
    have below := signed_double_large (n := -1 * bucketMs minutes) (by omega) (by omega)
    simp only [negative, iff_true]
    omega
  · simp [signedDouble, nearestDouble, *]

/-- Rounding keeps the multiples of a length apart that a date can lie behind. -/
theorem rounded_multiple_injective (length : Int) (positive : 0 < length) {time other : Date}
    (same : signedDouble (time.ms / length * length) = signedDouble (other.ms / length * length)) :
    time.ms / length = other.ms / length := by
  have range := time.range
  have range_other := other.range
  have below := Int.ediv_mul_le time.ms (by omega : length ≠ 0)
  have below_other := Int.ediv_mul_le other.ms (by omega : length ≠ 0)
  have above := Int.lt_ediv_add_one_mul_self time.ms positive
  have above_other := Int.lt_ediv_add_one_mul_self other.ms positive
  by_cases small : (time.ms / length * length).natAbs < 2 ^ 53 <;>
    by_cases small_other : (other.ms / length * length).natAbs < 2 ^ 53
  · rw [signed_double_small small, signed_double_small small_other] at same
    exact Int.eq_of_mul_eq_mul_right (by omega) same
  · have large := signed_double_large (Nat.le_of_not_lt small_other) (by omega)
    rw [signed_double_small small] at same
    omega
  · have large := signed_double_large (Nat.le_of_not_lt small) (by omega)
    rw [signed_double_small small_other] at same
    omega
  · -- both multiples are the first one below all dates
    have le : time.ms / length < other.ms / length + 1 :=
      Int.lt_of_mul_lt_mul_right (by omega) (Int.le_of_lt positive)
    have ge : other.ms / length < time.ms / length + 1 :=
      Int.lt_of_mul_lt_mul_right (by omega) (Int.le_of_lt positive)
    omega

theorem infinite_large {minutes : Nat} (infinite : bucketMs minutes = infinity) :
    2 ^ 53 ≤ minutes * 60000 := by
  by_contra small
  have finite : minutes * 60000 = 2 ^ 1024 := by
    rw [← bucket_ms_small (Nat.lt_of_not_le small), infinite, infinity]
  have : (2 ^ 53 : Nat) < 2 ^ 1024 := by decide +kernel
  omega

theorem same_interval_large {minutes : Nat} (large : 2 ^ 53 ≤ minutes * 60000)
    {time other : Date} : SameInterval minutes time.ms other.ms ↔
      (time.ms < 0 ↔ other.ms < 0) := by
  rw [SameInterval, div_large (by omega), div_large (by omega)]
  split <;> split <;> (simp_all; try omega)

/-- Times with the same bucket start lie in the same interval, unless the start is no number. -/
theorem same_interval_of_start {minutes : Nat} (positive : 1 ≤ minutes) {time other : Date}
    {start : Int} (found : bucketStart minutes time.ms = some start)
    (found_other : bucketStart minutes other.ms = some start) :
    SameInterval minutes time.ms other.ms := by
  by_cases large : 2 ^ 53 ≤ minutes * 60000
  · rw [same_interval_large large, ← start_large large found, ← start_large large found_other]
  · have length := bucket_ms_small (Nat.lt_of_not_le large)
    have multiples := found.trans found_other.symm
    unfold bucketStart at multiples found
    split_ifs at multiples found
    rw [length] at multiples
    have same := rounded_multiple_injective ((minutes * 60000 : Nat) : Int) (by omega)
      (Option.some.inj multiples)
    rw [SameInterval]
    simpa using same

end Intervals

section Times

theorem slice_value_lt {text : JsString} (digits : ∀ u ∈ text, isDigit u = true) {first last : Nat}
    (size : Nat) (short : last - first ≤ size) : decimalValue (slice text first last) < 10 ^ size := by
  have inside : ∀ u ∈ slice text first last, isDigit u = true :=
    fun u mem => digits u (List.mem_of_mem_drop (List.mem_of_mem_take mem))
  have length : (slice text first last).length ≤ size := by
    simp only [slice, List.length_take]
    omega
  exact (SettingText.decimal_value_lt inside).trans_le (Nat.pow_le_pow_right (by decide) length)

theorem date_utc_range {year month day hour minute second : Int}
    (years : 0 ≤ year ∧ year < 10000) (months : -1 ≤ month ∧ month < 99)
    (days : 0 ≤ day ∧ day < 100) (hours : 0 ≤ hour ∧ hour < 100)
    (minutes : 0 ≤ minute ∧ minute < 100) (seconds : 0 ≤ second ∧ second < 100) :
    -8640000000000000 ≤ dateUTC year month day hour minute second - 540 * 60 * 1000 ∧
      dateUTC year month day hour minute second - 540 * 60 * 1000 ≤ 8640000000000000 := by
  simp only [dateUTC, dayNumber, fullYear]
  split_ifs <;> omega

/-- The texts of times do not leave the range of dates. -/
theorem parsed_range {value : JsString} {ms : Int} (parsed : parseTmapDateTime value = some ms) :
    -8640000000000000 ≤ ms ∧ ms ≤ 8640000000000000 := by
  have digits : ∀ u ∈ value.filter isDigit, isDigit u = true :=
    fun u mem => (List.mem_filter.mp mem).2
  simp only [parseTmapDateTime] at parsed
  split_ifs at parsed with size full
  all_goals
    have year := slice_value_lt digits 4 (show 4 - 0 ≤ 4 by decide)
    have month := slice_value_lt digits 2 (show 6 - 4 ≤ 2 by decide)
    have day := slice_value_lt digits 2 (show 8 - 6 ≤ 2 by decide)
    have hour := slice_value_lt digits 2 (show 10 - 8 ≤ 2 by decide)
    have minute := slice_value_lt digits 2 (show 12 - 10 ≤ 2 by decide)
    have second := slice_value_lt digits 2 (show 14 - 12 ≤ 2 by decide)
    rw [← Option.some.inj parsed]
    apply date_utc_range <;> omega

end Times

/-- `String` of a number; the two zeros count as one number. -/
structure NumberTexts (Num : Type) where
  ofNumber : Num → JsString
  ofWhole : Int → JsString

/-- Numbers are read back from their texts, and a whole number has digits, signs and an exponent. -/
structure NumberTexts.Faithful {Num : Type} (texts : NumberTexts Num) : Prop where
  numbers : Function.Injective texts.ofNumber
  wholes : Function.Injective texts.ofWhole
  no_colon : ∀ n, unit ':' ∉ texts.ofWhole n
  no_comma : ∀ n, unit ',' ∉ texts.ofWhole n

structure Location (Num : Type) where
  lat : Num
  lon : Num
  deriving DecidableEq, Repr

inductive Scope where
  | route
  | departuresA
  | departuresB
  deriving DecidableEq, Repr

def Scope.text : Scope → JsString
  | .route => js "route"
  | .departuresA => js "departures:A"
  | .departuresB => js "departures:B"

/-- What one request to TMAP is made from, with the clock at the call. An arrival time that is null
    counts as absent; a null bucket length is `some none`. -/
structure Fetch (Num : Type) where
  scope : Scope
  origin : Location Num
  destination : Location Num
  arrivalTime : Option JsString
  bucketMinutes : Option (Option Nat)
  now : Date
  deriving DecidableEq, Repr

/-- A start that is `NaN` is `none`. -/
structure Bucket where
  startMs : Option Int
  minutes : Nat
  deriving DecidableEq, Repr

/-- The process: its hash, its configured bucket length and the texts of its numbers. -/
structure Service (Num : Type) where
  sha256 : JsString → JsString
  bucketMinutes : Option Int
  texts : NumberTexts Num

namespace Fetch
variable {Num : Type} (service : Service Num) (fetch : Fetch Num)

/-- An empty text is left out. -/
def searchDttm : Option JsString := fetch.arrivalTime.filter fun text => text ≠ []

/-- `none` is a bad request, `some none` stands for no time. -/
def extractRequestTime : Option (Option Int) :=
  match fetch.searchDttm.or fetch.arrivalTime with
  | none => some none
  | some candidate => (parseTmapDateTime candidate).map some

/-- The configured length must be finite and at least 1. -/
def resolveBucketMinutes : Option Nat :=
  match fetch.bucketMinutes with
  | none | some none =>
    (service.bucketMinutes.filter fun minutes : Int =>
      decide (1 ≤ minutes ∧ minutes < (infinity : Int))).map Int.toNat
  | some (some value) => if value < 1 then none else some value

/-- The parsed arrival time, else the clock. -/
def baseTime : Option Int := fetch.extractRequestTime.map fun time => time.getD fetch.now.ms

/-- `none` is a bad request. -/
def getBucketInfo : Option Bucket := do
  let minutes ← fetch.resolveBucketMinutes service
  let baseTime ← fetch.baseTime
  return ⟨bucketStart minutes baseTime, minutes⟩

def coordinates : Coordinates where
  startX := service.texts.ofNumber fetch.origin.lon
  startY := service.texts.ofNumber fetch.origin.lat
  endX := service.texts.ofNumber fetch.destination.lon
  endY := service.texts.ofNumber fetch.destination.lat

def keyExtra : JsString :=
  match fetch.bucketMinutes with
  | none => js "undefined"
  | some none => js "null"
  | some (some value) => service.texts.ofWhole value

/-- `stableStringify` of what the key is made from; its entries are sorted by name. -/
def raw (bucket : Bucket) : JsString :=
  openBrace :: js "\"bucketMinutes\":" ++ (service.texts.ofWhole bucket.minutes ++
    unit ',' :: (js "\"bucketStartMs\":" ++
      ((bucket.startMs.map service.texts.ofWhole).getD (js "null") ++
        unit ',' :: (js "\"extraKeyData\":" ++ openBrace :: js "\"bucketMinutes\":" ++
          (fetch.keyExtra service ++ [closeBrace] ++
            unit ',' :: (js "\"payload\":" ++ openBrace :: js "\"endX\":" ++
              coordinatesText (fetch.coordinates service)))))))

def buildCacheKey (bucket : Bucket) : JsString :=
  js "transit:" ++ (fetch.scope.text ++ (js ":bucket:" ++
    ((bucket.startMs.map service.texts.ofWhole).getD (js "NaN") ++
      unit ':' :: service.sha256 (fetch.raw service bucket))))

variable {service fetch}

theorem bucket_of_info {bucket : Bucket} (found : fetch.getBucketInfo service = some bucket) :
    fetch.resolveBucketMinutes service = some bucket.minutes ∧
      ∃ time : Date, fetch.baseTime = some time.ms ∧
        bucket.startMs = bucketStart bucket.minutes time.ms := by
  simp only [getBucketInfo, bind, Option.bind_eq_some_iff, pure, Option.some.injEq] at found
  obtain ⟨minutes, resolved, ms, based, rfl⟩ := found
  refine ⟨resolved, ?_⟩
  obtain ⟨time, extracted, is_base⟩ := Option.map_eq_some_iff.mp based
  cases time with
  | none => exact ⟨fetch.now, by rw [based, ← is_base]; rfl, by rw [← is_base]; rfl⟩
  | some ms' =>
    obtain rfl : ms' = ms := is_base
    unfold extractRequestTime at extracted
    split at extracted
    · simp at extracted
    · obtain ⟨parsed, found, same⟩ := Option.map_eq_some_iff.mp extracted
      obtain rfl := Option.some.inj same
      exact ⟨⟨parsed, parsed_range found⟩, based, rfl⟩

theorem resolved_positive {minutes : Nat}
    (resolved : fetch.resolveBucketMinutes service = some minutes) : 1 ≤ minutes := by
  unfold resolveBucketMinutes at resolved
  split at resolved
  · obtain ⟨configured, kept, rfl⟩ := Option.map_eq_some_iff.mp resolved
    have range := (Option.filter_eq_some_iff.mp kept).2
    simp only [decide_eq_true_eq] at range
    omega
  · obtain ⟨configured, kept, rfl⟩ := Option.map_eq_some_iff.mp resolved
    have range := (Option.filter_eq_some_iff.mp kept).2
    simp only [decide_eq_true_eq] at range
    omega
  · split_ifs at resolved
    rw [← Option.some.inj resolved]
    omega

theorem scope_injective {a b : Scope} {x y : JsString}
    (same : a.text ++ (js ":bucket:" ++ x) = b.text ++ (js ":bucket:" ++ y)) : a = b ∧ x = y := by
  cases a <;> cases b <;> simp [Scope.text, js, unit] at same ⊢ <;> exact same

/-- Without a length of its own a request of the route scope has the key of the route analysis. -/
theorem configured_key {start : Int} {minutes : Nat} (routes : fetch.scope = .route)
    (configured : fetch.bucketMinutes = none) (digits : service.texts.ofWhole = numberText) :
    fetch.buildCacheKey service ⟨some start, minutes⟩ =
      routeKey service.sha256 ⟨start, minutes⟩ (fetch.coordinates service) := by
  simp [buildCacheKey, routeKey, raw, keyPayload, payloadFront, keyExtra, routes, configured,
    digits, Scope.text, js]

variable (faithful : service.texts.Faithful) {other : Fetch Num} {bucket otherBucket : Bucket}
include faithful

theorem extra_no_comma (fetch : Fetch Num) :
    unit ',' ∉ fetch.keyExtra service ++ [closeBrace] := by
  have not_brace : unit ',' ∉ [closeBrace] := by decide
  have not_extra : unit ',' ∉ fetch.keyExtra service := by
    unfold keyExtra
    split
    · decide
    · decide
    · exact faithful.no_comma _
  intro mem
  rcases List.mem_append.mp mem with extra | brace
  · exact not_extra extra
  · exact not_brace brace

theorem start_no_comma (start : Option Int) :
    unit ',' ∉ (start.map service.texts.ofWhole).getD (js "null") := by
  cases start with
  | none => exact (by decide : unit ',' ∉ js "null")
  | some start => exact faithful.no_comma start

/-- The hashed text gives the length and the coordinates back. -/
theorem raw_injective (same : fetch.raw service bucket = other.raw service otherBucket) :
    bucket.minutes = otherBucket.minutes ∧
      fetch.coordinates service = other.coordinates service := by
  have from_minutes := List.append_cancel_left (List.cons.inj same).2
  obtain ⟨minutes, from_start⟩ :=
    head_injective (faithful.no_comma _) (faithful.no_comma _) from_minutes
  obtain ⟨_, from_extra⟩ := head_injective (start_no_comma faithful _) (start_no_comma faithful _)
    (List.append_cancel_left from_start)
  obtain ⟨_, from_payload⟩ := head_injective (extra_no_comma faithful fetch)
    (extra_no_comma faithful other) (List.append_cancel_left from_extra)
  exact ⟨Int.ofNat.inj (faithful.wholes minutes),
    coordinates_text_injective (List.append_cancel_left from_payload)⟩

theorem locations_of_coordinates (same : fetch.coordinates service = other.coordinates service) :
    fetch.origin = other.origin ∧ fetch.destination = other.destination := by
  obtain ⟨scope, origin, destination, _, _, _⟩ := fetch
  obtain ⟨otherScope, otherOrigin, otherDestination, _, _, _⟩ := other
  have texts := Coordinates.mk.inj same
  obtain ⟨startX, startY, endX, endY⟩ := texts
  cases origin
  cases destination
  cases otherOrigin
  cases otherDestination
  simp only at startX startY endX endY
  simp [faithful.numbers startX, faithful.numbers startY, faithful.numbers endX,
    faithful.numbers endY]

end Fetch

section Requests
variable {Num : Type} (service : Service Num)

/-- All strings that are hashed into keys. -/
def keyStrings : Set JsString :=
  {text | ∃ (fetch : Fetch Num) (bucket : Bucket), text = fetch.raw service bucket}

/-- The same scope, coordinates and bucket length, with times in the same interval of that length. -/
structure SameRequest (fetch other : Fetch Num) : Prop where
  scope : fetch.scope = other.scope
  origin : fetch.origin = other.origin
  destination : fetch.destination = other.destination
  interval : ∃ minutes time otherTime, fetch.resolveBucketMinutes service = some minutes ∧
    other.resolveBucketMinutes service = some minutes ∧ fetch.baseTime = some time ∧
    other.baseTime = some otherTime ∧ SameInterval minutes time otherTime

/-- The requests differ only in that one time lies before the epoch and the other one does not, and
    their bucket length is infinite in milliseconds. -/
def Collide (fetch other : Fetch Num) : Prop :=
  (fetch.scope = other.scope ∧ fetch.origin = other.origin ∧
    fetch.destination = other.destination) ∧
  (fetch.resolveBucketMinutes service = other.resolveBucketMinutes service ∧
    (fetch.resolveBucketMinutes service).map bucketMs = some infinity) ∧
  fetch.baseTime.map (fun time => decide (time < 0)) ≠
    other.baseTime.map (fun time => decide (time < 0))

instance [DecidableEq Num] (fetch other : Fetch Num) : Decidable (Collide service fetch other) :=
  inferInstanceAs (Decidable (_ ∧ _ ∧ _))

variable {service}

theorem same_request_of_key (faithful : service.texts.Faithful)
    (separates : Set.InjOn service.sha256 (keyStrings service)) {fetch other : Fetch Num}
    {bucket otherBucket : Bucket} (found : fetch.getBucketInfo service = some bucket)
    (found_other : other.getBucketInfo service = some otherBucket)
    (apart : ¬ Collide service fetch other)
    (same : fetch.buildCacheKey service bucket = other.buildCacheKey service otherBucket) :
    SameRequest service fetch other := by
  obtain ⟨resolved, time, based, start⟩ := Fetch.bucket_of_info found
  obtain ⟨resolved_other, otherTime, based_other, start_other⟩ := Fetch.bucket_of_info found_other
  have no_colon : ∀ start : Option Int,
      unit ':' ∉ (start.map service.texts.ofWhole).getD (js "NaN") := by
    intro start
    cases start with
    | none => exact (by decide : unit ':' ∉ js "NaN")
    | some start => exact faithful.no_colon start
  obtain ⟨scope, from_start⟩ := Fetch.scope_injective (List.append_cancel_left same)
  obtain ⟨starts, digests⟩ := head_injective (no_colon _) (no_colon _) from_start
  have raws := separates ⟨fetch, bucket, rfl⟩ ⟨other, otherBucket, rfl⟩ digests
  obtain ⟨minutes, coordinates⟩ := Fetch.raw_injective faithful raws
  obtain ⟨origin, destination⟩ := Fetch.locations_of_coordinates faithful coordinates
  refine ⟨scope, origin, destination, bucket.minutes, time.ms, otherTime.ms, resolved, ?_, based,
    based_other, ?_⟩
  · rw [minutes, resolved_other]
  · rw [← minutes] at start_other resolved_other
    rw [start, start_other] at starts
    by_cases infinite : bucketMs bucket.minutes = infinity
    · rw [same_interval_large (infinite_large infinite)]
      by_contra sides
      refine apart ⟨⟨scope, origin, destination⟩, ⟨by rw [resolved, resolved_other], ?_⟩, ?_⟩
      · rw [resolved, Option.map_some, infinite]
      · simpa [based, based_other] using sides
    · have at_start : ∀ ms, bucketStart bucket.minutes ms =
          some (signedDouble (ms / bucketMs bucket.minutes * bucketMs bucket.minutes)) :=
        fun ms => if_neg infinite
      rw [at_start, at_start, Option.map_some, Option.map_some] at starts
      have same_start := faithful.wholes starts
      apply same_interval_of_start (Fetch.resolved_positive resolved) (at_start _)
      rw [at_start, same_start]

end Requests

end TransitKeys
