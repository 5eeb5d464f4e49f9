import Linkly.TransitKeys
import Linkly.TransitionRuns

/-!
Calls of computeRoute and computeDepartures over the Redis they share, one statement at a time. Any
statement may fail, and Redis may drop a key at any time.
-/
namespace TransitCaching
open IsoDate JsText JsonText KeyedCache TransitKeys TransitionRuns

section Answers

/-- The fields that are kept of an itinerary; one that is absent is left out. -/
def itineraryFields : List JsString :=
  [js "totalTime", js "totalWalkTime", js "transferCount", js "legs"]

def sanitizeItinerary : Json → Json
  | .object members => .object (itineraryFields.filterMap fun name =>
      ((Json.object members).member? name).map fun value => (name, value))
  | .array _ => .object []
  | _ => .null

def sanitizeTmapResponse (body : Json) : Json :=
  let plan := (body.member? (js "metaData")).bind fun metaData => metaData.member? (js "plan")
  match plan.bind fun plan => plan.member? (js "itineraries") with
  | some (.array itineraries) =>
    .object [(js "metaData", .object [(js "plan", .object
      [(js "itineraries", .array (itineraries.map sanitizeItinerary))])])]
  | _ => body

/-- A number is in the form that `JSON.stringify` gives it. -/
def isTruthy : Json → Bool
  | .null => false
  | .bool value => value
  | .number literal => literal ≠ js "0"
  | .string value => value ≠ []
  | _ => true

end Answers

structure RouteComputeDto (Num : Type) where
  origin : Location Num
  destination : Location Num
  arrivalTime : Option JsString
  bucketMinutes : Option (Option Nat)

structure DeparturesComputeDto (Num : Type) where
  originA : Location Num
  originB : Location Num
  destination : Location Num
  arrivalTime : Option JsString
  bucketMinutes : Option (Option Nat)

/-- A request that TMAP has answered. -/
structure Answer (Num : Type) where
  fetch : Fetch Num
  body : Json

inductive Frame (Num : Type) where
  | getCache (fetch : Fetch Num) (bucket : Bucket)
  | callTmap (fetch : Fetch Num) (bucket : Bucket)
  | setCache (fetch : Fetch Num) (bucket : Bucket) (body : Json)

/-- `calls` has every request so far, and `answers` every answer of TMAP. -/
structure System (Num : Type) where
  redis : List (JsString × Json)
  frames : List (Frame Num)
  calls : List (Fetch Num)
  answers : List (Answer Num)

/-- What a statement meets: whether it fails, and what TMAP answers. -/
structure Outcome where
  fails : Bool
  body : Json

/-- The clock is read by each request. -/
inductive Event (Num : Type) where
  | computeRoute (payload : RouteComputeDto Num) (now : Date)
  | computeDepartures (payload : DeparturesComputeDto Num) (nowA nowB : Date)
  | advance (index : Nat) (outcome : Outcome)
  | expire (key : JsString)

section Steps
variable {Num : Type} (service : Service Num)

def RouteComputeDto.fetch (payload : RouteComputeDto Num) (now : Date) : Fetch Num where
  scope := .route
  origin := payload.origin
  destination := payload.destination
  arrivalTime := payload.arrivalTime
  bucketMinutes := payload.bucketMinutes
  now := now

def DeparturesComputeDto.fetches (payload : DeparturesComputeDto Num) (nowA nowB : Date) :
    List (Fetch Num) :=
  [{ scope := .departuresA
     origin := payload.originA
     destination := payload.destination
     arrivalTime := payload.arrivalTime
     bucketMinutes := payload.bucketMinutes
     now := nowA },
   { scope := .departuresB
     origin := payload.originB
     destination := payload.destination
     arrivalTime := payload.arrivalTime
     bucketMinutes := payload.bucketMinutes
     now := nowB }]

def Event.fetches : Event Num → List (Fetch Num)
  | .computeRoute payload now => [payload.fetch now]
  | .computeDepartures payload nowA nowB => payload.fetches nowA nowB
  | _ => []

def initial : System Num := ⟨[], [], [], []⟩

namespace System
variable (y : System Num)

/-- A bad request ends at once. -/
def start (fetches : List (Fetch Num)) : System Num :=
  { y with
    calls := y.calls ++ fetches
    frames := y.frames ++ fetches.filterMap fun fetch =>
      (fetch.getBucketInfo service).map (.getCache fetch) }

def push (frame : Frame Num) : System Num := { y with frames := y.frames ++ [frame] }

/-- A cached value that is falsy is not taken. -/
def getCache (outcome : Outcome) (fetch : Fetch Num) (bucket : Bucket) : Option Json :=
  if outcome.fails then none
  else (y.redis.lookup (fetch.buildCacheKey service bucket)).filter isTruthy

/-- The statement of a frame, which has been taken out. -/
def exec (outcome : Outcome) : Frame Num → System Num
  | .getCache fetch bucket =>
    match y.getCache service outcome fetch bucket with
    | some _ => y
    | none => y.push (.callTmap fetch bucket)
  | .callTmap fetch bucket =>
    if outcome.fails then y
    else
      let answered : System Num := { y with answers := y.answers ++ [⟨fetch, outcome.body⟩] }
      answered.push (.setCache fetch bucket outcome.body)
  | .setCache fetch bucket body =>
    if outcome.fails then y
    else { y with
      redis := (fetch.buildCacheKey service bucket, sanitizeTmapResponse body) :: y.redis }

end System

def step (y : System Num) : Event Num → Option (System Num)
  | .computeRoute payload now => some (y.start service [payload.fetch now])
  | .computeDepartures payload nowA nowB =>
    some (y.start service (payload.fetches nowA nowB))
  | .advance index outcome => do
    let frame ← y.frames[index]?
    return { y with frames := y.frames.eraseIdx index }.exec service outcome frame
  | .expire key => some { y with redis := y.redis.filter fun cell => cell.1 ≠ key }

/-- The request that takes its response from Redis, with the response. -/
def takes (y : System Num) : Event Num → Option (Fetch Num × Json)
  | .advance index outcome =>
    match y.frames[index]? with
    | some (.getCache fetch bucket) =>
      (y.getCache service outcome fetch bucket).map fun value => (fetch, value)
    | _ => none
  | _ => none

/-- A response from Redis is the sanitized answer to an earlier request for the same. -/
def TakesAnswer (y : System Num) (e : Event Num) : Prop :=
  ∀ fetch value, takes service y e = some (fetch, value) →
    ∃ answer ∈ y.answers, value = sanitizeTmapResponse answer.body ∧
      SameRequest service fetch answer.fetch

/-- No new request collides with an earlier one. -/
def Apart (y : System Num) (e : Event Num) : Prop :=
  ∀ fetch ∈ e.fetches, ∀ other ∈ y.calls, ¬ Collide service fetch other

instance [DecidableEq Num] (y : System Num) (e : Event Num) : Decidable (Apart service y e) :=
  inferInstanceAs (Decidable (∀ fetch ∈ e.fetches, ∀ other ∈ y.calls, ¬ Collide service fetch other))

end Steps

section Invariant
variable {Num : Type} (service : Service Num)

def RightCell (calls : List (Fetch Num)) (answers : List (Answer Num)) (key : JsString)
    (value : Json) : Prop :=
  ∃ fetch ∈ calls, ∃ bucket body, fetch.getBucketInfo service = some bucket ∧
    key = fetch.buildCacheKey service bucket ∧ ⟨fetch, body⟩ ∈ answers ∧
    value = sanitizeTmapResponse body

def RightFrame (calls : List (Fetch Num)) (answers : List (Answer Num)) : Frame Num → Prop
  | .getCache fetch bucket | .callTmap fetch bucket =>
    fetch ∈ calls ∧ fetch.getBucketInfo service = some bucket
  | .setCache fetch bucket body =>
    fetch ∈ calls ∧ fetch.getBucketInfo service = some bucket ∧ ⟨fetch, body⟩ ∈ answers

structure Sound (y : System Num) : Prop where
  cells : AllRight (RightCell service y.calls y.answers) y.redis
  frames : ∀ frame ∈ y.frames, RightFrame service y.calls y.answers frame
  apart : ∀ fetch ∈ y.calls, ∀ other ∈ y.calls, ¬ Collide service fetch other

variable {service} {y z : System Num} {e : Event Num}

theorem right_cell_mono {calls more : List (Fetch Num)} {answers later : List (Answer Num)}
    (calls_kept : calls ⊆ more) (answers_kept : answers ⊆ later) {key : JsString} {value : Json}
    (right : RightCell service calls answers key value) :
    RightCell service more later key value := by
  obtain ⟨fetch, called, bucket, body, found, same, answered, sanitized⟩ := right
  exact ⟨fetch, calls_kept called, bucket, body, found, same, answers_kept answered, sanitized⟩

theorem right_frame_mono {calls more : List (Fetch Num)} {answers later : List (Answer Num)}
    (calls_kept : calls ⊆ more) (answers_kept : answers ⊆ later) {frame : Frame Num}
    (right : RightFrame service calls answers frame) : RightFrame service more later frame := by
  cases frame with
  | getCache fetch bucket => exact ⟨calls_kept right.1, right.2⟩
  | callTmap fetch bucket => exact ⟨calls_kept right.1, right.2⟩
  | setCache fetch bucket body => exact ⟨calls_kept right.1, right.2.1, answers_kept right.2.2⟩

theorem collide_comm {fetch other : Fetch Num} (collide : Collide service fetch other) :
    Collide service other fetch := by
  obtain ⟨⟨scope, origin, destination⟩, ⟨minutes, infinite⟩, sides⟩ := collide
  exact ⟨⟨scope.symm, origin.symm, destination.symm⟩, ⟨minutes.symm, minutes ▸ infinite⟩,
    sides.symm⟩

/-- The requests of one call differ in their scope. -/
theorem fetches_apart (e : Event Num) : ∀ fetch ∈ e.fetches, ∀ other ∈ e.fetches,
    ¬ Collide service fetch other := by
  intro fetch mem other mem_other collide
  obtain ⟨⟨scope, _, _⟩, _, sides⟩ := collide
  apply sides
  cases e with
  | computeRoute payload now =>
    rw [List.mem_singleton.mp mem, List.mem_singleton.mp mem_other]
  | computeDepartures payload nowA nowB =>
    rcases List.mem_pair.mp mem with rfl | rfl <;>
      rcases List.mem_pair.mp mem_other with rfl | rfl
    · rfl
    · simp at scope
    · simp at scope
    · rfl
  | advance index outcome => simp [Event.fetches] at mem
  | expire key => simp [Event.fetches] at mem

theorem sound_start (sound : Sound service y) (met : Apart service y e) :
    Sound service (y.start service e.fetches) where
  cells := by
    intro cell mem
    exact right_cell_mono (List.subset_append_left _ _) (List.Subset.refl _) (sound.cells cell mem)
  frames := by
    intro frame mem
    rcases List.mem_append.mp mem with old | new
    · exact right_frame_mono (List.subset_append_left _ _) (List.Subset.refl _)
        (sound.frames frame old)
    · obtain ⟨fetch, fetched, begun⟩ := List.mem_filterMap.mp new
      obtain ⟨bucket, found, rfl⟩ := Option.map_eq_some_iff.mp begun
      exact ⟨List.mem_append_right _ fetched, found⟩
  apart := by
    intro fetch mem other mem_other
    rcases List.mem_append.mp mem with old | new <;>
      rcases List.mem_append.mp mem_other with old_other | new_other
    · exact sound.apart fetch old other old_other
    · exact fun collide => met other new_other fetch old (collide_comm collide)
    · exact met fetch new other old_other
    · exact fetches_apart e fetch new other new_other

theorem sound_push (sound : Sound service y) {frame : Frame Num}
    (right : RightFrame service y.calls y.answers frame) : Sound service (y.push frame) := by
  refine { sound with frames := ?_ }
  intro other mem
  rcases List.mem_append.mp mem with old | new
  · exact sound.frames other old
  · rw [List.mem_singleton.mp new]
    exact right

theorem sound_answer (sound : Sound service y) (answer : Answer Num) :
    Sound service { y with answers := y.answers ++ [answer] } where
  cells := by
    intro cell mem
    exact right_cell_mono (List.Subset.refl _) (List.subset_append_left _ _) (sound.cells cell mem)
  frames := by
    intro frame mem
    exact right_frame_mono (List.Subset.refl _) (List.subset_append_left _ _)
      (sound.frames frame mem)
  apart := sound.apart

theorem sound_exec (sound : Sound service y) (outcome : Outcome) {frame : Frame Num}
    (right : RightFrame service y.calls y.answers frame) :
    Sound service (y.exec service outcome frame) := by
  cases frame with
  | getCache fetch bucket =>
    simp only [System.exec]
    cases y.getCache service outcome fetch bucket with
    | some value => exact sound
    | none => exact sound_push sound right
  | callTmap fetch bucket =>
    simp only [System.exec]
    split
    · exact sound
    · apply sound_push (sound_answer sound ⟨fetch, outcome.body⟩)
      exact ⟨right.1, right.2, List.mem_append_right _ (List.mem_singleton_self _)⟩
  | setCache fetch bucket body =>
    simp only [System.exec]
    split
    · exact sound
    · obtain ⟨called, found, answered⟩ := right
      have right_cell : RightCell service y.calls y.answers (fetch.buildCacheKey service bucket)
          (sanitizeTmapResponse body) := ⟨fetch, called, bucket, body, found, rfl, answered, rfl⟩
      exact { sound with cells := all_right_cons right_cell sound.cells }

theorem sound_step (moved : step service y e = some z) (met : Apart service y e)
    (sound : Sound service y) : Sound service z := by
  cases e with
  | computeRoute payload now =>
    obtain rfl := Option.some.inj moved
    exact sound_start sound met
  | computeDepartures payload nowA nowB =>
    obtain rfl := Option.some.inj moved
    exact sound_start sound met
  | advance index outcome =>
    simp only [step, bind, Option.bind_eq_some_iff, pure, Option.some.injEq] at moved
    obtain ⟨frame, at_index, rfl⟩ := moved
    have rest : Sound service { y with frames := y.frames.eraseIdx index } :=
      { sound with
        frames := fun frame mem => sound.frames frame (List.mem_of_mem_eraseIdx mem) }
    exact sound_exec rest outcome (sound.frames frame (List.mem_of_getElem? at_index))
  | expire key =>
    obtain rfl := Option.some.inj moved
    exact { sound with cells := all_right_subset (List.filter_subset_self _) sound.cells }

theorem takes_answer (faithful : service.texts.Faithful)
    (separates : Set.InjOn service.sha256 (keyStrings service)) (sound : Sound service y) :
    TakesAnswer service y e := by
  intro fetch value taken
  cases e with
  | advance index outcome =>
    simp only [takes] at taken
    split at taken
    · rename_i fetch bucket at_index
      obtain ⟨response, read, same⟩ := Option.map_eq_some_iff.mp taken
      obtain ⟨rfl, rfl⟩ := Prod.mk.inj same
      obtain ⟨called, found⟩ := sound.frames _ (List.mem_of_getElem? at_index)
      simp only [System.getCache] at read
      split at read
      · simp at read
      · have cell := right_of_lookup sound.cells (Option.filter_eq_some_iff.mp read).1
        obtain ⟨other, called_other, otherBucket, body, found_other, key, answered, rfl⟩ := cell
        have same := same_request_of_key faithful separates found found_other
          (sound.apart _ called _ called_other) key
        exact ⟨⟨other, body⟩, answered, rfl, same⟩
    · simp at taken
  | computeRoute payload now => simp [takes] at taken
  | computeDepartures payload nowA nowB => simp [takes] at taken
  | expire key => simp [takes] at taken

/-- In a run without colliding requests, every response from Redis is a sanitized answer of TMAP to
    an earlier request for the same coordinates and interval. -/
theorem taken_answers_match (faithful : service.texts.Faithful)
    (separates : Set.InjOn service.sha256 (keyStrings service)) {es : List (Event Num)}
    (apart : EachStep (step service) (Apart service) initial es) :
    EachStep (step service) (TakesAnswer service) initial es := by
  have start : Sound service (initial : System Num) :=
    ⟨all_right_nil, by simp [initial], by simp [initial]⟩
  exact each_step_of_each_step (Sound service) (fun _ _ _ moved met sound =>
    sound_step moved met sound) (fun _ _ _ _ _ sound => takes_answer faithful separates sound)
    start apart

end Invariant

section Sample

def samplePayload (arrivalTime : Option JsString) (bucketMinutes : Option (Option Nat)) :
    RouteComputeDto Int where
  origin := ⟨37, 127⟩
  destination := ⟨35, 129⟩
  arrivalTime := arrivalTime
  bucketMinutes := bucketMinutes

/-- Two minutes of one bucket of the configured length. -/
def sampleMinute (minute : Fin 2) : Date := ⟨1767323100000 + minute * 60000, by omega⟩

def sampleTexts : NumberTexts Int := ⟨SettingText.numberText, SettingText.numberText⟩

def sampleDigests : List (JsString × JsString) :=
  [(((samplePayload none none).fetch (sampleMinute 0)).raw ⟨id, some 5, sampleTexts⟩
      ⟨some 1767323100000, 5⟩,
    js "c4336b3345c9a379701ff57c95d0b74fbf3772c5fd8878eff429788cbdccdd66")]

def sampleService : Service Int := ⟨listedHash sampleDigests, some 5, sampleTexts⟩

theorem sample_texts_faithful : sampleTexts.Faithful where
  numbers _ _ same := SettingText.number_text_injective same
  wholes _ _ same := SettingText.number_text_injective same
  no_colon := TransitService.number_text_no_colon
  no_comma := by
    intro n mem
    rcases SettingText.number_text_plain mem with sign | digit
    · exact absurd sign (by decide)
    · exact absurd digit (by decide)

theorem sample_service_separates :
    Set.InjOn sampleService.sha256 (keyStrings sampleService) :=
  (listed_hash_injective (by decide +kernel) (by decide +kernel)).injOn

def sampleBody : Json :=
  .object [(js "metaData", .object [(js "plan", .object [(js "itineraries", .array
    [.object [(js "totalTime", .number (js "1800"))]])])])]

def advance : Event Int := .advance 0 ⟨false, sampleBody⟩

/-- A call that asks TMAP, and the start of another one. -/
def twice (first second : RouteComputeDto Int) : List (Event Int) :=
  [.computeRoute first (sampleMinute 0), advance, advance, advance,
    .computeRoute second (sampleMinute 1)]

def sampleBefore : System Int :=
  (run (step sampleService) initial (twice (samplePayload none none) (samplePayload none none))).get
    (by decide +kernel)

theorem second_call_takes_answer :
    (takes sampleService sampleBefore advance).isSome = true ∧
      EachStep (step sampleService) (TakesAnswer sampleService) initial
        (twice (samplePayload none none) (samplePayload none none) ++ [advance]) :=
  ⟨by decide +kernel, taken_answers_match sample_texts_faithful sample_service_separates
    (by decide +kernel)⟩

def endless : Nat := 2 ^ 1010

/-- A minute before the epoch, and one of the year 2026. -/
def oldPayload : RouteComputeDto Int := samplePayload (some (js "196912312359")) (some (some endless))

def newPayload : RouteComputeDto Int := samplePayload (some (js "202601021205")) (some (some endless))

def mixedBefore : System Int :=
  (run (step sampleService) initial (twice newPayload oldPayload)).get (by decide +kernel)

/-- The length of the bucket overflows, and all times share the start `NaN`. -/
theorem endless_bucket_mixes_times :
    ¬ ∀ (Num : Type) (service : Service Num), service.texts.Faithful →
      Set.InjOn service.sha256 (keyStrings service) →
      ∀ es, EachStep (step service) (TakesAnswer service) initial es := by
  intro every
  have each := every Int sampleService sample_texts_faithful sample_service_separates
    (twice newPayload oldPayload ++ [advance])
  have reached : run (step sampleService) initial (twice newPayload oldPayload) =
      some mixedBefore := (Option.some_get _).symm
  have last := ((each_step_append_iff reached).mp each).2
  have moved : (step sampleService mixedBefore advance).isSome = true := by decide +kernel
  obtain ⟨next, moved⟩ := Option.isSome_iff_exists.mp moved
  have taken : (takes sampleService mixedBefore advance).map Prod.fst =
      some (oldPayload.fetch (sampleMinute 1)) := by decide +kernel
  obtain ⟨⟨fetch, value⟩, taken, rfl⟩ := Option.map_eq_some_iff.mp taken
  obtain ⟨answer, mem, _, same⟩ := (last next moved).1 _ _ taken
  have answered : mixedBefore.answers.map Answer.fetch = [newPayload.fetch (sampleMinute 0)] := by
    decide +kernel
  have asked : answer.fetch = newPayload.fetch (sampleMinute 0) := by
    have in_answers := List.mem_map_of_mem (f := Answer.fetch) mem
    rw [answered] at in_answers
    exact List.mem_singleton.mp in_answers
  obtain ⟨minutes, time, otherTime, resolved, _, based, based_other, interval⟩ := same.interval
  rw [asked] at based_other
  have minutes_eq : (oldPayload.fetch (sampleMinute 1)).resolveBucketMinutes sampleService =
      some endless := by decide +kernel
  have time_eq : (oldPayload.fetch (sampleMinute 1)).baseTime = some (-32460000) := by
    decide +kernel
  have other_eq : (newPayload.fetch (sampleMinute 0)).baseTime = some 1767323100000 := by
    decide +kernel
  rw [SameInterval, Option.some.inj (resolved.symm.trans minutes_eq),
    Option.some.inj (based.symm.trans time_eq),
    Option.some.inj (based_other.symm.trans other_eq)] at interval
  revert interval
  decide +kernel

end Sample

end TransitCaching
