import Linkly.RouteCaching
import Linkly.TransitionRuns
import Mathlib.Data.Set.Function

/-!
What the caches hold in any run. A key stands for the values it was made from, so a cell is right or
wrong whatever the rows say now: updates, late saves and failed invalidations cannot make it wrong.
-/
namespace RouteCacheRuns
open JsText KeyedCache TransitService CoupleRoute RouteCaching TransitionRuns

variable {Num Value : Type} {numbers : JsNumbers Num Value} {transit : Transit Value}

/-- All strings that are hashed into keys. -/
def keyStrings (numbers : JsNumbers Num Value) : Set JsString :=
  {text | (∃ eventId, ∃ inputs : Inputs numbers, text = keyString eventId inputs) ∨
    ∃ bucket c, text = keyPayload bucket c}

def Recomputed (transit : Transit Value) (inputs : Inputs numbers)
    (data : CoupleRouteResponse Value) : Prop :=
  inputs.recompute transit = some data.toAnalysis

section Right
variable (numbers) (transit)

def RightResponse (key : JsString) (data : CoupleRouteResponse Value) : Prop :=
  ∃ eventId, ∃ inputs : Inputs numbers, unit ':' ∉ eventId ∧
    key = buildCacheKey transit.sha256 eventId inputs ∧ Recomputed transit inputs data

def RightCell (key : JsString) : Cell Value → Prop
  | .response data => RightResponse numbers transit key data
  | .route data => ∃ request bucket, transit.bucketOf request = some bucket ∧
      key = transit.keyOf request bucket ∧ data = transit.tmap request.toCoordinates bucket

def RightProgress (request : RouteRequest) : Progress Value → Prop
  | .lookup => True
  | .call bucket => transit.bucketOf request = some bucket
  | .save bucket data => transit.bucketOf request = some bucket ∧
      data = transit.tmap request.toCoordinates bucket
  | .done data => transit.answer request = some data

structure RightStore (s : Store Num Value) : Prop where
  ids : ∀ event ∈ s.events, unit ':' ∉ event.id
  redis : AllRight (RightCell numbers transit) s.redis
  rows : ∀ row ∈ s.routeCaches, RightResponse numbers transit row.cacheKey row.routeData

variable {numbers}

def RightFrame : Frame numbers → Prop
  | .analyzeMembers event _ _ => unit ':' ∉ event.id
  | .checkRedis call | .checkTable call => unit ':' ∉ call.eventId
  | .copyToRedis call data | .saveRedis call data | .saveTable call data =>
    unit ':' ∉ call.eventId ∧ Recomputed transit call.inputs data
  | .computeRoutes call mine partners => unit ':' ∉ call.eventId ∧
      RightProgress transit call.inputs.myRequest mine ∧
      RightProgress transit call.inputs.partnerRequest partners
  | .background request progress => RightProgress transit request progress
  | _ => True

structure RightEffect (effect : Effect numbers) : Prop where
  store : RightStore numbers transit effect.store
  next : ∀ frame ∈ effect.next, RightFrame transit frame
  returned : ∀ r ∈ effect.returned, Recomputed transit r.call.inputs r.response

structure Sound (y : System numbers) : Prop where
  store : RightStore numbers transit y.store
  frames : ∀ frame ∈ y.frames, RightFrame transit frame
  returned : ∀ r ∈ y.returned, Recomputed transit r.call.inputs r.response

end Right

section Writes
variable {s : Store Num Value}

theorem right_set_redis (right : RightStore numbers transit s) {key : JsString} {cell : Cell Value}
    (right_cell : RightCell numbers transit key cell) :
    RightStore numbers transit (s.setRedis key cell) :=
  { right with redis := all_right_cons right_cell right.redis }

theorem right_set_redis_unless (right : RightStore numbers transit s) {key : JsString}
    {cell : Cell Value} (right_cell : RightCell numbers transit key cell) (fails : Bool) :
    RightStore numbers transit (if fails then s else s.setRedis key cell) := by
  cases fails with
  | false => exact right_set_redis right right_cell
  | true => exact right

theorem right_del_redis (right : RightStore numbers transit s) (keys : List JsString) :
    RightStore numbers transit (s.delRedis keys) :=
  { right with redis := all_right_subset (List.filter_subset_self _) right.redis }

theorem right_delete_caches (right : RightStore numbers transit s) (eventIds : List JsString) :
    RightStore numbers transit (s.deleteCaches eventIds) :=
  { right with rows := fun row mem => right.rows row (List.mem_of_mem_filter mem) }

theorem right_upsert (right : RightStore numbers transit s) {row : RouteCache Value}
    (right_row : RightResponse numbers transit row.cacheKey row.routeData) :
    RightStore numbers transit (s.upsertCache row) := by
  unfold Store.upsertCache
  split_ifs with present parents
  · refine { right with rows := ?_ }
    intro updated mem
    obtain ⟨old, in_rows, rfl⟩ := List.mem_map.mp mem
    by_cases same : old.cacheKey = row.cacheKey
    · rw [if_pos same]
      rw [← same] at right_row
      exact right_row
    · rw [if_neg same]
      exact right.rows old in_rows
  · refine { right with rows := ?_ }
    intro other mem
    rcases List.mem_append.mp mem with old | new
    · exact right.rows other old
    · rw [List.mem_singleton.mp new]
      exact right_row
  · exact right

theorem right_update_events (right : RightStore numbers transit s)
    {change : CalendarEvent Num → CalendarEvent Num}
    (same_id : ∀ event, (change event).id = event.id) :
    RightStore numbers transit { s with events := s.events.map change } := by
  refine { right with ids := ?_ }
  intro event mem
  obtain ⟨old, in_events, rfl⟩ := List.mem_map.mp mem
  rw [same_id]
  exact right.ids old in_events

end Writes

section Reads
variable (plain : PlainText numbers) (separates : Set.InjOn transit.sha256 (keyStrings numbers))
include plain separates

/-- A right response under the key of a call is the one that the call would compute. -/
theorem recomputed_of_key {eventId : JsString} {inputs : Inputs numbers}
    (absent : unit ':' ∉ eventId) {data : CoupleRouteResponse Value}
    (right : RightResponse numbers transit (buildCacheKey transit.sha256 eventId inputs) data) :
    Recomputed transit inputs data := by
  obtain ⟨other, others, absent_other, same, recomputed⟩ := right
  have inputs_eq := (cache_key_injective plain separates (Or.inl ⟨eventId, inputs, rfl⟩)
    (Or.inl ⟨other, others, rfl⟩) absent absent_other same).2
  rw [inputs_eq]
  exact recomputed

theorem recomputed_of_redis {s : Store Num Value} (right : RightStore numbers transit s)
    {call : Call numbers} (absent : unit ':' ∉ call.eventId) {data : CoupleRouteResponse Value}
    (found : s.getResponse (call.key transit) = some data) :
    Recomputed transit call.inputs data := by
  unfold Store.getResponse at found
  split at found
  · rename_i response cell
    cases found
    have right_cell : RightCell numbers transit (call.key transit) (.response data) :=
      right_of_lookup right.redis cell
    exact recomputed_of_key plain separates absent right_cell
  · simp at found

theorem recomputed_of_table {s : Store Num Value} (right : RightStore numbers transit s)
    {call : Call numbers} (absent : unit ':' ∉ call.eventId) {now : Int} {row : RouteCache Value}
    (found : s.findCache call.eventId call.userId (call.key transit) now = some row) :
    Recomputed transit call.inputs row.routeData := by
  have fits := List.find?_some found
  simp only [decide_eq_true_eq] at fits
  have right_row := right.rows row (List.mem_of_find?_eq_some found)
  rw [fits.2.2.1] at right_row
  exact recomputed_of_key plain separates absent right_row

omit plain in
theorem answer_of_redis {s : Store Num Value} (right : RightStore numbers transit s)
    {request : RouteRequest} {bucket : BucketInfo}
    (at_bucket : transit.bucketOf request = some bucket)
    {data : RouteData Value} (found : s.getRoute (transit.keyOf request bucket) = some data) :
    transit.answer request = some data := by
  unfold Store.getRoute at found
  split at found
  · rename_i route cell
    cases found
    obtain ⟨other, others, at_other, same, answered⟩ := right_of_lookup right.redis cell
    have minutes : bucket.bucketMinutes = others.bucketMinutes :=
      Option.some.inj
        ((transit.bucket_minutes at_bucket).symm.trans (transit.bucket_minutes at_other))
    obtain ⟨buckets, coordinates⟩ := route_key_injective separates (Or.inr ⟨_, _, rfl⟩)
      (Or.inr ⟨_, _, rfl⟩) minutes same
    rw [Transit.answer, at_bucket, Option.map_some, answered, buckets, coordinates]
  · simp at found

end Reads

section Statements
variable {s : Store Num Value}

theorem right_ends (right : RightStore numbers transit s) :
    RightEffect transit (⟨s, [], []⟩ : Effect numbers) :=
  ⟨right, by simp, by simp⟩

theorem right_goes_on (right : RightStore numbers transit s) {frame : Frame numbers}
    (right_frame : RightFrame transit frame) : RightEffect transit ⟨s, [frame], []⟩ :=
  ⟨right, by simpa using right_frame, by simp⟩

theorem right_proceed {α : Type} {outcome : Outcome} {read : Option α} {next : α → Frame numbers}
    (right : RightStore numbers transit s)
    (right_next : ∀ value, read = some value → RightFrame transit (next value)) :
    RightEffect transit (proceed outcome s read next) := by
  unfold proceed
  cases outcome.fails with
  | true => exact right_ends right
  | false =>
    cases found : read with
    | none => exact right_ends right
    | some value => exact right_goes_on right (right_next value found)

/-- A statement of a request keeps the cells right, and what it has read is the answer. -/
theorem right_request (separates : Set.InjOn transit.sha256 (keyStrings numbers))
    (right : RightStore numbers transit s) (outcome : Outcome) {request : RouteRequest}
    {progress : Progress Value} (right_progress : RightProgress transit request progress) :
    RightStore numbers transit (execRequest transit outcome s request progress).1 ∧
      ∀ next, (execRequest transit outcome s request progress).2 = some next →
        RightProgress transit request next := by
  cases progress with
  | lookup =>
    simp only [execRequest]
    cases at_bucket : transit.bucketOf request with
    | none => exact ⟨right, by simp⟩
    | some bucket =>
      cases outcome.fails with
      | true => exact ⟨right, by simp [RightProgress, at_bucket]⟩
      | false =>
        cases found : s.getRoute (transit.keyOf request bucket) with
        | none => exact ⟨by simpa [found] using right, by simp [RightProgress, at_bucket, found]⟩
        | some data =>
          have answer := answer_of_redis separates right at_bucket found
          exact ⟨by simpa [found] using right, by simp [RightProgress, answer, found]⟩
  | call bucket =>
    simp only [execRequest]
    cases outcome.fails with
    | true => exact ⟨right, by simp⟩
    | false => exact ⟨right, by simpa [RightProgress] using right_progress⟩
  | save bucket data =>
    obtain ⟨at_bucket, answered⟩ := right_progress
    constructor
    · have right_cell : RightCell numbers transit (transit.keyOf request bucket) (.route data) :=
        ⟨request, bucket, at_bucket, rfl, answered⟩
      exact right_set_redis_unless right right_cell outcome.fails
    · intro next goes_on
      cases goes_on
      simp [RightProgress, Transit.answer, at_bucket, answered]
  | done data =>
    refine ⟨right, ?_⟩
    intro next goes_on
    cases goes_on
    exact right_progress

theorem right_analyzed (right : RightStore numbers transit s) {outcome : Outcome}
    {call : Call numbers} (absent : unit ':' ∉ call.eventId) {mine partners : RouteData Value}
    (my_answer : transit.answer call.inputs.myRequest = some mine)
    (partner_answer : transit.answer call.inputs.partnerRequest = some partners) :
    RightEffect transit (analyzed outcome s call mine partners) := by
  unfold analyzed
  cases done : call.inputs.analysis mine partners with
  | none => exact right_ends right
  | some analysis =>
    apply right_goes_on right
    refine ⟨absent, ?_⟩
    rw [Recomputed, Inputs.recompute, my_answer, partner_answer]
    exact done

theorem right_routes (separates : Set.InjOn transit.sha256 (keyStrings numbers))
    (right : RightStore numbers transit s) {side : Side} {outcome : Outcome} {call : Call numbers}
    (absent : unit ':' ∉ call.eventId) {mine partners : Progress Value}
    (right_mine : RightProgress transit call.inputs.myRequest mine)
    (right_partners : RightProgress transit call.inputs.partnerRequest partners) :
    RightEffect transit (execRoutes transit side outcome s call mine partners) := by
  have my_step := right_request separates right outcome right_mine
  have partner_step := right_request separates right outcome right_partners
  unfold execRoutes
  split
  · exact right_analyzed right absent right_mine right_partners
  · cases side with
    | mine =>
      dsimp only
      split
      · rename_i t next moved
        rw [moved] at my_step
        exact right_goes_on my_step.1 ⟨absent, my_step.2 next rfl, right_partners⟩
      · rename_i t moved
        rw [moved] at my_step
        exact right_goes_on my_step.1 right_partners
    | partners =>
      dsimp only
      split
      · rename_i t next moved
        rw [moved] at partner_step
        exact right_goes_on partner_step.1 ⟨absent, right_mine, partner_step.2 next rfl⟩
      · rename_i t moved
        rw [moved] at partner_step
        exact right_goes_on partner_step.1 right_mine

/-- A frame that goes on in one case only. -/
theorem right_frames_if {frame : Frame numbers} (goes_on : Bool)
    (right_frame : RightFrame transit frame) :
    ∀ other ∈ if goes_on then [frame] else [], RightFrame transit other := by
  intro other mem
  cases goes_on with
  | true =>
    rw [List.mem_singleton.mp mem]
    exact right_frame
  | false => simp at mem

end Statements

section Runs
variable (plain : PlainText numbers) (separates : Set.InjOn transit.sha256 (keyStrings numbers))
include plain separates

theorem right_check_redis {s : Store Num Value} (right : RightStore numbers transit s)
    {side : Side} {outcome : Outcome} {call : Call numbers} (absent : unit ':' ∉ call.eventId) :
    RightEffect transit (exec transit side outcome s (.checkRedis call)) := by
  simp only [exec]
  split
  · rename_i data found
    have read : s.getResponse (call.key transit) = some data := by
      cases fails : outcome.fails <;> simp_all
    have recomputed := recomputed_of_redis plain separates right absent read
    exact ⟨right, by simp, by simpa using recomputed⟩
  · exact right_goes_on right absent

theorem right_check_table {s : Store Num Value} (right : RightStore numbers transit s)
    {side : Side} {outcome : Outcome} {call : Call numbers} (absent : unit ':' ∉ call.eventId) :
    RightEffect transit (exec transit side outcome s (.checkTable call)) := by
  simp only [exec]
  split
  · rename_i row found
    have read : s.findCache call.eventId call.userId (call.key transit) outcome.now.ms =
        some row := by
      cases fails : outcome.fails <;> simp_all
    exact right_goes_on right ⟨absent, recomputed_of_table plain separates right absent read⟩
  · exact right_goes_on right ⟨absent, trivial, trivial⟩

theorem right_exec {s : Store Num Value} (right : RightStore numbers transit s) (side : Side)
    (outcome : Outcome) {frame : Frame numbers} (right_frame : RightFrame transit frame) :
    RightEffect transit (exec transit side outcome s frame) := by
  cases frame with
  | analyzeEvent eventId userId forceRefresh =>
    apply right_proceed right
    intro event found
    exact right.ids event (List.mem_of_find?_eq_some found)
  | analyzeMembers event userId forceRefresh =>
    apply right_proceed right
    intro inputs _
    cases forceRefresh with
    | true => exact ⟨right_frame, trivial, trivial⟩
    | false => exact right_frame
  | checkRedis call => exact right_check_redis plain separates right right_frame
  | checkTable call => exact right_check_table plain separates right right_frame
  | copyToRedis call data =>
    obtain ⟨absent, recomputed⟩ := right_frame
    have right_cell : RightCell numbers transit (call.key transit) (.response data) :=
      ⟨call.eventId, call.inputs, absent, rfl, recomputed⟩
    exact ⟨right_set_redis_unless right right_cell outcome.fails, by simp [exec],
      by simpa [exec] using recomputed⟩
  | computeRoutes call mine partners =>
    obtain ⟨absent, right_mine, right_partners⟩ := right_frame
    exact right_routes separates right absent right_mine right_partners
  | background request progress =>
    have moved := right_request separates right outcome right_frame
    simp only [exec]
    split
    · rename_i t data same
      rw [same] at moved
      exact right_ends moved.1
    · rename_i t next _ same
      rw [same] at moved
      exact right_goes_on moved.1 (moved.2 next rfl)
    · rename_i t same
      rw [same] at moved
      exact right_ends moved.1
  | saveRedis call result =>
    have right_cell : RightCell numbers transit (call.key transit) (.response result) :=
      ⟨call.eventId, call.inputs, right_frame.1, rfl, right_frame.2⟩
    exact right_goes_on (right_set_redis_unless right right_cell outcome.fails) right_frame
  | saveTable call result =>
    obtain ⟨absent, recomputed⟩ := right_frame
    refine ⟨?_, by simp [exec], by simpa [exec] using recomputed⟩
    simp only [exec]
    cases outcome.fails with
    | true => exact right
    | false => exact right_upsert right ⟨call.eventId, call.inputs, absent, rfl, recomputed⟩
  | updateFind id userId dto => exact right_proceed right fun _ _ => trivial
  | updateCheck event userId dto => exact right_proceed right fun _ _ => trivial
  | updateWrite id dto =>
    simp only [exec]
    split
    · exact right_ends right
    · have same_id : ∀ event : CalendarEvent Num,
          (if event.id = id then dto.apply event else event).id = event.id := by
        intro event
        split <;> rfl
      exact ⟨right_update_events right same_id, right_frames_if _ trivial, by simp⟩
  | updateMeFind userId dto => exact right_proceed right fun _ _ => trivial
  | updateMeWrite userId dto =>
    simp only [exec]
    split
    · exact right_ends right
    · exact ⟨{ right with }, right_frames_if _ trivial, by simp⟩
  | invalidateMemberships userId => exact right_proceed right fun _ _ => trivial
  | invalidateCouples coupleIds =>
    cases coupleIds with
    | nil => exact right_ends right
    | cons coupleId coupleIds =>
      apply right_proceed right
      intro eventIds _
      split <;> trivial
  | invalidateFind eventIds coupleIds =>
    apply right_proceed right
    intro keys _
    split <;> trivial
  | invalidateRedis eventIds keys coupleIds =>
    simp only [exec]
    cases outcome.fails with
    | true => exact right_goes_on right trivial
    | false => exact right_goes_on (right_del_redis right keys) trivial
  | invalidateTable eventIds coupleIds =>
    simp only [exec]
    split
    · exact right_ends right
    · exact right_goes_on (right_delete_caches right eventIds) trivial

theorem sound_step {y z : System numbers} {e : Event Num} (moved : step transit y e = some z)
    (sound : Sound transit y) : Sound transit z := by
  have started : ∀ frame : Frame numbers, RightFrame transit frame →
      Sound transit (y.start frame) := by
    intro frame right_frame
    refine ⟨sound.store, ?_, sound.returned⟩
    intro other mem
    rcases List.mem_append.mp mem with old | new
    · exact sound.frames other old
    · rw [List.mem_singleton.mp new]
      exact right_frame
  cases e with
  | analyze eventId userId forceRefresh =>
    cases moved
    exact started _ trivial
  | update id userId dto =>
    cases moved
    exact started _ trivial
  | updateMe userId dto =>
    cases moved
    exact started _ trivial
  | advance index side outcome =>
    simp only [step, bind, Option.bind_eq_some_iff, pure, Option.some.injEq] at moved
    obtain ⟨frame, at_index, rfl⟩ := moved
    have right_frame := sound.frames frame (List.mem_of_getElem? at_index)
    have effect := right_exec plain separates sound.store side outcome right_frame
    refine ⟨effect.store, ?_, ?_⟩
    · intro other mem
      rcases List.mem_append.mp mem with old | new
      · exact sound.frames other (List.mem_of_mem_eraseIdx old)
      · exact effect.next other new
    · intro r mem
      rcases List.mem_append.mp mem with old | new
      · exact sound.returned r old
      · exact effect.returned r new
  | expireRedis key =>
    cases moved
    exact { sound with store := right_del_redis sound.store [key] }
  | removeEvent id =>
    cases moved
    have fewer : RightStore numbers transit
        { y.store with events := y.store.events.filter (·.id ≠ id) } :=
      { sound.store with ids := fun event mem => sound.store.ids event (List.mem_of_mem_filter mem) }
    exact { sound with store := right_delete_caches fewer [id] }

end Runs

section Sample

/-- Numbers without a fraction, which is all the run below needs. -/
def wholeNumbers : JsNumbers Int Int where
  toText := SettingText.numberText
  truthy x := x ≠ 0
  parseFloat text := (SettingText.parseInt text).getD 0
  near lat lng lat' lng' := lat = lat' ∧ lng = lng'
  json := some
  zero := 0
  secondsBefore date seconds :=
    if range : -8640000000000000 ≤ date.ms - seconds * 1000 ∧
        date.ms - seconds * 1000 ≤ 8640000000000000 then
      some ⟨date.ms - seconds * 1000, range⟩
    else none

theorem whole_numbers_plain : PlainText wholeNumbers where
  no_colon := number_text_no_colon
  faithful _ _ _ _ same := SettingText.number_text_injective same

def sampleDate : IsoDate.Date := ⟨1767323100000, by decide⟩

def sampleInputs : Inputs wholeNumbers := ⟨sampleDate, 37, 127, 36, 128, 35, 129, by decide⟩

def sampleDigests : List (JsString × JsString) :=
  [(keyString (js "e1") sampleInputs,
      js "892dd2017664b944829a8982a6cac5e71383603efdb0620818486ee4c63b762c"),
    (keyPayload ⟨1767323100000, 5⟩ ⟨js "127", js "37", js "129", js "35"⟩,
      js "c4336b3345c9a379701ff57c95d0b74fbf3772c5fd8878eff429788cbdccdd66"),
    (keyPayload ⟨1767323100000, 5⟩ ⟨js "128", js "36", js "129", js "35"⟩,
      js "605cc9cb89db2e19ed27fdb760100b8b0d31eb631c448d5644f7397538cf260a")]

/-- The digests of the strings that the run below hashes, and some other text of each other one. -/
def sampleSha256 : JsString → JsString := listedHash sampleDigests

theorem sample_sha256_injective : Function.Injective sampleSha256 :=
  listed_hash_injective (by decide +kernel) (by decide +kernel)

/-- One leg with one stop, whatever is asked for. -/
def sampleTransit : Transit Int where
  sha256 := sampleSha256
  bucketMinutes := some 5
  tmap _ _ :=
    ⟨some [some ⟨some 1800, some 0,
      some [⟨js "SUBWAY", some [⟨js "강남역", js "37", js "127"⟩], []⟩]⟩]⟩

def sampleStore : Store Int Int where
  events := [⟨js "e1", js "couple", some 35, some 129, some sampleDate⟩]
  members := [⟨js "couple", js "me"⟩, ⟨js "couple", js "you"⟩]
  users := [⟨js "me", some 37, some 127⟩, ⟨js "you", some 36, some 128⟩]
  redis := []
  routeCaches := []

def advance (side : Side) : Event Int := .advance 0 side ⟨false, sampleDate⟩

/-- Computed first, then from Redis, and from the table once Redis has dropped the key. -/
def sampleEvents : List (Event Int) :=
  let ask : Event Int := .analyze (js "e1") (js "me") false
  ask :: List.replicate 7 (advance .mine) ++ List.replicate 6 (advance .partners) ++
    ask :: List.replicate 3 (advance .mine) ++
    .expireRedis (buildCacheKey sampleSha256 (js "e1") sampleInputs) :: ask ::
    List.replicate 5 (advance .mine)

def sampleEnd : System wholeNumbers :=
  (run (step sampleTransit) (initial sampleStore) sampleEvents).get (by decide +kernel)

end Sample

end RouteCacheRuns
