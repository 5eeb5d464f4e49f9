import Linkly.RouteCacheRuns

/-!
How old a cached analysis may be when it is returned. The calls of analyze share Redis and the route
cache table under a clock: an entry of Redis lives for one hour from when it was set, and a row is
read for 24 hours from when its saveCache read the clock. Both may also go earlier.
-/
namespace RouteCacheAge
open JsText IsoDate TransitService CoupleRoute RouteCaching TransitionRuns

/-- REDIS_TTL_SECONDS and DB_TTL_HOURS, in milliseconds. -/
def redisTtl : Int := 3600 * 1000

def dbTtl : Int := 24 * 3600000

/-- A response with the number of the call whose saveCache it went through. -/
structure Saved (Value : Type) where
  response : CoupleRouteResponse Value
  call : Nat

structure Entry (Value : Type) where
  data : Saved Value
  expiresAt : Int

structure Row (Value : Type) where
  eventId : JsString
  userId : JsString
  cacheKey : JsString
  routeData : Saved Value
  expiresAt : Int

structure Caches (Value : Type) where
  redis : List (JsString × Entry Value)
  routeCaches : List (Row Value)

namespace Caches
variable {Value : Type} (s : Caches Value)

def getRedis (key : JsString) (now : Int) : Option (Saved Value) :=
  ((s.redis.lookup key).filter fun entry => now ≤ entry.expiresAt).map Entry.data

def setRedis (key : JsString) (data : Saved Value) (now : Int) : Caches Value :=
  { s with redis := (key, ⟨data, now + redisTtl⟩) :: s.redis }

def findFirst (eventId userId cacheKey : JsString) (asOf : Int) : Option (Row Value) :=
  s.routeCaches.find? fun row =>
    row.eventId = eventId ∧ row.userId = userId ∧ row.cacheKey = cacheKey ∧ asOf < row.expiresAt

/-- The key is unique, and a row that is there keeps its event and its user. -/
def upsert (row : Row Value) : Caches Value :=
  if s.routeCaches.any (·.cacheKey = row.cacheKey) then
    { s with routeCaches := s.routeCaches.map fun old =>
        if old.cacheKey = row.cacheKey then
          { old with routeData := row.routeData, expiresAt := row.expiresAt }
        else old }
  else { s with routeCaches := s.routeCaches ++ [row] }

end Caches

/-- Where a call is. The last three have ended: with a cached response, with a response of its own
    whose saveCache ended at some time, and with an exception. -/
inductive Frame (Value : Type) where
  | checkRedis
  | checkTable
  | findFirst (asOf : Int)
  | copyToRedis (row : Row Value) (asOf : Int)
  | compute
  | saveRedis (result : CoupleRouteResponse Value)
  | saveTable (result : CoupleRouteResponse Value)
  | upsert (result : CoupleRouteResponse Value) (expiresAt : Int)
  | saveEnd (result : CoupleRouteResponse Value)
  | cached (data : Saved Value)
  | computed (result : CoupleRouteResponse Value) (savedAt : Int)
  | failed

def Frame.savedAt {Value : Type} : Frame Value → Option Int
  | .computed _ time => some time
  | _ => none

section Calls
variable {Num Value : Type} {numbers : JsNumbers Num Value}

/-- A call of analyze that has read its values. -/
structure Analyze (numbers : JsNumbers Num Value) where
  call : Call numbers
  forceRefresh : Bool
  startedAt : Int
  frame : Frame Value

/-- Calls are numbered by their places. -/
structure Timed (numbers : JsNumbers Num Value) where
  clock : Int
  caches : Caches Value
  calls : List (Analyze numbers)

/-- What a statement meets: whether it fails, the clock, and the routes that are computed. -/
structure Outcome (Value : Type) where
  fails : Bool
  now : Date
  mine : RouteData Value
  partners : RouteData Value

inductive Event (numbers : JsNumbers Num Value) where
  | analyze (call : Call numbers) (forceRefresh : Bool) (now : Date)
  | advance (index : Nat) (outcome : Outcome Value)
  | dropEntry (key : JsString)
  | dropRow (cacheKey : JsString)

variable (sha256 : JsString → JsString)

/-- The end of a call with this response, whose own number is `index`. -/
def Analyze.returned (index : Nat) (a : Analyze numbers) : Option (Saved Value) :=
  match a.frame with
  | .cached data => some data
  | .computed result _ => some ⟨result, index⟩
  | _ => none

/-- One statement of the call with this number. -/
def exec (index : Nat) (call : Call numbers) (outcome : Outcome Value) (s : Caches Value) :
    Frame Value → Caches Value × Frame Value
  | .checkRedis =>
    let key := buildCacheKey sha256 call.eventId call.inputs
    match if outcome.fails then none else s.getRedis key outcome.now.ms with
    | some data => (s, .cached data)
    | none => (s, .checkTable)
  -- the date of the query is made before the query runs
  | .checkTable => (s, .findFirst outcome.now.ms)
  | .findFirst asOf =>
    let key := buildCacheKey sha256 call.eventId call.inputs
    match if outcome.fails then none else s.findFirst call.eventId call.userId key asOf with
    | some row => (s, .copyToRedis row asOf)
    | none => (s, .compute)
  | .copyToRedis row _ =>
    let key := buildCacheKey sha256 call.eventId call.inputs
    (if outcome.fails then s else s.setRedis key row.routeData outcome.now.ms,
      .cached row.routeData)
  | .compute =>
    match if outcome.fails then none else call.inputs.analysis outcome.mine outcome.partners with
    | some analysis => (s, .saveRedis ⟨analysis, toISOString outcome.now⟩)
    | none => (s, .failed)
  | .saveRedis result =>
    let key := buildCacheKey sha256 call.eventId call.inputs
    (if outcome.fails then s else s.setRedis key ⟨result, index⟩ outcome.now.ms,
      .saveTable result)
  | .saveTable result => (s, .upsert result (outcome.now.ms + dbTtl))
  | .upsert result expiresAt =>
    let key := buildCacheKey sha256 call.eventId call.inputs
    (if outcome.fails then s
      else s.upsert ⟨call.eventId, call.userId, key, ⟨result, index⟩, expiresAt⟩,
      .saveEnd result)
  | .saveEnd result => (s, .computed result outcome.now.ms)
  | ended => (s, ended)

/-- The clock never goes back. -/
def step (y : Timed numbers) : Event numbers → Option (Timed numbers)
  | .analyze call forceRefresh now =>
    if y.clock ≤ now.ms then
      let frame := if forceRefresh then .compute else .checkRedis
      some ⟨now.ms, y.caches, y.calls ++ [⟨call, forceRefresh, now.ms, frame⟩]⟩
    else none
  | .advance index outcome =>
    match y.calls[index]? with
    | some a =>
      if y.clock ≤ outcome.now.ms then
        let effect := exec sha256 index a.call outcome y.caches a.frame
        some ⟨outcome.now.ms, effect.1, y.calls.set index { a with frame := effect.2 }⟩
      else none
    | none => none
  | .dropEntry key =>
    some { y with caches.redis := y.caches.redis.filter fun cell => cell.1 ≠ key }
  | .dropRow cacheKey =>
    some { y with caches.routeCaches := y.caches.routeCaches.filter (·.cacheKey ≠ cacheKey) }

def initial (clock : Int) : Timed numbers := ⟨clock, ⟨[], []⟩, []⟩

/-- When the saveCache of the call with this number ended. -/
def Timed.savedAt (y : Timed numbers) (call : Nat) : Option Int :=
  (y.calls[call]?).bind fun a => a.frame.savedAt

/-- No call without forceRefresh returns a response whose saveCache ended longer before the call. -/
def FreshWithin (limit : Int) (y : Timed numbers) : Prop :=
  ∀ index (a : Analyze numbers), y.calls[index]? = some a → a.forceRefresh = false →
    ∀ data, a.returned index = some data → ∀ time, y.savedAt data.call = some time →
      a.startedAt ≤ time + limit

/-- A row that goes to Redis, with the date of the query that found it and the time of the copy. -/
structure Copy (Value : Type) where
  row : Row Value
  asOf : Int
  now : Int

def Timed.copy (y : Timed numbers) : Event numbers → Option (Copy Value)
  | .advance index outcome =>
    match (y.calls[index]?).map Analyze.frame with
    | some (.copyToRedis row asOf) =>
      if outcome.fails then none else some ⟨row, asOf, outcome.now.ms⟩
    | _ => none
  | _ => none

/-- The entry of a copy ends at most `dbTtl + slack` after the saveCache of its response ended. -/
def CopiesWithin (slack : Int) (y : Timed numbers) (e : Event numbers) : Prop :=
  ∀ copy ∈ y.copy e, ∀ saved ∈ y.savedAt copy.row.routeData.call,
    copy.now + redisTtl ≤ saved + dbTtl + slack

instance (slack : Int) (y : Timed numbers) (e : Event numbers) :
    Decidable (CopiesWithin slack y e) :=
  inferInstanceAs (Decidable (∀ copy ∈ y.copy e, ∀ saved ∈ y.savedAt copy.row.routeData.call,
    copy.now + redisTtl ≤ saved + dbTtl + slack))

/-- A row goes to Redis at most `delay` after the query that found it. -/
def CopiesPromptly (delay : Int) (y : Timed numbers) (e : Event numbers) : Prop :=
  ∀ copy ∈ y.copy e, copy.now ≤ copy.asOf + delay

end Calls

section Invariant
variable {Num Value : Type} {numbers : JsNumbers Num Value}

/-- The time is at most `dbTtl + slack` after the saveCache of the response ended, or will end. -/
def Within (slack : Int) (y : Timed numbers) (data : Saved Value) (time : Int) : Prop :=
  time ≤ y.clock + dbTtl + slack ∧ ∀ saved, y.savedAt data.call = some saved →
    time ≤ saved + dbTtl + slack

def GoodFrame (slack : Int) (y : Timed numbers) (startedAt : Int) : Frame Value → Prop
  | .findFirst asOf => startedAt ≤ asOf
  | .copyToRedis row asOf =>
    startedAt ≤ asOf ∧ asOf < row.expiresAt ∧ Within 0 y row.routeData row.expiresAt
  | .upsert _ expiresAt => expiresAt ≤ y.clock + dbTtl
  | .cached data => Within slack y data startedAt
  | .computed _ savedAt => startedAt ≤ savedAt
  | _ => True

structure GoodCaches (slack : Int) (y : Timed numbers) (s : Caches Value) : Prop where
  redis : ∀ cell ∈ s.redis, Within slack y cell.2.data cell.2.expiresAt
  rows : ∀ row ∈ s.routeCaches, Within 0 y row.routeData row.expiresAt

structure Good (slack : Int) (y : Timed numbers) : Prop where
  started : ∀ a ∈ y.calls, a.startedAt ≤ y.clock
  caches : GoodCaches slack y y.caches
  frames : ∀ a ∈ y.calls, GoodFrame slack y a.startedAt a.frame

/-- The clock goes on, and a saveCache that has ended in between ended just now. -/
structure Later (y z : Timed numbers) : Prop where
  clock : y.clock ≤ z.clock
  saved : ∀ call time, z.savedAt call = some time → y.savedAt call = some time ∨ time = z.clock

variable {slack : Int} {y z : Timed numbers} {s : Caches Value}

theorem within_later (later : Later y z) {data : Saved Value} {time : Int}
    (within : Within slack y data time) : Within slack z data time := by
  obtain ⟨before, after⟩ := within
  have clock := later.clock
  refine ⟨by omega, ?_⟩
  intro saved ended
  rcases later.saved data.call saved ended with already | now
  · exact after saved already
  · omega

theorem within_of_le {more : Int} {data : Saved Value} {time other : Int}
    (within : Within slack y data time) (le : other ≤ time + more) :
    Within (slack + more) y data other := by
  obtain ⟨before, after⟩ := within
  refine ⟨by omega, ?_⟩
  intro saved ended
  have bound := after saved ended
  omega

theorem within_before {data : Saved Value} {time earlier : Int}
    (within : Within slack y data time) (le : earlier ≤ time) : Within slack y data earlier := by
  have same := within_of_le within (by omega : earlier ≤ time + 0)
  rwa [Int.add_zero] at same

theorem within_slack {data : Saved Value} {time other : Int} (within : Within 0 y data time)
    (le : other ≤ time + slack) : Within slack y data other := by
  have more := within_of_le within le
  rwa [Int.zero_add] at more

/-- A saveCache that goes on has not ended. -/
theorem within_unsaved {data : Saved Value} {time : Int} (open_call : y.savedAt data.call = none)
    (soon : time ≤ y.clock + dbTtl + slack) : Within slack y data time :=
  ⟨soon, fun saved ended => by simp [open_call] at ended⟩

theorem good_frame_later (later : Later y z) {startedAt : Int} {frame : Frame Value}
    (good : GoodFrame slack y startedAt frame) : GoodFrame slack z startedAt frame := by
  cases frame with
  | copyToRedis row asOf => exact ⟨good.1, good.2.1, within_later later good.2.2⟩
  | upsert result expiresAt =>
    have soon : expiresAt ≤ y.clock + dbTtl := good
    have clock := later.clock
    exact (by omega : expiresAt ≤ z.clock + dbTtl)
  | cached data => exact within_later later good
  | findFirst _ => exact good
  | computed _ _ => exact good
  | checkRedis | checkTable | compute | saveRedis _ | saveTable _ | saveEnd _ | failed => trivial

theorem good_caches_later (later : Later y z) (good : GoodCaches slack y s) :
    GoodCaches slack z s where
  redis cell mem := within_later later (good.redis cell mem)
  rows row mem := within_later later (good.rows row mem)

theorem good_set_redis (good : GoodCaches slack y s) {key : JsString} {data : Saved Value}
    {now : Int} (within : Within slack y data (now + redisTtl)) :
    GoodCaches slack y (s.setRedis key data now) where
  redis cell mem := by
    rcases List.mem_cons.mp mem with first | later
    · rw [first]
      exact within
    · exact good.redis cell later
  rows := good.rows

theorem good_upsert (good : GoodCaches slack y s) {row : Row Value}
    (within : Within 0 y row.routeData row.expiresAt) : GoodCaches slack y (s.upsert row) := by
  unfold Caches.upsert
  split
  · refine ⟨good.redis, ?_⟩
    intro old mem
    obtain ⟨given, mem_given, rfl⟩ := List.mem_map.mp mem
    split
    · exact within
    · exact good.rows given mem_given
  · refine ⟨good.redis, ?_⟩
    intro old mem
    rcases List.mem_append.mp mem with present | added
    · exact good.rows old present
    · rw [List.mem_singleton.mp added]
      exact within

theorem within_of_redis (good : GoodCaches slack y s) {key : JsString} {now : Int}
    {data : Saved Value} (found : s.getRedis key now = some data) : Within slack y data now := by
  obtain ⟨entry, kept, rfl⟩ := Option.map_eq_some_iff.mp found
  obtain ⟨listed, alive⟩ := Option.filter_eq_some_iff.mp kept
  have alive : now ≤ entry.expiresAt := by simpa using alive
  obtain ⟨front, back, whole, _⟩ := List.lookup_eq_some_iff.mp listed
  have within := good.redis (key, entry) (by rw [whole]; simp)
  exact within_before within alive

theorem saved_at_exec (sha256 : JsString → JsString) (index : Nat) (call : Call numbers)
    (outcome : Outcome Value) (s : Caches Value) {frame : Frame Value} {time : Int}
    (ended : (exec sha256 index call outcome s frame).2.savedAt = some time) :
    frame.savedAt = some time ∨ time = outcome.now.ms := by
  cases frame with
  | computed result savedAt => exact .inl ended
  | saveEnd result => exact .inr (Option.some.inj ended).symm
  | checkRedis | findFirst _ | compute =>
    simp only [exec] at ended
    split at ended <;> simp [Frame.savedAt] at ended
  | checkTable | copyToRedis _ _ | saveRedis _ | saveTable _ | upsert _ _ | cached _ | failed =>
    simp [exec, Frame.savedAt] at ended

section Statement
variable {sha256 : JsString → JsString} {index : Nat} {call : Call numbers}
  {outcome : Outcome Value} {startedAt : Int} {frame : Frame Value}

/-- `z` is the state after the statement, with caches that hold only what was good before. -/
theorem good_exec (nonneg : 0 ≤ slack) (clock : z.clock = outcome.now.ms)
    (started : startedAt ≤ outcome.now.ms)
    (own : z.savedAt index = (exec sha256 index call outcome s frame).2.savedAt)
    (timely : ∀ row asOf, frame = .copyToRedis row asOf → outcome.fails = false →
      ∀ saved, z.savedAt row.routeData.call = some saved →
        outcome.now.ms + redisTtl ≤ saved + dbTtl + slack)
    (caches : GoodCaches slack z s) (good : GoodFrame slack z startedAt frame) :
    GoodCaches slack z (exec sha256 index call outcome s frame).1 ∧
      GoodFrame slack z startedAt (exec sha256 index call outcome s frame).2 := by
  cases frame with
  | checkRedis =>
    simp only [exec]
    split
    case h_1 data found =>
      have within := within_of_redis caches (ite_eq_iff.mp found |>.resolve_left (by simp)).2
      exact ⟨caches, within_before within started⟩
    case h_2 => exact ⟨caches, trivial⟩
  | checkTable => exact ⟨caches, started⟩
  | findFirst asOf =>
    simp only [exec]
    split
    case h_1 row found =>
      have listed := (ite_eq_iff.mp found |>.resolve_left (by simp)).2
      have matches_row := List.find?_some listed
      simp only [decide_eq_true_eq] at matches_row
      exact ⟨caches, good, matches_row.2.2.2, caches.rows row (List.mem_of_find?_eq_some listed)⟩
    case h_2 => exact ⟨caches, trivial⟩
  | copyToRedis row asOf =>
    obtain ⟨read, alive, within⟩ := good
    have returned : Within slack z row.routeData startedAt := within_slack within (by omega)
    refine ⟨?_, returned⟩
    by_cases fails : outcome.fails
    · simpa [exec, fails] using caches
    · have soon := timely row asOf rfl (by simpa using fails)
      simp only [exec, fails]
      exact good_set_redis caches ⟨by simp only [redisTtl, dbTtl]; omega, soon⟩
  | compute =>
    simp only [exec]
    split
    · exact ⟨caches, trivial⟩
    · exact ⟨caches, trivial⟩
  | saveRedis result =>
    refine ⟨?_, trivial⟩
    by_cases fails : outcome.fails
    · simpa [exec, fails] using caches
    · simp only [exec, fails]
      exact good_set_redis caches (within_unsaved own (by simp [redisTtl, dbTtl]; omega))
  | saveTable result => exact ⟨caches, by simp [exec, GoodFrame, clock]⟩
  | upsert result expiresAt =>
    have soon : expiresAt ≤ z.clock + dbTtl := good
    refine ⟨?_, trivial⟩
    by_cases fails : outcome.fails
    · simpa [exec, fails] using caches
    · simp only [exec, fails]
      exact good_upsert caches (within_unsaved own (by simpa using soon))
  | saveEnd result => exact ⟨caches, started⟩
  | cached _ | computed _ _ | failed => exact ⟨caches, good⟩

end Statement

section Runs
variable {sha256 : JsString → JsString}

theorem later_same_calls (clock : y.clock ≤ z.clock) (calls : z.calls = y.calls) : Later y z where
  clock := clock
  saved call time ended := .inl (by rwa [Timed.savedAt, calls] at ended)

theorem good_later_same_calls (good : Good slack y) (later : Later y z) (calls : z.calls = y.calls)
    (redis : z.caches.redis ⊆ y.caches.redis)
    (rows : z.caches.routeCaches ⊆ y.caches.routeCaches) : Good slack z where
  started a mem := (good.started a (calls ▸ mem)).trans later.clock
  caches :=
    { redis := fun cell mem => within_later later (good.caches.redis cell (redis mem))
      rows := fun row mem => within_later later (good.caches.rows row (rows mem)) }
  frames a mem := good_frame_later later (good.frames a (calls ▸ mem))

theorem good_analyze (good : Good slack y) {call : Call numbers} {forceRefresh : Bool} {now : Date}
    (moved : step sha256 y (.analyze call forceRefresh now) = some z) : Good slack z := by
  simp only [step, Option.ite_none_right_eq_some, Option.some.injEq] at moved
  obtain ⟨clock, rfl⟩ := moved
  have later : Later y ⟨now.ms, y.caches, y.calls ++
      [⟨call, forceRefresh, now.ms, if forceRefresh then .compute else .checkRedis⟩]⟩ := by
    refine ⟨clock, fun number time ended => .inl ?_⟩
    simp only [Timed.savedAt, List.getElem?_append] at ended ⊢
    split at ended
    · exact ended
    · obtain ⟨a, found, saved⟩ := Option.bind_eq_some_iff.mp ended
      obtain rfl := List.mem_singleton.mp (List.mem_of_getElem? found)
      cases forceRefresh <;> simp [Frame.savedAt] at saved
  constructor
  · intro a mem
    rcases List.mem_append.mp mem with present | added
    · exact (good.started a present).trans clock
    · rw [List.mem_singleton.mp added]
  · exact good_caches_later later good.caches
  · intro a mem
    rcases List.mem_append.mp mem with present | added
    · exact good_frame_later later (good.frames a present)
    · rw [List.mem_singleton.mp added]
      cases forceRefresh <;> trivial

theorem good_advance (nonneg : 0 ≤ slack) (good : Good slack y) {index : Nat}
    {outcome : Outcome Value} (moved : step sha256 y (.advance index outcome) = some z)
    (timely : CopiesWithin slack y (.advance index outcome)) : Good slack z := by
  simp only [step] at moved
  split at moved
  case h_2 => simp at moved
  case h_1 a found =>
  simp only [Option.ite_none_right_eq_some, Option.some.injEq] at moved
  obtain ⟨clock, same⟩ := moved
  have inside : index < y.calls.length := (List.getElem?_eq_some_iff.mp found).1
  have own : z.savedAt index =
      (exec sha256 index a.call outcome y.caches a.frame).2.savedAt := by
    simp [← same, Timed.savedAt, inside]
  have later : Later y z := by
    refine ⟨by rw [← same]; exact clock, ?_⟩
    intro call time ended
    by_cases this_call : call = index
    · subst this_call
      rw [own] at ended
      rcases saved_at_exec sha256 call a.call outcome y.caches ended with before | now
      · exact .inl (by simp [Timed.savedAt, found, before])
      · exact .inr (by rw [now, ← same])
    · left
      rw [← same] at ended
      simpa [Timed.savedAt, List.getElem?_set_ne (Ne.symm this_call)] using ended
  have mem := List.mem_of_getElem? found
  have clock_z : z.clock = outcome.now.ms := by rw [← same]
  have timely_z : ∀ row asOf, a.frame = .copyToRedis row asOf → outcome.fails = false →
      ∀ saved, z.savedAt row.routeData.call = some saved →
        outcome.now.ms + redisTtl ≤ saved + dbTtl + slack := by
    intro row asOf at_copy runs saved ended
    rcases later.saved _ saved ended with before | now
    · exact timely ⟨row, asOf, outcome.now.ms⟩ (by simp [Timed.copy, found, at_copy, runs]) saved
        before
    · simp only [redisTtl, dbTtl]
      omega
  obtain ⟨caches, frame⟩ := good_exec nonneg clock_z ((good.started a mem).trans clock) own
    timely_z (good_caches_later later good.caches) (good_frame_later later (good.frames a mem))
  have calls : ∀ b ∈ z.calls, b ∈ y.calls ∨
      b = { a with frame := (exec sha256 index a.call outcome y.caches a.frame).2 } := by
    intro b listed
    rw [← same] at listed
    exact List.mem_or_eq_of_mem_set listed
  constructor
  · intro b listed
    rcases calls b listed with present | rfl
    · exact (good.started b present).trans later.clock
    · exact (good.started a mem).trans later.clock
  · rw [← same] at caches ⊢
    exact caches
  · intro b listed
    rcases calls b listed with present | rfl
    · exact good_frame_later later (good.frames b present)
    · exact frame

theorem good_step (nonneg : 0 ≤ slack) {e : Event numbers} (moved : step sha256 y e = some z)
    (timely : CopiesWithin slack y e) (good : Good slack y) : Good slack z := by
  cases e with
  | analyze call forceRefresh now => exact good_analyze good moved
  | advance index outcome => exact good_advance nonneg good moved timely
  | dropEntry key =>
    obtain rfl := Option.some.inj moved
    exact good_later_same_calls good (later_same_calls le_rfl rfl) rfl (List.filter_subset_self _)
      (List.Subset.refl _)
  | dropRow cacheKey =>
    obtain rfl := Option.some.inj moved
    exact good_later_same_calls good (later_same_calls le_rfl rfl) rfl (List.Subset.refl _)
      (List.filter_subset_self _)

theorem good_fresh (nonneg : 0 ≤ slack) (good : Good slack y) :
    FreshWithin (dbTtl + slack) y := by
  intro index a found _ data returned time saved
  have frame := good.frames a (List.mem_of_getElem? found)
  unfold Analyze.returned at returned
  split at returned
  · rename_i cached at_frame
    obtain rfl := Option.some.inj returned
    rw [at_frame] at frame
    have bound := frame.2 time saved
    omega
  · rename_i result savedAt at_frame
    obtain rfl := Option.some.inj returned
    rw [at_frame] at frame
    have own : savedAt = time := by simpa [Timed.savedAt, found, at_frame, Frame.savedAt] using saved
    have before : a.startedAt ≤ savedAt := frame
    simp only [dbTtl]
    omega
  · simp at returned

theorem good_initial (clock : Int) : Good slack (initial clock : Timed numbers) := by
  constructor
  · simp [initial]
  · constructor <;> simp [initial]
  · simp [initial]

/-- The age of a response from a cache goes past the 24 hours of a row by what a copy in Redis may
    outlive its row. -/
theorem runs_fresh_within (nonneg : 0 ≤ slack) {clock : Int} {events : List (Event numbers)}
    (moved : run (step sha256) (initial clock) events = some y)
    (timely : EachStep (step sha256) (CopiesWithin slack) (initial clock) events) :
    FreshWithin (dbTtl + slack) y :=
  good_fresh nonneg (guarded_run_keeps (Good slack)
    (fun _ _ _ moved met kept => good_step nonneg moved met kept) moved timely
    (good_initial clock))

theorem copy_frame {e : Event numbers} {copy : Copy Value} (at_copy : copy ∈ y.copy e) :
    ∃ index outcome a, e = .advance index outcome ∧ y.calls[index]? = some a ∧
      a.frame = .copyToRedis copy.row copy.asOf ∧ outcome.fails = false ∧
      copy.now = outcome.now.ms := by
  unfold Timed.copy at at_copy
  split at at_copy
  case h_2 => simp at at_copy
  case h_1 index outcome =>
  split at at_copy
  case h_2 => simp at at_copy
  case h_1 row asOf found =>
    obtain ⟨a, listed, frame⟩ := Option.map_eq_some_iff.mp found
    split at at_copy
    · simp at at_copy
    · rename_i runs
      obtain rfl := Option.some.inj at_copy
      exact ⟨index, outcome, a, rfl, listed, frame, by simpa using runs, rfl⟩

theorem prompt_copies_within {delay : Int} (good : Good slack y) {e : Event numbers}
    (prompt : CopiesPromptly delay y e) : CopiesWithin (redisTtl + delay) y e := by
  intro copy at_copy saved ended
  obtain ⟨index, outcome, a, _, found, frame, _⟩ := copy_frame at_copy
  have read := good.frames a (List.mem_of_getElem? found)
  rw [frame] at read
  obtain ⟨_, alive, within⟩ := read
  have soon := prompt copy at_copy
  have bound := within.2 saved ended
  omega

/-- With copies that follow their queries at once, no response is older than 25 hours. -/
theorem prompt_runs_fresh {delay clock : Int} (nonneg : 0 ≤ delay) {events : List (Event numbers)}
    (moved : run (step sha256) (initial clock) events = some y)
    (prompt : EachStep (step sha256) (CopiesPromptly delay) (initial clock) events) :
    FreshWithin (dbTtl + (redisTtl + delay)) y := by
  have nonneg : 0 ≤ redisTtl + delay := by simp only [redisTtl]; omega
  exact runs_fresh_within nonneg moved (each_step_of_each_step (Good (redisTtl + delay))
    (fun _ _ _ moved met good => good_step nonneg moved (prompt_copies_within good met) good)
    (fun _ _ _ _ met good => prompt_copies_within good met) (good_initial clock) prompt)

theorem get_set_redis (s : Caches Value) (key : JsString) (data : Saved Value) {now time : Int}
    (alive : time ≤ now + redisTtl) : (s.setRedis key data now).getRedis key time = some data := by
  simp [Caches.getRedis, Caches.setRedis, Option.filter, alive]

/-- While the copy is there, the next call for the same key returns it. -/
theorem copy_returned {index : Nat} {a : Analyze numbers} {row : Row Value} {asOf : Int}
    {outcome : Outcome Value} (later : Outcome Value) (found : y.calls[index]? = some a)
    (frame : a.frame = .copyToRedis row asOf) (runs : outcome.fails = false)
    (moved : step sha256 y (.advance index outcome) = some z)
    (begins : outcome.now.ms ≤ later.now.ms) (alive : later.now.ms ≤ outcome.now.ms + redisTtl)
    (ok : later.fails = false) :
    run (step sha256) z [.analyze a.call false later.now, .advance z.calls.length later] =
      some ⟨later.now.ms, z.caches,
        z.calls ++ [⟨a.call, false, later.now.ms, .cached row.routeData⟩]⟩ := by
  have after : z.clock = outcome.now.ms ∧
      z.caches = y.caches.setRedis (buildCacheKey sha256 a.call.eventId a.call.inputs)
        row.routeData outcome.now.ms := by
    simp only [step, found, frame, exec, runs, Option.ite_none_right_eq_some,
      Option.some.injEq] at moved
    obtain ⟨_, rfl⟩ := moved
    exact ⟨rfl, rfl⟩
  obtain ⟨clock, caches⟩ := after
  have hit := get_set_redis y.caches (buildCacheKey sha256 a.call.eventId a.call.inputs)
    row.routeData alive
  rw [← caches] at hit
  simp [run, step, exec, clock, begins, ok, hit]

theorem saved_at_append {number : Nat} {saved : Int} {b : Analyze numbers} {clock : Int}
    (ended : y.savedAt number = some saved) :
    Timed.savedAt ⟨clock, s, y.calls ++ [b]⟩ number = some saved := by
  obtain ⟨a, found, frame⟩ := Option.bind_eq_some_iff.mp ended
  have inside := (List.getElem?_eq_some_iff.mp found).1
  simp [Timed.savedAt, List.getElem?_append_left inside, found, frame]

/-- A saveCache that has ended stays so. -/
theorem saved_at_step {e : Event numbers} (moved : step sha256 y e = some z) {number : Nat}
    {saved : Int} (ended : y.savedAt number = some saved) : z.savedAt number = some saved := by
  cases e with
  | analyze call forceRefresh now =>
    simp only [step, Option.ite_none_right_eq_some, Option.some.injEq] at moved
    obtain ⟨_, rfl⟩ := moved
    exact saved_at_append ended
  | advance index outcome =>
    simp only [step] at moved
    split at moved
    case h_2 => simp at moved
    case h_1 a found =>
    simp only [Option.ite_none_right_eq_some, Option.some.injEq] at moved
    obtain ⟨_, rfl⟩ := moved
    by_cases this_call : index = number
    · subst this_call
      have frame : a.frame.savedAt = some saved := by simpa [Timed.savedAt, found] using ended
      have inside := (List.getElem?_eq_some_iff.mp found).1
      have own : (exec sha256 index a.call outcome y.caches a.frame).2 = a.frame := by
        cases at_frame : a.frame <;> simp [at_frame, Frame.savedAt] at frame
        rfl
      simp [Timed.savedAt, inside, own, frame]
    · simpa [Timed.savedAt, List.getElem?_set_ne this_call] using ended
  | dropEntry key | dropRow key =>
    obtain rfl := Option.some.inj moved
    exact ended

/-- A copy whose entry goes on for longer than 24 hours after the saveCache is one too many: a call
    may still return it then. -/
theorem late_copy_returned {e : Event numbers} {copy : Copy Value} (at_copy : copy ∈ y.copy e)
    (moved : step sha256 y e = some z) {saved : Int}
    (ended : y.savedAt copy.row.routeData.call = some saved)
    (late : saved + dbTtl < copy.now + redisTtl)
    (range : copy.now + redisTtl ≤ 8640000000000000) :
    ∃ more w, run (step sha256) z more = some w ∧ ¬ FreshWithin dbTtl w := by
  obtain ⟨index, outcome, a, rfl, found, frame, runs, now⟩ := copy_frame at_copy
  have lower := outcome.now.range.1
  let later : Outcome Value :=
    { outcome with now := ⟨outcome.now.ms + redisTtl, by simp only [redisTtl] at *; omega⟩ }
  have reached := copy_returned later found frame runs moved
    (by simp only [later, redisTtl]; omega) le_rfl runs
  refine ⟨_, _, reached, fun fresh => ?_⟩
  have returned : (⟨a.call, false, later.now.ms, .cached copy.row.routeData⟩ :
      Analyze numbers).returned z.calls.length = some copy.row.routeData := rfl
  have bound := fresh z.calls.length _ (by simp) rfl _ returned saved
    (saved_at_append (saved_at_step moved ended))
  simp only [later] at bound
  omega

end Runs

end Invariant

/-- As long as each row goes to Redis within 23 hours after the saveCache of its response ended, no
    call without forceRefresh returns a response whose saveCache ended over 24 hours before. -/
theorem timely_copies_fresh {Num Value : Type} {numbers : JsNumbers Num Value}
    {sha256 : JsString → JsString} {clock : Int} {events : List (Event numbers)}
    {y : Timed numbers} (moved : run (step sha256) (initial clock) events = some y)
    (timely : EachStep (step sha256) (CopiesWithin 0) (initial clock) events) :
    FreshWithin dbTtl y := by
  have fresh := runs_fresh_within le_rfl moved timely
  rwa [Int.add_zero] at fresh

section Sample
open RouteCacheRuns

def sampleCall : Call wholeNumbers := ⟨js "e1", js "me", sampleInputs⟩

/-- A date this many minutes after the first one. -/
def minutesOn (minutes : Fin 2000) : Date :=
  ⟨sampleDate.ms + minutes * 60000, by simp only [sampleDate]; omega⟩

def advance (index : Nat) (minutes : Fin 2000) : Event wholeNumbers :=
  let data := sampleTransit.tmap (sampleInputs.myRequest.toCoordinates) ⟨0, 5⟩
  .advance index ⟨false, minutesOn minutes, data, data⟩

/-- Saved at once, copied to Redis after `copy` minutes, and read there after `read` minutes. -/
def sampleEvents (copy read : Fin 2000) : List (Event wholeNumbers) :=
  .analyze sampleCall false (minutesOn 0) :: List.replicate 8 (advance 0 0) ++
    .analyze sampleCall false (minutesOn copy) :: List.replicate 4 (advance 1 copy) ++
    [.analyze sampleCall false (minutesOn read), advance 2 read]

def sampleStart : Timed wholeNumbers := initial sampleDate.ms

/-- When the call started, whether it was forced, and the call whose response it returns. -/
def outcomeOf (y : Timed wholeNumbers) (index : Nat) : Option (Int × Bool × Option Nat) :=
  (y.calls[index]?).map fun a =>
    (a.startedAt, a.forceRefresh, (a.returned index).map Saved.call)

theorem copy_in_time_fresh : ∃ y,
    run (step sampleSha256) sampleStart (sampleEvents 120 170) = some y ∧
      outcomeOf y 2 = some ((minutesOn 170).ms, false, some 0) ∧ FreshWithin dbTtl y := by
  have reached : run (step sampleSha256) sampleStart (sampleEvents 120 170) = some
      ((run (step sampleSha256) sampleStart (sampleEvents 120 170)).get (by decide +kernel)) :=
    (Option.some_get _).symm
  exact ⟨_, reached, by decide +kernel, timely_copies_fresh reached (by decide +kernel)⟩

/-- A row of 23 hours and 59 minutes goes to Redis, and is returned half an hour later. -/
theorem late_copy_stale : ¬ ∀ (clock : Int) (events : List (Event wholeNumbers)) y,
    run (step sampleSha256) (initial clock) events = some y → FreshWithin dbTtl y := by
  intro fresh
  have reached : run (step sampleSha256) sampleStart (sampleEvents 1439 1470) = some
      ((run (step sampleSha256) sampleStart (sampleEvents 1439 1470)).get (by decide +kernel)) :=
    (Option.some_get _).symm
  generalize same : (run (step sampleSha256) sampleStart (sampleEvents 1439 1470)).get
    (by decide +kernel) = y at reached
  have returned : outcomeOf y 2 = some ((minutesOn 1470).ms, false, some 0) := by
    rw [← same]
    decide +kernel
  have saved : y.savedAt 0 = some (minutesOn 0).ms := by
    rw [← same]
    decide +kernel
  obtain ⟨a, found, fields⟩ := Option.map_eq_some_iff.mp returned
  obtain ⟨startedAt, forced, response⟩ := Prod.mk.inj fields |>.imp_right Prod.mk.inj
  obtain ⟨data, at_end, first⟩ := Option.map_eq_some_iff.mp response
  have bound := fresh _ _ y reached 2 a found forced data at_end _ (first ▸ saved)
  rw [startedAt] at bound
  exact absurd bound (by decide)

end Sample

end RouteCacheAge
