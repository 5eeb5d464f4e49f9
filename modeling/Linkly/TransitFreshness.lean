import Linkly.TransitCaching

/-!
How old an answer of TMAP may be when a call of computeRoute or computeDepartures takes it from
Redis. Each stored answer lives for a random number of seconds between two settings, under a clock
that never goes back; Redis may also drop it earlier.
-/
namespace TransitFreshness
open IsoDate JsText JsonText KeyedCache SettingText TransitKeys TransitCaching TransitionRuns

/-- `Number.parseInt(value ?? default, 10)`; `NaN` is `none`. -/
def setting (value : Option JsString) (default : String) : Option Int :=
  parseInt (value.getD (js default))

structure TtlSettings where
  ttlMinSeconds : Option Int
  ttlMaxSeconds : Option Int

def TtlSettings.ofEnv (cacheTtlSecondsMin cacheTtlSecondsMax : Option JsString) : TtlSettings where
  ttlMinSeconds := setting cacheTtlSecondsMin "120"
  ttlMaxSeconds := setting cacheTtlSecondsMax "300"

/-- `Math.max` of numbers one of which may be `NaN`. -/
def mathMax (a b : Option Int) : Option Int := do return max (← a) (← b)

namespace TtlSettings
variable (settings : TtlSettings)

def min : Option Int := mathMax settings.ttlMinSeconds (some 1)

def max : Option Int := mathMax settings.ttlMaxSeconds settings.min

/-- The random number is a multiple of the power -53 of two. The result is `none` if it is no finite
number. -/
def getRandomTtlSeconds (random : Fin (2 ^ 53)) : Option Int := do
  let min ← settings.min
  let max ← settings.max
  if max = infinity then none
  else if min = max then return min
  else
    let span := nearestDouble (nearestDouble (max - min).toNat + 1)
    return nearestDouble (nearestDouble (random * span) / 2 ^ 53 + min.toNat)

/-- Both settings, as far as they are numbers, are safe integers or less. -/
def Safe : Prop :=
  (∀ n ∈ settings.ttlMinSeconds, n < 2 ^ 53) ∧ ∀ n ∈ settings.ttlMaxSeconds, n < 2 ^ 53

end TtlSettings

section Random
variable {settings : TtlSettings}

/-- Rounding does not reach a double that is far enough above. -/
theorem rounded_product_lt {k n : Nat} (below : k < 2 ^ 53) (positive : 0 < n) (safe : n ≤ 2 ^ 53) :
    nearestDouble (k * n) < n * 2 ^ 53 := by
  have room : k * n + n ≤ n * 2 ^ 53 := by
    calc k * n + n = (k + 1) * n := by rw [Nat.add_mul, Nat.one_mul]
      _ ≤ 2 ^ 53 * n := Nat.mul_le_mul_right n below
      _ = n * 2 ^ 53 := Nat.mul_comm _ _
  by_cases small : k * n < 2 ^ 53
  · rw [nearest_double_small small]
    omega
  rw [nearestDouble, if_neg small]
  apply Nat.lt_of_le_of_lt (Nat.min_le_left _ _)
  have magnitude : 53 ≤ (k * n).log2 := (Nat.le_log2 (by omega)).mpr (by omega)
  have leading : 2 ^ (k * n).log2 ≤ k * n := Nat.log2_self_le (by omega)
  generalize exponent : (k * n).log2 - 52 = e at *
  have split_power : 2 ^ (k * n).log2 = 2 ^ e * 2 ^ 52 := by
    rw [← Nat.pow_add]
    congr 1
    omega
  rw [split_power] at leading
  -- the step is a power of two below twice the factor, so it divides the bound
  have step_small : 2 ^ e < 2 * n := by omega
  have exponent_le : e ≤ 53 := by
    have power : 2 ^ e < 2 ^ 54 := by omega
    have := (Nat.pow_lt_pow_iff_right (by decide)).mp power
    omega
  obtain ⟨m, whole⟩ : 2 ^ e ∣ n * 2 ^ 53 := (Nat.pow_dvd_pow 2 exponent_le).mul_left n
  have divided := Nat.div_add_mod (k * n) (2 ^ e)
  have step_positive : 0 < 2 ^ e := by positivity
  split_ifs with up
  · have half : 2 ^ e ≤ k * n % 2 ^ e * 2 := by omega
    have quotient : k * n / 2 ^ e + 1 < m := by
      by_contra reaches
      have reached : 2 ^ e * m ≤ 2 ^ e * (k * n / 2 ^ e + 1) := Nat.mul_le_mul_left _ (by omega)
      rw [Nat.mul_add, Nat.mul_one] at reached
      omega
    rw [whole, Nat.mul_comm]
    exact Nat.mul_lt_mul_of_pos_left quotient step_positive
  · calc k * n / 2 ^ e * 2 ^ e ≤ k * n := Nat.div_mul_le_self _ _
      _ < n * 2 ^ 53 := by omega

theorem math_max_iff {a b : Option Int} {n : Int} :
    mathMax a b = some n ↔ ∃ x y, a = some x ∧ b = some y ∧ n = Max.max x y := by
  cases a <;> cases b <;> simp [mathMax, eq_comm]

theorem min_le_max {low high : Int} (is_low : settings.min = some low)
    (is_high : settings.max = some high) : 1 ≤ low ∧ low ≤ high := by
  obtain ⟨first, one, _, is_one, rfl⟩ := math_max_iff.mp is_low
  obtain ⟨last, again, _, is_again, rfl⟩ := math_max_iff.mp is_high
  obtain rfl := Option.some.inj is_one
  obtain rfl := Option.some.inj (is_again.symm.trans is_low)
  omega

theorem max_safe (safe : settings.Safe) {high : Int} (is_high : settings.max = some high) :
    high < 2 ^ 53 := by
  obtain ⟨last, low, is_last, is_low, rfl⟩ := math_max_iff.mp is_high
  obtain ⟨first, one, is_first, is_one, rfl⟩ := math_max_iff.mp is_low
  obtain rfl := Option.some.inj is_one
  have first_safe := safe.1 first is_first
  have last_safe := safe.2 last is_last
  omega

/-- The time to live is a whole number between the two settings, both included. -/
theorem ttl_in_range (safe : settings.Safe) {random : Fin (2 ^ 53)} {ttl : Int}
    (drawn : settings.getRandomTtlSeconds random = some ttl) :
    ∃ low high, settings.min = some low ∧ settings.max = some high ∧ low ≤ ttl ∧ ttl ≤ high := by
  cases is_low : settings.min with
  | none =>
    simp only [TtlSettings.getRandomTtlSeconds, is_low, bind, Option.bind, reduceCtorEq] at drawn
  | some low =>
    cases is_high : settings.max with
    | none =>
      simp only [TtlSettings.getRandomTtlSeconds, is_low, is_high, bind, Option.bind,
        reduceCtorEq] at drawn
    | some high =>
      have bounds := min_le_max is_low is_high
      have small := max_safe safe is_high
      refine ⟨low, high, rfl, rfl, ?_⟩
      simp only [TtlSettings.getRandomTtlSeconds, is_low, is_high, bind, Option.bind] at drawn
      split_ifs at drawn with infinite same
      · have := Option.some.inj drawn
        omega
      · have difference : (high - low).toNat + 1 < 2 ^ 53 := by omega
        have product := rounded_product_lt random.isLt (n := (high - low).toNat + 1) (by omega)
          (by omega)
        have first : nearestDouble (high - low).toNat = (high - low).toNat :=
          nearest_double_small (by omega)
        rw [first, nearest_double_small difference] at drawn
        have offset : nearestDouble (random * ((high - low).toNat + 1)) / 2 ^ 53 <
            (high - low).toNat + 1 := by
          rw [Nat.div_lt_iff_lt_mul (by positivity)]
          exact product
        rw [nearest_double_small (by omega)] at drawn
        have := Option.some.inj drawn
        omega

end Random

/-- A response in Redis, with the last time at which it can be read. -/
structure Entry where
  value : Json
  expiresAt : Int

/-- Redis takes a positive number of seconds whose end fits into 64 bits. -/
def expiry (ttl : Option Int) (now : Int) : Option Int := do
  let seconds ← ttl
  if 0 < seconds ∧ seconds * 1000 + now < 2 ^ 63 then return now + seconds * 1000 else none

/-- A set of Redis that has succeeded, with the answer of TMAP that it stores. -/
structure Stored (Num : Type) where
  fetch : Fetch Num
  bucket : Bucket
  body : Json
  answeredAt : Int
  storedAt : Int

inductive Frame (Num : Type) where
  | getCache (fetch : Fetch Num) (bucket : Bucket)
  | callTmap (fetch : Fetch Num) (bucket : Bucket)
  | setCache (fetch : Fetch Num) (bucket : Bucket) (body : Json) (answeredAt : Int)

/-- `stored` has every successful set so far, the last one first. -/
structure Timed (Num : Type) where
  clock : Int
  redis : List (JsString × Entry)
  frames : List (Frame Num)
  stored : List (Stored Num)

/-- What a statement meets: the clock, whether it fails, what TMAP answers and the random number. -/
structure Outcome where
  now : Date
  fails : Bool
  body : Json
  random : Fin (2 ^ 53)

inductive Event (Num : Type) where
  | computeRoute (payload : RouteComputeDto Num) (now : Date)
  | computeDepartures (payload : DeparturesComputeDto Num) (nowA nowB : Date)
  | advance (index : Nat) (outcome : Outcome)
  | drop (key : JsString)

section Steps
variable {Num : Type} (service : Service Num) (settings : TtlSettings)

def initial (clock : Int) : Timed Num := ⟨clock, [], [], []⟩

def Stored.key (stored : Stored Num) : JsString := stored.fetch.buildCacheKey service stored.bucket

namespace Timed
variable (y : Timed Num)

/-- A bad request ends at once. -/
def start (fetches : List (Fetch Num)) (now : Int) : Timed Num :=
  { y with
    clock := now
    frames := y.frames ++ fetches.filterMap fun fetch =>
      (fetch.getBucketInfo service).map (.getCache fetch) }

def push (frame : Frame Num) : Timed Num := { y with frames := y.frames ++ [frame] }

/-- A cached value that is falsy is not taken. -/
def getCache (outcome : Outcome) (fetch : Fetch Num) (bucket : Bucket) : Option Json :=
  if outcome.fails then none
  else (((y.redis.lookup (fetch.buildCacheKey service bucket)).filter fun entry =>
    outcome.now.ms ≤ entry.expiresAt).map Entry.value).filter isTruthy

/-- A time to live that Redis refuses fails as any other write does. -/
def setCache (outcome : Outcome) (stored : Stored Num) : Timed Num :=
  match if outcome.fails then none
    else expiry (settings.getRandomTtlSeconds outcome.random) outcome.now.ms with
  | none => y
  | some expiresAt => { y with
      redis := (stored.key service, ⟨sanitizeTmapResponse stored.body, expiresAt⟩) :: y.redis
      stored := stored :: y.stored }

/-- The statement of a frame, which has been taken out. -/
def exec (outcome : Outcome) : Frame Num → Timed Num
  | .getCache fetch bucket =>
    match y.getCache service outcome fetch bucket with
    | some _ => y
    | none => y.push (.callTmap fetch bucket)
  | .callTmap fetch bucket =>
    if outcome.fails then y else y.push (.setCache fetch bucket outcome.body outcome.now.ms)
  | .setCache fetch bucket body answeredAt =>
    y.setCache service settings outcome ⟨fetch, bucket, body, answeredAt, outcome.now.ms⟩

/-- The last set of this key. -/
def newest (key : JsString) : Option (Stored Num) :=
  y.stored.find? fun stored => stored.key service = key

end Timed

/-- The clock never goes back. -/
def step (y : Timed Num) : Event Num → Option (Timed Num)
  | .computeRoute payload now =>
    if y.clock ≤ now.ms then some (y.start service [payload.fetch now] now.ms) else none
  | .computeDepartures payload nowA nowB =>
    if y.clock ≤ nowA.ms ∧ nowA.ms ≤ nowB.ms then
      some (y.start service (payload.fetches nowA nowB) nowB.ms)
    else none
  | .advance index outcome =>
    match y.frames[index]? with
    | some frame =>
      if y.clock ≤ outcome.now.ms then
        let rest : Timed Num :=
          { y with clock := outcome.now.ms, frames := y.frames.eraseIdx index }
        some (rest.exec service settings outcome frame)
      else none
    | none => none
  | .drop key => some { y with redis := y.redis.filter fun cell => cell.1 ≠ key }

/-- A look into Redis that does not fail: its key, its time and what it takes. -/
structure Look where
  key : JsString
  now : Int
  taken : Option Json

def lookOf (y : Timed Num) : Event Num → Option Look
  | .advance index outcome =>
    match y.frames[index]? with
    | some (.getCache fetch bucket) =>
      if outcome.fails then none
      else some ⟨fetch.buildCacheKey service bucket, outcome.now.ms,
        y.getCache service outcome fetch bucket⟩
    | _ => none
  | _ => none

/-- What is taken is the answer that was stored last under the key, within the longest time to live
since. -/
def TakesFresh (y : Timed Num) (e : Event Num) : Prop :=
  ∀ look ∈ lookOf service y e, ∀ value, look.taken = some value →
    ∃ stored high, y.newest service look.key = some stored ∧ settings.max = some high ∧
      value = sanitizeTmapResponse stored.body ∧ stored.answeredAt ≤ stored.storedAt ∧
      stored.storedAt ≤ look.now ∧ look.now ≤ stored.storedAt + high * 1000

/-- For the shortest time to live the answer that was stored last under the key is taken. -/
def TakesStored (y : Timed Num) (e : Event Num) : Prop :=
  ∀ look ∈ lookOf service y e, ∀ stored, y.newest service look.key = some stored →
    ∀ low, settings.min = some low → look.now ≤ stored.storedAt + low * 1000 →
      isTruthy (sanitizeTmapResponse stored.body) = true →
        look.taken = some (sanitizeTmapResponse stored.body)

end Steps

section Invariant
variable {Num : Type} {service : Service Num} {settings : TtlSettings} {y z : Timed Num}
  {e : Event Num}

/-- The entry holds what has been stored, and ends within the two settings after it. -/
structure EntryOf (settings : TtlSettings) (stored : Stored Num) (entry : Entry) : Prop where
  value : entry.value = sanitizeTmapResponse stored.body
  lives : ∃ low high, settings.min = some low ∧ settings.max = some high ∧
    stored.storedAt + low * 1000 ≤ entry.expiresAt ∧
    entry.expiresAt ≤ stored.storedAt + high * 1000

structure Sound (service : Service Num) (settings : TtlSettings) (y : Timed Num) : Prop where
  entries : ∀ key entry, y.redis.lookup key = some entry →
    ∃ stored, y.newest service key = some stored ∧ EntryOf settings stored entry
  stored : ∀ stored ∈ y.stored, stored.answeredAt ≤ stored.storedAt ∧ stored.storedAt ≤ y.clock
  frames : ∀ fetch bucket body answeredAt, .setCache fetch bucket body answeredAt ∈ y.frames →
    answeredAt ≤ y.clock

/-- Nothing that has been stored is gone. -/
def Held (service : Service Num) (y : Timed Num) : Prop :=
  ∀ key stored, y.newest service key = some stored → (y.redis.lookup key).isSome = true

theorem entry_of_expiry (safe : settings.Safe) {random : Fin (2 ^ 53)} {stored : Stored Num}
    {expiresAt : Int}
    (taken : expiry (settings.getRandomTtlSeconds random) stored.storedAt = some expiresAt) :
    EntryOf settings stored ⟨sanitizeTmapResponse stored.body, expiresAt⟩ := by
  refine ⟨rfl, ?_⟩
  simp only [expiry, bind, Option.bind_eq_some_iff] at taken
  obtain ⟨seconds, drawn, taken⟩ := taken
  obtain ⟨low, high, is_low, is_high, above, below⟩ := ttl_in_range safe drawn
  refine ⟨low, high, is_low, is_high, ?_⟩
  split at taken
  · have ends := Option.some.inj taken
    simp only
    omega
  · simp at taken

/-- What a step does to Redis: nothing, a set that succeeds, or a drop. -/
inductive Effect (service : Service Num) (settings : TtlSettings) (y z : Timed Num) :
    Event Num → Prop where
  | same {e : Event Num} (redis : z.redis = y.redis) (stored : z.stored = y.stored) :
    Effect service settings y z e
  | set {e : Event Num} (stored : Stored Num) (random : Fin (2 ^ 53)) (expiresAt : Int)
    (drawn : expiry (settings.getRandomTtlSeconds random) stored.storedAt = some expiresAt)
    (framed : .setCache stored.fetch stored.bucket stored.body stored.answeredAt ∈ y.frames)
    (now : stored.storedAt = z.clock)
    (redis : z.redis =
      (stored.key service, ⟨sanitizeTmapResponse stored.body, expiresAt⟩) :: y.redis)
    (added : z.stored = stored :: y.stored) : Effect service settings y z e
  | drop (key : JsString) (redis : z.redis = y.redis.filter fun cell => cell.1 ≠ key)
    (stored : z.stored = y.stored) : Effect service settings y z (.drop key)

/-- A call that starts sends nothing to Redis yet. -/
theorem started_frames (fetches : List (Fetch Num)) (now : Int) {fetch : Fetch Num}
    {bucket : Bucket} {body : Json} {answeredAt : Int}
    (listed : .setCache fetch bucket body answeredAt ∈ (y.start service fetches now).frames) :
    .setCache fetch bucket body answeredAt ∈ y.frames ∨ answeredAt = now := by
  rcases List.mem_append.mp listed with old | new
  · exact .inl old
  · obtain ⟨other, _, begun⟩ := List.mem_filterMap.mp new
    obtain ⟨found, _, same⟩ := Option.map_eq_some_iff.mp begun
    simp at same

theorem advance_effect {index : Nat} {outcome : Outcome}
    (moved : step service settings y (.advance index outcome) = some z) :
    y.clock ≤ z.clock ∧ Effect service settings y z (.advance index outcome) ∧
      ∀ fetch bucket body answeredAt, .setCache fetch bucket body answeredAt ∈ z.frames →
        .setCache fetch bucket body answeredAt ∈ y.frames ∨ answeredAt = z.clock := by
  simp only [step] at moved
  split at moved
  case h_2 => simp at moved
  case h_1 frame found =>
  simp only [Option.ite_none_right_eq_some, Option.some.injEq] at moved
  obtain ⟨clock, same⟩ := moved
  have framed := List.mem_of_getElem? found
  have rest : ∀ other, other ∈ y.frames.eraseIdx index → other ∈ y.frames :=
    fun other => List.mem_of_mem_eraseIdx
  cases frame with
  | getCache fetch bucket =>
    simp only [Timed.exec] at same
    split at same
    · rw [← same]
      exact ⟨clock, .same rfl rfl, fun _ _ _ _ listed => .inl (rest _ listed)⟩
    · rw [← same]
      refine ⟨clock, .same rfl rfl, ?_⟩
      intro other otherBucket body answeredAt listed
      rcases List.mem_append.mp listed with old | new
      · exact .inl (rest _ old)
      · simp at new
  | callTmap fetch bucket =>
    simp only [Timed.exec] at same
    split at same
    · rw [← same]
      exact ⟨clock, .same rfl rfl, fun _ _ _ _ listed => .inl (rest _ listed)⟩
    · rw [← same]
      refine ⟨clock, .same rfl rfl, ?_⟩
      intro other otherBucket body answeredAt listed
      rcases List.mem_append.mp listed with old | new
      · exact .inl (rest _ old)
      · simp only [List.mem_singleton, Frame.setCache.injEq] at new
        exact .inr new.2.2.2
  | setCache fetch bucket body answeredAt =>
    simp only [Timed.exec, Timed.setCache] at same
    split at same
    · rw [← same]
      exact ⟨clock, .same rfl rfl, fun _ _ _ _ listed => .inl (rest _ listed)⟩
    · rename_i expiresAt set
      rw [← same]
      refine ⟨clock, ?_, fun _ _ _ _ listed => .inl (rest _ listed)⟩
      split at set
      · simp at set
      · exact .set ⟨fetch, bucket, body, answeredAt, outcome.now.ms⟩ outcome.random expiresAt set
          framed rfl rfl rfl

theorem step_effect (moved : step service settings y e = some z) :
    y.clock ≤ z.clock ∧ Effect service settings y z e ∧
      ∀ fetch bucket body answeredAt, .setCache fetch bucket body answeredAt ∈ z.frames →
        .setCache fetch bucket body answeredAt ∈ y.frames ∨ answeredAt = z.clock := by
  cases e with
  | computeRoute payload now =>
    simp only [step, Option.ite_none_right_eq_some, Option.some.injEq] at moved
    obtain ⟨clock, rfl⟩ := moved
    exact ⟨clock, .same rfl rfl, fun _ _ _ _ listed => started_frames _ _ listed⟩
  | computeDepartures payload nowA nowB =>
    simp only [step, Option.ite_none_right_eq_some, Option.some.injEq] at moved
    obtain ⟨⟨clock, later⟩, rfl⟩ := moved
    exact ⟨clock.trans later, .same rfl rfl, fun _ _ _ _ listed => started_frames _ _ listed⟩
  | drop key =>
    obtain rfl := Option.some.inj moved
    exact ⟨le_rfl, .drop key rfl rfl, fun _ _ _ _ listed => .inl listed⟩
  | advance index outcome => exact advance_effect moved

theorem newest_set {stored : Stored Num} {key : JsString} (added : z.stored = stored :: y.stored) :
    z.newest service key =
      if stored.key service = key then some stored else y.newest service key := by
  simp only [Timed.newest, added, List.find?_cons]
  split <;> simp_all

/-- A set gives its key the value that has been stored last under it. -/
theorem entries_set (safe : settings.Safe) {stored : Stored Num} {random : Fin (2 ^ 53)}
    {expiresAt : Int}
    (drawn : expiry (settings.getRandomTtlSeconds random) stored.storedAt = some expiresAt)
    (redis : z.redis =
      (stored.key service, ⟨sanitizeTmapResponse stored.body, expiresAt⟩) :: y.redis)
    (added : z.stored = stored :: y.stored) (sound : Sound service settings y) {key : JsString}
    {entry : Entry} (found : z.redis.lookup key = some entry) :
    ∃ stored, z.newest service key = some stored ∧ EntryOf settings stored entry := by
  rw [redis, List.lookup_cons] at found
  rw [newest_set added]
  by_cases same : stored.key service = key
  · rw [if_pos same]
    simp only [same, beq_self_eq_true, Option.some.injEq] at found
    exact ⟨stored, rfl, found ▸ entry_of_expiry safe drawn⟩
  · rw [if_neg same]
    have differs : (key == stored.key service) = false := by simp [Ne.symm same]
    simp only [differs] at found
    exact sound.entries key entry found

theorem sound_step (safe : settings.Safe) (moved : step service settings y e = some z)
    (sound : Sound service settings y) : Sound service settings z := by
  obtain ⟨clock, effect, frames⟩ := step_effect moved
  have later : ∀ stored ∈ y.stored,
      stored.answeredAt ≤ stored.storedAt ∧ stored.storedAt ≤ z.clock := by
    intro stored listed
    obtain ⟨before, after⟩ := sound.stored stored listed
    omega
  have frames_sound : ∀ fetch bucket body answeredAt,
      .setCache fetch bucket body answeredAt ∈ z.frames → answeredAt ≤ z.clock := by
    intro fetch bucket body answeredAt listed
    rcases frames fetch bucket body answeredAt listed with old | now
    · exact (sound.frames _ _ _ _ old).trans clock
    · omega
  cases effect with
  | same redis stored =>
    refine ⟨?_, ?_, frames_sound⟩
    · intro key entry found
      rw [redis] at found
      rw [Timed.newest, stored]
      exact sound.entries key entry found
    · rw [stored]
      exact later
  | set stored random expiresAt drawn framed now redis added =>
    refine ⟨?_, ?_, frames_sound⟩
    · exact fun key entry found => entries_set safe drawn redis added sound found
    · rw [added]
      intro other listed
      rcases List.mem_cons.mp listed with rfl | old
      · have answered := sound.frames _ _ _ _ framed
        omega
      · exact later other old
  | drop key redis stored =>
    refine ⟨?_, ?_, frames_sound⟩
    · intro other entry found
      rw [redis, lookup_dropped] at found
      rw [Timed.newest, stored]
      exact sound.entries other entry found.2
    · rw [stored]
      exact later

theorem held_step (moved : step service settings y e = some z) (kept : ∀ key, e ≠ .drop key)
    (held : Held service y) : Held service z := by
  obtain ⟨_, effect, _⟩ := step_effect moved
  intro key stored found
  cases effect with
  | same redis kept_stored =>
    rw [Timed.newest, kept_stored] at found
    rw [redis]
    exact held key stored found
  | set last random expiresAt drawn framed now redis added =>
    rw [newest_set added] at found
    rw [redis, List.lookup_cons]
    by_cases same : last.key service = key
    · simp [same]
    · rw [if_neg same] at found
      have differs : (key == last.key service) = false := by simp [Ne.symm same]
      simpa [differs] using held key stored found
  | drop key redis kept_stored => exact absurd rfl (kept key)

theorem look_advance {l : Look} (looked : lookOf service y e = some l) :
    ∃ index outcome fetch bucket, e = .advance index outcome ∧ outcome.fails = false ∧
      l.key = fetch.buildCacheKey service bucket ∧ l.now = outcome.now.ms ∧
      l.taken = y.getCache service outcome fetch bucket := by
  unfold lookOf at looked
  split at looked
  case h_2 => simp at looked
  case h_1 index outcome =>
  split at looked
  case h_2 => simp at looked
  case h_1 fetch bucket found =>
    split at looked
    · simp at looked
    · rename_i runs
      obtain rfl := Option.some.inj looked
      exact ⟨index, outcome, fetch, bucket, rfl, by simpa using runs, rfl, rfl, rfl⟩

theorem clock_le_look {l : Look} (looked : lookOf service y e = some l)
    (moved : step service settings y e = some z) : y.clock ≤ l.now := by
  obtain ⟨index, outcome, _, _, rfl, _, _, now, _⟩ := look_advance looked
  simp only [step] at moved
  split at moved
  · simp only [Option.ite_none_right_eq_some] at moved
    rw [now]
    exact moved.1
  · simp at moved

/-- What is taken is a truthy value that lives. -/
theorem taken_iff {l : Look} (looked : lookOf service y e = some l) (value : Json) :
    l.taken = some value ↔ isTruthy value = true ∧ ∃ entry,
      y.redis.lookup l.key = some entry ∧ l.now ≤ entry.expiresAt ∧ entry.value = value := by
  obtain ⟨index, outcome, fetch, bucket, _, runs, key, now, taken⟩ := look_advance looked
  rw [taken, key, now]
  simp only [Timed.getCache, runs, Bool.false_eq_true, if_false, Option.filter_eq_some_iff,
    Option.map_eq_some_iff, decide_eq_true_eq]
  constructor
  · rintro ⟨⟨entry, ⟨found, alive⟩, held⟩, truthy⟩
    exact ⟨truthy, entry, found, alive, held⟩
  · rintro ⟨truthy, entry, found, alive, held⟩
    exact ⟨⟨entry, ⟨found, alive⟩, held⟩, truthy⟩

theorem sound_takes_fresh (sound : Sound service settings y)
    (moved : step service settings y e = some z) : TakesFresh service settings y e := by
  intro l looked value taken
  obtain ⟨_, entry, found, alive, rfl⟩ := (taken_iff looked value).mp taken
  obtain ⟨stored, newest, of_stored⟩ := sound.entries l.key entry found
  obtain ⟨low, high, _, is_high, _, ends⟩ := of_stored.lives
  obtain ⟨answered, before⟩ := sound.stored stored (List.mem_of_find?_eq_some newest)
  have now := clock_le_look looked moved
  exact ⟨stored, high, newest, is_high, of_stored.value, answered, before.trans now,
    alive.trans ends⟩

theorem held_takes_stored (sound : Sound service settings y) (held : Held service y) :
    TakesStored service settings y e := by
  intro l looked stored newest low is_low soon truthy
  obtain ⟨entry, found⟩ := Option.isSome_iff_exists.mp (held l.key stored newest)
  obtain ⟨same, newest_same, of_stored⟩ := sound.entries l.key entry found
  obtain rfl := Option.some.inj (newest_same.symm.trans newest)
  obtain ⟨least, high, is_least, _, lives, _⟩ := of_stored.lives
  obtain rfl := Option.some.inj (is_least.symm.trans is_low)
  exact (taken_iff looked _).mpr ⟨truthy, entry, found, soon.trans lives, of_stored.value⟩

theorem sound_initial (clock : Int) : Sound service settings (initial clock) := by
  constructor <;> simp [initial]

/-- With safe settings the cache of the transit service gives an answer of TMAP for at most the
longest time to live, and as long as Redis drops nothing it gives it for at least the shortest. -/
theorem cached_answers_fresh (safe : settings.Safe) (clock : Int) (es : List (Event Num)) :
    EachStep (step service settings) (TakesFresh service settings) (initial clock) es ∧
      (EachStep (step service settings) (fun _ e => ∀ key, e ≠ .drop key) (initial clock) es →
        EachStep (step service settings) (TakesStored service settings) (initial clock) es) := by
  constructor
  · exact each_step_of_invariant (Sound service settings)
      (fun _ _ _ moved sound => sound_step safe moved sound)
      (fun _ _ _ moved sound => sound_takes_fresh sound moved) (sound_initial clock)
  · intro kept
    refine each_step_of_each_step (fun y => Sound service settings y ∧ Held service y) ?_ ?_ ?_ kept
    · intro y e z moved undropped both
      exact ⟨sound_step safe moved both.1, held_step moved undropped both.2⟩
    · intro y e z moved undropped both
      exact held_takes_stored both.1 both.2
    · exact ⟨sound_initial clock, by simp [Held, initial, Timed.newest]⟩

end Invariant

section Sample

def defaultSettings : TtlSettings := .ofEnv none none

theorem default_settings_safe : defaultSettings.Safe := by
  constructor <;> decide +kernel

def askedAt : Date := ⟨1767323100001, by decide⟩

def aMinuteLater : Date := ⟨1767323160001, by decide⟩

def advanceAt (now : Date) : Event Int :=
  .advance 0 ⟨now, false, sampleBody, ⟨4503599627370496, by decide⟩⟩

/-- A call that asks TMAP, and one a minute later that looks into Redis. -/
def sampleEvents : List (Event Int) :=
  [.computeRoute (samplePayload none none) askedAt, advanceAt askedAt, advanceAt askedAt,
    advanceAt askedAt, .computeRoute (samplePayload none none) aMinuteLater]

theorem answer_taken_a_minute_later :
    (((run (step sampleService defaultSettings) (initial 0) sampleEvents).bind fun y =>
      lookOf sampleService y (advanceAt aMinuteLater)).bind Look.taken).isSome = true ∧
      EachStep (step sampleService defaultSettings) (TakesFresh sampleService defaultSettings)
        (initial 0) (sampleEvents ++ [advanceAt aMinuteLater]) :=
  ⟨by decide +kernel, (cached_answers_fresh default_settings_safe 0 _).1⟩

/-- A setting that is no number leaves nothing in Redis. -/
example (random : Fin (2 ^ 53)) :
    (TtlSettings.ofEnv (some (js "two")) none).getRandomTtlSeconds random = none := rfl

end Sample

end TransitFreshness
