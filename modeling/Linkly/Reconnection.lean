import Linkly.JsText
import Linkly.TransitionRuns
import Mathlib.Data.Rat.Floor
import Mathlib.Logic.Function.Basic
import Mathlib.Tactic.Linarith

/-!
The connection of a chat tab: its sockets with their handlers, the reconnect timer and the
healthcheck, for any order of what socket.io, the server, the timers and React do. A delay is
computed without rounding its products. `mounted` and `created` are no part of the tab: they record
which socket belongs to an effect that has not been cleaned up, and how many sockets were made.
-/
namespace Reconnection
open JsText TransitionRuns

inductive ConnectionStatus where
  | connecting
  | connected
  | reconnecting
  | offline
  deriving DecidableEq, Repr

inductive SocketStatus where
  | disconnected
  | connecting
  | connected
  deriving DecidableEq, Repr

inductive ChatEvent where
  | connected
  | message
  | error
  | pong
  deriving DecidableEq, Repr

inductive SocketEvent where
  | connect
  | disconnect
  | connectError
  | chat (name : ChatEvent)
  deriving DecidableEq, Repr

inductive EngineEvent where
  | ping
  | pong
  deriving DecidableEq, Repr

inductive Handler where
  | handleConnect
  | handleDisconnect
  | handleError
  | handleChatConnected
  | handleIncomingMessage
  | markActivity
  deriving DecidableEq, Repr

/-- `engineHandlers` are those of the engine that the socket had when it was made. -/
structure Socket where
  status : SocketStatus
  handlers : List (SocketEvent × Handler)
  engineHandlers : List (EngineEvent × Handler)
  deriving DecidableEq, Repr

/-- What `Math.random` returns. -/
structure Random where
  value : ℚ
  nonneg : 0 ≤ value
  lt_one : value < 1

/-- What an event leaves open: a random number, and whether a message is new to the tab. -/
structure Choice where
  random : Random
  fresh : Bool

structure Timer where
  id : Nat
  delay : Int
  deriving DecidableEq, Repr

structure Tab where
  now : Nat
  sockets : Nat → Socket
  created : Nat
  mounted : Option Nat
  socketRef : Option Nat
  timers : List Timer
  nextTimer : Nat
  reconnectTimeoutRef : Option Nat
  reconnectAttemptRef : Nat
  intervals : List Nat
  healthcheckIntervalRef : Option Nat
  lastActivityRef : Nat
  isUnmountingRef : Bool
  connectionStatus : ConnectionStatus

def initial : Tab :=
  ⟨0, fun _ => ⟨.disconnected, [], []⟩, 0, none, none, [], 0, none, 0, [], none, 0, false,
    .connecting⟩

def HEALTHCHECK_STALE_MS : Nat := 40000

def RECONNECT_BASE_DELAY_MS : ℚ := 1000

def RECONNECT_MAX_DELAY_MS : ℚ := 15000

def RECONNECT_JITTER : ℚ := 1 / 5

/-- `Math.round`, which rounds halves up. -/
def round (x : ℚ) : Int := ⌊x + 1 / 2⌋

def reconnectDelay (attempt : Nat) (random : Random) : Int :=
  let baseDelay := min RECONNECT_MAX_DELAY_MS (RECONNECT_BASE_DELAY_MS * 2 ^ (attempt - 1))
  let jitter := baseDelay * RECONNECT_JITTER * (random.value * 2 - 1)
  max 0 (round (baseDelay + jitter))

def setSocket (y : Tab) (id : Nat) (socket : Socket) : Tab :=
  { y with sockets := Function.update y.sockets id socket }

def setStatus (y : Tab) (id : Nat) (status : SocketStatus) : Tab :=
  setSocket y id { y.sockets id with status := status }

def markActivity (y : Tab) : Tab := { y with lastActivityRef := y.now }

def clearReconnectTimer (y : Tab) : Tab :=
  { y with
    timers := match y.reconnectTimeoutRef with
      | some timer => y.timers.filter (·.id ≠ timer)
      | none => y.timers
    reconnectTimeoutRef := none
    reconnectAttemptRef := 0 }

def scheduleReconnect (random : Random) (y : Tab) : Tab :=
  if y.reconnectTimeoutRef.isSome ∨ y.isUnmountingRef = true then y
  else
    let attempt := y.reconnectAttemptRef + 1
    { y with
      reconnectAttemptRef := attempt
      connectionStatus := .reconnecting
      timers := ⟨y.nextTimer, reconnectDelay attempt random⟩ :: y.timers
      reconnectTimeoutRef := some y.nextTimer
      nextTimer := y.nextTimer + 1 }

/-- The body of `handleDisconnect` and of `handleError`. -/
def goOffline (random : Random) (y : Tab) : Tab :=
  if y.isUnmountingRef = true then y
  else scheduleReconnect random { y with connectionStatus := .offline }

def handle (choice : Choice) (y : Tab) : Handler → Tab
  | .handleConnect => markActivity { clearReconnectTimer y with connectionStatus := .connected }
  | .handleDisconnect => goOffline choice.random y
  | .handleError => goOffline choice.random y
  | .handleChatConnected => { markActivity y with connectionStatus := .connected }
  | .handleIncomingMessage => if choice.fresh then markActivity y else y
  | .markActivity => markActivity y

def dispatch {E : Type} [DecidableEq E] (choice : Choice) (name : E)
    (handlers : List (E × Handler)) (y : Tab) : Tab :=
  (handlers.filter (·.1 = name)).foldl (fun y entry => handle choice y entry.2) y

/-- A socket that connects already is left alone. -/
def connect (y : Tab) (id : Nat) : Tab :=
  if (y.sockets id).status = .disconnected then setStatus y id .connecting else y

/-- An attempt that is given up fires no event. -/
def disconnect (choice : Choice) (y : Tab) (id : Nat) : Tab :=
  let closed := setStatus y id .disconnected
  if (y.sockets id).status = .connected then
    dispatch choice .disconnect (closed.sockets id).handlers closed
  else closed

/-- The callback of a reconnect timer. -/
def reconnectTimeout (y : Tab) (timer : Nat) : Tab :=
  let fired := { y with timers := y.timers.filter (·.id ≠ timer), reconnectTimeoutRef := none }
  match y.socketRef with
  | some id => connect fired id
  | none => fired

/-- The callback of the healthcheck interval. -/
def healthcheck (choice : Choice) (y : Tab) : Tab :=
  match y.socketRef with
  | none => y
  | some id =>
    if (y.sockets id).status ≠ .connected then y
    else if y.now - y.lastActivityRef > HEALTHCHECK_STALE_MS then
      scheduleReconnect choice.random (disconnect choice y id)
    else y

def socketHandlers : List (SocketEvent × Handler) :=
  [(.connect, .handleConnect), (.disconnect, .handleDisconnect), (.connectError, .handleError),
    (.chat .connected, .handleChatConnected), (.chat .message, .handleIncomingMessage),
    (.chat .error, .handleError), (.chat .pong, .markActivity)]

def engineHandlers : List (EngineEvent × Handler) :=
  [(.ping, .markActivity), (.pong, .markActivity)]

/-- The socket effect. `engine` tells whether the new socket has an engine. -/
def runEffect (y : Tab) (coupleId userId : JsString) (engine : Bool) : Tab :=
  if coupleId = [] ∨ userId = [] then y
  else
    let id := y.created
    { setSocket y id ⟨.connecting, socketHandlers, if engine then engineHandlers else []⟩ with
      created := id + 1
      mounted := some id
      isUnmountingRef := false
      socketRef := some id
      connectionStatus := .connecting
      intervals := id :: y.intervals
      healthcheckIntervalRef := some id }

/-- The cleanup of the effect that made the socket. -/
def cleanUp (choice : Choice) (y : Tab) (id : Nat) : Tab :=
  let cleared := clearReconnectTimer { y with isUnmountingRef := true }
  let stopped := { cleared with
    intervals := match y.healthcheckIntervalRef with
      | some interval => y.intervals.filter (· ≠ interval)
      | none => y.intervals
    healthcheckIntervalRef := none }
  let socket := y.sockets id
  let silenced := setSocket stopped id { socket with
    handlers := socketHandlers.foldl List.erase socket.handlers
    engineHandlers := engineHandlers.foldl List.erase socket.engineHandlers }
  { disconnect choice silenced id with mounted := none }

inductive Event where
  | effect (coupleId userId : JsString) (engine : Bool)
  | cleanup (choice : Choice)
  | connect (id : Nat) (choice : Choice)
  | disconnect (id : Nat) (choice : Choice)
  | connectError (id : Nat) (choice : Choice)
  | chat (id : Nat) (name : ChatEvent) (choice : Choice)
  | engine (id : Nat) (name : EngineEvent) (choice : Choice)
  | timer (timer : Nat)
  | healthcheck (interval : Nat) (choice : Choice)
  | append
  | pass (ms : Nat)

/-- An attempt ends in `connect` or `connect_error`, or it is closed before. `append` is a message
    that comes into the list by another way than the socket. -/
def step (y : Tab) : Event → Option Tab
  | .effect coupleId userId engine =>
    if y.mounted = none then some (runEffect y coupleId userId engine) else none
  | .cleanup choice => y.mounted.map (cleanUp choice y)
  | .connect id choice =>
    if (y.sockets id).status = .connecting then
      some (dispatch choice .connect (y.sockets id).handlers (setStatus y id .connected))
    else none
  | .disconnect id choice =>
    if (y.sockets id).status ≠ .disconnected then
      some (dispatch choice .disconnect (y.sockets id).handlers (setStatus y id .disconnected))
    else none
  | .connectError id choice =>
    if (y.sockets id).status = .connecting then
      some (dispatch choice .connectError (y.sockets id).handlers (setStatus y id .disconnected))
    else none
  | .chat id name choice => some (dispatch choice (.chat name) (y.sockets id).handlers y)
  | .engine id name choice => some (dispatch choice name (y.sockets id).engineHandlers y)
  | .timer timer =>
    if timer ∈ y.timers.map Timer.id then some (reconnectTimeout y timer) else none
  | .healthcheck interval choice =>
    if interval ∈ y.intervals then some (healthcheck choice y) else none
  | .append => some (markActivity y)
  | .pass ms => some { y with now := y.now + ms }

def OneTimer (y : Tab) : Prop := y.timers.length ≤ 1 ∧ ∀ timer ∈ y.timers, timer.delay ≤ 18000

/-- While the tab's socket is neither connected nor connecting, one timer waits to connect it. -/
def NeverStuck (y : Tab) : Prop :=
  ∀ id, y.mounted = some id → (y.sockets id).status = .disconnected →
    ∃ timer, y.timers = [timer] ∧
      ((reconnectTimeout y timer.id).sockets id).status = .connecting

/-- Nothing is left of the effects that have been cleaned up. -/
structure CleanedUp (y : Tab) : Prop where
  timers : y.mounted = none → y.timers = [] ∧ y.intervals = []
  handlers : ∀ id, y.mounted ≠ some id →
    (y.sockets id).handlers = [] ∧ (y.sockets id).engineHandlers = []

theorem reconnect_delay_le (attempt : Nat) (random : Random) :
    reconnectDelay attempt random ≤ 18000 := by
  have power : (0 : ℚ) < 2 ^ (attempt - 1) := by positivity
  have base_pos : 0 < min RECONNECT_MAX_DELAY_MS (RECONNECT_BASE_DELAY_MS * 2 ^ (attempt - 1)) :=
    lt_min (by norm_num [RECONNECT_MAX_DELAY_MS])
      (mul_pos (by norm_num [RECONNECT_BASE_DELAY_MS]) power)
  have base_le : min RECONNECT_MAX_DELAY_MS (RECONNECT_BASE_DELAY_MS * 2 ^ (attempt - 1)) ≤ 15000 :=
    min_le_left _ _
  simp only [reconnectDelay, RECONNECT_JITTER]
  generalize min RECONNECT_MAX_DELAY_MS (RECONNECT_BASE_DELAY_MS * 2 ^ (attempt - 1)) = baseDelay
    at base_pos base_le
  have jitter : baseDelay * (1 / 5) * (random.value * 2 - 1) ≤ baseDelay * (1 / 5) * 1 :=
    mul_le_mul_of_nonneg_left (by linarith [random.lt_one]) (by positivity)
  have rounded : round (baseDelay + baseDelay * (1 / 5) * (random.value * 2 - 1)) ≤ 18000 := by
    refine Int.le_of_lt_add_one (Int.floor_lt.mpr ?_)
    push_cast
    linarith
  exact max_le (by norm_num) rounded

/-- What holds in the middle of an event as well. -/
structure Wired (y : Tab) : Prop where
  timer : y.timers.map Timer.id = y.reconnectTimeoutRef.toList
  delays : ∀ timer ∈ y.timers, timer.delay ≤ 18000
  interval : y.intervals = y.healthcheckIntervalRef.toList
  current : ∀ id, y.mounted = some id → y.socketRef = some id ∧ y.isUnmountingRef = false
  handlers : ∀ id, y.mounted = some id → (y.sockets id).handlers = socketHandlers
  engine : ∀ id, y.mounted = some id →
    (y.sockets id).engineHandlers = [] ∨ (y.sockets id).engineHandlers = engineHandlers
  left : ∀ id, y.mounted ≠ some id →
    (y.sockets id).handlers = [] ∧ (y.sockets id).engineHandlers = []
  idle : y.mounted = none → y.reconnectTimeoutRef = none ∧ y.healthcheckIntervalRef = none

/-- What holds between any two events. -/
structure Sound (y : Tab) : Prop extends Wired y where
  waits : ∀ id, y.mounted = some id → (y.sockets id).status = .disconnected →
    y.reconnectTimeoutRef.isSome = true

section Handlers
variable {y : Tab} {id : Nat} {choice : Choice} {random : Random}

theorem wired_initial : Wired initial := by
  constructor <;> simp [initial]

theorem sound_initial : Sound initial :=
  ⟨wired_initial, by simp [initial]⟩

theorem schedule_frame : (scheduleReconnect random y).mounted = y.mounted ∧
    (scheduleReconnect random y).sockets = y.sockets := by
  unfold scheduleReconnect
  split <;> exact ⟨rfl, rfl⟩

theorem wired_schedule (wired : Wired y) (mounted : y.mounted = some id) :
    Wired (scheduleReconnect random y) := by
  unfold scheduleReconnect
  split
  · exact wired
  · rename_i free
    have without : y.reconnectTimeoutRef = none := by
      cases waiting : y.reconnectTimeoutRef with
      | none => rfl
      | some timer => simp [waiting] at free
    refine { wired with timer := ?_, delays := ?_, idle := ?_ }
    · have none_yet := wired.timer
      rw [without] at none_yet
      simp only [List.map_cons, none_yet]
      rfl
    · intro timer mem
      rcases List.mem_cons.mp mem with rfl | old
      · exact reconnect_delay_le _ _
      · exact wired.delays timer old
    · intro unmounted
      simp only [mounted] at unmounted
      simp at unmounted

/-- A timer waits after a call of `scheduleReconnect` by a mounted tab. -/
theorem schedule_waits (wired : Wired y) (mounted : y.mounted = some id) :
    (scheduleReconnect random y).reconnectTimeoutRef.isSome = true := by
  unfold scheduleReconnect
  split
  · rename_i skipped
    rcases skipped with waiting | unmounting
    · exact waiting
    · rw [(wired.current id mounted).2] at unmounting
      simp at unmounting
  · rfl

theorem wired_offline (wired : Wired y) (mounted : y.mounted = some id) :
    Wired (goOffline random y) := by
  unfold goOffline
  split
  · exact wired
  · exact wired_schedule (y := { y with connectionStatus := .offline }) { wired with } mounted

theorem offline_waits (wired : Wired y) (mounted : y.mounted = some id) :
    (goOffline random y).reconnectTimeoutRef.isSome = true := by
  unfold goOffline
  rw [if_neg (by rw [(wired.current id mounted).2]; simp)]
  exact schedule_waits (y := { y with connectionStatus := .offline }) { wired with } mounted

/-- No timer but the one of the ref is pending. -/
theorem timers_without (wired : Wired y) {timer : Nat}
    (waiting : y.reconnectTimeoutRef = some timer) : y.timers.filter (·.id ≠ timer) = [] := by
  refine List.filter_eq_nil_iff.mpr fun other mem => ?_
  have same : other.id ∈ y.timers.map Timer.id := List.mem_map_of_mem mem
  rw [wired.timer, waiting] at same
  simpa using same

theorem timers_clear (wired : Wired y) : (clearReconnectTimer y).timers = [] := by
  cases waiting : y.reconnectTimeoutRef with
  | none => simpa [clearReconnectTimer, waiting] using wired.timer
  | some timer =>
    simp only [clearReconnectTimer, waiting]
    exact timers_without wired waiting

theorem wired_clear (wired : Wired y) : Wired (clearReconnectTimer y) := by
  refine { wired with timer := ?_, delays := ?_, idle := ?_ }
  · rw [timers_clear wired]
    rfl
  · simp [timers_clear wired]
  · exact fun unmounted => ⟨rfl, (wired.idle unmounted).2⟩

theorem handle_frame (handler : Handler) : (handle choice y handler).mounted = y.mounted ∧
    (handle choice y handler).sockets = y.sockets := by
  have offline : (goOffline choice.random y).mounted = y.mounted ∧
      (goOffline choice.random y).sockets = y.sockets := by
    unfold goOffline
    split
    · exact ⟨rfl, rfl⟩
    · exact schedule_frame
  cases handler with
  | handleConnect | handleChatConnected | markActivity => exact ⟨rfl, rfl⟩
  | handleDisconnect | handleError => exact offline
  | handleIncomingMessage =>
    simp only [handle]
    split <;> exact ⟨rfl, rfl⟩

theorem wired_handle (wired : Wired y) (mounted : y.mounted = some id) (handler : Handler) :
    Wired (handle choice y handler) := by
  cases handler with
  | handleConnect => exact { wired_clear wired with }
  | handleDisconnect | handleError => exact wired_offline wired mounted
  | handleChatConnected | markActivity => exact { wired with }
  | handleIncomingMessage =>
    simp only [handle]
    split
    · exact { wired with }
    · exact wired

/-- Only the handler of `connect` clears the timer. -/
theorem handle_waits {handler : Handler} (other : handler ≠ .handleConnect)
    (waits : y.reconnectTimeoutRef.isSome = true) :
    (handle choice y handler).reconnectTimeoutRef.isSome = true := by
  have offline : (goOffline choice.random y).reconnectTimeoutRef.isSome = true := by
    unfold goOffline scheduleReconnect
    split
    · exact waits
    · rw [if_pos (Or.inl waits)]
      exact waits
  cases handler with
  | handleConnect => exact absurd rfl other
  | handleDisconnect | handleError => exact offline
  | handleChatConnected | markActivity => exact waits
  | handleIncomingMessage =>
    simp only [handle]
    split <;> exact waits

section Dispatch
variable {E : Type} [DecidableEq E] {name : E} {handlers : List (E × Handler)}

/-- What each handler of an event keeps is kept by the event. -/
theorem dispatch_keeps (keep : Tab → Prop) (start : keep y)
    (kept : ∀ y, ∀ entry ∈ handlers, entry.1 = name → keep y → keep (handle choice y entry.2)) :
    keep (dispatch choice name handlers y) := by
  unfold dispatch
  have listed : ∀ entry ∈ handlers.filter (·.1 = name), entry ∈ handlers ∧ entry.1 = name := by
    intro entry mem
    exact ⟨List.mem_of_mem_filter mem, by simpa using (List.mem_filter.mp mem).2⟩
  generalize handlers.filter (·.1 = name) = called at listed
  induction called generalizing y with
  | nil => exact start
  | cons entry called ih =>
    obtain ⟨mem, named⟩ := listed entry List.mem_cons_self
    exact ih (kept y entry mem named start) fun other later =>
      listed other (List.mem_cons_of_mem _ later)

theorem dispatch_frame : (dispatch choice name handlers y).mounted = y.mounted ∧
    (dispatch choice name handlers y).sockets = y.sockets := by
  refine dispatch_keeps (fun z => z.mounted = y.mounted ∧ z.sockets = y.sockets) ⟨rfl, rfl⟩ ?_
  intro z entry _ _ kept
  exact ⟨(handle_frame entry.2).1.trans kept.1, (handle_frame entry.2).2.trans kept.2⟩

theorem wired_dispatch (wired : Wired y) (mounted : y.mounted = some id) :
    Wired (dispatch choice name handlers y) := by
  refine (dispatch_keeps (fun z => Wired z ∧ z.mounted = some id) ⟨wired, mounted⟩ ?_).1
  intro z entry _ _ kept
  exact ⟨wired_handle kept.1 kept.2 entry.2, (handle_frame entry.2).1.trans kept.2⟩

/-- An event that `handleConnect` does not listen to leaves a waiting timer alone. -/
theorem dispatch_waits (others : ∀ entry ∈ handlers, entry.1 = name → entry.2 ≠ .handleConnect)
    (waits : y.reconnectTimeoutRef.isSome = true) :
    (dispatch choice name handlers y).reconnectTimeoutRef.isSome = true :=
  dispatch_keeps (fun z => z.reconnectTimeoutRef.isSome = true) waits
    fun _ entry mem named kept => handle_waits (others entry mem named) kept

theorem sound_dispatch (sound : Sound y) (mounted : y.mounted = some id)
    (others : ∀ entry ∈ handlers, entry.1 = name → entry.2 ≠ .handleConnect) :
    Sound (dispatch choice name handlers y) := by
  refine ⟨wired_dispatch sound.toWired mounted, ?_⟩
  intro other now_mounted closed
  rw [dispatch_frame.1] at now_mounted
  rw [dispatch_frame.2] at closed
  exact dispatch_waits others (sound.waits other now_mounted closed)

end Dispatch

theorem set_status_frame (y : Tab) (id : Nat) (status : SocketStatus) (other : Nat) :
    ((setStatus y id status).sockets other).handlers = (y.sockets other).handlers ∧
      ((setStatus y id status).sockets other).engineHandlers =
        (y.sockets other).engineHandlers := by
  simp only [setStatus, setSocket, Function.update_apply]
  split
  · rename_i same
    subst same
    exact ⟨rfl, rfl⟩
  · exact ⟨rfl, rfl⟩

theorem status_set (y : Tab) (id : Nat) (status : SocketStatus) (other : Nat) :
    ((setStatus y id status).sockets other).status =
      if other = id then status else (y.sockets other).status := by
  simp only [setStatus, setSocket, Function.update_apply]
  split <;> rfl

theorem wired_set_status (wired : Wired y) (id : Nat) (status : SocketStatus) :
    Wired (setStatus y id status) where
  timer := wired.timer
  delays := wired.delays
  interval := wired.interval
  current := wired.current
  handlers other mounted := (set_status_frame y id status other).1.trans
    (wired.handlers other mounted)
  engine other mounted := by
    rw [(set_status_frame y id status other).2]
    exact wired.engine other mounted
  left other unmounted := by
    rw [(set_status_frame y id status other).1, (set_status_frame y id status other).2]
    exact wired.left other unmounted
  idle := wired.idle

/-- The status may change to any but `disconnected`, or that of a socket that has been left. -/
theorem sound_set_status (sound : Sound y) {status : SocketStatus}
    (harmless : status ≠ .disconnected ∨ y.mounted ≠ some id) : Sound (setStatus y id status) := by
  refine ⟨wired_set_status sound.toWired id status, ?_⟩
  intro other mounted closed
  rw [status_set] at closed
  split at closed
  · rename_i same
    rcases harmless with open_status | unmounted
    · exact absurd closed open_status
    · exact absurd (same ▸ mounted) unmounted
  · exact sound.waits other mounted closed

/-- The socket is closed, and its listeners for the closing go offline. -/
theorem sound_closed (sound : Sound y) {name : SocketEvent}
    (closing : name = .disconnect ∨ name = .connectError) :
    Sound (dispatch choice name (y.sockets id).handlers (setStatus y id .disconnected)) := by
  by_cases mounted : y.mounted = some id
  · have wired := wired_set_status sound.toWired id .disconnected
    have offline : dispatch choice name (y.sockets id).handlers (setStatus y id .disconnected) =
        goOffline choice.random (setStatus y id .disconnected) := by
      rw [sound.handlers id mounted]
      rcases closing with rfl | rfl <;> rfl
    rw [offline]
    exact ⟨wired_offline wired mounted, fun _ _ _ => offline_waits wired mounted⟩
  · rw [(sound.left id mounted).1]
    exact sound_set_status sound (Or.inr mounted)

theorem sound_opened (sound : Sound y) :
    Sound (dispatch choice .connect (y.sockets id).handlers (setStatus y id .connected)) := by
  have opened : Sound (setStatus y id .connected) := sound_set_status sound (Or.inl (by simp))
  by_cases mounted : y.mounted = some id
  · refine ⟨wired_dispatch opened.toWired mounted, ?_⟩
    intro other now_mounted closed
    rw [dispatch_frame.1] at now_mounted
    rw [dispatch_frame.2, status_set] at closed
    obtain rfl : id = other := Option.some.inj (mounted.symm.trans now_mounted)
    simp at closed
  · rw [(sound.left id mounted).1]
    exact opened

theorem sound_chat (sound : Sound y) (name : ChatEvent) :
    Sound (dispatch choice (.chat name) (y.sockets id).handlers y) := by
  by_cases mounted : y.mounted = some id
  · rw [sound.handlers id mounted]
    refine sound_dispatch sound mounted ?_
    intro entry mem named handler
    simp only [socketHandlers, List.mem_cons, List.not_mem_nil, or_false] at mem
    rcases mem with rfl | rfl | rfl | rfl | rfl | rfl | rfl <;> simp at named handler
  · rw [(sound.left id mounted).1]
    exact sound

theorem sound_engine (sound : Sound y) (name : EngineEvent) :
    Sound (dispatch choice name (y.sockets id).engineHandlers y) := by
  by_cases mounted : y.mounted = some id
  · refine sound_dispatch sound mounted ?_
    intro entry mem _
    rcases sound.engine id mounted with without | listening
    · simp [without] at mem
    · rw [listening] at mem
      simp only [engineHandlers, List.mem_cons, List.not_mem_nil, or_false] at mem
      rcases mem with rfl | rfl <;> simp
  · rw [(sound.left id mounted).2]
    exact sound

theorem mounted_of_timer (wired : Wired y) {timer : Nat}
    (waits : y.reconnectTimeoutRef = some timer) : ∃ id, y.mounted = some id := by
  cases mounted : y.mounted with
  | none =>
    rw [(wired.idle mounted).1] at waits
    simp at waits
  | some id => exact ⟨id, rfl⟩

theorem mounted_of_interval (wired : Wired y) {interval : Nat} (runs : interval ∈ y.intervals) :
    ∃ id, y.mounted = some id := by
  cases mounted : y.mounted with
  | none =>
    rw [wired.interval, (wired.idle mounted).2] at runs
    simp at runs
  | some id => exact ⟨id, rfl⟩

/-- The timer that fires is the only one, and its callback connects the socket of the tab. -/
theorem timeout_eq (wired : Wired y) {timer : Nat} (waits : timer ∈ y.timers.map Timer.id) :
    ∃ id, y.mounted = some id ∧ reconnectTimeout y timer =
      connect { y with timers := [], reconnectTimeoutRef := none } id := by
  have current : y.reconnectTimeoutRef = some timer := by
    rw [wired.timer] at waits
    simpa [eq_comm] using waits
  obtain ⟨id, mounted⟩ := mounted_of_timer wired current
  refine ⟨id, mounted, ?_⟩
  simp only [reconnectTimeout, (wired.current id mounted).1, timers_without wired current]

theorem status_connect (y : Tab) (id : Nat) : ((connect y id).sockets id).status =
    if (y.sockets id).status = .disconnected then .connecting else (y.sockets id).status := by
  unfold connect
  split
  · simp [status_set]
  · rfl

theorem sound_timeout (sound : Sound y) {timer : Nat} (waits : timer ∈ y.timers.map Timer.id) :
    Sound (reconnectTimeout y timer) := by
  obtain ⟨id, mounted, connects⟩ := timeout_eq sound.toWired waits
  rw [connects]
  have fired : Wired { y with timers := [], reconnectTimeoutRef := none } := { sound.toWired with
    timer := rfl
    delays := fun _ mem => absurd mem List.not_mem_nil
    idle := fun unmounted => ⟨rfl, (sound.idle unmounted).2⟩ }
  have same : (connect { y with timers := [], reconnectTimeoutRef := none } id).mounted =
      y.mounted := by
    unfold connect
    split <;> rfl
  refine ⟨?_, ?_⟩
  · unfold connect
    split
    · exact wired_set_status fired id .connecting
    · exact fired
  · intro other now_mounted closed
    rw [same, mounted] at now_mounted
    obtain rfl := Option.some.inj now_mounted
    rw [status_connect] at closed
    split at closed
    · simp at closed
    · rename_i open_status
      exact absurd closed open_status

theorem sound_schedule (sound : Sound y) (mounted : y.mounted = some id) :
    Sound (scheduleReconnect random y) :=
  ⟨wired_schedule sound.toWired mounted, fun _ _ _ => schedule_waits sound.toWired mounted⟩

theorem sound_healthcheck (sound : Sound y) {interval : Nat} (runs : interval ∈ y.intervals) :
    Sound (healthcheck choice y) := by
  obtain ⟨id, mounted⟩ := mounted_of_interval sound.toWired runs
  simp only [healthcheck, (sound.current id mounted).1]
  split
  · exact sound
  · rename_i connected
    split
    · have closed : Sound (disconnect choice y id) := by
        rw [disconnect, if_pos (not_not.mp connected), (set_status_frame y id _ id).1]
        exact sound_closed sound (Or.inl rfl)
      have still : (disconnect choice y id).mounted = some id := by
        unfold disconnect
        split
        · exact dispatch_frame.1.trans mounted
        · exact mounted
      exact sound_schedule closed still
    · exact sound

theorem sound_effect (sound : Sound y) (unmounted : y.mounted = none) (coupleId userId : JsString)
    (engine : Bool) : Sound (runEffect y coupleId userId engine) := by
  unfold runEffect
  split
  · exact sound
  · obtain ⟨no_timer, no_interval⟩ := sound.idle unmounted
    have made : ∀ {socket : Socket}, (setSocket y y.created socket).sockets y.created = socket :=
      Function.update_self ..
    refine ⟨⟨sound.timer, sound.delays, ?_, ?_, ?_, ?_, ?_, ?_⟩, ?_⟩
    · simp [sound.interval, no_interval]
    · exact fun id mounted => ⟨mounted, rfl⟩
    · intro id mounted
      obtain rfl := Option.some.inj mounted
      simp only [made]
    · intro id mounted
      obtain rfl := Option.some.inj mounted
      simp only [made]
      cases engine with
      | false => exact Or.inl rfl
      | true => exact Or.inr rfl
    · intro id other
      have differs : id ≠ y.created := by
        rintro rfl
        exact other rfl
      have old := sound.left id (by rw [unmounted]; simp)
      rwa [← Function.update_of_ne differs _ y.sockets] at old
    · simp
    · intro id mounted closed
      obtain rfl := Option.some.inj mounted
      simp [made] at closed

theorem disconnect_silent (silent : (y.sockets id).handlers = []) :
    disconnect choice y id = setStatus y id .disconnected := by
  simp only [disconnect, (set_status_frame y id _ id).1, silent]
  split <;> rfl

theorem handlers_erased : socketHandlers.foldl List.erase socketHandlers = [] := by decide

theorem engine_erased {handlers : List (EngineEvent × Handler)}
    (listening : handlers = [] ∨ handlers = engineHandlers) :
    engineHandlers.foldl List.erase handlers = [] := by
  rcases listening with rfl | rfl <;> decide

theorem sound_cleanup (sound : Sound y) (mounted : y.mounted = some id) :
    Sound (cleanUp choice y id) := by
  have cleared : (clearReconnectTimer y).timers = [] := timers_clear sound.toWired
  have no_timer : (clearReconnectTimer { y with isUnmountingRef := true }).timers = [] := cleared
  have no_interval : (match y.healthcheckIntervalRef with
      | some interval => y.intervals.filter (· ≠ interval)
      | none => y.intervals) = [] := by
    have listed := sound.interval
    cases running : y.healthcheckIntervalRef with
    | none => simpa [running] using listed
    | some interval => simp [listed, running]
  have silent : ∀ (z : Tab) (engine : List (EngineEvent × Handler)), ((setSocket z id
      { y.sockets id with
        handlers := socketHandlers.foldl List.erase (y.sockets id).handlers
        engineHandlers := engine }).sockets id).handlers = [] := by
    intro z engine
    rw [sound.handlers id mounted, handlers_erased]
    simp [setSocket]
  simp only [cleanUp, no_interval]
  rw [disconnect_silent (silent _ _)]
  refine ⟨⟨?_, ?_, rfl, ?_, ?_, ?_, ?_, fun _ => ⟨rfl, rfl⟩⟩, ?_⟩
  · simp only [setStatus, setSocket, no_timer]
    rfl
  · simp only [setStatus, setSocket, no_timer]
    simp
  · simp
  · simp
  · simp
  · intro other _
    rw [(set_status_frame _ id _ other).1, (set_status_frame _ id _ other).2]
    by_cases same : other = id
    · subst same
      rw [sound.handlers other mounted, handlers_erased, engine_erased (sound.engine other mounted)]
      simp [setSocket]
    · have old := sound.left other (by rw [mounted]; simpa [eq_comm] using same)
      simpa [setSocket, Function.update_of_ne same, clearReconnectTimer] using old
  · simp

theorem sound_step {event : Event} {next : Tab} (moved : step y event = some next)
    (sound : Sound y) : Sound next := by
  cases event with
  | effect coupleId userId engine =>
    simp only [step, Option.ite_none_right_eq_some, Option.some.injEq] at moved
    obtain ⟨unmounted, rfl⟩ := moved
    exact sound_effect sound unmounted coupleId userId engine
  | cleanup choice =>
    obtain ⟨id, mounted, rfl⟩ := Option.map_eq_some_iff.mp moved
    exact sound_cleanup sound mounted
  | connect id choice =>
    simp only [step, Option.ite_none_right_eq_some, Option.some.injEq] at moved
    obtain ⟨_, rfl⟩ := moved
    exact sound_opened sound
  | disconnect id choice =>
    simp only [step, Option.ite_none_right_eq_some, Option.some.injEq] at moved
    obtain ⟨_, rfl⟩ := moved
    exact sound_closed sound (Or.inl rfl)
  | connectError id choice =>
    simp only [step, Option.ite_none_right_eq_some, Option.some.injEq] at moved
    obtain ⟨_, rfl⟩ := moved
    exact sound_closed sound (Or.inr rfl)
  | chat id name choice =>
    obtain rfl := Option.some.inj moved
    exact sound_chat sound name
  | engine id name choice =>
    obtain rfl := Option.some.inj moved
    exact sound_engine sound name
  | timer timer =>
    simp only [step, Option.ite_none_right_eq_some, Option.some.injEq] at moved
    obtain ⟨waits, rfl⟩ := moved
    exact sound_timeout sound waits
  | healthcheck interval choice =>
    simp only [step, Option.ite_none_right_eq_some, Option.some.injEq] at moved
    obtain ⟨runs, rfl⟩ := moved
    exact sound_healthcheck sound runs
  | append =>
    obtain rfl := Option.some.inj moved
    exact { sound with }
  | pass ms =>
    obtain rfl := Option.some.inj moved
    exact { sound with }

theorem one_timer_of_wired (wired : Wired y) : OneTimer y := by
  refine ⟨?_, wired.delays⟩
  have count := congrArg List.length wired.timer
  rw [List.length_map] at count
  rw [count]
  cases y.reconnectTimeoutRef <;> simp

theorem never_stuck_of_sound (sound : Sound y) : NeverStuck y := by
  intro id mounted closed
  obtain ⟨ref, waits⟩ := Option.isSome_iff_exists.mp (sound.waits id mounted closed)
  have listed := sound.timer
  rw [waits, Option.toList_some, List.map_eq_singleton_iff] at listed
  obtain ⟨timer, only, _⟩ := listed
  refine ⟨timer, only, ?_⟩
  have pending : timer.id ∈ y.timers.map Timer.id := by simp [only]
  obtain ⟨current, now_mounted, connects⟩ := timeout_eq sound.toWired pending
  obtain rfl : id = current := Option.some.inj (mounted.symm.trans now_mounted)
  rw [connects, status_connect, if_pos closed]

theorem cleaned_up_of_wired (wired : Wired y) : CleanedUp y := by
  refine ⟨?_, wired.left⟩
  intro unmounted
  obtain ⟨no_timer, no_interval⟩ := wired.idle unmounted
  have timers := wired.timer
  have intervals := wired.interval
  rw [no_timer] at timers
  rw [no_interval] at intervals
  exact ⟨List.map_eq_nil_iff.mp timers, intervals⟩

end Handlers

def sampleChoice : Choice := ⟨⟨1 / 2, by norm_num, by norm_num⟩, true⟩

/-- An error while the socket is connected sets the timer that a later disconnection needs. -/
example : (run step initial [.effect (js "couple") (js "me") true, .connect 0 sampleChoice,
    .chat 0 .error sampleChoice, .disconnect 0 sampleChoice, .timer 0]).map
      (fun y => ((y.sockets 0).status, y.timers.length)) = some (.connecting, 0) := by decide

end Reconnection
