import Linkly.ChatGateway
import Linkly.Tallies
import Mathlib.Logic.Function.Basic

/-!
The heartbeats of ChatGateway and its books on disconnections, for any order of handshakes,
messages, ticks and events of socket.io. `handled`, `timedOut` and `touches` are no part of the
gateway: they record which disconnections it has handled and for which reason it has counted them,
which clients a tick has disconnected, and when a client was heard of.
-/
namespace GatewayHeartbeat
open ChatGateway ChatService JsText TransitionRuns Tallies

/-- `disconnecting` fires before `disconnect`, once each. -/
inductive Phase where
  | connected
  | disconnecting
  | disconnected
  deriving DecidableEq, Repr

structure Client where
  phase : Phase
  handshake : Handshake
  data : Option SocketData
  lastSeenAtMs : Option Nat

structure Gateway where
  now : Nat
  clients : Nat → Option Client
  nextClient : Nat
  nextTimer : Nat
  /-- The intervals that run, each with the client that its callback captures. -/
  intervals : List (Nat × Nat)
  heartbeatTimers : AList fun _ : Nat => Nat
  disconnectReasons : AList fun _ : Nat => String
  disconnectReasonOverrides : AList fun _ : Nat => String
  disconnectMetrics : Tally String
  handled : List (Nat × String)
  timedOut : List Nat
  touches : List (Nat × Nat)

def initial : Gateway := ⟨0, fun _ => none, 0, 0, [], ∅, ∅, ∅, ∅, [], [], []⟩

def setClient (s : Gateway) (id : Nat) (client : Client) : Gateway :=
  { s with clients := Function.update s.clients id (some client) }

def touchHeartbeat (s : Gateway) (id : Nat) (client : Client) : Gateway :=
  { setClient s id { client with lastSeenAtMs := some s.now } with
    touches := (id, s.now) :: s.touches }

def startHeartbeat (s : Gateway) (id : Nat) : Gateway :=
  { s with
    intervals := (s.nextTimer, id) :: s.intervals
    heartbeatTimers := s.heartbeatTimers.insert id s.nextTimer
    nextTimer := s.nextTimer + 1 }

def stopHeartbeat (s : Gateway) (id : Nat) : Gateway :=
  { s with
    intervals := match s.heartbeatTimers.lookup id with
      | some timer => s.intervals.filter (·.1 ≠ timer)
      | none => s.intervals
    heartbeatTimers := s.heartbeatTimers.erase id }

/-- A handshake that is not accepted ends in a disconnection that nobody listens for. -/
def handleConnection (verify : JsString → Option JsString) (s : Gateway) (handshake : Handshake) :
    Gateway :=
  let id := s.nextClient
  let arrived := { s with nextClient := id + 1 }
  match accepts verify handshake with
  | none => setClient arrived id ⟨.disconnecting, handshake, none, none⟩
  | some (data, _) =>
    startHeartbeat (touchHeartbeat arrived id ⟨.connected, handshake, some data, none⟩) id

def handleDisconnect (s : Gateway) (id : Nat) : Gateway :=
  let reason := (s.disconnectReasonOverrides.lookup id).getD
    ((s.disconnectReasons.lookup id).getD "unknown")
  { stopHeartbeat s id with
    disconnectMetrics := bump reason s.disconnectMetrics
    disconnectReasons := s.disconnectReasons.erase id
    disconnectReasonOverrides := s.disconnectReasonOverrides.erase id
    handled := (id, reason) :: s.handled }

/-- The listener for `disconnecting`, which only accepted clients have. -/
def noteReason (s : Gateway) (id : Nat) (client : Client) (reason : Option String) : Gateway :=
  if client.data.isSome then
    { s with disconnectReasons := s.disconnectReasons.insert id (reason.getD "unknown") }
  else s

/-- The callback of an interval. The disconnection that it asks for fires its events later. -/
def heartbeat (timeoutMs : Nat) (s : Gateway) (id : Nat) (client : Client) : Gateway :=
  if s.now - client.lastSeenAtMs.getD s.now > timeoutMs then
    { stopHeartbeat s id with
      disconnectReasonOverrides := s.disconnectReasonOverrides.insert id "heartbeat-timeout"
      timedOut := id :: s.timedOut }
  else s

/-- A payload that does not match its connection is refused before the client counts as seen. -/
def sendAccepted (client : Client) (payload : ChatSendDto) : Bool :=
  match client.data with
  | none => true
  | some data => (ensurePayloadMatchesClient payload data).isOk

inductive Event where
  | connect (handshake : Handshake)
  | ping (id : Nat)
  | pong (id : Nat)
  | send (id : Nat) (payload : ChatSendDto)
  | sync (id : Nat)
  | tick (timer : Nat)
  | disconnecting (id : Nat) (reason : Option String)
  | disconnect (id : Nat)
  | pass (ms : Nat)

/-- Messages may be handled after their client has gone, since pipes run before the handlers. -/
def step (verify : JsString → Option JsString) (timeoutMs : Nat) (s : Gateway) :
    Event → Option Gateway
  | .connect handshake => some (handleConnection verify s handshake)
  | .ping id | .pong id | .sync id => (s.clients id).map (touchHeartbeat s id)
  | .send id payload => (s.clients id).map fun client =>
    if sendAccepted client payload then touchHeartbeat s id client else s
  | .tick timer => do
    let id ← s.intervals.lookup timer
    let client ← s.clients id
    return heartbeat timeoutMs s id client
  | .disconnecting id reason => do
    let client ← s.clients id
    if client.phase = .connected then
      return setClient (noteReason s id client reason) id { client with phase := .disconnecting }
    else none
  | .disconnect id => do
    let client ← s.clients id
    if client.phase = .disconnecting then
      return handleDisconnect (setClient s id { client with phase := .disconnected }) id
    else none
  | .pass ms => some { s with now := s.now + ms }

/-- Only a client that is connected, after a handshake that was accepted, has a heartbeat. -/
def TimersBelong (verify : JsString → Option JsString) (s : Gateway) : Prop :=
  ∀ id ∈ s.heartbeatTimers, ∃ client, s.clients id = some client ∧
    client.phase ≠ .disconnected ∧ (accepts verify client.handshake).isSome = true

def ReasonsForgotten (s : Gateway) : Prop :=
  ∀ entry ∈ s.handled, entry.1 ∉ s.disconnectReasons ∧ entry.1 ∉ s.disconnectReasonOverrides

/-- Every handled disconnection is counted once, under its reason, and as a heartbeat timeout if a
    tick has asked for it. -/
structure Counted (s : Gateway) : Prop where
  total : total s.disconnectMetrics = s.handled.length
  reasons : ∀ reason, (s.disconnectMetrics.lookup reason).getD 0 =
    (s.handled.filter (·.2 = reason)).length
  timeouts : ∀ entry ∈ s.handled, entry.1 ∈ s.timedOut → entry.2 = "heartbeat-timeout"

/-- The client was heard of within the timeout before a tick of its heartbeat. -/
def HeardBeforeTick (timeoutMs id : Nat) (s : Gateway) : Event → Prop
  | .tick timer => s.intervals.lookup timer = some id →
    ∃ touch ∈ s.touches, touch.1 = id ∧ s.now ≤ touch.2 + timeoutMs
  | _ => True

instance (timeoutMs id : Nat) (s : Gateway) :
    (event : Event) → Decidable (HeardBeforeTick timeoutMs id s event)
  | .tick timer => inferInstanceAs (Decidable (s.intervals.lookup timer = some id →
      ∃ touch ∈ s.touches, touch.1 = id ∧ s.now ≤ touch.2 + timeoutMs))
  | .connect _ | .ping _ | .pong _ | .send .. | .sync _ | .disconnecting .. | .disconnect _
  | .pass _ => .isTrue trivial

/-- What the gateway knows of each client. -/
structure Known (verify : JsString → Option JsString) (s : Gateway) : Prop where
  unborn : ∀ id, s.nextClient ≤ id → s.clients id = none
  accepted : ∀ id client, s.clients id = some client →
    (client.data.isSome = true ↔ (accepts verify client.handshake).isSome = true)
  past : ∀ id client, s.clients id = some client →
    ∀ ms, client.lastSeenAtMs = some ms → ms ≤ s.now
  seen : ∀ touch ∈ s.touches, ∃ client, s.clients touch.1 = some client ∧
    ∃ lastSeenMs, client.lastSeenAtMs = some lastSeenMs ∧ touch.2 ≤ lastSeenMs

/-- What holds between any two events. -/
structure Sound (verify : JsString → Option JsString) (s : Gateway) : Prop
    extends Known verify s where
  intervals : ∀ interval ∈ s.intervals,
    s.heartbeatTimers.lookup interval.2 = some interval.1
  timers : ∀ id ∈ s.heartbeatTimers, ∃ client, s.clients id = some client ∧
    client.phase ≠ .disconnected ∧ client.data.isSome = true
  pending : ∀ id, id ∈ s.disconnectReasons ∨ id ∈ s.disconnectReasonOverrides →
    ∃ client, s.clients id = some client ∧ client.phase ≠ .disconnected
  handled : ∀ entry ∈ s.handled, ∃ client, s.clients entry.1 = some client ∧
    client.phase = .disconnected
  timedOut : ∀ id ∈ s.timedOut, ∃ client, s.clients id = some client ∧
    (client.phase ≠ .disconnected →
      s.disconnectReasonOverrides.lookup id = some "heartbeat-timeout")
  counted : Counted s

section Operations
variable {verify : JsString → Option JsString} {s : Gateway} {id : Nat} {client : Client}

theorem sound_initial : Sound verify initial := by
  refine ⟨⟨?_, ?_, ?_, ?_⟩, ?_, ?_, ?_, ?_, ?_, rfl, ?_, ?_⟩ <;> simp [initial]

/-- The counts look at the metrics, the handled disconnections and the timeouts only. -/
theorem counted_same {t : Gateway} (counted : Counted s)
    (metrics : t.disconnectMetrics = s.disconnectMetrics) (handled : t.handled = s.handled)
    (timedOut : t.timedOut = s.timedOut) : Counted t where
  total := by rw [metrics, handled, counted.total]
  reasons reason := by rw [metrics, handled, counted.reasons reason]
  timeouts := by
    rw [handled, timedOut]
    exact counted.timeouts

/-- A client may change as long as it keeps what it is and when it was seen, or is seen now. -/
structure Follows (now : Nat) (client next : Client) : Prop where
  handshake : next.handshake = client.handshake
  data : next.data = client.data
  seen : next.lastSeenAtMs = client.lastSeenAtMs ∨ next.lastSeenAtMs = some now

theorem clients_set_client (s : Gateway) (id : Nat) (next : Client) (other : Nat) :
    (setClient s id next).clients other = if other = id then some next else s.clients other :=
  Function.update_apply ..

/-- What is known of a client is known of it after a change that keeps it. -/
theorem client_kept {P : Client → Prop} {next : Client} (found : s.clients id = some client)
    (keeps : P client → P next) {other : Nat} (known : ∃ c, s.clients other = some c ∧ P c) :
    ∃ c, (setClient s id next).clients other = some c ∧ P c := by
  obtain ⟨c, found_c, holds⟩ := known
  rw [clients_set_client]
  by_cases same : other = id
  · subst same
    rw [if_pos rfl]
    rw [found, Option.some.injEq] at found_c
    exact ⟨next, rfl, keeps (found_c ▸ holds)⟩
  · rw [if_neg same]
    exact ⟨c, found_c, holds⟩

theorem known_set_client {next : Client} (known : Known verify s)
    (found : s.clients id = some client) (follows : Follows s.now client next) :
    Known verify (setClient s id next) where
  unborn other late := by
    rw [clients_set_client, if_neg]
    · exact known.unborn other late
    · rintro rfl
      rw [known.unborn other late] at found
      simp at found
  accepted other c found_c := by
    rw [clients_set_client] at found_c
    split_ifs at found_c
    · obtain rfl := Option.some.inj found_c
      rw [follows.data, follows.handshake]
      exact known.accepted id client found
    · exact known.accepted other c found_c
  past other c found_c ms at_ms := by
    rw [clients_set_client] at found_c
    split_ifs at found_c
    · obtain rfl := Option.some.inj found_c
      rcases follows.seen with kept | now
      · exact known.past id client found ms (kept ▸ at_ms)
      · exact (Option.some.inj (now.symm.trans at_ms)).ge
    · exact known.past other c found_c ms at_ms
  seen touch mem := by
    refine client_kept found ?_ (known.seen touch mem)
    rintro ⟨lastSeenMs, at_last, late⟩
    rcases follows.seen with kept | now
    · exact ⟨lastSeenMs, kept ▸ at_last, late⟩
    · exact ⟨s.now, now, late.trans (known.past id client found lastSeenMs at_last)⟩

theorem sound_set_client {next : Client} (sound : Sound verify s)
    (found : s.clients id = some client) (follows : Follows s.now client next)
    (same : next.phase = .disconnected ↔ client.phase = .disconnected) :
    Sound verify (setClient s id next) where
  toKnown := known_set_client sound.toKnown found follows
  intervals := sound.intervals
  timers other mem := by
    refine client_kept found ?_ (sound.timers other mem)
    rintro ⟨open_phase, known⟩
    exact ⟨fun closed => open_phase (same.mp closed), follows.data ▸ known⟩
  pending other mem :=
    client_kept found (fun open_phase closed => open_phase (same.mp closed))
      (sound.pending other mem)
  handled entry mem := client_kept found same.mpr (sound.handled entry mem)
  timedOut other mem :=
    client_kept found (fun noted open_phase => noted fun closed => open_phase (same.mpr closed))
      (sound.timedOut other mem)
  counted := counted_same sound.counted rfl rfl rfl

theorem sound_touch (sound : Sound verify s) (found : s.clients id = some client) :
    Sound verify (touchHeartbeat s id client) := by
  have kept := sound_set_client sound found
    (⟨rfl, rfl, Or.inr rfl⟩ : Follows s.now client { client with lastSeenAtMs := some s.now })
    Iff.rfl
  have now : (touchHeartbeat s id client).clients id =
      some { client with lastSeenAtMs := some s.now } := (clients_set_client ..).trans (if_pos rfl)
  refine { kept with
    seen := ?_
    counted := counted_same kept.counted rfl rfl rfl }
  intro touch mem
  rcases List.mem_cons.mp mem with rfl | old
  · exact ⟨_, now, s.now, rfl, le_rfl⟩
  · exact kept.seen touch old

theorem timer_of_interval (sound : Sound verify s) {timer : Nat}
    (runs : s.intervals.lookup timer = some id) :
    s.heartbeatTimers.lookup id = some timer ∧ ∃ client, s.clients id = some client ∧
      client.phase ≠ .disconnected ∧ client.data.isSome = true := by
  obtain ⟨front, back, whole, _⟩ := List.lookup_eq_some_iff.mp runs
  have listed : (timer, id) ∈ s.intervals := by
    rw [whole]
    simp
  have entry := sound.intervals (timer, id) listed
  exact ⟨entry, sound.timers id (AList.lookup_isSome.mp (by rw [entry]; rfl))⟩

theorem sound_stop (sound : Sound verify s) (id : Nat) : Sound verify (stopHeartbeat s id) := by
  refine { sound with
    intervals := ?_
    timers := fun other mem => sound.timers other (AList.mem_erase.mp mem).2
    counted := counted_same sound.counted rfl rfl rfl }
  intro interval mem
  have listed : interval ∈ s.intervals ∧ s.heartbeatTimers.lookup id ≠ some interval.1 := by
    simp only [stopHeartbeat] at mem
    split at mem
    · rename_i timer entry
      have kept := List.mem_filter.mp mem
      refine ⟨kept.1, ?_⟩
      rw [entry]
      intro same
      simp [Option.some.inj same] at kept
    · rename_i entry
      exact ⟨mem, by simp [entry]⟩
  have entry := sound.intervals interval listed.1
  have other : interval.2 ≠ id := by
    intro same
    exact listed.2 (same ▸ entry)
  exact (AList.lookup_erase_ne other).trans entry

theorem sound_note (sound : Sound verify s) (found : s.clients id = some client)
    (open_phase : client.phase ≠ .disconnected) (reason : Option String) :
    Sound verify (noteReason s id client reason) := by
  unfold noteReason
  split
  · refine { sound with
      pending := ?_
      counted := counted_same sound.counted rfl rfl rfl }
    intro other mem
    rcases mem with noted | overridden
    · rcases (AList.mem_insert _).mp noted with rfl | old
      · exact ⟨client, found, open_phase⟩
      · exact sound.pending other (Or.inl old)
    · exact sound.pending other (Or.inr overridden)
  · exact sound

theorem sound_heartbeat (sound : Sound verify s) {timer timeoutMs : Nat}
    (runs : s.intervals.lookup timer = some id) (found : s.clients id = some client) :
    Sound verify (heartbeat timeoutMs s id client) := by
  obtain ⟨_, c, found_c, open_phase, _⟩ := timer_of_interval sound runs
  obtain rfl : c = client := Option.some.inj (found_c.symm.trans found)
  unfold heartbeat
  split
  · refine { sound_stop sound id with
      pending := ?_
      timedOut := ?_
      counted := ⟨sound.counted.total, sound.counted.reasons, ?_⟩ }
    · intro other mem
      rcases mem with noted | overridden
      · exact sound.pending other (Or.inl noted)
      · rcases (AList.mem_insert _).mp overridden with rfl | old
        · exact ⟨c, found, open_phase⟩
        · exact sound.pending other (Or.inr old)
    · intro other mem
      by_cases same : other = id
      · subst same
        exact ⟨c, found, fun _ => AList.lookup_insert _⟩
      · rcases List.mem_cons.mp mem with rfl | old
        · exact absurd rfl same
        · obtain ⟨c', found', noted⟩ := sound.timedOut other old
          exact ⟨c', found', fun opened => (AList.lookup_insert_ne same).trans (noted opened)⟩
    · intro entry mem timed
      rcases List.mem_cons.mp timed with same | old
      · obtain ⟨c', found', closed⟩ := sound.handled entry mem
        rw [same, found, Option.some.injEq] at found'
        exact absurd (found' ▸ closed) open_phase
      · exact sound.counted.timeouts entry mem old
  · exact sound

theorem clients_set_other {next : Client} {other : Nat} (differs : other ≠ id) :
    (setClient s id next).clients other = s.clients other := by
  rw [clients_set_client, if_neg differs]

/-- The disconnection is counted under the reason of the override, if there is one. -/
theorem counted_disconnect (sound : Sound verify s) (found : s.clients id = some client)
    (open_phase : client.phase ≠ .disconnected) (next : Client) :
    Counted (handleDisconnect (setClient s id next) id) where
  total := (total_bump _ _).trans (congrArg (· + 1) sound.counted.total)
  reasons reason := by
    have before := sound.counted.reasons reason
    simp only [handleDisconnect, stopHeartbeat, setClient, lookup_bump, List.filter_cons,
      decide_eq_true_eq, before]
    split_ifs with same own own
    · rfl
    · exact absurd same.symm own
    · exact absurd own.symm same
    · rfl
  timeouts entry mem timed := by
    rcases List.mem_cons.mp mem with rfl | old
    · obtain ⟨c, found_c, noted⟩ := sound.timedOut id timed
      rw [found, Option.some.injEq] at found_c
      have override := noted (found_c ▸ open_phase)
      simp only [setClient, override, Option.getD_some]
    · exact sound.counted.timeouts entry old timed

/-- The socket of a client has fired `disconnect`, and the gateway forgets the client. -/
theorem sound_disconnect (sound : Sound verify s) (found : s.clients id = some client)
    (open_phase : client.phase ≠ .disconnected) :
    Sound verify (handleDisconnect (setClient s id { client with phase := .disconnected }) id) := by
  have others : ∀ {P : Client → Prop} {other : Nat}, other ≠ id →
      (∃ c, s.clients other = some c ∧ P c) →
      ∃ c, (setClient s id { client with phase := .disconnected }).clients other = some c ∧
        P c := by
    intro P other differs known
    rwa [clients_set_other differs]
  have known := known_set_client sound.toKnown found
    (⟨rfl, rfl, Or.inl rfl⟩ : Follows s.now client { client with phase := .disconnected })
  have gone : (setClient s id { client with phase := .disconnected }).clients id =
      some { client with phase := .disconnected } := by
    rw [clients_set_client, if_pos rfl]
  refine ⟨⟨known.unborn, known.accepted, known.past, known.seen⟩, (sound_stop sound id).intervals,
    ?_, ?_, ?_, ?_, counted_disconnect sound found open_phase _⟩
  · intro other mem
    obtain ⟨differs, old⟩ := AList.mem_erase.mp mem
    exact others differs (sound.timers other old)
  · intro other mem
    rcases mem with noted | overridden
    · obtain ⟨differs, old⟩ := AList.mem_erase.mp noted
      exact others differs (sound.pending other (Or.inl old))
    · obtain ⟨differs, old⟩ := AList.mem_erase.mp overridden
      exact others differs (sound.pending other (Or.inr old))
  · intro entry mem
    by_cases same : entry.1 = id
    · rw [same]
      exact ⟨_, gone, rfl⟩
    · rcases List.mem_cons.mp mem with rfl | old
      · exact absurd rfl same
      · exact others same (sound.handled entry old)
  · intro other mem
    by_cases same : other = id
    · rw [same]
      exact ⟨_, gone, fun opened => absurd rfl opened⟩
    · obtain ⟨c, found_c, noted⟩ := others same (sound.timedOut other mem)
      exact ⟨c, found_c, fun opened => (AList.lookup_erase_ne same).trans (noted opened)⟩

theorem sound_start (sound : Sound verify s) (found : s.clients id = some client)
    (open_phase : client.phase ≠ .disconnected) (known : client.data.isSome = true)
    (without : id ∉ s.heartbeatTimers) : Sound verify (startHeartbeat s id) := by
  refine { sound with
    intervals := ?_
    timers := ?_
    counted := counted_same sound.counted rfl rfl rfl }
  · intro interval mem
    rcases List.mem_cons.mp mem with rfl | old
    · exact AList.lookup_insert _
    · have entry := sound.intervals interval old
      have differs : interval.2 ≠ id := by
        intro same
        exact without (same ▸ AList.lookup_isSome.mp (by rw [entry]; rfl))
      exact (AList.lookup_insert_ne differs).trans entry
  · intro other mem
    rcases (AList.mem_insert _).mp mem with rfl | old
    · exact ⟨client, found, open_phase, known⟩
    · exact sound.timers other old

theorem sound_arrive (sound : Sound verify s)
    (judged : client.data.isSome = true ↔ (accepts verify client.handshake).isSome = true)
    (unseen : client.lastSeenAtMs = none) :
    Sound verify (setClient { s with nextClient := s.nextClient + 1 } s.nextClient client) := by
  have old_client : ∀ {P : Client → Prop} {other : Nat}, (∃ c, s.clients other = some c ∧ P c) →
      ∃ c, (setClient { s with nextClient := s.nextClient + 1 } s.nextClient client).clients other =
        some c ∧ P c := by
    rintro P other ⟨c, found, holds⟩
    have differs : other ≠ s.nextClient := by
      rintro rfl
      rw [sound.unborn _ le_rfl] at found
      simp at found
    exact ⟨c, (clients_set_other differs).trans found, holds⟩
  refine ⟨⟨?_, ?_, ?_, ?_⟩, sound.intervals, ?_, ?_, ?_, ?_,
    counted_same sound.counted rfl rfl rfl⟩
  · intro other late
    have later : s.nextClient + 1 ≤ other := late
    exact (clients_set_other (by omega)).trans (sound.unborn other (by omega))
  · intro other c found
    rw [clients_set_client] at found
    split_ifs at found
    · exact Option.some.inj found ▸ judged
    · exact sound.accepted other c found
  · intro other c found ms at_ms
    rw [clients_set_client] at found
    split_ifs at found
    · rw [← Option.some.inj found, unseen] at at_ms
      simp at at_ms
    · exact sound.past other c found ms at_ms
  · exact fun touch mem => old_client (sound.seen touch mem)
  · exact fun other mem => old_client (sound.timers other mem)
  · exact fun other mem => old_client (sound.pending other mem)
  · exact fun entry mem => old_client (sound.handled entry mem)
  · exact fun other mem => old_client (sound.timedOut other mem)

theorem sound_connect (sound : Sound verify s) (handshake : Handshake) :
    Sound verify (handleConnection verify s handshake) := by
  cases judged : accepts verify handshake with
  | none =>
    simp only [handleConnection, judged]
    exact sound_arrive sound (by simp [judged]) rfl
  | some accepted =>
    obtain ⟨data, token⟩ := accepted
    simp only [handleConnection, judged]
    have arrived : Sound verify (setClient { s with nextClient := s.nextClient + 1 } s.nextClient
        ⟨.connected, handshake, some data, none⟩) := sound_arrive sound (by simp [judged]) rfl
    have found : (setClient { s with nextClient := s.nextClient + 1 } s.nextClient
        ⟨.connected, handshake, some data, none⟩).clients s.nextClient =
        some ⟨.connected, handshake, some data, none⟩ := by
      rw [clients_set_client, if_pos rfl]
    have touched := sound_touch arrived found
    have same_touch : touchHeartbeat (setClient { s with nextClient := s.nextClient + 1 }
          s.nextClient ⟨.connected, handshake, some data, none⟩) s.nextClient
          ⟨.connected, handshake, some data, none⟩ =
        touchHeartbeat { s with nextClient := s.nextClient + 1 } s.nextClient
          ⟨.connected, handshake, some data, none⟩ := by
      simp only [touchHeartbeat, setClient, Function.update_idem]
    rw [same_touch] at touched
    have without : s.nextClient ∉ s.heartbeatTimers := by
      intro mem
      obtain ⟨c, found_c, _⟩ := sound.timers _ mem
      rw [sound.unborn _ le_rfl] at found_c
      simp at found_c
    exact sound_start touched ((clients_set_client ..).trans (if_pos rfl)) (by simp) rfl without

theorem sound_step (timeoutMs : Nat) (event : Event) {next : Gateway}
    (moved : step verify timeoutMs s event = some next) (sound : Sound verify s) :
    Sound verify next := by
  have touched : ∀ {id : Nat}, (s.clients id).map (touchHeartbeat s id) = some next →
      Sound verify next := by
    intro id mapped
    obtain ⟨client, found, rfl⟩ := Option.map_eq_some_iff.mp mapped
    exact sound_touch sound found
  cases event with
  | connect handshake =>
    obtain rfl := Option.some.inj moved
    exact sound_connect sound handshake
  | ping id => exact touched moved
  | pong id => exact touched moved
  | sync id => exact touched moved
  | send id payload =>
    obtain ⟨client, found, rfl⟩ := Option.map_eq_some_iff.mp moved
    split
    · exact sound_touch sound found
    · exact sound
  | tick timer =>
    obtain ⟨id, runs, called⟩ := Option.bind_eq_some_iff.mp moved
    obtain ⟨client, found, fired⟩ := Option.bind_eq_some_iff.mp called
    obtain rfl := Option.some.inj fired
    exact sound_heartbeat sound runs found
  | disconnecting id reason =>
    obtain ⟨client, found, fired⟩ := Option.bind_eq_some_iff.mp moved
    split_ifs at fired with connected
    obtain rfl := Option.some.inj fired
    have noted := sound_note sound found (by simp [connected]) reason
    have still : (noteReason s id client reason).clients id = some client := by
      unfold noteReason
      split <;> exact found
    exact sound_set_client noted still ⟨rfl, rfl, Or.inl rfl⟩ (by simp [connected])
  | disconnect id =>
    obtain ⟨client, found, fired⟩ := Option.bind_eq_some_iff.mp moved
    split_ifs at fired with leaving
    obtain rfl := Option.some.inj fired
    exact sound_disconnect sound found (by simp [leaving])
  | pass ms =>
    obtain rfl := Option.some.inj moved
    exact { sound with
      past := fun id client found at_ms seen =>
        (sound.past id client found at_ms seen).trans (Nat.le_add_right ..)
      counted := counted_same sound.counted rfl rfl rfl }

/-- A tick that comes within the timeout after its client was heard of changes nothing. -/
theorem heartbeat_heard (sound : Sound verify s) {timeoutMs : Nat} {touch : Nat × Nat}
    (mem : touch ∈ s.touches) (own : touch.1 = id) (recent : s.now ≤ touch.2 + timeoutMs)
    (found : s.clients id = some client) : heartbeat timeoutMs s id client = s := by
  subst own
  obtain ⟨c, found_c, lastSeenMs, at_last, late⟩ := sound.seen touch mem
  obtain rfl : c = client := Option.some.inj (found_c.symm.trans found)
  have in_time : ¬ s.now - c.lastSeenAtMs.getD s.now > timeoutMs := by
    rw [at_last, Option.getD_some]
    omega
  rw [heartbeat, if_neg in_time]

theorem timed_out_start (s : Gateway) (handshake : Handshake) :
    (handleConnection verify s handshake).timedOut = s.timedOut := by
  unfold handleConnection
  split <;> rfl

theorem timed_out_note (reason : Option String) :
    (noteReason s id client reason).timedOut = s.timedOut := by
  unfold noteReason
  split <;> rfl

/-- Only a tick counts a client as timed out. -/
theorem timed_out_step {timeoutMs : Nat} {event : Event} {next : Gateway}
    (moved : step verify timeoutMs s event = some next)
    (heard : HeardBeforeTick timeoutMs id s event)
    (sound : Sound verify s) (spared : id ∉ s.timedOut) : id ∉ next.timedOut := by
  cases event with
  | connect handshake =>
    obtain rfl := Option.some.inj moved
    rwa [timed_out_start]
  | ping other | pong other | sync other =>
    obtain ⟨client, _, rfl⟩ := Option.map_eq_some_iff.mp moved
    exact spared
  | send other payload =>
    obtain ⟨client, _, rfl⟩ := Option.map_eq_some_iff.mp moved
    split <;> exact spared
  | tick timer =>
    obtain ⟨other, runs, called⟩ := Option.bind_eq_some_iff.mp moved
    obtain ⟨client, found, fired⟩ := Option.bind_eq_some_iff.mp called
    obtain rfl := Option.some.inj fired
    by_cases same : other = id
    · subst same
      obtain ⟨touch, mem, own, recent⟩ := heard runs
      rwa [heartbeat_heard sound mem own recent found]
    · unfold heartbeat
      split
      · simp [Ne.symm same, spared]
      · exact spared
  | disconnecting other reason =>
    obtain ⟨client, found, fired⟩ := Option.bind_eq_some_iff.mp moved
    split_ifs at fired
    obtain rfl := Option.some.inj fired
    have kept : (noteReason s other client reason).timedOut = s.timedOut := timed_out_note reason
    rw [← kept] at spared
    exact spared
  | disconnect other =>
    obtain ⟨client, found, fired⟩ := Option.bind_eq_some_iff.mp moved
    split_ifs at fired
    obtain rfl := Option.some.inj fired
    exact spared
  | pass ms =>
    obtain rfl := Option.some.inj moved
    exact spared

theorem timers_belong_of_sound (sound : Sound verify s) : TimersBelong verify s := by
  intro id mem
  obtain ⟨client, found, open_phase, known⟩ := sound.timers id mem
  exact ⟨client, found, open_phase, (sound.accepted id client found).mp known⟩

theorem reasons_forgotten_of_sound (sound : Sound verify s) : ReasonsForgotten s := by
  intro entry mem
  have gone : ¬ (entry.1 ∈ s.disconnectReasons ∨ entry.1 ∈ s.disconnectReasonOverrides) := by
    intro noted
    obtain ⟨client, found, closed⟩ := sound.handled entry mem
    obtain ⟨c, found_c, open_phase⟩ := sound.pending entry.1 noted
    rw [found, Option.some.injEq] at found_c
    exact open_phase (found_c ▸ closed)
  exact not_or.mp gone

end Operations

theorem heartbeat_books_sound (verify : JsString → Option JsString) (timeoutMs : Nat)
    (events : List Event) :
    EveryState (step verify timeoutMs)
        (fun s => TimersBelong verify s ∧ ReasonsForgotten s ∧ Counted s) initial events ∧
      ∀ id, EachStep (step verify timeoutMs) (HeardBeforeTick timeoutMs id) initial events →
        EveryState (step verify timeoutMs) (fun s => id ∉ s.timedOut) initial events := by
  constructor
  · refine every_state_of_invariant (Sound verify) ?_ ?_ sound_initial
    · exact fun s event next moved sound => sound_step timeoutMs event moved sound
    · exact fun s sound =>
        ⟨timers_belong_of_sound sound, reasons_forgotten_of_sound sound, sound.counted⟩
  · intro id heard
    refine every_state_of_guarded (fun s => Sound verify s ∧ id ∉ s.timedOut) ?_ ?_ heard ?_
    · intro s event next moved met kept
      exact ⟨sound_step timeoutMs event moved kept.1, timed_out_step moved met kept.1 kept.2⟩
    · exact fun s kept => kept.2
    · exact ⟨sound_initial, List.not_mem_nil⟩

def sampleVerify (token : JsString) : Option JsString :=
  if token = js "bob-token" then some (js "bob") else none

def sampleHandshake (token : String) : Handshake :=
  ⟨⟨.string (js "couple"), .string (js "bob"), .string (js token)⟩,
    ⟨.undefined, .undefined, .undefined⟩⟩

/-- The first client sends a ping before its tick, the second one does not, and the third one is
    rejected. -/
def sampleEvents : List Event :=
  [.connect (sampleHandshake "bob-token"), .connect (sampleHandshake "bob-token"),
    .connect (sampleHandshake "other-token"), .pass 40, .ping 0, .pass 30, .tick 0, .tick 1,
    .disconnecting 1 (some "server namespace disconnect"), .disconnect 1, .disconnect 2]

theorem heard_client_stays :
    EveryState (step sampleVerify 60) (fun s => 0 ∉ s.timedOut) initial sampleEvents :=
  (heartbeat_books_sound sampleVerify 60 sampleEvents).2 0 (by decide)

example : (run (step sampleVerify 60) initial sampleEvents).map Gateway.handled =
    some [(2, "unknown"), (1, "heartbeat-timeout")] := by decide

end GatewayHeartbeat
