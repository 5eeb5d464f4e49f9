import Linkly.GatewayHeartbeat
import Linkly.KeyedRows

/-!
How long the gateway keeps a client that is silent. The intervals run on time here: the clock does
not pass the moment at which one of them is due before it has run.
-/
namespace SilentClients
open ChatGateway (Handshake accepts)
open GatewayHeartbeat JsText TransitionRuns KeyedRows

/-- The gateway, with the time at which each interval was set or has run last. -/
structure Watch where
  gateway : Gateway
  fired : Nat → Nat

def Watch.initial : Watch := ⟨GatewayHeartbeat.initial, fun _ => 0⟩

/-- No interval is overdue after the event. -/
def OnTime (intervalMs : Nat) (w : Watch) : Event → Prop
  | .pass ms => ∀ interval ∈ w.gateway.intervals,
    w.gateway.now + ms ≤ w.fired interval.1 + intervalMs
  | _ => True

instance (intervalMs : Nat) (w : Watch) : (event : Event) → Decidable (OnTime intervalMs w event)
  | .pass ms => inferInstanceAs (Decidable (∀ interval ∈ w.gateway.intervals,
      w.gateway.now + ms ≤ w.fired interval.1 + intervalMs))
  | .connect _ | .ping _ | .pong _ | .send .. | .sync _ | .disconnecting .. | .disconnect _
  | .tick _ => .isTrue trivial

def firedAfter (w : Watch) : Event → Nat → Nat
  | .connect _ => Function.update w.fired w.gateway.nextTimer w.gateway.now
  | .tick timer => Function.update w.fired timer w.gateway.now
  | _ => w.fired

def step (verify : JsString → Option JsString) (timeoutMs intervalMs : Nat) (w : Watch)
    (event : Event) : Option Watch :=
  if OnTime intervalMs w event then
    (GatewayHeartbeat.step verify timeoutMs w.gateway event).map (⟨·, firedAfter w event⟩)
  else none

/-- The timers of the book are those of the intervals that run, one for each client. -/
structure Scheduled (s : Gateway) : Prop where
  fresh : ∀ interval ∈ s.intervals, interval.1 < s.nextTimer
  once : (s.intervals.map Prod.fst).Nodup
  held : ∀ id timer, s.heartbeatTimers.lookup id = some timer → (timer, id) ∈ s.intervals

/-- An accepted client that is there is watched, or a tick has disconnected it. -/
structure Attended (s : Gateway) : Prop where
  watched : ∀ id client, s.clients id = some client → client.data.isSome = true →
    client.phase ≠ .disconnected → id ∈ s.timedOut ∨ id ∈ s.heartbeatTimers
  touched : ∀ id client ms, s.clients id = some client → client.lastSeenAtMs = some ms →
    (id, ms) ∈ s.touches

/-- When an interval ran last its client had been heard of within the timeout. -/
def Heard (timeoutMs : Nat) (s : Gateway) (fired : Nat → Nat) : Prop :=
  ∀ interval ∈ s.intervals, ∀ client, s.clients interval.2 = some client →
    ∃ ms, client.lastSeenAtMs = some ms ∧ fired interval.1 ≤ ms + timeoutMs

structure Timely (verify : JsString → Option JsString) (timeoutMs intervalMs : Nat) (w : Watch) :
    Prop where
  sound : Sound verify w.gateway
  scheduled : Scheduled w.gateway
  attended : Attended w.gateway
  heard : Heard timeoutMs w.gateway w.fired
  due : ∀ interval ∈ w.gateway.intervals, w.gateway.now ≤ w.fired interval.1 + intervalMs

section Operations
variable {verify : JsString → Option JsString} {timeoutMs intervalMs : Nat} {s : Gateway}
  {fired : Nat → Nat} {id : Nat} {client : Client}

theorem stop_mem (sound : Sound verify s) {interval : Nat × Nat}
    (mem : interval ∈ (stopHeartbeat s id).intervals) :
    interval ∈ s.intervals ∧ interval.2 ≠ id := by
  simp only [stopHeartbeat] at mem
  cases entry : s.heartbeatTimers.lookup id with
  | none =>
    rw [entry] at mem
    refine ⟨mem, fun same => ?_⟩
    have held := sound.intervals interval mem
    rw [same, entry] at held
    cases held
  | some timer =>
    rw [entry] at mem
    obtain ⟨old, differs⟩ := List.mem_filter.mp mem
    refine ⟨old, fun same => ?_⟩
    have held := sound.intervals interval old
    rw [same, entry] at held
    simp [Option.some.inj held] at differs

theorem scheduled_stop (scheduled : Scheduled s) (sound : Sound verify s) :
    Scheduled (stopHeartbeat s id) where
  fresh interval mem := scheduled.fresh interval (stop_mem sound mem).1
  once := by
    simp only [stopHeartbeat]
    split
    · exact scheduled.once.sublist (List.filter_sublist.map Prod.fst)
    · exact scheduled.once
  held other timer entry := by
    have differs : other ≠ id := by
      rintro rfl
      simp [stopHeartbeat] at entry
    have kept : s.heartbeatTimers.lookup other = some timer :=
      (AList.lookup_erase_ne differs).symm.trans entry
    have listed := scheduled.held other timer kept
    simp only [stopHeartbeat]
    split
    · rename_i gone entry_gone
      refine List.mem_filter.mpr ⟨listed, decide_eq_true fun same => differs ?_⟩
      have same_row := row_unique scheduled.once listed (scheduled.held id gone entry_gone) same
      exact congrArg Prod.snd same_row
    · exact listed

theorem attended_client (next : Client) (attended : Attended s) (found : s.clients id = some client)
    (data : next.data = client.data) (seen : next.lastSeenAtMs = client.lastSeenAtMs)
    (opened : next.phase ≠ .disconnected → client.phase ≠ .disconnected) :
    Attended (setClient s id next) where
  watched other c found_c known open_phase := by
    rw [clients_set_client] at found_c
    split_ifs at found_c with same
    · obtain rfl := Option.some.inj found_c
      subst same
      exact attended.watched other client found (data ▸ known) (opened open_phase)
    · exact attended.watched other c found_c known open_phase
  touched other c ms found_c at_ms := by
    rw [clients_set_client] at found_c
    split_ifs at found_c with same
    · obtain rfl := Option.some.inj found_c
      subst same
      exact attended.touched other client ms found (seen ▸ at_ms)
    · exact attended.touched other c ms found_c at_ms

theorem heard_client (next : Client) (heard : Heard timeoutMs s fired)
    (found : s.clients id = some client) (seen : next.lastSeenAtMs = client.lastSeenAtMs) :
    Heard timeoutMs (setClient s id next) fired := by
  intro interval mem c found_c
  rw [clients_set_client] at found_c
  split_ifs at found_c with same
  · obtain rfl := Option.some.inj found_c
    rw [seen]
    exact heard interval mem client (same ▸ found)
  · exact heard interval mem c found_c

theorem scheduled_touch (scheduled : Scheduled s) : Scheduled (touchHeartbeat s id client) :=
  ⟨scheduled.fresh, scheduled.once, scheduled.held⟩

theorem attended_touch (attended : Attended s) (found : s.clients id = some client) :
    Attended (touchHeartbeat s id client) where
  watched other c found_c known open_phase := by
    rw [touchHeartbeat, clients_set_client] at found_c
    split_ifs at found_c with same
    · obtain rfl := Option.some.inj found_c
      subst same
      exact attended.watched other client found known open_phase
    · exact attended.watched other c found_c known open_phase
  touched other c ms found_c at_ms := by
    rw [touchHeartbeat, clients_set_client] at found_c
    split_ifs at found_c with same
    · obtain rfl := Option.some.inj found_c
      obtain rfl := Option.some.inj at_ms
      subst same
      exact List.mem_cons_self
    · exact List.mem_cons_of_mem _ (attended.touched other c ms found_c at_ms)

theorem heard_touch (heard : Heard timeoutMs s fired) (sound : Sound verify s)
    (found : s.clients id = some client) :
    Heard timeoutMs (touchHeartbeat s id client) fired := by
  intro interval mem c found_c
  rw [touchHeartbeat, clients_set_client] at found_c
  split_ifs at found_c with same
  · obtain rfl := Option.some.inj found_c
    obtain ⟨ms, at_ms, in_time⟩ := heard interval mem client (same ▸ found)
    have past := sound.past id client found ms at_ms
    exact ⟨s.now, rfl, by omega⟩
  · exact heard interval mem c found_c

/-- A client that has not been seen yet. -/
theorem attended_arrive (attended : Attended s) (unseen : client.lastSeenAtMs = none)
    (unknown : client.data = none) :
    Attended (setClient { s with nextClient := s.nextClient + 1 } s.nextClient client) where
  watched other c found_c known open_phase := by
    rw [clients_set_client] at found_c
    split_ifs at found_c
    · obtain rfl := Option.some.inj found_c
      rw [unknown] at known
      cases known
    · exact attended.watched other c found_c known open_phase
  touched other c ms found_c at_ms := by
    rw [clients_set_client] at found_c
    split_ifs at found_c
    · obtain rfl := Option.some.inj found_c
      rw [unseen] at at_ms
      cases at_ms
    · exact attended.touched other c ms found_c at_ms

theorem interval_known (sound : Sound verify s) {interval : Nat × Nat}
    (mem : interval ∈ s.intervals) : interval.2 ≠ s.nextClient := by
  intro same
  have entry := sound.intervals interval mem
  have listed : interval.2 ∈ s.heartbeatTimers := AList.lookup_isSome.mp (by rw [entry]; rfl)
  obtain ⟨c, found, _⟩ := sound.timers _ listed
  rw [same, sound.unborn _ le_rfl] at found
  cases found

/-- A new interval counts as run when it starts, and the others have numbers below its own. -/
theorem fired_older (scheduled : Scheduled s) {interval : Nat × Nat}
    (mem : interval ∈ s.intervals) :
    Function.update fired s.nextTimer s.now interval.1 = fired interval.1 :=
  Function.update_of_ne (scheduled.fresh interval mem).ne _ _

theorem scheduled_start (scheduled : Scheduled s) : Scheduled (startHeartbeat s id) where
  fresh interval mem := by
    rcases List.mem_cons.mp mem with rfl | old
    · exact Nat.lt_succ_self _
    · exact Nat.lt_succ_of_lt (scheduled.fresh interval old)
  once := by
    refine List.nodup_cons.mpr ⟨fun again => ?_, scheduled.once⟩
    obtain ⟨interval, old, same⟩ := List.mem_map.mp again
    exact absurd same (scheduled.fresh interval old).ne
  held other timer entry := by
    by_cases same : other = id
    · subst same
      have own : some s.nextTimer = some timer := (AList.lookup_insert _).symm.trans entry
      rw [← Option.some.inj own]
      exact List.mem_cons_self
    · have kept : s.heartbeatTimers.lookup other = some timer :=
        (AList.lookup_insert_ne same).symm.trans entry
      exact List.mem_cons_of_mem _ (scheduled.held other timer kept)

theorem attended_start (attended : Attended s) :
    Attended (startHeartbeat (touchHeartbeat s id client) id) where
  watched other c found_c known open_phase := by
    by_cases same : other = id
    · exact Or.inr ((AList.mem_insert _).mpr (Or.inl same))
    · rw [startHeartbeat, touchHeartbeat, clients_set_other same] at found_c
      refine (attended.watched other c found_c known open_phase).imp_right fun mem => ?_
      exact (AList.mem_insert _).mpr (Or.inr mem)
  touched other c ms found_c at_ms := by
    rw [startHeartbeat, touchHeartbeat, clients_set_client] at found_c
    split_ifs at found_c with same
    · obtain rfl := Option.some.inj found_c
      obtain rfl := Option.some.inj at_ms
      subst same
      exact List.mem_cons_self
    · exact List.mem_cons_of_mem _ (attended.touched other c ms found_c at_ms)

theorem heard_start (heard : Heard timeoutMs s fired) (scheduled : Scheduled s)
    (new : ∀ interval ∈ s.intervals, interval.2 ≠ id) :
    Heard timeoutMs (startHeartbeat (touchHeartbeat s id client) id)
      (Function.update fired s.nextTimer s.now) := by
  have ran : Function.update fired s.nextTimer s.now s.nextTimer = s.now :=
    Function.update_self ..
  intro interval mem c found_c
  rcases List.mem_cons.mp mem with rfl | old
  · rw [startHeartbeat, touchHeartbeat, clients_set_client, if_pos rfl] at found_c
    obtain rfl := Option.some.inj found_c
    exact ⟨s.now, rfl, (le_of_eq ran).trans (Nat.le_add_right _ _)⟩
  · rw [startHeartbeat, touchHeartbeat, clients_set_other (new interval old)] at found_c
    rw [fired_older scheduled old]
    exact heard interval old c found_c

theorem due_start (scheduled : Scheduled s)
    (due : ∀ interval ∈ s.intervals, s.now ≤ fired interval.1 + intervalMs) :
    ∀ interval ∈ (startHeartbeat s id).intervals,
      s.now ≤ Function.update fired s.nextTimer s.now interval.1 + intervalMs := by
  intro interval mem
  rcases List.mem_cons.mp mem with rfl | old
  · rw [Function.update_self]
    exact Nat.le_add_right _ _
  · rw [fired_older scheduled old]
    exact due interval old

theorem connect_spec (handshake : Handshake) (sound : Sound verify s) (scheduled : Scheduled s)
    (attended : Attended s) (heard : Heard timeoutMs s fired)
    (due : ∀ interval ∈ s.intervals, s.now ≤ fired interval.1 + intervalMs) :
    Scheduled (handleConnection verify s handshake) ∧
      Attended (handleConnection verify s handshake) ∧
      Heard timeoutMs (handleConnection verify s handshake)
        (Function.update fired s.nextTimer s.now) ∧
      ∀ interval ∈ (handleConnection verify s handshake).intervals,
        (handleConnection verify s handshake).now ≤
          Function.update fired s.nextTimer s.now interval.1 + intervalMs := by
  cases judged : accepts verify handshake with
  | none =>
    simp only [handleConnection, judged]
    refine ⟨⟨scheduled.fresh, scheduled.once, scheduled.held⟩,
      attended_arrive attended rfl rfl, ?_, ?_⟩
    · intro interval mem c found_c
      rw [clients_set_other (interval_known sound mem)] at found_c
      rw [fired_older scheduled mem]
      exact heard interval mem c found_c
    · intro interval mem
      rw [fired_older scheduled mem]
      exact due interval mem
  | some accepted =>
    obtain ⟨data, token⟩ := accepted
    simp only [handleConnection, judged]
    let arrived : Gateway := { s with nextClient := s.nextClient + 1 }
    have scheduled_arrived : Scheduled arrived :=
      ⟨scheduled.fresh, scheduled.once, scheduled.held⟩
    have attended_arrived : Attended arrived := ⟨attended.watched, attended.touched⟩
    have heard_arrived : Heard timeoutMs arrived fired := heard
    exact ⟨scheduled_start (scheduled_touch scheduled_arrived), attended_start attended_arrived,
      heard_start heard_arrived scheduled_arrived fun _ => interval_known sound,
      due_start (scheduled_touch scheduled_arrived) due⟩

/-- The interval of a timer belongs to one client. -/
theorem fired_elsewhere {timer : Nat} (scheduled : Scheduled s) (listed : (timer, id) ∈ s.intervals)
    {interval : Nat × Nat} (mem : interval ∈ s.intervals) (other : interval.2 ≠ id) :
    Function.update fired timer s.now interval.1 = fired interval.1 := by
  have differs : interval.1 ≠ timer := fun same =>
    other (congrArg Prod.snd (row_unique scheduled.once mem listed same))
  exact Function.update_of_ne differs _ _

theorem attended_time_out (attended : Attended s) :
    Attended { stopHeartbeat s id with timedOut := id :: s.timedOut } where
  watched other c found_c known open_phase := by
    by_cases same : other = id
    · exact Or.inl (List.mem_cons.mpr (Or.inl same))
    · rcases attended.watched other c found_c known open_phase with timed | mem
      · exact Or.inl (List.mem_cons_of_mem _ timed)
      · exact Or.inr (AList.mem_erase.mpr ⟨same, mem⟩)
  touched := attended.touched

theorem heard_tick {timer : Nat} (scheduled : Scheduled s) (heard : Heard timeoutMs s fired)
    (listed : (timer, id) ∈ s.intervals) (found : s.clients id = some client)
    (in_time : ¬ s.now - client.lastSeenAtMs.getD s.now > timeoutMs) :
    Heard timeoutMs s (Function.update fired timer s.now) := by
  intro interval mem c found_c
  by_cases same : interval.1 = timer
  · obtain rfl : interval = (timer, id) := row_unique scheduled.once mem listed same
    obtain rfl := Option.some.inj (found.symm.trans found_c)
    obtain ⟨ms, at_ms, _⟩ := heard _ mem client found
    rw [at_ms, Option.getD_some] at in_time
    refine ⟨ms, at_ms, ?_⟩
    rw [Function.update_self]
    omega
  · rw [Function.update_of_ne same]
    exact heard interval mem c found_c

theorem tick_spec {timer : Nat} (sound : Sound verify s) (scheduled : Scheduled s)
    (attended : Attended s) (heard : Heard timeoutMs s fired)
    (due : ∀ interval ∈ s.intervals, s.now ≤ fired interval.1 + intervalMs)
    (runs : s.intervals.lookup timer = some id) (found : s.clients id = some client) :
    Scheduled (heartbeat timeoutMs s id client) ∧ Attended (heartbeat timeoutMs s id client) ∧
      Heard timeoutMs (heartbeat timeoutMs s id client) (Function.update fired timer s.now) ∧
      ∀ interval ∈ (heartbeat timeoutMs s id client).intervals,
        (heartbeat timeoutMs s id client).now ≤
          Function.update fired timer s.now interval.1 + intervalMs := by
  obtain ⟨entry, _⟩ := timer_of_interval sound runs
  have listed := scheduled.held id timer entry
  unfold heartbeat
  split
  · obtain ⟨fresh, once, held⟩ := scheduled_stop scheduled sound
    obtain ⟨watched, touched⟩ := attended_time_out attended
    refine ⟨⟨fresh, once, held⟩, ⟨watched, touched⟩, ?_, ?_⟩
    · intro interval mem c found_c
      obtain ⟨old, other⟩ := stop_mem sound mem
      rw [fired_elsewhere scheduled listed old other]
      exact heard interval old c found_c
    · intro interval mem
      obtain ⟨old, other⟩ := stop_mem sound mem
      rw [fired_elsewhere scheduled listed old other]
      exact due interval old
  · rename_i in_time
    refine ⟨scheduled, attended, heard_tick scheduled heard listed found in_time, ?_⟩
    intro interval mem
    by_cases same : interval.1 = timer
    · rw [same, Function.update_self]
      exact Nat.le_add_right _ _
    · rw [Function.update_of_ne same]
      exact due interval mem

theorem note_reason_spec (s : Gateway) (id : Nat) (client : Client) (reason : Option String) :
    ∃ disconnectReasons, noteReason s id client reason = { s with disconnectReasons } := by
  unfold noteReason
  split
  · exact ⟨_, rfl⟩
  · exact ⟨s.disconnectReasons, rfl⟩

/-- The socket of a client has fired `disconnecting`, which leaves its interval running. -/
theorem leaving_timely {reason : Option String} {w : Watch}
    (timely : Timely verify timeoutMs intervalMs w) (found : w.gateway.clients id = some client)
    (connected : client.phase = .connected)
    (sound : Sound verify (setClient (noteReason w.gateway id client reason) id
      { client with phase := .disconnecting })) :
    Timely verify timeoutMs intervalMs
      ⟨setClient (noteReason w.gateway id client reason) id
        { client with phase := .disconnecting }, w.fired⟩ := by
  obtain ⟨_, ⟨fresh, once, held⟩, attended, heard, due⟩ := timely
  have opened : client.phase ≠ .disconnected := by simp [connected]
  obtain ⟨watched, touched⟩ := attended_client { client with phase := .disconnecting }
    attended found rfl rfl fun _ => opened
  have heard_next := heard_client { client with phase := .disconnecting } heard found rfl
  obtain ⟨disconnectReasons, noted⟩ := note_reason_spec w.gateway id client reason
  rw [noted] at sound ⊢
  exact ⟨sound, ⟨fresh, once, held⟩, ⟨watched, touched⟩, heard_next, due⟩

/-- The interval of a client that is gone has stopped, and those of the others run on. -/
theorem disconnected_timely {w : Watch} (timely : Timely verify timeoutMs intervalMs w)
    (found : w.gateway.clients id = some client)
    (sound : Sound verify (handleDisconnect
      (setClient w.gateway id { client with phase := .disconnected }) id)) :
    Timely verify timeoutMs intervalMs ⟨handleDisconnect
      (setClient w.gateway id { client with phase := .disconnected }) id, w.fired⟩ := by
  obtain ⟨before, scheduled, attended, heard, due⟩ := timely
  have stopped : Scheduled (stopHeartbeat w.gateway id) := scheduled_stop scheduled before
  obtain ⟨fresh, once, held⟩ := stopped
  refine ⟨sound, ⟨fresh, once, held⟩, ⟨?_, ?_⟩, ?_, ?_⟩
  · intro other c found_c known open_phase
    by_cases same : other = id
    · rw [handleDisconnect, stopHeartbeat, clients_set_client, if_pos same] at found_c
      rw [← Option.some.inj found_c] at open_phase
      exact absurd rfl open_phase
    · rw [handleDisconnect, stopHeartbeat, clients_set_other same] at found_c
      refine (attended.watched other c found_c known open_phase).imp_right fun mem => ?_
      exact AList.mem_erase.mpr ⟨same, mem⟩
  · intro other c ms found_c at_ms
    rw [handleDisconnect, stopHeartbeat, clients_set_client] at found_c
    split_ifs at found_c with same
    · obtain rfl := Option.some.inj found_c
      exact attended.touched other client ms (same ▸ found) at_ms
    · exact attended.touched other c ms found_c at_ms
  · intro interval mem c found_c
    obtain ⟨old, other⟩ := stop_mem before mem
    rw [handleDisconnect, stopHeartbeat, clients_set_other other] at found_c
    exact heard interval old c found_c
  · exact fun interval mem => due interval (stop_mem before mem).1

theorem timely_step {w z : Watch} {event : Event} (timely : Timely verify timeoutMs intervalMs w)
    (moved : step verify timeoutMs intervalMs w event = some z) :
    Timely verify timeoutMs intervalMs z := by
  obtain ⟨sound, scheduled, attended, heard, due⟩ := timely
  unfold step at moved
  split at moved
  · rename_i on_time
    obtain ⟨next, taken, rfl⟩ := Option.map_eq_some_iff.mp moved
    have sound_next := sound_step timeoutMs event taken sound
    have touched {id : Nat} (mapped : (w.gateway.clients id).map (touchHeartbeat w.gateway id) =
        some next) : Timely verify timeoutMs intervalMs ⟨next, w.fired⟩ := by
      obtain ⟨client, found, rfl⟩ := Option.map_eq_some_iff.mp mapped
      exact ⟨sound_next, scheduled_touch scheduled, attended_touch attended found,
        heard_touch heard sound found, due⟩
    cases event with
    | connect handshake =>
      obtain rfl := Option.some.inj taken
      obtain ⟨scheduled, attended, heard, due⟩ :=
        connect_spec handshake sound scheduled attended heard due
      exact ⟨sound_next, scheduled, attended, heard, due⟩
    | ping id => exact touched taken
    | pong id => exact touched taken
    | sync id => exact touched taken
    | send id payload =>
      obtain ⟨client, found, rfl⟩ := Option.map_eq_some_iff.mp taken
      by_cases accepted : sendAccepted client payload = true
      · exact touched (by rw [found, if_pos accepted]; rfl)
      · simp only [if_neg accepted]
        exact ⟨sound, scheduled, attended, heard, due⟩
    | tick timer =>
      obtain ⟨id, runs, called⟩ := Option.bind_eq_some_iff.mp taken
      obtain ⟨client, found, fired⟩ := Option.bind_eq_some_iff.mp called
      obtain rfl := Option.some.inj fired
      obtain ⟨scheduled, attended, heard, due⟩ :=
        tick_spec sound scheduled attended heard due runs found
      exact ⟨sound_next, scheduled, attended, heard, due⟩
    | disconnecting id reason =>
      obtain ⟨client, found, left⟩ := Option.bind_eq_some_iff.mp taken
      split_ifs at left with connected
      obtain rfl := Option.some.inj left
      exact leaving_timely ⟨sound, scheduled, attended, heard, due⟩ found connected sound_next
    | disconnect id =>
      obtain ⟨client, found, left⟩ := Option.bind_eq_some_iff.mp taken
      split_ifs at left with leaving
      obtain rfl := Option.some.inj left
      exact disconnected_timely ⟨sound, scheduled, attended, heard, due⟩ found sound_next
    | pass ms =>
      obtain rfl := Option.some.inj taken
      exact ⟨sound_next, ⟨scheduled.fresh, scheduled.once, scheduled.held⟩,
        ⟨attended.watched, attended.touched⟩, heard, on_time⟩
  · cases moved

theorem timely_initial : Timely verify timeoutMs intervalMs .initial := by
  refine ⟨sound_initial, ⟨?_, ?_, ?_⟩, ⟨?_, ?_⟩, ?_, ?_⟩ <;>
    simp [Watch.initial, GatewayHeartbeat.initial, Heard]

end Operations

/-- In every run in which no interval is late. -/
theorem silent_clients_are_disconnected (verify : JsString → Option JsString)
    (timeoutMs intervalMs : Nat) {events : List Event} {w : Watch}
    (moved : run (step verify timeoutMs intervalMs) .initial events = some w) {id : Nat}
    {client : Client} (found : w.gateway.clients id = some client)
    (accepted : (accepts verify client.handshake).isSome = true)
    (open_phase : client.phase ≠ .disconnected) :
    (∃ touch ∈ w.gateway.touches, touch.1 = id ∧
      w.gateway.now ≤ touch.2 + (timeoutMs + intervalMs)) ∨
      id ∈ w.gateway.timedOut ∧
        w.gateway.disconnectReasonOverrides.lookup id = some "heartbeat-timeout" := by
  obtain ⟨sound, scheduled, attended, heard, due⟩ :=
    run_keeps (Timely verify timeoutMs intervalMs) (fun _ _ _ moved kept => timely_step kept moved)
      moved timely_initial
  have known := (sound.accepted id client found).mpr accepted
  rcases attended.watched id client found known open_phase with timed | watched
  · obtain ⟨c, found_c, noted⟩ := sound.timedOut id timed
    obtain rfl := Option.some.inj (found.symm.trans found_c)
    exact Or.inr ⟨timed, noted open_phase⟩
  · obtain ⟨timer, entry⟩ := Option.isSome_iff_exists.mp (AList.lookup_isSome.mpr watched)
    have listed := scheduled.held id timer entry
    obtain ⟨ms, at_ms, in_time⟩ := heard (timer, id) listed client found
    refine Or.inl ⟨(id, ms), attended.touched id client ms found at_ms, rfl, ?_⟩
    have soon := due (timer, id) listed
    omega

/-- A client that is not heard of after its handshake. -/
def silentEvents : List Event :=
  [.connect (sampleHandshake "bob-token"), .pass 30, .tick 0, .pass 30, .tick 0, .pass 30, .tick 0,
    .pass 5]

theorem silent_client_times_out :
    ∃ w, run (step sampleVerify 60 30) .initial silentEvents = some w ∧ 0 ∈ w.gateway.timedOut := by
  have moved : ∃ w, run (step sampleVerify 60 30) .initial silentEvents = some w ∧
      w.gateway.now = 95 ∧ w.gateway.touches = [(0, 0)] ∧
      w.gateway.clients 0 = some ⟨.connected, sampleHandshake "bob-token",
        some ⟨js "couple", js "bob"⟩, some 0⟩ := ⟨_, rfl, rfl, rfl, rfl⟩
  obtain ⟨w, moved, now, touches, found⟩ := moved
  refine ⟨w, moved, ?_⟩
  rcases silent_clients_are_disconnected sampleVerify 60 30 moved found (by decide) (by simp) with
    ⟨touch, mem, _, recent⟩ | ⟨timed, _⟩
  · rw [touches, List.mem_singleton] at mem
    rw [mem, now] at recent
    omega
  · exact timed

end SilentClients
