import Linkly.ChatClient

/-!
The two kinds of ids in a chat tab. Row ids and client ids never meet, a stored message has at
most one client id, and what the server sends carries ids of rows only.
-/
namespace ChatIds
open ChatService ChatTab ChatClient JsText TransitionRuns

def carriedIds : Packet → List JsString
  | .initialReply (some messages) | .olderReply (some messages) | .syncReply messages =>
    messages.map ChatMessageView.id
  | _ => []

/-- What a packet may carry: rows, each once, and client ids that no row has. -/
structure Carries (s : Store) (packet : Packet) : Prop where
  once : (carriedIds packet).Nodup
  stored : ∀ id ∈ carriedIds packet, id ∈ storedIds s
  clients : ∀ id ∈ packet.clientIds, id ∉ storedIds s ∧ id ≠ []

/-- The entry shows the stored message, under its row id or under the client id it was sent with. -/
def Shows (y : System) (m : ChatMessage) (entry : TabMessage) : Prop :=
  entry.id = m.id ∨ (m.id, entry.id) ∈ y.origins

instance (y : System) (m : ChatMessage) (entry : TabMessage) : Decidable (Shows y m entry) :=
  inferInstanceAs (Decidable (_ ∨ _))

structure Sound (y : System) : Prop where
  coherent : Coherent y.tab
  once : (storedIds y.store).Nodup
  filled : ∀ id ∈ storedIds y.store, id ≠ []
  origin_stored : ∀ o ∈ y.origins, o.1 ∈ storedIds y.store
  origin_client : ∀ o ∈ y.origins, o.2 ∉ storedIds y.store ∧ o.2 ≠ []
  origin_unique : ∀ o ∈ y.origins, ∀ p ∈ y.origins, o.1 = p.1 → o = p
  queued : ∀ job ∈ y.store.queue, job.message.id ∈ storedIds y.store ∧
    ∀ o ∈ y.origins, o.1 = job.message.id → job.message.clientMessageId = some o.2
  flight : ∀ packet ∈ y.flight, Carries y.store packet

section Changes
variable {y : System}

theorem sound_tab (sound : Sound y) {tab : Tab} (coherent : Coherent tab) :
    Sound { y with tab := tab } :=
  { sound with coherent := coherent }

theorem sound_flight (sound : Sound y) {flight : List Packet}
    (carries : ∀ packet ∈ flight, Carries y.store packet) : Sound { y with flight := flight } :=
  { sound with flight := carries }

theorem sound_drop (sound : Sound y) (index : Nat) :
    Sound { y with flight := y.flight.eraseIdx index } :=
  sound_flight sound fun packet mem => sound.flight packet (List.mem_of_mem_eraseIdx mem)

theorem sound_add (sound : Sound y) {packet : Packet} (carries : Carries y.store packet) :
    Sound { y with flight := y.flight ++ [packet] } := by
  refine sound_flight sound ?_
  intro other mem
  rcases List.mem_append.mp mem with old | new
  · exact sound.flight other old
  · rw [List.mem_singleton.mp new]
    exact carries

theorem carries_nothing (s : Store) {packet : Packet} (ids : carriedIds packet = [])
    (clients : packet.clientIds = []) : Carries s packet := by
  constructor <;> simp [ids, clients]

theorem carries_page {s : Store} {messages : List ChatMessageView} {packet : Packet}
    (ids : carriedIds packet = messages.map ChatMessageView.id) (clients : packet.clientIds = [])
    (once : (messages.map ChatMessageView.id).Nodup)
    (stored : ∀ id ∈ messages.map ChatMessageView.id, id ∈ storedIds s) : Carries s packet := by
  constructor
  · rw [ids]
    exact once
  · rw [ids]
    exact stored
  · simp [clients]

end Changes

section Creation
variable {cipher : Cipher} {y : System} {payload : ChatSendDto} {draw : Draw}
  {senderUserId : JsString} {view : ChatMessageView} {s : Store}
  (created : Created cipher y.store payload draw senderUserId view s)
include created

theorem stored_ids_created :
    storedIds s = storedIds y.store ++ [draw.id] ∧ view.id = draw.id := by
  constructor
  · rw [storedIds, created.messages, List.map_append]
    rfl
  · rw [created.view_eq]
    rfl

theorem stored_ids_grow : storedIds y.store ⊆ storedIds s := by
  intro id mem
  rw [(stored_ids_created created).1]
  exact List.mem_append_left _ mem

theorem unstored_of_other {id : JsString} (old : id ∉ storedIds y.store) (differs : id ≠ draw.id) :
    id ∉ storedIds s := by
  intro mem
  rw [(stored_ids_created created).1] at mem
  rcases List.mem_append.mp mem with before | new
  · exact old before
  · exact differs (List.mem_singleton.mp new)

theorem new_origin {o : JsString × JsString}
    (mem : o ∈ payload.clientMessageId.toList.map (view.id, ·)) :
    o.1 = draw.id ∧ payload.clientMessageId = some o.2 := by
  obtain ⟨id, given_id, rfl⟩ := List.mem_map.mp mem
  exact ⟨(stored_ids_created created).2, Option.mem_toList.mp given_id⟩

theorem new_job {job : ChatFanoutJob} (mem : job ∈ s.queue) :
    job ∈ y.store.queue ∨ job = ⟨payload.coupleId, ⟨view, payload.clientMessageId⟩⟩ := by
  rw [created.queue] at mem
  rcases List.mem_append.mp mem with old | new
  · exact Or.inl old
  · split at new
    · exact Or.inr (List.mem_singleton.mp new)
    · simp at new

/-- Storing a message under a new row id, for a client id that is no row's. -/
theorem sound_created (sound : Sound y) (unused : Unused y draw.id)
    (apart : some draw.id ≠ payload.clientMessageId)
    (client : ∀ id ∈ payload.clientMessageId, id ∉ storedIds y.store ∧ id ≠ []) :
    Sound (y.stored view s payload.clientMessageId) := by
  obtain ⟨ids, view_id⟩ := stored_ids_created created
  obtain ⟨filled, unstored, unclaimed, _, unposted, _⟩ := unused
  have grows := stored_ids_grow created
  have unclaimed_row : ∀ o ∈ y.origins, o.1 ≠ draw.id := by
    intro o mem same
    exact unstored (same ▸ sound.origin_stored o mem)
  constructor
  case coherent => exact sound.coherent
  case once =>
    simp only [System.stored, ids]
    apply sound.once.append (List.nodup_singleton _)
    intro id old new
    rw [List.mem_singleton.mp new] at old
    exact unstored old
  case filled =>
    simp only [System.stored, ids]
    intro id mem
    rcases List.mem_append.mp mem with old | new
    · exact sound.filled id old
    · rw [List.mem_singleton.mp new]
      exact filled
  case origin_stored =>
    intro o mem
    rcases List.mem_append.mp mem with old | new
    · exact grows (sound.origin_stored o old)
    · rw [(new_origin created new).1]
      simp [System.stored, ids]
  case origin_client =>
    intro o mem
    rcases List.mem_append.mp mem with old | new
    · obtain ⟨apart_rows, filled_client⟩ := sound.origin_client o old
      refine ⟨unstored_of_other created apart_rows ?_, filled_client⟩
      intro same
      exact unclaimed (List.mem_map.mpr ⟨o, old, same⟩)
    · have named := (new_origin created new).2
      obtain ⟨apart_rows, filled_client⟩ := client o.2 named
      refine ⟨unstored_of_other created apart_rows ?_, filled_client⟩
      intro same
      exact apart (by rw [named, same])
  case origin_unique =>
    intro o mo p mp same
    rcases List.mem_append.mp mo with old_o | new_o <;>
      rcases List.mem_append.mp mp with old_p | new_p
    · exact sound.origin_unique o old_o p old_p same
    · exact absurd (same.trans (new_origin created new_p).1) (unclaimed_row o old_o)
    · exact absurd (same.symm.trans (new_origin created new_o).1) (unclaimed_row p old_p)
    · have clients := (new_origin created new_o).2.symm.trans (new_origin created new_p).2
      exact Prod.ext same (Option.some.inj clients)
  case queued =>
    intro job mem
    rcases new_job created mem with old | rfl
    · obtain ⟨stored, named⟩ := sound.queued job old
      refine ⟨grows stored, ?_⟩
      intro o mo same
      rcases List.mem_append.mp mo with old_o | new_o
      · exact named o old_o same
      · rw [← same, (new_origin created new_o).1] at stored
        exact absurd stored unstored
    · refine ⟨by simp [System.stored, ids, view_id], ?_⟩
      intro o mo same
      rcases List.mem_append.mp mo with old_o | new_o
      · exact absurd (same.trans view_id) (unclaimed_row o old_o)
      · exact (new_origin created new_o).2
  case flight =>
    intro packet mem
    obtain ⟨once, stored, clients⟩ := sound.flight packet mem
    refine ⟨once, fun id mi => grows (stored id mi), ?_⟩
    intro id mi
    obtain ⟨apart_rows, filled_client⟩ := clients id mi
    refine ⟨unstored_of_other created apart_rows ?_, filled_client⟩
    intro same
    exact unposted (List.mem_flatMap.mpr ⟨packet, mem, same ▸ mi⟩)

end Creation

section Steps
variable {cipher : Cipher} {y z : System}

theorem send_message_ok {s t : Store} {userId : JsString} {payload : ChatSendDto} {draw : Draw}
    {view : ChatMessageView}
    (done : ChatGateway.sendMessage cipher s userId payload draw = .ok (view, t)) :
    Created cipher s { payload with senderUserId := some userId } draw userId view t := by
  obtain ⟨senderUserId, created⟩ := create_message_ok cipher done
  obtain rfl := Option.some.inj created.sender
  exact created

/-- A table that is as before, or has one new message. -/
def StoreGrows (cipher : Cipher) (s t : Store) : Prop :=
  t = s ∨ ∃ payload draw senderUserId view, Created cipher s payload draw senderUserId view t

theorem serve_effect {draw : Draw} {rows : List ChatMessage} {packet : Packet}
    (serves : Serves cipher y draw rows packet z) :
    z.tab = y.tab ∧ StoreGrows cipher y.store z.store := by
  cases serves with
  | posted unused differs done => exact ⟨rfl, Or.inr ⟨_, _, _, _, send_message_ok done⟩⟩
  | refused | initialPage | synced | badBound | olderPage => exact ⟨rfl, Or.inl rfl⟩

theorem receive_effect {now : Int} {packet : Packet} (receives : Receives y now packet z) :
    z.store = y.store ∧ z.tab.coupleId = y.tab.coupleId ∧ z.tab.userId = y.tab.userId := by
  cases receives with
  | synced => exact ⟨rfl, sync_owner now y.tab _⟩
  | confirmed | failed | noPage | initialPage | noOlder | olderPage => exact ⟨rfl, rfl, rfl⟩

theorem step_effect {e : Event} (moved : step cipher y e = some z) :
    StoreGrows cipher y.store z.store ∧
      z.tab.coupleId = y.tab.coupleId ∧ z.tab.userId = y.tab.userId := by
  cases step_cases moved with
  | sent => exact ⟨Or.inl rfl, append_owner⟩
  | askedOlder | connected | disconnected | otherRefused => exact ⟨Or.inl rfl, rfl, rfl⟩
  | otherStored unused differs client done =>
    exact ⟨Or.inr ⟨_, _, _, _, send_message_ok done⟩, rfl, rfl⟩
  | delivered => exact ⟨Or.inl rfl, incoming_owner _ _ y.tab⟩
  | served at_index serves =>
    obtain ⟨tab, grows⟩ := serve_effect serves
    exact ⟨grows, congrArg Tab.coupleId tab, congrArg Tab.userId tab⟩
  | received at_index receives =>
    obtain ⟨store, owner⟩ := receive_effect receives
    exact ⟨Or.inl store, owner⟩
  | @lost index packet at_index => cases packet <;> exact ⟨Or.inl rfl, rfl, rfl⟩

theorem carries_fetched (sound : Sound y) {rows : List ChatMessage} {query : ChatFetchQueryDto}
    {reply : Option (List ChatMessageView) → Packet} (ordered : OrderedRows y.store query rows)
    (ids : ∀ messages, carriedIds (reply (some messages)) = messages.map ChatMessageView.id)
    (none_ids : carriedIds (reply none) = []) (clients : ∀ result, (reply result).clientIds = []) :
    Carries y.store (reply (fetchMessages cipher y.store query rows).toOption) := by
  cases done : fetchMessages cipher y.store query rows with
  | error e => exact carries_nothing _ none_ids (clients _)
  | ok messages =>
    have page := fetched_page_ids ordered sound.once done
    exact carries_page (ids messages) (clients _) page.1 page.2

theorem sound_serve (sound : Sound y) {draw : Draw} {rows : List ChatMessage} {packet : Packet}
    (carries : Carries y.store packet) (serves : Serves cipher y draw rows packet z) :
    Sound z := by
  cases serves with
  | posted unused differs done =>
    have stored := sound_created (send_message_ok done) sound unused differs
      fun id mem => carries.clients id (Option.mem_toList.mpr mem)
    exact sound_add stored (carries_nothing _ rfl rfl)
  | refused | badBound => exact sound_add sound (carries_nothing _ rfl rfl)
  | initialPage ordered | olderPage ordered =>
    exact sound_add sound (carries_fetched sound ordered (fun _ => rfl) rfl fun _ => rfl)
  | synced ordered =>
    refine sound_add sound ?_
    unfold ChatGateway.handleSync
    split
    · rename_i messages done
      have page := fetched_page_ids ordered sound.once done
      exact carries_page rfl rfl page.1 page.2
    · exact carries_nothing _ rfl rfl

/-- The messages of a reply, as the tab gets them. -/
theorem api_ids (messages : List ChatMessageView) :
    (messages.map apiMessage).map ApiChatMessage.id = messages.map ChatMessageView.id := by
  simp [apiMessage, Function.comp_def]

theorem api_filled (sound : Sound y) {messages : List ChatMessageView}
    (stored : ∀ id ∈ messages.map ChatMessageView.id, id ∈ storedIds y.store) :
    ∀ item ∈ messages.map apiMessage, item.id ≠ [] := by
  intro item mem
  refine sound.filled _ (stored _ ?_)
  rw [← api_ids]
  exact List.mem_map_of_mem mem

theorem api_unmarked (messages : List ChatMessageView) :
    ∀ item ∈ messages.map apiMessage, item.clientMessageId = none := by
  intro item mem
  obtain ⟨view, _, rfl⟩ := List.mem_map.mp mem
  rfl

theorem sound_receive (sound : Sound y) {now : Int} {packet : Packet}
    (carries : Carries y.store packet) (receives : Receives y now packet z) : Sound z := by
  cases receives with
  | confirmed | noPage => exact sound
  | failed => exact sound_tab sound (coherent_failed sound.coherent _)
  | initialPage =>
    refine sound_tab sound (coherent_initial now (api_filled sound carries.stored) ?_)
    rw [api_ids]
    exact carries.once
  | synced => exact sound_tab sound (coherent_sync now sound.coherent)
  | noOlder => exact sound_tab sound ⟨sound.coherent.seen_iff, sound.coherent.once⟩
  | olderPage =>
    refine sound_tab sound (coherent_older now sound.coherent
      (api_filled sound carries.stored) ?_)
    rw [api_ids]
    exact carries.once

theorem sound_lose (sound : Sound y) (packet : Packet) : Sound (lose y packet) := by
  have coherent_unmarked : Coherent { y.tab with isFetchingOlder := false } :=
    ⟨sound.coherent.seen_iff, sound.coherent.once⟩
  cases packet with
  | postRequest body => exact sound_tab sound (coherent_failed sound.coherent _)
  | postReply ok id => exact sound_tab sound (coherent_failed sound.coherent _)
  | olderRequest beforeMs => exact sound_tab sound coherent_unmarked
  | olderReply messages => exact sound_tab sound coherent_unmarked
  | initialRequest | initialReply messages | syncRequest sinceMs | syncReply messages => exact sound

theorem sound_step {e : Event} (sound : Sound y) (moved : step cipher y e = some z) :
    Sound z := by
  cases step_cases moved with
  | sent unused =>
    refine sound_add (sound_tab sound (coherent_append sound.coherent)) ?_
    refine ⟨List.nodup_nil, by simp [carriedIds], ?_⟩
    intro id mem
    obtain rfl := List.mem_singleton.mp mem
    exact ⟨unused.2.1, unused.1⟩
  | @askedOlder beforeMs =>
    have requested : Carries y.store (.olderRequest beforeMs) := carries_nothing _ rfl rfl
    have coherent : Coherent { y.tab with isFetchingOlder := true } :=
      ⟨sound.coherent.seen_iff, sound.coherent.once⟩
    exact sound_add (sound_tab sound coherent) requested
  | connected =>
    have requested : Carries y.store (.syncRequest (requestResync y.tab)) :=
      carries_nothing _ rfl rfl
    exact { sound_add sound requested with }
  | disconnected =>
    exact { sound with flight := fun packet mem => sound.flight packet (List.mem_of_mem_filter mem) }
  | otherStored unused differs client done =>
    have stored := sound_created (send_message_ok done) sound unused differs
      fun id mem => ⟨(client id mem).2.1, (client id mem).1⟩
    exact stored
  | otherRefused => exact sound
  | delivered => exact sound_tab sound (coherent_incoming _ _ sound.coherent)
  | served at_index serves =>
    exact sound_serve (sound_drop sound _) (sound.flight _ (List.mem_of_getElem? at_index)) serves
  | received at_index receives =>
    exact sound_receive (sound_drop sound _) (sound.flight _ (List.mem_of_getElem? at_index))
      receives
  | @lost index packet at_index => exact sound_lose (sound_drop sound index) packet

/-- A stored history: each row has an id of its own, and queued jobs are about rows. -/
structure History (s : Store) : Prop where
  once : (storedIds s).Nodup
  filled : ∀ id ∈ storedIds s, id ≠ []
  queued : ∀ job ∈ s.queue, job.message.id ∈ storedIds s

theorem sound_initial {s : Store} (history : History s) (coupleId userId : JsString) :
    Sound (initial s coupleId userId) where
  coherent := coherent_mounted coupleId userId
  once := history.once
  filled := history.filled
  origin_stored := by simp [initial]
  origin_client := by simp [initial]
  origin_unique := by simp [initial]
  queued := fun job mem => ⟨history.queued job mem, by simp [initial]⟩
  flight := by
    intro packet mem
    rw [List.mem_singleton.mp mem]
    exact carries_nothing _ rfl rfl

theorem sound_run {s : Store} (history : History s) {coupleId userId : JsString} {es : List Event}
    (reached : run (step cipher) (initial s coupleId userId) es = some y) : Sound y :=
  run_keeps Sound (fun _ _ _ once sound => sound_step sound once) reached
    (sound_initial history coupleId userId)

end Steps

/-- A couple that has not written yet. -/
def sampleHistory : Store := ⟨[⟨js "couple", js "me"⟩, ⟨js "couple", js "you"⟩], [], []⟩

theorem sample_history : History sampleHistory :=
  ⟨List.nodup_nil, by simp [storedIds, sampleHistory], by simp [sampleHistory]⟩

/-- A call at time 9 that makes the row of the given id. -/
def sampleDraw (id : String) : Draw := ⟨js id, [], ⟨9, by decide⟩, true⟩

end ChatIds
