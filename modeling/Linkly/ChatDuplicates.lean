import Linkly.ChatIds
import Mathlib.Data.List.Pairwise

/-!
Messages that a tab shows twice. Live events carry the client id of a message and are compared
with both ids; sync responses and older pages carry the row id only, and a message that the tab
shows under its client id comes in once more with them.
-/
namespace ChatDuplicates
open ChatService ChatTab ChatClient ChatIds JsText TransitionRuns

def NoneShownTwice (y : System) : Prop :=
  ∀ m ∈ y.store.messages, y.tab.allMessages.Pairwise fun a b => ¬ (Shows y m a ∧ Shows y m b)

/-- The messages by which a packet extends the list. -/
def extension : Packet → List ChatMessageView
  | .syncReply messages | .olderReply (some messages) => messages
  | _ => []

/-- A received sync response or older page has no message that is shown under its client id. -/
def BringsNoOwn (y : System) : Event → Prop
  | .receive index _ => ∀ packet ∈ y.flight[index]?, ∀ view ∈ extension packet,
      ∀ o ∈ y.origins, o.1 = view.id → o.2 ∉ y.tab.ids
  | _ => True

instance (y : System) : ∀ e, Decidable (BringsNoOwn y e)
  | .receive _ _ => by
    dsimp only [BringsNoOwn]
    infer_instance
  | .send .. | .otherSend .. | .serve .. | .live .. | .lose _ | .connect | .disconnect
  | .requestOlder => isTrue trivial

instance (y : System) : Decidable (NoneShownTwice y) := by
  unfold NoneShownTwice
  infer_instance

/-- No message is listed under both of its ids. -/
def Apart (y : System) : Prop := ∀ o ∈ y.origins, ¬ (o.1 ∈ y.tab.ids ∧ o.2 ∈ y.tab.ids)

theorem none_shown_twice_iff {y : System} (sound : Sound y) : NoneShownTwice y ↔ Apart y := by
  constructor
  · intro shown o mo both
    obtain ⟨a, ma, id_a⟩ := List.mem_map.mp both.1
    obtain ⟨b, mb, id_b⟩ := List.mem_map.mp both.2
    obtain ⟨m, mm, id_m⟩ := List.mem_map.mp (sound.origin_stored o mo)
    have differ : a ≠ b := by
      intro same
      have := sound.origin_client o mo
      exact this.1 (by rw [← id_b, ← same, id_a]; exact sound.origin_stored o mo)
    have symmetric : Std.Symm fun a b => ¬ (Shows y m a ∧ Shows y m b) :=
      ⟨fun a b apart both => apart ⟨both.2, both.1⟩⟩
    refine List.Pairwise.forall (shown m mm) ma mb differ ⟨?_, ?_⟩
    · exact Or.inl (id_a.trans id_m.symm)
    · exact Or.inr (by rw [id_b, id_m]; exact mo)
  · intro apart m mm
    have once : y.tab.allMessages.Pairwise fun a b => a.id ≠ b.id :=
      List.pairwise_map.mp sound.coherent.once
    refine once.imp_of_mem ?_
    intro a b ma mb differ both
    have listed_a : a.id ∈ y.tab.ids := List.mem_map_of_mem ma
    have listed_b : b.id ∈ y.tab.ids := List.mem_map_of_mem mb
    obtain ⟨row_a | client_a, row_b | client_b⟩ := both
    · exact differ (row_a.trans row_b.symm)
    · exact apart _ client_b ⟨row_a ▸ listed_a, listed_b⟩
    · exact apart _ client_a ⟨row_b ▸ listed_b, listed_a⟩
    · have := sound.origin_unique _ client_a _ client_b rfl
      exact differ (congrArg Prod.snd this)

theorem apart_of_same {y z : System} (apart : Apart y) (origins : z.origins = y.origins)
    (ids : z.tab.ids = y.tab.ids) : Apart z := by
  unfold Apart
  rw [origins, ids]
  exact apart

section Steps
variable {cipher : Cipher} {y z : System}

/-- New origins are those of rows that no tab can list yet. -/
theorem apart_stored (sound : Sound y) (apart : Apart y) {view : ChatMessageView} {s : Store}
    {clientMessageId : Option JsString} (unseen : view.id ∉ y.tab.seenMessageIds) :
    Apart (y.stored view s clientMessageId) := by
  intro o mem both
  rcases List.mem_append.mp mem with old | new
  · exact apart o old both
  · obtain ⟨id, _, rfl⟩ := List.mem_map.mp new
    exact unseen ((sound.coherent.seen_iff _).mpr both.1)

theorem apart_send (sound : Sound y) (apart : Apart y) {draft : Draft} {clientMessageId : JsString}
    {now : Int} (unused : Unused y clientMessageId) (flight : List Packet) :
    Apart { y with tab := showDraft y.tab draft clientMessageId now, flight := flight } := by
  intro o mo both
  have listed : ∀ id ∈ (showDraft y.tab draft clientMessageId now).ids,
      id ∈ y.tab.ids ∨ id = clientMessageId :=
    fun id mem => (mem_ids_append sound.coherent).mp mem
  have row_old : o.1 ∈ y.tab.ids := by
    rcases listed _ both.1 with old | same
    · exact old
    · exact absurd (same ▸ sound.origin_stored o mo) unused.2.1
  rcases listed _ both.2 with old | same
  · exact apart o mo ⟨row_old, old⟩
  · exact unused.2.2.1 (List.mem_map.mpr ⟨o, mo, same⟩)

/-- A live event is ignored when its message is listed under its client id. -/
theorem apart_live (sound : Sound y) (apart : Apart y) {job : ChatFanoutJob}
    (queued : job ∈ y.store.queue) (now : Int) :
    Apart { y with tab := handleIncomingMessage now y.tab (liveMessage job.message) } := by
  intro o mo both
  obtain ⟨stored, named⟩ := sound.queued job queued
  have client_apart := sound.origin_client o mo
  have listed : ∀ id ∈ (handleIncomingMessage now y.tab (liveMessage job.message)).ids,
      id ∈ y.tab.ids ∨ id = job.message.id :=
    fun id mem => ids_incoming_subset now (liveMessage job.message) sound.coherent mem
  have client_old : o.2 ∈ y.tab.ids := by
    rcases listed _ both.2 with old | same
    · exact old
    · exact absurd (same ▸ stored) client_apart.1
  rcases listed _ both.1 with old | same
  · exact apart o mo ⟨old, client_old⟩
  · have client := named o mo same
    have ignored : handleIncomingMessage now y.tab (liveMessage job.message) = y.tab := by
      have seen := (sound.coherent.seen_iff _).mpr client_old
      simp [handleIncomingMessage, liveMessage, client, client_apart.2, seen]
    rw [ignored] at both
    exact apart o mo both

/-- Adding rows to the list keeps the ids apart exactly if none of them is listed by client id. -/
theorem apart_extend_iff (sound : Sound y) (apart : Apart y) {tab : Tab}
    {messages : List ChatMessageView}
    (stored : ∀ id ∈ messages.map ChatMessageView.id, id ∈ storedIds y.store)
    (listed : ∀ id, id ∈ tab.ids ↔ id ∈ y.tab.ids ∨ id ∈ messages.map ChatMessageView.id)
    (flight : List Packet) :
    Apart { y with tab := tab, flight := flight } ↔
      ∀ view ∈ messages, ∀ o ∈ y.origins, o.1 = view.id → o.2 ∉ y.tab.ids := by
  constructor
  · intro after view mv o mo same client
    refine after o mo ⟨(listed _).mpr (Or.inr ?_), (listed _).mpr (Or.inl client)⟩
    rw [same]
    exact List.mem_map_of_mem mv
  · intro brings o mo both
    have client_old : o.2 ∈ y.tab.ids := by
      rcases (listed _).mp both.2 with old | new
      · exact old
      · exact absurd (stored _ new) (sound.origin_client o mo).1
    rcases (listed _).mp both.1 with old | new
    · exact apart o mo ⟨old, client_old⟩
    · obtain ⟨view, mv, same⟩ := List.mem_map.mp new
      exact brings view mv o mo same.symm client_old

theorem apart_receive_iff (sound : Sound y) (apart : Apart y) {index : Nat} {now : Int}
    {packet : Packet} (at_index : y.flight[index]? = some packet)
    (receives : Receives { y with flight := y.flight.eraseIdx index } now packet z) :
    Apart z ↔ BringsNoOwn y (.receive index now) := by
  have carries := sound.flight packet (List.mem_of_getElem? at_index)
  have asked : BringsNoOwn y (.receive index now) ↔ ∀ view ∈ extension packet,
      ∀ o ∈ y.origins, o.1 = view.id → o.2 ∉ y.tab.ids := by
    simp [BringsNoOwn, at_index]
  rw [asked]
  cases receives with
  | synced =>
    refine apart_extend_iff sound apart carries.stored (fun id => ?_) _
    rw [← api_ids]
    exact ids_sync now sound.coherent (api_filled sound carries.stored) (api_unmarked _)
  | olderPage =>
    refine apart_extend_iff sound apart carries.stored (fun id => ?_) _
    rw [← api_ids]
    exact ids_older now sound.coherent (api_filled sound carries.stored)
  | @initialPage messages =>
    refine iff_of_true ?_ (by simp [extension])
    intro o mo both
    refine (sound.origin_client o mo).1 (carries.stored _ ?_)
    have listed : (handleInitialPage now y.tab (messages.map apiMessage)).ids = _ :=
      ids_initial now (api_filled sound carries.stored)
    rw [api_ids] at listed
    have client : o.2 ∈ (handleInitialPage now y.tab (messages.map apiMessage)).ids := both.2
    rw [listed] at client
    exact client
  | confirmed | noPage | noOlder => exact iff_of_true apart (by simp [extension])
  | failed => exact iff_of_true (apart_of_same apart rfl (ids_failed _)) (by simp [extension])

theorem apart_serve (sound : Sound y) (apart : Apart y) {draw : Draw} {rows : List ChatMessage}
    {packet : Packet} (serves : Serves cipher y draw rows packet z) : Apart z := by
  cases serves with
  | @posted body view s unused differs done =>
    have ids := stored_ids_created (send_message_ok done)
    have unseen := unused.2.2.2.1
    rw [← ids.2] at unseen
    have stored : Apart (y.stored view s body.clientMessageId) := apart_stored sound apart unseen
    exact stored
  | refused | initialPage | synced | badBound | olderPage => exact apart

theorem apart_lose (apart : Apart y) (packet : Packet) : Apart (lose y packet) := by
  cases packet with
  | postRequest body => exact apart_of_same apart rfl (ids_failed _)
  | postReply ok id => exact apart_of_same apart rfl (ids_failed _)
  | _ => exact apart

theorem step_apart {e : Event} (sound : Sound y) (moved : step cipher y e = some z)
    (apart : Apart y) : Apart z ↔ BringsNoOwn y e := by
  cases step_cases moved with
  | sent unused => exact iff_of_true (apart_send sound apart unused _) trivial
  | askedOlder | connected | disconnected | otherRefused => exact iff_of_true apart trivial
  | otherStored unused differs client done =>
    have ids := stored_ids_created (send_message_ok done)
    have unseen := unused.2.2.2.1
    rw [← ids.2] at unseen
    exact iff_of_true (apart_stored sound apart unseen) trivial
  | delivered at_index =>
    exact iff_of_true (apart_live sound apart (List.mem_of_getElem? at_index) _) trivial
  | @served index draw rows packet z at_index serves =>
    have dropped : Apart { y with flight := y.flight.eraseIdx index } := apart
    exact iff_of_true (apart_serve (sound_drop sound index) dropped serves) trivial
  | received at_index receives => exact apart_receive_iff sound apart at_index receives
  | @lost index packet at_index =>
    have dropped : Apart { y with flight := y.flight.eraseIdx index } := apart
    exact iff_of_true (apart_lose dropped packet) trivial

end Steps

theorem none_shown_twice_iff_no_own_brought (cipher : Cipher) {s : Store} (history : History s)
    (coupleId userId : JsString) (es : List Event) :
    EveryState (step cipher) NoneShownTwice (initial s coupleId userId) es ↔
      EachStep (step cipher) BringsNoOwn (initial s coupleId userId) es := by
  refine every_state_iff_each_step Sound (fun _ _ _ _ moved sound => sound_step sound moved) ?_
    (sound_initial history coupleId userId) ?_
  · intro e _ y z moved sound shown
    rw [none_shown_twice_iff (sound_step sound moved)]
    exact step_apart sound moved ((none_shown_twice_iff sound).mp shown)
  · simp [NoneShownTwice, initial, mounted]

def sampleDraft : Draft := ⟨some (js "hi"), .text, none⟩

/-- The row of the draft, sent at time 5. -/
def sampleRow : ChatMessage :=
  newRecord plainCipher (requestBody (mounted (js "couple") (js "me")) sampleDraft (js "client-1") 5)
    (js "me") (sampleDraw "row-1")

/-- An own message comes back as a live event only, twice. -/
theorem live_echo_not_shown_twice :
    EveryState (step plainCipher) NoneShownTwice (initial sampleHistory (js "couple") (js "me"))
      [.serve 0 (sampleDraw "-") [], .receive 0 1, .connect, .serve 0 (sampleDraw "-") [],
        .receive 0 2, .send sampleDraft (js "client-1") 5, .serve 0 (sampleDraw "row-1") [],
        .live 0 6, .live 0 7] :=
  (none_shown_twice_iff_no_own_brought plainCipher sample_history _ _ _).mpr (by decide)

/-- An own message that is stored before a reconnection is shown twice after it. -/
theorem sync_shows_own_message_twice :
    ¬ ∀ cipher s, History s → ∀ coupleId userId es,
      EveryState (step cipher) NoneShownTwice (initial s coupleId userId) es := by
  intro every
  have states := every plainCipher sampleHistory sample_history (js "couple") (js "me")
    [.serve 0 (sampleDraw "-") [], .receive 0 1, .send sampleDraft (js "client-1") 5,
      .serve 0 (sampleDraw "row-1") [], .receive 0 6, .connect,
      .serve 0 (sampleDraw "-") [sampleRow], .receive 0 7]
  have last := every_state_last rfl states
  revert last
  decide

end ChatDuplicates
