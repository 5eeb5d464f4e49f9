import Linkly.ChatIds
import Linkly.SortedPages

/-!
What a tab has missed when it comes back online. The one sync request asks for the first rows from
the last-seen timestamp on, so that rows with an earlier timestamp and rows beyond the limit stay
missing.
-/
namespace ChatCatchUp
open ChatService ChatTab ChatClient ChatIds JsText SortedPages TransitionRuns

def Shown (y : System) (m : ChatMessage) : Prop := ∃ entry ∈ y.tab.allMessages, Shows y m entry

def ShowsAll (y : System) : Prop :=
  ∀ m ∈ y.store.messages, m.coupleId = y.tab.coupleId → Shown y m

def socketData (tab : Tab) : ChatGateway.SocketData := ⟨tab.coupleId, tab.userId⟩

/-- The query that the server makes for the sync request of a tab. -/
def catchUpQuery (tab : Tab) : ChatFetchQueryDto :=
  ChatGateway.syncQuery (socketData tab) (requestResync tab)

/-- The message is among the rows that a sync asks for, and the rows that may come no later than it
    fit into the limit. -/
def WithinSync (y : System) (m : ChatMessage) : Prop :=
  (catchUpQuery y.tab).selects m ∧
    (y.store.messages.filter (catchUpQuery y.tab).selects).countP
      (fun k => (catchUpQuery y.tab).ordered k m) ≤ (catchUpQuery y.tab).limit

instance (y : System) (m : ChatMessage) : Decidable (Shown y m) := by
  unfold Shown
  infer_instance

instance (y : System) : Decidable (ShowsAll y) := by
  unfold ShowsAll
  infer_instance

instance (y : System) (m : ChatMessage) : Decidable (WithinSync y m) := by
  unfold WithinSync
  infer_instance

/-- What the server needs for an answer: a member who asks, and rows that it can decrypt. -/
structure Answerable (cipher : Cipher) (y : System) : Prop where
  member : y.store.isMember y.tab.coupleId y.tab.userId = true
  readable : ∀ m ∈ y.store.messages, (cipher.decrypt m.payload).isSome

section Steps
variable {cipher : Cipher} {y z : System}

theorem created_answerable {payload : ChatSendDto} {draw : Draw} {senderUserId : JsString}
    {view : ChatMessageView} {s t : Store}
    (inverts : ∀ iv content, cipher.decrypt (cipher.encrypt iv content) = some content)
    (created : Created cipher s payload draw senderUserId view t)
    (readable : ∀ m ∈ s.messages, (cipher.decrypt m.payload).isSome) :
    t.members = s.members ∧ ∀ m ∈ t.messages, (cipher.decrypt m.payload).isSome := by
  refine ⟨created.members, ?_⟩
  intro m mem
  rw [created.messages] at mem
  rcases List.mem_append.mp mem with old | new
  · exact readable m old
  · rw [List.mem_singleton.mp new]
    have decrypted := inverts draw.iv ⟨payload.text, payload.imageUrl⟩
    exact Option.isSome_iff_exists.mpr ⟨_, decrypted⟩

/-- A step keeps the members, the readable rows, and whose tab it is. -/
theorem step_answerable {e : Event}
    (inverts : ∀ iv content, cipher.decrypt (cipher.encrypt iv content) = some content)
    (moved : step cipher y e = some z) (answerable : Answerable cipher y) :
    Answerable cipher z := by
  obtain ⟨grows, couple, user⟩ := step_effect moved
  rcases grows with same | ⟨payload, draw, senderUserId, view, created⟩
  · constructor
    · rw [same, couple, user]
      exact answerable.member
    · rw [same]
      exact answerable.readable
  · obtain ⟨members, readable⟩ := created_answerable inverts created answerable.readable
    refine ⟨?_, readable⟩
    rw [couple, user, Store.isMember, members]
    exact answerable.member

theorem run_answerable {es : List Event}
    (inverts : ∀ iv content, cipher.decrypt (cipher.encrypt iv content) = some content)
    (reached : run (step cipher) y es = some z) (answerable : Answerable cipher y) :
    Answerable cipher z :=
  run_keeps (Answerable cipher) (fun _ _ _ moved kept => step_answerable inverts moved kept) reached
    answerable

end Steps

section Query

instance (query : ChatFetchQueryDto) : Std.Total query.ordered where
  total a b := by
    unfold ChatFetchQueryDto.ordered
    split <;> omega

instance (query : ChatFetchQueryDto) : IsTrans ChatMessage query.ordered where
  trans a b c := by
    unfold ChatFetchQueryDto.ordered
    split <;> omega

theorem stored_once {y : System} (sound : Sound y) : y.store.messages.Nodup :=
  List.Nodup.of_map ChatMessage.id sound.once

theorem row_of_id {y : System} (sound : Sound y) {a b : ChatMessage} (ma : a ∈ y.store.messages)
    (mb : b ∈ y.store.messages) (same : a.id = b.id) : a = b :=
  List.inj_on_of_nodup_map sound.once ma mb same

end Query

section CatchUp
variable {cipher : Cipher} {y z : System}

/-- The tab after its sync request has been answered with some messages. -/
def caughtUp (y : System) (now : Int) (messages : List ChatMessageView) : System :=
  { y with
    tab := handleSyncResponse now y.tab (messages.map apiMessage)
    connected := true
    flight := [] }

def catchUpEvents (draw : Draw) (rows : List ChatMessage) (now : Int) : List Event :=
  [.connect, .serve 0 draw rows, .receive 0 now]

/-- The answer of the server to the sync request of a tab. -/
def answer (cipher : Cipher) (y : System) (rows : List ChatMessage) : List ChatMessageView :=
  ChatGateway.handleSync cipher y.store (socketData y.tab) (requestResync y.tab) rows

/-- A catch-up that nothing interrupts. -/
theorem catch_up_run (cipher : Cipher) (offline : y.connected = false) (quiet : y.flight = [])
    (draw : Draw) (rows : List ChatMessage) (now : Int) :
    run (step cipher) y (catchUpEvents draw rows now) =
      if OrderedRows y.store (catchUpQuery y.tab) rows then
        some (caughtUp y now (answer cipher y rows))
      else none := by
  by_cases ordered : OrderedRows y.store (catchUpQuery y.tab) rows
  · have asked := ordered
    simp only [catchUpQuery, socketData] at asked
    simp [run, catchUpEvents, step, serve, receive, offline, quiet, ordered, asked, caughtUp,
      answer, socketData]
  · have asked := ordered
    simp only [catchUpQuery, socketData] at asked
    simp [run, catchUpEvents, step, serve, offline, quiet, ordered, asked]

theorem answer_ids (answerable : Answerable cipher y) {rows : List ChatMessage}
    (ordered : OrderedRows y.store (catchUpQuery y.tab) rows) :
    (answer cipher y rows).map ChatMessageView.id =
      (rows.take (catchUpQuery y.tab).limit).map ChatMessage.id := by
  have readable : ∀ m ∈ rows.take (catchUpQuery y.tab).limit,
      (cipher.decrypt m.payload).isSome := by
    intro m mem
    have in_rows := List.mem_of_mem_take mem
    exact answerable.readable m (List.mem_of_mem_filter (ordered.1.mem_iff.mp in_rows))
  obtain ⟨messages, done⟩ :
      ∃ messages, fetchMessages cipher y.store (catchUpQuery y.tab) rows = .ok messages :=
    fetch_messages_ok cipher answerable.member readable
  rw [← fetch_messages_ids cipher done]
  unfold answer ChatGateway.handleSync
  rw [← catchUpQuery, done]

theorem shown_iff (y : System) (m : ChatMessage) :
    Shown y m ↔ m.id ∈ y.tab.ids ∨ ∃ id ∈ y.tab.ids, (m.id, id) ∈ y.origins := by
  simp only [Shown, Shows, Tab.ids, List.mem_map]
  constructor
  · intro shown
    rcases shown with ⟨entry, me, same | client⟩
    · exact Or.inl ⟨entry, me, same⟩
    · exact Or.inr ⟨entry.id, ⟨entry, me, rfl⟩, client⟩
  · intro found
    rcases found with ⟨entry, me, same⟩ | ⟨_, ⟨entry, me, rfl⟩, client⟩
    · exact ⟨entry, me, Or.inl same⟩
    · exact ⟨entry, me, Or.inr client⟩

theorem shown_after_iff (sound : Sound y) {rows : List ChatMessage}
    (ordered : OrderedRows y.store (catchUpQuery y.tab) rows) {messages : List ChatMessageView}
    (page : messages.map ChatMessageView.id =
      (rows.take (catchUpQuery y.tab).limit).map ChatMessage.id)
    {m : ChatMessage} (mem : m ∈ y.store.messages) (now : Int) :
    Shown (caughtUp y now messages) m ↔
      Shown y m ∨ m ∈ rows.take (catchUpQuery y.tab).limit := by
  have on_page := ordered_rows_ids ordered sound.once (catchUpQuery y.tab).limit
  rw [← page] at on_page
  have listed : ∀ id, id ∈ (caughtUp y now messages).tab.ids ↔
      id ∈ y.tab.ids ∨ id ∈ messages.map ChatMessageView.id := by
    intro id
    rw [← api_ids]
    exact ids_sync now sound.coherent (api_filled sound on_page.2) (api_unmarked messages)
  have row_on_page : m.id ∈ messages.map ChatMessageView.id ↔
      m ∈ rows.take (catchUpQuery y.tab).limit := by
    rw [page, List.mem_map]
    constructor
    · intro later
      obtain ⟨k, mk, same⟩ := later
      have stored := List.mem_of_mem_filter (ordered.1.mem_iff.mp (List.mem_of_mem_take mk))
      exact row_of_id sound stored mem same ▸ mk
    · exact fun taken => ⟨m, taken, rfl⟩
  have origins : (caughtUp y now messages).origins = y.origins := rfl
  rw [shown_iff, shown_iff, origins, listed, row_on_page]
  simp only [listed]
  constructor
  · intro listed
    rcases listed with (old | new) | ⟨id, mi, client⟩
    · exact Or.inl (Or.inl old)
    · exact Or.inr new
    · rcases mi with old | new
      · exact Or.inl (Or.inr ⟨id, old, client⟩)
      · exact absurd (on_page.2 id new) (sound.origin_client _ client).1
  · intro listed
    rcases listed with (old | ⟨id, mi, client⟩) | new
    · exact Or.inl (Or.inl old)
    · exact Or.inr ⟨id, Or.inl mi, client⟩
    · exact Or.inl (Or.inr new)

/-- A row is in every answer exactly if it is within the sync. -/
theorem within_sync_iff (sound : Sound y) {m : ChatMessage} (mem : m ∈ y.store.messages) :
    (∀ rows, OrderedRows y.store (catchUpQuery y.tab) rows →
      m ∈ rows.take (catchUpQuery y.tab).limit) ↔ WithinSync y m := by
  have once := (stored_once sound).filter (catchUpQuery y.tab).selects
  by_cases selected : (catchUpQuery y.tab).selects m
  · rw [WithinSync, and_iff_right selected]
    exact on_every_page_iff once (List.mem_filter.mpr ⟨mem, selected⟩) _
  · refine iff_of_false ?_ fun within => selected within.1
    intro every
    have sorted : OrderedRows y.store (catchUpQuery y.tab)
        ((y.store.messages.filter (catchUpQuery y.tab).selects).insertionSort
          (catchUpQuery y.tab).ordered) :=
      ⟨List.perm_insertionSort _ _, List.pairwise_insertionSort _ _⟩
    have taken := List.mem_of_mem_take (every _ sorted)
    exact selected (List.mem_filter.mp ((List.mem_insertionSort _).mp taken)).2

theorem catch_up_shows_all_iff_within_sync
    (inverts : ∀ iv content, cipher.decrypt (cipher.encrypt iv content) = some content)
    {s : Store} (history : History s)
    (readable : ∀ m ∈ s.messages, (cipher.decrypt m.payload).isSome) {coupleId userId : JsString}
    (member : s.isMember coupleId userId = true) {es : List Event}
    (reached : run (step cipher) (initial s coupleId userId) es = some y)
    (offline : y.connected = false) (quiet : y.flight = []) (draw : Draw) (now : Int) :
    (∀ rows z, run (step cipher) y (catchUpEvents draw rows now) = some z → ShowsAll z) ↔
      ∀ m ∈ y.store.messages, m.coupleId = y.tab.coupleId → ¬ Shown y m → WithinSync y m := by
  have sound := sound_run history reached
  have answerable : Answerable cipher y := run_answerable inverts reached ⟨member, readable⟩
  constructor
  · intro all m mem own missing
    rw [← within_sync_iff sound mem]
    intro rows ordered
    have moved := catch_up_run cipher offline quiet draw rows now
    rw [if_pos ordered] at moved
    have couple : (caughtUp y now (answer cipher y rows)).tab.coupleId = y.tab.coupleId :=
      (sync_owner now y.tab _).1
    have shown := all rows _ moved m mem (own.trans couple.symm)
    rw [shown_after_iff sound ordered (answer_ids answerable ordered) mem] at shown
    exact shown.resolve_left missing
  · intro within rows z moved
    rw [catch_up_run cipher offline quiet] at moved
    split_ifs at moved with ordered
    cases moved
    intro m mem own
    have couple : (caughtUp y now (answer cipher y rows)).tab.coupleId = y.tab.coupleId :=
      (sync_owner now y.tab _).1
    rw [shown_after_iff sound ordered (answer_ids answerable ordered) mem]
    by_cases shown : Shown y m
    · exact Or.inl shown
    · exact Or.inr ((within_sync_iff sound mem).mpr
        (within m mem (own.trans couple) shown) rows ordered)

end CatchUp

def sampleMessage (sentAtMs : Int) : ChatSendDto :=
  { coupleId := js "couple", senderUserId := none, kind := .text, text := some (js "hi")
    imageUrl := none, clientMessageId := none, sentAtMs := some sentAtMs }

/-- A tab that gets a message of time 10 and then goes offline. -/
def sampleOnline : List Event :=
  [.serve 0 (sampleDraw "-") [], .receive 0 1, .connect, .serve 0 (sampleDraw "-") [],
    .receive 0 2, .otherSend (js "you") (sampleMessage 10) (sampleDraw "row-1"), .live 0 3]

def sampleOffline (sentAtMs : Int) : List Event :=
  [.disconnect, .otherSend (js "you") (sampleMessage sentAtMs) (sampleDraw "row-2")]

def sampleState (sentAtMs : Int) : System :=
  let start := initial sampleHistory (js "couple") (js "me")
  (run (step plainCipher) start (sampleOnline ++ sampleOffline sentAtMs)).getD start

def sampleRows : List ChatMessage :=
  [newRecord plainCipher (sampleMessage 10) (js "you") (sampleDraw "row-1"),
    newRecord plainCipher (sampleMessage 11) (js "you") (sampleDraw "row-2")]

def sampleCaughtUp : System :=
  (run (step plainCipher) (sampleState 11) (catchUpEvents (sampleDraw "-") sampleRows 4)).getD
    (sampleState 11)

theorem later_message_is_caught_up : ¬ ShowsAll (sampleState 11) ∧ ShowsAll sampleCaughtUp := by
  have reached : run (step plainCipher) (initial sampleHistory (js "couple") (js "me"))
      (sampleOnline ++ sampleOffline 11) = some (sampleState 11) := by decide
  have moved : run (step plainCipher) (sampleState 11)
      (catchUpEvents (sampleDraw "-") sampleRows 4) = some sampleCaughtUp := by decide
  refine ⟨by decide, ?_⟩
  exact (catch_up_shows_all_iff_within_sync plain_cipher_inverts sample_history (by decide)
    (by decide) reached (by decide) (by decide) _ _).mpr (by decide) sampleRows _ moved

/-- A message whose sender's clock is behind is not caught up. -/
theorem earlier_message_stays_missing :
    ¬ ∀ cipher : Cipher,
      (∀ iv content, cipher.decrypt (cipher.encrypt iv content) = some content) →
      ∀ s coupleId userId, History s → (∀ m ∈ s.messages, (cipher.decrypt m.payload).isSome) →
      s.isMember coupleId userId = true →
      ∀ online y offline z draw rows now w,
        run (step cipher) (initial s coupleId userId) online = some y → ShowsAll y →
        run (step cipher) y (.disconnect :: offline) = some z → .connect ∉ offline →
        z.flight = [] → run (step cipher) z (catchUpEvents draw rows now) = some w →
        ShowsAll w := by
  intro every
  have shows := every plainCipher plain_cipher_inverts sampleHistory (js "couple") (js "me")
    sample_history (by decide) (by decide) sampleOnline _ (sampleOffline 5).tail _
    (sampleDraw "-") [newRecord plainCipher (sampleMessage 10) (js "you") (sampleDraw "row-1")] 4 _
    rfl (by decide) rfl (by decide) rfl rfl
  revert shows
  decide

end ChatCatchUp
