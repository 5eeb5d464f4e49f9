import Linkly.ChatRooms

/-!
What live messages are worth. Between the call that stores a message and the sockets that receive
it stand a queue, a worker and Redis: nothing comes out at their end that no member has sent, and
what comes out is what the history shows.
-/
namespace ChatDelivery
open ChatService ChatGateway ChatRooms JsText TransitionRuns

/-- The message is in the queue, on its way through Redis, or at a socket. -/
def Afloat (y : System) (message : ChatFanoutMessage) : Prop :=
  (∃ job ∈ y.store.queue, job.message = message) ∨ (∃ entry ∈ y.channels, entry.2 = message) ∨
    ∃ socket ∈ y.sockets, message ∈ socket.received

section Sends
variable (cipher : Cipher)

def messageOf (payload : ChatSendDto) :
    Except Exception (ChatMessageView × Store) → Option ChatFanoutMessage
  | .ok (view, _) => some ⟨view, payload.clientMessageId⟩
  | .error _ => none

/-- The message of a send that the service accepts. -/
def sentBy (y : System) : Event → Option ChatFanoutMessage
  | .sendHttp userId payload draw =>
    messageOf payload (sendMessage cipher y.store userId payload draw)
  | .sendSocket socket payload draw => do
    let sender ← y.sockets.find? (·.id = socket)
    messageOf payload (handleSend cipher y.store sender.data payload draw)
  | _ => none

/-- A send over HTTP is made by the user of its request, one over a socket by the user of the
    token that the socket has presented. -/
def RequestedBy (verify : JsString → Option JsString) (y : System) (userId : JsString) :
    Event → Prop
  | .sendHttp sender _ _ => sender = userId
  | .sendSocket id _ _ => ∃ socket ∈ y.sockets, socket.id = id ∧ verify socket.token = some userId
  | _ => False

end Sends

section Causes
variable {cipher : Cipher} {verify : JsString → Option JsString}

theorem queued_after_send {s : Store} {payload : ChatSendDto} {draw : Draw} {job : ChatFanoutJob}
    (mem : job ∈ (storeAfter s ((createMessage cipher s payload draw).map (·.2))).queue) :
    job ∈ s.queue ∨ messageOf payload (createMessage cipher s payload draw) = some job.message := by
  cases done : createMessage cipher s payload draw with
  | error e =>
    rw [done] at mem
    exact Or.inl mem
  | ok result =>
    obtain ⟨view, t⟩ := result
    obtain ⟨_, created⟩ := create_message_ok cipher done
    rw [done] at mem
    change job ∈ t.queue at mem
    rw [created.queue] at mem
    rcases List.mem_append.mp mem with old | new
    · exact Or.inl old
    · split at new
      · rw [List.mem_singleton.mp new]
        exact Or.inr rfl
      · simp at new

theorem received_after_emit {sockets : List ChatSocket} {channel : JsString}
    {message other : ChatFanoutMessage}
    (received : ∃ socket ∈ emit sockets channel message, other ∈ socket.received) :
    (∃ socket ∈ sockets, other ∈ socket.received) ∨ other = message := by
  obtain ⟨socket, mem, inside⟩ := received
  obtain ⟨old, old_mem, rfl⟩ := List.mem_map.mp mem
  unfold ChatSocket.receive at inside
  split at inside
  · rcases List.mem_append.mp inside with before | now
    · exact Or.inl ⟨old, old_mem, before⟩
    · exact Or.inr (List.mem_singleton.mp now)
  · exact Or.inl ⟨old, old_mem, inside⟩

theorem queued_after_socket_send {s : Store} {data : SocketData} {payload : ChatSendDto}
    {draw : Draw} {job : ChatFanoutJob}
    (mem : job ∈ (storeAfter s ((handleSend cipher s data payload draw).map (·.2))).queue) :
    job ∈ s.queue ∨ messageOf payload (handleSend cipher s data payload draw) =
      some job.message := by
  cases checked : ensurePayloadMatchesClient payload data with
  | error e =>
    simp only [handleSend, checked, bind, Except.bind] at mem
    exact Or.inl mem
  | ok _ =>
    simp only [handleSend, checked, bind, Except.bind] at mem ⊢
    exact queued_after_send mem

/-- A socket that joins has received nothing. -/
theorem afloat_connect {y : System} {handshake : Handshake} {message : ChatFanoutMessage}
    (afloat : Afloat (handleConnection verify y handshake) message) : Afloat y message := by
  unfold handleConnection at afloat
  split at afloat
  · exact afloat
  · rcases afloat with queued | on_way | ⟨socket, mem, inside⟩
    · exact Or.inl queued
    · exact Or.inr (Or.inl on_way)
    · rcases List.mem_cons.mp mem with rfl | old
      · simp at inside
      · exact Or.inr (Or.inr ⟨socket, old, inside⟩)

/-- A step sets a message afloat only if it is the send of this message. -/
theorem afloat_step {y z : System} {e : Event} {message : ChatFanoutMessage}
    (moved : step verify cipher y e = some z) (afloat : Afloat z message) :
    Afloat y message ∨ sentBy cipher y e = some message := by
  cases e with
  | connect handshake =>
    cases moved
    exact Or.inl (afloat_connect afloat)
  | disconnect socket =>
    cases moved
    rcases afloat with queued | on_way | ⟨other, mem, inside⟩
    · exact Or.inl (Or.inl queued)
    · exact Or.inl (Or.inr (Or.inl on_way))
    · exact Or.inl (Or.inr (Or.inr ⟨other, List.mem_of_mem_filter mem, inside⟩))
  | sendHttp userId payload draw =>
    cases moved
    rcases afloat with ⟨job, mem, rfl⟩ | rest
    · rcases queued_after_send mem with old | sent
      · exact Or.inl (Or.inl ⟨job, old, rfl⟩)
      · exact Or.inr sent
    · exact Or.inl (Or.inr rest)
  | sendSocket socket payload draw =>
    obtain ⟨sender, found, result⟩ := Option.bind_eq_some_iff.mp moved
    cases result
    rcases afloat with ⟨job, mem, rfl⟩ | rest
    · rcases queued_after_socket_send mem with old | sent
      · exact Or.inl (Or.inl ⟨job, old, rfl⟩)
      · right
        simp only [sentBy, found, Option.bind_eq_bind, Option.bind_some]
        exact sent
    · exact Or.inl (Or.inr rest)
  | runJob index =>
    obtain ⟨job, at_index, result⟩ := Option.bind_eq_some_iff.mp moved
    cases result
    left
    rcases afloat with queued | ⟨entry, mem, rfl⟩ | received
    · exact Or.inl queued
    · rcases List.mem_append.mp mem with old | new
      · exact Or.inr (Or.inl ⟨entry, old, rfl⟩)
      · rw [List.mem_singleton.mp new]
        exact Or.inl ⟨job, List.mem_of_getElem? at_index, rfl⟩
    · exact Or.inr (Or.inr received)
  | deliver index =>
    obtain ⟨⟨channel, delivered⟩, at_index, result⟩ := Option.bind_eq_some_iff.mp moved
    cases result
    left
    rcases afloat with queued | ⟨entry, mem, rfl⟩ | received
    · exact Or.inl queued
    · exact Or.inr (Or.inl ⟨entry, List.mem_of_mem_eraseIdx mem, rfl⟩)
    · rcases received_after_emit received with before | rfl
      · exact Or.inr (Or.inr before)
      · exact Or.inr (Or.inl ⟨_, List.mem_of_getElem? at_index, rfl⟩)
  | breakUp coupleId userId =>
    cases moved
    rcases afloat with ⟨job, mem, rfl⟩ | rest
    · refine Or.inl (Or.inl ⟨job, ?_, rfl⟩)
      unfold breakUp ensureCoupleMember at mem
      split at mem <;> exact mem
    · exact Or.inl (Or.inr rest)

theorem message_of_created {s : Store} {payload : ChatSendDto} {draw : Draw}
    {message : ChatFanoutMessage}
    (sent : messageOf payload (createMessage cipher s payload draw) = some message) :
    payload.senderUserId = some message.senderUserId ∧ payload.coupleId = message.coupleId ∧
      s.isMember message.coupleId message.senderUserId = true := by
  cases done : createMessage cipher s payload draw with
  | error e =>
    rw [done] at sent
    simp [messageOf] at sent
  | ok result =>
    rw [done] at sent
    obtain ⟨senderUserId, created⟩ := create_message_ok cipher done
    cases sent
    refine ⟨?_, ?_, ?_⟩ <;> rw [created.view_eq]
    · exact created.sender
    · rfl
    · exact created.member

/-- An accepted send is made as its sender, who is a member of the couple. -/
theorem sent_by_member {y : System} (wired : Wired verify y) {e : Event}
    {message : ChatFanoutMessage} (sent : sentBy cipher y e = some message) :
    RequestedBy verify y message.senderUserId e ∧
      y.store.isMember message.coupleId message.senderUserId = true := by
  cases e with
  | sendHttp userId payload draw =>
    obtain ⟨sender, _, member⟩ := message_of_created sent
    exact ⟨Option.some.inj sender, member⟩
  | sendSocket id payload draw =>
    obtain ⟨socket, found, sent⟩ := Option.bind_eq_some_iff.mp sent
    cases checked : ensurePayloadMatchesClient payload socket.data with
    | error e => simp [handleSend, checked, bind, Except.bind, messageOf] at sent
    | ok _ =>
      have own : payload.senderUserId = some socket.data.userId := by
        unfold ensurePayloadMatchesClient at checked
        split_ifs at checked with couple sender
        exact not_not.mp sender
      simp only [handleSend, checked, bind, Except.bind] at sent
      obtain ⟨sender, _, member⟩ := message_of_created sent
      have in_list := List.mem_of_find?_eq_some found
      refine ⟨⟨socket, in_list, by simpa using List.find?_some found, ?_⟩, member⟩
      rw [wired.verified socket in_list, ← own, sender]
  | _ => simp [sentBy] at sent

end Causes

/-- Whatever a socket receives is of its couple, and was sent before with these contents by a user
    who was authenticated as its sender and was a member of the couple at that time. -/
theorem received_was_sent {verify : JsString → Option JsString} {cipher : Cipher}
    {members : List CoupleMember} {es : List Event} {y : System}
    (reached : run (step verify cipher) (initial members) es = some y) {socket : ChatSocket}
    (mem : socket ∈ y.sockets) {message : ChatFanoutMessage}
    (received : message ∈ socket.received) :
    message.coupleId = socket.data.coupleId ∧
      ∃ front e back z, es = front ++ e :: back ∧
        run (step verify cipher) (initial members) front = some z ∧
        sentBy cipher z e = some message ∧ RequestedBy verify z message.senderUserId e ∧
        z.store.isMember message.coupleId message.senderUserId = true := by
  have wired {es : List Event} {z : System}
      (to_z : run (step verify cipher) (initial members) es = some z) : Wired verify z :=
    run_keeps (Wired verify) (fun _ _ _ once kept => wired_step kept once) to_z
      (wired_initial members)
  refine ⟨(wired reached).received socket mem message received, ?_⟩
  rcases caused_in_run Afloat (fun z e message => sentBy cipher z e = some message)
      (fun _ _ _ _ => afloat_step) reached (Or.inr (Or.inr ⟨socket, mem, received⟩))
    with start | sent
  · simp [Afloat, initial] at start
  · obtain ⟨front, e, back, z, split_run, to_z, caused⟩ := sent
    obtain ⟨requested, member⟩ := sent_by_member (wired to_z) caused
    exact ⟨front, e, back, z, split_run, to_z, caused, requested, member⟩

def sampleRun : List Event :=
  [.connect (handshakeFor "couple-2"),
    .sendSocket 0 sampleMessage ⟨js "m1", [], ⟨86400007, by decide⟩, true⟩, .runJob 0, .runJob 0,
    .deliver 1]

def sampleMembers : List CoupleMember := [⟨js "couple-2", js "bob"⟩]

theorem sample_was_sent :
    ∃ front e back z message, sampleRun = front ++ e :: back ∧
      run (step sampleVerify plainCipher) (initial sampleMembers) front = some z ∧
      sentBy plainCipher z e = some message ∧
      RequestedBy sampleVerify z message.senderUserId e := by
  obtain ⟨y, reached, socket, mem, message, received⟩ :
      ∃ y, run (step sampleVerify plainCipher) (initial sampleMembers) sampleRun = some y ∧
        ∃ socket ∈ y.sockets, ∃ message, message ∈ socket.received :=
    ⟨_, rfl, _, List.mem_cons_self, _, List.mem_cons_self⟩
  obtain ⟨_, front, e, back, z, split_run, to_z, sent, requested, _⟩ :=
    received_was_sent reached mem received
  exact ⟨front, e, back, z, message, split_run, to_z, sent, requested⟩

section History
variable {cipher : Cipher} {verify : JsString → Option JsString}

/-- What a step may do to the rows: nothing, one message more, or a couple less. -/
inductive RowsChange (cipher : Cipher) (s t : Store) : Option ChatFanoutMessage → Prop where
  | none (members : t.members = s.members) (messages : t.messages = s.messages) :
    RowsChange cipher s t none
  | sent (payload : ChatSendDto) (draw : Draw) (senderUserId : JsString) (view : ChatMessageView)
    (created : Created cipher s payload draw senderUserId view t) :
    RowsChange cipher s t (some ⟨view, payload.clientMessageId⟩)
  | brokenUp (coupleId : JsString) (members : t.members = s.members.filter (·.coupleId ≠ coupleId))
    (messages : t.messages = s.messages.filter (·.coupleId ≠ coupleId)) :
    RowsChange cipher s t none

theorem send_change (s : Store) (payload : ChatSendDto) (draw : Draw) :
    RowsChange cipher s (storeAfter s ((createMessage cipher s payload draw).map (·.2)))
      (messageOf payload (createMessage cipher s payload draw)) := by
  cases done : createMessage cipher s payload draw with
  | error e => exact .none rfl rfl
  | ok result =>
    obtain ⟨view, t⟩ := result
    obtain ⟨senderUserId, created⟩ := create_message_ok cipher done
    exact .sent payload draw senderUserId view created

theorem rows_change {y z : System} {e : Event} (moved : step verify cipher y e = some z) :
    RowsChange cipher y.store z.store (sentBy cipher y e) := by
  cases e with
  | connect handshake =>
    cases moved
    unfold handleConnection
    split <;> exact .none rfl rfl
  | disconnect socket =>
    cases moved
    exact .none rfl rfl
  | sendHttp userId payload draw =>
    cases moved
    exact send_change y.store { payload with senderUserId := some userId } draw
  | sendSocket socket payload draw =>
    obtain ⟨sender, found, result⟩ := Option.bind_eq_some_iff.mp moved
    cases result
    simp only [sentBy, found, Option.bind_eq_bind, Option.bind_some]
    cases checked : ensurePayloadMatchesClient payload sender.data with
    | error e =>
      simp only [handleSend, checked, bind, Except.bind]
      exact .none rfl rfl
    | ok _ =>
      simp only [handleSend, checked, bind, Except.bind]
      exact send_change y.store payload draw
  | runJob index =>
    obtain ⟨_, _, result⟩ := Option.bind_eq_some_iff.mp moved
    cases result
    exact .none rfl rfl
  | deliver index =>
    obtain ⟨⟨_, _⟩, _, result⟩ := Option.bind_eq_some_iff.mp moved
    cases result
    exact .none rfl rfl
  | breakUp coupleId userId =>
    cases moved
    simp only [sentBy]
    unfold breakUp ensureCoupleMember
    split
    · exact .brokenUp coupleId rfl rfl
    · exact .none rfl rfl

/-- Every row can be read, ids are unique, and the row of a message that is afloat shows the same
    contents as long as its couple has a member. -/
structure Recorded (cipher : Cipher) (y : System) : Prop where
  readable : ∀ row ∈ y.store.messages, (cipher.decrypt row.payload).isSome
  once : (y.store.messages.map ChatMessage.id).Nodup
  afloat : ∀ message, Afloat y message → ∀ member ∈ y.store.members,
    member.coupleId = message.coupleId →
      ∃ row ∈ y.store.messages, decryptView cipher row = .ok message.toChatMessageView

theorem new_record_view
    (inverts : ∀ iv content, cipher.decrypt (cipher.encrypt iv content) = some content)
    (payload : ChatSendDto) (senderUserId : JsString) (draw : Draw) :
    decryptView cipher (newRecord cipher payload senderUserId draw) =
      .ok (toView (newRecord cipher payload senderUserId draw) payload.text payload.imageUrl) := by
  have content : cipher.decrypt (newRecord cipher payload senderUserId draw).payload =
      some ⟨payload.text, payload.imageUrl⟩ := inverts _ _
  simp [decryptView, content]

theorem view_readable {row : ChatMessage} {view : ChatMessageView}
    (done : decryptView cipher row = .ok view) : (cipher.decrypt row.payload).isSome := by
  cases decrypted : cipher.decrypt row.payload with
  | none => simp [decryptView, decrypted] at done
  | some content => rfl

theorem decrypt_view_couple {row : ChatMessage} {view : ChatMessageView}
    (done : decryptView cipher row = .ok view) : row.coupleId = view.coupleId := by
  unfold decryptView at done
  split at done
  · simp at done
  · rw [← Except.ok.inj done]
    rfl

theorem recorded_step
    (inverts : ∀ iv content, cipher.decrypt (cipher.encrypt iv content) = some content)
    {y z : System} {e : Event} (moved : step verify cipher y e = some z)
    (recorded : Recorded cipher y) : Recorded cipher z := by
  have change := rows_change moved
  have origin (message : ChatFanoutMessage) (afloat : Afloat z message) :=
    afloat_step moved afloat
  generalize sentBy cipher y e = sent at change origin
  cases change with
  | none members messages =>
    refine ⟨by rw [messages]; exact recorded.readable, by rw [messages]; exact recorded.once, ?_⟩
    intro message afloat member mem own
    rw [members] at mem
    rw [messages]
    rcases origin message afloat with before | now
    · exact recorded.afloat message before member mem own
    · simp at now
  | sent payload draw senderUserId view created =>
    have row_view := new_record_view inverts payload senderUserId draw
    rw [← created.view_eq] at row_view
    refine ⟨?_, ?_, ?_⟩
    · intro row mem
      rw [created.messages] at mem
      rcases List.mem_append.mp mem with old | new
      · exact recorded.readable row old
      · rw [List.mem_singleton.mp new]
        exact view_readable row_view
    · rw [created.messages, List.map_append]
      refine List.nodup_append.mpr ⟨recorded.once, by simp, ?_⟩
      intro id old other new same
      rw [List.map_singleton, List.mem_singleton] at new
      rw [same, new] at old
      exact created.fresh old
    · intro message afloat member mem own
      rw [created.members] at mem
      rw [created.messages]
      rcases origin message afloat with before | now
      · obtain ⟨row, row_mem, shows⟩ := recorded.afloat message before member mem own
        exact ⟨row, List.mem_append_left _ row_mem, shows⟩
      · obtain rfl := Option.some.inj now
        exact ⟨_, List.mem_append_right _ (List.mem_singleton_self _), row_view⟩
  | brokenUp coupleId members messages =>
    refine ⟨?_, ?_, ?_⟩
    · intro row mem
      rw [messages] at mem
      exact recorded.readable row (List.mem_of_mem_filter mem)
    · rw [messages]
      exact recorded.once.sublist (List.filter_sublist.map _)
    · intro message afloat member mem own
      rw [members] at mem
      obtain ⟨mem, kept⟩ := List.mem_filter.mp mem
      rcases origin message afloat with before | now
      · obtain ⟨row, row_mem, shows⟩ := recorded.afloat message before member mem own
        refine ⟨row, ?_, shows⟩
        rw [messages, List.mem_filter]
        refine ⟨row_mem, ?_⟩
        rw [decrypt_view_couple shows, ← own]
        exact kept
      · simp at now

theorem recorded_initial (members : List CoupleMember) : Recorded cipher (initial members) := by
  refine ⟨?_, ?_, ?_⟩ <;> simp [initial, Afloat]

theorem selects_row {query : ChatFetchQueryDto} {row : ChatMessage} {view : ChatMessageView}
    (shows : decryptView cipher row = .ok view) :
    query.selects row = true ↔ view.coupleId = query.coupleId ∧
      (bound query.beforeMs).all (view.sentAtMs < ·) ∧
        (bound query.afterMs).all (· ≤ view.sentAtMs) := by
  unfold decryptView at shows
  split at shows
  · simp at shows
  · rw [← Except.ok.inj shows]
    simp only [ChatFetchQueryDto.selects, toView, decide_eq_true_eq]
    rfl

end History

/-- A message that a socket has received is in the history with the same contents, once, for every
    member who fetches a page that covers its time, until the couple breaks up. -/
theorem received_is_in_history {verify : JsString → Option JsString} {cipher : Cipher}
    (inverts : ∀ iv content, cipher.decrypt (cipher.encrypt iv content) = some content)
    {members : List CoupleMember} {es : List Event} {y : System}
    (reached : run (step verify cipher) (initial members) es = some y) {socket : ChatSocket}
    (mem : socket ∈ y.sockets) {message : ChatFanoutMessage}
    (received : message ∈ socket.received) {query : ChatFetchQueryDto}
    (own : query.coupleId = message.coupleId)
    (member : y.store.isMember query.coupleId query.userId = true)
    (before : (bound query.beforeMs).all (message.sentAtMs < ·))
    (after : (bound query.afterMs).all (· ≤ message.sentAtMs)) {rows : List ChatMessage}
    (ordered : OrderedRows y.store query rows) (covers : rows.length ≤ query.limit) :
    ∃ views, fetchMessages cipher y.store query rows = .ok views ∧
      message.toChatMessageView ∈ views ∧ (views.map ChatMessageView.id).Nodup := by
  have recorded := run_keeps (Recorded cipher)
    (fun _ _ _ once kept => recorded_step inverts once kept) reached (recorded_initial members)
  obtain ⟨owner, owner_mem, owner_of⟩ : ∃ m ∈ y.store.members, m.coupleId = message.coupleId := by
    obtain ⟨m, m_mem, named⟩ := List.any_eq_true.mp member
    simp only [decide_eq_true_eq] at named
    exact ⟨m, m_mem, named.1.trans own⟩
  obtain ⟨row, row_mem, shows⟩ := recorded.afloat message
    (Or.inr (Or.inr ⟨socket, mem, received⟩)) owner owner_mem owner_of
  have selected : row ∈ rows := by
    refine ordered.1.symm.subset (List.mem_filter.mpr ⟨row_mem, ?_⟩)
    exact (selects_row shows).mpr ⟨own.symm, before, after⟩
  obtain ⟨views, fetched⟩ := fetch_messages_ok cipher member fun m m_mem =>
    recorded.readable m (List.mem_of_mem_filter (ordered.1.subset (List.mem_of_mem_take m_mem)))
  obtain ⟨i, at_index⟩ := List.getElem?_of_mem selected
  rw [← List.take_of_length_le covers] at at_index
  exact ⟨views, fetched, List.mem_of_getElem? (fetch_messages_at cipher fetched shows at_index),
    (fetched_page_ids ordered recorded.once fetched).1⟩

def sampleQuery : ChatFetchQueryDto :=
  { coupleId := js "couple-2", userId := js "bob", beforeMs := none, afterMs := some 7 }

theorem sample_is_in_history :
    ∃ y message views, run (step sampleVerify plainCipher) (initial sampleMembers) sampleRun =
        some y ∧ (∃ socket ∈ y.sockets, message ∈ socket.received) ∧
      fetchMessages plainCipher y.store sampleQuery y.store.messages = .ok views ∧
      message.toChatMessageView ∈ views := by
  obtain ⟨y, reached, few, ordered, member, socket, mem, message, received, own, after⟩ :
      ∃ y, run (step sampleVerify plainCipher) (initial sampleMembers) sampleRun = some y ∧
        y.store.messages.length ≤ sampleQuery.limit ∧
        OrderedRows y.store sampleQuery y.store.messages ∧
        y.store.isMember sampleQuery.coupleId sampleQuery.userId = true ∧
        ∃ socket ∈ y.sockets, ∃ message, message ∈ socket.received ∧
          sampleQuery.coupleId = message.coupleId ∧ 7 ≤ message.sentAtMs :=
    ⟨_, rfl, by decide, by decide, rfl, _, List.mem_cons_self, _, List.mem_cons_self, rfl,
      by decide⟩
  obtain ⟨views, fetched, shown, _⟩ := received_is_in_history plain_cipher_inverts reached mem
    received own member rfl (by simpa [sampleQuery, bound] using after) ordered few
  exact ⟨y, message, views, reached, ⟨socket, mem, received⟩, fetched, shown⟩

end ChatDelivery
