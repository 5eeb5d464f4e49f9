import Linkly.ChatGateway

/-!
Who sits in the room of a couple. The handshake checks the token and not the membership, so that
the rooms hold members only exactly when every accepted handshake names the couple of its user.
-/
namespace ChatRooms
open ChatService ChatGateway JsText TransitionRuns

/-- A socket in the room of a couple presented a token issued for its user, who was a member of
    the couple when the socket joined. -/
def RoomsHoldMembers (Issued : JsString → JsString → Prop) (y : System) : Prop :=
  ∀ socket ∈ y.sockets, ∀ coupleId, roomForCouple coupleId ∈ socket.rooms →
    Issued socket.token socket.data.userId ∧ ⟨coupleId, socket.data.userId⟩ ∈ socket.membersAtJoin

/-- A handshake that is accepted names a couple of which its user is a member now. -/
def NamesOwnCouple (verify : JsString → Option JsString) (y : System) : Event → Prop
  | .connect handshake => ∀ accepted ∈ accepts verify handshake,
      ⟨accepted.1.coupleId, accepted.1.userId⟩ ∈ y.store.members
  | _ => True

instance (verify : JsString → Option JsString) (y : System) (e : Event) :
    Decidable (NamesOwnCouple verify y e) := by
  cases e <;> unfold NamesOwnCouple <;> infer_instance

theorem room_injective {a b : JsString} (same : roomForCouple a = roomForCouple b) : a = b :=
  List.append_cancel_left same

theorem channel_couple (coupleId : JsString) :
    (channelPrefix ++ coupleId).drop channelPrefix.length = coupleId :=
  List.drop_left

/-- What every socket, queued job and published message keeps from its making. -/
structure Wired (verify : JsString → Option JsString) (y : System) : Prop where
  rooms : ∀ socket ∈ y.sockets, socket.rooms = [roomForCouple socket.data.coupleId]
  verified : ∀ socket ∈ y.sockets, verify socket.token = some socket.data.userId
  received : ∀ socket ∈ y.sockets, ∀ message ∈ socket.received,
    message.coupleId = socket.data.coupleId
  queue : ∀ job ∈ y.store.queue, job.message.coupleId = job.coupleId
  channels : ∀ entry ∈ y.channels, entry.1 = channelPrefix ++ entry.2.coupleId

theorem accepts_verified {verify : JsString → Option JsString} {handshake : Handshake}
    {data : SocketData} {token : JsString}
    (accepted : accepts verify handshake = some (data, token)) :
    verify token = some data.userId := by
  unfold accepts at accepted
  split at accepted
  · split_ifs at accepted with missing verified
    obtain ⟨rfl, rfl⟩ := Prod.mk.inj (Option.some.inj accepted)
    exact verified
  · simp at accepted

theorem receive_fields (room : JsString) (message : ChatFanoutMessage) (socket : ChatSocket) :
    (socket.receive room message).data = socket.data ∧
      (socket.receive room message).rooms = socket.rooms ∧
      (socket.receive room message).token = socket.token ∧
      (socket.receive room message).membersAtJoin = socket.membersAtJoin := by
  unfold ChatSocket.receive
  split <;> simp

section Sockets
variable {verify : JsString → Option JsString} {Issued : JsString → JsString → Prop}

theorem wired_of_store {y : System} {s : Store} (wired : Wired verify y)
    (queue : ∀ job ∈ s.queue, job.message.coupleId = job.coupleId) :
    Wired verify { y with store := s } :=
  { wired with queue := queue }

theorem created_queue {cipher : Cipher} {s t : Store} {payload : ChatSendDto} {draw : Draw}
    {senderUserId : JsString} {view : ChatMessageView}
    (created : Created cipher s payload draw senderUserId view t)
    (queue : ∀ job ∈ s.queue, job.message.coupleId = job.coupleId) :
    ∀ job ∈ t.queue, job.message.coupleId = job.coupleId := by
  intro job mem
  rw [created.queue] at mem
  rcases List.mem_append.mp mem with old | new
  · exact queue job old
  · split at new
    · rw [List.mem_singleton.mp new, created.view_eq]
      rfl
    · simp at new

/-- After a send, by any path, the queue holds well-addressed jobs as before. -/
theorem send_queue {cipher : Cipher} {s : Store} {payload : ChatSendDto} {draw : Draw}
    (queue : ∀ job ∈ s.queue, job.message.coupleId = job.coupleId) :
    ∀ job ∈ (storeAfter s ((createMessage cipher s payload draw).map (·.2))).queue,
      job.message.coupleId = job.coupleId := by
  cases done : createMessage cipher s payload draw with
  | error e => exact queue
  | ok result =>
    obtain ⟨_, created⟩ := create_message_ok cipher done
    exact created_queue created queue

theorem wired_connect {y : System} (wired : Wired verify y) (handshake : Handshake) :
    Wired verify (handleConnection verify y handshake) := by
  unfold handleConnection
  split
  · exact { wired with }
  · rename_i data token accepted
    exact
      { wired with
        rooms := List.forall_mem_cons.mpr ⟨rfl, wired.rooms⟩
        verified := List.forall_mem_cons.mpr ⟨accepts_verified accepted, wired.verified⟩
        received := List.forall_mem_cons.mpr ⟨by simp, wired.received⟩ }

theorem wired_emit {y : System} {channel : JsString} {message : ChatFanoutMessage}
    (wired : Wired verify y) (addressed : channel = channelPrefix ++ message.coupleId)
    (index : Nat) :
    Wired verify { y with sockets := emit y.sockets channel message
                          channels := y.channels.eraseIdx index } where
  rooms := by
    intro socket mem
    obtain ⟨old, mo, rfl⟩ := List.mem_map.mp mem
    obtain ⟨data, rooms, _, _⟩ := receive_fields
      (roomForCouple (channel.drop channelPrefix.length)) message old
    rw [data, rooms]
    exact wired.rooms old mo
  verified := by
    intro socket mem
    obtain ⟨old, mo, rfl⟩ := List.mem_map.mp mem
    obtain ⟨data, _, token, _⟩ := receive_fields
      (roomForCouple (channel.drop channelPrefix.length)) message old
    rw [data, token]
    exact wired.verified old mo
  received := by
    intro socket mem
    obtain ⟨old, mo, rfl⟩ := List.mem_map.mp mem
    have room := wired.rooms old mo
    rw [addressed, channel_couple]
    unfold ChatSocket.receive
    split
    · rename_i inside
      rw [room, List.mem_singleton] at inside
      intro other mem_received
      rcases List.mem_append.mp mem_received with before | now
      · exact wired.received old mo other before
      · rw [List.mem_singleton.mp now]
        exact room_injective inside
    · exact wired.received old mo
  queue := wired.queue
  channels := fun entry mem => wired.channels entry (List.mem_of_mem_eraseIdx mem)

theorem wired_step {cipher : Cipher} {y z : System} {e : Event} (wired : Wired verify y)
    (moved : step verify cipher y e = some z) : Wired verify z := by
  cases e with
  | connect handshake =>
    cases moved
    exact wired_connect wired handshake
  | disconnect socket =>
    cases moved
    exact
      { wired with
        rooms := fun s mem => wired.rooms s (List.mem_of_mem_filter mem)
        verified := fun s mem => wired.verified s (List.mem_of_mem_filter mem)
        received := fun s mem => wired.received s (List.mem_of_mem_filter mem) }
  | sendHttp userId payload draw =>
    cases moved
    exact wired_of_store wired (send_queue wired.queue)
  | sendSocket socket payload draw =>
    obtain ⟨sender, _, result⟩ := Option.bind_eq_some_iff.mp moved
    cases result
    refine wired_of_store wired ?_
    cases checked : ensurePayloadMatchesClient payload sender.data with
    | error e =>
      simp only [handleSend, checked, bind, Except.bind]
      exact wired.queue
    | ok _ =>
      simp only [handleSend, checked, bind, Except.bind]
      exact send_queue wired.queue
  | runJob index =>
    obtain ⟨job, at_index, result⟩ := Option.bind_eq_some_iff.mp moved
    cases result
    refine { wired with channels := ?_ }
    intro entry mem
    rcases List.mem_append.mp mem with old | new
    · exact wired.channels entry old
    · rw [List.mem_singleton.mp new, publish, wired.queue job (List.mem_of_getElem? at_index)]
  | deliver index =>
    obtain ⟨⟨channel, message⟩, at_index, result⟩ := Option.bind_eq_some_iff.mp moved
    cases result
    exact wired_emit wired (wired.channels _ (List.mem_of_getElem? at_index)) index
  | breakUp coupleId userId =>
    cases moved
    refine wired_of_store wired ?_
    unfold breakUp ensureCoupleMember
    split <;> exact wired.queue

theorem wired_initial (members : List CoupleMember) : Wired verify (initial members) := by
  refine ⟨?_, ?_, ?_, ?_, ?_⟩ <;> simp [initial]

theorem hold_members_emit {y : System} (channel : JsString) (message : ChatFanoutMessage)
    (index : Nat) (hold : RoomsHoldMembers Issued y) :
    RoomsHoldMembers Issued { y with sockets := emit y.sockets channel message
                                     channels := y.channels.eraseIdx index } := by
  intro socket mem coupleId inside
  obtain ⟨old, mo, rfl⟩ := List.mem_map.mp mem
  obtain ⟨data, rooms, token, members⟩ := receive_fields
    (roomForCouple (channel.drop channelPrefix.length)) message old
  rw [rooms] at inside
  rw [data, token, members]
  exact hold old mo coupleId inside

/-- A connection keeps strangers out of the rooms exactly if its handshake names an own couple. -/
theorem hold_members_connect_iff
    (issued : ∀ token userId, verify token = some userId ↔ Issued token userId) {y : System}
    (handshake : Handshake) (hold : RoomsHoldMembers Issued y) :
    RoomsHoldMembers Issued (handleConnection verify y handshake) ↔
      NamesOwnCouple verify y (.connect handshake) := by
  cases accepted : accepts verify handshake with
  | none =>
    have named : NamesOwnCouple verify y (.connect handshake) := by
      simp [NamesOwnCouple, accepted]
    have kept : RoomsHoldMembers Issued (handleConnection verify y handshake) := by
      simp only [handleConnection, accepted]
      exact hold
    exact iff_of_true kept named
  | some entry =>
    obtain ⟨data, token⟩ := entry
    have token_issued := (issued _ _).mp (accepts_verified accepted)
    have named : NamesOwnCouple verify y (.connect handshake) ↔
        ⟨data.coupleId, data.userId⟩ ∈ y.store.members := by
      simp [NamesOwnCouple, accepted]
    simp only [named, handleConnection, accepted]
    constructor
    · intro after
      exact (after _ List.mem_cons_self data.coupleId (by simp)).2
    · intro member socket mem coupleId inside
      rcases List.mem_cons.mp mem with rfl | old
      · rw [room_injective (List.mem_singleton.mp inside)]
        exact ⟨token_issued, member⟩
      · exact hold socket old coupleId inside

theorem step_holds_members {cipher : Cipher}
    (issued : ∀ token userId, verify token = some userId ↔ Issued token userId) {y z : System}
    {e : Event} (moved : step verify cipher y e = some z) (hold : RoomsHoldMembers Issued y) :
    RoomsHoldMembers Issued z ↔ NamesOwnCouple verify y e := by
  cases e with
  | connect handshake =>
    cases moved
    exact hold_members_connect_iff issued handshake hold
  | disconnect socket =>
    cases moved
    refine iff_of_true ?_ trivial
    intro other mem
    exact hold other (List.mem_of_mem_filter mem)
  | sendHttp userId payload draw =>
    cases moved
    exact iff_of_true hold trivial
  | sendSocket socket payload draw =>
    obtain ⟨_, _, result⟩ := Option.bind_eq_some_iff.mp moved
    cases result
    exact iff_of_true hold trivial
  | runJob index =>
    obtain ⟨_, _, result⟩ := Option.bind_eq_some_iff.mp moved
    cases result
    exact iff_of_true hold trivial
  | deliver index =>
    obtain ⟨⟨channel, message⟩, _, result⟩ := Option.bind_eq_some_iff.mp moved
    cases result
    exact iff_of_true (hold_members_emit channel message index hold) trivial
  | breakUp coupleId userId =>
    cases moved
    exact iff_of_true hold trivial

end Sockets

/-- The messages that a socket has received are those of the couple it joined for. -/
theorem received_of_own_room {verify : JsString → Option JsString} {cipher : Cipher}
    {members : List CoupleMember} {es : List Event} {y : System}
    (reached : run (step verify cipher) (initial members) es = some y) {socket : ChatSocket}
    (mem : socket ∈ y.sockets) {message : ChatFanoutMessage}
    (received : message ∈ socket.received) :
    roomForCouple message.coupleId ∈ socket.rooms := by
  have wired := run_keeps (Wired verify) (fun _ _ _ once kept => wired_step kept once) reached
    (wired_initial members)
  rw [wired.rooms socket mem, wired.received socket mem message received]
  exact List.mem_singleton_self _

theorem rooms_hold_members_iff_own_couple_named {verify : JsString → Option JsString}
    {Issued : JsString → JsString → Prop}
    (issued : ∀ token userId, verify token = some userId ↔ Issued token userId)
    (cipher : Cipher) (members : List CoupleMember) (es : List Event) :
    EveryState (step verify cipher) (RoomsHoldMembers Issued) (initial members) es ↔
      EachStep (step verify cipher) (NamesOwnCouple verify) (initial members) es :=
  every_state_iff_each_step (fun _ => True) (fun _ _ _ _ _ _ => trivial)
    (fun _ _ _ _ moved _ hold => step_holds_members issued moved hold) trivial
    (by simp [RoomsHoldMembers, initial])

/-- The server accepts the one token that it issued to bob. -/
def sampleVerify (token : JsString) : Option JsString :=
  if token = js "bob-token" then some (js "bob") else none

def handshakeFor (coupleId : String) : Handshake :=
  ⟨⟨.string (js coupleId), .string (js "bob"), .string (js " bob-token ")⟩,
    ⟨.undefined, .undefined, .undefined⟩⟩

def sampleMessage : ChatSendDto :=
  { coupleId := js "couple-2", senderUserId := some (js "bob"), kind := .text
    text := some (js "hello"), imageUrl := none, clientMessageId := none, sentAtMs := some 7 }

theorem member_joins_own_room :
    EveryState (step sampleVerify plainCipher)
      (RoomsHoldMembers fun token userId => sampleVerify token = some userId)
      (initial [⟨js "couple-2", js "bob"⟩])
      [.connect (handshakeFor "couple-2"),
        .sendSocket 0 sampleMessage ⟨js "m1", [], ⟨0, by decide⟩, true⟩, .runJob 0, .deliver 0,
        .breakUp (js "couple-2") (js "bob")] :=
  (rooms_hold_members_iff_own_couple_named (fun _ _ => Iff.rfl) plainCipher _ _).mpr (by decide)

theorem stranger_joins_room :
    ¬ ∀ (verify : JsString → Option JsString) (Issued : JsString → JsString → Prop) cipher members es,
      (∀ token userId, verify token = some userId ↔ Issued token userId) →
        EveryState (step verify cipher) (RoomsHoldMembers Issued) (initial members) es := by
  intro every
  have states := every sampleVerify (fun token userId => sampleVerify token = some userId)
    plainCipher [⟨js "couple-1", js "alice"⟩] [.connect (handshakeFor "couple-1")]
    (fun _ _ => Iff.rfl)
  have joined := states.2 _ rfl _ List.mem_cons_self (js "couple-1") (by decide)
  revert joined
  decide

end ChatRooms
