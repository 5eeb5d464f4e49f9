import Linkly.ChatGateway
import Linkly.ChatTab

/-!
One mounted chat tab, the server, and what is in flight between them. Requests are served, answers
received and packets lost in any order; live events come from the fanout queue, each any number of
times while the socket is connected. Ids that a client or the database makes up are new.
-/
namespace ChatClient
open ChatService ChatGateway ChatTab JsText TransitionRuns

/-- `none` in a reply is a response that is not ok. -/
inductive Packet where
  | postRequest (body : ChatSendDto)
  | postReply (ok : Bool) (clientMessageId : JsString)
  | initialRequest
  | initialReply (messages : Option (List ChatMessageView))
  | syncRequest (sinceMs : Option Int)
  | syncReply (messages : List ChatMessageView)
  | olderRequest (beforeMs : Int)
  | olderReply (messages : Option (List ChatMessageView))
  deriving DecidableEq, Repr

/-- `origins` is no part of the program: it records under which client id a stored message was
    sent, as pairs of the row's id and the client id. -/
structure System where
  store : Store
  origins : List (JsString × JsString)
  tab : Tab
  connected : Bool
  flight : List Packet
  deriving DecidableEq, Repr

inductive Event where
  | send (draft : Draft) (clientMessageId : JsString) (now : Int)
  | requestOlder
  | connect
  | disconnect
  | otherSend (userId : JsString) (payload : ChatSendDto) (draw : Draw)
  | live (index : Nat) (now : Int)
  | serve (index : Nat) (draw : Draw) (rows : List ChatMessage)
  | receive (index : Nat) (now : Int)
  | lose (index : Nat)
  deriving DecidableEq, Repr

def storedIds (s : Store) : List JsString := s.messages.map ChatMessage.id

def Packet.clientIds : Packet → List JsString
  | .postRequest body => body.clientMessageId.toList
  | _ => []

def Packet.onSocket : Packet → Bool
  | .syncRequest _ | .syncReply _ => true
  | _ => false

/-- A new id: none that a row, a client, the tab or a packet has. -/
def Unused (y : System) (id : JsString) : Prop :=
  id ≠ [] ∧ id ∉ storedIds y.store ∧ id ∉ y.origins.map Prod.snd ∧ id ∉ y.tab.seenMessageIds ∧
    id ∉ y.flight.flatMap Packet.clientIds ∧
    id ∉ y.store.queue.flatMap (·.message.clientMessageId.toList)

instance (y : System) (id : JsString) : Decidable (Unused y id) :=
  inferInstanceAs (Decidable (_ ≠ _ ∧ _ ∉ _ ∧ _ ∉ _ ∧ _ ∉ _ ∧ _ ∉ _ ∧ _ ∉ _))

def pageQuery (tab : Tab) (limit : Nat) (beforeMs : Option Int) : ChatFetchQueryDto :=
  { coupleId := tab.coupleId, userId := tab.userId, limit := limit, beforeMs := beforeMs
    afterMs := none }

def System.stored (y : System) (view : ChatMessageView) (s : Store)
    (clientMessageId : Option JsString) : System :=
  { y with store := s, origins := y.origins ++ clientMessageId.toList.map (view.id, ·) }

section Server
variable (cipher : Cipher) (y : System) (draw : Draw) (rows : List ChatMessage)

/-- `y` is the system without the request. -/
def servePost (body : ChatSendDto) : Option System :=
  if Unused y draw.id ∧ some draw.id ≠ body.clientMessageId then
    match sendMessage cipher y.store y.tab.userId body draw with
    | .ok (view, s) =>
      let next := y.stored view s body.clientMessageId
      some { next with flight := y.flight ++ [.postReply true (body.clientMessageId.getD [])] }
    | .error _ =>
      some { y with flight := y.flight ++ [.postReply false (body.clientMessageId.getD [])] }
  else none

def servePage (query : ChatFetchQueryDto) (reply : Option (List ChatMessageView) → Packet) :
    Option System :=
  if OrderedRows y.store query rows then
    some { y with
      flight := y.flight ++ [reply (fetchMessages cipher y.store query rows).toOption] }
  else none

def serve : Packet → Option System
  | .postRequest body => servePost cipher y draw body
  | .initialRequest =>
    servePage cipher y rows (pageQuery y.tab (INITIAL_BATCH + LOAD_BATCH) none) .initialReply
  | .syncRequest sinceMs =>
    let data : SocketData := ⟨y.tab.coupleId, y.tab.userId⟩
    if OrderedRows y.store (syncQuery data sinceMs) rows then
      some { y with flight := y.flight ++ [.syncReply (handleSync cipher y.store data sinceMs rows)] }
    else none
  | .olderRequest beforeMs =>
    -- the query class rejects a bound below 1
    if beforeMs < 1 then some { y with flight := y.flight ++ [.olderReply none] }
    else servePage cipher y rows (pageQuery y.tab LOAD_BATCH (some beforeMs)) .olderReply
  | _ => none

end Server

def receive (y : System) (now : Int) : Packet → Option System
  | .postReply true _ => some y
  | .postReply false clientMessageId => some { y with tab := markFailed y.tab clientMessageId }
  | .initialReply none => some y
  | .initialReply (some messages) =>
    some { y with tab := handleInitialPage now y.tab (messages.map apiMessage) }
  | .syncReply messages =>
    some { y with tab := handleSyncResponse now y.tab (messages.map apiMessage) }
  | .olderReply none => some { y with tab := { y.tab with isFetchingOlder := false } }
  | .olderReply (some messages) =>
    some { y with tab := handleOlderPage now y.tab (messages.map apiMessage) }
  | _ => none

/-- A request or a reply that is lost: the request ends in an error at the client. -/
def lose (y : System) : Packet → System
  | .postRequest body => { y with tab := markFailed y.tab (body.clientMessageId.getD []) }
  | .postReply _ clientMessageId => { y with tab := markFailed y.tab clientMessageId }
  | .olderRequest _ | .olderReply _ => { y with tab := { y.tab with isFetchingOlder := false } }
  | _ => y

def step (cipher : Cipher) (y : System) : Event → Option System
  | .send draft clientMessageId now =>
    if Unused y clientMessageId then
      some { y with
        tab := showDraft y.tab draft clientMessageId now
        flight := y.flight ++ [.postRequest (requestBody y.tab draft clientMessageId now)] }
    else none
  | .requestOlder => do
    let beforeMs ← fetchOlderFromServer y.tab
    return { y with
      tab := { y.tab with isFetchingOlder := true }
      flight := y.flight ++ [.olderRequest beforeMs] }
  | .connect =>
    if y.connected then none
    else some { y with
      connected := true
      flight := y.flight ++ [.syncRequest (requestResync y.tab)] }
  | .disconnect =>
    some { y with connected := false, flight := y.flight.filter fun packet => !packet.onSocket }
  | .otherSend userId payload draw =>
    if Unused y draw.id ∧ some draw.id ≠ payload.clientMessageId ∧
        ∀ id ∈ payload.clientMessageId, Unused y id then
      match sendMessage cipher y.store userId payload draw with
      | .ok (view, s) => some (y.stored view s payload.clientMessageId)
      | .error _ => some y
    else none
  | .live index now => do
    let job ← y.store.queue[index]?
    if y.connected ∧ job.coupleId = y.tab.coupleId then
      return { y with tab := handleIncomingMessage now y.tab (liveMessage job.message) }
    else none
  | .serve index draw rows => do
    let packet ← y.flight[index]?
    serve cipher { y with flight := y.flight.eraseIdx index } draw rows packet
  | .receive index now => do
    let packet ← y.flight[index]?
    receive { y with flight := y.flight.eraseIdx index } now packet
  | .lose index => do
    let packet ← y.flight[index]?
    return lose { y with flight := y.flight.eraseIdx index } packet

section Cases
variable {cipher : Cipher} {y z : System}

/-- What the server makes of a request. -/
inductive Serves (cipher : Cipher) (y : System) (draw : Draw) (rows : List ChatMessage) :
    Packet → System → Prop where
  | posted {body : ChatSendDto} {view : ChatMessageView} {s : Store} (unused : Unused y draw.id)
      (differs : some draw.id ≠ body.clientMessageId)
      (done : sendMessage cipher y.store y.tab.userId body draw = .ok (view, s)) :
      Serves cipher y draw rows (.postRequest body)
        { y.stored view s body.clientMessageId with
          flight := y.flight ++ [.postReply true (body.clientMessageId.getD [])] }
  | refused {body : ChatSendDto} :
      Serves cipher y draw rows (.postRequest body)
        { y with flight := y.flight ++ [.postReply false (body.clientMessageId.getD [])] }
  | initialPage {query : ChatFetchQueryDto} (ordered : OrderedRows y.store query rows) :
      Serves cipher y draw rows .initialRequest
        { y with flight := y.flight ++
          [.initialReply (fetchMessages cipher y.store query rows).toOption] }
  | synced {sinceMs : Option Int} {data : SocketData}
      (ordered : OrderedRows y.store (syncQuery data sinceMs) rows) :
      Serves cipher y draw rows (.syncRequest sinceMs)
        { y with flight := y.flight ++
          [.syncReply (handleSync cipher y.store data sinceMs rows)] }
  | badBound {beforeMs : Int} :
      Serves cipher y draw rows (.olderRequest beforeMs)
        { y with flight := y.flight ++ [.olderReply none] }
  | olderPage {beforeMs : Int} {query : ChatFetchQueryDto}
      (ordered : OrderedRows y.store query rows) :
      Serves cipher y draw rows (.olderRequest beforeMs)
        { y with flight := y.flight ++
          [.olderReply (fetchMessages cipher y.store query rows).toOption] }

theorem serve_cases {draw : Draw} {rows : List ChatMessage} {packet : Packet}
    (served : serve cipher y draw rows packet = some z) : Serves cipher y draw rows packet z := by
  cases packet with
  | postRequest body =>
    simp only [serve, servePost] at served
    split_ifs at served with allowed
    split at served
    · rename_i view s done
      cases served
      exact .posted allowed.1 allowed.2 done
    · cases served
      exact .refused
  | initialRequest =>
    simp only [serve, servePage] at served
    split_ifs at served with ordered
    cases served
    exact .initialPage ordered
  | syncRequest sinceMs =>
    simp only [serve] at served
    split_ifs at served with ordered
    cases served
    exact .synced ordered
  | olderRequest beforeMs =>
    simp only [serve, servePage] at served
    split_ifs at served with low ordered
    · cases served
      exact .badBound
    · cases served
      exact .olderPage ordered
  | postReply | initialReply | syncReply | olderReply => cases served

/-- What the tab makes of a reply. -/
inductive Receives (y : System) (now : Int) : Packet → System → Prop where
  | confirmed {clientMessageId : JsString} : Receives y now (.postReply true clientMessageId) y
  | failed {clientMessageId : JsString} :
      Receives y now (.postReply false clientMessageId)
        { y with tab := markFailed y.tab clientMessageId }
  | noPage : Receives y now (.initialReply none) y
  | initialPage {messages : List ChatMessageView} :
      Receives y now (.initialReply (some messages))
        { y with tab := handleInitialPage now y.tab (messages.map apiMessage) }
  | synced {messages : List ChatMessageView} :
      Receives y now (.syncReply messages)
        { y with tab := handleSyncResponse now y.tab (messages.map apiMessage) }
  | noOlder :
      Receives y now (.olderReply none) { y with tab := { y.tab with isFetchingOlder := false } }
  | olderPage {messages : List ChatMessageView} :
      Receives y now (.olderReply (some messages))
        { y with tab := handleOlderPage now y.tab (messages.map apiMessage) }

theorem receive_cases {now : Int} {packet : Packet} (received : receive y now packet = some z) :
    Receives y now packet z := by
  cases packet with
  | postReply ok id =>
    cases ok with
    | true =>
      cases received
      exact .confirmed
    | false =>
      cases received
      exact .failed
  | initialReply messages =>
    cases messages with
    | none =>
      cases received
      exact .noPage
    | some messages =>
      cases received
      exact .initialPage
  | syncReply messages =>
    cases received
    exact .synced
  | olderReply messages =>
    cases messages with
    | none =>
      cases received
      exact .noOlder
    | some messages =>
      cases received
      exact .olderPage
  | postRequest | initialRequest | syncRequest | olderRequest => cases received

inductive Moves (cipher : Cipher) (y : System) : Event → System → Prop where
  | sent {draft : Draft} {clientMessageId : JsString} {now : Int}
      (unused : Unused y clientMessageId) :
      Moves cipher y (.send draft clientMessageId now)
        { y with
          tab := showDraft y.tab draft clientMessageId now
          flight := y.flight ++ [.postRequest (requestBody y.tab draft clientMessageId now)] }
  | askedOlder {beforeMs : Int} (asks : fetchOlderFromServer y.tab = some beforeMs) :
      Moves cipher y .requestOlder
        { y with
          tab := { y.tab with isFetchingOlder := true }
          flight := y.flight ++ [.olderRequest beforeMs] }
  | connected (apart : y.connected = false) :
      Moves cipher y .connect
        { y with connected := true, flight := y.flight ++ [.syncRequest (requestResync y.tab)] }
  | disconnected :
      Moves cipher y .disconnect
        { y with connected := false, flight := y.flight.filter fun packet => !packet.onSocket }
  | otherStored {userId : JsString} {payload : ChatSendDto} {draw : Draw} {view : ChatMessageView}
      {s : Store} (unused : Unused y draw.id) (differs : some draw.id ≠ payload.clientMessageId)
      (client : ∀ id ∈ payload.clientMessageId, Unused y id)
      (done : sendMessage cipher y.store userId payload draw = .ok (view, s)) :
      Moves cipher y (.otherSend userId payload draw) (y.stored view s payload.clientMessageId)
  | otherRefused {userId : JsString} {payload : ChatSendDto} {draw : Draw} :
      Moves cipher y (.otherSend userId payload draw) y
  | delivered {index : Nat} {now : Int} {job : ChatFanoutJob}
      (at_index : y.store.queue[index]? = some job) (online : y.connected = true)
      (own : job.coupleId = y.tab.coupleId) :
      Moves cipher y (.live index now)
        { y with tab := handleIncomingMessage now y.tab (liveMessage job.message) }
  | served {index : Nat} {draw : Draw} {rows : List ChatMessage} {packet : Packet} {z : System}
      (at_index : y.flight[index]? = some packet)
      (serves : Serves cipher { y with flight := y.flight.eraseIdx index } draw rows packet z) :
      Moves cipher y (.serve index draw rows) z
  | received {index : Nat} {now : Int} {packet : Packet} {z : System}
      (at_index : y.flight[index]? = some packet)
      (receives : Receives { y with flight := y.flight.eraseIdx index } now packet z) :
      Moves cipher y (.receive index now) z
  | lost {index : Nat} {packet : Packet} (at_index : y.flight[index]? = some packet) :
      Moves cipher y (.lose index) (lose { y with flight := y.flight.eraseIdx index } packet)

theorem step_cases {e : Event} (moved : step cipher y e = some z) : Moves cipher y e z := by
  cases e with
  | send draft clientMessageId now =>
    simp only [step] at moved
    split_ifs at moved with unused
    cases moved
    exact .sent unused
  | requestOlder =>
    obtain ⟨beforeMs, asks, result⟩ := Option.bind_eq_some_iff.mp moved
    cases result
    exact .askedOlder asks
  | connect =>
    simp only [step] at moved
    split_ifs at moved with online
    cases moved
    exact .connected (by simpa using online)
  | disconnect =>
    cases moved
    exact .disconnected
  | otherSend userId payload draw =>
    simp only [step] at moved
    split_ifs at moved with allowed
    obtain ⟨unused, differs, client⟩ := allowed
    split at moved
    · rename_i view s done
      cases moved
      exact .otherStored unused differs client done
    · cases moved
      exact .otherRefused
  | live index now =>
    obtain ⟨job, at_index, result⟩ := Option.bind_eq_some_iff.mp moved
    split_ifs at result with delivered
    cases result
    exact .delivered at_index delivered.1 delivered.2
  | serve index draw rows =>
    obtain ⟨packet, at_index, served⟩ := Option.bind_eq_some_iff.mp moved
    exact .served at_index (serve_cases served)
  | receive index now =>
    obtain ⟨packet, at_index, received⟩ := Option.bind_eq_some_iff.mp moved
    exact .received at_index (receive_cases received)
  | lose index =>
    obtain ⟨packet, at_index, lost⟩ := Option.bind_eq_some_iff.mp moved
    cases lost
    exact .lost at_index

end Cases

/-- A tab that has just been mounted over a stored history. -/
def initial (s : Store) (coupleId userId : JsString) : System :=
  ⟨s, [], mounted coupleId userId, false, [.initialRequest]⟩

end ChatClient
