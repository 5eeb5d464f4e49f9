import Linkly.ChatService
import Linkly.TransitionRuns

/-!
The two chat gateways, the fanout queue, its worker and the Redis channels between them. Any
order of connections, sends, job runs, deliveries, disconnections and break-ups is a run. Tokens
are checked by a parameter `verify`, which returns the subject of a token that it accepts.
-/
namespace ChatGateway
open ChatService JsText TransitionRuns

/-- A value that a client puts into its handshake. -/
inductive HandshakeValue where
  | undefined
  | null
  | string (text : JsString)
  | array (items : List HandshakeValue)
  | other
  deriving Repr

def HandshakeValue.orElse (value fallback : HandshakeValue) : HandshakeValue :=
  match value with
  | .undefined | .null => fallback
  | _ => value

def coerceString : HandshakeValue → Option JsString
  | .string text => if trim text = [] then none else some (trim text)
  | .array (.string first :: _) => some (trim first)
  | _ => none

structure HandshakeFields where
  coupleId : HandshakeValue
  userId : HandshakeValue
  token : HandshakeValue
  deriving Repr

structure Handshake where
  auth : HandshakeFields
  query : HandshakeFields
  deriving Repr

structure Credentials where
  coupleId : Option JsString
  userId : Option JsString
  token : Option JsString
  deriving DecidableEq, Repr

def readHandshake (handshake : Handshake) : Credentials :=
  ⟨coerceString (handshake.auth.coupleId.orElse handshake.query.coupleId),
    coerceString (handshake.auth.userId.orElse handshake.query.userId),
    coerceString (handshake.auth.token.orElse handshake.query.token)⟩

structure SocketData where
  coupleId : JsString
  userId : JsString
  deriving DecidableEq, Repr

/-- A connected socket. `token` and `membersAtJoin` are no part of the gateway: they record what
    was presented and who was a member when the socket joined its room. -/
structure ChatSocket where
  id : Nat
  data : SocketData
  rooms : List JsString
  received : List ChatFanoutMessage
  token : JsString
  membersAtJoin : List CoupleMember
  deriving DecidableEq, Repr

def roomForCouple (coupleId : JsString) : JsString := js "couple:" ++ coupleId

def channelPrefix : JsString := js "chat:couple:"

structure System where
  store : Store
  sockets : List ChatSocket
  channels : List (JsString × ChatFanoutMessage)
  nextSocket : Nat
  deriving DecidableEq, Repr

/-- The handshake that `handleConnection` accepts; every other one ends in a disconnection. -/
def accepts (verify : JsString → Option JsString) (handshake : Handshake) :
    Option (SocketData × JsString) :=
  match readHandshake handshake with
  | ⟨some coupleId, some userId, some token⟩ =>
    if coupleId = [] ∨ userId = [] ∨ token = [] then none
    else if verify token = some userId then some (⟨coupleId, userId⟩, token)
    else none
  | _ => none

def handleConnection (verify : JsString → Option JsString) (y : System) (handshake : Handshake) :
    System :=
  match accepts verify handshake with
  | none => { y with nextSocket := y.nextSocket + 1 }
  | some (data, token) =>
    { y with
      sockets := ⟨y.nextSocket, data, [roomForCouple data.coupleId], [], token, y.store.members⟩ ::
        y.sockets
      nextSocket := y.nextSocket + 1 }

def ensurePayloadMatchesClient (payload : ChatSendDto) (data : SocketData) :
    Except Exception Unit :=
  if payload.coupleId ≠ data.coupleId then
    .error (.websocket "Payload coupleId does not match connection.")
  else if payload.senderUserId ≠ some data.userId then
    .error (.websocket "Payload senderUserId does not match connection.")
  else .ok ()

def syncQuery (data : SocketData) (sinceMs : Option Int) : ChatFetchQueryDto :=
  { coupleId := data.coupleId, userId := data.userId, limit := 50, beforeMs := none
    afterMs := sinceMs.filter (0 < ·) }

section Calls
variable (cipher : Cipher)

def handleSend (s : Store) (data : SocketData) (payload : ChatSendDto) (draw : Draw) :
    Except Exception (ChatMessageView × Store) := do
  ensurePayloadMatchesClient payload data
  createMessage cipher s payload draw

/-- The route POST /chat/messages, for the user of the request's token. -/
def sendMessage (s : Store) (userId : JsString) (payload : ChatSendDto) (draw : Draw) :
    Except Exception (ChatMessageView × Store) :=
  createMessage cipher s { payload with senderUserId := some userId } draw

/-- The answer to chat:sync. An error is answered like an empty history. -/
def handleSync (s : Store) (data : SocketData) (sinceMs : Option Int) (rows : List ChatMessage) :
    List ChatMessageView :=
  match fetchMessages cipher s (syncQuery data sinceMs) rows with
  | .ok messages => messages
  | .error _ => []

end Calls

/-- Deletes the couple, with its members and messages by cascade. Queued jobs stay. -/
def breakUp (s : Store) (coupleId userId : JsString) : Except Exception Store := do
  ensureCoupleMember s coupleId userId
  return { s with members := s.members.filter (·.coupleId ≠ coupleId)
                  messages := s.messages.filter (·.coupleId ≠ coupleId) }

def publish (job : ChatFanoutJob) : JsString × ChatFanoutMessage :=
  (channelPrefix ++ job.coupleId, job.message)

def ChatSocket.receive (room : JsString) (message : ChatFanoutMessage) (socket : ChatSocket) :
    ChatSocket :=
  if room ∈ socket.rooms then { socket with received := socket.received ++ [message] } else socket

/-- What ChatFanoutGateway does with a message of a channel under its pattern. -/
def emit (sockets : List ChatSocket) (channel : JsString) (message : ChatFanoutMessage) :
    List ChatSocket :=
  sockets.map (ChatSocket.receive (roomForCouple (channel.drop channelPrefix.length)) message)

inductive Event where
  | connect (handshake : Handshake)
  | disconnect (socket : Nat)
  | sendHttp (userId : JsString) (payload : ChatSendDto) (draw : Draw)
  | sendSocket (socket : Nat) (payload : ChatSendDto) (draw : Draw)
  | runJob (index : Nat)
  | deliver (index : Nat)
  | breakUp (coupleId userId : JsString)
  deriving Repr

/-- The store after a call: a call that throws has written nothing. -/
def storeAfter (s : Store) : Except Exception Store → Store
  | .ok t => t
  | .error _ => s

variable (verify : JsString → Option JsString) (cipher : Cipher)

def step (y : System) : Event → Option System
  | .connect handshake => some (handleConnection verify y handshake)
  | .disconnect socket => some { y with sockets := y.sockets.filter (·.id ≠ socket) }
  | .sendHttp userId payload draw =>
    some { y with
      store := storeAfter y.store ((sendMessage cipher y.store userId payload draw).map (·.2)) }
  | .sendSocket socket payload draw => do
    let sender ← y.sockets.find? (·.id = socket)
    return { y with
      store := storeAfter y.store
        ((handleSend cipher y.store sender.data payload draw).map (·.2)) }
  -- a job may run again, after a crash of its worker or a failure
  | .runJob index => do
    let job ← y.store.queue[index]?
    return { y with channels := y.channels ++ [publish job] }
  | .deliver index => do
    let (channel, message) ← y.channels[index]?
    return { y with
      sockets := emit y.sockets channel message
      channels := y.channels.eraseIdx index }
  | .breakUp coupleId userId =>
    some { y with store := storeAfter y.store (breakUp y.store coupleId userId) }

def initial (members : List CoupleMember) : System := ⟨⟨members, [], []⟩, [], [], 0⟩

end ChatGateway
