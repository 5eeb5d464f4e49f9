import Linkly.ChatService
import Mathlib.Data.List.Sort

/-!
The message list of the chat tab: what the handlers of sends, live events, sync responses and
pages do to the list, to the set of seen ids and to the last-seen marker. Each handler runs to its
end before the next one starts. The scroll window is left out.
-/
namespace ChatTab
open ChatService JsText

inductive Sender where
  | me
  | partner
  deriving DecidableEq, Repr

structure TabMessage where
  id : JsString
  sender : Sender
  sentAtMs : Int
  kind : ChatMessageKind
  text : Option JsString
  imageSrc : Option JsString
  sendFailed : Bool := false
  deriving DecidableEq, Repr

structure ApiChatMessage where
  id : JsString
  coupleId : JsString
  senderUserId : JsString
  kind : ChatMessageKind
  text : Option JsString
  imageUrl : Option JsString
  sentAtMs : Option Int
  clientMessageId : Option JsString
  deriving DecidableEq, Repr

/-- A message of a page or of a sync response. -/
def apiMessage (view : ChatMessageView) : ApiChatMessage :=
  ⟨view.id, view.coupleId, view.senderUserId, view.kind, view.text, view.imageUrl,
    some view.sentAtMs, none⟩

/-- A message of a live event. -/
def liveMessage (message : ChatFanoutMessage) : ApiChatMessage :=
  { apiMessage message.toChatMessageView with clientMessageId := message.clientMessageId }

structure LastSeen where
  id : JsString
  sentAtMs : Int
  deriving DecidableEq, Repr

structure Tab where
  coupleId : JsString
  userId : JsString
  allMessages : List TabMessage
  seenMessageIds : List JsString
  lastSeenMessage : Option LastSeen
  hasMoreServer : Bool
  isFetchingOlder : Bool
  deriving DecidableEq, Repr

def INITIAL_BATCH : Nat := 30

def LOAD_BATCH : Nat := 20

def mounted (coupleId userId : JsString) : Tab := ⟨coupleId, userId, [], [], none, true, false⟩

def Tab.ids (tab : Tab) : List JsString := tab.allMessages.map TabMessage.id

/-- The stable sort by timestamp. -/
def sortedMessages (tab : Tab) : List TabMessage :=
  tab.allMessages.insertionSort fun a b => a.sentAtMs ≤ b.sentAtMs

def marker (lastSeen : Option LastSeen) (next : TabMessage) : Option LastSeen :=
  if lastSeen.all (·.sentAtMs ≤ next.sentAtMs) then some ⟨next.id, next.sentAtMs⟩ else lastSeen

def appendMessage (tab : Tab) (next : TabMessage) (isOptimistic : Bool) : Tab :=
  if next.id ∈ tab.seenMessageIds then tab
  else
    { tab with
      seenMessageIds := next.id :: tab.seenMessageIds
      lastSeenMessage :=
        if isOptimistic then tab.lastSeenMessage else marker tab.lastSeenMessage next
      allMessages := tab.allMessages ++ [next] }

/-- `now` is the clock, read for a payload without a timestamp. -/
def mapApiMessage (userId : JsString) (now : Int) (payload : ApiChatMessage) : Option TabMessage :=
  if payload.id = [] then none
  else
    some
      { id := payload.id
        sender := if payload.senderUserId = userId then .me else .partner
        sentAtMs := payload.sentAtMs.getD now
        kind := payload.kind
        text := payload.text
        imageSrc := payload.imageUrl }

def handleIncomingMessage (now : Int) (tab : Tab) (payload : ApiChatMessage) : Tab :=
  if payload.clientMessageId.any (fun id => id ≠ [] ∧ id ∈ tab.seenMessageIds) then tab
  else
    match mapApiMessage tab.userId now payload with
    | none => tab
    | some mapped => appendMessage tab mapped false

/-- The latest message of a page, the first one among equals. -/
def latest : List TabMessage → Option TabMessage
  | [] => none
  | first :: rest =>
    some (rest.foldl (fun current next =>
      if next.sentAtMs > current.sentAtMs then next else current) first)

def handleInitialPage (now : Int) (tab : Tab) (items : List ApiChatMessage) : Tab :=
  let mapped := items.filterMap (mapApiMessage tab.userId now)
  { tab with
    allMessages := mapped
    seenMessageIds := mapped.map TabMessage.id
    lastSeenMessage :=
      match latest mapped with
      | none => tab.lastSeenMessage
      | some message => some ⟨message.id, message.sentAtMs⟩
    hasMoreServer := tab.hasMoreServer && decide (INITIAL_BATCH + LOAD_BATCH ≤ mapped.length) }

/-- The `sinceMs` of a sync request. -/
def requestResync (tab : Tab) : Option Int := tab.lastSeenMessage.map LastSeen.sentAtMs

def handleSyncResponse (now : Int) (tab : Tab) (items : List ApiChatMessage) : Tab :=
  items.foldl (handleIncomingMessage now) tab

/-- The `beforeMs` of a request for older messages, when one is sent. -/
def fetchOlderFromServer (tab : Tab) : Option Int :=
  if ¬ tab.hasMoreServer ∨ tab.isFetchingOlder then none
  else (sortedMessages tab).head?.map TabMessage.sentAtMs

def handleOlderPage (now : Int) (tab : Tab) (items : List ApiChatMessage) : Tab :=
  let mapped := items.filterMap (mapApiMessage tab.userId now)
  let newMessages := mapped.filter (·.id ∉ tab.seenMessageIds)
  { tab with
    allMessages := newMessages ++ tab.allMessages
    seenMessageIds := newMessages.map TabMessage.id ++ tab.seenMessageIds
    hasMoreServer := tab.hasMoreServer && decide (LOAD_BATCH ≤ mapped.length)
    isFetchingOlder := false }

structure Draft where
  text : Option JsString
  kind : ChatMessageKind
  imageUrl : Option JsString
  deriving DecidableEq, Repr

/-- The optimistic entry of a send, under an id that the client makes up. -/
def showDraft (tab : Tab) (draft : Draft) (clientMessageId : JsString) (now : Int) : Tab :=
  appendMessage tab
    { id := clientMessageId, sender := .me, sentAtMs := now, kind := draft.kind
      text := draft.text, imageSrc := draft.imageUrl } true

/-- The request body of a send. The route fills in the sender. -/
def requestBody (tab : Tab) (draft : Draft) (clientMessageId : JsString) (now : Int) :
    ChatSendDto :=
  { coupleId := tab.coupleId, senderUserId := none, kind := draft.kind, text := draft.text
    imageUrl := draft.imageUrl, clientMessageId := some clientMessageId, sentAtMs := some now }

def markFailed (tab : Tab) (clientMessageId : JsString) : Tab :=
  { tab with
    allMessages := tab.allMessages.map fun message =>
      if message.id = clientMessageId then { message with sendFailed := true } else message }

/-- The set of seen ids is the set of listed ids, and no id is listed twice. -/
structure Coherent (tab : Tab) : Prop where
  seen_iff : ∀ id, id ∈ tab.seenMessageIds ↔ id ∈ tab.ids
  once : tab.ids.Nodup

theorem coherent_mounted (coupleId userId : JsString) : Coherent (mounted coupleId userId) :=
  ⟨fun _ => Iff.rfl, List.nodup_nil⟩

section Append
variable {tab : Tab} {next : TabMessage} {isOptimistic : Bool}

theorem append_owner : (appendMessage tab next isOptimistic).coupleId = tab.coupleId ∧
    (appendMessage tab next isOptimistic).userId = tab.userId := by
  unfold appendMessage
  split <;> exact ⟨rfl, rfl⟩

theorem ids_append : (appendMessage tab next isOptimistic).ids =
    if next.id ∈ tab.seenMessageIds then tab.ids else tab.ids ++ [next.id] := by
  unfold appendMessage
  split <;> simp [Tab.ids]

theorem mem_ids_append (coherent : Coherent tab) {id : JsString} :
    id ∈ (appendMessage tab next isOptimistic).ids ↔ id ∈ tab.ids ∨ id = next.id := by
  rw [ids_append]
  split
  · rename_i seen
    constructor
    · exact Or.inl
    · intro listed
      rcases listed with old | rfl
      · exact old
      · exact (coherent.seen_iff _).mp seen
  · simp

theorem coherent_append (coherent : Coherent tab) :
    Coherent (appendMessage tab next isOptimistic) := by
  constructor
  · intro id
    rw [mem_ids_append coherent, ← coherent.seen_iff]
    unfold appendMessage
    split
    · rename_i seen
      constructor
      · exact Or.inl
      · intro listed
        rcases listed with old | rfl
        · exact old
        · exact seen
    · simp [or_comm]
  · rw [ids_append]
    split
    · exact coherent.once
    · rename_i unseen
      refine coherent.once.append (List.nodup_singleton _) ?_
      intro id old new
      rw [List.mem_singleton.mp new, ← coherent.seen_iff] at old
      exact unseen old

theorem messages_append (tab : Tab) (next : TabMessage) (isOptimistic : Bool) :
    ∃ more, (appendMessage tab next isOptimistic).allMessages =
      tab.allMessages ++ more := by
  unfold appendMessage
  split
  · exact ⟨[], by simp⟩
  · exact ⟨[next], rfl⟩

end Append

theorem map_api_some {userId : JsString} {now : Int} {payload : ApiChatMessage}
    {mapped : TabMessage} (done : mapApiMessage userId now payload = some mapped) :
    mapped.id = payload.id ∧ payload.id ≠ [] := by
  unfold mapApiMessage at done
  split at done
  · simp at done
  · rename_i filled
    rw [← Option.some.inj done]
    exact ⟨rfl, filled⟩

theorem map_api_filled (userId : JsString) (now : Int) {payload : ApiChatMessage}
    (filled : payload.id ≠ []) :
    ∃ mapped, mapApiMessage userId now payload = some mapped ∧ mapped.id = payload.id := by
  unfold mapApiMessage
  rw [if_neg filled]
  exact ⟨_, rfl, rfl⟩

section Incoming
variable (now : Int) {tab : Tab} (payload : ApiChatMessage)

/-- A live event is ignored, or it is appended under its server id. -/
theorem incoming_cases (tab : Tab) :
    handleIncomingMessage now tab payload = tab ∨
      ∃ mapped, mapped.id = payload.id ∧
        handleIncomingMessage now tab payload = appendMessage tab mapped false := by
  unfold handleIncomingMessage
  split
  · exact Or.inl rfl
  · split
    · exact Or.inl rfl
    · rename_i mapped done
      exact Or.inr ⟨mapped, (map_api_some done).1, rfl⟩

theorem incoming_owner (tab : Tab) :
    (handleIncomingMessage now tab payload).coupleId = tab.coupleId ∧
      (handleIncomingMessage now tab payload).userId = tab.userId := by
  rcases incoming_cases now payload tab with same | ⟨mapped, _, appended⟩
  · rw [same]
    exact ⟨rfl, rfl⟩
  · rw [appended]
    exact append_owner

theorem coherent_incoming (coherent : Coherent tab) :
    Coherent (handleIncomingMessage now tab payload) := by
  rcases incoming_cases now payload tab with same | ⟨mapped, _, appended⟩
  · rwa [same]
  · rw [appended]
    exact coherent_append coherent

theorem messages_incoming (tab : Tab) :
    ∃ more, (handleIncomingMessage now tab payload).allMessages =
      tab.allMessages ++ more := by
  rcases incoming_cases now payload tab with same | ⟨mapped, _, appended⟩
  · exact ⟨[], by simp [same]⟩
  · rw [appended]
    exact messages_append tab mapped false

theorem ids_incoming_subset (coherent : Coherent tab) {id : JsString}
    (mem : id ∈ (handleIncomingMessage now tab payload).ids) :
    id ∈ tab.ids ∨ id = payload.id := by
  rcases incoming_cases now payload tab with same | ⟨mapped, same_id, appended⟩
  · exact Or.inl (same ▸ mem)
  · rw [appended, mem_ids_append coherent, same_id] at mem
    exact mem

/-- A message that carries no client id ends up in the list under its server id. -/
theorem incoming_listed {payload : ApiChatMessage} (coherent : Coherent tab)
    (filled : payload.id ≠ []) (unmarked : payload.clientMessageId = none) (id : JsString) :
    id ∈ (handleIncomingMessage now tab payload).ids ↔ id ∈ tab.ids ∨ id = payload.id := by
  obtain ⟨mapped, done, same_id⟩ := map_api_filled tab.userId now filled
  have appended : handleIncomingMessage now tab payload = appendMessage tab mapped false := by
    simp [handleIncomingMessage, unmarked, done]
  rw [appended, mem_ids_append coherent, same_id]

end Incoming

section Pages
variable (now : Int) {tab : Tab} {items : List ApiChatMessage}

theorem coherent_sync (coherent : Coherent tab) :
    Coherent (handleSyncResponse now tab items) := by
  induction items generalizing tab with
  | nil => exact coherent
  | cons item items ih => exact ih (coherent_incoming now item coherent)

theorem sync_owner (tab : Tab) (items : List ApiChatMessage) :
    (handleSyncResponse now tab items).coupleId = tab.coupleId ∧
      (handleSyncResponse now tab items).userId = tab.userId := by
  induction items generalizing tab with
  | nil => exact ⟨rfl, rfl⟩
  | cons item items ih =>
    obtain ⟨couple, user⟩ := ih (handleIncomingMessage now tab item)
    obtain ⟨first_couple, first_user⟩ := incoming_owner now item tab
    exact ⟨couple.trans first_couple, user.trans first_user⟩

theorem messages_sync (tab : Tab) (items : List ApiChatMessage) :
    ∃ more, (handleSyncResponse now tab items).allMessages =
      tab.allMessages ++ more := by
  induction items generalizing tab with
  | nil => exact ⟨[], by simp [handleSyncResponse]⟩
  | cons item items ih =>
    obtain ⟨first, now_listed⟩ := messages_incoming now item tab
    obtain ⟨later, listed⟩ := ih (handleIncomingMessage now tab item)
    refine ⟨first ++ later, ?_⟩
    rw [← List.append_assoc, ← now_listed]
    exact listed

theorem ids_sync (coherent : Coherent tab) (filled : ∀ item ∈ items, item.id ≠ [])
    (unmarked : ∀ item ∈ items, item.clientMessageId = none) {id : JsString} :
    id ∈ (handleSyncResponse now tab items).ids ↔
      id ∈ tab.ids ∨ id ∈ items.map ApiChatMessage.id := by
  induction items generalizing tab with
  | nil => simp [handleSyncResponse]
  | cons item items ih =>
    have rest := ih (coherent_incoming now item coherent)
      (fun other mem => filled other (List.mem_cons_of_mem _ mem))
      (fun other mem => unmarked other (List.mem_cons_of_mem _ mem))
    have first := incoming_listed now coherent (filled item List.mem_cons_self)
      (unmarked item List.mem_cons_self) id
    rw [List.map_cons, List.mem_cons, ← or_assoc, ← first]
    exact rest

theorem ids_mapped (userId : JsString) (filled : ∀ item ∈ items, item.id ≠ []) :
    (items.filterMap (mapApiMessage userId now)).map TabMessage.id =
      items.map ApiChatMessage.id := by
  induction items with
  | nil => rfl
  | cons item items ih =>
    obtain ⟨mapped, done, same_id⟩ :=
      map_api_filled userId now (filled item List.mem_cons_self)
    have rest := ih fun other mem => filled other (List.mem_cons_of_mem _ mem)
    rw [List.filterMap_cons_some done, List.map_cons, List.map_cons, rest, same_id]

theorem ids_initial (filled : ∀ item ∈ items, item.id ≠ []) :
    (handleInitialPage now tab items).ids = items.map ApiChatMessage.id :=
  ids_mapped now tab.userId filled

theorem coherent_initial (filled : ∀ item ∈ items, item.id ≠ [])
    (once : (items.map ApiChatMessage.id).Nodup) : Coherent (handleInitialPage now tab items) := by
  refine ⟨fun id => Iff.rfl, ?_⟩
  rw [ids_initial now filled]
  exact once

theorem ids_older (coherent : Coherent tab) (filled : ∀ item ∈ items, item.id ≠ [])
    {id : JsString} : id ∈ (handleOlderPage now tab items).ids ↔
      id ∈ tab.ids ∨ id ∈ items.map ApiChatMessage.id := by
  rw [← ids_mapped now tab.userId filled]
  simp only [Tab.ids, handleOlderPage, List.map_append, List.mem_append, List.mem_map,
    List.mem_filter, decide_eq_true_eq]
  constructor
  · intro listed
    rcases listed with ⟨m, ⟨mem, _⟩, same⟩ | old
    · exact Or.inr ⟨m, mem, same⟩
    · exact Or.inl old
  · intro listed
    rcases listed with old | ⟨m, mem, same⟩
    · exact Or.inr old
    · by_cases seen : m.id ∈ tab.seenMessageIds
      · obtain ⟨k, mk, same_id⟩ := List.mem_map.mp ((coherent.seen_iff _).mp seen)
        exact Or.inr ⟨k, mk, same_id.trans same⟩
      · exact Or.inl ⟨m, ⟨mem, seen⟩, same⟩

theorem coherent_older (coherent : Coherent tab) (filled : ∀ item ∈ items, item.id ≠ [])
    (once : (items.map ApiChatMessage.id).Nodup) : Coherent (handleOlderPage now tab items) := by
  constructor
  · intro id
    simp only [Tab.ids, handleOlderPage, List.map_append, List.mem_append]
    exact or_congr_right (coherent.seen_iff id)
  · rw [← ids_mapped now tab.userId filled] at once
    simp only [Tab.ids, handleOlderPage, List.map_append]
    refine (once.sublist (List.filter_sublist.map _)).append coherent.once ?_
    intro id new old
    obtain ⟨m, mem, rfl⟩ := List.mem_map.mp new
    have unseen := (List.mem_filter.mp mem).2
    simp only [decide_eq_true_eq] at unseen
    exact unseen ((coherent.seen_iff _).mpr old)

theorem messages_older (tab : Tab) (items : List ApiChatMessage) :
    ∃ more, (handleOlderPage now tab items).allMessages =
    more ++ tab.allMessages := ⟨_, rfl⟩

theorem ids_failed (clientMessageId : JsString) :
    (markFailed tab clientMessageId).ids = tab.ids := by
  simp only [Tab.ids, markFailed, List.map_map]
  refine List.map_congr_left fun m _ => ?_
  simp only [Function.comp]
  split <;> rfl

theorem coherent_failed (coherent : Coherent tab) (clientMessageId : JsString) :
    Coherent (markFailed tab clientMessageId) := by
  constructor
  · intro id
    rw [ids_failed]
    exact coherent.seen_iff id
  · rw [ids_failed]
    exact coherent.once

end Pages

end ChatTab
