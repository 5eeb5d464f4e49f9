import Linkly.IsoDate
import Mathlib.Algebra.Group.Int.Defs
import Mathlib.Data.List.Perm.Basic

/-!
The chat service over its tables and its fanout queue. The cipher is a parameter, and so is what a
call draws from outside: a new row id, random bytes, the clock, whether the queue accepts a job.
-/
namespace ChatService
open JsText IsoDate

inductive ChatMessageKind where
  | text
  | image
  deriving DecidableEq, Repr

structure CoupleMember where
  coupleId : JsString
  userId : JsString
  deriving DecidableEq, Repr

structure ChatSendDto where
  coupleId : JsString
  senderUserId : Option JsString
  kind : ChatMessageKind
  text : Option JsString
  imageUrl : Option JsString
  clientMessageId : Option JsString
  sentAtMs : Option Int
  deriving DecidableEq, Repr

structure ChatFetchQueryDto where
  coupleId : JsString
  userId : JsString
  limit : Nat := 50
  beforeMs : Option Int
  afterMs : Option Int
  deriving DecidableEq, Repr

/-- The object that is encrypted. -/
structure Content where
  text : Option JsString
  imageUrl : Option JsString
  deriving DecidableEq, Repr

structure EncryptedPayload where
  ciphertext : JsString
  iv : JsString
  tag : JsString
  keyVersion : Int
  deriving DecidableEq, Repr

structure Cipher where
  encrypt : List UInt8 → Content → EncryptedPayload
  decrypt : EncryptedPayload → Option Content

structure ChatMessage where
  id : JsString
  coupleId : JsString
  senderUserId : JsString
  kind : ChatMessageKind
  ciphertext : JsString
  iv : JsString
  tag : JsString
  keyVersion : Int
  thumbnailUrl : Option JsString
  createdAt : Date
  sentAtMs : Int
  deriving DecidableEq, Repr

structure ChatMessageView where
  id : JsString
  coupleId : JsString
  senderUserId : JsString
  kind : ChatMessageKind
  text : Option JsString
  imageUrl : Option JsString
  sentAtMs : Int
  createdAt : JsString
  deriving DecidableEq, Repr

structure ChatFanoutMessage extends ChatMessageView where
  clientMessageId : Option JsString
  deriving DecidableEq, Repr

structure ChatFanoutJob where
  coupleId : JsString
  message : ChatFanoutMessage
  deriving DecidableEq, Repr

structure Store where
  members : List CoupleMember
  messages : List ChatMessage
  queue : List ChatFanoutJob
  deriving DecidableEq, Repr

/-- A cipher that hides nothing, for concrete runs. -/
def plainCipher : Cipher where
  encrypt _ content :=
    ⟨content.text.getD [], content.imageUrl.getD [],
      [if content.text.isSome then 1 else 0, if content.imageUrl.isSome then 1 else 0], 1⟩
  decrypt payload :=
    some
      { text := if payload.tag[0]? = some 1 then some payload.ciphertext else none
        imageUrl := if payload.tag[1]? = some 1 then some payload.iv else none }

theorem plain_cipher_inverts (iv : List UInt8) (content : Content) :
    plainCipher.decrypt (plainCipher.encrypt iv content) = some content := by
  obtain ⟨text, imageUrl⟩ := content
  cases text <;> cases imageUrl <;> simp [plainCipher]

inductive Exception where
  | badRequest (message : String)
  | forbidden (message : String)
  | internalServerError (message : String)
  | websocket (message : String)
  | database
  deriving DecidableEq, Repr

/-- What a call of createMessage draws from outside. -/
structure Draw where
  id : JsString
  iv : List UInt8
  now : Date
  enqueued : Bool
  deriving DecidableEq, Repr

def Store.isMember (s : Store) (coupleId userId : JsString) : Bool :=
  s.members.any fun m => m.coupleId = coupleId ∧ m.userId = userId

def ensureCoupleMember (s : Store) (coupleId userId : JsString) : Except Exception Unit :=
  if s.isMember coupleId userId then .ok ()
  else .error (.forbidden "User is not a member of this couple.")

/-- A string that is there and is not empty. -/
def given (value : Option JsString) : Bool := value.any (· ≠ [])

def ensurePayloadMatchesKind (payload : ChatSendDto) : Except Exception Unit :=
  if payload.kind = .text ∧ ¬ given payload.text then
    .error (.badRequest "Text message requires text.")
  else if payload.kind = .image ∧ ¬ given payload.imageUrl then
    .error (.badRequest "Image message requires imageUrl.")
  else .ok ()

/-- The values that the columns `keyVersion Int` and `sentAtMs BigInt` hold. -/
def fitsColumns (keyVersion sentAtMs : Int) : Prop :=
  (-2 ^ 31 ≤ keyVersion ∧ keyVersion < 2 ^ 31) ∧ -2 ^ 63 ≤ sentAtMs ∧ sentAtMs < 2 ^ 63

instance (keyVersion sentAtMs : Int) : Decidable (fitsColumns keyVersion sentAtMs) :=
  inferInstanceAs (Decidable (_ ∧ _))

def toView (record : ChatMessage) (text imageUrl : Option JsString) : ChatMessageView :=
  ⟨record.id, record.coupleId, record.senderUserId, record.kind, text, imageUrl, record.sentAtMs,
    toISOString record.createdAt⟩

section Calls
variable (cipher : Cipher)

def newRecord (payload : ChatSendDto) (senderUserId : JsString) (draw : Draw) : ChatMessage :=
  let encrypted := cipher.encrypt draw.iv ⟨payload.text, payload.imageUrl⟩
  { id := draw.id
    coupleId := payload.coupleId
    senderUserId := senderUserId
    kind := payload.kind
    ciphertext := encrypted.ciphertext
    iv := encrypted.iv
    tag := encrypted.tag
    keyVersion := encrypted.keyVersion
    thumbnailUrl := none
    createdAt := draw.now
    sentAtMs := payload.sentAtMs.getD draw.now.ms }

/-- The insertion fails on an id that is taken and on values that no column holds. -/
def Store.create (s : Store) (record : ChatMessage) : Except Exception Store :=
  if record.id ∉ s.messages.map ChatMessage.id ∧ fitsColumns record.keyVersion record.sentAtMs then
    .ok { s with messages := s.messages ++ [record] }
  else .error .database

def createMessage (s : Store) (payload : ChatSendDto) (draw : Draw) :
    Except Exception (ChatMessageView × Store) :=
  match payload.senderUserId with
  | none => .error .database
  | some senderUserId => do
    ensureCoupleMember s payload.coupleId senderUserId
    ensurePayloadMatchesKind payload
    let record := newRecord cipher payload senderUserId draw
    let stored ← s.create record
    let view := toView record payload.text payload.imageUrl
    let job : ChatFanoutJob := ⟨payload.coupleId, ⟨view, payload.clientMessageId⟩⟩
    -- a queue that refuses the job is only logged
    return (view, if draw.enqueued then { stored with queue := stored.queue ++ [job] } else stored)

/-- A bound that is there and is not zero. -/
def bound (value : Option Int) : Option Int := value.filter (· ≠ 0)

def ChatFetchQueryDto.selects (query : ChatFetchQueryDto) (m : ChatMessage) : Bool :=
  m.coupleId = query.coupleId ∧ (bound query.beforeMs).all (m.sentAtMs < ·) ∧
    (bound query.afterMs).all (· ≤ m.sentAtMs)

def ChatFetchQueryDto.ordered (query : ChatFetchQueryDto) (a b : ChatMessage) : Prop :=
  if (bound query.afterMs).isSome then a.sentAtMs ≤ b.sentAtMs else b.sentAtMs ≤ a.sentAtMs

instance (query : ChatFetchQueryDto) (a b : ChatMessage) : Decidable (query.ordered a b) := by
  unfold ChatFetchQueryDto.ordered
  infer_instance

/-- The selected rows in an order that the database may return; it orders rows with equal
    timestamps as it likes. -/
def OrderedRows (s : Store) (query : ChatFetchQueryDto) (rows : List ChatMessage) : Prop :=
  rows.Perm (s.messages.filter query.selects) ∧ rows.Pairwise query.ordered

instance (s : Store) (query : ChatFetchQueryDto) (rows : List ChatMessage) :
    Decidable (OrderedRows s query rows) :=
  inferInstanceAs (Decidable (rows.Perm (s.messages.filter query.selects) ∧
    rows.Pairwise query.ordered))

def ChatMessage.payload (record : ChatMessage) : EncryptedPayload :=
  ⟨record.ciphertext, record.iv, record.tag, record.keyVersion⟩

def decryptView (record : ChatMessage) : Except Exception ChatMessageView :=
  match cipher.decrypt record.payload with
  | none => .error (.internalServerError "메시지 복호화에 실패했습니다.")
  | some content => .ok (toView record content.text content.imageUrl)

/-- `rows` is the order in which the database returns the selected rows. -/
def fetchMessages (s : Store) (query : ChatFetchQueryDto) (rows : List ChatMessage) :
    Except Exception (List ChatMessageView) := do
  ensureCoupleMember s query.coupleId query.userId
  (rows.take query.limit).mapM (decryptView cipher)

theorem create_ok_iff {s t : Store} {record : ChatMessage} :
    s.create record = .ok t ↔
      (record.id ∉ s.messages.map ChatMessage.id ∧
        fitsColumns record.keyVersion record.sentAtMs) ∧
      { s with messages := s.messages ++ [record] } = t := by
  unfold Store.create
  split <;> simp_all

/-- What a call of createMessage that returns has checked and done. -/
structure Created (s : Store) (payload : ChatSendDto) (draw : Draw) (senderUserId : JsString)
    (view : ChatMessageView) (t : Store) : Prop where
  sender : payload.senderUserId = some senderUserId
  member : s.isMember payload.coupleId senderUserId = true
  fresh : draw.id ∉ s.messages.map ChatMessage.id
  view_eq : view = toView (newRecord cipher payload senderUserId draw) payload.text payload.imageUrl
  members : t.members = s.members
  messages : t.messages = s.messages ++ [newRecord cipher payload senderUserId draw]
  queue : t.queue = s.queue ++
    if draw.enqueued then [⟨payload.coupleId, ⟨view, payload.clientMessageId⟩⟩] else []

theorem create_message_ok {s t : Store} {payload : ChatSendDto} {draw : Draw}
    {view : ChatMessageView} (done : createMessage cipher s payload draw = .ok (view, t)) :
    ∃ senderUserId, Created cipher s payload draw senderUserId view t := by
  unfold createMessage at done
  cases sender : payload.senderUserId with
  | none => simp [sender] at done
  | some senderUserId =>
    simp only [sender] at done
    cases member : s.isMember payload.coupleId senderUserId with
    | false => simp [ensureCoupleMember, member, bind, Except.bind] at done
    | true =>
      cases kind : ensurePayloadMatchesKind payload with
      | error e => simp [ensureCoupleMember, member, kind, bind, Except.bind] at done
      | ok _ =>
        cases stored : s.create (newRecord cipher payload senderUserId draw) with
        | error e =>
          simp [ensureCoupleMember, member, kind, stored, bind, Except.bind] at done
        | ok next =>
          simp only [ensureCoupleMember, member, kind, stored, bind, Except.bind, pure,
            Except.pure, ↓reduceIte, Except.ok.injEq, Prod.mk.injEq] at done
          obtain ⟨rfl, rfl⟩ := done
          obtain ⟨⟨fresh, _⟩, rfl⟩ := create_ok_iff.mp stored
          refine ⟨senderUserId, sender, member, fresh, rfl, ?_, ?_, ?_⟩ <;> split <;> simp_all

theorem decrypt_view_id {record : ChatMessage} {view : ChatMessageView}
    (done : decryptView cipher record = .ok view) : view.id = record.id := by
  unfold decryptView at done
  split at done
  · simp at done
  · rw [← Except.ok.inj done]
    rfl

theorem decrypt_all_cons {record : ChatMessage} {rows : List ChatMessage}
    {views : List ChatMessageView}
    (done : (record :: rows).mapM (decryptView cipher) = .ok views) :
    ∃ view others, decryptView cipher record = .ok view ∧
      rows.mapM (decryptView cipher) = .ok others ∧ views = view :: others := by
  rw [List.mapM_cons] at done
  cases first : decryptView cipher record with
  | error e => simp [first, bind, Except.bind] at done
  | ok view =>
    cases rest : rows.mapM (decryptView cipher) with
    | error e => simp [first, rest, bind, Except.bind] at done
    | ok others =>
      simp only [first, rest, bind, Except.bind, pure, Except.pure, Except.ok.injEq] at done
      exact ⟨view, others, rfl, rfl, done.symm⟩

/-- What a view has from its record, the views have from the records. -/
theorem decrypt_all_map {α : Type} {ofView : ChatMessageView → α} {ofRecord : ChatMessage → α}
    (same : ∀ record view, decryptView cipher record = .ok view → ofView view = ofRecord record)
    {rows : List ChatMessage} {views : List ChatMessageView}
    (done : rows.mapM (decryptView cipher) = .ok views) :
    views.map ofView = rows.map ofRecord := by
  induction rows generalizing views with
  | nil =>
    cases done
    rfl
  | cons record rows ih =>
    obtain ⟨view, others, first, rest, rfl⟩ := decrypt_all_cons cipher done
    rw [List.map_cons, List.map_cons, ih rest, same record view first]

theorem decrypt_all_ids {rows : List ChatMessage} {views : List ChatMessageView}
    (done : rows.mapM (decryptView cipher) = .ok views) :
    views.map ChatMessageView.id = rows.map ChatMessage.id :=
  decrypt_all_map cipher (fun _ _ => decrypt_view_id cipher) done

theorem decrypt_all_ok {rows : List ChatMessage}
    (readable : ∀ m ∈ rows, (cipher.decrypt m.payload).isSome) :
    ∃ views, rows.mapM (decryptView cipher) = .ok views := by
  induction rows with
  | nil => exact ⟨[], rfl⟩
  | cons record rows ih =>
    obtain ⟨content, decrypted⟩ := Option.isSome_iff_exists.mp (readable record List.mem_cons_self)
    obtain ⟨others, rest⟩ := ih fun m mem => readable m (List.mem_cons_of_mem _ mem)
    refine ⟨toView record content.text content.imageUrl :: others, ?_⟩
    simp [List.mapM_cons, decryptView, decrypted, rest, bind, Except.bind, pure, Except.pure]

theorem fetch_messages_ids {s : Store} {query : ChatFetchQueryDto} {rows : List ChatMessage}
    {views : List ChatMessageView} (done : fetchMessages cipher s query rows = .ok views) :
    views.map ChatMessageView.id = (rows.take query.limit).map ChatMessage.id := by
  unfold fetchMessages ensureCoupleMember at done
  split at done
  · exact decrypt_all_ids cipher done
  · simp [bind, Except.bind] at done

theorem decrypt_all_at {rows : List ChatMessage} {views : List ChatMessageView}
    (done : rows.mapM (decryptView cipher) = .ok views) {record : ChatMessage}
    {view : ChatMessageView} (readable : decryptView cipher record = .ok view) {i : Nat}
    (at_index : rows[i]? = some record) : views[i]? = some view := by
  induction rows generalizing views i with
  | nil => simp at at_index
  | cons first rows ih =>
    obtain ⟨head, others, decrypted, rest, rfl⟩ := decrypt_all_cons cipher done
    cases i with
    | zero =>
      simp only [List.getElem?_cons_zero, Option.some.injEq] at at_index ⊢
      rw [at_index, readable] at decrypted
      exact (Except.ok.inj decrypted).symm
    | succ i => exact ih rest at_index

theorem fetch_messages_at {s : Store} {query : ChatFetchQueryDto} {rows : List ChatMessage}
    {views : List ChatMessageView} (done : fetchMessages cipher s query rows = .ok views)
    {record : ChatMessage} {view : ChatMessageView} (readable : decryptView cipher record = .ok view)
    {i : Nat} (at_index : (rows.take query.limit)[i]? = some record) : views[i]? = some view := by
  unfold fetchMessages ensureCoupleMember at done
  split at done
  · exact decrypt_all_at cipher done readable at_index
  · simp [bind, Except.bind] at done

theorem fetch_messages_ok {s : Store} {query : ChatFetchQueryDto} {rows : List ChatMessage}
    (member : s.isMember query.coupleId query.userId = true)
    (readable : ∀ m ∈ rows.take query.limit, (cipher.decrypt m.payload).isSome) :
    ∃ views, fetchMessages cipher s query rows = .ok views := by
  obtain ⟨views, decrypted⟩ := decrypt_all_ok cipher readable
  refine ⟨views, ?_⟩
  simp [fetchMessages, ensureCoupleMember, member, decrypted, bind, Except.bind]

end Calls

/-- The ids of the rows that a query returns are ids of the table, each once. -/
theorem ordered_rows_ids {s : Store} {query : ChatFetchQueryDto} {rows : List ChatMessage}
    (ordered : OrderedRows s query rows) (once : (s.messages.map ChatMessage.id).Nodup) (n : Nat) :
    ((rows.take n).map ChatMessage.id).Nodup ∧
      ∀ id ∈ (rows.take n).map ChatMessage.id, id ∈ s.messages.map ChatMessage.id := by
  have selected : (s.messages.filter query.selects).Sublist s.messages := List.filter_sublist
  have rows_once : (rows.map ChatMessage.id).Nodup :=
    (ordered.1.map _).nodup_iff.mpr (once.sublist (selected.map _))
  refine ⟨rows_once.sublist ((List.take_sublist n rows).map _), ?_⟩
  intro id mem
  have in_rows := ((List.take_sublist n rows).map ChatMessage.id).subset mem
  exact (selected.map _).subset ((ordered.1.map _).subset in_rows)

theorem fetched_page_ids {cipher : Cipher} {s : Store} {query : ChatFetchQueryDto}
    {rows : List ChatMessage} {views : List ChatMessageView} (ordered : OrderedRows s query rows)
    (once : (s.messages.map ChatMessage.id).Nodup)
    (done : fetchMessages cipher s query rows = .ok views) :
    (views.map ChatMessageView.id).Nodup ∧
      ∀ id ∈ views.map ChatMessageView.id, id ∈ s.messages.map ChatMessage.id := by
  rw [fetch_messages_ids cipher done]
  exact ordered_rows_ids ordered once query.limit

end ChatService
