import Linkly.CalendarTab
import Linkly.GalleryFiles
import Linkly.RewrittenRows
import Linkly.RouteCacheRuns

/-!
What a user learns of a couple that the user is not a member of. A request has the same outcome in
all worlds that differ in the contents of this couple's rows, except where its service looks at a
row before it checks the membership: analyze tests an event's place and time first, and a page of
the gallery takes its time from any photo.
-/
namespace CoupleSecrecy
open JsText KeyedRows CoupleStore CoupleRequests RewrittenRows

variable {Num Value : Type}

/-- Contents for the rows of a couple. The keys of a row that comes out do not count. -/
structure Contents (Num : Type) where
  couple : Couple → Couple
  member : CoupleMember → CoupleMember
  home : Nat → Home Num
  event : EventService.CalendarEvent Num → EventService.CalendarEvent Num
  photo : Gallery.GalleryPhoto → Gallery.GalleryPhoto
  photoCreatedAt : Nat → Int
  message : ChatService.ChatMessage → ChatService.ChatMessage

namespace Contents
variable (contents : Contents Num) (coupleId : Nat)

def ofCouple (x : Couple) : Couple :=
  if x.id = coupleId then { contents.couple x with id := x.id } else x

def ofMember (m : CoupleMember) : CoupleMember :=
  if m.coupleId = coupleId then
    { contents.member m with id := m.id, coupleId := m.coupleId, userId := m.userId }
  else m

def ofEvent (e : EventService.CalendarEvent Num) : EventService.CalendarEvent Num :=
  if e.coupleId = coupleId then
    { contents.event e with
      id := e.id, coupleId := e.coupleId, createdByUserId := e.createdByUserId }
  else e

def ofPhoto (p : Gallery.GalleryPhoto) : Gallery.GalleryPhoto :=
  if p.coupleId = coupleId then
    { contents.photo p with
      id := p.id, coupleId := p.coupleId, uploadedByUserId := p.uploadedByUserId }
  else p

def ofMessage (m : ChatService.ChatMessage) : ChatService.ChatMessage :=
  if m.coupleId = idText coupleId then
    { contents.message m with
      id := m.id, coupleId := m.coupleId, senderUserId := m.senderUserId }
  else m

section Keys
variable {contents : Contents Num} {coupleId : Nat}

theorem of_event_id (e : EventService.CalendarEvent Num) :
    (contents.ofEvent coupleId e).id = e.id := by
  unfold ofEvent
  split <;> rfl

theorem of_event_couple (e : EventService.CalendarEvent Num) :
    (contents.ofEvent coupleId e).coupleId = e.coupleId := by
  unfold ofEvent
  split <;> rfl

theorem of_photo_id (p : Gallery.GalleryPhoto) : (contents.ofPhoto coupleId p).id = p.id := by
  unfold ofPhoto
  split <;> rfl

theorem of_photo_couple (p : Gallery.GalleryPhoto) :
    (contents.ofPhoto coupleId p).coupleId = p.coupleId := by
  unfold ofPhoto
  split <;> rfl

theorem of_message_id (m : ChatService.ChatMessage) :
    (contents.ofMessage coupleId m).id = m.id := by
  unfold ofMessage
  split <;> rfl

theorem of_message_couple (m : ChatService.ChatMessage) :
    (contents.ofMessage coupleId m).coupleId = m.coupleId := by
  unfold ofMessage
  split <;> rfl

end Keys

end Contents

/-- The world with other contents in the rows of a couple, and in the home columns of its members. -/
def rewrite (contents : Contents Num) (coupleId : Nat) (w : World Num) : World Num :=
  { w with
    tables := rewriteTables (contents.ofCouple coupleId) (contents.ofMember coupleId) w.tables
    home := fun userId =>
      if w.tables.members.any fun m => m.coupleId = coupleId ∧ m.userId = userId then
        contents.home userId
      else w.home userId
    events := w.events.map (contents.ofEvent coupleId)
    photos := w.photos.map (contents.ofPhoto coupleId)
    photoCreatedAt := fun id =>
      if w.photos.any fun p => p.coupleId = coupleId ∧ p.id = id then contents.photoCreatedAt id
      else w.photoCreatedAt id
    messages := w.messages.map (contents.ofMessage coupleId) }

/-- Two worlds that differ at most in the contents of the rows of a couple. -/
def Alike (coupleId : Nat) (w other : World Num) : Prop :=
  ∃ contents, other = rewrite contents coupleId w

/-- The keys of the tables. -/
structure Keyed (w : World Num) : Prop where
  memberIds : (w.tables.members.map CoupleMember.id).Nodup
  memberUsers : (w.tables.members.map CoupleMember.userId).Nodup
  eventIds : (w.events.map EventService.CalendarEvent.id).Nodup
  photoIds : (w.photos.map Gallery.GalleryPhoto.id).Nodup

def Outsider (w : World Num) (coupleId userId : Nat) : Prop :=
  ∀ m ∈ w.tables.members, m.coupleId = coupleId → m.userId ≠ userId

instance (w : World Num) (coupleId userId : Nat) : Decidable (Outsider w coupleId userId) :=
  inferInstanceAs (Decidable (∀ m ∈ w.tables.members, m.coupleId = coupleId → m.userId ≠ userId))

/-- The rows of a couple, each photo with its time, and the homes of its members. -/
structure CoupleRows (Num : Type) where
  couples : List Couple
  members : List CoupleMember
  invites : List CoupleInvite
  events : List (EventService.CalendarEvent Num)
  photos : List (Gallery.GalleryPhoto × Int)
  messages : List ChatService.ChatMessage
  homes : List (Home Num)

def rowsOf (w : World Num) (coupleId : Nat) : CoupleRows Num where
  couples := w.tables.couples.filter (·.id = coupleId)
  members := w.tables.members.filter (·.coupleId = coupleId)
  invites := w.tables.invites.filter (·.coupleId = coupleId)
  events := w.events.filter (·.coupleId = coupleId)
  photos := (w.photos.filter (·.coupleId = coupleId)).map fun p => (p, w.photoCreatedAt p.id)
  messages := w.messages.filter (·.coupleId = idText coupleId)
  homes := (w.tables.members.filter (·.coupleId = coupleId)).map fun m => w.home m.userId

/-- The requests with which an outsider reaches a row of the couple before the check: an analysis of
    one of its events, and a page that starts at one of its photos in a gallery of the outsider's
    own that has a row to show there. -/
def Leaks (w : World Num) (coupleId userId : Nat) : Request Num → Prop
  | .analyze eventId _ =>
    ∃ e, w.events.find? (·.id = eventId) = some e ∧ e.coupleId = coupleId
  | .findPhotos query => ∃ cursor p take, query.cursor = some cursor ∧
      w.photos.find? (·.id = cursor) = some p ∧ p.coupleId = coupleId ∧
      (∃ m ∈ w.tables.members, m.coupleId = query.coupleId ∧ m.userId = userId) ∧
      query.take.getD (some 36) = some take ∧ take ≠ 0 ∧
      2 ≤ (w.photos.filter (·.coupleId = query.coupleId)).length
  | _ => False

section Stores
variable (contents : Contents Num) {w : World Num} {coupleId userId : Nat}

theorem of_couple_foreign (coupleId : Nat) : ForeignCouple coupleId (contents.ofCouple coupleId)
    (contents.ofMember coupleId) where
  id x := by
    unfold Contents.ofCouple
    split <;> rfl
  memberId m := by
    unfold Contents.ofMember
    split <;> rfl
  memberCouple m := by
    unfold Contents.ofMember
    split <;> rfl
  memberUser m := by
    unfold Contents.ofMember
    split <;> rfl
  other x differs := if_neg differs
  otherMember m differs := if_neg differs

/-- What the member rows say about couples and users stays. -/
theorem pairs_rewritten {α : Type} (pair : Nat → Nat → α) :
    ((rewrite contents coupleId w).tables.members.map fun m => pair m.coupleId m.userId) =
      w.tables.members.map fun m => pair m.coupleId m.userId := by
  have foreign := of_couple_foreign contents coupleId
  simp only [rewrite, rewriteTables, List.map_map]
  apply List.map_congr_left
  intro m _
  rw [Function.comp_apply, foreign.memberCouple, foreign.memberUser]

theorem event_store_rewritten : (rewrite contents coupleId w).eventStore =
    { w.eventStore with events := w.eventStore.events.map (contents.ofEvent coupleId) } := by
  rw [World.eventStore, pairs_rewritten]
  rfl

theorem gallery_store_rewritten : (rewrite contents coupleId w).galleryStore =
    { w.galleryStore with photos := w.galleryStore.photos.map (contents.ofPhoto coupleId) } := by
  rw [World.galleryStore, pairs_rewritten]
  rfl

theorem chat_store_rewritten : (rewrite contents coupleId w).chatStore =
    { w.chatStore with messages := w.chatStore.messages.map (contents.ofMessage coupleId) } := by
  have pairs : ((rewrite contents coupleId w).tables.members.map fun m =>
      (⟨idText m.coupleId, idText m.userId⟩ : ChatService.CoupleMember)) =
        w.tables.members.map fun m => ⟨idText m.coupleId, idText m.userId⟩ :=
    pairs_rewritten contents fun c u => ChatService.CoupleMember.mk (idText c) (idText u)
  rw [World.chatStore, pairs]
  rfl

theorem event_member_iff {c u : Nat} : w.eventStore.isMember c u = true ↔
    ∃ m ∈ w.tables.members, m.coupleId = c ∧ m.userId = u := by
  simp [EventService.Store.isMember, World.eventStore]

theorem gallery_member_iff {c u : Nat} : w.galleryStore.isMember c u = true ↔
    ∃ m ∈ w.tables.members, m.coupleId = c ∧ m.userId = u := by
  simp [Gallery.Store.isMember, World.galleryStore]

theorem id_text_injective {a b : Nat} (same : idText a = idText b) : a = b :=
  Int.ofNat_inj.mp (SettingText.number_text_injective same)

theorem chat_member_iff {c : JsString} {u : Nat} : w.chatStore.isMember c (idText u) = true ↔
    ∃ m ∈ w.tables.members, idText m.coupleId = c ∧ m.userId = u := by
  have texts (m : CoupleMember) : idText m.userId = idText u ↔ m.userId = u :=
    ⟨id_text_injective, congrArg idText⟩
  simp [ChatService.Store.isMember, World.chatStore, texts]

variable (outsider : Outsider w coupleId userId)
include outsider

theorem event_outside : w.eventStore.isMember coupleId userId = false := by
  rw [← Bool.not_eq_true, event_member_iff]
  rintro ⟨m, mem, of_couple, is_user⟩
  exact outsider m mem of_couple is_user

theorem gallery_outside : w.galleryStore.isMember coupleId userId = false := by
  rw [← Bool.not_eq_true, gallery_member_iff]
  rintro ⟨m, mem, of_couple, is_user⟩
  exact outsider m mem of_couple is_user

theorem chat_outside : w.chatStore.isMember (idText coupleId) (idText userId) = false := by
  rw [← Bool.not_eq_true, chat_member_iff]
  rintro ⟨m, mem, of_couple, is_user⟩
  exact outsider m mem (id_text_injective of_couple) is_user

theorem couple_outside : w.tables.memberByCoupleUser coupleId userId = none := by
  apply List.find?_eq_none.mpr
  intro m mem both
  obtain ⟨of_couple, is_user⟩ := of_decide_eq_true both
  exact outsider m mem of_couple is_user

theorem foreign_events : ForeignEvents w.eventStore userId (contents.ofEvent coupleId) where
  id := Contents.of_event_id
  coupleId := Contents.of_event_couple
  own e member := by
    apply if_neg
    rintro rfl
    rw [event_outside outsider] at member
    cases member

theorem foreign_photos : ForeignPhotos w.galleryStore userId (contents.ofPhoto coupleId) where
  id := Contents.of_photo_id
  coupleId := Contents.of_photo_couple
  own p member := by
    apply if_neg
    rintro rfl
    rw [gallery_outside outsider] at member
    cases member

theorem own_message {m : ChatService.ChatMessage}
    (member : w.chatStore.isMember m.coupleId (idText userId) = true) :
    contents.ofMessage coupleId m = m := by
  apply if_neg
  intro same
  rw [same, chat_outside outsider] at member
  cases member

end Stores

section Homes
variable {contents : Contents Num} {w : World Num} {coupleId : Nat}

theorem home_rewritten (keyed : Keyed w) {m : CoupleMember} (mem : m ∈ w.tables.members)
    (other : m.coupleId ≠ coupleId) :
    (rewrite contents coupleId w).home m.userId = w.home m.userId := by
  apply if_neg
  intro listed
  obtain ⟨member, in_table, both⟩ := List.any_eq_true.mp listed
  obtain ⟨of_couple, same⟩ := of_decide_eq_true both
  obtain rfl := row_unique keyed.memberUsers in_table mem same
  exact other of_couple

theorem photo_time_rewritten (keyed : Keyed w) {p : Gallery.GalleryPhoto} (mem : p ∈ w.photos)
    (other : p.coupleId ≠ coupleId) :
    (rewrite contents coupleId w).photoCreatedAt p.id = w.photoCreatedAt p.id := by
  apply if_neg
  intro listed
  obtain ⟨photo, in_table, both⟩ := List.any_eq_true.mp listed
  obtain ⟨of_couple, same⟩ := of_decide_eq_true both
  obtain rfl := row_unique keyed.photoIds in_table mem same
  exact other of_couple

/-- The analysis of an event of another couple. -/
theorem analyze_inputs_rewritten (numbers : CoupleRoute.JsNumbers Num Value) (keyed : Keyed w)
    {eventId userId : Nat}
    (elsewhere : ∀ e ∈ w.events.find? (·.id = eventId), e.coupleId ≠ coupleId) :
    analyzeInputs numbers (rewrite contents coupleId w) eventId userId =
      analyzeInputs numbers w eventId userId := by
  have foreign := of_couple_foreign contents coupleId
  have row : (rewrite contents coupleId w).events.find? (·.id = eventId) =
      (w.events.find? (·.id = eventId)).map (contents.ofEvent coupleId) := by
    apply find_rewritten
    intro e _
    rw [Contents.of_event_id]
  unfold analyzeInputs
  rw [row]
  cases found : w.events.find? (·.id = eventId) with
  | none => rfl
  | some e =>
    have apart := elsewhere e found
    have same : contents.ofEvent coupleId e = e := if_neg apart
    have members : (rewrite contents coupleId w).tables.members.filter
        (fun m => m.coupleId = e.coupleId) =
          w.tables.members.filter fun m => m.coupleId = e.coupleId :=
      members_rewritten foreign apart
    have homes : ∀ m ∈ w.tables.members.filter fun m => m.coupleId = e.coupleId,
        (rewrite contents coupleId w).home m.userId = w.home m.userId := by
      intro m mem
      obtain ⟨in_table, of_event⟩ := List.mem_filter.mp mem
      apply home_rewritten keyed in_table
      rw [of_decide_eq_true of_event]
      exact apart
    have partners : ((w.tables.members.filter fun m => m.coupleId = e.coupleId).find?
          (fun m => m.userId ≠ userId)).map
            (fun m => (rewrite contents coupleId w).home m.userId) =
        ((w.tables.members.filter fun m => m.coupleId = e.coupleId).find?
          (fun m => m.userId ≠ userId)).map fun m => w.home m.userId := by
      apply Option.map_congr
      intro m partner
      exact homes m (List.mem_of_find?_eq_some partner)
    simp only [Option.map_some, same, members, partners]
    cases me : (w.tables.members.filter fun m => m.coupleId = e.coupleId).find?
        fun m => m.userId = userId with
    | none => rfl
    | some m => simp only [homes m (List.mem_of_find?_eq_some me)]

end Homes

section Outcomes
variable {w other : World Num}

/-- Results with the same part that goes into an answer have the same outcome. -/
theorem settle_outcome {Error α β : Type} {error : Error → Exception}
    {answer answer' : α → Answer Num Value × World Num} {result result' : Except Error α}
    (part : α → β) (view : β → Answer Num Value) (same : result'.map part = result.map part)
    (shows' : ∀ v, (answer' v).1 = view (part v)) (shows : ∀ v, (answer v).1 = view (part v)) :
    (settle other error answer' result').1 = (settle w error answer result).1 := by
  cases result with
  | error e =>
    cases result' with
    | error e' =>
      obtain rfl := Except.error.inj same
      rfl
    | ok v => cases same
  | ok v =>
    cases result' with
    | error e => cases same
    | ok v' =>
      have parts : part v' = part v := Except.ok.inj same
      simp only [settle, shows, shows', parts]

theorem settle_same {Error α : Type} {error : Error → Exception}
    {answer answer' : α → Answer Num Value × World Num} {result result' : Except Error α}
    (same : result' = result) (shows : ∀ v, (answer' v).1 = (answer v).1) :
    (settle other error answer' result').1 = (settle w error answer result).1 := by
  subst same
  cases result' with
  | error e => rfl
  | ok v => simp only [settle, shows]

variable (services : Services Num Value) (contents : Contents Num) {coupleId userId : Nat}
  (outsider : Outsider w coupleId userId)
include outsider

theorem fetch_rewritten (query : ChatService.ChatFetchQueryDto)
    (asks : query.userId = idText userId) :
    ChatService.fetchMessages services.cipher (rewrite contents coupleId w).chatStore query
        (messageRows (rewrite contents coupleId w) query) =
      ChatService.fetchMessages services.cipher w.chatStore query (messageRows w query) := by
  rw [chat_store_rewritten]
  cases member : w.chatStore.isMember query.coupleId (idText userId) with
  | false =>
    have checked : ChatService.ensureCoupleMember w.chatStore query.coupleId query.userId =
        .error (.forbidden "User is not a member of this couple.") := by
      rw [asks]
      exact if_neg (by rw [member]; decide)
    have same : ChatService.ensureCoupleMember { w.chatStore with
        messages := w.chatStore.messages.map (contents.ofMessage coupleId) } query.coupleId
          query.userId = ChatService.ensureCoupleMember w.chatStore query.coupleId query.userId := rfl
    rw [ChatService.fetchMessages, ChatService.fetchMessages, same, checked]
    rfl
  | true =>
    have rows : messageRows (rewrite contents coupleId w) query = messageRows w query :=
      congrArg (List.insertionSort query.ordered)
        (selected_rewritten Contents.of_message_couple
          (fun _ own => own_message contents outsider own) member)
    rw [rows]
    rfl

theorem couple_info_rewritten (target : Nat) :
    CoupleInfo.findCoupleInfo (rewrite contents coupleId w).tables target userId =
      CoupleInfo.findCoupleInfo w.tables target userId := by
  have foreign := of_couple_foreign contents coupleId
  have checked : CoupleInfo.ensureCoupleMember (rewrite contents coupleId w).tables target userId =
      CoupleInfo.ensureCoupleMember w.tables target userId := ensure_rewritten foreign target userId
  by_cases apart : target = coupleId
  · rw [CoupleInfo.findCoupleInfo, CoupleInfo.findCoupleInfo, checked,
      CoupleInfo.ensureCoupleMember, apart, couple_outside outsider]
    rfl
  · have read : CoupleInfo.readCouple (rewrite contents coupleId w).tables target userId =
        CoupleInfo.readCouple w.tables target userId := read_couple_rewritten foreign apart userId
    rw [CoupleInfo.findCoupleInfo, CoupleInfo.findCoupleInfo, checked, read]

omit outsider

theorem break_up_rewritten (target : Nat) :
    (breakUp (rewrite contents coupleId w) target userId).map (fun _ => ()) =
      (breakUp w target userId).map fun _ => () := by
  have foreign := of_couple_foreign contents coupleId
  have checked : CoupleInfo.ensureCoupleMember (rewrite contents coupleId w).tables target userId =
      CoupleInfo.ensureCoupleMember w.tables target userId := ensure_rewritten foreign target userId
  have present : (rewrite contents coupleId w).tables.couples.any (fun x => x.id = target) =
      w.tables.couples.any fun x => x.id = target :=
    any_rewritten fun x _ => by rw [foreign.id]
  simp only [breakUp, deleteCouple, Store.deleteCouple, checked, present]
  cases CoupleInfo.ensureCoupleMember w.tables target userId with
  | error error => rfl
  | ok => cases w.tables.couples.any fun x => x.id = target <;> rfl

variable (keyed : Keyed w)
include outsider keyed

theorem own_photo_time : ∀ p ∈ w.galleryStore.photos,
    w.galleryStore.isMember p.coupleId userId = true →
      (rewrite contents coupleId w).photoCreatedAt p.id = w.photoCreatedAt p.id := by
  intro p in_table member
  apply photo_time_rewritten keyed in_table
  rintro rfl
  rw [gallery_outside outsider] at member
  cases member

theorem find_photos_rewritten (query : GalleryPages.PhotoQueryDto) (asks : query.userId = userId)
    (safe : ¬ Leaks w coupleId userId (.findPhotos query)) :
    GalleryPages.findMany (rewrite contents coupleId w).photoCreatedAt
        (rewrite contents coupleId w).galleryStore query =
      GalleryPages.findMany w.photoCreatedAt w.galleryStore query := by
  rw [gallery_store_rewritten]
  apply find_many_rewritten (foreign_photos contents outsider)
    (own_photo_time contents outsider keyed) query asks
  intro member cursor is_cursor row found take is_take
  have in_table : row ∈ w.photos := List.mem_of_find?_eq_some found
  by_cases of_couple : row.coupleId = coupleId
  · right
    by_contra shows
    rw [not_or, Nat.not_le] at shows
    exact safe ⟨cursor, row, take, is_cursor, found, of_couple, gallery_member_iff.mp member,
      is_take, shows⟩
  · exact Or.inl (photo_time_rewritten keyed in_table of_couple)

theorem serve_rewritten {request : Request Num} (safe : ¬ Leaks w coupleId userId request) :
    (serve services (rewrite contents coupleId w) userId request).1 =
      (serve services w userId request).1 := by
  have events := foreign_events contents outsider
  have photos := foreign_photos contents outsider
  have couple := of_couple_foreign contents coupleId
  cases request with
  | createMessage payload draw =>
    simp only [serve, chat_store_rewritten]
    exact settle_outcome Prod.fst .message
      (create_message_rewritten Contents.of_message_id services.cipher _ draw)
      (fun _ => rfl) (fun _ => rfl)
  | fetchMessages query =>
    simp only [serve]
    exact settle_same (fetch_rewritten services contents outsider _ rfl) fun _ => rfl
  | createEvent dto draw =>
    simp only [serve, event_store_rewritten]
    exact settle_outcome Prod.snd .event (create_event_rewritten services.server draw dto)
      (fun _ => rfl) (fun _ => rfl)
  | findByMonth query =>
    simp only [serve, event_store_rewritten]
    exact settle_same (find_by_month_rewritten events services.server _ rfl) fun _ => rfl
  | findById id =>
    simp only [serve, event_store_rewritten]
    exact settle_same (find_by_id_rewritten events id) fun _ => rfl
  | updateEvent id dto draw =>
    simp only [serve, event_store_rewritten]
    exact settle_outcome Prod.snd .event (update_rewritten events services.server draw id dto)
      (fun _ => rfl) (fun _ => rfl)
  | removeEvent id draw =>
    simp only [serve, event_store_rewritten]
    exact settle_outcome (fun _ => ()) (fun _ => .done) (remove_rewritten events draw id)
      (fun _ => rfl) (fun _ => rfl)
  | upload target files =>
    simp only [serve, gallery_store_rewritten]
    apply settle_outcome (fun t => t.photos.drop w.photos.length) .photos
      (upload_rewritten services.platform _ target files)
    · intro t
      simp [rewrite]
    · exact fun _ => rfl
  | findPhotos query =>
    simp only [serve]
    exact settle_same (find_photos_rewritten contents outsider keyed _ rfl safe) fun _ => rfl
  | removePhoto photoId =>
    simp only [serve, gallery_store_rewritten]
    exact settle_outcome (fun _ => ()) (fun _ => .done) (remove_photo_rewritten photos photoId)
      (fun _ => rfl) (fun _ => rfl)
  | removePhotos photoIds =>
    simp only [serve, gallery_store_rewritten]
    exact settle_outcome (fun _ => ()) (fun _ => .done) (remove_photos_rewritten photos photoIds)
      (fun _ => rfl) (fun _ => rfl)
  | findCoupleInfo target =>
    simp only [serve]
    exact settle_same (couple_info_rewritten contents outsider target) fun _ => rfl
  | updateCouple target dto attempts =>
    exact congrArg (fun result => ((result.map Answer.couple).mapError Exception.couple :
        Except Exception (Answer Num Value)))
      (update_couple_rewritten couple keyed.memberIds outsider services.newDate attempts target dto)
  | breakUp target =>
    simp only [serve]
    exact settle_outcome (fun _ => ()) (fun _ => .done) (break_up_rewritten contents target)
      (fun _ => rfl) (fun _ => rfl)
  | analyze eventId forceRefresh =>
    have same : analyzeInputs services.numbers (rewrite contents coupleId w) eventId userId =
        analyzeInputs services.numbers w eventId userId :=
      analyze_inputs_rewritten services.numbers keyed
        fun e found of_couple => safe ⟨e, found, of_couple⟩
    simp only [serve, same]
    cases analyzeInputs services.numbers w eventId userId with
    | error error => rfl
    | ok inputs => rfl

end Outcomes

section Kept
variable {w : World Num} {coupleId userId : Nat}

theorem settle_keeps {Error α : Type} {error : Error → Exception}
    {answer : α → Answer Num Value × World Num} {result : Except Error α}
    (keeps : ∀ v, result = .ok v → rowsOf (answer v).2 coupleId = rowsOf w coupleId) :
    rowsOf (settle w error answer result).2 coupleId = rowsOf w coupleId := by
  cases result with
  | error e => rfl
  | ok v => exact keeps v rfl

theorem rows_with_chat {s : ChatService.Store} (same : s.messages.filter
    (·.coupleId = idText coupleId) = w.messages.filter (·.coupleId = idText coupleId)) :
    rowsOf (w.withChat s) coupleId = rowsOf w coupleId := by
  unfold rowsOf World.withChat
  rw [same]

theorem rows_with_events {s : EventService.Store Num} (same : s.events.filter
    (·.coupleId = coupleId) = w.events.filter (·.coupleId = coupleId)) :
    rowsOf (w.withEvents s) coupleId = rowsOf w coupleId := by
  unfold rowsOf World.withEvents
  rw [same]

theorem rows_with_gallery {s : Gallery.Store} (same : s.photos.filter
    (·.coupleId = coupleId) = w.photos.filter (·.coupleId = coupleId)) :
    rowsOf (w.withGallery s) coupleId = rowsOf w coupleId := by
  unfold rowsOf World.withGallery
  rw [same]

theorem rows_with_tables {t : CoupleStore.Store} (keeps : KeepsCouple coupleId w.tables t) :
    rowsOf { w with tables := t } coupleId = rowsOf w coupleId := by
  unfold rowsOf
  rw [keeps.couples, keeps.members, keeps.invites]

theorem rows_after_delete {rest : World Num} {target : Nat} (apart : target ≠ coupleId)
    (deleted : deleteCouple w target = some rest) : rowsOf rest coupleId = rowsOf w coupleId := by
  have texts : idText target ≠ idText coupleId := fun same => apart (id_text_injective same)
  unfold deleteCouple Store.deleteCouple at deleted
  split at deleted
  · cases deleted
    unfold rowsOf
    simp only [filter_after_delete _ apart, filter_after_delete _ texts]
  · cases deleted

variable (services : Services Num Value) (keyed : Keyed w) (outsider : Outsider w coupleId userId)
include outsider

theorem rows_after_break_up {rest : World Num} {target : Nat}
    (done : breakUp w target userId = .ok rest) : rowsOf rest coupleId = rowsOf w coupleId := by
  unfold breakUp CoupleInfo.ensureCoupleMember at done
  cases member : w.tables.memberByCoupleUser target userId with
  | none => simp [member, bind, Except.bind] at done
  | some m =>
    have apart : target ≠ coupleId := by
      rintro rfl
      rw [couple_outside outsider] at member
      cases member
    simp only [member] at done
    split at done
    · cases done
    · rename_i left deleted
      cases done
      have kept := rows_after_delete apart deleted
      exact kept

include keyed

theorem serve_keeps (request : Request Num) :
    rowsOf (serve services w userId request).2 coupleId = rowsOf w coupleId := by
  have no_event := event_outside outsider
  have no_photo := gallery_outside outsider
  cases request with
  | createMessage payload draw =>
    apply settle_keeps
    rintro ⟨view, s⟩ done
    exact rows_with_chat (create_message_keeps_rows (chat_outside outsider) rfl done)
  | createEvent dto draw =>
    apply settle_keeps
    rintro ⟨s, event⟩ done
    exact rows_with_events (create_keeps_rows no_event done)
  | updateEvent id dto draw =>
    apply settle_keeps
    rintro ⟨s, event⟩ done
    exact rows_with_events (update_keeps_rows no_event keyed.eventIds done)
  | removeEvent id draw =>
    apply settle_keeps
    intro s done
    exact rows_with_events (remove_keeps_rows no_event keyed.eventIds done)
  | upload target files =>
    apply settle_keeps
    intro s done
    exact rows_with_gallery (upload_keeps_rows no_photo done)
  | removePhoto photoId =>
    apply settle_keeps
    intro s done
    exact rows_with_gallery (remove_photo_keeps_rows no_photo keyed.photoIds done)
  | removePhotos photoIds =>
    apply settle_keeps
    intro s done
    exact rows_with_gallery (remove_photos_keeps_rows no_photo done)
  | updateCouple target dto attempts =>
    exact rows_with_tables
      (update_couple_keeps keyed.memberIds outsider services.newDate attempts target dto)
  | breakUp target =>
    apply settle_keeps
    intro rest done
    exact rows_after_break_up outsider done
  | analyze eventId forceRefresh =>
    simp only [serve]
    cases analyzeInputs services.numbers w eventId userId with
    | error error => rfl
    | ok inputs => rfl
  | fetchMessages query | findByMonth query | findById id | findPhotos query
  | findCoupleInfo target =>
    apply settle_keeps
    intro v done
    rfl

end Kept

section Leaking
variable {w : World Num} {coupleId userId : Nat} (services : Services Num Value)
  (keyed : Keyed w) (outsider : Outsider w coupleId userId)
include outsider

def currentContents (w : World Num) : Contents Num :=
  ⟨id, id, w.home, id, id, w.photoCreatedAt, id⟩

/-- What other places and times do to an analysis that an outsider asks for. -/
theorem analyze_rejected {contents : Contents Num} {eventId : Nat} {forceRefresh : Bool}
    {e : EventService.CalendarEvent Num} (found : w.events.find? (·.id = eventId) = some e)
    (of_couple : e.coupleId = coupleId) :
    (serve services (rewrite contents coupleId w) userId (.analyze eventId forceRefresh)).1 =
      .error (.route (.badRequest
        (if (RouteCaching.givenNumber services.numbers (contents.event e).placeLat).isNone ∨
            (RouteCaching.givenNumber services.numbers (contents.event e).placeLng).isNone then
          "Event has no place coordinates"
        else if (contents.event e).appointmentAt = none then "Event has no appointment time"
        else "User is not a member of this couple"))) := by
  have row : (rewrite contents coupleId w).events.find? (·.id = eventId) =
      some (contents.ofEvent coupleId e) := by
    have same : ∀ e ∈ w.events,
        decide ((contents.ofEvent coupleId e).id = eventId) = decide (e.id = eventId) := by
      intro e _
      rw [(foreign_events contents outsider).id]
    rw [← Option.map_some, ← found]
    exact find_rewritten same
  have event : contents.ofEvent coupleId e = { contents.event e with
      id := e.id, coupleId := e.coupleId, createdByUserId := e.createdByUserId } := if_pos of_couple
  have nobody : ((rewrite contents coupleId w).tables.members.filter
      fun m => m.coupleId = e.coupleId).find? (fun m => m.userId = userId) = none := by
    have foreign := of_couple_foreign contents coupleId
    apply List.find?_eq_none.mpr
    intro m mem is_user
    obtain ⟨in_table, of_event⟩ := List.mem_filter.mp mem
    obtain ⟨own, in_rows, rfl⟩ := List.mem_map.mp in_table
    apply outsider own in_rows
    · rw [← of_couple, ← of_decide_eq_true of_event, foreign.memberCouple]
    · rw [← of_decide_eq_true is_user, foreign.memberUser]
  have inputs : analyzeInputs services.numbers (rewrite contents coupleId w) eventId userId =
      .error (.badRequest
        (if (RouteCaching.givenNumber services.numbers (contents.event e).placeLat).isNone ∨
            (RouteCaching.givenNumber services.numbers (contents.event e).placeLng).isNone then
          "Event has no place coordinates"
        else if (contents.event e).appointmentAt = none then "Event has no appointment time"
        else "User is not a member of this couple")) := by
    simp only [analyzeInputs, row, event, nobody]
    cases RouteCaching.givenNumber services.numbers (contents.event e).placeLat with
    | none => simp
    | some lat =>
      cases RouteCaching.givenNumber services.numbers (contents.event e).placeLng with
      | none => simp
      | some lng => cases (contents.event e).appointmentAt <;> simp
  simp only [serve, inputs]

theorem analyze_leaks {one : Num} (truthy : services.numbers.truthy one = true) {eventId : Nat}
    {forceRefresh : Bool} {e : EventService.CalendarEvent Num}
    (found : w.events.find? (·.id = eventId) = some e) (of_couple : e.coupleId = coupleId) :
    ∃ contents,
      (serve services (rewrite contents coupleId w) userId (.analyze eventId forceRefresh)).1 ≠
        (serve services w userId (.analyze eventId forceRefresh)).1 := by
  by_contra same
  rw [not_exists] at same
  simp only [not_not] at same
  have nowhere := same { currentContents w with event := fun e => { e with placeLat := none } }
  have no_time := same { currentContents w with
    event := fun e => { e with placeLat := some one, placeLng := some one, appointmentAt := none } }
  rw [analyze_rejected services outsider found of_couple] at nowhere no_time
  have both := nowhere.trans no_time.symm
  simp [RouteCaching.givenNumber, truthy] at both

include keyed

/-- The page that starts at a photo of the couple, when this photo has a given time. -/
theorem find_photos_at {query : GalleryPages.PhotoQueryDto} {cursor : Nat}
    {p : Gallery.GalleryPhoto} {take : Int}
    (member : w.galleryStore.isMember query.coupleId userId = true)
    (takes : query.take.getD (some 36) = some take) (is_cursor : query.cursor = some cursor)
    (found : w.photos.find? (·.id = cursor) = some p) (of_couple : p.coupleId = coupleId)
    (time : Int) :
    (serve services (rewrite { currentContents w with photoCreatedAt := fun _ => time } coupleId w)
        userId (.findPhotos query)).1 =
      .ok (.photos (GalleryPages.page w.photoCreatedAt take 1
        (GalleryPages.beyond w.photoCreatedAt take time
          (w.photos.filter (·.coupleId = query.coupleId))))) := by
  have at_time : (rewrite { currentContents w with photoCreatedAt := fun _ => time }
      coupleId w).photoCreatedAt p.id = time := by
    apply if_pos
    exact List.any_eq_true.mpr
      ⟨p, List.mem_of_find?_eq_some found, decide_eq_true ⟨of_couple, rfl⟩⟩
  simp only [serve, gallery_store_rewritten]
  rw [find_many_at_cursor (foreign_photos _ outsider) (own_photo_time _ outsider keyed)
    { query with userId := userId } rfl member takes is_cursor found, at_time]
  rfl

theorem find_photos_leaks {query : GalleryPages.PhotoQueryDto}
    (leaks : Leaks w coupleId userId (.findPhotos query)) :
    ∃ contents, (serve services (rewrite contents coupleId w) userId (.findPhotos query)).1 ≠
      (serve services w userId (.findPhotos query)).1 := by
  obtain ⟨cursor, p, take, is_cursor, found, of_couple, member, takes, some_rows, rows⟩ := leaks
  have page_at := find_photos_at services keyed outsider (gallery_member_iff.mpr member) takes
    is_cursor found of_couple
  obtain ⟨before, after, all, nothing⟩ := GalleryPages.some_cursors w.photoCreatedAt take
    (w.photos.filter (·.coupleId = query.coupleId))
  by_contra same
  simp only [not_exists, not_not] at same
  have pages := (same { currentContents w with photoCreatedAt := fun _ => before }).trans
    (same { currentContents w with photoCreatedAt := fun _ => after }).symm
  rw [page_at, page_at, all, nothing] at pages
  have lengths := congrArg List.length (Answer.photos.inj (Except.ok.inj pages))
  rw [GalleryPages.page_length, GalleryPages.page_length, List.length_nil] at lengths
  omega

end Leaking

section Rewritten
variable (contents : Contents Num) {w : World Num} {coupleId userId : Nat}

theorem keyed_rewritten (keyed : Keyed w) : Keyed (rewrite contents coupleId w) := by
  have foreign := of_couple_foreign contents coupleId
  have same {Row : Type} {key : Row → Nat} {f : Row → Row} {rows : List Row}
      (keeps : ∀ r, key (f r) = key r) (once : (rows.map key).Nodup) :
      ((rows.map f).map key).Nodup := by
    rw [List.map_map, show key ∘ f = key from funext keeps]
    exact once
  exact ⟨same foreign.memberId keyed.memberIds, same foreign.memberUser keyed.memberUsers,
    same Contents.of_event_id keyed.eventIds, same Contents.of_photo_id keyed.photoIds⟩

theorem outsider_rewritten (outsider : Outsider w coupleId userId) :
    Outsider (rewrite contents coupleId w) coupleId userId := by
  have foreign := of_couple_foreign contents coupleId
  intro m mem of_couple
  obtain ⟨own, in_rows, rfl⟩ := List.mem_map.mp mem
  rw [foreign.memberUser]
  exact outsider own in_rows ((foreign.memberCouple own).symm.trans of_couple)

end Rewritten

/-- Everyone who is not a member of a couple, and every request: its outcome says nothing about the
    contents of the couple's rows and these rows stay as they are, unless the request leaks. -/
theorem same_outcome_iff (services : Services Num Value) {one : Num}
    (truthy : services.numbers.truthy one = true) {w : World Num} (keyed : Keyed w)
    {coupleId userId : Nat} (outsider : Outsider w coupleId userId) (request : Request Num) :
    (∀ other, Alike coupleId w other →
      (serve services other userId request).1 = (serve services w userId request).1 ∧
      rowsOf (serve services w userId request).2 coupleId = rowsOf w coupleId ∧
      rowsOf (serve services other userId request).2 coupleId = rowsOf other coupleId) ↔
    ¬ Leaks w coupleId userId request := by
  constructor
  · intro every leaks
    obtain ⟨contents, differs⟩ : ∃ contents,
        (serve services (rewrite contents coupleId w) userId request).1 ≠
          (serve services w userId request).1 := by
      cases request with
      | analyze eventId forceRefresh =>
        obtain ⟨e, found, of_couple⟩ := leaks
        exact analyze_leaks services outsider truthy found of_couple
      | findPhotos query => exact find_photos_leaks services keyed outsider leaks
      | _ => exact leaks.elim
    exact differs (every _ ⟨contents, rfl⟩).1
  · rintro safe other ⟨contents, rfl⟩
    exact ⟨serve_rewritten services contents outsider keyed safe,
      serve_keeps services keyed outsider request,
      serve_keeps services (keyed_rewritten contents keyed) (outsider_rewritten contents outsider)
        request⟩

section Sample

def sampleServices : Services Int Int where
  server := CalendarTab.greenwich
  cipher := ChatService.plainCipher
  platform := GalleryFiles.samplePlatform
  newDate _ := none
  numbers := RouteCacheRuns.wholeNumbers
  route _ caches := (none, caches)

def sampleDinner : EventService.CalendarEvent Int where
  id := 7
  coupleId := 0
  title := js "dinner"
  placeName := none
  placeAddress := none
  placeLat := some 37
  placeLng := some 127
  appointmentAt := some CalendarTab.elevenUtc
  detail := none
  createdByUserId := 1
  createdAt := CalendarTab.elevenUtc
  updatedAt := CalendarTab.elevenUtc

/-- Users 1 and 2 are a couple with a dinner, and users 3 and 4 are another couple. -/
def sampleWorld : World Int where
  tables :=
    { users := [1, 2, 3, 4].map fun id => ⟨id, none, "user", none, none⟩
      couples := [⟨0, .active, none, 0, 0⟩, ⟨1, .active, none, 0, 0⟩]
      members := [⟨0, 0, 1, none, .owner⟩, ⟨1, 0, 2, none, .member⟩, ⟨2, 1, 3, none, .owner⟩,
        ⟨3, 1, 4, none, .member⟩]
      invites := []
      owned := []
      nextId := 4 }
  home _ := ⟨some 36, some 128⟩
  events := [sampleDinner]
  photos := []
  photoCreatedAt _ := 0
  messages := []
  queue := []
  caches := ⟨[], []⟩
  uploadDir _ := none
  received := []
  nextPhotoId := 0

theorem sample_keyed : Keyed sampleWorld := ⟨by decide, by decide, by decide, by decide⟩

theorem sample_outsider : Outsider sampleWorld 0 3 := by decide

theorem stranger_learns_nothing_from_find_by_id : ¬ Leaks sampleWorld 0 3 (.findById 7) ∧
    ∀ other, Alike 0 sampleWorld other →
      (serve sampleServices other 3 (.findById 7)).1 =
          (serve sampleServices sampleWorld 3 (.findById 7)).1 ∧
        rowsOf (serve sampleServices sampleWorld 3 (.findById 7)).2 0 = rowsOf sampleWorld 0 ∧
        rowsOf (serve sampleServices other 3 (.findById 7)).2 0 = rowsOf other 0 :=
  ⟨id, (same_outcome_iff sampleServices (show sampleServices.numbers.truthy 1 = true by decide)
    sample_keyed sample_outsider (.findById 7)).mpr id⟩

/-- User 3 asks for an analysis of the dinner, and learns from the error whether it has a place. -/
theorem stranger_learns_whether_dinner_has_place : ¬ ∀ (services : Services Int Int) (w : World Int)
    (coupleId userId : Nat) (request : Request Int), Keyed w → Outsider w coupleId userId →
      ∀ other, Alike coupleId w other →
        (serve services other userId request).1 = (serve services w userId request).1 ∧
        rowsOf (serve services w userId request).2 coupleId = rowsOf w coupleId ∧
        rowsOf (serve services other userId request).2 coupleId = rowsOf other coupleId := by
  intro every
  have same := (every sampleServices sampleWorld 0 3 (.analyze 7 false) sample_keyed sample_outsider
    _ ⟨{ currentContents sampleWorld with event := fun e => { e with placeLat := none } }, rfl⟩).1
  exact absurd same (by decide)

end Sample

end CoupleSecrecy
