import Linkly.CoupleRequests

/-!
How the services answer over tables in which rows of other couples have other contents: each answer
is the same, as far as the checks of a service come before its use of a row.
-/
namespace RewrittenRows
open JsText KeyedRows CoupleStore

variable {Num : Type}

section Events
open EventService

variable {s : EventService.Store Num} {f : CalendarEvent Num → CalendarEvent Num} {userId : Nat}

theorem ensure_with_events (rows : List (CalendarEvent Num)) (coupleId : Nat) :
    ensureCoupleMember { s with events := rows } coupleId userId =
      ensureCoupleMember s coupleId userId := rfl

theorem ensure_outside {coupleId : Nat} (outside : s.isMember coupleId userId = false) :
    ensureCoupleMember s coupleId userId =
      .error (.forbidden "User is not a member of this couple.") :=
  if_neg (by rw [outside]; decide)

/-- Other contents for rows of couples that a user is not a member of. -/
structure ForeignEvents (s : EventService.Store Num) (userId : Nat)
    (f : CalendarEvent Num → CalendarEvent Num) : Prop where
  id : ∀ e, (f e).id = e.id
  coupleId : ∀ e, (f e).coupleId = e.coupleId
  own : ∀ e, s.isMember e.coupleId userId = true → f e = e

theorem create_event_rewritten (server : LocalDate.Host) (draw : Draw) (dto : CreateEventDto Num) :
    (create server draw { s with events := s.events.map f } dto userId).map Prod.snd =
      (create server draw s dto userId).map Prod.snd := by
  simp only [create, ensure_with_events]
  cases ensureCoupleMember s dto.coupleId userId with
  | error error => rfl
  | ok => cases dateOrNull server dto.appointmentAt <;> rfl

variable (foreign : ForeignEvents s userId f)
include foreign

theorem find_event_rewritten (id : Nat) :
    (s.events.map f).find? (fun e => e.id = id) = (s.events.find? fun e => e.id = id).map f :=
  find_rewritten fun e _ => by rw [foreign.id]

theorem find_by_id_rewritten (id : Nat) :
    findById { s with events := s.events.map f } id userId = findById s id userId := by
  simp only [findById, find_event_rewritten foreign]
  cases s.events.find? fun e => e.id = id with
  | none => rfl
  | some e =>
    cases member : s.isMember e.coupleId userId with
    | true => rw [Option.map_some, foreign.own e member]; rfl
    | false =>
      simp only [Option.map_some, ensure_with_events, foreign.coupleId, ensure_outside member]
      rfl

theorem find_by_month_rewritten (server : LocalDate.Host) (query : EventQueryDto)
    (asks : query.userId = userId) :
    findByMonth server { s with events := s.events.map f } query =
      findByMonth server s query := by
  subst asks
  cases member : s.isMember query.coupleId query.userId with
  | false =>
    simp only [findByMonth, ensure_with_events, ensure_outside member]
    rfl
  | true =>
    have rows : (s.events.map f).filter (fun e => e.coupleId = query.coupleId) =
        s.events.filter fun e => e.coupleId = query.coupleId := by
      apply filter_rewritten_fixed
      · intro e _
        rw [foreign.coupleId]
      · intro e _ same
        apply foreign.own
        rw [of_decide_eq_true same, member]
    simp only [findByMonth, rows]
    rfl

theorem update_rewritten (server : LocalDate.Host) (draw : Draw) (id : Nat)
    (dto : UpdateEventDto Num) :
    (update server draw { s with events := s.events.map f } id userId dto).map Prod.snd =
      (update server draw s id userId dto).map Prod.snd := by
  simp only [update, find_by_id_rewritten foreign]
  cases findById s id userId with
  | error error => rfl
  | ok event =>
    cases dto.appointmentAt with
    | none => rfl
    | some text =>
      cases read : dateOrNull server text <;>
        simp [read, bind, Except.bind, Except.map, pure, Except.pure]

theorem remove_rewritten (draw : Draw) (id : Nat) :
    (remove draw { s with events := s.events.map f } id userId).map (fun _ => ()) =
      (remove draw s id userId).map fun _ => () := by
  simp only [remove, find_by_id_rewritten foreign]
  cases findById s id userId <;> rfl

omit foreign

theorem ensure_inside {coupleId : Nat} (checked : ensureCoupleMember s coupleId userId = .ok ()) :
    s.isMember coupleId userId = true := by
  cases member : s.isMember coupleId userId with
  | true => rfl
  | false => simp [ensure_outside member] at checked

theorem find_by_id_inside {id : Nat} {e : CalendarEvent Num}
    (found : findById s id userId = .ok e) :
    s.events.find? (fun e => e.id = id) = some e ∧ s.isMember e.coupleId userId = true := by
  unfold findById at found
  cases row : s.events.find? fun e => e.id = id with
  | none => simp [row] at found
  | some first =>
    cases checked : ensureCoupleMember s first.coupleId userId with
    | error error => simp [row, checked, bind, Except.bind] at found
    | ok =>
      simp only [row, checked] at found
      cases found
      exact ⟨rfl, ensure_inside checked⟩

/-- The row that an update writes is one of the couple of the row that it was. -/
theorem update_writes {server : LocalDate.Host} {draw : Draw} {id : Nat} {dto : UpdateEventDto Num}
    {t : EventService.Store Num} {updated : CalendarEvent Num}
    (done : update server draw s id userId dto = .ok (t, updated)) :
    ∃ e, findById s id userId = .ok e ∧ updated.coupleId = e.coupleId ∧
      t.events = s.events.map (replaceRow id updated) := by
  have written (changed : Bool) (rows : List (CalendarEvent Num)) :
      (if changed then invalidateRouteCaches draw { s with events := rows } id
        else { s with events := rows }).events = rows := by
    cases changed with
    | true => exact (invalidate_keeps_rows id).1
    | false => rfl
  unfold update at done
  cases found : findById s id userId with
  | error error => simp [found, bind, Except.bind] at done
  | ok e =>
    cases time : dto.appointmentAt with
    | none =>
      simp only [found, time] at done
      cases done
      exact ⟨e, rfl, rfl, written _ _⟩
    | some text =>
      cases read : dateOrNull server text with
      | error error => simp [found, time, read, bind, Except.bind, Except.map] at done
      | ok date =>
        simp only [found, time, read] at done
        cases done
        exact ⟨e, rfl, rfl, written _ _⟩

section Kept
variable {coupleId : Nat} (outside : s.isMember coupleId userId = false)
include outside

theorem create_keeps_rows {server : LocalDate.Host} {draw : Draw} {dto : CreateEventDto Num}
    {t : EventService.Store Num} {event : CalendarEvent Num}
    (done : create server draw s dto userId = .ok (t, event)) :
    t.events.filter (·.coupleId = coupleId) = s.events.filter (·.coupleId = coupleId) := by
  unfold create at done
  cases checked : ensureCoupleMember s dto.coupleId userId with
  | error error => simp [checked, bind, Except.bind] at done
  | ok =>
    cases read : dateOrNull server dto.appointmentAt with
    | error error => simp [checked, read, bind, Except.bind] at done
    | ok date =>
      simp only [checked, read] at done
      cases done
      have other : dto.coupleId ≠ coupleId := by
        rintro rfl
        simp [ensure_inside checked] at outside
      simp [other]

theorem found_not_foreign (once : (s.events.map CalendarEvent.id).Nodup) {id : Nat}
    {found e : CalendarEvent Num} (opened : findById s id userId = .ok found) (mem : e ∈ s.events)
    (of_couple : e.coupleId = coupleId) : e.id ≠ id := by
  obtain ⟨row, member⟩ := find_by_id_inside opened
  rintro rfl
  have same : found = e := row_unique once (List.mem_of_find?_eq_some row) mem
    (by simpa using List.find?_some row)
  rw [same, of_couple, outside] at member
  cases member

theorem update_keeps_rows (once : (s.events.map CalendarEvent.id).Nodup) {server : LocalDate.Host}
    {draw : Draw} {id : Nat} {dto : UpdateEventDto Num} {t : EventService.Store Num}
    {updated : CalendarEvent Num}
    (done : update server draw s id userId dto = .ok (t, updated)) :
    t.events.filter (·.coupleId = coupleId) = s.events.filter (·.coupleId = coupleId) := by
  obtain ⟨found, opened, couple, events⟩ := update_writes done
  have other : updated.coupleId ≠ coupleId := by
    intro same
    have member := (find_by_id_inside opened).2
    rw [← couple, same, outside] at member
    cases member
  rw [events]
  apply filter_rewritten_fixed
  · intro e mem
    unfold replaceRow
    split
    · rename_i replaced
      have foreign : e.coupleId ≠ coupleId := fun of_couple =>
        found_not_foreign outside once opened mem of_couple replaced
      simp [other, foreign]
    · rfl
  · intro e mem of_couple
    have := found_not_foreign outside once opened mem (of_decide_eq_true of_couple)
    exact if_neg this

theorem remove_keeps_rows (once : (s.events.map CalendarEvent.id).Nodup) {draw : Draw} {id : Nat}
    {t : EventService.Store Num} (done : remove draw s id userId = .ok t) :
    t.events.filter (·.coupleId = coupleId) = s.events.filter (·.coupleId = coupleId) := by
  unfold remove at done
  cases opened : findById s id userId with
  | error error => simp [opened, bind, Except.bind] at done
  | ok found =>
    simp only [opened] at done
    cases done
    rw [(invalidate_keeps_rows id).1]
    apply filter_of_kept
    intro e mem of_couple
    exact decide_eq_true
      (found_not_foreign outside once opened mem (of_decide_eq_true of_couple))

end Kept

end Events

section Photos
open Gallery

variable {s : Gallery.Store} {userId : Nat}

theorem ensure_with_photos (rows : List GalleryPhoto) (coupleId : Nat) :
    ensureCoupleMember { s with photos := rows } coupleId userId =
      ensureCoupleMember s coupleId userId := rfl

theorem ensure_photos_outside {coupleId : Nat} (outside : s.isMember coupleId userId = false) :
    ensureCoupleMember s coupleId userId =
      .error (.forbidden "User is not a member of this couple.") :=
  if_neg (by rw [outside]; decide)

theorem ensure_photos_inside {coupleId : Nat}
    (checked : ensureCoupleMember s coupleId userId = .ok ()) :
    s.isMember coupleId userId = true := by
  cases member : s.isMember coupleId userId with
  | true => rfl
  | false => simp [ensure_photos_outside member] at checked

/-- The rows that an upload adds, whatever the table holds. -/
theorem upload_adds (platform : Platform) (coupleId userId : Nat) (files : List UploadedFile)
    (s : Gallery.Store) : ∃ added : List GalleryPhoto, (∀ p ∈ added, p.coupleId = coupleId) ∧
      ∀ rows, (files.foldl (uploadOne platform coupleId userId)
        { s with photos := rows }).photos = rows ++ added := by
  induction files generalizing s with
  | nil => exact ⟨[], by simp, by simp⟩
  | cons file rest ih =>
    obtain ⟨added, of_couple, later⟩ := ih (uploadOne platform coupleId userId s file)
    refine ⟨⟨s.nextId, coupleId, userId, photoUrl (storedName platform file)⟩ :: added,
      List.forall_mem_cons.mpr ⟨rfl, of_couple⟩, ?_⟩
    intro rows
    have next := later (rows ++ [⟨s.nextId, coupleId, userId, photoUrl (storedName platform file)⟩])
    rw [List.append_cons, ← next]
    rfl

/-- Other contents for photos of couples that a user is not a member of. -/
structure ForeignPhotos (s : Gallery.Store) (userId : Nat) (g : GalleryPhoto → GalleryPhoto) :
    Prop where
  id : ∀ p, (g p).id = p.id
  coupleId : ∀ p, (g p).coupleId = p.coupleId
  own : ∀ p, s.isMember p.coupleId userId = true → g p = p

theorem upload_rewritten (platform : Platform) (g : GalleryPhoto → GalleryPhoto) (coupleId : Nat)
    (files : List UploadedFile) :
    (upload platform { s with photos := s.photos.map g } coupleId userId files).map
        (fun t => t.photos.drop s.photos.length) =
      (upload platform s coupleId userId files).map fun t => t.photos.drop s.photos.length := by
  simp only [upload, ensure_with_photos]
  cases ensureCoupleMember s coupleId userId with
  | error error => rfl
  | ok =>
    obtain ⟨added, _, photos⟩ := upload_adds platform coupleId userId files s
    have own := photos s.photos
    have rewritten := photos (s.photos.map g)
    simp only [bind, Except.bind, pure, Except.pure, Except.map, own, rewritten]
    rw [List.drop_left, List.drop_left' (by simp)]

variable {g : GalleryPhoto → GalleryPhoto} (foreign : ForeignPhotos s userId g)
include foreign

theorem find_photo_rewritten (id : Nat) :
    (s.photos.map g).find? (fun p => p.id = id) = (s.photos.find? fun p => p.id = id).map g :=
  find_rewritten fun p _ => by rw [foreign.id]

theorem remove_photo_rewritten (photoId : Nat) :
    (remove { s with photos := s.photos.map g } photoId userId).map (fun _ => ()) =
      (remove s photoId userId).map fun _ => () := by
  simp only [remove, find_photo_rewritten foreign]
  cases s.photos.find? fun p => p.id = photoId with
  | none => rfl
  | some p =>
    simp only [Option.map_some, ensure_with_photos, foreign.coupleId]
    cases ensureCoupleMember s p.coupleId userId <;> rfl

theorem remove_photos_rewritten (photoIds : List Nat) :
    (removeBatch { s with photos := s.photos.map g } photoIds userId).map (fun _ => ()) =
      (removeBatch s photoIds userId).map fun _ => () := by
  have rows : (s.photos.map g).filter (fun p => p.id ∈ photoIds) =
      (s.photos.filter fun p => p.id ∈ photoIds).map g :=
    filter_rewritten fun p _ => by rw [foreign.id]
  unfold removeBatch
  split
  · rfl
  · rw [rows]
    cases s.photos.filter fun p => p.id ∈ photoIds with
    | nil => rfl
    | cons first rest =>
      have mixed : (List.map g (first :: rest)).any (fun p => p.coupleId ≠ first.coupleId) =
          (first :: rest).any fun p => p.coupleId ≠ first.coupleId :=
        any_rewritten fun p _ => by rw [foreign.coupleId]
      rw [List.map_cons] at mixed ⊢
      simp only [foreign.coupleId, mixed, ensure_with_photos]
      split
      · rfl
      · cases ensureCoupleMember s first.coupleId userId <;> rfl

section Pages
open GalleryPages

variable {createdAt other : Nat → Int}

theorem own_rows_rewritten {coupleId : Nat} (member : s.isMember coupleId userId = true) :
    (s.photos.map g).filter (fun p => p.coupleId = coupleId) =
      s.photos.filter fun p => p.coupleId = coupleId := by
  apply filter_rewritten_fixed
  · intro p _
    rw [foreign.coupleId]
  · intro p _ same
    apply foreign.own
    rw [of_decide_eq_true same, member]

variable (own_times : ∀ p ∈ s.photos, s.isMember p.coupleId userId = true →
    other p.id = createdAt p.id)
include own_times

omit foreign in
theorem own_rows_times {coupleId : Nat} (member : s.isMember coupleId userId = true) :
    ∀ p ∈ s.photos.filter fun p => p.coupleId = coupleId, other p.id = createdAt p.id := by
  intro p mem
  obtain ⟨in_table, of_couple⟩ := List.mem_filter.mp mem
  apply own_times p in_table
  rw [of_decide_eq_true of_couple, member]

variable (query : PhotoQueryDto) (asks : query.userId = userId)
include asks

theorem find_many_at_cursor (member : s.isMember query.coupleId userId = true) {take : Int}
    (takes : query.take.getD (some 36) = some take) {cursor : Nat}
    (is_cursor : query.cursor = some cursor) {p : GalleryPhoto}
    (found : s.photos.find? (fun p => p.id = cursor) = some p) :
    findMany other { s with photos := s.photos.map g } query =
      .ok (page createdAt take 1 (beyond createdAt take (other p.id)
        (s.photos.filter fun p => p.coupleId = query.coupleId))) := by
  subst asks
  have rows := own_rows_rewritten foreign member
  have times := own_rows_times own_times member
  have row : (s.photos.map g).find? (fun p => p.id = cursor) = some (g p) := by
    rw [find_photo_rewritten foreign, found, Option.map_some]
  have far : page other take 1 (beyond createdAt take (other p.id)
        (s.photos.filter fun p => p.coupleId = query.coupleId)) =
      page createdAt take 1 (beyond createdAt take (other p.id)
        (s.photos.filter fun p => p.coupleId = query.coupleId)) :=
    page_congr (fun p mem => times p (List.mem_filter.mp mem).1) take 1
  have checked : ensureCoupleMember s query.coupleId query.userId = .ok () := if_pos member
  simp only [findMany, ensure_with_photos, checked, takes, is_cursor, rows, row, foreign.id,
    beyond_congr times, far]

/-- The page of a cursor whose own time is the same, or on which there is no row anyhow. -/
theorem find_many_rewritten
    (plain : s.isMember query.coupleId userId = true → ∀ cursor ∈ query.cursor,
      ∀ row ∈ s.photos.find? (fun p => p.id = cursor), ∀ n ∈ query.take.getD (some 36),
        other row.id = createdAt row.id ∨ n = 0 ∨
          (s.photos.filter fun p => p.coupleId = query.coupleId).length ≤ 1) :
    findMany other { s with photos := s.photos.map g } query = findMany createdAt s query := by
  subst asks
  cases member : s.isMember query.coupleId query.userId with
  | false => simp only [findMany, ensure_with_photos, ensure_photos_outside member]
  | true =>
    have rows := own_rows_rewritten foreign member
    have times := own_rows_times own_times member
    have checked : ensureCoupleMember s query.coupleId query.userId = .ok () := if_pos member
    cases takes : query.take.getD (some 36) with
    | none => simp only [findMany, ensure_with_photos, checked, takes]
    | some take =>
      cases is_cursor : query.cursor with
      | none =>
        simp only [findMany, ensure_with_photos, checked, takes, is_cursor, rows, page_congr times]
      | some cursor =>
        cases found : s.photos.find? fun p => p.id = cursor with
        | none =>
          have row : (s.photos.map g).find? (fun p => p.id = cursor) = none := by
            rw [find_photo_rewritten foreign, found, Option.map_none]
          simp only [findMany, ensure_with_photos, checked, takes, is_cursor, row, found]
        | some p =>
          rw [find_many_at_cursor foreign own_times query rfl member takes is_cursor found]
          simp only [findMany, checked, takes, is_cursor, found]
          rcases plain member cursor is_cursor p found take takes with same | few
          · rw [same]
          · rw [page_of_few few, page_of_few few]

end Pages

section Kept
omit foreign
variable {coupleId : Nat} (outside : s.isMember coupleId userId = false)
include outside

theorem upload_keeps_rows {platform : Platform} {target : Nat} {files : List UploadedFile}
    {t : Gallery.Store} (done : upload platform s target userId files = .ok t) :
    t.photos.filter (·.coupleId = coupleId) = s.photos.filter (·.coupleId = coupleId) := by
  unfold upload at done
  cases checked : ensureCoupleMember s target userId with
  | error error => simp [checked, bind, Except.bind] at done
  | ok =>
    simp only [checked] at done
    cases done
    obtain ⟨added, of_target, photos⟩ := upload_adds platform target userId files s
    have other : target ≠ coupleId := by
      rintro rfl
      simp [ensure_photos_inside checked] at outside
    have none_added : added.filter (·.coupleId = coupleId) = [] := by
      apply List.filter_eq_nil_iff.mpr
      intro p mem
      simp [of_target p mem, other]
    have all : (files.foldl (uploadOne platform target userId) s).photos = s.photos ++ added :=
      photos s.photos
    rw [all, List.filter_append, none_added, List.append_nil]

theorem remove_photo_keeps_rows (once : (s.photos.map GalleryPhoto.id).Nodup) {photoId : Nat}
    {t : Gallery.Store} (done : remove s photoId userId = .ok t) :
    t.photos.filter (·.coupleId = coupleId) = s.photos.filter (·.coupleId = coupleId) := by
  unfold remove at done
  cases row : s.photos.find? fun p => p.id = photoId with
  | none => simp [row] at done
  | some found =>
    cases checked : ensureCoupleMember s found.coupleId userId with
    | error error => simp [row, checked, bind, Except.bind] at done
    | ok =>
      simp only [row, checked] at done
      cases done
      apply filter_of_kept
      intro p mem of_couple
      apply decide_eq_true
      rintro rfl
      have same : found = p := row_unique once (List.mem_of_find?_eq_some row) mem
        (by simpa using List.find?_some row)
      have member := ensure_photos_inside checked
      rw [same, of_decide_eq_true of_couple, outside] at member
      cases member

theorem remove_photos_keeps_rows {photoIds : List Nat} {t : Gallery.Store}
    (done : removeBatch s photoIds userId = .ok t) :
    t.photos.filter (·.coupleId = coupleId) = s.photos.filter (·.coupleId = coupleId) := by
  unfold removeBatch at done
  split at done
  · cases done
    rfl
  · split at done
    · cases done
      rfl
    · rename_i first rest rows
      split at done
      · cases done
      · rename_i unmixed
        cases checked : ensureCoupleMember s first.coupleId userId with
        | error error => simp [checked, bind, Except.bind] at done
        | ok =>
          simp only [checked] at done
          cases done
          apply filter_of_kept
          intro p mem of_couple
          apply decide_eq_true
          intro asked
          have removed : p ∈ first :: rest := by
            rw [← rows]
            exact List.mem_filter.mpr ⟨mem, by simpa using asked⟩
          have one_couple : p.coupleId = first.coupleId := by
            by_contra differs
            exact unmixed (List.any_eq_true.mpr ⟨p, removed, by simpa using differs⟩)
          have member := ensure_photos_inside checked
          rw [← one_couple, of_decide_eq_true of_couple, outside] at member
          cases member

end Kept

end Photos

section Messages
open ChatService

variable {s : ChatService.Store} {h : ChatMessage → ChatMessage}

theorem create_message_rewritten (keeps_id : ∀ m, (h m).id = m.id) (cipher : Cipher)
    (payload : ChatSendDto) (draw : Draw) :
    (createMessage cipher { s with messages := s.messages.map h } payload draw).map Prod.fst =
      (createMessage cipher s payload draw).map Prod.fst := by
  unfold createMessage
  cases payload.senderUserId with
  | none => rfl
  | some senderUserId =>
    have ids : (s.messages.map h).map ChatMessage.id = s.messages.map ChatMessage.id := by
      rw [List.map_map]
      exact List.map_congr_left fun m _ => keeps_id m
    have checked : ensureCoupleMember { s with messages := s.messages.map h } payload.coupleId
        senderUserId = ensureCoupleMember s payload.coupleId senderUserId := rfl
    simp only [checked, Store.create, ids]
    cases ensureCoupleMember s payload.coupleId senderUserId with
    | error error => rfl
    | ok =>
      cases ensurePayloadMatchesKind payload with
      | error error => rfl
      | ok => split <;> rfl

theorem selected_rewritten {userId : JsString} (keeps_couple : ∀ m, (h m).coupleId = m.coupleId)
    (own : ∀ m, s.isMember m.coupleId userId = true → h m = m) {query : ChatFetchQueryDto}
    (member : s.isMember query.coupleId userId = true) :
    (s.messages.map h).filter query.selects = s.messages.filter query.selects := by
  apply filter_rewritten_fixed
  · intro m _
    by_cases of_couple : m.coupleId = query.coupleId
    · rw [own m (by rw [of_couple, member])]
    · simp [ChatFetchQueryDto.selects, keeps_couple, of_couple]
  · intro m _ selected
    apply own
    simp only [ChatFetchQueryDto.selects, decide_eq_true_eq] at selected
    rw [selected.1, member]

theorem create_message_keeps_rows {coupleId : JsString} {userId : JsString}
    (outside : s.isMember coupleId userId = false) {cipher : Cipher} {payload : ChatSendDto}
    (sent : payload.senderUserId = some userId) {draw : Draw} {view : ChatMessageView}
    {t : ChatService.Store} (done : createMessage cipher s payload draw = .ok (view, t)) :
    t.messages.filter (·.coupleId = coupleId) = s.messages.filter (·.coupleId = coupleId) := by
  obtain ⟨senderUserId, created⟩ := create_message_ok cipher done
  obtain rfl := Option.some.inj (sent.symm.trans created.sender)
  have other : (newRecord cipher payload userId draw).coupleId ≠ coupleId := by
    intro same
    have member := created.member
    rw [show payload.coupleId = coupleId from same, outside] at member
    cases member
  rw [created.messages, List.filter_append]
  simp [other]

end Messages

section Couples
open CoupleInfo

/-- Other contents for the rows of one couple. -/
structure ForeignCouple (coupleId : Nat) (c : Couple → Couple) (n : CoupleMember → CoupleMember) :
    Prop where
  id : ∀ x, (c x).id = x.id
  memberId : ∀ m, (n m).id = m.id
  memberCouple : ∀ m, (n m).coupleId = m.coupleId
  memberUser : ∀ m, (n m).userId = m.userId
  other : ∀ x, x.id ≠ coupleId → c x = x
  otherMember : ∀ m, m.coupleId ≠ coupleId → n m = m

def rewriteTables (c : Couple → Couple) (n : CoupleMember → CoupleMember) (s : CoupleStore.Store) :
    CoupleStore.Store :=
  { s with couples := s.couples.map c, members := s.members.map n }

variable {s : CoupleStore.Store} {coupleId : Nat} {c : Couple → Couple}
  {n : CoupleMember → CoupleMember} (foreign : ForeignCouple coupleId c n)
include foreign

theorem ensure_rewritten (target userId : Nat) :
    ensureCoupleMember (rewriteTables c n s) target userId =
      ensureCoupleMember s target userId := by
  have row : (rewriteTables c n s).memberByCoupleUser target userId =
      (s.memberByCoupleUser target userId).map n :=
    find_rewritten fun m _ => by rw [foreign.memberCouple, foreign.memberUser]
  unfold ensureCoupleMember
  rw [row]
  cases s.memberByCoupleUser target userId <;> rfl

theorem members_rewritten {target : Nat} (apart : target ≠ coupleId) :
    (s.members.map n).filter (fun m => m.coupleId = target) =
      s.members.filter fun m => m.coupleId = target := by
  apply filter_rewritten_fixed
  · intro m _
    rw [foreign.memberCouple]
  · intro m _ of_target
    apply foreign.otherMember
    rw [of_decide_eq_true of_target]
    exact apart

theorem read_couple_rewritten {target : Nat} (apart : target ≠ coupleId) (userId : Nat) :
    readCouple (rewriteTables c n s) target userId = readCouple s target userId := by
  have row : (rewriteTables c n s).couples.find? (fun x => x.id = target) =
      (s.couples.find? fun x => x.id = target).map c :=
    find_rewritten fun x _ => by rw [foreign.id]
  have members : (rewriteTables c n s).members.filter (fun m => m.coupleId = target) =
      s.members.filter fun m => m.coupleId = target :=
    members_rewritten foreign apart
  simp only [readCouple, row, members]
  cases found : s.couples.find? fun x => x.id = target with
  | none => rfl
  | some couple =>
    have same : couple.id = target := by simpa using List.find?_some found
    rw [Option.map_some, foreign.other couple (by rw [same]; exact apart)]
    rfl

section Update
variable {newDate : String → Option Int} {attempts : Statement → CoupleCalls.Attempt}
  {target userId : Nat}

def memberKeys (s : CoupleStore.Store) : List (Nat × Nat) :=
  s.members.map fun m => (m.id, m.coupleId)

/-- The statement does not write to a member row of the couple. -/
def Spares (coupleId : Nat) (s : CoupleStore.Store) : Statement → Prop
  | .updateMember memberId _ => (memberId, coupleId) ∉ memberKeys s
  | _ => True

structure KeepsCouple (coupleId : Nat) (s t : CoupleStore.Store) : Prop where
  keys : memberKeys t = memberKeys s
  couples : t.couples.filter (·.id = coupleId) = s.couples.filter (·.id = coupleId)
  members : t.members.filter (·.coupleId = coupleId) = s.members.filter (·.coupleId = coupleId)
  invites : t.invites = s.invites

omit foreign

theorem keeps_couple_refl (s : CoupleStore.Store) : KeepsCouple coupleId s s := ⟨rfl, rfl, rfl, rfl⟩

theorem keeps_couple_trans {t u : CoupleStore.Store} (first : KeepsCouple coupleId s t)
    (second : KeepsCouple coupleId t u) : KeepsCouple coupleId s u :=
  ⟨second.keys.trans first.keys, second.couples.trans first.couples,
    second.members.trans first.members, second.invites.trans first.invites⟩

theorem spares_congr {t : CoupleStore.Store} (keys : memberKeys t = memberKeys s) {w : Statement}
    (spares : Spares coupleId s w) : Spares coupleId t w := by
  cases w <;> simp_all [Spares]

variable (apart : target ≠ coupleId)
include apart

theorem set_anniversary_keeps (value : Option Int) (now : Nat) : KeepsCouple coupleId s
    { s with couples := s.couples.map (setAnniversary target value now) } where
  keys := rfl
  couples := by
    apply filter_rewritten_fixed
    · intro x _
      unfold setAnniversary
      split <;> rfl
    · intro x _ same
      apply if_neg
      rw [of_decide_eq_true same]
      exact apart.symm
  members := rfl
  invites := rfl

omit apart

theorem set_nickname_keeps {memberId : Nat} (spared : (memberId, coupleId) ∉ memberKeys s)
    (nickname : Option String) :
    KeepsCouple coupleId s { s with members := s.members.map (setNickname memberId nickname) } where
  keys := by
    unfold memberKeys
    rw [List.map_map]
    apply List.map_congr_left
    intro m _
    simp only [Function.comp_apply, setNickname]
    split <;> rfl
  couples := rfl
  members := by
    apply filter_rewritten_fixed
    · intro m _
      unfold setNickname
      split <;> rfl
    · intro m mem same
      apply if_neg
      rintro rfl
      exact spared (List.mem_map.mpr ⟨m, mem, by rw [of_decide_eq_true same]⟩)
  invites := rfl

theorem checked_keeps {α : Type} {t : CoupleStore.Store} {read : Except CoupleService.Exception α}
    (done : read.map (fun _ => s) = .ok t) : KeepsCouple coupleId s t := by
  cases read with
  | error error => cases done
  | ok value =>
    cases done
    exact keeps_couple_refl s

include apart

theorem exec_statement_keeps {t : CoupleStore.Store} {w : Statement} (spares : Spares coupleId s w)
    (done : execStatement attempts target userId s w = .ok t) : KeepsCouple coupleId s t := by
  unfold execStatement at done
  split at done
  · cases done
  · cases w with
    | findMembers =>
      cases done
      exact keeps_couple_refl s
    | updateCouple value =>
      rcases value with _ | _ | date
      all_goals simp only at done
      · split at done
        · cases done
          exact set_anniversary_keeps apart _ _
        · cases done
      · cases done
      · split at done
        · cases done
          exact set_anniversary_keeps apart _ _
        · cases done
    | updateMember memberId nickname =>
      simp only at done
      split at done
      · cases done
        exact set_nickname_keeps spares nickname
      · cases done
    | findMember => exact checked_keeps done
    | findCouple => exact checked_keeps done

theorem exec_all_keeps {ws : List Statement} (spares : ∀ w ∈ ws, Spares coupleId s w) :
    KeepsCouple coupleId s (execAll attempts target userId s ws).1 := by
  induction ws generalizing s with
  | nil => exact keeps_couple_refl s
  | cons w rest ih =>
    obtain ⟨first, later⟩ := List.forall_mem_cons.mp spares
    rw [execAll]
    cases done : execStatement attempts target userId s w with
    | error error => exact keeps_couple_refl s
    | ok t =>
      have kept := exec_statement_keeps apart first done
      exact keeps_couple_trans kept (ih fun v mem => spares_congr kept.keys (later v mem))

include foreign

theorem set_anniversary_rewritten (value : Option Int) (now : Nat) :
    (s.couples.map c).map (setAnniversary target value now) =
      (s.couples.map (setAnniversary target value now)).map c := by
  apply map_swap
  intro x _
  simp only [setAnniversary, foreign.id]
  split
  · rename_i here
    rw [foreign.other x (by rw [here]; exact apart)]
    exact (foreign.other { x with anniversaryDate := value, updatedAt := now }
      (by rw [here]; exact apart)).symm
  · rfl

omit apart in
theorem set_nickname_rewritten {memberId : Nat} (spared : (memberId, coupleId) ∉ memberKeys s)
    (nickname : Option String) :
    (s.members.map n).map (setNickname memberId nickname) =
      (s.members.map (setNickname memberId nickname)).map n := by
  apply map_swap
  intro m mem
  simp only [setNickname, foreign.memberId]
  split
  · rename_i here
    have other : m.coupleId ≠ coupleId := fun same =>
      spared (List.mem_map.mpr ⟨m, mem, by rw [here, same]⟩)
    rw [foreign.otherMember m other]
    exact (foreign.otherMember { m with nickname := nickname } other).symm
  · rfl

theorem exec_statement_rewritten {w : Statement} (spares : Spares coupleId s w) :
    execStatement attempts target userId (rewriteTables c n s) w =
      (execStatement attempts target userId s w).map (rewriteTables c n) := by
  unfold execStatement
  split
  · rfl
  · have couples : (s.couples.map c).any (fun x => x.id = target) =
        s.couples.any fun x => x.id = target :=
      any_rewritten fun x _ => by rw [foreign.id]
    cases w with
    | findMembers => rfl
    | updateCouple value =>
      rcases value with _ | _ | date
      · simp only [rewriteTables, couples, set_anniversary_rewritten foreign apart]
        split <;> rfl
      · rfl
      · simp only [rewriteTables, couples, set_anniversary_rewritten foreign apart]
        split <;> rfl
    | updateMember memberId nickname =>
      have members : (s.members.map n).any (fun m => m.id = memberId) =
          s.members.any fun m => m.id = memberId :=
        any_rewritten fun m _ => by rw [foreign.memberId]
      simp only [rewriteTables, members, set_nickname_rewritten foreign spares]
      split <;> rfl
    | findMember =>
      simp only [ensure_rewritten foreign]
      cases ensureCoupleMember s target userId <;> rfl
    | findCouple =>
      simp only [read_couple_rewritten foreign apart]
      cases readCouple s target userId <;> rfl

theorem exec_all_rewritten {ws : List Statement} (spares : ∀ w ∈ ws, Spares coupleId s w) :
    execAll attempts target userId (rewriteTables c n s) ws =
      (rewriteTables c n (execAll attempts target userId s ws).1,
        (execAll attempts target userId s ws).2) := by
  induction ws generalizing s with
  | nil => rfl
  | cons w rest ih =>
    obtain ⟨first, later⟩ := List.forall_mem_cons.mp spares
    simp only [execAll, exec_statement_rewritten foreign apart first]
    cases done : execStatement attempts target userId s w with
    | error error => rfl
    | ok t =>
      have kept := exec_statement_keeps apart first done
      exact ih fun v mem => spares_congr kept.keys (later v mem)

omit apart foreign

/-- The rows that updateCouple looks at are those of its own couple. -/
theorem statements_spare (once : (s.members.map CoupleMember.id).Nodup) (apart : target ≠ coupleId)
    {me : CoupleMember} {partner : Option CoupleMember} (dto : UpdateCoupleDto)
    (mine : me ∈ s.members.filter fun m => m.coupleId = target)
    (partners : ∀ p ∈ partner, p ∈ s.members.filter fun m => m.coupleId = target) :
    ∀ w ∈ statements newDate me partner dto, Spares coupleId s w := by
  have spared (m : CoupleMember) (mem : m ∈ s.members.filter fun m => m.coupleId = target) :
      (m.id, coupleId) ∉ memberKeys s := by
    obtain ⟨in_table, of_target⟩ := List.mem_filter.mp mem
    intro key
    obtain ⟨other, in_rows, same⟩ := List.mem_map.mp key
    simp only [Prod.mk.injEq] at same
    obtain rfl := row_unique once in_rows in_table same.1
    exact apart ((of_decide_eq_true of_target).symm.trans same.2)
  intro w mem
  simp only [statements, List.mem_append, List.mem_map, List.mem_flatMap, Option.mem_toList,
    List.mem_cons, List.not_mem_nil, or_false] at mem
  rcases mem with ((⟨_, _, rfl⟩ | ⟨_, _, rfl⟩) | ⟨p, is_partner, _, _, rfl⟩) | rfl | rfl
  · trivial
  · exact spared me mine
  · exact spared p (partners p is_partner)
  · trivial
  · trivial

/-- A user who is found among the members of a couple is no outsider of it. -/
theorem found_apart (outside : ∀ m ∈ s.members, m.coupleId = coupleId → m.userId ≠ userId)
    {me : CoupleMember} (found : (s.members.filter fun m => m.coupleId = target).find?
      (fun m => m.userId = userId) = some me) :
    target ≠ coupleId ∧ me ∈ s.members.filter fun m => m.coupleId = target := by
  have mem := List.mem_of_find?_eq_some found
  obtain ⟨in_table, of_target⟩ := List.mem_filter.mp mem
  refine ⟨?_, mem⟩
  rintro rfl
  exact outside me in_table (of_decide_eq_true of_target) (by simpa using List.find?_some found)

theorem other_mem {members : List CoupleMember} {test : CoupleMember → Bool} {i : Nat} :
    ∀ p ∈ (members.filter test)[i]?, p ∈ members := by
  intro p at_i
  exact (List.mem_filter.mp (List.mem_of_getElem? at_i)).1

variable (once : (s.members.map CoupleMember.id).Nodup)
  (outside : ∀ m ∈ s.members, m.coupleId = coupleId → m.userId ≠ userId)
include once outside

theorem update_couple_keeps (newDate : String → Option Int)
    (attempts : Statement → CoupleCalls.Attempt) (target : Nat) (dto : UpdateCoupleDto) :
    KeepsCouple coupleId s (updateCouple newDate attempts target userId s dto).1 := by
  unfold updateCouple
  split
  · exact keeps_couple_refl s
  · simp only
    split
    · exact keeps_couple_refl s
    · rename_i me found
      obtain ⟨apart, mine⟩ := found_apart outside found
      exact exec_all_keeps apart (statements_spare once apart dto mine other_mem)

include foreign

theorem update_couple_rewritten (newDate : String → Option Int)
    (attempts : Statement → CoupleCalls.Attempt) (target : Nat) (dto : UpdateCoupleDto) :
    (updateCouple newDate attempts target userId (rewriteTables c n s) dto).2 =
      (updateCouple newDate attempts target userId s dto).2 := by
  unfold updateCouple
  split
  · rfl
  · by_cases apart : target = coupleId
    · subst apart
      have nobody : (s.members.filter fun m => m.coupleId = target).find?
          (fun m => m.userId = userId) = none := by
        rw [List.find?_eq_none]
        intro m mem same
        obtain ⟨in_table, of_target⟩ := List.mem_filter.mp mem
        exact outside m in_table (of_decide_eq_true of_target) (of_decide_eq_true same)
      have nobody_rewritten : ((s.members.map n).filter fun m => m.coupleId = target).find?
          (fun m => m.userId = userId) = none := by
        rw [filter_rewritten fun m _ => by rw [foreign.memberCouple],
          find_rewritten fun m _ => by rw [foreign.memberUser], nobody, Option.map_none]
      simp only [rewriteTables, nobody, nobody_rewritten]
    · have members : (rewriteTables c n s).members.filter (fun m => m.coupleId = target) =
          s.members.filter fun m => m.coupleId = target := members_rewritten foreign apart
      simp only [members]
      split
      · rfl
      · rename_i me found
        rw [exec_all_rewritten foreign apart
          (statements_spare once apart dto (found_apart outside found).2 other_mem)]
        simp only [read_couple_rewritten foreign apart]

end Update

end Couples

end RewrittenRows
