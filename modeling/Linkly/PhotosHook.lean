import Linkly.GalleryFiles
import Linkly.SortedPages

/-!
The photos of a couple as the web client scrolls through them: page loads with a cursor, uploads and
deletions by both partners, and answers in any order. The database gives rows in one fixed order,
the latest first, and a query with a cursor gives the rows that come after the row of the cursor.
-/
namespace PhotosHook
open Gallery KeyedRows TransitionRuns

/-- One order of all rows by descending `createdAt`, with equal times in some fixed order. -/
structure RowOrder where
  createdAt : Nat → Int
  le : GalleryPhoto → GalleryPhoto → Prop
  decidable : DecidableRel le
  total : ∀ a b, le a b ∨ le b a
  trans : ∀ a b c, le a b → le b c → le a c
  antisymm : ∀ a b, le a b → le b a → a.id = b.id
  latest : ∀ a b, le a b → createdAt b.id ≤ createdAt a.id

instance (order : RowOrder) : DecidableRel order.le := order.decidable

/-- The server, the order of its rows, and the couple and the user of the client. -/
structure Session where
  platform : Platform
  order : RowOrder
  coupleId : Nat
  userId : Nat

def pageSize : Nat := 36

/-- The client sends the id of the cursor alone; the row is kept for its place in the order. -/
inductive Request where
  | load (cursor : Option GalleryPhoto)
  | upload (files : List UploadedFile)
  | deletePhoto (photoId : Nat)
  | deletePhotos (photoIds : List Nat)
  deriving DecidableEq, Repr

inductive Answer where
  | page (cursor : Option GalleryPhoto) (data : List GalleryPhoto)
  | uploaded (rows : List GalleryPhoto)
  | deleted (photoIds : List Nat)
  | failed
  deriving DecidableEq, Repr

/-- A request under way, with its answer once the server has served it. -/
structure InFlight where
  request : Request
  answer : Option Answer
  deriving DecidableEq, Repr

/-- The cursor with which a load still waits for the server. -/
def InFlight.waitsFrom (q : InFlight) : Option GalleryPhoto :=
  match q.request, q.answer with
  | .load cursor, none => cursor
  | _, _ => none

def InFlight.isLoad (q : InFlight) : Bool :=
  match q.request with
  | .load _ => true
  | _ => false

/-- `seenLoading` and `seenHasMore` are what the current `loadMore` has captured. `kept` has the
    couple's photos that have been stored since the start. -/
structure System where
  store : Store
  kept : List GalleryPhoto
  photos : List GalleryPhoto
  loading : Bool
  hasMore : Bool
  cursorRef : Option GalleryPhoto
  seenLoading : Bool
  seenHasMore : Bool
  requests : List InFlight

inductive Event where
  | render
  | loadMore
  | uploadPhotos (files : List UploadedFile)
  | deletePhoto (photoId : Nat)
  | deletePhotos (photoIds : List Nat)
  | serve (index : Nat)
  | respond (index : Nat)
  | lose (index : Nat)
  | partner (call : Call)
  deriving DecidableEq, Repr

section Server
variable (session : Session)

/-- The rows of the couple that come after the row of the cursor. -/
def rowsAfter (s : Store) (cursor : Option GalleryPhoto) : List GalleryPhoto :=
  let rows := (s.photos.filter (·.coupleId = session.coupleId)).insertionSort session.order.le
  match cursor with
  | none => rows
  | some row => rows.filter fun p => ¬ session.order.le p row

def findMany (s : Store) (cursor : Option Nat) : Except Exception (List GalleryPhoto) := do
  ensureCoupleMember s session.coupleId session.userId
  match cursor with
  | none => return (rowsAfter session s none).take pageSize
  | some id =>
    match s.photos.find? (·.id = id) with
    | none => return []
    | some row => return (rowsAfter session s (some row)).take pageSize

def serve (s : Store) : Request → Store × Answer
  | .load cursor =>
    match findMany session s (cursor.map GalleryPhoto.id) with
    | .ok data => (s, .page cursor data)
    | .error _ => (s, .failed)
  | .upload files =>
    match upload session.platform s session.coupleId session.userId files with
    | .ok t => (t, .uploaded (t.photos.drop s.photos.length))
    | .error _ => (s, .failed)
  | .deletePhoto photoId =>
    match remove s photoId session.userId with
    | .ok t => (t, .deleted [photoId])
    | .error _ => (s, .failed)
  | .deletePhotos photoIds =>
    match removeBatch s photoIds session.userId with
    | .ok t => (t, .deleted photoIds)
    | .error _ => (s, .failed)

end Server

namespace System
variable (y : System)

def send (request : Request) : System := { y with requests := y.requests ++ [⟨request, none⟩] }

/-- The rows change on the server. -/
def withStore (t : Store) : System :=
  { y with store := t, kept := y.kept.filter fun p => p ∈ t.photos }

def settle : Answer → System
  | .page cursor data =>
    { y with
      hasMore := if data.length < pageSize then false else y.hasMore
      photos := if cursor.isSome then y.photos ++ data else data
      cursorRef := data.getLast?.or y.cursorRef }
  | .uploaded rows => { y with photos := rows ++ y.photos }
  | .deleted photoIds => { y with photos := y.photos.filter (·.id ∉ photoIds) }
  | .failed => y

/-- A request is over; a load is no longer shown as loading. -/
def finish (q : InFlight) : System := if q.isLoad then { y with loading := false } else y

end System

section Steps
variable (session : Session)

/-- The first load is that of the first effect. -/
def initial (s : Store) : System where
  store := s
  kept := s.photos.filter (·.coupleId = session.coupleId)
  photos := []
  loading := true
  hasMore := true
  cursorRef := none
  seenLoading := false
  seenHasMore := true
  requests := [⟨.load none, none⟩]

/-- Whether a call of `loadMore` gets to its request. -/
def System.loads (y : System) : Bool := !y.seenLoading && y.seenHasMore && y.cursorRef.isSome

def step (y : System) : Event → Option System
  | .render => some { y with seenLoading := y.loading, seenHasMore := y.hasMore }
  | .loadMore => some (if y.loads then { y with loading := true }.send (.load y.cursorRef) else y)
  | .uploadPhotos files => some (if files = [] then y else y.send (.upload files))
  | .deletePhoto photoId => some (y.send (.deletePhoto photoId))
  | .deletePhotos photoIds => some (if photoIds = [] then y else y.send (.deletePhotos photoIds))
  | .serve index =>
    match y.requests[index]? with
    | some ⟨request, none⟩ =>
      let served := serve session y.store request
      some { y.withStore served.1 with
        requests := ⟨request, some served.2⟩ :: y.requests.eraseIdx index }
    | _ => none
  | .respond index =>
    match y.requests[index]? with
    | some ⟨request, some answer⟩ =>
      let rest := { y with requests := y.requests.eraseIdx index }
      some ((rest.settle answer).finish ⟨request, some answer⟩)
    | _ => none
  | .lose index => (y.requests[index]?).map fun q =>
      { y with requests := y.requests.eraseIdx index }.finish q
  | .partner call => (Gallery.step session.platform y.store call).map y.withStore

/-- At the end of the scroll, with nothing under way, each photo that was stored all the while is in
    the list exactly once. -/
def Complete (y : System) : Prop :=
  y.hasMore = false → y.requests = [] → ∀ p ∈ y.kept, y.photos.count p = 1

/-- No photo that has been stored all the while comes after the cursor. -/
def Barren (y : System) (cursor : GalleryPhoto) : Prop :=
  ∀ p ∈ y.kept, session.order.le p cursor

/-- A load is neither sent while another one is under way nor served when the row of its cursor is
    gone, unless its cursor has nothing after it. -/
def Orderly (y : System) : Event → Prop
  | .loadMore => y.loads = true → (∃ q ∈ y.requests, q.isLoad = true) →
      ∀ cursor ∈ y.cursorRef, Barren session y cursor
  | .serve index => ∀ q ∈ y.requests[index]?, ∀ cursor ∈ q.waitsFrom,
      (∃ row ∈ y.store.photos, row.id = cursor.id) ∨ Barren session y cursor
  | _ => True

instance (y : System) (cursor : GalleryPhoto) : Decidable (Barren session y cursor) :=
  inferInstanceAs (Decidable (∀ p ∈ y.kept, session.order.le p cursor))

instance (y : System) (e : Event) : Decidable (Orderly session y e) := by
  cases e <;> unfold Orderly <;> infer_instance

end Steps

section Rows
variable {s t : Store}

/-- The ids of the rows are different, and the next one is new. -/
structure Keyed (s : Store) : Prop where
  key : (s.photos.map GalleryPhoto.id).Nodup
  below : ∀ p ∈ s.photos, p.id < s.nextId

/-- A row that is or was in the table: its id is not that of any other row. -/
structure Known (s : Store) (row : GalleryPhoto) : Prop where
  unique : ∀ p ∈ s.photos, p.id = row.id → p = row
  below : row.id < s.nextId

/-- Rows go, and new ones have new ids. -/
structure Grows (s t : Store) : Prop where
  keyed : Keyed t
  rows : ∀ p ∈ t.photos, p ∈ s.photos ∨ s.nextId ≤ p.id
  next : s.nextId ≤ t.nextId

theorem known_row (keyed : Keyed s) {row : GalleryPhoto} (mem : row ∈ s.photos) : Known s row where
  unique _ other same := KeyedRows.row_unique keyed.key other mem same
  below := keyed.below row mem

theorem known_grows (grows : Grows s t) {row : GalleryPhoto} (known : Known s row) :
    Known t row where
  unique p mem same := by
    have below := known.below
    rcases grows.rows p mem with present | new
    · exact known.unique p present same
    · omega
  below := Nat.lt_of_lt_of_le known.below grows.next

theorem grows_refl (keyed : Keyed s) : Grows s s := ⟨keyed, fun _ mem => .inl mem, Nat.le_refl _⟩

theorem grows_drops (keyed : Keyed s) {gone : List GalleryPhoto}
    (drops : GalleryFiles.Drops s t gone) : Grows s t where
  keyed :=
    { key := keyed.key.sublist drops.key
      below := fun p mem => by
        rw [drops.next]
        exact keyed.below p ((drops.photos p).mp mem).1 }
  rows p mem := .inl ((drops.photos p).mp mem).1
  next := by rw [drops.next]

theorem grows_upload (platform : Platform) (coupleId userId : Nat) (files : List UploadedFile)
    (keyed : Keyed s) : Grows s (files.foldl (uploadOne platform coupleId userId) s) ∧
      ∃ new, (files.foldl (uploadOne platform coupleId userId) s).photos = s.photos ++ new ∧
        ∀ p ∈ new, s.nextId ≤ p.id := by
  induction files generalizing s with
  | nil => exact ⟨grows_refl keyed, [], by simp, by simp⟩
  | cons file files ih =>
    have added : Keyed (uploadOne platform coupleId userId s file) := by
      constructor
      · refine KeyedRows.append_fresh_key keyed.key ?_
        intro p mem same
        have below := keyed.below p mem
        simp only at same
        omega
      · intro p mem
        rcases List.mem_append.mp mem with present | new
        · exact Nat.lt_succ_of_lt (keyed.below p present)
        · rw [List.mem_singleton.mp new]
          exact Nat.lt_succ_self _
    obtain ⟨grows, new, photos, fresh⟩ := ih added
    rw [List.foldl_cons]
    have next : s.nextId + 1 = (uploadOne platform coupleId userId s file).nextId := rfl
    have whole : (files.foldl (uploadOne platform coupleId userId)
        (uploadOne platform coupleId userId s file)).photos = s.photos ++
          (⟨s.nextId, coupleId, userId, photoUrl (storedName platform file)⟩ :: new) := by
      rw [photos]
      simp [uploadOne]
    have all_fresh : ∀ p ∈ (⟨s.nextId, coupleId, userId, photoUrl (storedName platform file)⟩ ::
        new : List GalleryPhoto), s.nextId ≤ p.id := by
      intro p mem
      rcases List.mem_cons.mp mem with rfl | later
      · exact Nat.le_refl _
      · have := fresh p later
        omega
    refine ⟨⟨grows.keyed, ?_, by have := grows.next; omega⟩, _, whole, all_fresh⟩
    intro p mem
    rw [whole] at mem
    exact (List.mem_append.mp mem).imp_right (all_fresh p)

theorem grows_step {platform : Platform} {call : Call} (keyed : Keyed s)
    (moved : Gallery.step platform s call = some t) : Grows s t := by
  cases call with
  | upload coupleId userId files =>
    have opened : exec platform s (.upload coupleId userId files) =
        if s.isMember coupleId userId then
          .ok (files.foldl (uploadOne platform coupleId userId) s)
        else .error (.forbidden "User is not a member of this couple.") :=
      GalleryFiles.ensure_member_then s coupleId userId _
    cases member : s.isMember coupleId userId with
    | false =>
      rw [member] at opened
      obtain rfl := GalleryFiles.step_of_error opened moved
      exact grows_refl keyed
    | true =>
      rw [member] at opened
      obtain rfl := GalleryFiles.step_of_ok opened moved
      exact (grows_upload platform coupleId userId files keyed).1
  | remove photoId userId => exact grows_drops keyed (GalleryFiles.remove_drops keyed.key moved)
  | removeBatch photoIds userId => exact grows_drops keyed (GalleryFiles.remove_batch_drops moved)
  | breakUp coupleId userId => exact grows_drops keyed (GalleryFiles.break_up_drops moved)

end Rows

section Pages
variable {session : Session} {s : Store} {kept data : List GalleryPhoto}

def Behind (order : RowOrder) (cursor : Option GalleryPhoto) (p : GalleryPhoto) : Prop :=
  match cursor with
  | none => True
  | some row => ¬ order.le p row

instance (order : RowOrder) (cursor : Option GalleryPhoto) (p : GalleryPhoto) :
    Decidable (Behind order cursor p) := by
  unfold Behind
  split <;> infer_instance

/-- A page after the cursor has the kept photos up to some place in the order, and all of them when
    it is short. -/
structure PageOf (order : RowOrder) (kept : List GalleryPhoto) (cursor : Option GalleryPhoto)
    (data : List GalleryPhoto) : Prop where
  behind : ∀ r ∈ data, Behind order cursor r
  count : ∀ p ∈ kept, data.count p =
    if Behind order cursor p ∧ ∃ q ∈ data, order.le p q then 1 else 0
  short : data.length < pageSize → ∀ p ∈ kept, Behind order cursor p → p ∈ data
  last : ∀ r ∈ data.getLast?, ∀ q ∈ data, order.le q r

theorem RowOrder.refl (order : RowOrder) (a : GalleryPhoto) : order.le a a :=
  (order.total a a).elim id id

theorem behind_trans {order : RowOrder} {row p : GalleryPhoto} (behind : Behind order (some row) p)
    {q : GalleryPhoto} (after : order.le q row) : order.le q p :=
  order.trans q row p after ((order.total row p).resolve_right behind)

theorem mem_rows_after {cursor : Option GalleryPhoto} {p : GalleryPhoto} :
    p ∈ rowsAfter session s cursor ↔
      p ∈ s.photos ∧ p.coupleId = session.coupleId ∧ Behind session.order cursor p := by
  cases cursor <;> simp [rowsAfter, Behind, and_assoc]

theorem rows_after_ordered (session : Session) (s : Store) (cursor : Option GalleryPhoto) :
    (rowsAfter session s cursor).Pairwise session.order.le := by
  have total : Std.Total session.order.le := ⟨session.order.total⟩
  have trans : IsTrans GalleryPhoto session.order.le := ⟨session.order.trans⟩
  have sorted := List.pairwise_insertionSort session.order.le
    (s.photos.filter (·.coupleId = session.coupleId))
  cases cursor with
  | none => exact sorted
  | some row => exact sorted.sublist List.filter_sublist

theorem rows_after_nodup (session : Session) (keyed : Keyed s) (cursor : Option GalleryPhoto) :
    (rowsAfter session s cursor).Nodup := by
  have once : s.photos.Nodup := keyed.key.of_map
  have sorted : ((s.photos.filter (·.coupleId = session.coupleId)).insertionSort
      session.order.le).Nodup :=
    (List.perm_insertionSort session.order.le _).nodup_iff.mpr (once.filter _)
  cases cursor with
  | none => exact sorted
  | some row => exact sorted.filter _

theorem page_of_rows_after (keyed : Keyed s)
    (stored : ∀ p ∈ kept, p ∈ s.photos ∧ p.coupleId = session.coupleId)
    (cursor : Option GalleryPhoto) :
    PageOf session.order kept cursor ((rowsAfter session s cursor).take pageSize) := by
  have ordered := rows_after_ordered session s cursor
  have once := rows_after_nodup session keyed cursor
  have antisymm : ∀ a ∈ rowsAfter session s cursor, ∀ b ∈ rowsAfter session s cursor,
      session.order.le a b → session.order.le b a → a = b :=
    fun a ma b mb before after => KeyedRows.row_unique keyed.key (mem_rows_after.mp ma).1
      (mem_rows_after.mp mb).1 (session.order.antisymm a b before after)
  have listed : ∀ p ∈ kept, Behind session.order cursor p → p ∈ rowsAfter session s cursor :=
    fun p mem behind => mem_rows_after.mpr ⟨(stored p mem).1, (stored p mem).2, behind⟩
  constructor
  · intro r mem
    exact (mem_rows_after.mp (List.mem_of_mem_take mem)).2.2
  · intro p mem
    split
    · rename_i reached
      obtain ⟨behind, q, taken, before⟩ := reached
      exact List.count_eq_one_of_mem once.take
        (SortedPages.mem_take_of_le ordered antisymm taken (listed p mem behind) before)
    · rename_i beyond
      refine List.count_eq_zero.mpr fun taken => beyond ?_
      exact ⟨(mem_rows_after.mp (List.mem_of_mem_take taken)).2.2, p, taken, session.order.refl p⟩
  · intro short p mem behind
    rw [List.length_take] at short
    rw [List.take_of_length_le (by omega)]
    exact listed p mem behind
  · intro r at_last q mem
    exact SortedPages.le_getLast (ordered.sublist (List.take_sublist _ _)) session.order.refl
      at_last mem

theorem page_of_fewer {order : RowOrder} {fewer : List GalleryPhoto}
    {cursor : Option GalleryPhoto} (subset : fewer ⊆ kept) (page : PageOf order kept cursor data) :
    PageOf order fewer cursor data where
  behind := page.behind
  count p mem := page.count p (subset mem)
  short less p mem := page.short less p (subset mem)
  last := page.last

end Pages

section Invariant
variable {session : Session} {y z : System} {s t : Store} {kept : List GalleryPhoto}

/-- A request under way and its answer fit the rows. -/
structure Fits (s : Store) (kept : List GalleryPhoto) (q : InFlight) : Prop where
  cursor : ∀ row, q.request = .load (some row) → Known s row
  page : ∀ cursor data, q.answer = some (.page cursor data) →
    q.request = .load cursor ∧ ∀ r ∈ data, Known s r
  uploaded : ∀ rows, q.answer = some (.uploaded rows) → ∀ p ∈ kept, p ∉ rows
  deleted : ∀ ids, q.answer = some (.deleted ids) → ∀ p ∈ kept, p.id ∉ ids

/-- The list has the kept photos up to the cursor, and at most one load is under way, from there. -/
structure Scrolling (order : RowOrder) (y : System) : Prop where
  more : y.hasMore = true
  counts : ∀ p ∈ y.kept, y.photos.count p = if Behind order y.cursorRef p then 0 else 1
  single : y.requests.countP InFlight.isLoad ≤ 1
  loads : ∀ q ∈ y.requests, q.isLoad = true → q.request = .load y.cursorRef ∧
    ∀ cursor data, q.answer = some (.page cursor data) → PageOf order y.kept y.cursorRef data

/-- The list has all kept photos, and no load brings any of them. -/
structure Done (session : Session) (y : System) : Prop where
  counts : ∀ p ∈ y.kept, y.photos.count p = 1
  cursor : ∀ row ∈ y.cursorRef, Barren session y row
  loads : ∀ q ∈ y.requests, q.isLoad = true → ∃ row, q.request = .load (some row) ∧
    Barren session y row ∧ ∀ cursor data, q.answer = some (.page cursor data) →
      ∀ r ∈ data, Barren session y r ∧ r ∉ y.kept

structure Good (session : Session) (y : System) : Prop where
  keyed : Keyed y.store
  stored : ∀ p ∈ y.kept, p ∈ y.store.photos ∧ p.coupleId = session.coupleId
  cursor : ∀ row ∈ y.cursorRef, Known y.store row
  requests : ∀ q ∈ y.requests, Fits y.store y.kept q
  phase : Scrolling session.order y ∨ Done session y

/-- A row after a cursor that has no kept photo after it. -/
theorem barren_behind {row r : GalleryPhoto} (barren : Barren session y row)
    (behind : Behind session.order (some row) r) : Barren session y r ∧ r ∉ y.kept :=
  ⟨fun p mem => behind_trans behind (barren p mem), fun mem => behind (barren r mem)⟩

theorem done_of_barren {row : GalleryPhoto} (scrolling : Scrolling session.order y)
    (at_cursor : y.cursorRef = some row) (barren : Barren session y row) : Done session y where
  counts p mem := by
    rw [scrolling.counts p mem, at_cursor]
    exact if_neg fun behind => behind (barren p mem)
  cursor other same := by
    rw [at_cursor] at same
    obtain rfl := Option.some.inj same
    exact barren
  loads q mem load := by
    obtain ⟨request, page⟩ := scrolling.loads q mem load
    rw [at_cursor] at request page
    exact ⟨row, request, barren, fun cursor data answered r listed =>
      barren_behind barren ((page cursor data answered).behind r listed)⟩

theorem good_complete (good : Good session y) : Complete y := by
  intro ended _
  rcases good.phase with scrolling | done
  · simp [scrolling.more] at ended
  · exact done.counts

/-- Rows change on the server. -/
theorem good_with_store (good : Good session y) (grows : Grows y.store t) :
    Good session (y.withStore t) := by
  have subset : (y.withStore t).kept ⊆ y.kept := List.filter_subset_self _
  have fewer : ∀ {row}, Barren session y row → Barren session (y.withStore t) row :=
    fun barren p mem => barren p (subset mem)
  constructor
  · exact grows.keyed
  · intro p mem
    obtain ⟨before, still⟩ := List.mem_filter.mp mem
    exact ⟨of_decide_eq_true still, (good.stored p before).2⟩
  · exact fun row at_cursor => known_grows grows (good.cursor row at_cursor)
  · intro q mem
    have fits := good.requests q mem
    constructor
    · exact fun row load => known_grows grows (fits.cursor row load)
    · exact fun cursor data answered => ⟨(fits.page cursor data answered).1, fun r listed =>
        known_grows grows ((fits.page cursor data answered).2 r listed)⟩
    · exact fun rows answered p kept => fits.uploaded rows answered p (subset kept)
    · exact fun ids answered p kept => fits.deleted ids answered p (subset kept)
  · rcases good.phase with scrolling | done
    · left
      exact
        { more := scrolling.more
          counts := fun p mem => scrolling.counts p (subset mem)
          single := scrolling.single
          loads := fun q mem load => ⟨(scrolling.loads q mem load).1, fun cursor data answered =>
            page_of_fewer subset ((scrolling.loads q mem load).2 cursor data answered)⟩ }
    · right
      constructor
      · exact fun p mem => done.counts p (subset mem)
      · exact fun row at_cursor => fewer (done.cursor row at_cursor)
      · intro q mem load
        obtain ⟨row, request, barren, page⟩ := done.loads q mem load
        exact ⟨row, request, fewer barren, fun cursor data answered r listed =>
          ⟨fewer (page cursor data answered r listed).1,
            fun kept => (page cursor data answered r listed).2 (subset kept)⟩⟩

/-- What is shown of loading plays no part. -/
theorem good_flags (good : Good session y) (loading seenLoading seenHasMore : Bool) :
    Good session { y with
      loading := loading, seenLoading := seenLoading, seenHasMore := seenHasMore } := by
  refine ⟨good.keyed, good.stored, good.cursor, good.requests, ?_⟩
  rcases good.phase with scrolling | done
  · exact .inl ⟨scrolling.more, scrolling.counts, scrolling.single, scrolling.loads⟩
  · exact .inr ⟨done.counts, done.cursor, done.loads⟩

theorem good_finish (good : Good session y) (q : InFlight) : Good session (y.finish q) := by
  unfold System.finish
  split
  · exact good_flags good false y.seenLoading y.seenHasMore
  · exact good

/-- Requests may go. -/
theorem good_fewer (good : Good session y) {fewer : List InFlight}
    (sublist : fewer.Sublist y.requests) : Good session { y with requests := fewer } where
  keyed := good.keyed
  stored := good.stored
  cursor := good.cursor
  requests q mem := good.requests q (sublist.subset mem)
  phase := by
    rcases good.phase with scrolling | done
    · left
      exact
        { more := scrolling.more
          counts := scrolling.counts
          single := (sublist.countP_le).trans scrolling.single
          loads := fun q mem => scrolling.loads q (sublist.subset mem) }
    · exact .inr ⟨done.counts, done.cursor, fun q mem => done.loads q (sublist.subset mem)⟩

section More
variable {q : InFlight} {rest : List InFlight}

/-- A request that is no load may come, or be served. -/
theorem good_other (good : Good session { y with requests := rest })
    (fits : Fits y.store y.kept q) (other : q.isLoad = false) {requests : List InFlight}
    (perm : requests.Perm (q :: rest)) : Good session { y with requests := requests } where
  keyed := good.keyed
  stored := good.stored
  cursor := good.cursor
  requests a mem := by
    rcases List.mem_cons.mp (perm.mem_iff.mp mem) with rfl | before
    · exact fits
    · exact good.requests a before
  phase := by
    have loads : ∀ a ∈ requests, a.isLoad = true → a ∈ rest := by
      intro a mem load
      rcases List.mem_cons.mp (perm.mem_iff.mp mem) with rfl | before
      · simp [other] at load
      · exact before
    rcases good.phase with scrolling | done
    · left
      constructor
      · exact scrolling.more
      · exact scrolling.counts
      · change requests.countP _ ≤ 1
        rw [perm.countP_eq, List.countP_cons_of_neg (by simp [other])]
        exact scrolling.single
      · exact fun a mem load => scrolling.loads a (loads a mem load) load
    · exact .inr ⟨done.counts, done.cursor, fun a mem load => done.loads a (loads a mem load) load⟩

/-- A load may come, or be served: from the cursor when it is the only one, and else from a row with
    nothing after it. -/
theorem good_load (good : Good session { y with requests := rest })
    (fits : Fits y.store y.kept q)
    (phase : Scrolling session.order { y with requests := rest } ∧
        rest.countP InFlight.isLoad = 0 ∧ q.request = .load y.cursorRef ∧
        (∀ cursor data, q.answer = some (.page cursor data) →
          PageOf session.order y.kept y.cursorRef data) ∨
      Done session { y with requests := rest } ∧ ∃ row, q.request = .load (some row) ∧
        Barren session y row ∧ ∀ cursor data, q.answer = some (.page cursor data) →
          ∀ r ∈ data, Barren session y r ∧ r ∉ y.kept)
    {requests : List InFlight} (perm : requests.Perm (q :: rest)) :
    Good session { y with requests := requests } where
  keyed := good.keyed
  stored := good.stored
  cursor := good.cursor
  requests a mem := by
    rcases List.mem_cons.mp (perm.mem_iff.mp mem) with rfl | before
    · exact fits
    · exact good.requests a before
  phase := by
    rcases phase with ⟨scrolling, alone, request, page⟩ | ⟨done, idle⟩
    · left
      constructor
      · exact scrolling.more
      · exact scrolling.counts
      · change requests.countP _ ≤ 1
        rw [perm.countP_eq, List.countP_cons, alone]
        split <;> simp
      · intro a mem load
        rcases List.mem_cons.mp (perm.mem_iff.mp mem) with rfl | before
        · exact ⟨request, page⟩
        · exact absurd load (List.countP_eq_zero.mp alone a before)
    · right
      refine ⟨done.counts, done.cursor, ?_⟩
      intro a mem load
      rcases List.mem_cons.mp (perm.mem_iff.mp mem) with rfl | before
      · exact idle
      · exact done.loads a before load

end More

theorem good_send (good : Good session y) {request : Request}
    (other : InFlight.isLoad ⟨request, none⟩ = false) : Good session (y.send request) := by
  have same : Good session { y with requests := y.requests } := good
  refine good_other same ?_ other (List.perm_append_singleton _ _)
  constructor
  · intro row load
    obtain rfl : request = .load (some row) := load
    simp [InFlight.isLoad] at other
  all_goals simp

theorem good_load_more (good : Good session y) (orderly : Orderly session y .loadMore)
    (loads : y.loads = true) :
    Good session ({ y with loading := true }.send (.load y.cursorRef)) := by
  have at_cursor : y.cursorRef.isSome = true := by
    simp only [System.loads, Bool.and_eq_true] at loads
    exact loads.2
  obtain ⟨row, at_cursor⟩ := Option.isSome_iff_exists.mp at_cursor
  have same : Good session { { y with loading := true } with requests := y.requests } :=
    good_flags good true y.seenLoading y.seenHasMore
  have idle : Done session y → Good session
      ({ y with loading := true }.send (.load y.cursorRef)) := by
    intro done
    refine good_load same ?_ (.inr ⟨⟨done.counts, done.cursor, done.loads⟩, row, ?_⟩)
      (List.perm_append_singleton _ _)
    · exact ⟨fun other load => good.cursor other (Request.load.inj load), by simp, by simp, by simp⟩
    · exact ⟨by rw [at_cursor], done.cursor row at_cursor, by simp⟩
  rcases good.phase with scrolling | done
  · by_cases alone : y.requests.countP InFlight.isLoad = 0
    · refine good_load same ?_ (.inl ⟨⟨scrolling.more, scrolling.counts, scrolling.single,
        scrolling.loads⟩, alone, rfl, by simp⟩) (List.perm_append_singleton _ _)
      exact ⟨fun other load => good.cursor other (Request.load.inj load), by simp, by simp, by simp⟩
    · obtain ⟨q, mem, load⟩ := List.countP_pos_iff.mp (Nat.pos_of_ne_zero alone)
      exact idle (done_of_barren scrolling at_cursor (orderly loads ⟨q, mem, load⟩ row at_cursor))
  · exact idle done

section Serve

theorem member_of_ok {coupleId userId : Nat} {u : Store}
    (done : (do ensureCoupleMember s coupleId userId; return u) = Except.ok t) : t = u := by
  rw [GalleryFiles.ensure_member_then] at done
  split at done
  · exact (Except.ok.inj done).symm
  · cases done

theorem removed_ids {photoId userId : Nat} (done : remove s photoId userId = .ok t) :
    ∀ p ∈ t.photos, p.id ≠ photoId := by
  unfold remove at done
  split at done
  · cases done
  · obtain rfl := member_of_ok done
    intro p mem
    simpa using (List.mem_filter.mp mem).2

theorem removed_batch_ids {photoIds : List Nat} {userId : Nat}
    (done : removeBatch s photoIds userId = .ok t) : ∀ p ∈ t.photos, p.id ∉ photoIds := by
  unfold removeBatch at done
  split at done
  · rename_i nothing
    rw [nothing]
    simp
  · split at done
    · rename_i found_none
      obtain rfl := Except.ok.inj done
      intro p mem asked
      have found : p ∈ s.photos.filter (·.id ∈ photoIds) :=
        List.mem_filter.mpr ⟨mem, decide_eq_true asked⟩
      rw [found_none] at found
      simp at found
    · split at done
      · cases done
      · obtain rfl := member_of_ok done
        intro p mem
        simpa using (List.mem_filter.mp mem).2

/-- What the server does leaves ids apart, and the answer names no row that is there all the while. -/
theorem serve_grows (session : Session) (keyed : Keyed s) (request : Request) :
    Grows s (serve session s request).1 ∧
      (∀ rows, (serve session s request).2 = .uploaded rows → ∀ p ∈ s.photos, p ∉ rows) ∧
      ∀ ids, (serve session s request).2 = .deleted ids →
        ∀ p ∈ (serve session s request).1.photos, p.id ∉ ids := by
  cases request with
  | load cursor =>
    simp only [serve]
    split <;> exact ⟨grows_refl keyed, by simp, by simp⟩
  | upload files =>
    simp only [serve]
    split
    case h_2 => exact ⟨grows_refl keyed, by simp, by simp⟩
    case h_1 t done =>
      obtain rfl := member_of_ok done
      obtain ⟨grows, new, photos, fresh⟩ :=
        grows_upload session.platform session.coupleId session.userId files keyed
      refine ⟨grows, ?_, by simp⟩
      intro rows same p mem listed
      rw [photos, List.drop_left] at same
      rw [← Answer.uploaded.inj same] at listed
      have old := keyed.below p mem
      have later := fresh p listed
      omega
  | deletePhoto photoId =>
    simp only [serve]
    split
    case h_2 => exact ⟨grows_refl keyed, by simp, by simp⟩
    case h_1 t done =>
      have moved : Gallery.step session.platform s (.remove photoId session.userId) = some t := by
        simp only [Gallery.step, exec, done]
      refine ⟨grows_step keyed moved, by simp, ?_⟩
      intro ids same p mem
      rw [← Answer.deleted.inj same, List.mem_singleton]
      exact removed_ids done p mem
  | deletePhotos photoIds =>
    simp only [serve]
    split
    case h_2 => exact ⟨grows_refl keyed, by simp, by simp⟩
    case h_1 t done =>
      have moved : Gallery.step session.platform s (.removeBatch photoIds session.userId) =
          some t := by
        simp only [Gallery.step, exec, done]
      refine ⟨grows_step keyed moved, by simp, ?_⟩
      intro ids same p mem
      rw [← Answer.deleted.inj same]
      exact removed_batch_ids done p mem

/-- The answer to a load: the rows after the cursor, when its row is there. -/
theorem find_many_data {cursor : Option Nat} {data : List GalleryPhoto}
    (found : findMany session s cursor = .ok data) :
    match cursor with
    | none => data = (rowsAfter session s none).take pageSize
    | some id =>
      match s.photos.find? (·.id = id) with
      | none => data = []
      | some row => data = (rowsAfter session s (some row)).take pageSize := by
  unfold findMany ensureCoupleMember at found
  split at found
  case isFalse => cases found
  case isTrue =>
    cases cursor with
    | none => exact (Except.ok.inj found).symm
    | some id =>
      dsimp only at found ⊢
      cases at_id : s.photos.find? (·.id = id) with
      | none =>
        rw [at_id] at found
        exact (Except.ok.inj found).symm
      | some row =>
        rw [at_id] at found
        exact (Except.ok.inj found).symm

theorem only_load (scrolling : Scrolling session.order y) {index : Nat} {q : InFlight}
    (found : y.requests[index]? = some q) (load : q.isLoad = true) :
    (y.requests.eraseIdx index).countP InFlight.isLoad = 0 := by
  have single := scrolling.single
  rw [(taken_perm found).countP_eq, List.countP_cons_of_pos load] at single
  omega

theorem done_fewer (done : Done session y) {fewer : List InFlight} (subset : fewer ⊆ y.requests) :
    Done session { y with requests := fewer } :=
  ⟨done.counts, done.cursor, fun q mem => done.loads q (subset mem)⟩

/-- What a served load brings, when its cursor is known. -/
theorem load_data {row : GalleryPhoto} {data : List GalleryPhoto} (known : Known s row)
    (found : findMany session s (some row.id) = .ok data) :
    data = [] ∧ (∀ p ∈ s.photos, p.id ≠ row.id) ∨
      data = (rowsAfter session s (some row)).take pageSize := by
  have given := find_many_data found
  dsimp only at given
  split at given
  · rename_i missing
    exact .inl ⟨given, fun p mem same => by simpa [same] using List.find?_eq_none.mp missing p mem⟩
  · rename_i other present
    have same := known.unique other (List.mem_of_find?_eq_some present)
      (by simpa using List.find?_some present)
    rw [same] at given
    exact .inr given

theorem find_many_stored {cursor : Option Nat} {data : List GalleryPhoto}
    (found : findMany session s cursor = .ok data) {r : GalleryPhoto} (mem : r ∈ data) :
    r ∈ s.photos := by
  have given := find_many_data found
  split at given
  · rw [given] at mem
    exact (mem_rows_after.mp (List.mem_of_mem_take mem)).1
  · split at given
    · simp [given] at mem
    · rw [given] at mem
      exact (mem_rows_after.mp (List.mem_of_mem_take mem)).1

section Load
variable {index : Nat} {cursor : Option GalleryPhoto} {answer : Answer} (good : Good session y)
  (found : y.requests[index]? = some ⟨.load cursor, none⟩)
  (answered : answer = .failed ∨ ∃ data, answer = .page cursor data ∧
    findMany session y.store (cursor.map GalleryPhoto.id) = .ok data)
include good found answered

theorem load_fits : Fits y.store y.kept ⟨.load cursor, some answer⟩ := by
  have before := good.requests _ (List.mem_of_getElem? found)
  rcases answered with rfl | ⟨data, rfl, queried⟩
  · exact ⟨before.cursor, by simp, by simp, by simp⟩
  · refine ⟨before.cursor, ?_, by simp, by simp⟩
    intro other rows same
    obtain ⟨rfl, rfl⟩ := Answer.page.inj (Option.some.inj same)
    exact ⟨rfl, fun r mem => known_row good.keyed (find_many_stored queried mem)⟩

theorem good_idle_load (done : Done session y) : Good session
    { y with requests := ⟨.load cursor, some answer⟩ :: y.requests.eraseIdx index } := by
  have sublist := List.eraseIdx_sublist y.requests index
  obtain ⟨row, request, barren, _⟩ := done.loads _ (List.mem_of_getElem? found) rfl
  obtain rfl : cursor = some row := Request.load.inj request
  have known := (good.requests _ (List.mem_of_getElem? found)).cursor row rfl
  refine good_load (good_fewer good sublist) (load_fits good found answered)
    (.inr ⟨done_fewer done sublist.subset, row, rfl, barren, ?_⟩) (List.Perm.refl _)
  intro other data same r mem
  rcases answered with rfl | ⟨rows, rfl, queried⟩
  · simp at same
  · obtain ⟨rfl, rfl⟩ := Answer.page.inj (Option.some.inj same)
    rcases load_data known queried with ⟨nothing, _⟩ | page
    · simp [nothing] at mem
    · rw [page] at mem
      exact barren_behind barren (mem_rows_after.mp (List.mem_of_mem_take mem)).2.2

theorem good_serve_load (orderly : Orderly session y (.serve index)) : Good session
    { y with requests := ⟨.load cursor, some answer⟩ :: y.requests.eraseIdx index } := by
  have sublist := List.eraseIdx_sublist y.requests index
  have mem := List.mem_of_getElem? found
  rcases good.phase with scrolling | done
  · have alone := only_load scrolling found rfl
    have from_cursor : cursor = y.cursorRef := Request.load.inj (scrolling.loads _ mem rfl).1
    have fewer : Scrolling session.order { y with requests := y.requests.eraseIdx index } :=
      ⟨scrolling.more, scrolling.counts, (sublist.countP_le).trans scrolling.single,
        fun q mem => scrolling.loads q (sublist.subset mem)⟩
    have fits := load_fits good found answered
    rcases answered with rfl | ⟨data, rfl, queried⟩
    · exact good_load (good_fewer good sublist) fits
        (.inl ⟨fewer, alone, by rw [from_cursor], by simp⟩) (List.Perm.refl _)
    · have page : data = (rowsAfter session y.store cursor).take pageSize → Good session
          { y with requests := ⟨.load cursor, some (.page cursor data)⟩ ::
            y.requests.eraseIdx index } := by
        intro given
        refine good_load (good_fewer good sublist) fits
          (.inl ⟨fewer, alone, by rw [from_cursor], ?_⟩) (List.Perm.refl _)
        intro other rows same
        obtain ⟨rfl, rfl⟩ := Answer.page.inj (Option.some.inj same)
        rw [given, ← from_cursor]
        exact page_of_rows_after good.keyed good.stored cursor
      cases cursor with
      | none => exact page (find_many_data queried)
      | some row =>
        have known := (good.requests _ mem).cursor row rfl
        rcases load_data known queried with ⟨rfl, gone⟩ | given
        · rcases orderly _ found row rfl with ⟨other, present, same⟩ | barren
          · exact absurd same (gone other present)
          · exact good_idle_load good found (.inr ⟨[], rfl, queried⟩)
              (done_of_barren scrolling from_cursor.symm barren)
        · exact page given
  · exact good_idle_load good found answered done

end Load

theorem serve_load (session : Session) (s : Store) (cursor : Option GalleryPhoto) :
    ∃ answer, serve session s (.load cursor) = (s, answer) ∧
      (answer = .failed ∨ ∃ data, answer = .page cursor data ∧
        findMany session s (cursor.map GalleryPhoto.id) = .ok data) := by
  simp only [serve]
  split
  · rename_i data found
    exact ⟨_, rfl, .inr ⟨data, rfl, found⟩⟩
  · exact ⟨_, rfl, .inl rfl⟩

theorem serve_page {request : Request} {cursor : Option GalleryPhoto} {data : List GalleryPhoto}
    (same : (serve session s request).2 = .page cursor data) : request = .load cursor := by
  cases request with
  | load asked =>
    obtain ⟨answer, served, rfl | ⟨rows, rfl, _⟩⟩ := serve_load session s asked
    · simp [served] at same
    · rw [served] at same
      rw [(Answer.page.inj same).1]
  | upload _ | deletePhoto _ | deletePhotos _ =>
    simp only [serve] at same
    split at same <;> simp at same

theorem good_serve (good : Good session y) {index : Nat} {request : Request}
    (found : y.requests[index]? = some ⟨request, none⟩)
    (orderly : Orderly session y (.serve index)) :
    Good session { y.withStore (serve session y.store request).1 with
      requests := ⟨request, some (serve session y.store request).2⟩ ::
        y.requests.eraseIdx index } := by
  obtain ⟨grows, uploaded, deleted⟩ := serve_grows session good.keyed request
  have served := good_with_store good grows
  have kept : ∀ p ∈ (y.withStore (serve session y.store request).1).kept,
      p ∈ y.kept ∧ p ∈ (serve session y.store request).1.photos := by
    intro p mem
    obtain ⟨before, still⟩ := List.mem_filter.mp mem
    exact ⟨before, of_decide_eq_true still⟩
  cases request with
  | load cursor =>
    obtain ⟨answer, same, answered⟩ := serve_load session y.store cursor
    rw [same] at served kept ⊢
    refine good_serve_load served found answered ?_
    intro q mem row waiting
    exact (orderly q mem row waiting).imp_right fun barren p mem => barren p (kept p mem).1
  | upload _ | deletePhoto _ | deletePhotos _ =>
    refine good_other (good_fewer served (List.eraseIdx_sublist _ index)) ?_ rfl (List.Perm.refl _)
    constructor
    · simp
    · intro cursor data same
      have asked := serve_page (Option.some.inj same)
      simp at asked
    · intro rows same p mem
      exact uploaded rows (Option.some.inj same) p (good.stored p (kept p mem).1).1
    · intro ids same p mem
      exact deleted ids (Option.some.inj same) p (kept p mem).2

end Serve

section Respond
variable {order : RowOrder} {cursor : Option GalleryPhoto} {data : List GalleryPhoto}
  (page : PageOf order kept cursor data)
include page

theorem reached_last {last p : GalleryPhoto} (at_last : data.getLast? = some last)
    (reached : ¬ Behind order cursor p) : order.le p last := by
  have after := page.behind last (List.mem_of_getLast? at_last)
  cases cursor with
  | none => exact absurd trivial reached
  | some row => exact behind_trans after (not_not.mp reached)

/-- A page moves the place up to which the list has the kept photos. -/
theorem page_counts {photos : List GalleryPhoto} {p : GalleryPhoto} (mem : p ∈ kept)
    (before : photos.count p = if Behind order cursor p then 0 else 1) :
    photos.count p + data.count p =
      if Behind order (data.getLast?.or cursor) p then 0 else 1 := by
  rw [before, page.count p mem]
  cases at_last : data.getLast? with
  | none =>
    obtain rfl := List.getLast?_eq_none_iff.mp at_last
    rw [if_neg (by simp : ¬ (Behind order cursor p ∧ ∃ q ∈ ([] : List GalleryPhoto), order.le p q))]
    rfl
  | some last =>
    have listed := List.mem_of_getLast? at_last
    have new_place : Behind order ((some last).or cursor) p ↔ ¬ order.le p last := Iff.rfl
    by_cases behind : Behind order cursor p
    · by_cases reached : order.le p last
      · rw [if_pos behind, if_pos ⟨behind, last, listed, reached⟩,
          if_neg (by rw [new_place]; exact not_not.mpr reached)]
      · have no_q : ¬ ∃ q ∈ data, order.le p q := by
          rintro ⟨q, mem, before⟩
          exact reached (order.trans p q last before (page.last last at_last q mem))
        rw [if_pos behind, if_neg fun both => no_q both.2, if_pos (new_place.mpr reached)]
    · have reached := reached_last page at_last behind
      rw [if_neg behind, if_neg fun both => behind both.1,
        if_neg (by rw [new_place]; exact not_not.mpr reached)]

/-- After a short page no kept photo is left. -/
theorem short_page_ends (short : data.length < pageSize) {p : GalleryPhoto} (mem : p ∈ kept) :
    ¬ Behind order (data.getLast?.or cursor) p := by
  intro left
  cases at_last : data.getLast? with
  | none =>
    rw [at_last] at left
    obtain rfl := List.getLast?_eq_none_iff.mp at_last
    exact absurd (page.short short p mem left) (by simp)
  | some last =>
    rw [at_last] at left
    by_cases behind : Behind order cursor p
    · exact left (page.last last at_last p (page.short short p mem behind))
    · exact left (reached_last page at_last behind)

end Respond

/-- A page that is short ends the scroll, and a full one moves it on. -/
theorem scrolling_page (scrolling : Scrolling session.order y) {index : Nat}
    {data : List GalleryPhoto}
    (found : y.requests[index]? = some ⟨.load y.cursorRef, some (.page y.cursorRef data)⟩)
    (page : PageOf session.order y.kept y.cursorRef data) :
    let z := ({ y with requests := y.requests.eraseIdx index }.settle (.page y.cursorRef data))
    Scrolling session.order z ∨ Done session z := by
  have alone := only_load scrolling found rfl
  have no_load : ∀ q ∈ y.requests.eraseIdx index, ¬ q.isLoad = true :=
    List.countP_eq_zero.mp alone
  have counts : ∀ p ∈ y.kept,
      (if y.cursorRef.isSome then y.photos ++ data else data).count p =
        if Behind session.order (data.getLast?.or y.cursorRef) p then 0 else 1 := by
    intro p listed
    have before := scrolling.counts p listed
    rw [← page_counts page listed before]
    split
    · rw [List.count_append]
    · rename_i first
      have behind : Behind session.order y.cursorRef p := by
        rw [Option.not_isSome_iff_eq_none.mp first]
        trivial
      rw [before, if_pos behind, Nat.zero_add]
  by_cases short : data.length < pageSize
  · right
    have ended : ∀ p ∈ y.kept, ¬ Behind session.order (data.getLast?.or y.cursorRef) p :=
      fun p listed => short_page_ends page short listed
    constructor
    · exact fun p listed => (counts p listed).trans (if_neg (ended p listed))
    · intro row at_cursor p listed
      have place := ended p listed
      rw [show data.getLast?.or y.cursorRef = some row from at_cursor] at place
      exact not_not.mp place
    · exact fun q listed load => absurd load (no_load q listed)
  · left
    constructor
    · exact (if_neg short).trans scrolling.more
    · exact counts
    · exact ((List.eraseIdx_sublist y.requests index).countP_le).trans scrolling.single
    · exact fun q listed load => absurd load (no_load q listed)

/-- A page behind a barren row brings nothing that is kept. -/
theorem done_page (done : Done session y) {row : GalleryPhoto} {data : List GalleryPhoto}
    (index : Nat) (idle : ∀ r ∈ data, Barren session y r ∧ r ∉ y.kept) :
    Done session
      ({ y with requests := y.requests.eraseIdx index }.settle (.page (some row) data)) := by
  constructor
  · intro p listed
    have absent : p ∉ data := fun brought => (idle p brought).2 listed
    change (y.photos ++ data).count p = 1
    rw [List.count_append, done.counts p listed, List.count_eq_zero.mpr absent]
  · intro other at_cursor
    rcases Option.or_eq_some_iff.mp at_cursor with at_last | ⟨_, before⟩
    · exact (idle other (List.mem_of_getLast? at_last)).1
    · exact done.cursor other before
  · exact fun q listed => done.loads q ((List.eraseIdx_sublist y.requests index).subset listed)

theorem good_page (good : Good session y) {index : Nat} {request : Request}
    {cursor : Option GalleryPhoto} {data : List GalleryPhoto}
    (found : y.requests[index]? = some ⟨request, some (.page cursor data)⟩) :
    Good session ({ y with requests := y.requests.eraseIdx index }.settle (.page cursor data)) := by
  have mem := List.mem_of_getElem? found
  have fits := good.requests _ mem
  obtain ⟨rfl, known⟩ := fits.page cursor data rfl
  have rest := good_fewer good (List.eraseIdx_sublist y.requests index)
  have last_known : ∀ row ∈ data.getLast?.or y.cursorRef, Known y.store row := by
    intro row at_cursor
    rcases Option.or_eq_some_iff.mp at_cursor with at_last | ⟨_, before⟩
    · exact known row (List.mem_of_getLast? at_last)
    · exact good.cursor row before
  refine ⟨rest.keyed, rest.stored, last_known, rest.requests, ?_⟩
  rcases good.phase with scrolling | done
  · obtain ⟨from_cursor, pages⟩ := scrolling.loads _ mem rfl
    obtain rfl : cursor = y.cursorRef := Request.load.inj from_cursor
    exact scrolling_page scrolling found (pages _ data rfl)
  · obtain ⟨row, from_row, _, rows⟩ := done.loads _ mem rfl
    obtain rfl : cursor = some row := Request.load.inj from_row
    exact Or.inr (done_page done index (rows _ data rfl))

theorem good_settle (good : Good session y) {index : Nat} {request : Request} {answer : Answer}
    (found : y.requests[index]? = some ⟨request, some answer⟩) :
    Good session ({ y with requests := y.requests.eraseIdx index }.settle answer) := by
  have sublist := List.eraseIdx_sublist y.requests index
  have fits := good.requests _ (List.mem_of_getElem? found)
  have rest := good_fewer good sublist
  -- Only the list changes, and the kept photos stay in it as they are.
  have same_counts : ∀ photos : List GalleryPhoto,
      (∀ p ∈ y.kept, photos.count p = y.photos.count p) →
        Good session { y with requests := y.requests.eraseIdx index, photos := photos } := by
    intro photos same
    refine ⟨rest.keyed, rest.stored, rest.cursor, rest.requests, ?_⟩
    rcases rest.phase with scrolling | done
    · exact .inl ⟨scrolling.more, fun p mem => (same p mem).trans (scrolling.counts p mem),
        scrolling.single, scrolling.loads⟩
    · exact .inr ⟨fun p mem => (same p mem).trans (done.counts p mem), done.cursor, done.loads⟩
  cases answer with
  | page cursor data => exact good_page good found
  | uploaded rows =>
    refine same_counts _ ?_
    intro p mem
    change (rows ++ y.photos).count p = _
    rw [List.count_append, List.count_eq_zero.mpr (fits.uploaded rows rfl p mem), Nat.zero_add]
  | deleted ids =>
    refine same_counts _ ?_
    intro p mem
    exact List.count_filter (decide_eq_true (fits.deleted ids rfl p mem))
  | failed => exact rest

theorem good_step {e : Event} (moved : step session y e = some z) (orderly : Orderly session y e)
    (good : Good session y) : Good session z := by
  cases e with
  | render =>
    obtain rfl := Option.some.inj moved
    exact good_flags good y.loading y.loading y.hasMore
  | loadMore =>
    obtain rfl := Option.some.inj moved
    split
    · rename_i loads
      exact good_load_more good orderly loads
    · exact good
  | uploadPhotos files =>
    obtain rfl := Option.some.inj moved
    split
    · exact good
    · exact good_send good rfl
  | deletePhoto photoId =>
    obtain rfl := Option.some.inj moved
    exact good_send good rfl
  | deletePhotos photoIds =>
    obtain rfl := Option.some.inj moved
    split
    · exact good
    · exact good_send good rfl
  | serve index =>
    simp only [step] at moved
    split at moved
    case h_2 => simp at moved
    case h_1 request found =>
      obtain rfl := Option.some.inj moved
      exact good_serve good found orderly
  | respond index =>
    simp only [step] at moved
    split at moved
    case h_2 => simp at moved
    case h_1 request answer found =>
      obtain rfl := Option.some.inj moved
      exact good_finish (good_settle good found) _
  | lose index =>
    obtain ⟨q, _, rfl⟩ := Option.map_eq_some_iff.mp moved
    exact good_finish (good_fewer good (List.eraseIdx_sublist _ index)) q
  | partner call =>
    obtain ⟨t, done, rfl⟩ := Option.map_eq_some_iff.mp moved
    exact good_with_store good (grows_step good.keyed done)

theorem good_initial (keyed : Keyed s) : Good session (initial session s) := by
  constructor
  · exact keyed
  · intro p mem
    obtain ⟨stored, ours⟩ := List.mem_filter.mp mem
    exact ⟨stored, of_decide_eq_true ours⟩
  · simp [initial]
  · intro q mem
    rw [List.mem_singleton.mp mem]
    exact ⟨by simp, by simp, by simp, by simp⟩
  · left
    constructor
    · rfl
    · intro p mem
      rfl
    · exact Nat.le_refl 1
    · intro q mem load
      rw [List.mem_singleton.mp mem]
      exact ⟨rfl, by simp⟩

/-- A load that finds the row of its cursor gone ends the scroll short of the photos after it. -/
theorem vanished_cursor_incomplete (good : Good session y) {cursor : GalleryPhoto}
    (member : y.store.isMember session.coupleId session.userId = true)
    (waiting : y.requests = [⟨.load (some cursor), none⟩])
    (gone : ∀ row ∈ y.store.photos, row.id ≠ cursor.id) (left : ¬ Barren session y cursor) :
    ∃ z, run (step session) y [.serve 0, .respond 0] = some z ∧ ¬ Complete z := by
  have mem : ⟨.load (some cursor), none⟩ ∈ y.requests := by simp [waiting]
  have scrolling : Scrolling session.order y := by
    refine good.phase.resolve_right fun done => left ?_
    obtain ⟨row, same, barren, _⟩ := done.loads _ mem rfl
    rwa [Option.some.inj (Request.load.inj same)]
  have at_cursor : some cursor = y.cursorRef := Request.load.inj (scrolling.loads _ mem rfl).1
  have missing : y.store.photos.find? (·.id = cursor.id) = none := by
    simpa using gone
  have served : serve session y.store (.load (some cursor)) =
      (y.store, .page (some cursor) []) := by
    have nothing : findMany session y.store (some cursor.id) = .ok [] := by
      simp only [findMany, ensureCoupleMember, member, if_true, missing]
      rfl
    simp only [serve, Option.map_some, nothing]
  have reached : run (step session) y [.serve 0, .respond 0] =
      some { y.withStore y.store with
        photos := y.photos ++ [], loading := false, hasMore := false, requests := [] } := by
    simp [run, step, waiting, served, System.settle, System.finish, InFlight.isLoad, pageSize,
      System.withStore]
  refine ⟨_, reached, fun complete => left ?_⟩
  intro p kept
  have still : p ∈ (y.withStore y.store).kept :=
    List.mem_filter.mpr ⟨kept, decide_eq_true (good.stored p kept).1⟩
  have once := complete rfl rfl p still
  have before := scrolling.counts p kept
  rw [← at_cursor] at before
  by_contra behind
  rw [if_pos (show Behind session.order (some cursor) p from behind)] at before
  simp [before] at once

end Invariant

/-- As long as no load is sent next to another one or served with a cursor whose row is gone, unless
    nothing comes after the cursor, the end of the scroll finds each photo that was stored all the
    while exactly once. -/
theorem orderly_scroll_complete {session : Session} {s : Store} {events : List Event} {y : System}
    (keyed : Keyed s) (moved : run (step session) (initial session s) events = some y)
    (orderly : EachStep (step session) (Orderly session) (initial session s) events) :
    Complete y :=
  good_complete (guarded_run_keeps (Good session)
    (fun _ _ _ moved met kept => good_step moved met kept) moved orderly (good_initial keyed))

section Sample

/-- The later id comes first. -/
def laterFirst : RowOrder where
  createdAt id := id
  le a b := b.id ≤ a.id
  decidable a b := inferInstanceAs (Decidable (b.id ≤ a.id))
  total a b := Nat.le_total b.id a.id
  trans _ _ _ ab bc := Nat.le_trans bc ab
  antisymm _ _ ab ba := Nat.le_antisymm ba ab
  latest _ _ le := Int.ofNat_le.mpr le

def sampleSession : Session := ⟨GalleryFiles.samplePlatform, laterFirst, 0, 1⟩

/-- A couple with 37 photos. -/
def sampleStore : Store :=
  ⟨[⟨0, 1⟩, ⟨0, 2⟩], (List.range 37).map fun id => ⟨id, 0, 1, []⟩, fun _ => none, [], 37⟩

theorem sample_keyed : Keyed sampleStore := ⟨by decide +kernel, by decide +kernel⟩

/-- The partner deletes the photo with this id between the two loads. -/
def sampleEvents (photoId : Nat) : List Event :=
  [.serve 0, .respond 0, .render, .partner (.remove photoId 2), .loadMore, .serve 0, .respond 0]

theorem deletion_inside_page_complete : ∃ y,
    run (step sampleSession) (initial sampleSession sampleStore) (sampleEvents 5) = some y ∧
      y.hasMore = false ∧ y.requests = [] ∧ y.photos.length = 37 ∧ Complete y := by
  have reached : run (step sampleSession) (initial sampleSession sampleStore) (sampleEvents 5) =
      some ((run (step sampleSession) (initial sampleSession sampleStore) (sampleEvents 5)).get
        (by decide +kernel)) := (Option.some_get _).symm
  exact ⟨_, reached, by decide +kernel, by decide +kernel, by decide +kernel,
    orderly_scroll_complete sample_keyed reached (by decide +kernel)⟩

/-- Photo 1 is the last of the first page. Without its row the second load finds nothing, and photo
    0 is left out. -/
theorem deleted_cursor_ends_scroll : ¬ ∀ (session : Session) (s : Store) (events : List Event)
    (y : System), Keyed s → run (step session) (initial session s) events = some y →
      Complete y := by
  intro complete
  have reached : run (step sampleSession) (initial sampleSession sampleStore) (sampleEvents 1) =
      some ((run (step sampleSession) (initial sampleSession sampleStore) (sampleEvents 1)).get
        (by decide +kernel)) := (Option.some_get _).symm
  have all := complete sampleSession sampleStore _ _ sample_keyed reached (by decide +kernel)
    (by decide +kernel) ⟨0, 0, 1, []⟩ (by decide +kernel)
  exact absurd all (by decide +kernel)

end Sample

end PhotosHook
