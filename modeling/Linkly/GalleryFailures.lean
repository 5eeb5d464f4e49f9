import Linkly.GalleryFiles

/-!
Calls of the gallery service whose database statements may fail. `fails` says of each statement of
a call, counted in the order of issue, whether it fails. The disk does not fail, and the store is
the one that is left when all statements of the call have ended.
-/
namespace GalleryFailures
open Gallery GalleryFiles PosixPath

inductive Rejection where
  | refused (exception : Gallery.Exception)
  | database
  deriving DecidableEq, Repr

structure Outcome where
  store : Store
  rejection : Option Rejection

inductive Request where
  | upload (coupleId userId : Nat) (files : List UploadedFile)
  | remove (photoId userId : Nat)
  | removeBatch (photoIds : List Nat) (userId : Nat)
  deriving DecidableEq, Repr

def Request.call : Request → Call
  | .upload coupleId userId files => .upload coupleId userId files
  | .remove photoId userId => .remove photoId userId
  | .removeBatch photoIds userId => .removeBatch photoIds userId

section Calls
variable (platform : Platform) (fails : Nat → Bool)

def statement (n : Nat) : Except Rejection Unit := if fails n then .error .database else .ok ()

def ensureMember (n : Nat) (s : Store) (coupleId userId : Nat) : Except Rejection Unit := do
  statement fails n
  (ensureCoupleMember s coupleId userId).mapError .refused

/-- The file is written before the row is created. -/
def createOne (failed : Bool) (coupleId userId : Nat) (s : Store) (file : UploadedFile) : Store :=
  if failed then
    { s with uploadDir := writeIfAbsent s.uploadDir (storedName platform file) file.buffer }
  else uploadOne platform coupleId userId s file

/-- The creates run side by side, so that one that fails stops no other one. -/
def createAll (coupleId userId : Nat) : Nat → List UploadedFile → Store → Store
  | _, [], s => s
  | n, file :: files, s =>
    createAll coupleId userId (n + 1) files (createOne platform (fails n) coupleId userId s file)

def upload (s : Store) (coupleId userId : Nat) (files : List UploadedFile) : Outcome :=
  match ensureMember fails 0 s coupleId userId with
  | .error rejection => ⟨s, some rejection⟩
  | .ok _ =>
    ⟨createAll platform fails coupleId userId 1 files s,
      if (List.range files.length).any fun i => fails (i + 1) then some .database else none⟩

/-- The files go before the rows. -/
def deleteRows (n : Nat) (s : Store) (photos : List GalleryPhoto) (keeps : GalleryPhoto → Bool) :
    Outcome :=
  let unlinked := { s with uploadDir := unlinkAll s.uploadDir photos }
  match statement fails n with
  | .error rejection => ⟨unlinked, some rejection⟩
  | .ok _ => ⟨{ unlinked with photos := s.photos.filter keeps }, none⟩

def findToRemove (s : Store) (photoId userId : Nat) : Except Rejection GalleryPhoto := do
  statement fails 0
  match s.photos.find? (·.id = photoId) with
  | none => throw (.refused (.notFound "Photo not found"))
  | some photo => do
    ensureMember fails 1 s photo.coupleId userId
    return photo

def remove (s : Store) (photoId userId : Nat) : Outcome :=
  match findToRemove fails s photoId userId with
  | .error rejection => ⟨s, some rejection⟩
  | .ok photo => deleteRows fails 2 s [photo] (·.id ≠ photoId)

/-- The rows to be deleted; there are none when nothing is asked for or found. -/
def findBatch (s : Store) (photoIds : List Nat) (userId : Nat) :
    Except Rejection (List GalleryPhoto) := do
  statement fails 0
  match s.photos.filter (·.id ∈ photoIds) with
  | [] => return []
  | first :: rest =>
    if (first :: rest).any (·.coupleId ≠ first.coupleId) then
      throw (.refused (.forbidden "All photos must belong to the same couple."))
    else do
      ensureMember fails 1 s first.coupleId userId
      return first :: rest

def removeBatch (s : Store) (photoIds : List Nat) (userId : Nat) : Outcome :=
  if photoIds = [] then ⟨s, none⟩
  else
    match findBatch fails s photoIds userId with
    | .error rejection => ⟨s, some rejection⟩
    | .ok [] => ⟨s, none⟩
    | .ok photos => deleteRows fails 2 s photos (·.id ∉ photoIds)

def attempt (s : Store) : Request → Outcome
  | .upload coupleId userId files => upload platform fails s coupleId userId files
  | .remove photoId userId => remove fails s photoId userId
  | .removeBatch photoIds userId => removeBatch fails s photoIds userId

end Calls

def FilesPresent (s : Store) : Prop :=
  ∀ p ∈ s.photos, (s.uploadDir (basename p.url)).isSome = true

/-- A store whose rows all have their files, and whose next row has an id of its own. -/
structure IntactGallery where
  store : Store
  fresh : ∀ p ∈ store.photos, p.id < store.nextId
  present : FilesPresent store

/-- The rows are the same ones, and each of them has its file. -/
def Undone (s t : Store) : Prop := (∀ p, p ∈ t.photos ↔ p ∈ s.photos) ∧ FilesPresent t

def LeavesNothing (s : Store) (outcome : Outcome) : Prop :=
  outcome.rejection.isSome = true → Undone s outcome.store

/-- No delete fails that has rows to delete, and the creates of an upload fail all or none. -/
def FailsWhole (fails : Nat → Bool) (s : Store) : Request → Prop
  | .upload coupleId userId files =>
    fails 0 = true ∨ s.isMember coupleId userId = false ∨
      (∀ i < files.length, fails (i + 1) = false) ∨ ∀ i < files.length, fails (i + 1) = true
  | .remove photoId userId =>
    fails 0 = true ∨ fails 1 = true ∨ fails 2 = false ∨
      removedBy s (.remove photoId userId) = []
  | .removeBatch photoIds userId =>
    fails 0 = true ∨ fails 1 = true ∨ fails 2 = false ∨
      removedBy s (.removeBatch photoIds userId) = []

section Checks
variable {fails : Nat → Bool} {s : Store}

theorem ensure_member_eq (n coupleId userId : Nat) : ensureMember fails n s coupleId userId =
    if fails n then .error .database
    else if s.isMember coupleId userId then .ok ()
    else .error (.refused (.forbidden "User is not a member of this couple.")) := by
  unfold ensureMember statement ensureCoupleMember
  split_ifs <;> rfl

theorem undone_refl (present : FilesPresent s) : Undone s s := ⟨fun _ => Iff.rfl, present⟩

end Checks

section Deletions
variable {fails : Nat → Bool} {s : Store}

/-- Files that are deleted without their rows leave rows without files. -/
theorem delete_rows_leaves_nothing_iff {n : Nat} {photos : List GalleryPhoto}
    (keeps : GalleryPhoto → Bool) (some_row : photos ≠ []) (rows : ∀ p ∈ photos, p ∈ s.photos) :
    LeavesNothing s (deleteRows fails n s photos keeps) ↔ fails n = false := by
  cases failed : fails n with
  | false => simp [LeavesNothing, deleteRows, statement, failed]
  | true =>
    simp only [Bool.true_eq_false, iff_false]
    intro clean
    obtain ⟨photo, listed⟩ := List.exists_mem_of_ne_nil photos some_row
    have left : Undone s { s with uploadDir := unlinkAll s.uploadDir photos } := by
      simpa [LeavesNothing, deleteRows, statement, failed] using clean
    have unlinked : unlinkAll s.uploadDir photos (basename photo.url) = none := by
      rw [unlink_all_eq, if_pos ⟨photo, listed, rfl⟩]
    have present : (unlinkAll s.uploadDir photos (basename photo.url)).isSome = true :=
      left.2 photo (rows photo listed)
    simp [unlinked] at present

/-- A deletion ends at its checks, with the store as it was, or comes to its files and rows. -/
def Deletes (fails : Nat → Bool) (s : Store) (gone : List GalleryPhoto) (outcome : Outcome) :
    Prop :=
  (outcome.store = s ∧ (fails 0 = true ∨ fails 1 = true ∨ gone = [])) ∨
    (fails 0 = false ∧ fails 1 = false ∧ gone ≠ [] ∧
      ∃ keeps, outcome = deleteRows fails 2 s gone keeps)

theorem deletion_leaves_nothing_iff {gone : List GalleryPhoto} {outcome : Outcome}
    (present : FilesPresent s) (rows : ∀ p ∈ gone, p ∈ s.photos)
    (deletes : Deletes fails s gone outcome) : LeavesNothing s outcome ↔
      fails 0 = true ∨ fails 1 = true ∨ fails 2 = false ∨ gone = [] := by
  rcases deletes with ⟨same, stopped⟩ | ⟨first, second, some_row, keeps, rfl⟩
  · have nothing : LeavesNothing s outcome := fun _ => same.symm ▸ undone_refl present
    simp only [nothing, true_iff]
    tauto
  · rw [delete_rows_leaves_nothing_iff keeps some_row rows]
    simp [first, second, some_row]

theorem remove_deletes (photoId userId : Nat) :
    Deletes fails s (removedBy s (.remove photoId userId)) (remove fails s photoId userId) := by
  cases first : fails 0 with
  | true =>
    left
    simp [remove, findToRemove, statement, first, bind, Except.bind]
  | false =>
    cases found : s.photos.find? (·.id = photoId) with
    | none =>
      left
      simp [remove, findToRemove, statement, first, found, bind, Except.bind, removedBy, throw,
        throwThe, MonadExceptOf.throw]
    | some photo =>
      cases second : fails 1 <;> cases member : s.isMember photo.coupleId userId <;>
        simp [Deletes, remove, findToRemove, statement, first, found, bind, Except.bind, removedBy,
          ensure_member_eq, second, member]
      exact ⟨_, rfl⟩

theorem remove_batch_deletes (photoIds : List Nat) (userId : Nat) :
    Deletes fails s (removedBy s (.removeBatch photoIds userId))
      (removeBatch fails s photoIds userId) := by
  by_cases asked : photoIds = []
  · left
    simp [removeBatch, removedBy, asked]
  · cases first : fails 0 with
    | true =>
      left
      simp [removeBatch, findBatch, asked, statement, first, bind, Except.bind]
    | false =>
      cases rows : s.photos.filter (·.id ∈ photoIds) with
      | nil =>
        left
        simp [removeBatch, findBatch, asked, statement, first, rows, bind, Except.bind, removedBy,
          pure, Except.pure]
      | cons photo rest =>
        cases mixed : (photo :: rest).any (·.coupleId ≠ photo.coupleId) with
        | true =>
          left
          have several : ¬ ∀ p ∈ rest, p.coupleId = photo.coupleId := by simpa using mixed
          simp only [removeBatch, findBatch, asked, statement, first, rows, mixed, bind,
            Except.bind, removedBy, several]
          simp [throw, throwThe, MonadExceptOf.throw]
        | false =>
          have one_couple : ∀ p ∈ rest, p.coupleId = photo.coupleId := by simpa using mixed
          have removed : removedBy s (.removeBatch photoIds userId) =
              if s.isMember photo.coupleId userId then photo :: rest else [] := by
            simp only [removedBy, rows]
            exact if_congr (and_iff_right one_couple) rfl rfl
          have opened : removeBatch fails s photoIds userId =
              if fails 1 then ⟨s, some .database⟩
              else if s.isMember photo.coupleId userId then
                deleteRows fails 2 s (photo :: rest) (·.id ∉ photoIds)
              else ⟨s, some (.refused (.forbidden "User is not a member of this couple."))⟩ := by
            rw [removeBatch, if_neg asked]
            simp only [findBatch, statement, first, rows, mixed, ensure_member_eq,
              Bool.false_eq_true, if_false]
            cases fails 1 <;> cases s.isMember photo.coupleId userId <;> rfl
          rw [removed, opened]
          cases second : fails 1 <;> cases member : s.isMember photo.coupleId userId <;>
            simp [Deletes, first, second]

theorem removed_by_subset (s : Store) (call : Call) : ∀ p ∈ removedBy s call, p ∈ s.photos := by
  intro p removed
  cases call with
  | upload coupleId userId files => simp [removedBy] at removed
  | remove photoId userId =>
    have found := (List.mem_filter.mp removed).1
    exact List.mem_of_find?_eq_some (Option.mem_toList.mp found)
  | removeBatch photoIds userId =>
    simp only [removedBy] at removed
    split at removed
    · simp at removed
    · rename_i rows
      split at removed
      · exact (List.mem_filter.mp (rows ▸ removed)).1
      · simp at removed
  | breakUp coupleId userId =>
    simp only [removedBy] at removed
    split at removed
    · exact (List.mem_filter.mp removed).1
    · simp at removed

end Deletions

section Uploads
variable {platform : Platform} {fails : Nat → Bool} {coupleId userId : Nat} {s : Store}

theorem create_one_rows (failed : Bool) (file : UploadedFile) {p : GalleryPhoto}
    (old : p ∈ s.photos) : p ∈ (createOne platform failed coupleId userId s file).photos := by
  cases failed with
  | true => exact old
  | false => exact List.mem_append_left _ old

theorem create_one_present (failed : Bool) (file : UploadedFile) (present : FilesPresent s) :
    FilesPresent (createOne platform failed coupleId userId s file) := by
  have kept : ∀ p ∈ s.photos, (writeIfAbsent s.uploadDir (storedName platform file) file.buffer
      (basename p.url)).isSome = true := by
    intro p old
    obtain ⟨bytes, found⟩ := Option.isSome_iff_exists.mp (present p old)
    exact Option.isSome_iff_exists.mpr ⟨bytes, write_if_absent_other found⟩
  cases failed with
  | true => exact kept
  | false =>
    intro p mem
    rcases List.mem_append.mp mem with old | new
    · exact kept p old
    · obtain rfl := List.mem_singleton.mp new
      rw [basename_photo_url (stored_name_stored_as platform file)]
      obtain ⟨bytes, found⟩ :=
        write_if_absent_self s.uploadDir (storedName platform file) file.buffer
      exact Option.isSome_iff_exists.mpr ⟨bytes, found⟩

theorem create_all_rows {files : List UploadedFile} {n : Nat} {p : GalleryPhoto}
    (old : p ∈ s.photos) : p ∈ (createAll platform fails coupleId userId n files s).photos := by
  induction files generalizing n s with
  | nil => exact old
  | cons file files ih => exact ih (create_one_rows _ file old)

theorem create_all_present {files : List UploadedFile} {n : Nat} (present : FilesPresent s) :
    FilesPresent (createAll platform fails coupleId userId n files s) := by
  induction files generalizing n s with
  | nil => exact present
  | cons file files ih => exact ih (create_one_present _ file present)

theorem create_all_failed {files : List UploadedFile} {n : Nat}
    (failed : ∀ i < files.length, fails (n + i) = true) :
    (createAll platform fails coupleId userId n files s).photos = s.photos := by
  induction files generalizing n s with
  | nil => rfl
  | cons file files ih =>
    have first : fails n = true := failed 0 (by simp)
    rw [createAll, first]
    refine ih ?_
    intro i less
    have later := failed (i + 1) (by simpa using less)
    rwa [Nat.add_comm i 1, ← Nat.add_assoc] at later

/-- A create that succeeds leaves a row that was not there before. -/
theorem create_all_succeeded {files : List UploadedFile} {n i : Nat} (less : i < files.length)
    (succeeds : fails (n + i) = false) :
    ∃ p ∈ (createAll platform fails coupleId userId n files s).photos, s.nextId ≤ p.id := by
  induction files generalizing n i s with
  | nil => simp at less
  | cons file files ih =>
    rw [createAll]
    cases i with
    | zero =>
      rw [Nat.add_zero] at succeeds
      rw [succeeds]
      exact ⟨_, create_all_rows (List.mem_append_right _ List.mem_cons_self), le_rfl⟩
    | succ i =>
      have further : s.nextId ≤ (createOne platform (fails n) coupleId userId s file).nextId := by
        cases fails n with
        | true => exact le_rfl
        | false => exact Nat.le_succ _
      have shifted : fails (n + 1 + i) = false := by rwa [Nat.add_assoc, Nat.add_comm 1]
      obtain ⟨p, mem, late⟩ := ih (by simpa using less) shifted
      exact ⟨p, mem, further.trans late⟩

/-- Once the uploader is known for a member, the creates decide. -/
theorem creates_leave_nothing_iff (g : IntactGallery) (files : List UploadedFile) :
    Undone g.store (createAll platform fails coupleId userId 1 files g.store) ↔
      ∀ i < files.length, fails (i + 1) = true := by
  constructor
  · rintro ⟨rows, _⟩ i less
    by_contra succeeds
    have shifted : fails (1 + i) = false := by simpa [Nat.add_comm 1] using succeeds
    obtain ⟨p, mem, late⟩ : ∃ p ∈ (createAll platform fails coupleId userId 1 files g.store).photos,
        g.store.nextId ≤ p.id := create_all_succeeded less shifted
    have old := g.fresh p ((rows p).mp mem)
    omega
  · intro failed
    refine ⟨fun p => ?_, create_all_present g.present⟩
    rw [create_all_failed fun i less => by simpa [Nat.add_comm 1] using failed i less]

theorem upload_leaves_nothing_iff (g : IntactGallery) (files : List UploadedFile) :
    LeavesNothing g.store (upload platform fails g.store coupleId userId files) ↔
      FailsWhole fails g.store (.upload coupleId userId files) := by
  simp only [upload, ensure_member_eq, FailsWhole]
  cases lookup : fails 0 with
  | true => simpa [LeavesNothing] using undone_refl g.present
  | false =>
    cases member : g.store.isMember coupleId userId with
    | false => simpa [LeavesNothing] using undone_refl g.present
    | true =>
      have creates : LeavesNothing g.store (upload platform fails g.store coupleId userId files) ↔
          (∀ i < files.length, fails (i + 1) = false) ∨
            Undone g.store (createAll platform fails coupleId userId 1 files g.store) := by
        simp only [LeavesNothing, upload, ensure_member_eq, lookup, member]
        cases failed : (List.range files.length).any fun i => fails (i + 1) with
        | true =>
          have some_failed : ¬ ∀ i < files.length, fails (i + 1) = false := by simpa using failed
          simp [some_failed]
        | false =>
          have quiet : ∀ i < files.length, fails (i + 1) = false := by simpa using failed
          simp only [Bool.false_eq_true, if_false, if_true, Option.isSome_none, false_imp_iff,
            true_iff]
          exact Or.inl quiet
      rw [creates_leave_nothing_iff] at creates
      simpa [upload, ensure_member_eq, lookup, member] using creates

end Uploads

theorem rejections_leave_nothing_iff (platform : Platform) (g : IntactGallery)
    (request : Request) (fails : Nat → Bool) :
    LeavesNothing g.store (attempt platform fails g.store request) ↔
      FailsWhole fails g.store request := by
  cases request with
  | upload coupleId userId files => exact upload_leaves_nothing_iff g files
  | remove photoId userId =>
    exact deletion_leaves_nothing_iff g.present (removed_by_subset g.store _)
      (remove_deletes photoId userId)
  | removeBatch photoIds userId =>
    exact deletion_leaves_nothing_iff g.present (removed_by_subset g.store _)
      (remove_batch_deletes photoIds userId)

section Reliable
variable {platform : Platform}

theorem create_all_reliable (coupleId userId n : Nat) (files : List UploadedFile) (s : Store) :
    createAll platform (fun _ => false) coupleId userId n files s =
      files.foldl (uploadOne platform coupleId userId) s := by
  induction files generalizing n s with
  | nil => rfl
  | cons file files ih => exact ih (n + 1) _

/-- Without failures a call does what it does on a database that never fails. -/
theorem attempt_reliable (s : Store) (request : Request) :
    attempt platform (fun _ => false) s request =
      match exec platform s request.call with
      | .ok t => ⟨t, none⟩
      | .error exception => ⟨s, some (.refused exception)⟩ := by
  cases request with
  | upload coupleId userId files =>
    simp only [attempt, upload, ensure_member_eq, create_all_reliable, Request.call, exec,
      Gallery.upload, ensureCoupleMember]
    cases s.isMember coupleId userId <;> simp [bind, Except.bind, pure, Except.pure]
  | remove photoId userId =>
    simp only [attempt, remove, findToRemove, Request.call, exec, Gallery.remove]
    cases s.photos.find? (·.id = photoId) with
    | none => rfl
    | some photo =>
      simp only [ensure_member_eq, ensureCoupleMember]
      cases s.isMember photo.coupleId userId <;> rfl
  | removeBatch photoIds userId =>
    simp only [attempt, removeBatch, findBatch, Request.call, exec, Gallery.removeBatch]
    split_ifs
    · rfl
    · cases s.photos.filter (·.id ∈ photoIds) with
      | nil => rfl
      | cons photo rest =>
        simp only [ensure_member_eq, ensureCoupleMember]
        cases (photo :: rest).any (·.coupleId ≠ photo.coupleId) <;>
          cases s.isMember photo.coupleId userId <;> rfl

end Reliable

/-- One member's only photo, with its file. -/
def sampleGallery : IntactGallery where
  store := ⟨[⟨0, 1⟩], [⟨0, 0, 1, photoUrl "a.jpg".toList⟩],
    fun name => if name = "a.jpg".toList then some [97] else none, [(0, [97])], 1⟩
  fresh := List.forall_mem_singleton.mpr (Nat.lt_succ_self 0)
  present := List.forall_mem_singleton.mpr rfl

/-- The delete fails after the file has gone. -/
theorem failed_delete_loses_file : ¬ ∀ platform (g : IntactGallery) request fails,
    LeavesNothing g.store (attempt platform fails g.store request) := by
  intro every
  have left := every samplePlatform sampleGallery (.remove 0 1) (fun n => decide (n = 2)) rfl
  have present := left.2 ⟨0, 0, 1, photoUrl "a.jpg".toList⟩ ((left.1 _).mpr List.mem_cons_self)
  revert present
  decide

/-- An upload that is reported as failed has stored one of its two photos. -/
example : ((upload samplePlatform (fun n => decide (n = 2)) sampleGallery.store 0 1
    [⟨"b.jpg".toList, [97]⟩, ⟨"c.jpg".toList, []⟩]).store.photos.map (·.id)) = [0, 1] := by decide

end GalleryFailures
