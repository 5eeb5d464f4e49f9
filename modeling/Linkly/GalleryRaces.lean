import Linkly.GalleryFiles

/-!
Calls of the gallery and of breakUp that overlap: each awaited query and each stretch of code in
between is a step of its own, and the steps of different calls come in any order. No query and no
file operation fails.
-/
namespace GalleryRaces
open Gallery GalleryFiles KeyedRows PosixPath TransitionRuns

/-- The last query of a call that deletes photos. -/
inductive Deletion where
  | row (photoId : Nat)
  | rows (photoIds : List Nat)
  | couple (coupleId : Nat)
  deriving DecidableEq, Repr

/-- The photos of a couple go with its row. -/
def Deletion.deletes : Deletion → GalleryPhoto → Bool
  | .row photoId, p => p.id = photoId
  | .rows photoIds, p => p.id ∈ photoIds
  | .couple coupleId, p => p.coupleId = coupleId

/-- Where a call is. An upload goes on as one `create` for each of its files. -/
inductive Frame where
  | uploadCheck (coupleId userId : Nat) (files : List UploadedFile)
  | write (coupleId userId : Nat) (files : List UploadedFile)
  | create (coupleId userId : Nat) (name : FileName)
  | removeFind (photoId userId : Nat)
  | batchFind (photoIds : List Nat) (userId : Nat)
  | check (coupleId userId : Nat) (photos : List GalleryPhoto) (deletion : Deletion)
  | breakCheck (coupleId userId : Nat)
  | breakFind (coupleId : Nat)
  | unlink (photos : List GalleryPhoto) (deletion : Deletion)
  | delete (photos : List GalleryPhoto) (deletion : Deletion)
  deriving DecidableEq, Repr

structure System where
  couples : List Nat
  members : List CoupleMember
  photos : List GalleryPhoto
  uploadDir : FileName → Option Bytes
  nextId : Nat
  frames : List Frame

inductive Event where
  | pair (coupleId inviterId inviteeId : Nat)
  | upload (coupleId userId : Nat) (files : List UploadedFile)
  | remove (photoId userId : Nat)
  | removeBatch (photoIds : List Nat) (userId : Nat)
  | breakUp (coupleId userId : Nat)
  | advance (index : Nat)

section Steps
variable (platform : Platform)

def initial : System := ⟨[], [], [], fun _ => none, 0, []⟩

namespace System
variable (y : System)

def isMember (coupleId userId : Nat) : Bool :=
  y.members.any fun m => m.coupleId = coupleId ∧ m.userId = userId

def push (frame : Frame) : System := { y with frames := y.frames ++ [frame] }

/-- All files are written before the first row is created. -/
def write (coupleId userId : Nat) (files : List UploadedFile) : System :=
  { y with
    uploadDir := files.foldl
      (fun dir file => writeIfAbsent dir (storedName platform file) file.buffer) y.uploadDir
    frames := y.frames ++ files.map fun file => .create coupleId userId (storedName platform file) }

/-- A row needs its couple. -/
def create (coupleId userId : Nat) (name : FileName) : System :=
  if coupleId ∈ y.couples then
    { y with
      photos := y.photos ++ [⟨y.nextId, coupleId, userId, photoUrl name⟩]
      nextId := y.nextId + 1 }
  else y

/-- An id that is not given out yet never becomes that of a later row: ids are random. -/
def batchFind (photoIds : List Nat) (userId : Nat) : System :=
  match y.photos.filter (·.id ∈ photoIds) with
  | [] => y
  | first :: rest =>
    if (first :: rest).any (·.coupleId ≠ first.coupleId) then y
    else y.push (.check first.coupleId userId (first :: rest)
      (.rows (photoIds.filter (· < y.nextId))))

def delete (deletion : Deletion) : System :=
  let kept : System := { y with photos := y.photos.filter fun p => !deletion.deletes p }
  match deletion with
  | .couple coupleId => { kept with
      couples := y.couples.filter (· ≠ coupleId)
      members := y.members.filter (·.coupleId ≠ coupleId) }
  | _ => kept

/-- The step of a frame, which has been taken out. -/
def exec : Frame → System
  | .uploadCheck coupleId userId files =>
    if y.isMember coupleId userId then y.push (.write coupleId userId files) else y
  | .write coupleId userId files => y.write platform coupleId userId files
  | .create coupleId userId name => y.create coupleId userId name
  | .removeFind photoId userId =>
    match y.photos.find? (·.id = photoId) with
    | none => y
    | some photo => y.push (.check photo.coupleId userId [photo] (.row photoId))
  | .batchFind photoIds userId => y.batchFind photoIds userId
  | .check coupleId userId photos deletion =>
    if y.isMember coupleId userId then y.push (.unlink photos deletion) else y
  | .breakCheck coupleId userId =>
    if y.isMember coupleId userId then y.push (.breakFind coupleId) else y
  | .breakFind coupleId =>
    y.push (.unlink (y.photos.filter (·.coupleId = coupleId)) (.couple coupleId))
  | .unlink photos deletion =>
    { y with uploadDir := unlinkAll y.uploadDir photos }.push (.delete photos deletion)
  | .delete _ deletion => y.delete deletion

end System

def step (y : System) : Event → Option System
  | .pair coupleId inviterId inviteeId =>
    if coupleId ∈ y.couples then none
    else some { y with
      couples := coupleId :: y.couples
      members := y.members ++ [⟨coupleId, inviterId⟩, ⟨coupleId, inviteeId⟩] }
  | .upload coupleId userId files => some (y.push (.uploadCheck coupleId userId files))
  | .remove photoId userId => some (y.push (.removeFind photoId userId))
  | .removeBatch photoIds userId =>
    if photoIds = [] then some y else some (y.push (.batchFind photoIds userId))
  | .breakUp coupleId userId => some (y.push (.breakCheck coupleId userId))
  | .advance index => do
    let frame ← y.frames[index]?
    return { y with frames := y.frames.eraseIdx index }.exec platform frame

end Steps

/-- The photos that a call has found, with the query that is to delete them. -/
def Frame.carries : Frame → Option (List GalleryPhoto × Deletion)
  | .check _ _ photos deletion | .unlink photos deletion | .delete photos deletion =>
    some (photos, deletion)
  | _ => none

/-- A call has unlinked the file of the row and is about to delete the row. -/
def Doomed (y : System) (p : GalleryPhoto) : Prop :=
  ∃ photos deletion, .delete photos deletion ∈ y.frames ∧ p ∈ photos

/-- Every row has its file unless it is doomed, and so has every row that is about to be created. -/
structure Served (y : System) : Prop where
  rows : ∀ p ∈ y.photos, (y.uploadDir (basename p.url)).isSome = true ∨ Doomed y p
  creates : ∀ coupleId userId name, .create coupleId userId name ∈ y.frames →
    (y.uploadDir name).isSome = true

/-- A file is unlinked only if no row but those of the call and doomed ones has it, and no row that
is about to be created. -/
def SparesOthers (y : System) : Event → Prop
  | .advance index => ∀ photos deletion, y.frames[index]? = some (.unlink photos deletion) →
    ∀ q ∈ photos,
      (∀ p ∈ y.photos, basename p.url = basename q.url → p ∈ photos ∨ Doomed y p) ∧
      ∀ coupleId userId, .create coupleId userId (basename q.url) ∉ y.frames
  | _ => True

/-- Every file is that of a row of an existing couple, or of a row that is about to be created. -/
def Owned (y : System) : Prop :=
  ∀ name, (y.uploadDir name).isSome = true →
    (∃ p ∈ y.photos, basename p.url = name ∧ p.coupleId ∈ y.couples) ∨
      ∃ coupleId userId, .create coupleId userId name ∈ y.frames

def Frame.creates : Frame → Option Nat
  | .create coupleId _ _ => some coupleId
  | _ => none

/-- A row is created while its couple exists and no call of breakUp has found its photos. -/
def Undisturbed (y : System) : Event → Prop
  | .advance index => ∀ coupleId ∈ (y.frames[index]?).bind Frame.creates, coupleId ∈ y.couples ∧
      ∀ f ∈ y.frames, f.carries.map Prod.snd ≠ some (.couple coupleId)
  | _ => True

instance (y : System) : (e : Event) → Decidable (Undisturbed y e)
  | .advance index => inferInstanceAs (Decidable (∀ coupleId ∈ (y.frames[index]?).bind
      Frame.creates, coupleId ∈ y.couples ∧
        ∀ f ∈ y.frames, f.carries.map Prod.snd ≠ some (.couple coupleId)))
  | .pair _ _ _ | .upload _ _ _ | .remove _ _ | .removeBatch _ _ | .breakUp _ _ => isTrue trivial

section Deleted
variable (y : System) (deletion : Deletion)

@[simp] theorem delete_photos :
    (y.delete deletion).photos = y.photos.filter fun p => !deletion.deletes p := by
  cases deletion <;> rfl

@[simp] theorem delete_upload_dir : (y.delete deletion).uploadDir = y.uploadDir := by
  cases deletion <;> rfl

@[simp] theorem delete_next_id : (y.delete deletion).nextId = y.nextId := by
  cases deletion <;> rfl

@[simp] theorem delete_frames : (y.delete deletion).frames = y.frames := by
  cases deletion <;> rfl

/-- The couple of a row that stays stays too. -/
theorem delete_couples {p : GalleryPhoto} (present : p.coupleId ∈ y.couples)
    (stays : deletion.deletes p = false) : p.coupleId ∈ (y.delete deletion).couples := by
  cases deletion with
  | row photoId => exact present
  | rows photoIds => exact present
  | couple coupleId =>
    have differs : p.coupleId ≠ coupleId := by simpa [Deletion.deletes] using stays
    exact List.mem_filter.mpr ⟨present, by simpa using differs⟩

end Deleted

section Lists

/-- All names of the files are there after they are written, and nothing is lost. -/
theorem written_iff (platform : Platform) (files : List UploadedFile)
    (dir : FileName → Option Bytes) (name : FileName) :
    ((files.foldl (fun dir file => writeIfAbsent dir (storedName platform file) file.buffer) dir)
      name).isSome = true ↔
      (dir name).isSome = true ∨ ∃ file ∈ files, name = storedName platform file := by
  induction files generalizing dir with
  | nil => simp
  | cons file files ih =>
    have one : (writeIfAbsent dir (storedName platform file) file.buffer name).isSome = true ↔
        (dir name).isSome = true ∨ name = storedName platform file := by
      constructor
      · intro present
        obtain ⟨found, is_found⟩ := Option.isSome_iff_exists.mp present
        rcases write_if_absent_cases is_found with old | ⟨same, _⟩
        · exact .inl (by simp [old])
        · exact .inr same
      · rintro (old | rfl)
        · obtain ⟨found, is_found⟩ := Option.isSome_iff_exists.mp old
          simp [write_if_absent_other is_found]
        · obtain ⟨found, is_found⟩ :=
            write_if_absent_self dir (storedName platform file) file.buffer
          simp [is_found]
    simp [ih, one, or_assoc]

theorem unlinked_iff (dir : FileName → Option Bytes) (photos : List GalleryPhoto)
    (name : FileName) : (unlinkAll dir photos name).isSome = true ↔
      (dir name).isSome = true ∧ ∀ q ∈ photos, basename q.url ≠ name := by
  rw [unlink_all_eq]
  split
  · simp_all
  · rename_i apart
    have differ : ∀ q ∈ photos, basename q.url ≠ name :=
      fun q listed same => apart ⟨q, listed, same⟩
    exact ⟨fun present => ⟨present, differ⟩, fun both => both.1⟩

end Lists

/-- A frame whose step leaves the rows and the files as they are. -/
def Frame.isQuiet : Frame → Bool
  | .write _ _ _ | .create _ _ _ | .unlink _ _ | .delete _ _ => false
  | _ => true

/-- The ids that a call names have been given out. -/
def Deletion.Given (nextId : Nat) : Deletion → Prop
  | .row photoId => photoId < nextId
  | .rows photoIds => ∀ photoId ∈ photoIds, photoId < nextId
  | .couple _ => True

/-- The photos of a call are those that its last query is to delete. -/
structure Carry (nextId : Nat) (photos : List GalleryPhoto) (deletion : Deletion) : Prop where
  deletes : ∀ p ∈ photos, deletion.deletes p = true
  below : ∀ p ∈ photos, p.id < nextId
  given : deletion.Given nextId

structure Sound (platform : Platform) (y : System) : Prop where
  named : ∀ coupleId userId name, .create coupleId userId name ∈ y.frames →
    ∃ file, name = storedName platform file
  below : ∀ p ∈ y.photos, p.id < y.nextId
  unique : ∀ p ∈ y.photos, ∀ q ∈ y.photos, p.id = q.id → p = q
  coupled : ∀ p ∈ y.photos, p.coupleId ∈ y.couples
  carried : ∀ f ∈ y.frames, ∀ photos deletion, f.carries = some (photos, deletion) →
    Carry y.nextId photos deletion

/-- No row that is there and would be deleted is missing from the photos of the call. -/
def Lists (y : System) (photos : List GalleryPhoto) (deletion : Deletion) : Prop :=
  ∀ p ∈ y.photos, deletion.deletes p = true → p ∈ photos

/-- What a quiet frame leaves: at most one more frame, which deletes what its own frame has named or
what it has just found. -/
structure Quiet (y : System) (frame : Frame) (rest : List Frame) (z : System) : Prop where
  couples : z.couples = y.couples
  photos : z.photos = y.photos
  uploadDir : z.uploadDir = y.uploadDir
  nextId : z.nextId = y.nextId
  kept : rest ⊆ z.frames
  creates : ∀ coupleId userId name, .create coupleId userId name ∈ z.frames →
    .create coupleId userId name ∈ rest
  deletes : ∀ photos deletion, .delete photos deletion ∈ z.frames → .delete photos deletion ∈ rest
  carries : ∀ f ∈ z.frames, ∀ photos deletion, f.carries = some (photos, deletion) →
    f ∈ rest ∨ frame.carries = some (photos, deletion) ∨
      (Carry y.nextId photos deletion ∧ Lists y photos deletion)

section Steps
variable {platform : Platform} {y z : System} {frame : Frame} {rest : List Frame}

theorem quiet_ended : Quiet y frame rest { y with frames := rest } :=
  ⟨rfl, rfl, rfl, rfl, List.Subset.refl _, fun _ _ _ listed => listed, fun _ _ listed => listed,
    fun _ listed _ _ _ => .inl listed⟩

theorem mem_pushed {other f : Frame} (listed : f ∈ (y.push other).frames) (differs : other ≠ f) :
    f ∈ y.frames := by
  rcases List.mem_append.mp listed with old | new
  · exact old
  · exact absurd (List.mem_singleton.mp new).symm differs

theorem quiet_pushed {other : Frame} (no_create : ∀ coupleId userId name,
      other ≠ .create coupleId userId name)
    (no_delete : ∀ photos deletion, other ≠ .delete photos deletion)
    (carries : ∀ photos deletion, other.carries = some (photos, deletion) →
      frame.carries = some (photos, deletion) ∨
        (Carry y.nextId photos deletion ∧ Lists y photos deletion)) :
    Quiet y frame rest (({ y with frames := rest } : System).push other) := by
  refine ⟨rfl, rfl, rfl, rfl, List.subset_append_left _ _, ?_, ?_, ?_⟩
  · exact fun _ _ _ listed => mem_pushed listed (no_create _ _ _)
  · exact fun _ _ listed => mem_pushed listed (no_delete _ _)
  · intro f listed photos deletion is_carried
    rcases List.mem_append.mp listed with old | new
    · exact .inl old
    · rw [List.mem_singleton.mp new] at is_carried
      exact .inr (carries photos deletion is_carried)

theorem found_row (sound : Sound platform y) {photoId : Nat} {photo : GalleryPhoto}
    (found : y.photos.find? (·.id = photoId) = some photo) :
    Carry y.nextId [photo] (.row photoId) ∧ Lists y [photo] (.row photoId) := by
  have listed := List.mem_of_find?_eq_some found
  have same : photo.id = photoId := by simpa using List.find?_some found
  have below := sound.below photo listed
  refine ⟨⟨?_, ?_, ?_⟩, ?_⟩
  · simp [Deletion.deletes, same]
  · simpa using below
  · simpa [Deletion.Given, same] using below
  · intro p mem deleted
    have id_eq : p.id = photo.id := by simpa [Deletion.deletes, same] using deleted
    simp [sound.unique p mem photo listed id_eq]

theorem found_rows (sound : Sound platform y) {photoIds : List Nat} :
    Carry y.nextId (y.photos.filter (·.id ∈ photoIds)) (.rows (photoIds.filter (· < y.nextId))) ∧
      Lists y (y.photos.filter (·.id ∈ photoIds)) (.rows (photoIds.filter (· < y.nextId))) := by
  have below := sound.below
  refine ⟨⟨?_, ?_, ?_⟩, ?_⟩
  · intro p listed
    obtain ⟨mem, named⟩ := List.mem_filter.mp listed
    simp_all [Deletion.deletes]
  · intro p listed
    exact below p (List.mem_filter.mp listed).1
  · intro photoId listed
    simpa using (List.mem_filter.mp listed).2
  · intro p mem deleted
    simp_all [Deletion.deletes]

theorem found_couple (sound : Sound platform y) {coupleId : Nat} :
    Carry y.nextId (y.photos.filter (·.coupleId = coupleId)) (.couple coupleId) ∧
      Lists y (y.photos.filter (·.coupleId = coupleId)) (.couple coupleId) := by
  refine ⟨⟨?_, ?_, trivial⟩, ?_⟩
  · intro p listed
    simpa [Deletion.deletes] using (List.mem_filter.mp listed).2
  · intro p listed
    exact sound.below p (List.mem_filter.mp listed).1
  · intro p mem deleted
    simpa [Deletion.deletes, mem] using deleted

theorem exec_quiet (sound : Sound platform y) (quiet : frame.isQuiet = true) :
    Quiet y frame rest (({ y with frames := rest } : System).exec platform frame) := by
  cases frame with
  | uploadCheck coupleId userId files =>
    simp only [System.exec]
    split
    · exact quiet_pushed (by simp) (by simp) (by simp [Frame.carries])
    · exact quiet_ended
  | removeFind photoId userId =>
    simp only [System.exec]
    split
    · exact quiet_ended
    · rename_i photo found
      refine quiet_pushed (by simp) (by simp) ?_
      rintro photos deletion ⟨⟩
      exact .inr (found_row sound found)
  | batchFind photoIds userId =>
    simp only [System.exec, System.batchFind]
    split
    · exact quiet_ended
    · rename_i first others found
      split
      · exact quiet_ended
      · refine quiet_pushed (by simp) (by simp) ?_
        rintro photos deletion ⟨⟩
        rw [← found]
        exact .inr (found_rows sound)
  | check coupleId userId photos deletion =>
    simp only [System.exec]
    split
    · exact quiet_pushed (by simp) (by simp) (fun _ _ same => .inl same)
    · exact quiet_ended
  | breakCheck coupleId userId =>
    simp only [System.exec]
    split
    · exact quiet_pushed (by simp) (by simp) (by simp [Frame.carries])
    · exact quiet_ended
  | breakFind coupleId =>
    refine quiet_pushed (by simp) (by simp) ?_
    rintro photos deletion ⟨⟩
    exact .inr (found_couple sound)
  | write _ _ _ | create _ _ _ | unlink _ _ | delete _ _ => simp [Frame.isQuiet] at quiet

end Steps

section Invariant
variable {platform : Platform} {y z : System} {e : Event}

/-- A step other than one of a frame only adds to the couples and to the frames. -/
structure Begun (y z : System) : Prop where
  couples : y.couples ⊆ z.couples
  photos : z.photos = y.photos
  uploadDir : z.uploadDir = y.uploadDir
  nextId : z.nextId = y.nextId
  kept : y.frames ⊆ z.frames
  creates : ∀ coupleId userId name, .create coupleId userId name ∈ z.frames →
    .create coupleId userId name ∈ y.frames
  deletes : ∀ photos deletion, .delete photos deletion ∈ z.frames →
    .delete photos deletion ∈ y.frames
  carries : ∀ f ∈ z.frames, ∀ photos deletion, f.carries = some (photos, deletion) → f ∈ y.frames

theorem begun_refl : Begun y y :=
  ⟨List.Subset.refl _, rfl, rfl, rfl, List.Subset.refl _, fun _ _ _ listed => listed,
    fun _ _ listed => listed, fun _ listed _ _ _ => listed⟩

theorem begun_pushed {other : Frame} (no_create : ∀ coupleId userId name,
      other ≠ .create coupleId userId name)
    (no_delete : ∀ photos deletion, other ≠ .delete photos deletion)
    (carries : other.carries = none) : Begun y (y.push other) := by
  refine ⟨List.Subset.refl _, rfl, rfl, rfl, List.subset_append_left _ _, ?_, ?_, ?_⟩
  · exact fun _ _ _ listed => mem_pushed listed (no_create _ _ _)
  · exact fun _ _ listed => mem_pushed listed (no_delete _ _)
  · intro f listed photos deletion is_carried
    rcases List.mem_append.mp listed with old | new
    · exact old
    · rw [List.mem_singleton.mp new, carries] at is_carried
      simp at is_carried

/-- Every step either begins something or runs a frame. -/
theorem step_cases (moved : step platform y e = some z) :
    Begun y z ∧ (∀ index, e ≠ .advance index) ∨ ∃ index frame, e = .advance index ∧
      y.frames[index]? = some frame ∧
      z = ({ y with frames := y.frames.eraseIdx index } : System).exec platform frame := by
  cases e with
  | pair coupleId inviterId inviteeId =>
    simp only [step, Option.ite_none_left_eq_some, Option.some.injEq] at moved
    obtain ⟨_, rfl⟩ := moved
    exact .inl ⟨{ begun_refl with couples := List.subset_cons_self _ _ }, by simp⟩
  | upload coupleId userId files =>
    obtain rfl := Option.some.inj moved
    exact .inl ⟨begun_pushed (by simp) (by simp) rfl, by simp⟩
  | remove photoId userId =>
    obtain rfl := Option.some.inj moved
    exact .inl ⟨begun_pushed (by simp) (by simp) rfl, by simp⟩
  | removeBatch photoIds userId =>
    simp only [step] at moved
    split at moved
    · obtain rfl := Option.some.inj moved
      exact .inl ⟨begun_refl, by simp⟩
    · obtain rfl := Option.some.inj moved
      exact .inl ⟨begun_pushed (by simp) (by simp) rfl, by simp⟩
  | breakUp coupleId userId =>
    obtain rfl := Option.some.inj moved
    exact .inl ⟨begun_pushed (by simp) (by simp) rfl, by simp⟩
  | advance index =>
    simp only [step, bind, Option.bind_eq_some_iff, pure, Option.some.injEq] at moved
    obtain ⟨frame, found, rfl⟩ := moved
    exact .inr ⟨index, frame, rfl, found, rfl⟩

theorem carry_later {n m : Nat} (le : n ≤ m) {photos : List GalleryPhoto} {deletion : Deletion}
    (carry : Carry n photos deletion) : Carry m photos deletion := by
  refine ⟨carry.deletes, fun p listed => Nat.lt_of_lt_of_le (carry.below p listed) le, ?_⟩
  have given := carry.given
  cases deletion with
  | row photoId => exact Nat.lt_of_lt_of_le given le
  | rows photoIds => exact fun photoId listed => Nat.lt_of_lt_of_le (given photoId listed) le
  | couple coupleId => trivial

theorem sound_begun (begun : Begun y z) (sound : Sound platform y) : Sound platform z where
  named coupleId userId name listed := sound.named _ _ _ (begun.creates _ _ _ listed)
  below := by
    rw [begun.photos, begun.nextId]
    exact sound.below
  unique := by
    rw [begun.photos]
    exact sound.unique
  coupled p listed := by
    rw [begun.photos] at listed
    exact begun.couples (sound.coupled p listed)
  carried f listed photos deletion is_carried := by
    rw [begun.nextId]
    exact sound.carried f (begun.carries f listed photos deletion is_carried) photos deletion
      is_carried

theorem sound_quiet {frame : Frame} {rest : List Frame} (kept : ∀ f ∈ rest, f ∈ y.frames)
    (listed : frame ∈ y.frames) (quiet : Quiet y frame rest z) (sound : Sound platform y) :
    Sound platform z := by
  constructor
  · intro coupleId userId name pending
    exact sound.named _ _ _ (kept _ (quiet.creates _ _ _ pending))
  · rw [quiet.photos, quiet.nextId]
    exact sound.below
  · rw [quiet.photos]
    exact sound.unique
  · rw [quiet.photos, quiet.couples]
    exact sound.coupled
  · intro f pending photos deletion is_carried
    rw [quiet.nextId]
    rcases quiet.carries f pending photos deletion is_carried with old | own | new
    · exact sound.carried f (kept f old) photos deletion is_carried
    · exact sound.carried frame listed photos deletion own
    · exact new.1

theorem sound_write {coupleId userId : Nat} {files : List UploadedFile} {rest : List Frame}
    (kept : ∀ f ∈ rest, f ∈ y.frames) (sound : Sound platform y) :
    Sound platform (({ y with frames := rest } : System).write platform coupleId userId files) := by
  refine ⟨?_, sound.below, sound.unique, sound.coupled, ?_⟩
  · intro other otherUser name pending
    rcases List.mem_append.mp pending with old | new
    · exact sound.named _ _ _ (kept _ old)
    · obtain ⟨file, _, same⟩ := List.mem_map.mp new
      simp only [Frame.create.injEq] at same
      exact ⟨file, same.2.2.symm⟩
  · intro f pending photos deletion is_carried
    rcases List.mem_append.mp pending with old | new
    · exact sound.carried f (kept f old) photos deletion is_carried
    · obtain ⟨file, _, rfl⟩ := List.mem_map.mp new
      simp [Frame.carries] at is_carried

theorem sound_create {coupleId userId : Nat} {name : FileName} {rest : List Frame}
    (kept : ∀ f ∈ rest, f ∈ y.frames) (sound : Sound platform y) :
    Sound platform (({ y with frames := rest } : System).create coupleId userId name) := by
  simp only [System.create]
  split
  · rename_i present
    refine ⟨fun _ _ _ pending => sound.named _ _ _ (kept _ pending), ?_, ?_, ?_, ?_⟩
    · intro p listed
      rcases List.mem_append.mp listed with old | new
      · exact Nat.lt_succ_of_lt (sound.below p old)
      · rw [List.mem_singleton.mp new]
        exact Nat.lt_succ_self _
    -- the id of the new row is above those of all others
    · intro p listed q listed_q same
      rcases List.mem_append.mp listed with old | new <;>
        rcases List.mem_append.mp listed_q with old_q | new_q
      · exact sound.unique p old q old_q same
      · rw [List.mem_singleton.mp new_q] at same
        have := sound.below p old
        simp only at same
        omega
      · rw [List.mem_singleton.mp new] at same
        have := sound.below q old_q
        simp only at same
        omega
      · rw [List.mem_singleton.mp new, List.mem_singleton.mp new_q]
    · intro p listed
      rcases List.mem_append.mp listed with old | new
      · exact sound.coupled p old
      · rw [List.mem_singleton.mp new]
        exact present
    · intro f pending photos deletion is_carried
      exact carry_later (Nat.le_succ _) (sound.carried f (kept f pending) photos deletion
        is_carried)
  · exact ⟨fun _ _ _ pending => sound.named _ _ _ (kept _ pending), sound.below, sound.unique,
      sound.coupled, fun f pending => sound.carried f (kept f pending)⟩

theorem sound_unlink {photos : List GalleryPhoto} {deletion : Deletion} {rest : List Frame}
    (kept : ∀ f ∈ rest, f ∈ y.frames) (listed : .unlink photos deletion ∈ y.frames)
    (sound : Sound platform y) : Sound platform
      (({ y with frames := rest } : System).exec platform (.unlink photos deletion)) := by
  refine ⟨?_, sound.below, sound.unique, sound.coupled, ?_⟩
  · intro coupleId userId name pending
    rcases List.mem_append.mp pending with old | new
    · exact sound.named _ _ _ (kept _ old)
    · simp at new
  · intro f pending others other is_carried
    rcases List.mem_append.mp pending with old | new
    · exact sound.carried f (kept f old) others other is_carried
    · rw [List.mem_singleton.mp new] at is_carried
      exact sound.carried _ listed others other is_carried

theorem sound_delete {deletion : Deletion} {rest : List Frame} (kept : ∀ f ∈ rest, f ∈ y.frames)
    (sound : Sound platform y) :
    Sound platform (({ y with frames := rest } : System).delete deletion) := by
  have stays : ∀ p ∈ y.photos.filter fun p => !deletion.deletes p,
      p ∈ y.photos ∧ deletion.deletes p = false :=
    fun p listed => by simpa using List.mem_filter.mp listed
  constructor
  · rw [delete_frames]
    exact fun _ _ _ pending => sound.named _ _ _ (kept _ pending)
  · rw [delete_photos, delete_next_id]
    exact fun p listed => sound.below p (stays p listed).1
  · rw [delete_photos]
    exact fun p listed q listed_q => sound.unique p (stays p listed).1 q (stays q listed_q).1
  · rw [delete_photos]
    intro p listed
    obtain ⟨mem, stands⟩ := stays p listed
    exact delete_couples _ deletion (sound.coupled p mem) stands
  · rw [delete_frames, delete_next_id]
    exact fun f pending => sound.carried f (kept f pending)

theorem sound_advance {index : Nat} {frame : Frame} (found : y.frames[index]? = some frame)
    (sound : Sound platform y) : Sound platform
      (({ y with frames := y.frames.eraseIdx index } : System).exec platform frame) := by
  have listed := List.mem_of_getElem? found
  have kept : ∀ f ∈ y.frames.eraseIdx index, f ∈ y.frames := fun _ => List.mem_of_mem_eraseIdx
  cases is_quiet : frame.isQuiet with
  | true => exact sound_quiet kept listed (exec_quiet sound is_quiet) sound
  | false =>
    cases frame with
    | write coupleId userId files => exact sound_write kept sound
    | create coupleId userId name => exact sound_create kept sound
    | unlink photos deletion => exact sound_unlink kept listed sound
    | delete photos deletion => exact sound_delete kept sound
    | _ => simp [Frame.isQuiet] at is_quiet

theorem sound_step (moved : step platform y e = some z) (sound : Sound platform y) :
    Sound platform z := by
  rcases step_cases moved with ⟨begun, _⟩ | ⟨index, frame, _, found, rfl⟩
  · exact sound_begun begun sound
  · exact sound_advance found sound

theorem sound_initial : Sound platform initial := by
  constructor <;> simp [initial]

theorem stored_basename {name : FileName} (named : ∃ file, name = storedName platform file) :
    basename (photoUrl name) = name := by
  obtain ⟨file, rfl⟩ := named
  exact basename_photo_url (stored_name_stored_as platform file)

/-- As long as files and doomed rows stay so, only new rows and frames need their files. -/
theorem served_keeps (served : Served y)
    (rows : ∀ p ∈ z.photos, p ∈ y.photos ∨ (z.uploadDir (basename p.url)).isSome = true)
    (files : ∀ name, (y.uploadDir name).isSome = true → (z.uploadDir name).isSome = true)
    (creates : ∀ coupleId userId name, .create coupleId userId name ∈ z.frames →
      .create coupleId userId name ∈ y.frames ∨ (z.uploadDir name).isSome = true)
    (dooms : ∀ p ∈ z.photos, Doomed y p → Doomed z p) : Served z := by
  constructor
  · intro p listed
    rcases rows p listed with old | present
    · rcases served.rows p old with present | doomed
      · exact .inl (files _ present)
      · exact .inr (dooms p listed doomed)
    · exact .inl present
  · intro coupleId userId name listed
    rcases creates coupleId userId name listed with old | present
    · exact files name (served.creates _ _ _ old)
    · exact present

theorem served_unlink {index : Nat} {photos : List GalleryPhoto} {deletion : Deletion}
    (found : y.frames[index]? = some (.unlink photos deletion)) (served : Served y) :
    Served (({ y with frames := y.frames.eraseIdx index } : System).exec platform
      (.unlink photos deletion)) ↔ SparesOthers y (.advance index) := by
  have frames := mem_taken_iff found
  have doomed_iff (p : GalleryPhoto) : Doomed (({ y with frames := y.frames.eraseIdx index } :
      System).exec platform (.unlink photos deletion)) p ↔ p ∈ photos ∨ Doomed y p := by
    constructor
    · rintro ⟨others, other, listed, mem⟩
      rcases List.mem_append.mp listed with old | new
      · exact .inr ⟨others, other, (frames _).mpr (.inr old), mem⟩
      · simp only [List.mem_singleton, Frame.delete.injEq] at new
        exact .inl (new.1 ▸ mem)
    · rintro (mem | ⟨others, other, listed, mem⟩)
      · exact ⟨photos, deletion, List.mem_append_right _ (List.mem_singleton_self _), mem⟩
      · have old := ((frames _).mp listed).resolve_left (by simp)
        exact ⟨others, other, List.mem_append_left _ old, mem⟩
  have creates_iff (coupleId userId : Nat) (name : FileName) :
      .create coupleId userId name ∈ (({ y with frames := y.frames.eraseIdx index } :
        System).exec platform (.unlink photos deletion)).frames ↔
      .create coupleId userId name ∈ y.frames := by
    simp [System.exec, System.push, frames]
  have files_iff (name : FileName) : ((({ y with frames := y.frames.eraseIdx index } :
      System).exec platform (.unlink photos deletion)).uploadDir name).isSome = true ↔
      (y.uploadDir name).isSome = true ∧ ∀ q ∈ photos, basename q.url ≠ name :=
    unlinked_iff y.uploadDir photos name
  have same_rows : (({ y with frames := y.frames.eraseIdx index } : System).exec platform
      (.unlink photos deletion)).photos = y.photos := rfl
  constructor
  · intro after others other at_index q listed
    obtain ⟨rfl, rfl⟩ : photos = others ∧ deletion = other := by simpa [found] using at_index
    constructor
    · intro p mem same
      rcases after.rows p mem with present | doomed
      · exact absurd same.symm (((files_iff _).mp present).2 q listed)
      · exact (doomed_iff p).mp doomed
    · intro coupleId userId pending
      have present := after.creates _ _ _ ((creates_iff _ _ _).mpr pending)
      exact absurd rfl (((files_iff _).mp present).2 q listed)
  · intro spares
    have apart := spares photos deletion found
    constructor
    · intro p mem
      rw [same_rows] at mem
      rw [files_iff, doomed_iff]
      by_cases shared : ∃ q ∈ photos, basename q.url = basename p.url
      · obtain ⟨q, listed, same⟩ := shared
        exact .inr ((apart q listed).1 p mem same.symm)
      · rcases served.rows p mem with present | doomed
        · exact .inl ⟨present, fun q listed same => shared ⟨q, listed, same⟩⟩
        · exact .inr (.inr doomed)
    · intro coupleId userId name listed
      have pending := (creates_iff _ _ _).mp listed
      rw [files_iff]
      refine ⟨served.creates _ _ _ pending, ?_⟩
      rintro q mem rfl
      exact (apart q mem).2 coupleId userId pending

theorem served_quiet {index : Nat} {frame : Frame} (found : y.frames[index]? = some frame)
    (is_quiet : frame.isQuiet = true) (quiet : Quiet y frame (y.frames.eraseIdx index) z)
    (served : Served y) : Served z := by
  refine served_keeps served ?_ ?_ ?_ ?_
  · rw [quiet.photos]
    exact fun p listed => .inl listed
  · rw [quiet.uploadDir]
    exact fun _ present => present
  · exact fun _ _ _ pending =>
      .inl ((mem_taken_iff found _).mpr (.inr (quiet.creates _ _ _ pending)))
  · rintro p _ ⟨photos, deletion, listed, mem⟩
    rcases (mem_taken_iff found _).mp listed with rfl | old
    · simp [Frame.isQuiet] at is_quiet
    · exact ⟨photos, deletion, quiet.kept old, mem⟩

/-- A step that deletes nothing leaves the doomed rows to the other calls. -/
theorem doomed_elsewhere {index : Nat} {frame : Frame} (found : y.frames[index]? = some frame)
    (no_delete : ∀ photos deletion, frame ≠ .delete photos deletion) {p : GalleryPhoto}
    (doomed : Doomed y p) : ∃ photos deletion,
      .delete photos deletion ∈ y.frames.eraseIdx index ∧ p ∈ photos := by
  obtain ⟨photos, deletion, listed, mem⟩ := doomed
  have old := ((mem_taken_iff found _).mp listed).resolve_left (no_delete _ _).symm
  exact ⟨photos, deletion, old, mem⟩

theorem served_write {index coupleId userId : Nat} {files : List UploadedFile}
    (found : y.frames[index]? = some (.write coupleId userId files)) (served : Served y) :
    Served (({ y with frames := y.frames.eraseIdx index } : System).write platform coupleId userId
      files) := by
  refine served_keeps served (fun p listed => .inl listed) ?_ ?_ ?_
  · intro name present
    exact (written_iff platform files y.uploadDir name).mpr (.inl present)
  · intro other otherUser name pending
    rcases List.mem_append.mp pending with old | new
    · exact .inl ((mem_taken_iff found _).mpr (.inr old))
    · obtain ⟨file, mem, same⟩ := List.mem_map.mp new
      simp only [Frame.create.injEq] at same
      exact .inr ((written_iff platform files y.uploadDir name).mpr
        (.inr ⟨file, mem, same.2.2.symm⟩))
  · intro p _ doomed
    obtain ⟨photos, deletion, old, mem⟩ := doomed_elsewhere found (by simp) doomed
    exact ⟨photos, deletion, List.mem_append_left _ old, mem⟩

theorem served_create {index coupleId userId : Nat} {name : FileName}
    (found : y.frames[index]? = some (.create coupleId userId name)) (sound : Sound platform y)
    (served : Served y) : Served
      (({ y with frames := y.frames.eraseIdx index } : System).create coupleId userId name) := by
  have listed := List.mem_of_getElem? found
  have present := served.creates _ _ _ listed
  have kept : ∀ f ∈ y.frames.eraseIdx index, f ∈ y.frames := fun _ => List.mem_of_mem_eraseIdx
  simp only [System.create]
  split
  · refine served_keeps served ?_ (fun _ present => present)
      (fun _ _ _ pending => .inl (kept _ pending))
      (fun p _ doomed => doomed_elsewhere found (by simp) doomed)
    intro p mem
    rcases List.mem_append.mp mem with old | new
    · exact .inl old
    · rw [List.mem_singleton.mp new, stored_basename (sound.named _ _ _ listed)]
      exact .inr present
  · exact served_keeps served (fun p mem => .inl mem) (fun _ present => present)
      (fun _ _ _ pending => .inl (kept _ pending))
      (fun p _ doomed => doomed_elsewhere found (by simp) doomed)

theorem served_delete {index : Nat} {photos : List GalleryPhoto} {deletion : Deletion}
    (found : y.frames[index]? = some (.delete photos deletion)) (sound : Sound platform y)
    (served : Served y) :
    Served (({ y with frames := y.frames.eraseIdx index } : System).delete deletion) := by
  refine served_keeps served ?_ ?_ ?_ ?_
  · rw [delete_photos]
    exact fun p listed => .inl (List.mem_filter.mp listed).1
  · rw [delete_upload_dir]
    exact fun _ present => present
  · rw [delete_frames]
    exact fun _ _ _ pending => .inl (List.mem_of_mem_eraseIdx pending)
  · rintro p listed ⟨others, other, framed, mem⟩
    rw [delete_photos] at listed
    rcases (mem_taken_iff found _).mp framed with same | old
    · simp only [Frame.delete.injEq] at same
      have carry := sound.carried _ (List.mem_of_getElem? found) photos deletion rfl
      have deleted := carry.deletes p (same.1 ▸ mem)
      simp [deleted] at listed
    · exact ⟨others, other, by rwa [delete_frames], mem⟩

/-- Only a step that unlinks files may leave a row without its file. -/
theorem served_advance {index : Nat} {frame : Frame} (found : y.frames[index]? = some frame)
    (sound : Sound platform y) (served : Served y)
    (no_unlink : ∀ photos deletion, frame ≠ .unlink photos deletion) :
    Served (({ y with frames := y.frames.eraseIdx index } : System).exec platform frame) := by
  cases is_quiet : frame.isQuiet with
  | true => exact served_quiet found is_quiet (exec_quiet sound is_quiet) served
  | false =>
    cases frame with
    | write coupleId userId files => exact served_write found served
    | create coupleId userId name => exact served_create found sound served
    | delete photos deletion => exact served_delete found sound served
    | unlink photos deletion => exact absurd rfl (no_unlink photos deletion)
    | _ => simp [Frame.isQuiet] at is_quiet

theorem served_step_iff (moved : step platform y e = some z) (sound : Sound platform y)
    (served : Served y) : Served z ↔ SparesOthers y e := by
  rcases step_cases moved with ⟨begun, other⟩ | ⟨index, frame, rfl, found, rfl⟩
  · have keeps : Served z := by
      refine served_keeps served ?_ ?_ (fun _ _ _ listed => .inl (begun.creates _ _ _ listed)) ?_
      · rw [begun.photos]
        exact fun p listed => .inl listed
      · rw [begun.uploadDir]
        exact fun _ present => present
      · rintro p _ ⟨photos, deletion, listed, mem⟩
        exact ⟨photos, deletion, begun.kept listed, mem⟩
    have spares : SparesOthers y e := by
      cases e with
      | advance index => exact absurd rfl (other index)
      | _ => trivial
    exact ⟨fun _ => spares, fun _ => keeps⟩
  · by_cases unlinks : ∃ photos deletion, frame = .unlink photos deletion
    · obtain ⟨photos, deletion, rfl⟩ := unlinks
      exact served_unlink found served
    · have keeps := served_advance found sound served
        fun photos deletion same => unlinks ⟨photos, deletion, same⟩
      have spares : SparesOthers y (.advance index) := by
        intro photos deletion at_index
        rw [found] at at_index
        exact absurd ⟨photos, deletion, Option.some.inj at_index⟩ unlinks
      exact ⟨fun _ => spares, fun _ => keeps⟩

/-- However the calls overlap, every row keeps its file until its own deletion exactly if each
deletion spares the files of the other rows and of uploads in progress. -/
theorem files_served_iff_spared (platform : Platform) (es : List Event) :
    EveryState (step platform) Served initial es ↔
      EachStep (step platform) SparesOthers initial es := by
  apply every_state_iff_each_step (Sound platform)
  · exact fun _ _ _ _ moved sound => sound_step moved sound
  · exact fun _ _ _ _ moved sound served => served_step_iff moved sound served
  · exact sound_initial
  · constructor <;> simp [initial]

/-- Calls find all rows that they delete, and a file has a row that stays or is to be created. -/
structure Followed (y : System) : Prop where
  lists : ∀ f ∈ y.frames, ∀ photos deletion, f.carries = some (photos, deletion) →
    Lists y photos deletion
  owned : ∀ name, (y.uploadDir name).isSome = true →
    (∃ p ∈ y.photos, basename p.url = name ∧ ¬ Doomed y p) ∨
      ∃ coupleId userId, .create coupleId userId name ∈ y.frames

theorem followed_begun (begun : Begun y z) (followed : Followed y) : Followed z where
  lists f listed photos deletion is_carried p mem deleted := by
    rw [begun.photos] at mem
    exact followed.lists f (begun.carries f listed photos deletion is_carried) photos deletion
      is_carried p mem deleted
  owned name present := by
    rw [begun.uploadDir] at present
    rcases followed.owned name present with ⟨p, mem, same, stays⟩ | ⟨coupleId, userId, pending⟩
    · refine .inl ⟨p, by rwa [begun.photos], same, ?_⟩
      rintro ⟨photos, deletion, listed, doomed⟩
      exact stays ⟨photos, deletion, begun.deletes _ _ listed, doomed⟩
    · exact .inr ⟨coupleId, userId, begun.kept pending⟩

theorem followed_quiet {index : Nat} {frame : Frame} (found : y.frames[index]? = some frame)
    (is_quiet : frame.isQuiet = true) (quiet : Quiet y frame (y.frames.eraseIdx index) z)
    (followed : Followed y) : Followed z where
  lists f listed photos deletion is_carried p mem deleted := by
    rw [quiet.photos] at mem
    rcases quiet.carries f listed photos deletion is_carried with old | own | new
    · exact followed.lists f (List.mem_of_mem_eraseIdx old) photos deletion is_carried p mem deleted
    · exact followed.lists frame (List.mem_of_getElem? found) photos deletion own p mem deleted
    · exact new.2 p mem deleted
  owned name present := by
    rw [quiet.uploadDir] at present
    rcases followed.owned name present with ⟨p, mem, same, stays⟩ | ⟨coupleId, userId, pending⟩
    · refine .inl ⟨p, by rwa [quiet.photos], same, ?_⟩
      rintro ⟨photos, deletion, listed, doomed⟩
      exact stays ⟨photos, deletion, (mem_taken_iff found _).mpr (.inr (quiet.deletes _ _ listed)),
        doomed⟩
    · rcases (mem_taken_iff found _).mp pending with rfl | old
      · simp [Frame.isQuiet] at is_quiet
      · exact .inr ⟨coupleId, userId, quiet.kept old⟩

/-- A new row is none that an open call is to delete. -/
theorem spared_new_row (sound : Sound platform y) {coupleId userId : Nat} {name : FileName}
    (alone : ∀ f ∈ y.frames, f.carries.map Prod.snd ≠ some (.couple coupleId)) {f : Frame}
    (listed : f ∈ y.frames) {photos : List GalleryPhoto} {deletion : Deletion}
    (is_carried : f.carries = some (photos, deletion)) :
    deletion.deletes ⟨y.nextId, coupleId, userId, photoUrl name⟩ = false := by
  have given := (sound.carried f listed photos deletion is_carried).given
  cases deletion with
  | row photoId =>
    have below : photoId < y.nextId := given
    simp only [Deletion.deletes, decide_eq_false_iff_not]
    omega
  | rows photoIds =>
    simp only [Deletion.deletes, decide_eq_false_iff_not]
    intro mem
    exact Nat.lt_irrefl _ (given y.nextId mem)
  | couple other =>
    simp only [Deletion.deletes, decide_eq_false_iff_not]
    rintro rfl
    exact alone f listed (by rw [is_carried]; rfl)

theorem followed_create {index coupleId userId : Nat} {name : FileName}
    (found : y.frames[index]? = some (.create coupleId userId name)) (sound : Sound platform y)
    (met : Undisturbed y (.advance index)) (followed : Followed y) :
    Followed (({ y with frames := y.frames.eraseIdx index } : System).exec platform
      (.create coupleId userId name)) := by
  obtain ⟨present, alone⟩ := met coupleId (by rw [found]; rfl)
  have frames := mem_taken_iff found
  have rest : ∀ f, f ∈ y.frames.eraseIdx index → f ∈ y.frames := fun _ => List.mem_of_mem_eraseIdx
  simp only [System.exec, System.create, present, if_true]
  constructor
  · intro f listed photos deletion is_carried p mem deleted
    rcases List.mem_append.mp mem with old | new
    · exact followed.lists f (rest f listed) photos deletion is_carried p old deleted
    · have spared : deletion.deletes ⟨y.nextId, coupleId, userId, photoUrl name⟩ = false :=
        spared_new_row sound alone (rest f listed) is_carried
      rw [List.mem_singleton.mp new, spared] at deleted
      simp at deleted
  · intro other exists_file
    rcases followed.owned other exists_file with ⟨p, mem, same, stays⟩ | ⟨c, u, pending⟩
    · refine .inl ⟨p, List.mem_append_left _ mem, same, ?_⟩
      rintro ⟨photos, deletion, listed, doomed⟩
      exact stays ⟨photos, deletion, rest _ listed, doomed⟩
    · rcases (frames _).mp pending with own | old
      · simp only [Frame.create.injEq] at own
        refine .inl ⟨_, List.mem_append_right _ (List.mem_singleton_self _), ?_, ?_⟩
        · rw [own.2.2]
          exact stored_basename (sound.named _ _ _ (List.mem_of_getElem? found))
        · rintro ⟨photos, deletion, listed, doomed⟩
          have below := (sound.carried _ (rest _ listed) photos deletion rfl).below _ doomed
          exact Nat.lt_irrefl _ below
      · exact .inr ⟨c, u, old⟩

theorem followed_write {index coupleId userId : Nat} {files : List UploadedFile}
    (found : y.frames[index]? = some (.write coupleId userId files)) (followed : Followed y) :
    Followed (({ y with frames := y.frames.eraseIdx index } : System).write platform coupleId
      userId files) := by
  have kept : ∀ f ∈ y.frames.eraseIdx index, f ∈ y.frames := fun _ => List.mem_of_mem_eraseIdx
  constructor
  · intro f listed photos deletion is_carried
    rcases List.mem_append.mp listed with old | new
    · exact followed.lists f (kept f old) photos deletion is_carried
    · obtain ⟨file, _, rfl⟩ := List.mem_map.mp new
      simp [Frame.carries] at is_carried
  · intro name present
    rcases (written_iff platform files y.uploadDir name).mp present with old | ⟨file, mem, rfl⟩
    · rcases followed.owned name old with ⟨p, mem, same, stays⟩ | ⟨c, u, pending⟩
      · refine .inl ⟨p, mem, same, ?_⟩
        rintro ⟨photos, deletion, listed, doomed⟩
        rcases List.mem_append.mp listed with earlier | new
        · exact stays ⟨photos, deletion, kept _ earlier, doomed⟩
        · simp at new
      · have old := ((mem_taken_iff found _).mp pending).resolve_left (by simp)
        exact .inr ⟨c, u, List.mem_append_left _ old⟩
    · exact .inr ⟨coupleId, userId, List.mem_append_right _ (List.mem_map.mpr ⟨file, mem, rfl⟩)⟩

theorem followed_unlink {index : Nat} {photos : List GalleryPhoto} {deletion : Deletion}
    (found : y.frames[index]? = some (.unlink photos deletion)) (followed : Followed y) :
    Followed (({ y with frames := y.frames.eraseIdx index } : System).exec platform
      (.unlink photos deletion)) := by
  have kept : ∀ f ∈ y.frames.eraseIdx index, f ∈ y.frames := fun _ => List.mem_of_mem_eraseIdx
  constructor
  · intro f listed others other is_carried
    rcases List.mem_append.mp listed with old | new
    · exact followed.lists f (kept f old) others other is_carried
    · rw [List.mem_singleton.mp new] at is_carried
      exact followed.lists _ (List.mem_of_getElem? found) others other is_carried
  · intro name present
    obtain ⟨before, differ⟩ := (unlinked_iff y.uploadDir photos name).mp present
    rcases followed.owned name before with ⟨p, mem, same, stays⟩ | ⟨c, u, pending⟩
    · refine .inl ⟨p, mem, same, ?_⟩
      rintro ⟨others, other, listed, doomed⟩
      rcases List.mem_append.mp listed with old | new
      · exact stays ⟨others, other, kept _ old, doomed⟩
      · simp only [List.mem_singleton, Frame.delete.injEq] at new
        exact differ p (new.1 ▸ doomed) same
    · have old := ((mem_taken_iff found _).mp pending).resolve_left (by simp)
      exact .inr ⟨c, u, List.mem_append_left _ old⟩

/-- The query deletes no row but those that the call has found, and these were doomed. -/
theorem followed_delete {index : Nat} {photos : List GalleryPhoto} {deletion : Deletion}
    (found : y.frames[index]? = some (.delete photos deletion)) (followed : Followed y) :
    Followed (({ y with frames := y.frames.eraseIdx index } : System).delete deletion) := by
  have at_index := List.mem_of_getElem? found
  have kept : ∀ f ∈ y.frames.eraseIdx index, f ∈ y.frames := fun _ => List.mem_of_mem_eraseIdx
  constructor
  · rw [delete_frames]
    intro f listed others other is_carried p mem
    rw [delete_photos] at mem
    exact followed.lists f (kept f listed) others other is_carried p (List.mem_filter.mp mem).1
  · rw [delete_upload_dir, delete_frames, delete_photos]
    intro name present
    rcases followed.owned name present with ⟨p, mem, same, stays⟩ | ⟨c, u, pending⟩
    · have spared : deletion.deletes p = false := by
        by_contra deleted
        have found_too := followed.lists _ at_index photos deletion rfl p mem
          (by simpa using deleted)
        exact stays ⟨photos, deletion, at_index, found_too⟩
      refine .inl ⟨p, List.mem_filter.mpr ⟨mem, by simp [spared]⟩, same, ?_⟩
      rintro ⟨others, other, listed, doomed⟩
      rw [delete_frames] at listed
      exact stays ⟨others, other, kept _ listed, doomed⟩
    · exact .inr ⟨c, u, ((mem_taken_iff found _).mp pending).resolve_left (by simp)⟩

theorem followed_advance {index : Nat} {frame : Frame} (found : y.frames[index]? = some frame)
    (sound : Sound platform y) (met : Undisturbed y (.advance index)) (followed : Followed y) :
    Followed (({ y with frames := y.frames.eraseIdx index } : System).exec platform frame) := by
  cases is_quiet : frame.isQuiet with
  | true => exact followed_quiet found is_quiet (exec_quiet sound is_quiet) followed
  | false =>
    cases frame with
    | write coupleId userId files => exact followed_write found followed
    | create coupleId userId name => exact followed_create found sound met followed
    | unlink photos deletion => exact followed_unlink found followed
    | delete photos deletion => exact followed_delete found followed
    | _ => simp [Frame.isQuiet] at is_quiet

theorem followed_step (moved : step platform y e = some z) (met : Undisturbed y e)
    (sound : Sound platform y) (followed : Followed y) : Followed z := by
  rcases step_cases moved with ⟨begun, _⟩ | ⟨index, frame, rfl, found, rfl⟩
  · exact followed_begun begun followed
  · exact followed_advance found sound met followed

theorem followed_owned (sound : Sound platform y) (followed : Followed y) : Owned y := by
  intro name present
  rcases followed.owned name present with ⟨p, mem, same, _⟩ | pending
  · exact .inl ⟨p, mem, same, sound.coupled p mem⟩
  · exact .inr pending

/-- As long as no row is created while its couple is being deleted, no file is left behind. -/
theorem undisturbed_files_owned (platform : Platform) (es : List Event)
    (undisturbed : EachStep (step platform) Undisturbed initial es) :
    EveryState (step platform) Owned initial es := by
  refine every_state_of_guarded (fun y => Sound platform y ∧ Followed y) ?_ ?_ undisturbed ?_
  · exact fun _ _ _ moved met both =>
      ⟨sound_step moved both.1, followed_step moved met both.1 both.2⟩
  · exact fun _ both => followed_owned both.1 both.2
  · exact ⟨sound_initial, by constructor <;> simp [initial]⟩

end Invariant

section Sample

def sampleFile : UploadedFile := ⟨"sea.jpg".toList, [97]⟩

/-- Two users pair up, and one of them uploads a photo. The other one's breakUp passes its check
    before the file is written, and finds the photo once it has a row. -/
def overlapping : List Event :=
  [.pair 7 1 2, .upload 7 1 [sampleFile], .advance 0, .breakUp 7 2, .advance 1, .advance 0,
    .advance 1, .advance 0, .advance 0, .advance 0]

/-- What is left: frames, rows, and whether the photo has a file. -/
def left (es : List Event) : Option (Nat × Nat × Bool) :=
  (run (step samplePlatform) initial es).map fun y =>
    (y.frames.length, y.photos.length, (y.uploadDir (storedName samplePlatform sampleFile)).isSome)

theorem break_up_leaves_no_file : EveryState (step samplePlatform) Owned initial overlapping ∧
    left (overlapping.take 7) = some (1, 1, true) ∧ left overlapping = some (0, 0, false) :=
  ⟨undisturbed_files_owned samplePlatform _ (by decide +kernel), by decide +kernel,
    by decide +kernel⟩

/-- An upload that has passed its check writes its file after the photos have been unlinked, and its
row has no couple any more: the file stays for good. -/
example : left (.pair 7 1 2 :: .upload 7 1 [sampleFile] :: .advance 0 :: .breakUp 7 2 ::
    [.advance 1, .advance 1, .advance 1, .advance 0, .advance 0, .advance 0]) =
    some (0, 0, true) := by decide +kernel

end Sample

end GalleryRaces
