import Linkly.Gallery
import Linkly.KeyedRows
import Linkly.TransitionRuns
import Mathlib.Data.Bool.AllAny

/-!
The files behind the photo rows. Upload names a file after its contents, so that rows with equal
contents share one file, also across couples; each delete path unlinks the file of every row it
removes. The rows that stay keep their files exactly when none of them shares one with a row that
goes.
-/
namespace GalleryFiles
open Gallery KeyedRows PosixPath TransitionRuns

/-- Every row has its file, and the file holds the bytes that were uploaded for the row. -/
def FilesIntact (s : Store) : Prop :=
  ∀ p ∈ s.photos, ∀ bytes, (p.id, bytes) ∈ s.received →
    s.uploadDir (basename p.url) = some bytes

/-- The rows that a call asks to delete and may delete. -/
def removedBy (s : Store) : Call → List GalleryPhoto
  | .upload _ _ _ => []
  | .remove photoId userId =>
    (s.photos.find? (·.id = photoId)).toList.filter fun photo => s.isMember photo.coupleId userId
  | .removeBatch photoIds userId =>
    match s.photos.filter (·.id ∈ photoIds) with
    | [] => []
    | first :: rest =>
      if (∀ p ∈ rest, p.coupleId = first.coupleId) ∧ s.isMember first.coupleId userId then
        first :: rest
      else []
  | .breakUp coupleId userId =>
    if s.isMember coupleId userId then s.photos.filter (·.coupleId = coupleId) else []

/-- No row that stays has its file in common with a row that the call deletes. -/
def SharesNoFile (s : Store) (call : Call) : Prop :=
  ∀ q ∈ removedBy s call, ∀ p ∈ s.photos, p ∉ removedBy s call → basename p.url ≠ basename q.url

instance (s : Store) (call : Call) : Decidable (SharesNoFile s call) :=
  inferInstanceAs (Decidable (∀ q ∈ removedBy s call, ∀ p ∈ s.photos,
    p ∉ removedBy s call → basename p.url ≠ basename q.url))

def filesOf : Call → List UploadedFile
  | .upload _ _ files => files
  | _ => []

def uploadedContents (calls : List Call) : List Bytes := (calls.flatMap filesOf).map (·.buffer)

/-- The assumption on the hash: different contents that occur have different digests. -/
def DigestsDiffer (platform : Platform) (contents : List Bytes) : Prop :=
  ∀ a ∈ contents, ∀ b ∈ contents, platform.sha256Hex a = platform.sha256Hex b → a = b

instance (platform : Platform) (contents : List Bytes) :
    Decidable (DigestsDiffer platform contents) :=
  inferInstanceAs (Decidable (∀ a ∈ contents, ∀ b ∈ contents,
    platform.sha256Hex a = platform.sha256Hex b → a = b))

def StoredAs (platform : Platform) (bytes : Bytes) (name : FileName) : Prop :=
  ∃ ext, '/' ∉ ext ∧ name = platform.sha256Hex bytes ++ ext

section Names
variable {platform : Platform}

theorem stored_name_stored_as (platform : Platform) (file : UploadedFile) :
    StoredAs platform file.buffer (storedName platform file) := by
  refine ⟨_, ?_, rfl⟩
  split
  · decide
  · exact platform.lower_no_separator _ (extname_no_separator _)

theorem basename_photo_url {bytes : Bytes} {name : FileName}
    (stored : StoredAs platform bytes name) : basename (photoUrl name) = name := by
  obtain ⟨ext, clean, rfl⟩ := stored
  have long := platform.digest_length bytes
  refine basename_append _ ?_ ?_
  · intro empty
    simp [(List.append_eq_nil_iff.mp empty).1] at long
  · intro mem
    rcases List.mem_append.mp mem with digit | rest
    · have := platform.digest_digits bytes '/' digit
      simp at this
    · exact clean rest

theorem stored_contents_equal {contents : List Bytes} (differ : DigestsDiffer platform contents)
    {a b : Bytes} {name : FileName} (ma : a ∈ contents) (mb : b ∈ contents)
    (stored_a : StoredAs platform a name) (stored_b : StoredAs platform b name) : a = b := by
  obtain ⟨ext_a, _, eq_a⟩ := stored_a
  obtain ⟨ext_b, _, eq_b⟩ := stored_b
  have lengths := (platform.digest_length a).trans (platform.digest_length b).symm
  exact differ a ma b mb (List.append_inj (eq_a.symm.trans eq_b) lengths).1

end Names

/-- What the rows, the directory and the record of uploads have in common at all times. -/
structure Filed (platform : Platform) (contents : List Bytes) (s : Store) : Prop where
  below : ∀ p ∈ s.photos, p.id < s.nextId
  key : (s.photos.map GalleryPhoto.id).Nodup
  received_below : ∀ r ∈ s.received, r.1 < s.nextId
  received_key : ∀ r ∈ s.received, ∀ q ∈ s.received, r.1 = q.1 → r = q
  known : ∀ p ∈ s.photos, ∃ bytes ∈ contents, (p.id, bytes) ∈ s.received ∧
    StoredAs platform bytes (basename p.url)
  named : ∀ name bytes, s.uploadDir name = some bytes →
    bytes ∈ contents ∧ StoredAs platform bytes name

theorem write_if_absent_other {dir : FileName → Option Bytes} {name other : FileName}
    {bytes old : Bytes} (present : dir other = some old) :
    writeIfAbsent dir name bytes other = some old := by
  unfold writeIfAbsent
  split
  · exact present
  · rename_i absent
    have differs : other ≠ name := by
      intro same
      subst other
      simp [present] at absent
    rw [Function.update_of_ne differs]
    exact present

theorem write_if_absent_cases {dir : FileName → Option Bytes} {name other : FileName}
    {bytes found : Bytes} (present : writeIfAbsent dir name bytes other = some found) :
    dir other = some found ∨ other = name ∧ found = bytes := by
  unfold writeIfAbsent at present
  split at present
  · exact Or.inl present
  · by_cases same : other = name
    · subst other
      rw [Function.update_self] at present
      exact Or.inr ⟨rfl, (Option.some.inj present).symm⟩
    · rw [Function.update_of_ne same] at present
      exact Or.inl present

theorem write_if_absent_self (dir : FileName → Option Bytes) (name : FileName) (bytes : Bytes) :
    ∃ found, writeIfAbsent dir name bytes name = some found := by
  unfold writeIfAbsent
  split
  · rename_i present
    exact Option.isSome_iff_exists.mp present
  · exact ⟨bytes, Function.update_self ..⟩

section UploadOne
variable {platform : Platform} {contents : List Bytes} {s : Store} {file : UploadedFile}
  (coupleId userId : Nat) (mem : file.buffer ∈ contents)
include mem

theorem filed_upload_one (filed : Filed platform contents s) :
    Filed platform contents (uploadOne platform coupleId userId s file) where
  below := by
    intro p mp
    rcases List.mem_append.mp mp with old | new
    · exact Nat.lt_succ_of_lt (filed.below p old)
    · rw [List.mem_singleton.mp new]
      exact Nat.lt_succ_self _
  key := append_fresh_key filed.key fun p mp => Nat.ne_of_lt (filed.below p mp)
  received_below := by
    intro r mr
    rcases List.mem_cons.mp mr with rfl | old
    · exact Nat.lt_succ_self _
    · exact Nat.lt_succ_of_lt (filed.received_below r old)
  received_key := by
    intro r mr q mq same
    rcases List.mem_cons.mp mr with rfl | old_r <;> rcases List.mem_cons.mp mq with rfl | old_q
    · rfl
    · have := filed.received_below q old_q
      simp only at same
      omega
    · have := filed.received_below r old_r
      simp only at same
      omega
    · exact filed.received_key r old_r q old_q same
  known := by
    intro p mp
    rcases List.mem_append.mp mp with old | new
    · obtain ⟨bytes, mb, received, stored⟩ := filed.known p old
      exact ⟨bytes, mb, List.mem_cons_of_mem _ received, stored⟩
    · rw [List.mem_singleton.mp new, basename_photo_url (stored_name_stored_as platform file)]
      exact ⟨file.buffer, mem, List.mem_cons_self, stored_name_stored_as platform file⟩
  named := by
    intro name bytes present
    rcases write_if_absent_cases present with old | ⟨rfl, rfl⟩
    · exact filed.named name bytes old
    · exact ⟨mem, stored_name_stored_as platform file⟩

theorem intact_upload_one (differ : DigestsDiffer platform contents)
    (filed : Filed platform contents s) (intact : FilesIntact s) :
    FilesIntact (uploadOne platform coupleId userId s file) := by
  intro p mp bytes received
  rcases List.mem_append.mp mp with old | new
  · have known : (p.id, bytes) ∈ s.received := by
      rcases List.mem_cons.mp received with same | before
      · have := filed.below p old
        simp only [Prod.mk.injEq] at same
        omega
      · exact before
    exact write_if_absent_other (intact p old bytes known)
  · obtain rfl := List.mem_singleton.mp new
    have uploaded : bytes = file.buffer := by
      rcases List.mem_cons.mp received with same | before
      · exact congrArg Prod.snd same
      · have := filed.received_below _ before
        simp only at this
        omega
    have stored := stored_name_stored_as platform file
    rw [basename_photo_url stored, uploaded]
    obtain ⟨found, present⟩ :=
      write_if_absent_self s.uploadDir (storedName platform file) file.buffer
    have named := (filed_upload_one coupleId userId mem filed).named _ _ present
    rw [← stored_contents_equal differ named.1 mem named.2 stored]
    exact present

end UploadOne

theorem upload_keeps {platform : Platform} {contents : List Bytes} (coupleId userId : Nat)
    (differ : DigestsDiffer platform contents) {files : List UploadedFile}
    (inside : ∀ file ∈ files, file.buffer ∈ contents) {s : Store}
    (filed : Filed platform contents s) :
    Filed platform contents (files.foldl (uploadOne platform coupleId userId) s) ∧
      (FilesIntact s → FilesIntact (files.foldl (uploadOne platform coupleId userId) s)) := by
  induction files generalizing s with
  | nil => exact ⟨filed, id⟩
  | cons file rest ih =>
    have mem := inside file List.mem_cons_self
    have next := ih (fun other later => inside other (List.mem_cons_of_mem _ later))
      (filed_upload_one coupleId userId mem filed)
    exact ⟨next.1, fun intact => next.2 (intact_upload_one coupleId userId mem differ filed intact)⟩

theorem unlink_all_eq (dir : FileName → Option Bytes) (photos : List GalleryPhoto)
    (name : FileName) : unlinkAll dir photos name =
      if ∃ q ∈ photos, basename q.url = name then none else dir name := by
  induction photos generalizing dir with
  | nil => simp [unlinkAll]
  | cons photo rest ih =>
    have step_eq : unlinkAll dir (photo :: rest) = unlinkAll (unlink dir photo) rest := rfl
    rw [step_eq, ih]
    by_cases later : ∃ q ∈ rest, basename q.url = name
    · obtain ⟨q, mq, same⟩ := later
      rw [if_pos ⟨q, mq, same⟩, if_pos ⟨q, List.mem_cons_of_mem _ mq, same⟩]
    · rw [if_neg later]
      by_cases here : basename photo.url = name
      · rw [if_pos ⟨photo, List.mem_cons_self, here⟩, ← here]
        exact Function.update_self ..
      · rw [if_neg, unlink, Function.update_of_ne (Ne.symm here)]
        intro shared
        obtain ⟨q, mq, same⟩ := shared
        rcases List.mem_cons.mp mq with rfl | old
        · exact here same
        · exact later ⟨q, old, same⟩

/-- The common effect of the three delete paths: some rows go, and each of them takes its file. -/
structure Drops (s t : Store) (gone : List GalleryPhoto) : Prop where
  subset : ∀ q ∈ gone, q ∈ s.photos
  photos : ∀ p, p ∈ t.photos ↔ p ∈ s.photos ∧ p ∉ gone
  key : (t.photos.map GalleryPhoto.id).Sublist (s.photos.map GalleryPhoto.id)
  files : t.uploadDir = unlinkAll s.uploadDir gone
  received : t.received = s.received
  next : t.nextId = s.nextId

section Drops
variable {platform : Platform} {contents : List Bytes} {s t : Store} {gone : List GalleryPhoto}
  (drops : Drops s t gone) (filed : Filed platform contents s)
include drops filed

theorem filed_drops : Filed platform contents t where
  below := by
    intro p mp
    rw [drops.next]
    exact filed.below p ((drops.photos p).mp mp).1
  key := filed.key.sublist drops.key
  received_below := by
    rw [drops.received, drops.next]
    exact filed.received_below
  received_key := by
    rw [drops.received]
    exact filed.received_key
  known := by
    intro p mp
    rw [drops.received]
    exact filed.known p ((drops.photos p).mp mp).1
  named := by
    intro name bytes present
    rw [drops.files, unlink_all_eq] at present
    split at present
    · simp at present
    · exact filed.named name bytes present

theorem intact_drops_iff (intact : FilesIntact s) :
    FilesIntact t ↔ ∀ q ∈ gone, ∀ p ∈ s.photos, p ∉ gone → basename p.url ≠ basename q.url := by
  constructor
  · intro after q mq p mp stays same
    obtain ⟨bytes, _, received, _⟩ := filed.known p mp
    have present := after p ((drops.photos p).mpr ⟨mp, stays⟩) bytes (by rwa [drops.received])
    rw [drops.files, unlink_all_eq, if_pos ⟨q, mq, same.symm⟩] at present
    simp at present
  · intro apart p mp bytes received
    obtain ⟨old, stays⟩ := (drops.photos p).mp mp
    rw [drops.files, unlink_all_eq, if_neg]
    · exact intact p old bytes (by rwa [drops.received] at received)
    · intro shared
      obtain ⟨q, mq, same⟩ := shared
      exact apart q mq p old stays same.symm

end Drops

theorem drops_nothing (s : Store) : Drops s s [] :=
  ⟨by simp, by simp, List.Sublist.refl _, rfl, rfl, rfl⟩

theorem drops_filter {s t : Store} {gone : List GalleryPhoto} (test : GalleryPhoto → Bool)
    (selected : gone = s.photos.filter test)
    (photos : t.photos = s.photos.filter fun p => !test p)
    (files : t.uploadDir = unlinkAll s.uploadDir gone)
    (received : t.received = s.received) (next : t.nextId = s.nextId) : Drops s t gone where
  subset := by
    intro q mq
    rw [selected] at mq
    exact (List.mem_filter.mp mq).1
  photos := by
    intro p
    rw [photos, selected]
    cases decided : test p <;> simp [decided]
  key := by
    rw [photos]
    exact List.filter_sublist.map _
  files := files
  received := received
  next := next

theorem step_of_ok {platform : Platform} {s t u : Store} {call : Call}
    (done : exec platform s call = .ok u) (moved : step platform s call = some t) : t = u := by
  simp only [step, done, Option.some.injEq] at moved
  exact moved.symm

theorem step_of_error {platform : Platform} {s t : Store} {call : Call} {error : Exception}
    (done : exec platform s call = .error error) (moved : step platform s call = some t) :
    t = s := by
  simp only [step, done, Option.some.injEq] at moved
  exact moved.symm

theorem ensure_member_then (s : Store) (coupleId userId : Nat) (t : Store) :
    (do ensureCoupleMember s coupleId userId; return t) =
      if s.isMember coupleId userId then .ok t
      else .error (.forbidden "User is not a member of this couple.") := by
  unfold ensureCoupleMember
  split <;> rfl

section StepDrops
variable {platform : Platform} {s t : Store}

theorem remove_drops (key : (s.photos.map GalleryPhoto.id).Nodup) {photoId userId : Nat}
    (moved : step platform s (.remove photoId userId) = some t) :
    Drops s t (removedBy s (.remove photoId userId)) := by
  cases found : s.photos.find? (·.id = photoId) with
  | none =>
    have done : exec platform s (.remove photoId userId) = .error (.notFound "Photo not found") := by
      simp only [exec, remove, found]
    obtain rfl := step_of_error done moved
    simpa [removedBy, found] using drops_nothing t
  | some photo =>
    have opened : exec platform s (.remove photoId userId) =
        if s.isMember photo.coupleId userId then
          .ok { s with uploadDir := unlink s.uploadDir photo
                       photos := s.photos.filter (·.id ≠ photoId) }
        else .error (.forbidden "User is not a member of this couple.") := by
      rw [← ensure_member_then]
      simp only [exec, remove, found]
    cases member : s.isMember photo.coupleId userId with
    | false =>
      rw [member] at opened
      obtain rfl := step_of_error opened moved
      simpa [removedBy, found, member] using drops_nothing t
    | true =>
      rw [member] at opened
      obtain rfl := step_of_ok opened moved
      have selected : removedBy s (.remove photoId userId) = [photo] := by
        simp [removedBy, found, member]
      rw [selected]
      exact drops_filter (·.id = photoId) (find_key_filter key found).symm (by simp) rfl rfl rfl

theorem remove_batch_drops {photoIds : List Nat} {userId : Nat}
    (moved : step platform s (.removeBatch photoIds userId) = some t) :
    Drops s t (removedBy s (.removeBatch photoIds userId)) := by
  cases rows : s.photos.filter (·.id ∈ photoIds) with
  | nil =>
    have done : exec platform s (.removeBatch photoIds userId) = .ok s := by
      simp only [exec, removeBatch, rows, ite_self]
    obtain rfl := step_of_ok done moved
    simpa [removedBy, rows] using drops_nothing t
  | cons first rest =>
    have asked : photoIds ≠ [] := by
      rintro rfl
      simp at rows
    have opened : exec platform s (.removeBatch photoIds userId) =
        if (first :: rest).any (·.coupleId ≠ first.coupleId) then
          .error (.forbidden "All photos must belong to the same couple.")
        else if s.isMember first.coupleId userId then
          .ok { s with uploadDir := unlinkAll s.uploadDir (first :: rest)
                       photos := s.photos.filter (·.id ∉ photoIds) }
        else .error (.forbidden "User is not a member of this couple.") := by
      rw [← ensure_member_then]
      simp only [exec, removeBatch, rows, asked, ↓reduceIte]
    have mixed : ((first :: rest).any (·.coupleId ≠ first.coupleId) = true) ↔
        ¬ ∀ p ∈ rest, p.coupleId = first.coupleId := by
      simp
    by_cases one_couple : ∀ p ∈ rest, p.coupleId = first.coupleId
    · rw [if_neg (by rw [mixed]; exact not_not.mpr one_couple)] at opened
      cases member : s.isMember first.coupleId userId with
      | false =>
        rw [member] at opened
        obtain rfl := step_of_error opened moved
        simpa [removedBy, rows, member] using drops_nothing t
      | true =>
        rw [member] at opened
        obtain rfl := step_of_ok opened moved
        have selected : removedBy s (.removeBatch photoIds userId) = first :: rest := by
          simp only [removedBy, rows, member, and_true]
          exact if_pos one_couple
        rw [selected]
        exact drops_filter (·.id ∈ photoIds) rows.symm (by simp) rfl rfl rfl
    · rw [if_pos (mixed.mpr one_couple)] at opened
      obtain rfl := step_of_error opened moved
      have selected : removedBy t (.removeBatch photoIds userId) = [] := by
        simp only [removedBy, rows]
        exact if_neg fun both => one_couple both.1
      rw [selected]
      exact drops_nothing t

theorem break_up_drops {coupleId userId : Nat}
    (moved : step platform s (.breakUp coupleId userId) = some t) :
    Drops s t (removedBy s (.breakUp coupleId userId)) := by
  have opened : exec platform s (.breakUp coupleId userId) =
      if s.isMember coupleId userId then
        .ok { s with uploadDir := unlinkAll s.uploadDir (s.photos.filter (·.coupleId = coupleId))
                     photos := s.photos.filter (·.coupleId ≠ coupleId)
                     members := s.members.filter (·.coupleId ≠ coupleId) }
      else .error (.forbidden "User is not a member of this couple.") :=
    ensure_member_then s coupleId userId _
  cases member : s.isMember coupleId userId with
  | false =>
    rw [member] at opened
    obtain rfl := step_of_error opened moved
    simpa [removedBy, member] using drops_nothing t
  | true =>
    rw [member] at opened
    obtain rfl := step_of_ok opened moved
    simp only [removedBy, member, ↓reduceIte]
    exact drops_filter (·.coupleId = coupleId) rfl (by simp) rfl rfl rfl

end StepDrops

theorem step_files {platform : Platform} {contents : List Bytes}
    (differ : DigestsDiffer platform contents) {s t : Store} {call : Call}
    (inside : ∀ file ∈ filesOf call, file.buffer ∈ contents)
    (moved : step platform s call = some t) (filed : Filed platform contents s) :
    Filed platform contents t ∧
      (FilesIntact s → (FilesIntact t ↔ SharesNoFile s call)) := by
  have dropped : Drops s t (removedBy s call) → Filed platform contents t ∧
      (FilesIntact s → (FilesIntact t ↔ SharesNoFile s call)) :=
    fun drops => ⟨filed_drops drops filed, intact_drops_iff drops filed⟩
  cases call with
  | upload coupleId userId files =>
    have kept := upload_keeps coupleId userId differ inside filed
    have opened : exec platform s (.upload coupleId userId files) =
        if s.isMember coupleId userId then
          .ok (files.foldl (uploadOne platform coupleId userId) s)
        else .error (.forbidden "User is not a member of this couple.") :=
      ensure_member_then s coupleId userId _
    have nothing_removed : SharesNoFile s (.upload coupleId userId files) := by
      simp [SharesNoFile, removedBy]
    cases member : s.isMember coupleId userId with
    | false =>
      rw [member] at opened
      obtain rfl := step_of_error opened moved
      exact ⟨filed, fun intact => ⟨fun _ => nothing_removed, fun _ => intact⟩⟩
    | true =>
      rw [member] at opened
      obtain rfl := step_of_ok opened moved
      exact ⟨kept.1, fun intact => ⟨fun _ => nothing_removed, fun _ => kept.2 intact⟩⟩
  | remove photoId userId => exact dropped (remove_drops filed.key moved)
  | removeBatch photoIds userId => exact dropped (remove_batch_drops moved)
  | breakUp coupleId userId => exact dropped (break_up_drops moved)

theorem initial_filed (platform : Platform) (contents : List Bytes) (members : List CoupleMember) :
    Filed platform contents (initial members) := by
  refine ⟨?_, ?_, ?_, ?_, ?_, ?_⟩ <;> simp [initial]

theorem files_intact_iff_no_shared_file_deleted (platform : Platform) (members : List CoupleMember)
    (calls : List Call) (differ : DigestsDiffer platform (uploadedContents calls)) :
    EveryState (step platform) FilesIntact (initial members) calls ↔
      EachStep (step platform) SharesNoFile (initial members) calls := by
  have inside : ∀ call ∈ calls, ∀ file ∈ filesOf call,
      file.buffer ∈ uploadedContents calls := by
    intro call mc file mf
    exact List.mem_map_of_mem (List.mem_flatMap.mpr ⟨call, mc, mf⟩)
  exact every_state_iff_each_step (Filed platform (uploadedContents calls))
    (fun call mc s t moved filed => (step_files differ (inside call mc) moved filed).1)
    (fun call mc s t moved filed intact =>
      (step_files differ (inside call mc) moved filed).2 intact)
    (initial_filed platform _ members) (by simp [FilesIntact, initial])

theorem lower_separator {c : Char} (same : c.toLower = '/') : c = '/' := by
  unfold Char.toLower at same
  split at same
  · rename_i upper
    have sum : c.val + 32 = 47 := congrArg Char.val same
    have low : 65 ≤ c.val := upper.1
    have high : c.val ≤ 90 := upper.2
    rw [UInt32.le_iff_toNat_le] at low high
    have total := congrArg UInt32.toNat sum
    simp at total low high
    omega
  · exact same

/-- A platform that digests the one content used below as SHA-256 does. -/
def samplePlatform : Platform where
  sha256Hex bytes :=
    if bytes = [97] then "ca978112ca1bbdcafac231b39a23dc4da786eff8147c4e72b9807785afee48bb".toList
    else "e3b0c44298fc1c149afbf4c8996fb92427ae41e4649b934ca495991b7852b855".toList
  toLowerCase text := text.map Char.toLower
  digest_length := by
    intro bytes
    split <;> decide
  digest_digits := by
    intro bytes
    split <;> exact List.all_iff_forall_prop.mp (by decide)
  lower_no_separator := by
    intro text clean mem
    obtain ⟨c, mc, same⟩ := List.mem_map.mp mem
    exact clean (lower_separator same ▸ mc)

def sampleUpload : Call := .upload 0 1 [⟨"one.png".toList, [97]⟩, ⟨"copy.png".toList, [97]⟩]

theorem deleting_a_copy_loses_the_other :
    ¬ ∀ platform members calls, DigestsDiffer platform (uploadedContents calls) →
      EveryState (step platform) FilesIntact (initial members) calls := by
  intro every
  have states := every samplePlatform [⟨0, 1⟩] [sampleUpload, .remove 0 1] (by decide)
  have deleted := (states.2 _ rfl).2 _ rfl
  have present := deleted ⟨1, 0, 1, photoUrl (storedName samplePlatform ⟨"copy.png".toList, [97]⟩)⟩
    (by decide) [97] (by decide)
  revert present
  decide

theorem deleting_both_copies_is_safe :
    EveryState (step samplePlatform) FilesIntact (initial [⟨0, 1⟩])
      [sampleUpload, .removeBatch [0, 1] 1] :=
  (files_intact_iff_no_shared_file_deleted samplePlatform [⟨0, 1⟩] _ (by decide)).mpr (by decide)

end GalleryFiles
