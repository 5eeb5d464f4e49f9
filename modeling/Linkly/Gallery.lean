import Linkly.PosixPath
import Mathlib.Logic.Function.Basic

/-!
The gallery service and breakUp, over the photo rows and the files of the upload directory. A call
runs to its end before the next one starts, and neither the database nor the disk fails.
-/
namespace Gallery
open PosixPath

abbrev Bytes := List UInt8
abbrev FileName := List Char

/-- What the service takes from Node: the hex digest of file contents, and `toLowerCase`. -/
structure Platform where
  sha256Hex : Bytes → List Char
  toLowerCase : List Char → List Char
  digest_length : ∀ bytes, (sha256Hex bytes).length = 64
  digest_digits : ∀ bytes, ∀ c ∈ sha256Hex bytes, c ∈ "0123456789abcdef".toList
  lower_no_separator : ∀ text, '/' ∉ text → '/' ∉ toLowerCase text

structure CoupleMember where
  coupleId : Nat
  userId : Nat
  deriving DecidableEq, Repr

structure GalleryPhoto where
  id : Nat
  coupleId : Nat
  uploadedByUserId : Nat
  url : List Char
  deriving DecidableEq, Repr

structure UploadedFile where
  originalname : List Char
  buffer : Bytes
  deriving DecidableEq, Repr

/-- `uploadDir` maps the names of the directory to file contents. `received` is no part of the
    service: it records which bytes were uploaded for which row. -/
structure Store where
  members : List CoupleMember
  photos : List GalleryPhoto
  uploadDir : FileName → Option Bytes
  received : List (Nat × Bytes)
  nextId : Nat

inductive Exception where
  | notFound (message : String)
  | forbidden (message : String)
  deriving DecidableEq, Repr

def Store.isMember (s : Store) (coupleId userId : Nat) : Bool :=
  s.members.any fun m => m.coupleId = coupleId ∧ m.userId = userId

def ensureCoupleMember (s : Store) (coupleId userId : Nat) : Except Exception Unit :=
  if s.isMember coupleId userId then .ok ()
  else .error (.forbidden "User is not a member of this couple.")

section Upload
variable (platform : Platform)

def storedName (file : UploadedFile) : FileName :=
  let lower := platform.toLowerCase (extname file.originalname)
  platform.sha256Hex file.buffer ++ if lower = [] then ".jpg".toList else lower

def photoUrl (name : FileName) : List Char := "/uploads/photos".toList ++ '/' :: name

/-- An existing file of that name is kept as it is. -/
def writeIfAbsent (dir : FileName → Option Bytes) (name : FileName) (bytes : Bytes) :
    FileName → Option Bytes :=
  if (dir name).isSome then dir else Function.update dir name (some bytes)

def uploadOne (coupleId userId : Nat) (s : Store) (file : UploadedFile) : Store :=
  { s with
    uploadDir := writeIfAbsent s.uploadDir (storedName platform file) file.buffer
    photos := s.photos ++ [⟨s.nextId, coupleId, userId, photoUrl (storedName platform file)⟩]
    received := (s.nextId, file.buffer) :: s.received
    nextId := s.nextId + 1 }

def upload (s : Store) (coupleId userId : Nat) (files : List UploadedFile) :
    Except Exception Store := do
  ensureCoupleMember s coupleId userId
  return files.foldl (uploadOne platform coupleId userId) s

end Upload

def unlink (dir : FileName → Option Bytes) (photo : GalleryPhoto) : FileName → Option Bytes :=
  Function.update dir (basename photo.url) none

def unlinkAll (dir : FileName → Option Bytes) (photos : List GalleryPhoto) :
    FileName → Option Bytes :=
  photos.foldl unlink dir

def remove (s : Store) (photoId userId : Nat) : Except Exception Store :=
  match s.photos.find? (·.id = photoId) with
  | none => .error (.notFound "Photo not found")
  | some photo => do
    ensureCoupleMember s photo.coupleId userId
    return { s with uploadDir := unlink s.uploadDir photo
                    photos := s.photos.filter (·.id ≠ photoId) }

def removeBatch (s : Store) (photoIds : List Nat) (userId : Nat) : Except Exception Store :=
  if photoIds = [] then .ok s
  else
    match s.photos.filter (·.id ∈ photoIds) with
    | [] => .ok s
    | first :: rest =>
      if (first :: rest).any (·.coupleId ≠ first.coupleId) then
        .error (.forbidden "All photos must belong to the same couple.")
      else do
        ensureCoupleMember s first.coupleId userId
        return { s with uploadDir := unlinkAll s.uploadDir (first :: rest)
                        photos := s.photos.filter (·.id ∉ photoIds) }

def breakUp (s : Store) (coupleId userId : Nat) : Except Exception Store := do
  ensureCoupleMember s coupleId userId
  let photos := s.photos.filter (·.coupleId = coupleId)
  return { s with uploadDir := unlinkAll s.uploadDir photos
                  photos := s.photos.filter (·.coupleId ≠ coupleId)
                  members := s.members.filter (·.coupleId ≠ coupleId) }

inductive Call where
  | upload (coupleId userId : Nat) (files : List UploadedFile)
  | remove (photoId userId : Nat)
  | removeBatch (photoIds : List Nat) (userId : Nat)
  | breakUp (coupleId userId : Nat)
  deriving DecidableEq, Repr

def exec (platform : Platform) (s : Store) : Call → Except Exception Store
  | .upload coupleId userId files => upload platform s coupleId userId files
  | .remove photoId userId => remove s photoId userId
  | .removeBatch photoIds userId => removeBatch s photoIds userId
  | .breakUp coupleId userId => breakUp s coupleId userId

/-- A rejected call has changed nothing: its checks come before its first write. -/
def step (platform : Platform) (s : Store) (call : Call) : Option Store :=
  match exec platform s call with
  | .ok t => some t
  | .error _ => some s

def initial (members : List CoupleMember) : Store := ⟨members, [], fun _ => none, [], 0⟩

end Gallery
