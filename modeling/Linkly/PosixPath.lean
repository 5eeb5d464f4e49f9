import Mathlib.Data.List.TakeWhile

/-!
The two functions of Node's path module that name uploaded files, on paths with '/' as the only
separator. Both look at the last component of the path, trailing separators ignored.
-/
namespace PosixPath

def lastComponent (path : List Char) : List Char :=
  ((path.reverse.dropWhile (· = '/')).takeWhile (· ≠ '/')).reverse

def basename (path : List Char) : List Char := lastComponent path

/-- The last component from its last dot on. A component that starts with its only dot, or is
    "..", has no extension. -/
def extname (path : List Char) : List Char :=
  let name := lastComponent path
  let after := (name.reverse.takeWhile (· ≠ '.')).reverse
  let before := (name.reverse.dropWhile (· ≠ '.')).reverse.dropLast
  if '.' ∉ name ∨ before = [] ∨ name = ['.', '.'] then [] else '.' :: after

theorem last_component_no_separator (path : List Char) : '/' ∉ lastComponent path := by
  intro mem
  have := List.mem_takeWhile_imp (List.mem_reverse.mp mem)
  simp at this

theorem extname_no_separator (path : List Char) : '/' ∉ extname path := by
  unfold extname
  dsimp only
  split
  · simp
  · intro mem
    rcases List.mem_cons.mp mem with same | later
    · simp at same
    · have inside := (List.takeWhile_prefix _).sublist.subset (List.mem_reverse.mp later)
      exact last_component_no_separator path (List.mem_reverse.mp inside)

/-- A file name without separators is the last component of any path it is put after. -/
theorem basename_append {name : List Char} (dir : List Char) (filled : name ≠ [])
    (clean : '/' ∉ name) : basename (dir ++ '/' :: name) = name := by
  have no_separator : ∀ c ∈ name.reverse, ¬ c = '/' := by
    intro c mem same
    exact clean (same ▸ List.mem_reverse.mp mem)
  have kept : (name.reverse ++ ('/' :: dir.reverse)).dropWhile (· = '/') =
      name.reverse ++ '/' :: dir.reverse := by
    cases reversed : name.reverse with
    | nil => exact False.elim (filled (by simpa using reversed))
    | cons c rest =>
      have first := no_separator c (by simp [reversed])
      simp [first]
  have split_path : (dir ++ '/' :: name).reverse = name.reverse ++ '/' :: dir.reverse := by simp
  unfold basename lastComponent
  rw [split_path, kept, List.takeWhile_append_of_pos]
  · simp
  · intro c mem
    simpa using no_separator c mem

example : extname "photo.final.JPG".toList = ".JPG".toList := by decide

example : extname "album.d/.bashrc".toList = [] := by decide

end PosixPath
