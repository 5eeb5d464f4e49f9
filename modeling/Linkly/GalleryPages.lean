import Linkly.Gallery
import Mathlib.Data.List.Sort

/-!
The pages of the gallery. Rows come by the column `createdAt`, which is a function of their ids
here; photos of one time are left in the order of the table, which the database does not promise.
-/
namespace GalleryPages
open Gallery

/-- `some none` is a number that is not an integer. -/
structure PhotoQueryDto where
  coupleId : Nat
  cursor : Option Nat
  take : Option (Option Int)
  userId : Nat
  deriving DecidableEq, Repr

inductive Exception where
  | gallery (error : Gallery.Exception)
  | database
  deriving DecidableEq, Repr

section Pages
variable (createdAt : Nat → Int)

def newerFirst (a b : GalleryPhoto) : Prop := createdAt b.id ≤ createdAt a.id

instance : DecidableRel (newerFirst createdAt) :=
  fun a b => inferInstanceAs (Decidable (createdAt b.id ≤ createdAt a.id))

def olderFirst (a b : GalleryPhoto) : Prop := createdAt a.id ≤ createdAt b.id

instance : DecidableRel (olderFirst createdAt) :=
  fun a b => inferInstanceAs (Decidable (createdAt a.id ≤ createdAt b.id))

/-- A negative `take` goes the other way, and the page comes in the order of the query. -/
def page (take : Int) (skip : Nat) (rows : List GalleryPhoto) : List GalleryPhoto :=
  if 0 ≤ take then ((rows.insertionSort (newerFirst createdAt)).drop skip).take take.natAbs
  else (((rows.insertionSort (olderFirst createdAt)).drop skip).take take.natAbs).reverse

/-- The rows at the cursor's time and on the far side of it. -/
def beyond (take cursorAt : Int) (rows : List GalleryPhoto) : List GalleryPhoto :=
  rows.filter fun p =>
    if 0 ≤ take then createdAt p.id ≤ cursorAt else cursorAt ≤ createdAt p.id

def findMany (s : Store) (query : PhotoQueryDto) : Except Exception (List GalleryPhoto) :=
  match ensureCoupleMember s query.coupleId query.userId with
  | .error error => .error (.gallery error)
  | .ok _ =>
    match query.take.getD (some 36) with
    | none => .error .database
    | some take =>
      let rows := s.photos.filter (·.coupleId = query.coupleId)
      match query.cursor with
      | none => .ok (page createdAt take 0 rows)
      | some cursor =>
        -- The row of the cursor gives the time, whichever couple it is of.
        match s.photos.find? (·.id = cursor) with
        | none => .ok []
        | some row => .ok (page createdAt take 1 (beyond createdAt take (createdAt row.id) rows))

end Pages

section Lemmas
variable {createdAt other : Nat → Int} {rows : List GalleryPhoto}

/-- Only the times of the rows themselves count. -/
theorem page_congr (same : ∀ p ∈ rows, createdAt p.id = other p.id) (take : Int) (skip : Nat) :
    page createdAt take skip rows = page other take skip rows := by
  have newer : rows.insertionSort (newerFirst createdAt) =
      rows.insertionSort (newerFirst other) := by
    simpa using List.map_insertionSort (newerFirst createdAt) (newerFirst other) id rows
      fun a ma b mb => by simp [newerFirst, same a ma, same b mb]
  have older : rows.insertionSort (olderFirst createdAt) =
      rows.insertionSort (olderFirst other) := by
    simpa using List.map_insertionSort (olderFirst createdAt) (olderFirst other) id rows
      fun a ma b mb => by simp [olderFirst, same a ma, same b mb]
  rw [page, page, newer, older]

theorem beyond_congr (same : ∀ p ∈ rows, createdAt p.id = other p.id) (take cursorAt : Int) :
    beyond createdAt take cursorAt rows = beyond other take cursorAt rows := by
  unfold beyond
  apply List.filter_congr
  intro p mem
  rw [same p mem]

theorem times_bounded (createdAt : Nat → Int) (rows : List GalleryPhoto) :
    ∃ low high, ∀ p ∈ rows, low < createdAt p.id ∧ createdAt p.id < high := by
  induction rows with
  | nil => exact ⟨0, 0, by simp⟩
  | cons first rest ih =>
    obtain ⟨low, high, between⟩ := ih
    refine ⟨min low (createdAt first.id - 1), max high (createdAt first.id + 1), ?_⟩
    intro p mem
    rcases List.mem_cons.mp mem with rfl | later
    · omega
    · have := between p later
      omega

/-- A cursor far enough out on the near side has all rows beyond it, and one far enough out on the
    other side has none. -/
theorem some_cursors (createdAt : Nat → Int) (take : Int) (rows : List GalleryPhoto) :
    ∃ before after, beyond createdAt take before rows = rows ∧
      beyond createdAt take after rows = [] := by
  obtain ⟨before, after, apart⟩ : ∃ before after, ∀ p ∈ rows,
      (if 0 ≤ take then createdAt p.id ≤ before else before ≤ createdAt p.id) ∧
        ¬ if 0 ≤ take then createdAt p.id ≤ after else after ≤ createdAt p.id := by
    obtain ⟨low, high, between⟩ := times_bounded createdAt rows
    by_cases forward : 0 ≤ take
    · refine ⟨high, low, fun p mem => ?_⟩
      have := between p mem
      simp only [forward, ↓reduceIte]
      omega
    · refine ⟨low, high, fun p mem => ?_⟩
      have := between p mem
      simp only [forward, ↓reduceIte]
      omega
  refine ⟨before, after, ?_, ?_⟩
  · apply List.filter_eq_self.mpr
    intro p mem
    simpa using (apart p mem).1
  · apply List.filter_eq_nil_iff.mpr
    intro p mem
    simpa using (apart p mem).2

theorem page_length (take : Int) (skip : Nat) :
    (page createdAt take skip rows).length = min take.natAbs (rows.length - skip) := by
  unfold page
  split <;> simp [List.length_insertionSort]

theorem page_of_few {take cursorAt : Int} {rows : List GalleryPhoto}
    (few : take = 0 ∨ rows.length ≤ 1) :
    page createdAt take 1 (beyond createdAt take cursorAt rows) = [] := by
  apply List.eq_nil_of_length_eq_zero
  have shorter : (beyond createdAt take cursorAt rows).length ≤ rows.length :=
    List.length_filter_le _ rows
  rw [page_length]
  omega

end Lemmas

end GalleryPages
