import Linkly.JsText
import Linkly.UniqueReading

/-!
Cache keys as texts: parts joined by a separator, read back as long as the separator is in none of
them, and a cache of key and value pairs whose cells all meet a relation.
-/
namespace KeyedCache
open JsText

section Joined

/-- `parts.join(sep)` for a separator of one unit. -/
def joined (sep : UInt16) : List JsString → JsString
  | [] => []
  | [part] => part
  | part :: parts => part ++ sep :: joined sep parts

theorem joined_cons (sep : UInt16) (part : JsString) {parts : List JsString} (more : parts ≠ []) :
    joined sep (part :: parts) = part ++ sep :: joined sep parts := by
  cases parts with
  | nil => exact absurd rfl more
  | cons next parts => rfl

/-- The text before the first separator is the same in equal texts. -/
theorem head_injective {sep : UInt16} {a b x y : JsString} (absent_a : sep ∉ a) (absent_b : sep ∉ b)
    (same : a ++ sep :: x = b ++ sep :: y) : a = b ∧ x = y :=
  UniqueReading.before_separator_injective absent_a absent_b same

theorem joined_injective {sep : UInt16} {xs ys : List JsString}
    (absent_xs : ∀ x ∈ xs, sep ∉ x) (absent_ys : ∀ y ∈ ys, sep ∉ y)
    (length : xs.length = ys.length) (same : joined sep xs = joined sep ys) : xs = ys := by
  induction xs generalizing ys with
  | nil => exact (List.eq_nil_of_length_eq_zero length.symm).symm
  | cons x xs ih =>
    cases ys with
    | nil => simp at length
    | cons y ys =>
      have shorter : xs.length = ys.length := by simpa using length
      by_cases last : xs = []
      · have last_y : ys = [] := List.eq_nil_of_length_eq_zero (by rw [← shorter, last]; rfl)
        simpa [last, last_y, joined] using same
      · have last_y : ys ≠ [] := by
          rintro rfl
          exact last (List.eq_nil_of_length_eq_zero shorter)
        rw [joined_cons sep x last, joined_cons sep y last_y] at same
        obtain ⟨head, tail⟩ := head_injective (absent_xs x List.mem_cons_self)
          (absent_ys y List.mem_cons_self) same
        rw [head, ih (fun z mem => absent_xs z (List.mem_cons_of_mem x mem))
          (fun z mem => absent_ys z (List.mem_cons_of_mem y mem)) shorter tail]

end Joined

section Cells
variable {K V : Type} {Right : K → V → Prop}

/-- Each key comes with a value that is right for it. -/
def AllRight (Right : K → V → Prop) (cells : List (K × V)) : Prop :=
  ∀ cell ∈ cells, Right cell.1 cell.2

theorem all_right_nil : AllRight Right [] := by
  intro cell mem
  simp at mem

theorem all_right_cons {cells : List (K × V)} {key : K} {value : V} (right : Right key value)
    (all : AllRight Right cells) : AllRight Right ((key, value) :: cells) := by
  intro cell mem
  rcases List.mem_cons.mp mem with first | later
  · rw [first]
    exact right
  · exact all cell later

/-- Cells may be lost at any time. -/
theorem all_right_subset {cells fewer : List (K × V)} (subset : fewer ⊆ cells)
    (all : AllRight Right cells) : AllRight Right fewer :=
  fun cell mem => all cell (subset mem)

theorem right_of_lookup [BEq K] [LawfulBEq K] {cells : List (K × V)} {key : K} {value : V}
    (all : AllRight Right cells) (found : cells.lookup key = some value) : Right key value := by
  obtain ⟨front, back, same, _⟩ := List.lookup_eq_some_iff.mp found
  exact all (key, value) (by rw [same]; simp)

/-- A key that has been dropped is gone, and the others stay. -/
theorem lookup_dropped [BEq K] [LawfulBEq K] [DecidableEq K] {cells : List (K × V)}
    {key other : K} {value : V} :
    (cells.filter fun cell => cell.1 ≠ key).lookup other = some value ↔
      other ≠ key ∧ cells.lookup other = some value := by
  induction cells with
  | nil => simp
  | cons cell cells ih =>
    obtain ⟨first, held⟩ := cell
    by_cases same : other = first
    · by_cases dropped : first = key
      · simpa [same, dropped] using ih
      · simp [same, dropped]
    · have differs : (other == first) = false := by simp [same]
      by_cases dropped : first = key
      · subst dropped
        simpa [List.lookup_cons, differs] using ih
      · simpa [List.lookup_cons, differs, dropped] using ih

end Cells

section Digests
variable (digests : List (JsString × JsString))

/-- A hash by its values on some texts; the value of any other text is a marked copy of it. -/
def listedHash (text : JsString) : JsString := (digests.lookup text).getD (unit 'x' :: text)

variable {digests}

theorem listed_hash_injective (apart : ∀ p ∈ digests, ∀ q ∈ digests, p.2 = q.2 → p.1 = q.1)
    (unmarked : ∀ p ∈ digests, p.2.head? ≠ some (unit 'x')) :
    Function.Injective (listedHash digests) := by
  have listed : ∀ text digest, digests.lookup text = some digest → (text, digest) ∈ digests := by
    intro text digest found
    obtain ⟨front, back, whole, _⟩ := List.lookup_eq_some_iff.mp found
    rw [whole]
    simp
  intro a b same
  unfold listedHash at same
  cases at_a : digests.lookup a with
  | none =>
    cases at_b : digests.lookup b with
    | none =>
      rw [at_a, at_b] at same
      exact (List.cons.inj same).2
    | some digest =>
      rw [at_a, at_b] at same
      exact absurd (congrArg List.head? same).symm (unmarked _ (listed b _ at_b))
  | some digest =>
    cases at_b : digests.lookup b with
    | none =>
      rw [at_a, at_b] at same
      exact absurd (congrArg List.head? same) (unmarked _ (listed a _ at_a))
    | some other =>
      rw [at_a, at_b] at same
      exact apart _ (listed a _ at_a) _ (listed b _ at_b) same

end Digests

end KeyedCache
