import Mathlib.Data.List.Nodup
import Mathlib.Data.List.Perm.Basic

/-!
Tables as lists of rows with a key: what a key that occurs once says about single rows.
-/
namespace KeyedRows
variable {Row Key : Type*} {key : Row → Key}

theorem row_unique {rows : List Row} (once : (rows.map key).Nodup) {a b : Row} (ma : a ∈ rows)
    (mb : b ∈ rows) (same : key a = key b) : a = b :=
  List.inj_on_of_nodup_map once ma mb same

theorem append_fresh_key {rows : List Row} (once : (rows.map key).Nodup) {a : Row}
    (fresh : ∀ b ∈ rows, key b ≠ key a) : ((rows ++ [a]).map key).Nodup := by
  rw [List.map_append]
  refine once.append (List.nodup_singleton _) ?_
  intro k old new
  obtain ⟨b, mb, rfl⟩ := List.mem_map.mp old
  exact fresh b mb (List.mem_singleton.mp new)

theorem taken_perm {rows : List Row} {index : Nat} {taken : Row}
    (found : rows[index]? = some taken) : rows.Perm (taken :: rows.eraseIdx index) := by
  obtain ⟨inside, rfl⟩ := List.getElem?_eq_some_iff.mp found
  exact (List.getElem_cons_eraseIdx_perm inside).symm

/-- What is in a list is the element that is taken out, or it is in the rest. -/
theorem mem_taken_iff {rows : List Row} {index : Nat} {taken : Row}
    (found : rows[index]? = some taken) (r : Row) :
    r ∈ rows ↔ r = taken ∨ r ∈ rows.eraseIdx index := by
  rw [← List.mem_cons]
  exact (taken_perm found).mem_iff

/-- Either no element of a list is marked, or there is a first one. -/
theorem first_split (marked : Row → Prop) (rows : List Row) :
    (∀ r ∈ rows, ¬ marked r) ∨ ∃ front r back, rows = front ++ r :: back ∧
      (∀ a ∈ front, ¬ marked a) ∧ marked r := by
  induction rows with
  | nil => exact Or.inl (by simp)
  | cons a rest ih =>
    by_cases first : marked a
    · exact Or.inr ⟨[], a, rest, rfl, by simp, first⟩
    · rcases ih with unmarked | ⟨front, r, back, rfl, before, here⟩
      · exact Or.inl (List.forall_mem_cons.mpr ⟨first, unmarked⟩)
      · exact Or.inr ⟨a :: front, r, back, rfl, List.forall_mem_cons.mpr ⟨first, before⟩, here⟩

section InPlace
variable {Update : Type*} {effect : Update → Row → Row} {hits : Update → Row → Prop}

theorem foldl_misses (miss : ∀ u r, ¬ hits u r → effect u r = r) {us : List Update} {r : Row}
    (none_hits : ∀ u ∈ us, ¬ hits u r) : us.foldl (fun r u => effect u r) r = r := by
  induction us with
  | nil => rfl
  | cons u rest ih =>
    rw [List.foldl_cons, miss u r (none_hits u List.mem_cons_self)]
    exact ih fun v mem => none_hits v (List.mem_cons_of_mem _ mem)

/-- Where at most one of the updates is of a row, they leave the row as it is together exactly if
    each one does. -/
theorem foldl_eq_self_iff (miss : ∀ u r, ¬ hits u r → effect u r = r)
    (stays : ∀ u v r, hits v r → ¬ hits u r → ¬ hits u (effect v r)) {us : List Update} {r : Row}
    (once : us.Pairwise fun u v => ¬ (hits u r ∧ hits v r)) :
    us.foldl (fun r u => effect u r) r = r ↔ ∀ u ∈ us, effect u r = r := by
  induction us with
  | nil => simp
  | cons u rest ih =>
    obtain ⟨apart, later⟩ := List.pairwise_cons.mp once
    rw [List.foldl_cons, List.forall_mem_cons]
    by_cases hit : hits u r
    · have others : ∀ v ∈ rest, ¬ hits v r := fun v mem both => apart v mem ⟨hit, both⟩
      rw [foldl_misses miss fun v mem => stays v u r hit (others v mem)]
      exact ⟨fun same => ⟨same, fun v mem => miss v r (others v mem)⟩, fun same => same.1⟩
    · rw [miss u r hit, ih later]
      exact ⟨fun same => ⟨rfl, same⟩, fun same => same.2⟩

theorem map_eq_self_iff {f : Row → Row} {rows : List Row} :
    rows.map f = rows ↔ ∀ r ∈ rows, f r = r := by
  conv_lhs => rhs; rw [← List.map_id rows]
  exact List.map_inj_left

theorem map_swap {f g : Row → Row} {rows : List Row} (swap : ∀ r ∈ rows, g (f r) = f (g r)) :
    (rows.map f).map g = (rows.map g).map f := by
  rw [List.map_map, List.map_map]
  exact List.map_congr_left swap

end InPlace

-- Rows with other contents, as far as a test does not look at these.
section Rewritten
variable {f : Row → Row} {test : Row → Bool} {rows : List Row}
  (same : ∀ r ∈ rows, test (f r) = test r)
include same

theorem any_rewritten : (rows.map f).any test = rows.any test := by
  induction rows with
  | nil => rfl
  | cons r rest ih =>
    obtain ⟨first, later⟩ := List.forall_mem_cons.mp same
    rw [List.map_cons, List.any_cons, List.any_cons, first, ih later]

theorem find_rewritten : (rows.map f).find? test = (rows.find? test).map f := by
  induction rows with
  | nil => rfl
  | cons r rest ih =>
    obtain ⟨first, later⟩ := List.forall_mem_cons.mp same
    rw [List.map_cons, List.find?_cons, List.find?_cons, first, ih later]
    cases test r <;> rfl

theorem filter_rewritten : (rows.map f).filter test = (rows.filter test).map f := by
  rw [List.filter_map]
  congr 1
  exact List.filter_congr same

theorem filter_rewritten_fixed (fixed : ∀ r ∈ rows, test r = true → f r = r) :
    (rows.map f).filter test = rows.filter test := by
  rw [filter_rewritten same]
  apply map_eq_self_iff.mpr
  intro r mem
  obtain ⟨in_rows, marked⟩ := List.mem_filter.mp mem
  exact fixed r in_rows marked

end Rewritten

theorem filter_of_kept {test kept : Row → Bool} {rows : List Row}
    (keeps : ∀ r ∈ rows, test r = true → kept r = true) :
    (rows.filter kept).filter test = rows.filter test := by
  rw [List.filter_filter]
  apply List.filter_congr
  intro r mem
  cases marked : test r with
  | true => rw [keeps r mem marked, Bool.and_true]
  | false => rw [Bool.false_and]

variable [DecidableEq Key]

/-- A change that is rejected when there is no row of the key. -/
theorem change_found {Table : Type*} {rows : List Row} {k : Key} {changed result : Table}
    (done : (if rows.any (fun r => key r = k) then some changed else none) = some result) :
    (∃ r ∈ rows, key r = k) ∧ result = changed := by
  split at done
  · rename_i found
    simp only [List.any_eq_true, decide_eq_true_eq] at found
    exact ⟨found, (Option.some.inj done).symm⟩
  · cases done

theorem filter_key_singleton {rows : List Row} (once : (rows.map key).Nodup) {a : Row}
    (mem : a ∈ rows) : rows.filter (fun b => key b = key a) = [a] := by
  induction rows with
  | nil => simp at mem
  | cons b rest ih =>
    simp only [List.map_cons, List.nodup_cons, List.mem_map, not_exists, not_and] at once
    rcases List.mem_cons.mp mem with rfl | later
    · have others : rest.filter (fun c => key c = key a) = [] := by
        rw [List.filter_eq_nil_iff]
        intro c mc
        simpa using once.1 c mc
      simp [others]
    · have differs : key b ≠ key a := fun same => once.1 a later same.symm
      simpa [List.filter_cons, differs] using ih once.2 later

theorem find_key_filter {rows : List Row} (once : (rows.map key).Nodup) {k : Key} {a : Row}
    (found : rows.find? (fun b => key b = k) = some a) :
    rows.filter (fun b => key b = k) = [a] := by
  have same := List.find?_some found
  simp only [decide_eq_true_eq] at same
  rw [← same]
  exact filter_key_singleton once (List.mem_of_find?_eq_some found)

/-- The rows of one key, after those of another key are gone. -/
theorem filter_after_delete (rows : List Row) {gone stays : Key} (apart : gone ≠ stays) :
    (rows.filter fun r => key r ≠ gone).filter (fun r => key r = stays) =
      rows.filter fun r => key r = stays := by
  apply filter_of_kept
  intro r _ stay
  simp only [decide_eq_true_eq] at stay ⊢
  rw [stay]
  exact apart.symm

end KeyedRows
