import Mathlib.Data.List.Sort

/-!
First pages of sorted rows, where the order of equal rows is open. A row is on the first page of
every arrangement exactly if the rows that may come no later than it fit on the page.

Rows paged by descending times: the rows held after some pages and the rest split the sorted times
in two, and a strict bound at the last time held finds the whole rest unless the split is a tie.
-/
namespace SortedPages
variable {Row : Type*} {le : Row → Row → Prop} [DecidableRel le]

/-- The rows in an order that a sort by `le` may return. -/
def Arranged (le : Row → Row → Prop) (rows sorted : List Row) : Prop :=
  sorted.Perm rows ∧ sorted.Pairwise le

theorem mem_page_of_few {rows sorted : List Row} {a : Row} {n : Nat} (refl : le a a)
    (arranged : Arranged le rows sorted) (mem : a ∈ rows)
    (few : rows.countP (fun b => le b a) ≤ n) : a ∈ sorted.take n := by
  obtain ⟨front, back, rfl⟩ := List.append_of_mem (arranged.1.mem_iff.mpr mem)
  have before : ∀ b ∈ front, le b a := fun b mb =>
    (List.pairwise_append.mp arranged.2).2.2 b mb a List.mem_cons_self
  have all_front : front.countP (fun b => le b a) = front.length :=
    List.countP_eq_length.mpr fun b mb => decide_eq_true (before b mb)
  have counted : front.length + 1 ≤ rows.countP (fun b => le b a) := by
    rw [← arranged.1.countP_eq, List.countP_append, List.countP_cons_of_pos (by simpa using refl)]
    omega
  have room : n = front.length + (n - front.length) := by omega
  rw [room, List.take_length_add_append]
  have more : n - front.length = n - front.length - 1 + 1 := by omega
  rw [more, List.take_succ_cons]
  simp

variable [DecidableEq Row]

/-- An arrangement in which one row comes after all the rows that are equal to it. -/
def lateArrangement (le : Row → Row → Prop) [DecidableRel le] (rows : List Row) (a : Row) :
    List Row :=
  (rows.filter fun b => le b a ∧ b ≠ a).insertionSort le ++
    a :: (rows.filter fun b => ¬ le b a).insertionSort le

theorem late_perm {rows : List Row} (once : rows.Nodup) {a : Row} (mem : a ∈ rows) (refl : le a a) :
    (lateArrangement le rows a).Perm rows := by
  have sorted : (lateArrangement le rows a).Perm
      ((rows.filter fun b => le b a ∧ b ≠ a) ++ a :: rows.filter fun b => ¬ le b a) :=
    (List.perm_insertionSort le _).append ((List.perm_insertionSort le _).cons a)
  refine sorted.trans ((List.perm_ext_iff_of_nodup ?_ once).mpr ?_)
  · refine (once.filter _).append ?_ ?_
    · refine List.nodup_cons.mpr ⟨?_, once.filter _⟩
      simp [refl]
    · intro b early late
      simp only [List.mem_filter, decide_eq_true_eq] at early
      rcases List.mem_cons.mp late with same | later
      · exact early.2.2 same
      · simp [early.2.1] at later
  · intro b
    by_cases same : b = a
    · simp [same, mem]
    · by_cases early : le b a <;> simp [same, early]

variable [Std.Total le]

/-- All rows that may come no later than the late row do come before it. -/
theorem late_not_on_page {rows : List Row} (once : rows.Nodup) {a : Row} (mem : a ∈ rows)
    {n : Nat} (many : n < rows.countP fun b => le b a) :
    a ∉ (lateArrangement le rows a).take n := by
  have refl : le a a := (Std.Total.total a a).elim id id
  have counted := (late_perm once mem refl).countP_eq fun b => le b a
  have after : ((rows.filter fun b => ¬ le b a).insertionSort le).countP (fun b => le b a) = 0 := by
    rw [List.countP_eq_zero]
    intro b later
    have := (List.mem_filter.mp ((List.mem_insertionSort le).mp later)).2
    simpa using this
  have room := List.countP_le_length (p := fun b => decide (le b a))
    (l := (rows.filter fun b => le b a ∧ b ≠ a).insertionSort le)
  rw [lateArrangement, List.countP_append, List.countP_cons_of_pos (by simpa using refl), after]
    at counted
  rw [lateArrangement, List.take_append_of_le_length (by omega)]
  intro on_page
  have early := (List.mem_insertionSort le).mp (List.mem_of_mem_take on_page)
  simp at early

variable [IsTrans Row le]

theorem late_arranged {rows : List Row} (once : rows.Nodup) {a : Row} (mem : a ∈ rows) :
    Arranged le rows (lateArrangement le rows a) := by
  have refl : le a a := (Std.Total.total a a).elim id id
  refine ⟨late_perm once mem refl, List.pairwise_append.mpr ⟨?_, ?_, ?_⟩⟩
  · exact List.pairwise_insertionSort le _
  · refine List.pairwise_cons.mpr ⟨?_, List.pairwise_insertionSort le _⟩
    intro b later
    have := (List.mem_filter.mp ((List.mem_insertionSort le).mp later)).2
    simp only [decide_eq_true_eq] at this
    exact (Std.Total.total a b).resolve_right this
  · intro b early c late
    have early_a := (List.mem_filter.mp ((List.mem_insertionSort le).mp early)).2
    simp only [decide_eq_true_eq] at early_a
    rcases List.mem_cons.mp late with rfl | later
    · exact early_a.1
    · have := (List.mem_filter.mp ((List.mem_insertionSort le).mp later)).2
      simp only [decide_eq_true_eq] at this
      exact IsTrans.trans b a c early_a.1 ((Std.Total.total a c).resolve_right this)

theorem on_every_page_iff {rows : List Row} (once : rows.Nodup) {a : Row} (mem : a ∈ rows)
    (n : Nat) : (∀ sorted, Arranged le rows sorted → a ∈ sorted.take n) ↔
      rows.countP (fun b => le b a) ≤ n := by
  constructor
  · intro every
    by_contra many
    exact late_not_on_page once mem (by omega) (every _ (late_arranged once mem))
  · intro few sorted arranged
    exact mem_page_of_few ((Std.Total.total a a).elim id id) arranged mem few

section Times
variable {Row : Type*} {time : Row → Int}

/-- The times of the rows, the latest first. -/
def descending (time : Row → Int) (rows : List Row) : List Int :=
  (rows.map time).insertionSort fun a b => b ≤ a

/-- An order of the rows that has the latest first. -/
def LatestFirst (time : Row → Int) (rows sorted : List Row) : Prop :=
  sorted.Perm rows ∧ sorted.Pairwise fun a b => time b ≤ time a

theorem latest_first_exists (time : Row → Int) (rows : List Row) :
    ∃ sorted, LatestFirst time rows sorted := by
  have total : Std.Total fun a b : Row => time b ≤ time a :=
    ⟨fun a b => Int.le_total (time b) (time a)⟩
  have trans : IsTrans Row fun a b => time b ≤ time a := ⟨fun _ _ _ ba cb => Int.le_trans cb ba⟩
  exact ⟨rows.insertionSort fun a b => time b ≤ time a, List.perm_insertionSort _ _,
    List.pairwise_insertionSort _ _⟩

theorem descending_perm (rows : List Row) : (descending time rows).Perm (rows.map time) :=
  List.perm_insertionSort _ _

theorem descending_length (rows : List Row) : (descending time rows).length = rows.length := by
  rw [(descending_perm rows).length_eq, List.length_map]

theorem descending_sorted (rows : List Row) :
    (descending time rows).Pairwise fun a b => b ≤ a :=
  List.pairwise_insertionSort (fun a b : Int => b ≤ a) _

/-- Sorted times are the same in every order that the rows may have. -/
theorem times_of_sorted {times : List Int} {sorted : List Row}
    (ordered : sorted.Pairwise fun a b => time b ≤ time a)
    (times_sorted : times.Pairwise fun a b => b ≤ a) (perm : (sorted.map time).Perm times) :
    sorted.map time = times :=
  perm.eq_of_pairwise (fun _ _ _ _ le ge => Int.le_antisymm ge le)
    (List.pairwise_map.mpr ordered) times_sorted

/-- Some rows hold the first times, and the others the remaining ones. -/
structure Split (time : Row → Int) (rows held rest : List Row) (n : Nat) : Prop where
  all : (held ++ rest).Perm rows
  held_times : (held.map time).Perm ((descending time rows).take n)
  rest_times : (rest.map time).Perm ((descending time rows).drop n)

theorem split_none (rows : List Row) : Split time rows [] rows 0 :=
  ⟨List.Perm.refl _, by simp, by simpa using (descending_perm rows).symm⟩

/-- A page of the rest moves the split. -/
theorem split_page {rows held rest page : List Row} {n : Nat} (split : Split time rows held rest n)
    (sorted : LatestFirst time rest page) (size : Nat) :
    Split time rows (held ++ page.take size) (page.drop size) (n + size) := by
  have rest_sorted : ((descending time rows).drop n).Pairwise fun a b => b ≤ a :=
    (descending_sorted rows).sublist (List.drop_sublist n _)
  have times : page.map time = (descending time rows).drop n :=
    times_of_sorted sorted.2 rest_sorted ((sorted.1.map time).trans split.rest_times)
  constructor
  · rw [List.append_assoc, List.take_append_drop]
    exact (sorted.1.append_left held).trans split.all
  · rw [List.map_append, List.map_take, times, List.take_add]
    exact split.held_times.append_right _
  · rw [List.map_drop, times, List.drop_drop]

theorem split_length {rows held rest : List Row} {n : Nat} (split : Split time rows held rest n)
    (inside : n ≤ rows.length) : held.length = n := by
  have same := split.held_times.length_eq
  rwa [List.length_map, List.length_take, descending_length, Nat.min_eq_left inside] at same

section Last
variable {rows held rest : List Row} {n : Nat} {last : Int} (split : Split time rows held rest n)
  (at_last : (descending time rows)[n - 1]? = some last)
include split at_last

theorem held_not_before {m : Row} (mem : m ∈ held) : last ≤ time m := by
  have in_first := split.held_times.mem_iff.mp (List.mem_map_of_mem mem)
  obtain ⟨i, less, at_i⟩ := List.getElem_of_mem in_first
  rw [List.length_take] at less
  rw [List.getElem_take] at at_i
  obtain ⟨inside, is_last⟩ := List.getElem?_eq_some_iff.mp at_last
  rcases Nat.lt_or_ge i (n - 1) with before | after
  · have ordered := List.pairwise_iff_getElem.mp (descending_sorted rows) i (n - 1) (by omega)
      inside before
    omega
  · have same : i = n - 1 := by omega
    subst same
    omega

/-- Without a tie at the split, the rest lies before the last time that is held. -/
theorem rest_before (positive : 0 < n) (untied : (descending time rows)[n]? ≠ some last) {m : Row}
    (mem : m ∈ rest) : time m < last := by
  have in_rest := split.rest_times.mem_iff.mp (List.mem_map_of_mem mem)
  obtain ⟨i, less, at_i⟩ := List.getElem_of_mem in_rest
  rw [List.length_drop] at less
  rw [List.getElem_drop] at at_i
  obtain ⟨inside, is_last⟩ := List.getElem?_eq_some_iff.mp at_last
  have inside_n : n < (descending time rows).length := by omega
  have differs : (descending time rows)[n] ≠ last := by
    intro tied
    exact untied (by rw [List.getElem?_eq_getElem inside_n, tied])
  have first_le := List.pairwise_iff_getElem.mp (descending_sorted rows) (n - 1) n inside inside_n
    (by omega)
  have later_le : (descending time rows)[n + i] ≤ (descending time rows)[n] := by
    rcases Nat.eq_zero_or_pos i with rfl | positive_i
    · exact Int.le_refl _
    · exact List.pairwise_iff_getElem.mp (descending_sorted rows) n (n + i) inside_n (by omega)
        (by omega)
  omega

end Last

end Times

section Prefix
variable {Row : Type*} {le : Row → Row → Prop} {rows : List Row}

/-- A page takes with a row all rows before it. -/
theorem mem_take_of_le (ordered : rows.Pairwise le)
    (antisymm : ∀ a ∈ rows, ∀ b ∈ rows, le a b → le b a → a = b) {n : Nat} {p q : Row}
    (taken : q ∈ rows.take n) (mem : p ∈ rows) (before : le p q) : p ∈ rows.take n := by
  have same := antisymm p mem q (List.mem_of_mem_take taken) before
  rw [← List.take_append_drop n rows] at ordered mem
  rcases List.mem_append.mp mem with first | later
  · exact first
  · rw [same ((List.pairwise_append.mp ordered).2.2 q taken p later)]
    exact taken

theorem le_getLast (ordered : rows.Pairwise le) (refl : ∀ a, le a a) {last : Row}
    (at_last : rows.getLast? = some last) {q : Row} (mem : q ∈ rows) : le q last := by
  obtain ⟨front, rfl⟩ := List.getLast?_eq_some_iff.mp at_last
  rcases List.mem_append.mp mem with before | here
  · exact (List.pairwise_append.mp ordered).2.2 q before last (List.mem_singleton.mpr rfl)
  · rw [List.mem_singleton.mp here]
    exact refl last

end Prefix

end SortedPages
