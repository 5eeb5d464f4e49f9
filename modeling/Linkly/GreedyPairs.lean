import Mathlib.Data.Finset.Card
import Mathlib.Data.Finset.Range
import Mathlib.Order.WellFounded

/-!
Greedy pairing of rows with columns, and the cheapest pair it finds. The rows come in order; each
takes the first free column that is the same, else the first free one that is near. The columns
may run the same greedy on the transposed table, and the question is when both agree on the
cheapest pair.
-/
namespace GreedyPairs

structure Table where
  rows : Nat
  cols : Nat
  same : Nat → Nat → Bool
  near : Nat → Nat → Bool
  inside : ∀ i j, same i j ∨ near i j → i < rows ∧ j < cols

def Table.swap (t : Table) : Table where
  rows := t.cols
  cols := t.rows
  same j i := t.same i j
  near j i := t.near i j
  inside j i meet := And.symm (t.inside i j meet)

def Table.meet (t : Table) (i j : Nat) : Prop := t.same i j ∨ t.near i j

def firstFree (cols : Nat) (taken : List Nat) (fits : Nat → Bool) : Option Nat :=
  (List.range cols).find? fun j => decide (j ∉ taken) && fits j

def pick (t : Table) (taken : List Nat) (i : Nat) : Option Nat :=
  (firstFree t.cols taken (t.same i)).or (firstFree t.cols taken (t.near i))

/-- The pairs of the first rows. -/
def pairs (t : Table) : Nat → List (Nat × Nat)
  | 0 => []
  | i + 1 =>
    match pick t ((pairs t i).map Prod.snd) i with
    | none => pairs t i
    | some j => pairs t i ++ [(i, j)]

/-- The column of a row, when its turn has come. -/
def picks (t : Table) (i : Nat) : Option Nat := pick t ((pairs t i).map Prod.snd) i

def Taken (t : Table) (i j : Nat) : Prop := ∃ k < i, picks t k = some j

/-- The first element of least cost. -/
def firstMin {α : Type*} (cost : α → Nat) : List α → Option α
  | [] => none
  | a :: rest =>
    some (rest.foldl (fun best current => if cost current < cost best then current else best) a)

def cost (p : Nat × Nat) : Nat := p.1 + p.2

def cheapest (t : Table) : Option (Nat × Nat) := firstMin cost (pairs t t.rows)

section Picking

theorem first_free_some_iff {cols j : Nat} {taken : List Nat} {fits : Nat → Bool} :
    firstFree cols taken fits = some j ↔
      j < cols ∧ j ∉ taken ∧ fits j ∧ ∀ k < j, fits k → k ∈ taken := by
  simp only [firstFree, List.find?_range_eq_some, Bool.and_eq_true, decide_eq_true_eq,
    List.mem_range]
  constructor
  · intro first
    obtain ⟨⟨free, fit⟩, inside, before⟩ := first
    refine ⟨inside, free, fit, ?_⟩
    intro k less fit_k
    have := before k less
    simpa [fit_k] using this
  · intro first
    obtain ⟨inside, free, fit, before⟩ := first
    refine ⟨⟨free, fit⟩, inside, ?_⟩
    intro k less
    by_cases fit_k : fits k
    · simpa [fit_k] using before k less fit_k
    · simp [fit_k]

theorem first_free_none_iff {cols : Nat} {taken : List Nat} {fits : Nat → Bool} :
    firstFree cols taken fits = none ↔ ∀ j < cols, fits j → j ∈ taken := by
  simp only [firstFree, List.find?_eq_none, List.mem_range, Bool.and_eq_true, decide_eq_true_eq,
    not_and, Bool.not_eq_true]
  constructor
  · intro unfit j inside fit
    by_contra free
    simp [unfit j inside free] at fit
  · intro all_taken j inside free
    by_contra fit
    exact free (all_taken j inside (by simpa using fit))

variable {t : Table}

theorem pairs_succ (i : Nat) :
    pairs t (i + 1) = pairs t i ++ ((picks t i).map fun j => (i, j)).toList := by
  rw [pairs, picks]
  split <;> simp [*]

theorem mem_pairs_iff {n i j : Nat} : (i, j) ∈ pairs t n ↔ i < n ∧ picks t i = some j := by
  induction n with
  | zero => simp [pairs]
  | succ n ih =>
    rw [pairs_succ, List.mem_append, ih]
    simp only [Option.mem_toList, Option.map_eq_some_iff, Prod.mk.injEq]
    constructor
    · intro picked_before
      rcases picked_before with ⟨less, picked⟩ | ⟨k, picked, rfl, rfl⟩
      · exact ⟨by omega, picked⟩
      · exact ⟨by omega, picked⟩
    · intro paired
      obtain ⟨less, picked⟩ := paired
      by_cases last : i = n
      · subst last
        exact Or.inr ⟨j, picked, rfl, rfl⟩
      · exact Or.inl ⟨by omega, picked⟩

theorem pairs_ordered (n : Nat) : (pairs t n).Pairwise fun p q => p.1 < q.1 := by
  induction n with
  | zero => exact List.Pairwise.nil
  | succ n ih =>
    rw [pairs_succ, List.pairwise_append]
    refine ⟨ih, ?_, ?_⟩
    · cases picks t n <;> simp
    · rintro ⟨i, j⟩ early q late
      obtain ⟨less, _⟩ := mem_pairs_iff.mp early
      simp only [Option.mem_toList, Option.map_eq_some_iff] at late
      obtain ⟨k, _, rfl⟩ := late
      exact less

theorem pairs_columns_once (n : Nat) : ((pairs t n).map Prod.snd).Nodup := by
  induction n with
  | zero => exact List.nodup_nil
  | succ n ih =>
    rw [pairs_succ, List.map_append, List.nodup_append]
    refine ⟨ih, ?_, ?_⟩
    · cases picks t n <;> simp
    · rintro j early _ late rfl
      simp only [List.mem_map, Option.mem_toList, Option.map_eq_some_iff] at late
      obtain ⟨_, ⟨k, picked, rfl⟩, rfl⟩ := late
      rw [picks, pick, Option.or_eq_some_iff] at picked
      rcases picked with same | ⟨_, near⟩
      · exact (first_free_some_iff.mp same).2.1 early
      · exact (first_free_some_iff.mp near).2.1 early

theorem taken_iff {i j : Nat} : j ∈ (pairs t i).map Prod.snd ↔ Taken t i j := by
  simp only [List.mem_map, Prod.exists, exists_eq_right, mem_pairs_iff, Taken]

/-- What a row picks, in terms of what the rows before it have taken. -/
theorem picks_iff {i j : Nat} : picks t i = some j ↔ ¬ Taken t i j ∧
    (t.same i j ∧ (∀ k < j, t.same i k → Taken t i k) ∨
      t.near i j ∧ (∀ k, t.same i k → Taken t i k) ∧ ∀ k < j, t.near i k → Taken t i k) := by
  rw [picks, pick, Option.or_eq_some_iff]
  simp only [first_free_some_iff, first_free_none_iff, taken_iff]
  constructor
  · intro picked
    rcases picked with ⟨_, free, fit, before⟩ | ⟨none_same, _, free, fit, before⟩
    · exact ⟨free, Or.inl ⟨fit, before⟩⟩
    · refine ⟨free, Or.inr ⟨fit, ?_, before⟩⟩
      intro k same
      exact none_same k (t.inside i k (Or.inl same)).2 same
  · intro picked
    rcases picked with ⟨free, ⟨fit, before⟩ | ⟨fit, none_same, before⟩⟩
    · exact Or.inl ⟨(t.inside i j (Or.inl fit)).2, free, fit, before⟩
    · exact Or.inr ⟨fun k _ same => none_same k same, (t.inside i j (Or.inr fit)).2, free, fit,
        before⟩

theorem picks_meet {i j : Nat} (picked : picks t i = some j) : t.meet i j := by
  rcases (picks_iff.mp picked).2 with ⟨same, _⟩ | ⟨near, _⟩
  · exact Or.inl same
  · exact Or.inr near

/-- A row that meets a free column picks one. -/
theorem picks_or_taken {i j : Nat} (meet : t.meet i j) :
    Taken t i j ∨ ∃ k, picks t i = some k := by
  by_contra neither
  simp only [not_or, not_exists, ← Option.eq_none_iff_forall_ne_some] at neither
  obtain ⟨free, nothing⟩ := neither
  rw [picks, pick, Option.or_eq_none_iff, first_free_none_iff, first_free_none_iff] at nothing
  simp only [taken_iff] at nothing
  have inside := (t.inside i j meet).2
  rcases meet with same | near
  · exact free (nothing.1 j inside same)
  · exact free (nothing.2 j inside near)

end Picking

section FirstMin
variable {α : Type*} {cost : α → Nat}

/-- Cheaper, or as cheap and earlier. -/
def Before (cost rank : α → Nat) (a b : α) : Prop :=
  cost a < cost b ∨ cost a = cost b ∧ rank a < rank b

theorem foldl_min_eq {rank : α → Nat} {a first : α} {rest : List α}
    (sorted : (first :: rest).Pairwise fun b c => rank b < rank c) (mem : a ∈ first :: rest)
    (least : ∀ b ∈ first :: rest, b ≠ a → Before cost rank a b) :
    rest.foldl (fun best current => if cost current < cost best then current else best) first =
      a := by
  induction rest generalizing first with
  | nil => exact (List.mem_singleton.mp mem).symm
  | cons next rest ih =>
    have early : rank first < rank next :=
      (List.pairwise_cons.mp sorted).1 next List.mem_cons_self
    have sorted_first : (first :: rest).Pairwise fun b c => rank b < rank c :=
      sorted.sublist ((List.sublist_cons_self next rest).cons_cons first)
    have sorted_next := (List.pairwise_cons.mp sorted).2
    rw [List.foldl_cons]
    by_cases cheaper : cost next < cost first
    · rw [if_pos cheaper]
      apply ih sorted_next
      · rcases List.mem_cons.mp mem with rfl | later
        · rcases least next (by simp) (by rintro rfl; omega) with less | ⟨same, _⟩ <;> omega
        · exact later
      · exact fun b mb => least b (List.mem_cons_of_mem _ mb)
    · rw [if_neg cheaper]
      apply ih sorted_first
      · rcases List.mem_cons.mp mem with rfl | later
        · exact List.mem_cons_self
        · rcases List.mem_cons.mp later with rfl | last
          · rcases least first List.mem_cons_self (by rintro rfl; omega) with less | ⟨same, rank_less⟩
            · exact absurd less cheaper
            · omega
          · exact List.mem_cons_of_mem _ last
      · intro b mb
        rcases List.mem_cons.mp mb with rfl | last
        · exact least b List.mem_cons_self
        · exact least b (List.mem_cons_of_mem _ (List.mem_cons_of_mem _ last))

theorem first_min_eq {rank : α → Nat} {a : α} {l : List α}
    (sorted : l.Pairwise fun b c => rank b < rank c) (mem : a ∈ l)
    (least : ∀ b ∈ l, b ≠ a → Before cost rank a b) : firstMin cost l = some a := by
  cases l with
  | nil => simp at mem
  | cons first rest => rw [firstMin, foldl_min_eq sorted mem least]

theorem first_min_mem {a : α} {l : List α} (found : firstMin cost l = some a) : a ∈ l := by
  cases l with
  | nil => simp [firstMin] at found
  | cons first rest =>
    rw [← Option.some.inj found]
    clear found
    induction rest generalizing first with
    | nil => exact List.mem_singleton_self _
    | cons next rest ih =>
      rw [List.foldl_cons]
      split
      · exact List.mem_cons_of_mem _ (ih next)
      · rcases List.mem_cons.mp (ih first) with same | later
        · rw [same]
          exact List.mem_cons_self
        · exact List.mem_cons_of_mem _ (List.mem_cons_of_mem _ later)

theorem first_min_map {β : Type*} {cost : β → Nat} (f : α → β) (l : List α) :
    firstMin cost (l.map f) = (firstMin (fun a => cost (f a)) l).map f := by
  cases l with
  | nil => rfl
  | cons first rest =>
    simp only [List.map_cons, firstMin, Option.map_some, Option.some.injEq]
    induction rest generalizing first with
    | nil => rfl
    | cons next rest ih =>
      simp only [List.map_cons, List.foldl_cons]
      split <;> exact ih _

theorem first_min_none_iff {l : List α} : firstMin cost l = none ↔ l = [] := by
  cases l <;> simp [firstMin]

end FirstMin

section Settling
variable (t : Table)

/-- When the turn of the row has come, a column that is the same is still free. -/
def FindsSame (i : Nat) : Prop := ∃ k, t.same i k ∧ ¬ Taken t i k

/-- A pair that meets and that its row does not pass over for a column that is the same. -/
def Open (p : Nat × Nat) : Prop := t.meet p.1 p.2 ∧ (t.same p.1 p.2 ∨ ¬ FindsSame t p.1)

/-- The pair comes before every other open one. -/
def Leads (p : Nat × Nat) : Prop := ∀ q, Open t q → q ≠ p → Before cost Prod.fst p q

/-- A pair that is open, and the first open one, for the rows and for the columns. -/
def Settled (p : Nat × Nat) : Prop :=
  (Open t p ∧ Leads t p) ∧ Open t.swap p.swap ∧ Leads t.swap p.swap

def Agree : Prop := cheapest t = (cheapest t.swap).map Prod.swap

variable {t}

theorem picked_open {i j : Nat} (picked : picks t i = some j) : Open t (i, j) := by
  refine ⟨picks_meet picked, ?_⟩
  rcases (picks_iff.mp picked).2 with ⟨same, _⟩ | ⟨_, all_taken, _⟩
  · exact Or.inl same
  · right
    intro blocked
    obtain ⟨k, same, free⟩ := blocked
    exact free (all_taken k same)

/-- No open pair in the row or in the column of a leading pair is cheaper. -/
theorem leading_column_free {p : Nat × Nat} (leads : Leads t p) : ¬ Taken t p.1 p.2 := by
  intro used
  obtain ⟨l, less, picked⟩ := used
  have differs : (l, p.2) ≠ p := by
    intro same
    rw [← same] at less
    exact Nat.lt_irrefl _ less
  have later := leads (l, p.2) (picked_open picked) differs
  simp only [Before, cost] at later
  omega

theorem leading_row_first {p : Nat × Nat} (leads : Leads t p) {k : Nat} (less : k < p.2) :
    ¬ Open t (p.1, k) := by
  intro opened
  have differs : (p.1, k) ≠ p := by
    intro same
    rw [← same] at less
    exact Nat.lt_irrefl _ less
  have later := leads (p.1, k) opened differs
  simp only [Before, cost] at later
  omega

theorem leading_picked {p : Nat × Nat} (opened : Open t p) (leads : Leads t p) :
    picks t p.1 = some p.2 := by
  rw [picks_iff]
  refine ⟨leading_column_free leads, ?_⟩
  by_cases same : t.same p.1 p.2
  · left
    refine ⟨same, ?_⟩
    intro k less same_k
    exact absurd ⟨Or.inl same_k, Or.inl same_k⟩ (leading_row_first leads less)
  · right
    have finds_none := opened.2.resolve_left same
    refine ⟨opened.1.resolve_left same, ?_, ?_⟩
    · intro k same_k
      by_contra free
      exact finds_none ⟨k, same_k, free⟩
    · intro k less near_k
      exact absurd ⟨Or.inr near_k, Or.inr finds_none⟩ (leading_row_first leads less)

theorem cheapest_of_leading {p : Nat × Nat} (opened : Open t p) (leads : Leads t p) :
    cheapest t = some p := by
  have inside := t.inside p.1 p.2 opened.1
  apply first_min_eq (pairs_ordered t.rows)
  · exact mem_pairs_iff.mpr ⟨inside.1, leading_picked opened leads⟩
  · rintro ⟨i, j⟩ mem differs
    exact leads (i, j) (picked_open (mem_pairs_iff.mp mem).2) differs

theorem cheapest_none_iff : cheapest t = none ↔ ∀ i j, ¬ t.meet i j := by
  rw [cheapest, first_min_none_iff, List.eq_nil_iff_forall_not_mem]
  constructor
  · intro empty i j meet
    have inside := t.inside i j meet
    rcases picks_or_taken meet with ⟨l, less, picked⟩ | ⟨k, picked⟩
    · exact empty (l, j) (mem_pairs_iff.mpr ⟨by omega, picked⟩)
    · exact empty (i, k) (mem_pairs_iff.mpr ⟨inside.1, picked⟩)
  · rintro unmet ⟨i, j⟩ mem
    exact unmet i j (picks_meet (mem_pairs_iff.mp mem).2)

/-- Among the open pairs, one comes first. -/
theorem exists_leading {p : Nat × Nat} (opened : Open t p) : ∃ q, Open t q ∧ Leads t q := by
  let order := Prod.Lex (fun a b : Nat => a < b) (fun a b : Nat => a < b)
  have founded : WellFounded order := WellFounded.prod_lex Nat.lt_wfRel.wf Nat.lt_wfRel.wf
  obtain ⟨q, opened_q, least⟩ := (InvImage.wf (fun q => (cost q, q.1)) founded).has_min
    {q | Open t q} ⟨p, opened⟩
  refine ⟨q, opened_q, ?_⟩
  rintro ⟨i, j⟩ opened_ij differs
  have not_less := least (i, j) opened_ij
  simp only [order, InvImage, Prod.lex_def, not_or, not_and] at not_less
  obtain ⟨cost_le, rank_le⟩ := not_less
  by_cases same_cost : cost q = cost (i, j)
  · right
    refine ⟨same_cost, ?_⟩
    have := rank_le same_cost.symm
    by_contra later
    have same_row : q.1 = i := by
      simp only at this later
      omega
    have same_col : q.2 = j := by
      simp only [cost] at same_cost
      omega
    exact differs (Prod.ext same_row.symm same_col.symm)
  · left
    omega

/-- The cheapest pair of the greedy is the first open pair. -/
theorem cheapest_some_iff {p : Nat × Nat} : cheapest t = some p ↔ Open t p ∧ Leads t p := by
  constructor
  · intro found
    have picked := (mem_pairs_iff.mp (first_min_mem found)).2
    obtain ⟨q, opened, leads⟩ := exists_leading (picked_open picked)
    obtain rfl := Option.some.inj (found.symm.trans (cheapest_of_leading opened leads))
    exact ⟨opened, leads⟩
  · intro least
    obtain ⟨opened, leads⟩ := least
    exact cheapest_of_leading opened leads

/-- Greedy pairing does not lose the best open pair. -/
theorem cheapest_le_open {p : Nat × Nat} (opened : Open t p) :
    ∃ q, cheapest t = some q ∧ cost q ≤ cost p := by
  obtain ⟨q, opened_q, leads⟩ := exists_leading opened
  refine ⟨q, cheapest_of_leading opened_q leads, ?_⟩
  by_cases same : p = q
  · rw [same]
  · rcases leads p opened same with less | ⟨equal, _⟩ <;> omega

theorem agree_iff_settled : Agree t ↔ (∀ i j, ¬ t.meet i j) ∨ ∃ p, Settled t p := by
  constructor
  · intro agree
    cases found : cheapest t with
    | none => exact Or.inl (cheapest_none_iff.mp found)
    | some p =>
      right
      have other : cheapest t.swap = some p.swap := by
        rw [Agree, found] at agree
        obtain ⟨q, same, swapped⟩ := Option.map_eq_some_iff.mp agree.symm
        rw [same, ← swapped, Prod.swap_swap]
      exact ⟨p, cheapest_some_iff.mp found, cheapest_some_iff.mp other⟩
  · intro given
    rcases given with unmet | ⟨p, settled, settled_swap⟩
    · rw [Agree, cheapest_none_iff.mpr unmet, cheapest_none_iff.mpr fun j i => unmet i j]
      rfl
    · rw [Agree, cheapest_some_iff.mpr settled, cheapest_some_iff.mpr settled_swap]
      simp

end Settling

section Bounds
variable (t : Table)

/-- The columns that are the same as the row are no more than the rows like it that come before. -/
def Spent (i : Nat) : Prop :=
  ((Finset.range t.cols).filter fun k => t.same i k).card ≤
    ((Finset.range i).filter fun l => ∀ k < t.cols, t.same l k = t.same i k).card

/-- A pair that its row does not pass over, whatever the other rows take. -/
def Sure (p : Nat × Nat) : Prop := t.same p.1 p.2 ∨ t.near p.1 p.2 ∧ Spent t p.1

/-- A pair that its row may come to: each column that is the same meets an earlier row, at a higher
    cost. -/
def Possible (p : Nat × Nat) : Prop :=
  t.same p.1 p.2 ∨ t.near p.1 p.2 ∧
    ∀ k, t.same p.1 k → ∃ l < p.1, t.meet l k ∧ cost p < cost (l, k)

def Ahead (p : Nat × Nat) : Prop :=
  Sure t p ∧ ∀ q, Possible t q → q ≠ p → Before cost Prod.fst p q

def Unbeaten (p : Nat × Nat) : Prop :=
  Possible t p ∧ ∀ q, Sure t q → q ≠ p → Before cost Prod.fst p q

/-- The table alone says that rows and columns come to this pair first. -/
def Clear (p : Nat × Nat) : Prop := Ahead t p ∧ Ahead t.swap p.swap

/-- The table alone does not say that rows or columns come to another pair first. -/
def Contending (p : Nat × Nat) : Prop := Unbeaten t p ∧ Unbeaten t.swap p.swap

variable {t}

theorem taken_later {i l k : Nat} (less : l ≤ i) (taken : Taken t l k) : Taken t i k := by
  obtain ⟨m, before, picked⟩ := taken
  exact ⟨m, by omega, picked⟩

theorem picks_once {l m k : Nat} (first : picks t l = some k) (second : picks t m = some k) :
    l = m := by
  rcases Nat.lt_trichotomy l m with less | same | greater
  · exact absurd ⟨l, less, first⟩ (picks_iff.mp second).1
  · exact same
  · exact absurd ⟨m, greater, second⟩ (picks_iff.mp first).1

/-- A row that finds a column that is the same picks one that is. -/
theorem picks_same {l : Nat} (finds : FindsSame t l) : ∃ j, picks t l = some j ∧ t.same l j := by
  obtain ⟨k, same, free⟩ := finds
  obtain ⟨j, picked⟩ := (picks_or_taken (Or.inl same)).resolve_left free
  refine ⟨j, picked, ?_⟩
  rcases (picks_iff.mp picked).2 with ⟨same_j, _⟩ | ⟨_, all_taken, _⟩
  · exact same_j
  · exact absurd (all_taken k same) free

/-- Each row like it that came before has taken one of the columns. -/
theorem finds_none_of_spent {i : Nat} (spent : Spent t i) : ¬ FindsSame t i := by
  intro finds
  obtain ⟨k, same, free⟩ := finds
  have taken_by : ∀ l ∈ (Finset.range i).filter fun l => ∀ k < t.cols, t.same l k = t.same i k,
      ∃ j, picks t l = some j ∧ t.same i j ∧ j ≠ k := by
    intro l mem
    obtain ⟨before, alike⟩ := Finset.mem_filter.mp mem
    have less := Finset.mem_range.mp before
    have finds_l : FindsSame t l := by
      refine ⟨k, ?_, fun taken => free (taken_later less.le taken)⟩
      rw [alike k (t.inside i k (Or.inl same)).2]
      exact same
    obtain ⟨j, picked, same_j⟩ := picks_same finds_l
    refine ⟨j, picked, ?_, ?_⟩
    · rw [← alike j (t.inside l j (Or.inl same_j)).2]
      exact same_j
    · rintro rfl
      exact free ⟨l, less, picked⟩
  have in_columns : k ∈ (Finset.range t.cols).filter fun k => t.same i k :=
    Finset.mem_filter.mpr ⟨Finset.mem_range.mpr (t.inside i k (Or.inl same)).2, same⟩
  have fewer : ((Finset.range i).filter fun l => ∀ k < t.cols, t.same l k = t.same i k).card ≤
      (((Finset.range t.cols).filter fun k => t.same i k).erase k).card := by
    apply Finset.card_le_card_of_injOn fun l => (picks t l).getD 0
    · intro l mem
      obtain ⟨j, picked, same_j, differs⟩ := taken_by l mem
      simp only [picked, Option.getD_some, Finset.coe_erase, Finset.coe_filter, Finset.mem_range,
        Set.mem_sdiff, Set.mem_ofPred_eq, Set.mem_singleton_iff]
      exact ⟨⟨(t.inside i j (Or.inl same_j)).2, same_j⟩, differs⟩
    · intro l mem m mem_m equal
      obtain ⟨j, picked, _⟩ := taken_by l mem
      obtain ⟨j', picked_m, _⟩ := taken_by m mem_m
      simp only [picked, picked_m, Option.getD_some] at equal
      exact picks_once picked (equal ▸ picked_m)
  have positive := Finset.card_pos.mpr ⟨k, in_columns⟩
  rw [Finset.card_erase_of_mem in_columns] at fewer
  have enough : _ ≤ _ := spent
  omega

theorem open_of_sure {p : Nat × Nat} (sure : Sure t p) : Open t p := by
  rcases sure with same | ⟨near, spent⟩
  · exact ⟨Or.inl same, Or.inl same⟩
  · exact ⟨Or.inr near, Or.inr (finds_none_of_spent spent)⟩

/-- What has been taken from under the row of a leading pair has cost more. -/
theorem possible_of_leading {p : Nat × Nat} (opened : Open t p) (leads : Leads t p) :
    Possible t p := by
  obtain ⟨meet, same | finds_none⟩ := opened
  · exact Or.inl same
  rcases meet with same | near
  · exact Or.inl same
  refine Or.inr ⟨near, ?_⟩
  intro k same
  obtain ⟨l, less, picked⟩ : Taken t p.1 k := by
    by_contra free
    exact finds_none ⟨k, same, free⟩
  have differs : (l, k) ≠ p := by
    rintro rfl
    exact Nat.lt_irrefl _ less
  refine ⟨l, less, picks_meet picked, ?_⟩
  have later := leads (l, k) (picked_open picked) differs
  simp only [Before] at later
  omega

theorem leads_of_ahead {p : Nat × Nat} (ahead : Ahead t p) : Leads t p := by
  obtain ⟨sure, first⟩ := ahead
  obtain ⟨q, opened, leads⟩ := exists_leading (open_of_sure sure)
  by_cases same : q = p
  · exact same ▸ leads
  · have before := first q (possible_of_leading opened leads) same
    have after := leads p (open_of_sure sure) (Ne.symm same)
    simp only [Before] at before after
    omega

theorem settled_of_clear {p : Nat × Nat} (clear : Clear t p) : Settled t p :=
  ⟨⟨open_of_sure clear.1.1, leads_of_ahead clear.1⟩, open_of_sure clear.2.1,
    leads_of_ahead clear.2⟩

theorem possible_meets {p : Nat × Nat} (possible : Possible t p) : t.meet p.1 p.2 :=
  possible.imp_right And.left

/-- The only pair that meets. -/
theorem clear_of_only {p : Nat × Nat} (same : t.same p.1 p.2)
    (only : ∀ q : Nat × Nat, t.meet q.1 q.2 → q = p) : Clear t p := by
  refine ⟨⟨Or.inl same, ?_⟩, Or.inl same, ?_⟩
  · exact fun q possible differs => absurd (only q (possible_meets possible)) differs
  · intro q possible differs
    have meet : t.meet q.2 q.1 := possible_meets possible
    have same_pair := only q.swap meet
    exact absurd (Prod.swap_injective (same_pair.trans p.swap_swap.symm)) differs

theorem unbeaten_of_leading {p : Nat × Nat} (opened : Open t p) (leads : Leads t p) :
    Unbeaten t p :=
  ⟨possible_of_leading opened leads, fun q sure differs => leads q (open_of_sure sure) differs⟩

theorem contending_of_settled {p : Nat × Nat} (settled : Settled t p) : Contending t p :=
  ⟨unbeaten_of_leading settled.1.1 settled.1.2, unbeaten_of_leading settled.2.1 settled.2.2⟩

end Bounds

section Plain
variable {t : Table}

/-- Near pairs have numbers that are the same as none. -/
def Plain (t : Table) : Prop :=
  ∀ i j, t.near i j → ¬ t.same i j → (∀ k, ¬ t.same i k) ∧ ∀ l, ¬ t.same l j

theorem open_of_plain (plain : Plain t) {p : Nat × Nat} (meet : t.meet p.1 p.2) : Open t p := by
  refine ⟨meet, ?_⟩
  by_cases same : t.same p.1 p.2
  · exact Or.inl same
  · right
    intro blocked
    obtain ⟨k, same_k, _⟩ := blocked
    exact (plain p.1 p.2 (meet.resolve_left same) same).1 k same_k

theorem plain_swap (plain : Plain t) : Plain t.swap :=
  fun j i near differs => And.symm (plain i j near differs)

/-- Where no near pair competes with equal names, the sides agree exactly if a single pair is the
    cheapest one that meets. -/
theorem agree_iff_single_cheapest (plain : Plain t) :
    Agree t ↔ (∀ i j, ¬ t.meet i j) ∨
      ∃ p : Nat × Nat, t.meet p.1 p.2 ∧ ∀ q : Nat × Nat, t.meet q.1 q.2 → q ≠ p →
        cost p < cost q := by
  rw [agree_iff_settled]
  refine or_congr_right (exists_congr fun p => ?_)
  constructor
  · intro leads_both
    obtain ⟨⟨opened, leads⟩, _, leads_swap⟩ := leads_both
    refine ⟨opened.1, ?_⟩
    intro q meet differs
    have rows := leads q (open_of_plain plain meet) differs
    have cols := leads_swap q.swap (open_of_plain (plain_swap plain) meet)
      fun same => differs (Prod.swap_injective same)
    simp only [Before, cost, Prod.fst_swap, Prod.snd_swap] at rows cols ⊢
    omega
  · intro cheapest
    obtain ⟨meet, least⟩ := cheapest
    refine ⟨⟨open_of_plain plain meet, ?_⟩, open_of_plain (plain_swap plain) meet, ?_⟩
    · intro q opened differs
      exact Or.inl (least q opened.1 differs)
    · intro q opened differs
      left
      have := least q.swap opened.1 fun same => differs (by rw [← same, Prod.swap_swap])
      simp only [cost, Prod.fst_swap, Prod.snd_swap] at this ⊢
      omega

end Plain

end GreedyPairs
