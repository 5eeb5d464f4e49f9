import Mathlib.Data.List.AList

/-!
Counts by key: a map whose values are raised by one at a time, and their total.
-/
namespace Tallies
open List

variable {K : Type} [DecidableEq K]

abbrev Tally (K : Type) := AList fun _ : K => Nat

def bump (key : K) (tally : Tally K) : Tally K :=
  tally.insert key ((tally.lookup key).getD 0 + 1)

def sum (entries : List (Sigma fun _ : K => Nat)) : Nat :=
  entries.foldr (fun entry rest => entry.2 + rest) 0

def total (tally : Tally K) : Nat := sum tally.entries

theorem sum_kerase (key : K) (entries : List (Sigma fun _ : K => Nat)) :
    sum entries = (entries.dlookup key).getD 0 + sum (entries.kerase key) := by
  induction entries with
  | nil => rfl
  | cons entry entries ih =>
    obtain ⟨own, count⟩ := entry
    by_cases same : key = own
    · subst same
      have rest : kerase key (⟨key, count⟩ :: entries) = entries := kerase_cons_eq rfl
      rw [dlookup_cons_eq, rest]
      rfl
    · rw [dlookup_cons_ne entries ⟨own, count⟩ same, kerase_cons_ne same]
      simp only [sum, foldr_cons] at ih ⊢
      omega

theorem total_bump (key : K) (tally : Tally K) : total (bump key tally) = total tally + 1 := by
  have before := sum_kerase key tally.entries
  have found : tally.lookup key = tally.entries.dlookup key := rfl
  rw [total, bump, AList.entries_insert, total, before, found]
  simp only [sum, foldr_cons]
  omega

theorem lookup_bump (key other : K) (tally : Tally K) : ((bump key tally).lookup other).getD 0 =
    (tally.lookup other).getD 0 + if other = key then 1 else 0 := by
  by_cases same : other = key
  · subst same
    simp [bump]
  · simp [bump, AList.lookup_insert_ne same, same]

end Tallies
