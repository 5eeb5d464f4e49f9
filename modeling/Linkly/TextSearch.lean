import Mathlib.Data.List.Basic
import Mathlib.Data.List.Infix

/-!
Searching a text for a pattern: whether it stands somewhere, perhaps not right behind certain
units, and the first place where it stands.
-/
namespace TextSearch

variable {α : Type*} [DecidableEq α]

section Occurrence
variable (joins : α → Bool) (pattern : List α)

/-- `joined` says whether the unit in front of the text joins what follows. -/
def occursBehind (joined : Bool) : List α → Bool
  | [] => false
  | u :: text =>
    (!joined && pattern.isPrefixOf (u :: text)) || occursBehind (joins u) text

/-- The pattern stands in the text, and no unit that joins it stands right in front. -/
def occurs (text : List α) : Bool := occursBehind joins pattern false text

def contains (text : List α) : Bool := occurs (fun _ => false) pattern text

variable {joins pattern}

omit [DecidableEq α] in
theorem last_joined (u : α) (front : List α) (joined : Bool) :
    ((u :: front).getLast?.map joins).getD joined = (front.getLast?.map joins).getD (joins u) := by
  rw [List.getLast?_cons]
  cases front.getLast? <;> rfl

theorem occurs_behind_iff (present : pattern ≠ []) {joined : Bool} {text : List α} :
    occursBehind joins pattern joined text = true ↔ ∃ front back,
      text = front ++ pattern ++ back ∧ (front.getLast?.map joins).getD joined = false := by
  induction text generalizing joined with
  | nil => simp [occursBehind, present]
  | cons u text ih =>
    rw [occursBehind, Bool.or_eq_true, Bool.and_eq_true, Bool.not_eq_true', ih,
      List.isPrefixOf_iff_prefix]
    constructor
    · rintro (⟨free, back, here⟩ | ⟨front, back, rfl, free⟩)
      · exact ⟨[], back, here.symm, free⟩
      · exact ⟨u :: front, back, rfl, by rw [last_joined, free]⟩
    · rintro ⟨front, back, same, free⟩
      cases front with
      | nil => exact Or.inl ⟨free, back, same.symm⟩
      | cons v front =>
        obtain ⟨rfl, rfl⟩ := List.cons.inj same
        rw [last_joined] at free
        exact Or.inr ⟨front, back, rfl, free⟩

theorem occurs_iff (present : pattern ≠ []) {text : List α} :
    occurs joins pattern text = true ↔ ∃ front back,
      text = front ++ pattern ++ back ∧ (front.getLast?.map joins).getD false = false :=
  occurs_behind_iff present

theorem contains_iff (present : pattern ≠ []) {text : List α} :
    contains pattern text = true ↔ ∃ front back, text = front ++ pattern ++ back := by
  rw [contains, occurs_iff present]
  constructor
  · rintro ⟨front, back, same, _⟩
    exact ⟨front, back, same⟩
  · rintro ⟨front, back, same⟩
    refine ⟨front, back, same, ?_⟩
    cases front.getLast? <;> rfl

theorem occurs_append_left (present : pattern ≠ []) {text : List α}
    (found : occurs joins pattern text = true) (more : List α) :
    occurs joins pattern (text ++ more) = true := by
  obtain ⟨front, back, rfl, free⟩ := (occurs_iff present).mp found
  exact (occurs_iff present).mpr ⟨front, back ++ more, by simp, free⟩

theorem not_occurs_of_absent {u : α} (mem : u ∈ pattern) {text : List α} (absent : u ∉ text) :
    occurs joins pattern text = false := by
  rw [Bool.eq_false_iff, ne_eq, occurs_iff (List.ne_nil_of_mem mem)]
  rintro ⟨front, back, rfl, _⟩
  exact absent (List.mem_append_left back (List.mem_append_right front mem))

omit [DecidableEq α] in
/-- A pattern does not reach over a unit that it does not have. -/
theorem prefix_before {sep : α} (absent : sep ∉ pattern) (text more : List α) :
    pattern <+: text ++ sep :: more ↔ pattern <+: text := by
  constructor
  · intro begins
    by_cases short : pattern.length ≤ text.length
    · exact List.prefix_of_prefix_length_le begins (List.prefix_append ..) short
    · have reaches : text ++ [sep] <+: text ++ sep :: more := by simp
      have beyond : text ++ [sep] <+: pattern :=
        List.prefix_of_prefix_length_le reaches begins (by rw [List.length_append]; simp; omega)
      exact absurd (beyond.subset (by simp)) absent
  · intro begins
    exact begins.trans (List.prefix_append ..)

theorem occurs_behind_split (present : pattern ≠ []) {sep : α} (absent : sep ∉ pattern)
    (parts : joins sep = false) (text more : List α) (joined : Bool) :
    occursBehind joins pattern joined (text ++ sep :: more) =
      (occursBehind joins pattern joined text || occurs joins pattern more) := by
  induction text generalizing joined with
  | nil =>
    have elsewhere : pattern.isPrefixOf (sep :: more) = false := by
      rw [Bool.eq_false_iff, ne_eq, List.isPrefixOf_iff_prefix]
      intro begins
      have empty := (prefix_before absent [] more).mp begins
      exact present (List.prefix_nil.mp empty)
    simp [occursBehind, elsewhere, parts, occurs]
  | cons u text ih =>
    have same : pattern.isPrefixOf (u :: (text ++ sep :: more)) =
        pattern.isPrefixOf (u :: text) := by
      rw [Bool.eq_iff_iff, List.isPrefixOf_iff_prefix, List.isPrefixOf_iff_prefix,
        ← List.cons_append, prefix_before absent]
    rw [List.cons_append, occursBehind, ih, same, occursBehind, Bool.or_assoc]

/-- A unit that neither is in the pattern nor joins it parts the search. -/
theorem occurs_split (present : pattern ≠ []) {sep : α} (absent : sep ∉ pattern)
    (parts : joins sep = false) (text more : List α) :
    occurs joins pattern (text ++ sep :: more) =
      (occurs joins pattern text || occurs joins pattern more) :=
  occurs_behind_split present absent parts text more false

/-- Where the last unit of the pattern is absent no occurrence ends. -/
theorem occurs_append_right {last : α} (ends : pattern.getLast? = some last) {more : List α}
    (absent : last ∉ more) (text : List α) :
    occurs joins pattern (text ++ more) = occurs joins pattern text := by
  obtain ⟨front_part, rfl⟩ := List.getLast?_eq_some_iff.mp ends
  have present : front_part ++ [last] ≠ [] := by simp
  rw [Bool.eq_iff_iff, occurs_iff present]
  constructor
  · rintro ⟨front, back, same, free⟩
    rw [occurs_iff present]
    rcases List.append_eq_append_iff.mp same with ⟨beyond, whole, rest⟩ | ⟨left, whole, rest⟩
    · rcases List.eq_nil_or_concat beyond with rfl | ⟨inner, u, rfl⟩
      · exact ⟨front, [], by simpa using whole.symm, free⟩
      · have same_last : last = u := by
          have lasts := congrArg List.getLast? whole
          simpa [← List.append_assoc] using lasts
        exact absurd (by rw [rest, same_last]; simp) absent
    · exact ⟨front, left, whole, free⟩
  · intro found
    exact (occurs_iff present).mp (occurs_append_left present found more)

end Occurrence

section Cut
variable (pattern : List α)

/-- What stands before the first occurrence of the pattern, and behind it. -/
def cut : List α → Option (List α × List α)
  | [] => none
  | u :: text =>
    if pattern.isPrefixOf (u :: text) then some ([], (u :: text).drop pattern.length)
    else (cut text).map fun found => (u :: found.1, found.2)

variable {pattern}

theorem cut_spec {text front back : List α} (found : cut pattern text = some (front, back)) :
    text = front ++ pattern ++ back := by
  induction text generalizing front with
  | nil => simp [cut] at found
  | cons u text ih =>
    rw [cut] at found
    split_ifs at found with here
    · obtain ⟨rfl, rfl⟩ := Prod.mk.inj (Option.some.inj found)
      exact List.prefix_append_drop (List.isPrefixOf_iff_prefix.mp here)
    · obtain ⟨⟨front', back'⟩, later, same⟩ := Option.map_eq_some_iff.mp found
      obtain ⟨rfl, rfl⟩ := Prod.mk.inj same
      rw [ih later]
      rfl

theorem cut_is_some (text : List α) :
    (cut pattern text).isSome = contains pattern text := by
  rw [contains, occurs]
  induction text with
  | nil => rfl
  | cons u text ih =>
    rw [cut, occursBehind, ← ih]
    split_ifs with here
    · simp [here]
    · simp [here]

/-- No occurrence stands before the one that is cut at. -/
theorem cut_first {text front back before after : List α}
    (found : cut pattern text = some (front, back)) (whole : text = before ++ pattern ++ after) :
    front.length ≤ before.length := by
  induction text generalizing front back before with
  | nil => simp [cut] at found
  | cons u text ih =>
    rw [cut] at found
    split_ifs at found with here
    · obtain ⟨rfl, _⟩ := Prod.mk.inj (Option.some.inj found)
      exact Nat.zero_le _
    · obtain ⟨⟨front', back'⟩, later, same⟩ := Option.map_eq_some_iff.mp found
      obtain ⟨rfl, _⟩ := Prod.mk.inj same
      cases before with
      | nil =>
        rw [List.isPrefixOf_iff_prefix, whole, List.append_assoc, List.nil_append] at here
        exact absurd (List.prefix_append pattern after) here
      | cons v before =>
        have rest := (List.cons.inj whole).2
        exact Nat.succ_le_succ (ih later rest)

/-- What stands behind the first occurrence does not matter for its place. -/
theorem cut_replace_back (present : pattern ≠ []) {text front back : List α}
    (found : cut pattern text = some (front, back)) (other : List α) :
    cut pattern (front ++ pattern ++ other) = some (front, other) := by
  have whole := cut_spec found
  subst whole
  induction front with
  | nil =>
    cases pattern with
    | nil => exact absurd rfl present
    | cons p rest => simp [cut]
  | cons u front ih =>
    rw [List.cons_append, List.cons_append, cut] at found
    rw [List.cons_append, List.cons_append, cut]
    split_ifs at found with here
    · simp at found
    · obtain ⟨⟨front', back'⟩, later, same⟩ := Option.map_eq_some_iff.mp found
      obtain ⟨front_same, back_same⟩ := Prod.mk.inj same
      obtain rfl : front' = front := (List.cons.inj front_same).2
      obtain rfl : back' = back := back_same
      have elsewhere : ¬ pattern.isPrefixOf (u :: (front' ++ pattern ++ other)) = true := by
        rw [List.isPrefixOf_iff_prefix] at here ⊢
        intro begins
        have reaches : u :: (front' ++ pattern) <+: u :: (front' ++ pattern ++ other) := by simp
        have within : pattern <+: u :: (front' ++ pattern) :=
          List.prefix_of_prefix_length_le begins reaches (by simp; omega)
        exact here (within.trans (by simp))
      rw [if_neg elsewhere, ih later, Option.map_some]

theorem cut_append (present : pattern ≠ []) {text front back : List α}
    (found : cut pattern text = some (front, back)) (more : List α) :
    cut pattern (text ++ more) = some (front, back ++ more) := by
  rw [cut_spec found, List.append_assoc]
  exact cut_replace_back present found (back ++ more)

end Cut

section Removal
variable {β : Type*} (matchLength : List β → Option Nat)

/-- Removes the matches from left to right. The first `skip` units belong to the match before. -/
def removeMatches (skip : Nat) : List β → List β
  | [] => []
  | u :: text =>
    if 0 < skip then removeMatches (skip - 1) text
    else
      match matchLength (u :: text) with
      | some length => removeMatches (length - 1) text
      | none => u :: removeMatches 0 text

variable {matchLength}

theorem remove_sublist (skip : Nat) (text : List β) :
    (removeMatches matchLength skip text).Sublist text := by
  induction text generalizing skip with
  | nil => exact List.Sublist.refl _
  | cons u text ih =>
    rw [removeMatches]
    split
    · exact (ih _).cons u
    · split
      · exact (ih _).cons u
      · exact (ih _).cons_cons u

theorem remove_skip (skip : Nat) (text : List β) :
    removeMatches matchLength skip text = removeMatches matchLength 0 (text.drop skip) := by
  induction text generalizing skip with
  | nil => rw [List.drop_nil]; rfl
  | cons u text ih =>
    cases skip with
    | zero => rfl
    | succ skip =>
      rw [removeMatches, if_pos (Nat.succ_pos skip), List.drop_succ_cons]
      exact ih skip

theorem remove_none {text : List β}
    (free : ∀ rest, rest <:+ text → matchLength rest = none) :
    removeMatches matchLength 0 text = text := by
  induction text with
  | nil => rfl
  | cons u text ih =>
    have later := ih fun rest tail => free rest (tail.trans (List.suffix_cons u text))
    rw [removeMatches, if_neg (Nat.lt_irrefl 0), free _ (List.suffix_refl _), later]

theorem remove_match {whole more : List β} (present : whole ≠ [])
    (matched : matchLength (whole ++ more) = some whole.length) :
    removeMatches matchLength 0 (whole ++ more) = removeMatches matchLength 0 more := by
  cases whole with
  | nil => exact absurd rfl present
  | cons u whole =>
    rw [List.cons_append] at matched ⊢
    rw [removeMatches, if_neg (Nat.lt_irrefl 0), matched]
    exact (remove_skip _ _).trans (by simp)

/-- When no match that begins in the first text reaches into the second one, the matches are
    removed from each text by itself. -/
theorem remove_append {text more : List β}
    (apart : ∀ u rest, u :: rest <:+ text →
      matchLength (u :: rest ++ more) = matchLength (u :: rest))
    (within : ∀ rest length, matchLength rest = some length → length ≤ rest.length)
    (skip : Nat) (inside : skip ≤ text.length) :
    removeMatches matchLength skip (text ++ more) =
      removeMatches matchLength skip text ++ removeMatches matchLength 0 more := by
  induction text generalizing skip with
  | nil =>
    obtain rfl := Nat.le_zero.mp inside
    rfl
  | cons u text ih =>
    have later := ih fun v rest tail => apart v rest (tail.trans (List.suffix_cons u text))
    have here := apart u text (List.suffix_refl _)
    rw [List.cons_append] at here ⊢
    rw [removeMatches, removeMatches, here]
    split
    · exact later _ (by rw [List.length_cons] at inside; omega)
    · split
      · rename_i length matched
        have bounded := within _ _ matched
        exact later _ (by rw [List.length_cons] at bounded; omega)
      · rw [later 0 (Nat.zero_le _), List.cons_append]

end Removal

end TextSearch
