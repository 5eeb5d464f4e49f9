import Mathlib.Data.List.Forall2

/-!
Texts that can be read back in only one way, whatever stands behind them: tokens that end before a
unit that stops them, and sequences of readable texts with a separator between them.
-/
namespace UniqueReading

variable {α X : Type*}

/-- The text is at its end, or a unit that stops tokens comes next. -/
def Stopped (stop : α → Bool) (rest : List α) : Prop := ∀ u ∈ rest.head?, stop u = true

/-- In front of what stops tokens, the text of `x` is the text only of what is the same. -/
def ReadBack (stop : α → Bool) (write : X → List α) (same : X → X → Prop) (x : X) : Prop :=
  ∀ y rest more, Stopped stop rest → Stopped stop more →
    write x ++ rest = write y ++ more → same x y ∧ rest = more

section Tokens
variable {stop : α → Bool}

theorem stopped_cons {u : α} (stops : stop u = true) (rest : List α) :
    Stopped stop (u :: rest) := by
  intro v head
  rw [List.head?_cons, Option.mem_some_iff] at head
  exact head ▸ stops

theorem stopped_nil : Stopped stop [] := by
  intro u head
  simp at head

/-- Tokens in front of what stops them can be read back. -/
theorem token_append_injective {a b rest more : List α} (plain_a : ∀ u ∈ a, stop u = false)
    (plain_b : ∀ u ∈ b, stop u = false) (rest_stops : Stopped stop rest)
    (more_stops : Stopped stop more) (same : a ++ rest = b ++ more) : a = b ∧ rest = more := by
  induction a generalizing b with
  | nil =>
    cases b with
    | nil => exact ⟨rfl, same⟩
    | cons v b =>
      have stops := rest_stops v (by rw [List.nil_append] at same; simp [same])
      rw [plain_b v List.mem_cons_self] at stops
      simp at stops
  | cons u a ih =>
    cases b with
    | nil =>
      have stops := more_stops u (by rw [List.nil_append] at same; simp [← same])
      rw [plain_a u List.mem_cons_self] at stops
      simp at stops
    | cons v b =>
      obtain ⟨rfl, later⟩ := List.cons.inj same
      obtain ⟨rfl, rest_same⟩ := ih (fun w mem => plain_a w (List.mem_cons_of_mem _ mem))
        (fun w mem => plain_b w (List.mem_cons_of_mem _ mem)) later
      exact ⟨rfl, rest_same⟩

theorem before_separator_injective [DecidableEq α] {sep : α} {a b rest more : List α}
    (absent_a : sep ∉ a) (absent_b : sep ∉ b) (same : a ++ sep :: rest = b ++ sep :: more) :
    a = b ∧ rest = more := by
  have plain : ∀ {text : List α}, sep ∉ text → ∀ u ∈ text, decide (u = sep) = false := by
    intro text absent u mem
    rw [decide_eq_false_iff_not]
    rintro rfl
    exact absent mem
  obtain ⟨front, back⟩ := token_append_injective (plain absent_a) (plain absent_b)
    (stopped_cons (by simp) rest) (stopped_cons (by simp) more) same
  exact ⟨front, (List.cons.inj back).2⟩

end Tokens

section Sequences

/-- The texts with the separator between any two. -/
def separated (sep : α) : List (List α) → List α
  | [] => []
  | [text] => text
  | text :: texts => text ++ sep :: separated sep texts

/-- What follows the first text of a sequence that ends in `close`. -/
def continued (sep close : α) (rest : List α) : List (List α) → List α
  | [] => close :: rest
  | texts => sep :: (separated sep texts ++ close :: rest)

theorem separated_cons (sep close : α) (text : List α) (texts : List (List α)) (rest : List α) :
    separated sep (text :: texts) ++ close :: rest = text ++ continued sep close rest texts := by
  cases texts with
  | nil => rfl
  | cons next texts => simp [separated, continued]

variable {stop : α → Bool} {write : X → List α} {same : X → X → Prop} {sep close : α}

theorem continued_stops (sep_stops : stop sep = true) (close_stops : stop close = true)
    (rest : List α) (texts : List (List α)) : Stopped stop (continued sep close rest texts) := by
  cases texts with
  | nil => exact stopped_cons close_stops rest
  | cons text texts => exact stopped_cons sep_stops _

/-- A sequence up to its closing unit can be read back if its members can. -/
theorem separated_read_back (sep_stops : stop sep = true) (close_stops : stop close = true)
    (differs : sep ≠ close) (starts : ∀ x, ∃ u text, write x = u :: text ∧ u ≠ close)
    {xs ys : List X} (read : ∀ x ∈ xs, ReadBack stop write same x) {rest more : List α}
    (equal : separated sep (xs.map write) ++ close :: rest =
      separated sep (ys.map write) ++ close :: more) :
    List.Forall₂ same xs ys ∧ rest = more := by
  have no_member : ∀ (y : X) (ys : List X) (rest more : List α),
      close :: rest ≠ separated sep ((y :: ys).map write) ++ close :: more := by
    intro y ys rest more closes
    obtain ⟨u, text, written, other⟩ := starts y
    rw [List.map_cons, separated_cons, written] at closes
    exact other (List.cons.inj closes).1.symm
  induction xs generalizing ys with
  | nil =>
    cases ys with
    | nil => exact ⟨List.Forall₂.nil, (List.cons.inj equal).2⟩
    | cons y ys => exact absurd equal (no_member y ys rest more)
  | cons x xs ih =>
    cases ys with
    | nil => exact absurd equal.symm (no_member x xs more rest)
    | cons y ys =>
      rw [List.map_cons, List.map_cons, separated_cons, separated_cons] at equal
      obtain ⟨first, tails⟩ := read x List.mem_cons_self y _ _
        (continued_stops sep_stops close_stops rest _)
        (continued_stops sep_stops close_stops more _) equal
      have later : separated sep (xs.map write) ++ close :: rest =
          separated sep (ys.map write) ++ close :: more := by
        cases xs with
        | nil =>
          cases ys with
          | nil => exact tails
          | cons _ _ => exact absurd (List.cons.inj tails).1.symm differs
        | cons _ _ =>
          cases ys with
          | nil => exact absurd (List.cons.inj tails).1 differs
          | cons _ _ => exact (List.cons.inj tails).2
      obtain ⟨all, rests⟩ := ih (fun z mem => read z (List.mem_cons_of_mem _ mem)) later
      exact ⟨List.Forall₂.cons first all, rests⟩

theorem partner_of_mem {Y : Type*} {rel : X → Y → Prop} {xs : List X} {ys : List Y}
    (all : List.Forall₂ rel xs ys) {x : X} (mem : x ∈ xs) : ∃ y ∈ ys, rel x y := by
  induction all with
  | nil => simp at mem
  | cons first _ ih =>
    rcases List.mem_cons.mp mem with rfl | later
    · exact ⟨_, List.mem_cons_self, first⟩
    · obtain ⟨y, listed, found⟩ := ih later
      exact ⟨y, List.mem_cons_of_mem _ listed, found⟩

end Sequences

end UniqueReading
