import Mathlib.Data.List.Basic

/-!
Runs of a guarded step function. An event carries every choice that its step leaves open, so a
run is the list of its events, and `none` marks an event that is not enabled in the state.
Conditions on single steps and properties of all visited states are kept apart: the rules below
pass from one to the other.
-/
namespace TransitionRuns
variable {S E : Type*}

def run (step : S → E → Option S) : S → List E → Option S
  | s, [] => some s
  | s, e :: es => (step s e).bind fun next => run step next es

/-- Each step that the run takes meets a condition on its event and on the state before it. -/
def EachStep (step : S → E → Option S) (guard : S → E → Prop) : S → List E → Prop
  | _, [] => True
  | s, e :: es => ∀ next, step s e = some next → guard s e ∧ EachStep step guard next es

/-- The property holds in each state that the run visits, the first and the last included. -/
def EveryState (step : S → E → Option S) (good : S → Prop) : S → List E → Prop
  | s, [] => good s
  | s, e :: es => good s ∧ ∀ next, step s e = some next → EveryState step good next es

/-- Each state that the run visits is related to each state that it visits later. -/
def EachLater (step : S → E → Option S) (rel : S → S → Prop) (s : S) (es : List E) : Prop :=
  ∀ front middle back a b, es = front ++ (middle ++ back) → run step s front = some a →
    run step a middle = some b → rel a b

variable {step : S → E → Option S} {guard : S → E → Prop} {good : S → Prop}

def decideEachStep [∀ s e, Decidable (guard s e)] (s : S) :
    (es : List E) → Decidable (EachStep step guard s es)
  | [] => isTrue trivial
  | e :: es =>
    match moved : step s e with
    | none => isTrue fun next taken => by simp [moved] at taken
    | some next =>
      have := decideEachStep next es
      decidable_of_iff (guard s e ∧ EachStep step guard next es) (by simp [EachStep, moved])

instance [∀ s e, Decidable (guard s e)] (s : S) (es : List E) :
    Decidable (EachStep step guard s es) := decideEachStep s es

theorem run_cons_iff {s t : S} {e : E} {es : List E} :
    run step s (e :: es) = some t ↔ ∃ next, step s e = some next ∧ run step next es = some t := by
  simp [run, Option.bind_eq_some_iff]

theorem run_append_iff {s t : S} {es more : List E} :
    run step s (es ++ more) = some t ↔ ∃ next, run step s es = some next ∧
      run step next more = some t := by
  induction es generalizing s with
  | nil => simp [run]
  | cons e es ih =>
    simp only [List.cons_append, run_cons_iff, ih]
    constructor
    · intro moved
      obtain ⟨first, taken, next, front, back⟩ := moved
      exact ⟨next, ⟨first, taken, front⟩, back⟩
    · intro moved
      obtain ⟨next, ⟨first, taken, front⟩, back⟩ := moved
      exact ⟨first, taken, next, front, back⟩

theorem run_keeps (keep : S → Prop) {s t : S} {es : List E}
    (preserved : ∀ s e t, step s e = some t → keep s → keep t)
    (moved : run step s es = some t) (start : keep s) : keep t := by
  induction es generalizing s with
  | nil => cases moved; exact start
  | cons e es ih =>
    obtain ⟨next, first, rest⟩ := run_cons_iff.mp moved
    exact ih rest (preserved s e next first start)

/-- What shows up only through steps that cause it was there at the start or has been caused. -/
theorem caused_in_run {X : Type*} (shown : S → X → Prop) (cause : S → E → X → Prop)
    (causes : ∀ s e t x, step s e = some t → shown t x → shown s x ∨ cause s e x) {s t : S}
    {es : List E} {x : X} (moved : run step s es = some t) (here : shown t x) :
    shown s x ∨ ∃ front e back z, es = front ++ e :: back ∧ run step s front = some z ∧
      cause z e x := by
  induction es generalizing s with
  | nil =>
    cases moved
    exact Or.inl here
  | cons e es ih =>
    obtain ⟨next, first, rest⟩ := run_cons_iff.mp moved
    rcases ih rest with before | ⟨front, later, back, z, split_run, reached, caused⟩
    · rcases causes s e next x first before with already | now
      · exact Or.inl already
      · exact Or.inr ⟨[], e, es, s, rfl, rfl, now⟩
    · refine Or.inr ⟨e :: front, later, back, z, by rw [split_run]; rfl, ?_, caused⟩
      exact run_cons_iff.mpr ⟨next, first, reached⟩

theorem guarded_run_keeps (keep : S → Prop) {s t : S} {es : List E}
    (preserved : ∀ s e t, step s e = some t → guard s e → keep s → keep t)
    (moved : run step s es = some t) (guarded : EachStep step guard s es) (start : keep s) :
    keep t := by
  induction es generalizing s with
  | nil => cases moved; exact start
  | cons e es ih =>
    obtain ⟨next, first, rest⟩ := run_cons_iff.mp moved
    obtain ⟨met, later⟩ := guarded next first
    exact ih rest later (preserved s e next first met start)

theorem each_step_append_iff {s t : S} {es more : List E} (front : run step s es = some t) :
    EachStep step guard s (es ++ more) ↔
      EachStep step guard s es ∧ EachStep step guard t more := by
  induction es generalizing s with
  | nil => cases front; simp [EachStep]
  | cons e es ih =>
    obtain ⟨next, first, rest⟩ := run_cons_iff.mp front
    simp only [List.cons_append, EachStep, first, Option.some.injEq, forall_eq', ih rest]
    tauto

theorem every_state_last {s t : S} {es : List E} (moved : run step s es = some t)
    (every : EveryState step good s es) : good t := by
  induction es generalizing s with
  | nil => cases moved; exact every
  | cons e es ih =>
    obtain ⟨next, first, rest⟩ := run_cons_iff.mp moved
    exact ih rest (every.2 next first)

theorem every_state_of_guarded (keep : S → Prop)
    (preserved : ∀ s e t, step s e = some t → guard s e → keep s → keep t)
    (gives : ∀ s, keep s → good s) {s : S} {es : List E} (guarded : EachStep step guard s es)
    (kept : keep s) : EveryState step good s es := by
  induction es generalizing s with
  | nil => exact gives s kept
  | cons e es ih =>
    refine ⟨gives s kept, fun next moved => ?_⟩
    obtain ⟨met, later⟩ := guarded next moved
    exact ih later (preserved s e next moved met kept)

theorem every_state_of_invariant (keep : S → Prop)
    (preserved : ∀ s e t, step s e = some t → keep s → keep t) (gives : ∀ s, keep s → good s)
    {s : S} {es : List E} (kept : keep s) : EveryState step good s es := by
  induction es generalizing s with
  | nil => exact gives s kept
  | cons e es ih =>
    exact ⟨gives s kept, fun next moved => ih (preserved s e next moved kept)⟩

theorem every_state_of_keeps (preserved : ∀ s e t, step s e = some t → good s → good t) {s : S}
    {es : List E} (start : good s) : EveryState step good s es :=
  every_state_of_invariant good preserved (fun _ good => good) start

/-- When what is wrong stays wrong, all states are good exactly if the last one is. -/
theorem every_state_iff_last (keep : S → Prop)
    (preserved : ∀ s e t, step s e = some t → keep s → keep t)
    (stays : ∀ s e t, step s e = some t → keep s → good t → good s) {s t : S} {es : List E}
    (moved : run step s es = some t) (kept : keep s) : EveryState step good s es ↔ good t := by
  refine ⟨every_state_last moved, ?_⟩
  induction es generalizing s with
  | nil =>
    cases moved
    exact id
  | cons e es ih =>
    intro last
    obtain ⟨next, first, rest⟩ := run_cons_iff.mp moved
    have later := ih rest (preserved s e next first kept) last
    have next_good : good next := by
      cases es with
      | nil => exact later
      | cons _ _ => exact later.1
    refine ⟨stays s e next first kept next_good, fun other taken => ?_⟩
    cases first.symm.trans taken
    exact later

/-- When a step from a good state ends in a good state exactly if it meets the condition, a run
    stays among the good states exactly if all its steps meet the condition. -/
theorem every_state_iff_each_step (keep : S → Prop) {s : S} {es : List E}
    (preserved : ∀ e ∈ es, ∀ s t, step s e = some t → keep s → keep t)
    (exact_step : ∀ e ∈ es, ∀ s t, step s e = some t → keep s → good s → (good t ↔ guard s e))
    (kept : keep s) (start : good s) :
    EveryState step good s es ↔ EachStep step guard s es := by
  induction es generalizing s with
  | nil => simp [EveryState, EachStep, start]
  | cons e es ih =>
    simp only [EveryState, EachStep, start, true_and]
    refine forall₂_congr fun next first => ?_
    have next_kept := preserved e List.mem_cons_self s next first kept
    have agree := exact_step e List.mem_cons_self s next first kept start
    have rest := fun next_good => ih (s := next)
      (fun e mem => preserved e (List.mem_cons_of_mem _ mem))
      (fun e mem => exact_step e (List.mem_cons_of_mem _ mem)) next_kept next_good
    constructor
    · intro every
      have next_good : good next := by
        cases es with
        | nil => exact every
        | cons _ _ => exact every.1
      exact ⟨agree.mp next_good, (rest next_good).mp every⟩
    · intro given
      obtain ⟨met, later⟩ := given
      exact (rest (agree.mpr met)).mpr later

/-- A condition on the steps of a run gives another one, with the help of what the run keeps. -/
theorem each_step_of_each_step (keep : S → Prop) {goal : S → E → Prop}
    (preserved : ∀ s e t, step s e = some t → guard s e → keep s → keep t)
    (gives : ∀ s e t, step s e = some t → guard s e → keep s → goal s e) {s : S} {es : List E}
    (kept : keep s) (guarded : EachStep step guard s es) : EachStep step goal s es := by
  induction es generalizing s with
  | nil => trivial
  | cons e es ih =>
    intro next first
    obtain ⟨met, later⟩ := guarded next first
    exact ⟨gives s e next first met kept, ih (preserved s e next first met kept) later⟩

theorem each_step_of_invariant (keep : S → Prop)
    (preserved : ∀ s e t, step s e = some t → keep s → keep t)
    (gives : ∀ s e t, step s e = some t → keep s → guard s e) {s : S} {es : List E}
    (kept : keep s) : EachStep step guard s es := by
  induction es generalizing s with
  | nil => trivial
  | cons e es ih =>
    intro next first
    exact ⟨gives s e next first kept, ih (preserved s e next first kept)⟩

theorem run_related (keep : S → Prop) {rel : S → S → Prop} (refl : ∀ a, rel a a)
    (trans : ∀ a b c, rel a b → rel b c → rel a c)
    (preserved : ∀ s e t, step s e = some t → guard s e → keep s → keep t)
    (related : ∀ s e t, step s e = some t → guard s e → keep s → rel s t) {s t : S} {es : List E}
    (moved : run step s es = some t) (kept : keep s) (guarded : EachStep step guard s es) :
    rel s t := by
  induction es generalizing s with
  | nil => cases moved; exact refl _
  | cons e es ih =>
    obtain ⟨next, first, rest⟩ := run_cons_iff.mp moved
    obtain ⟨met, later⟩ := guarded next first
    exact trans _ _ _ (related s e next first met kept)
      (ih rest (preserved s e next first met kept) later)

theorem each_later_of_each_step (keep : S → Prop) {rel : S → S → Prop} (refl : ∀ a, rel a a)
    (trans : ∀ a b c, rel a b → rel b c → rel a c)
    (preserved : ∀ s e t, step s e = some t → guard s e → keep s → keep t)
    (related : ∀ s e t, step s e = some t → guard s e → keep s → rel s t) {s : S} {es : List E}
    (kept : keep s) (guarded : EachStep step guard s es) : EachLater step rel s es := by
  intro front middle back a b split_run before after
  rw [split_run] at guarded
  obtain ⟨reached, rest⟩ := (each_step_append_iff before).mp guarded
  have kept_a := guarded_run_keeps keep preserved before reached kept
  exact run_related keep refl trans preserved related after kept_a
    ((each_step_append_iff after).mp rest).1

/-- When one step relates its two states exactly if it meets the condition, a run relates all its
    states to the later ones exactly if all its steps meet the condition. -/
theorem each_later_iff_each_step (keep : S → Prop) {rel : S → S → Prop} (refl : ∀ a, rel a a)
    (trans : ∀ a b c, rel a b → rel b c → rel a c)
    (preserved : ∀ s e t, step s e = some t → keep s → keep t)
    (exact_step : ∀ s e t, step s e = some t → keep s → (rel s t ↔ guard s e)) {s : S}
    {es : List E} (kept : keep s) :
    EachLater step rel s es ↔ EachStep step guard s es := by
  constructor
  · intro later
    induction es generalizing s with
    | nil => trivial
    | cons e es ih =>
      intro next first
      refine ⟨(exact_step s e next first kept).mp ?_, ih (preserved s e next first kept) ?_⟩
      · exact later [] [e] es s next rfl rfl (run_cons_iff.mpr ⟨next, first, rfl⟩)
      · intro front middle back a b split_run before after
        exact later (e :: front) middle back a b (by rw [split_run]; rfl)
          (run_cons_iff.mpr ⟨next, first, before⟩) after
  · exact each_later_of_each_step keep refl trans
      (fun s e t moved _ kept => preserved s e t moved kept)
      (fun s e t moved met kept => (exact_step s e t moved kept).mpr met) kept

end TransitionRuns
