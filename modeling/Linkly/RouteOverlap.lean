import Linkly.GreedyPairs
import Linkly.JsText
import Mathlib.Data.List.Induction

/-!
The stations that two routes have in common, and the meetup station chosen among them. Numbers
are a type parameter: `parseFloat` reads a coordinate, and `near` says whether two positions are at
most 50 metres apart.
-/
namespace RouteOverlap
open GreedyPairs JsText

structure Stop where
  stationName : JsString
  lat : JsString
  lon : JsString
  deriving DecidableEq, Repr

/-- A leg of an itinerary. `stationList` is there when it is an array, and `other` stands for the
    fields that are only passed on. -/
structure Leg where
  mode : JsString
  stationList : Option (List Stop)
  other : JsString
  deriving DecidableEq, Repr

structure Station (Num : Type) where
  name : JsString
  normalized : JsString
  lat : Num
  lng : Num
  order : Nat
  deriving DecidableEq, Repr

structure OverlapStation (Num : Type) extends Station Num where
  orderA : Nat
  orderB : Nat
  deriving DecidableEq, Repr

def openParens : JsString := js "（("

def closeParens : JsString := js ")）"

/-- The length of a line number in parentheses at the start of a text. -/
def lineNumberLength : JsString → Option Nat
  | first :: rest =>
    if first ∈ openParens then
      match rest.dropWhile isDigit with
      | ho :: seon :: last :: _ =>
        if [ho, seon] = js "호선" ∧ last ∈ closeParens then
          some (1 + (rest.takeWhile isDigit).length + 3)
        else none
      | _ => none
    else none
  | [] => none

/-- Removes every line number in parentheses; `skip` units are still to be removed. -/
def dropLineNumbers (skip : Nat) : JsString → JsString
  | [] => []
  | u :: rest =>
    if 0 < skip then dropLineNumbers (skip - 1) rest
    else
      match lineNumberLength (u :: rest) with
      | some length => dropLineNumbers (length - 1) rest
      | none => u :: dropLineNumbers 0 rest

def normalizeStationName (name : JsString) : JsString :=
  let spaceless := name.filter fun u => !isBlank u
  let cleaned := (dropLineNumbers 0 spaceless).filter (· ∉ js "[]()（）")
  if js "역" <:+ cleaned then cleaned else cleaned ++ js "역"

example : normalizeStationName (js " 강남 (2호선)[출구]") = js "강남출구역" := by decide

section Stations
variable {Num : Type} (parseFloat : JsString → Num)

/-- `state` holds the stations so far and the next order. -/
def pushStop (state : List (Station Num) × Nat) (stop : Stop) : List (Station Num) × Nat :=
  let station : Station Num :=
    { name := stop.stationName
      normalized := normalizeStationName stop.stationName
      lat := parseFloat stop.lat
      lng := parseFloat stop.lon
      order := state.2 }
  (state.1 ++ [station], state.2 + 1)

def pushLeg (state : List (Station Num) × Nat) (leg : Leg) : List (Station Num) × Nat :=
  if leg.mode = js "WALK" ∨ leg.mode = js "TRANSFER" then state
  else
    match leg.stationList with
    | none => state
    | some stationList => stationList.foldl (pushStop parseFloat) state

def extractStations (legs : List Leg) : List (Station Num) :=
  (legs.foldl (pushLeg parseFloat) ([], 0)).1

end Stations

section Overlap
variable {Num : Type} (near : Num → Num → Num → Num → Bool)

/-- The first station that is not matched yet and fits, with its index. -/
def findUnmatched (matchedB : List Nat) (stationsB : List (Station Num))
    (fits : Station Num → Bool) : Option (Station Num × Nat) :=
  stationsB.zipIdx.find? fun entry => decide (entry.2 ∉ matchedB) && fits entry.1

def nameMatches (a b : Station Num) : Bool := a.normalized = b.normalized

def isClose (a b : Station Num) : Bool := near a.lat a.lng b.lat b.lng

def overlapStep (stationsB : List (Station Num)) (state : List (OverlapStation Num) × List Nat)
    (a : Station Num) : List (OverlapStation Num) × List Nat :=
  let found :=
    (findUnmatched state.2 stationsB (nameMatches a)).or
      (findUnmatched state.2 stationsB (isClose near a))
  match found with
  | none => state
  | some (b, idx) =>
    (state.1 ++ [{ a with orderA := a.order, orderB := b.order }], state.2 ++ [idx])

def findOverlapStations (stationsA stationsB : List (Station Num)) : List (OverlapStation Num) :=
  (stationsA.foldl (overlapStep near stationsB) ([], [])).1

def findMeetupStation (overlap : List (OverlapStation Num)) : Option (OverlapStation Num) :=
  firstMin (fun station => station.orderA + station.orderB) overlap

end Overlap

/-- Each station's order is its position. -/
def Numbered {Num : Type} (stations : List (Station Num)) : Prop :=
  ∀ (i : Nat) (station : Station Num), stations[i]? = some station → station.order = i

section Extraction
variable {Num : Type} {parseFloat : JsString → Num}

/-- The next order is the number of stations so far, and all orders are positions. -/
def Counted (state : List (Station Num) × Nat) : Prop :=
  state.2 = state.1.length ∧ Numbered state.1

theorem counted_push_stop {state : List (Station Num) × Nat} (counted : Counted state)
    (stop : Stop) : Counted (pushStop parseFloat state stop) := by
  obtain ⟨next, numbered⟩ := counted
  constructor
  · simp [pushStop, next]
  · intro i station at_index
    simp only [pushStop, List.getElem?_append] at at_index
    split at at_index
    · exact numbered i station at_index
    · rename_i beyond
      rw [List.getElem?_singleton] at at_index
      split at at_index
      · obtain rfl := Option.some.inj at_index
        simp only [next]
        omega
      · simp at at_index

theorem counted_push_stops {state : List (Station Num) × Nat} (counted : Counted state)
    (stops : List Stop) : Counted (stops.foldl (pushStop parseFloat) state) := by
  induction stops generalizing state with
  | nil => exact counted
  | cons stop rest ih => exact ih (counted_push_stop counted stop)

theorem counted_push_leg {state : List (Station Num) × Nat} (counted : Counted state) (leg : Leg) :
    Counted (pushLeg parseFloat state leg) := by
  unfold pushLeg
  split
  · exact counted
  · split
    · exact counted
    · exact counted_push_stops counted _

theorem extract_numbered (parseFloat : JsString → Num) (legs : List Leg) :
    Numbered (extractStations parseFloat legs) := by
  have kept : ∀ state : List (Station Num) × Nat, Counted state →
      Counted (legs.foldl (pushLeg parseFloat) state) := by
    induction legs with
    | nil => exact fun _ counted => counted
    | cons leg rest ih => exact fun state counted => ih _ (counted_push_leg counted leg)
  exact (kept ([], 0) ⟨rfl, by simp [Numbered]⟩).2

end Extraction

section Pairing
variable {Num : Type} (near : Num → Num → Num → Num → Bool)

/-- Which station of the one route is the same as, or close to, which station of the other. -/
def table (stationsA stationsB : List (Station Num)) : Table where
  rows := stationsA.length
  cols := stationsB.length
  same i j := (stationsA[i]?).any fun a => (stationsB[j]?).any (nameMatches a)
  near i j := (stationsA[i]?).any fun a => (stationsB[j]?).any (isClose near a)
  inside := by
    intro i j meet
    cases at_i : stationsA[i]? with
    | none => simp [at_i] at meet
    | some a =>
      cases at_j : stationsB[j]? with
      | none => simp [at_i, at_j] at meet
      | some b =>
        exact ⟨(List.getElem?_eq_some_iff.mp at_i).1, (List.getElem?_eq_some_iff.mp at_j).1⟩

variable {near}

theorem table_swap (symmetric : ∀ a b c d, near a b c d = near c d a b)
    (stationsA stationsB : List (Station Num)) :
    table near stationsB stationsA = (table near stationsA stationsB).swap := by
  have names : ∀ a b : Station Num, nameMatches b a = nameMatches a b := by
    intro a b
    simp [nameMatches, eq_comm]
  have close : ∀ a b : Station Num, isClose near b a = isClose near a b :=
    fun a b => symmetric b.lat b.lng a.lat a.lng
  simp only [table, Table.swap, Table.mk.injEq, true_and]
  constructor <;>
  · funext j i
    cases at_i : stationsA[i]? <;> cases at_j : stationsB[j]? <;> simp [names, close]

theorem find_unmatched_iff {matchedB : List Nat} {stationsB : List (Station Num)}
    {fits : Station Num → Bool} {b : Station Num} {j : Nat} :
    findUnmatched matchedB stationsB fits = some (b, j) ↔ stationsB[j]? = some b ∧
      firstFree stationsB.length matchedB (fun k => (stationsB[k]?).any fits) = some j := by
  rw [findUnmatched, List.find?_eq_some_iff_getElem, first_free_some_iff]
  simp only [Bool.and_eq_true, decide_eq_true_eq, List.length_zipIdx, List.getElem_zipIdx,
    Nat.zero_add, Prod.mk.injEq, Bool.not_eq_eq_eq_not, Bool.not_true, Bool.and_eq_false_imp]
  constructor
  · intro first
    obtain ⟨⟨free, fit⟩, i, less, ⟨at_i, rfl⟩, before⟩ := first
    have at_index : stationsB[i]? = some b := by rw [List.getElem?_eq_getElem less, at_i]
    refine ⟨at_index, less, free, by simp [at_index, fit], ?_⟩
    intro k less_k fit_k
    by_contra free_k
    rw [List.getElem?_eq_getElem (by omega)] at fit_k
    have unfit := before k less_k free_k
    simp only [Option.any_some] at fit_k
    simp [unfit] at fit_k
  · intro first
    obtain ⟨at_index, less, free, fit, before⟩ := first
    have at_j : stationsB[j] = b := (List.getElem?_eq_some_iff.mp at_index).2
    rw [at_index, Option.any_some] at fit
    refine ⟨⟨free, fit⟩, j, less, ⟨at_j, rfl⟩, ?_⟩
    intro k less_k free_k
    by_contra fit_k
    refine free_k (before k less_k ?_)
    rw [List.getElem?_eq_getElem (by omega), Option.any_some]
    simpa using fit_k

theorem find_unmatched_index (matchedB : List Nat) (stationsB : List (Station Num))
    (fits : Station Num → Bool) : (findUnmatched matchedB stationsB fits).map Prod.snd =
      firstFree stationsB.length matchedB fun k => (stationsB[k]?).any fits := by
  ext j
  rw [Option.map_eq_some_iff]
  constructor
  · intro found_at
    obtain ⟨⟨b, i⟩, found, rfl⟩ := found_at
    exact (find_unmatched_iff.mp found).2
  · intro first
    have less := (first_free_some_iff.mp first).1
    exact ⟨(stationsB[j], j),
      find_unmatched_iff.mpr ⟨List.getElem?_eq_getElem less, first⟩, rfl⟩

def orders (station : OverlapStation Num) : Nat × Nat := (station.orderA, station.orderB)

/-- The entry for the stations at two positions. -/
def overlapEntry (stationsA stationsB : List (Station Num)) (p : Nat × Nat) :
    Option (OverlapStation Num) :=
  (stationsA[p.1]?).bind fun a => (stationsB[p.2]?).map fun b =>
    { a with orderA := a.order, orderB := b.order }

/-- The state of the loop after some stations of the one route. -/
def Follows (t : Table) (n : Nat) (state : List (OverlapStation Num) × List Nat) : Prop :=
  state.1.map orders = pairs t n ∧ state.2 = (pairs t n).map Prod.snd

theorem overlap_step_eq {stationsA stationsB : List (Station Num)} {n : Nat} {a : Station Num}
    (at_n : stationsA[n]? = some a) (overlap : List (OverlapStation Num)) :
    let t := table near stationsA stationsB
    overlapStep near stationsB (overlap, (pairs t n).map Prod.snd) a =
      (overlap ++ ((picks t n).bind fun j => overlapEntry stationsA stationsB (n, j)).toList,
        (pairs t n).map Prod.snd ++ (picks t n).toList) := by
  intro t
  have picked : picks t n =
      ((findUnmatched ((pairs t n).map Prod.snd) stationsB (nameMatches a)).or
        (findUnmatched ((pairs t n).map Prod.snd) stationsB (isClose near a))).map Prod.snd := by
    rw [Option.map_or, find_unmatched_index, find_unmatched_index, picks, pick]
    simp only [t, table, at_n, Option.any_some]
  rw [picked, overlapStep]
  cases found : (findUnmatched ((pairs t n).map Prod.snd) stationsB (nameMatches a)).or
      (findUnmatched ((pairs t n).map Prod.snd) stationsB (isClose near a)) with
  | none => simp
  | some entry =>
    obtain ⟨b, j⟩ := entry
    have at_j : stationsB[j]? = some b := by
      rcases Option.or_eq_some_iff.mp found with first | ⟨_, second⟩
      · exact (find_unmatched_iff.mp first).1
      · exact (find_unmatched_iff.mp second).1
    simp [overlapEntry, at_n, at_j]

/-- The loop has turned the pairs so far into entries. -/
theorem overlap_run {stationsA stationsB : List (Station Num)} (front back : List (Station Num))
    (split_route : stationsA = front ++ back) :
    let t := table near stationsA stationsB
    front.foldl (overlapStep near stationsB) ([], []) =
      ((pairs t front.length).filterMap (overlapEntry stationsA stationsB),
        (pairs t front.length).map Prod.snd) := by
  intro t
  induction front using List.reverseRecOn generalizing back with
  | nil => rfl
  | append_singleton front a ih =>
    rw [List.append_assoc] at split_route
    have at_n : stationsA[front.length]? = some a := by
      rw [split_route]
      simp
    rw [List.foldl_append, List.length_append, ih _ split_route, List.foldl_cons, List.foldl_nil,
      overlap_step_eq at_n, List.length_singleton, pairs_succ]
    cases picks t front.length with
    | none => simp [t]
    | some j =>
      cases entered : overlapEntry stationsA stationsB (front.length, j) <;> simp [t, entered]

theorem overlap_entries (near : Num → Num → Num → Num → Bool)
    (stationsA stationsB : List (Station Num)) : findOverlapStations near stationsA stationsB =
      (pairs (table near stationsA stationsB) stationsA.length).filterMap
        (overlapEntry stationsA stationsB) := by
  rw [findOverlapStations, overlap_run stationsA [] (List.append_nil _).symm]

theorem overlap_entry_of_pair {stationsA stationsB : List (Station Num)} {n : Nat} {p : Nat × Nat}
    (paired : p ∈ pairs (table near stationsA stationsB) n) :
    ∃ a b, stationsA[p.1]? = some a ∧ stationsB[p.2]? = some b ∧
      overlapEntry stationsA stationsB p = some { a with orderA := a.order, orderB := b.order } := by
  obtain ⟨i, j⟩ := p
  obtain ⟨less, less_b⟩ := (table near stationsA stationsB).inside i j
    (picks_meet (mem_pairs_iff.mp paired).2)
  refine ⟨stationsA[i], stationsB[j], List.getElem?_eq_getElem less,
    List.getElem?_eq_getElem less_b, ?_⟩
  simp [overlapEntry, List.getElem?_eq_getElem less, List.getElem?_eq_getElem less_b]

theorem follows_entries {stationsA stationsB : List (Station Num)} (numbered : Numbered stationsA)
    (numbered_b : Numbered stationsB) (n : Nat) :
    Follows (table near stationsA stationsB) n
      ((pairs (table near stationsA stationsB) n).filterMap (overlapEntry stationsA stationsB),
        (pairs (table near stationsA stationsB) n).map Prod.snd) := by
  refine ⟨?_, rfl⟩
  rw [List.map_filterMap]
  have kept : ∀ p ∈ pairs (table near stationsA stationsB) n,
      (overlapEntry stationsA stationsB p).map orders = some p := by
    intro p paired
    obtain ⟨a, b, at_i, at_j, is_entry⟩ := overlap_entry_of_pair paired
    simp [is_entry, orders, numbered _ a at_i, numbered_b _ b at_j]
  rw [List.filterMap_congr kept, List.filterMap_some]

theorem overlap_orders (near : Num → Num → Num → Num → Bool)
    {stationsA stationsB : List (Station Num)} (numbered : Numbered stationsA)
    (numbered_b : Numbered stationsB) : (findOverlapStations near stationsA stationsB).map orders =
      pairs (table near stationsA stationsB) stationsA.length := by
  rw [overlap_entries]
  exact (follows_entries numbered numbered_b stationsA.length).1

/-- The positions of the meetup station on the two routes, as seen from the first one. -/
def meetupPositions (near : Num → Num → Num → Num → Bool)
    (stationsA stationsB : List (Station Num)) : Option (Nat × Nat) :=
  (findMeetupStation (findOverlapStations near stationsA stationsB)).map orders

theorem meetup_positions_eq {stationsA stationsB : List (Station Num)}
    (numbered : Numbered stationsA) (numbered_b : Numbered stationsB) :
    meetupPositions near stationsA stationsB = cheapest (table near stationsA stationsB) := by
  rw [cheapest, meetupPositions, findMeetupStation]
  have listed := overlap_orders near numbered numbered_b
  have rows : (table near stationsA stationsB).rows = stationsA.length := rfl
  rw [rows, ← listed, first_min_map]
  rfl

/-- The meetups of both sides are the same pair of positions, or both are missing. -/
def MeetupsAgree (parseFloat : JsString → Num) (near : Num → Num → Num → Num → Bool)
    (legs partnerLegs : List Leg) : Prop :=
  meetupPositions near (extractStations parseFloat legs) (extractStations parseFloat partnerLegs) =
    (meetupPositions near (extractStations parseFloat partnerLegs)
      (extractStations parseFloat legs)).map Prod.swap

theorem meetups_agree_iff_settled (parseFloat : JsString → Num)
    (near : Num → Num → Num → Num → Bool) (symmetric : ∀ a b c d, near a b c d = near c d a b)
    (legs partnerLegs : List Leg) :
    let stations := table near (extractStations parseFloat legs)
      (extractStations parseFloat partnerLegs)
    MeetupsAgree parseFloat near legs partnerLegs ↔
      (∀ i j, ¬ stations.meet i j) ∨ ∃ p, Settled stations p := by
  intro stations
  have mine := extract_numbered parseFloat legs
  have partners := extract_numbered parseFloat partnerLegs
  rw [MeetupsAgree, meetup_positions_eq mine partners, meetup_positions_eq partners mine,
    table_swap symmetric (extractStations parseFloat legs)]
  exact agree_iff_settled

/-- The stations of the two routes alone show that both sides choose one pair, and a pair that both
    choose is not behind one that they show to come first. -/
theorem clear_meetups_agree (parseFloat : JsString → Num) (near : Num → Num → Num → Num → Bool)
    (symmetric : ∀ a b c d, near a b c d = near c d a b) (legs partnerLegs : List Leg) :
    let stations := table near (extractStations parseFloat legs)
      (extractStations parseFloat partnerLegs)
    (((∀ i j, ¬ stations.meet i j) ∨ ∃ p, Clear stations p) →
      MeetupsAgree parseFloat near legs partnerLegs) ∧
    (MeetupsAgree parseFloat near legs partnerLegs →
      (∀ i j, ¬ stations.meet i j) ∨ ∃ p, Contending stations p) := by
  intro stations
  have settles := meetups_agree_iff_settled parseFloat near symmetric legs partnerLegs
  constructor
  · intro given
    exact settles.mpr (given.imp_right fun ⟨p, clear⟩ => ⟨p, settled_of_clear clear⟩)
  · intro agree
    exact (settles.mp agree).imp_right fun ⟨p, settled⟩ => ⟨p, contending_of_settled settled⟩

/-- When no two stations are close without having the same name, and in general when close stations
    have no namesakes, only a single cheapest pair gives both sides the same meetup. -/
theorem meetups_agree_iff_single_cheapest (parseFloat : JsString → Num)
    (symmetric : ∀ a b c d, near a b c d = near c d a b) (legs partnerLegs : List Leg)
    (plain : Plain (table near (extractStations parseFloat legs)
      (extractStations parseFloat partnerLegs))) :
    MeetupsAgree parseFloat near legs partnerLegs ↔
      (∀ i j, ¬ (table near (extractStations parseFloat legs)
        (extractStations parseFloat partnerLegs)).meet i j) ∨
      ∃ p : Nat × Nat,
        (table near (extractStations parseFloat legs)
          (extractStations parseFloat partnerLegs)).meet p.1 p.2 ∧
        ∀ q : Nat × Nat, (table near (extractStations parseFloat legs)
          (extractStations parseFloat partnerLegs)).meet q.1 q.2 → q ≠ p → cost p < cost q := by
  have mine := extract_numbered parseFloat legs
  have partners := extract_numbered parseFloat partnerLegs
  rw [MeetupsAgree, meetup_positions_eq mine partners, meetup_positions_eq partners mine,
    table_swap symmetric (extractStations parseFloat legs)]
  exact agree_iff_single_cheapest plain

end Pairing

/-- A leg through stations with given names, without coordinates. -/
def sampleLeg (names : List String) : Leg :=
  { mode := js "SUBWAY", stationList := some (names.map fun name => ⟨js name, [], []⟩), other := [] }

/-- The second station of the one route is the first of the other. -/
theorem shared_station_agreed :
    MeetupsAgree (fun _ => ()) (fun _ _ _ _ => false) [sampleLeg ["강남", "교대"]]
      [sampleLeg ["교대역", "서초"]] := by
  apply (clear_meetups_agree (fun _ => ()) (fun _ _ _ _ => false) (fun _ _ _ _ => rfl)
    [sampleLeg ["강남", "교대"]] [sampleLeg ["교대역", "서초"]]).1
  refine Or.inr ⟨(1, 0), clear_of_only (by decide) ?_⟩
  have only : ∀ i < 2, ∀ j < 2, Table.meet (table (fun _ _ _ _ => false)
      (extractStations (fun _ => ()) [sampleLeg ["강남", "교대"]])
      (extractStations (fun _ => ()) [sampleLeg ["교대역", "서초"]])) i j → (i, j) = (1, 0) := by
    unfold Table.meet
    decide
  rintro ⟨i, j⟩ meet
  obtain ⟨less, less_b⟩ := Table.inside _ i j meet
  exact only i less j less_b meet

/-- The routes run through the same two stations in opposite directions. -/
theorem opposite_routes_disagree :
    ¬ ∀ (Num : Type) (parseFloat : JsString → Num) (near : Num → Num → Num → Num → Bool),
      (∀ a b c d, near a b c d = near c d a b) →
      ∀ legs partnerLegs, MeetupsAgree parseFloat near legs partnerLegs := by
  intro every
  have agree := every Unit (fun _ => ()) (fun _ _ _ _ => false) (fun _ _ _ _ => rfl)
    [sampleLeg ["강남", "교대"]] [sampleLeg ["교대", "강남"]]
  revert agree
  unfold MeetupsAgree
  decide

end RouteOverlap
