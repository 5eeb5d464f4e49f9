import Linkly.RouteOverlap
import Mathlib.Data.List.Nodup

/-!
What the meetup station is worth: the overlap of two routes is a maximal matching of the stations
that coincide, and its best entry is no later than any pair that the names or the lack of a
namesake make certain.
-/
namespace MeetupStations
open GreedyPairs JsText RouteOverlap

section Matching
variable {Num : Type} (near : Num → Num → Num → Num → Bool)

def Coincide (a b : Station Num) : Prop := nameMatches a b ∨ isClose near a b

/-- The stations come in the order of their numbers, and no number occurs twice. -/
def Increasing (stations : List (Station Num)) : Prop :=
  (stations.map Station.order).Pairwise fun m n => m < n

structure MaximalMatching (stationsA stationsB : List (Station Num))
    (overlap : List (OverlapStation Num)) : Prop where
  in_order : (overlap.map OverlapStation.toStation).Sublist stationsA
  once_in_a : (overlap.map OverlapStation.orderA).Nodup
  once_in_b : (overlap.map OverlapStation.orderB).Nodup
  coincide : ∀ entry ∈ overlap, ∃ a ∈ stationsA, ∃ b ∈ stationsB, Coincide near a b ∧
    entry = { a with orderA := a.order, orderB := b.order }
  maximal : ∀ a ∈ stationsA, ∀ b ∈ stationsB, Coincide near a b →
    a.order ∈ overlap.map OverlapStation.orderA ∨ b.order ∈ overlap.map OverlapStation.orderB

variable {near} {stationsA stationsB : List (Station Num)}

theorem extract_increasing (parseFloat : JsString → Num) (legs : List Leg) :
    Increasing (extractStations parseFloat legs) := by
  rw [Increasing, List.pairwise_iff_getElem]
  intro i j less_i less_j less
  rw [List.length_map] at less_i less_j
  have order_i := extract_numbered parseFloat legs i _ (List.getElem?_eq_getElem less_i)
  have order_j := extract_numbered parseFloat legs j _ (List.getElem?_eq_getElem less_j)
  simpa [order_i, order_j] using less

/-- Positions come in the order of the numbers. -/
theorem order_lt_of_index_lt (increasing : Increasing stationsA) {i j : Nat} {a b : Station Num}
    (at_i : stationsA[i]? = some a) (at_j : stationsA[j]? = some b) (less : i < j) :
    a.order < b.order := by
  obtain ⟨less_i, rfl⟩ := List.getElem?_eq_some_iff.mp at_i
  obtain ⟨less_j, rfl⟩ := List.getElem?_eq_some_iff.mp at_j
  have ordered := List.pairwise_iff_getElem.mp increasing i j (by simpa using less_i)
    (by simpa using less_j) less
  simpa using ordered

theorem table_meet_iff {i j : Nat} : (table near stationsA stationsB).meet i j ↔
    ∃ a b, stationsA[i]? = some a ∧ stationsB[j]? = some b ∧ Coincide near a b := by
  simp only [Table.meet, table, Option.any_eq_true, Coincide]
  constructor
  · intro meet
    rcases meet with ⟨a, at_i, b, at_j, same⟩ | ⟨a, at_i, b, at_j, close⟩
    · exact ⟨a, b, at_i, at_j, Or.inl same⟩
    · exact ⟨a, b, at_i, at_j, Or.inr close⟩
  · intro meet
    obtain ⟨a, b, at_i, at_j, same | close⟩ := meet
    · exact Or.inl ⟨a, at_i, b, at_j, same⟩
    · exact Or.inr ⟨a, at_i, b, at_j, close⟩

theorem mem_overlap_iff {entry : OverlapStation Num} :
    entry ∈ findOverlapStations near stationsA stationsB ↔
      ∃ i j, picks (table near stationsA stationsB) i = some j ∧
        overlapEntry stationsA stationsB (i, j) = some entry := by
  rw [overlap_entries, List.mem_filterMap]
  constructor
  · intro entered
    obtain ⟨⟨i, j⟩, paired, is_entry⟩ := entered
    exact ⟨i, j, (mem_pairs_iff.mp paired).2, is_entry⟩
  · intro picked
    obtain ⟨i, j, picked, is_entry⟩ := picked
    have inside := (table near stationsA stationsB).inside i j (picks_meet picked)
    exact ⟨(i, j), mem_pairs_iff.mpr ⟨inside.1, picked⟩, is_entry⟩

/-- The entry that a pair of the greedy leaves behind. -/
theorem overlap_of_pick {i j : Nat} {a b : Station Num} (at_i : stationsA[i]? = some a)
    (at_j : stationsB[j]? = some b) (picked : picks (table near stationsA stationsB) i = some j) :
    { a with orderA := a.order, orderB := b.order } ∈
      findOverlapStations near stationsA stationsB :=
  mem_overlap_iff.mpr ⟨i, j, picked, by simp [overlapEntry, at_i, at_j]⟩

theorem overlap_coincide {entry : OverlapStation Num}
    (entered : entry ∈ findOverlapStations near stationsA stationsB) :
    ∃ a ∈ stationsA, ∃ b ∈ stationsB, Coincide near a b ∧
      entry = { a with orderA := a.order, orderB := b.order } := by
  obtain ⟨i, j, picked, is_entry⟩ := mem_overlap_iff.mp entered
  obtain ⟨a, b, at_i, at_j, coincide⟩ := table_meet_iff.mp (picks_meet picked)
  refine ⟨a, List.mem_of_getElem? at_i, b, List.mem_of_getElem? at_j, coincide, ?_⟩
  simpa [overlapEntry, at_i, at_j] using is_entry.symm

theorem overlap_maximal {a b : Station Num} (mem_a : a ∈ stationsA) (mem_b : b ∈ stationsB)
    (coincide : Coincide near a b) :
    a.order ∈ (findOverlapStations near stationsA stationsB).map OverlapStation.orderA ∨
      b.order ∈ (findOverlapStations near stationsA stationsB).map OverlapStation.orderB := by
  obtain ⟨i, at_i⟩ := List.mem_iff_getElem?.mp mem_a
  obtain ⟨j, at_j⟩ := List.mem_iff_getElem?.mp mem_b
  have meet := table_meet_iff.mpr ⟨a, b, at_i, at_j, coincide⟩
  rcases picks_or_taken meet with ⟨l, _, picked⟩ | ⟨k, picked⟩
  · right
    obtain ⟨c, _, at_l, _⟩ := table_meet_iff.mp (picks_meet picked)
    exact List.mem_map.mpr ⟨_, overlap_of_pick at_l at_j picked, rfl⟩
  · left
    obtain ⟨_, d, _, at_k, _⟩ := table_meet_iff.mp (picks_meet picked)
    exact List.mem_map.mpr ⟨_, overlap_of_pick at_i at_k picked, rfl⟩

/-- The stations of the pairs are taken from the first rows, in their order. -/
theorem pair_stations_sublist (near : Num → Num → Num → Num → Bool)
    (stationsA stationsB : List (Station Num)) (n : Nat) :
    ((pairs (table near stationsA stationsB) n).filterMap fun p => stationsA[p.1]?).Sublist
      (stationsA.take n) := by
  induction n with
  | zero => exact List.Sublist.slnil
  | succ n ih =>
    rw [pairs_succ, List.filterMap_append, List.take_add_one]
    apply ih.append
    cases picks (table near stationsA stationsB) n with
    | none => exact List.nil_sublist _
    | some j => cases at_n : stationsA[n]? <;> simp [at_n]

theorem overlap_stations (near : Num → Num → Num → Num → Bool)
    (stationsA stationsB : List (Station Num)) :
    (findOverlapStations near stationsA stationsB).map OverlapStation.toStation =
      (pairs (table near stationsA stationsB) stationsA.length).filterMap
        fun p => stationsA[p.1]? := by
  rw [overlap_entries, List.map_filterMap]
  apply List.filterMap_congr
  intro p paired
  obtain ⟨a, b, at_i, _, is_entry⟩ := overlap_entry_of_pair paired
  rw [is_entry, at_i, Option.map_some]

theorem overlap_in_order : ((findOverlapStations near stationsA stationsB).map
    OverlapStation.toStation).Sublist stationsA := by
  have from_all := pair_stations_sublist near stationsA stationsB stationsA.length
  rwa [List.take_length, ← overlap_stations] at from_all

theorem overlap_once_in_a (increasing : Increasing stationsA) :
    ((findOverlapStations near stationsA stationsB).map OverlapStation.orderA).Nodup := by
  have own_order : (findOverlapStations near stationsA stationsB).map OverlapStation.orderA =
      ((findOverlapStations near stationsA stationsB).map OverlapStation.toStation).map
        Station.order := by
    rw [List.map_map]
    apply List.map_congr_left
    intro entry entered
    obtain ⟨a, _, b, _, _, rfl⟩ := overlap_coincide entered
    rfl
  rw [own_order]
  exact (increasing.sublist (overlap_in_order.map Station.order)).imp Nat.ne_of_lt

theorem overlap_once_in_b (increasing : Increasing stationsB) :
    ((findOverlapStations near stationsA stationsB).map OverlapStation.orderB).Nodup := by
  have of_columns : (findOverlapStations near stationsA stationsB).map OverlapStation.orderB =
      ((pairs (table near stationsA stationsB) stationsA.length).map Prod.snd).filterMap
        fun j => (stationsB[j]?).map Station.order := by
    rw [overlap_entries, List.map_filterMap, List.filterMap_map]
    apply List.filterMap_congr
    intro p paired
    obtain ⟨a, b, _, at_j, is_entry⟩ := overlap_entry_of_pair paired
    simp [is_entry, at_j]
  rw [of_columns]
  apply List.Nodup.filterMap _ (pairs_columns_once _)
  intro j k order order_j order_k
  obtain ⟨b, at_j, is_order⟩ := Option.map_eq_some_iff.mp order_j
  obtain ⟨c, at_k, same_order⟩ := Option.map_eq_some_iff.mp order_k
  rcases Nat.lt_trichotomy j k with less | same | greater
  · have := order_lt_of_index_lt increasing at_j at_k less
    omega
  · exact same
  · have := order_lt_of_index_lt increasing at_k at_j greater
    omega

theorem meetup_none_iff : findMeetupStation (findOverlapStations near stationsA stationsB) = none ↔
    ∀ a ∈ stationsA, ∀ b ∈ stationsB, ¬ Coincide near a b := by
  rw [findMeetupStation, first_min_none_iff]
  constructor
  · intro empty a mem_a b mem_b coincide
    have matched := overlap_maximal mem_a mem_b coincide
    simp [empty] at matched
  · intro apart
    rw [List.eq_nil_iff_forall_not_mem]
    intro entry entered
    obtain ⟨a, mem_a, b, mem_b, coincide, _⟩ := overlap_coincide entered
    exact apart a mem_a b mem_b coincide

/-- However the stations repeat and lie, the greedy leaves no pair unmatched. -/
theorem overlap_maximal_matching (near : Num → Num → Num → Num → Bool)
    {stationsA stationsB : List (Station Num)} (increasing : Increasing stationsA)
    (increasing_b : Increasing stationsB) :
    MaximalMatching near stationsA stationsB (findOverlapStations near stationsA stationsB) ∧
    (findMeetupStation (findOverlapStations near stationsA stationsB) = none ↔
      ∀ a ∈ stationsA, ∀ b ∈ stationsB, ¬ Coincide near a b) := by
  refine ⟨?_, meetup_none_iff⟩
  exact
    { in_order := overlap_in_order
      once_in_a := overlap_once_in_a increasing
      once_in_b := overlap_once_in_b increasing_b
      coincide := fun _ entered => overlap_coincide entered
      maximal := fun _ mem_a _ mem_b coincide => overlap_maximal mem_a mem_b coincide }

theorem sample_routes_matched :
    MaximalMatching (fun _ _ _ _ => true) (extractStations id [sampleLeg ["강남", "교대"]])
      (extractStations id [sampleLeg ["교대역", "서초"]])
      (findOverlapStations (fun _ _ _ _ => true) (extractStations id [sampleLeg ["강남", "교대"]])
        (extractStations id [sampleLeg ["교대역", "서초"]])) ∧
    (findMeetupStation (findOverlapStations (fun _ _ _ _ => true)
        (extractStations id [sampleLeg ["강남", "교대"]])
        (extractStations id [sampleLeg ["교대역", "서초"]])) = none ↔
      ∀ a ∈ extractStations id [sampleLeg ["강남", "교대"]],
        ∀ b ∈ extractStations id [sampleLeg ["교대역", "서초"]],
          ¬ Coincide (fun _ _ _ _ => true) a b) :=
  overlap_maximal_matching (fun _ _ _ _ => true) (extract_increasing id _)
    (extract_increasing id _)

end Matching

section Best
variable {Num : Type} {parseFloat : JsString → Num} {near : Num → Num → Num → Num → Bool}
  {stationsA stationsB : List (Station Num)}

/-- A pair that the greedy may not drop: the names are the same, or they are close and the one has
    no namesake on the other route. -/
def Certain (near : Num → Num → Num → Num → Bool) (stationsB : List (Station Num))
    (a b : Station Num) : Prop :=
  nameMatches a b ∨ isClose near a b ∧ ∀ c ∈ stationsB, ¬ nameMatches a c

theorem certain_open {i j : Nat} {a b : Station Num} (at_i : stationsA[i]? = some a)
    (at_j : stationsB[j]? = some b) (certain : Certain near stationsB a b) :
    Open (table near stationsA stationsB) (i, j) := by
  rcases certain with same | ⟨close, no_namesake⟩
  · have same_ij : (table near stationsA stationsB).same i j := by simp [table, at_i, at_j, same]
    exact ⟨Or.inl same_ij, Or.inl same_ij⟩
  · refine ⟨Or.inr (by simp [table, at_i, at_j, close]), Or.inr ?_⟩
    intro blocked
    obtain ⟨k, same_k, _⟩ := blocked
    simp only [table, at_i, Option.any_some, Option.any_eq_true] at same_k
    obtain ⟨c, at_k, same⟩ := same_k
    exact no_namesake c (List.mem_of_getElem? at_k) same

/-- No pair of stations that is certain to coincide beats the meetup station. -/
theorem meetup_not_later (parseFloat : JsString → Num) (near : Num → Num → Num → Num → Bool)
    (legs partnerLegs : List Leg) {i j : Nat} {a b : Station Num}
    (at_i : (extractStations parseFloat legs)[i]? = some a)
    (at_j : (extractStations parseFloat partnerLegs)[j]? = some b)
    (certain : Certain near (extractStations parseFloat partnerLegs) a b) :
    ∃ meetup, findMeetupStation (findOverlapStations near (extractStations parseFloat legs)
        (extractStations parseFloat partnerLegs)) = some meetup ∧
      meetup.orderA + meetup.orderB ≤ i + j := by
  obtain ⟨q, found, at_most⟩ := cheapest_le_open (certain_open at_i at_j certain)
  rw [← meetup_positions_eq (extract_numbered parseFloat legs)
    (extract_numbered parseFloat partnerLegs), meetupPositions, Option.map_eq_some_iff] at found
  obtain ⟨meetup, found, rfl⟩ := found
  exact ⟨meetup, found, at_most⟩

/-- The third station of the one route and the first of the other have the same name, and two other
    stations are close. -/
theorem sample_meetup_not_later :
    ∃ meetup, findMeetupStation (findOverlapStations (fun _ _ _ _ => true)
        (extractStations id [sampleLeg ["강남", "역삼", "교대"]])
        (extractStations id [sampleLeg ["교대역", "서초"]])) = some meetup ∧
      meetup.orderA + meetup.orderB ≤ 2 + 0 :=
  meetup_not_later id (fun _ _ _ _ => true) [sampleLeg ["강남", "역삼", "교대"]]
    [sampleLeg ["교대역", "서초"]] rfl rfl (Or.inl (by decide))

end Best

end MeetupStations
