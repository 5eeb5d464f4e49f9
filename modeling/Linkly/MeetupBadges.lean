import Linkly.TmapBodies

/-!
The detail page of a route: which of its legs RouteDetail marks with the meetup, on the legs as
TMAP has sent them and with the name of the meetup station that the analysis has chosen.
-/
namespace MeetupBadges
open JsText IsoDate JsonText JsonAccess RouteOverlap TmapBodies GreedyPairs

def isText (name : JsString) : Option Json → Bool
  | some (.string text) => text = name
  | _ => false

/-- `stationList.some((s) => s.stationName === name)` -/
def someStop (name : JsString) : List Json → Except Fault Bool
  | [] => pure false
  | stop :: stops => do
    if isText name (← property "stationName" stop) then pure true
    else someStop name stops

/-- Only a list has a method `some`, and without a name no stop is looked into. -/
def isMeetupLeg (meetupStationName : Option JsString) (leg : Json) : Except Fault Bool := do
  match chain "stationList" (← property "passStopList" leg) with
  | none => pure false
  | some .null => pure false
  | some (.array stationList) =>
    match meetupStationName with
    | none => pure false
    | some [] => pure false
    | some name => someStop name stationList
  | some _ => throw .typeError

section Marks
variable {Num : Type} (numbers : BodyNumbers Num)

/-- The name under which `MODE_COLORS` and `MODE_LABELS` are asked for the mode, and the seconds
    that `Math.ceil((sectionTime ?? 0) / 60)` divides. -/
def modeAndTime (leg : Json) : Except Fault (JsString × Num) := do
  let mode ← property "mode" leg
  let sectionTime ← property "sectionTime" leg
  return (← floatText numbers mode, ← toNumber numbers (nullish sectionTime zero))

/-- The callback of `map`, up to the mark. -/
def markLeg (meetupStationName : Option JsString) (leg : Json) : Except Fault Bool := do
  let _ ← modeAndTime numbers leg
  isMeetupLeg meetupStationName leg

def badgesOf (meetupStationName : Option JsString) : List Json → Except Fault (List Bool)
  | [] => pure []
  | leg :: legs => do
    return (← markLeg numbers meetupStationName leg) :: (← badgesOf meetupStationName legs)

/-- Only a list has a method `map`. -/
def badges (meetupStationName : Option JsString) : Json → Except Fault (List Bool)
  | .array legs => badgesOf numbers meetupStationName legs
  | _ => throw .typeError

end Marks

/-- The stops of a leg, whatever its mode. -/
def listedStops (leg : Json) : List Json :=
  match chain "stationList" (leg.member? (js "passStopList")) with
  | some (.array stationList) => stationList
  | _ => []

def StopsAt (name : JsString) (leg : Json) : Prop :=
  ∃ stop ∈ listedStops leg, stop.member? (js "stationName") = some (.string name)

/-- No null is looked into: none comes before the first stop with the name. -/
def Readable (name : JsString) : List Json → Prop
  | [] => True
  | stop :: stops => stop ≠ .null ∧
    (stop.member? (js "stationName") = some (.string name) ∨ Readable name stops)

/-- A leg has a mode and a time that have a text, if it has them. -/
def HeaderReadable (leg : Json) : Prop :=
  ∀ name ∈ ["mode", "sectionTime"], ∀ value, leg.member? (js name) = some value →
    printable value = true

/-- What a leg has for its stops, if anything, is a list that can be looked into. -/
def StopsReadable (meetupStationName : Option JsString) (leg : Json) : Prop :=
  ∀ value, chain "stationList" (leg.member? (js "passStopList")) = some value →
    value = .null ∨ ∃ stationList, value = .array stationList ∧
      ∀ name, meetupStationName = some name → name ≠ [] → Readable name stationList

def Drawable (meetupStationName : Option JsString) (leg : Json) : Prop :=
  leg ≠ .null ∧ HeaderReadable leg ∧ StopsReadable meetupStationName leg

section Drawing
variable {Num : Type} {numbers : BodyNumbers Num} {name : JsString} {shown : Option JsString}
  {leg : Json} {legs : List Json}

theorem to_number_ok_iff {value : Json} :
    (∃ number, toNumber numbers value = .ok number) ↔ printable value = true := by
  cases value with
  | array items => simpa [toNumber] using to_text_ok_iff (.array items)
  | object members => simpa [toNumber] using to_text_ok_iff (.object members)
  | _ => simp [toNumber, printable]

theorem printable_nullish {value : Option Json} :
    printable (nullish value zero) = true ↔ ∀ v, value = some v → printable v = true := by
  rcases value with _ | _ | _ <;> simp [nullish, zero, printable]

theorem mode_and_time_ok_iff : (∃ header, modeAndTime numbers leg = .ok header) ↔
    leg ≠ .null ∧ HeaderReadable leg := by
  by_cases missing : leg = .null
  · simp [modeAndTime, property, missing]
  · have mode := float_text_ok_iff numbers (leg.member? (js "mode"))
    have time : (∃ number, toNumber numbers (nullish (leg.member? (js "sectionTime")) zero) =
        .ok number) ↔ _ := to_number_ok_iff.trans printable_nullish
    simp only [HeaderReadable, List.forall_mem_cons, ← mode, ← time]
    simp [modeAndTime, property_of_ne_null missing, missing]

theorem is_text_iff {value : Option Json} :
    isText name value = true ↔ value = some (.string name) := by
  unfold isText
  split <;> simp_all

theorem some_stop_iff {stops : List Json} {found : Bool} :
    someStop name stops = .ok found ↔ Readable name stops ∧ (found = true ↔
      ∃ stop ∈ stops, stop.member? (js "stationName") = some (.string name)) := by
  induction stops with
  | nil => cases found <;> simp [someStop, Readable]
  | cons stop stops ih =>
    by_cases missing : stop = .null
    · simp [someStop, property, missing, Readable, throw, throwThe, MonadExceptOf.throw, bind,
        Except.bind]
    · simp only [someStop, property_of_ne_null missing, bind, Except.bind, Readable]
      by_cases same : stop.member? (js "stationName") = some (.string name)
      · cases found <;> simp [is_text_iff, same, missing, pure, Except.pure]
      · simp [is_text_iff, same, missing, ih]

theorem meetup_leg_iff (there : leg ≠ .null) {found : Bool} :
    isMeetupLeg shown leg = .ok found ↔ StopsReadable shown leg ∧
      (found = true ↔ ∃ name, shown = some name ∧ name ≠ [] ∧ StopsAt name leg) := by
  simp only [isMeetupLeg, property_of_ne_null there, bind, Except.bind, StopsReadable, StopsAt,
    listedStops]
  cases listed : chain "stationList" (leg.member? (js "passStopList")) with
  | none => cases found <;> simp
  | some given =>
    cases given with
    | null => cases found <;> simp
    | array stationList =>
      cases shown with
      | none => cases found <;> simp
      | some name =>
        cases name with
        | nil => cases found <;> simp
        | cons u rest => simp [some_stop_iff]
    | _ => simp [throw, throwThe, MonadExceptOf.throw]

theorem mark_leg_iff {found : Bool} : markLeg numbers shown leg = .ok found ↔
    Drawable shown leg ∧
      (found = true ↔ ∃ name, shown = some name ∧ name ≠ [] ∧ StopsAt name leg) := by
  have header : (∃ header, modeAndTime numbers leg = .ok header) ↔ _ := mode_and_time_ok_iff
  simp only [markLeg, bind_ok_iff, Drawable]
  constructor
  · rintro ⟨_, read, marked⟩
    obtain ⟨there, readable⟩ := header.mp ⟨_, read⟩
    obtain ⟨stops, is_found⟩ := (meetup_leg_iff there).mp marked
    exact ⟨⟨there, readable, stops⟩, is_found⟩
  · rintro ⟨⟨there, readable, stops⟩, is_found⟩
    obtain ⟨_, read⟩ := header.mpr ⟨there, readable⟩
    exact ⟨_, read, (meetup_leg_iff there).mpr ⟨stops, is_found⟩⟩

theorem badges_of_iff {flags : List Bool} : badgesOf numbers shown legs = .ok flags ↔
    List.Forall₂ (fun leg flag => markLeg numbers shown leg = .ok flag) legs flags := by
  induction legs generalizing flags with
  | nil => cases flags <;> simp [badgesOf]
  | cons leg legs ih =>
    simp only [badgesOf, bind_ok_iff, pure_ok_iff, ih]
    constructor
    · rintro ⟨flag, marked, rest, later, rfl⟩
      exact List.Forall₂.cons marked later
    · intro both
      cases both with
      | cons marked later => exact ⟨_, marked, _, later, rfl⟩

theorem badges_drawn_iff : (∃ flags, badgesOf numbers shown legs = .ok flags) ↔
    ∀ leg ∈ legs, Drawable shown leg := by
  induction legs with
  | nil => simp [badgesOf]
  | cons leg legs ih =>
    rw [List.forall_mem_cons, ← ih]
    simp only [badgesOf, bind_ok_iff, pure_ok_iff, mark_leg_iff]
    constructor
    · rintro ⟨_, flag, ⟨drawable, _⟩, rest, later, _⟩
      exact ⟨drawable, rest, later⟩
    · rintro ⟨drawable, rest, later⟩
      classical
      refine ⟨_, decide (∃ name, shown = some name ∧ name ≠ [] ∧ StopsAt name leg),
        ⟨drawable, ?_⟩, rest, later, rfl⟩
      exact decide_eq_true_iff

end Drawing

theorem related_of_mem {α β : Type} {Rel : α → β → Prop} {items : List α} {others : List β}
    (both : List.Forall₂ Rel items others) {item : α} (listed : item ∈ items) :
    ∃ other ∈ others, Rel item other := by
  induction both with
  | nil => simp at listed
  | cons related _ ih =>
    rcases List.mem_cons.mp listed with rfl | later
    · exact ⟨_, List.mem_cons_self, related⟩
    · obtain ⟨other, mem, related⟩ := ih later
      exact ⟨other, List.mem_cons_of_mem _ mem, related⟩

section Responses
variable {Num : Type} {numbers : BodyNumbers Num}

/-- The meetup is a station of the first route, and the second route has a station that meets it. -/
theorem meetup_meets {near : Num → Num → Num → Num → Bool}
    {stationsA stationsB : List (Station Num)} {meetup : OverlapStation Num}
    (found : findMeetupStation (findOverlapStations near stationsA stationsB) = some meetup) :
    ∃ a ∈ stationsA, ∃ b ∈ stationsB, a.name = meetup.name ∧
      (nameMatches a b = true ∨ isClose near a b = true) := by
  have listed := first_min_mem found
  rw [overlap_entries] at listed
  obtain ⟨p, paired, entered⟩ := List.mem_filterMap.mp listed
  obtain ⟨a, b, at_i, at_j, is_entry⟩ := overlap_entry_of_pair paired
  refine ⟨a, List.mem_of_getElem? at_i, b, List.mem_of_getElem? at_j, ?_, ?_⟩
  · rw [is_entry] at entered
    rw [← Option.some.inj entered]
  · have meet := picks_meet (mem_pairs_iff.mp paired).2
    simpa [Table.meet, table, at_i, at_j] using meet

theorem stop_of_station {legs : Json} {stations : List (Station Num)} {station : Station Num}
    (extracted : extractStations numbers legs = .ok stations) (listed : station ∈ stations) :
    ∃ stop ∈ stopsOfLegs legs, ∃ order, stationOf numbers stop order = .ok station := by
  have built := ((extract_stations_iff numbers).mp extracted).2
  obtain ⟨i, at_i⟩ := List.mem_iff_getElem?.mp listed
  obtain ⟨stop, stop_at, is_station⟩ := (stations_from_get_iff numbers built i station).mp at_i
  exact ⟨stop, List.mem_of_getElem? stop_at, _, is_station⟩

/-- A stop that the analysis reads is one that the page looks into. -/
theorem stops_at_of_read {name : JsString} {leg stop : Json} (read : stop ∈ stopsOf leg)
    (named : stop.member? (js "stationName") = some (.string name)) : StopsAt name leg := by
  refine ⟨stop, ?_, named⟩
  unfold stopsOf at read
  split at read
  · simp at read
  · exact read

/-- The meetup of a response is a stop of the own route with a stop of the partner's at its place;
the own legs are shown as they are. -/
theorem respond_meetup {appointmentAt : Date} {mine partners : BestItinerary} {now : Date}
    {response : CoupleRouteResponse Num}
    (responded : respond numbers appointmentAt mine partners now = .ok response) :
    response.myRoute.legs = mine.legs ∧ ∀ meetup, response.meetupStation = some meetup →
      ∃ stop ∈ stopsOfLegs mine.legs,
        stop.member? (js "stationName") = some (.string meetup.name) ∧
        ∃ partnerStop ∈ stopsOfLegs partners.legs, SamePlace numbers stop partnerStop := by
  simp only [respond, bind_ok_iff] at responded
  obtain ⟨stations, mine_ok, partnerStations, partners_ok, text, _, built⟩ := responded
  cases found : findMeetupStation (findOverlapStations numbers.near stations partnerStations) with
  | none =>
    simp only [found, pure_ok_iff] at built
    simp [← built]
  | some place =>
    simp only [found, bind_ok_iff, pure_ok_iff] at built
    obtain ⟨partnerText, _, rfl⟩ := built
    refine ⟨rfl, ?_⟩
    intro meetup chosen
    obtain rfl := Option.some.inj chosen
    obtain ⟨a, in_mine, b, in_partners, named, meet⟩ := meetup_meets found
    obtain ⟨stop, read, i, is_a⟩ := stop_of_station mine_ok in_mine
    obtain ⟨partnerStop, partner_read, j, is_b⟩ := stop_of_station partners_ok in_partners
    have called := ((station_of_eq_iff numbers).mp is_a).1
    rw [named] at called
    exact ⟨stop, read, called, partnerStop, partner_read, (same_place_iff is_a is_b).mpr meet⟩

end Responses

section Page
variable {Num : Type} (numbers : BodyNumbers Num)

/-- The name that CalendarTab hands to the page. -/
def meetupStationName (response : CoupleRouteResponse Num) : Option JsString :=
  response.meetupStation.map fun meetup => meetup.name

theorem detail_marks_meetup (appointmentAt : Date) (mine partners : BestItinerary) (now : Date)
    (response : CoupleRouteResponse Num)
    (responded : respond numbers appointmentAt mine partners now = .ok response) :
    ((∃ flags, badges numbers (meetupStationName response) response.myRoute.legs = .ok flags) ↔
      ∃ legs, mine.legs = .array legs ∧ ∀ leg ∈ legs, Drawable (meetupStationName response) leg) ∧
    ∀ flags, badges numbers (meetupStationName response) response.myRoute.legs = .ok flags →
      ∃ legs, mine.legs = .array legs ∧
        List.Forall₂ (fun leg flag => flag = true ↔ ∃ meetup, response.meetupStation = some meetup ∧
          meetup.name ≠ [] ∧ StopsAt meetup.name leg) legs flags ∧
        ∀ meetup, response.meetupStation = some meetup → meetup.name ≠ [] → true ∈ flags ∧
          ∃ stop ∈ stopsOfLegs mine.legs,
            stop.member? (js "stationName") = some (.string meetup.name) ∧
            ∃ partnerStop ∈ stopsOfLegs partners.legs, SamePlace numbers stop partnerStop := by
  obtain ⟨shown, placed⟩ := respond_meetup responded
  rw [shown]
  constructor
  · cases mine.legs with
    | array legs => simp [badges, badges_drawn_iff]
    | _ => simp [badges, throw, throwThe, MonadExceptOf.throw]
  · intro flags drawn
    cases listed : mine.legs with
    | array legs =>
      rw [listed] at drawn placed
      have marked : List.Forall₂ (fun leg flag => flag = true ↔ ∃ meetup,
          response.meetupStation = some meetup ∧ meetup.name ≠ [] ∧ StopsAt meetup.name leg)
          legs flags := by
        refine (badges_of_iff.mp drawn).imp fun leg flag is_flag => ?_
        rw [(mark_leg_iff.mp is_flag).2]
        simp [meetupStationName]
      refine ⟨legs, rfl, marked, ?_⟩
      intro meetup chosen named
      obtain ⟨stop, read, called, met⟩ := placed meetup chosen
      refine ⟨?_, stop, read, called, met⟩
      obtain ⟨leg, in_legs, in_leg⟩ := List.mem_flatMap.mp read
      obtain ⟨flag, shown_flag, is_flag⟩ := related_of_mem marked in_legs
      rwa [is_flag.mpr ⟨meetup, chosen, named, stops_at_of_read in_leg called⟩] at shown_flag
    | _ =>
      rw [listed] at drawn
      simp [badges, throw, throwThe, MonadExceptOf.throw] at drawn

/-- A walk and then a train with one stop. -/
def sampleItinerary : BestItinerary where
  totalTime := zero
  totalWalkTime := zero
  transferCount := zero
  legs := .array [.object [(js "mode", .string (js "WALK"))],
    nest ["passStopList", "stationList"]
      (.array [.object [(js "stationName", .string (js "Seoul"))]])]

theorem train_is_marked : ∃ response flags,
    respond sampleNumbers RouteCacheRuns.sampleDate sampleItinerary sampleItinerary
      RouteCacheRuns.sampleDate = .ok response ∧
    badges sampleNumbers (meetupStationName response) response.myRoute.legs = .ok flags ∧
      true ∈ flags := by
  have computed : ((respond sampleNumbers RouteCacheRuns.sampleDate sampleItinerary sampleItinerary
      RouteCacheRuns.sampleDate).toOption.map fun response => (meetupStationName response,
        (badges sampleNumbers (meetupStationName response) response.myRoute.legs).toOption)) =
      some (some (js "Seoul"), some [false, true]) := by decide +kernel
  cases responded : respond sampleNumbers RouteCacheRuns.sampleDate sampleItinerary sampleItinerary
      RouteCacheRuns.sampleDate with
  | error fault => simp [responded, Except.toOption] at computed
  | ok response =>
    simp only [responded, Except.toOption, Option.map_some, Option.some.injEq,
      Prod.mk.injEq] at computed
    obtain ⟨named, drawn⟩ := computed
    cases flags : badges sampleNumbers (meetupStationName response) response.myRoute.legs with
    | error fault => simp [flags] at drawn
    | ok marks =>
      obtain ⟨meetup, chosen, called⟩ := Option.map_eq_some_iff.mp named
      obtain ⟨legs, _, _, placed⟩ := (detail_marks_meetup sampleNumbers _ _ _ _ response
        responded).2 marks flags
      exact ⟨response, marks, rfl, flags, (placed meetup chosen (by simp [called, js])).1⟩

/-- A mode with a `toString` of its own is no name of a property. -/
example : badges sampleNumbers none
    (.array [nest ["mode", "toString"] zero]) = .error .typeError := by decide +kernel

/-- Stops that are no list are passed over by the analysis, not by the page. -/
example : badges sampleNumbers (some (js "Seoul"))
      (.array [nest ["passStopList", "stationList"] (.object [])]) = .error .typeError ∧
    (extractStations sampleNumbers
      (.array [nest ["passStopList", "stationList"] (.object [])])).toOption.isSome := by
  decide +kernel

end Page

end MeetupBadges
