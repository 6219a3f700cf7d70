import Mathlib.Algebra.BigOperators.Ring.List
import Mathlib.Algebra.Ring.Rat
import UCLinux.Navigation.RouteObj

/-!
Legs of a route made of directions. A leg has the points of the shape and a step
for each maneuver. The totals are copied from the summary of the directions, the
time of which becomes the leg's distance and the length its duration.
-/

namespace UCLinux.Navigation

open Sql

section Program

/-- The maneuver types the actions are told by; `other` is any other number. -/
inductive ManeuverType where
  | none
  | continue
  | becomes
  | rampStraight
  | stayStraight
  | merge
  | ferryEnter
  | ferryExit
  | slightRight
  | right
  | rampRight
  | exitRight
  | stayRight
  | sharpRight
  | uturnLeft
  | uturnRight
  | sharpLeft
  | left
  | rampLeft
  | exitLeft
  | stayLeft
  | slightLeft
  | roundaboutEnter
  | roundaboutExit
  | start
  | startRight
  | startLeft
  | destination
  | destinationRight
  | destinationLeft
  | other (number : Int)
  deriving DecidableEq, Repr

/-- `TranslateManeuverType`: an action, unless the type has none. -/
def translateManeuverType : ManeuverType → Option RoutingAction
  | .none => some .noTurn
  | .continue | .becomes | .rampStraight | .stayStraight | .ferryEnter | .ferryExit =>
    some .goStraight
  | .merge => some .merge
  | .slightRight => some .turnSlightRight
  | .right | .rampRight | .exitRight => some .turnRight
  | .stayRight => some .keepRight
  | .sharpRight => some .turnSharpRight
  | .uturnLeft => some .uturn
  | .uturnRight => some .uturnRight
  | .sharpLeft => some .turnSharpLeft
  | .left | .rampLeft | .exitLeft => some .turnLeft
  | .stayLeft => some .keepLeft
  | .slightLeft => some .turnSlightLeft
  | .roundaboutEnter => some .enterRoundabout
  | .roundaboutExit => some .leaveRoundabout
  | .start | .startRight | .startLeft => some .startAtEndOfStreet
  | .destination | .destinationRight | .destinationLeft => some .finish
  | .other _ => Option.none

structure Maneuver where
  type : ManeuverType
  begin_shape_index : Nat
  end_shape_index : Nat
  street_name : List Text
  begin_heading : Rat
  text_instruction : Text
  verbal_post_transition_instruction : Text
  length : Rat
  time : Rat
  deriving DecidableEq, Repr

structure Summary where
  length : Rat
  time : Rat
  deriving DecidableEq, Repr

/-- A leg of the directions; the shape is encoded. -/
structure DirectionsLeg where
  shape : Text
  maneuver : List Maneuver
  summary : Summary
  deriving DecidableEq, Repr

inductive Units where
  | kilometers
  | miles
  deriving DecidableEq, Repr

/-- The longer one of the first two street names. -/
def stepName : List Text → Text
  | [] => []
  | [first] => first
  | first :: second :: _ => if first.length < second.length then second else first

def processManeuver (m : Maneuver) : PStepO Rat where
  point_start_index := m.begin_shape_index
  point_end_index := m.end_shape_index
  mnv := {
    action := (translateManeuverType m.type).getD .noTurn
    type := []
    modifier := []
    azimuth := m.begin_heading
    textinstr := m.text_instruction }
  postverinst := m.verbal_post_transition_instruction
  distance := m.length * 1000
  name := stepName m.street_name
  time := m.time

-- `decode` reads the points of an encoded shape
variable (decode : Text → List (PPointLL Rat))

def process_vleg (units : Units) (leg_directions : DirectionsLeg) : PLegO Rat :=
  let trip_time := leg_directions.summary.time
  let trip_length := leg_directions.summary.length *
    (match units with
    | .kilometers => 1000
    | .miles => 1609344 / 1000)
  { geo_points := decode leg_directions.shape
    steps := leg_directions.maneuver.map processManeuver
    summary := "Summary".toList
    distance := trip_time
    duration := trip_length }

/-- Directions whose summary sums the maneuvers up. -/
structure DirectionsLeg.Consistent (leg : DirectionsLeg) : Prop where
  length : leg.summary.length = (leg.maneuver.map Maneuver.length).sum
  time : leg.summary.time = (leg.maneuver.map Maneuver.time).sum
  begin_lt : ∀ m ∈ leg.maneuver, m.begin_shape_index < (decode leg.shape).length
  end_lt : ∀ m ∈ leg.maneuver, m.end_shape_index < (decode leg.shape).length

/-- The leg has the points of the directions in order, a step for each maneuver
between the same points, and totals that sum its steps up. -/
structure DirectionsLeg.Kept (leg : DirectionsLeg) (rLeg : PLegO Rat) : Prop where
  points : rLeg.geo_points = decode leg.shape
  steps : rLeg.steps.map (fun step => (step.point_start_index, step.point_end_index)) =
    leg.maneuver.map fun m => ((m.begin_shape_index : Int), (m.end_shape_index : Int))
  distance : rLeg.distance = (rLeg.steps.map PStepO.distance).sum
  duration : rLeg.duration = (rLeg.steps.map PStepO.time).sum

end Program

section Totals

variable {decode : Text → List (PPointLL Rat)} {leg : DirectionsLeg}

theorem sum_step_distance (h : leg.Consistent decode) (units : Units) :
    ((process_vleg decode units leg).steps.map PStepO.distance).sum =
      1000 * leg.summary.length := by
  unfold process_vleg
  rw [h.length, List.map_map, ← List.sum_map_mul_left]
  refine congrArg List.sum (List.map_congr_left fun m _ => ?_)
  exact mul_comm m.length 1000

theorem sum_step_time (h : leg.Consistent decode) (units : Units) :
    ((process_vleg decode units leg).steps.map PStepO.time).sum = leg.summary.time := by
  unfold process_vleg
  rw [h.time, List.map_map]
  rfl

/-- The totals are those of the steps only where the leg takes as many seconds as
it has metres. -/
theorem process_vleg_kept_iff (decode : Text → List (PPointLL Rat)) (leg : DirectionsLeg)
    (h : leg.Consistent decode) :
    leg.Kept decode (process_vleg decode .kilometers leg) ↔
      leg.summary.time = 1000 * leg.summary.length := by
  constructor
  · intro hkept
    exact hkept.distance.trans (sum_step_distance h .kilometers)
  · intro hequal
    refine ⟨rfl, ?_, ?_, ?_⟩
    · exact List.map_map
    · rw [sum_step_distance h]
      exact hequal
    · rw [sum_step_time h, hequal]
      exact mul_comm leg.summary.length 1000

def twoPoints : Text → List (PPointLL Rat) := fun _ => [⟨0, 0⟩, ⟨0, 1⟩]

/-- Two maneuvers of a metre each second. -/
def onFoot : DirectionsLeg :=
  ⟨[], [⟨.continue, 0, 1, [], 0, [], [], 3 / 50, 60⟩, ⟨.destination, 1, 1, [], 0, [], [], 1 / 25, 40⟩],
    ⟨1 / 10, 100⟩⟩

theorem onFoot_consistent : onFoot.Consistent twoPoints := by
  refine ⟨by decide +kernel, by decide +kernel, ?_, ?_⟩ <;> simp [onFoot, twoPoints]

theorem process_vleg_kept_on_foot :
    onFoot.Kept twoPoints (process_vleg twoPoints .kilometers onFoot) :=
  (process_vleg_kept_iff twoPoints onFoot onFoot_consistent).mpr (by decide +kernel)

/-- One kilometre in a minute. -/
def oneKilometre : DirectionsLeg :=
  ⟨[], [⟨.continue, 0, 1, [], 0, [], [], 1, 60⟩], ⟨1, 60⟩⟩

theorem oneKilometre_consistent : oneKilometre.Consistent twoPoints := by
  refine ⟨?_, ?_, ?_, ?_⟩ <;> simp [oneKilometre, twoPoints]

theorem process_vleg_swapped :
    ¬∀ (decode : Text → List (PPointLL Rat)) (leg : DirectionsLeg), leg.Consistent decode →
      leg.Kept decode (process_vleg decode .kilometers leg) := by
  intro h
  have hdistance := (h twoPoints oneKilometre oneKilometre_consistent).distance
  rw [sum_step_distance oneKilometre_consistent] at hdistance
  exact absurd hdistance (by decide +kernel)

end Totals

end UCLinux.Navigation
