import UCLinux.Sql.Statement

/-!
The objects of a computed route: the points of a leg, its steps, and the turn a
step starts with. Coordinates, distances and times are of one type of numbers.
-/

namespace UCLinux.Navigation

open Sql

inductive RoutingAction where
  | headOn
  | finish
  | noTurn
  | goStraight
  | turnRight
  | turnSlightRight
  | turnSharpRight
  | keepRight
  | uturn
  | uturnRight
  | turnLeft
  | turnSlightLeft
  | turnSharpLeft
  | keepLeft
  | reachViaLocation
  | enterRoundabout
  | leaveRoundabout
  | stayOnRoundabout
  | startAtEndOfStreet
  | enterAgainstAllowedDirection
  | leaveAgainstAllowedDirection
  | merge
  deriving DecidableEq, Repr

variable (F : Type)

structure PPointLL where
  lon : F
  lat : F
  deriving DecidableEq, Repr

structure PManeuverO where
  action : RoutingAction
  type : Text
  modifier : Text
  azimuth : F
  textinstr : Text
  deriving DecidableEq, Repr

structure PStepO where
  point_start_index : Int
  point_end_index : Int
  mnv : PManeuverO F
  postverinst : Text
  distance : F
  name : Text
  time : F
  deriving DecidableEq, Repr

structure PLegO where
  geo_points : List (PPointLL F)
  steps : List (PStepO F)
  summary : Text
  distance : F
  duration : F
  deriving DecidableEq, Repr

end UCLinux.Navigation
