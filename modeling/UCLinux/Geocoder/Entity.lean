import Mathlib.Data.Rat.Defs
import UCLinux.Ocpp.Text

/-!
The entities the geocoder reads and measures: streets with numbered buildings
along them, and buildings with their outlines.
-/

namespace UCLinux.Geocoder

open Ocpp Sql

/-- The coordinates are `float`s. -/
structure GeoBuilding where
  lat : Rat
  lon : Rat
  houseNumber : Text
  distance : Int
  isInsideTheRadius : Bool
  deriving DecidableEq, Repr

/-- The constructor of `GeoBuilding` with its defaults. -/
def GeoBuilding.new (lat lon : Rat) (houseNumber : Text) : GeoBuilding :=
  ⟨lat, lon, houseNumber, -1, false⟩

/-- A building as it is found on the map. -/
structure Place where
  lat : Rat
  lon : Rat
  number : Text
  deriving DecidableEq, Repr

def GeoBuilding.place (b : GeoBuilding) : Place := ⟨b.lat, b.lon, b.houseNumber⟩

structure GeoStreetInterpolation where
  buildings : List GeoBuilding
  distance : Int
  deriving DecidableEq, Repr

structure LinePoint where
  x : Rat
  y : Rat
  deriving DecidableEq, Repr

structure GeoBoundary where
  house_number : Text
  ls : List LinePoint
  distance : Int
  deriving DecidableEq, Repr

/-- `other` stands for administrative boundaries and places. -/
inductive GeoEntity where
  | street (s : GeoStreetInterpolation)
  | building (b : GeoBoundary)
  | other (distance : Int)
  deriving DecidableEq, Repr

def GeoEntity.distance : GeoEntity → Int
  | .street s => s.distance
  | .building b => b.distance
  | .other distance => distance

/-- `-1` for what `stoi` does not take. -/
def convertStr2Int (str : Text) : Int := (stoi str).getD (-1)

end UCLinux.Geocoder
