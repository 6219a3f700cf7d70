import Mathlib.Algebra.Order.Ring.Rat
import UCLinux.Geocoder.Entity
import UCLinux.Machine.Sorting

/-!
The address of a point on a street. The buildings in the radius get their
distance to the point; all are sorted by it where both have a number, and the
first one gives its number to the address.
-/

namespace UCLinux.Geocoder

open Machine Sql

section Program

-- `measure` is the distance of a coordinate from the query point, in whole metres
variable (measure : Rat → Rat → Nat) (radius : Rat)

/-- The radius test of `rev_geo_address_look_up`. -/
def radiusTest (bld : GeoBuilding) : GeoBuilding :=
  let dist := measure bld.lat bld.lon
  if (dist : Rat) < radius then { bld with isInsideTheRadius := true, distance := dist }
  else { bld with isInsideTheRadius := false }

/-- The comparator of the sort. -/
def numberedBefore (first second : GeoBuilding) : Bool :=
  (first.houseNumber ≠ [] ∧ second.houseNumber ≠ []) ∧ first.distance < second.distance

/-- The address; `none` where there is no first building to look at. -/
def processRevGeoStreetInterpolation (S : StdSort numberedBefore) (name city : Text)
    (buildings : List GeoBuilding) : Option Text :=
  (S.sort buildings).head?.map fun bld =>
    if bld.isInsideTheRadius ∧ bld.houseNumber ≠ [] then
      bld.houseNumber ++ " ".toList ++ name ++ ", ".toList ++ city
    else name ++ ", ".toList ++ city

end Program

section Purpose

variable (measure : Rat → Rat → Nat) (radius : Rat)

/-- The building as it is sorted. -/
def Place.tested (p : Place) : GeoBuilding :=
  radiusTest measure radius (.new p.lat p.lon p.number)

/-- The building has a number and is within the radius. -/
def Place.Fits (p : Place) : Prop := p.number ≠ [] ∧ (measure p.lat p.lon : Rat) < radius

/-- Where a building fits, the address is composed with the number of a nearest
one that does. -/
def NearestNumber (places : List Place) (name city : Text) (address : Option Text) : Prop :=
  (∃ p ∈ places, p.Fits measure radius) →
    ∃ p ∈ places, p.Fits measure radius ∧
      (∀ q ∈ places, q.Fits measure radius → measure p.lat p.lon ≤ measure q.lat q.lon) ∧
      address = some (p.number ++ " ".toList ++ name ++ ", ".toList ++ city)

end Purpose

section Comparator

variable {measure : Rat → Rat → Nat} {radius : Rat} {p q : Place} {places : List Place}

@[simp] theorem tested_houseNumber : (p.tested measure radius).houseNumber = p.number := by
  unfold Place.tested radiusTest
  dsimp only
  split <;> rfl

theorem tested_of_inside (h : (measure p.lat p.lon : Rat) < radius) :
    p.tested measure radius = ⟨p.lat, p.lon, p.number, measure p.lat p.lon, true⟩ :=
  if_pos h

/-- Outside the radius the default distance stays. -/
theorem tested_of_outside (h : ¬(measure p.lat p.lon : Rat) < radius) :
    p.tested measure radius = .new p.lat p.lon p.number :=
  if_neg h

theorem tested_distance_of_inside (h : (measure p.lat p.lon : Rat) < radius) :
    (p.tested measure radius).distance = measure p.lat p.lon := by
  rw [tested_of_inside h]

theorem tested_distance_of_outside (h : ¬(measure p.lat p.lon : Rat) < radius) :
    (p.tested measure radius).distance = -1 := by
  rw [tested_of_outside h]
  rfl

theorem tested_inside :
    (p.tested measure radius).isInsideTheRadius = true ↔
      (measure p.lat p.lon : Rat) < radius := by
  by_cases h : (measure p.lat p.lon : Rat) < radius
  · rw [tested_of_inside h]
    exact iff_of_true rfl h
  · rw [tested_of_outside h]
    exact iff_of_false Bool.false_ne_true h

theorem neg_one_le_tested_distance : -1 ≤ (p.tested measure radius).distance := by
  by_cases h : (measure p.lat p.lon : Rat) < radius
  · rw [tested_distance_of_inside h]
    omega
  · rw [tested_distance_of_outside h]

theorem numberedBefore_iff {a b : GeoBuilding} :
    numberedBefore a b = true ↔
      (a.houseNumber ≠ [] ∧ b.houseNumber ≠ []) ∧ a.distance < b.distance :=
  decide_eq_true_iff

/-- No building goes before one that does not fit. -/
theorem not_numberedBefore_of_not_fits (h : ¬p.Fits measure radius) (q : Place) :
    numberedBefore (q.tested measure radius) (p.tested measure radius) = false := by
  refine Bool.eq_false_iff.mpr fun hbefore => ?_
  obtain ⟨⟨-, hnumber⟩, hlt⟩ := numberedBefore_iff.mp hbefore
  rw [tested_houseNumber] at hnumber
  have hle : -1 ≤ (q.tested measure radius).distance := neg_one_le_tested_distance
  rw [tested_distance_of_outside fun hinside => h ⟨hnumber, hinside⟩] at hlt
  omega

/-- Where no building fits, all are equivalent. -/
theorem numberedBefore_order_of_none (h : ∀ p ∈ places, ¬p.Fits measure radius) :
    StrictWeakOn numberedBefore (places.map (Place.tested measure radius)) := by
  refine (StrictWeakOn.of_key (fun _ => 0) _).congr fun a ha b hb => ?_
  obtain ⟨p, -, rfl⟩ := List.mem_map.mp ha
  obtain ⟨q, hq, rfl⟩ := List.mem_map.mp hb
  exact not_numberedBefore_of_not_fits (h q hq) p

/-- Where all fit, they are ordered by their distance. -/
theorem numberedBefore_order_of_all (h : ∀ p ∈ places, p.Fits measure radius) :
    StrictWeakOn numberedBefore (places.map (Place.tested measure radius)) := by
  refine (StrictWeakOn.of_key GeoBuilding.distance _).congr fun a ha b hb => ?_
  obtain ⟨p, hp, rfl⟩ := List.mem_map.mp ha
  obtain ⟨q, hq, rfl⟩ := List.mem_map.mp hb
  have hnumbers : (p.tested measure radius).houseNumber ≠ [] ∧
      (q.tested measure radius).houseNumber ≠ [] := by
    rw [tested_houseNumber, tested_houseNumber]
    exact ⟨(h p hp).1, (h q hq).1⟩
  exact decide_eq_decide.mpr (and_iff_right hnumbers)

end Comparator

section Address

variable {measure : Rat → Rat → Nat} {radius : Rat} {p : Place} {places : List Place}
  {name city : Text}

theorem address_of_sort (S : StdSort numberedBefore) (name city : Text)
    {rest : List GeoBuilding}
    (h : S.sort (places.map (Place.tested measure radius)) = p.tested measure radius :: rest) :
    processRevGeoStreetInterpolation S name city (places.map (Place.tested measure radius)) =
      some (if (measure p.lat p.lon : Rat) < radius ∧ p.number ≠ [] then
        p.number ++ " ".toList ++ name ++ ", ".toList ++ city
      else name ++ ", ".toList ++ city) := by
  unfold processRevGeoStreetInterpolation
  rw [h, List.head?_cons, Option.map_some, tested_houseNumber]
  simp only [tested_inside]

/-- A building that does not fit may come first, and the address has no number. -/
theorem exists_sort_without_number (hp : p ∈ places) (h : ¬p.Fits measure radius)
    (name city : Text) :
    ∃ S : StdSort numberedBefore,
      processRevGeoStreetInterpolation S name city (places.map (Place.tested measure radius)) =
        some (name ++ ", ".toList ++ city) := by
  have hfirst : ∀ b ∈ places.map (Place.tested measure radius),
      numberedBefore b (p.tested measure radius) = false := by
    intro b hb
    obtain ⟨q, -, rfl⟩ := List.mem_map.mp hb
    exact not_numberedBefore_of_not_fits h q
  refine ⟨(StdSort.insertion numberedBefore).choosing _ _ (List.mem_map_of_mem hp) hfirst, ?_⟩
  rw [address_of_sort _ name city (StdSort.choosing_sort _ (List.mem_map_of_mem hp) hfirst),
    if_neg fun hfits => h ⟨hfits.2, hfits.1⟩]

/-- Where all buildings fit, the first one is nearest. -/
theorem nearestNumber_of_all (h : ∀ p ∈ places, p.Fits measure radius)
    (S : StdSort numberedBefore) (name city : Text) :
    NearestNumber measure radius places name city
      (processRevGeoStreetInterpolation S name city
        (places.map (Place.tested measure radius))) := by
  rintro ⟨x, hx, -⟩
  have horder := numberedBefore_order_of_all h
  have hne : places.map (Place.tested measure radius) ≠ [] :=
    List.ne_nil_of_mem (List.mem_map_of_mem hx)
  obtain ⟨b, rest, hsort⟩ := List.exists_cons_of_ne_nil (S.sort_ne_nil horder hne)
  obtain ⟨hb, hfirst⟩ := S.not_lt_of_sort_eq horder hsort
  obtain ⟨p, hp, rfl⟩ := List.mem_map.mp hb
  refine ⟨p, hp, h p hp, fun q hq hfits => ?_, ?_⟩
  · have hnot := hfirst _ (List.mem_map_of_mem hq)
    by_contra hlt
    refine Bool.eq_false_iff.mp hnot (numberedBefore_iff.mpr ⟨?_, ?_⟩)
    · rw [tested_houseNumber, tested_houseNumber]
      exact ⟨hfits.1, (h p hp).1⟩
    · rw [tested_distance_of_inside hfits.2, tested_distance_of_inside (h p hp).2]
      omega
  · rw [address_of_sort S name city hsort, if_pos ⟨(h p hp).2, (h p hp).1⟩]

/-- With every sort the number of a nearest building, and a strict weak order to
sort by, exactly when no building with a number is in the radius, or all
buildings have a number and are. -/
theorem processRevGeo_nearest_iff (measure : Rat → Rat → Nat) (radius : Rat)
    (places : List Place) (name city : Text) :
    ((∀ S, NearestNumber measure radius places name city
        (processRevGeoStreetInterpolation S name city
          (places.map (Place.tested measure radius)))) ∧
      StrictWeakOn numberedBefore (places.map (Place.tested measure radius))) ↔
      (∀ p ∈ places, ¬p.Fits measure radius) ∨ ∀ p ∈ places, p.Fits measure radius := by
  constructor
  · rintro ⟨hnearest, -⟩
    by_contra hmixed
    rw [not_or] at hmixed
    have hsome : ∃ p ∈ places, p.Fits measure radius := by
      by_contra hnone
      exact hmixed.1 fun p hp hfits => hnone ⟨p, hp, hfits⟩
    obtain ⟨q, hq, hnot⟩ : ∃ q ∈ places, ¬q.Fits measure radius := by
      by_contra hall
      exact hmixed.2 fun q hq => by_contra fun hnot => hall ⟨q, hq, hnot⟩
    obtain ⟨S, haddress⟩ := exists_sort_without_number hq hnot name city
    obtain ⟨p, -, -, -, hp⟩ := hnearest S hsome
    rw [haddress] at hp
    have hlength := congrArg List.length (Option.some.inj hp)
    simp at hlength
    omega
  · rintro (hnone | hall)
    · exact ⟨fun S ⟨p, hp, hfits⟩ => absurd hfits (hnone p hp), numberedBefore_order_of_none hnone⟩
    · exact ⟨fun S => nearestNumber_of_all hall S name city, numberedBefore_order_of_all hall⟩

/-- Number 5 is 10 metres away, number 7 outside a radius of 50. -/
def mainStreet : List Place := [⟨0, 10, "5".toList⟩, ⟨0, 90, "7".toList⟩]

theorem processRevGeo_farther_number :
    ¬∀ (measure : Rat → Rat → Nat) (radius : Rat) (places : List Place) (name city : Text),
      (∀ S, NearestNumber measure radius places name city
        (processRevGeoStreetInterpolation S name city
          (places.map (Place.tested measure radius)))) ∧
      StrictWeakOn numberedBefore (places.map (Place.tested measure radius)) := by
  intro h
  let measure : Rat → Rat → Nat := fun _ lon => lon.num.natAbs
  obtain ⟨p, -, -, -, hp⟩ := (h measure 50 mainStreet [] []).1 (.insertion _)
    ⟨⟨0, 10, "5".toList⟩, by decide, ⟨by decide, by decide +kernel⟩⟩
  have hresult : processRevGeoStreetInterpolation (.insertion _) [] []
      (mainStreet.map (Place.tested measure 50)) = some ", ".toList := by
    decide +kernel
  rw [hresult] at hp
  have hlength := congrArg List.length (Option.some.inj hp)
  simp at hlength

end Address

end UCLinux.Geocoder
