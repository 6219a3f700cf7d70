import UCLinux.Geocoder.Entity
import UCLinux.Machine.Rounding
import UCLinux.Machine.Sorting

/-!
The building whose number is closest to the one asked for. Each street keeps in
the distances of its buildings which of them were improvements on those in front;
the closest entity and in it the closest building are then found by sorting. A
building with an outline takes part whether it has a number or not.
-/

namespace UCLinux.Geocoder

open Machine Machine.Rounding Ocpp Sql

section Program

/-- The distance of a building that is no improvement. -/
def noImprovement : Int := 0x7fffffff

/-- `std::abs(hN1 - hN)` -/
def numberDistance (hN : Int) (number : Text) : Int := (convertStr2Int number - hN).natAbs

def GeoBuilding.far (bld : GeoBuilding) : GeoBuilding := { bld with distance := noImprovement }

def GeoBuilding.improve (dist : Int) (bld : GeoBuilding) : GeoBuilding :=
  { bld with distance := dist, isInsideTheRadius := true }

/-- The loop over the buildings of a street. The street's own distance is `some`
once a numbered building was found. -/
def markBuildings (hN : Int) : Option Int → List GeoBuilding → Option Int × List GeoBuilding
  | found, [] => (found, [])
  | found, bld :: buildings =>
    let dist := numberDistance hN bld.houseNumber
    if bld.houseNumber ≠ [] then
      if found.all fun distance => dist < distance then
        let rest := markBuildings hN (some dist) buildings
        (rest.1, bld.improve dist :: rest.2)
      else
        let rest := markBuildings hN found buildings
        (rest.1, bld.far :: rest.2)
    else
      let rest := markBuildings hN found buildings
      (rest.1, bld.far :: rest.2)

/-- What the loop over the geometries adds to the results. -/
def measureEntity (hN : Int) : GeoEntity → Option GeoEntity
  | .street s =>
    let marked := markBuildings hN none s.buildings
    marked.1.map fun distance => .street ⟨marked.2, distance⟩
  | .building b => some (.building { b with distance := numberDistance hN b.house_number })
  | .other _ => none

def entityBefore (first second : GeoEntity) : Bool := first.distance < second.distance

def buildingBefore (first second : GeoBuilding) : Bool := first.distance < second.distance

def emptyBuilding : GeoBuilding := .new 0 0 []

/-- The building of the closest entity; `none` when an outline has no point. -/
def closestBuilding (T : StdSort buildingBefore) : GeoEntity → Option GeoBuilding
  | .street s => (T.sort s.buildings).head?
  | .building b => b.ls.head?.map fun p =>
      { GeoBuilding.new (single p.y) (single p.x) b.house_number with distance := b.distance }
  | .other _ => some emptyBuilding

def findClosestMatch (S : StdSort entityBefore) (T : StdSort buildingBefore)
    (geomInfos : List GeoEntity) (houseN : Text) : Option GeoBuilding :=
  match S.sort (geomInfos.filterMap (measureEntity (convertStr2Int houseN))) with
  | [] => some emptyBuilding
  | xx :: _ => if 0 ≤ xx.distance then closestBuilding T xx else some emptyBuilding

end Program

section Purpose

def GeoEntity.places : GeoEntity → List Place
  | .street s => s.buildings.map GeoBuilding.place
  | .building b => b.ls.head?.toList.map fun p => ⟨single p.y, single p.x, b.house_number⟩
  | .other _ => []

/-- One of the buildings with a usable number that are closest to the number
asked for, with its distance; the empty building if no number is usable. -/
structure Closest (usable : Text → Bool) (geomInfos : List GeoEntity) (hN : Int)
    (r : Option GeoBuilding) : Prop where
  found : (∃ p ∈ geomInfos.flatMap GeoEntity.places, usable p.number = true) →
    ∃ b, r = some b ∧ b.place ∈ geomInfos.flatMap GeoEntity.places ∧
      usable b.houseNumber = true ∧ b.distance = numberDistance hN b.houseNumber ∧
      ∀ p ∈ geomInfos.flatMap GeoEntity.places, usable p.number = true →
        b.distance ≤ numberDistance hN p.number
  absent : (∀ p ∈ geomInfos.flatMap GeoEntity.places, usable p.number = false) →
    r = some emptyBuilding

/-- The distances the program takes into account. -/
def GeoEntity.distances (hN : Int) : GeoEntity → List Int
  | .street s => (s.buildings.filter fun b => b.houseNumber ≠ []).map fun b =>
      numberDistance hN b.houseNumber
  | .building b => [numberDistance hN b.house_number]
  | .other _ => []

/-- The entity has the least distance of all, `m`. -/
def MayWin (hN : Int) (geomInfos : List GeoEntity) (e : GeoEntity) (m : Int) : Prop :=
  e ∈ geomInfos ∧ m ∈ e.distances hN ∧ ∀ e' ∈ geomInfos, ∀ d ∈ e'.distances hN, m ≤ d

/-- The number is that of the building an entity with the distance `m` may give:
of a street the first building at that distance, unless the distance is the one
of buildings that are no improvement. -/
def MayReturn (hN m : Int) (number : Text) : GeoEntity → Prop
  | .street s =>
    if m < noImprovement then
      (s.buildings.find? fun b => b.houseNumber ≠ [] ∧ numberDistance hN b.houseNumber = m).map
        GeoBuilding.houseNumber = some number
    else ∃ b ∈ s.buildings, b.houseNumber = number
  | .building b => b.house_number = number
  | .other _ => False

end Purpose

section Marking

variable {hN m v : Int} {bs pre post : List GeoBuilding} {b y : GeoBuilding}

@[simp] theorem GeoBuilding.place_far : b.far.place = b.place := rfl

@[simp] theorem GeoBuilding.place_improve (dist : Int) : (b.improve dist).place = b.place := rfl

/-- The building is the first with a number, or closer than those in front. -/
def Improves (hN : Int) (found : Option Int) (b : GeoBuilding) : Prop :=
  b.houseNumber ≠ [] ∧ ∀ v, found = some v → numberDistance hN b.houseNumber < v

theorem markBuildings_improve {found : Option Int} (h : Improves hN found b) :
    markBuildings hN found (b :: bs) =
      ((markBuildings hN (some (numberDistance hN b.houseNumber)) bs).1,
        b.improve (numberDistance hN b.houseNumber) ::
          (markBuildings hN (some (numberDistance hN b.houseNumber)) bs).2) := by
  have hall : (found.all fun distance => decide (numberDistance hN b.houseNumber < distance)) =
      true := by
    rw [Option.all_eq_true]
    exact fun v hv => decide_eq_true (h.2 v hv)
  rw [markBuildings]
  dsimp only
  rw [if_pos h.1, if_pos hall]

theorem markBuildings_far {found : Option Int} (h : ¬Improves hN found b) :
    markBuildings hN found (b :: bs) =
      ((markBuildings hN found bs).1, b.far :: (markBuildings hN found bs).2) := by
  rw [markBuildings]
  dsimp only
  split
  · rename_i hnumber
    refine if_neg fun hall => h ⟨hnumber, fun v hv => ?_⟩
    rw [Option.all_eq_true] at hall
    exact of_decide_eq_true (hall v hv)
  · rfl

/-- Marking leaves the buildings where they are. -/
theorem map_place_markBuildings (found : Option Int) :
    (markBuildings hN found bs).2.map GeoBuilding.place = bs.map GeoBuilding.place := by
  induction bs generalizing found with
  | nil => rfl
  | cons b bs ih =>
    by_cases h : Improves hN found b
    · rw [markBuildings_improve h, List.map_cons, ih, List.map_cons, GeoBuilding.place_improve]
    · rw [markBuildings_far h, List.map_cons, ih, List.map_cons, GeoBuilding.place_far]

theorem markBuildings_append (found : Option Int) :
    markBuildings hN found (pre ++ bs) =
      ((markBuildings hN (markBuildings hN found pre).1 bs).1,
        (markBuildings hN found pre).2 ++
          (markBuildings hN (markBuildings hN found pre).1 bs).2) := by
  induction pre generalizing found with
  | nil => rfl
  | cons b pre ih =>
    rw [List.cons_append]
    by_cases h : Improves hN found b
    · rw [markBuildings_improve h, markBuildings_improve h, ih, List.cons_append]
    · rw [markBuildings_far h, markBuildings_far h, ih, List.cons_append]

/-- A street without numbers, and what comes behind the closest building. -/
theorem markBuildings_of_not_improves {found : Option Int}
    (h : ∀ x ∈ bs, ¬Improves hN found x) :
    markBuildings hN found bs = (found, bs.map GeoBuilding.far) := by
  induction bs with
  | nil => rfl
  | cons b bs ih =>
    rw [markBuildings_far (h b List.mem_cons_self),
      ih fun x hx => h x (List.mem_cons_of_mem b hx), List.map_cons]

/-- Where all numbers are farther than `m`, so is the closest found. -/
theorem lt_of_markBuildings {found : Option Int} (hfound : ∀ v, found = some v → m < v)
    (h : ∀ x ∈ bs, x.houseNumber ≠ [] → m < numberDistance hN x.houseNumber) :
    ∀ v, (markBuildings hN found bs).1 = some v → m < v := by
  induction bs generalizing found with
  | nil => exact hfound
  | cons b bs ih =>
    have hrest : ∀ x ∈ bs, x.houseNumber ≠ [] → m < numberDistance hN x.houseNumber :=
      fun x hx => h x (List.mem_cons_of_mem b hx)
    by_cases himproves : Improves hN found b
    · have hb := h b List.mem_cons_self himproves.1
      have hnext : ∀ v, some (numberDistance hN b.houseNumber) = some v → m < v :=
        fun v hv => Option.some.inj hv ▸ hb
      rw [markBuildings_improve himproves]
      exact ih hnext hrest
    · rw [markBuildings_far himproves]
      exact ih hfound hrest

/-- A mark is the building's own distance, unless it says that the building is
no improvement. -/
theorem distance_of_mem_markBuildings {found : Option Int}
    (hy : y ∈ (markBuildings hN found bs).2) :
    y.distance = noImprovement ∨
      (y.houseNumber ≠ [] ∧ y.distance = numberDistance hN y.houseNumber) := by
  induction bs generalizing found with
  | nil => exact absurd hy List.not_mem_nil
  | cons b bs ih =>
    by_cases himproves : Improves hN found b
    · rw [markBuildings_improve himproves] at hy
      rcases List.mem_cons.mp hy with rfl | hlater
      · exact .inr ⟨himproves.1, rfl⟩
      · exact ih hlater
    · rw [markBuildings_far himproves] at hy
      rcases List.mem_cons.mp hy with rfl | hlater
      · exact .inl rfl
      · exact ih hlater

/-- The first building at the least distance is marked with it, and all behind
it are no improvement. -/
theorem markBuildings_split (hnumber : b.houseNumber ≠ [])
    (hb : numberDistance hN b.houseNumber = m)
    (hpre : ∀ v, (markBuildings hN none pre).1 = some v → m < v)
    (hpost : ∀ x ∈ post, x.houseNumber ≠ [] → m ≤ numberDistance hN x.houseNumber) :
    markBuildings hN none (pre ++ b :: post) =
      (some m, (markBuildings hN none pre).2 ++ b.improve m :: post.map GeoBuilding.far) := by
  have himproves : Improves hN (markBuildings hN none pre).1 b := ⟨hnumber, hb ▸ hpre⟩
  have hrest : markBuildings hN (some m) post = (some m, post.map GeoBuilding.far) :=
    markBuildings_of_not_improves fun x hx hbetter =>
      absurd (hbetter.2 m rfl) (Int.not_lt.mpr (hpost x hx hbetter.1))
  rw [markBuildings_append, markBuildings_improve himproves, hb, hrest]

theorem exists_of_mem_marked {found : Option Int} (hy : y ∈ (markBuildings hN found bs).2) :
    ∃ x ∈ bs, x.place = y.place := by
  have hplace := List.mem_map_of_mem (f := GeoBuilding.place) hy
  rw [map_place_markBuildings] at hplace
  exact List.mem_map.mp hplace

theorem houseNumber_of_place {x y : GeoBuilding} (h : x.place = y.place) :
    x.houseNumber = y.houseNumber := congrArg Place.number h

/-- The marks of a street whose closest number is at `m`: the least ones stand at
the buildings it may give. -/
structure Marked (hN m : Int) (bs marked : List GeoBuilding) : Prop where
  places : marked.map GeoBuilding.place = bs.map GeoBuilding.place
  le : ∀ y ∈ marked, m ≤ y.distance
  near : m < noImprovement → ∃ b,
    (bs.find? fun b => b.houseNumber ≠ [] ∧ numberDistance hN b.houseNumber = m) = some b ∧
      b.improve m ∈ marked ∧ ∀ y ∈ marked, y.distance = m → y = b.improve m
  edge : m = noImprovement → ∀ y ∈ marked, y.distance = m

theorem mem_distances_street {s : GeoStreetInterpolation} {d : Int} :
    d ∈ (GeoEntity.street s).distances hN ↔
      ∃ x ∈ s.buildings, x.houseNumber ≠ [] ∧ numberDistance hN x.houseNumber = d := by
  simp [GeoEntity.distances, and_assoc]

/-- A mark is the one of the first building at the least distance, or says no
improvement, or is farther. -/
theorem mark_cases (hpre : ∀ x ∈ pre, x.houseNumber ≠ [] →
      m < numberDistance hN x.houseNumber ∧ numberDistance hN x.houseNumber ≤ noImprovement)
    (hy : y ∈ (markBuildings hN none pre).2 ++ b.improve m :: post.map GeoBuilding.far) :
    y = b.improve m ∨ y.distance = noImprovement ∨
      (m < y.distance ∧ y.distance ≤ noImprovement) := by
  rcases List.mem_append.mp hy with hin | hin
  · refine .inr ((distance_of_mem_markBuildings hin).imp_right fun h => ?_)
    obtain ⟨x, hx, hplace⟩ := exists_of_mem_marked hin
    have hsame := houseNumber_of_place hplace
    rw [h.2, ← hsame]
    exact hpre x hx (hsame ▸ h.1)
  · rcases List.mem_cons.mp hin with rfl | hfar
    · exact .inl rfl
    · obtain ⟨x, -, rfl⟩ := List.mem_map.mp hfar
      exact .inr (.inl rfl)

/-- A street with a number gives its least distance, and marks its buildings. -/
theorem measureEntity_street {s : GeoStreetInterpolation}
    (hfits : ∀ d ∈ (GeoEntity.street s).distances hN, d ≤ noImprovement)
    (hm : m ∈ (GeoEntity.street s).distances hN)
    (hleast : ∀ d ∈ (GeoEntity.street s).distances hN, m ≤ d) :
    ∃ marked, measureEntity hN (.street s) = some (.street ⟨marked, m⟩) ∧
      Marked hN m s.buildings marked := by
  have hdist : ∀ x ∈ s.buildings, x.houseNumber ≠ [] →
      m ≤ numberDistance hN x.houseNumber ∧ numberDistance hN x.houseNumber ≤ noImprovement :=
    fun x hx hnumber =>
      have hd := mem_distances_street.mpr ⟨x, hx, hnumber, rfl⟩
      ⟨hleast _ hd, hfits _ hd⟩
  obtain ⟨x, hx, hnumber, hxm⟩ := mem_distances_street.mp hm
  have hsome : (s.buildings.find? fun b => b.houseNumber ≠ [] ∧
      numberDistance hN b.houseNumber = m).isSome = true :=
    List.find?_isSome.mpr ⟨x, hx, decide_eq_true ⟨hnumber, hxm⟩⟩
  obtain ⟨b, hfind⟩ := Option.isSome_iff_exists.mp hsome
  obtain ⟨hb, pre, post, hsplit, hfirst⟩ := List.find?_eq_some_iff_append.mp hfind
  obtain ⟨hbnumber, hbm⟩ := of_decide_eq_true hb
  have hpre : ∀ x ∈ pre, x.houseNumber ≠ [] →
      m < numberDistance hN x.houseNumber ∧ numberDistance hN x.houseNumber ≤ noImprovement := by
    intro x hx hx'
    obtain ⟨hle, hmax⟩ := hdist x (hsplit ▸ List.mem_append_left _ hx) hx'
    have hne : numberDistance hN x.houseNumber ≠ m := by simpa [hx'] using hfirst x hx
    exact ⟨by omega, hmax⟩
  have hpost : ∀ x ∈ post, x.houseNumber ≠ [] → m ≤ numberDistance hN x.houseNumber :=
    fun x hx hx' => (hdist x
      (hsplit ▸ List.mem_append_right _ (List.mem_cons_of_mem _ hx)) hx').1
  have hnone : ∀ v, (none : Option Int) = some v → m < v :=
    fun v hv => absurd hv.symm (Option.some_ne_none v)
  have hmark := markBuildings_split hbnumber hbm
    (lt_of_markBuildings hnone fun x hx hx' => (hpre x hx hx').1) hpost
  have hplaces : (markBuildings hN none s.buildings).2.map GeoBuilding.place =
      s.buildings.map GeoBuilding.place := map_place_markBuildings none
  rw [hsplit, hmark, ← hsplit] at hplaces
  have hmle : m ≤ noImprovement := hxm ▸ (hdist x hx hnumber).2
  have hbdistance : (b.improve m).distance = m := rfl
  refine ⟨_, ?_, hplaces, fun y hy => ?_, fun hlt => ⟨b, hfind, ?_, fun y hy hym => ?_⟩,
    fun hedge y hy => ?_⟩
  · unfold measureEntity
    dsimp only
    rw [hsplit, hmark]
    rfl
  · rcases mark_cases hpre hy with rfl | h | h <;> omega
  · exact List.mem_append_right _ List.mem_cons_self
  · rcases mark_cases hpre hy with h | h | h
    · exact h
    · omega
    · omega
  · rcases mark_cases hpre hy with rfl | h | h <;> omega

theorem mayReturn_near {s : GeoStreetInterpolation} {number : Text} (h : m < noImprovement) :
    MayReturn hN m number (.street s) ↔
      (s.buildings.find? fun b => b.houseNumber ≠ [] ∧ numberDistance hN b.houseNumber = m).map
        GeoBuilding.houseNumber = some number :=
  iff_of_eq (if_pos h)

theorem mayReturn_edge {s : GeoStreetInterpolation} {number : Text} (h : m = noImprovement) :
    MayReturn hN m number (.street s) ↔ ∃ b ∈ s.buildings, b.houseNumber = number :=
  iff_of_eq (if_neg (Int.not_lt.mpr (Int.le_of_eq h.symm)))

namespace Marked

variable {s : GeoStreetInterpolation} {marked : List GeoBuilding} {number : Text}

/-- What is marked least may be given. -/
theorem mayReturn (hM : Marked hN m s.buildings marked) (hmle : m ≤ noImprovement)
    (hy : y ∈ marked) (hleast : ∀ z ∈ marked, y.distance ≤ z.distance) :
    y.distance = m ∧ MayReturn hN m y.houseNumber (.street s) := by
  rcases Int.lt_or_eq_of_le hmle with hlt | heq
  · obtain ⟨b, hfind, hmem, hsame⟩ := hM.near hlt
    have hym : y.distance = m := Int.le_antisymm (hleast _ hmem) (hM.le y hy)
    refine ⟨hym, (mayReturn_near hlt).mpr ?_⟩
    rw [hfind, hsame y hy hym]
    rfl
  · refine ⟨hM.edge heq y hy, ?_⟩
    have hplace := List.mem_map_of_mem (f := GeoBuilding.place) hy
    rw [hM.places] at hplace
    obtain ⟨x, hx, hxy⟩ := List.mem_map.mp hplace
    exact (mayReturn_edge heq).mpr ⟨x, hx, houseNumber_of_place hxy⟩

/-- What may be given is marked least. -/
theorem exists_least (hM : Marked hN m s.buildings marked) (hmle : m ≤ noImprovement)
    (h : MayReturn hN m number (.street s)) :
    ∃ y ∈ marked, (∀ z ∈ marked, y.distance ≤ z.distance) ∧ y.houseNumber = number := by
  rcases Int.lt_or_eq_of_le hmle with hlt | heq
  · obtain ⟨b, hfind, hmem, -⟩ := hM.near hlt
    rw [mayReturn_near hlt, hfind] at h
    exact ⟨b.improve m, hmem, fun z hz => hM.le z hz, Option.some.inj h⟩
  · obtain ⟨x, hx, rfl⟩ := (mayReturn_edge heq).mp h
    have hplace := List.mem_map_of_mem (f := GeoBuilding.place) hx
    rw [← hM.places] at hplace
    obtain ⟨y, hy, hyx⟩ := List.mem_map.mp hplace
    refine ⟨y, hy, fun z hz => ?_, houseNumber_of_place hyx⟩
    rw [hM.edge heq y hy, hM.edge heq z hz]

end Marked

end Marking

section Choice

variable {hN m : Int} {e e' : GeoEntity} {number : Text}

theorem buildingBefore_order (bs : List GeoBuilding) : StrictWeakOn buildingBefore bs :=
  StrictWeakOn.of_key GeoBuilding.distance bs

theorem entityBefore_order (es : List GeoEntity) : StrictWeakOn entityBefore es :=
  StrictWeakOn.of_key GeoEntity.distance es

theorem exists_least_distance (h : e.distances hN ≠ []) :
    ∃ m ∈ e.distances hN, ∀ d ∈ e.distances hN, m ≤ d := by
  cases hmin : (e.distances hN).min? with
  | none => exact absurd (List.min?_eq_none_iff.mp hmin) h
  | some m => exact ⟨m, List.min?_eq_some_iff.mp hmin⟩

theorem measureEntity_of_distances_nil (h : e.distances hN = []) : measureEntity hN e = none := by
  cases e with
  | street s =>
    have hfar : markBuildings hN none s.buildings = (none, s.buildings.map GeoBuilding.far) := by
      refine markBuildings_of_not_improves fun x hx himproves => ?_
      have hd : numberDistance hN x.houseNumber ∈ (GeoEntity.street s).distances hN :=
        mem_distances_street.mpr ⟨x, hx, himproves.1, rfl⟩
      rw [h] at hd
      exact absurd hd List.not_mem_nil
    unfold measureEntity
    dsimp only
    rw [hfar]
    rfl
  | building b => exact absurd h (List.cons_ne_nil _ _)
  | other d => rfl

theorem closestBuilding_building (T : StdSort buildingBefore) (number : Text) (d : Int)
    {ls rest : List LinePoint} {p : LinePoint} (h : ls = p :: rest) :
    closestBuilding T (.building ⟨number, ls, d⟩) =
      some ⟨single p.y, single p.x, number, d, false⟩ := by
  subst h
  rfl

/-- An entity with a distance goes into the results at its least one, and gives a
building at that distance. -/
theorem measureEntity_spec (hfits : ∀ d ∈ e.distances hN, d ≤ noImprovement)
    (hls : ∀ b, e = .building b → b.ls ≠ []) (hm : m ∈ e.distances hN)
    (hleast : ∀ d ∈ e.distances hN, m ≤ d) :
    ∃ e', measureEntity hN e = some e' ∧ e'.distance = m ∧
      (∀ T, ∃ b, closestBuilding T e' = some b ∧ b.distance = m ∧
        MayReturn hN m b.houseNumber e ∧ b.place ∈ e.places ∧
        (b.houseNumber ≠ [] → numberDistance hN b.houseNumber = m)) ∧
      ∀ number, MayReturn hN m number e →
        ∃ T b, closestBuilding T e' = some b ∧ b.houseNumber = number := by
  have hmle := hfits m hm
  cases e with
  | street s =>
    obtain ⟨marked, hmeasure, hM⟩ := measureEntity_street hfits hm hleast
    refine ⟨_, hmeasure, rfl, fun T => ?_, fun number hreturn => ?_⟩
    · obtain ⟨x, hx, -, -⟩ := mem_distances_street.mp hm
      have hne : marked ≠ [] := by
        rintro rfl
        have hplaces := hM.places.symm
        rw [List.map_nil, List.map_eq_nil_iff] at hplaces
        exact absurd (hplaces ▸ hx) List.not_mem_nil
      obtain ⟨b, rest, hsort⟩ := List.exists_cons_of_ne_nil
        (T.sort_ne_nil (buildingBefore_order marked) hne)
      obtain ⟨hb, hbleast⟩ := T.not_lt_of_sort_eq (buildingBefore_order marked) hsort
      obtain ⟨hbm, hreturn⟩ := hM.mayReturn hmle hb fun z hz =>
        Int.not_lt.mp (of_decide_eq_false (hbleast z hz))
      have hplace := List.mem_map_of_mem (f := GeoBuilding.place) hb
      rw [hM.places] at hplace
      refine ⟨b, congrArg List.head? hsort, hbm, hreturn, hplace, fun hnumber => ?_⟩
      rcases Int.lt_or_eq_of_le hmle with hlt | heq
      · obtain ⟨c, hfind, -, hsame⟩ := hM.near hlt
        have hc := List.find?_some hfind
        rw [hsame b hb hbm]
        exact (of_decide_eq_true hc).2
      · obtain ⟨y, hy, hyb⟩ := List.mem_map.mp hplace
        have hyd : numberDistance hN y.houseNumber ∈ (GeoEntity.street s).distances hN :=
          mem_distances_street.mpr ⟨y, hy, houseNumber_of_place hyb ▸ hnumber, rfl⟩
        rw [← houseNumber_of_place hyb]
        exact Int.le_antisymm (heq ▸ hfits _ hyd) (hleast _ hyd)
    · obtain ⟨y, hy, hyleast, hynumber⟩ := hM.exists_least hmle hreturn
      have hfirst : ∀ z ∈ marked, buildingBefore z y = false :=
        fun z hz => decide_eq_false (Int.not_lt.mpr (hyleast z hz))
      refine ⟨(StdSort.insertion buildingBefore).choosing marked y hy hfirst, y, ?_, hynumber⟩
      exact congrArg List.head? (StdSort.choosing_sort _ hy hfirst)
  | building b =>
    obtain rfl := List.mem_singleton.mp hm
    obtain ⟨p, rest, hpoints⟩ := List.exists_cons_of_ne_nil (hls b rfl)
    have hclosest (T : StdSort buildingBefore) := closestBuilding_building T b.house_number
      (numberDistance hN b.house_number) hpoints
    refine ⟨_, rfl, rfl, fun T => ⟨_, hclosest T, rfl, rfl, ?_, fun _ => rfl⟩,
      fun number hreturn => ⟨StdSort.insertion buildingBefore, _, hclosest _, hreturn⟩⟩
    refine List.mem_map.mpr ⟨p, ?_, rfl⟩
    rw [hpoints]
    exact List.mem_singleton.mpr rfl
  | other d => exact absurd hm List.not_mem_nil

variable {geomInfos : List GeoEntity} {usable : Text → Bool}

/-- A usable number is taken into account. -/
theorem distance_mem_of_place {p : Place} (hp : p ∈ e.places) (hnumber : p.number ≠ []) :
    numberDistance hN p.number ∈ e.distances hN := by
  cases e with
  | street s =>
    obtain ⟨b, hb, rfl⟩ := List.mem_map.mp hp
    exact mem_distances_street.mpr ⟨b, hb, hnumber, rfl⟩
  | building b =>
    obtain ⟨x, -, rfl⟩ := List.mem_map.mp hp
    exact List.mem_singleton.mpr rfl
  | other d => exact absurd hp List.not_mem_nil

theorem numberDistance_nonneg (number : Text) : 0 ≤ numberDistance hN number :=
  Int.natCast_nonneg _

theorem distances_nonneg : ∀ d ∈ e.distances hN, 0 ≤ d := by
  intro d hd
  cases e with
  | street s =>
    obtain ⟨b, -, -, rfl⟩ := mem_distances_street.mp hd
    exact numberDistance_nonneg _
  | building b => exact List.mem_singleton.mp hd ▸ numberDistance_nonneg _
  | other d => exact absurd hd List.not_mem_nil

/-- Of the results the closest may come first. -/
theorem exists_sort_of_mayWin (hfits : ∀ e ∈ geomInfos, ∀ d ∈ e.distances hN, d ≤ noImprovement)
    (hls : ∀ b, .building b ∈ geomInfos → b.ls ≠ []) (hwin : MayWin hN geomInfos e m)
    (he' : measureEntity hN e = some e') (hm : e'.distance = m) :
    ∃ (S : StdSort entityBefore) (rest : List GeoEntity),
      S.sort (geomInfos.filterMap (measureEntity hN)) = e' :: rest := by
  have hmem : e' ∈ geomInfos.filterMap (measureEntity hN) :=
    List.mem_filterMap.mpr ⟨e, hwin.1, he'⟩
  have hfirst : ∀ x ∈ geomInfos.filterMap (measureEntity hN), entityBefore x e' = false := by
    intro x hx
    obtain ⟨c, hc, hcx⟩ := List.mem_filterMap.mp hx
    have hne : c.distances hN ≠ [] := by
      intro hnil
      rw [measureEntity_of_distances_nil hnil] at hcx
      cases hcx
    obtain ⟨d, hd, hdleast⟩ := exists_least_distance hne
    obtain ⟨x', hx', hdist, -, -⟩ := measureEntity_spec (hfits c hc)
      (fun b hb => hls b (hb ▸ hc)) hd hdleast
    obtain rfl := Option.some.inj (hx'.symm.trans hcx)
    refine decide_eq_false (Int.not_lt.mpr ?_)
    rw [hm, hdist]
    exact hwin.2.2 c hc d hd
  exact ⟨(StdSort.insertion entityBefore).choosing _ e' hmem hfirst, _,
    StdSort.choosing_sort _ hmem hfirst⟩

/-- Whatever the sorts: no result, or the closest entity. -/
theorem sort_results (S : StdSort entityBefore)
    (hfits : ∀ e ∈ geomInfos, ∀ d ∈ e.distances hN, d ≤ noImprovement)
    (hls : ∀ b, .building b ∈ geomInfos → b.ls ≠ []) :
    (S.sort (geomInfos.filterMap (measureEntity hN)) = [] ∧
        ∀ e ∈ geomInfos, e.distances hN = []) ∨
      ∃ e e' m rest, S.sort (geomInfos.filterMap (measureEntity hN)) = e' :: rest ∧
        MayWin hN geomInfos e m ∧ measureEntity hN e = some e' := by
  cases hsort : S.sort (geomInfos.filterMap (measureEntity hN)) with
  | nil =>
    refine .inl ⟨rfl, fun e he => ?_⟩
    by_contra hne
    obtain ⟨m, hm, hleast⟩ := exists_least_distance hne
    obtain ⟨e', he', -⟩ := measureEntity_spec (hfits e he) (fun b hb => hls b (hb ▸ he)) hm hleast
    exact S.sort_ne_nil (entityBefore_order _)
      (List.ne_nil_of_mem (List.mem_filterMap.mpr ⟨e, he, he'⟩)) hsort
  | cons e' rest =>
    obtain ⟨hmem, hfirst⟩ := S.not_lt_of_sort_eq (entityBefore_order _) hsort
    obtain ⟨e, he, he'⟩ := List.mem_filterMap.mp hmem
    have hne : e.distances hN ≠ [] := by
      intro hnil
      rw [measureEntity_of_distances_nil hnil] at he'
      cases he'
    obtain ⟨m, hm, hleast⟩ := exists_least_distance hne
    obtain ⟨x, hx, hxm, -⟩ := measureEntity_spec (hfits e he) (fun b hb => hls b (hb ▸ he)) hm
      hleast
    obtain rfl := Option.some.inj (hx.symm.trans he')
    refine .inr ⟨e, x, m, rest, rfl, ⟨he, hm, fun c hc d hd => ?_⟩, he'⟩
    obtain ⟨k, hk, hkleast⟩ := exists_least_distance (List.ne_nil_of_mem hd)
    obtain ⟨y, hy, hyk, -⟩ := measureEntity_spec (hfits c hc) (fun b hb => hls b (hb ▸ hc)) hk
      hkleast
    have hnot := of_decide_eq_false (hfirst y (List.mem_filterMap.mpr ⟨c, hc, hy⟩))
    rw [hxm, hyk] at hnot
    exact Int.le_trans (Int.not_lt.mp hnot) (hkleast d hd)

theorem findClosestMatch_of_sort {S : StdSort entityBefore} {houseN : Text}
    {rest : List GeoEntity} (T : StdSort buildingBefore)
    (hsort : S.sort (geomInfos.filterMap (measureEntity (convertStr2Int houseN))) = e' :: rest)
    (hnonneg : 0 ≤ e'.distance) :
    findClosestMatch S T geomInfos houseN = closestBuilding T e' := by
  unfold findClosestMatch
  rw [hsort]
  exact if_pos hnonneg

/-- Whatever counts as a usable number, the empty one apart: with every sort the
result is a closest building with a usable number exactly when all buildings that
can come out first have one. -/
theorem findClosestMatch_closest_iff (usable : Text → Bool) (hempty : usable [] = false)
    (geomInfos : List GeoEntity) (houseN : Text)
    (hfits : ∀ e ∈ geomInfos, ∀ d ∈ e.distances (convertStr2Int houseN), d ≤ 0x7fffffff)
    (hls : ∀ b, .building b ∈ geomInfos → b.ls ≠ []) :
    (∀ S T, Closest usable geomInfos (convertStr2Int houseN)
        (findClosestMatch S T geomInfos houseN)) ↔
      ∀ e m number, MayWin (convertStr2Int houseN) geomInfos e m →
        MayReturn (convertStr2Int houseN) m number e → usable number = true := by
  have hnumbered : ∀ number, usable number = true → number ≠ [] := by
    rintro number husable rfl
    rw [hempty] at husable
    cases husable
  constructor
  · intro h e m number hwin hreturn
    obtain ⟨e', he', hdist, hgive, hchoose⟩ := measureEntity_spec (hfits e hwin.1)
      (fun b hb => hls b (hb ▸ hwin.1)) hwin.2.1 (hwin.2.2 e hwin.1)
    obtain ⟨S, rest, hsort⟩ := exists_sort_of_mayWin hfits hls hwin he' hdist
    obtain ⟨T, b, hb, rfl⟩ := hchoose number hreturn
    have hnonneg : 0 ≤ e'.distance := hdist ▸ distances_nonneg m hwin.2.1
    have hresult := (findClosestMatch_of_sort T hsort hnonneg).trans hb
    have hclosest := h S T
    rw [hresult] at hclosest
    by_cases hsome : ∃ p ∈ geomInfos.flatMap GeoEntity.places, usable p.number = true
    · obtain ⟨c, hc, -, husable, -⟩ := hclosest.found hsome
      exact Option.some.inj hc ▸ husable
    · -- the empty building has no distance
      have hnone : ∀ p ∈ geomInfos.flatMap GeoEntity.places, usable p.number = false :=
        fun p hp => Bool.eq_false_iff.mpr fun husable => hsome ⟨p, hp, husable⟩
      obtain ⟨c, hc, hcm, -⟩ := hgive T
      obtain rfl := Option.some.inj (hc.symm.trans hb)
      have hlost : c.distance = -1 :=
        congrArg GeoBuilding.distance (Option.some.inj (hclosest.absent hnone))
      have hpos := distances_nonneg m hwin.2.1
      omega
  · intro h S T
    rcases sort_results S hfits hls with ⟨hnil, hnone⟩ | ⟨e, e', m, rest, hsort, hwin, he'⟩
    · have hresult : findClosestMatch S T geomInfos houseN = some emptyBuilding := by
        unfold findClosestMatch
        rw [hnil]
      refine ⟨fun ⟨p, hp, husable⟩ => ?_, fun _ => hresult⟩
      obtain ⟨e, he, hpe⟩ := List.mem_flatMap.mp hp
      have hd : numberDistance (convertStr2Int houseN) p.number ∈
          e.distances (convertStr2Int houseN) := distance_mem_of_place hpe (hnumbered _ husable)
      rw [hnone e he] at hd
      exact absurd hd List.not_mem_nil
    · obtain ⟨x, hx, hdist, hgive, -⟩ := measureEntity_spec (hfits e hwin.1)
        (fun b hb => hls b (hb ▸ hwin.1)) hwin.2.1 (hwin.2.2 e hwin.1)
      obtain rfl := Option.some.inj (hx.symm.trans he')
      obtain ⟨b, hb, hbm, hreturn, hplace, hnumber⟩ := hgive T
      have husable := h e m b.houseNumber hwin hreturn
      have hnonneg : 0 ≤ x.distance := hdist ▸ distances_nonneg m hwin.2.1
      have hmem : b.place ∈ geomInfos.flatMap GeoEntity.places :=
        List.mem_flatMap.mpr ⟨e, hwin.1, hplace⟩
      have hresult := (findClosestMatch_of_sort T hsort hnonneg).trans hb
      refine ⟨fun _ => ⟨b, hresult, hmem, husable, ?_, fun p hp hp' => ?_⟩, fun hnone => ?_⟩
      · rw [hbm, hnumber (hnumbered _ husable)]
      · obtain ⟨c, hc, hpc⟩ := List.mem_flatMap.mp hp
        rw [hbm]
        exact hwin.2.2 c hc _ (distance_mem_of_place hpc (hnumbered _ hp'))
      · have hnot : usable b.houseNumber = false := hnone b.place hmem
        rw [husable] at hnot
        cases hnot

/-- Two outlines, of which only one has a number. -/
def unnumberedOutline : List GeoEntity :=
  [.building ⟨[], [⟨1, 2⟩], 0⟩, .building ⟨"10", [⟨1, 1⟩], 0⟩]

def hasNumber (number : Text) : Bool := number ≠ []

theorem unnumberedOutline_fits : ∀ e ∈ unnumberedOutline,
    ∀ d ∈ e.distances (convertStr2Int "3"), d ≤ 0x7fffffff := by
  decide +kernel

theorem unnumberedOutline_points : ∀ b, .building b ∈ unnumberedOutline → b.ls ≠ [] := by
  simp [unnumberedOutline]

theorem findClosestMatch_closest_outline :
    (∀ S T, Closest hasNumber unnumberedOutline (convertStr2Int "3")
        (findClosestMatch S T unnumberedOutline "3")) ↔
      ∀ e m number, MayWin (convertStr2Int "3") unnumberedOutline e m →
        MayReturn (convertStr2Int "3") m number e → hasNumber number = true :=
  findClosestMatch_closest_iff hasNumber rfl unnumberedOutline "3" unnumberedOutline_fits
    unnumberedOutline_points

/-- The outline is found as the building closest to number 3. -/
theorem findClosestMatch_unnumbered :
    ¬∀ (geomInfos : List GeoEntity) (houseN : Text),
      (∀ e ∈ geomInfos, ∀ d ∈ e.distances (convertStr2Int houseN), d ≤ 0x7fffffff) →
      (∀ b, .building b ∈ geomInfos → b.ls ≠ []) →
      ∀ S T, Closest hasNumber geomInfos (convertStr2Int houseN)
        (findClosestMatch S T geomInfos houseN) := by
  intro h
  have hclosest := h unnumberedOutline "3" unnumberedOutline_fits unnumberedOutline_points
    (.insertion _) (.insertion _)
  have hresult : findClosestMatch (.insertion _) (.insertion _) unnumberedOutline "3" =
      some ⟨2, 1, [], 4, false⟩ := by
    decide +kernel
  rw [hresult] at hclosest
  obtain ⟨b, hb, -, husable, -⟩ := hclosest.found ⟨⟨1, 1, "10"⟩, by decide +kernel, rfl⟩
  obtain rfl := Option.some.inj hb
  cases husable

end Choice

end UCLinux.Geocoder
