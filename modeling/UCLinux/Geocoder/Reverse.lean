import UCLinux.Geocoder.Search
import UCLinux.Geocoder.StreetAddress

/-!
The address of a point. What lies around it is collected from the tiles of all levels and
sorted by its distance; the first street or building composes the address. A place around
the point gives the second line, and without an address the only one; administrative
boundaries stand in where nothing else is found. The name of the city is kept from one
entity to the next.
-/

namespace UCLinux.Geocoder

open Geocoding (processStreetInterpolation processBuilding_Street_Admin_Boundaries
  processPlace_Boundaries)
open Machine Ocpp Sql

section Program

/-- The point and what is measured from it: coordinates in whole metres, whether an outline
goes around it, and the distance of a line. -/
structure Surroundings where
  lng : Rat
  lat : Rat
  radius : Rat
  measure : Rat → Rat → Nat
  isWithinPoly : List LinePoint → Bool
  getClosestPoint : List LinePoint → Rat
  lat2latp : Rat → Rat
  cosLat : Rat

/-- An entity around the point, by its type. -/
inductive RevKind where
  | street (buildings : List GeoBuilding)
  | building (house_number : Text) (bnameid : Int)
  | road (house_number : Text)
  | geoPlace
  | admin
  deriving DecidableEq, Repr

structure RevEntity where
  kind : RevKind
  nameid : Int
  cityid : Int
  distance : Int
  deriving DecidableEq, Repr

/-- A fraction as an `int`. -/
def truncate (x : Rat) : Int := if 0 ≤ x then ⌊x⌋ else ⌈x⌉

/-- `round`, half away from zero. -/
def roundAway (x : Rat) : Int := if 0 ≤ x then ⌊x + 1 / 2⌋ else ⌈x - 1 / 2⌉

/-- A distance that is kept if it is less. -/
def leastDistance (dists : List Nat) : Int :=
  dists.foldl (fun d dist => if (dist : Int) < d then dist else d) 0x7fffffff

/-- The entity in a row; other types are places. -/
def GeoDbCls.readEntity (P : Platform) (r : Row Entity) : Option GeometryInfo :=
  let nameid := BitVec.ofInt 64 (wrap32 r.cols.nameid)
  let cityid := BitVec.ofInt 64 (wrap32 r.cols.isinid)
  let entid := BitVec.ofInt 64 r.rowid
  let type := wrap32 r.cols.type
  if type = EntityType.streetInterpolationType.code then
    (decode P (processStreetInterpolation nameid cityid entid) r).map .street
  else if type = EntityType.adminBoundaries.code ∨ type = EntityType.streetBoundaries.code ∨
      type = EntityType.buildingBoundaries.code ∨ type = EntityType.geoPlaceBoundaries.code then
    (decode P (processBuilding_Street_Admin_Boundaries P.keep nameid cityid entid type) r).map
      .boundary
  else (decode P (processPlace_Boundaries nameid cityid entid type) r).map .place

section Around

variable (Q : Surroundings) (nameid cityid : Int)

def streetAround (s : Geocoding.GeoStreetInterpolation) : Option RevEntity :=
  let buildings := s.buildings.map fun b => radiusTest Q.measure Q.radius (buildingOf b)
  if buildings.any GeoBuilding.isInsideTheRadius then
    some ⟨.street buildings, nameid, cityid,
      leastDistance (buildings.map fun b => Q.measure b.lat b.lon)⟩
  else none

def boundaryAround (b : Geocoding.GeoBoundary) : Option RevEntity :=
  let ent := boundaryOf b
  let type := b.type
  if type = EntityType.adminBoundaries.code ∨ type = EntityType.geoPlaceBoundaries.code then
    if Q.isWithinPoly ent.ls then
      some (if type = EntityType.geoPlaceBoundaries.code then ⟨.geoPlace, nameid, cityid, 0⟩
        else ⟨.admin, nameid, cityid, truncate (Q.radius * 2)⟩)
    else none
  else if type = EntityType.buildingBoundaries.code then
    let dists := ent.ls.map fun point => Q.measure point.y point.x
    if dists.any fun dist => (dist : Rat) < Q.radius then
      some ⟨.building ent.house_number (b.bnameid.toInt), nameid, cityid, leastDistance dists⟩
    else none
  else
    let dist := Q.getClosestPoint ent.ls
    if dist < Q.radius * (1 / 2) then
      some ⟨.road ent.house_number, nameid, cityid, roundAway dist⟩
    else none

/-- Places are not looked at. -/
def entityAround : GeometryInfo → Option RevEntity
  | .street s => streetAround Q nameid cityid s
  | .boundary b => boundaryAround Q nameid cityid b
  | .place _ => none

end Around

def revBefore (first second : RevEntity) : Bool := first.distance < second.distance

section Composing

variable (T : StdSort numberedBefore) (db : NamesTable)

/-- The address with the number of a house, if there is one. -/
def composed (hNumber name city : Text) : Text :=
  if hNumber ≠ [] then hNumber ++ " ".toList ++ name ++ ", ".toList ++ city
  else name ++ ", ".toList ++ city

/-- The name of the entity, and what `city` holds then. -/
def getNameAndIsInStr (xx : RevEntity) (city : Text) : Option (Text × Text) :=
  db.nameAndIsIn xx.nameid xx.cityid city

def processRevGeoBoundary (xx : RevEntity) (city : Text) : Option (Text × Text) :=
  (getNameAndIsInStr db xx city).map fun (name, city) => (name ++ ", ".toList ++ city, city)

def buildingName (bnameid : Int) : Option Text :=
  if bnameid ≠ 0 then (db.nameAndIsIn bnameid 0 []).map Prod.fst else some []

/-- The address, which holds a comma, and the name of the building. -/
def processRevGeoBuildingBoundary (xx : RevEntity) (house_number : Text) (bnameid : Int)
    (city : Text) : Option (List Text) :=
  (getNameAndIsInStr db xx city).bind fun (name, city) =>
    (buildingName db bnameid).map fun buildingName =>
      composed house_number name city :: if buildingName ≠ [] then [buildingName] else []

/-- What the loop over the entities ends with. -/
inductive RevEnd where
  | building (addresses : List Text)
  | address (address_name : Text) (geo_b_name : Option Text)
  | done (city : Text) (geo_b_name : Option Text)
  deriving DecidableEq, Repr

def composeLoop (city : Text) (geo_b_name : Option Text) : List RevEntity → Option RevEnd
  | [] => some (.done city geo_b_name)
  | xx :: results =>
    if xx.distance < 0 then composeLoop city geo_b_name results
    else match xx.kind with
      | .street buildings =>
        (getNameAndIsInStr db xx city).bind fun (name, city) =>
          (UCLinux.Geocoder.processRevGeoStreetInterpolation T name city buildings).map fun a =>
            .address a geo_b_name
      | .building house_number bnameid =>
        (processRevGeoBuildingBoundary db xx house_number bnameid city).map .building
      | .road house_number =>
        (getNameAndIsInStr db xx city).map fun (name, city) =>
          .address (composed house_number name city) geo_b_name
      | .geoPlace =>
        if geo_b_name = none then
          (processRevGeoBoundary db xx city).bind fun (name, city) =>
            composeLoop city (some name) results
        else composeLoop city geo_b_name results
      | .admin => composeLoop city geo_b_name results

/-- The lines of the address, of the entities in their order. -/
def compose (results : List RevEntity) : Option (List Text) := do
  match ← composeLoop T db [] none results with
  | .building addresses => pure addresses
  | .address address_name geo_b_name => pure (address_name :: geo_b_name.toList)
  | .done _ (some geo_b_name) => pure ["*".toList, geo_b_name]
  | .done city none =>
    match results.find? fun xx => 0 ≤ xx.distance ∧ xx.kind = .admin with
    | none => pure []
    | some xx => (processRevGeoBoundary db xx city).map fun (name, _) => ["*".toList, name]

end Composing

section Lookup

variable (P : Platform) (Q : Surroundings) (S : StdSort revBefore) (T : StdSort numberedBefore)
  (db : GeoDbCls)

/-- What the tiles of one level hold around the point. -/
def levelResults (level : Nat) : Option (List RevEntity) :=
  ((db.entities.readGeometryInfo
    (quadIndices Q.lat2latp Q.cosLat Q.lng Q.lat Q.radius level)).mapM fun r =>
      (GeoDbCls.readEntity P r).map
        (entityAround Q (wrap32 r.cols.nameid) (wrap32 r.cols.isinid))).map List.reduceOption

/-- From the finest level to the coarsest. -/
def lookAround : Option (List RevEntity) :=
  ((List.range 15).reverse.mapM (levelResults P Q db)).map List.flatten

def rev_geo_address_look_up : Option (List Text) := do
  let results ← lookAround P Q db
  compose T db.names (S.sort results)

/-- With the database open; `Q.radius` is 1000. -/
def getRevGeoAddressOffline (resultStr : Text) : Option (Bool × Text) :=
  (rev_geo_address_look_up P Q S T db).map fun
    | [] => (false, resultStr)
    | [address] => (true, address)
    | address :: second :: _ => (true, address ++ "|".toList ++ second)

end Lookup

end Program

section Purpose

namespace RevEntity

/-- An entity that composes the address. -/
def Bears (e : RevEntity) : Prop := 0 ≤ e.distance ∧ e.kind ≠ .geoPlace ∧ e.kind ≠ .admin

def IsPlace (e : RevEntity) : Prop := 0 ≤ e.distance ∧ e.kind = .geoPlace

def IsAdmin (e : RevEntity) : Prop := 0 ≤ e.distance ∧ e.kind = .admin

instance (e : RevEntity) : Decidable e.IsAdmin := inferInstanceAs (Decidable (_ ∧ _))

end RevEntity

variable (T : StdSort numberedBefore) (db : NamesTable) (near : List RevEntity)

/-- No entity that composes the address is closer. -/
structure Nearest (e : RevEntity) : Prop where
  mem : e ∈ near
  bears : e.Bears
  least : ∀ e' ∈ near, e'.Bears → e.distance ≤ e'.distance

/-- The first line for the entity, where `city` holds what it does. -/
inductive FirstLine (e : RevEntity) (city : Text) : Text → Prop where
  | street {buildings name city' address} (hkind : e.kind = .street buildings)
      (hnames : getNameAndIsInStr db e city = some (name, city'))
      (haddress : UCLinux.Geocoder.processRevGeoStreetInterpolation T name city' buildings =
        some address) : FirstLine e city address
  | building {house_number bnameid name city'} (hkind : e.kind = .building house_number bnameid)
      (hnames : getNameAndIsInStr db e city = some (name, city')) :
      FirstLine e city (composed house_number name city')
  | road {house_number name city'} (hkind : e.kind = .road house_number)
      (hnames : getNameAndIsInStr db e city = some (name, city')) :
      FirstLine e city (composed house_number name city')

/-- The city and the line of the place that was found first, if one was. -/
inductive PlaceFound : Text → Option Text → Prop where
  | none : PlaceFound [] none
  | place {p line city} (hp : p ∈ near) (hplace : p.IsPlace)
      (hline : processRevGeoBoundary db p [] = some (line, city)) : PlaceFound city (some line)

/-- The second line: of the place, or the name of the building. -/
inductive SecondLine (e : RevEntity) (place : Option Text) : List Text → Prop where
  | place (hkind : ∀ house_number bnameid, e.kind ≠ .building house_number bnameid) :
      SecondLine e place place.toList
  | unnamed {house_number bnameid} (hkind : e.kind = .building house_number bnameid) :
      SecondLine e place []
  | named {house_number bnameid name} (hkind : e.kind = .building house_number bnameid)
      (hname : buildingName db bnameid = some name) : SecondLine e place [name]

/-- The lines of an address, for what lies around the point. -/
inductive Describes : List Text → Prop where
  | address {e city place first second} (he : Nearest near e) (hplace : PlaceFound db near city place)
      (hfirst : FirstLine T db e city first) (hsecond : SecondLine db e place second) :
      Describes (first :: second)
  | place {city line} (hnone : ∀ e ∈ near, ¬e.Bears) (hplace : PlaceFound db near city (some line)) :
      Describes ["*".toList, line]
  | admin {e line city} (hnone : ∀ e ∈ near, ¬e.Bears) (hplace : ∀ e ∈ near, ¬e.IsPlace)
      (he : e ∈ near) (hadmin : e.IsAdmin) (hline : processRevGeoBoundary db e [] = some (line, city)) :
      Describes ["*".toList, line]
  | nothing (hnone : ∀ e ∈ near, ¬e.Bears) (hplace : ∀ e ∈ near, ¬e.IsPlace)
      (hadmin : ∀ e ∈ near, ¬e.IsAdmin) : Describes []

end Purpose

section Composition

variable {T : StdSort numberedBefore} {db : NamesTable} {near results : List RevEntity}

/-- What the loop ends with says which entity it met first. -/
def Ended (T : StdSort numberedBefore) (db : NamesTable) (near results : List RevEntity)
    (geo_b_name : Option Text) : RevEnd → Prop
  | .done city place => PlaceFound db near city place ∧ (∀ e ∈ results, ¬e.Bears) ∧
      (place = none → geo_b_name = none ∧ ∀ e ∈ results, ¬e.IsPlace)
  | .address first place => ∃ city before e after, results = before ++ e :: after ∧
      (∀ e' ∈ before, ¬e'.Bears) ∧ e.Bears ∧ PlaceFound db near city place ∧
      FirstLine T db e city first ∧ SecondLine db e place place.toList
  | .building lines => ∃ city place first second before e after,
      results = before ++ e :: after ∧ (∀ e' ∈ before, ¬e'.Bears) ∧ e.Bears ∧
      lines = first :: second ∧ PlaceFound db near city place ∧ FirstLine T db e city first ∧
      SecondLine db e place second

/-- An entity in front that does not compose the address. -/
theorem Ended.cons {e : RevEntity} {geo place : Option Text} {r : RevEnd} (he : ¬e.Bears)
    (hplace : place = none → geo = none ∧ ¬e.IsPlace)
    (h : Ended T db near results place r) : Ended T db near (e :: results) geo r := by
  have hbefore {before : List RevEntity} (hnot : ∀ e' ∈ before, ¬e'.Bears) :
      ∀ e' ∈ e :: before, ¬e'.Bears := List.forall_mem_cons.mpr ⟨he, hnot⟩
  cases r with
  | building lines =>
    obtain ⟨city, p, first, second, before, e', after, rfl, hnot, hrest⟩ := h
    exact ⟨city, p, first, second, e :: before, e', after, rfl, hbefore hnot, hrest⟩
  | address first p =>
    obtain ⟨city, before, e', after, rfl, hnot, hrest⟩ := h
    exact ⟨city, e :: before, e', after, rfl, hbefore hnot, hrest⟩
  | done city p =>
    obtain ⟨hfound, hnot, hnone⟩ := h
    refine ⟨hfound, hbefore hnot, fun hp => ?_⟩
    obtain ⟨hplacenone, hplaces⟩ := hnone hp
    obtain ⟨hgeo, hnotplace⟩ := hplace hplacenone
    exact ⟨hgeo, List.forall_mem_cons.mpr ⟨hnotplace, hplaces⟩⟩

/-- The loop, from what it has found so far. -/
theorem composeLoop_ended {city : Text} {geo : Option Text} {r : RevEnd}
    (hsub : ∀ e ∈ results, e ∈ near) (hfound : PlaceFound db near city geo)
    (h : composeLoop T db city geo results = some r) : Ended T db near results geo r := by
  induction results generalizing city geo with
  | nil =>
    cases h
    exact ⟨hfound, fun _ he => absurd he List.not_mem_nil,
      fun hgeo => ⟨hgeo, fun _ he => absurd he List.not_mem_nil⟩⟩
  | cons e results ih =>
    obtain ⟨hmem, hrest⟩ := List.forall_mem_cons.mp hsub
    unfold composeLoop at h
    by_cases hneg : e.distance < 0
    · rw [if_pos hneg] at h
      have hnot : ¬0 ≤ e.distance := Int.not_le.mpr hneg
      exact (ih hrest hfound h).cons (fun hbears => hnot hbears.1)
        fun hgeo => ⟨hgeo, fun hplace => hnot hplace.1⟩
    · rw [if_neg hneg] at h
      have hnonneg : 0 ≤ e.distance := Int.not_lt.mp hneg
      have hfirst : ∀ e' ∈ ([] : List RevEntity), ¬e'.Bears := fun _ he =>
        absurd he List.not_mem_nil
      split at h
      · rename_i buildings hkind
        obtain ⟨⟨name, city'⟩, hnames, h⟩ := Option.bind_eq_some_iff.mp h
        obtain ⟨address, haddress, rfl⟩ := Option.map_eq_some_iff.mp h
        have hbears : e.Bears := ⟨hnonneg, by rw [hkind]; nofun, by rw [hkind]; nofun⟩
        exact ⟨city, [], e, results, rfl, hfirst, hbears, hfound, .street hkind hnames haddress,
          .place (by rw [hkind]; nofun)⟩
      · rename_i house_number bnameid hkind
        obtain ⟨lines, hlines, rfl⟩ := Option.map_eq_some_iff.mp h
        obtain ⟨⟨name, city'⟩, hnames, hlines⟩ := Option.bind_eq_some_iff.mp hlines
        obtain ⟨name', hname, rfl⟩ := Option.map_eq_some_iff.mp hlines
        have hbears : e.Bears := ⟨hnonneg, by rw [hkind]; nofun, by rw [hkind]; nofun⟩
        refine ⟨city, geo, _, _, [], e, results, rfl, hfirst, hbears, rfl, hfound,
          .building hkind hnames, ?_⟩
        split
        · exact .named hkind hname
        · exact .unnamed hkind
      · rename_i house_number hkind
        obtain ⟨⟨name, city'⟩, hnames, rfl⟩ := Option.map_eq_some_iff.mp h
        have hbears : e.Bears := ⟨hnonneg, by rw [hkind]; nofun, by rw [hkind]; nofun⟩
        exact ⟨city, [], e, results, rfl, hfirst, hbears, hfound, .road hkind hnames,
          .place (by rw [hkind]; nofun)⟩
      · rename_i hkind
        have hnot : ¬e.Bears := fun hbears => hbears.2.1 hkind
        split at h
        · rename_i hgeo
          subst hgeo
          obtain rfl : city = [] := by
            cases hfound
            rfl
          obtain ⟨⟨line, city'⟩, hline, h⟩ := Option.bind_eq_some_iff.mp h
          have hplace : PlaceFound db near city' (some line) :=
            .place hmem ⟨hnonneg, hkind⟩ hline
          exact (ih hrest hplace h).cons hnot fun hsome => absurd hsome (Option.some_ne_none _)
        · rename_i hgeo
          exact (ih hrest hfound h).cons hnot fun hnone => absurd hnone hgeo
      · rename_i hkind
        have hadmin : ¬e.IsPlace := fun hplace => by
          have heq := hkind.symm.trans hplace.2
          cases heq
        exact (ih hrest hfound h).cons (fun hbears => hbears.2.2 hkind) fun hgeo => ⟨hgeo, hadmin⟩

/-- In front of the first one none composes the address, and behind it none is closer. -/
theorem nearest_of_split {before after : List RevEntity} {e : RevEntity}
    (hsorted : results.Pairwise fun a b => a.distance ≤ b.distance)
    (hmem : ∀ e, e ∈ results ↔ e ∈ near) (hsplit : results = before ++ e :: after)
    (hbefore : ∀ e' ∈ before, ¬e'.Bears) (hbears : e.Bears) : Nearest near e := by
  subst hsplit
  refine ⟨(hmem e).mp (by simp), hbears, fun e' he' hbears' => ?_⟩
  rcases List.mem_append.mp ((hmem e').mpr he') with hfront | hbehind
  · exact absurd hbears' (hbefore e' hfront)
  · rcases List.mem_cons.mp hbehind with rfl | hafter
    · exact Int.le_refl _
    · exact (List.pairwise_cons.mp (List.pairwise_append.mp hsorted).2.1).1 e' hafter

/-- The lines that are composed of sorted entities. -/
theorem compose_describes {lines : List Text}
    (hsorted : results.Pairwise fun a b => a.distance ≤ b.distance)
    (hmem : ∀ e, e ∈ results ↔ e ∈ near) (h : compose T db results = some lines) :
    Describes T db near lines := by
  obtain ⟨r, hloop, h⟩ := Option.bind_eq_some_iff.mp h
  have hended := composeLoop_ended (fun e he => (hmem e).mp he) .none hloop
  cases r with
  | building addresses =>
    cases h
    obtain ⟨city, place, first, second, before, e, after, hsplit, hbefore, hbears, rfl, hplace,
      hfirst, hsecond⟩ := hended
    exact .address (nearest_of_split hsorted hmem hsplit hbefore hbears) hplace hfirst hsecond
  | address first place =>
    cases h
    obtain ⟨city, before, e, after, hsplit, hbefore, hbears, hplace, hfirst, hsecond⟩ := hended
    exact .address (nearest_of_split hsorted hmem hsplit hbefore hbears) hplace hfirst hsecond
  | done city place =>
    obtain ⟨hfound, hbears, hnone⟩ := hended
    have hbears' : ∀ e ∈ near, ¬e.Bears := fun e he => hbears e ((hmem e).mpr he)
    cases place with
    | some line =>
      cases h
      exact .place hbears' hfound
    | none =>
      have hplaces : ∀ e ∈ near, ¬e.IsPlace := fun e he => (hnone rfl).2 e ((hmem e).mpr he)
      have hcity : city = [] := by
        cases hfound
        rfl
      subst hcity
      dsimp only at h
      cases hfind : results.find? fun xx => 0 ≤ xx.distance ∧ xx.kind = .admin with
      | none =>
        rw [hfind] at h
        cases h
        refine .nothing hbears' hplaces fun e he hadmin => ?_
        exact List.find?_eq_none.mp hfind e ((hmem e).mpr he) (decide_eq_true hadmin)
      | some e =>
        rw [hfind] at h
        obtain ⟨⟨line, city⟩, hline, rfl⟩ := Option.map_eq_some_iff.mp h
        have hdec := List.find?_some hfind
        exact .admin hbears' hplaces ((hmem e).mp (List.mem_of_find?_eq_some hfind))
          (of_decide_eq_true hdec) hline

end Composition

section Answers

variable {P : Platform} {Q : Surroundings} {db : GeoDbCls} {near : List RevEntity} {e : RevEntity}

/-- An entity around the point: that of a row in a tile of some level. -/
def GeoDbCls.Around (P : Platform) (Q : Surroundings) (db : GeoDbCls) (e : RevEntity) : Prop :=
  ∃ level < 15, ∃ r ∈ db.entities.rows,
    (∃ q ∈ quadIndices Q.lat2latp Q.cosLat Q.lng Q.lat Q.radius level, r.cols.tileid = q.toNat) ∧
    ∃ g, GeoDbCls.readEntity P r = some g ∧
      entityAround Q (wrap32 r.cols.nameid) (wrap32 r.cols.isinid) g = some e

theorem mem_levelResults {level : Nat} {found : List RevEntity}
    (h : levelResults P Q db level = some found) :
    e ∈ found ↔ ∃ r ∈ db.entities.rows,
      (∃ q ∈ quadIndices Q.lat2latp Q.cosLat Q.lng Q.lat Q.radius level,
        r.cols.tileid = q.toNat) ∧
      ∃ g, GeoDbCls.readEntity P r = some g ∧
        entityAround Q (wrap32 r.cols.nameid) (wrap32 r.cols.isinid) g = some e := by
  obtain ⟨read, hread, rfl⟩ := Option.map_eq_some_iff.mp h
  rw [List.reduceOption_mem_iff, mem_of_mapM hread]
  constructor
  · rintro ⟨r, hr, hentity⟩
    obtain ⟨hrow, htile⟩ := List.mem_filter.mp hr
    obtain ⟨q, hq, hid⟩ := List.any_eq_true.mp htile
    obtain ⟨g, hg, haround⟩ := Option.map_eq_some_iff.mp hentity
    exact ⟨r, hrow, ⟨q, hq, of_decide_eq_true hid⟩, g, hg, haround⟩
  · rintro ⟨r, hrow, ⟨q, hq, hid⟩, g, hg, haround⟩
    exact ⟨r, List.mem_filter.mpr
      ⟨hrow, List.any_eq_true.mpr ⟨q, hq, decide_eq_true hid⟩⟩,
      Option.map_eq_some_iff.mpr ⟨g, hg, haround⟩⟩

theorem mem_lookAround (h : lookAround P Q db = some near) : e ∈ near ↔ db.Around P Q e := by
  obtain ⟨levels, hlevels, rfl⟩ := Option.map_eq_some_iff.mp h
  rw [List.mem_flatten]
  constructor
  · rintro ⟨found, hfound, he⟩
    obtain ⟨level, hlevel, hresults⟩ := (mem_of_mapM hlevels).mp hfound
    exact ⟨level, List.mem_range.mp (List.mem_reverse.mp hlevel), (mem_levelResults hresults).mp he⟩
  · rintro ⟨level, hlevel, he⟩
    have hmem : level ∈ (List.range 15).reverse := List.mem_reverse.mpr (List.mem_range.mpr hlevel)
    cases hresults : levelResults P Q db level with
    | none =>
      rw [mapM_eq_none_iff.mpr ⟨level, hmem, hresults⟩] at hlevels
      cases hlevels
    | some found =>
      exact ⟨found, (mem_of_mapM hlevels).mpr ⟨level, hmem, hresults⟩,
        (mem_levelResults hresults).mpr he⟩

theorem lookUp_describes {S : StdSort revBefore} {T : StdSort numberedBefore} {lines : List Text}
    (h : rev_geo_address_look_up P Q S T db = some lines) :
    ∃ near, (∀ e, e ∈ near ↔ db.Around P Q e) ∧ Describes T db.names near lines := by
  obtain ⟨near, hnear, h⟩ := Option.bind_eq_some_iff.mp h
  have horder : StrictWeakOn revBefore near := StrictWeakOn.of_key RevEntity.distance near
  refine ⟨near, fun e => mem_lookAround hnear, compose_describes ?_ ?_ h⟩
  · exact (S.sorted near horder).imp fun hnot => Int.not_lt.mp (of_decide_eq_false hnot)
  · exact fun e => (S.perm near horder).mem_iff

theorem Describes.length_le {T : StdSort numberedBefore} {names : NamesTable}
    {lines : List Text} (h : Describes T names near lines) : lines.length ≤ 2 := by
  cases h with
  | @address e city place first second he hplace hfirst hsecond =>
    have hsecond' : second.length ≤ 1 := by
      cases hsecond with
      | place hkind => exact Option.length_toList_le
      | unnamed hkind => exact Nat.zero_le 1
      | named hkind hname => exact Nat.le_refl 1
    exact Nat.succ_le_succ hsecond'
  | place hnone hplace => exact Nat.le_refl 2
  | admin hnone hplace he hadmin hline => exact Nat.le_refl 2
  | nothing hnone hplace hadmin => exact Nat.zero_le 2

/-- Whatever the order of equal distances: the lines that are answered describe what the
tiles hold around the point. The first is composed for an entity that none is closer than,
and the city in it is the entity's own, or where it has none that of the place around. The
caller gets all of them with a bar in between, or what it had if there are none. -/
theorem rev_geo_describes (P : Platform) (Q : Surroundings) (S : StdSort revBefore)
    (T : StdSort numberedBefore) (db : GeoDbCls) (lines : List Text)
    (h : rev_geo_address_look_up P Q S T db = some lines) :
    (∃ near, (∀ e, e ∈ near ↔ db.Around P Q e) ∧ Describes T db.names near lines) ∧
    ∀ resultStr, getRevGeoAddressOffline P Q S T db resultStr =
      some (if lines = [] then (false, resultStr) else (true, ['|'].intercalate lines)) := by
  obtain ⟨near, hnear, hdescribes⟩ := lookUp_describes h
  refine ⟨⟨near, hnear, hdescribes⟩, fun resultStr => ?_⟩
  have hlength := hdescribes.length_le
  unfold getRevGeoAddressOffline
  rw [h, Option.map_some]
  rcases lines with - | ⟨address, - | ⟨second, - | ⟨third, rest⟩⟩⟩
  · rfl
  · simp
  · simp [List.intercalate]
  · simp only [List.length_cons] at hlength
    omega

/-- Five metres from everything, inside every outline. -/
def atTheMall : Surroundings where
  lng := 1
  lat := 1
  radius := 1000
  measure _ _ := 5
  isWithinPoly _ := true
  getClosestPoint _ := 5
  lat2latp x := x
  cosLat := 1

/-- A street that is in no city, and a mall that is. -/
def mall : GeoDbCls where
  names := ⟨[⟨1, "Vaughan"⟩, ⟨2, "Keele Street"⟩, ⟨3, "Mall"⟩], by decide, by decide⟩
  entities := ⟨[⟨1, ⟨3, 1, 0, 0, 35, [0, 0]⟩⟩, ⟨2, ⟨2, 0, 0, 0, 31, [0, 0, 2, 0x80, 0x89, 0x7A,
    0xFF, 0x88, 0x7A, 2, 0x37, 0]⟩⟩], by decide, by decide⟩

theorem rev_geo_describes_mall :
    (∃ near, (∀ e, e ∈ near ↔ mall.Around plainPlatform atTheMall e) ∧
      Describes (.insertion _) mall.names near ["7 Keele Street, Vaughan", "Mall, Vaughan"]) ∧
    ∀ resultStr, getRevGeoAddressOffline plainPlatform atTheMall (.insertion _) (.insertion _)
      mall resultStr =
        some (true, ['|'].intercalate ["7 Keele Street, Vaughan", "Mall, Vaughan"]) := by
  obtain ⟨hnear, hanswer⟩ := rev_geo_describes plainPlatform atTheMall (.insertion _)
    (.insertion _) mall ["7 Keele Street, Vaughan", "Mall, Vaughan"] (by decide +kernel)
  exact ⟨hnear, fun resultStr => (hanswer resultStr).trans
    (congrArg some (if_neg (List.cons_ne_nil _ _)))⟩

end Answers

end UCLinux.Geocoder
