import UCLinux.Geocoder.Search

/-!
The location of an address in a city: that of the building closest to the house number, or
of the first building or corner of the street. Wherever it comes from, it is a stored node
of an entity with the name that was found, in the city that was found.
-/

namespace UCLinux.Geocoder

open Machine Machine.Rounding Ocpp Sql

section Purpose

/-- The points of a geometry, as the search holds them: the outline of a building gives
buildings. -/
def GeometryInfo.points : GeometryInfo → List (Rat × Rat)
  | .street s => s.buildings.map fun b => (b.lat, b.lon)
  | .boundary b => b.ls.map fun point =>
      if b.type = Geocoding.buildingBoundaries then (single point.lat, single point.lng)
      else (point.lat, point.lng)
  | .place p => [(p.latp, p.lon)]

def GeometryInfo.LiesAt (g : GeometryInfo) (lat lon : Rat) : Prop := (lat, lon) ∈ g.points

/-- A street or a building of that name in that city has a node there. -/
structure GeoDbCls.Stands (P : Platform) (db : GeoDbCls) (nameid isinid : Int) (lat lon : Rat)
    (en : Row Entity) (g : GeometryInfo) : Prop where
  row : en ∈ db.entities.rows
  key : en.cols.nameid = nameid ∧ en.cols.isinid = isinid
  type : en.cols.type = EntityType.streetInterpolationType.code ∨
    en.cols.type = EntityType.streetBoundaries.code ∨
    en.cols.type = EntityType.buildingBoundaries.code
  geometry : GeoDbCls.readGeometry P nameid isinid en.cols.type en = some (some g)
  node : g.LiesAt lat lon

/-- What a search for a location leaves: the reply there was, none, or a stored location. -/
def Located (P : Platform) (db : GeoDbCls) (addrToFind : Text) (nameid isinid : Int)
    (resultStr reply : Reply) : Prop :=
  reply = resultStr ∨ reply = none ∨ ∃ lat lon,
    reply = some (MkrGeoCoder.foundAt P addrToFind lat lon) ∧
    ∃ en g, db.Stands P nameid isinid lat lon en g

end Purpose

section Nodes

variable {P : Platform} {db : GeoDbCls} {nameid isinid : Int} {type : Int} {numberOfRows : Nat}
  {geomInfos : List GeometryInfo} {g : GeometryInfo} {lat lon : Rat}

/-- A geometry that is read is that of a row. -/
theorem exists_row_of_mem
    (h : db.readGeometryInfo P nameid isinid type numberOfRows = some geomInfos)
    (hg : g ∈ geomInfos) :
    ∃ en ∈ db.entities.rows, en.cols.type = type ∧ en.cols.isinid = isinid ∧
      en.cols.nameid = nameid ∧
      GeoDbCls.readGeometry P nameid isinid type en = some (some g) := by
  obtain ⟨read, hread, rfl⟩ := Option.map_eq_some_iff.mp h
  obtain ⟨en, hen, hgeometry⟩ := (mem_of_mapM hread).mp (List.reduceOption_mem_iff.mp hg)
  have hselect : en ∈ db.entities.select fun r =>
      r.cols.type = type ∧ r.cols.isinid = isinid ∧ r.cols.nameid = nameid := by
    unfold GeoDbCls.rowsOf at hen
    dsimp only at hen
    split at hen
    · exact List.mem_of_mem_take hen
    · exact hen
  obtain ⟨hrow, hkey⟩ := List.mem_filter.mp hselect
  obtain ⟨htype, hisinid, hnameid⟩ := of_decide_eq_true hkey
  exact ⟨en, hrow, htype, hisinid, hnameid, hgeometry⟩

theorem stands_of_mem {type : EntityType}
    (htype : type = .streetInterpolationType ∨ type = .streetBoundaries ∨
      type = .buildingBoundaries)
    (h : db.readGeometryInfo P nameid isinid type.code numberOfRows = some geomInfos)
    (hg : g ∈ geomInfos) (hnode : g.LiesAt lat lon) :
    ∃ en g, db.Stands P nameid isinid lat lon en g := by
  obtain ⟨en, hrow, hentype, hisinid, hnameid, hgeometry⟩ := exists_row_of_mem h hg
  refine ⟨en, g, hrow, ⟨hnameid, hisinid⟩, ?_, hentype ▸ hgeometry, hnode⟩
  rw [hentype]
  rcases htype with rfl | rfl | rfl
  · exact .inl rfl
  · exact .inr (.inl rfl)
  · exact .inr (.inr rfl)

/-- A building that is measured is a node of its entity. -/
theorem liesAt_of_place {p : Place} (h : p ∈ g.entity.places) : g.LiesAt p.lat p.lon := by
  cases g with
  | street s =>
    obtain ⟨b, hb, rfl⟩ := List.mem_map.mp h
    obtain ⟨stored, hstored, rfl⟩ := List.mem_map.mp hb
    exact List.mem_map_of_mem hstored
  | boundary b =>
    unfold GeometryInfo.entity at h
    dsimp only at h
    split at h
    · rename_i htype
      obtain ⟨p, hp, rfl⟩ := List.mem_map.mp h
      obtain ⟨point, hpoint, rfl⟩ := List.mem_map.mp
        (List.mem_of_head? (Option.mem_toList.mp hp))
      exact List.mem_map.mpr ⟨point, hpoint, if_pos htype⟩
    · exact absurd h List.not_mem_nil
  | place p => exact absurd h List.not_mem_nil

/-- A measured entity has the places it had. -/
theorem places_of_measureEntity {hN : Int} {e e' : GeoEntity} (h : measureEntity hN e = some e') :
    e'.places = e.places := by
  cases e with
  | street s =>
    obtain ⟨distance, -, rfl⟩ := Option.map_eq_some_iff.mp h
    exact map_place_markBuildings none
  | building b =>
    cases h
    rfl
  | other distance => cases h

/-- A building that is found is one of those there are. -/
theorem place_of_findClosestMatch {S : StdSort entityBefore} {T : StdSort buildingBefore}
    {entities : List GeoEntity} {houseN : Text} {b : GeoBuilding}
    (h : findClosestMatch S T entities houseN = some b) (hdistance : 0 ≤ b.distance) :
    b.place ∈ entities.flatMap GeoEntity.places := by
  have hempty : some emptyBuilding ≠ some b := fun heq => by
    cases heq
    exact absurd hdistance (by decide)
  unfold findClosestMatch at h
  split at h
  · exact absurd h hempty
  · rename_i e' rest hsort
    split at h
    · obtain ⟨hmem, -⟩ := S.not_lt_of_sort_eq (entityBefore_order _) hsort
      obtain ⟨e, he, hmeasure⟩ := List.mem_filterMap.mp hmem
      refine List.mem_flatMap.mpr ⟨e, he, ?_⟩
      rw [← places_of_measureEntity hmeasure]
      cases e' with
      | street s =>
        have hb := (T.perm _ (buildingBefore_order _)).mem_iff.mp (List.mem_of_head? h)
        exact List.mem_map_of_mem hb
      | building o =>
        obtain ⟨p, hp, rfl⟩ := Option.map_eq_some_iff.mp h
        exact List.mem_map.mpr ⟨p, Option.mem_toList.mpr hp, rfl⟩
      | other distance => exact absurd h hempty
    · exact absurd h hempty

theorem liesAt_of_firstBuilding {b : GeoBuilding}
    (h : MkrGeoCoder.firstBuilding g = some b) : g.LiesAt b.lat b.lon := by
  cases g with
  | street s =>
    obtain ⟨stored, hstored, rfl⟩ := Option.map_eq_some_iff.mp h
    exact List.mem_map_of_mem (List.mem_of_head? hstored)
  | boundary b => cases h
  | place p => cases h

/-- The boundary that is left is the one there was, or that of a street. -/
theorem findLocationMatch4Boundary_cases (geomInfos : List GeometryInfo) (b : GeoBoundary) :
    MkrGeoCoder.findLocationMatch4Boundary geomInfos b = b ∨
      ∃ ent, .boundary ent ∈ geomInfos ∧ ent.type = EntityType.streetBoundaries.code ∧
        MkrGeoCoder.findLocationMatch4Boundary geomInfos b = boundaryOf ent := by
  unfold MkrGeoCoder.findLocationMatch4Boundary
  refine List.foldlRecOn (motive := fun c => c = b ∨ ∃ ent, .boundary ent ∈ geomInfos ∧
    ent.type = EntityType.streetBoundaries.code ∧ c = boundaryOf ent)
    geomInfos MkrGeoCoder.takeStreet (.inl rfl) fun c hc g hg => ?_
  unfold MkrGeoCoder.takeStreet
  split
  · split
    · rename_i htype
      exact .inr ⟨_, hg, htype, rfl⟩
    · exact hc
  · exact hc

end Nodes

section Locating

open MkrGeoCoder

variable {P : Platform} {db : GeoDbCls} {addrToFind : Text} {nameid isinid : Int}
  {resultStr : Reply} {r : Bool × Reply}

/-- A reply about a building has its place. -/
theorem located_building {b : GeoBuilding}
    (h : 0 ≤ b.distance → ∃ en g, db.Stands P nameid isinid b.lat b.lon en g) :
    Located P db addrToFind nameid isinid resultStr
      (generateFoundBuildingResponse P addrToFind b).2 := by
  unfold generateFoundBuildingResponse
  split
  · rename_i hfound
    exact .inr (.inr ⟨b.lat, b.lon, rfl, h hfound.1⟩)
  · exact .inr (.inl rfl)

theorem findLocation_located {numberOfRows : Nat}
    (h : findLocationAndGenerateResult P db addrToFind nameid isinid numberOfRows resultStr =
      some r) : Located P db addrToFind nameid isinid resultStr r.2 := by
  obtain ⟨streets, hstreets, h⟩ := Option.bind_eq_some_iff.mp h
  split at h
  · cases h
    refine located_building fun hdistance => ?_
    unfold findLocationMatch4Building at hdistance ⊢
    cases hfirst : streets.findSome? firstBuilding with
    | none =>
      rw [hfirst] at hdistance
      exact absurd hdistance (by decide)
    | some b =>
      obtain ⟨g, hg, hb⟩ := List.exists_of_findSome?_eq_some hfirst
      have hnode := liesAt_of_firstBuilding hb
      exact stands_of_mem (.inl rfl) hstreets hg hnode
  · obtain ⟨boundaries, hboundaries, h⟩ := Option.bind_eq_some_iff.mp h
    split at h
    · cases h
      unfold generateFoundBoundaryResponse
      rcases findLocationMatch4Boundary_cases boundaries ⟨[], [], 0x7fffffff⟩ with
        hnone | ⟨ent, hent, htype, hlast⟩
      · rw [hnone]
        exact .inr (.inl rfl)
      · rw [hlast]
        split
        · rename_i p q rest hls
          have hp : p ∈ (boundaryOf ent).ls := hls ▸ List.mem_cons_self
          obtain ⟨point, hpoint, rfl⟩ := List.mem_map.mp hp
          have hother : ent.type ≠ Geocoding.buildingBoundaries := by
            rw [htype]
            decide
          have hnode : (GeometryInfo.boundary ent).LiesAt point.lat point.lng :=
            List.mem_map.mpr ⟨point, hpoint, if_neg hother⟩
          exact .inr (.inr ⟨_, _, rfl,
            stands_of_mem (.inr (.inl rfl)) hboundaries hent hnode⟩)
        · exact .inr (.inl rfl)
    · cases h
      exact .inl rfl

theorem findClosestOfType_located {type : EntityType} {houseNumber : Text}
    (htype : type = .streetInterpolationType ∨ type = .buildingBoundaries)
    (h : findClosestOfType P db addrToFind nameid isinid type houseNumber resultStr = some r) :
    Located P db addrToFind nameid isinid resultStr r.2 := by
  obtain ⟨geomInfos, hread, h⟩ := Option.bind_eq_some_iff.mp h
  split at h
  · obtain ⟨b, hb, h⟩ := Option.bind_eq_some_iff.mp h
    cases h
    refine located_building fun hdistance => ?_
    obtain ⟨e, he, hplace⟩ := List.mem_flatMap.mp (place_of_findClosestMatch hb hdistance)
    obtain ⟨g, hg, rfl⟩ := List.mem_map.mp he
    have hany : type = .streetInterpolationType ∨ type = .streetBoundaries ∨
        type = .buildingBoundaries := htype.imp_right .inr
    exact stands_of_mem hany hread hg (liesAt_of_place hplace)
  · cases h
    exact .inl rfl

theorem findClosest_located {houseNumber : Text}
    (h : findClosestBuildingAndGenerateResult P db addrToFind nameid isinid houseNumber
      resultStr = some r) : Located P db addrToFind nameid isinid resultStr r.2 := by
  obtain ⟨first, hfirst, h⟩ := Option.bind_eq_some_iff.mp h
  have hlocated := findClosestOfType_located (.inr rfl) hfirst
  split at h
  · cases h
    exact hlocated
  · -- the second search starts from what the first one left
    rcases findClosestOfType_located (.inl rfl) h with hkept | hfound
    · rw [hkept]
      exact hlocated
    · exact .inr hfound

theorem locate_located {houseNumber : Text} {objs : List MkrGeoCoderResponseObj}
    (h : locate P db addrToFind houseNumber isinid objs resultStr = some r) :
    (r.1 = true ↔ ∃ o ∈ objs, o.isinid = isinid) ∧
      (r.2 = resultStr ∨ ∃ o ∈ objs, o.isinid = isinid ∧
        Located P db addrToFind o.nameid isinid resultStr r.2) := by
  unfold locate at h
  cases hfind : objs.find? fun xx => xx.isinid = isinid with
  | none =>
    rw [hfind] at h
    cases h
    have hnot := List.find?_eq_none.mp hfind
    refine ⟨iff_of_false Bool.false_ne_true ?_, .inl rfl⟩
    rintro ⟨o, ho, hisinid⟩
    exact hnot o ho (decide_eq_true hisinid)
  | some xx =>
    rw [hfind] at h
    have hxx := List.mem_of_find?_eq_some hfind
    have hdec := List.find?_some hfind
    have hisinid : xx.isinid = isinid := of_decide_eq_true hdec
    obtain ⟨r', hr', rfl⟩ := Option.map_eq_some_iff.mp h
    have hlocated : Located P db addrToFind xx.nameid isinid resultStr r'.2 := by
      split at hr'
      · exact findLocation_located hr'
      · exact findClosest_located hr'
    exact ⟨iff_of_true rfl ⟨xx, hxx, hisinid⟩, .inr ⟨xx, hxx, hisinid, hlocated⟩⟩

/-- A city with a street in it, which has the number 7. -/
def oneStreet : GeoDbCls where
  names := ⟨[⟨1, "Vaughan"⟩, ⟨2, "Keele Street"⟩], by decide, by decide⟩
  entities := ⟨[⟨1, ⟨1, 0, 0, 14, 32, []⟩⟩, ⟨2, ⟨2, 1, 0, 14, 31, [0, 0, 2, 0x80, 0x89, 0x7A,
    0xFF, 0x88, 0x7A, 2, 0x37, 0]⟩⟩], by decide, by decide⟩

end Locating

end UCLinux.Geocoder
