import Mathlib.Data.List.ReduceOption
import UCLinux.Geocoder.ClosestMatch
import UCLinux.Geocoder.Names
import UCLinux.Geocoder.TileWindow
import UCLinux.Geocoding.Geometry
import UCLinux.Sql.Lexer
import UCLinux.Sql.Like

/-!
The search for an address. The words in front of the first comma are looked for in the
names of all entities, what stands behind it among the names of administrative boundaries.
With a city found, the first entity in it gives a location; otherwise the places are
listed. A word is spliced into the query as it is, so that a quote in it alters the query.
-/

namespace UCLinux.Geocoder

open Geocoding (Decoder EncodingStream processStreetInterpolation
  processBuilding_Street_Admin_Boundaries processPlace_Boundaries)
open Machine Ocpp Sql

section Program

/-- The types the search tells apart. -/
inductive EntityType where
  | placeNone
  | city
  | streetHouseNumber
  | streetInterpolationType
  | adminBoundaries
  | streetBoundaries
  | buildingBoundaries
  | geoPlaceBoundaries
  | geoPlacesFuel
  deriving DecidableEq, Repr

def EntityType.code : EntityType → Int
  | .placeNone => 20
  | .city => 23
  | .streetHouseNumber => 30
  | .streetInterpolationType => 31
  | .adminBoundaries => 32
  | .streetBoundaries => 33
  | .buildingBoundaries => 34
  | .geoPlaceBoundaries => 35
  | .geoPlacesFuel => 36

structure GeoDbCls where
  names : NamesTable
  entities : EntityTable

/-- A name that was found, with an entity that has it. Its `isinStr` is read later. -/
structure MkrGeoCoderResponseObj where
  name : Text
  nameid : Int
  type : Int
  isinid : Int
  deriving DecidableEq, Repr

/-- An order for the rows of a query, by the text of the query. -/
structure JoinOrder where
  arrange : Text → List MkrGeoCoderResponseObj → List MkrGeoCoderResponseObj
  perm : ∀ sql objs, (arrange sql objs).Perm objs

/-- What is left open: shifts the language does not define, the bytes behind a blob, the
order of the rows, what a query altered by a quote answers (`none` if it throws), what a
point keeps of a coordinate, the rounding of one in a reply, and the order of equal
elements after a sort. -/
structure Platform where
  wild : Nat → BitVec 32 → BitVec 32
  outside : Nat → BitVec 8
  keep : Rat → Rat
  order : JoinOrder
  altered : Text → Option (List MkrGeoCoderResponseObj)
  e7 : Rat → Int
  entities : StdSort entityBefore
  buildings : StdSort buildingBefore

/-- The geometry of an entity. -/
inductive GeometryInfo where
  | street (s : Geocoding.GeoStreetInterpolation)
  | boundary (b : Geocoding.GeoBoundary)
  | place (p : Geocoding.GeoPlace)
  deriving DecidableEq, Repr

def charsOf (bytes : Geocoding.Bytes) : Text := bytes.map fun b => Char.ofNat b.toNat

def buildingOf (b : Geocoding.GeoBuilding) : GeoBuilding :=
  .new b.lat b.lon (charsOf b.houseNumber)

def boundaryOf (b : Geocoding.GeoBoundary) : GeoBoundary :=
  ⟨charsOf b.houseNumber, b.ls.map fun point => ⟨point.lng, point.lat⟩, 0x7fffffff⟩

/-- The entity as it is measured. -/
def GeometryInfo.entity : GeometryInfo → GeoEntity
  | .street s => .street ⟨s.buildings.map buildingOf, 0x7fffffff⟩
  | .boundary b => if b.type = Geocoding.buildingBoundaries then .building (boundaryOf b)
      else .other 0x7fffffff
  | .place _ => .other 0x7fffffff

namespace GeoDbCls

variable (P : Platform) (db : GeoDbCls)

def read_isinStr (isinid : Int) : Option Text :=
  if isinid = 0 then some []
  else ((db.names.select fun r => r.rowid = wrapU64 isinid).map Row.cols).head?

/-- What a name is compared with. -/
def containing (requestAddress : Text) : Text := '%' :: (requestAddress ++ ['%'])

def searchSql (requestAddress : Text) (type : Int) : Stmt :=
  [.sql "SELECT distinct n.name,en.nameid,en.isinid,en.type FROM names n,entities en ",
    .sql "WHERE (n.name like '", .value (containing requestAddress),
    .sql "' collate nocase) and en.nameid=n.rowid "] ++
  if 0 < type then [.sql "and en.type=", .number type] else []

/-- The distinct rows of the join. The type is taken as an `int`. -/
def joined (requestAddress : Text) (type : Int) : List MkrGeoCoderResponseObj :=
  (db.names.rows.flatMap fun n =>
    if like (containing requestAddress) n.cols then
      (db.entities.select fun en =>
        en.cols.nameid = n.rowid ∧ (0 < type → en.cols.type = type)).map fun en =>
          (n.cols, en.cols.nameid, en.cols.isinid, en.cols.type)
    else []).dedup.map fun (name, nameid, isinid, type) => ⟨name, nameid, wrap32 type, isinid⟩

/-- The objects with a name that contains the text. -/
def readNames (requestAddress : Text) (type : Int) : Option (List MkrGeoCoderResponseObj) :=
  let st := searchSql requestAddress type
  if st.QuoteFree then some (P.order.arrange st.text (db.joined requestAddress type))
  else P.altered st.text

/-- The geometry in a row, by a decoder. -/
def decode {α : Type} (d : Decoder (BitVec 64 × α)) (r : Row Entity) : Option α :=
  (d.run (EncodingStream.step P.wild P.outside) ⟨r.cols.geometry, 0⟩).map fun p => p.1.2

/-- There is no geometry of other types. -/
def readGeometry (nameid isinid type : Int) (r : Row Entity) : Option (Option GeometryInfo) :=
  let nameid := BitVec.ofInt 64 nameid
  let isinid := BitVec.ofInt 64 isinid
  let entid := BitVec.ofInt 64 r.rowid
  if type = EntityType.streetInterpolationType.code then
    (decode P (processStreetInterpolation nameid isinid entid) r).map fun s => some (.street s)
  else if type = EntityType.adminBoundaries.code ∨ type = EntityType.streetBoundaries.code ∨
      type = EntityType.buildingBoundaries.code ∨ type = EntityType.geoPlaceBoundaries.code then
    (decode P (processBuilding_Street_Admin_Boundaries P.keep nameid isinid entid type) r).map
      fun b => some (.boundary b)
  else if type = EntityType.geoPlacesFuel.code then
    (decode P (processPlace_Boundaries nameid isinid entid type) r).map
      fun p => some (.place p)
  else some none

/-- The rows of a name in a city; no `numberOfRows` is no limit. -/
def rowsOf (nameid isinid type : Int) (numberOfRows : Nat) : List (Row Entity) :=
  let rows := db.entities.select fun r =>
    r.cols.type = type ∧ r.cols.isinid = isinid ∧ r.cols.nameid = nameid
  if numberOfRows ≠ 0 then rows.take numberOfRows else rows

def readGeometryInfo (nameid isinid type : Int) (numberOfRows : Nat) :
    Option (List GeometryInfo) :=
  ((db.rowsOf nameid isinid type numberOfRows).mapM
    (readGeometry P nameid isinid type)).map List.reduceOption

end GeoDbCls

@[ext]
structure GeoRespItem where
  name : Text
  nameid : Int
  type : Int
  isinl : Option (Text × Int)
  lla : List Int
  deriving DecidableEq, Repr

structure GeoResponse where
  sts : Int
  reqstr : Text
  respil : List GeoRespItem
  deriving DecidableEq, Repr

/-- `*resultStr`; `none` is the empty string. -/
abbrev Reply := Option GeoResponse

namespace MkrGeoCoder

variable (P : Platform) (db : GeoDbCls) (addrToFind : Text)

/-- The reply with one location. -/
def foundAt (lat lon : Rat) : GeoResponse :=
  ⟨1, addrToFind, [⟨[], -1, EntityType.buildingBoundaries.code, none, [P.e7 lat, P.e7 lon]⟩]⟩

def generateFoundBuildingResponse (b : GeoBuilding) : Bool × Reply :=
  if 0 ≤ b.distance ∧ b.lat ≠ 0 ∧ b.lon ≠ 0 then (true, some (foundAt P addrToFind b.lat b.lon))
  else (false, none)

def generateFoundBoundaryResponse (b : GeoBoundary) : Bool × Reply :=
  match b.ls with
  | p :: _ :: _ => (true, some (foundAt P addrToFind p.y p.x))
  | _ => (false, none)

/-- The first building of a street. -/
def firstBuilding : GeometryInfo → Option GeoBuilding
  | .street s => s.buildings.head?.map buildingOf
  | _ => none

def findLocationMatch4Building (geomInfos : List GeometryInfo) (b : GeoBuilding) : GeoBuilding :=
  ((geomInfos.findSome? firstBuilding).map fun bld => { bld with distance := 0 }).getD b

def takeStreet (b : GeoBoundary) : GeometryInfo → GeoBoundary
  | .boundary ent => if ent.type = EntityType.streetBoundaries.code then boundaryOf ent else b
  | _ => b

/-- The last street counts. -/
def findLocationMatch4Boundary (geomInfos : List GeometryInfo) (b : GeoBoundary) : GeoBoundary :=
  geomInfos.foldl takeStreet b

def findLocationAndGenerateResult (nameid isinid : Int) (numberOfRows : Nat) (resultStr : Reply) :
    Option (Bool × Reply) := do
  let streets ← db.readGeometryInfo P nameid isinid EntityType.streetInterpolationType.code
    numberOfRows
  if streets ≠ [] then
    pure (generateFoundBuildingResponse P addrToFind
      (findLocationMatch4Building streets emptyBuilding))
  else do
    let boundaries ← db.readGeometryInfo P nameid isinid EntityType.streetBoundaries.code
      numberOfRows
    if boundaries ≠ [] then
      pure (generateFoundBoundaryResponse P addrToFind
        (findLocationMatch4Boundary boundaries ⟨[], [], 0x7fffffff⟩))
    else pure (false, resultStr)

/-- Among the entities of one type. -/
def findClosestOfType (nameid isinid : Int) (type : EntityType) (houseNumber : Text)
    (resultStr : Reply) : Option (Bool × Reply) := do
  let geomInfos ← db.readGeometryInfo P nameid isinid type.code 0
  if geomInfos ≠ [] then do
    let b ← findClosestMatch P.entities P.buildings (geomInfos.map GeometryInfo.entity) houseNumber
    pure (generateFoundBuildingResponse P addrToFind b)
  else pure (false, resultStr)

def findClosestBuildingAndGenerateResult (nameid isinid : Int) (houseNumber : Text)
    (resultStr : Reply) : Option (Bool × Reply) := do
  let r ← findClosestOfType P db addrToFind nameid isinid .buildingBoundaries houseNumber resultStr
  if r.1 then pure r
  else findClosestOfType P db addrToFind nameid isinid .streetInterpolationType houseNumber r.2

def addResponsePlaceItem (gg : GeometryInfo) (xx : MkrGeoCoderResponseObj) (isinStr : Text) :
    GeoRespItem :=
  ⟨xx.name, xx.nameid, xx.type, some (isinStr, xx.isinid),
    if xx.type = EntityType.geoPlacesFuel.code then
      match gg with
      | .place place => [P.e7 place.latp, P.e7 place.lon]
      | _ => []
    else []⟩

/-- What an object adds to the list. Streets are collected, and left out of it. -/
def listObj (xx : MkrGeoCoderResponseObj) : Option (List GeoRespItem) := do
  let isinStr ← db.read_isinStr xx.isinid
  let geomInfos ← db.readGeometryInfo P xx.nameid xx.isinid xx.type 1
  pure (if xx.type = EntityType.geoPlacesFuel.code ∨ xx.type = EntityType.geoPlaceBoundaries.code
    then geomInfos.map fun gg => addResponsePlaceItem P gg xx isinStr else [])

structure MkrToken where
  token : Text
  type : EntityType
  deriving DecidableEq, Repr

structure MkrGeoCoderResponseResult where
  sts : EntityType
  objs : List MkrGeoCoderResponseObj
  deriving DecidableEq, Repr

def is_str_digits (str : Text) : Bool := str.all Char.isDigit

def in_array (value : Text) (arr : List Text) : Bool := arr.any (· = value)

def tab_street_type : List Text :=
  ["dr", "rd", "ave", "cr", "drive", "road", "avenue", "crescent"]

/-- `houseNumber`, and `resp.objs` with the last size returned for it. -/
structure Words where
  houseNumber : Text
  objs : List MkrGeoCoderResponseObj
  retV_Size : Nat
  deriving DecidableEq, Repr

/-- A word of the street part. -/
def readWord (r : Words) (s : Text) : Option Words :=
  if s = [] then some r
  else if is_str_digits s then some { r with houseNumber := s }
  else if in_array s tab_street_type then some r
  else (db.readNames P s 0).map fun found =>
    { r with objs := r.objs ++ found, retV_Size := (r.objs ++ found).length }

/-- `houseNumber` and `temp_responses`. -/
structure Answers where
  houseNumber : Text
  temp_responses : List MkrGeoCoderResponseResult
  deriving DecidableEq, Repr

/-- A result that found something is kept. -/
def Answers.push (a : Answers) (sts : EntityType) (objs : List MkrGeoCoderResponseObj)
    (retV_Size : Nat) : Answers :=
  if 0 < retV_Size then { a with temp_responses := a.temp_responses ++ [⟨sts, objs⟩] } else a

def readToken (a : Answers) (tok : MkrToken) : Option Answers :=
  match tok.type with
  | .streetHouseNumber =>
    if tok.token = [] ∨ is_str_digits tok.token then some a
    else ((split tok.token ' ').foldlM (readWord P db) ⟨a.houseNumber, [], 0⟩).map fun r =>
      { a with houseNumber := r.houseNumber }.push .streetHouseNumber r.objs r.retV_Size
  | .city =>
    (db.readNames P tok.token EntityType.adminBoundaries.code).map fun found =>
      a.push .adminBoundaries found found.length
  | _ => some a

/-- The id of the city, 0 if there is none. -/
def cityOf : List MkrGeoCoderResponseResult → Int
  | _ :: second :: _ =>
    if second.sts = .adminBoundaries then second.objs.head?.elim 0 MkrGeoCoderResponseObj.nameid
    else 0
  | _ => 0

/-- The location of the first object in the city. -/
def locate (houseNumber : Text) (isinid : Int) (objs : List MkrGeoCoderResponseObj)
    (resultStr : Reply) : Option (Bool × Reply) :=
  match objs.find? fun xx => xx.isinid = isinid with
  | none => some (false, resultStr)
  | some xx =>
    (if houseNumber = [] then
      findLocationAndGenerateResult P db addrToFind xx.nameid isinid 10 resultStr
    else findClosestBuildingAndGenerateResult P db addrToFind xx.nameid isinid houseNumber
      resultStr).map fun r => (true, r.2)

/-- The return value and what `*resultStr` holds then; `none` is an exception. -/
def processGeocoderRequest (tokens : List MkrToken) (resultStr : Reply) :
    Option (Bool × Reply) := do
  let a ← tokens.foldlM (readToken P db) ⟨[], []⟩
  match a.temp_responses with
  | [] => pure (false, resultStr)
  | first :: _ =>
    let isinid := cityOf a.temp_responses
    if isinid ≠ 0 then locate P db addrToFind a.houseNumber isinid first.objs resultStr
    else (first.objs.mapM (listObj P db)).map fun items =>
      (true, some ⟨1, addrToFind, items.flatten⟩)

end MkrGeoCoder

/-- `boost::trim` -/
def trim (s : Text) : Text :=
  ((s.dropWhile isSpace).reverse.dropWhile isSpace).reverse

def safeQueryString (addrToFind : Text) : Text :=
  trim ((((cstr addrToFind).map Char.toLower).filter (· ≠ '%')).filter (· ≠ '_'))

def tokenType : Nat → EntityType
  | 0 => .streetHouseNumber
  | 1 => .city
  | _ => .placeNone

def tokensOf (addrToFind : Text) : List MkrGeoCoder.MkrToken :=
  (split (safeQueryString addrToFind) ',').mapIdx fun i item => ⟨trim item, tokenType i⟩

/-- With the database open. -/
def CartofUi_BaseMapView_Geocoder (P : Platform) (db : GeoDbCls) (addrToFind : Text)
    (resultStr : Reply) : Option (Bool × Reply) :=
  MkrGeoCoder.processGeocoderRequest P db (cstr addrToFind) (tokensOf addrToFind) resultStr

end Program

section Purpose

variable (P : Platform) (db : GeoDbCls) (addr : Text)

/-- What stands between the commas. -/
def partsOf : List Text := (split (safeQueryString addr) ',').map trim

/-- A word that is taken for the number of the house. -/
def IsNumber (w : Text) : Prop := w ≠ [] ∧ MkrGeoCoder.is_str_digits w

instance (w : Text) : Decidable (IsNumber w) := inferInstanceAs (Decidable (_ ∧ _))

/-- A word that is looked up. -/
def IsWord (w : Text) : Prop :=
  w ≠ [] ∧ ¬MkrGeoCoder.is_str_digits w ∧
    ¬MkrGeoCoder.in_array w MkrGeoCoder.tab_street_type

instance (w : Text) : Decidable (IsWord w) := inferInstanceAs (Decidable (_ ∧ _))

/-- The items of the street part, none if it is a number as a whole. -/
def itemsOf : List Text :=
  match (partsOf addr).head? with
  | none => []
  | some part => if part = [] ∨ MkrGeoCoder.is_str_digits part then [] else split part ' '

/-- The words of the street part that are looked up. -/
def wordsOf : List Text := (itemsOf addr).filter IsWord

/-- The last number in the street part. -/
def numberOf : Text := ((itemsOf addr).filter IsNumber).getLast?.getD []

/-- There is an entity of that name and city, whose type is that of the object as an `int`,
and the one asked for unless that is 0. -/
def GeoDbCls.Has (type : Int) (o : MkrGeoCoderResponseObj) : Prop :=
  ∃ n ∈ db.names.rows, ∃ en ∈ db.entities.rows, en.cols.nameid = n.rowid ∧
    (0 < type → en.cols.type = type) ∧
    o = ⟨n.cols, en.cols.nameid, wrap32 en.cols.type, en.cols.isinid⟩

/-- A word of the address is found in the name. -/
def GeoDbCls.Named (o : MkrGeoCoderResponseObj) : Prop :=
  db.Has 0 o ∧ ∃ w ∈ wordsOf addr, ContainsWord o.name w

/-- The second part is found in the name of the boundary. -/
def GeoDbCls.NamedCity (c : MkrGeoCoderResponseObj) : Prop :=
  db.Has EntityType.adminBoundaries.code c ∧
    ∃ part, (partsOf addr)[1]? = some part ∧ ContainsWord c.name part

/-- The answer to a query without quotes. -/
def GeoDbCls.found (w : Text) (type : Int) : List MkrGeoCoderResponseObj :=
  P.order.arrange (searchSql w type).text (db.joined w type)

/-- What the words are found in. -/
def streetHits : List MkrGeoCoderResponseObj := (wordsOf addr).flatMap fun w => db.found P w 0

/-- What the second part is found in. -/
def cityHits : List MkrGeoCoderResponseObj :=
  ((partsOf addr)[1]?).elim [] fun part => db.found P part EntityType.adminBoundaries.code

/-- The queries for names that a search may send. -/
def searchStatements : List Stmt :=
  (wordsOf addr).map (GeoDbCls.searchSql · 0) ++
    (partsOf addr)[1]?.toList.map (GeoDbCls.searchSql · EntityType.adminBoundaries.code)

/-- Found by a word, or where no word finds anything by the second part. -/
def GeoDbCls.Found (o : MkrGeoCoderResponseObj) : Prop :=
  db.Named addr o ∨ (∀ o', ¬db.Named addr o') ∧ db.NamedCity addr o

/-- What is listed when no city is chosen. -/
def listedHits : List MkrGeoCoderResponseObj :=
  if streetHits P db addr = [] then cityHits P db addr else streetHits P db addr

/-- The city the search is confined to, 0 if it is not: the first one that is found. -/
def chosenCity : Int :=
  if streetHits P db addr = [] then 0
  else (cityHits P db addr).head?.elim 0 MkrGeoCoderResponseObj.nameid

/-- A hit that is listed. -/
def MkrGeoCoderResponseObj.IsPlace (o : MkrGeoCoderResponseObj) : Prop :=
  o.type = EntityType.geoPlacesFuel.code ∨ o.type = EntityType.geoPlaceBoundaries.code

instance (o : MkrGeoCoderResponseObj) : Decidable o.IsPlace := inferInstanceAs (Decidable (_ ∨ _))

/-- The first of the entities an object stands for. -/
def GeoDbCls.first (o : MkrGeoCoderResponseObj) : Option (Row Entity) :=
  (db.entities.select fun r =>
    r.cols.type = o.type ∧ r.cols.isinid = o.isinid ∧ r.cols.nameid = o.nameid).head?

/-- The city of the object has a name, and the geometry can be read. -/
structure GeoDbCls.Sound (o : MkrGeoCoderResponseObj) : Prop where
  city : (db.read_isinStr o.isinid).isSome
  geometry : ∀ en ∈ db.first o, (readGeometry P o.nameid o.isinid o.type en).isSome

/-- The item of a list that is about the object. A fuel station is located where the first
of that name in that city is. -/
structure GeoDbCls.Describes (o : MkrGeoCoderResponseObj) (item : GeoRespItem) : Prop where
  stored : (db.first o).isSome
  object : item.name = o.name ∧ item.nameid = o.nameid ∧ item.type = o.type
  city : ∃ isinStr, db.read_isinStr o.isinid = some isinStr ∧
    item.isinl = some (isinStr, o.isinid)
  fuel : o.type = EntityType.geoPlacesFuel.code → ∃ en ∈ db.first o, ∃ place,
    readGeometry P o.nameid o.isinid o.type en = some (some (.place place)) ∧
    item.lla = [P.e7 place.latp, P.e7 place.lon]
  other : o.type ≠ EntityType.geoPlacesFuel.code → item.lla = []

end Purpose

section Texts

variable {s item : Text} {c d : Char}

theorem mem_trim (h : c ∈ trim s) : c ∈ s := by
  unfold trim at h
  have hfront := (List.dropWhile_suffix _).mem (List.mem_reverse.mp h)
  exact (List.dropWhile_suffix _).mem (List.mem_reverse.mp hfront)

theorem mem_splitFrom {acc : Text} (h : item ∈ splitFrom d acc s) (hc : c ∈ item) :
    c ∈ acc ∨ c ∈ s := by
  induction s generalizing acc with
  | nil =>
    unfold splitFrom at h
    split at h
    · exact absurd h List.not_mem_nil
    · exact .inl (List.mem_singleton.mp h ▸ hc)
  | cons e s ih =>
    unfold splitFrom at h
    split at h
    · rcases List.mem_cons.mp h with rfl | hrest
      · exact .inl hc
      · exact .inr ((ih hrest).elim (fun hnil => absurd hnil List.not_mem_nil)
          (List.mem_cons_of_mem e))
    · rcases ih h with hacc | hs
      · rcases List.mem_append.mp hacc with hacc | hlast
        · exact .inl hacc
        · exact .inr (List.mem_singleton.mp hlast ▸ List.mem_cons_self)
      · exact .inr (List.mem_cons_of_mem e hs)

theorem mem_split (h : item ∈ split s d) (hc : c ∈ item) : c ∈ s :=
  (mem_splitFrom h hc).resolve_left List.not_mem_nil

/-- A character of a part is one of the address in lower case, and no wildcard. -/
theorem mem_part {addr part : Text} (hpart : part ∈ partsOf addr) (hc : c ∈ part) :
    (∃ d ∈ cstr addr, c = d.toLower) ∧ c ≠ '%' ∧ c ≠ '_' := by
  obtain ⟨item, hitem, rfl⟩ := List.mem_map.mp hpart
  have hsafe := mem_trim (mem_split hitem (mem_trim hc))
  obtain ⟨hrest, hunderscore⟩ := List.mem_filter.mp hsafe
  obtain ⟨hlower, hpercent⟩ := List.mem_filter.mp hrest
  obtain ⟨d, hd, rfl⟩ := List.mem_map.mp hlower
  exact ⟨⟨d, hd, rfl⟩, of_decide_eq_true hpercent, of_decide_eq_true hunderscore⟩

/-- What is no small letter is not made one. -/
theorem eq_of_toLower (hd : d.toNat < 97) (h : c.toLower = d) : c = d := by
  unfold Char.toLower at h
  split at h
  · rename_i hupper
    have hsum : (c.val + ('a'.val - 'A'.val)).toNat = d.toNat := congrArg Char.toNat h
    have hdiff : ('a'.val - 'A'.val).toNat = 32 := rfl
    have hlow : 65 ≤ c.val.toNat := UInt32.le_iff_toNat_le.mp hupper.1
    have hhigh : c.val.toNat ≤ 90 := UInt32.le_iff_toNat_le.mp hupper.2
    rw [UInt32.toNat_add] at hsum
    omega
  · exact h

theorem quote_not_mem_part {addr part : Text} (hq : '\'' ∉ cstr addr) (hpart : part ∈ partsOf addr) :
    '\'' ∉ part := by
  intro hmem
  obtain ⟨⟨d, hd, heq⟩, -⟩ := mem_part hpart hmem
  exact hq (eq_of_toLower (by decide) heq.symm ▸ hd)

theorem nul_not_mem_part {addr part : Text} (hpart : part ∈ partsOf addr) : '\x00' ∉ part := by
  intro hmem
  obtain ⟨⟨d, hd, heq⟩, -⟩ := mem_part hpart hmem
  exact no_nul_cstr addr (eq_of_toLower (by decide) heq.symm ▸ hd)

theorem noWildcard_part {addr part : Text} (hpart : part ∈ partsOf addr) : NoWildcard part :=
  fun _ hc => (mem_part hpart hc).2

end Texts

section Queries

variable {P : Platform} {db : GeoDbCls} {w : Text} {type : Int} {o : MkrGeoCoderResponseObj}

theorem searchSql_values (w : Text) (type : Int) :
    (GeoDbCls.searchSql w type).values = [GeoDbCls.containing w] := by
  unfold GeoDbCls.searchSql Stmt.values
  split <;> rfl

theorem searchSql_quoteFree (hq : '\'' ∉ w) : (GeoDbCls.searchSql w type).QuoteFree := by
  intro v hv
  rw [searchSql_values] at hv
  rw [List.mem_singleton.mp hv]
  unfold GeoDbCls.containing
  simpa using hq

/-- A word without wildcards finds the names that contain it. -/
theorem mem_joined (hw : NoWildcard w) :
    o ∈ db.joined w type ↔
      db.Has type o ∧ ContainsWord o.name w := by
  unfold GeoDbCls.joined GeoDbCls.containing
  rw [List.mem_map]
  constructor
  · rintro ⟨row, hrow, rfl⟩
    obtain ⟨n, hn, h⟩ := List.mem_flatMap.mp (List.mem_dedup.mp hrow)
    split at h
    · rename_i hlike
      obtain ⟨en, hen, rfl⟩ := List.mem_map.mp h
      obtain ⟨hentity, hcond⟩ := List.mem_filter.mp hen
      obtain ⟨hid, htype⟩ := of_decide_eq_true hcond
      exact ⟨⟨n, hn, en, hentity, hid, htype, rfl⟩, (like_contains hw).mp hlike⟩
    · exact absurd h List.not_mem_nil
  · rintro ⟨⟨n, hn, en, hen, hid, htype, rfl⟩, hname⟩
    refine ⟨(n.cols, en.cols.nameid, en.cols.isinid, en.cols.type), ?_, rfl⟩
    refine List.mem_dedup.mpr (List.mem_flatMap.mpr ⟨n, hn, ?_⟩)
    rw [if_pos ((like_contains hw).mpr hname)]
    exact List.mem_map.mpr ⟨en, List.mem_filter.mpr ⟨hen, decide_eq_true ⟨hid, htype⟩⟩, rfl⟩

theorem mem_found (hw : NoWildcard w) :
    o ∈ db.found P w type ↔ db.Has type o ∧ ContainsWord o.name w :=
  (P.order.perm _ _).mem_iff.trans (mem_joined hw)

/-- What a query for a text without quotes answers. -/
theorem readNames_eq (hq : '\'' ∉ w) : db.readNames P w type = some (db.found P w type) :=
  if_pos (searchSql_quoteFree hq)

end Queries

section Reading

open MkrGeoCoder

variable {P : Platform} {db : GeoDbCls} {addr : Text}

/-- The loop over the words: the last number counts, and the objects add up. -/
theorem readWords_eq {v : List Text} (hq : ∀ w ∈ v, '\'' ∉ w) (houseNumber : Text)
    (objs : List MkrGeoCoderResponseObj) :
    v.foldlM (readWord P db) ⟨houseNumber, objs, objs.length⟩ =
      some ⟨(v.filter IsNumber).getLast?.getD houseNumber,
        objs ++ (v.filter IsWord).flatMap fun w => db.found P w 0,
        (objs ++ (v.filter IsWord).flatMap fun w => db.found P w 0).length⟩ := by
  induction v generalizing houseNumber objs with
  | nil => simp
  | cons w v ih =>
    obtain ⟨hw, hv⟩ := List.forall_mem_cons.mp hq
    rw [List.foldlM_cons]
    unfold readWord
    by_cases hempty : w = []
    · have hnumber : ¬IsNumber w := fun h => h.1 hempty
      have hword : ¬IsWord w := fun h => h.1 hempty
      rw [if_pos hempty, List.filter_cons_of_neg (by simpa using hnumber),
        List.filter_cons_of_neg (by simpa using hword)]
      exact ih hv houseNumber objs
    · rw [if_neg hempty]
      by_cases hdigits : is_str_digits w
      · have hnumber : IsNumber w := ⟨hempty, hdigits⟩
        have hword : ¬IsWord w := fun h => h.2.1 hdigits
        rw [if_pos hdigits, List.filter_cons_of_pos (by simpa using hnumber),
          List.filter_cons_of_neg (by simpa using hword), List.getLast?_cons]
        exact ih hv w objs
      · have hnumber : ¬IsNumber w := fun h => hdigits h.2
        rw [if_neg hdigits, List.filter_cons_of_neg (by simpa using hnumber)]
        by_cases htype : in_array w tab_street_type
        · have hword : ¬IsWord w := fun h => h.2.2 htype
          rw [if_pos htype, List.filter_cons_of_neg (by simpa using hword)]
          exact ih hv houseNumber objs
        · have hword : IsWord w := ⟨hempty, hdigits, htype⟩
          rw [if_neg htype, readNames_eq hw, List.filter_cons_of_pos (by simpa using hword),
            List.flatMap_cons, ← List.append_assoc]
          exact ih hv houseNumber (objs ++ db.found P w 0)

/-- Parts behind the second are not read. -/
theorem readTokens_rest {tokens : List MkrToken} (h : ∀ tok ∈ tokens, tok.type = .placeNone)
    (a : Answers) : tokens.foldlM (readToken P db) a = some a := by
  induction tokens with
  | nil => rfl
  | cons tok tokens ih =>
    obtain ⟨hfirst, hrest⟩ := List.forall_mem_cons.mp h
    have hread : readToken P db a tok = some a := by
      unfold readToken
      rw [hfirst]
    rw [List.foldlM_cons, hread]
    exact ih hrest

/-- A result that is kept if it found something. -/
def kept (sts : EntityType) (objs : List MkrGeoCoderResponseObj) :
    List MkrGeoCoderResponseResult :=
  if objs = [] then [] else [⟨sts, objs⟩]

theorem push_eq (a : Answers) (sts : EntityType) (objs : List MkrGeoCoderResponseObj) :
    a.push sts objs objs.length = ⟨a.houseNumber, a.temp_responses ++ kept sts objs⟩ := by
  unfold Answers.push kept
  by_cases hnone : objs = []
  · subst hnone
    simp
  · rw [if_pos (List.length_pos_iff.mpr hnone), if_neg hnone]

theorem readCity_eq {part : Text} (hq : '\'' ∉ part) (a : Answers) :
    readToken P db a ⟨part, .city⟩ = some ⟨a.houseNumber,
      a.temp_responses ++ kept .adminBoundaries
        (db.found P part EntityType.adminBoundaries.code)⟩ := by
  unfold readToken
  dsimp only
  rw [readNames_eq hq, Option.map_some, push_eq]

theorem readStreet_eq {part : Text} (hq : '\'' ∉ part) (h : (partsOf addr).head? = some part) :
    readToken P db ⟨[], []⟩ ⟨part, .streetHouseNumber⟩ =
      some ⟨numberOf addr, kept .streetHouseNumber (streetHits P db addr)⟩ := by
  unfold readToken streetHits numberOf wordsOf itemsOf
  rw [h]
  dsimp only
  by_cases hnone : part = [] ∨ is_str_digits part
  · rw [if_pos hnone, if_pos hnone]
    rfl
  · rw [if_neg hnone, if_neg hnone]
    have hitems : ∀ w ∈ split part ' ', '\'' ∉ w := fun w hw hmem => hq (mem_split hw hmem)
    have hread := @readWords_eq P db _ hitems [] []
    rw [List.nil_append] at hread
    rw [List.length_nil] at hread
    rw [hread, Option.map_some, push_eq]
    rfl

/-- What the tokens of an address without quotes are read to. -/
theorem readTokens_eq (hq : '\'' ∉ cstr addr) :
    (tokensOf addr).foldlM (readToken P db) ⟨[], []⟩ =
      some ⟨numberOf addr, kept .streetHouseNumber (streetHits P db addr) ++
        kept .adminBoundaries (cityHits P db addr)⟩ := by
  have hparts : partsOf addr = (split (safeQueryString addr) ',').map trim := rfl
  have hfree : ∀ part ∈ partsOf addr, '\'' ∉ part := fun _ => quote_not_mem_part hq
  unfold tokensOf cityHits
  cases hsplit : split (safeQueryString addr) ',' with
  | nil =>
    rw [hsplit] at hparts
    have hitems : itemsOf addr = [] := by
      unfold itemsOf
      rw [hparts]
      rfl
    unfold streetHits numberOf wordsOf
    rw [hitems, hparts]
    rfl
  | cons item items =>
    rw [hsplit, List.map_cons] at hparts
    rw [hparts] at hfree
    obtain ⟨hitem, hitems⟩ := List.forall_mem_cons.mp hfree
    have hstreet := @readStreet_eq P db addr _ hitem (by rw [hparts]; rfl)
    rw [List.mapIdx_cons, List.foldlM_cons]
    have hfirst : tokenType 0 = .streetHouseNumber := rfl
    rw [hfirst, hstreet, hparts]
    simp only [Option.bind_eq_bind, Option.bind_some]
    cases items with
    | nil =>
      exact congrArg (fun temp => some (Answers.mk (numberOf addr) temp)) (List.append_nil _).symm
    | cons second items =>
      obtain ⟨hsecond, -⟩ := List.forall_mem_cons.mp hitems
      have hcity : tokenType (0 + 1) = .city := rfl
      rw [List.mapIdx_cons, List.foldlM_cons, hcity, readCity_eq hsecond]
      refine readTokens_rest (fun tok htok => ?_) _
      obtain ⟨i, hi, rfl⟩ := List.mem_mapIdx.mp htok
      rfl

end Reading

section Listing

open MkrGeoCoder

variable {α β : Type} {f : α → Option β} {l : List α} {P : Platform} {db : GeoDbCls}
  {addr : Text} {o : MkrGeoCoderResponseObj}

theorem mapM_eq_none_iff : l.mapM f = none ↔ ∃ a ∈ l, f a = none := by
  induction l with
  | nil => simp
  | cons a l ih =>
    rw [List.mapM_cons]
    cases hf : f a with
    | none => exact iff_of_true rfl ⟨a, List.mem_cons_self, hf⟩
    | some b =>
      have hbind : (do let b ← some b; let bs ← l.mapM f; pure (b :: bs)) = none ↔
          l.mapM f = none := by
        cases l.mapM f <;> simp
      rw [hbind, ih]
      simp [hf]

theorem mem_of_mapM {bs : List β} (h : l.mapM f = some bs) {b : β} :
    b ∈ bs ↔ ∃ a ∈ l, f a = some b := by
  induction l generalizing bs with
  | nil =>
    cases h
    simp
  | cons a l ih =>
    rw [List.mapM_cons] at h
    obtain ⟨first, hfirst, hrest⟩ := Option.bind_eq_some_iff.mp h
    obtain ⟨rest, htail, hcons⟩ := Option.bind_eq_some_iff.mp hrest
    cases hcons
    rw [List.mem_cons, ih htail]
    simp [hfirst, eq_comm]

/-- What the search does with what it has found. -/
theorem geocoder_eq (hq : '\'' ∉ cstr addr) (resultStr : Reply) :
    CartofUi_BaseMapView_Geocoder P db addr resultStr =
      if chosenCity P db addr ≠ 0 then
        locate P db (cstr addr) (numberOf addr) (chosenCity P db addr) (streetHits P db addr)
          resultStr
      else if listedHits P db addr = [] then some (false, resultStr)
      else ((listedHits P db addr).mapM (listObj P db)).map fun items =>
        (true, some ⟨1, cstr addr, items.flatten⟩) := by
  unfold CartofUi_BaseMapView_Geocoder processGeocoderRequest
  rw [readTokens_eq hq]
  simp only [Option.bind_eq_bind, Option.bind_some]
  unfold chosenCity listedHits kept
  by_cases hstreet : streetHits P db addr = []
  · by_cases hcity : cityHits P db addr = []
    · simp [hstreet, hcity]
    · simp [hstreet, hcity, cityOf]
  · by_cases hcity : cityHits P db addr = []
    · simp [hstreet, hcity, cityOf]
    · simp [hstreet, hcity, cityOf]

theorem rowsOf_first (db : GeoDbCls) (o : MkrGeoCoderResponseObj) :
    db.rowsOf o.nameid o.isinid o.type 1 = (db.first o).toList := by
  unfold GeoDbCls.rowsOf
  rw [if_pos Nat.one_ne_zero, List.take_one]
  rfl

/-- With the limit of one row the first geometry is read. -/
theorem readGeometryInfo_first {en : Row Entity} (h : db.first o = some en) :
    db.readGeometryInfo P o.nameid o.isinid o.type 1 =
      (GeoDbCls.readGeometry P o.nameid o.isinid o.type en).map Option.toList := by
  unfold GeoDbCls.readGeometryInfo
  rw [rowsOf_first, h, Option.toList_some]
  cases hread : GeoDbCls.readGeometry P o.nameid o.isinid o.type en with
  | none => simp [hread]
  | some g => cases g <;> simp [hread, List.reduceOption]

theorem readGeometry_fuel {nameid isinid type : Int} {r : Row Entity} {g : Option GeometryInfo}
    (htype : type = EntityType.geoPlacesFuel.code)
    (h : GeoDbCls.readGeometry P nameid isinid type r = some g) :
    ∃ place, g = some (.place place) := by
  subst htype
  obtain ⟨p, -, hp⟩ := Option.map_eq_some_iff.mp h
  exact ⟨p, hp.symm⟩

theorem readGeometry_placeBoundary {nameid isinid type : Int} {r : Row Entity}
    {g : Option GeometryInfo} (htype : type = EntityType.geoPlaceBoundaries.code)
    (h : GeoDbCls.readGeometry P nameid isinid type r = some g) :
    ∃ boundary, g = some (.boundary boundary) := by
  subst htype
  obtain ⟨p, -, hp⟩ := Option.map_eq_some_iff.mp h
  exact ⟨p, hp.symm⟩

/-- The item of a place, where its geometry is read. -/
theorem describes_iff {en : Row Entity} {isinStr : Text} {g : Option GeometryInfo}
    {item : GeoRespItem} (hplace : o.IsPlace) (hen : db.first o = some en)
    (hcity : db.read_isinStr o.isinid = some isinStr)
    (hread : GeoDbCls.readGeometry P o.nameid o.isinid o.type en = some g) :
    db.Describes P o item ↔ ∃ gg ∈ g, item = addResponsePlaceItem P gg o isinStr := by
  have hstored : (db.first o).isSome := by rw [hen, Option.isSome_some]
  rcases hplace with hfuel | hboundary
  · obtain ⟨place, rfl⟩ := readGeometry_fuel hfuel hread
    constructor
    · intro h
      obtain ⟨hname, hnameid, htype⟩ := h.object
      obtain ⟨isinStr', hcity', hisinl⟩ := h.city
      obtain ⟨en', hen', place', hread', hlla⟩ := h.fuel hfuel
      cases hcity.symm.trans hcity'
      cases hen.symm.trans hen'
      cases hread.symm.trans hread'
      exact ⟨_, rfl, GeoRespItem.ext hname hnameid htype hisinl (hlla.trans (if_pos hfuel).symm)⟩
    · rintro ⟨gg, hgg, rfl⟩
      cases hgg
      exact ⟨hstored, ⟨rfl, rfl, rfl⟩, ⟨isinStr, hcity, rfl⟩,
        fun _ => ⟨en, hen, place, hread, if_pos hfuel⟩, fun hother => absurd hfuel hother⟩
  · obtain ⟨boundary, rfl⟩ := readGeometry_placeBoundary hboundary hread
    have hother : o.type ≠ EntityType.geoPlacesFuel.code := by
      rw [hboundary]
      decide
    constructor
    · intro h
      obtain ⟨hname, hnameid, htype⟩ := h.object
      obtain ⟨isinStr', hcity', hisinl⟩ := h.city
      cases hcity.symm.trans hcity'
      exact ⟨_, rfl, GeoRespItem.ext hname hnameid htype hisinl
        ((h.other hother).trans (if_neg hother).symm)⟩
    · rintro ⟨gg, hgg, rfl⟩
      exact ⟨hstored, ⟨rfl, rfl, rfl⟩, ⟨isinStr, hcity, rfl⟩, fun hfuel => absurd hfuel hother,
        fun _ => if_neg hother⟩

/-- What an object adds to the list, or that it ends the search with an exception. -/
theorem listObj_spec (P : Platform) (db : GeoDbCls) (o : MkrGeoCoderResponseObj) :
    (listObj P db o = none ↔ ¬db.Sound P o) ∧
      ∀ items, listObj P db o = some items → ∀ item,
        item ∈ items ↔ o.IsPlace ∧ db.Describes P o item := by
  have hlist : listObj P db o = (db.read_isinStr o.isinid).bind fun isinStr =>
      (db.readGeometryInfo P o.nameid o.isinid o.type 1).bind fun geomInfos =>
        some (if o.IsPlace then
          geomInfos.map fun gg => addResponsePlaceItem P gg o isinStr else []) := rfl
  rw [hlist]
  cases hcity : db.read_isinStr o.isinid with
  | none =>
    refine ⟨iff_of_true rfl fun hsound => ?_, nofun⟩
    have hsome := hsound.city
    rw [hcity] at hsome
    cases hsome
  | some isinStr =>
    have hcity' : (db.read_isinStr o.isinid).isSome := by rw [hcity, Option.isSome_some]
    cases hen : db.first o with
    | none =>
      -- nothing of the type as it was cut is stored
      have hnothing : db.readGeometryInfo P o.nameid o.isinid o.type 1 = some [] := by
        unfold GeoDbCls.readGeometryInfo
        rw [rowsOf_first, hen]
        rfl
      have hsound : db.Sound P o := ⟨hcity', by rw [hen]; exact nofun⟩
      rw [hnothing]
      refine ⟨iff_of_false (Option.some_ne_none _) (not_not_intro hsound), fun items hitems => ?_⟩
      cases hitems
      intro item
      rw [List.map_nil, ite_self]
      refine iff_of_false List.not_mem_nil fun hboth => ?_
      have hstored := hboth.2.stored
      rw [hen] at hstored
      cases hstored
    | some en =>
      rw [readGeometryInfo_first hen]
      cases hread : GeoDbCls.readGeometry P o.nameid o.isinid o.type en with
      | none =>
        refine ⟨iff_of_true rfl fun hsound => ?_, nofun⟩
        have hsome := hsound.geometry en hen
        rw [hread] at hsome
        cases hsome
      | some g =>
        have hsound : db.Sound P o := by
          refine ⟨hcity', fun en' hen' => ?_⟩
          cases hen.symm.trans hen'
          rw [hread, Option.isSome_some]
        refine ⟨iff_of_false (Option.some_ne_none _) (not_not_intro hsound),
          fun items hitems => ?_⟩
        cases hitems
        intro item
        by_cases hplace : o.IsPlace
        · rw [if_pos hplace, describes_iff hplace hen hcity hread]
          cases g <;> simp [hplace]
        · rw [if_neg hplace]
          exact iff_of_false List.not_mem_nil fun hboth => hplace hboth.1

/-- A word is cut out of a part. -/
theorem exists_part_of_word {w : Text} (h : w ∈ wordsOf addr) :
    ∃ part ∈ partsOf addr, ∀ c ∈ w, c ∈ part := by
  have hitem := (List.mem_filter.mp h).1
  unfold itemsOf at hitem
  cases hpart : (partsOf addr).head? with
  | none =>
    rw [hpart] at hitem
    exact absurd hitem List.not_mem_nil
  | some part =>
    rw [hpart] at hitem
    dsimp only at hitem
    split at hitem
    · exact absurd hitem List.not_mem_nil
    · exact ⟨part, List.mem_of_head? hpart, fun c hc => mem_split hitem hc⟩

theorem noWildcard_word {w : Text} (h : w ∈ wordsOf addr) : NoWildcard w := by
  obtain ⟨part, hpart, hsub⟩ := exists_part_of_word h
  exact fun c hc => noWildcard_part hpart c (hsub c hc)

theorem mem_streetHits : o ∈ streetHits P db addr ↔ db.Named addr o := by
  unfold streetHits
  rw [List.mem_flatMap]
  constructor
  · rintro ⟨w, hw, ho⟩
    obtain ⟨hhas, hname⟩ := (mem_found (noWildcard_word hw)).mp ho
    exact ⟨hhas, w, hw, hname⟩
  · rintro ⟨hhas, w, hw, hname⟩
    exact ⟨w, hw, (mem_found (noWildcard_word hw)).mpr ⟨hhas, hname⟩⟩

theorem mem_cityHits : o ∈ cityHits P db addr ↔ db.NamedCity addr o := by
  unfold cityHits GeoDbCls.NamedCity
  cases hpart : (partsOf addr)[1]? with
  | none => exact iff_of_false List.not_mem_nil (by rintro ⟨-, part, hnone, -⟩; cases hnone)
  | some part =>
    have hplain := noWildcard_part (List.mem_of_getElem? hpart)
    refine (mem_found hplain).trans (and_congr_right' ⟨fun hname => ⟨part, rfl, hname⟩, ?_⟩)
    rintro ⟨part', hpart', hname⟩
    cases hpart'
    exact hname

theorem streetHits_eq_nil_iff : streetHits P db addr = [] ↔ ∀ o, ¬db.Named addr o := by
  rw [List.eq_nil_iff_forall_not_mem]
  exact forall_congr' fun o => not_congr mem_streetHits

theorem mem_listedHits : o ∈ listedHits P db addr ↔ db.Found addr o := by
  unfold listedHits GeoDbCls.Found
  by_cases hnone : streetHits P db addr = []
  · rw [if_pos hnone, mem_cityHits]
    have hnot := streetHits_eq_nil_iff.mp hnone
    exact ⟨fun hcity => .inr ⟨hnot, hcity⟩, fun h => (h.resolve_left (hnot o)).2⟩
  · rw [if_neg hnone, mem_streetHits]
    refine ⟨.inl, fun h => h.resolve_right fun hboth => ?_⟩
    exact hnone (streetHits_eq_nil_iff.mpr hboth.1)

/-- Boundaries are not listed. -/
theorem GeoDbCls.Found.named (h : db.Found addr o) (hplace : o.IsPlace) : db.Named addr o := by
  refine h.resolve_right fun hboth => ?_
  obtain ⟨-, ⟨n, -, en, -, -, hboundary, rfl⟩, -⟩ := hboth
  have htype : en.cols.type = EntityType.adminBoundaries.code := hboundary (by decide)
  have hnot : ¬(wrap32 EntityType.adminBoundaries.code = EntityType.geoPlacesFuel.code ∨
      wrap32 EntityType.adminBoundaries.code = EntityType.geoPlaceBoundaries.code) := by decide
  unfold MkrGeoCoderResponseObj.IsPlace at hplace
  rw [htype] at hplace
  exact hnot hplace

end Listing

section Results

/-- A search that is not confined to a city lists the places a word is found in, each with
its city, whatever the order of the rows: all of them and nothing else. It throws exactly if
the city of something found has no name, or its geometry cannot be read. -/
theorem geocoder_lists (P : Platform) (db : GeoDbCls) (addr : Text) (resultStr : Reply)
    (hq : '\'' ∉ cstr addr) (hcity : chosenCity P db addr = 0) :
    (CartofUi_BaseMapView_Geocoder P db addr resultStr = none ↔
      ∃ o, db.Found addr o ∧ ¬db.Sound P o) ∧
    ∀ r, CartofUi_BaseMapView_Geocoder P db addr resultStr = some r →
      ((∀ o, ¬db.Found addr o) ∧ r = (false, resultStr)) ∨
      (∃ o, db.Found addr o) ∧ ∃ items, r = (true, some ⟨1, cstr addr, items⟩) ∧
        ∀ item, item ∈ items ↔
          ∃ o, db.Named addr o ∧ o.IsPlace ∧ db.Describes P o item := by
  rw [geocoder_eq hq, if_neg (not_not_intro hcity)]
  by_cases hnone : listedHits P db addr = []
  · rw [if_pos hnone]
    have hfound : ∀ o, ¬db.Found addr o := fun o ho =>
      List.ne_nil_of_mem (mem_listedHits.mpr ho) hnone
    refine ⟨iff_of_false (Option.some_ne_none _) ?_, fun r hr => .inl ⟨hfound, ?_⟩⟩
    · rintro ⟨o, ho, -⟩
      exact hfound o ho
    · exact (Option.some.inj hr).symm
  · rw [if_neg hnone]
    refine ⟨?_, fun r hr => .inr ⟨?_, ?_⟩⟩
    · rw [Option.map_eq_none_iff, mapM_eq_none_iff]
      exact exists_congr fun o => ⟨fun ⟨ho, hthrows⟩ =>
          ⟨mem_listedHits.mp ho, (listObj_spec P db o).1.mp hthrows⟩,
        fun ⟨ho, hsound⟩ => ⟨mem_listedHits.mpr ho, (listObj_spec P db o).1.mpr hsound⟩⟩
    · obtain ⟨o, ho⟩ := List.exists_mem_of_ne_nil _ hnone
      exact ⟨o, mem_listedHits.mp ho⟩
    · obtain ⟨lists, hlists, rfl⟩ := Option.map_eq_some_iff.mp hr
      refine ⟨lists.flatten, rfl, fun item => ?_⟩
      rw [List.mem_flatten]
      constructor
      · rintro ⟨items, hitems, hitem⟩
        obtain ⟨o, ho, hlist⟩ := (mem_of_mapM hlists).mp hitems
        obtain ⟨hplace, hdescribes⟩ := ((listObj_spec P db o).2 items hlist item).mp hitem
        exact ⟨o, (mem_listedHits.mp ho).named hplace, hplace, hdescribes⟩
      · rintro ⟨o, hnamed, hplace, hdescribes⟩
        have ho : o ∈ listedHits P db addr := mem_listedHits.mpr (.inl hnamed)
        cases hlist : MkrGeoCoder.listObj P db o with
        | none =>
          rw [mapM_eq_none_iff.mpr ⟨o, ho, hlist⟩] at hlists
          cases hlists
        | some items =>
          exact ⟨items, (mem_of_mapM hlists).mpr ⟨o, ho, hlist⟩,
            ((listObj_spec P db o).2 items hlist item).mpr ⟨hplace, hdescribes⟩⟩

/-- Rows in the order they are joined in, and exact numbers. -/
def plainPlatform : Platform where
  wild _ _ := 0
  outside _ := 0
  keep x := x
  order := ⟨fun _ objs => objs, fun _ objs => .refl objs⟩
  altered _ := none
  e7 x := ⌊x * 10000000⌋
  entities := .insertion _
  buildings := .insertion _

/-- A city, and a fuel station in it at 1° N, 1° W. -/
def oneStation : GeoDbCls where
  names := ⟨[⟨1, "Vaughan"⟩, ⟨2, "Esso Keele"⟩], by decide, by decide⟩
  entities := ⟨[⟨1, ⟨2, 1, 0, 14, 36, [0x80, 0x89, 0x7A, 0xFF, 0x88, 0x7A]⟩⟩], by decide,
    by decide⟩

theorem geocoder_lists_station :
    (CartofUi_BaseMapView_Geocoder plainPlatform oneStation "7 Keele St" none = none ↔
      ∃ o, oneStation.Found "7 Keele St" o ∧ ¬oneStation.Sound plainPlatform o) ∧
    ∀ r, CartofUi_BaseMapView_Geocoder plainPlatform oneStation "7 Keele St" none = some r →
      ((∀ o, ¬oneStation.Found "7 Keele St" o) ∧ r = (false, none)) ∨
      (∃ o, oneStation.Found "7 Keele St" o) ∧
        ∃ items, r = (true, some ⟨1, cstr "7 Keele St", items⟩) ∧ ∀ item, item ∈ items ↔
          ∃ o, oneStation.Named "7 Keele St" o ∧ o.IsPlace ∧
            oneStation.Describes plainPlatform o item :=
  geocoder_lists plainPlatform oneStation "7 Keele St" none (by decide) (by decide +kernel)

example : CartofUi_BaseMapView_Geocoder plainPlatform oneStation "7 Keele St" none =
    some (true, some ⟨1, "7 Keele St",
      [⟨"Esso Keele", 2, 36, some ("Vaughan", 1), [10000000, -10000000]⟩]⟩) := by
  decide +kernel

end Results

section Literals

variable {addr w : Text}

theorem searchSql_spliced (w : Text) (type : Int) :
    Stmt.Spliced .outside (GeoDbCls.searchSql w type) := by
  unfold GeoDbCls.searchSql
  apply Stmt.Spliced.sql
  rw [Place.read_string rfl]
  refine Stmt.Spliced.text_value rfl rfl (.sql ?_)
  rw [Place.read_string rfl]
  split
  · exact Stmt.Spliced.text_number rfl rfl (.nil (.inl rfl))
  · exact .nil (.inl rfl)

theorem containing_clean : Stmt.Clean (GeoDbCls.containing w) ↔ Stmt.Clean w := by
  unfold Stmt.Clean GeoDbCls.containing
  simp

/-- A query is read as it is meant exactly if the text in it is clean. -/
theorem searchSql_lexes {type : Int} (hnul : '\x00' ∉ w) :
    (GeoDbCls.searchSql w type).LexesAs (GeoDbCls.searchSql w type) ↔ '\'' ∉ w := by
  have hshown : List.Forall₂ Stmt.Shown [GeoDbCls.containing w]
      (GeoDbCls.searchSql w type).values := by
    rw [searchSql_values]
    refine .cons ⟨?_, fun _ => rfl⟩ .nil
    unfold GeoDbCls.containing
    simpa using hnul
  have hfill : (GeoDbCls.searchSql w type).fill [GeoDbCls.containing w] =
      GeoDbCls.searchSql w type := by
    unfold GeoDbCls.searchSql
    split <;> rfl
  have hlexes := Stmt.lexesAs_iff (searchSql_spliced w type) hshown
  rw [hfill, List.forall_mem_singleton, containing_clean] at hlexes
  exact hlexes.trans (and_iff_left hnul)

/-- Every query of a search is read as it is meant, with what is looked for as its only
literal, exactly if no quote is looked for. -/
theorem geocoder_literals (addr : Text) :
    (∀ st ∈ searchStatements addr, st.LexesAs st) ↔
      (∀ w ∈ wordsOf addr, '\'' ∉ w) ∧ ∀ part, (partsOf addr)[1]? = some part → '\'' ∉ part := by
  have hwords (w : Text) (hw : w ∈ wordsOf addr) : '\x00' ∉ w := by
    obtain ⟨part, hpart, hsub⟩ := exists_part_of_word hw
    exact fun hmem => nul_not_mem_part hpart (hsub _ hmem)
  have hpart (part : Text) (h : (partsOf addr)[1]? = some part) : '\x00' ∉ part :=
    nul_not_mem_part (List.mem_of_getElem? h)
  unfold searchStatements
  rw [List.forall_mem_append, List.forall_mem_map, List.forall_mem_map]
  refine and_congr (forall₂_congr fun w hw => searchSql_lexes (hwords w hw)) ?_
  refine forall_congr' fun part => ?_
  rw [Option.mem_toList]
  exact forall_congr' fun h => searchSql_lexes (hpart part h)

end Literals

end UCLinux.Geocoder
