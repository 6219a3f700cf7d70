import Mathlib.Data.Int.Range
import Mathlib.Data.Rat.Floor
import Mathlib.Tactic.Linarith
import Mathlib.Tactic.Positivity
import UCLinux.Machine.SignedProducts
import UCLinux.Sql.AutoTable

/-!
The tiles a reverse lookup asks for. Around the query point lies a window between
two corners; at every level the tiles from one corner to the other are asked for by
a number that is made of the column and the row. Numbers are exact, those of any
ordered field; the projection of the latitude and the cosine are parameters.
-/

namespace UCLinux.Geocoder

open Machine Sql

section Program

variable {F : Type} [Field F] [LinearOrder F] [FloorRing F]

def lon2tilexf (lon : F) (z : Nat) : F := (lon + 180) * (1 / 360) * 2 ^ z

def latp2tileyf (latp : F) (z : Nat) : F := (180 - latp) * (1 / 360) * 2 ^ z

/-- A `double` as a `uint`. The conversion is defined from 0 to below 2^32. -/
def toUint (x : F) : BitVec 32 := BitVec.ofInt 32 ⌊x⌋

def lon2tilex (lon : F) (z : Nat) : BitVec 32 := toUint (lon2tilexf lon z)

def latp2tiley (latp : F) (z : Nat) : BitVec 32 := toUint (latp2tileyf latp z)

def calcTileQuadIndex (_zoom : Nat) (xt yt : BitVec 32) : BitVec 32 := xt <<< 16 + yt

def rad2LonDeg (radius : F) : F := radius / 111320

/-- `cosLat` is what `cos(lat)` returns; `lat` is in degrees. -/
def rad2latDeg (radius cosLat : F) : F := radius / (40075 * 1000 * cosLat / 360)

variable (lat2latp : F → F)

def lat2tiley (lat : F) (z : Nat) : BitVec 32 := latp2tiley (lat2latp lat) z

/-- The level, the column and the row. -/
def calcPointTile (lng lat : F) (zoom : Nat) : Nat × Int × Int :=
  (zoom, (lon2tilex lng zoom).toInt, (lat2tiley lat2latp lat zoom).toInt)

/-- The two loops between the corners. -/
def windowIndices (level : Nat) (tile0 tile1 : Nat × Int × Int) : List (BitVec 32) :=
  (Int.range tile0.2.2 (tile1.2.2 + 1)).flatMap fun yt =>
    (Int.range tile0.2.1 (tile1.2.1 + 1)).map fun xt =>
      calcTileQuadIndex level (BitVec.ofInt 32 xt) (BitVec.ofInt 32 yt)

/-- `quadIndices` of `rev_geo_address_look_up` at one level. -/
def quadIndices (cosLat lng lat radius : F) (level : Nat) : List (BitVec 32) :=
  windowIndices level
    (calcPointTile lat2latp (lng - rad2LonDeg radius) (lat + rad2latDeg radius cosLat) level)
    (calcPointTile lat2latp (lng + rad2LonDeg radius) (lat - rad2latDeg radius cosLat) level)

/-- A row of `entities`. -/
structure Entity where
  nameid : Int
  isinid : Int
  tileid : Int
  zoom : Int
  type : Int
  geometry : List (BitVec 8)
  deriving DecidableEq, Repr

abbrev EntityTable := Table (unkeyed (α := Entity))

/-- `SELECT rowid,nameid,isinid,type,zoom,geometry FROM entities WHERE tileid in (…)`:
the rows whose geometry is read. -/
def EntityTable.readGeometryInfo (db : EntityTable) (quadIndices : List (BitVec 32)) :
    List (Row Entity) :=
  db.select fun r => quadIndices.any fun q => r.cols.tileid = q.toNat

end Program

section Purpose

/-- A tile of the map. -/
structure MapTile where
  level : Nat
  x : BitVec 32
  y : BitVec 32
  level_le : level ≤ 14
  onMap : x.toNat < 2 ^ level ∧ y.toNat < 2 ^ level

/-- The entity is stored under the tile. -/
def Entity.StoredUnder (e : Entity) (t : MapTile) : Prop :=
  e.zoom = t.level ∧ e.tileid = (calcTileQuadIndex t.level t.x t.y).toNat

variable {F : Type} [Field F] [LinearOrder F] [FloorRing F] (lat2latp : F → F)

/-- The point is on the map, where its tile has a number. -/
structure OnMap (lng lat : F) : Prop where
  lng_ge : -180 ≤ lng
  lng_lt : lng < 180
  latp_gt : -180 < lat2latp lat
  latp_le : lat2latp lat ≤ 180

/-- The corners of the window are on the map. -/
structure AwayFromBorder (cosLat lng lat radius : F) : Prop where
  northWest : OnMap lat2latp (lng - rad2LonDeg radius) (lat + rad2latDeg radius |cosLat|)
  southEast : OnMap lat2latp (lng + rad2LonDeg radius) (lat - rad2latDeg radius |cosLat|)

/-- In the window the rows are numbered from the north. -/
def RowsDescend (cosLat lat radius : F) (level : Nat) : Prop :=
  ∀ lat₁ lat₂ : F, lat - rad2latDeg radius |cosLat| ≤ lat₁ → lat₁ ≤ lat₂ →
    lat₂ ≤ lat + rad2latDeg radius |cosLat| →
    (lat2tiley lat2latp lat₂ level).toNat ≤ (lat2tiley lat2latp lat₁ level).toNat

/-- The query of a level covers the point, and asks for that level only. -/
structure QueryRight (cosLat lng lat radius : F) (level : Nat) (db : EntityTable) : Prop where
  covers : calcTileQuadIndex level (lon2tilex lng level) (lat2tiley lat2latp lat level) ∈
    quadIndices lat2latp cosLat lng lat radius level
  own : ∀ r ∈ db.readGeometryInfo (quadIndices lat2latp cosLat lng lat radius level),
    ∀ t : MapTile, r.cols.StoredUnder t → t.level = level

/-- One row of tiles holds the southern and the northern edge of the window. -/
def OneRow (cosLat lat radius : F) (level : Nat) : Prop :=
  lat2tiley lat2latp (lat + rad2latDeg radius |cosLat|) level =
    lat2tiley lat2latp (lat - rad2latDeg radius |cosLat|) level

/-- The tile has its column and its row, counted at its own level, between those of
the corners at the level asked for. -/
structure InWindow (cosLat lng lat radius : F) (level : Nat) (t : MapTile) : Prop where
  west : (lon2tilex (lng - rad2LonDeg radius) level).toNat ≤ t.x.toNat
  east : t.x.toNat ≤ (lon2tilex (lng + rad2LonDeg radius) level).toNat
  north : (lat2tiley lat2latp (lat + rad2latDeg radius |cosLat|) level).toNat ≤ t.y.toNat
  south : t.y.toNat ≤ (lat2tiley lat2latp (lat - rad2latDeg radius |cosLat|) level).toNat

end Purpose

section Keys

variable {x y x' y' : BitVec 32} {level : Nat}

theorem toNat_calcTileQuadIndex (hx : x.toNat < 2 ^ 16) (hy : y.toNat < 2 ^ 16) :
    (calcTileQuadIndex level x y).toNat = x.toNat * 2 ^ 16 + y.toNat := by
  unfold calcTileQuadIndex
  rw [BitVec.toNat_add, BitVec.toNat_shiftLeft, Nat.shiftLeft_eq]
  omega

theorem calcTileQuadIndex_inj {level' : Nat} (hx : x.toNat < 2 ^ 16) (hy : y.toNat < 2 ^ 16)
    (hx' : x'.toNat < 2 ^ 16) (hy' : y'.toNat < 2 ^ 16) :
    calcTileQuadIndex level x y = calcTileQuadIndex level' x' y' ↔ x = x' ∧ y = y' := by
  rw [← BitVec.toNat_inj, ← BitVec.toNat_inj, ← BitVec.toNat_inj, toNat_calcTileQuadIndex hx hy,
    toNat_calcTileQuadIndex hx' hy']
  omega

theorem toInt_of_small (hx : x.toNat < 2 ^ 16) : x.toInt = x.toNat :=
  BitVec.toInt_eq_toNat_of_lt (by omega)

theorem toNat_ofInt_of_small {n : Nat} (hn : n < 2 ^ 16) :
    (BitVec.ofInt 32 (n : Int)).toNat = n := by
  rw [BitVec.ofInt_natCast, BitVec.toNat_ofNat]
  omega

/-- The numbers asked for are those of the tiles between the corners. -/
theorem mem_windowIndices {x₀ y₀ x₁ y₁ : BitVec 32} {level' zoom : Nat}
    (hx : x.toNat < 2 ^ 16) (hy : y.toNat < 2 ^ 16) (hx₀ : x₀.toNat < 2 ^ 16)
    (hy₀ : y₀.toNat < 2 ^ 16) (hx₁ : x₁.toNat < 2 ^ 16) (hy₁ : y₁.toNat < 2 ^ 16) :
    calcTileQuadIndex zoom x y ∈
        windowIndices level (level', x₀.toInt, y₀.toInt) (level', x₁.toInt, y₁.toInt) ↔
      (x₀.toNat ≤ x.toNat ∧ x.toNat ≤ x₁.toNat) ∧ y₀.toNat ≤ y.toNat ∧ y.toNat ≤ y₁.toNat := by
  unfold windowIndices
  dsimp only
  rw [List.mem_flatMap, toInt_of_small hx₀, toInt_of_small hy₀, toInt_of_small hx₁,
    toInt_of_small hy₁]
  constructor
  · rintro ⟨yt, hyt, hmem⟩
    obtain ⟨xt, hxt, hkey⟩ := List.mem_map.mp hmem
    rw [Int.mem_range_iff] at hyt hxt
    obtain ⟨xn, rfl⟩ := Int.eq_ofNat_of_zero_le (show 0 ≤ xt by omega)
    obtain ⟨yn, rfl⟩ := Int.eq_ofNat_of_zero_le (show 0 ≤ yt by omega)
    have hxn := toNat_ofInt_of_small (n := xn) (by omega)
    have hyn := toNat_ofInt_of_small (n := yn) (by omega)
    obtain ⟨rfl, rfl⟩ := (calcTileQuadIndex_inj (by omega) (by omega) hx hy).mp hkey
    rw [hxn, hyn]
    omega
  · rintro ⟨hcol, hrow⟩
    refine ⟨y.toNat, Int.mem_range_iff.mpr (by omega), List.mem_map.mpr ?_⟩
    refine ⟨x.toNat, Int.mem_range_iff.mpr (by omega), ?_⟩
    rw [Signed.ofInt_toNat, Signed.ofInt_toNat]
    rfl

end Keys

section Tiles

variable {F : Type} [Field F] [LinearOrder F] [IsStrictOrderedRing F] [FloorRing F]
  {lat2latp : F → F} {z : Nat}

omit [IsStrictOrderedRing F] in
theorem toUint_toNat {v : F} (hv : 0 ≤ v) (hlt : v < 2 ^ z) (hz : z ≤ 14) :
    ((toUint v).toNat : Int) = ⌊v⌋ ∧ (toUint v).toNat < 2 ^ z := by
  have hlow : 0 ≤ ⌊v⌋ := Int.floor_nonneg.mpr hv
  have hhigh : ⌊v⌋ < 2 ^ z := by
    rw [Int.floor_lt]
    push_cast
    exact hlt
  have hpow : (2 : Int) ^ z ≤ 2 ^ 14 := pow_le_pow_right₀ (by decide) hz
  have hnat : ((toUint v).toNat : Int) = ⌊v⌋ := by
    unfold toUint
    rw [BitVec.toNat_ofInt]
    omega
  refine ⟨hnat, ?_⟩
  have hcast : ((toUint v).toNat : Int) < ((2 ^ z : Nat) : Int) := by
    rw [hnat]
    push_cast
    exact hhigh
  exact_mod_cast hcast

omit [IsStrictOrderedRing F] in
theorem toUint_mono {v v' : F} (hv : 0 ≤ v) (hle : v ≤ v') (hlt : v' < 2 ^ z) (hz : z ≤ 14) :
    (toUint v).toNat ≤ (toUint v').toNat := by
  have hfloor : ⌊v⌋ ≤ ⌊v'⌋ := Int.floor_le_floor hle
  rw [← (toUint_toNat hv (hle.trans_lt hlt) hz).1,
    ← (toUint_toNat (hv.trans hle) hlt hz).1] at hfloor
  exact_mod_cast hfloor

/-- A part of the circle, in tiles. -/
theorem part_bounds {v : F} (hv : 0 ≤ v) (hlt : v < 360) (z : Nat) :
    0 ≤ v * (1 / 360) * 2 ^ z ∧ v * (1 / 360) * 2 ^ z < 2 ^ z := by
  have hpow : (0 : F) < 2 ^ z := by positivity
  refine ⟨by positivity, ?_⟩
  have hone : v * (1 / 360) < 1 := by linarith
  calc v * (1 / 360) * 2 ^ z < 1 * 2 ^ z := mul_lt_mul_of_pos_right hone hpow
    _ = 2 ^ z := one_mul _

theorem lon2tilex_lt {lon : F} (hge : -180 ≤ lon) (hlt : lon < 180) (hz : z ≤ 14) :
    (lon2tilex lon z).toNat < 2 ^ z := by
  obtain ⟨hlow, hhigh⟩ := part_bounds (v := lon + 180) (by linarith) (by linarith) z
  exact (toUint_toNat hlow hhigh hz).2

theorem lon2tilex_mono {lon lon' : F} (hge : -180 ≤ lon) (hle : lon ≤ lon') (hlt : lon' < 180)
    (hz : z ≤ 14) : (lon2tilex lon z).toNat ≤ (lon2tilex lon' z).toNat := by
  have hlow := (part_bounds (v := lon + 180) (by linarith) (by linarith) z).1
  have hhigh := (part_bounds (v := lon' + 180) (by linarith) (by linarith) z).2
  refine toUint_mono hlow ?_ hhigh hz
  unfold lon2tilexf
  gcongr

theorem latp2tiley_lt {latp : F} (hgt : -180 < latp) (hle : latp ≤ 180) (hz : z ≤ 14) :
    (latp2tiley latp z).toNat < 2 ^ z := by
  obtain ⟨hlow, hhigh⟩ := part_bounds (v := 180 - latp) (by linarith) (by linarith) z
  exact (toUint_toNat hlow hhigh hz).2

theorem latp2tiley_anti {latp latp' : F} (hgt : -180 < latp) (hle : latp ≤ latp')
    (hle' : latp' ≤ 180) (hz : z ≤ 14) :
    (latp2tiley latp' z).toNat ≤ (latp2tiley latp z).toNat := by
  have hlow := (part_bounds (v := 180 - latp') (by linarith) (by linarith) z).1
  have hhigh := (part_bounds (v := 180 - latp) (by linarith) (by linarith) z).2
  refine toUint_mono hlow ?_ hhigh hz
  unfold latp2tileyf
  gcongr

end Tiles

section Window

variable {F : Type} [Field F] [LinearOrder F] [IsStrictOrderedRing F] [FloorRing F]
  {lat2latp : F → F} {cosLat lng lat radius : F} {level : Nat}

omit [FloorRing F] in
theorem rad2LonDeg_pos (hradius : 0 < radius) : 0 < rad2LonDeg radius := by
  unfold rad2LonDeg
  positivity

omit [FloorRing F] in
theorem rad2latDeg_abs_pos (hradius : 0 < radius) (hcos : cosLat ≠ 0) :
    0 < rad2latDeg radius |cosLat| := by
  unfold rad2latDeg
  positivity

omit [FloorRing F] in
/-- A negative cosine turns the window over. -/
theorem rad2latDeg_of_neg (hneg : cosLat < 0) :
    rad2latDeg radius cosLat = -rad2latDeg radius |cosLat| := by
  unfold rad2latDeg
  rw [abs_of_neg hneg, mul_neg, neg_div, div_neg, neg_neg]

theorem two_pow_level_le (hlevel : level ≤ 14) : 2 ^ level ≤ 2 ^ 14 :=
  Nat.pow_le_pow_right (by decide) hlevel

/-- The columns and rows of the corners are far below the 16 bits of a key. -/
theorem OnMap.tiles_lt (h : OnMap lat2latp lng lat) (hlevel : level ≤ 14) :
    (lon2tilex lng level).toNat < 2 ^ 16 ∧ (lat2tiley lat2latp lat level).toNat < 2 ^ 16 := by
  have hx := lon2tilex_lt h.lng_ge h.lng_lt hlevel
  have hy := latp2tiley_lt h.latp_gt h.latp_le hlevel
  have hpow := two_pow_level_le hlevel
  exact ⟨by omega, (hy.trans_le hpow).trans (by decide)⟩

theorem MapTile.tiles_lt (t : MapTile) : t.x.toNat < 2 ^ 16 ∧ t.y.toNat < 2 ^ 16 := by
  have hpow := two_pow_level_le t.level_le
  have hmap := t.onMap
  exact ⟨by omega, by omega⟩

variable {x y : BitVec 32} {zoom : Nat}

theorem mem_quadIndices_of_pos (hlevel : level ≤ 14)
    (haway : AwayFromBorder lat2latp cosLat lng lat radius) (hpos : 0 < cosLat)
    (hx : x.toNat < 2 ^ 16) (hy : y.toNat < 2 ^ 16) :
    calcTileQuadIndex zoom x y ∈ quadIndices lat2latp cosLat lng lat radius level ↔
      ((lon2tilex (lng - rad2LonDeg radius) level).toNat ≤ x.toNat ∧
        x.toNat ≤ (lon2tilex (lng + rad2LonDeg radius) level).toNat) ∧
      (lat2tiley lat2latp (lat + rad2latDeg radius |cosLat|) level).toNat ≤ y.toNat ∧
        y.toNat ≤ (lat2tiley lat2latp (lat - rad2latDeg radius |cosLat|) level).toNat := by
  obtain ⟨hwest, hnorth⟩ := haway.northWest.tiles_lt hlevel
  obtain ⟨heast, hsouth⟩ := haway.southEast.tiles_lt hlevel
  have habs : rad2latDeg radius cosLat = rad2latDeg radius |cosLat| := by rw [abs_of_pos hpos]
  unfold quadIndices calcPointTile
  rw [habs]
  exact mem_windowIndices hx hy hwest hnorth heast hsouth

theorem mem_quadIndices_of_neg (hlevel : level ≤ 14)
    (haway : AwayFromBorder lat2latp cosLat lng lat radius) (hneg : cosLat < 0)
    (hx : x.toNat < 2 ^ 16) (hy : y.toNat < 2 ^ 16) :
    calcTileQuadIndex zoom x y ∈ quadIndices lat2latp cosLat lng lat radius level ↔
      ((lon2tilex (lng - rad2LonDeg radius) level).toNat ≤ x.toNat ∧
        x.toNat ≤ (lon2tilex (lng + rad2LonDeg radius) level).toNat) ∧
      (lat2tiley lat2latp (lat - rad2latDeg radius |cosLat|) level).toNat ≤ y.toNat ∧
        y.toNat ≤ (lat2tiley lat2latp (lat + rad2latDeg radius |cosLat|) level).toNat := by
  obtain ⟨hwest, hnorth⟩ := haway.northWest.tiles_lt hlevel
  obtain ⟨heast, hsouth⟩ := haway.southEast.tiles_lt hlevel
  unfold quadIndices calcPointTile
  rw [rad2latDeg_of_neg hneg, ← sub_eq_add_neg, sub_neg_eq_add]
  exact mem_windowIndices hx hy hwest hsouth heast hnorth

/-- So they are where the projection does not decrease. -/
theorem rowsDescend_of_monotone (hlevel : level ≤ 14)
    (haway : AwayFromBorder lat2latp cosLat lng lat radius)
    (hmono : MonotoneOn lat2latp (Set.Icc (lat - rad2latDeg radius |cosLat|)
      (lat + rad2latDeg radius |cosLat|))) :
    RowsDescend lat2latp cosLat lat radius level := by
  intro lat₁ lat₂ hsouth hle hnorth
  have hlow := hmono ⟨le_rfl, hsouth.trans (hle.trans hnorth)⟩ ⟨hsouth, hle.trans hnorth⟩ hsouth
  have hbetween := hmono ⟨hsouth, hle.trans hnorth⟩ ⟨hsouth.trans hle, hnorth⟩ hle
  have hhigh := hmono ⟨hsouth.trans hle, hnorth⟩ ⟨hsouth.trans (hle.trans hnorth), le_rfl⟩ hnorth
  exact latp2tiley_anti (haway.southEast.latp_gt.trans_le hlow) hbetween
    (hhigh.trans haway.northWest.latp_le) hlevel

/-- The columns asked for include the one of the point. -/
theorem column_between (hlevel : level ≤ 14) (hradius : 0 < radius)
    (haway : AwayFromBorder lat2latp cosLat lng lat radius) :
    (lon2tilex (lng - rad2LonDeg radius) level).toNat ≤ (lon2tilex lng level).toNat ∧
      (lon2tilex lng level).toNat ≤ (lon2tilex (lng + rad2LonDeg radius) level).toNat := by
  have hpos := rad2LonDeg_pos hradius
  have hwest := haway.northWest.lng_ge
  have heast := haway.southEast.lng_lt
  exact ⟨lon2tilex_mono hwest (by linarith) (by linarith) hlevel,
    lon2tilex_mono (by linarith) (by linarith) heast hlevel⟩

/-- The row of the point lies between those of the edges. -/
theorem row_between (hradius : 0 < radius) (hcos : cosLat ≠ 0)
    (hrows : RowsDescend lat2latp cosLat lat radius level) :
    (lat2tiley lat2latp (lat + rad2latDeg radius |cosLat|) level).toNat ≤
        (lat2tiley lat2latp lat level).toNat ∧
      (lat2tiley lat2latp lat level).toNat ≤
        (lat2tiley lat2latp (lat - rad2latDeg radius |cosLat|) level).toNat := by
  have hpos := rad2latDeg_abs_pos hradius hcos
  exact ⟨hrows _ _ (by linarith) (by linarith) le_rfl,
    hrows _ _ le_rfl (by linarith) (by linarith)⟩

/-- Where the query covers the point, it asks for the tiles in the window. -/
theorem mem_quadIndices_iff (hlevel : level ≤ 14) (hcos : cosLat ≠ 0)
    (haway : AwayFromBorder lat2latp cosLat lng lat radius)
    (hsides : 0 < cosLat ∨ OneRow lat2latp cosLat lat radius level) (t : MapTile) :
    calcTileQuadIndex t.level t.x t.y ∈ quadIndices lat2latp cosLat lng lat radius level ↔
      InWindow lat2latp cosLat lng lat radius level t := by
  obtain ⟨hx, hy⟩ := t.tiles_lt
  have hwindow : InWindow lat2latp cosLat lng lat radius level t ↔
      ((lon2tilex (lng - rad2LonDeg radius) level).toNat ≤ t.x.toNat ∧
        t.x.toNat ≤ (lon2tilex (lng + rad2LonDeg radius) level).toNat) ∧
      (lat2tiley lat2latp (lat + rad2latDeg radius |cosLat|) level).toNat ≤ t.y.toNat ∧
        t.y.toNat ≤ (lat2tiley lat2latp (lat - rad2latDeg radius |cosLat|) level).toNat :=
    ⟨fun h => ⟨⟨h.west, h.east⟩, h.north, h.south⟩, fun h => ⟨h.1.1, h.1.2, h.2.1, h.2.2⟩⟩
  rw [hwindow]
  rcases lt_or_gt_of_ne hcos with hneg | hpos
  · have hrow : OneRow lat2latp cosLat lat radius level := hsides.resolve_left hneg.not_gt
    rw [mem_quadIndices_of_neg hlevel haway hneg hx hy]
    unfold OneRow at hrow
    rw [hrow]
  · exact mem_quadIndices_of_pos hlevel haway hpos hx hy

theorem fetched_iff {db : EntityTable} {quads : List (BitVec 32)} {r : Row Entity} {t : MapTile}
    (hstored : r.cols.StoredUnder t) :
    r ∈ db.readGeometryInfo quads ↔
      r ∈ db.rows ∧ calcTileQuadIndex t.level t.x t.y ∈ quads := by
  unfold EntityTable.readGeometryInfo Table.select
  rw [List.mem_filter, List.any_eq_true]
  apply and_congr_right
  intro _
  constructor
  · rintro ⟨q, hq, hkey⟩
    have hsame := (of_decide_eq_true hkey).symm.trans hstored.2
    rwa [BitVec.toNat_inj.mp (Int.ofNat_inj.mp hsame)] at hq
  · intro hmem
    exact ⟨_, hmem, decide_eq_true hstored.2⟩

/-- The point is covered unless the cosine is negative and the window reaches over
two rows. -/
theorem covers_iff (hlevel : level ≤ 14) (hradius : 0 < radius) (hcos : cosLat ≠ 0)
    (hrows : RowsDescend lat2latp cosLat lat radius level)
    (haway : AwayFromBorder lat2latp cosLat lng lat radius) :
    calcTileQuadIndex level (lon2tilex lng level) (lat2tiley lat2latp lat level) ∈
        quadIndices lat2latp cosLat lng lat radius level ↔
      0 < cosLat ∨ OneRow lat2latp cosLat lat radius level := by
  have hcolumn := column_between hlevel hradius haway
  have hrow := row_between hradius hcos hrows
  have hx : (lon2tilex lng level).toNat < 2 ^ 16 :=
    hcolumn.2.trans_lt (haway.southEast.tiles_lt hlevel).1
  have hy : (lat2tiley lat2latp lat level).toNat < 2 ^ 16 :=
    hrow.2.trans_lt (haway.southEast.tiles_lt hlevel).2
  rcases lt_or_gt_of_ne hcos with hneg | hpos
  · rw [mem_quadIndices_of_neg hlevel haway hneg hx hy, or_iff_right hneg.not_gt]
    unfold OneRow
    rw [← BitVec.toNat_inj]
    constructor
    · rintro ⟨-, hsouth, hnorth⟩
      omega
    · intro hsame
      exact ⟨hcolumn, by omega, by omega⟩
  · exact iff_of_true ((mem_quadIndices_of_pos hlevel haway hpos hx hy).mpr ⟨hcolumn, hrow⟩)
      (Or.inl hpos)

end Window

section Query

variable {F : Type} [Field F] [LinearOrder F] [IsStrictOrderedRing F] [FloorRing F]

/-- A query is right just when it covers the point and no tile of another level with
an entity stored under it has its numbers in the window. -/
theorem queryRight_iff (lat2latp : F → F) (cosLat lng lat radius : F) (level : Nat)
    (db : EntityTable) (hlevel : level ≤ 14) (hradius : 0 < radius) (hcos : cosLat ≠ 0)
    (hrows : RowsDescend lat2latp cosLat lat radius level)
    (haway : AwayFromBorder lat2latp cosLat lng lat radius) :
    QueryRight lat2latp cosLat lng lat radius level db ↔
      (0 < cosLat ∨ OneRow lat2latp cosLat lat radius level) ∧
        ∀ r ∈ db.rows, ∀ t : MapTile, r.cols.StoredUnder t → t.level ≠ level →
          ¬InWindow lat2latp cosLat lng lat radius level t := by
  have hcovers := covers_iff hlevel hradius hcos hrows haway
  constructor
  · intro h
    have hsides := hcovers.mp h.covers
    refine ⟨hsides, fun r hr t hstored hother hwindow => hother ?_⟩
    have hkey := (mem_quadIndices_iff hlevel hcos haway hsides t).mpr hwindow
    exact h.own r ((fetched_iff hstored).mpr ⟨hr, hkey⟩) t hstored
  · rintro ⟨hsides, hother⟩
    refine ⟨hcovers.mpr hsides, fun r hr t hstored => ?_⟩
    obtain ⟨hrow, hkey⟩ := (fetched_iff hstored).mp hr
    by_contra hlevels
    exact hother r hrow t hstored hlevels ((mem_quadIndices_iff hlevel hcos haway hsides t).mp hkey)

/-! ### Two queries

At 2 degrees north `cos(2)` is about -5/12. At 1 degree south `cos(-1)` is about 27/50; there, at
10 degrees east, the tile of level 3 has column 4 and row 4. -/

/-- A street of level 4, stored under column 4, row 4. -/
def northernStreet : Row Entity := ⟨1, ⟨7, 8, 4 * 65536 + 4, 4, 1, []⟩⟩

def streets : EntityTable :=
  ⟨[northernStreet], List.pairwise_singleton _ _, List.pairwise_singleton _ _⟩

theorem away_upside : AwayFromBorder (id : ℚ → ℚ) (-5 / 12) 0 2 2000 := by
  constructor <;> constructor <;> decide +kernel

theorem away_south : AwayFromBorder (id : ℚ → ℚ) (27 / 50) 10 (-1) 1000 := by
  constructor <;> constructor <;> decide +kernel

theorem queryRight_iff_south :
    QueryRight (id : ℚ → ℚ) (27 / 50) 10 (-1) 1000 3 streets ↔
      (0 < (27 / 50 : ℚ) ∨ OneRow (id : ℚ → ℚ) (27 / 50) (-1) 1000 3) ∧
        ∀ r ∈ streets.rows, ∀ t : MapTile, r.cols.StoredUnder t → t.level ≠ 3 →
          ¬InWindow (id : ℚ → ℚ) (27 / 50) 10 (-1) 1000 3 t :=
  queryRight_iff id (27 / 50) 10 (-1) 1000 3 streets (by decide) (by norm_num) (by norm_num)
    (rowsDescend_of_monotone (by decide) away_south (monotone_id.monotoneOn _)) away_south

/-- With a negative cosine no tile at all is asked for, and a street of level 4 is found
by the query of level 3. -/
theorem lookup_fails :
    (AwayFromBorder (id : ℚ → ℚ) (-5 / 12) 0 2 2000 ∧
      RowsDescend (id : ℚ → ℚ) (-5 / 12) 2 2000 14 ∧
      quadIndices (id : ℚ → ℚ) (-5 / 12) 0 2 2000 14 = [] ∧
      ∀ db, ¬QueryRight (id : ℚ → ℚ) (-5 / 12) 0 2 2000 14 db) ∧
    AwayFromBorder (id : ℚ → ℚ) (27 / 50) 10 (-1) 1000 ∧
      RowsDescend (id : ℚ → ℚ) (27 / 50) (-1) 1000 3 ∧
      streets.readGeometryInfo (quadIndices (id : ℚ → ℚ) (27 / 50) 10 (-1) 1000 3) =
        [northernStreet] ∧
      ¬QueryRight (id : ℚ → ℚ) (27 / 50) 10 (-1) 1000 3 streets := by
  have hempty : quadIndices (id : ℚ → ℚ) (-5 / 12) 0 2 2000 14 = [] := by decide +kernel
  have hfound : streets.readGeometryInfo (quadIndices (id : ℚ → ℚ) (27 / 50) 10 (-1) 1000 3) =
      [northernStreet] := by decide +kernel
  refine ⟨⟨away_upside, ?_, hempty, fun db h => ?_⟩, away_south, ?_, hfound, fun h => ?_⟩
  · exact rowsDescend_of_monotone (by decide) away_upside (monotone_id.monotoneOn _)
  · have hcovers := h.covers
    rw [hempty] at hcovers
    exact List.not_mem_nil hcovers
  · exact rowsDescend_of_monotone (by decide) away_south (monotone_id.monotoneOn _)
  · have hstored : northernStreet.cols.StoredUnder ⟨4, 4, 4, by decide, by decide⟩ := ⟨rfl, rfl⟩
    have hlevel := h.own northernStreet (by rw [hfound]; exact List.mem_singleton_self _) _ hstored
    exact absurd hlevel (by decide)

end Query

end UCLinux.Geocoder
