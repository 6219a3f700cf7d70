import UCLinux.Machine.Run
import UCLinux.Ocpp.Numbers
import Mathlib.Algebra.Group.Nat.Defs

/-!
Map tiles under one number. Zoom and position are packed into 32 bits, 4 and 14
and 14 of them, and the bits that do not fit are cut off; a tile is saved and
asked for by the number. From zoom 8 on another database is asked.
-/

namespace UCLinux.Web

open Machine Ocpp Sql

abbrev Blob := List (BitVec 8)

section Program

/-- A tile; all three are `int`s. -/
structure TileS where
  z : BitVec 32
  x : BitVec 32
  y : BitVec 32
  deriving DecidableEq, Repr

def toTileId (zoom x y : BitVec 32) : BitVec 32 :=
  zoom <<< 28 ||| (x &&& 0x3fff#32) <<< 14 ||| (y &&& 0x3fff#32)

def fromTileId (tid : BitVec 32) : TileS where
  y := tid &&& 0x3fff#32
  x := tid >>> 14 &&& 0x3fff#32
  z := tid >>> 28 &&& 0xf#32

/-- A row of `tiles`; `tileid` is unique. -/
structure TileRow where
  tileid : Int
  tile_data : Blob
  deriving DecidableEq, Repr

abbrev MBTiles := List TileRow

/-- `REPLACE INTO tiles` -/
def MBTiles.saveTile (db : MBTiles) (tid : Int) (data : Blob) : MBTiles :=
  (db.filter fun r => r.tileid ≠ tid) ++ [⟨tid, data⟩]

/-- `SELECT tile_data from tiles where tileid=%d`; `none` throws. -/
def MBTiles.select (db : MBTiles) (tid : Int) : Option Blob :=
  (db.find? fun r => r.tileid = tid).map TileRow.tile_data

/-- The key as it is bound and as it is printed. -/
def TileS.key (t : TileS) : Int := (toTileId t.z t.x t.y).toInt

/-- `db` and `db0`. -/
structure TileDBs where
  db : MBTiles
  db0 : MBTiles
  deriving DecidableEq, Repr

/-- The data read, empty when there is no row. -/
def readTileFromDb (dbs : TileDBs) (t : TileS) : Blob :=
  ((if 8 ≤ t.z.toInt then dbs.db else dbs.db0).select t.key).getD []

inductive TileReply where
  | star
  | data (payload : Blob)
  deriving DecidableEq, Repr

/-- The three numbers of a request, -1 each without them; `none` where `stoi`
throws. -/
def tileNumbers (v : List Text) : Option (Int × Int × Int) :=
  match v with
  | z :: x :: y :: _ => (stoi z).bind fun z => (stoi x).bind fun x => (stoi y).map fun y => (z, x, y)
  | _ => some (-1, -1, -1)

def tileReply (data : Blob) : TileReply := if data = [] then .star else .data data

def processTileDownload (dbs : TileDBs) (payload : Text) : Option TileReply :=
  (tileNumbers (split payload '_')).map fun (z, x, y) =>
    if 0 ≤ z ∧ 0 ≤ x ∧ 0 ≤ y then
      tileReply (readTileFromDb dbs ⟨BitVec.ofInt 32 z, BitVec.ofInt 32 x, BitVec.ofInt 32 y⟩)
    else .star

end Program

section Keys

variable {t t' : TileS}

/-- The fields of a key: what is left of each number. -/
theorem toNat_toTileId (z x y : BitVec 32) :
    (toTileId z x y).toNat =
      z.toNat % 2 ^ 4 * 2 ^ 28 + (x.toNat % 2 ^ 14 * 2 ^ 14 + y.toNat % 2 ^ 14) := by
  have hmask (v : Nat) : v &&& 16383 = v % 2 ^ 14 := Nat.and_two_pow_sub_one_eq_mod v 14
  have hz : z.toNat * 2 ^ 28 % 2 ^ 32 = z.toNat % 2 ^ 4 * 2 ^ 28 :=
    Nat.mul_mod_mul_right (2 ^ 28) z.toNat (2 ^ 4)
  have hx : x.toNat % 2 ^ 14 * 2 ^ 14 % 2 ^ 32 = x.toNat % 2 ^ 14 * 2 ^ 14 :=
    Nat.mod_eq_of_lt (by omega)
  have hy : y.toNat % 2 ^ 14 < 2 ^ 14 := Nat.mod_lt _ (by decide)
  have hcut : 16383 % 2 ^ 32 = 16383 := Nat.mod_eq_of_lt (by decide)
  have hxy : x.toNat % 2 ^ 14 * 2 ^ 14 + y.toNat % 2 ^ 14 < 2 ^ 28 := by omega
  unfold toTileId
  rw [BitVec.toNat_or, BitVec.toNat_or, BitVec.toNat_shiftLeft, BitVec.toNat_shiftLeft,
    BitVec.toNat_and, BitVec.toNat_and, BitVec.toNat_ofNat, Nat.shiftLeft_eq, Nat.shiftLeft_eq,
    hz, hcut, hmask, hmask, hx, ← Nat.shiftLeft_eq,
    ← Nat.shiftLeft_eq, Nat.or_assoc, ← Nat.shiftLeft_add_eq_or_of_lt hy, Nat.shiftLeft_eq _ 14,
    ← Nat.shiftLeft_add_eq_or_of_lt hxy, Nat.shiftLeft_eq]

theorem toNat_fromTileId (tid : BitVec 32) :
    (fromTileId tid).z.toNat = tid.toNat / 2 ^ 28 % 2 ^ 4 ∧
      (fromTileId tid).x.toNat = tid.toNat / 2 ^ 14 % 2 ^ 14 ∧
      (fromTileId tid).y.toNat = tid.toNat % 2 ^ 14 := by
  have hmask (v : Nat) : v &&& 16383 = v % 2 ^ 14 := Nat.and_two_pow_sub_one_eq_mod v 14
  have hmask' (v : Nat) : v &&& 15 = v % 2 ^ 4 := Nat.and_two_pow_sub_one_eq_mod v 4
  unfold fromTileId
  simp only [BitVec.toNat_and, BitVec.toNat_ushiftRight, BitVec.toNat_ofNat,
    Nat.shiftRight_eq_div_pow]
  exact ⟨hmask' _, hmask _, hmask _⟩

/-- The tiles agree in the bits a key has. -/
def TileS.SameKey (t t' : TileS) : Prop :=
  t.z.toNat % 2 ^ 4 = t'.z.toNat % 2 ^ 4 ∧ t.x.toNat % 2 ^ 14 = t'.x.toNat % 2 ^ 14 ∧
    t.y.toNat % 2 ^ 14 = t'.y.toNat % 2 ^ 14

instance (t t' : TileS) : Decidable (t.SameKey t') := inferInstanceAs (Decidable (_ ∧ _ ∧ _))

/-- No bit of the tile is cut off. -/
def TileS.Fits (t : TileS) : Prop :=
  t.z.toNat < 2 ^ 4 ∧ t.x.toNat < 2 ^ 14 ∧ t.y.toNat < 2 ^ 14

theorem key_eq_iff : t.key = t'.key ↔ t.SameKey t' := by
  unfold TileS.key TileS.SameKey
  rw [BitVec.toInt_inj, ← BitVec.toNat_inj, toNat_toTileId, toNat_toTileId]
  omega

theorem fromTileId_toTileId_iff : fromTileId (toTileId t.z t.x t.y) = t ↔ t.Fits := by
  obtain ⟨z, x, y⟩ := t
  obtain ⟨hz, hx, hy⟩ := toNat_fromTileId (toTileId z x y)
  rw [toNat_toTileId] at hz hx hy
  have hfields : fromTileId (toTileId z x y) = ⟨z, x, y⟩ ↔
      (fromTileId (toTileId z x y)).z.toNat = z.toNat ∧
      (fromTileId (toTileId z x y)).x.toNat = x.toNat ∧
      (fromTileId (toTileId z x y)).y.toNat = y.toNat := by
    rw [BitVec.toNat_inj, BitVec.toNat_inj, BitVec.toNat_inj]
    cases fromTileId (toTileId z x y)
    simp
  rw [hfields, hz, hx, hy]
  unfold TileS.Fits
  dsimp only
  omega

/-- Tiles that fit have keys of their own. -/
theorem eq_of_sameKey (ht : t.Fits) (ht' : t'.Fits) (h : t.SameKey t') : t = t' := by
  rw [← fromTileId_toTileId_iff.mpr ht, ← fromTileId_toTileId_iff.mpr ht']
  exact congrArg fromTileId (BitVec.toInt_inj.mp (key_eq_iff.mpr h))

end Keys

section Request

theorem split_joined {a : Text} (rest : Text) (h : '_' ∉ a) :
    split (a ++ '_' :: rest) '_' = a :: split rest '_' := by
  unfold split
  rw [splitFrom_join h, List.nil_append]

/-- Every request for three numbers is answered by what is read for them. -/
theorem processTileDownload_decimal (dbs : TileDBs) {z x y : Int} (hz : 0 ≤ z ∧ z < 2 ^ 31)
    (hx : 0 ≤ x ∧ x < 2 ^ 31) (hy : 0 ≤ y ∧ y < 2 ^ 31) :
    processTileDownload dbs (decimal z ++ '_' :: (decimal x ++ '_' :: decimal y)) =
      some (tileReply (readTileFromDb dbs
        ⟨BitVec.ofInt 32 z, BitVec.ofInt 32 x, BitVec.ofInt 32 y⟩)) := by
  have hbar (n : Int) : '_' ∉ decimal n := not_mem_decimal (by decide) (by decide) n
  have hlast : split (decimal y) '_' = [decimal y] := by
    unfold split
    rw [splitFrom_unbroken (hbar y), List.nil_append, if_neg]
    intro hnil
    have hread := stoi_decimal (n := y) ⟨by omega, hy.2⟩
    rw [hnil] at hread
    cases hread
  unfold processTileDownload
  rw [split_joined _ (hbar z), split_joined _ (hbar x), hlast]
  unfold tileNumbers
  dsimp only
  rw [stoi_decimal ⟨by omega, hz.2⟩, stoi_decimal ⟨by omega, hx.2⟩, stoi_decimal ⟨by omega, hy.2⟩]
  exact congrArg some (if_pos ⟨hz.1, hx.1, hy.1⟩)

end Request

section Stored

/-- The tiles saved in each database, in this order. -/
structure TileStores where
  tiles : List TileS
  tiles0 : List TileS
  deriving DecidableEq, Repr

def saveAll (data : TileS → Blob) (tiles : List TileS) : MBTiles :=
  run (fun db t => MBTiles.saveTile db t.key (data t)) [] tiles

def TileStores.dbs (s : TileStores) (data : TileS → Blob) : TileDBs :=
  ⟨saveAll data s.tiles, saveAll data s.tiles0⟩

/-- The tiles of the database that is asked for `t`. -/
def TileStores.asked (s : TileStores) (t : TileS) : List TileS :=
  if 8 ≤ t.z.toInt then s.tiles else s.tiles0

/-- The tile saved last under the key of `t`. -/
def lastSaved (tiles : List TileS) (t : TileS) : Option TileS :=
  tiles.reverse.find? fun t' => t'.SameKey t

/-- Whatever the tiles hold, `t` is read as it was stored, or nothing is. -/
def TileStores.ReadsOwn (s : TileStores) (t : TileS) : Prop :=
  ∀ data, readTileFromDb (s.dbs data) t = [] ∨
    t ∈ s.asked t ∧ readTileFromDb (s.dbs data) t = data t

/-- `fromTileId` undoes `toTileId` on the stored tiles. -/
def TileStores.Undone (s : TileStores) : Prop :=
  ∀ t ∈ s.tiles ++ s.tiles0, fromTileId (toTileId t.z t.x t.y) = t

variable {data : TileS → Blob} {tiles : List TileS} {s : TileStores} {t : TileS}

theorem select_saveTile (db : MBTiles) (tid : Int) (blob : Blob) :
    (db.saveTile tid blob).select = Function.update db.select tid (some blob) := by
  funext k
  unfold MBTiles.saveTile MBTiles.select
  rw [List.find?_append, List.find?_filter]
  by_cases hk : k = tid
  · have hnone : db.find? (fun r => decide (decide (r.tileid ≠ tid) = true ∧
        decide (r.tileid = k) = true)) = none := by
      refine List.find?_eq_none.mpr fun r _ => ?_
      simp [hk]
    rw [hnone, hk, Function.update_self]
    simp
  · have hsame : (fun r : TileRow => decide (decide (r.tileid ≠ tid) = true ∧
        decide (r.tileid = k) = true)) = fun r => decide (r.tileid = k) := by
      funext r
      by_cases hr : r.tileid = k
      · simp [hr, hk]
      · simp [hr]
    rw [hsame, Function.update_of_ne hk]
    simp [Ne.symm hk]

theorem lastWriter_key : lastWriter (fun _ => True) TileS.key tiles t.key = lastSaved tiles t := by
  unfold lastWriter lastSaved
  congr 1
  funext t'
  exact decide_eq_decide.mpr ((iff_of_eq (true_and _)).trans key_eq_iff)

/-- Under the key of a tile stands what was saved there last. -/
theorem select_saveAll : (saveAll data tiles).select t.key = (lastSaved tiles t).map data := by
  have hrun : (saveAll data tiles).select t.key =
      (lastWriter (fun _ => True) TileS.key tiles t.key).elim none fun t' => some (data t') := by
    apply run_lastWriter ([] : MBTiles) (fun _ _ => trivial)
    · exact fun db t' _ _ => select_saveTile db t'.key (data t')
    · exact fun _ _ _ h => absurd trivial h
  rw [hrun, lastWriter_key]
  cases lastSaved tiles t <;> rfl

theorem readTileFromDb_stored :
    readTileFromDb (s.dbs data) t = ((lastSaved (s.asked t) t).map data).getD [] := by
  unfold readTileFromDb TileStores.asked
  split
  · exact congrArg (Option.getD · []) select_saveAll
  · exact congrArg (Option.getD · []) select_saveAll

theorem lastSaved_mem {t' : TileS} (h : lastSaved tiles t = some t') : t' ∈ tiles :=
  List.mem_reverse.mp (List.mem_of_find?_eq_some h)

theorem lastSaved_sameKey {t' : TileS} (h : lastSaved tiles t = some t') : t'.SameKey t := by
  have hfound := List.find?_some h
  exact of_decide_eq_true hfound

/-- A request is answered with its own tile exactly when the tile saved last
under its key is that tile. -/
theorem readsOwn_iff :
    s.ReadsOwn t ↔ ∀ t', lastSaved (s.asked t) t = some t' → t' = t := by
  constructor
  · intro h t' ht'
    by_contra hne
    -- Data that tell the two apart.
    have hread := h fun tile => if tile = t then [0#8] else [1#8]
    rw [readTileFromDb_stored, ht', Option.map_some, Option.getD_some, if_neg hne,
      if_pos rfl] at hread
    obtain hnil | ⟨_, hsame⟩ := hread
    · cases hnil
    · exact absurd hsame (by decide)
  · intro h data
    rw [readTileFromDb_stored]
    cases hlast : lastSaved (s.asked t) t with
    | none => exact Or.inl rfl
    | some t' =>
      obtain rfl := h t' hlast
      exact Or.inr ⟨lastSaved_mem hlast, rfl⟩

/-- Stored tiles of which no bit is cut off are read under no request but their
own, as long as the request has no more bits. -/
theorem readsOwn_of_fits (ht : t.Fits) (h : ∀ t' ∈ s.tiles ++ s.tiles0, t'.Fits) :
    s.ReadsOwn t := by
  refine readsOwn_iff.mpr fun t' ht' => eq_of_sameKey (h t' ?_) ht (lastSaved_sameKey ht')
  have hmem := lastSaved_mem ht'
  unfold TileStores.asked at hmem
  split at hmem
  · exact List.mem_append_left _ hmem
  · exact List.mem_append_right _ hmem

/-- Every request reads its own tile or nothing, and the stored tiles are got
back from their keys, exactly when no stored tile has a bit cut off and none is
the last under the key of another that is asked for. -/
theorem readTileFromDb_own_iff :
    (s.ReadsOwn t ∧ s.Undone) ↔
      (∀ t', lastSaved (s.asked t) t = some t' → t' = t) ∧
        ∀ t' ∈ s.tiles ++ s.tiles0, t'.Fits :=
  and_congr readsOwn_iff (forall₂_congr fun _ _ => fromTileId_toTileId_iff)

/-- There is such a tile. -/
def TileS.Valid (t : TileS) : Prop :=
  0 ≤ t.z.toInt ∧ 0 ≤ t.x.toInt ∧ t.x.toInt < 2 ^ t.z.toNat ∧
    0 ≤ t.y.toInt ∧ t.y.toInt < 2 ^ t.z.toNat

instance (t : TileS) : Decidable t.Valid := inferInstanceAs (Decidable (_ ∧ _ ∧ _ ∧ _ ∧ _))

/-- Zoom 15 has 32768 columns. -/
def firstColumn : TileStores := ⟨[⟨15, 0, 0⟩], []⟩

/-- The request for column 16384 gets column 0, whose key is undone. -/
theorem readTileFromDb_other_column :
    (∀ t ∈ firstColumn.tiles ++ firstColumn.tiles0, t.Valid) ∧ (TileS.mk 15 16384 0).Valid ∧
      firstColumn.Undone ∧ ¬firstColumn.ReadsOwn ⟨15, 16384, 0⟩ ∧
      processTileDownload (firstColumn.dbs fun _ => [7#8]) "15_16384_0" = some (.data [7#8]) := by
  have hvalid : ∀ t ∈ firstColumn.tiles ++ firstColumn.tiles0, t.Valid := by decide
  have hundone : firstColumn.Undone := by
    unfold TileStores.Undone
    decide
  have hother : ¬firstColumn.ReadsOwn ⟨15, 16384, 0⟩ := by
    intro h
    have hsame := readsOwn_iff.mp h ⟨15, 0, 0⟩ (by decide)
    exact absurd hsame (by decide)
  exact ⟨hvalid, by decide, hundone, hother, by decide⟩

end Stored

end UCLinux.Web
