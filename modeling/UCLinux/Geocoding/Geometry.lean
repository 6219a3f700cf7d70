import UCLinux.Geocoding.BlobReads
import Mathlib.Tactic.NormNum

/-!
The layout of a geometry: the fields of a stream in the order in which the decoders read
them, every node but the first given by its distance from the first. Fields that are in
range and written by the writers of the stream are decoded to the geometry they belong to,
whatever follows them, and inside the blob. A coordinate on earth is kept as a `float` to
within eight millionths of a degree.
-/

namespace UCLinux.Geocoding

open Machine Machine.Rounding

section Layout

def Node.fields (first : Option Node) (node : Node) : List Field :=
  first.elim [.int32 node.lati, .int32 node.loni] fun node0 =>
    [.int32 (node0.lati - node.lati), .int32 (node0.loni - node.loni)]

def nodesFields (first : Option Node) : List Node → List Field
  | [] => []
  | node :: nodes => node.fields first ++ nodesFields (some (first.getD node)) nodes

/-- The additional tags of a building. -/
abbrev Tags := List (Bytes × Bytes)

def tagsFields : Tags → List Field
  | [] => []
  | (key, val) :: tags => [.str key, .str val] ++ tagsFields tags

/-- A building as it is stored. -/
structure StoredBuilding where
  node : Node
  houseNumber : Bytes
  tags : Tags

/-- A building without a number has no tags. -/
def StoredBuilding.fields (first : Option Node) (building : StoredBuilding) : List Field :=
  building.node.fields first ++ ([.str building.houseNumber] ++
    if building.houseNumber = [] then [] else
      [.int32 (BitVec.ofNat 32 building.tags.length)] ++ tagsFields building.tags)

def buildingsFields (first : Option Node) : List StoredBuilding → List Field
  | [] => []
  | building :: buildings => building.fields first ++
      buildingsFields (some (first.getD building.node)) buildings

def interpolationFields (gType interpType : BitVec 32) (buildings : List StoredBuilding) :
    List Field :=
  [.int32 gType] ++ ([.int32 interpType] ++ ([.int32 (BitVec.ofNat 32 buildings.length)] ++
    buildingsFields none buildings))

/-- A boundary as it is stored. -/
structure StoredBoundary where
  type : Int
  houseNumber : Bytes
  bnameid : BitVec 64
  nodes : List Node

def lineFields (gType : BitVec 32) (nodes : List Node) : List Field :=
  [.int32 gType] ++ ([.int32 (BitVec.ofNat 32 nodes.length)] ++ nodesFields none nodes)

def StoredBoundary.fields (gType : BitVec 32) (boundary : StoredBoundary) : List Field :=
  if boundary.type = buildingBoundaries then
    [.str boundary.houseNumber] ++ ([.uint64 boundary.bnameid] ++
      lineFields gType boundary.nodes)
  else lineFields gType boundary.nodes

/-- In millionths of a degree. -/
structure Node.OnEarth (node : Node) : Prop where
  lati : -90000000 ≤ node.lati.toInt ∧ node.lati.toInt ≤ 90000000
  loni : -180000000 ≤ node.loni.toInt ∧ node.loni.toInt ≤ 180000000

/-- A string, or a list, the length of which is read back. -/
def Short {α : Type} (l : List α) : Prop := l.length < 2 ^ 30

structure StoredBuilding.OnEarth (building : StoredBuilding) : Prop where
  node : building.node.OnEarth
  houseNumber : Short building.houseNumber
  texts : ∀ tag ∈ building.tags, Short tag.1 ∧ Short tag.2
  short : Short building.tags

/-- Only a building's boundary has a house number and a name of its own. -/
structure StoredBoundary.OnEarth (boundary : StoredBoundary) : Prop where
  nodes : ∀ node ∈ boundary.nodes, node.OnEarth
  short : Short boundary.nodes
  houseNumber : Short boundary.houseNumber
  bnameid : Small boundary.bnameid
  other : boundary.type ≠ buildingBoundaries → boundary.houseNumber = [] ∧ boundary.bnameid = 0

/-- Less than eight millionths of a degree from the node. -/
def Node.Near (node : Node) (lat lon : Rat) : Prop :=
  |lat - node.lati.toInt / coorKr| < 8 / coorKr ∧ |lon - node.loni.toInt / coorKr| < 8 / coorKr

variable (keep : Rat → Rat) (nameid cityid : BitVec 64)

/-- The building that is made of a stored one. -/
def StoredBuilding.building (b : StoredBuilding) : GeoBuilding :=
  .new (degrees b.node.lati) (degrees b.node.loni) b.houseNumber

/-- The street of stored buildings. -/
def interpolation (interpType : BitVec 32) (buildings : List StoredBuilding) :
    GeoStreetInterpolation :=
  ⟨nameid.setWidth 32, cityid.setWidth 32, buildings.head?.map fun _ => interpType,
    buildings.map StoredBuilding.building⟩

def StoredBoundary.boundary (b : StoredBoundary) : GeoBoundary :=
  ⟨b.type, nameid.setWidth 32, cityid.setWidth 32, b.houseNumber, b.bnameid,
    b.nodes.map (Node.pointLL keep)⟩

def Node.place (type : Int) (node : Node) : GeoPlace :=
  ⟨type, nameid.setWidth 32, cityid.setWidth 32,
    single (degrees node.lati), single (degrees node.loni)⟩

end Layout

section Reads

-- `outside` is what memory holds behind the blob
variable (wild : Nat → BitVec 32 → BitVec 32) (outside : Nat → BitVec 8) {α β : Type}

/-- The fields can be written. With them in front of it the decoder returns `a` and stands
behind them, and no string it reads overhangs. -/
structure Reads (d : Decoder α) (fields : List Field) (a : α) : Prop where
  writable : ∀ field ∈ fields, field.Writable
  runs : ∀ data pre rest : Bytes, data = pre ++ (encodedAll fields ++ rest) →
    data.length ≤ maxSize →
    d.run (EncodingStream.step wild outside) ⟨data, pre.length⟩ =
      some (a, ⟨data, pre.length + (encodedAll fields).length⟩) ∧
    ∀ v ∈ d.calls (EncodingStream.step wild outside) ⟨data, pre.length⟩,
      v.call = .str → ¬v.before.Overhangs wild

variable {wild outside} {d : Decoder α} {a : α}

theorem Reads.pure (a : α) : Reads wild outside (pure a : Decoder α) [] a := by
  refine ⟨fun _ h => absurd h List.not_mem_nil, fun data pre rest hdata hmax => ?_⟩
  refine ⟨by rw [Program.run_pure]; rfl, fun v hv => ?_⟩
  rw [Program.calls_pure] at hv
  exact absurd hv List.not_mem_nil

/-- One decoder after another, on the fields of both. -/
theorem Reads.bind {f : α → Decoder β} {b : β} {fields fields' : List Field}
    (hd : Reads wild outside d fields a) (hf : Reads wild outside (f a) fields' b) :
    Reads wild outside (d >>= f) (fields ++ fields') b := by
  refine ⟨fun field h => (List.mem_append.mp h).elim (hd.writable field) (hf.writable field),
    fun data pre rest hdata hmax => ?_⟩
  have hall : encodedAll (fields ++ fields') = encodedAll fields ++ encodedAll fields' :=
    List.flatMap_append
  rw [hall, List.append_assoc] at hdata
  obtain ⟨hfirst, hwhole⟩ := hd.runs data pre (encodedAll fields' ++ rest) hdata hmax
  obtain ⟨hsecond, hwhole'⟩ := hf.runs data (pre ++ encodedAll fields) rest
    (hdata.trans (List.append_assoc ..).symm) hmax
  rw [List.length_append] at hsecond hwhole'
  refine ⟨?_, fun v hv => ?_⟩
  · rw [Program.run_bind, hfirst, Option.bind_some, hsecond, hall, List.length_append,
      Nat.add_assoc]
  · rw [Program.calls_bind, hfirst, Option.elim_some] at hv
    exact (List.mem_append.mp hv).elim (hwhole v) (hwhole' v)

/-- A last value that is computed. -/
theorem Reads.map {f : α → β} {fields : List Field} (hd : Reads wild outside d fields a) :
    Reads wild outside (d >>= fun a => Pure.pure (f a)) fields (f a) := by
  have h := hd.bind (f := fun a => Pure.pure (f a)) (Reads.pure (f a))
  rwa [List.append_nil] at h

theorem encodedAll_singleton (field : Field) : encodedAll [field] = field.encoded :=
  List.flatMap_singleton ..

/-- What the reader of numbers returns, the decoder does. -/
theorem run_readNumber {s t : EncodingStream} {x : BitVec 64}
    (h : s.readNumber wild = some (x, t)) :
    readNumber.run (EncodingStream.step wild outside) s = some (x, t) := by
  rw [EncodingStream.readNumber_eq] at h
  obtain ⟨y, hvalue, hpair⟩ := Option.map_eq_some_iff.mp h
  cases hpair
  exact Program.run_ask (Prod.ext rfl hvalue)

theorem calls_readNumber (s : EncodingStream) :
    readNumber.calls (EncodingStream.step wild outside) s = [⟨s, .number⟩] := Program.calls_ask

theorem calls_readString (s : EncodingStream) :
    readString.calls (EncodingStream.step wild outside) s = [⟨s, .str⟩] := Program.calls_ask

theorem number_whole {s : EncodingStream} :
    ∀ v ∈ [(⟨s, .number⟩ : Called EncodingStream StreamCall)],
      v.call = .str → ¬v.before.Overhangs wild := by
  intro v hv hstr
  rw [List.mem_singleton.mp hv] at hstr
  cases hstr

/-- A string that the reader returns does not overhang. -/
theorem not_overhangs {s : EncodingStream} (h : (s.readString wild).isSome) :
    ¬s.Overhangs wild := by
  rintro ⟨len, hlen, hsum, hover⟩
  have hnumber : s.readNumber wild =
      some (len, { s with offset := (s.number wild).offset }) := by
    rw [EncodingStream.readNumber_eq, hlen]
    rfl
  unfold EncodingStream.readString at h
  rw [hnumber] at h
  dsimp only [Option.bind_eq_bind, Option.bind_some] at h
  rw [if_pos hover, ite_self] at h
  cases h

theorem run_readString {s t : EncodingStream} {str : Bytes} (hmax : s.data.length ≤ maxSize)
    (h : s.readString wild = some (str, t)) :
    readString.run (EncodingStream.step wild outside) s = some (str, t) := by
  have hwhole : ¬s.Overhangs wild := not_overhangs (by rw [h]; rfl)
  rw [@EncodingStream.readString_eq wild outside s hmax hwhole] at h
  obtain ⟨bytes, hvalue, hpair⟩ := Option.map_eq_some_iff.mp h
  cases hpair
  exact Program.run_ask (Prod.ext rfl hvalue)

theorem reads_number {x : BitVec 64} (h : Small x) :
    Reads wild outside readNumber [.uint64 x] x := by
  refine ⟨List.forall_mem_singleton.mpr trivial, ?_⟩
  rintro data pre rest rfl hmax
  rw [encodedAll_singleton] at hmax ⊢
  have hread := @read_encoded wild pre rest (.uint64 x) h
    (Nat.lt_of_le_of_lt hmax (by decide))
  obtain ⟨⟨y, t⟩, hnumber, hpair⟩ := Option.map_eq_some_iff.mp hread
  cases hpair
  refine ⟨run_readNumber hnumber, ?_⟩
  rw [calls_readNumber]
  exact number_whole

theorem reads_int32 {x : BitVec 32} (h : Small x) :
    Reads wild outside readInt32 [.int32 x] x := by
  refine ⟨List.forall_mem_singleton.mpr trivial, ?_⟩
  rintro data pre rest rfl hmax
  rw [encodedAll_singleton] at hmax ⊢
  have hread := @read_encoded wild pre rest (.int32 x) h
    (Nat.lt_of_le_of_lt hmax (by decide))
  obtain ⟨⟨y, t⟩, hint, hpair⟩ := Option.map_eq_some_iff.mp hread
  cases hpair
  obtain ⟨⟨num, t⟩, hnumber, hpair⟩ := Option.map_eq_some_iff.mp hint
  cases hpair
  unfold readInt32
  refine ⟨?_, fun v hv => ?_⟩
  · rw [Program.run_bind, run_readNumber hnumber]
    rfl
  · rw [Program.calls_bind, run_readNumber hnumber, calls_readNumber] at hv
    exact (List.mem_append.mp hv).elim (number_whole v) fun hnil =>
      absurd hnil List.not_mem_nil

theorem reads_string {str : Bytes} (h : Short str) :
    Reads wild outside readString [.str str] str := by
  refine ⟨List.forall_mem_singleton.mpr (@Field.InRange.writable (.str str) h), ?_⟩
  rintro data pre rest rfl hmax
  rw [encodedAll_singleton] at hmax ⊢
  have hread := @read_encoded wild pre rest (.str str) h
    (Nat.lt_of_le_of_lt hmax (by decide))
  obtain ⟨⟨bytes, t⟩, hstring, hpair⟩ := Option.map_eq_some_iff.mp hread
  cases hpair
  refine ⟨run_readString hmax hstring, fun v hv _ => ?_⟩
  rw [calls_readString] at hv
  rw [List.mem_singleton.mp hv]
  exact not_overhangs (by rw [hstring]; rfl)

end Reads

section Geometries

variable {wild : Nat → BitVec 32 → BitVec 32} {outside : Nat → BitVec 8}

theorem rounds_ofNat {α : Type} {l : List α} (h : Short l) :
    rounds (BitVec.ofNat 32 l.length) = l.length := by
  unfold Short at h
  unfold rounds
  rw [BitVec.toInt_eq_toNat_cond, BitVec.toNat_ofNat]
  omega

theorem small_length {α : Type} {l : List α} (h : Short l) :
    Small (BitVec.ofNat 32 l.length) := by
  unfold Short at h
  refine .inl ?_
  rw [BitVec.toNat_ofNat]
  omega

/-- Places on earth are less than 2^30 millionths of a degree apart. -/
theorem Node.OnEarth.small {node node0 : Node} (h : node.OnEarth) (h0 : node0.OnEarth) :
    (Small node.lati ∧ Small node.loni) ∧
      Small (node0.lati - node.lati) ∧ Small (node0.loni - node.loni) := by
  obtain ⟨hlati, hloni⟩ := h
  obtain ⟨hlati0, hloni0⟩ := h0
  unfold Small
  simp only [BitVec.toInt_eq_toNat_cond, BitVec.toNat_sub] at *
  omega

theorem reads_node {first : Option Node} {node : Node} (h : node.OnEarth)
    (hfirst : ∀ node0 ∈ first, node0.OnEarth) :
    Reads wild outside (readNode first) (node.fields first) node := by
  cases first with
  | none =>
    obtain ⟨⟨hlati, hloni⟩, -⟩ := h.small h
    exact (reads_int32 hlati).bind ((reads_int32 hloni).map)
  | some node0 =>
    obtain ⟨-, hlati, hloni⟩ := h.small (hfirst node0 rfl)
    have hreads : Reads wild outside (readNode (some node0)) (node.fields (some node0))
        ⟨node0.lati - (node0.lati - node.lati), node0.loni - (node0.loni - node.loni)⟩ :=
      (reads_int32 hlati).bind ((reads_int32 hloni).map)
    have hback : ∀ x y : BitVec 32, x - (x - y) = y := by
      intro x y
      bv_omega
    rwa [hback, hback] at hreads

theorem reads_nodes (keep : Rat → Rat) (first : Option Node) {nodes : List Node}
    (h : ∀ node ∈ nodes, node.OnEarth) (hfirst : ∀ node0 ∈ first, node0.OnEarth) :
    Reads wild outside (readNodes keep first nodes.length) (nodesFields first nodes)
      (nodes.map (Node.pointLL keep)) := by
  induction nodes generalizing first with
  | nil => exact Reads.pure []
  | cons node nodes ih =>
    obtain ⟨hnode, hrest⟩ := List.forall_mem_cons.mp h
    refine (reads_node hnode hfirst).bind ((ih _ hrest ?_).map)
    rintro node0 ⟨⟩
    cases first with
    | none => exact hnode
    | some node0 => exact hfirst node0 rfl

theorem reads_tags {tags : Tags} (h : ∀ tag ∈ tags, Short tag.1 ∧ Short tag.2) :
    Reads wild outside (readTags tags.length) (tagsFields tags) () := by
  induction tags with
  | nil => exact Reads.pure ()
  | cons tag tags ih =>
    obtain ⟨⟨hkey, hval⟩, hrest⟩ := List.forall_mem_cons.mp h
    exact (reads_string hkey).bind ((reads_string hval).bind (ih hrest))

theorem reads_building {first : Option Node} {building : StoredBuilding}
    (h : building.OnEarth) (hfirst : ∀ node0 ∈ first, node0.OnEarth) :
    Reads wild outside (readBuilding first) (building.fields first)
      (building.node, building.building) := by
  refine (reads_node h.node hfirst).bind ((reads_string h.houseNumber).bind ?_)
  dsimp only
  split
  · exact Reads.pure _
  · refine (reads_int32 (small_length h.short)).bind ?_
    rw [rounds_ofNat h.short]
    exact (reads_tags h.texts).map

theorem reads_buildings (first : Option Node) {buildings : List StoredBuilding}
    (h : ∀ b ∈ buildings, b.OnEarth) (hfirst : ∀ node0 ∈ first, node0.OnEarth) :
    Reads wild outside (readBuildings first buildings.length) (buildingsFields first buildings)
      (buildings.map StoredBuilding.building) := by
  induction buildings generalizing first with
  | nil => exact Reads.pure []
  | cons b buildings ih =>
    obtain ⟨hbuilding, hrest⟩ := List.forall_mem_cons.mp h
    refine (reads_building hbuilding hfirst).bind ((ih _ hrest ?_).map)
    rintro node0 ⟨⟩
    cases first with
    | none => exact hbuilding.node
    | some node0 => exact hfirst node0 rfl

theorem reads_interpolation {gType interpType : BitVec 32} {buildings : List StoredBuilding}
    (nameid cityid entid : BitVec 64) (hgType : Small gType) (hinterp : Small interpType)
    (hshort : Short buildings) (h : ∀ b ∈ buildings, b.OnEarth) :
    Reads wild outside (processStreetInterpolation nameid cityid entid)
      (interpolationFields gType interpType buildings)
      (entid, interpolation nameid cityid interpType buildings) := by
  refine (reads_int32 hgType).bind ((reads_int32 hinterp).bind
    ((reads_int32 (small_length hshort)).bind ?_))
  rw [rounds_ofNat hshort]
  have hbuildings := (@reads_buildings wild outside none _ h nofun).map
    (f := fun buildings : List GeoBuilding =>
      (entid, (⟨nameid.setWidth 32, cityid.setWidth 32,
        buildings.head?.map fun _ => interpType, buildings⟩ : GeoStreetInterpolation)))
  rwa [List.head?_map, Option.map_map] at hbuildings

theorem reads_line {gType : BitVec 32} (keep : Rat → Rat) (nameid cityid entid : BitVec 64)
    {boundary : StoredBoundary} (hgType : Small gType) (h : boundary.OnEarth) :
    Reads wild outside
      (readBoundary keep nameid cityid entid boundary.type boundary.houseNumber boundary.bnameid)
      (lineFields gType boundary.nodes) (entid, boundary.boundary keep nameid cityid) := by
  refine (reads_int32 hgType).bind ((reads_int32 (small_length h.short)).bind ?_)
  rw [rounds_ofNat h.short]
  exact (reads_nodes keep none h.nodes nofun).map

theorem reads_boundary {gType : BitVec 32} (keep : Rat → Rat) (nameid cityid entid : BitVec 64)
    {boundary : StoredBoundary} (hgType : Small gType) (h : boundary.OnEarth) :
    Reads wild outside
      (processBuilding_Street_Admin_Boundaries keep nameid cityid entid boundary.type)
      (boundary.fields gType) (entid, boundary.boundary keep nameid cityid) := by
  have hline := @reads_line wild outside _ keep nameid cityid entid _ hgType h
  unfold processBuilding_Street_Admin_Boundaries StoredBoundary.fields
  by_cases htype : boundary.type = buildingBoundaries
  · rw [if_pos htype, if_pos htype]
    exact (reads_string h.houseNumber).bind ((reads_number h.bnameid).bind hline)
  · rw [if_neg htype, if_neg htype]
    obtain ⟨hnumber, hname⟩ := h.other htype
    rw [hnumber, hname] at hline
    exact hline

theorem reads_place (nameid cityid entid : BitVec 64) (type : Int) {node : Node}
    (h : node.OnEarth) :
    Reads wild outside (processPlace_Boundaries nameid cityid entid type) (node.fields none)
      (entid, node.place nameid cityid type) :=
  (@reads_node wild outside none _ h nofun).map

end Geometries

section Coordinates

/-- Rounded to a `double` and then to a `float`. -/
theorem abs_single_degrees_sub_lt {x : BitVec 32}
    (h : -180000000 ≤ x.toInt ∧ x.toInt ≤ 180000000) :
    |single (degrees x) - x.toInt / coorKr| < 8 / coorKr := by
  have hlow : (-180000000 : Rat) ≤ x.toInt := by exact_mod_cast h.1
  have hhigh : (x.toInt : Rat) ≤ 180000000 := by exact_mod_cast h.2
  have hsmall : |(x.toInt : Rat) / coorKr| ≤ 180 := by
    unfold coorKr
    rw [abs_le]
    constructor <;> linarith
  have hdouble : |degrees x - x.toInt / coorKr| ≤ 2 ^ (8 - 53 : Int) / 2 :=
    abs_rounded_sub_le_zpow (by decide) (hsmall.trans_lt (by norm_num))
  have hkept : |degrees x| < 2 ^ (8 : Int) := by
    have hsum := abs_add_le (degrees x - x.toInt / coorKr) (x.toInt / coorKr)
    rw [sub_add_cancel] at hsum
    norm_num at hdouble ⊢
    linarith
  have hsingle : |single (degrees x) - degrees x| ≤ 2 ^ (8 - 24 : Int) / 2 :=
    abs_rounded_sub_le_zpow (by decide) hkept
  have hboth := abs_sub_le (single (degrees x)) (degrees x) (x.toInt / coorKr)
  unfold coorKr at *
  norm_num at hdouble hsingle ⊢
  linarith

theorem Node.OnEarth.near {node : Node} (h : node.OnEarth) :
    node.Near (single (degrees node.lati)) (single (degrees node.loni)) := by
  obtain ⟨hlati, hloni⟩ := h
  refine ⟨abs_single_degrees_sub_lt ?_, abs_single_degrees_sub_lt hloni⟩
  constructor <;> omega

end Coordinates

section Decoding

variable (wild : Nat → BitVec 32 → BitVec 32) (outside : Nat → BitVec 8) {α : Type}

/-- The fields can be written to a blob, from which the decoder makes `a`, reading all of
the blob and nothing else. -/
def DecodedTo (d : Decoder α) (fields : List Field) (a : α) : Prop :=
  ∃ blob : Blob, writeAll fields [] = some blob.bytes ∧
    d.run (EncodingStream.step wild outside) blob.stream =
      some (a, ⟨blob.bytes, blob.bytes.length⟩) ∧
    blob.Decodes wild outside d

variable {wild outside}

/-- Fields that a decoder reads are decoded as far as a vector can hold them. -/
theorem decodedTo_iff {d : Decoder α} {fields : List Field} {a : α}
    (h : Reads wild outside d fields a) :
    DecodedTo wild outside d fields a ↔ (encodedAll fields).length ≤ maxSize := by
  have hempty : ([] : Bytes).length ≤ maxSize := Nat.zero_le _
  constructor
  · rintro ⟨blob, hwrite, -, -⟩
    obtain ⟨hbytes, hmax, -⟩ := (writeAll_eq_some_iff hempty).mp hwrite
    rwa [hbytes] at hmax
  · intro hmax
    obtain ⟨hrun, hwhole⟩ := h.runs (encodedAll fields) [] [] (List.append_nil _).symm hmax
    refine ⟨⟨encodedAll fields, hmax⟩, ?_, ?_, ?_⟩
    · exact (writeAll_eq_some_iff hempty).mpr ⟨rfl, hmax, h.writable⟩
    · rw [List.length_nil, Nat.zero_add] at hrun
      exact hrun
    · exact (Blob.decodes_iff wild outside _ d).mpr hwhole

theorem int32_encoded_length_le (x : BitVec 32) : (Field.int32 x).encoded.length ≤ 5 :=
  Varint.encode_length_le (k := 4) (Nat.lt_of_lt_of_le (zzMap x).isLt (by decide))

/-- A place takes at most ten bytes. -/
theorem node_fits (node : Node) : (encodedAll (node.fields none)).length ≤ maxSize := by
  have hlati := int32_encoded_length_le node.lati
  have hloni := int32_encoded_length_le node.loni
  have hlength : (encodedAll (node.fields none)).length =
      (Field.int32 node.lati).encoded.length + (Field.int32 node.loni).encoded.length := by
    unfold encodedAll Node.fields
    simp
  unfold maxSize
  omega

/-- Street interpolations and boundaries are decoded from their fields, with any numbers of
nodes, as far as a vector can hold them, and places always are. Buildings and places are
near the nodes that are stored for them. -/
theorem geometries_decoded (wild : Nat → BitVec 32 → BitVec 32) (outside : Nat → BitVec 8)
    (keep : Rat → Rat) (nameid cityid entid : BitVec 64) (gType interpType : BitVec 32)
    (hgType : Small gType) (hinterp : Small interpType) (buildings : List StoredBuilding)
    (hshort : Short buildings) (hbuildings : ∀ b ∈ buildings, b.OnEarth)
    (boundary : StoredBoundary) (hboundary : boundary.OnEarth) (type : Int) (node : Node)
    (hnode : node.OnEarth) :
    (DecodedTo wild outside (processStreetInterpolation nameid cityid entid)
        (interpolationFields gType interpType buildings)
        (entid, interpolation nameid cityid interpType buildings) ↔
      (encodedAll (interpolationFields gType interpType buildings)).length ≤ maxSize) ∧
    (∀ b ∈ buildings, b.node.Near b.building.lat b.building.lon) ∧
    (DecodedTo wild outside
        (processBuilding_Street_Admin_Boundaries keep nameid cityid entid boundary.type)
        (boundary.fields gType) (entid, boundary.boundary keep nameid cityid) ↔
      (encodedAll (boundary.fields gType)).length ≤ maxSize) ∧
    DecodedTo wild outside (processPlace_Boundaries nameid cityid entid type)
      (node.fields none) (entid, node.place nameid cityid type) ∧
    node.Near (node.place nameid cityid type).latp (node.place nameid cityid type).lon := by
  refine ⟨?_, ?_, ?_, ?_, hnode.near⟩
  · exact decodedTo_iff (reads_interpolation nameid cityid entid hgType hinterp hshort hbuildings)
  · exact fun b hb => (hbuildings b hb).node.near
  · exact decodedTo_iff (reads_boundary keep nameid cityid entid hgType hboundary)
  · exact (decodedTo_iff (reads_place nameid cityid entid type hnode)).mpr (node_fits node)

/-- Two corners of a block. -/
def corners : List Node :=
  [⟨43849999#32, BitVec.ofInt 32 (-79501930)⟩, ⟨43850101#32, BitVec.ofInt 32 (-79500557)⟩]

/-- A house at each of them, with one tag. -/
def houses : List StoredBuilding := corners.map fun node => ⟨node, [55#8], [([110#8], [])]⟩

def outline : StoredBoundary := ⟨buildingBoundaries, [55#8], 9, corners⟩

def station : Node := ⟨43849999#32, BitVec.ofInt 32 (-79501930)⟩

theorem corners_onEarth : ∀ node ∈ corners, node.OnEarth := by
  unfold corners
  rw [List.forall_mem_cons, List.forall_mem_singleton]
  exact ⟨⟨by decide, by decide⟩, ⟨by decide, by decide⟩⟩

theorem houses_onEarth : ∀ b ∈ houses, b.OnEarth := by
  intro b hb
  obtain ⟨node, hnode, rfl⟩ := List.mem_map.mp hb
  refine ⟨corners_onEarth node hnode, ?_, ?_, ?_⟩ <;> unfold Short <;> simp

theorem outline_onEarth : outline.OnEarth := by
  refine ⟨corners_onEarth, ?_, ?_, .inl (by decide), fun hother => absurd rfl hother⟩ <;>
    unfold Short <;> decide

theorem geometries_decoded_corners :
    (DecodedTo (fun _ _ => 0#32) (fun _ => 0#8) (processStreetInterpolation 1 2 3)
        (interpolationFields 2 1 houses)
        (3, interpolation 1 2 1 houses) ↔
      (encodedAll (interpolationFields 2 1 houses)).length ≤ maxSize) ∧
    (∀ b ∈ houses, b.node.Near b.building.lat b.building.lon) ∧
    (DecodedTo (fun _ _ => 0#32) (fun _ => 0#8)
        (processBuilding_Street_Admin_Boundaries id 1 2 3 outline.type) (outline.fields 2)
        (3, outline.boundary id 1 2) ↔
      (encodedAll (outline.fields 2)).length ≤ maxSize) ∧
    DecodedTo (fun _ _ => 0#32) (fun _ => 0#8) (processPlace_Boundaries 1 2 3 36)
      (station.fields none) (3, station.place 1 2 36) ∧
    station.Near (station.place 1 2 36).latp (station.place 1 2 36).lon :=
  geometries_decoded _ _ id 1 2 3 2 1 (.inl (by decide)) (.inl (by decide)) houses
    (by unfold Short houses corners; decide) houses_onEarth outline outline_onEarth 36 station
    (corners_onEarth _ List.mem_cons_self)

/-- Two nodes may be kept as the same place. -/
example : Node.place 1 2 36 ⟨43849999#32, 0#32⟩ = Node.place 1 2 36 ⟨43850000#32, 0#32⟩ := by
  decide +kernel

end Decoding

end UCLinux.Geocoding
