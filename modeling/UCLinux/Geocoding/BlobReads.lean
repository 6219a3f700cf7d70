import UCLinux.Geocoding.EncodingStream
import UCLinux.Machine.Adaptive
import UCLinux.Machine.Rounding

/-!
What is read of a geometry blob, byte by byte. The blob may hold anything. Each
call of the stream says which of its bytes it reads, where its offset stands
afterwards, and what it returns when it does not throw. A string is compared
with the size by the offset in front of its length, so the last bytes of one can
lie behind the blob. A coordinate is stored in millionths of a degree and kept as
a floating-point number of degrees.
-/

namespace UCLinux.Geocoding

open Machine Machine.Rounding

section Calls

inductive StreamCall where
  | number
  | str
  | float
  deriving DecidableEq, Repr

def StreamCall.Answer : StreamCall → Type
  | .number => BitVec 64
  | .str => Bytes
  | .float => BitVec 32

/-- The bytes a call reads, the offset behind it, and its value unless it
throws. -/
structure Outcome (α : Type) where
  reads : List Nat
  offset : Nat
  value : Option α

/-- What a `std::string` can hold; a longer one throws. -/
def maxStringSize : Nat := 2 ^ 62 - 1

namespace EncodingStream

-- `outside` is what memory holds behind the blob
variable (wild : Nat → BitVec 32 → BitVec 32) (outside : Nat → BitVec 8) (s : EncodingStream)

def byteAt (i : Nat) : BitVec 8 := s.data[i]?.getD (outside i)

/-- Without a last byte all that is left is read. -/
def number : Outcome (BitVec 64) :=
  match Varint.foldGroups (orGroup wild) 0 0 (s.data.drop s.offset) with
  | some (ret, n) => ⟨List.range' s.offset n, s.offset + n, some (unmap ret)⟩
  | none => ⟨List.range' s.offset (s.data.length - s.offset),
      s.offset + (s.data.length - s.offset), none⟩

/-- A string of `len` bytes behind its length. The offset is moved before the
string is built. -/
def copy (len : BitVec 64) : Outcome Bytes :=
  let length := s.number wild
  if s.data.length < (s.offset + len.toNat) % 2 ^ 64 then ⟨length.reads, length.offset, none⟩
  else if maxStringSize < len.toNat then
    ⟨length.reads, (length.offset + len.toNat) % 2 ^ 64, none⟩
  else
    let copied := List.range' length.offset len.toNat
    ⟨length.reads ++ copied, (length.offset + len.toNat) % 2 ^ 64,
      some (copied.map (s.byteAt outside))⟩

def str : Outcome Bytes :=
  match (s.number wild).value with
  | none => ⟨(s.number wild).reads, (s.number wild).offset, none⟩
  | some len => s.copy wild outside len

/-- The bits of the float, highest byte first. -/
def float : Outcome (BitVec 32) :=
  if s.data.length < (s.offset + 4) % 2 ^ 64 then ⟨[], s.offset, none⟩
  else
    let read := List.range' s.offset 4
    ⟨read, s.offset + 4,
      some (read.foldl (fun val i => val <<< 8 ||| (s.byteAt outside i).setWidth 32) 0)⟩

def respond : (c : StreamCall) → Outcome c.Answer
  | .number => s.number wild
  | .str => s.str wild outside
  | .float => s.float outside

/-- One call of the stream. -/
def step (c : StreamCall) : EncodingStream × Option c.Answer :=
  ({ s with offset := (s.respond wild outside c).offset }, (s.respond wild outside c).value)

/-- The call reads bytes of the blob, and leaves the offset in it. -/
def Inside (c : StreamCall) : Prop :=
  (∀ i ∈ (s.respond wild outside c).reads, i < s.data.length) ∧
    (s.respond wild outside c).offset ≤ s.data.length

/-- A string stands at the offset whose end is behind the blob, though counted
from its length on it is not. -/
def Overhangs : Prop :=
  ∃ len ∈ (s.number wild).value, s.offset + len.toNat ≤ s.data.length ∧
    s.data.length < (s.number wild).offset + len.toNat

end EncodingStream

end Calls

section Steps

variable {wild : Nat → BitVec 32 → BitVec 32} {outside : Nat → BitVec 8} {s : EncodingStream}

theorem mem_range' {i a n : Nat} : i ∈ List.range' a n ↔ a ≤ i ∧ i < a + n :=
  List.mem_range'_1

namespace EncodingStream

variable (s wild) in
/-- A number stays in the blob. -/
theorem number_inside (hs : s.offset ≤ s.data.length) :
    (∀ i ∈ (s.number wild).reads, i < s.data.length) ∧ (s.number wild).offset ≤ s.data.length := by
  unfold number
  split
  · rename_i ret n hfold
    have hcount := (Varint.foldGroups_count hfold).2
    rw [List.length_drop] at hcount
    refine ⟨fun i hi => ?_, ?_⟩
    · have hlt := (mem_range'.mp hi).2
      omega
    · dsimp only
      omega
  · refine ⟨fun i hi => ?_, ?_⟩
    · have hlt := (mem_range'.mp hi).2
      omega
    · dsimp only
      omega

/-- A number that is returned has at least one byte, and it is in the blob. -/
theorem number_returns (h : (s.number wild).value.isSome) :
    s.offset < (s.number wild).offset ∧ (s.number wild).offset ≤ s.data.length := by
  unfold number at h ⊢
  split
  · rename_i ret n hfold
    have hcount := Varint.foldGroups_count hfold
    rw [List.length_drop] at hcount
    dsimp only
    omega
  · rename_i hfold
    rw [hfold] at h
    cases h

theorem readNumber_eq : s.readNumber wild = (s.number wild).value.map fun x =>
    (x, { s with offset := (s.number wild).offset }) := by
  unfold number readNumber
  cases Varint.foldGroups (orGroup wild) 0 0 (s.data.drop s.offset) <;> rfl

theorem number_small {x : BitVec 64} (h : (s.number wild).value = some x) : Small x := by
  have hread : s.readNumber wild = some (x, { s with offset := (s.number wild).offset }) := by
    rw [readNumber_eq, h]
    rfl
  exact readNumber_small hread

theorem str_none (h : (s.number wild).value = none) : s.str wild outside =
    ⟨(s.number wild).reads, (s.number wild).offset, none⟩ := by
  rw [str, h]

theorem str_some {len : BitVec 64} (h : (s.number wild).value = some len) :
    s.str wild outside = s.copy wild outside len := by
  rw [str, h]

variable (s outside) in
/-- What a string call does by its length: a length in range that passes the
comparison is copied, any other one throws with the offset in the blob. -/
theorem copy_cases {len : BitVec 64} (hvalue : (s.number wild).value = some len)
    (hmax : s.data.length ≤ maxSize) :
    (s.offset + len.toNat ≤ s.data.length ∧ s.copy wild outside len =
        ⟨(s.number wild).reads ++ List.range' (s.number wild).offset len.toNat,
          (s.number wild).offset + len.toNat,
          some ((List.range' (s.number wild).offset len.toNat).map (s.byteAt outside))⟩) ∨
      (s.data.length < s.offset + len.toNat ∧
        (s.copy wild outside len).reads = (s.number wild).reads ∧
        (s.copy wild outside len).offset ≤ s.data.length ∧
        (s.copy wild outside len).value = none) := by
  have hsmall := number_small hvalue
  obtain ⟨hbefore, hle⟩ := number_returns (by rw [hvalue]; rfl)
  have hlt := len.isLt
  unfold Small at hsmall
  unfold maxSize at hmax
  unfold copy
  dsimp only
  by_cases hshort : s.data.length < (s.offset + len.toNat) % 2 ^ 64
  · rw [if_pos hshort]
    exact Or.inr ⟨by omega, rfl, hle, rfl⟩
  rw [if_neg hshort]
  by_cases hlong : maxStringSize < len.toNat
  · rw [if_pos hlong]
    unfold maxStringSize at hlong
    exact Or.inr ⟨by omega, rfl, by dsimp only; omega, rfl⟩
  · rw [if_neg hlong]
    unfold maxStringSize at hlong
    rw [Nat.mod_eq_of_lt (by omega)] at hshort ⊢
    exact Or.inl ⟨by omega, rfl⟩

/-- A string is read inside the blob unless it overhangs. A negative length is
an enormous one: it fails the comparison or the string throws. -/
theorem str_inside_iff (hs : s.offset ≤ s.data.length) (hmax : s.data.length ≤ maxSize) :
    s.Inside wild outside .str ↔ ¬s.Overhangs wild := by
  obtain ⟨hreads, hoffset⟩ := s.number_inside wild hs
  unfold Inside Overhangs respond
  cases hvalue : (s.number wild).value with
  | none =>
    dsimp only
    rw [str_none hvalue]
    refine iff_of_true ⟨hreads, hoffset⟩ ?_
    rintro ⟨len, hlen, _⟩
    cases hlen
  | some len =>
    dsimp only
    rw [str_some hvalue]
    simp only [Option.mem_some_iff, exists_eq_left']
    rcases s.copy_cases outside hvalue hmax with ⟨hsum, hcopy⟩ | ⟨hsum, hcopied, hend, _⟩
    · rw [hcopy, and_iff_right hsum, not_lt]
      refine ⟨fun h => h.2, fun hend => ⟨fun i hi => ?_, hend⟩⟩
      rcases List.mem_append.mp hi with hi | hi
      · exact hreads i hi
      · exact Nat.lt_of_lt_of_le (mem_range'.mp hi).2 hend
    · rw [hcopied]
      exact iff_of_true ⟨hreads, hend⟩ fun hover => absurd hover.1 (not_le.mpr hsum)

theorem float_inside (hs : s.offset ≤ s.data.length) (hmax : s.data.length ≤ maxSize) :
    s.Inside wild outside .float := by
  unfold Inside respond float
  unfold maxSize at hmax
  by_cases hshort : s.data.length < (s.offset + 4) % 2 ^ 64
  · simp only [if_pos hshort]
    exact ⟨fun i hi => absurd hi List.not_mem_nil, hs⟩
  · simp only [if_neg hshort]
    rw [Nat.mod_eq_of_lt (by omega)] at hshort
    refine ⟨fun i hi => ?_, by omega⟩
    have hlast := (mem_range'.mp hi).2
    omega

/-- A call stays inside the blob unless it is that of an overhanging string. -/
theorem inside_iff {c : StreamCall} (hs : s.offset ≤ s.data.length)
    (hmax : s.data.length ≤ maxSize) :
    s.Inside wild outside c ↔ (c = .str → ¬s.Overhangs wild) := by
  cases c with
  | number => exact iff_of_true (s.number_inside wild hs) fun hstr => by cases hstr
  | str => exact (str_inside_iff hs hmax).trans (by simp)
  | float => exact iff_of_true (float_inside hs hmax) fun hstr => by cases hstr

/-- A call that returns takes bytes of the blob. -/
theorem step_headway {c : StreamCall} (hs : s.offset < 2 ^ 64 - 4)
    (hmax : s.data.length ≤ maxSize) (h : (s.step wild outside c).2.isSome) :
    s.offset < s.data.length ∧ s.offset < (s.step wild outside c).1.offset ∧
      (s.step wild outside c).1.offset < 2 ^ 64 - 4 := by
  cases c with
  | number =>
    obtain ⟨hbefore, hle⟩ := number_returns h
    unfold maxSize at hmax
    refine ⟨Nat.lt_of_lt_of_le hbefore hle, hbefore, ?_⟩
    exact Nat.lt_of_le_of_lt hle (by omega)
  | str =>
    unfold step respond at h ⊢
    dsimp only at h ⊢
    cases hvalue : (s.number wild).value with
    | none =>
      rw [str_none hvalue] at h
      cases h
    | some len =>
      obtain ⟨hbefore, hle⟩ := number_returns (by rw [hvalue]; rfl)
      rw [str_some hvalue] at h ⊢
      have hsmall := number_small hvalue
      have hcases := s.copy_cases outside hvalue hmax
      rcases hcases with ⟨hsum, hcopy⟩ | ⟨_, _, _, hthrown⟩
      · unfold maxSize at hmax
        unfold Small at hsmall
        rw [hcopy]
        dsimp only
        omega
      · rw [hthrown] at h
        cases h
  | float =>
    unfold maxSize at hmax
    unfold step respond float at h ⊢
    by_cases hshort : s.data.length < (s.offset + 4) % 2 ^ 64
    · simp only [if_pos hshort] at h
      cases h
    · simp only [if_neg hshort]
      rw [Nat.mod_eq_of_lt (by omega)] at hshort
      omega

theorem map_byteAt {a n : Nat} (h : a + n ≤ s.data.length) :
    (List.range' a n).map (s.byteAt outside) = (s.data.drop a).take n := by
  apply List.ext_getElem
  · rw [List.length_map, List.length_range', List.length_take, List.length_drop]
    omega
  · intro i hi _
    rw [List.length_map, List.length_range'] at hi
    have hbound : a + 1 * i < s.data.length := by omega
    rw [List.getElem_map, List.getElem_range', List.getElem_take, List.getElem_drop]
    unfold byteAt
    rw [List.getElem?_eq_getElem hbound, Option.getD_some]
    simp

/-- The reader of strings says what a string call returns, and nothing of one
that overhangs. -/
theorem readString_eq (hmax : s.data.length ≤ maxSize) (h : ¬s.Overhangs wild) :
    s.readString wild = (s.str wild outside).value.map fun bytes =>
      (bytes, { s with offset := (s.str wild outside).offset }) := by
  unfold readString
  cases hvalue : (s.number wild).value with
  | none =>
    rw [readNumber_eq, str_none hvalue, hvalue]
    rfl
  | some len =>
    have hwithin : s.offset + len.toNat ≤ s.data.length →
        (s.number wild).offset + len.toNat ≤ s.data.length := by
      intro hsum
      by_contra hover
      exact h ⟨len, hvalue, hsum, not_le.mp hover⟩
    obtain ⟨hbefore, hle⟩ := number_returns (by rw [hvalue]; rfl)
    have hlt := len.isLt
    rw [readNumber_eq, str_some hvalue, hvalue]
    simp only [Option.map_some, Option.bind_eq_bind, Option.bind_some]
    rcases s.copy_cases outside hvalue hmax with ⟨hsum, hcopy⟩ | ⟨hsum, _, _, hthrown⟩
    · have hend := hwithin hsum
      unfold maxSize at hmax
      rw [hcopy, Nat.mod_eq_of_lt (by omega), if_neg (by omega), if_neg (by omega),
        map_byteAt hend]
      rfl
    · rw [hthrown]
      split
      · rfl
      · rw [if_pos (by omega)]
        rfl

end EncodingStream

end Steps

section Geometries

abbrev Decoder (α : Type) := Program StreamCall StreamCall.Answer α

def readNumber : Decoder (BitVec 64) := Program.ask (R := StreamCall.Answer) StreamCall.number

def readString : Decoder Bytes := Program.ask (R := StreamCall.Answer) StreamCall.str

/-- A narrower number keeps the low bits. -/
def readInt32 : Decoder (BitVec 32) := do
  let num ← readNumber
  pure (num.setWidth 32)

/-- A loop `for (int i = 0; i < n; i++)` has this many rounds. -/
def rounds (n : BitVec 32) : Nat := n.toInt.toNat

/-- A point, in the unit of the database. -/
structure Node where
  lati : BitVec 32
  loni : BitVec 32
  deriving DecidableEq, Repr

/-- `_CoorKr_` -/
def coorKr : Rat := 1000000

/-- A coordinate in degrees, as a `double`. -/
def degrees (coordinate : BitVec 32) : Rat := double (coordinate.toInt / coorKr)

/-- Every node but the first is given by its distance from the first. -/
def readNode (first : Option Node) : Decoder Node := do
  let lati ← readInt32
  let loni ← readInt32
  pure (first.elim ⟨lati, loni⟩ fun node0 => ⟨node0.lati - lati, node0.loni - loni⟩)

/-- The coordinates are `float`s. -/
structure GeoBuilding where
  lat : Rat
  lon : Rat
  houseNumber : Bytes
  deriving DecidableEq, Repr

def GeoBuilding.new (lat lon : Rat) (houseNumber : Bytes) : GeoBuilding :=
  ⟨single lat, single lon, houseNumber⟩

/-- The name and the city are `int`s. `interpType` is set when a node is read. -/
structure GeoStreetInterpolation where
  nameid : BitVec 32
  cityid : BitVec 32
  interpType : Option (BitVec 32)
  buildings : List GeoBuilding
  deriving DecidableEq, Repr

structure PointLL where
  lng : Rat
  lat : Rat
  deriving DecidableEq, Repr

structure GeoBoundary where
  type : Int
  nameid : BitVec 32
  cityid : BitVec 32
  houseNumber : Bytes
  bnameid : BitVec 64
  ls : List PointLL
  deriving DecidableEq, Repr

/-- A place of interest. The coordinates are `float`s. -/
structure GeoPlace where
  type : Int
  nameid : BitVec 32
  cityid : BitVec 32
  latp : Rat
  lon : Rat
  deriving DecidableEq, Repr

/-- The additional tags are read and dropped. -/
def readTags : Nat → Decoder Unit
  | 0 => pure ()
  | n + 1 => do
    let _key ← readString
    let _val ← readString
    readTags n

/-- A node and the building at it. -/
def readBuilding (first : Option Node) : Decoder (Node × GeoBuilding) := do
  let node ← readNode first
  let houseNumber ← readString
  let bld := GeoBuilding.new (degrees node.lati) (degrees node.loni) houseNumber
  if houseNumber = [] then pure (node, bld)
  else do
    let asize ← readInt32
    readTags (rounds asize)
    pure (node, bld)

def readBuildings (first : Option Node) : Nat → Decoder (List GeoBuilding)
  | 0 => pure []
  | n + 1 => do
    let read ← readBuilding first
    let buildings ← readBuildings (some (first.getD read.1)) n
    pure (read.2 :: buildings)

-- `keep` is what a point keeps of a `double`
variable (keep : Rat → Rat)

def Node.pointLL (node : Node) : PointLL := ⟨keep (degrees node.loni), keep (degrees node.lati)⟩

def readNodes (first : Option Node) : Nat → Decoder (List PointLL)
  | 0 => pure []
  | n + 1 => do
    let node ← readNode first
    let ls ← readNodes (some (first.getD node)) n
    pure (node.pointLL keep :: ls)

variable (nameid cityid entid : BitVec 64)

def processStreetInterpolation : Decoder (BitVec 64 × GeoStreetInterpolation) := do
  let _gType ← readInt32
  let interpType ← readInt32
  let numberOfNodes ← readInt32
  let buildings ← readBuildings none (rounds numberOfNodes)
  pure (entid, ⟨nameid.setWidth 32, cityid.setWidth 32,
    buildings.head?.map fun _ => interpType, buildings⟩)

/-- `EntityType::BUILDING_BOUNDARIES` -/
def buildingBoundaries : Int := 34

/-- What the nodes of a boundary stand behind. -/
def readBoundary (type : Int) (houseNumber : Bytes) (bnameid : BitVec 64) :
    Decoder (BitVec 64 × GeoBoundary) := do
  let _gType ← readInt32
  let numberOfNodes ← readInt32
  let ls ← readNodes keep none (rounds numberOfNodes)
  pure (entid, ⟨type, nameid.setWidth 32, cityid.setWidth 32, houseNumber, bnameid, ls⟩)

def processBuilding_Street_Admin_Boundaries (type : Int) :
    Decoder (BitVec 64 × GeoBoundary) :=
  if type = buildingBoundaries then do
    let houseNumber ← readString
    let bnameid ← readNumber
    readBoundary keep nameid cityid entid type houseNumber bnameid
  else readBoundary keep nameid cityid entid type [] 0

def processPlace_Boundaries (type : Int) : Decoder (BitVec 64 × GeoPlace) := do
  let node ← readNode none
  pure (entid, ⟨type, nameid.setWidth 32, cityid.setWidth 32,
    single (degrees node.lati), single (degrees node.loni)⟩)

end Geometries

section Blobs

/-- A blob that a vector holds. -/
structure Blob where
  bytes : Bytes
  fits : bytes.length ≤ maxSize

def Blob.stream (blob : Blob) : EncodingStream := ⟨blob.bytes, 0⟩

variable (wild : Nat → BitVec 32 → BitVec 32) (outside : Nat → BitVec 8) (blob : Blob)
  {α : Type}

/-- The calls a decoder makes on a blob. -/
def Blob.calls (d : Decoder α) : List (Called EncodingStream StreamCall) :=
  d.calls (EncodingStream.step wild outside) blob.stream

/-- Every call of a decoder throws or reads bytes of the blob, the offset never
exceeds its size, and the calls are no more than the bytes and one. -/
structure Blob.Decodes (d : Decoder α) : Prop where
  inside : ∀ v ∈ blob.calls wild outside d, v.before.Inside wild outside v.call
  ends : (blob.calls wild outside d).length ≤ blob.bytes.length + 1

/-- No string that the decoder reads overhangs. -/
def Blob.Whole (d : Decoder α) : Prop :=
  ∀ v ∈ blob.calls wild outside d, v.call = .str → ¬v.before.Overhangs wild

theorem Blob.calls_inside_iff (d : Decoder α) :
    (∀ v ∈ blob.calls wild outside d, v.before.Inside wild outside v.call) ↔
      blob.Whole wild outside d := by
  let I (s : EncodingStream) : Prop := s.data = blob.bytes ∧ s.offset ≤ s.data.length
  have hiff (s : EncodingStream) (c : StreamCall) (hs : I s) :
      s.Inside wild outside c ↔ (c = .str → ¬s.Overhangs wild) :=
    EncodingStream.inside_iff hs.2 (hs.1 ▸ blob.fits)
  have hkeep (s : EncodingStream) (c : StreamCall) (hs : I s) (hinside : s.Inside wild outside c) :
      I (s.step wild outside c).1 := ⟨hs.1, hinside.2⟩
  exact Program.calls_safe_iff hiff hkeep ⟨rfl, Nat.zero_le _⟩

/-- Whatever the counts in the blob are, the loops of a decoder end. -/
theorem Blob.calls_length_le (d : Decoder α) :
    (blob.calls wild outside d).length ≤ blob.bytes.length + 1 := by
  let I (s : EncodingStream) : Prop := s.data = blob.bytes ∧ s.offset < 2 ^ 64 - 4
  have hstart : I blob.stream := ⟨rfl, Nat.zero_lt_of_ne_zero (by decide)⟩
  refine Program.length_calls_le (fun s => blob.bytes.length - s.offset)
    (fun s c hs hreturned => ?_) hstart
  obtain ⟨hdata, hoffset⟩ := hs
  obtain ⟨hbefore, hless, hkept⟩ :=
    EncodingStream.step_headway hoffset (hdata ▸ blob.fits) hreturned
  refine ⟨⟨hdata, hkept⟩, ?_⟩
  rw [hdata] at hbefore
  omega

theorem Blob.decodes_iff (d : Decoder α) :
    blob.Decodes wild outside d ↔ blob.Whole wild outside d := by
  rw [← blob.calls_inside_iff]
  exact ⟨fun h => h.inside, fun h => ⟨h, blob.calls_length_le wild outside d⟩⟩

/-- Both functions that decode a geometry stay inside the blob and end exactly
when no string that they read overhangs. -/
theorem Blob.geometries_iff (keep : Rat → Rat) (nameid cityid entid : BitVec 64) (type : Int) :
    (blob.Decodes wild outside (processStreetInterpolation nameid cityid entid) ↔
        blob.Whole wild outside (processStreetInterpolation nameid cityid entid)) ∧
      (blob.Decodes wild outside
          (processBuilding_Street_Admin_Boundaries keep nameid cityid entid type) ↔
        blob.Whole wild outside
          (processBuilding_Street_Admin_Boundaries keep nameid cityid entid type)) :=
  ⟨blob.decodes_iff wild outside _, blob.decodes_iff wild outside _⟩

/-- A building boundary of one byte: a house number of one byte, which would be
the next one. -/
def shortBlob : Blob := ⟨[2#8], by decide⟩

/-- The house number is read from behind the blob. -/
theorem shortBlob_overread : ∃ v ∈ shortBlob.calls (fun _ _ => 0#32) (fun _ => 0#8)
    (processBuilding_Street_Admin_Boundaries id 0 0 0 buildingBoundaries),
    1 ∈ (v.before.respond (fun _ _ => 0#32) (fun _ => 0#8) v.call).reads ∧
      v.before.data.length = 1 :=
  ⟨⟨⟨[2#8], 0⟩, .str⟩, List.mem_cons_self, by decide, rfl⟩

end Blobs

end UCLinux.Geocoding
