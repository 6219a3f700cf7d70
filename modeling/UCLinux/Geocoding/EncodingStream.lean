import Mathlib.Tactic.Ring
import UCLinux.Machine.Varint

/-!
The streams of the geocoding database: numbers of variable length, and byte
strings behind their lengths. A signed number is mapped to an unsigned one
first, the sign going to bit 0, so that small numbers take few bytes.

`none` is an exception, or behaviour the language leaves undefined. What a
processor makes of a shift the language does not define is a parameter, `wild`.
-/

namespace UCLinux.Geocoding

open Machine

abbrev Bytes := List (BitVec 8)

section Writing

variable {w : Nat}

/-- The shift is by 31 and by 63 bits: all but one. -/
def zzMap (x : BitVec w) : BitVec w := (x <<< 1) ^^^ -(x >>> (w - 1))

def encodeVarint (value : BitVec w) : Bytes :=
  if _ : 127 < value.toNat then
    ((value &&& 127#w).setWidth 8 ||| 128#8) :: encodeVarint (value >>> 7)
  else [value.setWidth 8 &&& 127#8]
termination_by value.toNat
decreasing_by
  rw [BitVec.toNat_ushiftRight, Nat.shiftRight_eq_div_pow]
  omega

/-- What a vector can hold. -/
def maxSize : Nat := 2 ^ 63 - 1

/-- `push_back` of one byte after the other. -/
def pushBack (v bytes : Bytes) : Option Bytes :=
  if v.length + bytes.length ≤ maxSize then some (v ++ bytes) else none

def writeInt32ToStream (val : BitVec 32) (v : Bytes) : Option Bytes :=
  pushBack v (encodeVarint (zzMap val))

def writeUint64ToStream (val : BitVec 64) (v : Bytes) : Option Bytes :=
  pushBack v (encodeVarint (zzMap val))

/-- The length is converted to an `int32_t`, and the index that runs up to it is
an `int`, which overflows behind `INT_MAX`. -/
def writeStrToStream (str : Bytes) (v : Bytes) : Option Bytes := do
  let v ← writeInt32ToStream (BitVec.ofNat 32 str.length) v
  if str.length < 2 ^ 31 then pushBack v str else none

end Writing

/-- `MyEncodingStream` -/
structure EncodingStream where
  data : Bytes
  offset : Nat
  deriving DecidableEq, Repr

section Reading

variable (wild : Nat → BitVec 32 → BitVec 32)

/-- `(val & 127) << (7 * i)`, an `int`. It is defined while the product fits 32
bits. -/
def shiftGroup (i : Nat) (x : BitVec 32) : BitVec 32 :=
  if 7 * i < 32 ∧ x.toNat * 2 ^ (7 * i) < 2 ^ 32 then x <<< (7 * i) else wild i x

/-- `ret |= (val & 127) << (7 * i)`, where `ret` is a `long long`. -/
def orGroup (ret : BitVec 64) (i : Nat) (val : BitVec 8) : BitVec 64 :=
  ret ||| (shiftGroup wild i ((val &&& 127#8).setWidth 32)).signExtend 64

/-- `(ret >> 1) ^ -(ret & 0x1)`, where `ret` is a `long long`. -/
def unmap (ret : BitVec 64) : BitVec 64 := ret.sshiftRight 1 ^^^ -(ret &&& 1#64)

/-- The number as 64 bits; a narrower type keeps the low ones. -/
def EncodingStream.readNumber (s : EncodingStream) : Option (BitVec 64 × EncodingStream) :=
  (Varint.foldGroups (orGroup wild) 0 0 (s.data.drop s.offset)).map fun (ret, n) =>
    (unmap ret, { s with offset := s.offset + n })

def EncodingStream.readInt32 (s : EncodingStream) : Option (BitVec 32 × EncodingStream) :=
  (s.readNumber wild).map fun (num, s) => (num.setWidth 32, s)

/-- The sum that is compared with the size is one of `size_t`, and its offset is
that before the length. The bytes are copied from behind the length: where there
are not that many the copy throws or reads past the end. -/
def EncodingStream.readString (s : EncodingStream) : Option (Bytes × EncodingStream) := do
  let (len, t) ← s.readNumber wild
  if s.data.length < (s.offset + len.toNat) % 2 ^ 64 then none
  else if s.data.length < t.offset + len.toNat then none
  else pure ((s.data.drop t.offset).take len.toNat,
    { t with offset := t.offset + len.toNat })

end Reading

/-- A field of a stream. -/
inductive Field where
  | int32 (x : BitVec 32)
  | uint64 (x : BitVec 64)
  | str (s : Bytes)
  deriving DecidableEq, Repr

inductive FieldKind where
  | int32
  | uint64
  | str
  deriving DecidableEq, Repr

def Field.kind : Field → FieldKind
  | .int32 _ => .int32
  | .uint64 _ => .uint64
  | .str _ => .str

def Field.write : Field → Bytes → Option Bytes
  | .int32 x => writeInt32ToStream x
  | .uint64 x => writeUint64ToStream x
  | .str s => writeStrToStream s

def FieldKind.read (wild : Nat → BitVec 32 → BitVec 32) (s : EncodingStream) :
    FieldKind → Option (Field × EncodingStream)
  | .int32 => (s.readInt32 wild).map fun (x, t) => (.int32 x, t)
  | .uint64 => (s.readNumber wild).map fun (x, t) => (.uint64 x, t)
  | .str => (s.readString wild).map fun (x, t) => (.str x, t)

def writeAll : List Field → Bytes → Option Bytes
  | [], v => some v
  | field :: fields, v => do
    let v ← field.write v
    writeAll fields v

def readAll (wild : Nat → BitVec 32 → BitVec 32) :
    List FieldKind → EncodingStream → Option (List Field × EncodingStream)
  | [], s => some ([], s)
  | kind :: kinds, s => do
    let (field, t) ← kind.read wild s
    let (fields, t) ← readAll wild kinds t
    pure (field :: fields, t)

/-- The fields can be written, and reading the bytes gives them back and leaves
none. -/
def RoundTrips (wild : Nat → BitVec 32 → BitVec 32) (fields : List Field) : Prop :=
  ∃ v, writeAll fields [] = some v ∧
    readAll wild (fields.map Field.kind) ⟨v, 0⟩ = some (fields, ⟨v, v.length⟩)

section Values

variable {w : Nat}

theorem zzMap_of_lt {x : BitVec w} (hw : 0 < w) (hx : x.toNat < 2 ^ (w - 1)) :
    (zzMap x).toNat = 2 * x.toNat := by
  have hpow : 2 ^ w = 2 * 2 ^ (w - 1) := by
    rw [← Nat.pow_succ', Nat.succ_eq_add_one, Nat.sub_add_cancel hw]
  have hsign : x >>> (w - 1) = 0#w := by
    apply BitVec.eq_of_toNat_eq
    rw [BitVec.toNat_ushiftRight, Nat.shiftRight_eq_div_pow, Nat.div_eq_of_lt hx]
    rfl
  unfold zzMap
  rw [hsign, BitVec.neg_zero, BitVec.xor_zero, BitVec.toNat_shiftLeft, Nat.shiftLeft_eq,
    Nat.mod_eq_of_lt (by omega)]
  omega

theorem zzMap_of_le {x : BitVec w} (hw : 0 < w) (hx : 2 ^ (w - 1) ≤ x.toNat) :
    (zzMap x).toNat = 2 * 2 ^ w - 1 - 2 * x.toNat := by
  have hpow : 2 ^ w = 2 * 2 ^ (w - 1) := by
    rw [← Nat.pow_succ', Nat.succ_eq_add_one, Nat.sub_add_cancel hw]
  have hlt := x.isLt
  have hsign : x >>> (w - 1) = 1#w := by
    apply BitVec.eq_of_toNat_eq
    rw [BitVec.toNat_ushiftRight, Nat.shiftRight_eq_div_pow, BitVec.toNat_ofNat,
      Nat.mod_eq_of_lt (Nat.one_lt_two_pow (by omega))]
    exact Nat.div_eq_of_lt_le (by omega) (by omega)
  unfold zzMap
  rw [hsign, BitVec.neg_one_eq_allOnes, BitVec.xor_allOnes, BitVec.toNat_not,
    BitVec.toNat_shiftLeft, Nat.shiftLeft_eq, Nat.mod_eq_sub_mod (by omega),
    Nat.mod_eq_of_lt (by omega)]
  omega

/-- The loop over a number writes its groups. -/
theorem encodeVarint_eq (hw : 7 ≤ w) (value : BitVec w) :
    encodeVarint value = Varint.encode value.toNat := by
  have hseven : (127#w).toNat = 2 ^ 7 - 1 := by
    rw [BitVec.toNat_ofNat]
    exact Nat.mod_eq_of_lt (Nat.lt_of_lt_of_le (by omega) (Nat.pow_le_pow_right (by omega) hw))
  induction h : value.toNat using Nat.strongRecOn generalizing value with
  | ind n ih =>
    subst h
    have hshift : (value >>> 7).toNat = value.toNat / 128 := by
      rw [BitVec.toNat_ushiftRight, Nat.shiftRight_eq_div_pow]
    rw [encodeVarint]
    split
    · rename_i hmore
      rw [Varint.encode_of_le (by omega), ih _ (by omega) _ rfl, hshift]
      congr 1
      apply BitVec.eq_of_toNat_eq
      have hlow : ((value &&& 127#w).setWidth 8).toNat = value.toNat % 128 := by
        rw [BitVec.toNat_setWidth, BitVec.toNat_and, hseven, Nat.and_two_pow_sub_one_eq_mod]
        omega
      have hflag := Nat.two_pow_add_eq_or_of_lt (i := 7) (b := value.toNat % 128)
        (Nat.mod_lt _ (by omega)) 1
      have hbit : (128#8 : BitVec 8).toNat = 2 ^ 7 * 1 := rfl
      rw [BitVec.toNat_or, hlow, hbit, Nat.or_comm, ← hflag, BitVec.toNat_ofNat]
      omega
    · rename_i hlast
      rw [Varint.encode_of_lt (by omega)]
      congr 1
      apply BitVec.eq_of_toNat_eq
      have hbyte : (127#8 : BitVec 8).toNat = 2 ^ 7 - 1 := rfl
      rw [BitVec.toNat_and, hbyte, Nat.and_two_pow_sub_one_eq_mod, BitVec.toNat_setWidth,
        BitVec.toNat_ofNat]
      omega

/-- The buffers a number is encoded in, of 12 and of 24 bytes, are long enough. -/
theorem encodeVarint_length_le (hw : 7 ≤ w) {k : Nat} (hk : 2 ^ w ≤ 128 ^ (k + 1))
    (value : BitVec w) : (encodeVarint value).length ≤ k + 1 := by
  rw [encodeVarint_eq hw]
  exact Varint.encode_length_le (Nat.lt_of_lt_of_le value.isLt hk)

example (value : BitVec 32) : (encodeVarint value).length ≤ 5 :=
  encodeVarint_length_le (by decide) (by decide) value

example (value : BitVec 64) : (encodeVarint value).length ≤ 10 :=
  encodeVarint_length_le (by decide) (by decide) value

end Values

theorem signExtend_toNat (r : BitVec 32) :
    (r.signExtend 64).toNat =
      if r.toNat < 2 ^ 31 then r.toNat else r.toNat + (2 ^ 64 - 2 ^ 32) := by
  rw [BitVec.toNat_signExtend, BitVec.toNat_setWidth, BitVec.msb_eq_decide]
  have := r.isLt
  by_cases hsign : r.toNat < 2 ^ 31
  · rw [if_pos hsign, if_neg (by simp; omega)]
    omega
  · rw [if_neg hsign, if_pos (by simp; omega)]
    omega

/-- The sign stays where it was when the number is halved. -/
theorem unmap_toNat (ret : BitVec 64) :
    (unmap ret).toNat =
      if ret.toNat % 2 = 0 then ret.toNat / 2 + (if ret.toNat < 2 ^ 63 then 0 else 2 ^ 63)
      else 2 ^ 64 - 1 - (ret.toNat / 2 + (if ret.toNat < 2 ^ 63 then 0 else 2 ^ 63)) := by
  have hlt := ret.isLt
  have hhalf : (ret.sshiftRight 1).toNat =
      ret.toNat / 2 + (if ret.toNat < 2 ^ 63 then 0 else 2 ^ 63) := by
    by_cases hsign : ret.toNat < 2 ^ 63
    · have hmsb : ret.msb = false := by
        rw [BitVec.msb_eq_decide]
        exact decide_eq_false (by omega)
      rw [BitVec.toNat_sshiftRight_of_msb_false hmsb, if_pos hsign, Nat.shiftRight_eq_div_pow]
      omega
    · have hmsb : ret.msb = true := by
        rw [BitVec.msb_eq_decide]
        exact decide_eq_true (by omega)
      rw [BitVec.toNat_sshiftRight_of_msb_true hmsb, if_neg hsign, Nat.shiftRight_eq_div_pow]
      omega
  have hbit : (ret &&& 1#64).toNat = ret.toNat % 2 := by
    have hone : (1#64 : BitVec 64).toNat = 2 ^ 1 - 1 := rfl
    rw [BitVec.toNat_and, hone, Nat.and_two_pow_sub_one_eq_mod]
  unfold unmap
  by_cases heven : ret.toNat % 2 = 0
  · have hzero : ret &&& 1#64 = 0#64 := BitVec.eq_of_toNat_eq (hbit.trans heven)
    rw [hzero, BitVec.neg_zero, BitVec.xor_zero, hhalf, if_pos heven]
  · have hone : ret &&& 1#64 = 1#64 :=
      BitVec.eq_of_toNat_eq (hbit.trans (show ret.toNat % 2 = 1 by omega))
    rw [hone, BitVec.neg_one_eq_allOnes, BitVec.xor_allOnes, BitVec.toNat_not, hhalf,
      if_neg heven]

/-- Taken as a signed number it lies between -2^30 and 2^30 - 1. -/
def Small {w : Nat} (x : BitVec w) : Prop := x.toNat < 2 ^ 30 ∨ 2 ^ w - 2 ^ 30 ≤ x.toNat

theorem unmap_signExtend_small (r : BitVec 32) : Small (unmap (r.signExtend 64)) := by
  have := r.isLt
  have hsign := signExtend_toNat r
  have hunmap := unmap_toNat (r.signExtend 64)
  unfold Small
  generalize (unmap (r.signExtend 64)).toNat = x at hunmap ⊢
  generalize (r.signExtend 64).toNat = ret at hsign hunmap
  split at hsign <;> split at hunmap <;> split at hunmap <;> omega

section Reads

variable {wild : Nat → BitVec 32 → BitVec 32}

theorem orGroup_signExtend (r : BitVec 32) (i : Nat) (val : BitVec 8) :
    orGroup wild (r.signExtend 64) i val =
      (r ||| shiftGroup wild i ((val &&& 127#8).setWidth 32)).signExtend 64 :=
  BitVec.signExtend_or.symm

/-- Every group is an `int`, and so is what they are put together to. -/
theorem foldGroups_signExtend {bytes : Bytes} {ret : BitVec 64} {r : BitVec 32} {i n : Nat}
    (h : Varint.foldGroups (orGroup wild) (r.signExtend 64) i bytes = some (ret, n)) :
    ∃ r' : BitVec 32, ret = r'.signExtend 64 := by
  induction bytes generalizing r i with
  | nil => cases h
  | cons byte rest ih =>
    rw [Varint.foldGroups, orGroup_signExtend] at h
    split at h
    · exact ih h
    · cases h
      exact ⟨_, rfl⟩

/-- Whatever the stream holds, a number read from it is small. -/
theorem readNumber_small {s t : EncodingStream} {x : BitVec 64}
    (h : s.readNumber wild = some (x, t)) : Small x := by
  obtain ⟨⟨ret, n⟩, hfold, hx⟩ := Option.map_eq_some_iff.mp h
  have hzero : (0 : BitVec 64) = (0#32).signExtend 64 := by decide
  rw [hzero] at hfold
  obtain ⟨r, rfl⟩ := foldGroups_signExtend hfold
  cases hx
  exact unmap_signExtend_small r

theorem payload_toNat (val : BitVec 8) :
    ((val &&& 127#8).setWidth 32).toNat = Varint.payload val := by
  have hbyte : (127#8 : BitVec 8).toNat = 2 ^ 7 - 1 := rfl
  rw [BitVec.toNat_setWidth, BitVec.toNat_and, hbyte, Nat.and_two_pow_sub_one_eq_mod]
  unfold Varint.payload
  omega

/-- What was put together of a number `V` of 32 bits, when `n` is left of it. -/
def Collected (V : Nat) (ret : BitVec 64) (i n : Nat) : Prop :=
  ∃ r : BitVec 32, ret = r.signExtend 64 ∧ r.toNat < 2 ^ (7 * i) ∧
    r.toNat + n * 2 ^ (7 * i) = V ∧ (n = 0 → i = 0)

/-- A group of a number that fits 32 bits goes above those before it. -/
theorem orGroup_collects (wild : Nat → BitVec 32 → BitVec 32) (val : BitVec 8) {V i n : Nat}
    (hV : V < 2 ^ 32) {ret : BitVec 64} (hval : Varint.payload val = n % 128) (h : Collected V ret i n) :
    ∃ r : BitVec 32, orGroup wild ret i val = r.signExtend 64 ∧
      r.toNat < 2 ^ (7 * (i + 1)) ∧ r.toNat + n / 128 * 2 ^ (7 * (i + 1)) = V := by
  obtain ⟨r, rfl, hlow, hsum, hstart⟩ := h
  have hpow : 2 ^ (7 * (i + 1)) = 128 * 2 ^ (7 * i) := by
    rw [Nat.mul_add, Nat.pow_add]
    ring
  have hsplit : n % 128 * 2 ^ (7 * i) + n / 128 * (128 * 2 ^ (7 * i)) = n * 2 ^ (7 * i) := by
    conv_rhs => rw [← Nat.mod_add_div n 128]
    ring
  have hgroup : n % 128 * 2 ^ (7 * i) < 2 ^ 32 := by omega
  have hshift : 7 * i < 32 := by
    rcases Nat.eq_zero_or_pos n with hn | hn
    · rw [hstart hn]
      omega
    · have hle : 1 * 2 ^ (7 * i) ≤ n * 2 ^ (7 * i) := Nat.mul_le_mul_right _ hn
      exact (Nat.pow_lt_pow_iff_right (by omega)).mp (show 2 ^ (7 * i) < 2 ^ 32 by omega)
  have hshifted : (shiftGroup wild i ((val &&& 127#8).setWidth 32)).toNat =
      n % 128 * 2 ^ (7 * i) := by
    unfold shiftGroup
    rw [payload_toNat, hval, if_pos ⟨hshift, hgroup⟩, BitVec.toNat_shiftLeft, payload_toNat, hval,
      Nat.shiftLeft_eq, Nat.mod_eq_of_lt hgroup]
  have hor : (r ||| shiftGroup wild i ((val &&& 127#8).setWidth 32)).toNat =
      n % 128 * 2 ^ (7 * i) + r.toNat := by
    rw [BitVec.toNat_or, hshifted, Nat.or_comm, Nat.mul_comm,
      Nat.two_pow_add_eq_or_of_lt hlow]
  refine ⟨_, orGroup_signExtend r i val, ?_, ?_⟩
  · have hdigit : n % 128 * 2 ^ (7 * i) ≤ 127 * 2 ^ (7 * i) :=
      Nat.mul_le_mul_right _ (by omega)
    rw [hor, hpow]
    omega
  · rw [hor, hpow]
    omega

/-- The groups of a number of 32 bits are put together to it. -/
theorem foldGroups_encode_fits {V : Nat} (hV : V < 2 ^ 32) (rest : Bytes) :
    Varint.foldGroups (orGroup wild) 0 0 (Varint.encode V ++ rest) =
      some ((BitVec.ofNat 32 V).signExtend 64, (Varint.encode V).length) := by
  have hzero : (0 : BitVec 64) = (0#32).signExtend 64 := by decide
  have hstep : ∀ ret i n, 128 ≤ n → Collected V ret i n →
      Collected V (orGroup wild ret i (BitVec.ofNat 8 (n % 128 + 128))) (i + 1) (n / 128) := by
    intro ret i n hn h
    have hval : Varint.payload (BitVec.ofNat 8 (n % 128 + 128)) = n % 128 := by
      rw [Varint.payload_ofNat]
      omega
    obtain ⟨r, hr, hlow, hsum⟩ := orGroup_collects wild _ hV hval h
    exact ⟨r, hr, hlow, hsum, fun hdiv => by omega⟩
  have hstart : Collected V 0 0 V := ⟨0#32, hzero, by simp, by simp, fun _ => rfl⟩
  obtain ⟨ret, k, m, hread, hm, hcollected⟩ := Varint.foldGroups_encode hstep rest hstart
  obtain ⟨r, hr, -, hsum⟩ :=
    orGroup_collects wild (BitVec.ofNat 8 m) hV (Varint.payload_ofNat m) hcollected
  have hwhole : r = BitVec.ofNat 32 V := by
    apply BitVec.eq_of_toNat_eq
    rw [BitVec.toNat_ofNat, Nat.mod_eq_of_lt hV]
    have hdiv : m / 128 = 0 := Nat.div_eq_of_lt hm
    rw [hdiv] at hsum
    omega
  rw [hread, hr, hwhole, Nat.zero_add]

/-- The mapping takes small numbers to those below 2^31, from which the reader
comes back. -/
theorem unmap_collected {V : Nat} (hV : V < 2 ^ 31) :
    (unmap ((BitVec.ofNat 32 V).signExtend 64)).toNat =
      if V % 2 = 0 then V / 2 else 2 ^ 64 - 1 - V / 2 := by
  have hret : ((BitVec.ofNat 32 V).signExtend 64).toNat = V := by
    have hbits : (BitVec.ofNat 32 V).toNat = V := by
      rw [BitVec.toNat_ofNat]
      omega
    rw [signExtend_toNat, hbits, if_pos hV]
  rw [unmap_toNat, hret, if_pos (show V < 2 ^ 63 by omega), Nat.add_zero]

theorem zzMap_small {w : Nat} {x : BitVec w} (hw : 32 ≤ w) (hx : Small x) :
    (zzMap x).toNat < 2 ^ 31 ∧ x.toNat =
      if (zzMap x).toNat % 2 = 0 then (zzMap x).toNat / 2
      else 2 ^ w - 1 - (zzMap x).toNat / 2 := by
  have hlt := x.isLt
  have hpow : 2 ^ w = 2 * 2 ^ (w - 1) := by
    rw [← Nat.pow_succ', Nat.succ_eq_add_one, Nat.sub_add_cancel (by omega)]
  have hlarge : 2 ^ 31 ≤ 2 ^ (w - 1) := Nat.pow_le_pow_right (by omega) (by omega)
  rcases hx with hx | hx
  · rw [zzMap_of_lt (by omega) (by omega), if_pos (by omega)]
    omega
  · rw [zzMap_of_le (by omega) (by omega), if_neg (by omega)]
    omega

variable (pre rest : Bytes)

theorem readNumber_encode {V : Nat} (hV : V < 2 ^ 31) :
    EncodingStream.readNumber wild ⟨pre ++ (Varint.encode V ++ rest), pre.length⟩ =
      some (unmap ((BitVec.ofNat 32 V).signExtend 64),
        ⟨pre ++ (Varint.encode V ++ rest), pre.length + (Varint.encode V).length⟩) := by
  unfold EncodingStream.readNumber
  rw [List.drop_left, foldGroups_encode_fits (by omega)]
  rfl

/-- The bytes of a field. -/
def Field.encoded : Field → Bytes
  | .int32 x => Varint.encode (zzMap x).toNat
  | .uint64 x => Varint.encode (zzMap x).toNat
  | .str s => Varint.encode (zzMap (BitVec.ofNat 32 s.length)).toNat ++ s

/-- The numbers the reader comes back to: those of 31 bits with their sign. -/
def Field.InRange : Field → Prop
  | .int32 x => Small x
  | .uint64 x => Small x
  | .str s => s.length < 2 ^ 30

/-- A string whose bytes stand behind its length. -/
theorem readString_of_number {s t : EncodingStream} {len : BitVec 64}
    (hnum : s.readNumber wild = some (len, t)) (hle : s.offset ≤ t.offset)
    (hfit : t.offset + len.toNat ≤ s.data.length) (hmax : s.data.length < 2 ^ 64) :
    s.readString wild = some ((s.data.drop t.offset).take len.toNat,
      { t with offset := t.offset + len.toNat }) := by
  have hsum : (s.offset + len.toNat) % 2 ^ 64 = s.offset + len.toNat :=
    Nat.mod_eq_of_lt (by omega)
  unfold EncodingStream.readString
  rw [hnum]
  dsimp only [Option.bind_eq_bind, Option.bind_some]
  rw [hsum, if_neg (by omega), if_neg (by omega)]
  rfl

/-- A field in range is read back, with anything before and behind it. -/
theorem read_encoded {field : Field} (hrange : field.InRange)
    (hmax : (pre ++ (field.encoded ++ rest)).length < 2 ^ 64) :
    field.kind.read wild ⟨pre ++ (field.encoded ++ rest), pre.length⟩ =
      some (field, ⟨pre ++ (field.encoded ++ rest), pre.length + field.encoded.length⟩) := by
  cases field with
  | int32 x =>
    obtain ⟨hV, hback⟩ := zzMap_small (by omega) hrange
    have hx : (unmap ((BitVec.ofNat 32 (zzMap x).toNat).signExtend 64)).setWidth 32 = x := by
      apply BitVec.eq_of_toNat_eq
      rw [BitVec.toNat_setWidth, unmap_collected hV]
      split at hback <;> rename_i heven
      · rw [if_pos heven]
        omega
      · rw [if_neg heven]
        omega
    unfold Field.encoded FieldKind.read EncodingStream.readInt32
    simp only [Field.kind, readNumber_encode pre rest hV, Option.map_some, hx]
  | uint64 x =>
    obtain ⟨hV, hback⟩ := zzMap_small (by omega) hrange
    have hx : unmap ((BitVec.ofNat 32 (zzMap x).toNat).signExtend 64) = x := by
      apply BitVec.eq_of_toNat_eq
      rw [unmap_collected hV, ← hback]
    unfold Field.encoded FieldKind.read
    simp only [Field.kind, readNumber_encode pre rest hV, Option.map_some, hx]
  | str s =>
    have hlen : (BitVec.ofNat 32 s.length).toNat = s.length := by
      rw [BitVec.toNat_ofNat]
      exact Nat.mod_eq_of_lt (Nat.lt_trans hrange (by omega))
    obtain ⟨hV, hback⟩ := zzMap_small (x := BitVec.ofNat 32 s.length) (by omega)
      (.inl (hlen.trans_lt hrange))
    have hV' : (zzMap (BitVec.ofNat 32 s.length)).toNat = 2 * s.length := by
      have hlt : s.length < 2 ^ (32 - 1) := Nat.lt_trans hrange (by omega)
      rw [zzMap_of_lt (by omega) (hlen.trans_lt hlt), hlen]
    have hnum : (unmap ((BitVec.ofNat 32
        (zzMap (BitVec.ofNat 32 s.length)).toNat).signExtend 64)).toNat = s.length := by
      rw [unmap_collected hV, hV', if_pos (by omega)]
      omega
    have hread : EncodingStream.readNumber wild _ = _ := readNumber_encode pre (s ++ rest) hV
    have hdata : pre ++ ((Field.str s).encoded ++ rest) =
        pre ++ (Varint.encode (zzMap (BitVec.ofNat 32 s.length)).toNat ++ (s ++ rest)) := by
      rw [Field.encoded, List.append_assoc]
    rw [hdata] at hmax ⊢
    have hstring := readString_of_number hread (Nat.le_add_right ..)
      (by simp only [hnum, List.length_append]; omega) hmax
    have hcopied : ((pre ++ (Varint.encode (zzMap (BitVec.ofNat 32 s.length)).toNat ++
        (s ++ rest))).drop (pre.length +
          (Varint.encode (zzMap (BitVec.ofNat 32 s.length)).toNat).length)).take s.length = s := by
      rw [← List.append_assoc, ← List.length_append, List.drop_left, List.take_left]
    simp only [hnum, hcopied] at hstring
    unfold FieldKind.read
    simp only [Field.kind, hstring, Option.map_some, Field.encoded, List.length_append,
      Nat.add_assoc]

/-- What is read from a stream is in range, except that a string may have an
enormous length. -/
theorem read_inRange {kind : FieldKind} {s t : EncodingStream} {field : Field}
    (h : kind.read wild s = some (field, t)) :
    field.InRange ∨ ∃ str, field = .str str ∧ 2 ^ 64 - 2 ^ 30 ≤ str.length := by
  cases kind with
  | int32 =>
    obtain ⟨⟨x, t₁⟩, hread, hfield⟩ := Option.map_eq_some_iff.mp h
    obtain ⟨⟨num, t₂⟩, hnum, hx⟩ := Option.map_eq_some_iff.mp hread
    have hsmall := readNumber_small hnum
    cases hx
    cases hfield
    have hlow : Small (num.setWidth 32) := by
      unfold Small at hsmall ⊢
      rw [BitVec.toNat_setWidth]
      omega
    exact .inl hlow
  | uint64 =>
    obtain ⟨⟨x, t₁⟩, hnum, hfield⟩ := Option.map_eq_some_iff.mp h
    have hsmall := readNumber_small hnum
    cases hfield
    exact .inl hsmall
  | str =>
    obtain ⟨⟨str, t₁⟩, hread, hfield⟩ := Option.map_eq_some_iff.mp h
    cases hfield
    obtain ⟨⟨len, t₂⟩, hnum, hcopy⟩ := Option.bind_eq_some_iff.mp hread
    have hsmall := readNumber_small hnum
    dsimp only at hcopy
    split at hcopy
    · cases hcopy
    split at hcopy
    · cases hcopy
    · cases hcopy
      have hlen : ((s.data.drop t₂.offset).take len.toNat).length = len.toNat := by
        rw [List.length_take, List.length_drop]
        omega
      rcases hsmall with hsmall | hsmall
      · exact .inl (hlen.trans_lt hsmall)
      · exact .inr ⟨_, rfl, hsmall.trans hlen.symm.le⟩

end Reads

/-- The loop over the bytes of a string ends. -/
def Field.Writable : Field → Prop
  | .str s => s.length < 2 ^ 31
  | _ => True

theorem Field.InRange.writable {field : Field} (h : field.InRange) : field.Writable := by
  cases field with
  | str s => exact Nat.lt_trans h (by omega)
  | _ => trivial

theorem pushBack_eq_some_iff {v bytes v' : Bytes} :
    pushBack v bytes = some v' ↔ v' = v ++ bytes ∧ v'.length ≤ maxSize := by
  unfold pushBack
  split
  · rename_i hfit
    constructor
    · rintro ⟨⟩
      exact ⟨rfl, by rw [List.length_append]; exact hfit⟩
    · rintro ⟨rfl, -⟩
      rfl
  · rename_i hfull
    constructor
    · intro h
      cases h
    · rintro ⟨rfl, hfit⟩
      rw [List.length_append] at hfit
      exact absurd hfit hfull

theorem write_eq_some_iff {field : Field} {v v' : Bytes} :
    field.write v = some v' ↔
      v' = v ++ field.encoded ∧ v'.length ≤ maxSize ∧ field.Writable := by
  cases field with
  | int32 x =>
    show pushBack v _ = some v' ↔ _
    rw [encodeVarint_eq (by omega), pushBack_eq_some_iff]
    simp only [Field.encoded, Field.Writable, and_true]
  | uint64 x =>
    show pushBack v _ = some v' ↔ _
    rw [encodeVarint_eq (by omega), pushBack_eq_some_iff]
    simp only [Field.encoded, Field.Writable, and_true]
  | str s =>
    show (Option.bind (pushBack v _) fun v => _) = some v' ↔ _
    rw [encodeVarint_eq (by omega), Option.bind_eq_some_iff]
    simp only [pushBack_eq_some_iff, Field.encoded, Field.Writable]
    constructor
    · rintro ⟨u, ⟨rfl, hfit⟩, h⟩
      split at h
      · rename_i hlen
        obtain ⟨rfl, hmax⟩ := pushBack_eq_some_iff.mp h
        exact ⟨List.append_assoc .., hmax, hlen⟩
      · cases h
    · rintro ⟨rfl, hmax, hlen⟩
      refine ⟨_, ⟨rfl, ?_⟩, ?_⟩
      · simp only [List.length_append] at hmax ⊢
        omega
      · rw [if_pos hlen, pushBack_eq_some_iff, List.append_assoc]
        exact ⟨rfl, hmax⟩

/-- The bytes of a sequence of fields. -/
def encodedAll (fields : List Field) : Bytes := fields.flatMap Field.encoded

theorem writeAll_eq_some_iff {fields : List Field} {v v' : Bytes} (hv : v.length ≤ maxSize) :
    writeAll fields v = some v' ↔
      v' = v ++ encodedAll fields ∧ v'.length ≤ maxSize ∧ ∀ field ∈ fields, field.Writable := by
  induction fields generalizing v with
  | nil =>
    simp only [writeAll, encodedAll, List.flatMap_nil, List.append_nil, Option.some.injEq,
      List.not_mem_nil, false_imp_iff, implies_true, and_true]
    constructor
    · rintro rfl
      exact ⟨rfl, hv⟩
    · rintro ⟨rfl, -⟩
      rfl
  | cons field fields ih =>
    show (Option.bind (field.write v) fun v => writeAll fields v) = some v' ↔ _
    rw [Option.bind_eq_some_iff]
    constructor
    · rintro ⟨u, hwrite, hrest⟩
      obtain ⟨rfl, hfit, hwritable⟩ := write_eq_some_iff.mp hwrite
      obtain ⟨rfl, hmax, hall⟩ := (ih hfit).mp hrest
      refine ⟨by rw [List.append_assoc]; rfl, hmax, ?_⟩
      intro other hother
      rcases List.mem_cons.mp hother with rfl | hother
      · exact hwritable
      · exact hall other hother
    · rintro ⟨rfl, hmax, hall⟩
      have hsplit : v ++ encodedAll (field :: fields) =
          (v ++ field.encoded) ++ encodedAll fields := (List.append_assoc ..).symm
      have hfit : (v ++ field.encoded).length ≤ maxSize := by
        rw [hsplit, List.length_append] at hmax
        omega
      refine ⟨_, write_eq_some_iff.mpr ⟨rfl, hfit, hall field (List.mem_cons_self ..)⟩, ?_⟩
      refine (ih hfit).mpr ⟨hsplit, hmax, ?_⟩
      intro other hother
      exact hall other (List.mem_cons_of_mem _ hother)

section Sequences

variable {wild : Nat → BitVec 32 → BitVec 32}

/-- Fields delimit themselves: each is read with the rest behind it. -/
theorem readAll_encoded {fields : List Field} (hrange : ∀ field ∈ fields, field.InRange)
    (pre : Bytes) (hmax : (pre ++ encodedAll fields).length < 2 ^ 64) :
    readAll wild (fields.map Field.kind) ⟨pre ++ encodedAll fields, pre.length⟩ =
      some (fields, ⟨pre ++ encodedAll fields, (pre ++ encodedAll fields).length⟩) := by
  induction fields generalizing pre with
  | nil => simp [readAll, encodedAll]
  | cons field fields ih =>
    have hsplit : pre ++ encodedAll (field :: fields) =
        (pre ++ field.encoded) ++ encodedAll fields := (List.append_assoc ..).symm
    have hfirst : field.kind.read wild ⟨pre ++ encodedAll (field :: fields), pre.length⟩ =
        some (field, ⟨pre ++ encodedAll (field :: fields), pre.length + field.encoded.length⟩) :=
      read_encoded pre (encodedAll fields) (hrange field (List.mem_cons_self ..)) hmax
    have hrest := ih (fun other hother => hrange other (List.mem_cons_of_mem _ hother))
      (pre ++ field.encoded) (by rw [← hsplit]; exact hmax)
    rw [← hsplit, List.length_append] at hrest
    simp only [List.map_cons, readAll, hfirst, Option.bind_eq_bind, Option.bind_some, hrest]
    rfl

theorem readAll_inRange {kinds : List FieldKind} {s t : EncodingStream} {fields : List Field}
    (h : readAll wild kinds s = some (fields, t)) :
    ∀ field ∈ fields, field.InRange ∨ ∃ str, field = .str str ∧ 2 ^ 64 - 2 ^ 30 ≤ str.length := by
  induction kinds generalizing s t fields with
  | nil =>
    cases h
    intro field hfield
    cases hfield
  | cons kind kinds ih =>
    obtain ⟨⟨first, u⟩, hfirst, h⟩ := Option.bind_eq_some_iff.mp h
    obtain ⟨⟨rest, t'⟩, hrest, h⟩ := Option.bind_eq_some_iff.mp h
    cases h
    intro field hfield
    rcases List.mem_cons.mp hfield with rfl | hfield
    · exact read_inRange hfirst
    · exact ih hrest field hfield

/-- A sequence of fields survives being written and read exactly when every
number, taken as signed, lies between -2^30 and 2^30 - 1, every string is shorter
than 2^30 bytes, and a vector can hold the bytes. -/
theorem roundTrips_iff (fields : List Field) :
    RoundTrips wild fields ↔
      (∀ field ∈ fields, field.InRange) ∧ (encodedAll fields).length ≤ maxSize := by
  have hempty : ([] : Bytes).length ≤ maxSize := Nat.zero_le _
  constructor
  · rintro ⟨v, hwrite, hread⟩
    obtain ⟨rfl, hmax, hwritable⟩ := (writeAll_eq_some_iff hempty).mp hwrite
    refine ⟨?_, hmax⟩
    intro field hfield
    rcases readAll_inRange hread field hfield with hrange | ⟨str, rfl, hlong⟩
    · exact hrange
    · have hshort : str.length < 2 ^ 31 := hwritable _ hfield
      omega
  · rintro ⟨hrange, hmax⟩
    refine ⟨encodedAll fields, (writeAll_eq_some_iff hempty).mpr ⟨rfl, hmax, ?_⟩, ?_⟩
    · intro field hfield
      exact (hrange field hfield).writable
    · have hfit : ([] ++ encodedAll fields).length < 2 ^ 64 := by
        unfold maxSize at hmax
        rw [List.nil_append]
        omega
      exact readAll_encoded hrange [] hfit

end Sequences

/-- 2^30 is written in five bytes, the last of which is 8. Shifted by 28 bits it
is a negative `int`. -/
theorem largeInt32_lost : ¬RoundTrips (fun _ _ => 0#32) [.int32 (BitVec.ofNat 32 (2 ^ 30))] := by
  rintro ⟨v, -, hread⟩
  rcases readAll_inRange hread _ (List.mem_cons_self ..) with hsmall | ⟨str, hstr, -⟩
  · exact absurd hsmall (show ¬((2 ^ 30 : Nat) < 2 ^ 30 ∨ 2 ^ 32 - 2 ^ 30 ≤ 2 ^ 30) by decide)
  · cases hstr

example : (EncodingStream.readInt32 (fun _ _ => 0#32)
    ⟨[0x80#8, 0x80#8, 0x80#8, 0x80#8, 8#8], 0⟩).map Prod.fst =
      some (BitVec.ofInt 32 (-(2 ^ 30))) := by decide

end UCLinux.Geocoding
