import UCLinux.Machine.Crc
import UCLinux.Ocpp.Text

/-!
The firmware download of a charger. It asks with a word of four bytes: the magic
number, the half it wants and, for the second half, an offset into the file. The
server answers with a header and the bytes of that half. How much the server
sends, and out of how large a buffer, is computed from the offset of the request.
-/

namespace UCLinux.Ocpp

open Machine

abbrev Bytes := List (BitVec 8)

/-- The generator polynomial the table of `crc32` is made from, low bit first. -/
def castagnoli : BitVec 32 := 0x82F63B78

def crc32Table : List (BitVec 32) :=
  [ 0x00000000, 0xF26B8303, 0xE13B70F7, 0x1350F3F4, 0xC79A971F, 0x35F1141C,
    0x26A1E7E8, 0xD4CA64EB, 0x8AD958CF, 0x78B2DBCC, 0x6BE22838, 0x9989AB3B,
    0x4D43CFD0, 0xBF284CD3, 0xAC78BF27, 0x5E133C24, 0x105EC76F, 0xE235446C,
    0xF165B798, 0x030E349B, 0xD7C45070, 0x25AFD373, 0x36FF2087, 0xC494A384,
    0x9A879FA0, 0x68EC1CA3, 0x7BBCEF57, 0x89D76C54, 0x5D1D08BF, 0xAF768BBC,
    0xBC267848, 0x4E4DFB4B, 0x20BD8EDE, 0xD2D60DDD, 0xC186FE29, 0x33ED7D2A,
    0xE72719C1, 0x154C9AC2, 0x061C6936, 0xF477EA35, 0xAA64D611, 0x580F5512,
    0x4B5FA6E6, 0xB93425E5, 0x6DFE410E, 0x9F95C20D, 0x8CC531F9, 0x7EAEB2FA,
    0x30E349B1, 0xC288CAB2, 0xD1D83946, 0x23B3BA45, 0xF779DEAE, 0x05125DAD,
    0x1642AE59, 0xE4292D5A, 0xBA3A117E, 0x4851927D, 0x5B016189, 0xA96AE28A,
    0x7DA08661, 0x8FCB0562, 0x9C9BF696, 0x6EF07595, 0x417B1DBC, 0xB3109EBF,
    0xA0406D4B, 0x522BEE48, 0x86E18AA3, 0x748A09A0, 0x67DAFA54, 0x95B17957,
    0xCBA24573, 0x39C9C670, 0x2A993584, 0xD8F2B687, 0x0C38D26C, 0xFE53516F,
    0xED03A29B, 0x1F682198, 0x5125DAD3, 0xA34E59D0, 0xB01EAA24, 0x42752927,
    0x96BF4DCC, 0x64D4CECF, 0x77843D3B, 0x85EFBE38, 0xDBFC821C, 0x2997011F,
    0x3AC7F2EB, 0xC8AC71E8, 0x1C661503, 0xEE0D9600, 0xFD5D65F4, 0x0F36E6F7,
    0x61C69362, 0x93AD1061, 0x80FDE395, 0x72966096, 0xA65C047D, 0x5437877E,
    0x4767748A, 0xB50CF789, 0xEB1FCBAD, 0x197448AE, 0x0A24BB5A, 0xF84F3859,
    0x2C855CB2, 0xDEEEDFB1, 0xCDBE2C45, 0x3FD5AF46, 0x7198540D, 0x83F3D70E,
    0x90A324FA, 0x62C8A7F9, 0xB602C312, 0x44694011, 0x5739B3E5, 0xA55230E6,
    0xFB410CC2, 0x092A8FC1, 0x1A7A7C35, 0xE811FF36, 0x3CDB9BDD, 0xCEB018DE,
    0xDDE0EB2A, 0x2F8B6829, 0x82F63B78, 0x709DB87B, 0x63CD4B8F, 0x91A6C88C,
    0x456CAC67, 0xB7072F64, 0xA457DC90, 0x563C5F93, 0x082F63B7, 0xFA44E0B4,
    0xE9141340, 0x1B7F9043, 0xCFB5F4A8, 0x3DDE77AB, 0x2E8E845F, 0xDCE5075C,
    0x92A8FC17, 0x60C37F14, 0x73938CE0, 0x81F80FE3, 0x55326B08, 0xA759E80B,
    0xB4091BFF, 0x466298FC, 0x1871A4D8, 0xEA1A27DB, 0xF94AD42F, 0x0B21572C,
    0xDFEB33C7, 0x2D80B0C4, 0x3ED04330, 0xCCBBC033, 0xA24BB5A6, 0x502036A5,
    0x4370C551, 0xB11B4652, 0x65D122B9, 0x97BAA1BA, 0x84EA524E, 0x7681D14D,
    0x2892ED69, 0xDAF96E6A, 0xC9A99D9E, 0x3BC21E9D, 0xEF087A76, 0x1D63F975,
    0x0E330A81, 0xFC588982, 0xB21572C9, 0x407EF1CA, 0x532E023E, 0xA145813D,
    0x758FE5D6, 0x87E466D5, 0x94B49521, 0x66DF1622, 0x38CC2A06, 0xCAA7A905,
    0xD9F75AF1, 0x2B9CD9F2, 0xFF56BD19, 0x0D3D3E1A, 0x1E6DCDEE, 0xEC064EED,
    0xC38D26C4, 0x31E6A5C7, 0x22B65633, 0xD0DDD530, 0x0417B1DB, 0xF67C32D8,
    0xE52CC12C, 0x1747422F, 0x49547E0B, 0xBB3FFD08, 0xA86F0EFC, 0x5A048DFF,
    0x8ECEE914, 0x7CA56A17, 0x6FF599E3, 0x9D9E1AE0, 0xD3D3E1AB, 0x21B862A8,
    0x32E8915C, 0xC083125F, 0x144976B4, 0xE622F5B7, 0xF5720643, 0x07198540,
    0x590AB964, 0xAB613A67, 0xB831C993, 0x4A5A4A90, 0x9E902E7B, 0x6CFBAD78,
    0x7FAB5E8C, 0x8DC0DD8F, 0xE330A81A, 0x115B2B19, 0x020BD8ED, 0xF0605BEE,
    0x24AA3F05, 0xD6C1BC06, 0xC5914FF2, 0x37FACCF1, 0x69E9F0D5, 0x9B8273D6,
    0x88D28022, 0x7AB90321, 0xAE7367CA, 0x5C18E4C9, 0x4F48173D, 0xBD23943E,
    0xF36E6F75, 0x0105EC76, 0x12551F82, 0xE03E9C81, 0x34F4F86A, 0xC69F7B69,
    0xD5CF889D, 0x27A40B9E, 0x79B737BA, 0x8BDCB4B9, 0x988C474D, 0x6AE7C44E,
    0xBE2DA0A5, 0x4C4623A6, 0x5F16D052, 0xAD7D5351 ]

def crc32 : Bytes → BitVec 32 → BitVec 32
  | [], crc => crc
  | p :: data, crc =>
    crc32 data (crc32Table.getD ((crc ^^^ p.setWidth 32) &&& 0xff#32).toNat 0 ^^^ (crc >>> 8))

theorem crc32Table_getD (i : Nat) (hi : i < 256) :
    crc32Table.getD i 0 = Crc.steps castagnoli 8 (BitVec.ofNat 32 i) := by
  revert i
  decide +kernel

theorem and_ff_eq_low (x : BitVec 32) : x &&& 0xff#32 = Crc.low 8 x := by
  apply BitVec.eq_of_toNat_eq
  rw [BitVec.toNat_and]
  show x.toNat &&& (2 ^ 8 - 1) = _
  rw [Nat.and_two_pow_sub_one_eq_mod]
  unfold Crc.low
  rw [BitVec.toNat_setWidth, BitVec.toNat_setWidth]
  omega

/-- The loop over the table computes the remainder of its polynomial. -/
theorem crc32_eq_remainder (data : Bytes) (crc : BitVec 32) :
    crc32 data crc = Crc.remainder castagnoli data crc := by
  induction data generalizing crc with
  | nil => rfl
  | cons p data ih =>
    have hindex : ((crc ^^^ p.setWidth 32) &&& 0xff#32).toNat < 256 := by
      rw [BitVec.toNat_and]
      exact lt_of_le_of_lt Nat.and_le_right (by decide)
    show crc32 data _ = Crc.remainder castagnoli data (Crc.absorb castagnoli crc p)
    rw [ih, Crc.absorb_eq_table, crc32Table_getD _ hindex, BitVec.ofNat_toNat,
      BitVec.setWidth_eq, and_ff_eq_low]

/-- The pieces of a string one after the other, each with the value so far. -/
def crc32Pieces (pieces : List Bytes) (crc : BitVec 32) : BitVec 32 :=
  pieces.foldl (fun crc data => crc32 data crc) crc

/-- The value does not depend on how the string is cut: it is the remainder of
the string fed bit by bit. -/
theorem crc32Pieces_eq_serial (pieces : List Bytes) (crc : BitVec 32) :
    crc32Pieces pieces crc = crc32 pieces.flatten crc ∧
      crc32 pieces.flatten crc = Crc.serial castagnoli pieces.flatten crc := by
  constructor
  · unfold crc32Pieces
    rw [crc32_eq_remainder, Crc.remainder_flatten]
    simp only [crc32_eq_remainder]
  · rw [crc32_eq_remainder, Crc.remainder_eq_serial castagnoli (by decide)]

/-! ## Words and headers -/

/-- The word of four bytes, the lowest first. -/
def leWord (b₀ b₁ b₂ b₃ : BitVec 8) : BitVec 32 := b₃ ++ b₂ ++ b₁ ++ b₀

def leBytes (x : BitVec 32) : Bytes :=
  [x.setWidth 8, (x >>> 8).setWidth 8, (x >>> 16).setWidth 8, (x >>> 24).setWidth 8]

theorem leWord_and (b₀ b₁ b₂ b₃ c₀ c₁ c₂ c₃ : BitVec 8) :
    leWord b₀ b₁ b₂ b₃ &&& leWord c₀ c₁ c₂ c₃ =
      leWord (b₀ &&& c₀) (b₁ &&& c₁) (b₂ &&& c₂) (b₃ &&& c₃) := by
  unfold leWord
  rw [BitVec.and_append, BitVec.and_append, BitVec.and_append]

theorem leWord_toNat (b₀ b₁ b₂ b₃ : BitVec 8) :
    (leWord b₀ b₁ b₂ b₃).toNat =
      b₀.toNat + 256 * b₁.toNat + 65536 * b₂.toNat + 16777216 * b₃.toNat := by
  have h₀ := b₀.isLt
  have h₁ := b₁.isLt
  have h₂ := b₂.isLt
  unfold leWord
  rw [BitVec.toNat_append, ← Nat.shiftLeft_add_eq_or_of_lt h₀, BitVec.toNat_append,
    ← Nat.shiftLeft_add_eq_or_of_lt h₁, BitVec.toNat_append,
    ← Nat.shiftLeft_add_eq_or_of_lt h₂]
  simp only [Nat.shiftLeft_eq]
  omega

theorem leWord_leBytes (x : BitVec 32) :
    leWord (x.setWidth 8) ((x >>> 8).setWidth 8) ((x >>> 16).setWidth 8)
      ((x >>> 24).setWidth 8) = x := by
  apply BitVec.eq_of_toNat_eq
  have hx := x.isLt
  rw [leWord_toNat]
  simp only [BitVec.toNat_setWidth, BitVec.toNat_ushiftRight, Nat.shiftRight_eq_div_pow]
  omega

structure FwDownloadHeader where
  tSize : BitVec 32
  crc : BitVec 32
  deriving DecidableEq

def headerSize : Int := 8

/-- `memcpy` of the header. -/
def FwDownloadHeader.bytes (hdr : FwDownloadHeader) : Bytes := leBytes hdr.tSize ++ leBytes hdr.crc

/-- What the charger makes of a reply: the header and the body. -/
def readReply : Bytes → Option (FwDownloadHeader × Bytes)
  | t₀ :: t₁ :: t₂ :: t₃ :: c₀ :: c₁ :: c₂ :: c₃ :: body =>
    some (⟨leWord t₀ t₁ t₂ t₃, leWord c₀ c₁ c₂ c₃⟩, body)
  | _ => none

theorem readReply_bytes (hdr : FwDownloadHeader) (body : Bytes) :
    readReply (hdr.bytes ++ body) = some (hdr, body) := by
  show some (FwDownloadHeader.mk (leWord _ _ _ _) (leWord _ _ _ _), body) = some (hdr, body)
  rw [leWord_leBytes, leWord_leBytes]

theorem FwDownloadHeader.bytes_length (hdr : FwDownloadHeader) : hdr.bytes.length = 8 := rfl

/-! ## The server -/

def getSizeOfFile : Option Bytes → Int
  | some file => wrap32 file.length
  | none => -1

/-- The bytes that are read, and the value returned. -/
def readBinFileToBuf (file : Bytes) (maxSize offset : Int) : Bytes × Int :=
  let size : Int := if maxSize = 0 then file.length else maxSize
  ((file.drop offset.toNat).take size.toNat, wrap32 size)

inductive FwReply where
  /-- It returns before the send. -/
  | silent
  /-- `send` of that many bytes of the buffer. -/
  | sent (pBuf : Bytes) (sizeToBeSent : Int)
  /-- `new` raises, the length being what it is. -/
  | raised (sizeToBeSent : Int)
  /-- Memory outside the buffer is read or written. -/
  | undefined

/-- Sequence 0. -/
def sendFirstHalf (file : Bytes) (size : Int) : FwReply :=
  let sizeToBeSent := size / 2 + headerSize
  let (pBuf, fsize) := readBinFileToBuf file 0 0
  if size < pBuf.length then .undefined
  else if fsize ≠ size then .silent
  else
    let hdr : FwDownloadHeader := ⟨BitVec.ofInt 32 size, crc32 pBuf 0⟩
    .sent (hdr.bytes ++ pBuf) sizeToBeSent

/-- Sequence 1. The operand of `new` is unsigned: a length from -8 to -1 gives a
buffer too small for the header, and `crc32` counts down from a negative length. -/
def sendSecondHalf (file : Bytes) (size offset : Int) : FwReply :=
  let sizeToBeSent := size - offset
  if sizeToBeSent + headerSize < 0 then .raised sizeToBeSent
  else
    let (pBuf, fsize) := readBinFileToBuf file sizeToBeSent offset
    if sizeToBeSent < pBuf.length then .undefined
    else if fsize ≠ sizeToBeSent then .silent
    else
      let hdr : FwDownloadHeader := ⟨BitVec.ofInt 32 sizeToBeSent, crc32 pBuf 0⟩
      .sent (hdr.bytes ++ pBuf) (sizeToBeSent + headerSize)

/-- A binary message. -/
def onMessageBinary (fw : Option Bytes) : Bytes → FwReply
  | b₀ :: b₁ :: b₂ :: b₃ :: _ =>
    let tmp := leWord b₀ b₁ b₂ b₃
    if tmp &&& 0xFF000000#32 = 0x55000000#32 then
      let size := getSizeOfFile fw
      if size ≤ 0 then .silent
      else
        let seqNum := ((tmp &&& 0x00ff0000#32) >>> 16).toNat
        let offset := (tmp &&& 0xffff#32).toNat
        if seqNum = 0 then sendFirstHalf (fw.getD []) size
        else if seqNum = 1 then sendSecondHalf (fw.getD []) size offset
        else .sent [] 0
    else .silent
  | _ => .undefined

/-- What arrives at the charger. -/
def FwReply.received : FwReply → Option Bytes
  | .sent pBuf sizeToBeSent => some (pBuf.take sizeToBeSent.toNat)
  | _ => none

/-- The length a request leads to is not negative and within the buffer. -/
def FwReply.LengthOk : FwReply → Prop
  | .silent => True
  | .sent pBuf sizeToBeSent => 0 ≤ sizeToBeSent ∧ sizeToBeSent ≤ pBuf.length
  | .raised sizeToBeSent => 0 ≤ sizeToBeSent
  | .undefined => False

/-- The fields of a request with the magic number. -/
theorem onMessageBinary_request (fw : Option Bytes) (b₀ b₁ b₂ : BitVec 8) :
    onMessageBinary fw [b₀, b₁, b₂, 0x55] =
      if getSizeOfFile fw ≤ 0 then .silent
      else if b₂.toNat = 0 then sendFirstHalf (fw.getD []) (getSizeOfFile fw)
      else if b₂.toNat = 1 then
        sendSecondHalf (fw.getD []) (getSizeOfFile fw) (b₀.toNat + 256 * b₁.toNat : Nat)
      else .sent [] 0 := by
  have hzero : ∀ b : BitVec 8, b &&& 0#8 = 0#8 := fun b => BitVec.and_zero
  have hfull : ∀ b : BitVec 8, b &&& 0xff#8 = b := fun b => BitVec.and_allOnes
  have hmagic : leWord b₀ b₁ b₂ 0x55 &&& 0xFF000000#32 = 0x55000000#32 := by
    show leWord b₀ b₁ b₂ 0x55 &&& leWord 0#8 0#8 0#8 0xff#8 = leWord 0#8 0#8 0#8 0x55#8
    rw [leWord_and, hzero, hzero, hzero, hfull]
    rfl
  have hseq : ((leWord b₀ b₁ b₂ 0x55 &&& 0x00ff0000#32) >>> 16).toNat = b₂.toNat := by
    show ((leWord b₀ b₁ b₂ 0x55 &&& leWord 0#8 0#8 0xff#8 0#8) >>> 16).toNat = _
    rw [leWord_and, hzero, hzero, hfull, hzero, BitVec.toNat_ushiftRight, leWord_toNat,
      Nat.shiftRight_eq_div_pow]
    simp only [BitVec.toNat_ofNat]
    omega
  have hoffset : (leWord b₀ b₁ b₂ 0x55 &&& 0xffff#32).toNat = b₀.toNat + 256 * b₁.toNat := by
    show (leWord b₀ b₁ b₂ 0x55 &&& leWord 0xff#8 0xff#8 0#8 0#8).toNat = _
    rw [leWord_and, hzero, hfull, hfull, hzero, leWord_toNat]
    simp only [BitVec.toNat_ofNat]
    omega
  show (if leWord b₀ b₁ b₂ 0x55 &&& 0xFF000000#32 = 0x55000000#32 then _ else _) = _
  rw [if_pos hmagic, hseq, hoffset]

/-- A file whose size fits an `int` is read whole. -/
theorem sendFirstHalf_whole {file : Bytes} (hsize : wrap32 file.length = file.length) :
    sendFirstHalf file file.length =
      .sent ((FwDownloadHeader.mk (BitVec.ofInt 32 file.length) (crc32 file 0)).bytes ++ file)
        (file.length / 2 + headerSize) := by
  have hread : readBinFileToBuf file 0 0 = (file, (file.length : Int)) := by
    show ((file.drop 0).take (Int.toNat file.length), wrap32 file.length) = _
    rw [hsize, Int.toNat_natCast, List.drop_zero, List.take_length]
  unfold sendFirstHalf
  rw [hread]
  show (if (file.length : Int) < file.length then _ else _) = _
  rw [if_neg (by omega), if_neg (by simp)]

theorem sendFirstHalf_overrun {file : Bytes} {size : Int} (hsize : size < file.length) :
    sendFirstHalf file size = .undefined := by
  have hread : (readBinFileToBuf file 0 0).1 = file := by
    show (file.drop 0).take (Int.toNat file.length) = file
    rw [Int.toNat_natCast, List.drop_zero, List.take_length]
  show (if size < (readBinFileToBuf file 0 0).1.length then _ else _) = _
  rw [hread, if_pos hsize]

/-- An offset within the file. -/
theorem sendSecondHalf_within {file : Bytes} {size : Int} {offset : Nat} (hoffset : offset < size)
    (hsize : size ≤ file.length) (hrange : size < 2 ^ 31) :
    ∃ body : Bytes, body = (file.drop offset).take (size - offset).toNat ∧
      (body.length : Int) = size - offset ∧
      sendSecondHalf file size offset =
        .sent ((FwDownloadHeader.mk (BitVec.ofInt 32 (size - offset)) (crc32 body 0)).bytes ++ body)
          (size - offset + headerSize) := by
  refine ⟨_, rfl, ?_, ?_⟩
  · rw [List.length_take, List.length_drop]
    omega
  · have hread : readBinFileToBuf file (size - offset) offset =
        ((file.drop offset).take (size - offset).toNat, size - offset) := by
      unfold readBinFileToBuf
      dsimp only
      rw [if_neg (by omega), wrap32_of_range (by omega), Int.toNat_natCast]
    unfold sendSecondHalf
    dsimp only
    rw [hread, if_neg (by unfold headerSize; omega)]
    have hlen : ((file.drop offset).take (size - offset).toNat).length = (size - offset).toNat := by
      rw [List.length_take, List.length_drop]
      omega
    show (if size - (offset : Int) <
      (((file.drop offset).take (size - offset).toNat).length : Int) then _ else _) = _
    rw [if_neg (by rw [hlen]; omega), if_neg (by simp)]

/-- An offset at the end: no bytes are left, and a length of 0 asks for all. -/
theorem sendSecondHalf_end {file : Bytes} (hpos : 0 < file.length)
    (hsize : wrap32 file.length = file.length) :
    sendSecondHalf file file.length file.length = .silent := by
  have hread : readBinFileToBuf file 0 file.length = ([], (file.length : Int)) := by
    show ((file.drop (Int.toNat file.length)).take (Int.toNat file.length),
      wrap32 file.length) = _
    rw [hsize, Int.toNat_natCast, List.drop_length, List.take_nil]
  unfold sendSecondHalf
  dsimp only
  rw [Int.sub_self, hread, if_neg (by decide)]
  show (if (0 : Int) < 0 then _ else if (file.length : Int) ≠ 0 then _ else _) = _
  rw [if_neg (by decide), if_pos (by omega)]

theorem sendSecondHalf_end_overrun {file : Bytes} {size : Nat} (hsize : size < file.length) :
    sendSecondHalf file size size = .undefined := by
  have hread : (readBinFileToBuf file 0 size).1 = file.drop size := by
    show (file.drop (Int.toNat size)).take (Int.toNat file.length) = file.drop size
    rw [Int.toNat_natCast, Int.toNat_natCast]
    apply List.take_of_length_le
    rw [List.length_drop]
    omega
  unfold sendSecondHalf
  dsimp only
  rw [Int.sub_self, if_neg (by decide)]
  show (if (0 : Int) < (readBinFileToBuf file 0 size).1.length then _ else _) = _
  rw [hread, List.length_drop, if_pos (by omega)]

/-- Past the end the length is negative. -/
theorem sendSecondHalf_past {file : Bytes} {size offset : Int} (hpast : size < offset) :
    sendSecondHalf file size offset = .raised (size - offset) ∨
      sendSecondHalf file size offset = .undefined := by
  unfold sendSecondHalf
  dsimp only
  rcases Int.lt_or_le (size - offset + headerSize) 0 with hraise | htight
  · exact .inl (if_pos hraise)
  · rw [if_neg (by omega)]
    exact .inr (if_pos (by omega))

/-- The requests the buffers are large enough for; the condition on the size is
that it fits an `int`. -/
def FwRequestOk (fileSize seqNum offset : Nat) : Prop :=
  0 < wrap32 fileSize →
    (seqNum = 0 → wrap32 fileSize = fileSize) ∧
    (seqNum = 1 → offset < wrap32 fileSize ∨ offset = fileSize)

/-- A header and of a body no more than it has. -/
theorem sent_lengthOk {header : FwDownloadHeader} {body : Bytes} {size : Int}
    (hpos : 0 ≤ size) (hlen : size ≤ body.length) :
    (FwReply.sent (header.bytes ++ body) (size + headerSize)).LengthOk := by
  constructor
  · unfold headerSize
    omega
  · rw [List.length_append, FwDownloadHeader.bytes_length]
    unfold headerSize
    omega

theorem sendFirstHalf_lengthOk_iff {file : Bytes} (hpos : 0 < wrap32 file.length) :
    (sendFirstHalf file (wrap32 file.length)).LengthOk ↔ wrap32 file.length = file.length := by
  have hrange := wrap32_lt file.length
  rcases Int.lt_or_eq_of_le (wrap32_le file.length) with hlarge | hfits
  · rw [sendFirstHalf_overrun hlarge]
    exact ⟨False.elim, fun hfits => absurd hfits (by omega)⟩
  · rw [hfits, sendFirstHalf_whole hfits]
    exact ⟨fun _ => rfl, fun _ => sent_lengthOk (by omega) (by omega)⟩

theorem sendSecondHalf_lengthOk_iff {file : Bytes} {offset : Nat}
    (hpos : 0 < wrap32 file.length) (hword : offset < 65536) :
    (sendSecondHalf file (wrap32 file.length) offset).LengthOk ↔
      offset < wrap32 file.length ∨ offset = file.length := by
  have hle := wrap32_le file.length
  rcases Int.lt_trichotomy offset (wrap32 file.length) with hin | hend | hpast
  · obtain ⟨body, -, hlen, hsent⟩ := sendSecondHalf_within hin hle (wrap32_lt file.length)
    rw [hsent]
    exact ⟨fun _ => .inl hin, fun _ => sent_lengthOk (by omega) (by omega)⟩
  · rcases Int.lt_or_eq_of_le hle with hlarge | hfits
    · rw [← hend, sendSecondHalf_end_overrun (by omega)]
      exact ⟨False.elim, fun hok => by omega⟩
    · have hoff : offset = file.length := by omega
      rw [hfits, hoff, sendSecondHalf_end (by omega) hfits]
      exact ⟨fun _ => .inr rfl, fun _ => trivial⟩
  · have hout : ¬((offset : Int) < wrap32 file.length ∨ offset = file.length) := by
      rintro (hwithin | hend)
      · omega
      · rw [wrap32_of_range (by omega)] at hpast
        omega
    rcases sendSecondHalf_past hpast with hraised | hundefined
    · rw [hraised]
      refine ⟨fun hok => ?_, fun hok => absurd hok hout⟩
      have hnonneg : 0 ≤ wrap32 file.length - offset := hok
      omega
    · rw [hundefined]
      exact ⟨False.elim, hout⟩

theorem lengthOk_iff (file : Bytes) (b₀ b₁ b₂ : BitVec 8) :
    (onMessageBinary (some file) [b₀, b₁, b₂, 0x55]).LengthOk ↔
      FwRequestOk file.length b₂.toNat (b₀.toNat + 256 * b₁.toNat) := by
  rw [onMessageBinary_request]
  show (FwReply.LengthOk (if wrap32 file.length ≤ 0 then _ else _)) ↔ _
  unfold FwRequestOk
  rcases Int.lt_or_le 0 (wrap32 file.length) with hpos | hneg
  · rw [if_neg (by omega)]
    show (FwReply.LengthOk (if _ then sendFirstHalf file (wrap32 file.length) else if _ then
      sendSecondHalf file (wrap32 file.length) _ else _)) ↔ _
    rcases Nat.lt_trichotomy b₂.toNat 1 with hseq | hseq | hseq
    · rw [if_pos (by omega), sendFirstHalf_lengthOk_iff hpos]
      exact ⟨fun hfits _ => ⟨fun _ => hfits, by omega⟩, fun hok => (hok hpos).1 (by omega)⟩
    · have hword : b₀.toNat + 256 * b₁.toNat < 65536 := by
        have := b₀.isLt
        have := b₁.isLt
        omega
      rw [if_neg (by omega), if_pos hseq, sendSecondHalf_lengthOk_iff hpos hword]
      exact ⟨fun hkeeps _ => ⟨by omega, fun _ => hkeeps⟩, fun hok => (hok hpos).2 hseq⟩
    · rw [if_neg (by omega), if_neg (by omega)]
      exact ⟨fun _ _ => ⟨by omega, by omega⟩, fun _ => ⟨by decide, by decide⟩⟩
  · rw [if_pos hneg]
    exact ⟨fun _ hpos => absurd hpos (by omega), fun _ => trivial⟩

/-! ## Both halves -/

/-- The message of a charger: the offset has two bytes. -/
def fwRequest (seqNum offset : Nat) : Bytes :=
  [BitVec.ofNat 8 offset, BitVec.ofNat 8 (offset / 256), BitVec.ofNat 8 seqNum, 0x55]

/-- The header and the body a request is answered with. -/
def fetched (file : Bytes) (seqNum offset : Nat) : Option (FwDownloadHeader × Bytes) :=
  (onMessageBinary (some file) (fwRequest seqNum offset)).received.bind readReply

/-- A header that carries a length and the remainder of some bytes. -/
def FwDownloadHeader.Describes (hdr : FwDownloadHeader) (data : Bytes) : Prop :=
  hdr.tSize.toNat = data.length ∧ hdr.crc = Crc.remainder castagnoli data 0

/-- A charger that asks for both halves has the file, with a header for the
file and one for the second half. -/
def Downloaded (file : Bytes) : Prop :=
  ∀ offset, ∃ hdr₀ body₀ hdr₁ body₁,
    fetched file 0 offset = some (hdr₀, body₀) ∧
    fetched file 1 (file.length / 2) = some (hdr₁, body₁) ∧
    body₀ ++ body₁ = file ∧ hdr₀.Describes file ∧ hdr₁.Describes body₁

theorem describes_crc32 {data : Bytes} {n : Int} (hn : n = data.length) (hrange : n < 2 ^ 31) :
    (FwDownloadHeader.mk (BitVec.ofInt 32 n) (crc32 data 0)).Describes data := by
  refine ⟨?_, crc32_eq_remainder data 0⟩
  show (BitVec.ofInt 32 n).toNat = data.length
  rw [BitVec.toNat_ofInt]
  omega

theorem received_sent (hdr : FwDownloadHeader) (body : Bytes) {n : Int} (hn : 0 ≤ n) :
    ((FwReply.sent (hdr.bytes ++ body) (n + headerSize)).received.bind readReply) =
      some (hdr, body.take n.toNat) := by
  have hlen : (n + headerSize).toNat = hdr.bytes.length + n.toNat := by
    rw [FwDownloadHeader.bytes_length]
    unfold headerSize
    omega
  show readReply ((hdr.bytes ++ body).take (n + headerSize).toNat) = _
  rw [hlen, List.take_length_add_append, readReply_bytes]

theorem fetched_first {file : Bytes} (hpos : 0 < file.length)
    (hsize : wrap32 file.length = file.length) (offset : Nat) :
    fetched file 0 offset =
      some (⟨BitVec.ofInt 32 file.length, crc32 file 0⟩, file.take (file.length / 2)) := by
  have hreply : onMessageBinary (some file) (fwRequest 0 offset) =
      sendFirstHalf file file.length := by
    unfold fwRequest
    rw [onMessageBinary_request, getSizeOfFile, hsize, if_neg (by omega), if_pos (by decide),
      Option.getD_some]
  unfold fetched
  rw [hreply, sendFirstHalf_whole hsize, received_sent _ _ (by omega)]
  congr 2

theorem fetched_second {file : Bytes} {offset : Nat}
    (hsize : wrap32 file.length = file.length) (hoffset : offset % 65536 < file.length) :
    fetched file 1 offset =
      some (⟨BitVec.ofInt 32 (file.length - (offset % 65536 : Nat)),
        crc32 (file.drop (offset % 65536)) 0⟩, file.drop (offset % 65536)) := by
  have hrange := wrap32_lt file.length
  have hword : (BitVec.ofNat 8 offset).toNat + 256 * (BitVec.ofNat 8 (offset / 256)).toNat =
      offset % 65536 := by
    simp only [BitVec.toNat_ofNat]
    omega
  have hreply : onMessageBinary (some file) (fwRequest 1 offset) =
      sendSecondHalf file file.length (offset % 65536 : Nat) := by
    unfold fwRequest
    rw [onMessageBinary_request, getSizeOfFile, hsize, if_neg (by omega), if_neg (by decide),
      if_pos (by decide), Option.getD_some, hword]
  have hwithin : ((offset % 65536 : Nat) : Int) < (file.length : Nat) := by omega
  obtain ⟨body, hbody, hlen, hsent⟩ := sendSecondHalf_within hwithin (le_refl _) (by omega)
  have hwhole : body = file.drop (offset % 65536) := by
    rw [hbody]
    apply List.take_of_length_le
    rw [List.length_drop]
    omega
  unfold fetched
  rw [hreply, hsent, received_sent _ _ (by omega), hwhole, List.take_of_length_le]
  rw [List.length_drop]
  omega

/-- Without the first half there is no download. -/
theorem fetched_first_none {file : Bytes} (hsize : wrap32 file.length ≠ file.length)
    (offset : Nat) : fetched file 0 offset = none := by
  have hle := wrap32_le file.length
  unfold fetched fwRequest
  rw [onMessageBinary_request, getSizeOfFile, Option.getD_some]
  rcases Int.lt_or_le 0 (wrap32 file.length) with hpos | hneg
  · rw [if_neg (by omega), if_pos (by decide), sendFirstHalf_overrun (by omega)]
    rfl
  · rw [if_pos hneg]
    rfl

theorem downloaded_iff {file : Bytes} (hpos : 0 < file.length) :
    Downloaded file ↔ file.length < 131072 := by
  constructor
  · intro hdown
    obtain ⟨hdr₀, body₀, hdr₁, body₁, hfirst, hsecond, hfile, -, -⟩ := hdown 0
    by_contra hlarge
    have hsize : wrap32 file.length = file.length := by
      by_contra hsize
      rw [fetched_first_none hsize] at hfirst
      cases hfirst
    rw [fetched_first hpos hsize] at hfirst
    rw [fetched_second hsize (by omega)] at hsecond
    cases hfirst
    cases hsecond
    have hlen := congrArg List.length hfile
    rw [List.length_append, List.length_take, List.length_drop] at hlen
    omega
  · intro hsmall offset
    have hsize : wrap32 file.length = file.length := wrap32_of_range (by omega)
    have hhalf : file.length / 2 % 65536 = file.length / 2 := by omega
    have hoffset : file.length / 2 % 65536 < file.length := by omega
    have hsecond := fetched_second hsize hoffset
    rw [hhalf] at hsecond
    refine ⟨_, _, _, _, fetched_first hpos hsize offset, hsecond, ?_, ?_, ?_⟩
    · exact List.take_append_drop _ _
    · exact describes_crc32 rfl (by omega)
    · apply describes_crc32 _ (by omega)
      rw [List.length_drop]
      omega

/-- Both halves make the file exactly when the offset of the second fits two
bytes, and a request keeps to the buffer exactly when its offset keeps to the
file. -/
theorem download_right_iff (file : Bytes) :
    (0 < file.length → (Downloaded file ↔ file.length < 131072)) ∧
    ∀ b₀ b₁ b₂ : BitVec 8, (onMessageBinary (some file) [b₀, b₁, b₂, 0x55]).LengthOk ↔
      FwRequestOk file.length b₂.toNat (b₀.toNat + 256 * b₁.toNat) :=
  ⟨downloaded_iff, lengthOk_iff file⟩

/-- The rest of a file of one byte is asked for from its 16th. -/
theorem offset_past_end :
    ¬(onMessageBinary (some [7]) [16, 0, 1, 0x55]).LengthOk := by
  intro hok
  have hlength : (0 : Int) ≤ -15 := hok
  omega

end UCLinux.Ocpp
