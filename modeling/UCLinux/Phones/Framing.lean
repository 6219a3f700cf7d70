import UCLinux.Ocpp.FirmwareDownload

/-!
How a request of a phone is cut out of its connection. A request is its length
in four bytes, the lowest first, and that many bytes. The connection is a stream
that `recv` may hand out in pieces of any size: the length is read by one
`recv`, the bytes behind it by as many as it takes.

What memory holds before it is written is left open: the stack array the length
is read into and the heap block the bytes are collected in.
-/

namespace UCLinux.Phones

open Machine
open Ocpp (Bytes leWord leBytes leWord_leBytes)

namespace Convert

def toInt32 (b : Nat → BitVec 8) : Int := (leWord (b 0) (b 1) (b 2) (b 3)).toInt

def int32ToBytes (n : BitVec 32) : Bytes := leBytes n

end Convert

/-- A length and that many bytes, as `sendResponse` writes them and the phones
do. -/
def frame (payload : Bytes) : Bytes :=
  Convert.int32ToBytes (BitVec.ofNat 32 payload.length) ++ payload

/-- A connection: the bytes that were not received yet, and what
`process_tcp_listener_request` was called with. -/
structure Connection where
  pending : Bytes
  requests : List Bytes

abbrev ConnectionAct (α : Type) : Type := Action Connection α

/-- One `recv` of up to `size` bytes. `willing` says how many bytes the stream
has ready at each call; nothing is received at its end only. -/
def recv (willing : Nat → Nat) (size : Nat) : ConnectionAct Bytes := do
  let ready ← Action.ask willing
  let got ← Action.look fun s => s.pending.take (max 1 (min ready size))
  Action.put fun s => { s with pending := s.pending.drop got.length }
  pure got

/-- `memcpy` into a block; `none` when it would write past its end. -/
def memcpy (block : Bytes) (offset : Nat) (src : Bytes) : Option Bytes :=
  if offset + src.length ≤ block.length then
    some (block.take offset ++ src ++ block.drop (offset + src.length))
  else none

/-- How the bytes of a request were collected. -/
inductive BodyRead where
  | read (inBuffer : Bytes) (bytesRead : Nat)
  | hungUp
  | overrun
  deriving DecidableEq, Repr

def inBufferSize : Nat := 1024

/-- The loop over the bytes. Its counters are how many were copied and how many
are missing. -/
def readBody (willing : Nat → Nat) (inBuffer : Bytes) (bytesRead totalLength : Nat) :
    ConnectionAct BodyRead := do
  let got ← recv willing (min totalLength inBufferSize)
  if _ : got = [] then pure .hungUp
  else match memcpy inBuffer bytesRead got with
    | none => pure .overrun
    | some inBuffer =>
      if _ : got.length < totalLength then
        readBody willing inBuffer (bytesRead + got.length) (totalLength - got.length)
      else pure (.read inBuffer (bytesRead + got.length))
termination_by totalLength
decreasing_by
  have := List.length_pos_of_ne_nil ‹_›
  omega

/-- What memory holds before it is written. -/
structure Memory where
  stack : Nat → BitVec 8
  heap : Nat → BitVec 8

/-- The first bytes of an array after some were received into it. -/
def received (stack : Nat → BitVec 8) (got : Bytes) (i : Nat) : BitVec 8 :=
  (got[i]?).getD (stack i)

inductive Processed where
  | rejected
  | closed
  | overrun
  deriving DecidableEq, Repr

/-- The number of bytes the first `recv` returned is not looked at. -/
def processConnection (willing : Nat → Nat) (M : Memory) : ConnectionAct Processed := do
  let header ← recv willing 4
  let totalLength := Convert.toInt32 (received M.stack header)
  if totalLength ≤ 0 then pure .rejected
  else do
    let inBuffer := (List.range totalLength.toNat).map M.heap
    let body ← readBody willing inBuffer 0 totalLength.toNat
    match body with
    | .read inBuffer bytesRead => do
      Action.put fun s => { s with requests := s.requests ++ [inBuffer.take bytesRead] }
      pure .closed
    | .hungUp => pure .closed
    | .overrun => pure .overrun

/-- How many bytes one `recv` of up to `size` returns while there are that
many. -/
def piece (willing : Nat → Nat) (asked size : Nat) : Nat := max 1 (min (willing asked) size)

theorem piece_le (willing : Nat → Nat) (asked : Nat) {size : Nat} (hsize : 0 < size) :
    piece willing asked size ≤ size := by
  unfold piece
  omega

theorem piece_pos (willing : Nat → Nat) (asked size : Nat) : 0 < piece willing asked size := by
  unfold piece
  omega

theorem recv_apply (willing : Nat → Nat) (size : Nat) (s : Session Connection) :
    recv willing size s =
      (s.state.pending.take (piece willing s.asked size),
        ⟨⟨s.state.pending.drop (s.state.pending.take (piece willing s.asked size)).length,
          s.state.requests⟩, s.asked + 1⟩) := rfl

/-- A `recv` that asks for no more than `data`, which is there, takes a piece off
the front of it. -/
theorem recv_piece (willing : Nat → Nat) {size : Nat} (asked : Nat) (data rest : Bytes)
    (requests : List Bytes) (hsize : 0 < size) (hdata : size ≤ data.length) :
    recv willing size ⟨⟨data ++ rest, requests⟩, asked⟩ =
      (data.take (piece willing asked size),
        ⟨⟨data.drop (piece willing asked size) ++ rest, requests⟩, asked + 1⟩) := by
  have hle : piece willing asked size ≤ data.length := (piece_le willing asked hsize).trans hdata
  have htake : (data ++ rest).take (piece willing asked size) =
      data.take (piece willing asked size) := List.take_append_of_le_length hle
  rw [recv_apply]
  simp only [htake, List.length_take_of_le hle, List.drop_append_of_le_length hle]

theorem memcpy_within (block src : Bytes) (offset : Nat)
    (hfit : offset + src.length ≤ block.length) :
    ∃ block', memcpy block offset src = some block' ∧ block'.length = block.length ∧
      block'.take (offset + src.length) = block.take offset ++ src := by
  refine ⟨_, if_pos hfit, ?_, ?_⟩
  · simp only [List.length_append, List.length_take, List.length_drop]
    omega
  · have hlen : (block.take offset ++ src).length = offset + src.length := by
      simp only [List.length_append, List.length_take]
      omega
    rw [← hlen, List.take_left']
    rfl

/-- One turn of the loop in which something is received and fits. -/
theorem readBody_turn {willing : Nat → Nat} {inBuffer block got : Bytes}
    {bytesRead totalLength : Nat} {s t : Session Connection}
    (hrecv : recv willing (min totalLength inBufferSize) s = (got, t)) (hgot : got ≠ [])
    (hcopy : memcpy inBuffer bytesRead got = some block) :
    readBody willing inBuffer bytesRead totalLength s =
      if got.length < totalLength then
        readBody willing block (bytesRead + got.length) (totalLength - got.length) t
      else (.read block (bytesRead + got.length), t) := by
  rw [readBody, Action.bind_apply, hrecv]
  dsimp only
  rw [dif_neg hgot, hcopy]
  dsimp only
  split <;> rfl

/-- The loop collects the bytes in order, however they come, and stays inside
the block: the two counters add up to its size at every turn. -/
theorem readBody_collects (willing : Nat → Nat) (rest : Bytes) (requests : List Bytes)
    (data : Bytes) (hpos : 0 < data.length) (block : Bytes) (bytesRead asked : Nat)
    (hblock : block.length = bytesRead + data.length) :
    ∃ asked', readBody willing block bytesRead data.length ⟨⟨data ++ rest, requests⟩, asked⟩ =
      (.read (block.take bytesRead ++ data) block.length, ⟨⟨rest, requests⟩, asked'⟩) := by
  induction hn : data.length using Nat.strongRecOn
    generalizing data block bytesRead asked with
  | ind n ih =>
    subst hn
    have hsize : 0 < min data.length inBufferSize := by
      unfold inBufferSize
      omega
    have hrecv := recv_piece willing asked data rest requests hsize (by omega)
    have hk := piece_le willing asked hsize
    have hkpos := piece_pos willing asked (min data.length inBufferSize)
    generalize piece willing asked (min data.length inBufferSize) = k at hrecv hk hkpos
    have hlen : (data.take k).length = k := List.length_take_of_le (by omega)
    obtain ⟨block', hcopy, hlen', hprefix⟩ := memcpy_within block (data.take k) bytesRead
      (by omega)
    rw [hlen] at hprefix
    rw [readBody_turn hrecv (List.ne_nil_of_length_pos (by omega)) hcopy, hlen]
    split
    · -- something is missing: the rest of the data into the rest of the block
      rename_i hmore
      have hrest : (data.drop k).length = data.length - k := List.length_drop
      obtain ⟨asked', hcollected⟩ := ih _ (by omega) (data.drop k) (by omega) block'
        (bytesRead + k) (asked + 1) (by omega) hrest
      refine ⟨asked', ?_⟩
      rw [hcollected, hprefix, List.append_assoc, List.take_append_drop, hlen']
    · -- the piece was all that was missing
      rename_i hdone
      have hk' : k = data.length := by omega
      have hwhole : block'.take block'.length = block.take bytesRead ++ data := by
        rw [hlen', hblock, ← hk', hprefix, hk', List.take_length]
      refine ⟨asked + 1, ?_⟩
      rw [← hwhole, List.take_length, hk', List.drop_length, hblock]
      rfl

theorem length_int32ToBytes (n : BitVec 32) : (Convert.int32ToBytes n).length = 4 := rfl

/-- The bytes of a number, received whole, are read as that number. -/
theorem toInt32_received (stack : Nat → BitVec 8) (n : BitVec 32) :
    Convert.toInt32 (received stack (Convert.int32ToBytes n)) = n.toInt := by
  have hword := leWord_leBytes n
  exact congrArg BitVec.toInt hword

theorem toInt_length {payload : Bytes} (hmax : payload.length < 2 ^ 31) :
    (BitVec.ofNat 32 payload.length).toInt = payload.length := by
  rw [BitVec.toInt_ofNat']
  exact Int.bmod_eq_of_le (by omega) (by omega)

/-- A length whose fourth byte is 255 is negative. -/
theorem toInt32_neg {b : Nat → BitVec 8} (htop : b 3 = 0xff#8) : Convert.toInt32 b < 0 := by
  unfold Convert.toInt32
  rw [BitVec.toInt_neg_iff, Ocpp.leWord_toNat, htop]
  have h255 : (0xff#8 : BitVec 8).toNat = 255 := rfl
  omega

/-- The requests handed on for a payload, and how its connection ends. -/
def processed (willing : Nat → Nat) (M : Memory) (payload : Bytes) :
    Processed × Session Connection :=
  processConnection willing M ⟨⟨frame payload, []⟩, 0⟩

/-- The payload is handed on once and whole, and nothing is written past the
block it is collected in, whatever memory held before. -/
def HandedOnce (willing : Nat → Nat) (payload : Bytes) : Prop :=
  ∀ M : Memory, (processed willing M payload).2.state.requests = [payload] ∧
    (processed willing M payload).1 ≠ .overrun

/-- With the length received whole, the pieces the payload comes in do not
matter. -/
theorem handedOnce_of_whole {willing : Nat → Nat} {payload : Bytes}
    (hpos : 0 < payload.length) (hmax : payload.length < 2 ^ 31) (hwhole : 4 ≤ willing 0) :
    HandedOnce willing payload := by
  intro M
  have hpiece : piece willing 0 4 = 4 := by
    unfold piece
    omega
  have hrecv : recv willing 4 ⟨⟨frame payload, []⟩, 0⟩ =
      (Convert.int32ToBytes (BitVec.ofNat 32 payload.length), ⟨⟨payload, []⟩, 1⟩) := by
    have hlen := length_int32ToBytes (BitVec.ofNat 32 payload.length)
    have h := recv_piece willing 0 (Convert.int32ToBytes (BitVec.ofNat 32 payload.length))
      payload [] (show 0 < 4 by omega) (by omega)
    rw [hpiece] at h
    exact h
  have hlength : Convert.toInt32 (received M.stack
      (Convert.int32ToBytes (BitVec.ofNat 32 payload.length))) = payload.length :=
    (toInt32_received ..).trans (toInt_length hmax)
  obtain ⟨asked', hbody⟩ := readBody_collects willing [] [] payload hpos
    ((List.range payload.length).map M.heap) 0 1 (by simp)
  rw [List.append_nil] at hbody
  have hrun : processed willing M payload = (.closed, ⟨⟨[], [payload]⟩, asked'⟩) := by
    unfold processed processConnection
    rw [Action.bind_apply, hrecv]
    dsimp only
    rw [hlength, if_neg (by omega), Int.toNat_natCast, Action.bind_apply, hbody]
    simp
  rw [hrun]
  exact ⟨rfl, Processed.noConfusion⟩

/-- A piece of the length is completed by what the array held before: with 255
there the request is thrown away. -/
theorem not_handedOnce_of_short {willing : Nat → Nat} {payload : Bytes}
    (hshort : willing 0 < 4) : ¬HandedOnce willing payload := by
  intro honce
  let M : Memory := ⟨fun _ => 0xff#8, fun _ => 0#8⟩
  have htop : ∀ got : Bytes, got.length < 4 → received M.stack got 3 = 0xff#8 := by
    intro got hgot
    unfold received
    rw [List.getElem?_eq_none (by omega)]
    rfl
  have hgot : (recv willing 4 ⟨⟨frame payload, []⟩, 0⟩).1.length < 4 := by
    rw [recv_apply]
    have hpiece : piece willing 0 4 < 4 := by
      unfold piece
      omega
    exact (List.length_take_le ..).trans_lt hpiece
  have hneg := toInt32_neg (htop _ hgot)
  have hrun : (processed willing M payload).2.state.requests = [] := by
    unfold processed processConnection
    rw [Action.bind_apply]
    dsimp only
    rw [if_pos (by omega)]
    rfl
  have hnone := (honce M).1
  rw [hrun] at hnone
  cases hnone

/-- However the stream is cut, a payload is handed on once and whole exactly
when the first `recv` returns the whole length. -/
theorem handedOnce_iff {willing : Nat → Nat} {payload : Bytes} (hpos : 0 < payload.length)
    (hmax : payload.length < 2 ^ 31) : HandedOnce willing payload ↔ 4 ≤ willing 0 := by
  constructor
  · intro honce
    by_contra hshort
    exact not_handedOnce_of_short (by omega) honce
  · exact handedOnce_of_whole hpos hmax

theorem handedOnce_oneByOne :
    HandedOnce (fun n => if n = 0 then 4 else 1) [1#8, 2#8] :=
  (handedOnce_iff (by decide) (by decide)).2 (by decide)

/-- A stream that hands out single bytes. -/
theorem byteByByte_lost : ¬HandedOnce (fun _ => 1) [42#8] :=
  not_handedOnce_of_short (by decide)

end UCLinux.Phones
