import UCLinux.Phones.Framing
import UCLinux.Phones.MediaFiles

/-!
The download of a file. A phone asks with a packet of 128 bytes for a type and a
name. The server answers 33 before it has looked for the file, then its size and
its bytes in chunks; for a file that is not there it sends nothing more.
-/

namespace UCLinux.Phones

open Sql
open Ocpp (Bytes wrap32 leWord leBytes leWord_leBytes)

section Files

/-- What a file gives when it is read: its bytes up to the end, or up to an
error. -/
structure Reading where
  bytes : Bytes
  fails : Bool
  deriving DecidableEq, Repr

/-- What `stat` says of a path, and what is read if it can be opened. -/
structure FileEntry where
  size : Nat
  opened : Option Reading
  deriving DecidableEq, Repr

abbrev FileSystem := Text → Option FileEntry

/-- A readable file whose size is positive and fits an `int`. -/
def FileSystem.Holds (fs : FileSystem) (path : Text) (content : Bytes) : Prop :=
  fs path = some ⟨content.length, some ⟨content, false⟩⟩ ∧
    0 < content.length ∧ content.length < 2 ^ 31

end Files

section Sending

def bufSize : Nat := 1530

def fileSize (fs : FileSystem) (filename : Text) : Int :=
  (fs filename).elim (-1) fun entry => entry.size

/-- The loop over the chunks: it ends at the first one that is short. -/
def sendChunks (bytes : Bytes) : List Bytes :=
  let buff := bytes.take bufSize
  let sent := if buff = [] then [] else [buff]
  if _ : buff.length < bufSize then sent else sent ++ sendChunks (bytes.drop bufSize)
termination_by bytes.length
decreasing_by
  rename_i hwhole
  rw [List.length_take] at hwhole
  rw [List.length_drop]
  unfold bufSize at hwhole ⊢
  omega

/-- What is sent for a file and the value returned. -/
structure Transfer where
  sends : List Bytes
  rv : Int

/-- The size is converted to an `int`. -/
def transferFile (fs : FileSystem) (fname : Text) : Transfer :=
  let fsize := wrap32 (fileSize fs fname)
  if fsize ≤ 0 then ⟨[], -1⟩
  else match (fs fname).bind FileEntry.opened with
    | none => ⟨[], -1⟩
    | some reading =>
      ⟨Convert.int32ToBytes (BitVec.ofInt 32 fsize) :: sendChunks reading.bytes,
        if reading.fails then -2 else 1⟩

/-- `send_response_status` -/
def status (n : Int) : Bytes := Convert.int32ToBytes (BitVec.ofInt 32 n)

/-- The name goes to `prcd`, of which there is only the declaration. -/
def TakesPrcd (fname : Text) : Prop :=
  32 < fname.length ∧ fname[fname.length - 3]? = some '.'

instance (fname : Text) : Decidable (TakesPrcd fname) := inferInstanceAs (Decidable (_ ∧ _))

/-- The calls of `send`; `none` when the path does not fit its array. -/
def downloadFileFromServer (fs : FileSystem) (prcd : Text → Int) (fname : Text)
    (fileType : Nat) : Option (List Bytes) :=
  if fname = [] then some [status (-1)]
  else if TakesPrcd fname then some [status (prcd fname)]
  else (createPathForMediaFile fileType fname).map fun fname1 =>
    status 33 :: (transferFile fs fname1).sends

end Sending

section Packets

/-- A packet that the listener takes for a download request. -/
structure DownloadPacket where
  bytes : Bytes
  size : bytes.length = 128
  magic : bytes.take 4 = [0xff#8, 0xfe#8, 0xfd#8, 0xfc#8]

def asText (bytes : Bytes) : Text := bytes.map fun b => Char.ofNat b.toNat

theorem toNat_charOf (b : BitVec 8) : (Char.ofNat b.toNat).toNat = b.toNat := by
  have hvalid : b.toNat.isValidChar := Or.inl (by omega)
  unfold Char.ofNat
  rw [dif_pos hvalid]
  rfl

theorem charOf_inj {b c : BitVec 8} (h : Char.ofNat b.toNat = Char.ofNat c.toNat) : b = c := by
  have hnat := congrArg Char.toNat h
  rw [toNat_charOf, toNat_charOf] at hnat
  exact BitVec.eq_of_toNat_eq hnat

theorem asText_append (a b : Bytes) : asText (a ++ b) = asText a ++ asText b := List.map_append

/-- Only a zero byte is read as a NUL. -/
theorem nul_mem_asText {bytes : Bytes} : '\x00' ∈ asText bytes ↔ 0#8 ∈ bytes := by
  unfold asText
  rw [List.mem_map]
  constructor
  · rintro ⟨b, hb, hchar⟩
    have hzero : b = 0#8 := charOf_inj hchar
    exact hzero ▸ hb
  · exact fun h => ⟨0#8, h, rfl⟩

namespace DownloadPacket

variable (p : DownloadPacket) (behind : Bytes)

def fileType : Nat := (p.bytes.getD 4 0).toNat

/-- The name is a C string from offset 8 on. Without a NUL in the packet it goes
on with what memory holds behind it. -/
def fname : Text := cstr (asText ((p.bytes ++ behind).drop 8))

/-- What the listener sends for the packet. -/
def process (fs : FileSystem) (prcd : Text → Int) : Option (List Bytes) :=
  downloadFileFromServer fs prcd (p.fname behind) p.fileType

def path : Text := mediaPath p.fileType (p.fname behind)

end DownloadPacket

/-- What a phone is to get for a path: 33, the size and the bytes of a readable
file, else one status that is not 33. -/
structure Answers (fs : FileSystem) (path : Text) (sent : Bytes) : Prop where
  file : ∀ content, fs.Holds path content → sent = status 33 ++
    (Convert.int32ToBytes (BitVec.ofNat 32 content.length) ++ content)
  noFile : (¬∃ content, fs.Holds path content) →
    ∃ n : BitVec 32, n ≠ 33#32 ∧ sent = Convert.int32ToBytes n

end Packets

section Answers

theorem sendChunks_flatten (bytes : Bytes) : (sendChunks bytes).flatten = bytes := by
  induction hn : bytes.length using Nat.strongRecOn generalizing bytes with
  | ind n ih =>
    subst hn
    have hfirst : (if bytes.take bufSize = [] then [] else [bytes.take bufSize]).flatten =
        bytes.take bufSize := by
      split
      · rename_i hnil
        rw [hnil]
        rfl
      · exact List.flatten_singleton
    rw [sendChunks]
    split
    · rename_i hshort
      rw [hfirst]
      apply List.take_of_length_le
      rw [List.length_take] at hshort
      omega
    · rename_i hwhole
      rw [List.length_take] at hwhole
      have hless : (bytes.drop bufSize).length < bytes.length := by
        rw [List.length_drop]
        unfold bufSize at hwhole ⊢
        omega
      rw [List.flatten_append, hfirst, ih _ hless _ rfl, List.take_append_drop]

theorem int32ToBytes_inj {m n : BitVec 32} (h : Convert.int32ToBytes m = Convert.int32ToBytes n) :
    m = n := by
  have hword (x : BitVec 32) : leWord ((Convert.int32ToBytes x).getD 0 0)
      ((Convert.int32ToBytes x).getD 1 0) ((Convert.int32ToBytes x).getD 2 0)
      ((Convert.int32ToBytes x).getD 3 0) = x := leWord_leBytes x
  rw [← hword m, h, hword n]

variable {fs : FileSystem} {path content : Text}

/-- A readable file is sent whole behind its size. -/
theorem transferFile_holds {content : Bytes} (h : fs.Holds path content) :
    (transferFile fs path).sends.flatten =
      Convert.int32ToBytes (BitVec.ofNat 32 content.length) ++ content := by
  obtain ⟨hentry, hpos, hmax⟩ := h
  have hsize : wrap32 (fileSize fs path) = content.length := by
    unfold fileSize
    rw [hentry]
    exact Ocpp.wrap32_of_range ⟨by dsimp only [Option.elim]; omega,
      by dsimp only [Option.elim]; omega⟩
  unfold transferFile
  rw [hsize, hentry]
  dsimp only
  rw [if_neg (by omega), Option.bind_some]
  dsimp only
  rw [List.flatten_cons, sendChunks_flatten, BitVec.ofInt_natCast]

/-- What begins with the status 33 and is one status is that status. -/
theorem status_only {rest : Bytes} {n : BitVec 32}
    (h : status 33 ++ rest = Convert.int32ToBytes n) : n = 33#32 := by
  have hlength : (status 33).length = (Convert.int32ToBytes n).length := rfl
  rw [← List.append_nil (Convert.int32ToBytes n)] at h
  exact (int32ToBytes_inj (List.append_inj h hlength).1).symm

/-- A download is answered as it is to be exactly when the file is there and its
path fits, or nothing is asked for. -/
theorem DownloadPacket.answers_iff (p : DownloadPacket) (behind : Bytes) (fs : FileSystem)
    (prcd : Text → Int) (hprcd : ¬TakesPrcd (p.fname behind)) :
    (∃ sends, p.process behind fs prcd = some sends ∧
        Answers fs (p.path behind) sends.flatten) ↔
      (p.fname behind ≠ [] ∧ PathFits p.fileType (p.fname behind) ∧
          ∃ content, fs.Holds (p.path behind) content) ∨
        (p.fname behind = [] ∧ ¬∃ content, fs.Holds (p.path behind) content) := by
  unfold DownloadPacket.process downloadFileFromServer createPathForMediaFile
  by_cases hname : p.fname behind = []
  · rw [if_pos hname]
    simp only [hname, ne_eq, not_true_eq_false, false_and, true_and, false_or]
    constructor
    · rintro ⟨sends, hsends, hfile, _⟩ ⟨content, hholds⟩
      obtain rfl := Option.some.inj hsends
      have hlength := congrArg List.length (hfile content hholds)
      simp only [List.flatten_singleton, List.length_append, length_int32ToBytes, status] at hlength
      omega
    · intro hno
      refine ⟨_, rfl, fun content hholds => absurd ⟨content, hholds⟩ hno, fun _ => ?_⟩
      exact ⟨BitVec.ofInt 32 (-1), by decide, List.flatten_singleton⟩
  · rw [if_neg hname, if_neg hprcd]
    simp only [hname, ne_eq, not_false_eq_true, true_and, false_and, or_false]
    by_cases hfits : PathFits p.fileType (p.fname behind)
    · rw [if_pos hfits, Option.map_some, and_iff_right hfits]
      constructor
      · rintro ⟨sends, hsends, _, hnofile⟩
        obtain rfl := Option.some.inj hsends
        by_contra hno
        obtain ⟨n, hn, hsent⟩ := hnofile hno
        rw [List.flatten_cons] at hsent
        exact hn (status_only hsent)
      · rintro ⟨content, hholds⟩
        refine ⟨_, rfl, fun content' hholds' => ?_, fun hno => absurd ⟨content, hholds⟩ hno⟩
        rw [List.flatten_cons, ← transferFile_holds hholds']
        rfl
    · rw [if_neg hfits]
      refine iff_of_false ?_ fun h => hfits h.1
      rintro ⟨sends, hsends, _⟩
      cases hsends

/-- Vehicle image `a` is asked for. -/
def imagePacket : DownloadPacket where
  bytes := [0xff#8, 0xfe#8, 0xfd#8, 0xfc#8, 1#8, 0#8, 0#8, 0#8, 97#8] ++ List.replicate 119 0#8
  size := by rw [List.length_append, List.length_replicate]; rfl
  magic := rfl

/-- The image is there. -/
def imageFiles : FileSystem := fun path =>
  if path = mediaVeh ++ ['a'] then some ⟨2, some ⟨[1#8, 2#8], false⟩⟩ else none

theorem imagePacket_answered : ∃ sends,
    imagePacket.process [] imageFiles (fun _ => 0) = some sends ∧
      Answers imageFiles (imagePacket.path []) sends.flatten :=
  (imagePacket.answers_iff [] imageFiles (fun _ => 0) (by decide)).mpr
    (Or.inl ⟨by decide, by decide, [1#8, 2#8], rfl, by decide, by decide⟩)

/-- Without any file 33 is sent, which is no answer. -/
theorem imagePacket_missing :
    ¬∃ sends, imagePacket.process [] (fun _ => none) (fun _ => 0) = some sends ∧
      Answers (fun _ => none) (imagePacket.path []) sends.flatten := by
  rintro ⟨sends, hsends, -, hnofile⟩
  have hstatus : imagePacket.process [] (fun _ => none) (fun _ => 0) =
      some [Convert.int32ToBytes 33#32] := by decide
  obtain rfl := Option.some.inj (hstatus.symm.trans hsends)
  obtain ⟨n, hn, hsent⟩ := hnofile (by rintro ⟨content, hentry, -⟩; cases hentry)
  rw [List.flatten_singleton] at hsent
  exact hn (int32ToBytes_inj hsent).symm

end Answers

end UCLinux.Phones
