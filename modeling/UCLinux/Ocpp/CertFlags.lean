import UCLinux.Machine.Run
import UCLinux.Ocpp.BootNotification
import UCLinux.Ocpp.Numbers
import UCLinux.Ocpp.Stations

/-!
Whose bits the flags of a station are. A client that claims a station sets
bits 0 and 1 of its CertFlag, the station itself sets bit 2 with the imsi it
reports when it boots. The imsi is joined to the iccid with a `|` and cut out
again, so an iccid with a `|` of its own puts something else in its place, and
the UPDATE of a boot without a firmware version sets the bit in every row.
-/

namespace UCLinux.Ocpp

open Sql Machine Server CentralOcppDB HistoryDB

section Bits

theorem bit2_setBit2 (n : Int) : bit2 (setBit2 n) = true := by
  unfold setBit2
  split
  · assumption
  · next h =>
    simp only [bit2, decide_eq_true_eq] at h ⊢
    omega

theorem bit2_clearBit2 (n : Int) : bit2 (clearBit2 n) = false := by
  unfold clearBit2
  split
  · next h =>
    simp only [bit2, decide_eq_true_eq, decide_eq_false_iff_not] at h ⊢
    omega
  · next h => exact Bool.eq_false_iff.mpr h

theorem setBit2_emod_four (n : Int) : setBit2 n % 4 = n % 4 := by
  unfold setBit2
  split <;> omega

theorem clearBit2_emod_four (n : Int) : clearBit2 n % 4 = n % 4 := by
  unfold clearBit2
  split <;> omega

theorem bit2_wrap32 (n : Int) : bit2 (wrap32 n) = bit2 n := by
  have hmod : wrap32 n % 2 ^ 32 = n % 2 ^ 32 := Int.bmod_emod
  simp only [bit2, decide_eq_decide]
  omega

theorem claimFlags_emod_four (flags certflag : Int) :
    claimFlags flags certflag % 4 = certflag % 4 := by
  unfold claimFlags
  omega

theorem bit2_claimFlags (flags certflag : Int) :
    bit2 (claimFlags flags certflag) = bit2 flags := by
  have h : claimFlags flags certflag / 4 = flags / 4 := by
    unfold claimFlags
    omega
  simp only [bit2, h]

end Bits

section Reported

/-- What stands before the `|` of a joined imsi. -/
def BootNotificationRequest.iccidText (p : BootNotificationRequest) : Text :=
  (p.iccid.map SchemaString.toText).getD "*"

/-- The integer a boot reports as imsi, 0 when it reports none. -/
def BootNotificationRequest.imsiNumber (p : BootNotificationRequest) : Int :=
  (p.imsi.bind fun imsi => leadingNumber imsi.toText).getD 0

theorem bar_endsNumber : EndsNumber '|' := by
  constructor <;> decide

variable {p : BootNotificationRequest} {sern : SchemaString 25} {ts : Int}

theorem bit2_str2Int {s : Text} {n : Int} (hn : (leadingNumber s).getD 0 = n)
    (hrange : -(2 ^ 63) ≤ n ∧ n < 2 ^ 63) : bit2 (str2Int s) = bit2 n := by
  have hclamp : max (-(2 ^ 63)) (min (2 ^ 63 - 1) n) = n := by omega
  rw [str2Int, hn, hclamp, bit2_wrap32]

/-- The bit a boot asks for, when its iccid does not break the join and its
imsi is in the range of a `long`. -/
theorem bit2_bootFlags (hbar : '|' ∉ p.iccidText)
    (hrange : -(2 ^ 63) ≤ p.imsiNumber ∧ p.imsiNumber < 2 ^ 63) :
    bit2 (bootFlags (bootRtt p sern ts)) = bit2 p.imsiNumber := by
  cases himsi : p.imsi with
  | none =>
    have hsensors : (bootRtt p sern ts).sensors = p.iccidText := by
      simp [bootRtt, himsi, BootNotificationRequest.iccidText]
    have hnumber : p.imsiNumber = 0 := by simp [BootNotificationRequest.imsiNumber, himsi]
    have hitems : splitFrom '|' [] p.iccidText = _ := splitFrom_unbroken hbar
    have hflags : bootFlags (bootRtt p sern ts) = 0 := by
      unfold bootFlags split
      rw [hsensors, hitems]
      by_cases hempty : [] ++ p.iccidText = []
      · rw [if_pos hempty]
      · rw [if_neg hempty]
    rw [hflags, hnumber]
  | some imsi =>
    have hsensors : (bootRtt p sern ts).sensors = p.iccidText ++ '|' :: imsi.toText := by
      simp [bootRtt, himsi, BootNotificationRequest.iccidText]
    have hnumber : p.imsiNumber = (leadingNumber imsi.toText).getD 0 := by
      simp [BootNotificationRequest.imsiNumber, himsi]
    have hitems : splitFrom '|' [] (p.iccidText ++ '|' :: imsi.toText) = _ :=
      splitFrom_join hbar
    have hsecond : (splitFrom '|' [] imsi.toText).head? = _ := splitFrom_head imsi.nonempty
    obtain ⟨more, hmore⟩ := List.head?_eq_some_iff.mp hsecond
    have hflags : bootFlags (bootRtt p sern ts) =
        str2Int (imsi.toText.takeWhile (· ≠ '|')) := by
      unfold bootFlags split
      rw [hsensors, hitems, hmore]
      rfl
    rw [hflags]
    apply bit2_str2Int _ hrange
    rw [leadingNumber_takeWhile bar_endsNumber, hnumber]

end Reported

/-- A claim of a client, or a boot as it is stored. -/
inductive FlagOp where
  | claim (wi : PCSItem)
  | boot (req : OcppRequest) (p : BootNotificationRequest) (sern : SchemaString 25) (ts : Int)

def FlagOp.op : FlagOp → StationOp
  | .claim wi => .insert wi
  | .boot req p sern ts => .boot req (bootRtt p sern ts)

def FlagOp.step (s : Server) (e : Env × FlagOp) : Server := StationOp.step s (e.1, e.2.op)

/-- For each serial number the low bits of the last successful claim and the
bit of the last boot. -/
structure FlagNote where
  claimed : Text → Option Int := fun _ => none
  booted : Text → Option Bool := fun _ => none

def FlagNote.mark (N : FlagNote) (v : Visit Server (Env × FlagOp)) : FlagNote :=
  match v.event.2 with
  | .claim wi =>
    if 0 < (insertNewChargeStationItem v.event.1 wi v.before.start).1 then
      { N with claimed := Function.update N.claimed wi.serialn (some (wi.certflag % 4)) }
    else N
  | .boot _ p sern _ =>
    { N with booted := Function.update N.booted sern.toText (some (bit2 p.imsiNumber)) }

/-- Every row has the bits its last writers asked for. -/
structure FlagsAgree (N : FlagNote) (rows : List (Row ChStation)) : Prop where
  claimed : ∀ r ∈ rows, ∀ c, N.claimed r.cols.csSerN = some c → r.cols.certFlag % 4 = c
  booted : ∀ r ∈ rows, ∀ b, N.booted r.cols.csSerN = some b → bit2 r.cols.certFlag = b

/-- The operation leaves the bits of a row that the other one owns. -/
def FlagOp.Spares : FlagOp → Row ChStation → Row ChStation → Prop
  | .claim _, r, r' => bit2 r'.cols.certFlag = bit2 r.cols.certFlag
  | .boot .., r, r' => r'.cols.certFlag % 4 = r.cols.certFlag % 4

/-- After the operation the rows have their bits, and every row it found is
still there with the bits it does not own. -/
structure FlagsRight (v : Visit (Server × FlagNote) (Env × FlagOp)) : Prop where
  agree : FlagsAgree v.after.2 v.after.1.chStations.rows
  spared : ∀ r ∈ v.before.1.chStations.rows, ∃ r' ∈ v.after.1.chStations.rows,
    r'.rowid = r.rowid ∧ v.event.2.Spares r r'

/-- What an operation has to find. A claim: a C string, of a station that has
a row or did not boot with the bit set. A boot: a row filter, an iccid without
a `|`, an imsi in the range of a `long`, and a database that answers. -/
def FlagOp.Sound (q : Server × FlagNote) (e : Env × FlagOp) : Prop :=
  e.2.op.Literal ∧
  match e.2 with
  | .claim wi => '\x00' ∉ wi.serialn ∧
    (q.2.booted wi.serialn = some true →
      ∃ r ∈ q.1.chStations.rows, r.cols.csSerN = wi.serialn)
  | .boot _ p sern _ =>
    (p.firmwareVersion = none → ∀ r ∈ q.1.chStations.rows, r.cols.csSerN = sern.toText) ∧
    '|' ∉ p.iccidText ∧ (-(2 ^ 63) ≤ p.imsiNumber ∧ p.imsiNumber < 2 ^ 63) ∧
    e.1.raises 0 = none ∧ e.1.raises 1 = none

section Steps

variable {E : Env} {s : Server} {N : FlagNote}

/-- The rows have their bits, and rowids are positive. -/
structure FlagInv (q : Server × FlagNote) : Prop where
  agree : FlagsAgree q.2 q.1.chStations.rows
  positive : ∀ r ∈ q.1.chStations.rows, 0 < r.rowid

theorem nextRowid_pos {t : Table ChStation.key} (h : ∀ r ∈ t.rows, 0 < r.rowid) :
    0 < t.nextRowid := by
  unfold Table.nextRowid Table.lastRowid
  cases hlast : t.rows.getLast? with
  | none => decide
  | some r =>
    have hpos := h r (List.mem_of_getLast? hlast)
    simp only [Option.map_some, Option.getD_some]
    omega

/-- What a claim makes of the row of its serial number. -/
theorem claim_write {wi : PCSItem} {r : Row ChStation}
    (h : ((StationOp.insert wi).write E r).isSome) :
    r.cols.csSerN = cstr wi.serialn ∧ (StationOp.insert wi).write E r = some { r.cols with
      clientID := wi.clientid
      certFlag := claimFlags (wrap32 r.cols.certFlag) wi.certflag } := by
  simp only [StationOp.write] at h ⊢
  split
  · next hrow => exact ⟨hrow.2, rfl⟩
  · next hrow =>
    rw [if_neg hrow] at h
    cases h

theorem readFlags_of_new {t : Table ChStation.key} {sern : Text}
    (h : ∀ r ∈ t.rows, r.cols.csSerN ≠ cstr sern) : readFlags t sern = 0 := by
  have hnone : t.select (·.cols.csSerN = cstr sern) = [] := by
    unfold Table.select
    exact List.filter_eq_nil_iff.mpr fun r hr => by simpa using h r hr
  unfold readFlags
  rw [hnone]
  rfl

/-- The row a claim finds gets its low bits and no other row any. -/
theorem claimed_flags {t : Table ChStation.key} {wi : PCSItem} {r₀ r : Row ChStation}
    (h₀ : r₀ ∈ t.rows) (hfree : ((StationOp.insert wi).write E r₀).isSome) (hr : r ∈ t.rows) :
    (Table.rewriteRow ((StationOp.insert wi).write E) r).cols.csSerN = r.cols.csSerN ∧
      (Table.rewriteRow ((StationOp.insert wi).write E) r).cols.certFlag =
        if r.cols.csSerN = cstr wi.serialn then
          claimFlags (wrap32 r.cols.certFlag) wi.certflag
        else r.cols.certFlag := by
  obtain ⟨hserial, hwrite⟩ := claim_write hfree
  by_cases heq : r.cols.csSerN = cstr wi.serialn
  · have hsame : r = r₀ := t.eq_of_key hr h₀ (congrArg some heq) (congrArg some hserial)
    rw [if_pos heq, hsame, Table.rewriteRow_some hwrite]
    exact ⟨rfl, rfl⟩
  · have hnone : (StationOp.insert wi).write E r = none := by
      cases hw : (StationOp.insert wi).write E r with
      | none => rfl
      | some a => exact absurd (claim_write (by rw [hw]; rfl)).1 heq
    rw [if_neg heq, Table.rewriteRow_none hnone]
    exact ⟨rfl, rfl⟩

/-- A row that is rewritten keeps its serial number, and its bits are those
its last writers ask for now. -/
theorem FlagsAgree.rewritten {N N' : FlagNote} {rows : List (Row ChStation)}
    {f : Row ChStation → Row ChStation} (h : FlagsAgree N rows)
    (hserial : ∀ r ∈ rows, (f r).cols.csSerN = r.cols.csSerN)
    (hclaimed : ∀ r ∈ rows, ∀ c, N'.claimed r.cols.csSerN = some c →
      (f r).cols.certFlag % 4 = c ∨
        N.claimed r.cols.csSerN = some c ∧ (f r).cols.certFlag % 4 = r.cols.certFlag % 4)
    (hbooted : ∀ r ∈ rows, ∀ b, N'.booted r.cols.csSerN = some b →
      bit2 (f r).cols.certFlag = b ∨
        N.booted r.cols.csSerN = some b ∧ bit2 (f r).cols.certFlag = bit2 r.cols.certFlag) :
    FlagsAgree N' (rows.map f) := by
  constructor
  · intro r' hr' c hc
    obtain ⟨r, hr, rfl⟩ := List.mem_map.mp hr'
    rw [hserial r hr] at hc
    rcases hclaimed r hr c hc with hnow | ⟨hbefore, hkept⟩
    · exact hnow
    · exact hkept.trans (h.claimed r hr c hbefore)
  · intro r' hr' b hb
    obtain ⟨r, hr, rfl⟩ := List.mem_map.mp hr'
    rw [hserial r hr] at hb
    rcases hbooted r hr b hb with hnow | ⟨hbefore, hkept⟩
    · exact hnow
    · exact hkept.trans (h.booted r hr b hbefore)

/-- A row is added, and of the others the same is asked as before. -/
theorem FlagsAgree.appended {N N' : FlagNote} {rows : List (Row ChStation)} {new : Row ChStation}
    (h : FlagsAgree N rows)
    (hclaimed : ∀ r ∈ rows, N'.claimed r.cols.csSerN = N.claimed r.cols.csSerN)
    (hbooted : ∀ r ∈ rows, N'.booted r.cols.csSerN = N.booted r.cols.csSerN)
    (hnew : FlagsAgree N' [new]) : FlagsAgree N' (rows ++ [new]) := by
  constructor
  · intro r hr c hc
    rcases List.mem_append.mp hr with old | added
    · exact h.claimed r old c ((hclaimed r old).symm.trans hc)
    · exact hnew.claimed r added c hc
  · intro r hr b hb
    rcases List.mem_append.mp hr with old | added
    · exact h.booted r old b ((hbooted r old).symm.trans hb)
    · exact hnew.booted r added b hb

theorem rewritten_positive {rows : List (Row ChStation)} (h : ∀ r ∈ rows, 0 < r.rowid)
    (g : Row ChStation → Option ChStation) :
    ∀ r ∈ rows.map (Table.rewriteRow g), 0 < r.rowid := by
  intro r' hr'
  obtain ⟨r, hr, rfl⟩ := List.mem_map.mp hr'
  rw [Table.rewriteRow_rowid]
  exact h r hr

/-- What holds after an operation: the invariant, and the bits it does not own
are spared. -/
def FlagStep (q : Server × FlagNote) (e : Env × FlagOp) : Prop :=
  FlagInv (noting FlagOp.step FlagNote.mark q e) ∧
    ∀ r ∈ q.1.chStations.rows, ∃ r' ∈ (FlagOp.step q.1 e).chStations.rows,
      r'.rowid = r.rowid ∧ e.2.Spares r r'

/-- The note after a claim that succeeds. -/
def FlagNote.claim (N : FlagNote) (wi : PCSItem) : FlagNote :=
  { N with claimed := Function.update N.claimed wi.serialn (some (wi.certflag % 4)) }

/-- A claim leaves bit 2 of every row it finds. -/
theorem claimed_bit2 {t : Table ChStation.key} {wi : PCSItem} {r₀ r : Row ChStation}
    (h₀ : r₀ ∈ t.rows) (hfree : ((StationOp.insert wi).write E r₀).isSome) (hr : r ∈ t.rows) :
    bit2 (Table.rewriteRow ((StationOp.insert wi).write E) r).cols.certFlag =
      bit2 r.cols.certFlag := by
  rw [(claimed_flags h₀ hfree hr).2]
  split
  · rw [bit2_claimFlags, bit2_wrap32]
  · rfl

/-- The rows have their bits after a claim of one of them. -/
theorem FlagsAgree.claimedRow {t : Table ChStation.key} {wi : PCSItem} {r₀ : Row ChStation}
    (h : FlagsAgree N t.rows) (hserial : cstr wi.serialn = wi.serialn) (h₀ : r₀ ∈ t.rows)
    (hfree : ((StationOp.insert wi).write E r₀).isSome) :
    FlagsAgree (N.claim wi) (t.rows.map (Table.rewriteRow ((StationOp.insert wi).write E))) := by
  refine h.rewritten (fun r hr => (claimed_flags h₀ hfree hr).1) ?_
    fun r hr b hb => Or.inr ⟨hb, claimed_bit2 h₀ hfree hr⟩
  intro r hr c hc
  dsimp only [FlagNote.claim] at hc
  rw [(claimed_flags h₀ hfree hr).2, hserial]
  rw [Function.update_apply] at hc
  split at hc
  · next heq =>
    cases hc
    rw [if_pos heq]
    exact Or.inl (claimFlags_emod_four _ _)
  · next hne =>
    rw [if_neg hne]
    exact Or.inr ⟨hc, rfl⟩

/-- And after a claim that adds a row, when its station did not boot with the
bit set. -/
theorem FlagsAgree.claimedNew {t : Table ChStation.key} {wi : PCSItem} {rowid : Int}
    (h : FlagsAgree N t.rows) (hserial : cstr wi.serialn = wi.serialn)
    (hnew : ∀ r ∈ t.rows, r.cols.csSerN ≠ wi.serialn)
    (hbooted : N.booted wi.serialn ≠ some true) :
    FlagsAgree (N.claim wi) (t.rows ++
      [⟨rowid, setParams wi (claimFlags (readFlags t wi.serialn) wi.certflag)⟩]) := by
  have hflags : readFlags t wi.serialn = 0 := readFlags_of_new (hserial.symm ▸ hnew)
  apply h.appended
  · exact fun r hr => Function.update_of_ne (hnew r hr) _ _
  · exact fun _ _ => rfl
  · constructor
    · intro r hr c hc
      rw [List.mem_singleton.mp hr] at hc ⊢
      have hc' : Function.update N.claimed wi.serialn (some (wi.certflag % 4)) wi.serialn =
          some c := hc
      rw [Function.update_self] at hc'
      cases hc'
      exact claimFlags_emod_four _ _
    · intro r hr b hb
      rw [List.mem_singleton.mp hr] at hb ⊢
      have hb' : N.booted wi.serialn = some b := hb
      have hclear : bit2 (claimFlags (readFlags t wi.serialn) wi.certflag) = false := by
        rw [bit2_claimFlags, hflags]
        rfl
      cases b with
      | false => exact hclear
      | true => exact absurd hb' hbooted

theorem claim_flagStep {wi : PCSItem} (hinv : FlagInv (s, N))
    (hsound : FlagOp.Sound (s, N) (E, .claim wi)) : FlagStep (s, N) (E, .claim wi) := by
  obtain ⟨hliteral, hnul, hbooted⟩ := hsound
  have hserial : cstr wi.serialn = wi.serialn := cstr_of_no_nul hnul
  unfold FlagStep
  cases claim_cases (E := E) s wi hliteral with
  | refused hrv hsame =>
    have hafter : (FlagOp.step s (E, .claim wi)).chStations = s.chStations := hsame
    have hnote : N.mark ⟨s, (E, .claim wi), FlagOp.step s (E, .claim wi)⟩ = N :=
      if_neg (by rw [hrv]; exact Int.lt_irrefl 0)
    refine ⟨⟨?_, ?_⟩, fun r hr => ⟨r, hafter ▸ hr, rfl, rfl⟩⟩
    · rw [noting_fst, noting_snd, hnote, hafter]
      exact hinv.agree
    · rw [noting_fst, hafter]
      exact hinv.positive
  | claimed hrv hfree hrows =>
    obtain ⟨r₀, h₀, hsome⟩ := hfree
    have hafter : (FlagOp.step s (E, .claim wi)).chStations.rows =
        s.chStations.rows.map (Table.rewriteRow ((StationOp.insert wi).write E)) := hrows
    have hnote : N.mark ⟨s, (E, .claim wi), FlagOp.step s (E, .claim wi)⟩ = N.claim wi :=
      if_pos hrv
    refine ⟨⟨?_, ?_⟩, fun r hr => ⟨_, hafter ▸ List.mem_map_of_mem hr,
      Table.rewriteRow_rowid _ r, claimed_bit2 h₀ hsome hr⟩⟩
    · rw [noting_fst, noting_snd, hnote, hafter]
      exact hinv.agree.claimedRow hserial h₀ hsome
    · rw [noting_fst, hafter]
      exact rewritten_positive hinv.positive _
  | inserted hrv _ hnew hrows =>
    have hpos := nextRowid_pos hinv.positive
    have hafter : (FlagOp.step s (E, .claim wi)).chStations.rows = s.chStations.rows ++
        [⟨s.chStations.nextRowid,
          setParams wi (claimFlags (readFlags s.chStations wi.serialn) wi.certflag)⟩] := hrows
    have hnote : N.mark ⟨s, (E, .claim wi), FlagOp.step s (E, .claim wi)⟩ = N.claim wi :=
      if_pos (by rw [hrv]; exact hpos)
    refine ⟨⟨?_, ?_⟩, fun r hr => ⟨r, hafter ▸ List.mem_append_left _ hr, rfl, rfl⟩⟩
    · rw [noting_fst, noting_snd, hnote, hafter]
      apply hinv.agree.claimedNew hserial hnew
      intro hset
      obtain ⟨r, hr, heq⟩ := hbooted hset
      exact hnew r hr heq
    · rw [noting_fst, hafter]
      intro r hr
      rcases List.mem_append.mp hr with old | new
      · exact hinv.positive r old
      · rw [List.mem_singleton.mp new]
        exact hpos

/-- When the database answers, a boot rewrites the rows its filter selects. -/
theorem boot_rows {req : OcppRequest} {p : BootNotificationRequest} {sern : SchemaString 25}
    {ts : Int} (hliteral : (FlagOp.boot req p sern ts).op.Literal) (hopen : E.raises 0 = none)
    (hupdate : E.raises 1 = none) :
    (FlagOp.step s (E, .boot req p sern ts)).chStations.rows =
      s.chStations.rows.map (Table.rewriteRow (bootRow req (bootRtt p sern ts))) := by
  obtain ⟨t, hrows, hdone⟩ := CH_STATIONS.update_literal (E := E)
    (bootRow req (bootRtt p sern ts)) s.start.tick hliteral hupdate (by
      intro r a ha
      unfold bootRow at ha
      split at ha
      · cases ha
        rfl
      · cases ha)
  have hupdated : updateIPAddrFromOcppMessage2DB E req (bootRtt p sern ts) s.start.tick = _ :=
    hdone
  rcases insertBoot_cases (E := E) req (bootRtt p sern ts) s.start with
    ⟨_, _, hclosed⟩ | ⟨_, hstations, _⟩
  · exact absurd hopen hclosed
  · have hafter : (FlagOp.step s (E, .boot req p sern ts)).chStations = _ := hstations
    rw [hafter, hupdated]
    exact hrows

/-- A filtered boot writes bit 2 of the reported row and no other row. -/
theorem booted_flags (req : OcppRequest) {p : BootNotificationRequest} {sern : SchemaString 25}
    {ts : Int} {r : Row ChStation}
    (hfilter : p.firmwareVersion = none → r.cols.csSerN = sern.toText)
    (hbit : bit2 (bootFlags (bootRtt p sern ts)) = bit2 p.imsiNumber) :
    (Table.rewriteRow (bootRow req (bootRtt p sern ts)) r).cols.csSerN = r.cols.csSerN ∧
      (Table.rewriteRow (bootRow req (bootRtt p sern ts)) r).cols.certFlag =
        if r.cols.csSerN = sern.toText then
          if bit2 p.imsiNumber then setBit2 r.cols.certFlag else clearBit2 r.cols.certFlag
        else r.cols.certFlag := by
  have hser : cstr (bootRtt p sern ts).serNumber = sern.toText := cstr_of_no_nul sern.noNul
  by_cases heq : r.cols.csSerN = sern.toText
  · have hrow : bootRow req (bootRtt p sern ts) r =
        some (bootColumns req (bootRtt p sern ts) r.cols) := if_pos (Or.inr (heq.trans hser.symm))
    rw [Table.rewriteRow_some hrow, if_pos heq, ← hbit]
    exact ⟨rfl, rfl⟩
  · have hrow : bootRow req (bootRtt p sern ts) r = none := by
      apply if_neg
      rintro (hnone | hserial)
      · cases hfw : p.firmwareVersion with
        | none => exact heq (hfilter hfw)
        | some fw => exact fw.nonempty (by rw [← bootRtt_fwVer_some hfw, hnone])
      · exact heq (hserial.trans hser)
    rw [Table.rewriteRow_none hrow, if_neg heq]
    exact ⟨rfl, rfl⟩

theorem boot_flagStep {req : OcppRequest} {p : BootNotificationRequest} {sern : SchemaString 25}
    {ts : Int} (hinv : FlagInv (s, N)) (hsound : FlagOp.Sound (s, N) (E, .boot req p sern ts)) :
    FlagStep (s, N) (E, .boot req p sern ts) := by
  obtain ⟨hliteral, hfilter, hbar, hrange, hopen, hupdate⟩ := hsound
  have hbit : bit2 (bootFlags (bootRtt p sern ts)) = bit2 p.imsiNumber :=
    bit2_bootFlags hbar hrange
  have hafter := boot_rows (s := s) hliteral hopen hupdate
  have hflags (r : Row ChStation) (hr : r ∈ s.chStations.rows) :=
    booted_flags req (fun hfw => hfilter hfw r hr) hbit
  have hlow (r : Row ChStation) (hr : r ∈ s.chStations.rows) :
      (Table.rewriteRow (bootRow req (bootRtt p sern ts)) r).cols.certFlag % 4 =
        r.cols.certFlag % 4 := by
    rw [(hflags r hr).2]
    split
    · split
      · exact setBit2_emod_four _
      · exact clearBit2_emod_four _
    · rfl
  refine ⟨⟨?_, ?_⟩, fun r hr => ⟨_, hafter ▸ List.mem_map_of_mem hr,
    Table.rewriteRow_rowid _ r, hlow r hr⟩⟩
  · rw [noting_fst, noting_snd, hafter]
    refine hinv.agree.rewritten (fun r hr => (hflags r hr).1)
      (fun r hr c hc => Or.inr ⟨hc, hlow r hr⟩) ?_
    intro r hr b hb
    have hb' : Function.update N.booted sern.toText (some (bit2 p.imsiNumber)) r.cols.csSerN =
        some b := hb
    rw [Function.update_apply] at hb'
    rw [(hflags r hr).2]
    split at hb'
    · next heq =>
      cases hb'
      rw [if_pos heq]
      refine Or.inl ?_
      cases hset : bit2 p.imsiNumber with
      | true => exact bit2_setBit2 _
      | false => exact bit2_clearBit2 _
    · next hne =>
      rw [if_neg hne]
      exact Or.inr ⟨hb', rfl⟩
  · rw [noting_fst, hafter]
    exact rewritten_positive hinv.positive _

theorem flagStep_of_sound {q : Server × FlagNote} {e : Env × FlagOp} (hinv : FlagInv q)
    (hsound : FlagOp.Sound q e) : FlagStep q e := by
  obtain ⟨E, op⟩ := e
  cases op with
  | claim wi => exact claim_flagStep hinv hsound
  | boot req p sern ts => exact boot_flagStep hinv hsound

end Steps

/-- In every run of such claims and boots, from stations with positive rowids,
the rows have the bits of their last claim and their last boot, and no
operation changes the bits of the other one. -/
theorem flags_right (s : Server) (es : List (Env × FlagOp))
    (hpositive : ∀ r ∈ s.chStations.rows, 0 < r.rowid)
    (hsound : Meets (noting FlagOp.step FlagNote.mark) FlagOp.Sound (s, {}) es) :
    ∀ v ∈ visits (noting FlagOp.step FlagNote.mark) (s, {}) es, FlagsRight v := by
  intro v hv
  have hstart : FlagInv (s, {}) :=
    ⟨⟨fun _ _ _ hnone => (by cases hnone), fun _ _ _ hnone => (by cases hnone)⟩, hpositive⟩
  have hinv := visits_invariant FlagInv
    (fun _ _ hinv hok => (flagStep_of_sound hinv hok).1) hstart hsound hv
  have hstep := (flagStep_of_sound hinv.1 (hsound v hv)).2
  refine ⟨hinv.2.agree, ?_⟩
  rw [after_eq_step hv]
  exact hstep

/-- A boot of GRS-1 with an iccid and an imsi. -/
def numberedBoot (iccid imsi : Option (SchemaString 20)) : BootNotificationRequest where
  chargePointSerialNumber := some sampleSerial
  firmwareVersion := some sampleVersion
  iccid := iccid
  imsi := imsi

def numberedOp (iccid imsi : Option (SchemaString 20)) : FlagOp :=
  .boot { action := "BootNotification" } (numberedBoot iccid imsi) sampleSerial 0

theorem numberedOp_literal (iccid imsi : Option (SchemaString 20)) :
    (numberedOp iccid imsi).op.Literal := by
  refine updateIPAddrSql_quoteFree.mpr ⟨List.not_mem_nil, fun _ => ⟨?_, ?_⟩⟩
  · exact (by decide : '\'' ∉ cstr "1")
  · exact (by decide : '\'' ∉ cstr "GRS-1")

/-- GRS-1 is claimed, boots with bit 2 of its imsi, and boots without an
imsi. -/
theorem flags_right_rebooted :
    (visits (noting FlagOp.step FlagNote.mark) (Server.empty, {})
      [(.calm, .claim { newStation with serialn := "GRS-1", certflag := 3 }),
        (.calm, numberedOp none (some ⟨"12", by decide, by decide, by decide⟩)),
        (.calm, numberedOp none none)]).Forall FlagsRight := by
  apply List.forall_iff_forall_mem.mpr
  have hbar : '|' ∉ ("*" : String).toList := by decide
  have hquote : '\'' ∉ cstr "GRS-1" := by decide
  apply flags_right _ _ (by simp [Server.empty, Table.empty])
  refine meets_cons.mpr ⟨⟨hquote, by decide, fun h => by cases h⟩, ?_⟩
  refine meets_cons.mpr
    ⟨⟨numberedOp_literal _ _, fun h => (by cases h), hbar, by decide, rfl, rfl⟩, ?_⟩
  exact meets_cons.mpr
    ⟨⟨numberedOp_literal _ _, fun h => (by cases h), hbar, by decide, rfl, rfl⟩, Meets.nil _⟩

/-- A `|` in the iccid puts the rest of it in the place of the imsi: 4, whose
bit 2 is set, is reported and the bit is cleared. -/
theorem brokenIccid_clears :
    ¬ ∀ v ∈ visits (noting FlagOp.step FlagNote.mark) (Server.empty, {})
        [(.calm, .claim { newStation with serialn := "GRS-1", certflag := 3 }),
          (.calm, numberedOp (some ⟨"89|0", by decide, by decide, by decide⟩)
            (some ⟨"4", by decide, by decide, by decide⟩))], FlagsRight v := by
  intro h
  have hlast := h _ (List.mem_cons_of_mem _ (List.mem_cons_self ..))
  have hset := hlast.agree.booted
  revert hset
  decide +kernel

end UCLinux.Ocpp
