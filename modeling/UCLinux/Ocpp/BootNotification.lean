import UCLinux.Ocpp.Reception
import UCLinux.Ocpp.Splices

/-!
What a BootNotification does to the stations. It should rewrite the row of
the serial number it reports and no other. The row filter of its UPDATE is in
the part of the text that is only added for a firmware version, so without
one every station gets the address of the one that booted.
-/

namespace UCLinux.Ocpp

open Sql Machine Server CentralOcppDB HistoryDB

/-- The serial number a BootNotification reports. -/
def reportedSerial (L : Lib) (payload : Text) : Option Text :=
  (L.loadBootNotification (doSimpleExtract payload)).bind fun p =>
    p.chargePointSerialNumber.map SchemaString.toText

/-- The UPDATE of a boot that is received at `ts`. -/
def bootUpdate (E : Env) (con : Connection) (p : BootNotificationRequest)
    (sern : SchemaString 25) (ts : Int) : Act (Option Int) :=
  updateIPAddrFromOcppMessage2DB E { remoteIP := con.endpoint.text } (bootRtt p sern ts)

/-- What the engine reads this UPDATE as. -/
def bootRewriting (E : Env) (con : Connection) (p : BootNotificationRequest)
    (sern : SchemaString 25) (ts : Int) : Option (Row ChStation → Option ChStation) :=
  CH_STATIONS.rewriting E
    (updateIPAddrSql { remoteIP := con.endpoint.text } (bootRtt p sern ts))
    (bootRow { remoteIP := con.endpoint.text } (bootRtt p sern ts))

def Frame.acceptsBoot : Frame → Bool
  | .callResult _ _ (.bootNotification _ _ status) => status = "Accepted"
  | _ => false

section Stored

variable {L : Lib} {E : Env} {con : Connection}

/-- The station is looked up under its serial number when the UPDATE of the
boot changed a row. -/
theorem preprocessBoot_cases (req : OcppRequest) (rtt : RttOcpp) (s : Session Server) :
    ((preprocessOcppMessage2DB E req rtt true .none s).1.sern = [] ∧
      (preprocessOcppMessage2DB E req rtt true .none s).2.state = s.state ∧
      E.raises s.asked ≠ none) ∨
    (E.raises s.asked = none ∧
      (preprocessOcppMessage2DB E req rtt true .none s).2.state.chStations =
        (updateIPAddrFromOcppMessage2DB E req rtt s.tick).2.state.chStations ∧
      ((preprocessOcppMessage2DB E req rtt true .none s).1.sern ≠ [] →
        ∃ n, (updateIPAddrFromOcppMessage2DB E req rtt s.tick).1 = some n ∧ 0 < n)) := by
  unfold preprocessOcppMessage2DB
  rw [createConnection_bind]
  split
  · next hopen =>
    refine Or.inr ⟨hopen, ?_⟩
    rw [if_pos rfl, Action.bind_apply]
    generalize updateIPAddrFromOcppMessage2DB E req rtt s.tick = u
    obtain ⟨rv, s'⟩ := u
    cases rv with
    | none => exact ⟨rfl, fun h => absurd rfl h⟩
    | some n =>
      have hread : (getSerNumberByIPAddr E req s').2.state.chStations =
          s'.state.chStations :=
        (getSerNumberByIPAddr_writes (T := []) s').chStations (by simp)
      dsimp only
      rw [Action.bind_apply]
      cases (getSerNumberByIPAddr E req s').1.cid with
      | none => exact ⟨hread, fun h => ⟨n, rfl, by_contra fun hn => h (if_neg hn)⟩⟩
      | some cid => exact ⟨hread, fun h => ⟨n, rfl, by_contra fun hn => h (if_neg hn)⟩⟩
  · next hclosed => exact Or.inl ⟨rfl, rfl, hclosed⟩

/-- Storing a boot runs its UPDATE, if a connection opens, and counts as
stored only when that changed a row. -/
theorem insertBoot_cases (req : OcppRequest) (rtt : RttOcpp) (s : Session Server) :
    ((insertOcppMessage2DB E req rtt true .none s).1 = 0 ∧
      (insertOcppMessage2DB E req rtt true .none s).2.state = s.state ∧
      E.raises s.asked ≠ none) ∨
    (E.raises s.asked = none ∧
      (insertOcppMessage2DB E req rtt true .none s).2.state.chStations =
        (updateIPAddrFromOcppMessage2DB E req rtt s.tick).2.state.chStations ∧
      (0 < (insertOcppMessage2DB E req rtt true .none s).1 →
        ∃ n, (updateIPAddrFromOcppMessage2DB E req rtt s.tick).1 = some n ∧ 0 < n)) := by
  have hpre := preprocessBoot_cases (E := E) req rtt s
  unfold insertOcppMessage2DB
  rw [Action.bind_apply]
  generalize preprocessOcppMessage2DB E req rtt true .none s = pre at *
  obtain ⟨pre, s'⟩ := pre
  have hhist : (insertOcppHistory2DBConn E pre.req pre.rtt pre.sern s').2.state.chStations =
      s'.state.chStations :=
    (insertOcppHistory2DBConn_writes (T := [.csHist]) (by simp) s').chStations (by simp)
  rcases hpre with ⟨hsern, hstate, hclosed⟩ | ⟨hopen, hstations, hstored⟩
  · refine Or.inl ⟨?_, ?_, hclosed⟩ <;> dsimp only <;> rw [if_pos hsern]
    · rfl
    · exact hstate
  · refine Or.inr ⟨hopen, ?_, ?_⟩ <;> dsimp only
    · by_cases hsern : pre.sern = []
      · rw [if_pos hsern]
        exact hstations
      · rw [if_neg hsern]
        exact hhist.trans hstations
    · intro hpos
      refine hstored fun hsern => ?_
      rw [if_pos (show pre.sern = [] from hsern)] at hpos
      exact absurd hpos (Int.lt_irrefl 0)

theorem processBoot_apply (req : OcppRequest) {p : BootNotificationRequest}
    {sern : SchemaString 25}
    (hload : L.loadBootNotification (doSimpleExtract req.reqStr) = some p)
    (hsern : p.chargePointSerialNumber = some sern) {s s' : Session Server} {rv ts : Int}
    (hts : E.clock s.asked = ts)
    (hstored : insertOcppMessage2DB E req (bootRtt p sern ts) true .none s.tick =
      (rv, s')) :
    processBootNotification L E req s =
      (some (.bootNotification (E.clock s'.asked) 60
        (if 0 < rv then "Accepted" else "Rejected")), s'.tick) := by
  unfold processBootNotification
  rw [hload]
  dsimp only
  rw [Action.bind_apply, clockNow, Action.ask_apply]
  dsimp only
  rw [hsern, hts]
  dsimp only
  rw [Action.bind_apply, hstored]
  by_cases hrv : 0 < rv
  · rw [if_pos hrv, if_pos hrv]
    rfl
  · rw [if_neg hrv, if_neg hrv]
    rfl

/-- Without a serial number processing raises before the tables are used. -/
theorem processBoot_unreported (E : Env) (req : OcppRequest)
    (h : reportedSerial L req.reqStr = none) (s : Session Server) :
    (processBootNotification L E req s).1 = none ∧
      (processBootNotification L E req s).2.state = s.state := by
  unfold processBootNotification
  cases hload : L.loadBootNotification (doSimpleExtract req.reqStr) with
  | none => exact ⟨rfl, rfl⟩
  | some p =>
    have hsern : p.chargePointSerialNumber = none := by
      simpa [reportedSerial, hload] using h
    simp [hsern, clockNow]

end Stored

section Received

variable {L : Lib} (E : Env) (s : Server) (con : Connection) {payload uid action : Text}

theorem bootNotification_ofName (ha : cstr action = "BootNotification") :
    OcppAction.ofName (cstr action) = some .bootNotification := by
  rw [ha]
  rfl

/-- A boot runs its UPDATE as the third question, if a connection opens, and
is accepted only when that changed a row. -/
theorem after_boot_cases (h : IsCall L payload uid action)
    (ha : cstr action = "BootNotification") {p : BootNotificationRequest}
    {sern : SchemaString 25}
    (hload : L.loadBootNotification (doSimpleExtract payload) = some p)
    (hsern : p.chargePointSerialNumber = some sern) :
    (¬ (s.after (onMessage L E con payload)).sent Frame.acceptsBoot ∧
      (s.after (onMessage L E con payload)).chStations = s.chStations ∧
      E.raises 1 ≠ none) ∨
    (E.raises 1 = none ∧
      (s.after (onMessage L E con payload)).chStations =
        (bootUpdate E con p sern (E.clock 0) ⟨s.start.state, 2⟩).2.state.chStations ∧
      ((s.after (onMessage L E con payload)).sent Frame.acceptsBoot →
        ∃ n, (bootUpdate E con p sern (E.clock 0) ⟨s.start.state, 2⟩).1 = some n ∧
          0 < n)) := by
  have hstored := insertBoot_cases (E := E) (callRequest con payload uid action)
    (bootRtt p sern (E.clock 0)) s.start.tick
  generalize hr : insertOcppMessage2DB E (callRequest con payload uid action)
    (bootRtt p sern (E.clock 0)) true .none s.start.tick = r at hstored
  obtain ⟨rv, s'⟩ := r
  obtain ⟨ds, hds⟩ := onMessage_call E con h
    (bootNotification_ofName ha) s.start
  rw [OcppAction.process, processBoot_apply (callRequest con payload uid action)
    (s := s.start) hload hsern rfl hr] at hds
  have hstations : (s.after (onMessage L E con payload)).chStations =
      s'.state.chStations := hds.state.chStations (by simp)
  have haccepts : (s.after (onMessage L E con payload)).sent Frame.acceptsBoot →
      0 < rv := by
    rintro ⟨d, hd, haccept⟩
    obtain ⟨more, hframes, hmore⟩ := hds.answered _ rfl
    have hwire : (s.after (onMessage L E con payload)).wire = ds := hds.wire
    have hmem : d.frame ∈ ds.map Delivery.frame := List.mem_map_of_mem (hwire ▸ hd)
    rw [hframes] at hmem
    rcases List.mem_cons.mp hmem with heq | later
    · rw [heq] at haccept
      by_contra hrv
      simp [Frame.acceptsBoot, hrv] at haccept
    · obtain ⟨u, q, heq⟩ := hmore _ later
      simp [heq, Frame.acceptsBoot] at haccept
  rcases hstored with ⟨hrv, hstate, hclosed⟩ | ⟨hopen, hupdated, hpos⟩
  · refine Or.inl ⟨fun hsent => ?_, hstations.trans (congrArg chStations hstate :
      s'.state.chStations = s.start.tick.state.chStations), hclosed⟩
    have := haccepts hsent
    dsimp only at hrv
    omega
  · exact Or.inr ⟨hopen, hstations.trans hupdated, fun hsent => hpos (haccepts hsent)⟩

/-- A boot leaves the stations alone and is rejected, or rewrites them once
and is accepted only when that changed a row. -/
theorem after_boot_rewrite (h : IsCall L payload uid action)
    (ha : cstr action = "BootNotification") {p : BootNotificationRequest}
    {sern : SchemaString 25}
    (hload : L.loadBootNotification (doSimpleExtract payload) = some p)
    (hsern : p.chargePointSerialNumber = some sern) :
    (¬ (s.after (onMessage L E con payload)).sent Frame.acceptsBoot ∧
      (s.after (onMessage L E con payload)).chStations = s.chStations) ∨
    ∃ g n, bootRewriting E con p sern (E.clock 0) = some g ∧
      s.chStations.rewrite g =
        some ((s.after (onMessage L E con payload)).chStations, n) ∧
      ((s.after (onMessage L E con payload)).sent Frame.acceptsBoot → 0 < n) := by
  rcases after_boot_cases E s con h ha hload hsern with
    ⟨hrejected, hsame, _⟩ | ⟨_, hstations, haccepted⟩
  · exact Or.inl ⟨hrejected, hsame⟩
  · rcases CH_STATIONS.update_cases E _
        (bootRow { remoteIP := con.endpoint.text } (bootRtt p sern (E.clock 0)))
        ⟨s.start.state, 2⟩ with hu | ⟨g, t, n, hg, hrw, _, hu⟩
    · have hraised : bootUpdate E con p sern (E.clock 0) ⟨s.start.state, 2⟩ = _ := hu
      rw [hraised] at hstations haccepted
      refine Or.inl ⟨fun hsent => ?_, hstations⟩
      obtain ⟨n, hn, _⟩ := haccepted hsent
      cases hn
    · have hdone : bootUpdate E con p sern (E.clock 0) ⟨s.start.state, 2⟩ = _ := hu
      rw [hdone] at hstations haccepted
      refine Or.inr ⟨g, n, hg, ?_, fun hsent => ?_⟩
      · rw [hstations]
        exact hrw
      · obtain ⟨m, hm, hpos⟩ := haccepted hsent
        cases hm
        exact hpos

/-- A boot that reports no serial number changes no station and is not
accepted. -/
theorem after_unreported_boot (h : IsCall L payload uid action)
    (ha : cstr action = "BootNotification") (hnone : reportedSerial L payload = none) :
    (s.after (onMessage L E con payload)).chStations = s.chStations ∧
      ¬ (s.after (onMessage L E con payload)).sent Frame.acceptsBoot := by
  obtain ⟨ds, hds⟩ := onMessage_call E con h
    (bootNotification_ofName ha) s.start
  obtain ⟨hraised, hstate⟩ := processBoot_unreported E
    (callRequest con payload uid action) hnone s.start
  have hstations : (s.after (onMessage L E con payload)).chStations =
      (processBootNotification L E (callRequest con payload uid action)
        s.start).2.state.chStations := hds.state.chStations (by simp)
  refine ⟨hstations.trans (hstate ▸ rfl), ?_⟩
  rintro ⟨d, hd, haccept⟩
  have hwire : (s.after (onMessage L E con payload)).wire = ds := hds.wire
  have hmem : d.frame ∈ ds.map Delivery.frame := List.mem_map_of_mem (hwire ▸ hd)
  rw [hds.raised hraised] at hmem
  rw [List.mem_singleton.mp hmem] at haccept
  simp [internalError, Frame.acceptsBoot] at haccept

end Received

section Confined

/-- Two rows agree in the columns a boot writes. -/
structure SameBootColumns (a b : ChStation) : Prop where
  ipAddr : b.ipAddr = a.ipAddr
  lastUpdtdTS : b.lastUpdtdTS = a.lastUpdtdTS
  status : b.status = a.status
  certFlag : b.certFlag = a.certFlag
  fwVer : b.fwVer = a.fwVer

theorem SameBootColumns.refl (a : ChStation) : SameBootColumns a a :=
  ⟨rfl, rfl, rfl, rfl, rfl⟩

/-- What a boot does from `s` to `t` concerns the reported serial number
only. -/
structure BootConfined (L : Lib) (payload : Text) (s t : Server) : Prop where
  others : ∀ r ∈ s.chStations.rows, reportedSerial L payload ≠ some r.cols.csSerN →
    ∃ r' ∈ t.chStations.rows, r'.rowid = r.rowid ∧ SameBootColumns r.cols r'.cols
  accepted : t.sent Frame.acceptsBoot →
    ∃ r ∈ s.chStations.rows, reportedSerial L payload = some r.cols.csSerN

/-- A boot with a serial number finds this one in every row, or has a firmware
version and brings no quote. -/
def BootFiltered (L : Lib) (payload : Text) (s : Server) : Prop :=
  ∀ p sern, L.loadBootNotification (doSimpleExtract payload) = some p →
    p.chargePointSerialNumber = some sern →
    (∀ r ∈ s.chStations.rows, r.cols.csSerN = sern.toText) ∨
    ∃ fw, p.firmwareVersion = some fw ∧ '\'' ∉ fw.toText ∧ '\'' ∉ sern.toText

variable {L : Lib} {E : Env} {con : Connection} {payload uid action : Text} {s t : Server}
  {p : BootNotificationRequest} {sern : SchemaString 25}

theorem BootConfined.of_same (hsame : t.chStations = s.chStations)
    (hrejected : ¬ t.sent Frame.acceptsBoot) : BootConfined L payload s t := by
  refine ⟨fun r hr _ => ⟨r, ?_, rfl, SameBootColumns.refl _⟩, fun hsent => ?_⟩
  · rwa [hsame]
  · exact absurd hsent hrejected

theorem reportedSerial_of_load
    (hload : L.loadBootNotification (doSimpleExtract payload) = some p)
    (hsern : p.chargePointSerialNumber = some sern) :
    reportedSerial L payload = some sern.toText := by
  simp [reportedSerial, hload, hsern]

theorem bootRtt_fwVer_some {fw : SchemaString 50} (hfw : p.firmwareVersion = some fw)
    (ts : Int) : (bootRtt p sern ts).fwVer = fw.toText := by
  simp only [bootRtt, hfw, Option.map_some, Option.getD_some]

theorem bootRtt_fwVer_none (hfw : p.firmwareVersion = none) (ts : Int) :
    (bootRtt p sern ts).fwVer = [] := by
  simp only [bootRtt, hfw, Option.map_none, Option.getD_none]

/-- The UPDATE of a boot holds the serial number only with a firmware
version. -/
theorem updateIPAddrSql_quoteFree_iff (con : Connection) (p : BootNotificationRequest)
    (sern : SchemaString 25) (ts : Int) :
    (updateIPAddrSql { remoteIP := con.endpoint.text } (bootRtt p sern ts)).QuoteFree ↔
      ∀ fw, p.firmwareVersion = some fw → '\'' ∉ fw.toText ∧ '\'' ∉ sern.toText := by
  have hip : cstr con.endpoint.text = con.endpoint.text :=
    cstr_of_no_nul con.endpoint.noNul
  have hser : cstr (bootRtt p sern ts).serNumber = sern.toText := cstr_of_no_nul sern.noNul
  rw [updateIPAddrSql_quoteFree, hser, hip]
  cases hfw : p.firmwareVersion with
  | none =>
    rw [bootRtt_fwVer_none hfw ts]
    simpa using con.endpoint.noQuote
  | some fw =>
    rw [bootRtt_fwVer_some hfw, cstr_of_no_nul fw.noNul]
    simpa [fw.nonempty] using fun _ _ => con.endpoint.noQuote

/-- A boot with a firmware version and no quote rewrites the rows of its
serial number. -/
theorem bootRewriting_filtered {fw : SchemaString 50} {ts : Int}
    (hfw : p.firmwareVersion = some fw) (hquote : '\'' ∉ fw.toText)
    (hquote' : '\'' ∉ sern.toText) :
    bootRewriting E con p sern ts = some fun r =>
      if r.cols.csSerN = sern.toText then
        some (bootColumns { remoteIP := con.endpoint.text } (bootRtt p sern ts) r.cols)
      else none := by
  have hver : (bootRtt p sern ts).fwVer ≠ [] := by
    rw [bootRtt_fwVer_some hfw]
    exact fw.nonempty
  have hser : cstr (bootRtt p sern ts).serNumber = sern.toText := cstr_of_no_nul sern.noNul
  have hfree := (updateIPAddrSql_quoteFree_iff con p sern ts).mpr
    fun fw' hfw' => by
      cases hfw.symm.trans hfw'
      exact ⟨hquote, hquote'⟩
  rw [bootRewriting, TableAt.rewriting_quoteFree _ hfree]
  refine congrArg some (funext fun r => ?_)
  simp [bootRow, hver, hser]

/-- When nothing raises, a boot with a firmware version and no quote rewrites
just the rows of its serial number. -/
theorem after_filtered_boot (h : IsCall L payload uid action)
    (ha : cstr action = "BootNotification")
    (hload : L.loadBootNotification (doSimpleExtract payload) = some p)
    (hsern : p.chargePointSerialNumber = some sern) {fw : SchemaString 50}
    (hfw : p.firmwareVersion = some fw) (hquote : '\'' ∉ fw.toText)
    (hquote' : '\'' ∉ sern.toText) (hopen : E.raises 1 = none) (hopen' : E.raises 2 = none) :
    (s.after (onMessage L E con payload)).chStations.rows =
      s.chStations.rows.map (Table.rewriteRow fun r =>
        if r.cols.csSerN = sern.toText then
          some (bootColumns { remoteIP := con.endpoint.text } (bootRtt p sern (E.clock 0))
            r.cols)
        else none) := by
  have hg : bootRewriting E con p sern (E.clock 0) = _ :=
    bootRewriting_filtered hfw hquote hquote'
  obtain ⟨t, hrw, hrows⟩ := s.chStations.rewrite_of_keeps_key _ fun r a hr => by
    change (if r.cols.csSerN = sern.toText then some (bootColumns
      { remoteIP := con.endpoint.text } (bootRtt p sern (E.clock 0)) r.cols) else none) =
      some a at hr
    split at hr
    · cases hr
      rfl
    · cases hr
  have hdone : bootUpdate E con p sern (E.clock 0) ⟨s.start.state, 2⟩ = _ :=
    CH_STATIONS.update_some _ ⟨s.start.state, 2⟩ hg hopen' hrw
  rcases after_boot_cases E s con h ha hload hsern with ⟨_, _, hclosed⟩ | ⟨_, hstations, _⟩
  · exact absurd hopen hclosed
  · rw [hstations, hdone]
    exact hrows

/-- A boot without a firmware version rewrites every row. -/
theorem bootRewriting_unversioned {ts : Int} (hfw : p.firmwareVersion = none) :
    bootRewriting E con p sern ts = some fun r =>
      some (bootColumns { remoteIP := con.endpoint.text } (bootRtt p sern ts) r.cols) := by
  have hfree := (updateIPAddrSql_quoteFree_iff con p sern ts).mpr fun fw hfw' => by
    cases hfw.symm.trans hfw'
  rw [bootRewriting, TableAt.rewriting_quoteFree _ hfree]
  refine congrArg some (funext fun r => ?_)
  exact if_pos (Or.inl (bootRtt_fwVer_none hfw ts))

/-- An environment at a time in which an altered UPDATE only sets the time,
in every row. -/
def Env.touching (ts : Int) : Env :=
  { Env.calm with
    clock := fun _ => ts
    chStations := { Altered.refused _ with
      update := fun _ => some fun r => some { r.cols with lastUpdtdTS := ts } } }

/-- An unfiltered boot may set the time of every row. -/
theorem bootRewriting_unfiltered (con : Connection)
    (hopen : ¬ ∃ fw, p.firmwareVersion = some fw ∧ '\'' ∉ fw.toText ∧ '\'' ∉ sern.toText)
    (ts : Int) :
    ∃ g, bootRewriting (Env.touching ts) con p sern ts = some g ∧
      ∀ r, ∃ a, g r = some a ∧ a.csSerN = r.cols.csSerN ∧ a.lastUpdtdTS = ts := by
  unfold bootRewriting TableAt.rewriting
  by_cases hquote : (updateIPAddrSql { remoteIP := con.endpoint.text }
      (bootRtt p sern ts)).QuoteFree
  · rw [if_pos hquote]
    refine ⟨_, rfl, fun r => ⟨bootColumns _ (bootRtt p sern ts) r.cols, if_pos ?_, rfl, rfl⟩⟩
    refine Or.inl (bootRtt_fwVer_none ?_ ts)
    by_contra hfw
    obtain ⟨fw, hfw⟩ := Option.ne_none_iff_exists'.mp hfw
    exact hopen ⟨fw, hfw, (updateIPAddrSql_quoteFree_iff con p sern ts).mp hquote fw hfw⟩
  · rw [if_neg hquote]
    exact ⟨_, rfl, fun r => ⟨_, rfl, rfl, rfl⟩⟩

/-- An unfiltered boot then does so. -/
theorem unfiltered_boot_touches (s : Server) (con : Connection) (h : IsCall L payload uid action)
    (ha : cstr action = "BootNotification")
    (hload : L.loadBootNotification (doSimpleExtract payload) = some p)
    (hsern : p.chargePointSerialNumber = some sern)
    (hopen : ¬ ∃ fw, p.firmwareVersion = some fw ∧ '\'' ∉ fw.toText ∧ '\'' ∉ sern.toText)
    (ts : Int) {r : Row ChStation} (hr : r ∈ s.chStations.rows) :
    ∃ r' ∈ (s.after (onMessage L (Env.touching ts) con payload)).chStations.rows,
      r'.rowid = r.rowid ∧ r'.cols.lastUpdtdTS = ts := by
  obtain ⟨g, hg, htouch⟩ := bootRewriting_unfiltered con hopen ts
  obtain ⟨t, hrw, hrows⟩ := s.chStations.rewrite_of_keeps_key g fun q a hq => by
    obtain ⟨b, hb, hkey, _⟩ := htouch q
    cases hq.symm.trans hb
    exact congrArg some hkey
  have hdone : bootUpdate (Env.touching ts) con p sern ts ⟨s.start.state, 2⟩ = _ :=
    CH_STATIONS.update_some _ ⟨s.start.state, 2⟩ hg rfl hrw
  rcases after_boot_cases (Env.touching ts) s con h ha hload hsern with
    ⟨_, _, hclosed⟩ | ⟨_, hstations, _⟩
  · exact absurd rfl hclosed
  · obtain ⟨a, ha, _, hts⟩ := htouch r
    have hclock : (Env.touching ts).clock 0 = ts := rfl
    rw [hclock, hdone] at hstations
    refine ⟨⟨r.rowid, a⟩, ?_, rfl, hts⟩
    rw [hstations, ← Table.rewriteRow_some ha]
    exact hrows ▸ List.mem_map_of_mem hr

/-- A boot changes these columns of the reported serial number's row only,
and is accepted only when there is one, whatever the environment, exactly
when it is filtered. -/
theorem bootConfined_iff (L : Lib) (s : Server) (con : Connection) (payload : Text)
    {uid action : Text} (h : IsCall L payload uid action)
    (ha : cstr action = "BootNotification") :
    (∀ E, BootConfined L payload s (s.after (onMessage L E con payload))) ↔
      BootFiltered L payload s := by
  constructor
  · intro hall p sern hload hsern
    by_contra hnot
    obtain ⟨hdiff, hopen⟩ := not_or.mp hnot
    obtain ⟨r, hr, hne⟩ : ∃ r ∈ s.chStations.rows, r.cols.csSerN ≠ sern.toText := by
      simpa using hdiff
    obtain ⟨r', hr', hid, hts⟩ := unfiltered_boot_touches s con h ha hload
      hsern hopen (r.cols.lastUpdtdTS + 1) hr
    have hreported : reportedSerial L payload ≠ some r.cols.csSerN := by
      rw [reportedSerial_of_load hload hsern]
      exact fun heq => hne (Option.some.inj heq).symm
    obtain ⟨q, hq, hqid, hcols⟩ := (hall _).others r hr hreported
    have heq : q = r' := Table.eq_of_rowid _ hq hr' (hqid.trans hid.symm)
    have hsame := hcols.lastUpdtdTS
    rw [heq, hts] at hsame
    omega
  · intro hfiltered E
    cases hreported : reportedSerial L payload with
    | none =>
      obtain ⟨hsame, hrejected⟩ :=
        after_unreported_boot E s con h ha hreported
      exact BootConfined.of_same hsame hrejected
    | some n =>
      obtain ⟨p, hload, hserial⟩ := Option.bind_eq_some_iff.mp hreported
      obtain ⟨sern, hsern, rfl⟩ := Option.map_eq_some_iff.mp hserial
      rcases after_boot_rewrite E s con h ha hload hsern with
        ⟨hrejected, hsame⟩ | ⟨g, n, hg, hrw, haccepted⟩
      · exact BootConfined.of_same hsame hrejected
      · rcases hfiltered p sern hload hsern with hall | ⟨fw, hfw, hquote, hquote'⟩
        · refine ⟨fun r hr hne => absurd ?_ hne, fun hsent => ?_⟩
          · rw [hreported, hall r hr]
          · obtain ⟨r, hr, _⟩ := Table.exists_of_rewrite_pos hrw (haccepted hsent)
            exact ⟨r, hr, by rw [hreported, hall r hr]⟩
        · rw [bootRewriting_filtered hfw hquote hquote'] at hg
          cases hg
          refine ⟨fun r hr hne => ?_, fun hsent => ?_⟩
          · have hother : r.cols.csSerN ≠ sern.toText := fun heq =>
              hne (by rw [hreported, heq])
            have hmem := Table.rewriteRow_mem hrw hr
            rw [Table.rewriteRow_none (if_neg hother)] at hmem
            exact ⟨r, hmem, rfl, SameBootColumns.refl _⟩
          · obtain ⟨r, hr, hsome⟩ := Table.exists_of_rewrite_pos hrw (haccepted hsent)
            refine ⟨r, hr, ?_⟩
            by_contra hne
            have hother : r.cols.csSerN ≠ sern.toText := fun heq =>
              hne (by rw [hreported, heq])
            simp [hother] at hsome

/-- A boot without a firmware version. -/
def bareBoot : Text :=
  "[2,\"1\",\"BootNotification\",\x7b\"chargePointModel\":\"M\",\"chargePointSerialNumber\":\"GRS-1\",\"chargePointVendor\":\"V\"\x7d]"

/-- A library that reads a boot of GRS-1. -/
def bootLib (t : Text) (fw : Option (SchemaString 50)) (h : 9 ≤ (cstr t).length) : Lib :=
  { Lib.parsing t [.int 2, .string "1", .string "BootNotification", .other] h with
    loadBootNotification := fun _ =>
      some ⟨some sampleSerial, fw, none, none⟩ }

def bareBootLib : Lib := bootLib bareBoot none (by decide +kernel)

/-- A boot with a firmware version. -/
def fullBoot : Text :=
  "[2,\"1\",\"BootNotification\",\x7b\"chargePointModel\":\"M\",\"chargePointSerialNumber\":\"GRS-1\",\"chargePointVendor\":\"V\",\"firmwareVersion\":\"1\"\x7d]"

def fullBootLib : Lib :=
  bootLib fullBoot (some sampleVersion) (by decide +kernel)

def twoStations : Server :=
  { Server.empty with
    chStations := ⟨[⟨1, .plain "GRS-1" "" 1⟩, ⟨2, .plain "GRS-2" "[::1]:6000" 2⟩],
      by decide, by decide⟩ }

theorem bootLib_isCall {t : Text} {fw : Option (SchemaString 50)} (h : 9 ≤ (cstr t).length) :
    IsCall (bootLib t fw h) t "1" "BootNotification" :=
  ⟨.other, if_pos rfl⟩

/-- With its firmware version a boot of the first station leaves the second
alone. -/
theorem bootConfined_iff_versioned :
    BootConfined fullBootLib fullBoot twoStations
      (twoStations.after (onMessage fullBootLib .calm somePeer fullBoot)) := by
  have hfiltered : BootFiltered fullBootLib fullBoot twoStations := by
    intro p sern hload hsern
    cases hload
    cases hsern
    exact Or.inr ⟨sampleVersion, rfl, by decide, by decide⟩
  exact (bootConfined_iff fullBootLib twoStations somePeer fullBoot (bootLib_isCall _)
    (by decide)).mpr hfiltered .calm

/-- Without one it gives the endpoint of the first to the second. -/
theorem bareBoot_readdresses :
    ¬ BootConfined bareBootLib bareBoot twoStations
      (twoStations.after (onMessage bareBootLib .calm somePeer bareBoot)) := by
  intro h
  obtain ⟨r, hr, -, hcols⟩ := h.others ⟨2, .plain "GRS-2" "[::1]:6000" 2⟩ (by decide)
    (by decide)
  have hmoved : ∀ r ∈ (twoStations.after (onMessage bareBootLib .calm somePeer
      bareBoot)).chStations.rows, r.cols.ipAddr = somePeer.endpoint.text := by decide +kernel
  have hkept := hcols.ipAddr
  rw [hmoved r hr] at hkept
  exact absurd hkept (by decide)

end Confined

end UCLinux.Ocpp
