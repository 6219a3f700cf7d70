import UCLinux.Machine.Joined
import UCLinux.Ocpp.Isolation

/-!
What is stored of a StatusNotification: the text of the column ObjB and a row
of CSHistTbl, both put together from the fields of the message with commas
between them. The vendor's error code stands behind a comma operator and is
in neither; the two free texts that stand last are told apart only where no
comma has moved between them.
-/

namespace UCLinux.Ocpp

open Sql Machine Server CentralOcppDB HistoryDB

section Records

/-- The record a StatusNotification is stored from. -/
def statusRtt (p : StatusNotificationRequest) (ts now : Int) : RttOcpp where
  ts := ts
  errCode := p.errorCode.toText
  status := p.status.toText
  sensors := statusSensors p now

/-- What is stored of a message, the time it was received left out. -/
structure StatusRecord where
  objB : Text
  hist : CSHist
  deriving DecidableEq, Repr

def CSHist.timeless (h : CSHist) : CSHist := { h with ts := 0 }

/-- The record of a message that was received at `now`. -/
def statusRecord (req : OcppRequest) (p : StatusNotificationRequest) (now : Int) :
    StatusRecord where
  objB := cstr (objBText req (statusRtt p 0 now))
  hist := (ocppHistoryRow req (statusRtt p 0 now) (sernOf req)).timeless

/-- The columns of a server for one station: ObjB of its row and the last row of
the history. -/
def Server.storedStatus (s : Server) (sern : Text) : Option StatusRecord :=
  match (s.chStations.select (·.cols.csSerN = sern)).head?, s.csHist.rows.getLast? with
  | some r, some h => some ⟨r.cols.objB, h.cols.timeless⟩
  | _, _ => none

/-- The free text of an optional field. -/
def fieldText {max : Nat} (field : Option (SchemaString max)) : Text :=
  (field.map SchemaString.toText).getD []

/-- The time of a status in milliseconds: the one it reports, else that of its
receipt. -/
def StatusNotificationRequest.millis (p : StatusNotificationRequest) (now : Int) : Int :=
  wrapU64 (match p.timestamp with
    | some t => t.tdiv 1000000
    | none => now)

/-- The seven fields of two messages agree. -/
structure SameReport (p q : StatusNotificationRequest) : Prop where
  connectorId : p.connectorId = q.connectorId
  timestamp : p.timestamp.map (·.tdiv 1000000) = q.timestamp.map (·.tdiv 1000000)
  status : p.status = q.status
  errorCode : p.errorCode = q.errorCode
  info : p.info = q.info
  vendorId : p.vendorId = q.vendorId
  vendorErrorCode : p.vendorErrorCode = q.vendorErrorCode

/-- The free texts of two messages agree in one order, or a comma has moved
from one to the other. -/
def SameFreeText (p q : StatusNotificationRequest) : Prop :=
  (p.info = q.info ∧ p.vendorId = q.vendorId) ∨
    Moved ',' (fieldText p.info) (fieldText p.vendorId) (fieldText q.info)
      (fieldText q.vendorId) ∨
    Moved ',' (fieldText q.info) (fieldText q.vendorId) (fieldText p.info)
      (fieldText p.vendorId)

/-- Two messages, each with the time of its receipt, agree in all that is
stored. -/
structure StoredAlike (p : StatusNotificationRequest) (now : Int)
    (q : StatusNotificationRequest) (now' : Int) : Prop where
  connectorId : p.connectorId = q.connectorId
  millis : p.millis now = q.millis now'
  status : p.status = q.status
  errorCode : p.errorCode = q.errorCode
  free : SameFreeText p q

variable {p q : StatusNotificationRequest} {now now' : Int} {req req' : OcppRequest}

theorem SchemaString.ext_text {max : Nat} {a b : SchemaString max}
    (h : a.toText = b.toText) : a = b := by
  cases a
  cases b
  cases h
  rfl

/-- An empty text is not a value, so a text tells whether its field is
there. -/
theorem fieldText_injective {max : Nat} {a b : Option (SchemaString max)}
    (h : fieldText a = fieldText b) : a = b := by
  cases a with
  | none =>
    cases b with
    | none => rfl
    | some b => exact absurd h.symm b.nonempty
  | some a =>
    cases b with
    | none => exact absurd h a.nonempty
    | some b => exact congrArg some (SchemaString.ext_text h)

theorem fieldText_noNul {max : Nat} (field : Option (SchemaString max)) :
    '\x00' ∉ fieldText field := by
  cases field with
  | none => exact List.not_mem_nil
  | some a => exact a.noNul

theorem statusSensors_eq (p : StatusNotificationRequest) (now : Int) :
    statusSensors p now = decimal p.connectorId ++ ',' :: (decimal (p.millis now) ++
      ',' :: (fieldText p.info ++ ',' :: fieldText p.vendorId)) := by
  unfold statusSensors StatusNotificationRequest.millis fieldText
  cases p.timestamp <;> simp

theorem statusSensors_noNul (p : StatusNotificationRequest) (now : Int) :
    '\x00' ∉ statusSensors p now := by
  have hdecimal (n : Int) : '\x00' ∉ decimal n := not_mem_decimal (by decide) (by decide) n
  rw [statusSensors_eq]
  simp [hdecimal, fieldText_noNul]

/-- The text of the sensors is the number of the connector, a time, the free
texts. -/
theorem statusSensors_eq_iff : statusSensors p now = statusSensors q now' ↔
    p.connectorId = q.connectorId ∧ p.millis now = q.millis now' ∧ SameFreeText p q := by
  have hcomma (n : Int) : ',' ∉ decimal n := not_mem_decimal (by decide) (by decide) n
  rw [statusSensors_eq, statusSensors_eq, joined_inj (hcomma _) (hcomma _),
    joined_inj (hcomma _) (hcomma _), joined_eq_iff]
  constructor
  · rintro ⟨hconnector, hmillis, hfree⟩
    refine ⟨decimal_injective hconnector, decimal_injective hmillis, ?_⟩
    rcases hfree with ⟨hinfo, hvendor⟩ | hmoved
    · exact Or.inl ⟨fieldText_injective hinfo, fieldText_injective hvendor⟩
    · exact Or.inr hmoved
  · rintro ⟨hconnector, hmillis, hfree⟩
    refine ⟨congrArg decimal hconnector, congrArg decimal hmillis, ?_⟩
    rcases hfree with ⟨hinfo, hvendor⟩ | hmoved
    · exact Or.inl ⟨congrArg fieldText hinfo, congrArg fieldText hvendor⟩
    · exact Or.inr hmoved

theorem SchemaEnum.noNul {names : List Text} (hnames : ∀ n ∈ names, '\x00' ∉ n)
    (v : SchemaEnum names) : '\x00' ∉ v.toText :=
  hnames v.val v.property

theorem statusText_noNul (p : StatusNotificationRequest) : '\x00' ∉ p.status.toText :=
  p.status.noNul (by decide)

theorem errorCodeText_noNul (p : StatusNotificationRequest) : '\x00' ∉ p.errorCode.toText :=
  p.errorCode.noNul (by decide +kernel)

theorem statusRecord_hist (req : OcppRequest) (p : StatusNotificationRequest) (now : Int) :
    (statusRecord req p now).hist = ⟨cstr (sernOf req), 0, cstr req.remoteIP, cstr req.action,
      p.status.toText, p.errorCode.toText, statusSensors p now⟩ := by
  have hstatus := cstr_of_no_nul (statusText_noNul p)
  have herror := cstr_of_no_nul (errorCodeText_noNul p)
  have hsensors := cstr_of_no_nul (statusSensors_noNul p now)
  unfold statusRecord ocppHistoryRow CSHist.timeless statusRtt
  simp only [hstatus, herror, hsensors]

/-- When two messages of one station are stored alike. -/
theorem statusRecord_eq_iff (haction : req.action = req'.action)
    (hstation : sernOf req = sernOf req') :
    statusRecord req p now = statusRecord req' q now' ↔
      cstr req.remoteIP = cstr req'.remoteIP ∧ StoredAlike p now q now' := by
  constructor
  · intro h
    have hhist := congrArg StatusRecord.hist h
    rw [statusRecord_hist, statusRecord_hist, CSHist.mk.injEq] at hhist
    obtain ⟨_, _, hip, _, hstatus, herror, hsensors⟩ := hhist
    obtain ⟨hconnector, hmillis, hfree⟩ := statusSensors_eq_iff.mp hsensors
    exact ⟨hip, hconnector, hmillis, Subtype.ext hstatus, Subtype.ext herror, hfree⟩
  · rintro ⟨hip, halike⟩
    have hsensors : statusSensors p now = statusSensors q now' :=
      statusSensors_eq_iff.mpr ⟨halike.connectorId, halike.millis, halike.free⟩
    have hrtt : statusRtt p 0 now = statusRtt q 0 now' := by
      unfold statusRtt
      rw [halike.status, halike.errorCode, hsensors]
    unfold statusRecord objBText ocppHistoryRow
    rw [hrtt, haction, hstation, hip]

/-- Two messages that agree in what is stored but not in what they report:
they differ in the vendor's error code, one reports the time the other was
received at, or a comma has moved between their free texts. -/
structure Confused (p : StatusNotificationRequest) (now : Int)
    (q : StatusNotificationRequest) (now' : Int) : Prop extends StoredAlike p now q now' where
  unreported : p.vendorErrorCode ≠ q.vendorErrorCode ∨
    p.timestamp.map (·.tdiv 1000000) ≠ q.timestamp.map (·.tdiv 1000000) ∨
    fieldText p.info ≠ fieldText q.info

theorem confused_iff : Confused p now q now' ↔
    StoredAlike p now q now' ∧ ¬SameReport p q := by
  constructor
  · rintro ⟨halike, hunreported⟩
    refine ⟨halike, fun hsame => ?_⟩
    rcases hunreported with hcode | htime | hinfo
    · exact hcode hsame.vendorErrorCode
    · exact htime hsame.timestamp
    · exact hinfo (congrArg fieldText hsame.info)
  · rintro ⟨halike, hreport⟩
    refine ⟨halike, ?_⟩
    by_contra hnone
    simp only [not_or, not_not] at hnone
    obtain ⟨hcode, htime, hinfo⟩ := hnone
    have hvendor : p.vendorId = q.vendorId := by
      rcases halike.free with ⟨_, hvendor⟩ | hmoved | hmoved
      · exact hvendor
      · exact absurd hinfo hmoved.ne
      · exact absurd hinfo.symm hmoved.ne
    exact hreport ⟨halike.connectorId, htime, halike.status, halike.errorCode,
      fieldText_injective hinfo, hvendor, hcode⟩

/-- Two StatusNotifications of a station that differ in what they report are
told apart by what is stored of them, unless they came from one endpoint and
are confused. -/
theorem status_records_differ_iff (haction : req.action = "StatusNotification")
    (haction' : req'.action = "StatusNotification") (hstation : sernOf req = sernOf req') :
    (¬SameReport p q → statusRecord req p now ≠ statusRecord req' q now') ↔
      ¬(cstr req.remoteIP = cstr req'.remoteIP ∧ Confused p now q now') := by
  have hactions := haction.trans haction'.symm
  constructor
  · rintro hdiffer ⟨hip, hconfused⟩
    obtain ⟨halike, hreport⟩ := confused_iff.mp hconfused
    exact hdiffer hreport ((statusRecord_eq_iff hactions hstation).mpr ⟨hip, halike⟩)
  · intro hnot hreport heq
    obtain ⟨hip, halike⟩ := (statusRecord_eq_iff hactions hstation).mp heq
    exact hnot ⟨hip, confused_iff.mpr ⟨halike, hreport⟩⟩

/-- Error codes of a vendor. -/
def codeE1 : SchemaString 50 := ⟨"E1", by decide, by decide, by decide⟩

def codeE2 : SchemaString 50 := ⟨"E2", by decide, by decide, by decide⟩

/-- A fault with a vendor's error code. -/
def faultOf (code : SchemaString 50) : StatusNotificationRequest where
  connectorId := 1
  errorCode := ⟨"OtherError", by decide⟩
  info := none
  status := ⟨"Faulted", by decide⟩
  timestamp := some 1577836800000000000
  vendorErrorCode := some code
  vendorId := none

/-- The request of a status message of station GRS-0123456789. -/
def faultCall : OcppRequest :=
  { callID := 2, uniqueID := "01234567891", action := "StatusNotification",
    remoteIP := "[::1]:5000" }

theorem status_records_differ_fault :
    (¬SameReport (faultOf codeE1) (faultOf codeE2) →
      statusRecord faultCall (faultOf codeE1) 0 ≠ statusRecord faultCall (faultOf codeE2) 0) ↔
    ¬(cstr faultCall.remoteIP = cstr faultCall.remoteIP ∧
      Confused (faultOf codeE1) 0 (faultOf codeE2) 0) :=
  status_records_differ_iff rfl rfl rfl

/-- Two faults that differ in the vendor's error code only are stored
alike. -/
theorem vendorErrorCode_lost :
    ¬∀ (req : OcppRequest) (p q : StatusNotificationRequest) (now : Int),
      req.action = "StatusNotification" → ¬SameReport p q →
        statusRecord req p now ≠ statusRecord req q now := by
  intro h
  have hreport : ¬SameReport (faultOf codeE1) (faultOf codeE2) := fun hsame =>
    absurd (congrArg SchemaString.toText (Option.some.inj hsame.vendorErrorCode)) (by decide)
  exact h faultCall (faultOf codeE1) (faultOf codeE2) 0 rfl hreport rfl

end Records

section Stored

variable {L : Lib} {E : Env} {req : OcppRequest} {p : StatusNotificationRequest}

/-- The station of a message is registered, and no statement on the way raises
or is altered. -/
structure Recordable (E : Env) (req : OcppRequest) (p : StatusNotificationRequest)
    (s : Server) : Prop where
  quiet : E.Quiet
  action : req.action = "StatusNotification"
  uid : 10 < req.uniqueID.length
  uidQuote : '\'' ∉ req.uniqueID.take 10
  ipQuote : '\'' ∉ req.remoteIP
  infoQuote : '\'' ∉ fieldText p.info
  vendorQuote : '\'' ∉ fieldText p.vendorId
  station : ∃ r ∈ s.chStations.rows, r.cols.csSerN = cstr (sernOf req)

theorem sernOf_quote (h : '\'' ∉ req.uniqueID.take 10) : '\'' ∉ sernOf req := by
  unfold sernOf
  split
  · unfold sernOfUid
    rw [List.mem_append, not_or]
    exact ⟨by decide, h⟩
  · exact List.not_mem_nil

theorem sernOf_ne_nil (h : 10 < req.uniqueID.length) : sernOf req ≠ [] := by
  unfold sernOf
  rw [if_pos h]
  exact sernOfUid_ne_nil _

theorem statusRtt_quotes (hinfo : '\'' ∉ fieldText p.info) (hvendor : '\'' ∉ fieldText p.vendorId)
    (haction : req.action = "StatusNotification") (ts now : Int) :
    '\'' ∉ (statusRtt p ts now).status ∧ '\'' ∉ (statusRtt p ts now).errCode ∧
      '\'' ∉ (statusRtt p ts now).sensors ∧ '\'' ∉ objBText req (statusRtt p ts now) := by
  have hstatus : '\'' ∉ p.status.toText := p.status.quote (by decide)
  have herror : '\'' ∉ p.errorCode.toText := p.errorCode.quote (by decide +kernel)
  have hsensors : '\'' ∉ statusSensors p now := statusSensors_quote hinfo hvendor
  refine ⟨hstatus, herror, hsensors, ?_⟩
  unfold objBText statusRtt
  rw [haction]
  simp only [List.mem_append, not_or]
  exact ⟨⟨⟨⟨⟨⟨by decide, by decide⟩, hstatus⟩, by decide⟩, herror⟩, by decide⟩, hsensors⟩

/-- A registered station is found by the uid of its message. -/
theorem getSerNumberByIPAddr_found (s : Session Server) (hquiet : E.Quiet)
    (hlong : 10 < req.uniqueID.length) (hsern : '\'' ∉ cstr (sernOf req))
    {r : Row ChStation} (hr : r ∈ s.state.chStations.rows)
    (hser : r.cols.csSerN = cstr (sernOf req)) :
    getSerNumberByIPAddr E req s = (⟨some (wrap32 r.cols.clientID), sernOf req,
      { req with certFlags := wrap32 r.cols.certFlag, sern := sernOf req }⟩, s.tick) := by
  have hsernOf : sernOf req = sernOfUid req.uniqueID := if_pos hlong
  rw [hsernOf] at hsern hser ⊢
  have hselect := ChStation.select_serial (t := s.state.chStations) hr hser
  have hgot : CH_STATIONS.get s.state = s.state.chStations := rfl
  have hread : (CH_STATIONS.read E (getSerNumberSql (sernOfUid req.uniqueID))
      (fun t => (t.select (·.cols.csSerN = cstr (sernOfUid req.uniqueID))).map
        fun r => (wrap32 r.cols.clientID, wrap32 r.cols.certFlag))
      (fun row => (cellInt row 0, cellInt row 1)) s).1.first =
      some (some (wrap32 r.cols.clientID, wrap32 r.cols.certFlag)) := by
    rw [TableAt.read_literal _ _ (getSerNumberSql_quoteFree.mpr hsern) (hquiet _), hgot, hselect]
    rfl
  unfold getSerNumberByIPAddr
  rw [if_pos hlong, Action.bind_apply]
  simp only [TableAt.read_snd, hread]
  rfl

/-- ObjB is written to the station's row. -/
theorem preprocessStatus_stores {rtt : RttOcpp} (s : Session Server) (hquiet : E.Quiet)
    (hlong : 10 < req.uniqueID.length) (hquote : (StationOp.statusNotification req rtt).Literal)
    {r : Row ChStation} (hr : r ∈ s.state.chStations.rows)
    (hser : r.cols.csSerN = cstr (sernOf req)) :
    ∃ pre t, preprocessOcppMessage2DB E req rtt false .status s =
        (pre, ⟨{ s.state with chStations := t }, s.asked + 3⟩) ∧
      pre.sern = sernOf req ∧ pre.req.remoteIP = req.remoteIP ∧
      pre.req.action = req.action ∧ pre.rtt.status = rtt.status ∧
      pre.rtt.errCode = rtt.errCode ∧ pre.rtt.sensors = rtt.sensors ∧
      ∃ r' ∈ t.rows, r'.cols.csSerN = cstr (sernOf req) ∧
        r'.cols.objB = cstr (objBText req rtt) := by
  obtain ⟨hsern, htext⟩ := hquote
  have hfree : (updateCSObjBSql
      { req with certFlags := wrap32 r.cols.certFlag, sern := sernOf req }
      { rtt with serNumber := sernOf req, cid := wrap32 r.cols.clientID }).QuoteFree :=
    updateCSObjBSql_quoteFree.mpr ⟨htext, hsern⟩
  obtain ⟨t, hrows, hupdate⟩ := CH_STATIONS.update_literal (E := E)
    (fun r => if r.cols.csSerN = cstr (sernOf req) then
      some { r.cols with
        objB := cstr (objBText req rtt), lastUpdtdTS := rtt.ts, updMob := some 1 }
      else none) s.tick.tick hfree (hquiet _)
    fun row a ha => by
      split at ha
      · cases ha
        rfl
      · cases ha
  refine ⟨⟨sernOf req, { req with certFlags := wrap32 r.cols.certFlag, sern := sernOf req },
    { rtt with serNumber := sernOf req, cid := wrap32 r.cols.clientID }⟩, t, ?_,
    rfl, rfl, rfl, rfl, rfl, rfl, ?_⟩
  · unfold preprocessOcppMessage2DB
    rw [createConnection_bind, if_pos (hquiet _), if_neg Bool.false_ne_true, Action.bind_apply,
      getSerNumberByIPAddr_found s.tick hquiet hlong hsern hr hser]
    dsimp only
    have hwrite : updateCSObjBFromOcppMessage2DB E
        { req with certFlags := wrap32 r.cols.certFlag, sern := sernOf req }
        { rtt with serNumber := sernOf req, cid := wrap32 r.cols.clientID } s.tick.tick = _ :=
      hupdate
    rw [Action.bind_apply, hwrite]
    rfl
  · have hmem : Table.rewriteRow _ r ∈ t.rows := hrows ▸ List.mem_map.mpr ⟨r, hr, rfl⟩
    rw [Table.rewriteRow_some (if_pos hser)] at hmem
    exact ⟨_, hmem, hser, rfl⟩

/-- What a server holds once ObjB and a row of the history are written. -/
theorem storedStatus_of_rows {s : Server} {sern objB : Text} {r : Row ChStation}
    (hr : r ∈ s.chStations.rows) (hser : r.cols.csSerN = sern) (hobjB : r.cols.objB = objB)
    {rows : List (Row CSHist)} {id : Int} {h : CSHist} (hrows : s.csHist.rows = rows ++ [⟨id, h⟩]) :
    s.storedStatus sern = some ⟨objB, h.timeless⟩ := by
  unfold Server.storedStatus
  rw [ChStation.select_serial hr hser, hrows, List.getLast?_concat, ← hobjB]
  rfl

/-- Storing a message writes its two texts. -/
theorem insertOcppStatus_stores {rtt : RttOcpp} (s : Session Server)
    (hquiet : E.Quiet) (hlong : 10 < req.uniqueID.length)
    (hquote : (StationOp.statusNotification req rtt).Literal)
    (hfree : (insertOcppHistorySql req rtt (sernOf req)).QuoteFree)
    {r : Row ChStation} (hr : r ∈ s.state.chStations.rows)
    (hser : r.cols.csSerN = cstr (sernOf req)) :
    (insertOcppMessage2DB E req rtt false .status s).2.state.storedStatus (cstr (sernOf req)) =
      some ⟨cstr (objBText req rtt),
        { ocppHistoryRow req rtt (sernOf req) with ts := 0 }⟩ := by
  obtain ⟨pre, t, hpre, hpreSern, hpreIP, hpreAction, hpreStatus, hpreError, hpreSensors,
    r', hr', hser', hobjB⟩ := preprocessStatus_stores s hquiet hlong hquote hr hser
  have hne : pre.sern ≠ [] := hpreSern ▸ sernOf_ne_nil hlong
  have hfree' : (insertOcppHistorySql pre.req pre.rtt pre.sern).QuoteFree := by
    rw [insertOcppHistorySql_quoteFree] at hfree ⊢
    rwa [hpreSern, hpreIP, hpreAction, hpreStatus, hpreError, hpreSensors]
  obtain ⟨u, hrows, hins⟩ := insertOcppHistory2DB_literal
    (⟨{ s.state with chStations := t }, s.asked + 4⟩ : Session Server) hne hfree' (hquiet _)
  have hrun : (insertOcppMessage2DB E req rtt false .status s).2.state =
      { s.state with chStations := t, csHist := u } := by
    unfold insertOcppMessage2DB
    rw [Action.bind_apply, hpre]
    dsimp only
    rw [if_neg hne]
    unfold insertOcppHistory2DBConn
    rw [createConnection_bind, if_pos (hquiet _), Action.bind_apply]
    have hins' : insertOcppHistory2DB E pre.req pre.rtt pre.sern
        (Session.tick ⟨{ s.state with chStations := t }, s.asked + 3⟩) = _ := hins
    rw [hins']
    rfl
  rw [hrun, storedStatus_of_rows (r := r') hr' hser' hobjB hrows]
  unfold CSHist.timeless ocppHistoryRow
  dsimp only
  rw [hpreSern, hpreIP, hpreAction, hpreStatus, hpreError, hpreSensors]

/-- The columns after a message that nothing keeps from being stored are its
record. -/
theorem processStatusNotification_stores (s : Session Server)
    (hrecord : Recordable E req p s.state)
    (hload : L.loadStatusNotification (doSimpleExtract req.reqStr) = some p) :
    (processStatusNotification L E req s).2.state.storedStatus (cstr (sernOf req)) =
      some (statusRecord req p (E.clock (s.asked + 1))) := by
  obtain ⟨r, hr, hser⟩ := hrecord.station
  have hsern : '\'' ∉ cstr (sernOf req) := fun hc =>
    sernOf_quote hrecord.uidQuote (mem_of_mem_cstr hc)
  obtain ⟨hstatus, herror, hsensors, htext⟩ := statusRtt_quotes hrecord.infoQuote
    hrecord.vendorQuote hrecord.action (E.clock s.asked) (E.clock (s.asked + 1))
  have hfree : (insertOcppHistorySql req (statusRtt p (E.clock s.asked)
      (E.clock (s.asked + 1))) (sernOf req)).QuoteFree := by
    rw [insertOcppHistorySql_quoteFree, hrecord.action]
    exact ⟨hsern, fun hc => hrecord.ipQuote (mem_of_mem_cstr hc), by decide,
      fun hc => hstatus (mem_of_mem_cstr hc), fun hc => herror (mem_of_mem_cstr hc),
      fun hc => hsensors (mem_of_mem_cstr hc)⟩
  have hstored := insertOcppStatus_stores s.tick.tick hrecord.quiet hrecord.uid
    ⟨hsern, fun hc => htext (mem_of_mem_cstr hc)⟩ hfree hr hser
  have hrun : (processStatusNotification L E req s).2.state =
      (insertOcppMessage2DB E req (statusRtt p (E.clock s.asked) (E.clock (s.asked + 1)))
        false .status s.tick.tick).2.state := by
    unfold processStatusNotification
    rw [hload]
    rfl
  rw [hrun, hstored]
  rfl

end Stored

end UCLinux.Ocpp
