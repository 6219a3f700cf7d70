import UCLinux.Ocpp.History
import UCLinux.Ocpp.Routing
import UCLinux.Ocpp.Stations

/-!
Keeping stations apart. A boot says in its payload which station it is about,
every other CALL in the first ten characters of its uid and the answer to a
data transfer in a field of its data; the connection is not looked at. So a
station reaches the rows of another one by naming it, and a message stays with
the station of its connection exactly as long as it names that one.
-/

namespace UCLinux.Ocpp

open Sql Machine Server CentralOcppDB HistoryDB

/-- The list was lengthened by values with `P` only. -/
def Appended {α : Type} (P : α → Prop) (l l' : List α) : Prop :=
  ∃ new, l' = l ++ new ∧ ∀ a ∈ new, P a

namespace Appended

variable {α β : Type} {P Q : α → Prop} {l l' l'' : List α}

theorem refl (l : List α) : Appended P l l := ⟨[], by simp⟩

theorem of_eq (h : l' = l) : Appended P l l' := by
  rw [h]
  exact refl l

theorem one {a : α} (h : l' = l ++ [a]) (ha : P a) : Appended P l l' :=
  ⟨[a], h, by simpa using ha⟩

theorem trans (h : Appended P l l') (h' : Appended P l' l'') : Appended P l l'' := by
  obtain ⟨new, rfl, hnew⟩ := h
  obtain ⟨new', rfl, hnew'⟩ := h'
  refine ⟨new ++ new', List.append_assoc .., fun a ha => ?_⟩
  rcases List.mem_append.mp ha with old | last
  · exact hnew a old
  · exact hnew' a last

theorem mono (h : Appended P l l') (hPQ : ∀ a, P a → Q a) : Appended Q l l' := by
  obtain ⟨new, heq, hnew⟩ := h
  exact ⟨new, heq, fun a ha => hPQ a (hnew a ha)⟩

end Appended

/-- The serial numbers of the stations. -/
def Server.serials (s : Server) : List Text := s.chStations.rows.map fun r => r.cols.csSerN

/-- The rowids of the history and the serial numbers its rows are under. -/
def Server.histSerials (s : Server) : List (Int × Text) :=
  s.csHist.rows.map fun r => (r.rowid, r.cols.csSerN)

/-- The serial numbers the meter rows are under. -/
def Server.meterSerials (s : Server) : List Text := s.meterV.rows.map fun r => r.cols.csSerN

/-- A row with this HRowId refers to no history row of another station. -/
def UnderSerial (N : Text) (s : Server) (hRowId : Int) : Prop :=
  ∀ x ∈ s.histSerials, x.1 = hRowId → x.2 = N

/-- From `s` to `t` no row of another station than `N` was changed, and none
was inserted under another serial number. -/
structure Isolated (N : Text) (s t : Server) : Prop where
  stations : ∀ r : Row ChStation, r.cols.csSerN ≠ N →
    (r ∈ t.chStations.rows ↔ r ∈ s.chStations.rows)
  hist : Appended (·.2 = N) s.histSerials t.histSerials
  refs : ∀ k, Appended (UnderSerial N t ·.2) (s.refRows k) (t.refRows k)
  meters : Appended (· = N) s.meterSerials t.meterSerials

section Keeping

variable {N : Text} {s t u : Server}

theorem UnderSerial.mono {id : Int} (h : UnderSerial N s id)
    (hist : Appended (·.2 = N) s.histSerials t.histSerials) : UnderSerial N t id := by
  obtain ⟨new, heq, hnew⟩ := hist
  intro x hx hid
  rw [heq] at hx
  rcases List.mem_append.mp hx with old | last
  · exact h x old hid
  · exact hnew x last

theorem Isolated.refl (N : Text) (s : Server) : Isolated N s s :=
  ⟨fun _ _ => Iff.rfl, .refl _, fun _ => .refl _, .refl _⟩

theorem Isolated.trans (h : Isolated N s t) (h' : Isolated N t u) : Isolated N s u where
  stations r hr := (h'.stations r hr).trans (h.stations r hr)
  hist := h.hist.trans h'.hist
  refs k := ((h.refs k).mono fun _ hx => hx.mono h'.hist).trans (h'.refs k)
  meters := h.meters.trans h'.meters

/-- What inserts no row. -/
theorem Isolated.of_stations {T : List Part} (h : Only T s t)
    (hT : .csHist ∉ T ∧ .startTr ∉ T ∧ .stopTr ∉ T ∧ .meterV ∉ T)
    (hstations : ∀ r : Row ChStation, r.cols.csSerN ≠ N →
      (r ∈ t.chStations.rows ↔ r ∈ s.chStations.rows)) : Isolated N s t := by
  obtain ⟨hhist, hstart, hstop, hmeter⟩ := hT
  refine ⟨hstations, ?_, fun k => ?_, ?_⟩
  · exact .of_eq (congrArg (List.map _ ∘ Table.rows) (h.csHist hhist))
  · cases k with
    | startTr => exact .of_eq (congrArg (refList StartTr.hRowId) (h.startTr hstart))
    | stopTr => exact .of_eq (congrArg (refList StopTr.hRowId) (h.stopTr hstop))
    | meterV => exact .of_eq (congrArg (refList MeterV.hRowId) (h.meterV hmeter))
  · exact .of_eq (congrArg (List.map _ ∘ Table.rows) (h.meterV hmeter))

theorem Isolated.of_only {T : List Part} (h : Only T s t) (hT : .chStations ∉ T ∧
    .csHist ∉ T ∧ .startTr ∉ T ∧ .stopTr ∉ T ∧ .meterV ∉ T) : Isolated N s t := by
  refine .of_stations h hT.2 fun r _ => ?_
  rw [h.chStations hT.1]

/-- Rewriting rows of the station only. -/
theorem Isolated.of_rewritten {g : Row ChStation → Option ChStation}
    (h : Only [.chStations] s t)
    (hrows : t.chStations = s.chStations ∨
      t.chStations.rows = s.chStations.rows.map (Table.rewriteRow g))
    (hg : ∀ r ∈ s.chStations.rows, ∀ a, g r = some a → r.cols.csSerN = N ∧ a.csSerN = N) :
    Isolated N s t := by
  refine .of_stations h (by simp) fun r hr => ?_
  rcases hrows with hsame | hrows
  · rw [hsame]
  · rw [hrows, List.mem_map]
    constructor
    · rintro ⟨q, hq, rfl⟩
      cases hgq : g q with
      | none => rwa [Table.rewriteRow_none hgq]
      | some a =>
        rw [Table.rewriteRow_some hgq] at hr
        exact absurd (hg q hq a hgq).2 hr
    · intro hmem
      refine ⟨r, hmem, ?_⟩
      cases hgr : g r with
      | none => exact Table.rewriteRow_none hgr
      | some a => exact absurd (hg r hmem a hgr).1 hr

/-- Storing what refers to a history row of the station. -/
theorem Isolated.of_refStep {id : Int} (href : RefStep id s t)
    (hstations : t.chStations = s.chStations) (hhist : t.histSerials = s.histSerials)
    (hmeters : Appended (· = N) s.meterSerials t.meterSerials) (hid : UnderSerial N s id) :
    Isolated N s t := by
  have hid' : UnderSerial N t id := hid.mono (.of_eq hhist)
  refine ⟨fun r _ => by rw [hstations], .of_eq hhist, fun k => ?_, hmeters⟩
  rcases href.refs k with hsame | ⟨i, _, hrows⟩
  · exact .of_eq hsame
  · exact .one hrows hid'

end Keeping

section Storing

variable {L : Lib} {E : Env} {req : OcppRequest} {rtt : RttOcpp} {sern N : Text}

theorem histSerials_append {s : Server} {t : Table (noKey (α := CSHist))} {n : Int}
    (hrows : t.rows = s.csHist.rows ++ [⟨n, ocppHistoryRow req rtt sern⟩]) :
    ({ s with csHist := t } : Server).histSerials = s.histSerials ++ [(n, cstr sern)] := by
  unfold Server.histSerials
  dsimp only
  rw [hrows, List.map_append]
  rfl

/-- A history row of the station. -/
theorem Isolated.of_hist {s : Server} {t : Table (noKey (α := CSHist))} {n : Int}
    (hrows : t.rows = s.csHist.rows ++ [⟨n, ocppHistoryRow req rtt sern⟩])
    (hsern : cstr sern = N) : Isolated N s { s with csHist := t } := by
  refine ⟨fun _ _ => Iff.rfl, .one (histSerials_append hrows) hsern, fun k => ?_, .refl _⟩
  cases k <;> exact .refl _

theorem insertOcppHistory2DBConn_isolated (hq : (insertOcppHistorySql req rtt sern).QuoteFree)
    (hsern : cstr sern = N) (k : Session Server) :
    Isolated N k.state (insertOcppHistory2DBConn E req rtt sern k).2.state := by
  unfold insertOcppHistory2DBConn
  rw [createConnection_bind]
  by_cases hopen : E.raises k.asked = none
  · rw [if_pos hopen, Action.bind_apply]
    rcases insertOcppHistory2DB_cases (E := E) hq k.tick with ⟨hstate, _⟩ | ⟨t, hrows, hdone⟩
    · rw [Action.pure_apply, hstate]
      exact .refl N _
    · rw [hdone]
      exact .of_hist hrows hsern
  · rw [if_neg hopen]
    exact .refl N _

/-- A history row of the station and what refers to it. -/
theorem storing_isolated (hq : (insertOcppHistorySql req rtt sern).QuoteFree)
    (hsern : cstr sern = N) {store : Int → RttOcpp → Act Int}
    (hstore : ∀ id rtt' k, rtt'.serNumber = sern → UnderSerial N k.state id →
      Isolated N k.state (store id rtt' k).2.state)
    (k : Session Server)
    (hfits : UnderSerial N k.state (wrap32 k.state.csHist.nextRowid)) :
    Isolated N k.state (storing E req rtt sern store k).2.state := by
  rcases storing_cases (E := E) hq store k with hsame | ⟨t, hrows, hdone⟩
  · rw [hsame]
    exact .refl N _
  · have hkept : Isolated N k.state { k.state with csHist := t } := .of_hist hrows hsern
    rcases hdone with hdone | hdone
    · rw [hdone]
      exact hkept
    · rw [hdone]
      have hrest := hstore (wrap32 k.state.csHist.nextRowid) { rtt with serNumber := sern }
        ⟨{ k.state with csHist := t }, k.asked + 2⟩ rfl (hfits.mono hkept.hist)
      exact hkept.trans hrest

/-- The UPDATE behind a StartTransaction writes numbers into two other
columns. -/
theorem updateHistOnStartTransaction_serials (m n id : Int) (k : Session Server) :
    (updateHistOnStartTransaction E { rtt with errCode := decimal m, status := decimal n } id
      k).2.state.histSerials = k.state.histSerials := by
  have hfree : (updateHistOnStartTransactionSql
      { rtt with errCode := decimal m, status := decimal n } id).QuoteFree :=
    updateHistOnStartTransactionSql_quoteFree.mpr
      ⟨fun hc => quote_not_mem_decimal n (mem_of_mem_cstr hc),
        fun hc => quote_not_mem_decimal m (mem_of_mem_cstr hc)⟩
  unfold updateHistOnStartTransaction
  by_cases hser : rtt.serNumber = []
  · rw [if_pos hser]
    rfl
  · rw [if_neg hser]
    rcases CSHistTbl.update_cases E _ _ k with hx | ⟨g, t, c, hg, hrw, _, hx⟩
    · rw [hx]
      rfl
    · rw [TableAt.rewriting_quoteFree _ hfree] at hg
      cases hg
      rw [hx]
      refine Table.rewrite_map _ hrw fun r a ha => ?_
      dsimp only at ha
      split at ha
      · cases ha
        rfl
      · cases ha

theorem storeStart_writes (p : StartTransactionRequest) (id : Int) (rtt : RttOcpp) :
    Writes [.csHist, .startTr] (storeStart E p id rtt) := by
  refine .bind (.bind (.insertStartTr (by simp)) fun _ => .pure _) fun n => ?_
  cases n with
  | none => exact .pure _
  | some n => exact .bind (updateHistOnStartTransaction_writes (by simp)) fun _ => .pure _

theorem storeStart_serials (p : StartTransactionRequest) (id : Int) (rtt : RttOcpp)
    (k : Session Server) :
    (storeStart E p id rtt k).2.state.histSerials = k.state.histSerials := by
  have hinsert : Writes [.startTr] (insertStartTransactionReqMsg2DB E id p) :=
    .bind (.insertStartTr (by simp)) fun _ => .pure _
  have hkept := (hinsert k).csHist (by simp)
  unfold storeStart
  rw [Action.bind_apply]
  generalize insertStartTransactionReqMsg2DB E id p k = done at hkept
  obtain ⟨n, k'⟩ := done
  have hserials : k'.state.histSerials = k.state.histSerials :=
    congrArg (List.map _ ∘ Table.rows) hkept
  cases n with
  | none => exact hserials
  | some n => exact (updateHistOnStartTransaction_serials p.meterStart n id k').trans hserials

theorem storeStart_isolated {p : StartTransactionRequest} (htag : '\'' ∉ cstr p.idTag.toText)
    {id : Int} (rtt : RttOcpp) (k : Session Server) (hid : UnderSerial N k.state id) :
    Isolated N k.state (storeStart E p id rtt k).2.state := by
  have honly := storeStart_writes (E := E) p id rtt k
  apply Isolated.of_refStep (storeStart_refStep htag id rtt k) (honly.chStations (by simp))
    (storeStart_serials p id rtt k) _ hid
  exact .of_eq (congrArg (List.map _ ∘ Table.rows) (honly.meterV (by simp)))

theorem storeStop_isolated (p : StopTransactionRequest) {id : Int} (rtt : RttOcpp)
    (k : Session Server) (hid : UnderSerial N k.state id) :
    Isolated N k.state (storeStop L E p id rtt k).2.state := by
  have hwrites : Writes [.stopTr] (storeStop L E p id rtt) :=
    .bind (.bind (.insertStopTr (by simp)) fun _ => .pure _) fun _ => .pure _
  have honly := hwrites k
  apply Isolated.of_refStep (storeStop_refStep p id rtt k) (honly.chStations (by simp))
    (congrArg (List.map _ ∘ Table.rows) (honly.csHist (by simp))) _ hid
  exact .of_eq (congrArg (List.map _ ∘ Table.rows) (honly.meterV (by simp)))

/-- The meter row has the serial number of the record. -/
theorem storeMeter_isolated (p : MeterValuesRequest) {id : Int} {rtt : RttOcpp}
    (hsern : cstr rtt.serNumber = N) (k : Session Server) (hid : UnderSerial N k.state id) :
    Isolated N k.state (storeMeter L E p id rtt k).2.state := by
  have hwrites : Writes [.meterV] (storeMeter L E p id rtt) :=
    .bind (insertMeterValues_writes (by simp)) fun _ => .pure _
  have honly := hwrites k
  apply Isolated.of_refStep (storeMeter_refStep p id rtt k) (honly.chStations (by simp))
    (congrArg (List.map _ ∘ Table.rows) (honly.csHist (by simp))) _ hid
  have hstore : (storeMeter L E p id rtt k).2.state =
      (insertMeterValuesReqMsg2DB L E id (cstr rtt.serNumber) p k).2.state := rfl
  rw [hstore]
  rcases insertMeterValues_cases (L := L) (E := E) id (cstr rtt.serNumber) p k with
    hsame | ⟨t, hrows, hstate, _, _⟩
  · rw [hsame]
    exact .refl _
  · rw [hstate]
    refine .one (a := cstr rtt.serNumber) ?_ hsern
    show t.rows.map _ = k.state.meterV.rows.map _ ++ _
    rw [hrows, List.map_append]
    rfl

end Storing

section Preprocessing

variable {E : Env} {req : OcppRequest} {rtt : RttOcpp} {sern N : Text} {pre : Preprocessed}

/-- A message is stored as it came, and under this serial number, if it is
stored. -/
structure PreprocessedAs (req : OcppRequest) (rtt : RttOcpp) (sern : Text)
    (pre : Preprocessed) : Prop where
  sern : pre.sern ≠ [] → pre.sern = sern
  remoteIP : pre.req.remoteIP = req.remoteIP
  action : pre.req.action = req.action
  status : pre.rtt.status = rtt.status
  errCode : pre.rtt.errCode = rtt.errCode
  sensors : pre.rtt.sensors = rtt.sensors

/-- A boot is stored under the serial number it reports. -/
theorem preprocessBoot_as :
    Action.Returns (PreprocessedAs req rtt rtt.serNumber)
      (preprocessOcppMessage2DB E req rtt true .none) := by
  intro k
  unfold preprocessOcppMessage2DB
  rw [createConnection_bind]
  by_cases hopen : E.raises k.asked = none
  · rw [if_pos hopen, if_pos rfl, Action.bind_apply]
    generalize updateIPAddrFromOcppMessage2DB E req rtt k.tick = done
    obtain ⟨rv, k'⟩ := done
    cases rv with
    | none => exact ⟨fun h => absurd rfl h, rfl, rfl, rfl, rfl, rfl⟩
    | some n =>
      have hsern : (if 0 < n then rtt.serNumber else []) ≠ [] →
          (if 0 < n then rtt.serNumber else []) = rtt.serNumber := by
        intro hne
        by_cases hn : 0 < n
        · exact if_pos hn
        · exact absurd (if_neg hn) hne
      obtain ⟨_, haction, hip⟩ := getSerNumberByIPAddr_keeps E req k'
      dsimp only
      rw [Action.bind_apply]
      cases (getSerNumberByIPAddr E req k').1.cid with
      | none => exact ⟨hsern, hip, haction, rfl, rfl, rfl⟩
      | some cid => exact ⟨hsern, hip, haction, rfl, rfl, rfl⟩
  · rw [if_neg hopen]
    exact ⟨fun h => absurd rfl h, rfl, rfl, rfl, rfl, rfl⟩

/-- Every other message is stored under the serial number of its uid. -/
theorem preprocess_as (stsType : StatusNotificationType) :
    Action.Returns (PreprocessedAs req rtt (sernOf req))
      (preprocessOcppMessage2DB E req rtt false stsType) := by
  intro k
  unfold preprocessOcppMessage2DB
  rw [createConnection_bind]
  by_cases hopen : E.raises k.asked = none
  · rw [if_pos hopen, if_neg Bool.false_ne_true, Action.bind_apply]
    obtain ⟨hsern, haction, hip⟩ := getSerNumberByIPAddr_keeps E req k.tick
    generalize getSerNumberByIPAddr E req k.tick = found at hsern haction hip
    obtain ⟨found, k'⟩ := found
    dsimp only at hsern haction hip ⊢
    cases found.cid with
    | none => exact ⟨fun _ => hsern, hip, haction, rfl, rfl, rfl⟩
    | some cid => cases stsType <;> exact ⟨fun _ => hsern, hip, haction, rfl, rfl, rfl⟩
  · rw [if_neg hopen]
    exact ⟨fun h => absurd rfl h, rfl, rfl, rfl, rfl, rfl⟩

theorem PreprocessedAs.quoteFree (h : PreprocessedAs req rtt sern pre) (hne : pre.sern ≠ [])
    (hq : (insertOcppHistorySql req rtt sern).QuoteFree) :
    (insertOcppHistorySql pre.req pre.rtt pre.sern).QuoteFree := by
  rw [insertOcppHistorySql_quoteFree] at hq ⊢
  rwa [h.sern hne, h.remoteIP, h.action, h.status, h.errCode, h.sensors]

/-- A message is preprocessed and then stored. -/
theorem preprocessed_isolated {requireIPaddrUpdate : Bool} {stsType : StatusNotificationType}
    {store : Preprocessed → Act Int} (k : Session Server)
    (has : Action.Returns (PreprocessedAs req rtt sern)
      (preprocessOcppMessage2DB E req rtt requireIPaddrUpdate stsType))
    (hpre : Isolated N k.state
      (preprocessOcppMessage2DB E req rtt requireIPaddrUpdate stsType k).2.state)
    (hstore : ∀ pre k', preprocessOcppMessage2DB E req rtt requireIPaddrUpdate stsType k =
        (pre, k') → PreprocessedAs req rtt sern pre → pre.sern ≠ [] →
      Isolated N k'.state (store pre k').2.state) :
    Isolated N k.state ((do
      let pre ← preprocessOcppMessage2DB E req rtt requireIPaddrUpdate stsType
      if pre.sern = [] then pure 0 else store pre) k).2.state := by
  rw [Action.bind_apply]
  by_cases hsern : (preprocessOcppMessage2DB E req rtt requireIPaddrUpdate stsType
      k).1.sern = []
  · rw [if_pos hsern]
    exact hpre
  · rw [if_neg hsern]
    exact hpre.trans (hstore _ _ rfl (has k) hsern)

theorem insertOcppMessage2DB_isolated {requireIPaddrUpdate : Bool}
    {stsType : StatusNotificationType} (k : Session Server)
    (has : Action.Returns (PreprocessedAs req rtt sern)
      (preprocessOcppMessage2DB E req rtt requireIPaddrUpdate stsType))
    (hpre : Isolated N k.state
      (preprocessOcppMessage2DB E req rtt requireIPaddrUpdate stsType k).2.state)
    (hstored : sern ≠ [] → cstr sern = N ∧ (insertOcppHistorySql req rtt sern).QuoteFree) :
    Isolated N k.state
      (insertOcppMessage2DB E req rtt requireIPaddrUpdate stsType k).2.state := by
  refine preprocessed_isolated k has hpre fun pre k' _ has' hne => ?_
  obtain ⟨hsern, hq⟩ := hstored (has'.sern hne ▸ hne)
  refine insertOcppHistory2DBConn_isolated (has'.quoteFree hne hq) ?_ k'
  rw [has'.sern hne]
  exact hsern

end Preprocessing

/-- The texts of a boot. -/
def BootNotificationRequest.texts (p : BootNotificationRequest) : List Text :=
  [p.chargePointSerialNumber.map SchemaString.toText,
    p.firmwareVersion.map SchemaString.toText, p.iccid.map SchemaString.toText,
    p.imsi.map SchemaString.toText].filterMap id

/-- A boot reports `N` and brings no quote; without a firmware version, which
makes it rewrite every row, it finds no other station. -/
def BootOwn (L : Lib) (s : Server) (N payload : Text) : Prop :=
  ∀ p sern, L.loadBootNotification (doSimpleExtract payload) = some p →
    p.chargePointSerialNumber = some sern →
    sern.toText = N ∧ (∀ v ∈ p.texts, '\'' ∉ v) ∧
      (p.firmwareVersion = none → ∀ M ∈ s.serials, M = N)

/-- The texts of another CALL that are spliced into its statements. -/
def OcppAction.spliced (L : Lib) (payload : Text) : OcppAction → List Text
  | .startTransaction =>
    ((L.loadStartTransaction (doSimpleExtract payload)).map (·.idTag.toText)).toList
  | .statusNotification =>
    match L.loadStatusNotification (doSimpleExtract payload) with
    | some p => [(p.info.map SchemaString.toText).getD [],
        (p.vendorId.map SchemaString.toText).getD []]
    | none => []
  | .dataTransfer =>
    match L.loadDataTransfer (doSimpleExtract payload) with
    | some p => [cstr (p.data.getD "*" ++ "," ++ (p.messageId.map SchemaString.toText).getD "*")]
    | none => []
  | _ => []

/-- Statements are run under a serial number, and those of a status also
without one. -/
def OcppAction.Runs (a : OcppAction) (sern : Text) : Prop :=
  sern ≠ [] ∨ a = .statusNotification ∨ a = .firmwareStatusNotification

/-- Another CALL brings no quote, and if the serial number of its uid is a
station or is stored, it is `N`. The rowid of its history row, cut to an int,
is not that of another station's. -/
structure UidOwn (L : Lib) (s : Server) (N : Text) (req : OcppRequest) (a : OcppAction) :
    Prop where
  literal : '\'' ∉ cstr (sernOf req)
  texts : ∀ v ∈ a.spliced L req.reqStr, '\'' ∉ v
  station : cstr (sernOf req) ∈ s.serials → cstr (sernOf req) = N
  stored : a ≠ .heartbeat → sernOf req ≠ [] → cstr (sernOf req) = N
  refs : a = .startTransaction ∨ a = .stopTransaction ∨ a = .meterValues →
    sernOf req ≠ [] → UnderSerial N s (wrap32 s.csHist.nextRowid)

/-- A CALL that loads is about `N`. -/
def CallOwn (L : Lib) (s : Server) (N : Text) (req : OcppRequest) (a : OcppAction) : Prop :=
  a.loads L req.reqStr = true →
    if a = .bootNotification then BootOwn L s N req.reqStr
    else a.Runs (sernOf req) → UidOwn L s N req a

/-- An answer to a data transfer sets the time zone of no other station. -/
def AnswerOwn (L : Lib) (s : Server) (N : Text) (req : OcppRequest) : Prop :=
  (RequestQueue.getActionByUID req.uniqueID s.requestQueue).1 = "DataTransfer" →
    ∀ p, L.loadDataTransferResponse (doSimpleExtract req.reqStr) = some p →
      p.status.toText = "Accepted" →
      ∀ v0 sern tz dls rest, split (p.data.getD []) ',' = v0 :: sern :: tz :: dls :: rest →
        v0 = "11" →
        sern ≠ [] → '\'' ∉ cstr sern ∧ (cstr sern ∈ s.serials → cstr sern = N)

/-- A message is about `N`. -/
def MessageOwn (L : Lib) (s : Server) (N : Text) (con : Connection) (payload : Text) : Prop :=
  ∀ req, parseOCPPRequest L (incoming con payload) = some req →
    (req.callID = 2 → ∀ a, OcppAction.ofName req.action = some a → CallOwn L s N req a) ∧
    (req.callID = 3 → AnswerOwn L s N req)

section Naming

variable {L : Lib} {E : Env} {req : OcppRequest} {rtt : RttOcpp} {a : OcppAction} {N : Text}
  {s : Server}

/-- An UPDATE that only selects rows of the station. -/
theorem touches_isolated {α : Type} {act : Act α} {op : StationOp} (k : Session Server)
    (hwrites : Writes [.chStations] act) (htouches : Touches (op.write E) act)
    (hg : ∀ r ∈ k.state.chStations.rows, ∀ a, op.write E r = some a →
      r.cols.csSerN = N ∧ a.csSerN = r.cols.csSerN) :
    Isolated N k.state (act k).2.state := by
  refine .of_rewritten (hwrites k) (htouches k) fun r hr a ha => ?_
  obtain ⟨hser, hkept⟩ := hg r hr a ha
  exact ⟨hser, hkept.trans hser⟩

/-- The row a uid selects is the station's. -/
theorem UidOwn.row (h : UidOwn L s N req a) {r : Row ChStation} (hr : r ∈ s.chStations.rows)
    (hser : r.cols.csSerN = cstr (sernOf req)) : r.cols.csSerN = N := by
  rw [hser]
  exact h.station (List.mem_map.mpr ⟨r, hr, hser⟩)

theorem UidOwn.start (h : UidOwn L s N req a) : UidOwn L s.start.state N req a :=
  ⟨h.literal, h.texts, h.station, h.stored, h.refs⟩

theorem heartbeat_isolated {k : Session Server}
    (hown : sernOf req ≠ [] → UidOwn L k.state N req .heartbeat) :
    Isolated N k.state (updateOcppHBRequestMessage2DB E req rtt k).2.state := by
  have hliteral : (StationOp.heartbeat req rtt).Literal := by
    by_cases hsern : sernOf req = []
    · show '\'' ∉ cstr (sernOf req)
      rw [hsern]
      decide
    · exact (hown hsern).literal
  refine touches_isolated k (updateOcppHB_writes (by simp)) (heartbeat_touches hliteral) ?_
  intro r hr a ha
  unfold StationOp.write at ha
  dsimp only at ha
  split at ha
  · next hsel =>
    cases ha
    exact ⟨(hown hsel.1).row hr hsel.2, rfl⟩
  · cases ha

theorem preprocessBoot_isolated {k : Session Server} (hq : (updateIPAddrSql req rtt).QuoteFree)
    (hsern : cstr rtt.serNumber = N) (hfw : rtt.fwVer = [] → ∀ M ∈ k.state.serials, M = N) :
    Isolated N k.state (preprocessOcppMessage2DB E req rtt true .none k).2.state := by
  refine touches_isolated k (preprocess_writes (by simp))
    (preprocessBoot_touches (E := E) hq) ?_
  intro r hr a ha
  unfold StationOp.write bootRow at ha
  dsimp only at ha
  split at ha
  · next hsel =>
    cases ha
    refine ⟨?_, rfl⟩
    rcases hsel with hbare | hser
    · exact hfw hbare _ (List.mem_map.mpr ⟨r, hr, rfl⟩)
    · rw [hser, hsern]
  · cases ha

theorem preprocessStatus_isolated {k : Session Server}
    (hown : UidOwn L k.state N req .statusNotification)
    (htext : '\'' ∉ cstr (objBText req rtt)) :
    Isolated N k.state (preprocessOcppMessage2DB E req rtt false .status k).2.state := by
  refine touches_isolated k (preprocess_writes (by simp))
    (preprocessStatus_touches (E := E) ⟨hown.literal, htext⟩) ?_
  intro r hr a ha
  unfold StationOp.write at ha
  dsimp only at ha
  split at ha
  · next hser =>
    cases ha
    exact ⟨hown.row hr hser, rfl⟩
  · cases ha

theorem preprocessFirmware_isolated {k : Session Server}
    (hown : UidOwn L k.state N req .firmwareStatusNotification)
    (hstatus : '\'' ∉ cstr rtt.status) :
    Isolated N k.state (preprocessOcppMessage2DB E req rtt false .firmware k).2.state := by
  refine touches_isolated k (preprocess_writes (by simp))
    (preprocessFirmware_touches (E := E) ⟨hown.literal, hstatus⟩) ?_
  intro r hr a ha
  unfold StationOp.write at ha
  dsimp only at ha
  split at ha
  · next hser =>
    cases ha
    exact ⟨hown.row hr hser, rfl⟩
  · cases ha

/-- Without a statement of its own, preprocessing only looks. -/
theorem preprocessNone_isolated (k : Session Server) :
    Isolated N k.state (preprocessOcppMessage2DB E req rtt false .none k).2.state :=
  .of_only (preprocess_writes (T := []) (by simp) k) (by simp)

/-- Every text of the history row of such a CALL is a literal. -/
theorem UidOwn.quoteFree (h : UidOwn L s N req a) (hip : '\'' ∉ req.remoteIP)
    (haction : req.action = a.name) (hstatus : '\'' ∉ cstr rtt.status)
    (herr : '\'' ∉ cstr rtt.errCode) (hsensors : '\'' ∉ cstr rtt.sensors) :
    (insertOcppHistorySql req rtt (sernOf req)).QuoteFree := by
  refine insertOcppHistorySql_quoteFree.mpr ⟨h.literal, fun hc => hip (mem_of_mem_cstr hc), ?_,
    hstatus, herr, hsensors⟩
  rw [haction]
  cases a <;> decide

/-- A request that is stored with what it was loaded from. -/
theorem insertOcppReqMsg2DB_isolated {dbType : OcppDbType} {ptr : LoadedRequest}
    (store : Preprocessed → Act Int) (k : Session Server)
    (hrun : insertOcppReqMsg2DB L E req rtt dbType ptr false k = (do
      let pre ← preprocessOcppMessage2DB E req
        { rtt with ts := E.clock k.asked, dbType := dbType } false .none
      if pre.sern = [] then pure 0 else store pre) k.tick)
    (hown : sernOf req ≠ [] → UidOwn L k.state N req a)
    (hstore : ∀ pre k', PreprocessedAs req
        { rtt with ts := E.clock k.asked, dbType := dbType } (sernOf req) pre →
      pre.sern ≠ [] → UidOwn L k'.state N req a → Isolated N k'.state (store pre k').2.state) :
    Isolated N k.state (insertOcppReqMsg2DB L E req rtt dbType ptr false k).2.state := by
  rw [hrun]
  refine preprocessed_isolated k.tick (preprocess_as .none) (preprocessNone_isolated k.tick)
    fun pre k' hpre has hne => ?_
  have hread : Writes [] (preprocessOcppMessage2DB E req
      { rtt with ts := E.clock k.asked, dbType := dbType } false .none) :=
    preprocess_writes (by simp)
  have hkept := hread.state_eq k.tick
  rw [hpre] at hkept
  have hstate : k'.state = k.state := hkept
  refine hstore pre k' has hne ?_
  rw [hstate]
  exact hown (has.sern hne ▸ hne)

end Naming

section Processing

variable {L : Lib} {E : Env} {req : OcppRequest} {N : Text} {k : Session Server}

/-- Answering comes after storing and only asks the clock. -/
theorem answered_isolated {x : Act Int} {f : Int → Act Payload}
    (hx : Isolated N k.state (x k).2.state) (hf : ∀ n, Writes [] (f n)) :
    Isolated N k.state ((do
      let n ← x
      let p ← f n
      pure (some p)) k).2.state := by
  refine hx.trans ?_
  exact .of_only ((Writes.bind (hf (x k).1) fun _ => .pure _) (x k).2) (by simp)

theorem processHeartbeat_isolated (hown : CallOwn L k.state N req .heartbeat) :
    Isolated N k.state (processHeartbeat L E req k).2.state := by
  unfold processHeartbeat
  by_cases hload : L.loadHeartbeat (doSimpleExtract req.reqStr)
  · rw [if_pos hload]
    refine answered_isolated ?_ fun _ => responses_write.2.2.2.2
    exact heartbeat_isolated (k := k.tick) fun hne => hown hload (Or.inl hne)
  · rw [if_neg hload]
    exact .refl N _

/-- Without a quote in its texts the record of a boot has none. -/
theorem bootRtt_quote {p : BootNotificationRequest} {sern : SchemaString 25} (ts : Int)
    (hser : p.chargePointSerialNumber = some sern) (h : ∀ v ∈ p.texts, '\'' ∉ v) :
    '\'' ∉ sern.toText ∧ '\'' ∉ (bootRtt p sern ts).fwVer ∧
      '\'' ∉ (bootRtt p sern ts).sensors := by
  obtain ⟨serial, fw, iccid, imsi⟩ := p
  cases hser
  unfold BootNotificationRequest.texts at h
  unfold bootRtt
  refine ⟨h _ (by simp), ?_, ?_⟩
  · cases fw with
    | none => simp
    | some fw => exact h _ (by simp)
  · dsimp only
    rw [List.mem_append, not_or]
    constructor
    · cases iccid with
      | none => decide
      | some iccid => exact h _ (by simp)
    · cases imsi with
      | none => simp
      | some imsi =>
        have himsi := h imsi.toText (by simp)
        simpa using himsi

theorem processBootNotification_isolated (hip : '\'' ∉ req.remoteIP)
    (haction : req.action = "BootNotification")
    (hown : CallOwn L k.state N req .bootNotification) :
    Isolated N k.state (processBootNotification L E req k).2.state := by
  unfold processBootNotification
  cases hload : L.loadBootNotification (doSimpleExtract req.reqStr) with
  | none => exact .refl N _
  | some p =>
    dsimp only
    rw [clockNow_bind]
    cases hser : p.chargePointSerialNumber with
    | none => exact .refl N _
    | some sern =>
      have hboot : BootOwn L k.state N req.reqStr :=
        hown (by rw [OcppAction.loads, hload]; rfl)
      obtain ⟨hN, htexts, hbare⟩ := hboot p sern hload hser
      obtain ⟨hsern, hfw, hsensors⟩ := bootRtt_quote (E.clock k.asked) hser htexts
      have hN' : cstr sern.toText = N := (cstr_of_no_nul sern.noNul).trans hN
      have hupdate : (updateIPAddrSql req (bootRtt p sern (E.clock k.asked))).QuoteFree :=
        updateIPAddrSql_quoteFree.mpr ⟨fun hc => hip (mem_of_mem_cstr hc),
          fun _ => ⟨fun hc => hfw (mem_of_mem_cstr hc), fun hc => hsern (mem_of_mem_cstr hc)⟩⟩
      refine answered_isolated (k := k.tick) ?_ fun _ => responses_write.2.1 _
      refine insertOcppMessage2DB_isolated k.tick preprocessBoot_as
        (preprocessBoot_isolated hupdate hN' ?_) fun _ => ⟨hN', ?_⟩
      · intro hnone
        refine hbare ?_
        by_contra hsome
        obtain ⟨fw, hfw⟩ := Option.ne_none_iff_exists'.mp hsome
        rw [bootRtt_fwVer_some hfw] at hnone
        exact fw.nonempty hnone
      · have hstar : '\'' ∉ cstr "*" := by decide
        refine insertOcppHistorySql_quoteFree.mpr ⟨fun hc => hsern (mem_of_mem_cstr hc),
          fun hc => hip (mem_of_mem_cstr hc), ?_, hstar, hstar,
          fun hc => hsensors (mem_of_mem_cstr hc)⟩
        rw [haction]
        decide

/-- Authorize brings nothing into its statements. -/
theorem processAuthorize_isolated (hip : '\'' ∉ req.remoteIP) (haction : req.action = "Authorize")
    (hown : CallOwn L k.state N req .authorize) :
    Isolated N k.state (processAuthorize L E req k).2.state := by
  unfold processAuthorize
  cases hload : L.loadAuthorize (doSimpleExtract req.reqStr) with
  | none => exact .refl N _
  | some p =>
    dsimp only
    rw [clockNow_bind]
    refine answered_isolated (k := k.tick) ?_ fun _ => responses_write.1 _
    refine insertOcppMessage2DB_isolated k.tick (preprocess_as .none)
      (preprocessNone_isolated k.tick) fun hne => ?_
    have hu : UidOwn L k.state N req .authorize :=
      hown (by rw [OcppAction.loads, hload]; rfl) (Or.inl hne)
    have hstar : '\'' ∉ cstr "*" := by decide
    exact ⟨hu.stored (by simp) hne, hu.quoteFree hip haction hstar hstar hstar⟩

theorem statusSensors_quote {p : StatusNotificationRequest} {now : Int}
    (hinfo : '\'' ∉ (p.info.map SchemaString.toText).getD [])
    (hvendor : '\'' ∉ (p.vendorId.map SchemaString.toText).getD []) :
    '\'' ∉ statusSensors p now := by
  unfold statusSensors
  simp only [List.mem_append, not_or]
  exact ⟨⟨⟨⟨⟨⟨quote_not_mem_decimal _, by decide⟩, quote_not_mem_decimal _⟩, by decide⟩, hinfo⟩,
    by decide⟩, hvendor⟩

/-- The names of an enumeration hold no quote. -/
theorem SchemaEnum.quote {names : List Text} (hnames : ∀ n ∈ names, '\'' ∉ n)
    (v : SchemaEnum names) : '\'' ∉ v.toText :=
  hnames v.val v.property

theorem processStatusNotification_isolated (hip : '\'' ∉ req.remoteIP)
    (haction : req.action = "StatusNotification")
    (hown : CallOwn L k.state N req .statusNotification) :
    Isolated N k.state (processStatusNotification L E req k).2.state := by
  unfold processStatusNotification
  cases hload : L.loadStatusNotification (doSimpleExtract req.reqStr) with
  | none => exact .refl N _
  | some p =>
    dsimp only
    rw [clockNow_bind, clockNow_bind]
    have hu : UidOwn L k.state N req .statusNotification :=
      hown (by rw [OcppAction.loads, hload]; rfl) (Or.inr (Or.inl rfl))
    have htexts := hu.texts
    rw [OcppAction.spliced, hload] at htexts
    have hsensors : '\'' ∉ statusSensors p (E.clock k.tick.asked) :=
      statusSensors_quote (htexts _ (by simp)) (htexts _ (by simp))
    have herr := p.errorCode.quote (by decide)
    have hstatus := p.status.quote (by decide)
    have htext : '\'' ∉ objBText req
        { ts := E.clock k.asked
          errCode := p.errorCode.toText
          status := p.status.toText
          sensors := statusSensors p (E.clock k.tick.asked) } := by
      unfold objBText
      rw [haction]
      simp only [List.mem_append, not_or]
      exact ⟨⟨⟨⟨⟨⟨by decide, by decide⟩, hstatus⟩, by decide⟩, herr⟩, by decide⟩, hsensors⟩
    refine answered_isolated (k := k.tick.tick) ?_ fun _ => .pure _
    refine insertOcppMessage2DB_isolated k.tick.tick (preprocess_as .status)
      (preprocessStatus_isolated (k := k.tick.tick) hu fun hc => htext (mem_of_mem_cstr hc))
      fun hne => ?_
    exact ⟨hu.stored (by simp) hne, hu.quoteFree hip haction
      (fun hc => hstatus (mem_of_mem_cstr hc)) (fun hc => herr (mem_of_mem_cstr hc))
      fun hc => hsensors (mem_of_mem_cstr hc)⟩

theorem processFirmwareStatusNotification_isolated (hip : '\'' ∉ req.remoteIP)
    (haction : req.action = "FirmwareStatusNotification")
    (hown : CallOwn L k.state N req .firmwareStatusNotification) :
    Isolated N k.state (processFirmwareStatusNotification L E req k).2.state := by
  unfold processFirmwareStatusNotification
  cases hload : L.loadFirmwareStatusNotification (doSimpleExtract req.reqStr) with
  | none => exact .refl N _
  | some p =>
    dsimp only
    rw [clockNow_bind]
    have hu : UidOwn L k.state N req .firmwareStatusNotification :=
      hown (by rw [OcppAction.loads, hload]; rfl) (Or.inr (Or.inr rfl))
    have hstatus : '\'' ∉ cstr p.status.toText :=
      fun hc => p.status.quote (by decide) (mem_of_mem_cstr hc)
    have hstar : '\'' ∉ cstr "*" := by decide
    refine answered_isolated (k := k.tick) ?_ fun _ => .pure _
    refine insertOcppMessage2DB_isolated k.tick (preprocess_as .firmware)
      (preprocessFirmware_isolated (k := k.tick) hu hstatus) fun hne => ?_
    exact ⟨hu.stored (by simp) hne, hu.quoteFree hip haction hstatus hstar hstar⟩

/-- It is stored under the serial number of the station. -/
theorem UidOwn.storedUnder {a : OcppAction} {s : Server} (h : UidOwn L s N req a)
    (ha : a ≠ .heartbeat) {pre : Preprocessed} {rtt : RttOcpp}
    (has : PreprocessedAs req rtt (sernOf req) pre) (hne : pre.sern ≠ []) :
    cstr pre.sern = N := by
  have hsern := has.sern hne
  rw [hsern]
  exact h.stored ha (hsern ▸ hne)

/-- What refers to its history row is under the serial number as well. -/
theorem UidOwn.nextUnder {a : OcppAction} {s : Server} (h : UidOwn L s N req a)
    (ha : a = .startTransaction ∨ a = .stopTransaction ∨ a = .meterValues)
    {pre : Preprocessed} {rtt : RttOcpp} (has : PreprocessedAs req rtt (sernOf req) pre)
    (hne : pre.sern ≠ []) : UnderSerial N s (wrap32 s.csHist.nextRowid) :=
  h.refs ha (has.sern hne ▸ hne)

theorem processStartTransaction_isolated (hip : '\'' ∉ req.remoteIP)
    (haction : req.action = "StartTransaction")
    (hown : CallOwn L k.state N req .startTransaction) :
    Isolated N k.state (processStartTransaction L E req k).2.state := by
  unfold processStartTransaction
  cases hload : L.loadStartTransaction (doSimpleExtract req.reqStr) with
  | none => exact .refl N _
  | some p =>
    refine answered_isolated ?_ fun _ => responses_write.2.2.1 _
    refine insertOcppReqMsg2DB_isolated (a := .startTransaction)
      (fun pre => onStartTransactionRequestMessage2DB E pre.req pre.rtt p pre.sern) k rfl
      (fun hne => hown (by rw [OcppAction.loads, hload]; rfl) (Or.inl hne)) ?_
    intro pre k' has hne hu
    have hstar : '\'' ∉ cstr "*" := by decide
    have hq := has.quoteFree hne (hu.quoteFree hip haction hstar hstar hstar)
    have htag : '\'' ∉ cstr p.idTag.toText := by
      have htexts := hu.texts
      rw [OcppAction.spliced, hload] at htexts
      exact fun hc => htexts _ (List.mem_singleton_self _) (mem_of_mem_cstr hc)
    show Isolated N k'.state
      (onStartTransactionRequestMessage2DB E pre.req pre.rtt p pre.sern k').2.state
    rw [onStartTransaction_storing]
    exact storing_isolated hq (hu.storedUnder (by simp) has hne)
      (fun id rtt' j _ hid => storeStart_isolated htag rtt' j hid) k'
      (hu.nextUnder (by simp) has hne)

theorem processStopTransaction_isolated (hip : '\'' ∉ req.remoteIP)
    (haction : req.action = "StopTransaction")
    (hown : CallOwn L k.state N req .stopTransaction) :
    Isolated N k.state (processStopTransaction L E req k).2.state := by
  unfold processStopTransaction
  cases hload : L.loadStopTransaction (doSimpleExtract req.reqStr) with
  | none => exact .refl N _
  | some p =>
    refine answered_isolated ?_ fun _ => responses_write.2.2.2.1
    refine insertOcppReqMsg2DB_isolated (a := .stopTransaction)
      (fun pre => onStopTransactionRequestMessage2DB L E pre.req pre.rtt p pre.sern) k rfl
      (fun hne => hown (by rw [OcppAction.loads, hload]; rfl) (Or.inl hne)) ?_
    intro pre k' has hne hu
    have hstar : '\'' ∉ cstr "*" := by decide
    have hnumber (n : Int) : '\'' ∉ cstr (decimal n) :=
      fun hc => quote_not_mem_decimal n (mem_of_mem_cstr hc)
    -- the record's status and error code give way to the two numbers
    have hq : (insertOcppHistorySql pre.req { pre.rtt with
        errCode := decimal p.meterStop, status := decimal p.transactionId }
        pre.sern).QuoteFree := by
      obtain ⟨hsern, hip', haction', _, _, hsensors⟩ := insertOcppHistorySql_quoteFree.mp
        (has.quoteFree hne (hu.quoteFree hip haction hstar hstar hstar))
      exact insertOcppHistorySql_quoteFree.mpr
        ⟨hsern, hip', haction', hnumber _, hnumber _, hsensors⟩
    show Isolated N k'.state
      (onStopTransactionRequestMessage2DB L E pre.req pre.rtt p pre.sern k').2.state
    rw [onStopTransaction_storing]
    exact storing_isolated hq (hu.storedUnder (by simp) has hne)
      (fun id rtt' j _ hid => storeStop_isolated p rtt' j hid) k'
      (hu.nextUnder (by simp) has hne)

theorem processMeterValues_isolated (hip : '\'' ∉ req.remoteIP)
    (haction : req.action = "MeterValues") (hown : CallOwn L k.state N req .meterValues) :
    Isolated N k.state (processMeterValues L E req k).2.state := by
  unfold processMeterValues
  cases hload : L.loadMeterValues (doSimpleExtract req.reqStr) with
  | none => exact .refl N _
  | some p =>
    refine answered_isolated ?_ fun _ => .pure _
    refine insertOcppReqMsg2DB_isolated (a := .meterValues)
      (fun pre => onMeterValuesRequestMessage2DB L E pre.req pre.rtt p pre.sern) k rfl
      (fun hne => hown (by rw [OcppAction.loads, hload]; rfl) (Or.inl hne)) ?_
    intro pre k' has hne hu
    have hstar : '\'' ∉ cstr "*" := by decide
    have hq := has.quoteFree hne (hu.quoteFree hip haction hstar hstar hstar)
    have hsern := hu.storedUnder (by simp) has hne
    show Isolated N k'.state
      (onMeterValuesRequestMessage2DB L E pre.req pre.rtt p pre.sern k').2.state
    rw [onMeterValues_storing]
    refine storing_isolated hq hsern (fun id rtt' j hser hid => ?_) k'
      (hu.nextUnder (by simp) has hne)
    exact storeMeter_isolated p (hser ▸ hsern) j hid

/-- Of the texts of a data transfer only what stands before a NUL is
spliced. -/
theorem dataTransferRtt_quote {p : DataTransferRequest} (ts : Int)
    (h : '\'' ∉ cstr (p.data.getD "*" ++ "," ++ (p.messageId.map SchemaString.toText).getD "*")) :
    '\'' ∉ cstr (dataTransferRtt p ts).sensors := by
  intro hc
  have hsplit : (dataTransferRtt p ts).sensors = ("1," ++ decimal ts ++ "," : Text) ++
      (p.data.getD "*" ++ "," ++ (p.messageId.map SchemaString.toText).getD "*") := by
    unfold dataTransferRtt
    simp only [List.append_assoc]
  rw [hsplit] at hc
  rcases mem_cstr_append hc with hc | hc
  · rcases List.mem_append.mp hc with hc | hc
    · rcases List.mem_append.mp hc with hc | hc
      · exact absurd hc (by decide)
      · exact quote_not_mem_decimal ts hc
    · exact absurd hc (by decide)
  · exact h hc

theorem processDataTransfer_isolated (hip : '\'' ∉ req.remoteIP)
    (haction : req.action = "DataTransfer") (hown : CallOwn L k.state N req .dataTransfer) :
    Isolated N k.state (processDataTransfer L E req k).2.state := by
  unfold processDataTransfer
  cases hload : L.loadDataTransfer (doSimpleExtract req.reqStr) with
  | none => exact .refl N _
  | some p =>
    dsimp only
    rw [clockNow_bind]
    refine answered_isolated (k := k.tick) ?_ fun _ => .pure _
    refine insertOcppReqMsg2DB_isolated (a := .dataTransfer)
      (fun pre => insertOcppHistory2DBConn E pre.req pre.rtt pre.sern) k.tick rfl
      (fun hne => hown (by rw [OcppAction.loads, hload]; rfl) (Or.inl hne)) ?_
    intro pre k' has hne hu
    have htexts := hu.texts
    rw [OcppAction.spliced, hload] at htexts
    have hsensors := dataTransferRtt_quote (E.clock k.asked) (htexts _ (List.mem_singleton_self _))
    have hstatus : '\'' ∉ cstr "***" := by decide
    have herr : '\'' ∉ cstr "No Err" := by decide
    have hq := has.quoteFree hne (hu.quoteFree hip haction hstatus herr hsensors)
    exact insertOcppHistory2DBConn_isolated hq (hu.storedUnder (by simp) has hne) k'

/-- A CALL about the station of its connection. -/
theorem OcppAction.process_isolated (a : OcppAction) (hip : '\'' ∉ req.remoteIP)
    (haction : req.action = a.name) (hown : CallOwn L k.state N req a) :
    Isolated N k.state (a.process L E req k).2.state := by
  cases a with
  | heartbeat => exact processHeartbeat_isolated hown
  | bootNotification => exact processBootNotification_isolated hip haction hown
  | authorize => exact processAuthorize_isolated hip haction hown
  | startTransaction => exact processStartTransaction_isolated hip haction hown
  | stopTransaction => exact processStopTransaction_isolated hip haction hown
  | statusNotification => exact processStatusNotification_isolated hip haction hown
  | firmwareStatusNotification => exact processFirmwareStatusNotification_isolated hip haction hown
  | meterValues => exact processMeterValues_isolated hip haction hown
  | dataTransfer => exact processDataTransfer_isolated hip haction hown

theorem updateCSTimeZone_isolated {sern : Text} (tz dls : Int)
    (hown : sern ≠ [] → '\'' ∉ cstr sern ∧ (cstr sern ∈ k.state.serials → cstr sern = N)) :
    Isolated N k.state (updateCSTimeZone E sern tz dls k).2.state := by
  have hliteral : (StationOp.timeZone sern tz dls).Literal := by
    by_cases hsern : sern = []
    · rw [hsern]
      show '\'' ∉ cstr []
      decide
    · exact (hown hsern).1
  refine touches_isolated k (updateCSTimeZone_writes (by simp)) (timeZone_touches hliteral) ?_
  intro r hr a ha
  unfold StationOp.write at ha
  dsimp only at ha
  split at ha
  · next hsel =>
    cases ha
    refine ⟨?_, rfl⟩
    rw [hsel.2]
    exact (hown hsel.1).2 (List.mem_map.mpr ⟨r, hr, hsel.2⟩)
  · cases ha

theorem processDataTransferResponse_isolated {p : DataTransferResponse}
    (hown : p.status.toText = "Accepted" → ∀ v0 sern tz dls rest,
      split (p.data.getD []) ',' = v0 :: sern :: tz :: dls :: rest → v0 = "11" → sern ≠ [] →
        '\'' ∉ cstr sern ∧ (cstr sern ∈ k.state.serials → cstr sern = N)) :
    Isolated N k.state (processDataTransferResponse E p k).2.state := by
  unfold processDataTransferResponse
  by_cases haccepted : p.status.toText = "Accepted"
  · rw [if_pos haccepted]
    have hfields := hown haccepted
    generalize split (p.data.getD []) ',' = fields at hfields
    rcases fields with _ | ⟨v0, _ | ⟨sern, _ | ⟨tz, _ | ⟨dls, rest⟩⟩⟩⟩
    · exact .refl N _
    · exact .refl N _
    · exact .refl N _
    · exact .refl N _
    · dsimp only
      by_cases h11 : v0 = "11"
      · rw [if_pos h11]
        exact updateCSTimeZone_isolated _ _ (hfields v0 sern tz dls rest rfl h11)
      · rw [if_neg h11]
        exact .refl N _
  · rw [if_neg haccepted]
    exact .refl N _

/-- An answer about the station of its connection. -/
theorem processAnswer_isolated (hown : AnswerOwn L k.state N req) (resp : OcppResponse) :
    Isolated N k.state (processAnswer L E req resp k).2.state := by
  have hqueue : Writes [.requestQueue] (getActionByUID req.uniqueID) :=
    getActionByUID_writes (by simp)
  have htaken : Isolated N k.state (getActionByUID req.uniqueID k).2.state :=
    .of_only (hqueue k) (by simp)
  unfold AnswerOwn at hown
  show Isolated N k.state (processIncomingCPResponseMessage L E req k).2.state
  unfold processIncomingCPResponseMessage
  rw [Action.bind_apply]
  have haction : (getActionByUID req.uniqueID k).1 =
      (RequestQueue.getActionByUID req.uniqueID k.state.requestQueue).1 := rfl
  rw [← haction] at hown
  have hserials : (getActionByUID req.uniqueID k).2.state.serials = k.state.serials := rfl
  rw [← hserials] at hown
  generalize getActionByUID req.uniqueID k = taken at htaken hown
  obtain ⟨action, k'⟩ := taken
  dsimp only at htaken hown ⊢
  by_cases hnone : action = []
  · rw [if_pos hnone]
    exact htaken
  · rw [if_neg hnone]
    refine htaken.trans ?_
    unfold confirm
    cases confirmationOf action with
    | some c => exact .refl N _
    | none =>
      dsimp only
      by_cases htransfer : action = "DataTransfer"
      · rw [if_pos htransfer]
        cases hload : L.loadDataTransferResponse (doSimpleExtract req.reqStr) with
        | none => exact .refl N _
        | some p => exact processDataTransferResponse_isolated (hown htransfer p hload)
      · rw [if_neg htransfer]
        exact .refl N _

end Processing

section Receiving

variable {L : Lib} {E : Env} {s : Server} {N : Text} {con : Connection} {payload : Text}

theorem CallOwn.start {req : OcppRequest} {a : OcppAction} (h : CallOwn L s N req a) :
    CallOwn L s.start.state N req a := by
  intro hload
  have hloaded := h hload
  by_cases hboot : a = .bootNotification
  · rw [if_pos hboot] at hloaded ⊢
    exact hloaded
  · rw [if_neg hboot] at hloaded ⊢
    exact fun hruns => (hloaded hruns).start

theorem processOCPPIncoming_isolated (hown : MessageOwn L s N con payload) :
    Isolated N s.start.state
      (processOCPPIncoming L E (incoming con payload) ⟨0, [], []⟩ s.start).2.state := by
  cases hparse : parseOCPPRequest L (incoming con payload) with
  | none =>
    unfold processOCPPIncoming
    rw [hparse]
    exact .refl N _
  | some req =>
    obtain ⟨hcalled, hanswered⟩ := hown req hparse
    rw [processOCPPIncoming_of_parse hparse]
    by_cases hcall : req.callID = 2
    · rw [if_pos hcall]
      cases ha : OcppAction.ofName req.action with
      | none =>
        rw [processCall_unhandled ha]
        exact .refl N _
      | some a =>
        have hip : '\'' ∉ req.remoteIP := by
          rw [(parse_keeps hparse).2]
          exact con.endpoint.noQuote
        have hdone : Isolated N s.start.state (a.process L E req s.start).2.state :=
          a.process_isolated hip (OcppAction.name_of_ofName ha).symm (hcalled hcall a ha).start
        generalize hrun : a.process L E req s.start = done at hdone
        obtain ⟨result, s'⟩ := done
        cases result with
        | none =>
          obtain ⟨r, hr, _⟩ := processCall_raised ha hrun
          rw [hr]
          exact hdone
        | some p =>
          obtain ⟨r, t, more, hr, honly, _, _⟩ := processCall_answered ha hrun
          rw [hr]
          exact hdone.trans (.of_only honly (by simp))
    · rw [if_neg hcall]
      by_cases hanswer : req.callID = 3
      · rw [if_pos hanswer]
        exact processAnswer_isolated (k := s.start) (hanswered hanswer) ⟨0, [], []⟩
      · rw [if_neg hanswer]
        exact .refl N _

/-- A message about the station of its connection. -/
theorem message_isolated (hown : MessageOwn L s N con payload) :
    Isolated N s (s.step L (E, .message con payload)) := by
  have hstart : Isolated N s s.start.state :=
    .of_only (T := [.wire]) (.set_wire (by simp) s []) (by simp)
  refine hstart.trans ?_
  show Isolated N s.start.state (onMessage L E con payload s.start).2.state
  by_cases hlen : 2 < payload.length
  · have hdone := processOCPPIncoming_isolated (E := E) hown
    generalize hrun : processOCPPIncoming L E (incoming con payload) ⟨0, [], []⟩ s.start =
      done at hdone
    obtain ⟨r, s'⟩ := done
    obtain ⟨ds, _, hstate⟩ := onMessage_state hlen hrun
    rw [hstate]
    exact hdone.trans (.of_only (T := [.wire]) (.set_wire (by simp) s'.state _) (by simp))
  · have hignored : onMessage L E con payload s.start = ((), s.start) := by
      unfold onMessage
      rw [if_pos (by omega)]
      rfl
    rw [hignored]
    exact .refl N _

end Receiving

/-- The serial number the connection has reported last, the message
included. -/
def Boots.latest (L : Lib) (b : Boots) (con : Connection) (payload : Text) : Option Text :=
  (bootSerial L payload).or (b con)

theorem Boots.note_message (L : Lib) (b : Boots) (con : Connection) (payload : Text) (E : Env)
    (s t : Server) : b.note L ⟨s, (E, .message con payload), t⟩ con = b.latest L con payload := by
  unfold Boots.note Boots.latest
  dsimp only
  cases bootSerial L payload with
  | none => rfl
  | some N => exact Function.update_self ..

/-- A message is about the station of its connection. -/
def OwnEvent (L : Lib) (p : Server × Boots) (e : Env × Event) : Prop :=
  ∀ con payload N, e.2 = .message con payload → p.2.latest L con payload = some N →
    MessageOwn L p.1 N con payload

/-- A message on a connection whose latest boot reported `N` keeps to `N`. -/
def FrameIsolated (v : Visit (Server × Boots) (Env × Event)) : Prop :=
  ∀ con payload N, v.event.2 = .message con payload → v.after.2 con = some N →
    Isolated N v.before.1 v.after.1

/-- In a run from any state in which every message is about the station of its
connection every message keeps to that station. -/
theorem frames_isolated (L : Lib) (p : Server × Boots) (es : List (Env × Event))
    (hown : Meets (noting (Server.step L) (Boots.note L)) (OwnEvent L) p es) :
    ∀ v ∈ visits (noting (Server.step L) (Boots.note L)) p es, FrameIsolated v := by
  intro v hv con payload N hmessage hN
  have hok := hown v hv
  have hafter := after_eq_step hv
  obtain ⟨⟨s, b⟩, ⟨E, ev⟩, after⟩ := v
  dsimp only at hmessage hN hok hafter ⊢
  subst hmessage
  rw [hafter] at hN ⊢
  have hlatest : b.latest L con payload = some N := by
    rw [← Boots.note_message L b con payload E s (Server.step L s (E, .message con payload))]
    exact hN
  exact message_isolated (hok con payload N rfl hlatest)

/-- A heartbeat of the station GRS-0123456789. -/
def beat : Text := "[2,\"0123456789a\",\"Heartbeat\",\x7b\x7d]"

/-- A library that reads it beside what another reads. -/
def Lib.beating (L : Lib) : Lib :=
  { L with
    parse := fun t =>
      if t = cstr beat then some [.int 2, .string "0123456789a", .string "Heartbeat", .other]
      else L.parse t
    parse_size := by
      intro t es ht
      split at ht
      · next heq =>
        cases ht
        rw [heq]
        decide
      · exact L.parse_size t es ht
    loadHeartbeat := fun _ => true }

theorem beat_isCall (L : Lib) : IsCall L.beating beat "0123456789a" "Heartbeat" := by
  refine ⟨.other, ?_⟩
  unfold Lib.beating
  simp

/-- A boot of that station. -/
def ownBoot : Text :=
  "[2,\"1\",\"BootNotification\",\x7b" ++ "\"chargePointModel\":\"M\"," ++
    "\"chargePointSerialNumber\":\"GRS-0123456789\"," ++ "\"chargePointVendor\":\"V\"," ++
    "\"firmwareVersion\":\"1\"\x7d]"

def ownBootLib : Lib :=
  { bootLib ownBoot (some sampleVersion) (by decide +kernel) with
    loadBootNotification := fun _ =>
      some ⟨some ⟨"GRS-0123456789", by decide, by decide, by decide⟩,
        some sampleVersion, none, none⟩ }

theorem ownBoot_isCall : IsCall ownBootLib.beating ownBoot "1" "BootNotification" :=
  ⟨.other, by decide +kernel⟩

theorem ownBoot_own (s : Server) :
    MessageOwn ownBootLib.beating s "GRS-0123456789" somePeer ownBoot := by
  intro req hparse
  rw [parse_call somePeer ownBoot_isCall] at hparse
  cases hparse
  refine ⟨fun _ a ha => ?_, fun hanswer => absurd hanswer (by decide)⟩
  have hboot : OcppAction.ofName (cstr "BootNotification") = some .bootNotification := by decide
  cases hboot.symm.trans ha
  intro _
  rw [if_pos rfl]
  intro p sern hload hser
  cases hload
  cases hser
  exact ⟨rfl, by decide, nofun⟩

theorem beat_own (L : Lib) (s : Server) :
    MessageOwn L.beating s "GRS-0123456789" somePeer beat := by
  intro req hparse
  rw [parse_call somePeer (beat_isCall L)] at hparse
  cases hparse
  refine ⟨fun _ a ha => ?_, fun hanswer => absurd hanswer (by decide)⟩
  have hbeat : OcppAction.ofName (cstr "Heartbeat") = some .heartbeat := by decide
  cases hbeat.symm.trans ha
  have hsern : cstr (sernOf (callRequest somePeer beat "0123456789a" "Heartbeat")) =
      "GRS-0123456789" := by decide
  intro _
  rw [if_neg (by decide)]
  refine fun _ => ⟨?_, by simp [OcppAction.spliced], fun _ => hsern, ?_, ?_⟩
  · rw [hsern]
    decide
  · exact fun hnot => absurd rfl hnot
  · rintro (h | h | h) <;> cases h

/-- A station connects, boots and sends a heartbeat. -/
theorem frames_isolated_beating :
    (visits (noting (Server.step ownBootLib.beating) (Boots.note ownBootLib.beating))
      (oneStation, fun _ => none)
      [(.calm, .opened somePeer), (.calm, .message somePeer ownBoot),
        (.calm, .message somePeer beat)]).Forall FrameIsolated := by
  apply List.forall_iff_forall_mem.mpr
  apply frames_isolated
  refine meets_cons.mpr ⟨?_, meets_cons.mpr ⟨?_, meets_cons.mpr ⟨?_, Meets.nil _⟩⟩⟩
  · intro con payload N hmessage
    cases hmessage
  · intro con payload N hmessage hN
    cases hmessage
    have hboot : bootSerial ownBootLib.beating ownBoot = some "GRS-0123456789" := by
      decide +kernel
    unfold Boots.latest at hN
    rw [hboot] at hN
    cases hN
    exact ownBoot_own _
  · intro con payload N hmessage hN
    cases hmessage
    have hboot : Boots.latest ownBootLib.beating (run (noting (Server.step ownBootLib.beating)
        (Boots.note ownBootLib.beating)) (oneStation, fun _ => none)
        [(.calm, .opened somePeer), (.calm, .message somePeer ownBoot)]).2 somePeer beat =
        some "GRS-0123456789" := by
      decide +kernel
    cases hboot.symm.trans hN
    exact beat_own _ _

/-- Two stations, of which GRS-1 boots. -/
def neighbours : Server :=
  { Server.empty with
    chStations := ⟨[⟨1, .plain "GRS-1" "" 1⟩, ⟨2, .plain "GRS-0123456789" "" 2⟩],
      by decide, by decide⟩ }

/-- After it has booted as GRS-1 a station sends the heartbeat of another. -/
theorem foreign_beat_stored :
    ¬ ∀ v ∈ visits (noting (Server.step fullBootLib.beating) (Boots.note fullBootLib.beating))
        (neighbours, fun _ => none)
        [(.calm, .opened somePeer), (.calm, .message somePeer fullBoot),
          (.calm, .message somePeer beat)],
      FrameIsolated v := by
  intro h
  have hlast := h _ (List.mem_cons_of_mem _ (List.mem_cons_of_mem _ (List.mem_cons_self ..)))
  have hkept := (hlast somePeer beat "GRS-1" rfl (by decide +kernel)).stations
    ⟨2, .plain "GRS-0123456789" "" 2⟩ (by decide)
  exact absurd hkept (by decide +kernel)

end UCLinux.Ocpp
