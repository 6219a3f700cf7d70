import UCLinux.Ocpp.Reception

/-!
Who is served. A message other than a boot is stored under the serial number
made of its uid, and Authorize is accepted when it was stored. The station is
looked up on the way, but no function looks at whether a row was found: a
station that is not registered is stored and authorized like any other, as
long as its uid is long enough to make a serial number of.
-/

namespace UCLinux.Ocpp

open Sql Machine Server CentralOcppDB HistoryDB

section Lookup

variable {L : Lib} (E : Env) (req : OcppRequest) (rtt : RttOcpp)

/-- The serial number does not depend on what the table holds. -/
theorem getSerNumberByIPAddr_sern :
    Action.Returns (fun found => found.sern =
      if 10 < req.uniqueID.length then sernOfUid req.uniqueID else [])
      (getSerNumberByIPAddr E req) := by
  unfold getSerNumberByIPAddr
  by_cases hlen : 10 < req.uniqueID.length
  · rw [if_pos hlen, if_pos hlen]
    refine .bind fun found => ?_
    cases found.first with
    | none => exact .pure rfl
    | some row =>
      cases row with
      | none => exact .pure rfl
      | some row => exact .pure rfl
  · rw [if_neg hlen, if_neg hlen]
    exact .pure rfl

theorem preprocess_sern (stsType : StatusNotificationType) (s : Session Server) :
    (preprocessOcppMessage2DB E req rtt false stsType s).1.sern =
      if E.raises s.asked = none ∧ 10 < req.uniqueID.length then sernOfUid req.uniqueID
      else [] := by
  unfold preprocessOcppMessage2DB
  rw [createConnection_bind]
  by_cases hopen : E.raises s.asked = none
  · have hsern := getSerNumberByIPAddr_sern E req s.tick
    rw [if_pos hopen, if_neg Bool.false_ne_true, Action.bind_apply]
    simp only [hopen, true_and]
    rw [← hsern]
    generalize getSerNumberByIPAddr E req s.tick = found
    obtain ⟨found, s'⟩ := found
    dsimp only
    cases found.cid with
    | none => rfl
    | some cid =>
      cases stsType <;> rfl
  · rw [if_neg hopen, if_neg fun h => hopen h.1]
    rfl

/-- Nothing is stored and the caller is told so. -/
def StoresNothing (act : Act Int) (s : Session Server) : Prop :=
  (act s).1 = 0 ∧ Only [.chStations] s.state (act s).2.state

/-- A short uid makes no serial number, so what would be stored under it is
not. -/
theorem preprocess_short {stsType : StatusNotificationType}
    (hshort : req.uniqueID.length ≤ 10) (store : Preprocessed → Act Int)
    (s : Session Server) :
    StoresNothing (do
      let pre ← preprocessOcppMessage2DB E req rtt false stsType
      if pre.sern = [] then pure 0 else store pre) s := by
  have hsern := preprocess_sern E req rtt stsType s
  rw [if_neg (fun h => by omega)] at hsern
  have honly : Only [.chStations] s.state
      (preprocessOcppMessage2DB E req rtt false stsType s).2.state :=
    preprocess_writes (by simp) s
  unfold StoresNothing
  rw [Action.bind_apply, if_pos hsern]
  exact ⟨rfl, honly⟩

theorem insertOcppMessage2DB_short (stsType : StatusNotificationType)
    (hshort : req.uniqueID.length ≤ 10) (s : Session Server) :
    StoresNothing (insertOcppMessage2DB E req rtt false stsType) s :=
  preprocess_short E req rtt hshort _ s

theorem insertOcppRequestMessage2DB_short (ptr : LoadedRequest)
    (hshort : req.uniqueID.length ≤ 10) (s : Session Server) :
    StoresNothing (insertOcppRequestMessage2DB L E req rtt ptr) s := by
  unfold insertOcppRequestMessage2DB
  split
  · exact preprocess_short E req rtt hshort _ s
  · exact preprocess_short E req rtt hshort _ s
  · exact preprocess_short E req rtt hshort _ s
  · exact preprocess_short E req rtt hshort _ s
  · exact ⟨rfl, Only.refl _⟩

theorem insertOcppReqMsg2DB_short (dbType : OcppDbType) (ptr : LoadedRequest)
    (hshort : req.uniqueID.length ≤ 10) (s : Session Server) :
    StoresNothing (insertOcppReqMsg2DB L E req rtt dbType ptr false) s := by
  have hstored := insertOcppRequestMessage2DB_short (L := L) E req
    { rtt with ts := E.clock s.asked, dbType := dbType } ptr hshort s.tick
  exact hstored

end Lookup

section Stored

/-- A row with a new rowid. -/
def Inserted {α κ : Type} {key : α → Option κ} (t t' : Table key) : Prop :=
  ∃ r ∈ t'.rows, ∀ q ∈ t.rows, q.rowid ≠ r.rowid

theorem not_inserted_self {α κ : Type} {key : α → Option κ} (t : Table key) :
    ¬ Inserted t t := by
  rintro ⟨r, hr, hnew⟩
  exact hnew r hr rfl

/-- Every history row is kept. -/
def KeepsHist (s t : Server) : Prop :=
  ∀ r ∈ s.csHist.rows, ∃ r' ∈ t.csHist.rows, r'.rowid = r.rowid

theorem KeepsHist.frame : Action.Frame KeepsHist := by
  refine ⟨fun s r hr => ⟨r, hr, rfl⟩, ?_⟩
  intro s t u hst htu r hr
  obtain ⟨r', hr', hid⟩ := hst r hr
  obtain ⟨r'', hr'', hid'⟩ := htu r' hr'
  exact ⟨r'', hr'', hid'.trans hid⟩

theorem KeepsHist.of_only {T : List Part} (hT : .csHist ∉ T) {s t : Server}
    (h : Only T s t) : KeepsHist s t := by
  intro r hr
  refine ⟨r, ?_, rfl⟩
  rwa [h.csHist hT]

theorem Inserted.keep {s t u : Server} (h : Inserted s.csHist t.csHist)
    (hkeep : KeepsHist t u) : Inserted s.csHist u.csHist := by
  obtain ⟨r, hr, hnew⟩ := h
  obtain ⟨r', hr', hid⟩ := hkeep r hr
  refine ⟨r', hr', fun q hq => ?_⟩
  rw [hid]
  exact hnew q hq

/-- An environment in which an altered INSERT adds a row all the same. -/
def Env.admitting : Env :=
  { Env.calm with
    csHist := { Altered.refused _ with
      insert := fun _ t => t.insert ⟨[], 0, [], [], [], [], []⟩ } }

theorem Env.admitting_quiet : Env.admitting.Quiet := fun _ => rfl

/-- A table without a key takes every row. -/
theorem insert_inserts {α : Type} (t : Table (noKey (α := α))) (a : α) :
    ∃ t' n, t.insert a = some (t', n) ∧ Inserted t t' := by
  obtain ⟨t', hins, hrows⟩ := Table.insert_of_no_key (t := t) (a := a) fun _ => rfl
  refine ⟨t', t.nextRowid, hins, ⟨t.nextRowid, a⟩, ?_, ?_⟩
  · simp [hrows]
  · intro q hq
    have := t.rowid_lt_next hq
    dsimp only
    omega

variable {L : Lib} {req : OcppRequest} {rtt : RttOcpp} {sern : Text}

/-- There a message with a serial number is stored. -/
theorem insertOcppHistory2DB_inserts (hsern : sern ≠ []) (s : Session Server) :
    Inserted s.state.csHist
      (insertOcppHistory2DB Env.admitting req rtt sern s).2.state.csHist := by
  have hins : ∃ t n, (if (insertOcppHistorySql req rtt sern).QuoteFree
        then (·.insert (ocppHistoryRow req rtt sern))
        else (CSHistTbl.altered Env.admitting).insert
          (insertOcppHistorySql req rtt sern).text) s.state.csHist = some (t, n) ∧
      Inserted s.state.csHist t := by
    split
    · exact insert_inserts _ _
    · exact insert_inserts _ _
  obtain ⟨t, n, hdone, hnew⟩ := hins
  have hexec : CSHistTbl.insert Env.admitting (insertOcppHistorySql req rtt sern)
      (·.insert (ocppHistoryRow req rtt sern)) s =
      (some n, ⟨{ s.state with csHist := t }, s.asked + 1⟩) := by
    refine exec_some s rfl ?_
    rw [Option.map_eq_some_iff]
    exact ⟨(t, n), hdone, rfl⟩
  unfold insertOcppHistory2DB
  rw [if_neg hsern, Action.bind_apply, hexec]
  exact hnew

/-- Storing a row and then keeping the history stores a row. -/
theorem inserts_then {α β : Type} {x : Act α} {f : α → Act β} {s : Session Server}
    (hx : Inserted s.state.csHist (x s).2.state.csHist)
    (hf : ∀ a, Action.Within KeepsHist (f a)) :
    Inserted s.state.csHist ((x >>= f) s).2.state.csHist :=
  hx.keep (hf (x s).1 (x s).2)

theorem keepsHist_of_writes {T : List Part} (hT : .csHist ∉ T) {α : Type} {act : Act α}
    (h : Writes T act) : Action.Within KeepsHist act :=
  Action.Within.mono (fun _ _ honly => KeepsHist.of_only hT honly) h

theorem insertOcppHistory2DBConn_inserts (hsern : sern ≠ []) (s : Session Server) :
    Inserted s.state.csHist
      (insertOcppHistory2DBConn Env.admitting req rtt sern s).2.state.csHist := by
  unfold insertOcppHistory2DBConn
  rw [createConnection_bind, if_pos (Env.admitting_quiet _)]
  exact inserts_then (insertOcppHistory2DB_inserts hsern s.tick) fun _ =>
    .pure KeepsHist.frame _

/-- An UPDATE of the history keeps its rows. -/
theorem updateHist_keepsHist (n : Int) :
    Action.Within KeepsHist (updateHistOnStartTransaction Env.admitting rtt n) := by
  refine .ite (fun _ => .pure KeepsHist.frame _) fun _ => ?_
  refine TableAt.update_within _ KeepsHist.frame ?_
  intro s g t m _ hrw r hr
  exact ⟨_, Table.rewriteRow_mem hrw hr, Table.rewriteRow_rowid g r⟩

theorem onStartTransaction_inserts (hsern : sern ≠ []) (p : StartTransactionRequest)
    (s : Session Server) :
    Inserted s.state.csHist
      (onStartTransactionRequestMessage2DB Env.admitting req rtt p sern s).2.state.csHist := by
  unfold onStartTransactionRequestMessage2DB
  rw [createConnection_bind, if_pos (Env.admitting_quiet _)]
  refine inserts_then (insertOcppHistory2DB_inserts hsern s.tick) fun hist => ?_
  cases hist with
  | none => exact .pure KeepsHist.frame _
  | some found =>
    refine .ite (fun _ => ?_) fun _ => .pure KeepsHist.frame _
    refine .bind KeepsHist.frame ?_ fun id => ?_
    · exact keepsHist_of_writes (T := [.startTr]) (by simp)
        (.bind (.insertStartTr (by simp)) fun _ => .pure _)
    · cases id with
      | none => exact .pure KeepsHist.frame _
      | some id =>
        exact .bind KeepsHist.frame (updateHist_keepsHist _) fun _ =>
          .pure KeepsHist.frame _

theorem onStopTransaction_inserts (hsern : sern ≠ []) (p : StopTransactionRequest)
    (s : Session Server) :
    Inserted s.state.csHist
      (onStopTransactionRequestMessage2DB L Env.admitting req rtt p sern
        s).2.state.csHist := by
  unfold onStopTransactionRequestMessage2DB
  rw [createConnection_bind, if_pos (Env.admitting_quiet _)]
  refine inserts_then (insertOcppHistory2DB_inserts hsern s.tick) fun hist => ?_
  cases hist with
  | none => exact .pure KeepsHist.frame _
  | some found =>
    refine .ite (fun _ => ?_) fun _ => .pure KeepsHist.frame _
    exact keepsHist_of_writes (T := [.stopTr]) (by simp)
      (.bind (.bind (.insertStopTr (by simp)) fun _ => .pure _) fun _ => .pure _)

theorem onMeterValues_inserts (hsern : sern ≠ []) (p : MeterValuesRequest)
    (s : Session Server) :
    Inserted s.state.csHist
      (onMeterValuesRequestMessage2DB L Env.admitting req rtt p sern s).2.state.csHist := by
  unfold onMeterValuesRequestMessage2DB
  rw [createConnection_bind, if_pos (Env.admitting_quiet _)]
  refine inserts_then (insertOcppHistory2DB_inserts hsern s.tick) fun hist => ?_
  cases hist with
  | none => exact .pure KeepsHist.frame _
  | some found =>
    refine .ite (fun _ => ?_) fun _ => .pure KeepsHist.frame _
    exact keepsHist_of_writes (T := [.meterV]) (by simp)
      (.bind (insertMeterValues_writes (by simp)) fun _ => .pure _)

/-- What a message is stored by, once it has a serial number. -/
def Stores (store : Preprocessed → Act Int) : Prop :=
  ∀ pre, pre.sern ≠ [] → ∀ s,
    Inserted s.state.csHist (store pre s).2.state.csHist

theorem sernOfUid_ne_nil (uid : Text) : sernOfUid uid ≠ [] := by
  simp [sernOfUid]

/-- A long uid makes a serial number, and the message is stored. -/
theorem preprocess_stores {stsType : StatusNotificationType}
    (hlong : 10 < req.uniqueID.length) {store : Preprocessed → Act Int}
    (hstore : Stores store) (s : Session Server) :
    Inserted s.state.csHist ((do
      let pre ← preprocessOcppMessage2DB Env.admitting req rtt false stsType
      if pre.sern = [] then pure 0 else store pre) s).2.state.csHist := by
  have hsern := preprocess_sern Env.admitting req rtt stsType s
  rw [if_pos ⟨rfl, hlong⟩] at hsern
  have hne : (preprocessOcppMessage2DB Env.admitting req rtt false stsType s).1.sern ≠ [] := by
    rw [hsern]
    exact sernOfUid_ne_nil _
  have hkeep : (preprocessOcppMessage2DB Env.admitting req rtt false stsType
      s).2.state.csHist = s.state.csHist :=
    (preprocess_writes (T := [.chStations]) (by simp) s).csHist (by simp)
  rw [Action.bind_apply, if_neg hne, ← hkeep]
  exact hstore _ hne _

theorem insertOcppMessage2DB_stores (stsType : StatusNotificationType)
    (hlong : 10 < req.uniqueID.length) (s : Session Server) :
    Inserted s.state.csHist
      (insertOcppMessage2DB Env.admitting req rtt false stsType s).2.state.csHist :=
  preprocess_stores hlong (fun _ h s => insertOcppHistory2DBConn_inserts h s) s

/-- A request that is stored under the serial number of its uid. -/
def storedAs : OcppDbType → LoadedRequest → Bool
  | .startTransaction, .startTransaction _ => true
  | .stopTransaction, .stopTransaction _ => true
  | .meterValues, .meterValues _ => true
  | .logMsg, _ => true
  | _, _ => false

theorem insertOcppReqMsg2DB_stores {dbType : OcppDbType} {ptr : LoadedRequest}
    (hptr : storedAs dbType ptr = true) (hlong : 10 < req.uniqueID.length)
    (s : Session Server) :
    Inserted s.state.csHist
      (insertOcppReqMsg2DB L Env.admitting req rtt dbType ptr false s).2.state.csHist := by
  unfold insertOcppReqMsg2DB
  rw [clockNow_bind, if_neg Bool.false_ne_true]
  cases dbType <;> cases ptr <;> cases hptr
  · exact preprocess_stores hlong (fun _ h s => onStartTransaction_inserts h _ s) s.tick
  · exact preprocess_stores hlong (fun _ h s => onStopTransaction_inserts h _ s) s.tick
  · exact preprocess_stores hlong (fun _ h s => onMeterValues_inserts h _ s) s.tick
  · exact preprocess_stores hlong (fun _ h s => insertOcppHistory2DBConn_inserts h s) s.tick
  · exact preprocess_stores hlong (fun _ h s => insertOcppHistory2DBConn_inserts h s) s.tick
  · exact preprocess_stores hlong (fun _ h s => insertOcppHistory2DBConn_inserts h s) s.tick
  · exact preprocess_stores hlong (fun _ h s => insertOcppHistory2DBConn_inserts h s) s.tick

end Stored

section Actions

variable {L : Lib} {E : Env} {req : OcppRequest}

/-- The payload of the message loads as the request of the action. -/
def OcppAction.loads (L : Lib) (payload : Text) : OcppAction → Bool
  | .heartbeat => L.loadHeartbeat (doSimpleExtract payload)
  | .bootNotification => (L.loadBootNotification (doSimpleExtract payload)).isSome
  | .authorize => (L.loadAuthorize (doSimpleExtract payload)).isSome
  | .startTransaction => (L.loadStartTransaction (doSimpleExtract payload)).isSome
  | .stopTransaction => (L.loadStopTransaction (doSimpleExtract payload)).isSome
  | .statusNotification => (L.loadStatusNotification (doSimpleExtract payload)).isSome
  | .firmwareStatusNotification =>
    (L.loadFirmwareStatusNotification (doSimpleExtract payload)).isSome
  | .meterValues => (L.loadMeterValues (doSimpleExtract payload)).isSome
  | .dataTransfer => (L.loadDataTransfer (doSimpleExtract payload)).isSome

/-- The actions that store their message under the serial number of its
uid. -/
def OcppAction.storing (a : OcppAction) : Bool := a ≠ .heartbeat ∧ a ≠ .bootNotification

/-- A message that does not load has no effect. -/
theorem process_unloaded (a : OcppAction) (h : a.loads L req.reqStr = false)
    (s : Session Server) : a.process L E req s = (none, s) := by
  cases a <;> simp only [OcppAction.loads, Option.isSome_eq_false_iff,
    Option.isNone_iff_eq_none] at h
  · rw [OcppAction.process, processHeartbeat, h]
    rfl
  · rw [OcppAction.process, processBootNotification, h]
    rfl
  · rw [OcppAction.process, processAuthorize, h]
    rfl
  · rw [OcppAction.process, processStartTransaction, h]
    rfl
  · rw [OcppAction.process, processStopTransaction, h]
    rfl
  · rw [OcppAction.process, processStatusNotification, h]
    rfl
  · rw [OcppAction.process, processFirmwareStatusNotification, h]
    rfl
  · rw [OcppAction.process, processMeterValues, h]
    rfl
  · rw [OcppAction.process, processDataTransfer, h]
    rfl

variable (req) in
/-- A storing action whose message loads and has a long uid stores it. -/
theorem process_stores {a : OcppAction} (hstoring : a.storing = true)
    (hload : a.loads L req.reqStr = true) (hlong : 10 < req.uniqueID.length)
    (s : Session Server) :
    Inserted s.state.csHist (a.process L Env.admitting req s).2.state.csHist := by
  cases a with
  | heartbeat => cases hstoring
  | bootNotification => cases hstoring
  | authorize =>
    obtain ⟨p, hp⟩ := Option.isSome_iff_exists.mp hload
    rw [OcppAction.process, processAuthorize, hp]
    dsimp only
    rw [clockNow_bind]
    exact inserts_then (insertOcppMessage2DB_stores .none hlong s.tick) fun _ =>
      keepsHist_of_writes (T := []) (by simp) (.bind (responses_write.1 _) fun _ => .pure _)
  | startTransaction =>
    obtain ⟨p, hp⟩ := Option.isSome_iff_exists.mp hload
    rw [OcppAction.process, processStartTransaction, hp]
    exact inserts_then (insertOcppReqMsg2DB_stores rfl hlong s) fun _ =>
      keepsHist_of_writes (T := []) (by simp)
        (.bind (responses_write.2.2.1 _) fun _ => .pure _)
  | stopTransaction =>
    obtain ⟨p, hp⟩ := Option.isSome_iff_exists.mp hload
    rw [OcppAction.process, processStopTransaction, hp]
    exact inserts_then (insertOcppReqMsg2DB_stores rfl hlong s) fun _ =>
      keepsHist_of_writes (T := []) (by simp)
        (.bind responses_write.2.2.2.1 fun _ => .pure _)
  | statusNotification =>
    obtain ⟨p, hp⟩ := Option.isSome_iff_exists.mp hload
    rw [OcppAction.process, processStatusNotification, hp]
    dsimp only
    rw [clockNow_bind, clockNow_bind]
    exact inserts_then (insertOcppMessage2DB_stores .status hlong s.tick.tick) fun _ =>
      keepsHist_of_writes (T := []) (by simp) (.bind (.pure _) fun _ => .pure _)
  | firmwareStatusNotification =>
    obtain ⟨p, hp⟩ := Option.isSome_iff_exists.mp hload
    rw [OcppAction.process, processFirmwareStatusNotification, hp]
    dsimp only
    rw [clockNow_bind]
    exact inserts_then (insertOcppMessage2DB_stores .firmware hlong s.tick) fun _ =>
      keepsHist_of_writes (T := []) (by simp) (.bind (.pure _) fun _ => .pure _)
  | meterValues =>
    obtain ⟨p, hp⟩ := Option.isSome_iff_exists.mp hload
    rw [OcppAction.process, processMeterValues, hp]
    exact inserts_then (insertOcppReqMsg2DB_stores rfl hlong s) fun _ =>
      keepsHist_of_writes (T := []) (by simp) (.bind (.pure _) fun _ => .pure _)
  | dataTransfer =>
    obtain ⟨p, hp⟩ := Option.isSome_iff_exists.mp hload
    rw [OcppAction.process, processDataTransfer, hp]
    dsimp only
    rw [clockNow_bind]
    exact inserts_then (insertOcppReqMsg2DB_stores rfl hlong s.tick) fun _ =>
      keepsHist_of_writes (T := []) (by simp) (.bind (.pure _) fun _ => .pure _)

/-- An Authorize response that accepts. -/
def Payload.authorizes : Payload → Bool
  | .authorize idTagInfo => idTagInfo.status = "Accepted"
  | _ => false

theorem authorizes_only {a : OcppAction} {p : Payload} (h : p.answers a = true)
    (ha : a ≠ .authorize) : p.authorizes = false := by
  cases a <;> cases p <;> simp_all [Payload.answers, Payload.authorizes]

/-- Storing nothing and answering changes the stations at most. -/
theorem StoresNothing.bind {x : Act Int} {f : Int → Act (Option Payload)}
    {s : Session Server} (hx : StoresNothing x s) (hf : Writes [.chStations] (f 0)) :
    Only [.chStations] s.state ((x >>= f) s).2.state := by
  rw [Action.bind_apply, hx.1]
  exact hx.2.trans (hf _)

/-- A storing action stores nothing for a short uid. -/
theorem process_short {a : OcppAction} (hstoring : a.storing = true)
    (hload : a.loads L req.reqStr = true) (hshort : req.uniqueID.length ≤ 10)
    (s : Session Server) :
    Only [.chStations] s.state (a.process L E req s).2.state ∧
      ∀ p, (a.process L E req s).1 = some p → p.authorizes = false := by
  have hother (ha : a ≠ .authorize) :
      ∀ p, (a.process L E req s).1 = some p → p.authorizes = false := by
    intro p hp
    exact authorizes_only (OcppAction.process_answers a req s p hp) ha
  cases a with
  | heartbeat => cases hstoring
  | bootNotification => cases hstoring
  | authorize =>
    obtain ⟨p, hp⟩ := Option.isSome_iff_exists.mp hload
    have hnothing := insertOcppMessage2DB_short E req { ts := E.clock s.asked } .none hshort
      s.tick
    rw [OcppAction.process, processAuthorize, hp]
    dsimp only
    rw [clockNow_bind]
    refine ⟨?_, ?_⟩
    · exact hnothing.bind (.bind (responses_write.1 _) fun _ => .pure _)
    · intro q hq
      rw [Action.bind_apply, hnothing.1] at hq
      cases hq
      rfl
  | startTransaction =>
    obtain ⟨p, hp⟩ := Option.isSome_iff_exists.mp hload
    refine ⟨?_, hother (by decide)⟩
    rw [OcppAction.process, processStartTransaction, hp]
    exact (insertOcppReqMsg2DB_short E req _ _ _ hshort s).bind
      (.bind (responses_write.2.2.1 _) fun _ => .pure _)
  | stopTransaction =>
    obtain ⟨p, hp⟩ := Option.isSome_iff_exists.mp hload
    refine ⟨?_, hother (by decide)⟩
    rw [OcppAction.process, processStopTransaction, hp]
    exact (insertOcppReqMsg2DB_short E req _ _ _ hshort s).bind
      (.bind responses_write.2.2.2.1 fun _ => .pure _)
  | statusNotification =>
    obtain ⟨p, hp⟩ := Option.isSome_iff_exists.mp hload
    refine ⟨?_, hother (by decide)⟩
    rw [OcppAction.process, processStatusNotification, hp]
    dsimp only
    rw [clockNow_bind, clockNow_bind]
    exact (insertOcppMessage2DB_short E req _ .status hshort s.tick.tick).bind
      (.bind (.pure _) fun _ => .pure _)
  | firmwareStatusNotification =>
    obtain ⟨p, hp⟩ := Option.isSome_iff_exists.mp hload
    refine ⟨?_, hother (by decide)⟩
    rw [OcppAction.process, processFirmwareStatusNotification, hp]
    dsimp only
    rw [clockNow_bind]
    exact (insertOcppMessage2DB_short E req _ .firmware hshort s.tick).bind
      (.bind (.pure _) fun _ => .pure _)
  | meterValues =>
    obtain ⟨p, hp⟩ := Option.isSome_iff_exists.mp hload
    refine ⟨?_, hother (by decide)⟩
    rw [OcppAction.process, processMeterValues, hp]
    exact (insertOcppReqMsg2DB_short E req _ _ _ hshort s).bind
      (.bind (.pure _) fun _ => .pure _)
  | dataTransfer =>
    obtain ⟨p, hp⟩ := Option.isSome_iff_exists.mp hload
    refine ⟨?_, hother (by decide)⟩
    rw [OcppAction.process, processDataTransfer, hp]
    dsimp only
    rw [clockNow_bind]
    exact (insertOcppReqMsg2DB_short E req _ _ _ hshort s.tick).bind
      (.bind (.pure _) fun _ => .pure _)

/-- The actions that do not store under a uid change the stations at most. -/
theorem process_not_storing {a : OcppAction} (hstoring : a.storing = false)
    (hboot : a ≠ .bootNotification) (s : Session Server) :
    Only [.chStations] s.state (a.process L E req s).2.state ∧
      ∀ p, (a.process L E req s).1 = some p → p.authorizes = false := by
  have ha : a = .heartbeat := by
    cases a <;> simp_all [OcppAction.storing]
  subst ha
  refine ⟨processHeartbeat_writes (by simp) s, fun p hp => ?_⟩
  exact authorizes_only (OcppAction.process_answers .heartbeat req s p hp) (by decide)

end Actions

section Served

variable {L : Lib} {E : Env} {con : Connection} {payload uid action : Text} {s : Server}

def Frame.authorizes : Frame → Bool
  | .callResult _ _ p => p.authorizes
  | _ => false

theorem Frame.authorizes_iff {f : Frame} :
    f.authorizes = true ↔
      ∃ k u p, f = .callResult k u p ∧ p.authorizes = true := by
  cases f <;> simp [Frame.authorizes]

/-- What only a registered station may get: an accepted Authorize, a stored
row. -/
def Served (s t : Server) : Prop :=
  t.sent Frame.authorizes ∨ Inserted s.csHist t.csHist ∨ Inserted s.startTr t.startTr ∨
    Inserted s.stopTr t.stopTr ∨ Inserted s.meterV t.meterV

/-- The serial number made of the uid is in the table. -/
def Registered (s : Server) (uid : Text) : Prop :=
  ∃ r ∈ s.chStations.rows, r.cols.csSerN = sernOfUid (cstr uid)

/-- The message is of an action that stores, loads, and has a uid that is
long enough. -/
def Storable (L : Lib) (payload uid action : Text) : Prop :=
  ∃ a, OcppAction.ofName (cstr action) = some a ∧ a.storing = true ∧
    a.loads L payload = true ∧ 10 < (cstr uid).length

theorem not_served_of_only {T : List Part} {t : Server} (honly : Only T s t)
    (hT : .csHist ∉ T ∧ .startTr ∉ T ∧ .stopTr ∉ T ∧ .meterV ∉ T)
    (hsent : ¬ t.sent Frame.authorizes) : ¬ Served s t := by
  rintro (hsent' | hnew | hnew | hnew | hnew)
  · exact hsent hsent'
  · rw [honly.csHist hT.1] at hnew
    exact not_inserted_self _ hnew
  · rw [honly.startTr hT.2.1] at hnew
    exact not_inserted_self _ hnew
  · rw [honly.stopTr hT.2.2.1] at hnew
    exact not_inserted_self _ hnew
  · rw [honly.meterV hT.2.2.2] at hnew
    exact not_inserted_self _ hnew

/-- A CALL other than a boot that is not storable serves nobody. -/
theorem unstorable_not_served (h : IsCall L payload uid action)
    (hboot : cstr action ≠ "BootNotification")
    (hnot : ¬ Storable L payload uid action) :
    ¬ Served s (s.after (onMessage L E con payload)) := by
  cases ha : OcppAction.ofName (cstr action) with
  | none =>
    have hsame : s.after (onMessage L E con payload) = s.start.state :=
      onMessage_unhandled h ha s.start
    rw [hsame]
    refine not_served_of_only (T := [.wire]) (Only.set_wire (by simp) s []) (by simp) ?_
    rintro ⟨d, hd, _⟩
    simp at hd
  | some a =>
    have hname : a ≠ .bootNotification := by
      rintro rfl
      have hfound := List.find?_some ha
      exact hboot (of_decide_eq_true hfound).symm
    obtain ⟨ds, hds⟩ := onMessage_call E con h ha s.start
    have hdone : Only [.chStations] s.start.state
          (a.process L E (callRequest con payload uid action) s.start).2.state ∧
        ∀ p, (a.process L E (callRequest con payload uid action) s.start).1 = some p →
          p.authorizes = false := by
      by_cases hload : a.loads L payload = true
      · by_cases hstoring : a.storing = true
        · apply process_short hstoring hload
          by_contra hlong
          have hlong' : 10 < (cstr uid).length := Nat.lt_of_not_le hlong
          exact hnot ⟨a, ha, hstoring, hload, hlong'⟩
        · exact process_not_storing (by simpa using hstoring) hname s.start
      · have hload' : a.loads L payload = false := by simpa using hload
        rw [process_unloaded a hload' s.start]
        exact ⟨Only.refl _, by simp⟩
    have honly : Only [.chStations, .requestQueue, .wire] s
        (s.after (onMessage L E con payload)) :=
      ((Only.set_wire (by simp) s []).trans (hdone.1.mono (by simp))).trans
        (hds.state.mono (by simp))
    refine not_served_of_only honly (by simp) ?_
    rintro ⟨d, hd, hauth⟩
    obtain ⟨k, u, p, hframe, hp⟩ := Frame.authorizes_iff.mp hauth
    obtain ⟨req, b, hparse, _, hb, hresult⟩ := sent_callResult hd hframe
    cases (parse_call con h).symm.trans hparse
    cases ha.symm.trans hb
    rw [hdone.2 p hresult] at hp
    cases hp

/-- A storable CALL serves whoever sent it. -/
theorem storable_served (s : Server) (con : Connection) (h : IsCall L payload uid action)
    (hstorable : Storable L payload uid action) :
    Served s (s.after (onMessage L Env.admitting con payload)) := by
  obtain ⟨a, ha, hstoring, hload, hlong⟩ := hstorable
  obtain ⟨ds, hds⟩ := onMessage_call Env.admitting con h ha s.start
  have hstored := process_stores (callRequest con payload uid action) hstoring
    hload hlong s.start
  have hhist : (s.after (onMessage L Env.admitting con payload)).csHist =
      (a.process L Env.admitting (callRequest con payload uid action)
        s.start).2.state.csHist := hds.state.csHist (by simp)
  refine Or.inr (Or.inl ?_)
  rw [hhist]
  exact hstored

end Served

/-- A CALL other than a boot serves a registered station only, whatever the
environment, exactly when the station is registered or the CALL is not
storable. -/
theorem served_registered_iff (L : Lib) (s : Server) (con : Connection) (payload : Text)
    {uid action : Text} (h : IsCall L payload uid action)
    (hboot : cstr action ≠ "BootNotification") :
    (∀ E, Served s (s.after (onMessage L E con payload)) → Registered s uid) ↔
      Registered s uid ∨ ¬ Storable L payload uid action := by
  constructor
  · intro hall
    by_contra hnot
    obtain ⟨hunregistered, hstorable⟩ := not_or.mp hnot
    exact hunregistered (hall Env.admitting
      (storable_served s con h (not_not.mp hstorable)))
  · intro hcases E hserved
    rcases hcases with hregistered | hnot
    · exact hregistered
    · exact absurd hserved (unstorable_not_served h hboot hnot)

/-- An Authorize of a station that is in no table. -/
def strangerCall : Text := "[2,\"0123456789a\",\"Authorize\",\x7b\"idTag\":\"T\"\x7d]"

/-- A library that reads it. -/
def strangerLib : Lib :=
  { Lib.parsing strangerCall [.int 2, .string "0123456789a", .string "Authorize", .other]
      (by decide) with
    loadAuthorize := fun _ => some ⟨sampleTag⟩ }

theorem strangerCall_isCall : IsCall strangerLib strangerCall "0123456789a" "Authorize" :=
  ⟨.other, by decide⟩

def oneStation : Server :=
  { Server.empty with
    chStations := ⟨[⟨1, .plain "GRS-0123456789" "" 1⟩], by decide, by decide⟩ }

/-- Where its station is registered it is served rightly. -/
theorem served_registered_iff_known :
    Served oneStation (oneStation.after (onMessage strangerLib .calm somePeer strangerCall)) ∧
      Registered oneStation "0123456789a" := by
  have hserved : Served oneStation
      (oneStation.after (onMessage strangerLib .calm somePeer strangerCall)) := by
    refine Or.inl ⟨⟨somePeer, .callResult 3 "0123456789a"
      (.authorize ⟨some 0, some "*", "Accepted"⟩), true⟩, ?_, rfl⟩
    decide
  exact ⟨hserved, (served_registered_iff strangerLib oneStation somePeer strangerCall
    strangerCall_isCall (by decide)).mpr
    (Or.inl ⟨⟨1, .plain "GRS-0123456789" "" 1⟩, by decide, by decide⟩) .calm hserved⟩

/-- It is authorized although no station is registered. -/
theorem stranger_served :
    ¬ (Served Server.empty (Server.empty.after
        (onMessage strangerLib .calm somePeer strangerCall)) →
      Registered Server.empty "0123456789a") := by
  intro h
  have hserved : Served Server.empty (Server.empty.after
      (onMessage strangerLib .calm somePeer strangerCall)) := by
    refine Or.inl ⟨⟨somePeer, .callResult 3 "0123456789a"
      (.authorize ⟨some 0, some "*", "Accepted"⟩), true⟩, ?_, rfl⟩
    decide
  obtain ⟨r, hr, _⟩ := h hserved
  cases hr

end UCLinux.Ocpp
