import UCLinux.Ocpp.Server

/-!
The history database: one row of CSHistTbl for every stored message, and a
row of StartTrTbl, StopTrTbl or MeterVTbl that refers to it. A function of the
database catches what its statements raise and returns what it had assigned
by then; inside, `none` is a raised exception.
-/

namespace UCLinux.Ocpp.HistoryDB

open Sql Machine Server

/-- A column of an altered query's row, read as an `int`. -/
def cellInt (row : List Cell) (i : Nat) : Int :=
  match row[i]? with
  | some (.int n) => wrap32 n
  | some (.text t) => str2Int t
  | _ => 0

/-- A column of an altered query's row, read as a string. -/
def cellText (row : List Cell) (i : Nat) : Text :=
  match row[i]? with
  | some (.text t) => cstr t
  | some (.int n) => decimal n
  | _ => []

def insertOcppHistorySql (req : OcppRequest) (rtt : RttOcpp) (sern : Text) : Stmt :=
  [.sql "INSERT INTO CSHistTbl (CSSerN,TS,IPAddr,Action,CSSts,ErrCode,RTValues) VALUES ('",
    .value (cstr sern), .sql "',", .number rtt.ts, .sql ",'", .value (cstr req.remoteIP),
    .sql "','", .value (cstr req.action), .sql "','", .value (cstr rtt.status),
    .sql "','", .value (cstr rtt.errCode), .sql "','", .value (cstr rtt.sensors),
    .sql "')"]

def ocppHistoryRow (req : OcppRequest) (rtt : RttOcpp) (sern : Text) : CSHist where
  csSerN := cstr sern
  ts := rtt.ts
  ipAddr := cstr req.remoteIP
  action := cstr req.action
  csSts := cstr rtt.status
  errCode := cstr rtt.errCode
  rtValues := cstr rtt.sensors

/-- The rowid of the history row, -1 without a serial number. -/
def insertOcppHistory2DB (E : Env) (req : OcppRequest) (rtt : RttOcpp) (sern : Text) :
    Act (Option (Int × RttOcpp)) :=
  if sern = [] then pure (some (-1, rtt))
  else do
    let id ← CSHistTbl.insert E (insertOcppHistorySql req rtt sern)
      (·.insert (ocppHistoryRow req rtt sern))
    pure (id.map fun n => (wrap32 n, { rtt with serNumber := sern }))

/-- The public function of the same name, which opens a connection. -/
def insertOcppHistory2DBConn (E : Env) (req : OcppRequest) (rtt : RttOcpp) (sern : Text) :
    Act Int := do
  let opened ← createConnection E
  if opened then do
    let id ← insertOcppHistory2DB E req rtt sern
    pure ((id.map Prod.fst).getD 0)
  else pure 0

def insertStartTransactionSql (histRowid : Int) (p : StartTransactionRequest) : Stmt :=
  [.sql "INSERT INTO StartTrTbl ( HRowId,connectorId,idTag,meterStart,reservationId,TS) VALUES (",
    .number histRowid, .sql ",", .number p.connectorId, .sql ",'",
    .value (cstr p.idTag.toText), .sql "',", .number p.meterStart, .sql ",",
    .number (p.reservationId.getD 0), .sql ",", .number (p.timestamp.tdiv 1000000),
    .sql ")"]

def startTrRow (histRowid : Int) (p : StartTransactionRequest) : StartTr where
  hRowId := histRowid
  connectorId := p.connectorId
  idTag := cstr p.idTag.toText
  meterStart := p.meterStart
  reservationId := p.reservationId.getD 0
  ts := p.timestamp.tdiv 1000000

/-- The rowid of the new row is the transaction id. -/
def insertStartTransactionReqMsg2DB (E : Env) (histRowid : Int)
    (p : StartTransactionRequest) : Act (Option Int) := do
  let id ← StartTrTbl.insert E (insertStartTransactionSql histRowid p)
    (·.insert (startTrRow histRowid p))
  pure (id.map wrap32)

def updateHistOnStartTransactionSql (rtt : RttOcpp) (histRowid : Int) : Stmt :=
  [.sql "UPDATE CSHistTbl SET CSSts='", .value (cstr rtt.status), .sql "',ErrCode='",
    .value (cstr rtt.errCode), .sql "' WHERE rowid=", .number histRowid]

def updateHistOnStartTransaction (E : Env) (rtt : RttOcpp) (histRowid : Int) :
    Act (Option Int) :=
  if rtt.serNumber = [] then pure (some (-1))
  else CSHistTbl.update E (updateHistOnStartTransactionSql rtt histRowid) fun r =>
    if r.rowid = histRowid then
      some { r.cols with csSts := cstr rtt.status, errCode := cstr rtt.errCode }
    else none

/-- Returns the transaction id, 0 when no row was inserted. -/
def onStartTransactionRequestMessage2DB (E : Env) (req : OcppRequest) (rtt : RttOcpp)
    (p : StartTransactionRequest) (sern : Text) : Act Int := do
  let opened ← createConnection E
  if opened then do
    let hist ← insertOcppHistory2DB E req rtt sern
    match hist with
    | none => pure 0
    | some (histRowid, rtt) =>
      if 0 < histRowid then do
        let id ← insertStartTransactionReqMsg2DB E histRowid p
        match id with
        | none => pure 0
        | some transactionId => do
          -- `rv` is assigned by now, so a failing UPDATE does not change it
          let _ ← updateHistOnStartTransaction E
            { rtt with errCode := decimal p.meterStart, status := decimal transactionId }
            histRowid
          pure transactionId
      else pure 0
  else pure 0

def PbSampledValue.ofEntry (v : SampledValueEntry) : PbSampledValue where
  value := v.value
  context := v.context.map SchemaEnum.toText
  format := v.format.map SchemaEnum.toText
  measurand := v.measurand.map SchemaEnum.toText
  phase := v.phase.map SchemaEnum.toText
  location := v.location.map SchemaEnum.toText
  unit := v.unit.map SchemaEnum.toText

/-- The protobuf record of a list of entries that keeps at most `limit`
sampled values of each. -/
def pbMeterValues (keep : List SampledValueEntry → List SampledValueEntry)
    (entries : List MeterValueEntry) : PbMeterValues :=
  ⟨entries.map fun v =>
    ⟨v.timestamp.tdiv 1000000, (keep v.sampledValue).map PbSampledValue.ofEntry⟩⟩

def insertStopTransactionSql : Stmt :=
  [.sql "INSERT INTO StopTrTbl (HRowId,transactionId,idTag,meterStop,TS,reason,transactionData) VALUES (?,?,?,?,?,?,?)"]

def stopTrRow (L : Lib) (histRowid : Int) (p : StopTransactionRequest) : StopTr where
  hRowId := histRowid
  transactionId := p.transactionId
  idTag := (p.idTag.map SchemaString.toText).getD []
  meterStop := p.meterStop
  ts := p.timestamp.tdiv 1000000
  reason := (p.reason.map SchemaEnum.toText).getD []
  transactionData := (p.transactionData.map (L.serialize ∘ pbMeterValues id)).getD []

def insertStopTransactionReqMsg2DB (L : Lib) (E : Env) (histRowid : Int)
    (p : StopTransactionRequest) : Act (Option Int) := do
  let id ← StopTrTbl.insert E insertStopTransactionSql (·.insert (stopTrRow L histRowid p))
  pure (id.map wrap32)

def onStopTransactionRequestMessage2DB (L : Lib) (E : Env) (req : OcppRequest)
    (rtt : RttOcpp) (p : StopTransactionRequest) (sern : Text) : Act Int := do
  let opened ← createConnection E
  if opened then do
    let hist ← insertOcppHistory2DB E req
      { rtt with errCode := decimal p.meterStop, status := decimal p.transactionId } sern
    match hist with
    | none => pure 0
    | some (histRowid, _) =>
      if 0 < histRowid then do
        let id ← insertStopTransactionReqMsg2DB L E histRowid p
        pure (id.getD 0)
      else pure 0
  else pure 0

/-- The first timestamp that is not 0 in seconds, 0 when there is none. -/
def firstSeconds (entries : List MeterValueEntry) : Int :=
  entries.foldl (fun gTs v =>
    if gTs = 0 then wrap32 ((v.timestamp.tdiv 1000000).tdiv 1000) else gTs) 0

def lastFlagSql (csSern : Text) : Stmt :=
  [.sql "SELECT Flag from MeterVTbl where CSSerN='", .value csSern,
    .sql "' order by ROWID DESC limit 1"]

def insertMeterValuesSql : Stmt :=
  [.sql "INSERT INTO MeterVTbl (CSSerN,HRowId,transactionId,connectorId,MeterValue,Flag) VALUES (?,?,?,?,?,?)"]

def meterVRow (L : Lib) (histRowid : Int) (csSern : Text) (p : MeterValuesRequest) :
    MeterV where
  csSerN := csSern
  hRowId := histRowid
  transactionId := p.transactionId.getD 0
  connectorId := p.connectorId
  -- only the first sampled value of an entry is kept
  meterValue := L.serialize (pbMeterValues (List.take 1) p.meterValue)
  flag := firstSeconds p.meterValue

def insertMeterValuesReqMsg2DB (L : Lib) (E : Env) (histRowid : Int) (csSern : Text)
    (p : MeterValuesRequest) : Act (Option Int) :=
  let gTs := firstSeconds p.meterValue
  if 0 < gTs then do
    let flags ← MeterVTbl.read E (lastFlagSql csSern)
      (fun t => (((t.select (·.cols.csSerN = csSern)).getLast?).map
        (fun r => wrap32 r.cols.flag)).toList)
      (cellInt · 0)
    match flags.all with
    | none => pure none
    | some flags =>
      let tsFlag := flags.getLast?.getD (-1)
      if tsFlag = -1 ∨ 120 ≤ gTs - tsFlag then do
        let id ← MeterVTbl.insert E insertMeterValuesSql
          (·.insert (meterVRow L histRowid csSern p))
        pure (id.map wrap32)
      else pure (some 0)
  else pure (some 0)

def onMeterValuesRequestMessage2DB (L : Lib) (E : Env) (req : OcppRequest)
    (rtt : RttOcpp) (p : MeterValuesRequest) (sern : Text) : Act Int := do
  let opened ← createConnection E
  if opened then do
    let hist ← insertOcppHistory2DB E req rtt sern
    match hist with
    | none => pure 0
    | some (histRowid, rtt) =>
      if 0 < histRowid then do
        let id ← insertMeterValuesReqMsg2DB L E histRowid (cstr rtt.serNumber) p
        pure (id.getD 0)
      else pure 0
  else pure 0

def clearHistorySql (sern : Text) : Stmt :=
  [.sql "DELETE FROM CSHistTbl where CSSerN='", .value (cstr sern), .sql "' "]

/-- The client id `cid` it is called with is not used, and the rows of the
other tables that refer to the deleted ones stay. -/
def clearAllChargeStationsHistory (E : Env) (_cid : Int) (sern : Text) : Act Int := do
  let opened ← createConnection E
  if opened then do
    let deleted ← CSHistTbl.delete E (clearHistorySql sern) fun r => r.cols.csSerN = cstr sern
    pure (if deleted.isSome then 1 else 0)
  else pure 0

end UCLinux.Ocpp.HistoryDB
