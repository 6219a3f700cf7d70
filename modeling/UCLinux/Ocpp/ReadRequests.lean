import Mathlib.Data.List.Dedup
import Mathlib.Data.List.Sort
import UCLinux.Ocpp.CentralRequests

/-!
The requests that read: what the browser and the phone ask for and are sent
back, with the queries behind them. A reply is the text that is sent or the
protobuf message whose bytes are.
-/

namespace UCLinux.Ocpp

open Sql Machine Server CentralOcppDB HistoryDB

/-- What `printf` makes of a format that comes without arguments; `none` where
it would look for one. -/
def printfText : Text → Option Text
  | [] => some []
  | '%' :: '%' :: rest => (printfText rest).map ('%' :: ·)
  | '%' :: _ => none
  | c :: rest => (printfText rest).map (c :: ·)

/-- The readings of one connector in one transaction. -/
structure TrData where
  sern : Text
  transid : Int
  connid : Int
  mvalues : List Text
  deriving DecidableEq, Repr

/-- A reply; `undefined` when `printf` reads an argument that is not there. -/
inductive Reply where
  | text (t : Text)
  | stations (list : List PCSItem)
  | statistics (list : List TrData)
  | undefined
  deriving DecidableEq, Repr

/-- `set_response_printf`: the text is the format. -/
def setResponsePrintf (str : Text) : Reply :=
  match printfText (cstr str) with
  | some t => .text t
  | none => .undefined

namespace HistoryDB

/-- A row of a history reply. -/
structure CSHistory where
  ts : Int
  ipAddr : Text
  action : Text
  csSts : Text
  errCode : Text
  rtValues : Text
  deriving DecidableEq, Repr

def readHistory (r : Row CSHist) : CSHistory where
  ts := r.cols.ts
  ipAddr := cstr r.cols.ipAddr
  action := cstr r.cols.action
  csSts := cstr r.cols.csSts
  errCode := cstr r.cols.errCode
  rtValues := cstr r.cols.rtValues

/-- The same columns of an altered query's row; the time is not cut to an
`int`. -/
def cellsHistory (row : List Cell) : CSHistory where
  ts := match row[(0 : Nat)]? with
    | some (.int n) => n
    | _ => cellInt row 0
  ipAddr := cellText row 1
  action := cellText row 2
  csSts := cellText row 3
  errCode := cellText row 4
  rtValues := cellText row 5

def allHistorySql (sern : Text) : Stmt :=
  [.sql "select TS,IPAddr,Action,CSSts,ErrCode,RTValues from CSHistTbl where  CSSerN='",
    .value (cstr sern), .sql "' and Action<>'MeterValues' order by TS desc "]

/-- The history rows of a serial number, the latest first. -/
def historyRows (sern : Text) (t : Table (noKey (α := CSHist))) : List (Row CSHist) :=
  (t.select fun r => r.cols.csSerN = cstr sern ∧ r.cols.action ≠ "MeterValues").insertionSort
    fun a b => b.cols.ts ≤ a.cols.ts

/-- The client id `cid` it is called with is not used. -/
def getAllChargeStationsHistory (E : Env) (_cid : Int) (sern : Text) :
    Act (List CSHistory) := do
  let opened ← createConnection E
  if opened then do
    let found ← CSHistTbl.read E (allHistorySql sern)
      (fun t => (historyRows sern t).map readHistory) cellsHistory
    pure found.rows
  else pure []

structure CSStatistics where
  transactionId : Int
  connectorId : Int
  meterValues : Text
  deriving DecidableEq, Repr

def transactionIdsSql (action sern : Text) : Stmt :=
  [.sql "SELECT CSSts FROM cshisttbl WHERE action='", .sql action, .sql "' and CSSerN='",
    .value (cstr sern), .sql "'"]

/-- The transaction ids that the history rows of an action carry. -/
def readTransactionIds (E : Env) (action sern : Text) : Act (Option (List Int)) := do
  let found ← CSHistTbl.read E (transactionIdsSql action sern)
    (fun t => (t.select fun r => r.cols.action = action ∧ r.cols.csSerN = cstr sern).map
      fun r => str2Int r.cols.csSts)
    (cellInt · 0)
  pure found.all

def meterValuesSql (trId : Int) (sern : Text) : Stmt :=
  [.sql "SELECT connectorId,MeterValue from metervtbl where transactionId=", .number trId,
    .sql " and CSSerN='", .value (cstr sern), .sql "'"]

def readMeterValues (E : Env) (sern : Text) (trId : Int) :
    Act (Fetched CSStatistics) :=
  MeterVTbl.read E (meterValuesSql trId sern)
    (fun t => (t.select fun r =>
      r.cols.transactionId = trId ∧ r.cols.csSerN = cstr sern).map fun r =>
        ⟨trId, wrap32 r.cols.connectorId, r.cols.meterValue⟩)
    (fun row => ⟨trId, cellInt row 0, cellText row 1⟩)

/-- The readings of one transaction after the other; an exception ends them. -/
def readAllMeterValues (E : Env) (sern : Text) : List Int → Act (List CSStatistics)
  | [] => pure []
  | trId :: trIds => do
    let found ← readMeterValues E sern trId
    if found.raised then pure found.rows
    else do
      let rest ← readAllMeterValues E sern trIds
      pure (found.rows ++ rest)

/-- As many stopped transactions are read as were started. The client id
`cid` it is called with is not used. -/
def getAllChargeStationsStatistics (E : Env) (_cid : Int) (sern : Text) :
    Act (List CSStatistics) := do
  let opened ← createConnection E
  if opened then do
    let started ← readTransactionIds E "StartTransaction" sern
    match started with
    | none => pure []
    | some v0 => do
      let stopped ← readTransactionIds E "StopTransaction" sern
      match stopped with
      | none => pure []
      | some v1 => readAllMeterValues E sern (v1.take v0.length)
  else pure []

/-- The connector shifted by 32 bits, plus the transaction, in an `int64_t`. -/
def statisticsKey (connectorId transactionId : Int) : Int :=
  (connectorId * 2 ^ 32 + transactionId).bmod (2 ^ 64)

/-- The key of the map the readings are collected in. -/
def CSStatistics.id (s : CSStatistics) : Int := statisticsKey s.connectorId s.transactionId

end HistoryDB

namespace CentralOcppDB

/-- The number of rows and the data; an exception leaves the number 0. -/
def getCSProfileFromDBBySern (E : Env) (sern : Text) : Act (Int × Text) := do
  let opened ← createConnection E
  if opened then do
    let profile ← getCSProfile E sern
    pure (profile.getD (0, []))
  else pure (0, [])

def getCSProfilesSql (cid : Int) : Stmt :=
  [.sql "SELECT profName FROM CSProfTbl where id IN(SELECT ProfID FROM CH_stations where ClientID = ",
    .number cid, .sql ")"]

/-- The profiles assigned to stations of a client. -/
def assignedProfiles (cid : Int) (s : Server) : List (Row CSProfile) :=
  s.csProf.select fun r =>
    s.chStations.rows.any fun st => st.cols.clientID = cid ∧ st.cols.profID = r.rowid

/-- Their number and their names, each with a comma behind it. -/
def getCSProfilesFromDBByCID (E : Env) (cid : Int) : Act (Int × Text) := do
  let opened ← createConnection E
  if opened then do
    let found ← query E.raises fun s =>
      some ((assignedProfiles cid s).map fun r => cstr r.cols.profName)
    pure ((found.rows.length : Int), found.rows.flatMap (· ++ ","))
  else pure (0, [])

end CentralOcppDB

/-- Items as they stand in a JSON array that is written with a blank behind
the last one. -/
def joinItems : List Text → Text
  | [] => []
  | [item] => item ++ " "
  | item :: items => item ++ "," ++ joinItems items

def stationText (it : PCSItem) : Text :=
  "\x7b\"sern\":\"" ++ cstr it.serialn ++ "\",\"objb\":\"" ++ cstr it.objb ++
    "\",\"ref\":\"" ++ cstr it.reference ++ "\",\"fwver\":\"" ++ cstr it.fwver ++
    "\",\"sts\":" ++ decimal it.status ++ "\x7d"

def historyText (h : CSHistory) : Text :=
  "\x7b\"o_act\":\"" ++ h.action ++ "\",\"cs_sts\":\"" ++ h.csSts ++ "\",\"ts\":" ++
    decimal h.ts ++ ",\"err_c\":\"" ++ h.errCode ++ "\",\"ip_a\":\"" ++ h.ipAddr ++
    "\",\"rtt\":\"" ++ h.rtValues ++ "\"\x7d"

section Handlers

variable (E : Env) (cid : Int) (user : Text)

def getChargeStationsFromCentral : Act Reply := do
  let (_, list) ← getAllChargeStations E cid true
  pure (.stations list)

def processChargeStationsHB : Act Reply := do
  let (_, list) ← getAllChargeStations E cid true
  pure (.text ("\x7b\"ChSs\":[" ++ joinItems (list.map stationText) ++ "]\x7d"))

def getChargeStationsHistory : Act Reply := do
  let v ← getAllChargeStationsHistory E cid user
  if v = [] then pure (setResponsePrintf "*")
  else pure (.text ("\x7b\"CsHist\":[" ++ joinItems (v.map historyText) ++ "]\x7d"))

/-- `(id >> 32) & 0xffffffff`, in an `int`. -/
def keyConnId (id : Int) : Int := wrap32 (id / 2 ^ 32 % 2 ^ 32)

/-- `id & 0xffffffff`, in an `int`. -/
def keyTransId (id : Int) : Int := wrap32 (id % 2 ^ 32)

/-- The readings by key, in the order of the keys. `reparse` gives the bytes of
a stored reading after it was parsed and written again. -/
def trDataList (reparse : Text → Text) (stats : List CSStatistics) : List TrData :=
  ((stats.map CSStatistics.id).dedup.insertionSort (· ≤ ·)).map fun id =>
    { sern := user
      transid := keyTransId id
      connid := keyConnId id
      mvalues := (stats.filter (·.id = id)).map fun s => reparse s.meterValues }

/-- The browser and the phone are sent the same. -/
def getChargeStationsStatistics (reparse : Text → Text) : Act Reply := do
  let stats ← getAllChargeStationsStatistics E cid user
  if trDataList user reparse stats = [] then pure (.text "*")
  else pure (.statistics (trDataList user reparse stats))

def getCsProfile : Act Reply := do
  let (rv, data) ← getCSProfileFromDBBySern E user
  pure (setResponsePrintf (if rv ≠ 0 then data else "*"))

/-- Without a profile the number the request carries is printed as a
string. -/
def getCsProfileByName : Act Reply := do
  let (rv, data) ← getCSProfileFromDBByProfName E user
  pure (if rv ≠ 0 then setResponsePrintf data else .undefined)

def getCsProfiles : Act Reply := do
  let (rv, data) ← getCSProfilesFromDBByCID E cid
  pure (setResponsePrintf (if rv ≠ 0 then data else "*"))

/-- The number of stations decides here, which also counts the stations of all
clients whose status was reset. -/
def getChargeStationsFromDBMob : Act Reply := do
  let (rv, list) ← getAllChargeStations E cid true
  pure (if 0 < rv then .stations list else .text "NOT")

/-- `Ocpp_SimpleCommand_GetProfile` of the phone. -/
def getProfileMob : Act Reply := do
  let (rv, data) ← getCSProfileFromDBBySern E user
  pure (.text (if rv ≠ 0 then "OCPP" ++ decimal 103 ++ decimal 203 ++ "|" ++ data else "*"))

end Handlers

/-- A request of a client that reads, without the serial number it comes
with. -/
inductive ReadRequest where
  | stationList
  | statusPoll
  | history
  | statistics
  | profile
  | profileList
  | mobileStationList
  | mobileProfile
  deriving DecidableEq, Repr

def ReadRequest.exec (reparse : Text → Text) (E : Env) (cid : Int) (user : Text) :
    ReadRequest → Act Reply
  | .stationList => getChargeStationsFromCentral E cid
  | .statusPoll => processChargeStationsHB E cid
  | .history => getChargeStationsHistory E cid user
  | .statistics => getChargeStationsStatistics E cid user reparse
  | .profile => getCsProfile E user
  | .profileList => getCsProfiles E cid
  | .mobileStationList => getChargeStationsFromDBMob E cid
  | .mobileProfile => getProfileMob E user

end UCLinux.Ocpp
