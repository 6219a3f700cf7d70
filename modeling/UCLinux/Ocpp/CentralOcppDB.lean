import UCLinux.Ocpp.HistoryDB

/-!
The central database: the stations and the charging profiles. As in the
history database, `none` is a raised exception inside a function that works on
an open connection, and the functions that open one catch it. What such a
function had assigned to a reference parameter before a statement raised stays
assigned.
-/

namespace UCLinux.Ocpp.CentralOcppDB

open Sql Machine Server HistoryDB

/-- What looking a station up by the uid of a message leaves behind: the
client id (`none` when the SELECT raised), the serial number, the request. -/
structure SernLookup where
  cid : Option Int
  sern : Text
  req : OcppRequest

def sernOfUid (uid : Text) : Text := "GRS-" ++ uid.take 10

def getSerNumberSql (sern : Text) : Stmt :=
  [.sql "Select ClientID,CertFlag from CH_STATIONS where CSSerN='", .value (cstr sern),
    .sql "'"]

/-- The serial number is made of the uid before the table is asked. -/
def getSerNumberByIPAddr (E : Env) (req : OcppRequest) : Act SernLookup :=
  if 10 < req.uniqueID.length then do
    let sern := sernOfUid req.uniqueID
    let found ← CH_STATIONS.read E (getSerNumberSql sern)
      (fun t => (t.select (·.cols.csSerN = cstr sern)).map
        fun r => (wrap32 r.cols.clientID, wrap32 r.cols.certFlag))
      (fun row => (cellInt row 0, cellInt row 1))
    match found.first with
    | none => pure ⟨none, sern, req⟩
    | some none => pure ⟨some 0, sern, req⟩
    | some (some (cid, certFlags)) =>
      pure ⟨some cid, sern, { req with certFlags := certFlags, sern := sern }⟩
  else pure ⟨some 0, [], req⟩

/-- The integer reported as imsi, whose bit 2 is the certification flag. -/
def bootFlags (rtt : RttOcpp) : Int :=
  match split rtt.sensors '|' with
  | _ :: v :: _ => str2Int v
  | _ => 0

def updateIPAddrSql (req : OcppRequest) (rtt : RttOcpp) : Stmt :=
  [.sql "UPDATE CH_STATIONS SET IPAddr='", .value (cstr req.remoteIP),
    .sql "',LastUpdtdTS=", .number rtt.ts,
    .sql (if bit2 (bootFlags rtt) then ",Status=1,CertFlag = CertFlag | 4"
      else ",Status=1,CertFlag = CertFlag & ~4")] ++
  if rtt.fwVer = [] then []
  else [.sql " ,FWVer='", .value (cstr rtt.fwVer), .sql "'  WHERE CSSerN='",
    .value (cstr rtt.serNumber), .sql "'"]

def bootColumns (req : OcppRequest) (rtt : RttOcpp) (c : ChStation) : ChStation :=
  { c with
    ipAddr := cstr req.remoteIP
    lastUpdtdTS := rtt.ts
    status := 1
    certFlag := if bit2 (bootFlags rtt) then setBit2 c.certFlag else clearBit2 c.certFlag
    fwVer := if rtt.fwVer = [] then c.fwVer else some (cstr rtt.fwVer) }

/-- The row filter is part of the text that is only added for a firmware
version. -/
def bootRow (req : OcppRequest) (rtt : RttOcpp) (r : Row ChStation) : Option ChStation :=
  if rtt.fwVer = [] ∨ r.cols.csSerN = cstr rtt.serNumber then
    some (bootColumns req rtt r.cols)
  else none

def updateIPAddrFromOcppMessage2DB (E : Env) (req : OcppRequest) (rtt : RttOcpp) :
    Act (Option Int) :=
  CH_STATIONS.update E (updateIPAddrSql req rtt) (bootRow req rtt)

def objBText (req : OcppRequest) (rtt : RttOcpp) : Text :=
  req.action ++ "," ++ rtt.status ++ "," ++ rtt.errCode ++ "," ++ rtt.sensors

def updateCSObjBSql (req : OcppRequest) (rtt : RttOcpp) : Stmt :=
  [.sql "UPDATE CH_STATIONS SET ObjB='", .value (cstr (objBText req rtt)),
    .sql "',LastUpdtdTS=", .number rtt.ts, .sql ",UpdMob=1  WHERE CSSerN='",
    .value (cstr rtt.serNumber), .sql "'"]

def updateCSObjBFromOcppMessage2DB (E : Env) (req : OcppRequest) (rtt : RttOcpp) :
    Act (Option Int) :=
  CH_STATIONS.update E (updateCSObjBSql req rtt) fun r =>
    if r.cols.csSerN = cstr rtt.serNumber then
      some { r.cols with
        objB := cstr (objBText req rtt), lastUpdtdTS := rtt.ts, updMob := some 1 }
    else none

def fwReferenceText (status : Text) (ts : Int) : Text :=
  cstr status ++ "," ++ decimal (wrapU64 ts)

def updateCSFWUpdateSql (sern status : Text) (ts : Int) : Stmt :=
  [.sql "UPDATE CH_STATIONS SET Reference='", .value (fwReferenceText status ts),
    .sql "'  WHERE CSSerN='", .value (cstr sern), .sql "'"]

def updateCSFWUpdateFromOcppMessage2DB (E : Env) (sern status : Text) (ts : Int) :
    Act (Option Int) :=
  CH_STATIONS.update E (updateCSFWUpdateSql sern status ts) fun r =>
    if r.cols.csSerN = cstr sern then
      some { r.cols with reference := fwReferenceText status ts }
    else none

/-- The serial number a message is stored under, with the request and the
record as they are left. -/
structure Preprocessed where
  sern : Text
  req : OcppRequest
  rtt : RttOcpp

def preprocessOcppMessage2DB (E : Env) (req : OcppRequest) (rtt : RttOcpp)
    (requireIPaddrUpdate : Bool) (stsType : StatusNotificationType) :
    Act Preprocessed := do
  let opened ← createConnection E
  if opened then
    if requireIPaddrUpdate then do
      let rv ← updateIPAddrFromOcppMessage2DB E req rtt
      match rv with
      | none => pure ⟨[], req, rtt⟩
      | some n => do
        let sern := if 0 < n then rtt.serNumber else []
        let found ← getSerNumberByIPAddr E req
        match found.cid with
        | none => pure ⟨sern, found.req, rtt⟩
        | some cid => pure ⟨sern, found.req, { rtt with cid := cid }⟩
    else do
      let found ← getSerNumberByIPAddr E req
      match found.cid with
      | none => pure ⟨found.sern, found.req, rtt⟩
      | some cid => do
        let rtt := { rtt with serNumber := found.sern, cid := cid }
        -- the row count and an exception of these are not looked at
        match stsType with
        | .status => let _ ← updateCSObjBFromOcppMessage2DB E found.req rtt
        | .firmware =>
          let _ ← updateCSFWUpdateFromOcppMessage2DB E found.sern rtt.status rtt.ts
        | .none => pure ()
        pure ⟨found.sern, found.req, rtt⟩
  else pure ⟨[], req, rtt⟩

def insertOcppMessage2DB (E : Env) (req : OcppRequest) (rtt : RttOcpp)
    (requireIPaddrUpdate : Bool) (stsType : StatusNotificationType) : Act Int := do
  let pre ← preprocessOcppMessage2DB E req rtt requireIPaddrUpdate stsType
  if pre.sern = [] then pure 0
  else insertOcppHistory2DBConn E pre.req pre.rtt pre.sern

def updateOcppHBSql (sern : Text) (rtt : RttOcpp) : Stmt :=
  [.sql "UPDATE CH_STATIONS SET LastUpdtdTS=", .number rtt.ts,
    .sql ",Status=1,UpdMob=1  WHERE CSSerN='", .value (cstr sern), .sql "'"]

def updateOcppHBRequestMessage2DB (E : Env) (req : OcppRequest) (rtt : RttOcpp) :
    Act Int := do
  let opened ← createConnection E
  if opened then do
    let found ← getSerNumberByIPAddr E req
    if found.cid.isSome ∧ found.sern ≠ [] then do
      let rv ← CH_STATIONS.update E (updateOcppHBSql found.sern rtt) fun r =>
        if r.cols.csSerN = cstr found.sern then
          some { r.cols with lastUpdtdTS := rtt.ts, status := 1, updMob := some 1 }
        else none
      pure (rv.getD 0)
    else pure 0
  else pure 0

/-- The loaded request a message is stored from. -/
inductive LoadedRequest where
  | startTransaction (p : StartTransactionRequest)
  | stopTransaction (p : StopTransactionRequest)
  | meterValues (p : MeterValuesRequest)
  | other

def insertOcppRequestMessage2DB (L : Lib) (E : Env) (req : OcppRequest) (rtt : RttOcpp)
    (ptr : LoadedRequest) : Act Int := do
  match rtt.dbType, ptr with
  | .startTransaction, .startTransaction p =>
    let pre ← preprocessOcppMessage2DB E req rtt false .none
    if pre.sern = [] then pure 0
    else onStartTransactionRequestMessage2DB E pre.req pre.rtt p pre.sern
  | .stopTransaction, .stopTransaction p =>
    let pre ← preprocessOcppMessage2DB E req rtt false .none
    if pre.sern = [] then pure 0
    else onStopTransactionRequestMessage2DB L E pre.req pre.rtt p pre.sern
  | .meterValues, .meterValues p =>
    let pre ← preprocessOcppMessage2DB E req rtt false .none
    if pre.sern = [] then pure 0
    else onMeterValuesRequestMessage2DB L E pre.req pre.rtt p pre.sern
  | .logMsg, _ =>
    let pre ← preprocessOcppMessage2DB E req rtt false .none
    if pre.sern = [] then pure 0
    else insertOcppHistory2DBConn E pre.req pre.rtt pre.sern
  | _, _ => pure 0

def getIPAddrSql (serN : Text) : Stmt :=
  [.sql "Select IPAddr from CH_STATIONS where CSSerN='", .value (cstr serN), .sql "'"]

/-- The endpoint stored for a serial number, empty when there is none. -/
def getIPAddrBySerNumber (E : Env) (serN : Text) (fwUpdateRequest : Bool) : Act Text := do
  let opened ← createConnection E
  if opened then do
    let found ← CH_STATIONS.read E (getIPAddrSql serN)
      (fun t => (t.select (·.cols.csSerN = cstr serN)).map fun r => cstr r.cols.ipAddr)
      (cellText · 0)
    match found.first with
    | none => pure []
    | some ip =>
      if fwUpdateRequest ∧ serN ≠ [] then do
        let ts ← clockNow E
        let _ ← updateCSFWUpdateFromOcppMessage2DB E serN "Started" ts
        pure (ip.getD [])
      else pure (ip.getD [])
  else pure []

def updateCSTimeZoneSql (sern : Text) (tz dls : Int) : Stmt :=
  [.sql "UPDATE CH_STATIONS SET TZ=", .number tz, .sql ",DLS=", .number dls,
    .sql ",UpdMob=1  WHERE CSSerN='", .value (cstr sern), .sql "'"]

def updateCSTimeZone (E : Env) (sern : Text) (tz dls : Int) : Act Int := do
  let opened ← createConnection E
  if opened ∧ sern ≠ [] then do
    let rv ← CH_STATIONS.update E (updateCSTimeZoneSql sern tz dls) fun r =>
      if r.cols.csSerN = cstr sern then
        some { r.cols with tz := some tz, dls := some dls, updMob := some 1 }
      else none
    pure (rv.getD 0)
  else pure 0

def updateCSStationsWithProfileSql (profileId cid : Int) (sern : Text) : Stmt :=
  if sern = "*" then
    [.sql "UPDATE CH_STATIONS SET ProfID=", .number profileId,
      .sql ",UpdMob=1  WHERE ClientID=", .number cid]
  else
    [.sql "UPDATE CH_STATIONS SET ProfID=", .number profileId,
      .sql ",UpdMob=1  WHERE CSSerN='", .value (cstr sern), .sql "' and ClientID=",
      .number cid]

def updateCSStationsWithProfile (E : Env) (profileId cid : Int) (sern : Text) :
    Act (Option Int) :=
  if sern = [] then pure (some 0)
  else CH_STATIONS.update E (updateCSStationsWithProfileSql profileId cid sern) fun r =>
    if (sern = "*" ∨ r.cols.csSerN = cstr sern) ∧ r.cols.clientID = cid then
      some { r.cols with profID := profileId, updMob := some 1 }
    else none

def removeChargingProfileSql (sern : Text) : Stmt :=
  [.sql "UPDATE CH_STATIONS SET ProfID=0,UpdMob=1  WHERE CSSerN='", .value (cstr sern),
    .sql "'"]

def removeChargingProfilefromCS (E : Env) (sern : Text) : Act Int := do
  let opened ← createConnection E
  if opened then do
    let rv ← CH_STATIONS.update E (removeChargingProfileSql sern) fun r =>
      if r.cols.csSerN = cstr sern then
        some { r.cols with profID := 0, updMob := some 1 }
      else none
    pure (rv.getD 0)
  else pure 0

def getCSProfileIDSql : Stmt :=
  [.sql "SELECT id from csproftbl order by ID DESC limit 1"]

/-- The largest profile ID, 0 in an empty table. -/
def getCSProfileID (E : Env) : Act (Option Int) := do
  let found ← CSProfTbl.read E getCSProfileIDSql
    (fun t => (t.rows.getLast?.map fun r => wrap32 r.rowid).toList) (cellInt · 0)
  pure (found.first.map fun id => id.getD 0)

def updateCSProfSql (cid profileId : Int) (profName json : Text) (ts : Int) : Stmt :=
  [.sql "UPDATE CSProfTbl SET ClientID=", .number cid, .sql ",profName='",
    .value (cstr profName), .sql "',TS=", .number ts, .sql ",data='",
    .value (cstr json), .sql "'  WHERE id=", .number profileId]

def insertCSProfSql (id cid : Int) (profName json : Text) (ts : Int) : Stmt :=
  [.sql "INSERT INTO CSProfTbl (ID, profName,TS,data,ClientID) VALUES (", .number id,
    .sql ",'", .value (cstr profName), .sql "',", .number ts, .sql ",'",
    .value (cstr json), .sql "',", .number cid, .sql ")"]

def csProfRow (cid : Int) (profName json : Text) (ts : Int) : CSProfile where
  profName := cstr profName
  ts := ts
  data := cstr json
  clientID := cid

/-- Saving a profile. The counts and the new ID are returned also when the
statement that follows them raises. -/
def insertOrUpdateCSProf2DB (E : Env) (cid profileId : Int)
    (profName assignToSern json : Text) : Act Int := do
  let opened ← createConnection E
  if opened then do
    let ts ← clockNow E
    if 0 < profileId then do
      let rv ← CSProfTbl.update E (updateCSProfSql cid profileId profName json ts) fun r =>
        if r.rowid = profileId then some (csProfRow cid profName json ts) else none
      match rv with
      | none => pure 0
      | some n => do
        let _ ← updateCSStationsWithProfile E profileId cid assignToSern
        pure n
    else do
      let last ← getCSProfileID E
      match last with
      | none => pure 0
      | some last => do
        let rv := if last = 0 ∧ profileId = -1 then 1 else last
        if 0 < rv then do
          let id := wrap32 (rv + 1)
          let _ ← CSProfTbl.insert E (insertCSProfSql id cid profName json ts)
            (·.insertAt id (csProfRow cid profName json ts))
          pure id
        else pure rv
  else pure 0

def getCSProfileSql (sern : Text) : Stmt :=
  [.sql "SELECT data FROM CSProfTbl where id=(select ProfID from CH_Stations where CSSerN='",
    .value (cstr sern), .sql "')"]

/-- The data of the profile assigned to a station: the number of rows read
and the last one. -/
def getCSProfile (E : Env) (sern : Text) : Act (Option (Int × Text)) :=
  if sern = [] then pure (some (0, []))
  else do
    let found ← query E.raises fun s =>
      if (getCSProfileSql sern).QuoteFree then
        let assigned := (s.chStations.select (·.cols.csSerN = cstr sern)).head?
        some ((s.csProf.select fun r => assigned.any (·.cols.profID = r.rowid)).map
          fun r => cstr r.cols.data)
      else (E.csProf.select (getCSProfileSql sern).text s.csProf).map
        (List.map (cellText · 0))
    pure (found.all.map fun rows => ((rows.length : Int), rows.getLast?.getD []))

/-- `getCSProfileFromDBByIp`: the number of rows, the data and the request. -/
def getCSProfileFromDBByIp (E : Env) (req : OcppRequest) :
    Act (Int × Text × OcppRequest) := do
  let opened ← createConnection E
  if opened then do
    let found ← getSerNumberByIPAddr E req
    match found.cid with
    | none => pure (0, [], found.req)
    | some _ => do
      let profile ← getCSProfile E found.sern
      match profile with
      | none => pure (0, [], found.req)
      | some (rv, data) => pure (rv, data, found.req)
  else pure (0, [], req)

def getCSProfileByProfNameSql (profName : Text) : Stmt :=
  [.sql "SELECT data FROM CSProfTbl where profName='", .value (cstr profName), .sql "'"]

/-- The data of the last profile of a name; rows read before an exception
count. -/
def getCSProfileFromDBByProfName (E : Env) (profName : Text) : Act (Int × Text) := do
  let opened ← createConnection E
  if opened then do
    let found ← CSProfTbl.read E (getCSProfileByProfNameSql profName)
      (fun t => (t.select (·.cols.profName = cstr profName)).map fun r => cstr r.cols.data)
      (cellText · 0)
    pure ((found.rows.length : Int), found.rows.getLast?.getD [])
  else pure (0, [])

def updateChargeStationStatusSql (fieldName fieldValue : Text) (status : Int) : Stmt :=
  [.sql "UPDATE CH_STATIONS SET Status=", .number status, .sql "  WHERE ",
    .sql fieldName, .sql "='", .value (cstr fieldValue), .sql "'"]

/-- `field` is the column `fieldName` names. -/
def updateChargeStationStatus (E : Env) (fieldName : Text) (field : ChStation → Text)
    (fieldValue : Text) (status : Int) : Act Int := do
  let opened ← createConnection E
  if opened then do
    let rv ← CH_STATIONS.update E (updateChargeStationStatusSql fieldName fieldValue status)
      fun r =>
        if field r.cols = cstr fieldValue then some { r.cols with status := status }
        else none
    pure (rv.getD 0)
  else pure 0

def deleteChargeStationSql (sern : Text) : Stmt :=
  [.sql "UPDATE CH_STATIONS SET ClientID=0  WHERE CSSerN='", .value (cstr sern),
    .sql "'"]

/-- The client id `cid` it is called with is not used. -/
def deleteChargeStation (E : Env) (sern : Text) (_cid : Int) : Act Int := do
  let opened ← createConnection E
  if opened then do
    let rv ← CH_STATIONS.update E (deleteChargeStationSql sern) fun r =>
      if r.cols.csSerN = cstr sern then some { r.cols with clientID := 0 } else none
    pure (rv.getD 0)
  else pure 0

/-- The protobuf record of a station. -/
structure PCSItem where
  id : Int
  type : Int
  caller : Text
  param1 : Text
  reference : Text
  serialn : Text
  address : Text
  instrs : Text
  certflag : Int
  createdts : Int
  lastupdtdts : Int
  status : Int
  servicegroup : Int
  clientid : Int
  lat : UInt64
  lon : UInt64
  profid : Int
  objb : Text
  ipaddr : Text
  fwver : Text
  tz : Int
  dls : Int
  deriving DecidableEq, Repr

def readChS (r : Row ChStation) : PCSItem where
  id := r.rowid
  serialn := cstr r.cols.csSerN
  caller := cstr r.cols.caller
  param1 := cstr r.cols.param1
  reference := cstr r.cols.reference
  type := wrap32 r.cols.type
  address := cstr r.cols.address
  instrs := cstr r.cols.instrs
  certflag := wrap32 r.cols.certFlag
  createdts := r.cols.createdTS
  lastupdtdts := r.cols.lastUpdtdTS
  lat := r.cols.latitude
  lon := r.cols.longitude
  clientid := wrap32 r.cols.clientID
  status := wrap32 r.cols.status
  servicegroup := wrap32 r.cols.serviceGroup
  profid := wrap32 r.cols.profID
  objb := cstr r.cols.objB
  ipaddr := cstr r.cols.ipAddr
  fwver := cstr (r.cols.fwVer.getD [])
  tz := wrap32 (r.cols.tz.getD 0)
  dls := wrap32 (r.cols.dls.getD 0)

/-- Reading a row into the reply; the id is the row's unless `ridit`
overrides it. -/
def readChS1 (E : Env) (r : Row ChStation) : Act (PCSItem × Int) := do
  let answer ← Action.ask E.ridit
  let id1 := if answer = -1 then 0 else answer
  let item := readChS r
  pure (item, if id1 = 0 then wrap32 item.id else id1)

def readAll (E : Env) : List (Row ChStation) → Act (List (PCSItem × Int))
  | [] => pure []
  | r :: rs => do
    let first ← readChS1 E r
    let rest ← readAll E rs
    pure (first :: rest)

def staleSql (ts : Int) : Stmt :=
  [.sql "UPDATE CH_STATIONS SET status=0,UpdMob=1 WHERE LastUpdtdTS < ", .number ts,
    .sql " and status > 0"]

def allChargeStationsSql (cid : Int) : Stmt :=
  .sql " SELECT ROWID,* FROM CH_STATIONS " ::
    if 0 < cid then [.sql " WHERE ClientID = ", .number cid, .sql " "] else []

/-- `GetAllChargeStations`: the number of stations read and the list. -/
def getAllChargeStations (E : Env) (cid : Int) (withStatusUpdate : Bool) :
    Act (Int × List PCSItem) := do
  let opened ← createConnection E
  if opened then do
    let swept ← if withStatusUpdate then do
        let now ← clockNow E
        let ts := now - 2 * 60 * 1000
        CH_STATIONS.update E (staleSql ts) fun r =>
          if r.cols.lastUpdtdTS < ts ∧ 0 < r.cols.status then
            some { r.cols with status := 0, updMob := some 1 }
          else none
      else pure (some 0)
    match swept with
    | none => pure (0, [])
    | some n => do
      let found ← query E.raises fun s =>
        some (s.chStations.select fun r => cid ≤ 0 ∨ r.cols.clientID = cid)
      let items ← readAll E found.rows
      pure (n + (items.length : Int), items.map Prod.fst)
  else pure (0, [])

def updMobSql (cid : Int) : Stmt :=
  [.sql "SELECT ROWID,* FROM CH_STATIONS WHERE UpdMob=1 and ClientID=", .number cid]

def idList : List Int → Stmt
  | [] => []
  | [id] => [.number id]
  | id :: ids => [.number id, .sql ","] ++ idList ids

def clearUpdMobSql (ids : List Int) (cid : Int) : Stmt :=
  .sql "UPDATE CH_STATIONS SET UpdMob=0 WHERE rowid IN(" :: idList ids ++
    [.sql ") and ClientID=", .number cid]

/-- `GetAllChargeStations_UpdMob`: the stations whose flag is up, which is
then cleared for the ids read. -/
def getAllChargeStationsUpdMob (E : Env) (cid : Int) : Act (Int × List PCSItem) := do
  let opened ← createConnection E
  if opened then do
    let found ← query E.raises fun s =>
      some (s.chStations.select fun r => r.cols.updMob = some 1 ∧ r.cols.clientID = cid)
    let items ← readAll E found.rows
    let list := items.map Prod.fst
    let ids := items.map Prod.snd
    if found.raised ∨ ids = [] then pure ((items.length : Int), list)
    else do
      let rv ← CH_STATIONS.update E (clearUpdMobSql ids cid) fun r =>
        if r.rowid ∈ ids ∧ r.cols.clientID = cid then
          some { r.cols with updMob := some 0 }
        else none
      pure (rv.getD (items.length : Int), list)
  else pure (0, [])

def insertCSISql : Stmt :=
  [.sql " INSERT INTO CH_STATIONS (CSSerN,Caller,Param1,Reference,Type,Address,Instrs,CertFlag,CreatedTS,LastUpdtdTS,Latitude,Longitude,ClientID,Status,serviceGroup,ProfID,ObjB,IPAddr) VALUES (?,?,?,?,?,?,?,?,?,?,?,?,?,?,?,?,?,?)"]

/-- The row `SetParams` binds. -/
def setParams (wi : PCSItem) (flags : Int) : ChStation where
  csSerN := wi.serialn
  caller := wi.caller
  param1 := wi.param1
  reference := wi.reference
  type := wi.type
  address := wi.address
  instrs := wi.instrs
  certFlag := flags
  createdTS := wi.createdts
  lastUpdtdTS := wi.lastupdtdts
  latitude := wi.lat
  longitude := wi.lon
  clientID := wi.clientid
  status := wi.status
  serviceGroup := wi.servicegroup
  profID := wi.profid
  objB := wi.objb
  ipAddr := wi.ipaddr
  fwVer := none
  tz := none
  dls := none
  updMob := none

def insertCSI (E : Env) (wi : PCSItem) (flags : Int) : Act (Option Int) :=
  CH_STATIONS.insert E insertCSISql (·.insert (setParams wi flags))

/-- `(flags & ~3) | (certflag & 3)` -/
def claimFlags (flags certflag : Int) : Int := flags - flags % 4 + certflag % 4

def certFlagSql (sern : Text) : Stmt :=
  [.sql "SELECT CertFlag FROM CH_STATIONS WHERE CSSerN='", .value (cstr sern), .sql "'"]

def claimSql (cid flags : Int) (sern : Text) : Stmt :=
  [.sql "UPDATE CH_STATIONS SET ClientID=", .number cid, .sql ",CertFlag=", .number flags,
    .sql "  WHERE ClientID=0 and CSSerN='", .value (cstr sern), .sql "'"]

/-- An unclaimed row of the serial number is claimed, else a row is
inserted. -/
def insertNewChargeStationItem (E : Env) (wi : PCSItem) : Act Int := do
  let opened ← createConnection E
  if opened then do
    let found ← CH_STATIONS.read E (certFlagSql wi.serialn)
      (fun t => (t.select (·.cols.csSerN = cstr wi.serialn)).map
        fun r => wrap32 r.cols.certFlag)
      (cellInt · 0)
    match found.all with
    | none => pure 0
    | some read => do
      let flags := claimFlags (read.getLast?.getD 0) wi.certflag
      let rv ← CH_STATIONS.update E (claimSql wi.clientid flags wi.serialn) fun r =>
        if r.cols.clientID = 0 ∧ r.cols.csSerN = cstr wi.serialn then
          some { r.cols with clientID := wi.clientid, certFlag := flags }
        else none
      match rv with
      | none => pure 0
      | some 0 => do
        let id ← insertCSI E wi flags
        pure (id.getD 0)
      | some n => pure n
  else pure 0

end UCLinux.Ocpp.CentralOcppDB
