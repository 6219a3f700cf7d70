import UCLinux.Ocpp.CentralRequests

/-!
Messages from a charge point: reading the frame, the ten actions of a CALL
with their answers, and the confirmations of the server's own requests.
`none` is a C++ exception that reaches `processOCPPIncoming`.
-/

namespace UCLinux.Ocpp

open Sql Machine Server CentralOcppDB

/-- The loop over the elements of the array: the last integer read before the
action is the call id, the string after the first integer the uid, the next
string after two the action. -/
def parseElements (req : OcppRequest) : Nat → List Element → OcppRequest
  | _, [] => req
  | ind, .int n :: vs => parseElements { req with callID := n } (ind + 1) vs
  | ind, .string s :: vs =>
    if ind = 1 then parseElements { req with uniqueID := cstr s } (ind + 1) vs
    else if ind = 2 then { req with action := cstr s }
    else parseElements req ind vs
  | ind, .other :: vs => parseElements req ind vs

def parseOCPPRequest (L : Lib) (req : OcppRequest) : Option OcppRequest :=
  (L.parse (cstr req.reqStr)).map (parseElements req 0)

/-- The text of the first `{` to the last `}`, as `substr` cuts it: from the
first `{` to the end when the last `}` stands two or more before it. -/
def doSimpleExtract (s : Text) : Text :=
  if '{' ∈ s ∧ '}' ∈ s then
    let first := s.findIdx (· = '{')
    let last := s.length - 1 - s.reverse.findIdx (· = '}')
    if first ≤ last + 1 then (s.drop first).take (last + 1 - first) else s.drop first
  else "{}"

section Responses

variable (E : Env)

def createAuthorizeResponse (auSts : AuthorizationStatus) : Act Payload := do
  let now ← clockNow E
  pure (.authorize
    ⟨some now, some "*", if auSts = .invalid then "Invalid" else "Accepted"⟩)

/-- The test that should tell a rejection from a pending registration is on a
constant, so every status but `accepted` is answered Rejected. -/
def createBootNotificationResponse (rSts : RegistrationStatus) : Act Payload := do
  let now ← clockNow E
  pure (.bootNotification now 60 (if rSts = .accepted then "Accepted" else "Rejected"))

def createStartTransactionResponse (transactionId : Int) : Act Payload := do
  let now ← clockNow E
  pure (.startTransaction ⟨some now, some "12", "Accepted"⟩ transactionId)

def createStopTransactionResponse : Act Payload := do
  let now ← clockNow E
  pure (.stopTransaction ⟨some now, some "12", "Accepted"⟩)

def createHeartbeatResponse : Act Payload := do
  let now ← clockNow E
  pure (.heartbeat now)

def createDataTransferResponse (sts : Text) : Act Payload :=
  pure (.dataTransferResponse sts)

def createEmptyResponse : Act Payload := pure (.raw "{}")

end Responses

section Actions

variable (L : Lib) (E : Env) (req : OcppRequest)

/-- Storing a message; the receive time replaces the record's. -/
def insertOcppReqMsg2DB (rtt : RttOcpp) (dbType : OcppDbType) (ptr : LoadedRequest)
    (updateHbFlag : Bool) : Act Int := do
  let ts ← clockNow E
  let rtt := { rtt with ts := ts, dbType := dbType }
  if updateHbFlag then updateOcppHBRequestMessage2DB E req rtt
  else insertOcppRequestMessage2DB L E req rtt ptr

def processHeartbeat : Act (Option Payload) :=
  if L.loadHeartbeat (doSimpleExtract req.reqStr) then do
    let _ ← insertOcppReqMsg2DB L E req { ts := 0 } .none .other true
    let p ← createHeartbeatResponse E
    pure (some p)
  else pure none

/-- The record of a BootNotification with serial number `sern`. -/
def bootRtt (p : BootNotificationRequest) (sern : SchemaString 25) (ts : Int) :
    RttOcpp where
  ts := ts
  fwVer := (p.firmwareVersion.map SchemaString.toText).getD []
  serNumber := sern.toText
  sensors := (p.iccid.map SchemaString.toText).getD "*" ++
    (p.imsi.map fun imsi => '|' :: imsi.toText).getD []

/-- A missing serial number throws. -/
def processBootNotification : Act (Option Payload) :=
  match L.loadBootNotification (doSimpleExtract req.reqStr) with
  | none => pure none
  | some p => do
    let ts ← clockNow E
    match p.chargePointSerialNumber with
    | none => pure none
    | some sern => do
      let rv ← insertOcppMessage2DB E req (bootRtt p sern ts) true .none
      let p ← createBootNotificationResponse E (if 0 < rv then .accepted else .rejected)
      pure (some p)

def processAuthorize : Act (Option Payload) :=
  match L.loadAuthorize (doSimpleExtract req.reqStr) with
  | none => pure none
  | some _ => do
    let ts ← clockNow E
    let rv ← insertOcppMessage2DB E req { ts := ts } false .none
    let p ← createAuthorizeResponse E (if 0 < rv then .accepted else .invalid)
    pure (some p)

def processStartTransaction : Act (Option Payload) :=
  match L.loadStartTransaction (doSimpleExtract req.reqStr) with
  | none => pure none
  | some p => do
    let transactionId ← insertOcppReqMsg2DB L E req { ts := 0 } .startTransaction
      (.startTransaction p) false
    let p ← createStartTransactionResponse E transactionId
    pure (some p)

def processStopTransaction : Act (Option Payload) :=
  match L.loadStopTransaction (doSimpleExtract req.reqStr) with
  | none => pure none
  | some p => do
    let _ ← insertOcppReqMsg2DB L E req { ts := 0 } .stopTransaction
      (.stopTransaction p) false
    let p ← createStopTransactionResponse E
    pure (some p)

/-- The vendor's error code is behind a comma operator and is not part of
it. -/
def statusSensors (p : StatusNotificationRequest) (now : Int) : Text :=
  let ts := match p.timestamp with
    | some t => t.tdiv 1000000
    | none => now
  decimal p.connectorId ++ "," ++ decimal (wrapU64 ts) ++ "," ++
    (p.info.map SchemaString.toText).getD [] ++ "," ++
    (p.vendorId.map SchemaString.toText).getD []

def processStatusNotification : Act (Option Payload) :=
  match L.loadStatusNotification (doSimpleExtract req.reqStr) with
  | none => pure none
  | some p => do
    let ts ← clockNow E
    let now ← clockNow E
    let _ ← insertOcppMessage2DB E req
      { ts := ts
        errCode := p.errorCode.toText
        status := p.status.toText
        sensors := statusSensors p now } false .status
    let p ← createEmptyResponse
    pure (some p)

def processFirmwareStatusNotification : Act (Option Payload) :=
  match L.loadFirmwareStatusNotification (doSimpleExtract req.reqStr) with
  | none => pure none
  | some p => do
    let ts ← clockNow E
    let _ ← insertOcppMessage2DB E req { ts := ts, status := p.status.toText } false
      .firmware
    let p ← createEmptyResponse
    pure (some p)

def processMeterValues : Act (Option Payload) :=
  match L.loadMeterValues (doSimpleExtract req.reqStr) with
  | none => pure none
  | some p => do
    let _ ← insertOcppReqMsg2DB L E req { ts := 0 } .meterValues (.meterValues p) false
    let p ← createEmptyResponse
    pure (some p)

/-- The record a DataTransfer is stored from; a last field is behind a comma
operator. -/
def dataTransferRtt (p : DataTransferRequest) (ts : Int) : RttOcpp where
  ts := ts
  errCode := "No Err"
  status := "***"
  sensors := "1," ++ decimal ts ++ "," ++ p.data.getD "*" ++ "," ++
    (p.messageId.map SchemaString.toText).getD "*"

def processDataTransfer : Act (Option Payload) :=
  match L.loadDataTransfer (doSimpleExtract req.reqStr) with
  | none => pure none
  | some p => do
    let ts ← clockNow E
    let _ ← insertOcppReqMsg2DB L E req (dataTransferRtt p ts) .logMsg .other false
    let p ← createDataTransferResponse "Accepted"
    pure (some p)

/-- The actions a CALL is answered for. -/
inductive OcppAction where
  | heartbeat
  | bootNotification
  | authorize
  | startTransaction
  | stopTransaction
  | statusNotification
  | firmwareStatusNotification
  | meterValues
  | dataTransfer
  deriving DecidableEq, Repr

def OcppAction.name : OcppAction → Text
  | .heartbeat => "Heartbeat"
  | .bootNotification => "BootNotification"
  | .authorize => "Authorize"
  | .startTransaction => "StartTransaction"
  | .stopTransaction => "StopTransaction"
  | .statusNotification => "StatusNotification"
  | .firmwareStatusNotification => "FirmwareStatusNotification"
  | .meterValues => "MeterValues"
  | .dataTransfer => "DataTransfer"

def OcppAction.all : List OcppAction :=
  [.heartbeat, .bootNotification, .authorize, .startTransaction, .stopTransaction,
    .statusNotification, .firmwareStatusNotification, .meterValues, .dataTransfer]

/-- The chain of comparisons with the action of the request. -/
def OcppAction.ofName (action : Text) : Option OcppAction :=
  OcppAction.all.find? (·.name = action)

def OcppAction.process : OcppAction → Act (Option Payload)
  | .heartbeat => processHeartbeat L E req
  | .bootNotification => processBootNotification L E req
  | .authorize => processAuthorize L E req
  | .startTransaction => processStartTransaction L E req
  | .stopTransaction => processStopTransaction L E req
  | .statusNotification => processStatusNotification L E req
  | .firmwareStatusNotification => processFirmwareStatusNotification L E req
  | .meterValues => processMeterValues L E req
  | .dataTransfer => processDataTransfer L E req

/-- Answering a CALL: the result and the response. An action without a branch
gets no answer. -/
def processOCPPRequestAction (resp : OcppResponse) :
    Act (Option (Bool × OcppResponse)) :=
  match OcppAction.ofName req.action with
  | none => pure (some (false, resp))
  | some action => do
    let payload ← action.process L E req
    pure (payload.map fun p =>
      (true, { callID := 3, uniqueID := req.uniqueID,
               respStr := resp.respStr ++ [.callResult 3 req.uniqueID p] }))

end Actions

/-- The response type a queued action is confirmed with, of those the server
only loads. -/
def confirmationOf (action : Text) : Option Confirmation :=
  if action = "SetChargingProfile" then some .setChargingProfile
  else if action = "Reset" then some .reset
  else if action = "ClearChargingProfile" then some .clearChargingProfile
  else if action = "ReserveNow" then some .reserveNow
  else if action = "CancelReservation" then some .cancelReservation
  else if action = "RemoteStartTransaction" then some .remoteStartTransaction
  else if action = "RemoteStopTransaction" then some .remoteStopTransaction
  else if action = "GetConfiguration" then some .getConfiguration
  else if action = "GetLocalListVersion" then some .getLocalListVersion
  else none

/-- The data of an accepted transfer sets a station's time zone when it starts
with 11. -/
def processDataTransferResponse (E : Env) (p : DataTransferResponse) : Act Unit :=
  if p.status.toText = "Accepted" then
    match split (p.data.getD []) ',' with
    | v0 :: sern :: tz :: dls :: _ =>
      if v0 = "11" then do
        let _ ← updateCSTimeZone E sern (str2Int tz) (str2Int dls)
        pure ()
      else pure ()
    | _ => pure ()
  else pure ()

/-- Processing a confirmation under an action; false when the action has no
branch. -/
def confirm (L : Lib) (E : Env) (req : OcppRequest) (action : Text) :
    Act (Option Bool) :=
  match confirmationOf action with
  | some c => pure (if L.loadConfirmation c (doSimpleExtract req.reqStr) then some true
      else none)
  | none =>
    if action = "DataTransfer" then
      match L.loadDataTransferResponse (doSimpleExtract req.reqStr) with
      | none => pure none
      | some p => do
        processDataTransferResponse E p
        pure (some true)
    else pure (some false)

def processIncomingCPResponseMessage (L : Lib) (E : Env) (req : OcppRequest) :
    Act (Option Bool) := do
  let action ← getActionByUID req.uniqueID
  if action = [] then pure (some false) else confirm L E req action

/-- What processing a message ends with: whether it raised nothing, the
request as it was read, the response. -/
structure Processed where
  rv : Bool
  req : OcppRequest
  resp : OcppResponse

/-- A message with call id 2. The result of the action is not looked at. An
answered StartTransaction is followed by a request of the server. -/
def processCall (L : Lib) (E : Env) (req : OcppRequest) (resp : OcppResponse) :
    Act Processed := do
  let done ← processOCPPRequestAction L E req resp
  match done with
  | none => pure ⟨false, req, resp⟩
  | some (_, resp) =>
    if req.action = "StartTransaction" then do
      let c ← createSetChargingProfileRequest L E
        { remoteIP := req.remoteIP, uniqueID := req.uniqueID }
      pure ⟨true, req, { resp with respStr := resp.respStr ++ [c.frame] }⟩
    else pure ⟨true, req, resp⟩

/-- A message with call id 3. -/
def processAnswer (L : Lib) (E : Env) (req : OcppRequest) (resp : OcppResponse) :
    Act Processed := do
  let done ← processIncomingCPResponseMessage L E req
  pure ⟨done.isSome, req, resp⟩

def processOCPPIncoming (L : Lib) (E : Env) (req : OcppRequest) (resp : OcppResponse) :
    Act Processed :=
  match parseOCPPRequest L req with
  | none => pure ⟨false, req, resp⟩
  | some req =>
    if req.callID = 2 then processCall L E req resp
    else if req.callID = 3 then processAnswer L E req resp
    else pure ⟨true, req, resp⟩

end UCLinux.Ocpp
