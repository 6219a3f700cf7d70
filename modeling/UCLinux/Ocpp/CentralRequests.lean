import UCLinux.Ocpp.CentralOcppDB

/-!
Requests the server itself sends: the queue of requests that wait for an
answer, the builders that fill one in and queue it, and the functions behind
the web and the mobile interface that build one and send it to the endpoint
stored for a serial number.
-/

namespace UCLinux.Ocpp

open Sql Machine Server CentralOcppDB

namespace RequestQueue

/-- The action of the first request with a uid, which is taken out of the
queue; empty when there is none. -/
def getActionByUID (uid : Text) : List OcppRequest → Text × List OcppRequest
  | [] => ([], [])
  | q :: qs =>
    if q.uniqueID = uid then (q.action, qs)
    else ((getActionByUID uid qs).1, q :: (getActionByUID uid qs).2)

end RequestQueue

def addToQueue (req : OcppRequest) : Act Unit :=
  Action.put fun s => { s with requestQueue := s.requestQueue ++ [req] }

def getActionByUID (uid : Text) : Act Text := fun s =>
  ((RequestQueue.getActionByUID uid s.state.requestQueue).1,
    ⟨{ s.state with
        requestQueue := (RequestQueue.getActionByUID uid s.state.requestQueue).2 },
      s.asked⟩)

def globalGenerateTextUID (E : Env) : Act Text := do
  let rnd ← Action.ask E.rand
  let ts ← clockNow E
  pure (hexText rnd ++ hexText ts)

/-- A request as it was queued and the frame that is its `req_str`. -/
structure Created where
  req : OcppRequest
  frame : Frame

def createCentralRequest (L : Lib) (E : Env) (req : OcppRequest) (payload : Payload) :
    Act Created := do
  let uid ← globalGenerateTextUID E
  let frame := Frame.call 2 uid req.action payload
  let req := { req with callID := 2, uniqueID := uid, reqStr := frame.text L }
  addToQueue req
  pure ⟨req, frame⟩

/-- Handing a frame to a connection. -/
def sendTo (E : Env) (c : Connection) (frame : Frame) : Act Bool := do
  let ok ← Action.ask E.sends
  Action.put fun s => { s with wire := s.wire ++ [⟨c, frame, ok⟩] }
  pure ok

def getOcppClientConnection (forIP : Text) (s : Server) : Option Connection :=
  s.connections.find? (·.endpoint.text = forIP)

/-- The connection is found as a pointer into a copy of the set, which is gone by then: the
handle there is taken to be readable still. -/
def sendResponse2Client (E : Env) (forIP : Text) (frame : Frame) : Act Bool := do
  let con ← Action.look (getOcppClientConnection forIP)
  match con with
  | none => pure false
  | some c => sendTo E c frame

def fillChargingSchedule (startDate : Int) : ChargingSchedule where
  chargingRateUnit := "W"
  chargingSchedulePeriod := [⟨32, some 1, 0⟩]
  duration := some 222
  minChargingRate := some (222 / 10)
  startSchedule := some startDate

/-- The profile that stands in when none is stored. -/
def fillSetChargingProfileRequest (now : Int) : Payload :=
  .setChargingProfile (-1)
    { chargingProfileId := -1
      chargingProfileKind := "Absolute"
      chargingProfilePurpose := "ChargePointMaxProfile"
      chargingSchedule := fillChargingSchedule now
      recurrencyKind := some "Daily"
      stackLevel := 22
      transactionId := some (-3)
      validFrom := some now
      validTo := some ((now.tdiv 1000000 + 3600 * 24 * 4) * 1000000) }

def createSetChargingProfileRequest (L : Lib) (E : Env) (req : OcppRequest) :
    Act Created := do
  let (rv, data, req) ← getCSProfileFromDBByIp E req
  if rv ≠ 0 ∧ data ≠ [] then
    createCentralRequest L E { req with action := "SetChargingProfile" } (.raw data)
  else do
    let now ← clockNow E
    createCentralRequest L E { req with action := "SetChargingProfile" }
      (fillSetChargingProfileRequest now)

section Builders

variable (L : Lib) (E : Env) (req : OcppRequest)

/-- Throws when the tag does not fit its field. -/
def createReserveNowRequest (idTag : Text) (connId reservId : Int) :
    Act (Option Created) := do
  let now ← clockNow E
  if schemaStringAccepts 20 idTag then do
    let c ← createCentralRequest L E { req with action := "ReserveNow" }
      (.reserveNow connId now idTag (some "ParentID") reservId)
    pure (some c)
  else pure none

def createCancelReservationRequest (reservId : Int) : Act (Option Created) := do
  let c ← createCentralRequest L E { req with action := "CancelReservation" }
    (.cancelReservation reservId)
  pure (some c)

def createChangeAvailabilityRequest (connId : Int) (flag : Bool) :
    Act (Option Created) := do
  let c ← createCentralRequest L E { req with action := "ChangeAvailability" }
    (.changeAvailability connId (if flag then "Operative" else "Inoperative"))
  pure (some c)

/-- Throws on a type that is not one of the two. -/
def createResetRequest (type : Text) : Act (Option Created) :=
  if type = "Hard" ∨ type = "Soft" then do
    let c ← createCentralRequest L E { req with action := "Reset" } (.reset type)
    pure (some c)
  else pure none

def createChangeConfigurationRequest (key val : Text) : Act (Option Created) :=
  if schemaStringAccepts 50 (cstr key) ∧ schemaStringAccepts 500 (cstr val) then do
    let c ← createCentralRequest L E { req with action := "ChangeConfiguration" }
      (.changeConfiguration (cstr key) (cstr val))
    pure (some c)
  else pure none

def createRemoteStartTransactionRequest (idTag : Text) : Act (Option Created) :=
  if schemaStringAccepts 20 idTag then do
    let c ← createCentralRequest L E { req with action := "RemoteStartTransaction" }
      (.remoteStartTransaction (some 3) idTag)
    pure (some c)
  else pure none

def createRemoteStopTransactionRequest : Act (Option Created) := do
  let c ← createCentralRequest L E { req with action := "RemoteStopTransaction" }
    (.remoteStopTransaction 3)
  pure (some c)

def createDataTransferRequest (messageID data : Text) : Act (Option Created) :=
  if schemaStringAccepts 50 (cstr messageID) then do
    let c ← createCentralRequest L E { req with action := "DataTransfer" }
      (.dataTransfer (some (cstr data)) (some (cstr messageID)) "UC")
    pure (some c)
  else pure none

def createUpdateFirmwareRequest : Act (Option Created) := do
  let now ← clockNow E
  let c ← createCentralRequest L E { req with action := "UpdateFirmware" }
    (.updateFirmware "*" (some 3) now (some 120))
  pure (some c)

end Builders

section Commands

variable (L : Lib) (E : Env)

/-- What a command ends with: a value, a C++ exception, or an access past the
end of a vector. -/
inductive Outcome where
  | returns (n : Int)
  | throws
  | undefined
  deriving DecidableEq, Repr

/-- Building a request first, then looking the endpoint up and sending it. -/
def createAndSend (create : Act (Option Created)) (serN : Text) (fwUpdate : Bool) :
    Act Outcome := do
  let created ← create
  match created with
  | none => pure .throws
  | some c => do
    let ip ← getIPAddrBySerNumber E serN fwUpdate
    let ok ← sendResponse2Client E ip c.frame
    pure (.returns (if ok then 1 else 0))

/-- Looking the endpoint up first, then building the request and sending
it. -/
def lookupAndSend (serN action : Text) (payload : Payload) : Act Outcome := do
  let ip ← getIPAddrBySerNumber E serN false
  let c ← createCentralRequest L E { action := action } payload
  let ok ← sendResponse2Client E ip c.frame
  pure (.returns (if ok then 1 else 0))

def createReserveNowfromWeb (serN idTag : Text) : Act Outcome :=
  createAndSend E (createReserveNowRequest L E {} idTag 1 3) serN false

def createCancelReservationfromWeb (serN : Text) : Act Outcome :=
  createAndSend E (createCancelReservationRequest L E {} 3) serN false

def createChangeAvailabilityfromWeb (serN : Text) (connId : Int) (flag : Bool) :
    Act Outcome :=
  createAndSend E (createChangeAvailabilityRequest L E {} connId flag) serN false

def createResetfromWeb (serN : Text) (flag : Bool) : Act Outcome :=
  createAndSend E (createResetRequest L E {} (if flag then "Soft" else "Hard")) serN false

def createChangeConfigurationIntervalfromWeb (serN key val : Text) : Act Outcome :=
  createAndSend E (createChangeConfigurationRequest L E {} key val) serN false

def createRemoteStartTransactionfromWeb (serN idTag : Text) : Act Outcome :=
  createAndSend E (createRemoteStartTransactionRequest L E {} idTag) serN false

def createRemoteStopTransactionfromWeb (serN : Text) : Act Outcome :=
  createAndSend E (createRemoteStopTransactionRequest L E {}) serN false

def createUpdateTZfromWeb (serN : Text) (tz dls : Int) : Act Outcome :=
  createAndSend E
    (createDataTransferRequest L E {} "11" (decimal tz ++ "," ++ decimal dls)) serN false

/-- Command 12 also notes the start of the update in the station's row. -/
def createUpdateFWRequestfromWeb (serN : Text) (cmd : Int) : Act Outcome :=
  createAndSend E (createUpdateFirmwareRequest L E {}) serN (cmd = 12)

def createConfigReqFromWeb (serN forField : Text) : Act Outcome :=
  lookupAndSend L E serN "GetConfiguration"
    (.raw (if forField = [] then "{}" else "\x7b\"key\":[\"HeartBeatInterval\"]\x7d"))

def createGetLocalListVersionReqFromWeb (serN : Text) : Act Outcome :=
  lookupAndSend L E serN "GetLocalListVersion" (.raw "{}")

def createTestChargingProfilefromWeb (serN : Text) (cmd : Int) : Act Outcome := do
  let (_, data) ← getCSProfileFromDBByProfName E ("ChargingProfile_" ++ decimal (cmd - 30))
  lookupAndSend L E serN "SetChargingProfile" (.raw (cstr data))

def getCompositeScheduleFrame : Frame :=
  .call 2 "1225545-54321" "GetCompositeSchedule"
    (.raw "\x7b\"connectorId\":1,\"duration\":3600\x7d")

/-- This request is not queued. -/
def createGetCompositeSchedulefromWeb (serN : Text) : Act Outcome := do
  let ip ← getIPAddrBySerNumber E serN false
  let ok ← sendResponse2Client E ip getCompositeScheduleFrame
  pure (.returns (if ok then 1 else 0))

def setChargeLimitText (limit : Int) : Text :=
  "\x7b\"connectorId\": 1,\"csChargingProfiles\": \x7b\"chargingProfileId\": 20,\"stackLevel\": 1,\"chargingProfilePurpose\": \"TxProfile\",\"chargingProfileKind\": \"Relative\",\"chargingSchedule\": \x7b\"chargingRateUnit\": \"A\",\"chargingSchedulePeriod\": [\x7b\"startPeriod\": 0,\"limit\": "
    ++ decimal limit ++ "\x7d]\x7d\x7d\x7d"

/-- The commands of the mobile interface that have a branch. -/
inductive OcppCommand where
  | setChargeLimit
  | setSampleInterval
  | sendRemoteTransaction
  | simpleCommand
  deriving DecidableEq, Repr

def OcppCommand.ofInt (cmd : Int) : Option OcppCommand :=
  if cmd = 101 then some .setChargeLimit
  else if cmd = 102 then some .sendRemoteTransaction
  else if cmd = 103 then some .simpleCommand
  else if cmd = 104 then some .setSampleInterval
  else none

/-- This request is sent without being queued. -/
def sendSetChargeLimit (ip uid : Text) (limit : Int) : Act Outcome := do
  let ok ← sendResponse2Client E ip
    (.call 2 uid "SetChargingProfile" (.raw (setChargeLimitText limit)))
  pure (.returns (if ok then 1 else 0))

def sendRemoteTransaction (serN : Text) (par1 : Int) (par2 : Text) : Act Outcome :=
  if par1 = 0 then createRemoteStopTransactionfromWeb L E serN
  else if par1 = 1 then
    match split serN '*' with
    | sern :: idTag :: _ => createRemoteStartTransactionfromWeb L E sern idTag
    | _ =>
      if L.prcd par2 then do
        -- the result of this request does not reach the caller
        let sent ← createAndSend E (createDataTransferRequest L E {} "13" (decimal 0x41))
          serN false
        pure (if sent = .throws then .throws else .returns (-1))
      else pure .throws
  else pure (.returns (-1))

def saveProfile (serN : Text) (cid : Int) (par2 : Text) : Act Outcome :=
  match split serN ',' with
  | sern :: id :: profName :: _ =>
    match stoi id with
    | none => pure .throws
    | some profileId => do
      let rv ← insertOrUpdateCSProf2DB E cid profileId profName sern (decodeUrl par2)
      pure (.returns rv)
  | _ => pure (.returns (-1))

/-- Fewer than three items are read past the end. -/
def clearProfile (serN : Text) : Act Outcome :=
  match split serN ',' with
  | sern :: id :: _ :: _ =>
    match stoi id with
    | none => pure .throws
    | some _ => do
      let rv ← removeChargingProfilefromCS E sern
      pure (.returns rv)
  | _ => pure .undefined

def newProfile (cid : Int) : Act Outcome := do
  let rv ← insertOrUpdateCSProf2DB E cid (-1) "*" "*" "?"
  pure (.returns rv)

def createSendOcppCommandfromMob (serN : Text) (cid cmd par1 : Int) (par2 : Text) :
    Act Outcome := do
  let ip ← getIPAddrBySerNumber E serN false
  let uid ← globalGenerateTextUID E
  match OcppCommand.ofInt cmd with
  | some .setChargeLimit => sendSetChargeLimit E ip uid par1
  | some .setSampleInterval =>
    createChangeConfigurationIntervalfromWeb L E serN "MeterValueSampleInterval"
      (decimal par1)
  | some .sendRemoteTransaction => sendRemoteTransaction L E serN par1 par2
  | some .simpleCommand =>
    if par1 = 200 then saveProfile E serN cid par2
    else if par1 = 201 then clearProfile E serN
    else if par1 = 202 then newProfile E cid
    else pure (.returns (-1))
  | none => pure (.returns (-1))

def setChargeStationStatus (ipAddr : Text) (sts : ChargeStationStatus) : Act Bool := do
  let rv ← updateChargeStationStatus E "IPAddr" ChStation.ipAddr ipAddr sts.toInt
  pure (0 < rv)

end Commands

end UCLinux.Ocpp
