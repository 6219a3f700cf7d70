import Mathlib.Data.Rat.Defs
import UCLinux.Ocpp.Text

/-!
The messages of the server: requests and responses of a charge point, the
frames the server writes, and the records its functions pass along. Fields
that no modelled function reads are left out.

A string that was read from a frame fits the length its field declares and
has no NUL, an enumeration value that was read is one of the listed names;
both are carried by the types, so nothing downstream checks them again.
Timestamps are counts of nanoseconds.
-/

namespace UCLinux.Ocpp

open Sql

/-- A string loaded into `schema_string<max>`. -/
structure SchemaString (max : Nat) where
  toText : Text
  nonempty : toText ≠ []
  bounded : toText.length ≤ max
  noNul : '\x00' ∉ toText

/-- An idTag, a serial number and a version of samples. -/
abbrev sampleTag : SchemaString 20 := ⟨"T", by decide, by decide, by decide⟩

abbrev sampleSerial : SchemaString 25 := ⟨"GRS-1", by decide, by decide, by decide⟩

abbrev sampleVersion : SchemaString 50 := ⟨"1", by decide, by decide, by decide⟩

/-- Assigning to a `schema_string<max>` throws when the length does not
fit. -/
def schemaStringAccepts (max : Nat) (s : Text) : Bool :=
  1 ≤ s.length ∧ s.length ≤ max

/-- An enumeration value that was loaded. -/
def SchemaEnum (names : List Text) : Type := { v : Text // v ∈ names }

def SchemaEnum.toText {names : List Text} (v : SchemaEnum names) : Text := v.val

def SampledValueEntry.contexts : List Text :=
  ["Interruption.Begin", "Interruption.End", "Sample.Clock", "Sample.Periodic",
    "Transaction.Begin", "Transaction.End", "Trigger", "Other"]

def SampledValueEntry.formats : List Text := ["Raw", "SignedData"]

def SampledValueEntry.locations : List Text := ["Cable", "EV", "Inlet", "Outlet", "Body"]

def SampledValueEntry.measurands : List Text :=
  ["Energy.Active.Export.Register", "Energy.Active.Import.Register",
    "Energy.Reactive.Export.Register", "Energy.Reactive.Import.Register",
    "Energy.Active.Export.Interval", "Energy.Active.Import.Interval",
    "Energy.Reactive.Export.Interval", "Energy.Reactive.Import.Interval",
    "Power.Active.Export", "Power.Active.Import", "Power.Offered",
    "Power.Reactive.Export", "Power.Reactive.Import", "Power.Factor",
    "Current.Import", "Current.Export", "Current.Offered", "Voltage", "Frequency",
    "Temperature", "SoC", "RPM"]

def SampledValueEntry.phases : List Text :=
  ["L1", "L2", "L3", "N", "L1-N", "L2-N", "L3-N", "L1-L2", "L2-L3", "L3-L1"]

def SampledValueEntry.units : List Text :=
  ["Wh", "kWh", "varh", "kvarh", "W", "kW", "VA", "kVA", "var", "kvar", "A", "V", "K",
    "Celcius", "Fahrenheit", "Percent"]

structure SampledValueEntry where
  context : Option (SchemaEnum SampledValueEntry.contexts)
  format : Option (SchemaEnum SampledValueEntry.formats)
  location : Option (SchemaEnum SampledValueEntry.locations)
  measurand : Option (SchemaEnum SampledValueEntry.measurands)
  phase : Option (SchemaEnum SampledValueEntry.phases)
  unit : Option (SchemaEnum SampledValueEntry.units)
  value : Text

/-- An entry of `transactionData` and of `meterValue`: the two types have the
same fields. -/
structure MeterValueEntry where
  sampledValue : List SampledValueEntry
  timestamp : Int

structure AuthorizeRequest where
  idTag : SchemaString 20

structure BootNotificationRequest where
  chargePointSerialNumber : Option (SchemaString 25)
  firmwareVersion : Option (SchemaString 50)
  iccid : Option (SchemaString 20)
  imsi : Option (SchemaString 20)

structure StartTransactionRequest where
  connectorId : Int
  idTag : SchemaString 20
  meterStart : Int
  reservationId : Option Int
  timestamp : Int

def StopTransactionRequest.reasons : List Text :=
  ["EmergencyStop", "EVDisconnected", "HardReset", "Local", "Other", "PowerLoss",
    "Reboot", "Remote", "SoftReset", "UnlockCommand", "DeAuthorized"]

structure StopTransactionRequest where
  idTag : Option (SchemaString 20)
  meterStop : Int
  reason : Option (SchemaEnum StopTransactionRequest.reasons)
  timestamp : Int
  transactionData : Option (List MeterValueEntry)
  transactionId : Int

def StatusNotificationRequest.errorCodes : List Text :=
  ["ConnectorLockFailure", "EVCommunicationError", "GroundFailure", "HighTemperature",
    "InternalError", "LocalListConflict", "NoError", "OtherError", "OverCurrentFailure",
    "PowerMeterFailure", "PowerSwitchFailure", "ReaderFailure", "ResetFailure",
    "UnderVoltage", "OverVoltage", "WeakSignal"]

def StatusNotificationRequest.statuses : List Text :=
  ["Available", "Preparing", "Charging", "SuspendedEVSE", "SuspendedEV", "Finishing",
    "Reserved", "Unavailable", "Faulted"]

structure StatusNotificationRequest where
  connectorId : Int
  errorCode : SchemaEnum StatusNotificationRequest.errorCodes
  info : Option (SchemaString 50)
  status : SchemaEnum StatusNotificationRequest.statuses
  timestamp : Option Int
  vendorErrorCode : Option (SchemaString 50)
  vendorId : Option (SchemaString 255)

def FirmwareStatusNotificationRequest.statuses : List Text :=
  ["Downloaded", "DownloadFailed", "Downloading", "Idle", "InstallationFailed",
    "Installing", "Installed"]

structure FirmwareStatusNotificationRequest where
  status : SchemaEnum FirmwareStatusNotificationRequest.statuses

structure MeterValuesRequest where
  connectorId : Int
  meterValue : List MeterValueEntry
  transactionId : Option Int

structure DataTransferRequest where
  data : Option Text
  messageId : Option (SchemaString 50)

def DataTransferResponse.statuses : List Text :=
  ["Accepted", "Rejected", "UnknownMessageId", "UnknownVendorId"]

structure DataTransferResponse where
  data : Option Text
  status : SchemaEnum DataTransferResponse.statuses

/-- The protobuf record `SampledValue`; an optional field that was not set is
`none`. -/
structure PbSampledValue where
  value : Text
  context : Option Text
  format : Option Text
  measurand : Option Text
  phase : Option Text
  location : Option Text
  unit : Option Text

structure PbMeterValue where
  timestamp : Int
  sampledvalue : List PbSampledValue

/-- The protobuf record `MeterValues`. -/
structure PbMeterValues where
  transactiondata : List PbMeterValue

structure IdTagInfo where
  expiryDate : Option Int
  parentIdTag : Option Text
  status : Text
  deriving DecidableEq, Repr

structure ChargingSchedulePeriodEntry where
  limit : Rat
  numberPhases : Option Int
  startPeriod : Int
  deriving DecidableEq, Repr

structure ChargingSchedule where
  chargingRateUnit : Text
  chargingSchedulePeriod : List ChargingSchedulePeriodEntry
  duration : Option Int
  minChargingRate : Option Rat
  startSchedule : Option Int
  deriving DecidableEq, Repr

structure CsChargingProfiles where
  chargingProfileId : Int
  chargingProfileKind : Text
  chargingProfilePurpose : Text
  chargingSchedule : ChargingSchedule
  recurrencyKind : Option Text
  stackLevel : Int
  transactionId : Option Int
  validFrom : Option Int
  validTo : Option Int
  deriving DecidableEq, Repr

/-- What the server writes as the payload of a frame: one of the records it
serialises, or text it has at hand. -/
inductive Payload where
  | authorize (idTagInfo : IdTagInfo)
  | bootNotification (currentTime interval : Int) (status : Text)
  | startTransaction (idTagInfo : IdTagInfo) (transactionId : Int)
  | stopTransaction (idTagInfo : IdTagInfo)
  | heartbeat (currentTime : Int)
  | dataTransferResponse (status : Text)
  | setChargingProfile (connectorId : Int) (csChargingProfiles : CsChargingProfiles)
  | reset (type : Text)
  | updateFirmware (location : Text) (retries : Option Int) (retrieveDate : Int)
      (retryInterval : Option Int)
  | reserveNow (connectorId expiryDate : Int) (idTag : Text) (parentIdTag : Option Text)
      (reservationId : Int)
  | cancelReservation (reservationId : Int)
  | changeAvailability (connectorId : Int) (type : Text)
  | remoteStartTransaction (connectorId : Option Int) (idTag : Text)
  | remoteStopTransaction (transactionId : Int)
  | changeConfiguration (key value : Text)
  | dataTransfer (data messageId : Option Text) (vendorId : Text)
  | raw (text : Text)
  deriving DecidableEq, Repr

/-- A frame the server writes. -/
inductive Frame where
  | callResult (callID : Int) (uniqueID : Text) (payload : Payload)
  | callError (callID : Int) (uniqueID errCode errDesc json : Text)
  | call (callID : Int) (uniqueID action : Text) (payload : Payload)
  | raw (text : Text)
  deriving DecidableEq, Repr

/-- An element of the array a frame is. -/
inductive Element where
  | int (n : Int)
  | string (s : Text)
  | other
  deriving DecidableEq, Repr

/-- Responses of a charge point of which the server only checks that they
load. -/
inductive Confirmation where
  | setChargingProfile
  | reset
  | clearChargingProfile
  | reserveNow
  | cancelReservation
  | remoteStartTransaction
  | remoteStopTransaction
  | getConfiguration
  | getLocalListVersion
  deriving DecidableEq, Repr

/-- The libraries below the server: parsing a frame into the array it is,
loading and writing records, protobuf serialisation. `none` is an exception.
An array with `n` elements is written with at least `2 * n + 1` bytes. Of `prcd`
there is only the declaration: whether it returns for a text. -/
structure Lib where
  parse : Text → Option (List Element)
  parse_size : ∀ t es, parse t = some es → 2 * es.length + 1 ≤ t.length
  loadHeartbeat : Text → Bool
  loadBootNotification : Text → Option BootNotificationRequest
  loadAuthorize : Text → Option AuthorizeRequest
  loadStartTransaction : Text → Option StartTransactionRequest
  loadStopTransaction : Text → Option StopTransactionRequest
  loadStatusNotification : Text → Option StatusNotificationRequest
  loadFirmwareStatusNotification : Text → Option FirmwareStatusNotificationRequest
  loadMeterValues : Text → Option MeterValuesRequest
  loadDataTransfer : Text → Option DataTransferRequest
  loadConfirmation : Confirmation → Text → Bool
  loadDataTransferResponse : Text → Option DataTransferResponse
  write : Payload → Text
  serialize : PbMeterValues → Text
  prcd : Text → Bool

/-- A library that loads nothing. -/
def Lib.refusing : Lib where
  parse := fun _ => none
  parse_size := by simp
  loadHeartbeat := fun _ => false
  loadBootNotification := fun _ => none
  loadAuthorize := fun _ => none
  loadStartTransaction := fun _ => none
  loadStopTransaction := fun _ => none
  loadStatusNotification := fun _ => none
  loadFirmwareStatusNotification := fun _ => none
  loadMeterValues := fun _ => none
  loadDataTransfer := fun _ => none
  loadConfirmation := fun _ _ => false
  loadDataTransferResponse := fun _ => none
  write := fun _ => []
  serialize := fun _ => []
  prcd := fun _ => true

/-- A library that reads one frame. -/
def Lib.parsing (t : Text) (es : List Element) (h : 2 * es.length + 1 ≤ (cstr t).length) :
    Lib :=
  { Lib.refusing with
    parse := fun t' => if t' = cstr t then some es else none
    parse_size := by
      intro t' es' ht'
      split at ht'
      · next heq =>
        cases ht'
        rw [heq]
        exact h
      · cases ht' }

theorem Lib.parsing_parse (t : Text) (es : List Element)
    (h : 2 * es.length + 1 ≤ (cstr t).length) : (Lib.parsing t es h).parse (cstr t) = some es :=
  if_pos rfl

def Payload.text (L : Lib) : Payload → Text
  | .raw t => t
  | p => L.write p

/-- The text of a frame. The texts it is printed from are C strings. -/
def Frame.text (L : Lib) : Frame → Text
  | .callResult callID uid payload =>
    "[" ++ decimal callID ++ ",\"" ++ cstr uid ++ "\"," ++ cstr (payload.text L) ++ "]"
  | .callError callID uid errCode errDesc json =>
    "[" ++ decimal callID ++ ",\"" ++ cstr uid ++ "\",\"" ++ errCode ++ "\",\"" ++
      errDesc ++ "\"," ++ json ++ "]"
  | .call callID uid action payload =>
    "[" ++ decimal callID ++ ",\"" ++ cstr uid ++ "\",\"" ++ cstr action ++ "\"," ++
      cstr (payload.text L) ++ "]"
  | .raw t => t

inductive OcppDbType where
  | none
  | authorize
  | stsNotification
  | startTransaction
  | stopTransaction
  | meterValues
  | logMsg
  deriving DecidableEq, Repr

inductive StatusNotificationType where
  | none
  | status
  | firmware
  deriving DecidableEq, Repr

structure OcppRequest where
  callID : Int := 0
  uniqueID : Text := []
  action : Text := []
  reqStr : Text := []
  remoteIP : Text := []
  sern : Text := []
  certFlags : Int := -1
  deriving DecidableEq, Repr

/-- The frames to answer a message with. -/
structure OcppResponse where
  callID : Int
  uniqueID : Text
  respStr : List Frame
  deriving DecidableEq, Repr

structure RttOcpp where
  cid : Int := 0
  serNumber : Text := []
  ts : Int
  status : Text := "*"
  errCode : Text := "*"
  fwVer : Text := []
  sensors : Text := "*"
  dbType : OcppDbType := .none
  deriving DecidableEq, Repr

inductive ChargeStationStatus where
  | unavailable
  | available
  | charging
  deriving DecidableEq, Repr

def ChargeStationStatus.toInt : ChargeStationStatus → Int
  | .unavailable => 0
  | .available => 1
  | .charging => 2

inductive RegistrationStatus where
  | accepted
  | pending
  | rejected
  deriving DecidableEq, Repr

inductive AuthorizationStatus where
  | accepted
  | blocked
  | expired
  | invalid
  deriving DecidableEq, Repr

end UCLinux.Ocpp
