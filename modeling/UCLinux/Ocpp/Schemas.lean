import UCLinux.Json.Grammar
import UCLinux.Ocpp.Message
import UCLinux.Ocpp.Timestamps

/-!
The types of the OCPP messages. A record lists its members in the order it names them to an
archive; a member that is optional may be absent. The values of a type keep what its class
keeps: a `schema_string` its greatest length, a `schema_enum_value` its names, and both may be
empty as they are made.
-/

namespace UCLinux.Ocpp.Cereal

open Sql Rfc3339

/-- The finite doubles of the machine. The JSON library prints one as a number that it reads
as this double again. -/
structure Doubles where
  Double : Type
  print : Double → Text
  read : Text → Double
  isNumber : ∀ x, Json.IsNumber (print x)
  read_print : ∀ x, read (print x) = x

mutual

inductive Ty where
  | int
  | bool
  | double
  | string
  | schemaString (maxSize : Nat)
  | schemaEnum (names : List Text)
  | dateTime
  | schemaArray (elem : Ty) (maxSize minSize : Nat)
  | record (fields : Fields)

inductive Fields where
  | nil
  | required (name : Text) (ty : Ty) (rest : Fields)
  | optional (name : Text) (ty : Ty) (rest : Fields)

end

/-- An `int`. -/
abbrev CInt : Type := { n : Int // -(2 ^ 31) ≤ n ∧ n < 2 ^ 31 }

mutual

def Ty.Val (D : Doubles) : Ty → Type
  | .int => CInt
  | .bool => Bool
  | .double => D.Double
  | .string => Text
  | .schemaString maxSize => { t : Text // t.length ≤ maxSize }
  | .schemaEnum names => { t : Text // t = [] ∨ t ∈ names }
  | .dateTime => TimePoint
  | .schemaArray elem _ _ => List (elem.Val D)
  | .record fields => fields.Val D

def Fields.Val (D : Doubles) : Fields → Type
  | .nil => Unit
  | .required _ ty rest => ty.Val D × rest.Val D
  | .optional _ ty rest => Option (ty.Val D) × rest.Val D

end

/-- The types that have a value but no node of their own. -/
def Ty.minimal : Ty → Bool
  | .schemaArray .. | .record _ => false
  | _ => true

section Messages

def idTagInfo : Fields :=
  .optional "expiryDate" .dateTime <|
  .optional "parentIdTag" (.schemaString 20) <|
  .required "status" (.schemaEnum ["Accepted", "Blocked", "Expired", "Invalid", "ConcurrentTx"])
  .nil

def sampledValueEntry : Fields :=
  .optional "context" (.schemaEnum SampledValueEntry.contexts) <|
  .optional "format" (.schemaEnum SampledValueEntry.formats) <|
  .optional "location" (.schemaEnum SampledValueEntry.locations) <|
  .optional "measurand" (.schemaEnum SampledValueEntry.measurands) <|
  .optional "phase" (.schemaEnum SampledValueEntry.phases) <|
  .optional "unit" (.schemaEnum SampledValueEntry.units) <|
  .required "value" .string
  .nil

def chargingSchedulePeriodEntry : Fields :=
  .required "limit" .double <|
  .optional "numberPhases" .int <|
  .required "startPeriod" .int
  .nil

def chargingSchedule : Fields :=
  .required "chargingRateUnit" (.schemaEnum ["A", "W"]) <|
  .required "chargingSchedulePeriod"
    (.schemaArray (.record chargingSchedulePeriodEntry) 65536 0) <|
  .optional "duration" .int <|
  .optional "minChargingRate" .double <|
  .optional "startSchedule" .dateTime
  .nil

/-- `CsChargingProfiles`, and `ChargingProfile` of a remote start: the two have the same
members. -/
def chargingProfile : Fields :=
  .required "chargingProfileId" .int <|
  .required "chargingProfileKind" (.schemaEnum ["Absolute", "Recurring", "Relative"]) <|
  .required "chargingProfilePurpose"
    (.schemaEnum ["ChargePointMaxProfile", "TxDefaultProfile", "TxProfile"]) <|
  .required "chargingSchedule" (.record chargingSchedule) <|
  .optional "recurrencyKind" (.schemaEnum ["Daily", "Weekly"]) <|
  .required "stackLevel" .int <|
  .optional "transactionId" .int <|
  .optional "validFrom" .dateTime <|
  .optional "validTo" .dateTime
  .nil

def authorizeRequest : Fields :=
  .required "idTag" (.schemaString 20)
  .nil

def authorizeResponse : Fields :=
  .required "idTagInfo" (.record idTagInfo)
  .nil

def bootNotificationRequest : Fields :=
  .optional "chargeBoxSerialNumber" (.schemaString 25) <|
  .required "chargePointModel" (.schemaString 20) <|
  .optional "chargePointSerialNumber" (.schemaString 25) <|
  .required "chargePointVendor" (.schemaString 20) <|
  .optional "firmwareVersion" (.schemaString 50) <|
  .optional "iccid" (.schemaString 20) <|
  .optional "imsi" (.schemaString 20) <|
  .optional "meterSerialNumber" (.schemaString 25) <|
  .optional "meterType" (.schemaString 25)
  .nil

def bootNotificationResponse : Fields :=
  .required "currentTime" .dateTime <|
  .required "interval" .int <|
  .required "status" (.schemaEnum ["Accepted", "Pending", "Rejected"])
  .nil

def startTransactionRequest : Fields :=
  .required "connectorId" .int <|
  .required "idTag" (.schemaString 20) <|
  .required "meterStart" .int <|
  .optional "reservationId" .int <|
  .required "timestamp" .dateTime
  .nil

def startTransactionResponse : Fields :=
  .required "idTagInfo" (.record idTagInfo) <|
  .required "transactionId" .int
  .nil

/-- `TransactionDataEntry` and `MeterValueEntry`: the two have the same members. -/
def meterValueEntry : Fields :=
  .required "sampledValue" (.schemaArray (.record sampledValueEntry) 65536 0) <|
  .required "timestamp" .dateTime
  .nil

def stopTransactionRequest : Fields :=
  .optional "idTag" (.schemaString 20) <|
  .required "meterStop" .int <|
  .optional "reason" (.schemaEnum StopTransactionRequest.reasons) <|
  .required "timestamp" .dateTime <|
  .optional "transactionData" (.schemaArray (.record meterValueEntry) 65536 0) <|
  .required "transactionId" .int
  .nil

def stopTransactionResponse : Fields :=
  .optional "idTagInfo" (.record idTagInfo)
  .nil

def setChargingProfileRequest : Fields :=
  .required "connectorId" .int <|
  .required "csChargingProfiles" (.record chargingProfile)
  .nil

def setChargingProfileResponse : Fields :=
  .required "status" (.schemaEnum ["Accepted", "Rejected", "NotSupported"])
  .nil

/-- `HeartbeatRequest` and the other records without members. -/
def heartbeatRequest : Fields := .nil

def heartbeatResponse : Fields :=
  .required "currentTime" .dateTime
  .nil

def statusNotificationRequest : Fields :=
  .required "connectorId" .int <|
  .required "errorCode" (.schemaEnum StatusNotificationRequest.errorCodes) <|
  .optional "info" (.schemaString 50) <|
  .required "status" (.schemaEnum StatusNotificationRequest.statuses) <|
  .optional "timestamp" .dateTime <|
  .optional "vendorErrorCode" (.schemaString 50) <|
  .optional "vendorId" (.schemaString 255)
  .nil

def meterValuesRequest : Fields :=
  .required "connectorId" .int <|
  .required "meterValue" (.schemaArray (.record meterValueEntry) 65536 0) <|
  .optional "transactionId" .int
  .nil

def resetRequest : Fields :=
  .required "type" (.schemaEnum ["Hard", "Soft"])
  .nil

/-- `ResetResponse`, `CancelReservationResponse`, `RemoteStartTransactionResponse` and
`RemoteStopTransactionResponse`. -/
def resetResponse : Fields :=
  .required "status" (.schemaEnum ["Accepted", "Rejected"])
  .nil

def updateFirmwareRequest : Fields :=
  .required "location" .string <|
  .optional "retries" .double <|
  .required "retrieveDate" .dateTime <|
  .optional "retryInterval" .double
  .nil

def clearChargingProfileResponse : Fields :=
  .required "status" (.schemaEnum ["Accepted", "Unknown"])
  .nil

def reserveNowRequest : Fields :=
  .required "connectorId" .int <|
  .required "expiryDate" .dateTime <|
  .required "idTag" (.schemaString 20) <|
  .optional "parentIdTag" (.schemaString 20) <|
  .required "reservationId" .int
  .nil

def reserveNowResponse : Fields :=
  .required "status"
    (.schemaEnum ["Accepted", "Faulted", "Occupied", "Rejected", "Unavailable"])
  .nil

def cancelReservationRequest : Fields :=
  .required "reservationId" .int
  .nil

def remoteStartTransactionRequest : Fields :=
  .optional "chargingProfile" (.record chargingProfile) <|
  .optional "connectorId" .int <|
  .required "idTag" (.schemaString 20)
  .nil

def remoteStopTransactionRequest : Fields :=
  .required "transactionId" .int
  .nil

def configurationKeyEntry : Fields :=
  .required "key" (.schemaString 50) <|
  .required "readonly" .bool <|
  .optional "value" (.schemaString 500)
  .nil

def getConfigurationResponse : Fields :=
  .optional "configurationKey" (.schemaArray (.record configurationKeyEntry) 65536 0) <|
  .optional "unknownKey" (.schemaArray (.schemaString 50) 65536 0)
  .nil

def changeConfigurationRequest : Fields :=
  .required "key" (.schemaString 50) <|
  .required "value" (.schemaString 500)
  .nil

def getLocalListVersionResponse : Fields :=
  .required "listVersion" .int
  .nil

def changeAvailabilityRequest : Fields :=
  .required "connectorId" .int <|
  .required "type" (.schemaEnum ["Inoperative", "Operative"])
  .nil

def firmwareStatusNotificationRequest : Fields :=
  .required "status" (.schemaEnum FirmwareStatusNotificationRequest.statuses)
  .nil

def dataTransferRequest : Fields :=
  .optional "data" .string <|
  .optional "messageId" (.schemaString 50) <|
  .required "vendorId" (.schemaString 255)
  .nil

def dataTransferResponse : Fields :=
  .optional "data" .string <|
  .required "status" (.schemaEnum DataTransferResponse.statuses)
  .nil

end Messages

end UCLinux.Ocpp.Cereal
