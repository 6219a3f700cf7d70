import UCLinux.Fleet.Registration
import UCLinux.Fleet.WebSessions
import UCLinux.Ocpp.Lexing
import UCLinux.Ocpp.ProfileTexts
import UCLinux.Ocpp.WebCommands
import UCLinux.Phones.Requests
import UCLinux.Web.Confinement

/-!
The POST requests of a browser. One handler copies the body to an array of 1024
bytes and takes it for a C string. The other copies it to an array as long as
the body on its worker's stack, reads a packet from that and has a function for
most of its numbers, which is to read only the items that `split` made and to
send one reply.
-/

namespace UCLinux.Web

open Sql Machine
open Ocpp (Bytes Reply Server digitsValue hexDigit isSpace printfText setResponsePrintf split
  str2Int wrap32 wrapU64)
open Ocpp.CentralOcppDB (PCSItem)
open Ocpp.HistoryDB (cellInt)
open Fleet (CLogin FleetDB PEmpl PRegister WebSession hexValue ofUser)
open Phones (CommPacket ReturnsWhen asText asText_append charOf_inj guarded_isSome nul_mem_asText
  udorxFirmwareDataDownloadRoot)

section Floats

/-- The number that a text stands for, before it is rounded. -/
inductive FloatValue where
  | finite (negative : Bool) (num den : Nat)
  | infinite (negative : Bool)
  | nan
  deriving DecidableEq, Repr

/-- Digits, the digits behind a point, and the rest. -/
def floatDigits (digit : Char → Bool) (s : Text) : Text × Text × Text :=
  match s.dropWhile digit with
  | '.' :: rest => (s.takeWhile digit, rest.takeWhile digit, rest.dropWhile digit)
  | rest => (s.takeWhile digit, [], rest)

/-- Without digits behind the letter there is no exponent. -/
def exponent (letter : Char) : Text → Int
  | [] => 0
  | c :: s =>
    if c ≠ letter then 0
    else match s with
      | '-' :: ds => -digitsValue (ds.takeWhile Char.isDigit)
      | '+' :: ds => digitsValue (ds.takeWhile Char.isDigit)
      | ds => digitsValue (ds.takeWhile Char.isDigit)

def scaled (negative : Bool) (m base : Nat) (e : Int) : FloatValue :=
  .finite negative (m * base ^ e.toNat) (base ^ (-e).toNat)

def strtofDecimal (negative : Bool) (s : Text) : Option FloatValue :=
  let (whole, frac, rest) := floatDigits Char.isDigit s
  if whole ++ frac = [] then none
  else some (scaled negative (digitsValue (whole ++ frac)).toNat 10
    (exponent 'e' rest - frac.length))

/-- Without hexadecimal digits the zero before the `x` is read. -/
def strtofHex (negative : Bool) (s : Text) : FloatValue :=
  let (whole, frac, rest) := floatDigits (fun c => (hexDigit c).isSome) s
  if whole ++ frac = [] then .finite negative 0 1
  else scaled negative (hexValue (whole ++ frac)).toNat 2 (exponent 'p' rest - 4 * frac.length)

def strtofUnsigned (negative : Bool) (s : Text) : Option FloatValue :=
  let lower := s.map Char.toLower
  if ("inf" : Text) <+: lower then some (.infinite negative)
  else if ("nan" : Text) <+: lower then some .nan
  else match lower with
    | '0' :: 'x' :: rest => some (strtofHex negative rest)
    | _ => strtofDecimal negative lower

/-- `strtof`; `none` when the text does not start with a number. -/
def strtof (s : Text) : Option FloatValue :=
  match (cstr s).dropWhile isSpace with
  | '-' :: rest => strtofUnsigned true rest
  | '+' :: rest => strtofUnsigned false rest
  | rest => strtofUnsigned false rest

/-- No `ERANGE`: the number is not rounded to infinity, and when it is rounded
to less than the smallest normal number it is not changed. -/
def FloatValue.inRange : FloatValue → Bool
  | .finite _ num den =>
    num < (2 ^ 128 - 2 ^ 103) * den &&
      ((2 ^ 25 - 1) * den ≤ num * 2 ^ 151 || num * 2 ^ 149 % den = 0)
  | .infinite _ | .nan => true

/-- `std::stof`; `none` when it throws. -/
def stof (s : Text) : Option FloatValue := (strtof s).filter FloatValue.inRange

example : stof "-1.5e1" = some (.finite true 15 1) ∧ stof "1e39" = none := by decide

end Floats

section Replies

/-- Why a handler does not come to its end: an item past the end of a vector is
read, `printf` reads an argument that is not there, or an exception leaves. -/
inductive Fault where
  | pastEnd
  | argument
  | throws
  deriving DecidableEq, Repr

structure AssetData where
  cid : Int
  id : Int
  grid : Int
  username : Text
  type : Int
  did : Text
  desc : Text
  lat : UInt64
  lon : UInt64
  address : Text
  spd : Int
  cog : Int
  sensors : Text
  ts : Int
  its : Int
  deriving DecidableEq, Repr

/-- What is sent: a text or a list of the central system, or the bytes of a
message. -/
inductive WebReply where
  | central (reply : Reply)
  | login (lgn : CLogin)
  | assets (lgn : CLogin) (alist : List AssetData)
  | resources (list : List PEmpl)
  deriving DecidableEq, Repr

/-- The replies of a handler. -/
abbrev Sent := Except Fault (List WebReply)

/-- What is sent of a reply of the central system. -/
def sendReply : Reply → Sent
  | .undefined => .error .argument
  | reply => .ok [.central reply]

/-- `set_response_printf` -/
def printed (str : Text) : Sent := sendReply (setResponsePrintf str)

/-- A text is printed as it is meant: what `printf` would replace is a percent
sign for two. -/
def Plain (str : Text) : Prop := (printfText (cstr str)).isSome

instance (str : Text) : Decidable (Plain str) :=
  inferInstanceAs (Decidable ((printfText (cstr str)).isSome = true))

/-- One reply is sent. -/
def Answered (sent : Sent) : Prop := ∃ reply, sent = .ok [reply]

/-- An item of a vector. -/
def item (v : List Text) (i : Nat) : Except Fault Text :=
  (v[i]?).elim (.error .pastEnd) .ok

/-- Items that are read as numbers one after the other; `none` once one of them
is no number. -/
def readFloats (v : List Text) : List Nat → Except Fault (Option (List FloatValue))
  | [] => .ok (some [])
  | i :: is => do
    let s ← item v i
    match stof s with
    | none => .ok none
    | some x => do
      let xs ← readFloats v is
      .ok (xs.map (x :: ·))

end Replies

section Process

/-- The databases and the sessions of the pages. -/
structure WebProcess where
  server : Server
  fleet : FleetDB
  webSessions : List WebSession

/-- Everything outside the process: what is outside its two databases, how many
bytes of its stack a worker has left, how protobuf reads a body and a payload,
the address of a session that is made, what the files hold that can be opened,
and how much of a file is written. -/
structure Env where
  central : Ocpp.Env
  fleet : Fleet.Env
  stackRoom : Nat
  commPacket : Bytes → CommPacket
  url : Text
  ws : Int
  clsLogin : Text → CLogin
  register : Text → PRegister
  pcsItem : Text → PCSItem
  conf : Text → Int × Int
  reparse : Text → Text
  files : Text → Option Text
  written : Text → Text → Int

abbrev Act (α : Type) : Type := Action WebProcess α

def onServer {α : Type} : Server.Act α → Act α :=
  Action.zoom WebProcess.server fun p s => { p with server := s }

def onFleet {α : Type} : FleetDB.Act α → Act α :=
  Action.zoom WebProcess.fleet fun p s => { p with fleet := s }

/-- `read_html_file`, which reserves room for a size of -1 when the file cannot
be opened. -/
def readHtmlFile (E : Env) (fullPath : Text) : Except Fault Text :=
  (E.files fullPath).elim (.error .throws) .ok

def webTempletes : Text := "/home/mkr/www/mkr_files/Templates/"

def templatePath (lang : Text) : Text :=
  webTempletes ++ if lang = "1" then "es_content.html" else "content.html"

def firmwareMd5Path : Text := udorxFirmwareDataDownloadRoot ++ "/firmware/UC_SmartGrizzle.md5"

def asset (cid : Int) (it : PCSItem) : AssetData where
  cid := cid
  id := it.id
  grid := 0
  username := it.caller
  type := it.type
  did := it.serialn
  desc := it.param1
  lat := it.lat
  lon := it.lon
  address := it.address
  spd := it.status
  cog := 1
  sensors := []
  ts := it.createdts
  its := it.lastupdtdts

def employeesSql (cid : Int) : Stmt :=
  [.sql "SELECT * FROM EMPLOYEE WHERE ClientID =  ", .number cid]

/-- `none` when something raised. -/
def getEmployeesFromDB (E : Fleet.Env) (cid : Int) : FleetDB.Act (Option (List PEmpl)) := do
  let opened ← FleetDB.createConnection E
  if opened then do
    let found ← FleetDB.EMPLOYEE.read E (employeesSql cid)
      (fun t => (t.rows.filter fun r => decide (r.cols.clientID = cid)).map
        Fleet.FleetEmployeeDB.getEmployeeRow) Fleet.FleetEmployeeDB.employeeOfCells
    pure found.all
  else pure none

/-- 0 for an empty table, -1 when something raised. -/
def getLastRowIDInDB (E : Ocpp.Env) : Server.Act Int := do
  let opened ← Ocpp.createConnection E
  if opened then do
    let found ← Server.CH_STATIONS.read E Ocpp.getLastRowIDSql
      (fun t => (t.rows.getLast?.map fun r => wrap32 r.rowid).toList) (cellInt · 0)
    pure ((found.all.map fun ids => ids.getLast?.getD 0).getD (-1))
  else pure (-1)

end Process

section Handlers

variable (L : Ocpp.Lib) (E : Env) (commP : CommPacket)

/-- A text that is the reply, unless an exception left before. -/
def printedOr (text : Option Text) : Sent := text.elim (.error .throws) printed

def processPLogin : Act Sent := do
  let r ← Action.look fun p =>
    Fleet.processPLogin E.url E.fleet p.fleet E.ws (E.clsLogin commP.payload) p.webSessions
  Action.put fun p => { p with webSessions := r.2 }
  pure (.ok [.login r.1])

def processWebPageOnload : Act Sent := do
  let found ← Action.look fun p => Fleet.processWebPageOnload p.webSessions commP.user
  pure (found.elim (printed "*") fun lgn => .ok [.login lgn])

/-- `GetWebSession` -/
def getWebSession : Act (Option WebSession) :=
  Action.look fun p => p.webSessions.find? (ofUser commP.user commP.cid)

def processWebPageTemplate : Act Sent := do
  let si ← getWebSession commP
  pure (si.elim (printed "??") fun si =>
    if si.lang = [] then printed "??"
    else do
      let s ← readHtmlFile E (templatePath si.lang)
      .ok [.login { user := si.user, pass := s, cid := si.cid, si := 1, res := 2, lang := "en" }])

def getAssetsOnLogin : Act Sent := do
  let found ← getWebSession commP
  match found with
  | none => pure (printed "*")
  | some ws => do
    let (_, list) ← onServer (Ocpp.CentralOcppDB.getAllChargeStations E.central commP.cid true)
    pure (.ok [.assets { user := commP.user, pass := "**", cid := commP.cid, si := ws.sessionid
                         res := 2, lang := "en" } (list.map (asset commP.cid))])

def processWebPageOnUnload : Act Sent := do
  Action.put fun p =>
    { p with webSessions := Fleet.processWebPageOnUnload p.webSessions commP.user commP.cid }
  pure (printed "LL")

def processRegisterWS : Act Sent := do
  let resp ← onFleet (Fleet.processRegisterWS E.fleet (E.register commP.payload))
  pure (printed resp)

/-- The client is put together and nothing is done with it. -/
def processRegisterWSForCS : Act Sent := pure (.ok [])

def uploadName : Text := uploadDirectory commP.req ++ commP.user

/-- What is said of a photo that was not written whole. -/
def uploadError (rv : Int) : Text :=
  "Err:" ++ decimal rv ++ "  FN:" ++ uploadName commP ++ " reqn=" ++ decimal commP.req ++
    " baL:" ++ decimal commP.rid ++ " pL:" ++ decimal commP.payload.length

def processUploadPhotoWS : Act Sent :=
  let rv := E.written (cstr (uploadName commP)) commP.payload
  pure (printed (if rv = commP.rid then "OK" else uploadError commP rv))

/-- `_send_list` -/
def readAllResources : Act Sent := do
  let list ← onFleet (getEmployeesFromDB E.fleet commP.cid)
  pure (list.elim (printed "*") fun list => .ok [.resources list])

def clientMessageFromContactUs : Act Sent :=
  let v := split commP.user '|'
  pure (if 2 ≤ v.length then do
      let _email ← item v 0
      let _name ← item v 1
      printed "OK"
    else printed "*")

def getChargeStationsFromCentral : Act Sent := do
  let reply ← onServer (Ocpp.getChargeStationsFromCentral E.central commP.cid)
  pure (sendReply reply)

def updateTZ : Act Sent := do
  let text ← onServer (Ocpp.updateTZ L E.central commP.cid commP.user (E.conf commP.payload).1
    (E.conf commP.payload).2)
  pure (printedOr text)

def insertChargeStation : Act Sent := do
  let rv ← onServer (Ocpp.CentralOcppDB.insertNewChargeStationItem E.central
    { E.pcsItem commP.payload with clientid := commP.cid })
  pure (printed (if 0 < rv then "OK:" ++ decimal rv else "*"))

def deleteChargeStation : Act Sent := do
  let id ← onServer (Ocpp.CentralOcppDB.deleteChargeStation E.central commP.user commP.cid)
  pure (printed (if id ≠ -1 then "OK:" ++ decimal id else "*"))

def lastRowID : Act Sent := do
  let woid ← onServer (getLastRowIDInDB E.central)
  pure (printed ("OK:" ++ decimal woid))

def doCsProfile : Act Sent := do
  let reply ← onServer
    (Ocpp.doCsProfile E.central commP.cid commP.rid commP.user commP.payload)
  pure (sendReply reply)

def getCsProfile : Act Sent := do
  let reply ← onServer (Ocpp.getCsProfile E.central commP.user)
  pure (sendReply reply)

def doOcppCommand : Act Sent := do
  let text ← onServer (Ocpp.doOcppCommand L E.central commP.cid commP.rid commP.user)
  pure (printedOr text)

def processChargeStationsHB : Act Sent := do
  let reply ← onServer (Ocpp.processChargeStationsHB E.central commP.cid)
  pure (sendReply reply)

def getChargeStationsHistory : Act Sent := do
  let reply ← onServer (Ocpp.getChargeStationsHistory E.central commP.cid commP.user)
  pure (sendReply reply)

def clearChargeStationsHistory : Act Sent := do
  let text ← onServer (Ocpp.clearChargeStationsHistory E.central commP.cid commP.user)
  pure (printedOr text)

def removeChargingProfilefromCS : Act Sent := do
  let rv ← onServer (Ocpp.CentralOcppDB.removeChargingProfilefromCS E.central commP.user)
  pure (printed (if rv ≠ 0 then "OK" else "*"))

def getChargeStationsStatistics : Act Sent := do
  let reply ← onServer
    (Ocpp.getChargeStationsStatistics E.central commP.cid commP.user E.reparse)
  pure (sendReply reply)

def getCsProfiles : Act Sent := do
  let reply ← onServer (Ocpp.getCsProfiles E.central commP.cid)
  pure (sendReply reply)

def getCsProfileByName : Act Sent := do
  let reply ← onServer (Ocpp.getCsProfileByName E.central commP.user)
  pure (sendReply reply)

def getCSFWVersion : Act Sent :=
  pure (do
    let str ← readHtmlFile E firmwareMd5Path
    printed (if 36 ≤ str.length then (str.drop 8).take 4 else "*"))

/-- The search is commented out. -/
def processGeoAddressSearch : Act Sent := pure (printed "*")

/-- The items that are read when there are enough of them; what would be looked
up with the numbers is commented out. -/
def readThenStar (v : List Text) (least : Nat) (is : List Nat) : Sent :=
  if least ≤ v.length then do
    let _floats ← readFloats v is
    printed "*"
  else printed "*"

def processRevGeocoderSearch : Act Sent :=
  pure (readThenStar (split commP.user ',') 2 [0, 1])

def processRouteRequest : Act Sent :=
  pure (readThenStar (split commP.user ',') 4 [0, 1, 2, 3])

/-- The items that a loop in steps of two reads. -/
def pairs (n : Nat) : List Nat := (List.range ((n + 1) / 2)).flatMap fun k => [2 * k, 2 * k + 1]

def processOptRouteRequest : Act Sent :=
  let v := split commP.user ','
  pure (readThenStar v 4 (pairs v.length))

end Handlers

section Dispatch

/-- The functions of `process_p_web_request` whose bodies are not commented
out. -/
inductive WebHandler where
  | processPLogin
  | processWebPageOnload
  | processWebPageTemplate
  | getAssetsOnLogin
  | processWebPageOnUnload
  | processRegisterWS
  | processRegisterWSForCS
  | processUploadPhotoWS
  | readAllResources
  | clientMessageFromContactUs
  | getChargeStationsFromCentral
  | updateTZ
  | insertChargeStation
  | deleteChargeStation
  | getLastRowIDInDB
  | doCsProfile
  | getCsProfile
  | doOcppCommand
  | processChargeStationsHB
  | getChargeStationsHistory
  | clearChargeStationsHistory
  | removeChargingProfilefromCS
  | getChargeStationsStatistics
  | getCsProfiles
  | getCsProfileByName
  | getCSFWVersion
  | processGeoAddressSearch
  | processRevGeocoderSearch
  | processRouteRequest
  | processOptRouteRequest
  deriving DecidableEq, Repr

namespace WebHandler

/-- The cases of the switch. -/
def numbers : List (Int × WebHandler) :=
  [(1, processPLogin), (2, processWebPageOnload), (3, processWebPageTemplate),
    (5, getAssetsOnLogin), (8, processWebPageOnUnload), (11, processRegisterWS),
    (12, processRegisterWSForCS), (14, processUploadPhotoWS), (26, processUploadPhotoWS),
    (21, readAllResources), (30, clientMessageFromContactUs), (40, getChargeStationsFromCentral),
    (41, updateTZ), (51, insertChargeStation), (56, deleteChargeStation), (58, getLastRowIDInDB),
    (63, doCsProfile), (64, getCsProfile), (65, doOcppCommand), (66, processChargeStationsHB),
    (67, getChargeStationsHistory), (68, clearChargeStationsHistory),
    (69, removeChargingProfilefromCS), (70, getChargeStationsStatistics), (71, getCsProfiles),
    (72, getCsProfileByName), (73, getCSFWVersion), (100, processGeoAddressSearch),
    (101, processRevGeocoderSearch), (102, processRouteRequest), (103, processOptRouteRequest)]

def ofReq (req : Int) : Option WebHandler := numbers.lookup req

variable (L : Ocpp.Lib) (E : Env) (commP : CommPacket)

def run : WebHandler → Act Sent
  | processPLogin => Web.processPLogin E commP
  | processWebPageOnload => Web.processWebPageOnload commP
  | processWebPageTemplate => Web.processWebPageTemplate E commP
  | getAssetsOnLogin => Web.getAssetsOnLogin E commP
  | processWebPageOnUnload => Web.processWebPageOnUnload commP
  | processRegisterWS => Web.processRegisterWS E commP
  | processRegisterWSForCS => Web.processRegisterWSForCS
  | processUploadPhotoWS => Web.processUploadPhotoWS E commP
  | readAllResources => Web.readAllResources E commP
  | clientMessageFromContactUs => Web.clientMessageFromContactUs commP
  | getChargeStationsFromCentral => Web.getChargeStationsFromCentral E commP
  | updateTZ => Web.updateTZ L E commP
  | insertChargeStation => Web.insertChargeStation E commP
  | deleteChargeStation => Web.deleteChargeStation E commP
  | getLastRowIDInDB => Web.lastRowID E
  | doCsProfile => Web.doCsProfile E commP
  | getCsProfile => Web.getCsProfile E commP
  | doOcppCommand => Web.doOcppCommand L E commP
  | processChargeStationsHB => Web.processChargeStationsHB E commP
  | getChargeStationsHistory => Web.getChargeStationsHistory E commP
  | clearChargeStationsHistory => Web.clearChargeStationsHistory E commP
  | removeChargingProfilefromCS => Web.removeChargingProfilefromCS E commP
  | getChargeStationsStatistics => Web.getChargeStationsStatistics E commP
  | getCsProfiles => Web.getCsProfiles E commP
  | getCsProfileByName => Web.getCsProfileByName E commP
  | getCSFWVersion => Web.getCSFWVersion E
  | processGeoAddressSearch => Web.processGeoAddressSearch
  | processRevGeocoderSearch => Web.processRevGeocoderSearch commP
  | processRouteRequest => Web.processRouteRequest commP
  | processOptRouteRequest => Web.processOptRouteRequest commP

/-- When a function answers: the page has a template, the photo is written whole
or its name can be printed, the profiles that are read can be printed, as can
the version of the firmware, and a route has whole points or stops at an item
that is no number. -/
def Answers (k : Session WebProcess) : WebHandler → Prop
  | processWebPageTemplate =>
    ∀ si ∈ k.state.webSessions.find? (ofUser commP.user commP.cid), si.lang ≠ [] →
      (E.files (templatePath si.lang)).isSome
  | processRegisterWSForCS => False
  | processUploadPhotoWS =>
    E.written (cstr (uploadName commP)) commP.payload = commP.rid ∨ Plain commP.user
  | getCsProfile =>
    let found := (Ocpp.CentralOcppDB.getCSProfileFromDBBySern E.central commP.user
      ⟨k.state.server, k.asked⟩).1
    found.1 = 0 ∨ Plain found.2
  | getCsProfiles =>
    let found := (Ocpp.CentralOcppDB.getCSProfilesFromDBByCID E.central commP.cid
      ⟨k.state.server, k.asked⟩).1
    found.1 = 0 ∨ Plain found.2
  | getCsProfileByName =>
    let found := (Ocpp.CentralOcppDB.getCSProfileFromDBByProfName E.central commP.user
      ⟨k.state.server, k.asked⟩).1
    found.1 ≠ 0 ∧ Plain found.2
  | getCSFWVersion =>
    ∃ str ∈ E.files firmwareMd5Path, str.length < 36 ∨ Plain ((str.drop 8).take 4)
  | processOptRouteRequest =>
    (split commP.user ',').length < 4 ∨ 2 ∣ (split commP.user ',').length ∨
      ∃ s ∈ split commP.user ',', stof s = none
  | _ => True

end WebHandler

/-- The switch of `process_p_web_request`. A number without a function, or with
one that is commented out, is not answered. -/
def dispatch (L : Ocpp.Lib) (E : Env) (commP : CommPacket) : Act Sent :=
  match WebHandler.ofReq commP.req with
  | some h => h.run L E commP
  | none => pure (.ok [])

end Dispatch

section Bodies

/-- `char buf[1024]` -/
def webBufSize : Nat := 1024

/-- How many bytes `evbuffer_copyout` copies: the length goes through an `int`,
and no more than there are. -/
def copied (length : Nat) : Nat := min (wrapU64 (wrap32 length)).toNat length

/-- `unsigned char buf[len]` can be made: the length of the body as an `int` is
not negative, and the worker has that much of its stack left. -/
def FitsStack (E : Env) (body : Bytes) : Prop :=
  0 ≤ wrap32 body.length ∧ wrap32 body.length ≤ E.stackRoom

instance (E : Env) (body : Bytes) : Decidable (FitsStack E body) :=
  inferInstanceAs (Decidable (_ ∧ _))

/-- The packet that is read from the bytes that are copied. -/
def packetOf (E : Env) (body : Bytes) : CommPacket :=
  E.commPacket (body.take (copied body.length))

/-- `none` when the array cannot be made. -/
def processPWebRequest (L : Ocpp.Lib) (E : Env) (body : Bytes) : Act (Option Sent) :=
  if FitsStack E body then do
    let sent ← dispatch L E (packetOf E body)
    pure (some sent)
  else pure none

def getValue (str : Text) : Text :=
  match split str '=' with
  | _ :: value :: _ => value
  | _ => []

/-- What `process_web_request` does with the body of a POST: the bytes it
writes to its array, the text it takes the array for, and the replies. -/
structure WebRun where
  written : Nat
  strR : Text
  replies : List WebReply

/-- The array is zero where nothing is copied, and the text ends at a NUL in it
or in the memory behind it. -/
def processWebRequest (body behind : Bytes) : WebRun :=
  let written := copied body.length
  let buf := body.take written ++ List.replicate (webBufSize - written) 0#8
  let strR := cstr (asText (buf ++ behind))
  ⟨written, strR,
    match split strR '&' with
    | [] => []
    | v₀ :: _ =>
      let reqN := str2Int (getValue v₀)
      if reqN = 7 ∨ reqN = 35 then [] else [.central (.text "NOT")]⟩

end Bodies

section WebPosts

/-- A POST: a body for the one handler or the other. -/
inductive WebPost where
  | webRequest (body : Bytes)
  | pWebRequest (body : Bytes)

namespace WebPost

variable (L : Ocpp.Lib) (E : Env) (k : Session WebProcess)

/-- No more than the array is written and no more than the body is read,
whatever stands behind the array; the other array can be made, and a number with
a function is answered. -/
def Right : WebPost → Prop
  | webRequest body => ∀ behind, (processWebRequest body behind).written ≤ webBufSize ∧
      (processWebRequest body behind).strR <+: asText body
  | pWebRequest body => ∃ sent, (processPWebRequest L E body k).1 = some sent ∧
      ((WebHandler.ofReq (packetOf E body).req).isSome → Answered sent)

/-- The copy leaves room for a NUL or holds one; the array fits the stack and the
function answers. -/
def Fits : WebPost → Prop
  | webRequest body => copied body.length < webBufSize ∨
      (copied body.length = webBufSize ∧ 0#8 ∈ body.take webBufSize)
  | pWebRequest body => FitsStack E body ∧
      ∀ h ∈ WebHandler.ofReq (packetOf E body).req, h.Answers E (packetOf E body) k

end WebPost

end WebPosts

section Replies

theorem setResponsePrintf_iff {t : Text} : setResponsePrintf t ≠ .undefined ↔ Plain t := by
  unfold setResponsePrintf Plain
  cases printfText (cstr t) with
  | none => exact iff_of_false (fun h => h rfl) (by simp)
  | some u => exact iff_of_true (by simp) rfl

theorem answered_sendReply_iff {reply : Reply} :
    Answered (sendReply reply) ↔ reply ≠ .undefined := by
  cases reply with
  | undefined =>
    refine iff_of_false ?_ fun h => h rfl
    rintro ⟨_, h⟩
    cases h
  | text t => exact iff_of_true ⟨_, rfl⟩ (by simp)
  | stations list => exact iff_of_true ⟨_, rfl⟩ (by simp)
  | statistics list => exact iff_of_true ⟨_, rfl⟩ (by simp)

theorem answered_printed_iff {t : Text} : Answered (printed t) ↔ Plain t :=
  answered_sendReply_iff.trans setResponsePrintf_iff

theorem plain_of_not_mem {t : Text} (h : '%' ∉ t) : Plain t := by
  unfold Plain
  rw [Ocpp.printfText_plain fun hmem => h (mem_of_mem_cstr hmem)]
  rfl

theorem answered_printed {t : Text} (h : '%' ∉ t) : Answered (printed t) :=
  answered_printed_iff.mpr (plain_of_not_mem h)

theorem answered_star : Answered (printed "*") := answered_printed (by decide)

/-- A choice of two texts without a percent sign. -/
theorem answered_ite {p : Prop} [Decidable p] {t u : Text} (ht : '%' ∉ t) (hu : '%' ∉ u) :
    Answered (printed (if p then t else u)) := by
  split
  · exact answered_printed ht
  · exact answered_printed hu

theorem not_mem_ok_decimal (n : Int) : '%' ∉ ("OK:" : Text) ++ decimal n := by
  rw [List.mem_append, not_or]
  exact ⟨by decide, not_mem_decimal (by decide) (by decide) n⟩

/-- An exception or a missing item is no reply. -/
theorem not_answered_error (f : Fault) : ¬Answered (.error f) := by
  rintro ⟨_, h⟩
  cases h

end Replies

section Reading

variable {v : List Text} {i : Nat}

theorem item_of_lt (h : i < v.length) : item v i = .ok (v.get ⟨i, h⟩) := by
  unfold item
  rw [List.getElem?_eq_getElem h]
  rfl

theorem item_of_le (h : v.length ≤ i) : item v i = .error .pastEnd := by
  unfold item
  rw [List.getElem?_eq_none h]
  rfl

theorem readFloats_cons {is : List Nat} (h : i < v.length) : readFloats v (i :: is) =
    (stof (v.get ⟨i, h⟩)).elim (.ok none) fun x =>
      (readFloats v is).map (Option.map (x :: ·)) := by
  rw [readFloats, item_of_lt h]
  cases hx : stof (v.get ⟨i, h⟩) with
  | none =>
    dsimp only [bind, Except.bind]
    rw [hx]
    rfl
  | some x =>
    dsimp only [bind, Except.bind]
    rw [hx]
    cases readFloats v is <;> rfl

/-- Items from a position on are read without a fault when there are enough of
them, or when the reading stops at one that is no number. -/
theorem readFloats_range'_iff (n : Nat) (h : i ≤ v.length) :
    (∃ xs, readFloats v (List.range' i n) = .ok xs) ↔
      i + n ≤ v.length ∨ ∃ s ∈ v.drop i, stof s = none := by
  induction n generalizing i with
  | zero => exact iff_of_true ⟨_, rfl⟩ (Or.inl h)
  | succ n ih =>
    rw [List.range'_succ]
    rcases Nat.lt_or_ge i v.length with hlt | hge
    · have hdrop : v.drop i = v.get ⟨i, hlt⟩ :: v.drop (i + 1) :=
        (List.getElem_cons_drop hlt).symm
      have hnext := ih (i := i + 1) hlt
      have hroom : i + 1 + n ≤ v.length ↔ i + (n + 1) ≤ v.length := by omega
      rw [readFloats_cons hlt, hdrop, List.exists_mem_cons_iff, ← hroom]
      cases hx : stof (v.get ⟨i, hlt⟩) with
      | none => exact iff_of_true ⟨_, rfl⟩ (Or.inr (Or.inl rfl))
      | some x =>
        have hsome : ¬(some x = none) := by simp
        rw [or_iff_right hsome, ← hnext]
        cases readFloats v (List.range' (i + 1) n) with
        | error f =>
          constructor
          · rintro ⟨_, hf⟩
            cases hf
          · rintro ⟨_, hf⟩
            cases hf
        | ok xs => exact iff_of_true ⟨_, rfl⟩ ⟨xs, rfl⟩
    · have hdrop : v.drop i = [] := List.drop_eq_nil_of_le hge
      rw [readFloats, item_of_le hge, hdrop]
      refine iff_of_false ?_ ?_
      · rintro ⟨_, hread⟩
        cases hread
      · rintro (hroom | ⟨_, hmem, _⟩)
        · omega
        · cases hmem

theorem pairs_eq (n : Nat) : pairs n = List.range' 0 (2 * ((n + 1) / 2)) := by
  unfold pairs
  induction (n + 1) / 2 with
  | zero => rfl
  | succ m ih =>
    rw [List.range_succ, List.flatMap_append, ih, Nat.mul_succ, ← List.range'_append_1]
    simp [List.range'_succ]

variable {least : Nat} {is : List Nat}

/-- A star is the reply once the items are read. -/
theorem answered_readThenStar_iff : Answered (readThenStar v least is) ↔
    v.length < least ∨ ∃ xs, readFloats v is = .ok xs := by
  unfold readThenStar
  rcases Nat.lt_or_ge v.length least with hlt | hge
  · rw [if_neg (Nat.not_le_of_lt hlt)]
    exact iff_of_true answered_star (Or.inl hlt)
  · rw [if_pos hge, or_iff_right (Nat.not_lt_of_le hge)]
    cases readFloats v is with
    | error f =>
      refine iff_of_false (not_answered_error f) ?_
      rintro ⟨_, h⟩
      cases h
    | ok xs => exact iff_of_true answered_star ⟨xs, rfl⟩

/-- As many items are read as there have to be. -/
theorem answered_readThenStar (v : List Text) (least : Nat) :
    Answered (readThenStar v least (List.range' 0 least)) := by
  apply answered_readThenStar_iff.mpr
  rcases Nat.lt_or_ge v.length least with hlt | hge
  · exact Or.inl hlt
  · exact Or.inr ((readFloats_range'_iff least (Nat.zero_le _)).mpr (Or.inl (by omega)))

/-- A loop in steps of two reads past the end of an odd number of items, unless
one of them is no number. -/
theorem answered_pairs_iff : Answered (readThenStar v 4 (pairs v.length)) ↔
    v.length < 4 ∨ 2 ∣ v.length ∨ ∃ s ∈ v, stof s = none := by
  have heven : 0 + 2 * ((v.length + 1) / 2) ≤ v.length ↔ 2 ∣ v.length := by omega
  rw [answered_readThenStar_iff, pairs_eq, readFloats_range'_iff _ (Nat.zero_le _), heven,
    List.drop_zero]

end Reading

section Commands

variable {L : Ocpp.Lib} {E : Ocpp.Env}

theorem lookupAndSend_returns (serN action : Text) (payload : Ocpp.Payload) :
    ReturnsWhen (Ocpp.lookupAndSend L E serN action payload) True :=
  .bind fun _ => .bind fun _ => .bind fun _ => .returns _

/-- A command whose texts fit their fields comes to an end. -/
theorem command_returns {command : Ocpp.Command} (h : command.Fits) :
    ReturnsWhen (command.exec L E) True := by
  have hbuilt {create : Server.Act (Option Ocpp.Created)} {serN : Text} {fw : Bool}
      (hcreate : ∀ k, (create k).1.isSome) :
      ReturnsWhen (Ocpp.createAndSend E create serN fw) True :=
    .createAndSend (fun k => iff_true_intro (hcreate k)) serN fw
  cases command with
  | reserveNow serN idTag => exact hbuilt fun k => (guarded_isSome k.tick).mpr h
  | cancelReservation serN => exact hbuilt fun _ => rfl
  | changeAvailability serN connId flag => exact hbuilt fun _ => rfl
  | reset serN flag =>
    have hkind : (if flag then ("Soft" : Text) else "Hard") = "Hard" ∨
        (if flag then ("Soft" : Text) else "Hard") = "Soft" := by
      cases flag <;> decide
    exact hbuilt fun k => (guarded_isSome k).mpr hkind
  | changeConfiguration serN key val => exact hbuilt fun k => (guarded_isSome k).mpr h
  | getCompositeSchedule serN => exact .bind fun _ => .bind fun _ => .returns _
  | testChargingProfile serN cmd => exact .bind fun _ => lookupAndSend_returns _ _ _
  | remoteStart serN idTag => exact hbuilt fun k => (guarded_isSome k).mpr h
  | remoteStop serN => exact hbuilt fun _ => rfl
  | updateTZ serN tz dls =>
    have hkey : Ocpp.schemaStringAccepts 50 (cstr "11") := by decide
    exact hbuilt fun k => (guarded_isSome k).mpr hkey
  | updateFW serN cmd => exact hbuilt fun _ => rfl
  | configReq serN forField => exact lookupAndSend_returns _ _ _
  | getLocalListVersion serN => exact lookupAndSend_returns _ _ _
  | mobile serN cid cmd par1 par2 => exact h.elim

/-- What a command is answered with. -/
theorem doOcppCommand_reply (cid cmd : Int) (serN : Text) (k : Session Server) :
    ∃ t, (Ocpp.doOcppCommand L E cid cmd serN k).1 = some t ∧ '%' ∉ t := by
  unfold Ocpp.doOcppCommand
  cases hcommand : Ocpp.webCommand serN cmd with
  | none => exact ⟨"*", rfl, by decide⟩
  | some command =>
    obtain ⟨n, hn⟩ := (command_returns (Ocpp.webCommand_fits hcommand).1 k).mpr trivial
    dsimp only
    rw [Action.bind_apply, hn]
    refine ⟨_, rfl, ?_⟩
    split <;> decide

end Commands

section Handlers

variable {E : Fleet.Env}

/-- The replies of the registration hold no percent sign. -/
theorem processRegisterWS_plain (rg : PRegister) :
    Action.Returns (fun t => '%' ∉ t) (Fleet.processRegisterWS E rg) := by
  have hinUse (rv : Int) : '%' ∉ Fleet.inUseReply rv := by
    unfold Fleet.inUseReply
    dsimp only
    split_ifs <;> decide
  unfold Fleet.processRegisterWS
  refine .bind fun made => ?_
  split
  · exact .pure (hinUse made.1)
  · refine .bind fun emp => ?_
    unfold Fleet.registerEmail
    split
    · refine .bind fun rv => ?_
      split
      · exact .pure (not_mem_ok_decimal _)
      · exact .bind fun _ => .bind fun _ => .pure (by decide)
    · exact .pure (by decide)

section Uploads

variable {commP : CommPacket}

theorem printfText_cons {c : Char} (h : c ≠ '%') (t : Text) :
    printfText (c :: t) = (printfText t).map (c :: ·) := by
  rw [printfText]
  · rintro rest rfl
    exact absurd rfl h
  · exact h

theorem printfText_single {t : Text} (h : ∀ rest, t ≠ '%' :: rest) :
    printfText ('%' :: t) = none := by
  rw [printfText]
  exact h

/-- What stands behind a format without a percent sign changes nothing. -/
theorem printfText_append_isSome {t b : Text} (hb : '%' ∉ b) :
    (printfText (t ++ b)).isSome = (printfText t).isSome := by
  induction t using Ocpp.printfText.induct with
  | case1 =>
    rw [List.nil_append, Ocpp.printfText_plain hb]
    rfl
  | case2 rest ih =>
    rw [List.cons_append, List.cons_append, printfText, printfText, Option.isSome_map,
      Option.isSome_map, ih]
  | case3 rest hrest =>
    have happend : ∀ r, rest ++ b ≠ '%' :: r := by
      intro r heq
      cases rest with
      | nil =>
        rw [List.nil_append] at heq
        exact hb (heq ▸ List.mem_cons_self)
      | cons d rest => exact hrest rest (by rw [(List.cons.inj heq).1])
    rw [List.cons_append, printfText_single happend, printfText_single hrest]
  | case4 c rest hc hrest ih =>
    have hne : c ≠ '%' := fun heq => hrest heq
    rw [List.cons_append, printfText_cons hne, printfText_cons hne, Option.isSome_map,
      Option.isSome_map, ih]

theorem printfText_plain_append {a t : Text} (ha : '%' ∉ a) :
    (printfText (a ++ t)).isSome = (printfText t).isSome := by
  induction a with
  | nil => rfl
  | cons c a ih =>
    rw [List.mem_cons, not_or] at ha
    rw [List.cons_append, printfText_cons (Ne.symm ha.1), Option.isSome_map, ih ha.2]

/-- A format with a plain text before and behind is read like its middle. -/
theorem plain_between {a t b : Text} (ha : '%' ∉ a) (hnul : '\x00' ∉ a) (hb : '%' ∉ b) :
    Plain (a ++ (t ++ b)) ↔ Plain t := by
  unfold Plain
  rw [cstr_append_of_not_mem hnul, printfText_plain_append ha]
  by_cases ht : '\x00' ∈ t
  · rw [cstr_append_of_mem ht]
  · rw [cstr_append_of_not_mem ht, cstr_of_no_nul ht,
      printfText_append_isSome fun hmem => hb (mem_of_mem_cstr hmem)]

/-- The name of a photo is the only part of the text that can stop `printf`. -/
theorem plain_uploadError_iff (rv : Int) : Plain (uploadError commP rv) ↔ Plain commP.user := by
  have hdecimal (n : Int) : '%' ∉ decimal n := not_mem_decimal (by decide) (by decide) n
  have hnul (n : Int) : '\x00' ∉ decimal n := not_mem_decimal (by decide) (by decide) n
  have htext : uploadError commP rv =
      ("Err:" ++ decimal rv ++ "  FN:" ++ uploadDirectory commP.req) ++ (commP.user ++
        (" reqn=" ++ decimal commP.req ++ " baL:" ++ decimal commP.rid ++ " pL:" ++
          decimal commP.payload.length)) := by
    unfold uploadError uploadName
    simp only [List.append_assoc]
  have hdirectory : '%' ∉ uploadDirectory commP.req := by
    unfold uploadDirectory
    split <;> decide
  rw [htext]
  apply plain_between
  · simp only [List.mem_append, not_or]
    exact ⟨⟨⟨by decide, hdecimal rv⟩, by decide⟩, hdirectory⟩
  · simp only [List.mem_append, not_or]
    exact ⟨⟨⟨by decide, hnul rv⟩, by decide⟩, (isDirectory_uploadDirectory commP.req).plain⟩
  · simp only [List.mem_append, not_or]
    exact ⟨⟨⟨⟨⟨by decide, hdecimal _⟩, by decide⟩, hdecimal _⟩, by decide⟩, hdecimal _⟩

end Uploads

section Answers

variable {L : Ocpp.Lib} {E : Env} {commP : CommPacket} {k : Session WebProcess}

theorem processWebPageOnload_answered : Answered (processWebPageOnload commP k).1 := by
  unfold processWebPageOnload
  rw [Action.bind_apply, Action.look_apply]
  cases Fleet.processWebPageOnload k.state.webSessions commP.user with
  | none => exact answered_star
  | some lgn => exact ⟨_, rfl⟩

/-- The page of a session is put together from a file. -/
theorem processWebPageTemplate_answered_iff : Answered (processWebPageTemplate E commP k).1 ↔
    ∀ si ∈ k.state.webSessions.find? (ofUser commP.user commP.cid), si.lang ≠ [] →
      (E.files (templatePath si.lang)).isSome := by
  have hunknown : Answered (printed "??") := answered_printed (by decide)
  unfold processWebPageTemplate getWebSession
  rw [Action.bind_apply, Action.look_apply]
  cases k.state.webSessions.find? (ofUser commP.user commP.cid) with
  | none => exact iff_of_true hunknown fun si hsi => by cases hsi
  | some si =>
    dsimp only [Option.elim]
    by_cases hlang : si.lang = []
    · rw [Action.pure_apply, if_pos hlang]
      refine iff_of_true hunknown fun si' hsi' hlang' => ?_
      obtain rfl := Option.some.inj hsi'
      exact absurd hlang hlang'
    · rw [Action.pure_apply, if_neg hlang]
      unfold readHtmlFile
      cases hfile : E.files (templatePath si.lang) with
      | none =>
        refine iff_of_false (not_answered_error .throws) fun h => ?_
        have hthere := h si rfl hlang
        rw [hfile] at hthere
        cases hthere
      | some str =>
        refine iff_of_true ⟨_, rfl⟩ fun si' hsi' _ => ?_
        obtain rfl := Option.some.inj hsi'
        rw [hfile]
        rfl

theorem getAssetsOnLogin_answered : Answered (getAssetsOnLogin E commP k).1 := by
  unfold getAssetsOnLogin getWebSession
  rw [Action.bind_apply, Action.look_apply]
  cases k.state.webSessions.find? (ofUser commP.user commP.cid) with
  | none => exact answered_star
  | some ws => exact ⟨_, rfl⟩

theorem processUploadPhotoWS_answered_iff : Answered (processUploadPhotoWS E commP k).1 ↔
    E.written (cstr (uploadName commP)) commP.payload = commP.rid ∨ Plain commP.user := by
  unfold processUploadPhotoWS
  rw [Action.pure_apply]
  by_cases hwhole : E.written (cstr (uploadName commP)) commP.payload = commP.rid
  · rw [if_pos hwhole]
    exact iff_of_true (answered_printed (t := "OK") (by decide)) (Or.inl hwhole)
  · rw [if_neg hwhole, answered_printed_iff, plain_uploadError_iff, or_iff_right hwhole]

theorem readAllResources_answered : Answered (readAllResources E commP k).1 := by
  have hlist (list : Option (List PEmpl)) :
      Answered (list.elim (printed "*") fun list => .ok [.resources list]) := by
    cases list with
    | none => exact answered_star
    | some list => exact ⟨_, rfl⟩
  exact hlist _

theorem clientMessageFromContactUs_answered :
    Answered (clientMessageFromContactUs commP k).1 := by
  have hthanks : Answered (printed "OK") := answered_printed (by decide)
  unfold clientMessageFromContactUs
  rw [Action.pure_apply]
  by_cases hitems : 2 ≤ (split commP.user '|').length
  · rw [if_pos hitems, item_of_lt (i := 0) (by omega), item_of_lt (i := 1) (by omega)]
    exact hthanks
  · rw [if_neg hitems]
    exact answered_star

theorem doCsProfile_answered : Answered (doCsProfile E commP k).1 := by
  have hreply (rv : Int) :
      Answered (sendReply (setResponsePrintf (if rv ≠ 0 then "OK:" ++ decimal rv else "*"))) :=
    answered_ite (u := "*") (not_mem_ok_decimal rv) (by decide)
  exact hreply _

theorem doOcppCommand_answered : Answered (doOcppCommand L E commP k).1 := by
  obtain ⟨t, ht, hplain⟩ := doOcppCommand_reply (L := L) (E := E.central) commP.cid commP.rid
    commP.user ⟨k.state.server, k.asked⟩
  have hsent : (doOcppCommand L E commP k).1 = printed t := congrArg printedOr ht
  rw [hsent]
  exact answered_printed hplain

theorem getChargeStationsHistory_answered :
    Answered (getChargeStationsHistory E commP k).1 := by
  have hreply (t : Text) (p : Prop) [Decidable p] (k : Session Server) : Answered (sendReply
      ((if p then pure (setResponsePrintf "*") else pure (.text t) : Server.Act Reply) k).1) := by
    split
    · exact answered_star
    · exact ⟨_, rfl⟩
  exact hreply _ _ _

theorem getChargeStationsStatistics_answered :
    Answered (getChargeStationsStatistics E commP k).1 := by
  have hreply (list : List Ocpp.TrData) (k : Session Server) : Answered (sendReply
      ((if list = [] then pure (.text "*") else pure (.statistics list) :
        Server.Act Reply) k).1) := by
    split <;> exact ⟨_, rfl⟩
  exact hreply _ _

/-- A profile that is found is the reply. -/
theorem answered_profile_iff {rv : Int} {data : Text} :
    Answered (sendReply (setResponsePrintf (if rv ≠ 0 then data else "*"))) ↔
      rv = 0 ∨ Plain data := by
  by_cases hfound : rv = 0
  · rw [if_neg (not_not.mpr hfound)]
    exact iff_of_true answered_star (Or.inl hfound)
  · rw [if_pos hfound, or_iff_right hfound]
    exact answered_printed_iff

theorem getCsProfileByName_answered_iff : Answered (getCsProfileByName E commP k).1 ↔
    (Ocpp.CentralOcppDB.getCSProfileFromDBByProfName E.central commP.user
        ⟨k.state.server, k.asked⟩).1.1 ≠ 0 ∧
      Plain (Ocpp.CentralOcppDB.getCSProfileFromDBByProfName E.central commP.user
        ⟨k.state.server, k.asked⟩).1.2 := by
  have hreply (rv : Int) (data : Text) :
      Answered (sendReply (if rv ≠ 0 then setResponsePrintf data else .undefined)) ↔
        rv ≠ 0 ∧ Plain data := by
    by_cases hfound : rv = 0
    · rw [if_neg (not_not.mpr hfound)]
      exact iff_of_false (not_answered_error .argument) fun h => h.1 hfound
    · rw [if_pos hfound, and_iff_right hfound]
      exact answered_printed_iff
  exact hreply _ _

/-- A firmware file that is there is cut to four characters. -/
theorem getCSFWVersion_answered_iff : Answered (getCSFWVersion E k).1 ↔
    ∃ str ∈ E.files firmwareMd5Path, str.length < 36 ∨ Plain ((str.drop 8).take 4) := by
  unfold getCSFWVersion readHtmlFile
  rw [Action.pure_apply]
  cases E.files firmwareMd5Path with
  | none =>
    refine iff_of_false (not_answered_error .throws) ?_
    rintro ⟨_, hmem, _⟩
    cases hmem
  | some str =>
    have hsome (p : Text → Prop) : (∃ s ∈ some str, p s) ↔ p str := by simp
    have hsent : Answered (printed (if 36 ≤ str.length then (str.drop 8).take 4 else "*")) ↔
        str.length < 36 ∨ Plain ((str.drop 8).take 4) := by
      rcases Nat.lt_or_ge str.length 36 with hlt | hge
      · rw [if_neg (Nat.not_le_of_lt hlt)]
        exact iff_of_true answered_star (Or.inl hlt)
      · rw [if_pos hge, or_iff_right (Nat.not_lt_of_le hge)]
        exact answered_printed_iff
    rw [hsome]
    exact hsent

end Answers

/-- Each function answers exactly under its condition. -/
theorem WebHandler.answered_iff (h : WebHandler) (L : Ocpp.Lib) (E : Env) (commP : CommPacket)
    (k : Session WebProcess) : Answered (h.run L E commP k).1 ↔ h.Answers E commP k := by
  have hdecimal (n : Int) : Answered (printed (("OK:" : Text) ++ decimal n)) :=
    answered_printed (not_mem_ok_decimal n)
  cases h with
  | processPLogin => exact iff_of_true ⟨_, rfl⟩ trivial
  | processWebPageOnload => exact iff_of_true processWebPageOnload_answered trivial
  | processWebPageTemplate => exact processWebPageTemplate_answered_iff
  | getAssetsOnLogin => exact iff_of_true getAssetsOnLogin_answered trivial
  | processWebPageOnUnload =>
    exact iff_of_true (answered_printed (t := "LL") (by decide)) trivial
  | processRegisterWS => exact iff_of_true (answered_printed (processRegisterWS_plain _ _)) trivial
  | processRegisterWSForCS =>
    refine iff_of_false ?_ id
    rintro ⟨_, hsent⟩
    cases hsent
  | processUploadPhotoWS => exact processUploadPhotoWS_answered_iff
  | readAllResources => exact iff_of_true readAllResources_answered trivial
  | clientMessageFromContactUs =>
    exact iff_of_true clientMessageFromContactUs_answered trivial
  | getChargeStationsFromCentral => exact iff_of_true ⟨_, rfl⟩ trivial
  | updateTZ => exact iff_of_true (answered_printed (t := "OK:1") (by decide)) trivial
  | insertChargeStation =>
    exact iff_of_true (answered_ite (not_mem_ok_decimal _) (by decide)) trivial
  | deleteChargeStation =>
    exact iff_of_true (answered_ite (not_mem_ok_decimal _) (by decide)) trivial
  | getLastRowIDInDB => exact iff_of_true (hdecimal _) trivial
  | doCsProfile => exact iff_of_true doCsProfile_answered trivial
  | getCsProfile => exact answered_profile_iff
  | doOcppCommand => exact iff_of_true doOcppCommand_answered trivial
  | processChargeStationsHB => exact iff_of_true ⟨_, rfl⟩ trivial
  | getChargeStationsHistory => exact iff_of_true getChargeStationsHistory_answered trivial
  | clearChargeStationsHistory =>
    exact iff_of_true (answered_ite (by decide) (by decide)) trivial
  | removeChargingProfilefromCS =>
    exact iff_of_true (answered_ite (by decide) (by decide)) trivial
  | getChargeStationsStatistics =>
    exact iff_of_true getChargeStationsStatistics_answered trivial
  | getCsProfiles => exact answered_profile_iff
  | getCsProfileByName => exact getCsProfileByName_answered_iff
  | getCSFWVersion => exact getCSFWVersion_answered_iff
  | processGeoAddressSearch => exact iff_of_true answered_star trivial
  | processRevGeocoderSearch => exact iff_of_true (answered_readThenStar _ 2) trivial
  | processRouteRequest => exact iff_of_true (answered_readThenStar _ 4) trivial
  | processOptRouteRequest => exact answered_pairs_iff

end Handlers

section Posts

section Bodies

variable {body behind : Bytes}

theorem asText_take_starts (n : Nat) : asText (body.take n) <+: asText body :=
  (List.take_prefix n body).map _

theorem cstr_nul_starts (a t : Text) : cstr (a ++ '\x00' :: t) <+: a := by
  by_cases hnul : '\x00' ∈ a
  · rw [cstr_append_of_mem hnul]
    exact List.takeWhile_prefix _
  · have hcut : cstr ('\x00' :: t) = [] := rfl
    rw [cstr_append_of_not_mem hnul, hcut, List.append_nil]

/-- A copy that leaves room for a NUL, or holds one, is read to its first NUL. -/
theorem strR_starts (h : copied body.length < webBufSize ∨
    (copied body.length = webBufSize ∧ 0#8 ∈ body.take webBufSize)) :
    (processWebRequest body behind).strR <+: asText body := by
  unfold processWebRequest
  dsimp only
  have hcut (a : Text) : cstr a <+: a := List.takeWhile_prefix _
  rcases h with hroom | ⟨hfull, hnul⟩
  · obtain ⟨m, hm⟩ := Nat.exists_eq_add_of_lt hroom
    have hzeros : webBufSize - copied body.length = m + 1 := by omega
    rw [hzeros, List.replicate_succ, List.append_assoc, List.cons_append, asText_append]
    exact (cstr_nul_starts _ _).trans (asText_take_starts _)
  · rw [hfull, Nat.sub_self, List.replicate_zero, List.append_nil, asText_append,
      cstr_append_of_mem (nul_mem_asText.mpr hnul)]
    exact (hcut _).trans (asText_take_starts _)

/-- With an array full of other bytes the text goes on behind it. -/
theorem exists_strR_longer (hfull : copied body.length = webBufSize)
    (hnul : 0#8 ∉ body.take webBufSize) :
    ∃ behind, ¬(processWebRequest body behind).strR <+: asText body := by
  have hother : ∃ c : BitVec 8, c ≠ 0#8 ∧ ∀ rest, body.drop webBufSize ≠ c :: rest := by
    by_cases hone : ∃ rest, body.drop webBufSize = 1#8 :: rest
    · obtain ⟨rest, hone⟩ := hone
      refine ⟨2#8, by decide, fun rest' htwo => ?_⟩
      exact absurd (List.cons.inj (hone.symm.trans htwo)).1 (by decide)
    · exact ⟨1#8, by decide, fun rest h => hone ⟨rest, h⟩⟩
  obtain ⟨c, hc, hdrop⟩ := hother
  have hplain : '\x00' ∉ asText (body.take webBufSize ++ [c]) := by
    rw [nul_mem_asText, List.mem_append, List.mem_singleton, not_or]
    exact ⟨hnul, Ne.symm hc⟩
  have hstrR : (processWebRequest body [c]).strR = asText (body.take webBufSize ++ [c]) := by
    unfold processWebRequest
    dsimp only
    rw [hfull, Nat.sub_self, List.replicate_zero, List.append_nil, cstr_of_no_nul hplain]
  refine ⟨[c], fun hstarts => ?_⟩
  obtain ⟨t, ht⟩ := hstarts
  have hbody : asText body = asText (body.take webBufSize) ++ asText (body.drop webBufSize) := by
    rw [← asText_append, List.take_append_drop]
  rw [hstrR, hbody, asText_append, List.append_assoc] at ht
  have hnext := List.append_cancel_left ht
  cases hrest : body.drop webBufSize with
  | nil =>
    rw [hrest] at hnext
    cases hnext
  | cons d rest =>
    rw [hrest] at hnext
    obtain rfl := charOf_inj (List.cons.inj hnext).1
    exact hdrop rest hrest

theorem webRequest_right_iff (L : Ocpp.Lib) (E : Env) (k : Session WebProcess) (body : Bytes) :
    (WebPost.webRequest body).Right L E k ↔ (WebPost.webRequest body).Fits E k := by
  constructor
  · intro hright
    have hwritten : copied body.length ≤ webBufSize := (hright []).1
    rcases Nat.lt_or_eq_of_le hwritten with hroom | hfull
    · exact Or.inl hroom
    · refine Or.inr ⟨hfull, ?_⟩
      by_contra hnul
      obtain ⟨behind, hlonger⟩ := exists_strR_longer hfull hnul
      exact hlonger (hright behind).2
  · intro hfits behind
    refine ⟨?_, strR_starts hfits⟩
    have hwritten : (processWebRequest body behind).written = copied body.length := rfl
    rw [hwritten]
    rcases hfits with hroom | ⟨hfull, _⟩
    · exact Nat.le_of_lt hroom
    · exact Nat.le_of_eq hfull

end Bodies

theorem dispatch_answered_iff (L : Ocpp.Lib) (E : Env) (k : Session WebProcess)
    (commP : CommPacket) :
    ((WebHandler.ofReq commP.req).isSome → Answered (dispatch L E commP k).1) ↔
      ∀ h ∈ WebHandler.ofReq commP.req, h.Answers E commP k := by
  have hrun {h : WebHandler} (hreq : WebHandler.ofReq commP.req = some h) :
      Answered (dispatch L E commP k).1 ↔ h.Answers E commP k := by
    unfold dispatch
    rw [hreq]
    exact h.answered_iff L E commP k
  constructor
  · intro hright h hreq
    exact (hrun hreq).mp (hright (Option.isSome_of_mem hreq))
  · intro hanswers hsome
    obtain ⟨h, hreq⟩ := Option.isSome_iff_exists.mp hsome
    exact (hrun hreq).mpr (hanswers h hreq)

theorem pWebRequest_right_iff (L : Ocpp.Lib) (E : Env) (k : Session WebProcess) (body : Bytes) :
    (WebPost.pWebRequest body).Right L E k ↔ (WebPost.pWebRequest body).Fits E k := by
  have hsent : (processPWebRequest L E body k).1 =
      if FitsStack E body then some (dispatch L E (packetOf E body) k).1 else none := by
    unfold processPWebRequest
    split <;> rfl
  have hanswers := dispatch_answered_iff L E k (packetOf E body)
  constructor
  · rintro ⟨sent, hsome, hright⟩
    rw [hsent, Option.ite_none_right_eq_some] at hsome
    obtain ⟨hfits, hrun⟩ := hsome
    cases hrun
    exact ⟨hfits, hanswers.mp hright⟩
  · rintro ⟨hfits, hall⟩
    exact ⟨_, hsent.trans (if_pos hfits), hanswers.mpr hall⟩

/-- A POST is handled within its arrays, its items and with one reply exactly
when its body leaves room for a NUL or fits the stack and its function
answers. -/
theorem WebPost.right_iff (post : WebPost) (L : Ocpp.Lib) (E : Env) (k : Session WebProcess) :
    post.Right L E k ↔ post.Fits E k := by
  cases post with
  | webRequest body => exact webRequest_right_iff L E k body
  | pWebRequest body => exact pWebRequest_right_iff L E k body

/-- Nothing fails, no body or payload holds a message and no file is there. A
worker has eight megabytes of stack. -/
def Env.calm : Env where
  central := .calm
  fleet := .calm
  stackRoom := 2 ^ 23
  commPacket := fun _ => { req := 0 }
  url := []
  ws := 1
  clsLogin := fun _ => {}
  register := fun _ => {}
  pcsItem := fun _ => Ocpp.CentralOcppDB.readChS ⟨0, .plain [] [] 0⟩
  conf := fun _ => (0, 0)
  reparse := id
  files := fun _ => none
  written := fun _ _ => 0

def WebProcess.started : WebProcess := ⟨.empty, .created, []⟩

/-- A body with a route request of five coordinates. -/
def oddRoute : Bytes :=
  [8#8, 103#8, 34#8, 9#8, 49#8, 44#8, 50#8, 44#8, 51#8, 44#8, 52#8, 44#8, 53#8]

/-- It is read as protobuf reads it. -/
def Env.routing : Env :=
  { Env.calm with
    commPacket := fun bytes =>
      if bytes = oddRoute then { req := 103, user := "1,2,3,4,5" } else { req := 0 } }

/-- A body of 1025 bytes does not fit the array, an odd number of coordinates is
read past the end, and a body longer than the stack has no array at all. -/
theorem posts_wrong :
    ¬(WebPost.webRequest (List.replicate 1025 97#8)).Right .refusing .calm ⟨.started, 0⟩ ∧
    ¬(WebPost.pWebRequest oddRoute).Right .refusing .routing ⟨.started, 0⟩ ∧
    ¬(WebPost.pWebRequest (List.replicate (2 ^ 23 + 1) 97#8)).Right .refusing .calm
      ⟨.started, 0⟩ := by
  refine ⟨fun hright => ?_, fun hright => ?_, fun hright => ?_⟩
  · have hwritten := (hright []).1
    have hcopied : (processWebRequest (List.replicate 1025 97#8) []).written = 1025 := by
      unfold processWebRequest
      rw [List.length_replicate]
      rfl
    rw [hcopied] at hwritten
    exact absurd hwritten (by decide)
  · have hanswers : (split "1,2,3,4,5" ',').length < 4 ∨ 2 ∣ (split "1,2,3,4,5" ',').length ∨
        ∃ s ∈ split "1,2,3,4,5" ',', stof s = none :=
      ((pWebRequest_right_iff _ _ _ _).mp hright).2 .processOptRouteRequest rfl
    exact absurd hanswers (by decide)
  · have hfits := ((pWebRequest_right_iff _ _ _ _).mp hright).1
    unfold FitsStack at hfits
    rw [List.length_replicate] at hfits
    exact absurd hfits (by decide)

end Posts

end UCLinux.Web
