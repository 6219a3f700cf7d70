import UCLinux.Fleet.Employees
import UCLinux.Fleet.Login
import UCLinux.Ocpp.ReadRequests

/-!
The requests of the phones. A packet comes in on a connection of its own, its
handler writes a length and that many bytes, and the connection is closed. An
exception that leaves a handler is logged, and nothing is written for it.
-/

namespace UCLinux.Phones

open Sql Machine
open Ocpp (Server Outcome Lib split stoi)
open Ocpp.CentralOcppDB (PCSItem)
open Fleet (FleetDB ClsLoginMD PEmpl)

/-- The requests the switch has a case for. -/
inductive HttpRequestNumber where
  | login
  | registerMD
  | logout
  | hbReq
  | sendTimeLogs
  | sendEmpRow
  | emails
  | getActivities
  | updateActivitesStatusList
  | getWorkOrderTrip
  | getAllHosEvents
  | getChargeStationsStatistics
  | sendOcppCommandRequest
  | send4VeicleInfo
  | requestGetImagesFromServer
  | sendInspectionReports
  | loadMapTileData
  | sendFCMData
  deriving DecidableEq, Repr

def HttpRequestNumber.ofInt (req : Int) : Option HttpRequestNumber :=
  if req = 1 then some .login
  else if req = 2 then some .registerMD
  else if req = 3 then some .logout
  else if req = 10 then some .hbReq
  else if req = 21 then some .sendTimeLogs
  else if req = 23 then some .sendEmpRow
  else if req = 41 then some .emails
  else if req = 50 then some .getActivities
  else if req = 51 then some .updateActivitesStatusList
  else if req = 56 then some .getWorkOrderTrip
  else if req = 60 then some .getAllHosEvents
  else if req = 70 then some .getChargeStationsStatistics
  else if req = 71 then some .sendOcppCommandRequest
  else if req = 81 then some .send4VeicleInfo
  else if req = 90 then some .requestGetImagesFromServer
  else if req = 100 then some .sendInspectionReports
  else if req = 150 then some .loadMapTileData
  else if req = 160 then some .sendFCMData
  else none

/-- The body of the handler is not commented out. -/
def HttpRequestNumber.Live : HttpRequestNumber → Bool
  | .login | .hbReq | .getActivities | .sendEmpRow | .getChargeStationsStatistics
  | .sendOcppCommandRequest | .loadMapTileData | .sendFCMData => true
  | .registerMD | .logout | .sendTimeLogs | .emails | .updateActivitesStatusList
  | .getWorkOrderTrip | .getAllHosEvents | .send4VeicleInfo | .requestGetImagesFromServer
  | .sendInspectionReports => false

structure CommPacket where
  req : Int
  cid : Int := 0
  rid : Int := 0
  user : Text := []
  payload : Text := []
  deriving DecidableEq, Repr

structure RttHB where
  rid : Int := 0
  devtype : Int := 0
  deriving DecidableEq, Repr

structure RttHBResp where
  res : Int
  rid : Int
  csList : List PCSItem
  deriving DecidableEq, Repr

/-- A reply: the text that is sent or the message whose bytes are. -/
inductive PhoneReply where
  | text (t : Text)
  | login (lgn : ClsLoginMD)
  | heartbeat (response : RttHBResp)
  | central (reply : Ocpp.Reply)
  deriving DecidableEq, Repr

/-- The server with its databases and what was written to one connection. -/
structure Process where
  server : Server
  fleet : FleetDB
  socket : List PhoneReply

/-- Everything outside the process: what is outside its two databases, how
protobuf reads a payload, and the stored tiles. -/
structure Env where
  central : Ocpp.Env
  fleet : Fleet.Env
  loginMD : Text → ClsLoginMD
  rttHB : Text → RttHB
  pempl : Text → PEmpl
  reparse : Text → Text
  tile : Int → Int → Int → Text

abbrev Act (α : Type) : Type := Action Process α

def onServer {α : Type} : Server.Act α → Act α :=
  Action.zoom Process.server fun s t => { s with server := t }

def onFleet {α : Type} : FleetDB.Act α → Act α :=
  Action.zoom Process.fleet fun s t => { s with fleet := t }

/-- The length and the bytes of a reply. -/
def sendResponse (resp : PhoneReply) : Act Unit :=
  Action.put fun s => { s with socket := s.socket ++ [resp] }

/-- A reply, and the end of the handler. -/
def respond (resp : PhoneReply) : Act Outcome := do
  sendResponse resp
  pure (.returns 1)

section Handlers

variable (L : Lib) (E : Env) (commP : CommPacket)

def processLogin : Act Outcome := do
  let lgn ← onFleet (Fleet.processLogin E.fleet (E.loginMD commP.payload))
  respond (.login lgn)

/-- `MOBILE_WORKERS` is 3. -/
def processHB : Act Outcome :=
  let mhb := E.rttHB commP.payload
  if mhb.devtype = 3 then do
    let polled ← onServer (Ocpp.CentralOcppDB.getAllChargeStationsUpdMob E.central commP.cid)
    respond (.heartbeat ⟨2, mhb.rid, polled.2⟩)
  else respond (.text "OK")

def processFCMData : Act Outcome := do
  onFleet (Fleet.FleetEmployeeDB.updateFCMLoginStsById E.fleet commP.rid commP.payload)
  respond (.text "OK")

def getChargeStationsFromDBMob : Act Outcome := do
  let reply ← onServer (Ocpp.getChargeStationsFromDBMob E.central commP.cid)
  respond (.central reply)

def getChargeStationsStatisticsFromDBMob : Act Outcome := do
  let reply ← onServer
    (Ocpp.getChargeStationsStatistics E.central commP.cid commP.user E.reparse)
  respond (.central reply)

def sendEmpProfileFromMobile : Act Outcome := do
  let resp ← onFleet (Fleet.sendEmpProfileFromMobile E.fleet (E.pempl commP.payload))
  respond (.text resp)

/-- The number a command ends with, or a star. -/
def commandReply (cmd par1 rv : Int) : Text :=
  if 0 < rv ∧ 0 < cmd then "OCPP" ++ decimal cmd ++ decimal par1 ++ "|" ++ decimal rv else "*"

def sendOcppCommandRequestMob : Act Outcome :=
  match split commP.payload '|' with
  | v₀ :: v₁ :: par2 :: _ =>
    match stoi v₀, stoi v₁ with
    | some cmd, some par1 =>
      if cmd = 103 ∧ par1 = 203 then do
        let reply ← onServer (Ocpp.getProfileMob E.central commP.user)
        respond (.central reply)
      else do
        let rv ← onServer
          (Ocpp.createSendOcppCommandfromMob L E.central commP.user commP.cid cmd par1 par2)
        match rv with
        | .returns rv => respond (.text (commandReply cmd par1 rv))
        | .throws => pure .throws
        | .undefined => pure .undefined
    | _, _ => pure .throws
  | _ => respond (.text (commandReply (-1) (-1) (-1)))

def sendTile (z x y : Int) : Act Outcome :=
  if ¬(0 ≤ z ∧ 0 ≤ x ∧ 0 ≤ y) then respond (.text "*")
  else respond (.text (if E.tile z x y = [] then "*" else E.tile z x y))

def processTileDownload : Act Outcome :=
  match split commP.payload '_' with
  | v₀ :: v₁ :: v₂ :: _ =>
    match stoi v₀, stoi v₁, stoi v₂ with
    | some z, some x, some y => sendTile E z x y
    | _, _, _ => pure .throws
  | _ => sendTile E (-1) (-1) (-1)

/-- The switch of `process_tcp_listener_request`; the handlers whose bodies are
commented out write nothing. -/
def processTcpListenerRequest : Act Outcome :=
  match HttpRequestNumber.ofInt commP.req with
  | some .login => processLogin E commP
  | some .hbReq => processHB E commP
  | some .getActivities => getChargeStationsFromDBMob E commP
  | some .sendEmpRow => sendEmpProfileFromMobile E commP
  | some .getChargeStationsStatistics => getChargeStationsStatisticsFromDBMob E commP
  | some .sendOcppCommandRequest => sendOcppCommandRequestMob L E commP
  | some .loadMapTileData => processTileDownload E commP
  | some .sendFCMData => processFCMData E commP
  | some _ | none => pure (.returns 0)

end Handlers

/-! ## Commands that return -/

/-- A command returns a number exactly under a condition. -/
def ReturnsWhen (x : Server.Act Outcome) (p : Prop) : Prop :=
  ∀ k, (∃ n, (x k).1 = .returns n) ↔ p

namespace ReturnsWhen

theorem returns (n : Int) : ReturnsWhen (pure (.returns n)) True :=
  fun _ => ⟨fun _ => trivial, fun _ => ⟨n, rfl⟩⟩

theorem ends {o : Outcome} (h : ∀ n, o ≠ .returns n) : ReturnsWhen (pure o) False :=
  fun _ => ⟨fun ⟨n, hn⟩ => h n hn, False.elim⟩

theorem bind {α : Type} {x : Server.Act α} {f : α → Server.Act Outcome} {p : Prop}
    (hf : ∀ a, ReturnsWhen (f a) p) : ReturnsWhen (x >>= f) p :=
  fun k => hf _ (x k).2

theorem ite {c : Prop} [Decidable c] {x y : Server.Act Outcome} {p q : Prop}
    (hx : ReturnsWhen x p) (hy : ReturnsWhen y q) :
    ReturnsWhen (if c then x else y) (if c then p else q) := by
  split
  · exact hx
  · exact hy

theorem congr {x : Server.Act Outcome} {p q : Prop} (hx : ReturnsWhen x p) (hpq : p ↔ q) :
    ReturnsWhen x q :=
  fun k => (hx k).trans hpq

/-- A request is sent once it is built. -/
theorem createAndSend {E : Ocpp.Env} {create : Server.Act (Option Ocpp.Created)} {p : Prop}
    (h : ∀ k, (create k).1.isSome ↔ p) (serN : Text) (fwUpdate : Bool) :
    ReturnsWhen (Ocpp.createAndSend E create serN fwUpdate) p := by
  intro k
  rw [← h k]
  unfold Ocpp.createAndSend
  rw [Action.bind_apply]
  cases hcreated : (create k).1 with
  | none =>
    constructor
    · rintro ⟨n, hn⟩
      cases hn
    · intro hsome
      cases hsome
  | some c => exact ⟨fun _ => rfl, fun _ => ⟨_, rfl⟩⟩

end ReturnsWhen

/-- A builder that checks its texts first. -/
theorem guarded_isSome {c : Prop} [Decidable c] {create : Server.Act Ocpp.Created}
    (k : Session Server) :
    ((if c then (do
      let r ← create
      pure (some r)) else pure none : Server.Act (Option Ocpp.Created)) k).1.isSome ↔ c := by
  split
  · next hc => exact ⟨fun _ => hc, fun _ => rfl⟩
  · next hc => exact ⟨fun hsome => (by cases hsome), fun h => absurd h hc⟩

/-- The tag of a start fits its field; where there is none, `prcd` returns. -/
def StartOk (prcd : Text → Bool) (serN par2 : Text) : Prop :=
  match split serN '*' with
  | _ :: idTag :: _ => Ocpp.schemaStringAccepts 20 idTag
  | _ => prcd par2

/-- The items of a profile command; a save with fewer than three does
nothing. -/
def SaveOk (serN : Text) : Prop :=
  match split serN ',' with
  | _ :: id :: _ :: _ => (stoi id).isSome
  | _ => True

def ClearOk (serN : Text) : Prop :=
  match split serN ',' with
  | _ :: id :: _ :: _ => (stoi id).isSome
  | _ => False

/-- The commands of a phone that come to an end. -/
def CommandOk (prcd : Text → Bool) (serN : Text) (cmd par1 : Int) (par2 : Text) : Prop :=
  (cmd = 102 → par1 = 1 → StartOk prcd serN par2) ∧
  (cmd = 103 → (par1 = 200 → SaveOk serN) ∧ (par1 = 201 → ClearOk serN))

section Commands

variable {L : Lib} {E : Ocpp.Env}

theorem sendRemoteTransaction_returns (serN : Text) (par1 : Int) (par2 : Text) :
    ReturnsWhen (Ocpp.sendRemoteTransaction L E serN par1 par2)
      (par1 = 1 → StartOk L.prcd serN par2) := by
  unfold Ocpp.sendRemoteTransaction
  by_cases hstop : par1 = 0
  · rw [if_pos hstop]
    exact (ReturnsWhen.createAndSend (p := True) (fun _ => by simp [
      Ocpp.createRemoteStopTransactionRequest]) _ _).congr (by simp [hstop])
  · rw [if_neg hstop]
    by_cases hstart : par1 = 1
    · rw [if_pos hstart]
      unfold StartOk
      have hdata : ReturnsWhen (if L.prcd par2 then do
          let sent ← Ocpp.createAndSend E
            (Ocpp.createDataTransferRequest L E {} "13" (decimal 0x41)) serN false
          pure (if sent = .throws then .throws else .returns (-1))
        else pure .throws) (L.prcd par2) := by
        split
        case isFalse hthrows => exact (ReturnsWhen.ends (by simp)).congr (by simp [hthrows])
        case isTrue hprcd =>
        refine ReturnsWhen.congr ?_ (iff_of_true trivial hprcd)
        intro k
        have hcreate : ∀ k, (Ocpp.createDataTransferRequest L E {} "13" (decimal 0x41)
            k).1.isSome ↔ True := by
          intro k
          unfold Ocpp.createDataTransferRequest
          exact (guarded_isSome k).trans (iff_true_intro (by decide))
        obtain ⟨n, hn⟩ := (ReturnsWhen.createAndSend hcreate serN false k).mpr trivial
        rw [Action.bind_apply, hn]
        exact ⟨fun _ => trivial, fun _ => ⟨-1, rfl⟩⟩
      rcases split serN '*' with _ | ⟨sern, _ | ⟨idTag, rest⟩⟩
      · exact hdata.congr (by simp [hstart])
      · exact hdata.congr (by simp [hstart])
      · have hcreate : ∀ k, (Ocpp.createRemoteStartTransactionRequest L E {} idTag
            k).1.isSome ↔ Ocpp.schemaStringAccepts 20 idTag := by
          intro k
          unfold Ocpp.createRemoteStartTransactionRequest
          exact guarded_isSome k
        exact (ReturnsWhen.createAndSend hcreate sern false).congr (by simp [hstart])
    · rw [if_neg hstart]
      exact (ReturnsWhen.returns _).congr (by simp [hstart])

theorem saveProfile_returns (serN : Text) (cid : Int) (par2 : Text) :
    ReturnsWhen (Ocpp.saveProfile E serN cid par2) (SaveOk serN) := by
  unfold Ocpp.saveProfile SaveOk
  rcases split serN ',' with _ | ⟨sern, _ | ⟨id, _ | ⟨profName, rest⟩⟩⟩
  · exact .returns _
  · exact .returns _
  · exact .returns _
  · dsimp only
    cases stoi id with
    | none => exact (ReturnsWhen.ends (o := .throws) (by simp)).congr (by simp)
    | some profileId => exact (ReturnsWhen.bind fun _ => .returns _).congr (by simp)

theorem clearProfile_returns (serN : Text) :
    ReturnsWhen (Ocpp.clearProfile E serN) (ClearOk serN) := by
  unfold Ocpp.clearProfile ClearOk
  rcases split serN ',' with _ | ⟨sern, _ | ⟨id, _ | ⟨profName, rest⟩⟩⟩
  · exact .ends (by simp)
  · exact .ends (by simp)
  · exact .ends (by simp)
  · dsimp only
    cases stoi id with
    | none => exact (ReturnsWhen.ends (o := .throws) (by simp)).congr (by simp)
    | some _ => exact (ReturnsWhen.bind fun _ => .returns _).congr (by simp)

theorem simpleCommand_returns (serN : Text) (cid par1 : Int) (par2 : Text) :
    ReturnsWhen (if par1 = 200 then Ocpp.saveProfile E serN cid par2
      else if par1 = 201 then Ocpp.clearProfile E serN
      else if par1 = 202 then Ocpp.newProfile E cid
      else pure (.returns (-1)))
      ((par1 = 200 → SaveOk serN) ∧ (par1 = 201 → ClearOk serN)) := by
  have hrest : ReturnsWhen (if par1 = 202 then Ocpp.newProfile E cid
      else pure (.returns (-1))) True := by
    apply (ReturnsWhen.ite (c := par1 = 202) (.bind fun _ => .returns _) (.returns _)).congr
    simp
  refine (ReturnsWhen.ite (saveProfile_returns serN cid par2)
    (ReturnsWhen.ite (clearProfile_returns serN) hrest)).congr ?_
  split
  · next hsave => simp [hsave]
  · next hsave =>
    split
    · next hclear => simp [hclear]
    · next hclear => simp [hsave, hclear]

theorem decimal_accepted {n : Int} (hn : -(2 ^ 31) ≤ n ∧ n < 2 ^ 31) :
    Ocpp.schemaStringAccepts 500 (cstr (decimal n)) := by
  have hnul : '\x00' ∉ decimal n := not_mem_decimal (by decide) (by decide) n
  have hpos : 0 < (Nat.toDigits 10 n.natAbs).length := Nat.length_toDigits_pos
  have hlength : (Nat.toDigits 10 n.natAbs).length ≤ 10 := by
    apply (Nat.length_toDigits_le_iff (by decide) (by decide)).mpr
    omega
  rw [cstr_of_no_nul hnul]
  unfold Ocpp.schemaStringAccepts decimal
  split
  · rw [List.length_cons]
    exact decide_eq_true ⟨by omega, by omega⟩
  · exact decide_eq_true ⟨by omega, by omega⟩

theorem createSendOcppCommandfromMob_returns (serN : Text) (cid cmd : Int) {par1 : Int}
    (hpar : -(2 ^ 31) ≤ par1 ∧ par1 < 2 ^ 31) (par2 : Text) :
    ReturnsWhen (Ocpp.createSendOcppCommandfromMob L E serN cid cmd par1 par2)
      (CommandOk L.prcd serN cmd par1 par2) := by
  unfold Ocpp.createSendOcppCommandfromMob CommandOk
  apply ReturnsWhen.bind
  intro ip
  apply ReturnsWhen.bind
  intro uid
  by_cases hlimit : cmd = 101
  · subst hlimit
    exact (ReturnsWhen.bind fun _ => .returns _).congr (by simp)
  by_cases hremote : cmd = 102
  · subst hremote
    exact (sendRemoteTransaction_returns serN par1 par2).congr (by simp)
  by_cases hsimple : cmd = 103
  · subst hsimple
    exact (simpleCommand_returns serN cid par1 par2).congr (by simp)
  have hother : True ↔ (cmd = 102 → par1 = 1 → StartOk L.prcd serN par2) ∧
      (cmd = 103 → (par1 = 200 → SaveOk serN) ∧ (par1 = 201 → ClearOk serN)) := by
    simp [hremote, hsimple]
  unfold Ocpp.OcppCommand.ofInt
  rw [if_neg hlimit, if_neg hremote, if_neg hsimple]
  by_cases hinterval : cmd = 104
  · rw [if_pos hinterval]
    refine (ReturnsWhen.createAndSend (p := True) (fun k => ?_) serN false).congr hother
    unfold Ocpp.createChangeConfigurationRequest
    refine (guarded_isSome k).trans (iff_true_intro ⟨by decide, ?_⟩)
    exact decimal_accepted hpar
  · rw [if_neg hinterval]
    exact (ReturnsWhen.returns _).congr hother

end Commands

/-! ## One reply -/

/-- The handler has come to an end and one reply has been written. -/
structure Answered (before : Process) (run : Outcome × Session Process) : Prop where
  reply : ∃ resp, run.2.state.socket = before.socket ++ [resp]
  returned : ∃ n, run.1 = .returns n

def AnswersWhen (x : Act Outcome) (p : Prop) : Prop := ∀ k, Answered k.state (x k) ↔ p

/-- Nothing is written. -/
def Quiet (s t : Process) : Prop := t.socket = s.socket

theorem onServer_quiet {α : Type} (x : Server.Act α) : Action.Within Quiet (onServer x) :=
  fun _ => rfl

theorem onFleet_quiet {α : Type} (x : FleetDB.Act α) : Action.Within Quiet (onFleet x) :=
  fun _ => rfl

namespace AnswersWhen

theorem respond (resp : PhoneReply) : AnswersWhen (respond resp) True :=
  fun _ => ⟨fun _ => trivial, fun _ => ⟨⟨resp, rfl⟩, ⟨1, rfl⟩⟩⟩

theorem ends {o : Outcome} (h : ∀ n, o ≠ .returns n) : AnswersWhen (pure o) False := by
  refine fun k => ⟨fun hans => ?_, False.elim⟩
  obtain ⟨n, hn⟩ := hans.returned
  exact h n hn

theorem congr {x : Act Outcome} {p q : Prop} (hx : AnswersWhen x p) (hpq : p ↔ q) :
    AnswersWhen x q :=
  fun k => (hx k).trans hpq

theorem bind {α : Type} {x : Act α} {f : α → Act Outcome} {p : Prop}
    (hx : Action.Within Quiet x) (hf : ∀ a, AnswersWhen (f a) p) : AnswersWhen (x >>= f) p := by
  intro k
  rw [← hf (x k).1 (x k).2]
  have hquiet : (x k).2.state.socket = k.state.socket := hx k
  constructor
  · rintro ⟨hreply, hreturned⟩
    exact ⟨by rw [hquiet]; exact hreply, hreturned⟩
  · rintro ⟨hreply, hreturned⟩
    rw [hquiet] at hreply
    exact ⟨hreply, hreturned⟩

end AnswersWhen

section Answers

variable {L : Lib} {E : Env} {commP : CommPacket}

theorem processLogin_answers : AnswersWhen (processLogin E commP) True :=
  .bind (onFleet_quiet _) fun _ => .respond _

theorem processHB_answers : AnswersWhen (processHB E commP) True := by
  unfold processHB
  dsimp only
  split
  · exact .bind (onServer_quiet _) fun _ => .respond _
  · exact .respond _

theorem processFCMData_answers : AnswersWhen (processFCMData E commP) True :=
  .bind (onFleet_quiet _) fun _ => .respond _

theorem getChargeStationsFromDBMob_answers :
    AnswersWhen (getChargeStationsFromDBMob E commP) True :=
  .bind (onServer_quiet _) fun _ => .respond _

theorem getChargeStationsStatisticsFromDBMob_answers :
    AnswersWhen (getChargeStationsStatisticsFromDBMob E commP) True :=
  .bind (onServer_quiet _) fun _ => .respond _

theorem sendEmpProfileFromMobile_answers : AnswersWhen (sendEmpProfileFromMobile E commP) True :=
  .bind (onFleet_quiet _) fun _ => .respond _

theorem sendTile_answers (z x y : Int) : AnswersWhen (sendTile E z x y) True := by
  unfold sendTile
  split <;> exact .respond _

/-- The three numbers of a tile, when there are three. -/
def TileOk (payload : Text) : Prop :=
  match split payload '_' with
  | v₀ :: v₁ :: v₂ :: _ => (stoi v₀).isSome ∧ (stoi v₁).isSome ∧ (stoi v₂).isSome
  | _ => True

theorem processTileDownload_answers :
    AnswersWhen (processTileDownload E commP) (TileOk commP.payload) := by
  unfold processTileDownload TileOk
  rcases split commP.payload '_' with _ | ⟨v₀, _ | ⟨v₁, _ | ⟨v₂, rest⟩⟩⟩
  · exact sendTile_answers _ _ _
  · exact sendTile_answers _ _ _
  · exact sendTile_answers _ _ _
  · dsimp only
    have hthrows : AnswersWhen (pure .throws) False := .ends (by simp)
    cases stoi v₀ with
    | none => exact hthrows.congr (by simp)
    | some z =>
      cases stoi v₁ with
      | none => exact hthrows.congr (by simp)
      | some x =>
        cases stoi v₂ with
        | none => exact hthrows.congr (by simp)
        | some y => exact (sendTile_answers z x y).congr (by simp)

/-- The payloads of a command that are answered: the first two of three items
are numbers, and unless they ask for the profile of a station the command comes
to an end. -/
def PayloadOk (prcd : Text → Bool) (user payload : Text) : Prop :=
  match split payload '|' with
  | v₀ :: v₁ :: par2 :: _ => ∃ cmd par1, stoi v₀ = some cmd ∧ stoi v₁ = some par1 ∧
      CommandOk prcd user cmd par1 par2
  | _ => True

theorem stoi_range {t : Text} {n : Int} (h : stoi t = some n) : -(2 ^ 31) ≤ n ∧ n < 2 ^ 31 := by
  unfold stoi at h
  split at h
  · next m _ =>
    split at h
    · next hm => exact Option.some.inj h ▸ hm
    · cases h
  · cases h

/-- What is made of the end of a command. -/
theorem command_answers {x : Server.Act Outcome} {p : Prop} (hx : ReturnsWhen x p)
    (resp : Int → PhoneReply) :
    AnswersWhen (do
      let rv ← onServer x
      match rv with
      | .returns rv => respond (resp rv)
      | .throws => pure .throws
      | .undefined => pure .undefined) p := by
  intro k
  rw [← hx ⟨k.state.server, k.asked⟩]
  rw [Action.bind_apply]
  have hquiet : (onServer x k).2.state.socket = k.state.socket := onServer_quiet x k
  have hvalue : (onServer x k).1 = (x ⟨k.state.server, k.asked⟩).1 := rfl
  rw [hvalue]
  cases (x ⟨k.state.server, k.asked⟩).1 with
  | returns n =>
    refine ⟨fun _ => ⟨n, rfl⟩, fun _ => ⟨⟨resp n, ?_⟩, ⟨1, rfl⟩⟩⟩
    exact congrArg (· ++ [resp n]) hquiet
  | throws =>
    constructor
    · rintro ⟨-, n, hn⟩
      cases hn
    · rintro ⟨n, hn⟩
      cases hn
  | undefined =>
    constructor
    · rintro ⟨-, n, hn⟩
      cases hn
    · rintro ⟨n, hn⟩
      cases hn

theorem sendOcppCommandRequestMob_answers :
    AnswersWhen (sendOcppCommandRequestMob L E commP)
      (PayloadOk L.prcd commP.user commP.payload) := by
  unfold sendOcppCommandRequestMob PayloadOk
  rcases split commP.payload '|' with _ | ⟨v₀, _ | ⟨v₁, _ | ⟨par2, rest⟩⟩⟩
  · exact .respond _
  · exact .respond _
  · exact .respond _
  · dsimp only
    have hthrows : AnswersWhen (pure .throws) False := .ends (by simp)
    cases hcmd : stoi v₀ with
    | none => exact hthrows.congr (by simp)
    | some cmd =>
      cases hpar : stoi v₁ with
      | none => exact hthrows.congr (by simp)
      | some par1 =>
        simp only [Option.some.injEq, exists_and_left, exists_eq_left']
        split
        · next hprofile =>
          refine (AnswersWhen.bind (onServer_quiet _) fun _ => .respond _).congr ?_
          obtain ⟨rfl, rfl⟩ := hprofile
          simp [CommandOk]
        · exact command_answers (createSendOcppCommandfromMob_returns _ _ _
            (stoi_range hpar) _) _

/-- The packets whose handler answers. -/
def CommPacket.Ok (prcd : Text → Bool) (commP : CommPacket) : Prop :=
  match HttpRequestNumber.ofInt commP.req with
  | some .sendOcppCommandRequest => PayloadOk prcd commP.user commP.payload
  | some .loadMapTileData => TileOk commP.payload
  | _ => True

/-- A request with a live handler is answered once, and the handler returns,
exactly when the numbers it consists of are numbers and the command it carries
comes to an end. -/
theorem request_answered_iff (L : Lib) (E : Env) (p : Process) (commP : CommPacket)
    {n : HttpRequestNumber} (hreq : HttpRequestNumber.ofInt commP.req = some n) (hlive : n.Live) :
    Answered p (processTcpListenerRequest L E commP ⟨p, 0⟩) ↔ commP.Ok L.prcd := by
  have hanswers : AnswersWhen (processTcpListenerRequest L E commP) (commP.Ok L.prcd) := by
    unfold processTcpListenerRequest CommPacket.Ok
    rw [hreq]
    cases n with
    | login => exact processLogin_answers
    | hbReq => exact processHB_answers
    | getActivities => exact getChargeStationsFromDBMob_answers
    | sendEmpRow => exact sendEmpProfileFromMobile_answers
    | getChargeStationsStatistics => exact getChargeStationsStatisticsFromDBMob_answers
    | sendOcppCommandRequest => exact sendOcppCommandRequestMob_answers
    | loadMapTileData => exact processTileDownload_answers
    | sendFCMData => exact processFCMData_answers
    | registerMD | logout | sendTimeLogs | emails | updateActivitesStatusList
    | getWorkOrderTrip | getAllHosEvents | send4VeicleInfo | requestGetImagesFromServer
    | sendInspectionReports => cases hlive
  exact hanswers ⟨p, 0⟩

end Answers

/-- Nothing fails, nothing is stored and no payload holds a message. -/
def Env.calm : Env where
  central := .calm
  fleet := .calm
  loginMD := fun _ => {}
  rttHB := fun _ => {}
  pempl := fun _ => {}
  reparse := id
  tile := fun _ _ _ => []

def Process.started : Process := ⟨.empty, .created, []⟩

/-- A tile that is not stored, and a start with a tag. -/
theorem request_answered_iff_tile :
    Answered .started (processTcpListenerRequest .refusing .calm
      { req := 150, payload := "3_4_5" } ⟨.started, 0⟩) ∧
    Answered .started (processTcpListenerRequest .refusing .calm
      { req := 71, user := "GRS-1*T", payload := "102|1|x" } ⟨.started, 0⟩) := by
  constructor
  · exact (request_answered_iff .refusing .calm .started { req := 150, payload := "3_4_5" }
      (n := .loadMapTileData) (by decide) (by decide)).mpr ⟨by decide, by decide, by decide⟩
  · have hpayload : split "102|1|x" '|' = ["102", "1", "x"] := by decide +kernel
    have htag : split "GRS-1*T" '*' = ["GRS-1", "T"] := by decide +kernel
    have hok : PayloadOk Ocpp.Lib.refusing.prcd "GRS-1*T" "102|1|x" := by
      unfold PayloadOk CommandOk StartOk
      rw [hpayload, htag]
      have hfits : Ocpp.schemaStringAccepts 20 "T" := by decide
      exact ⟨102, 1, by decide +kernel, by decide +kernel, fun _ _ => hfits,
        fun h => absurd h (by decide)⟩
    exact (request_answered_iff .refusing .calm .started
      { req := 71, user := "GRS-1*T", payload := "102|1|x" } (n := .sendOcppCommandRequest)
      (by decide) (by decide)).mpr hok

/-- A command that is not a number. -/
theorem command_unanswered :
    ¬Answered .started (processTcpListenerRequest .refusing .calm
      { req := 71, user := "GRS-1", payload := "start|1|x" } ⟨.started, 0⟩) := by
  rintro ⟨-, n, hn⟩
  cases hn

end UCLinux.Phones
