import UCLinux.Machine.Run
import UCLinux.Ocpp.Incoming

/-!
The websocket server: connections that open and close, text messages on them,
and the machine whose events are these, the commands of the web and the
mobile interface and the requests for station lists. Every event comes with
the environment it meets.
-/

namespace UCLinux.Ocpp

open Sql Machine Server CentralOcppDB

/-- An open connection names its peer. -/
def onOpen (E : Env) (con : Connection) : Act Unit := do
  let _ ← setChargeStationStatus E con.endpoint.text .available
  Action.put fun s => { s with connections := s.connections ++ [con] }

/-- `get_remote_endpoint` of a connection that was shut down. -/
def Env.getRemoteEndpoint (E : Env) (con : Connection) : Text :=
  if E.peerLost then "Unknown" else con.endpoint.text

theorem Env.getRemoteEndpoint_noQuote (E : Env) (con : Connection) :
    '\'' ∉ E.getRemoteEndpoint con := by
  unfold Env.getRemoteEndpoint
  split
  · decide
  · exact con.endpoint.noQuote

theorem Env.getRemoteEndpoint_noNul (E : Env) (con : Connection) :
    '\x00' ∉ E.getRemoteEndpoint con := by
  unfold Env.getRemoteEndpoint
  split
  · decide
  · exact con.endpoint.noNul

def onClose (E : Env) (con : Connection) : Act Unit := do
  let _ ← setChargeStationStatus E (E.getRemoteEndpoint con) .unavailable
  Action.put fun s => { s with connections := s.connections.filter (· ≠ con) }

def sendAll (E : Env) (con : Connection) : List Frame → Act Unit
  | [] => pure ()
  | f :: fs => do
    let _ ← sendTo E con f
    sendAll E con fs

def internalError (uid : Text) : Frame := .callError 4 uid "InternalError" "**" "{}"

/-- A text message; two bytes or less are ignored. -/
def onMessage (L : Lib) (E : Env) (con : Connection) (payload : Text) : Act Unit :=
  if payload.length ≤ 2 then pure ()
  else do
    let done ← processOCPPIncoming L E
      { reqStr := payload, remoteIP := con.endpoint.text } ⟨0, [], []⟩
    if done.rv then sendAll E con done.resp.respStr
    else do
      let _ ← sendTo E con (internalError done.req.uniqueID)
      pure ()

/-- The commands that make the server send a request. -/
inductive Command where
  | reserveNow (serN idTag : Text)
  | cancelReservation (serN : Text)
  | changeAvailability (serN : Text) (connId : Int) (flag : Bool)
  | reset (serN : Text) (flag : Bool)
  | changeConfiguration (serN key val : Text)
  | getCompositeSchedule (serN : Text)
  | testChargingProfile (serN : Text) (cmd : Int)
  | remoteStart (serN idTag : Text)
  | remoteStop (serN : Text)
  | updateTZ (serN : Text) (tz dls : Int)
  | updateFW (serN : Text) (cmd : Int)
  | configReq (serN forField : Text)
  | getLocalListVersion (serN : Text)
  | mobile (serN : Text) (cid cmd par1 : Int) (par2 : Text)

def Command.exec (L : Lib) (E : Env) : Command → Act Outcome
  | .reserveNow serN idTag => createReserveNowfromWeb L E serN idTag
  | .cancelReservation serN => createCancelReservationfromWeb L E serN
  | .changeAvailability serN connId flag => createChangeAvailabilityfromWeb L E serN connId flag
  | .reset serN flag => createResetfromWeb L E serN flag
  | .changeConfiguration serN key val =>
    createChangeConfigurationIntervalfromWeb L E serN key val
  | .getCompositeSchedule serN => createGetCompositeSchedulefromWeb E serN
  | .testChargingProfile serN cmd => createTestChargingProfilefromWeb L E serN cmd
  | .remoteStart serN idTag => createRemoteStartTransactionfromWeb L E serN idTag
  | .remoteStop serN => createRemoteStopTransactionfromWeb L E serN
  | .updateTZ serN tz dls => createUpdateTZfromWeb L E serN tz dls
  | .updateFW serN cmd => createUpdateFWRequestfromWeb L E serN cmd
  | .configReq serN forField => createConfigReqFromWeb L E serN forField
  | .getLocalListVersion serN => createGetLocalListVersionReqFromWeb L E serN
  | .mobile serN cid cmd par1 par2 => createSendOcppCommandfromMob L E serN cid cmd par1 par2

inductive Event where
  | opened (con : Connection)
  | closed (con : Connection)
  | message (con : Connection) (payload : Text)
  | command (cmd : Command)

def Event.exec (L : Lib) (E : Env) : Event → Act Unit
  | .opened con => onOpen E con
  | .closed con => onClose E con
  | .message con payload => onMessage L E con payload
  | .command cmd => do
    let _ ← cmd.exec L E
    pure ()

/-- The start of an event: nothing asked yet, nothing on the wire. -/
def Server.start (s : Server) : Session Server := ⟨{ s with wire := [] }, 0⟩

@[simp] theorem Server.start_asked (s : Server) : s.start.asked = 0 := rfl

@[simp] theorem Server.start_chStations (s : Server) :
    s.start.state.chStations = s.chStations := rfl

@[simp] theorem Server.start_csProf (s : Server) :
    s.start.state.csProf = s.csProf := rfl

@[simp] theorem Server.start_csHist (s : Server) :
    s.start.state.csHist = s.csHist := rfl

@[simp] theorem Server.start_startTr (s : Server) :
    s.start.state.startTr = s.startTr := rfl

@[simp] theorem Server.start_stopTr (s : Server) :
    s.start.state.stopTr = s.stopTr := rfl

@[simp] theorem Server.start_meterV (s : Server) :
    s.start.state.meterV = s.meterV := rfl

@[simp] theorem Server.start_requestQueue (s : Server) :
    s.start.state.requestQueue = s.requestQueue := rfl

@[simp] theorem Server.start_connections (s : Server) :
    s.start.state.connections = s.connections := rfl

@[simp] theorem Server.start_wire (s : Server) : s.start.state.wire = [] := rfl

/-- The state an action leaves, with the frames it sent on the wire. -/
def Server.after {α : Type} (s : Server) (act : Act α) : Server :=
  (act s.start).2.state

/-- One event of the server. -/
def Server.step (L : Lib) (s : Server) (e : Env × Event) : Server :=
  s.after (e.2.exec L e.1)

end UCLinux.Ocpp
