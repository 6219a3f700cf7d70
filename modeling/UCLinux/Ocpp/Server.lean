import UCLinux.Ocpp.Message

/-!
The state of the server: the tables of its two databases, the queue of
requests it has sent, its open connections and the frames it has handed to
the transport. `Env` is everything outside: failures of the databases and of
sends, what SQLite makes of statements altered by a quote, the clock and the
random numbers.
-/

namespace UCLinux.Ocpp

open Sql Machine

/-- A row of CH_STATIONS. The coordinates are the bits of their doubles.
INSERT leaves the last four columns NULL. -/
structure ChStation where
  csSerN : Text
  caller : Text
  param1 : Text
  reference : Text
  type : Int
  address : Text
  instrs : Text
  certFlag : Int
  createdTS : Int
  lastUpdtdTS : Int
  latitude : UInt64
  longitude : UInt64
  clientID : Int
  status : Int
  serviceGroup : Int
  profID : Int
  objB : Text
  ipAddr : Text
  fwVer : Option Text
  tz : Option Int
  dls : Option Int
  updMob : Option Int
  deriving DecidableEq, Repr

/-- CSSerN is the primary key. -/
def ChStation.key (c : ChStation) : Option Text := some c.csSerN

/-- One station only has a serial number. -/
theorem ChStation.select_serial {t : Table ChStation.key} {r : Row ChStation} (hr : r ∈ t.rows)
    {sern : Text} (hser : r.cols.csSerN = sern) : t.select (·.cols.csSerN = sern) = [r] :=
  t.select_eq_singleton hr (decide_eq_true hser) fun _ hq hqser =>
    t.eq_of_key hq hr (congrArg some (of_decide_eq_true hqser)) (congrArg some hser)

/-- A station that has a serial number, an endpoint and an owner only. -/
def ChStation.plain (csSerN ipAddr : Text) (clientID : Int) : ChStation where
  csSerN := csSerN
  caller := []
  param1 := []
  reference := []
  type := 0
  address := []
  instrs := []
  certFlag := 0
  createdTS := 0
  lastUpdtdTS := 0
  latitude := 0
  longitude := 0
  clientID := clientID
  status := 0
  serviceGroup := 0
  profID := 0
  objB := []
  ipAddr := ipAddr
  fwVer := none
  tz := none
  dls := none
  updMob := none

/-- A row of CSProfTbl; its ID is the rowid. -/
structure CSProfile where
  profName : Text
  ts : Int
  data : Text
  clientID : Int
  deriving DecidableEq, Repr

structure CSHist where
  csSerN : Text
  ts : Int
  ipAddr : Text
  action : Text
  csSts : Text
  errCode : Text
  rtValues : Text
  deriving DecidableEq, Repr

structure StartTr where
  hRowId : Int
  connectorId : Int
  idTag : Text
  meterStart : Int
  reservationId : Int
  ts : Int
  deriving DecidableEq, Repr

structure StopTr where
  hRowId : Int
  transactionId : Int
  idTag : Text
  meterStop : Int
  ts : Int
  reason : Text
  transactionData : Text
  deriving DecidableEq, Repr

structure MeterV where
  csSerN : Text
  hRowId : Int
  transactionId : Int
  connectorId : Int
  meterValue : Text
  flag : Int
  deriving DecidableEq, Repr

/-- The key of a table that has none. -/
def noKey {α : Type} (_ : α) : Option Unit := none

/-- The text of a peer's address and port. -/
structure Endpoint where
  text : Text
  nonempty : text ≠ []
  noQuote : '\'' ∉ text
  noNul : '\x00' ∉ text
  known : text ≠ "Unknown"

@[ext] theorem Endpoint.ext {a b : Endpoint} (h : a.text = b.text) : a = b := by
  cases a
  cases b
  cases h
  rfl

instance : DecidableEq Endpoint := fun a b =>
  decidable_of_iff (a.text = b.text) ⟨Endpoint.ext, congrArg Endpoint.text⟩

/-- A websocket connection: its handle and the endpoint it comes from. -/
structure Connection where
  hdl : Nat
  endpoint : Endpoint
  deriving DecidableEq

/-- A peer on the loopback address. -/
def somePeer : Connection := ⟨0, ⟨"[::1]:5000", by decide, by decide, by decide, by decide⟩⟩

/-- A frame handed to the transport for a connection, and whether sending it
succeeded. -/
structure Delivery where
  receiver : Connection
  frame : Frame
  sent : Bool
  deriving DecidableEq

structure Server where
  chStations : Table ChStation.key
  csProf : Table (noKey (α := CSProfile))
  csHist : Table (noKey (α := CSHist))
  startTr : Table (noKey (α := StartTr))
  stopTr : Table (noKey (α := StopTr))
  meterV : Table (noKey (α := MeterV))
  requestQueue : List OcppRequest
  connections : List Connection
  wire : List Delivery

/-- Everything outside the server. The functions of a number are asked with
the number of questions before. A socket whose peer is lost cannot name it when
it is closed. -/
structure Env where
  raises : Nat → Option Nat
  chStations : Altered ChStation.key
  csProf : Altered (noKey (α := CSProfile))
  csHist : Altered (noKey (α := CSHist))
  startTr : Altered (noKey (α := StartTr))
  stopTr : Altered (noKey (α := StopTr))
  meterV : Altered (noKey (α := MeterV))
  clock : Nat → Int
  rand : Nat → Int
  sends : Nat → Bool
  ridit : Nat → Int
  peerLost : Bool

/-- Nothing raises, sends succeed, altered statements are refused, peers are
there to the end. -/
def Env.calm : Env where
  raises := fun _ => none
  chStations := Altered.refused _
  csProf := Altered.refused _
  csHist := Altered.refused _
  startTr := Altered.refused _
  stopTr := Altered.refused _
  meterV := Altered.refused _
  clock := fun _ => 0
  rand := fun _ => 0
  sends := fun _ => true
  ridit := fun _ => 0
  peerLost := false

/-- No database call raises. -/
def Env.Quiet (E : Env) : Prop := ∀ n, E.raises n = none

namespace Server

/-- A server just started over empty databases. -/
def empty : Server where
  chStations := Table.empty
  csProf := Table.empty
  csHist := Table.empty
  startTr := Table.empty
  stopTr := Table.empty
  meterV := Table.empty
  requestQueue := []
  connections := []
  wire := []

abbrev Act (α : Type) : Type := Action Server α

def CH_STATIONS : TableAt Server Env ChStation.key where
  get := chStations
  set s t := { s with chStations := t }
  get_set _ _ := rfl
  raises := Env.raises
  altered := Env.chStations

def CSProfTbl : TableAt Server Env (noKey (α := CSProfile)) where
  get := csProf
  set s t := { s with csProf := t }
  get_set _ _ := rfl
  raises := Env.raises
  altered := Env.csProf

def CSHistTbl : TableAt Server Env (noKey (α := CSHist)) where
  get := csHist
  set s t := { s with csHist := t }
  get_set _ _ := rfl
  raises := Env.raises
  altered := Env.csHist

def StartTrTbl : TableAt Server Env (noKey (α := StartTr)) where
  get := startTr
  set s t := { s with startTr := t }
  get_set _ _ := rfl
  raises := Env.raises
  altered := Env.startTr

def StopTrTbl : TableAt Server Env (noKey (α := StopTr)) where
  get := stopTr
  set s t := { s with stopTr := t }
  get_set _ _ := rfl
  raises := Env.raises
  altered := Env.stopTr

def MeterVTbl : TableAt Server Env (noKey (α := MeterV)) where
  get := meterV
  set s t := { s with meterV := t }
  get_set _ _ := rfl
  raises := Env.raises
  altered := Env.meterV

end Server

/-- A server with one station, which client 1 owns and which is connected. -/
def connectedStation : Server :=
  { Server.empty with
    chStations := ⟨[⟨1, .plain "GRS-1" "[::1]:5000" 1⟩], by decide, by decide⟩
    connections := [somePeer] }

/-- A reading of the clock. -/
def clockNow (E : Env) : Server.Act Int := Action.ask E.clock

/-- `CREATECONNECTION`: false when the database cannot be opened. -/
def createConnection (E : Env) : Server.Act Bool := connect E.raises

theorem clockNow_bind {α : Type} (E : Env) (f : Int → Server.Act α) (s : Session Server) :
    (clockNow E >>= f) s = f (E.clock s.asked) s.tick := rfl

/-- What is done on an open connection, and what without one. -/
theorem createConnection_bind {α : Type} (E : Env) (x y : Server.Act α)
    (s : Session Server) :
    (createConnection E >>= fun opened => if opened then x else y) s =
      if E.raises s.asked = none then x s.tick else y s.tick := by
  rw [Action.bind_apply, createConnection, connect_apply]
  cases E.raises s.asked <;> rfl

end UCLinux.Ocpp
