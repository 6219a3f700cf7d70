import UCLinux.Ocpp.History
import UCLinux.Ocpp.Outstanding
import UCLinux.Ocpp.Ownership

/-!
What a client of the web interface can reach. Its requests carry the id of the
client and a serial number, and the functions behind them pass the serial
number on without comparing the two. For every request this is the exact
condition on the tables and the open connections under which it sends to
stations of its client and deletes history of its client's stations only,
whatever the environment does.
-/

namespace UCLinux.Ocpp

open Sql Machine Server CentralOcppDB HistoryDB

/-- What the browser is told of a command; an exception leaves without a
reply. -/
def Outcome.reply : Outcome → Option Text
  | .returns n => some (if n ≠ 0 then "OK" else "*")
  | .throws => none
  | .undefined => none

/-- The branches of `doOcppCommand`. -/
def webCommand (csSerNumber : Text) (cmd : Int) : Option Command :=
  if 11 ≤ cmd ∧ cmd ≤ 13 then some (.updateFW csSerNumber cmd)
  else if cmd = 14 then some (.configReq csSerNumber "")
  else if cmd = 37 then some (.changeConfiguration csSerNumber "LocalPreAuthorize" "false")
  else if cmd = 15 then some (.getLocalListVersion csSerNumber)
  else if cmd = 16 then some (.remoteStart csSerNumber "DummyTag")
  else if cmd = 17 then some (.remoteStop csSerNumber)
  else if cmd = 18 then some (.reserveNow csSerNumber "DummyTag")
  else if cmd = 19 then some (.cancelReservation csSerNumber)
  else if cmd = 20 ∨ cmd = 21 then some (.changeAvailability csSerNumber 1 (cmd = 20))
  else if cmd = 22 then some (.reset csSerNumber false)
  else if 30 ≤ cmd ∧ cmd ≤ 34 then some (.testChargingProfile csSerNumber cmd)
  else if cmd = 35 then
    some (.changeConfiguration csSerNumber "HeartBeatInterval" (decimal 661))
  else if cmd = 36 then some (.getCompositeSchedule csSerNumber)
  else none

section Handlers

variable (L : Lib) (E : Env)

/-- The client id the request comes with is only printed. -/
def doOcppCommand (_cid cmd : Int) (csSerNumber : Text) : Act (Option Text) :=
  match webCommand csSerNumber cmd with
  | some command => do
    let rv ← command.exec L E
    pure rv.reply
  | none => pure (some "*")

/-- The reply is written before the request is built. -/
def updateTZ (_cid : Int) (sern : Text) (tz dls : Int) : Act (Option Text) := do
  let _ ← createUpdateTZfromWeb L E sern tz dls
  pure (some "OK:1")

def clearChargeStationsHistory (cid : Int) (sern : Text) : Act (Option Text) := do
  let rv ← clearAllChargeStationsHistory E cid sern
  pure (some (if 0 < rv then "OK" else "*"))

end Handlers

/-- A request of the browser, without its client id and its serial number. -/
inductive WebRequest where
  | doOcppCommand (cmd : Int)
  | updateTZ (tz dls : Int)
  | clearChargeStationsHistory

def WebRequest.exec (L : Lib) (E : Env) (cid : Int) (user : Text) :
    WebRequest → Act (Option Text)
  | .doOcppCommand cmd => Ocpp.doOcppCommand L E cid cmd user
  | .updateTZ tz dls => Ocpp.updateTZ L E cid user tz dls
  | .clearChargeStationsHistory => Ocpp.clearChargeStationsHistory E cid user

/-- A request for the serial number `N` that found `s` sent its CALLs on
routes of the client only, and deleted history of its stations only. -/
structure WebOwned (s : Server) (cid : Int) (N : Text) (after : Server) : Prop where
  frames : ∀ d ∈ after.wire, OwnedRoute s cid N d.receiver
  history : ∀ h ∈ s.csHist.rows, h ∉ after.csHist.rows →
    ∃ r ∈ s.chStations.rows, r.cols.csSerN = h.cols.csSerN ∧ r.cols.clientID = cid

/-- The history that the serial number reaches, which is all of it when the
literal ends early, is of stations of the client. -/
def HistoryOwned (s : Server) (cid : Int) (N : Text) : Prop :=
  ∀ h ∈ s.csHist.rows, h.cols.csSerN = cstr N ∨ '\'' ∈ cstr N →
    ∃ r ∈ s.chStations.rows, r.cols.csSerN = h.cols.csSerN ∧ r.cols.clientID = cid

/-- The condition of a request: a command number without a branch needs
none. -/
def WebRequest.Owned (s : Server) (cid : Int) (N : Text) : WebRequest → Prop
  | .doOcppCommand cmd => (webCommand N cmd).isSome → SendsOwned s cid N
  | .updateTZ _ _ => SendsOwned s cid N
  | .clearChargeStationsHistory => HistoryOwned s cid N

section Receivers

variable {L : Lib} {E : Env} {s : Server} {N : Text}

/-- Who a frame is handed to depends on the open connections only. -/
theorem sendResponse2Client_receivers (ip : Text) (frame : Frame) {k k' : Session Server}
    (hconnections : k'.state.connections = k.state.connections)
    (hwire : k'.state.wire = k.state.wire) :
    (sendResponse2Client E ip frame k').2.state.wire.map Delivery.receiver =
      (sendResponse2Client E ip frame k).2.state.wire.map Delivery.receiver := by
  have hfound : getOcppClientConnection ip k'.state = getOcppClientConnection ip k.state := by
    unfold getOcppClientConnection
    rw [hconnections]
  unfold sendResponse2Client
  rw [Action.bind_apply, Action.bind_apply, Action.look_apply, Action.look_apply, hfound]
  cases getOcppClientConnection ip k.state with
  | none => exact congrArg (List.map _) hwire
  | some con =>
    dsimp only
    rw [sendTo_apply, sendTo_apply]
    simp [hwire]

/-- Noting a firmware update changes nothing about who is sent the request. -/
theorem createAndSend_receivers (create : Act (Option Created)) (fw : Bool)
    (k : Session Server) :
    (createAndSend E create N fw k).2.state.wire.map Delivery.receiver =
      (createAndSend E create N false k).2.state.wire.map Delivery.receiver := by
  have hlookup (fw : Bool) : Writes [.chStations] (getIPAddrBySerNumber E N fw) :=
    getIPAddrBySerNumber_writes (by simp)
  unfold createAndSend
  rw [Action.bind_apply, Action.bind_apply]
  cases (create k).1 with
  | none => rfl
  | some c =>
    have hsame := getIPAddrBySerNumber_fst (E := E) (N := N) fw (create k).2
    rw [← getIPAddrBySerNumber_fst (E := E) (N := N) false (create k).2] at hsame
    have honly := hlookup fw (create k).2
    have honly' := hlookup false (create k).2
    dsimp only
    rw [Action.bind_apply, Action.bind_apply, hsame]
    apply sendResponse2Client_receivers
    · rw [honly.connections (by simp), honly'.connections (by simp)]
    · rw [honly.wire (by simp), honly'.wire (by simp)]

end Receivers

/-- In every environment the action sends on routes of `N` only and leaves the
history alone, and in some it sends on any of them. -/
structure Reaching (s : Server) (N : Text) (act : Env → Act Outcome) : Prop where
  writes : ∀ E, Writes [.chStations, .requestQueue, .wire] (act E)
  routed : ∀ E k, k.state.chStations = s.chStations → k.state.connections = s.connections →
    k.state.wire = [] → ∀ d ∈ (act E k).2.state.wire, Routed s N d.receiver
  reaches : ∀ ip, LeadsTo s N ip → Reaches s ip (act (.answering ip))

namespace Reaching

variable {L : Lib} {s : Server} {N : Text} {cid : Int}

theorem start {k : Session Server} (hstations : k.state.chStations = s.chStations)
    (hconnections : k.state.connections = s.connections) (hwire : k.state.wire = []) :
    Addressed s N k.state :=
  ⟨.of_same hstations, hconnections, by simp [hwire]⟩

theorem of_sends {act : Env → Act Outcome} (h : Sends s N act) : Reaching s N act where
  writes E := (h.writes E).mono (by simp)
  routed E k hstations hconnections hwire :=
    ((h.addressed E k (start hstations hconnections hwire)).2).wire
  reaches := h.reaches

/-- A request that is built whatever the state is. -/
theorem created {create : Env → Act (Option Created)} (h : ∀ E, Builds E (create E))
    (hsome : ∀ E k, (create E k).1 ≠ none) (fw : Bool) :
    Reaching s N fun E => createAndSend E (create E) N fw where
  writes E := createAndSend_writes ((h E).writes.mono (by simp)) (by simp) (by simp)
  routed E k hstations hconnections hwire := by
    have hsends : Sends s N fun E => createAndSend E (create E) N false := .created h hsome
    intro d hd
    have hmem := List.mem_map_of_mem (f := Delivery.receiver) hd
    rw [createAndSend_receivers] at hmem
    obtain ⟨d', hd', heq⟩ := List.mem_map.mp hmem
    rw [← heq]
    exact (of_sends hsends).routed E k hstations hconnections hwire d' hd'
  reaches ip hip := by
    have hsends : Sends s N fun E => createAndSend E (create E) N false := .created h hsome
    intro k hstations hconnections hopen
    obtain ⟨d, hd, hend⟩ := hsends.reaches ip hip k hstations hconnections hopen
    have hmem := List.mem_map_of_mem (f := Delivery.receiver) hd
    rw [← createAndSend_receivers _ fw] at hmem
    obtain ⟨d', hd', heq⟩ := List.mem_map.mp hmem
    exact ⟨d', hd', heq ▸ hend⟩

/-- A request that is built after the lookup. -/
theorem looked (action : Text) (payload : Env → Payload) :
    Reaching s N fun E => lookupAndSend L E N action (payload E) where
  writes E := .bind (getIPAddrBySerNumber_writes (by simp)) fun _ =>
    .bind (createCentralRequest_writes (by simp)) fun _ =>
      .bind (sendResponse2Client_writes (by simp)) fun _ => .pure _
  routed E k hstations hconnections hwire :=
    ((lookupAndSend_addressed action (payload E) k (start hstations hconnections hwire)).2).wire
  reaches ip hip := by
    unfold lookupAndSend
    apply Reaches.lookup hip
    apply Reaches.after (createCentralRequest_writes (by simp))
    exact fun _ => .map (.send _ _) _

/-- A request that is not queued. -/
theorem direct (frame : Frame) : Reaching s N fun E => do
    let ip ← getIPAddrBySerNumber E N false
    let ok ← sendResponse2Client E ip frame
    Pure.pure (.returns (if ok then 1 else 0)) where
  writes E := .bind (getIPAddrBySerNumber_writes (by simp)) fun _ =>
    .bind (sendResponse2Client_writes (by simp)) fun _ => .pure _
  routed E k hstations hconnections hwire := by
    have haddressed := start (N := N) hstations hconnections hwire
    obtain ⟨hip, hI⟩ := getIPAddrBySerNumber_leads (E := E) false (by simp) k haddressed
    exact (sendResponse2Client_addressed hip frame _ hI).2.wire
  reaches ip hip := by
    apply Reaches.lookup hip
    exact .map (.send _ _) _

/-- Reading before the request is built makes no difference. -/
theorem reads {β : Type} {x : Env → Act β} {f : Env → β → Act Outcome}
    (hx : ∀ E, Writes [] (x E)) (h : ∀ b : Env → β, Reaching s N fun E => f E (b E)) :
    Reaching s N fun E => x E >>= f E where
  writes E := by
    apply ((hx E).mono (by simp)).bind
    exact fun b => (h fun _ => b).writes E
  routed E k hstations hconnections hwire := by
    rw [(hx E).bind_apply]
    exact (h fun _ => (x E k).1).routed E _ hstations hconnections hwire
  reaches ip hip := by
    apply Reaches.after ((hx _).mono (by simp))
    exact fun k => (h fun _ => (x (.answering ip) k).1).reaches ip hip

end Reaching

/-- No builder of the command throws, and it is not a mobile one. -/
def Command.Fits : Command → Prop
  | .reserveNow _ idTag => schemaStringAccepts 20 idTag
  | .changeConfiguration _ key val =>
    schemaStringAccepts 50 (cstr key) ∧ schemaStringAccepts 500 (cstr val)
  | .remoteStart _ idTag => schemaStringAccepts 20 idTag
  | .mobile .. => False
  | _ => True

/-- Such a command reaches the routes of its serial number. -/
theorem Command.reaching {L : Lib} {s : Server} {command : Command} (h : command.Fits) :
    Reaching s command.serN fun E => command.exec L E := by
  cases command with
  | reserveNow serN idTag =>
    apply Reaching.created fun _ => createReserveNowRequest_builds _ _ _ _
    intro E k
    have hfits : schemaStringAccepts 20 idTag = true := h
    unfold createReserveNowRequest
    rw [clockNow_bind, if_pos hfits]
    exact Option.some_ne_none _
  | cancelReservation serN =>
    exact .created (fun _ => createCancelReservationRequest_builds _ _)
      (fun _ _ => Option.some_ne_none _) _
  | changeAvailability serN connId flag =>
    exact .created (fun _ => createChangeAvailabilityRequest_builds _ _ _)
      (fun _ _ => Option.some_ne_none _) _
  | reset serN flag =>
    apply Reaching.created fun _ => createResetRequest_builds _ _
    intro E k
    unfold createResetRequest
    rw [if_pos (by cases flag <;> decide)]
    exact Option.some_ne_none _
  | changeConfiguration serN key val =>
    apply Reaching.created fun _ => createChangeConfigurationRequest_builds _ _ _
    intro E k
    have hfits : schemaStringAccepts 50 (cstr key) = true ∧
        schemaStringAccepts 500 (cstr val) = true := h
    unfold createChangeConfigurationRequest
    rw [if_pos hfits]
    exact Option.some_ne_none _
  | getCompositeSchedule serN => exact .direct _
  | testChargingProfile serN cmd =>
    exact .reads (x := fun E => getCSProfileFromDBByProfName E _)
      (f := fun E found => lookupAndSend L E serN "SetChargingProfile" (.raw (cstr found.2)))
      (fun _ => getCSProfileFromDBByProfName_writes) fun found =>
        .looked _ fun E => .raw (cstr (found E).2)
  | remoteStart serN idTag =>
    apply Reaching.created fun _ => createRemoteStartTransactionRequest_builds _ _
    intro E k
    have hfits : schemaStringAccepts 20 idTag = true := h
    unfold createRemoteStartTransactionRequest
    rw [if_pos hfits]
    exact Option.some_ne_none _
  | remoteStop serN =>
    exact .created (fun _ => createRemoteStopTransactionRequest_builds _)
      (fun _ _ => Option.some_ne_none _) _
  | updateTZ serN tz dls =>
    apply Reaching.created fun _ => createDataTransferRequest_builds _ _ _
    intro E k
    unfold createDataTransferRequest
    rw [if_pos (by decide)]
    exact Option.some_ne_none _
  | updateFW serN cmd =>
    exact .created (fun _ => createUpdateFirmwareRequest_builds _)
      (fun _ _ => Option.some_ne_none _) _
  | configReq serN forField => exact .looked _ fun _ => _
  | getLocalListVersion serN => exact .looked _ fun _ => _
  | mobile serN cid cmd par1 par2 => exact h.elim

theorem of_ite_some {α : Type} {p : Prop} [Decidable p] {a b : α} {o : Option α}
    (h : (if p then some a else o) = some b) : a = b ∨ o = some b := by
  split at h
  · exact Or.inl (Option.some.inj h)
  · exact Or.inr h

theorem dummyTag_fits : schemaStringAccepts 20 "DummyTag" = true := by decide

theorem preAuthorize_fits : schemaStringAccepts 50 (cstr "LocalPreAuthorize") = true ∧
    schemaStringAccepts 500 (cstr "false") = true := by decide

theorem heartBeat_fits : schemaStringAccepts 50 (cstr "HeartBeatInterval") = true ∧
    schemaStringAccepts 500 (cstr (decimal 661)) = true := by decide

/-- Every branch of `doOcppCommand` is such a command for the serial number of
the request. -/
theorem webCommand_fits {N : Text} {command : Command} {cmd : Int}
    (h : webCommand N cmd = some command) : command.Fits ∧ command.serN = N := by
  unfold webCommand at h
  rcases of_ite_some h with rfl | h
  · exact ⟨trivial, rfl⟩
  rcases of_ite_some h with rfl | h
  · exact ⟨trivial, rfl⟩
  rcases of_ite_some h with rfl | h
  · exact ⟨preAuthorize_fits, rfl⟩
  rcases of_ite_some h with rfl | h
  · exact ⟨trivial, rfl⟩
  rcases of_ite_some h with rfl | h
  · exact ⟨dummyTag_fits, rfl⟩
  rcases of_ite_some h with rfl | h
  · exact ⟨trivial, rfl⟩
  rcases of_ite_some h with rfl | h
  · exact ⟨dummyTag_fits, rfl⟩
  iterate 4
    rcases of_ite_some h with rfl | h
    · exact ⟨trivial, rfl⟩
  rcases of_ite_some h with rfl | h
  · exact ⟨heartBeat_fits, rfl⟩
  rcases of_ite_some h with rfl | h
  · exact ⟨trivial, rfl⟩
  · cases h

section Requests

variable {L : Lib} {s : Server} {cid : Int} {N : Text}

/-- An engine that makes an altered DELETE empty the history. -/
def Env.purging : Env :=
  { Env.calm with csHist := { Altered.refused _ with delete := fun _ => some fun _ => true } }

/-- What reaches the routes of `N` keeps to the client exactly when they are
its own. -/
theorem Reaching.owned_iff {act : Env → Act Outcome} (h : Reaching s N act) :
    (∀ E, WebOwned s cid N (act E s.start).2.state) ↔ SendsOwned s cid N := by
  constructor
  · intro howned con ⟨hopen, hleads⟩
    obtain ⟨d, hd, hend⟩ := h.reaches _ hleads s.start rfl rfl ⟨con, hopen, rfl⟩
    obtain ⟨r, hr, hser, hip, hcid⟩ := (howned (.answering con.endpoint.text)).frames d hd
    exact ⟨r, hr, hser, hip.trans hend, hcid⟩
  · intro hsends E
    refine ⟨fun d hd => hsends _ (h.routed E s.start rfl rfl rfl d hd), fun r hr hlost => ?_⟩
    rw [(h.writes E s.start).csHist (by simp)] at hlost
    exact absurd hr hlost

/-- In the purging environment clearing deletes the rows of the serial number,
and all of them when its literal ends early. -/
theorem clear_purging (sern : Text) :
    (clearChargeStationsHistory .purging cid sern s.start).2.state.csHist =
      (s.csHist.delete fun r => r.cols.csSerN = cstr sern ∨ '\'' ∈ cstr sern).1 := by
  have hreached : (if (clearHistorySql sern).QuoteFree then
        some fun r : Row CSHist => decide (r.cols.csSerN = cstr sern)
      else (CSHistTbl.altered .purging).delete (clearHistorySql sern).text) =
      some fun r => decide (r.cols.csSerN = cstr sern ∨ '\'' ∈ cstr sern) := by
    by_cases hquote : '\'' ∈ cstr sern
    · rw [if_neg fun h => clearHistorySql_quoteFree.mp h hquote]
      simp only [hquote, or_true, decide_true]
      rfl
    · rw [if_pos (clearHistorySql_quoteFree.mpr hquote)]
      simp only [hquote, or_false]
  unfold clearChargeStationsHistory clearAllChargeStationsHistory
  rw [Action.bind_apply, createConnection_bind,
    if_pos (show Env.purging.raises s.start.asked = none from rfl), Action.bind_apply,
    CSHistTbl.delete_some (E := .purging) s.start.tick hreached rfl]
  rfl

/-- Clearing the history sends nothing, and what it can delete is what the
serial number reaches. -/
theorem clearHistory_owned_iff :
    (∀ E, WebOwned s cid N (clearChargeStationsHistory E cid N s.start).2.state) ↔
      HistoryOwned s cid N := by
  constructor
  · intro howned h hh hreached
    apply (howned .purging).history h hh
    rw [clear_purging]
    intro hleft
    have hkept := (List.mem_filter.mp hleft).2
    simp [hreached] at hkept
  · intro hown E
    have honly : Only [.csHist] s.start.state
        (clearChargeStationsHistory E cid N s.start).2.state := clear_writes N cid s.start
    refine ⟨fun d hd => ?_, fun h hh hlost => ?_⟩
    · rw [honly.wire (by simp)] at hd
      cases hd
    · by_cases hquote : '\'' ∈ cstr N
      · exact hown h hh (Or.inr hquote)
      · apply hown h hh
        rcases clear_cases (E := E) hquote cid s with hsame | hdeleted
        · exact absurd (hsame ▸ hh : h ∈ _) hlost
        · by_contra hother
          rw [not_or] at hother
          apply hlost
          show h ∈ (s.after (clearAllChargeStationsHistory E cid N)).csHist.rows
          rw [hdeleted]
          exact List.mem_filter.mpr ⟨hh, by simp [hother.1]⟩

/-- A request of the browser keeps to the stations of its client in every
environment exactly under its condition. -/
theorem webRequest_owned_iff (L : Lib) (s : Server) (cid : Int) (user : Text)
    (req : WebRequest) :
    (∀ E, WebOwned s cid user (req.exec L E cid user s.start).2.state) ↔
      req.Owned s cid user := by
  cases req with
  | doOcppCommand cmd =>
    show (∀ E, WebOwned s cid user (Ocpp.doOcppCommand L E cid cmd user s.start).2.state) ↔
      ((webCommand user cmd).isSome → SendsOwned s cid user)
    unfold Ocpp.doOcppCommand
    cases hcmd : webCommand user cmd with
    | none =>
      refine ⟨fun _ hsome => absurd hsome (by simp), fun _ E => ⟨fun d hd => ?_, ?_⟩⟩
      · cases hd
      · exact fun h hh hlost => absurd hh hlost
    | some command =>
      obtain ⟨hfits, hser⟩ := webCommand_fits hcmd
      have hreaching : Reaching s user fun E => command.exec L E := hser ▸ command.reaching hfits
      exact hreaching.owned_iff.trans (by simp)
  | updateTZ tz dls =>
    have hfits : (Command.updateTZ user tz dls).Fits := trivial
    exact (Command.reaching hfits).owned_iff
  | clearChargeStationsHistory => exact clearHistory_owned_iff

/-- Client 2 resets the station of client 1. -/
theorem foreign_reset_sent :
    ¬WebOwned connectedStation 2 "GRS-1" (WebRequest.exec .refusing .calm 2 "GRS-1"
      (.doOcppCommand 22) connectedStation.start).2.state := by
  intro h
  obtain ⟨r, hr, _, _, hcid⟩ := h.frames
    ⟨somePeer, .call 2 "00" "Reset" (.reset "Hard"), true⟩ (by decide +kernel)
  rw [List.mem_singleton.mp hr] at hcid
  exact absurd hcid (by decide)

end Requests

end UCLinux.Ocpp
