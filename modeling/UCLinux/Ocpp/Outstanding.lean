import UCLinux.Ocpp.Routing

/-!
Which requests wait for an answer. Beside the server runs a log of the CALLs
it has sent successfully and that no CALLRESULT or CALLERROR has answered
yet. The queue of requests is that log as long as requests are queued and
sent together: a request is queued before its send is tried, two commands
send without queueing, and an error frame takes nothing out of the queue.
-/

namespace UCLinux.Ocpp

open Sql Machine Server CentralOcppDB HistoryDB

def Frame.callUid : Frame → Option Text
  | .call _ uid _ _ => some uid
  | _ => none

/-- The uids of the CALLs that were sent successfully, in order. -/
def callUids (ds : List Delivery) : List Text :=
  ds.filterMap fun d => if d.sent then d.frame.callUid else none

theorem callUids_eq_nil {ds : List Delivery} (h : ∀ d ∈ ds, d.frame.callUid = none) :
    callUids ds = [] := by
  refine List.filterMap_eq_nil_iff.mpr fun d hd => ?_
  rw [h d hd, ite_self]

theorem callUids_of_sent {ds : List Delivery} (h : ∀ d ∈ ds, d.sent = true) :
    callUids ds = (ds.map Delivery.frame).filterMap Frame.callUid := by
  unfold callUids
  rw [List.filterMap_map]
  exact List.filterMap_congr fun d hd => if_pos (h d hd)

/-- The uid a message answers. -/
def answeredUid (L : Lib) (payload : Text) : Option Text :=
  match L.parse (cstr payload) with
  | some [.int 3, .string uid, _] => some uid
  | some [.int 4, .string uid, .string _, .string _, _] => some uid
  | _ => none

/-- The uid the server takes a message for an answer to. -/
def takenUid (L : Lib) (con : Connection) (payload : Text) : Option Text :=
  (parseOCPPRequest L (incoming con payload)).bind fun req =>
    if req.callID = 3 then some req.uniqueID else none

/-- The uids of the CALLs that were sent and not answered. -/
abbrev Outstanding : Type := List Text

def Outstanding.answer (out : Outstanding) : Option Text → Outstanding
  | some uid => out.erase uid
  | none => out

def Outstanding.note (L : Lib) (out : Outstanding) (v : Visit Server (Env × Event)) :
    Outstanding :=
  match v.event.2 with
  | .message _ payload => out.answer (answeredUid L payload) ++ callUids v.after.wire
  | _ => out ++ callUids v.after.wire

/-- The endpoint a lookup of the serial number yields when nothing raises. -/
def lookedUp (E : Env) (s : Server) (N : Text) : Text :=
  if (getIPAddrSql N).QuoteFree then
    ((s.chStations.select (·.cols.csSerN = cstr N)).head?.map
      fun r => cstr r.cols.ipAddr).getD []
  else (((E.chStations.select (getIPAddrSql N).text s.chStations).bind List.head?).map
    (cellText · 0)).getD []

/-- Looking the serial number up leads to an open connection, and sending
succeeds. -/
structure Reached (E : Env) (s : Server) (N : Text) : Prop where
  quiet : E.Quiet
  sends : ∀ n, E.sends n = true
  opened : ∃ con ∈ s.connections, con.endpoint.text = lookedUp E s N

/-- Looking the serial number up raises or leads to no open connection, or
sending fails. -/
def Unsent (E : Env) (s : Server) (N : Text) : Prop :=
  (∀ n, E.sends n = false) ∨ E.raises 0 ≠ none ∨ E.raises 1 = some 0 ∨
    ∀ con ∈ s.connections, con.endpoint.text ≠ lookedUp E s N

/-- The command builds a request that is queued: the texts it is given fit
the fields of the request. -/
def Command.queues : Command → Prop
  | .reserveNow _ idTag => schemaStringAccepts 20 idTag
  | .changeConfiguration _ key val =>
    schemaStringAccepts 50 (cstr key) ∧ schemaStringAccepts 500 (cstr val)
  | .remoteStart _ idTag => schemaStringAccepts 20 idTag
  | .getCompositeSchedule _ => False
  | .mobile serN _ cmd par1 _ =>
    match OcppCommand.ofInt cmd with
    | some .setSampleInterval => schemaStringAccepts 500 (cstr (decimal par1))
    | some .sendRemoteTransaction =>
      if par1 = 1 then
        match split serN '*' with
        | _ :: idTag :: _ => schemaStringAccepts 20 idTag
        | _ => True
      else par1 = 0
    | _ => False
  | _ => True

/-- The command sends its request without queueing it. -/
def Command.bypasses : Command → Prop
  | .getCompositeSchedule _ => True
  | .mobile _ _ cmd _ _ => OcppCommand.ofInt cmd = some .setChargeLimit
  | _ => False

/-- What an event has to meet: requests that are queued are sent, requests
that are not queued are not, and the server takes a message for the answer to
a queued uid exactly when it is. -/
def KeptEvent (L : Lib) (s : Server) (e : Env × Event) : Prop :=
  match e.2 with
  | .opened _ => True
  | .closed _ => True
  | .message con payload =>
    (∀ uid ∈ s.requestQueue.map OcppRequest.uniqueID,
      answeredUid L payload = some uid ↔ takenUid L con payload = some uid) ∧
    ∀ req, parseOCPPRequest L (incoming con payload) = some req → req.callID = 2 →
      req.action = "StartTransaction" →
      (L.loadStartTransaction (doSimpleExtract payload)).isSome → ∀ n, e.1.sends n = true
  | .command cmd => (cmd.queues → Reached e.1 s cmd.addressee) ∧
      (cmd.bypasses → Unsent e.1 s cmd.serN)

/-- The queue holds exactly the uids that wait for an answer. -/
def QueueExact (p : Server × Outstanding) : Prop :=
  ∀ uid, uid ∈ p.1.requestQueue.map OcppRequest.uniqueID ↔ uid ∈ p.2

section Balance

/-- From `k`, requests were queued and their CALLs sent, in the same order. -/
def Balanced (k : Session Server) (t : Server) : Prop :=
  ∃ qs ds, t.requestQueue = k.state.requestQueue ++ qs ∧ t.wire = k.state.wire ++ ds ∧
    callUids ds = qs.map OcppRequest.uniqueID

theorem Balanced.of_same {k : Session Server} {t : Server}
    (hqueue : t.requestQueue = k.state.requestQueue) (hwire : t.wire = k.state.wire) :
    Balanced k t :=
  ⟨[], [], by simp [hqueue], by simp [hwire], rfl⟩

variable {L : Lib} {E : Env} {s : Server} {N : Text}

/-- What the query for an endpoint asks for. -/
def getIPAddrResult (E : Env) (N : Text) (s : Server) : Option (List Text) :=
  if (getIPAddrSql N).QuoteFree then
    some ((s.chStations.select (·.cols.csSerN = cstr N)).map fun r => cstr r.cols.ipAddr)
  else (E.chStations.select (getIPAddrSql N).text s.chStations).map
    (List.map (cellText · 0))

theorem lookedUp_eq : lookedUp E s N = ((getIPAddrResult E N s).bind List.head?).getD [] := by
  unfold lookedUp getIPAddrResult
  split
  · rw [Option.bind_some, List.head?_map]
  · cases E.chStations.select (getIPAddrSql N).text s.chStations with
    | none => rfl
    | some rows =>
      cases rows with
      | nil => rfl
      | cons row rows => rfl

/-- The value of a lookup. -/
theorem getIPAddrBySerNumber_fst (fw : Bool) (k : Session Server) :
    (getIPAddrBySerNumber E N fw k).1 =
      if E.raises k.asked = none then
        ((query E.raises (getIPAddrResult E N) k.tick).1.first.getD none).getD []
      else [] := by
  unfold getIPAddrBySerNumber
  rw [createConnection_bind]
  by_cases hopened : E.raises k.asked = none
  · rw [if_pos hopened, if_pos hopened, Action.bind_apply]
    have hread : CH_STATIONS.read E (getIPAddrSql N)
        (fun t => (t.select (·.cols.csSerN = cstr N)).map fun r => cstr r.cols.ipAddr)
        (cellText · 0) = query E.raises (getIPAddrResult E N) := rfl
    rw [hread]
    cases (query E.raises (getIPAddrResult E N) k.tick).1.first with
    | none => rfl
    | some ip =>
      dsimp only
      split
      · rfl
      · rfl
  · rw [if_neg hopened, if_neg hopened]
    rfl

/-- A lookup yields the endpoint, unless opening the database or reading the
first row raises. -/
theorem getIPAddrBySerNumber_value (fw : Bool) (k : Session Server)
    (hk : k.state.chStations = s.chStations) :
    (getIPAddrBySerNumber E N fw k).1 =
      if E.raises k.asked = none ∧ E.raises (k.asked + 1) ≠ some 0 then lookedUp E s N
      else [] := by
  have hresult : getIPAddrResult E N k.tick.state = getIPAddrResult E N s := by
    unfold getIPAddrResult
    rw [Session.tick_state, hk]
  rw [getIPAddrBySerNumber_fst, lookedUp_eq]
  by_cases hopened : E.raises k.asked = none
  · rw [if_pos hopened]
    simp only [hopened, true_and]
    unfold query
    rw [hresult, Session.tick_asked]
    cases hres : getIPAddrResult E N s with
    | none => cases E.raises (k.asked + 1) <;> simp [Fetched.first]
    | some rows =>
      cases E.raises (k.asked + 1) with
      | none => cases rows <;> simp [Fetched.first]
      | some n => cases n <;> cases rows <;> simp [Fetched.first]
  · rw [if_neg hopened, if_neg fun h => hopened h.1]

theorem getIPAddrBySerNumber_asked (k : Session Server) :
    (getIPAddrBySerNumber E N false k).2.asked =
      k.asked + if E.raises k.asked = none then 2 else 1 := by
  unfold getIPAddrBySerNumber
  rw [createConnection_bind]
  by_cases hopened : E.raises k.asked = none
  · rw [if_pos hopened, if_pos hopened, Action.bind_apply, TableAt.read_snd]
    generalize (CH_STATIONS.read E _ _ _ k.tick).1.first = found
    cases found with
    | none => rfl
    | some ip => rfl
  · rw [if_neg hopened, if_neg hopened]
    rfl

/-- A lookup that does not raise yields the endpoint. -/
theorem getIPAddrBySerNumber_of_quiet (fw : Bool) (k : Session Server) (hquiet : E.Quiet)
    (hk : k.state.chStations = s.chStations) :
    (getIPAddrBySerNumber E N fw k).1 = lookedUp E s N := by
  rw [getIPAddrBySerNumber_value fw k hk, if_pos ⟨hquiet _, by simp [hquiet (k.asked + 1)]⟩]

/-- A lookup that raises yields nothing, unless the row was fetched before. -/
theorem getIPAddrBySerNumber_cases (fw : Bool) (k : Session Server)
    (hk : k.state.chStations = s.chStations) :
    (getIPAddrBySerNumber E N fw k).1 = [] ∨
      E.raises k.asked = none ∧ E.raises (k.asked + 1) ≠ some 0 ∧
        (getIPAddrBySerNumber E N fw k).1 = lookedUp E s N := by
  rw [getIPAddrBySerNumber_value fw k hk]
  split
  · next h => exact Or.inr ⟨h.1, h.2, rfl⟩
  · exact Or.inl rfl

/-- Looking the serial number up after `n` questions leads to an open
connection. -/
structure Led (E : Env) (s : Server) (N : Text) (n : Nat) : Prop where
  opened : E.raises n = none
  read : E.raises (n + 1) ≠ some 0
  connected : ∃ con ∈ s.connections, con.endpoint.text = lookedUp E s N

/-- A frame for a serial number is handed to a connection, or nothing is. -/
theorem sendResponse2Client_frames (k k' : Session Server) (fw : Bool) (frame : Frame)
    (hstations : k.state.chStations = s.chStations)
    (hconnections : k'.state.connections = s.connections) (hwire : k'.state.wire = []) :
    Led E s N k.asked ∧ (sendResponse2Client E (getIPAddrBySerNumber E N fw k).1 frame
        k').2.state.wire.map Delivery.frame = [frame] ∨
      ¬Led E s N k.asked ∧ (sendResponse2Client E (getIPAddrBySerNumber E N fw k).1 frame
        k').2.state.wire.map Delivery.frame = [] := by
  by_cases hled : Led E s N k.asked
  · have hip := getIPAddrBySerNumber_value (E := E) (N := N) fw k hstations
    rw [if_pos ⟨hled.opened, hled.read⟩] at hip
    obtain ⟨con, _, _, hsent⟩ := sendResponse2Client_found (E := E) (lookedUp E s N) frame k'
      (hconnections ▸ hled.connected)
    rw [hip, hsent, hwire]
    exact Or.inl ⟨hled, rfl⟩
  · refine Or.inr ⟨hled, ?_⟩
    rw [sendResponse2Client_missing _ k', hwire]
    · rfl
    · intro con hcon hend
      rw [hconnections] at hcon
      rcases getIPAddrBySerNumber_cases (E := E) (N := N) fw k hstations with
        hnone | ⟨hopened, hread, hip⟩
      · exact con.endpoint.nonempty (hend.trans hnone)
      · exact hled ⟨hopened, hread, con, hcon, hend.trans hip⟩

/-- A request that is queued and sent. -/
theorem sendResponse2Client_balanced {k k' : Session Server} {q : OcppRequest}
    {action ip : Text} {payload : Payload} (hsends : ∀ n, E.sends n = true)
    (hqueue : k'.state.requestQueue = k.state.requestQueue ++ [q])
    (hwire : k'.state.wire = k.state.wire)
    (hopen : ∃ con ∈ k'.state.connections, con.endpoint.text = ip) :
    Balanced k
      (sendResponse2Client E ip (.call 2 q.uniqueID action payload) k').2.state := by
  obtain ⟨con, _, _, hsent⟩ := sendResponse2Client_found (E := E) ip
    (.call 2 q.uniqueID action payload) k' hopen
  rw [hsent]
  refine ⟨[q], [⟨con, .call 2 q.uniqueID action payload, E.sends k'.asked⟩], hqueue, ?_, ?_⟩
  · rw [← hwire]
  · rw [hsends k'.asked]
    rfl

theorem createAndSend_balanced {create : Act (Option Created)} (h : Builds E create)
    (fw : Bool) (k : Session Server) (hstations : k.state.chStations = s.chStations)
    (hconnections : k.state.connections = s.connections)
    (hreached : (∀ k, (create k).1 = none) ∨ Reached E s N) :
    Balanced k (createAndSend E create N fw k).2.state := by
  unfold createAndSend
  rw [Action.bind_apply]
  rcases h k with ⟨hnone, hstate⟩ | ⟨q, action, payload, n, _, hcreated, hstate⟩
  · rw [hnone]
    exact .of_same (by rw [← hstate]; rfl) (by rw [← hstate]; rfl)
  · obtain ⟨hquiet, hsends, hopened⟩ := hreached.resolve_left fun hnone => by
      rw [hnone k] at hcreated
      cases hcreated
    rw [hcreated]
    dsimp only
    rw [Action.bind_apply]
    have hcreates : (create k).2.state.chStations = s.chStations := by rw [hstate, hstations]
    have hlookup : Writes [.chStations] (getIPAddrBySerNumber E N fw) :=
      getIPAddrBySerNumber_writes (by simp)
    have honly := hlookup (create k).2
    rw [getIPAddrBySerNumber_of_quiet fw _ hquiet hcreates]
    refine sendResponse2Client_balanced hsends ?_ ?_ ?_
    · rw [honly.requestQueue (by simp), hstate]
    · rw [honly.wire (by simp), hstate]
    · rw [honly.connections (by simp), hstate]
      exact hconnections ▸ hopened

theorem lookupAndSend_balanced (action : Text) (payload : Payload) (k : Session Server)
    (hstations : k.state.chStations = s.chStations)
    (hconnections : k.state.connections = s.connections) (hreached : Reached E s N) :
    Balanced k (lookupAndSend L E N action payload k).2.state := by
  obtain ⟨hquiet, hsends, hopened⟩ := hreached
  have hlookup : Writes [] (getIPAddrBySerNumber E N false) :=
    getIPAddrBySerNumber_writes (by simp)
  unfold lookupAndSend
  rw [hlookup.bind_apply, getIPAddrBySerNumber_of_quiet false _ hquiet hstations]
  obtain ⟨q, _, _, hcreated⟩ := createCentralRequest_apply L E { action := action } payload
    ⟨k.state, (getIPAddrBySerNumber E N false k).2.asked⟩
  rw [Action.bind_apply, hcreated]
  exact sendResponse2Client_balanced hsends rfl rfl (hconnections ▸ hopened)

/-- A request that is not queued is not sent either. -/
theorem unsent_balanced (h : Unsent E s N) (u action : Text) (payload : Payload)
    (k : Session Server) (hk : k.state = s.start.state) :
    Balanced s.start (sendResponse2Client E (getIPAddrBySerNumber E N false s.start).1
      (.call 2 u action payload) k).2.state := by
  by_cases hopen : ∃ con ∈ k.state.connections,
      con.endpoint.text = (getIPAddrBySerNumber E N false s.start).1
  · obtain ⟨con, _, _, hsent⟩ := sendResponse2Client_found (E := E) _
      (.call 2 u action payload) k hopen
    obtain ⟨con', hcon', hend'⟩ := hopen
    have hfails : ∀ n, E.sends n = false := by
      rcases h with hfails | hraise | hraise | hclosed
      · exact hfails
      all_goals
        exfalso
        rcases getIPAddrBySerNumber_cases (E := E) (N := N) false s.start rfl with
          hnone | ⟨hopened, hread, hip⟩
        · exact con'.endpoint.nonempty (hend'.trans hnone)
      · exact hraise hopened
      · exact hread hraise
      · refine hclosed con' ?_ (hend'.trans hip)
        rw [hk] at hcon'
        exact hcon'
    rw [hsent]
    refine ⟨[], [⟨con, .call 2 u action payload, E.sends k.asked⟩], by simp [hk], by rw [hk], ?_⟩
    rw [hfails k.asked]
    rfl
  · rw [sendResponse2Client_missing _ k fun con hcon hend => hopen ⟨con, hcon, hend⟩]
    exact .of_same (by rw [hk]) (by rw [hk])

theorem direct_balanced {β : Type} {x : Act β} (hx : Writes [] x) (uid : β → Text)
    (action : Text) (payload : Payload) (h : Unsent E s N) :
    Balanced s.start ((do
      let ip ← getIPAddrBySerNumber E N false
      let b ← x
      let ok ← sendResponse2Client E ip (.call 2 (uid b) action payload)
      pure (.returns (if ok then 1 else 0)) : Act Outcome) s.start).2.state := by
  have hlookup : Writes [] (getIPAddrBySerNumber E N false) :=
    getIPAddrBySerNumber_writes (by simp)
  rw [hlookup.bind_apply, hx.bind_apply]
  exact unsent_balanced h _ action payload _ rfl

end Balance

section Commands

variable {L : Lib} {E : Env} {s : Server}

/-- A step that writes tables only. -/
theorem Balanced.of_writes {k : Session Server} {act : Act Outcome}
    (h : Writes [.chStations, .csProf] act) : Balanced k (act k).2.state :=
  .of_same ((h k).requestQueue (by simp)) ((h k).wire (by simp))

/-- A branch of the mobile command that does not look at what was read before
it. -/
theorem Balanced.of_reads {serN : Text} {act : Act Outcome}
    (h : ∀ k : Session Server, k.state = s.start.state →
      Balanced s.start (act k).2.state) :
    Balanced s.start ((do
      let _ ← getIPAddrBySerNumber E serN false
      let _ ← globalGenerateTextUID E
      act : Act Outcome) s.start).2.state := by
  have hlookup : Writes [] (getIPAddrBySerNumber E serN false) :=
    getIPAddrBySerNumber_writes (by simp)
  have huid : Writes [] (globalGenerateTextUID E) := globalGenerateTextUID_writes
  rw [hlookup.bind_apply, huid.bind_apply]
  exact h _ rfl

theorem Balanced.rebase {k : Session Server} {t : Server} (hk : k.state = s.start.state)
    (h : Balanced k t) : Balanced s.start t := by
  unfold Balanced at h ⊢
  rwa [hk] at h

/-- A guarded builder throws, or its request is sent. -/
theorem guarded_reached {p : Prop} [Decidable p] {N : Text} {create : Act (Option Created)}
    (h : p → Reached E s N) :
    (∀ k, ((if p then create else pure none) k).1 = none) ∨ Reached E s N := by
  by_cases hp : p
  · exact Or.inr (h hp)
  · refine Or.inl fun k => ?_
    rw [if_neg hp]
    rfl

theorem sendRemoteTransaction_balanced (serN : Text) (par1 : Int) (par2 : Text)
    (k : Session Server)
    (hk : k.state = s.start.state)
    (hq : (if par1 = 1 then
        match split serN '*' with
        | _ :: idTag :: _ => schemaStringAccepts 20 idTag = true
        | _ => True
      else par1 = 0) →
      Reached E s (if par1 = 1 then
        match split serN '*' with
        | sern :: _ :: _ => sern
        | _ => serN
      else serN)) :
    Balanced k (sendRemoteTransaction L E serN par1 par2 k).2.state := by
  have hstations : k.state.chStations = s.chStations := by rw [hk]; rfl
  have hconnections : k.state.connections = s.connections := by rw [hk]; rfl
  have hdata (hreached : Reached E s serN) :
      Balanced k ((if L.prcd par2 then do
        let sent ← createAndSend E (createDataTransferRequest L E {} "13" (decimal 0x41))
          serN false
        pure (if sent = .throws then .throws else .returns (-1))
      else pure .throws : Act Outcome) k).2.state := by
    split
    · exact createAndSend_balanced (createDataTransferRequest_builds _ _ _) _ _ hstations
        hconnections (Or.inr hreached)
    · exact .of_same rfl rfl
  unfold sendRemoteTransaction
  by_cases hstop : par1 = 0
  · rw [if_pos hstop]
    rw [if_neg (by omega), if_neg (by omega)] at hq
    exact createAndSend_balanced (createRemoteStopTransactionRequest_builds _) _ _ hstations
      hconnections (Or.inr (hq hstop))
  · rw [if_neg hstop]
    by_cases hstart : par1 = 1
    · rw [if_pos hstart]
      rw [if_pos hstart, if_pos hstart] at hq
      revert hq
      rcases split serN '*' with _ | ⟨sern, _ | ⟨idTag, rest⟩⟩
      all_goals intro hq
      · exact hdata (hq trivial)
      · exact hdata (hq trivial)
      · exact createAndSend_balanced (createRemoteStartTransactionRequest_builds _ _) _ _
          hstations hconnections (guarded_reached hq)
    · rw [if_neg hstart]
      exact .of_same rfl rfl

theorem saveProfile_writes (serN : Text) (cid : Int) (par2 : Text) :
    Writes [.chStations, .csProf] (saveProfile E serN cid par2) := by
  unfold saveProfile
  split
  · split
    · exact .pure _
    · exact .bind (insertOrUpdateCSProf2DB_writes (by simp) (by simp)) fun _ => .pure _
  · exact .pure _

theorem clearProfile_writes (serN : Text) :
    Writes [.chStations, .csProf] (clearProfile E serN) := by
  unfold clearProfile
  split
  · split
    · exact .pure _
    · exact .bind (removeChargingProfile_writes (by simp)) fun _ => .pure _
  · exact .pure _

theorem mobile_balanced (serN : Text) (cid cmd par1 : Int) (par2 : Text)
    (hq : (Command.mobile serN cid cmd par1 par2).queues →
      Reached E s (mobileAddressee serN cmd par1))
    (hd : (Command.mobile serN cid cmd par1 par2).bypasses → Unsent E s serN) :
    Balanced s.start
      (createSendOcppCommandfromMob L E serN cid cmd par1 par2 s.start).2.state := by
  unfold createSendOcppCommandfromMob
  unfold Command.queues mobileAddressee at hq
  unfold Command.bypasses at hd
  dsimp only at hq hd
  cases hkind : OcppCommand.ofInt cmd with
  | none => exact .of_reads fun k hk => .rebase hk (.of_same rfl rfl)
  | some kind =>
    rw [hkind] at hq hd
    cases kind with
    | setChargeLimit => exact direct_balanced globalGenerateTextUID_writes id _ _ (hd rfl)
    | setSampleInterval =>
      refine .of_reads fun k hk => .rebase hk ?_
      refine createAndSend_balanced (s := s) (createChangeConfigurationRequest_builds _ _ _) _ _
        (by rw [hk, start_chStations]) (by rw [hk, start_connections]) ?_
      have hN : ¬(some OcppCommand.setSampleInterval = some .sendRemoteTransaction ∧
          par1 = 1) := fun h => absurd h.1 (by decide)
      rw [if_neg hN] at hq
      exact guarded_reached fun hfits => hq hfits.2
    | sendRemoteTransaction =>
      simp only [true_and] at hq
      exact .of_reads fun k hk => .rebase hk (sendRemoteTransaction_balanced serN par1 par2 k hk hq)
    | simpleCommand =>
      refine .of_reads fun k hk => .rebase hk (.of_writes (.ite (fun _ => ?_) fun _ =>
        .ite (fun _ => ?_) fun _ => .ite (fun _ => ?_) fun _ => .pure _))
      · exact saveProfile_writes serN cid par2
      · exact clearProfile_writes serN
      · exact .bind (insertOrUpdateCSProf2DB_writes (by simp) (by simp)) fun _ => .pure _

/-- A command queues what it sends. -/
theorem Command.balanced (cmd : Command) (hq : cmd.queues → Reached E s cmd.addressee)
    (hd : cmd.bypasses → Unsent E s cmd.serN) :
    Balanced s.start (cmd.exec L E s.start).2.state := by
  cases cmd with
  | reserveNow serN idTag =>
    refine createAndSend_balanced (s := s) (createReserveNowRequest_builds _ _ _ _) _ _ rfl rfl
      ?_
    by_cases hfits : schemaStringAccepts 20 idTag = true
    · exact Or.inr (hq hfits)
    · refine Or.inl fun k => ?_
      unfold createReserveNowRequest
      rw [clockNow_bind, if_neg hfits]
      rfl
  | cancelReservation serN =>
    exact createAndSend_balanced (s := s) (createCancelReservationRequest_builds _ _) _ _ rfl rfl
      (Or.inr (hq trivial))
  | changeAvailability serN connId flag =>
    exact createAndSend_balanced (s := s) (createChangeAvailabilityRequest_builds _ _ _) _ _ rfl rfl
      (Or.inr (hq trivial))
  | reset serN flag =>
    exact createAndSend_balanced (s := s) (createResetRequest_builds _ _) _ _ rfl rfl
      (Or.inr (hq trivial))
  | changeConfiguration serN key val =>
    exact createAndSend_balanced (s := s) (createChangeConfigurationRequest_builds _ _ _) _ _ rfl rfl
      (guarded_reached hq)
  | getCompositeSchedule serN =>
    exact direct_balanced (x := pure ()) (.pure _) (fun _ => "1225545-54321") _ _ (hd trivial)
  | testChargingProfile serN cmd =>
    have hprofile : Writes [] (getCSProfileFromDBByProfName E
        ("ChargingProfile_" ++ decimal (cmd - 30))) := getCSProfileFromDBByProfName_writes
    show Balanced s.start (createTestChargingProfilefromWeb L E serN cmd s.start).2.state
    unfold createTestChargingProfilefromWeb
    rw [hprofile.bind_apply]
    have hreached : Reached E s serN := hq trivial
    generalize getCSProfileFromDBByProfName E _ s.start = found
    obtain ⟨⟨rv, data⟩, k⟩ := found
    have hsent := lookupAndSend_balanced (L := L) (s := s) "SetChargingProfile"
      (.raw (cstr data)) ⟨s.start.state, k.asked⟩ rfl rfl hreached
    exact hsent
  | remoteStart serN idTag =>
    exact createAndSend_balanced (s := s) (createRemoteStartTransactionRequest_builds _ _) _ _ rfl rfl
      (guarded_reached hq)
  | remoteStop serN =>
    exact createAndSend_balanced (s := s) (createRemoteStopTransactionRequest_builds _) _ _ rfl rfl
      (Or.inr (hq trivial))
  | updateTZ serN tz dls =>
    exact createAndSend_balanced (s := s) (createDataTransferRequest_builds _ _ _) _ _ rfl rfl
      (Or.inr (hq trivial))
  | updateFW serN cmd =>
    exact createAndSend_balanced (s := s) (createUpdateFirmwareRequest_builds _) _ _ rfl rfl
      (Or.inr (hq trivial))
  | configReq serN forField => exact lookupAndSend_balanced (s := s) _ _ _ rfl rfl (hq trivial)
  | getLocalListVersion serN => exact lookupAndSend_balanced (s := s) _ _ _ rfl rfl (hq trivial)
  | mobile serN cid cmd par1 par2 => exact mobile_balanced serN cid cmd par1 par2 hq hd

end Commands

section Messages

variable {L : Lib} {E : Env} {s : Server} {con : Connection} {payload : Text}

theorem createCentralRequest_queues (req : OcppRequest) (payload : Payload)
    (k : Session Server) :
    ∃ (q : OcppRequest) (action : Text) (p : Payload),
      (createCentralRequest L E req payload k).1.frame = .call 2 q.uniqueID action p ∧
      (createCentralRequest L E req payload k).2.state =
        { k.state with requestQueue := k.state.requestQueue ++ [q] } := by
  obtain ⟨q, _, _, hcreated⟩ := createCentralRequest_apply L E req payload k
  rw [hcreated]
  exact ⟨q, _, _, rfl, rfl⟩

/-- The request that follows an answered StartTransaction is queued. -/
theorem createSetChargingProfileRequest_queues (req : OcppRequest) (k : Session Server) :
    ∃ (q : OcppRequest) (action : Text) (p : Payload),
      (createSetChargingProfileRequest L E req k).1.frame = .call 2 q.uniqueID action p ∧
      (createSetChargingProfileRequest L E req k).2.state =
        { k.state with requestQueue := k.state.requestQueue ++ [q] } := by
  have hprofile : Writes [] (getCSProfileFromDBByIp E req) := getCSProfileFromDBByIp_writes
  unfold createSetChargingProfileRequest
  rw [hprofile.bind_apply]
  dsimp only
  split
  · exact createCentralRequest_queues _ _ _
  · rw [clockNow_bind]
    exact createCentralRequest_queues _ _ _

/-- Taking an entry out of the queue takes its uid out of the uids. -/
theorem getActionByUID_uids (uid : Text) (qs : List OcppRequest) :
    (RequestQueue.getActionByUID uid qs).2.map OcppRequest.uniqueID =
      (qs.map OcppRequest.uniqueID).erase uid := by
  induction qs with
  | nil => rfl
  | cons q qs ih =>
    unfold RequestQueue.getActionByUID
    by_cases hq : q.uniqueID = uid
    · rw [if_pos hq, List.map_cons, hq, List.erase_cons_head]
    · rw [if_neg hq, List.map_cons, List.map_cons, ih,
        List.erase_cons_tail (by simpa using hq)]

/-- A StartTransaction that is answered has loaded. -/
theorem loads_of_answered {req : OcppRequest} {a : OcppAction} {p : Payload}
    (ha : OcppAction.ofName req.action = some a) (haction : req.action = "StartTransaction")
    {k : Session Server} (hdone : (a.process L E req k).1 = some p) :
    (L.loadStartTransaction (doSimpleExtract req.reqStr)).isSome := by
  have hstart : a = .startTransaction := by
    rw [haction] at ha
    exact (Option.some.inj ha).symm
  rw [hstart, OcppAction.process, processStartTransaction] at hdone
  cases hload : L.loadStartTransaction (doSimpleExtract req.reqStr) with
  | some p => rfl
  | none =>
    rw [hload] at hdone
    cases hdone

/-- What processing a message leaves of the queue and the frames it answers
with. -/
structure Handled (L : Lib) (E : Env) (taken : Option Text) (k : Session Server)
    (r : Processed) (t : Server) : Prop where
  wire : t.wire = k.state.wire
  queue : ∃ qs, t.requestQueue.map OcppRequest.uniqueID =
      Outstanding.answer (k.state.requestQueue.map OcppRequest.uniqueID) taken ++ qs ∧
    r.frames.filterMap Frame.callUid = qs ∧
    (qs ≠ [] → ∀ n, E.sends n = true)

theorem processCall_handled {req : OcppRequest} (k : Session Server)
    (hsends : req.action = "StartTransaction" →
      (L.loadStartTransaction (doSimpleExtract req.reqStr)).isSome →
      ∀ n, E.sends n = true) :
    Handled L E none k (processCall L E req ⟨0, [], []⟩ k).1
      (processCall L E req ⟨0, [], []⟩ k).2.state := by
  cases ha : OcppAction.ofName req.action with
  | none =>
    rw [processCall_unhandled ha]
    exact ⟨rfl, [], by simp [Outstanding.answer], rfl, by simp⟩
  | some a =>
    have hwrites : Writes a.writes (a.process L E req) :=
      OcppAction.process_writes a (List.Subset.refl _)
    have hqueue := (hwrites k).requestQueue (by cases a <;> decide)
    have hwire := (hwrites k).wire (by cases a <;> decide)
    cases hdone : (a.process L E req k).1 with
    | none =>
      obtain ⟨r, hr, hframes⟩ := processCall_raised ha (Prod.ext hdone rfl)
      rw [hr]
      refine ⟨hwire, [], ?_, ?_, by simp⟩
      · rw [hqueue]
        simp [Outstanding.answer]
      · rw [hframes]
        rfl
    | some p =>
      rw [processCall_some ha (Prod.ext hdone rfl)]
      by_cases hstart : req.action = "StartTransaction"
      · rw [if_pos hstart]
        obtain ⟨q, action, p', hframe, hstate⟩ := createSetChargingProfileRequest_queues
          (L := L) (E := E) { remoteIP := req.remoteIP, uniqueID := req.uniqueID }
          (a.process L E req k).2
        refine ⟨?_, [q.uniqueID], ?_, ?_, fun _ =>
          hsends hstart (loads_of_answered ha hstart hdone)⟩
        · rw [hstate]
          exact hwire
        · rw [hstate, List.map_append, hqueue]
          rfl
        · rw [hframe]
          rfl
      · rw [if_neg hstart]
        refine ⟨hwire, [], ?_, rfl, by simp⟩
        rw [hqueue]
        simp [Outstanding.answer]

theorem processAnswer_handled (req : OcppRequest) (k : Session Server) :
    Handled L E (some req.uniqueID) k (processAnswer L E req ⟨0, [], []⟩ k).1
      (processAnswer L E req ⟨0, [], []⟩ k).2.state := by
  have hwrites : Writes [.requestQueue, .chStations] (processIncomingCPResponseMessage L E req) :=
    processIncomingCPResponseMessage_writes (by simp) (by simp)
  refine ⟨(hwrites k).wire (by simp), [], ?_, ?_, by simp⟩
  · rw [List.append_nil]
    show _ = (k.state.requestQueue.map OcppRequest.uniqueID).erase req.uniqueID
    rw [← getActionByUID_uids]
    show (processIncomingCPResponseMessage L E req k).2.state.requestQueue.map _ = _
    rw [processIncoming_apply]
    dsimp only
    split
    · rfl
    · rw [confirm_requestQueue]
  · show (Processed.frames ⟨(processIncomingCPResponseMessage L E req k).1.isSome, req,
      ⟨0, [], []⟩⟩).filterMap Frame.callUid = []
    unfold Processed.frames
    split
    · rfl
    · rfl

theorem processOCPPIncoming_handled
    (hsends : ∀ req, parseOCPPRequest L (incoming con payload) = some req →
      req.callID = 2 → req.action = "StartTransaction" →
      (L.loadStartTransaction (doSimpleExtract payload)).isSome → ∀ n, E.sends n = true)
    (k : Session Server) :
    Handled L E (takenUid L con payload) k
      (processOCPPIncoming L E (incoming con payload) ⟨0, [], []⟩ k).1
      (processOCPPIncoming L E (incoming con payload) ⟨0, [], []⟩ k).2.state := by
  unfold takenUid
  cases hparse : parseOCPPRequest L (incoming con payload) with
  | none =>
    have hraised : processOCPPIncoming L E (incoming con payload) ⟨0, [], []⟩ =
        pure ⟨false, incoming con payload, ⟨0, [], []⟩⟩ := by
      unfold processOCPPIncoming
      rw [hparse]
    rw [hraised]
    exact ⟨rfl, [], by simp [Outstanding.answer], rfl, by simp⟩
  | some req =>
    rw [processOCPPIncoming_of_parse hparse, Option.bind_some]
    by_cases hcall : req.callID = 2
    · rw [if_pos hcall, if_neg (by omega)]
      refine processCall_handled k fun haction hload => hsends req hparse hcall haction ?_
      rwa [(parse_keeps hparse).1] at hload
    · rw [if_neg hcall]
      by_cases hanswer : req.callID = 3
      · rw [if_pos hanswer, if_pos hanswer]
        exact processAnswer_handled req k
      · rw [if_neg hanswer, if_neg hanswer]
        exact ⟨rfl, [], by simp [Outstanding.answer], rfl, by simp⟩

/-- A message takes its uid out of the queue, and queues what it sends. -/
theorem onMessage_handled
    (hsends : ∀ req, parseOCPPRequest L (incoming con payload) = some req →
      req.callID = 2 → req.action = "StartTransaction" →
      (L.loadStartTransaction (doSimpleExtract payload)).isSome → ∀ n, E.sends n = true) :
    (s.after (onMessage L E con payload)).requestQueue.map OcppRequest.uniqueID =
      Outstanding.answer (s.requestQueue.map OcppRequest.uniqueID) (takenUid L con payload) ++
        callUids (s.after (onMessage L E con payload)).wire := by
  by_cases hlen : 2 < payload.length
  · have hhandled := processOCPPIncoming_handled hsends s.start
    generalize hprocessed : processOCPPIncoming L E (incoming con payload) ⟨0, [], []⟩
      s.start = done at hhandled
    obtain ⟨r, s'⟩ := done
    obtain ⟨hwire, qs, hqueue, hframes, hsent⟩ := hhandled
    obtain ⟨ds, hds, hstate⟩ := onMessage_state hlen hprocessed
    have hnew : callUids ds = qs := by
      by_cases hqs : qs = []
      · rw [hqs] at hframes ⊢
        refine callUids_eq_nil fun d hd => List.filterMap_eq_nil_iff.mp hframes d.frame ?_
        exact hds.mem_frames.mp ⟨d, hd, rfl⟩
      · rw [callUids_of_sent, hds.1, hframes]
        intro d hd
        obtain ⟨_, n, hn⟩ := hds.2 d hd
        rw [hn, hsent hqs]
    have hafter : s.after (onMessage L E con payload) =
        { s'.state with wire := s'.state.wire ++ ds } := hstate
    rw [hafter]
    dsimp only at hwire hqueue ⊢
    rw [hqueue, hwire, start_wire, List.nil_append, hnew]
    rfl
  · have hignored : s.after (onMessage L E con payload) = s.start.state := by
      unfold Server.after onMessage
      rw [if_pos (by omega)]
      rfl
    have hnone : takenUid L con payload = none := by
      refine Option.bind_eq_none_iff.mpr fun req hparse => if_neg fun hanswer => ?_
      exact hlen (length_of_request hparse (by omega))
    rw [hignored, hnone]
    simp [Outstanding.answer, callUids]

end Messages

/-- The queue is the log, entry by entry. -/
def QueueIsLog (p : Server × Outstanding) : Prop :=
  p.1.requestQueue.map OcppRequest.uniqueID = p.2

section Runs

variable {L : Lib} {E : Env} {p : Server × Outstanding}

/-- Two answers that agree on every uid of the log have one effect on it. -/
theorem Outstanding.answer_congr {out : Outstanding} {a b : Option Text}
    (h : ∀ uid ∈ out, a = some uid ↔ b = some uid) : out.answer a = out.answer b := by
  have hunknown {a b : Option Text} (h : ∀ uid ∈ out, a = some uid → b = some uid)
      (hb : b = none) : out.answer a = out := by
    cases a with
    | none => rfl
    | some uid =>
      refine List.erase_of_not_mem fun hmem => ?_
      have hsome := h uid hmem rfl
      rw [hb] at hsome
      cases hsome
  cases a with
  | none => exact (hunknown (fun uid hmem => (h uid hmem).mpr) rfl).symm
  | some u =>
    cases b with
    | none => exact hunknown (fun uid hmem => (h uid hmem).mp) rfl
    | some v =>
      by_cases huv : u = v
      · rw [huv]
      · have hu : u ∉ out := fun hmem => huv (Option.some.inj ((h u hmem).mp rfl)).symm
        have hv : v ∉ out := fun hmem => huv (Option.some.inj ((h v hmem).mpr rfl))
        exact (List.erase_of_not_mem hu).trans (List.erase_of_not_mem hv).symm

/-- An event that is no message, and queues what it sends. -/
theorem QueueIsLog.of_sent (h : QueueIsLog p) {e : Env × Event} {t : Server}
    (hstep : Server.step L p.1 e = t)
    (hqueue : t.requestQueue.map OcppRequest.uniqueID =
      p.1.requestQueue.map OcppRequest.uniqueID ++ callUids t.wire)
    (hnote : Outstanding.note L p.2 ⟨p.1, e, t⟩ = p.2 ++ callUids t.wire) :
    QueueIsLog (noting (Server.step L) (Outstanding.note L) p e) := by
  unfold QueueIsLog at h ⊢
  rw [noting_fst, noting_snd, hstep, hnote, hqueue, h]

/-- Opening and closing connections sends nothing and queues nothing. -/
theorem callUids_of_idle {act : Act Unit} (h : Writes [.chStations, .connections] act)
    (s : Server) : (s.after act).requestQueue.map OcppRequest.uniqueID =
      s.requestQueue.map OcppRequest.uniqueID ++ callUids (s.after act).wire := by
  have honly := h s.start
  have hqueue : (s.after act).requestQueue = s.requestQueue := honly.requestQueue (by simp)
  have hwire : (s.after act).wire = [] := honly.wire (by simp)
  rw [hqueue, hwire]
  simp [callUids]

theorem onOpen_writes (con : Connection) :
    Writes [.chStations, .connections] (onOpen E con) :=
  .bind ((setChargeStationStatus_writes _).mono (by simp)) fun _ =>
    .put fun s => Only.set_connections (by simp) s _

theorem onClose_writes (con : Connection) :
    Writes [.chStations, .connections] (onClose E con) :=
  .bind ((setChargeStationStatus_writes _).mono (by simp)) fun _ =>
    .put fun s => Only.set_connections (by simp) s _

theorem QueueIsLog.step (h : QueueIsLog p) {e : Env × Event} (hok : KeptEvent L p.1 e) :
    QueueIsLog (noting (Server.step L) (Outstanding.note L) p e) := by
  obtain ⟨E, ev⟩ := e
  cases ev with
  | opened con => exact h.of_sent rfl (callUids_of_idle (onOpen_writes con) p.1) rfl
  | closed con => exact h.of_sent rfl (callUids_of_idle (onClose_writes con) p.1) rfl
  | message con payload =>
    obtain ⟨hanswers, hsends⟩ := hok
    have hqueue := onMessage_handled (s := p.1) (L := L) (E := E) hsends
    unfold QueueIsLog at h ⊢
    rw [h] at hanswers hqueue
    rw [← Outstanding.answer_congr hanswers] at hqueue
    exact hqueue
  | command cmd =>
    obtain ⟨qs, ds, hqueue, hwire, hsent⟩ := cmd.balanced (L := L) hok.1 hok.2
    refine h.of_sent (t := p.1.after (cmd.exec L E)) rfl ?_ rfl
    have hwire' : (p.1.after (cmd.exec L E)).wire = ds := hwire
    have hqueue' : (p.1.after (cmd.exec L E)).requestQueue = p.1.requestQueue ++ qs := hqueue
    rw [hwire', hqueue', List.map_append, hsent]

end Runs

/-- In every run from an empty queue whose events keep requests and their
CALLs together, the queue holds exactly the uids that wait for an answer. -/
theorem queue_outstanding (L : Lib) (s : Server) (hempty : s.requestQueue = [])
    (es : List (Env × Event))
    (hkept : Meets (noting (Server.step L) (Outstanding.note L))
      (fun p => KeptEvent L p.1) (s, []) es) :
    ∀ v ∈ visits (noting (Server.step L) (Outstanding.note L)) (s, []) es,
      QueueExact v.after := by
  intro v hv uid
  have hstart : QueueIsLog (s, []) := by
    unfold QueueIsLog
    rw [hempty]
    rfl
  obtain ⟨_, hafter⟩ := visits_invariant QueueIsLog (fun _ _ h hok => h.step hok) hstart
    hkept hv
  rw [hafter]

def resetAnswer : Text := "[3,\"00\",\x7b\"status\":\"Accepted\"\x7d]"

/-- A library that reads this answer. -/
def resetAnswerLib : Lib := .parsing resetAnswer [.int 3, .string "00", .other] (by decide)

theorem resetAnswer_parse (con : Connection) :
    parseOCPPRequest resetAnswerLib (incoming con resetAnswer) =
      some (resultRequest con resetAnswer "00" .other) := by
  apply parse_callResult
  exact Lib.parsing_parse _ _ _

/-- A connected station is reset and answers. -/
theorem queue_outstanding_reset :
    (visits (noting (Server.step resetAnswerLib) (Outstanding.note resetAnswerLib))
      (connectedStation, [])
      [(.calm, .command (.reset "GRS-1" true)),
        (.calm, .message somePeer resetAnswer)]).Forall fun v => QueueExact v.after := by
  apply List.forall_iff_forall_mem.mpr
  apply queue_outstanding resetAnswerLib connectedStation rfl
  refine meets_cons.mpr ⟨⟨fun _ => ⟨fun _ => rfl, fun _ => rfl, somePeer, by decide,
    by decide⟩, False.elim⟩, meets_cons.mpr ⟨⟨?_, ?_⟩, Meets.nil _⟩⟩
  · decide +kernel
  · intro req hparse hcall
    rw [resetAnswer_parse] at hparse
    cases hparse
    cases hcall

/-- A request for a station that is not connected stays in the queue though it
was not sent. -/
theorem unsent_reset_queued :
    ¬ ∀ v ∈ visits (noting (Server.step .refusing) (Outstanding.note .refusing))
        (Server.empty, []) [(.calm, .command (.reset "GRS-1" true))],
      QueueExact v.after := by
  intro h
  have hqueue := (h _ (List.mem_cons_self ..) "00").mp (by decide +kernel)
  exact absurd hqueue (by decide +kernel)

end UCLinux.Ocpp
