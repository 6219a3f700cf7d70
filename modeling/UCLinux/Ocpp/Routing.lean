import UCLinux.Ocpp.BootNotification
import UCLinux.Ocpp.Commands

/-!
Where commands go. The route to a station is the endpoint in its row, which
only a boot writes; it is right as long as no connection is opened at an
endpoint that a row still carries, and every boot rewrites the row of the
station that booted and no other. Under these conditions a command is sent on
an open connection whose latest boot reported the serial number it is
addressed to.
-/

namespace UCLinux.Ocpp

open Sql Machine Server CentralOcppDB HistoryDB

section Routes

/-- Every route of `t` was one of `s`. -/
def RoutesKept (s t : Server) : Prop :=
  ∀ r' ∈ t.chStations.rows, ∃ r ∈ s.chStations.rows,
    r.cols.csSerN = r'.cols.csSerN ∧ r.cols.ipAddr = r'.cols.ipAddr

theorem RoutesKept.of_same {s t : Server} (h : t.chStations = s.chStations) :
    RoutesKept s t := by
  intro r hr
  exact ⟨r, h ▸ hr, rfl, rfl⟩

theorem RoutesKept.trans {s t u : Server} (hst : RoutesKept s t) (htu : RoutesKept t u) :
    RoutesKept s u := by
  intro r hr
  obtain ⟨r', hr', hser', hip'⟩ := htu r hr
  obtain ⟨r'', hr'', hser'', hip''⟩ := hst r' hr'
  exact ⟨r'', hr'', hser''.trans hser', hip''.trans hip'⟩

theorem RoutesKept.frame : Action.Frame RoutesKept :=
  ⟨fun _ => .of_same rfl, fun h h' => h.trans h'⟩

theorem RoutesKept.of_only {T : List Part} (hT : .chStations ∉ T) {s t : Server}
    (h : Only T s t) : RoutesKept s t :=
  .of_same (h.chStations hT)

/-- An UPDATE of other columns keeps the routes. -/
theorem RoutesKept.update {E : Env} {st : Stmt} {g : Row ChStation → Option ChStation}
    (hquote : st.QuoteFree)
    (hg : ∀ r a, g r = some a → a.csSerN = r.cols.csSerN ∧ a.ipAddr = r.cols.ipAddr) :
    Action.Within RoutesKept (CH_STATIONS.update E st g) := by
  apply TableAt.update_within _ RoutesKept.frame
  intro s g' t n hg' hrw r' hr'
  rw [TableAt.rewriting_quoteFree _ hquote] at hg'
  cases hg'
  obtain ⟨r, hr, rfl⟩ := Table.of_mem_rewrite hrw hr'
  refine ⟨r, hr, ?_⟩
  cases hrow : g r with
  | none =>
    rw [Table.rewriteRow_none hrow]
    exact ⟨rfl, rfl⟩
  | some a =>
    obtain ⟨hser, hip⟩ := hg r a hrow
    rw [Table.rewriteRow_some hrow]
    exact ⟨hser.symm, hip.symm⟩

end Routes

section Addressing

variable {L : Lib} {E : Env} {s : Server} {serN N : Text}

/-- What looking a serial number up can yield: nothing, the endpoint stored
for it, and anything at all when it alters the query. -/
def LeadsTo (s : Server) (N ip : Text) : Prop :=
  ip = [] ∨ '\'' ∈ cstr N ∨
    ∃ r ∈ s.chStations.rows, r.cols.csSerN = cstr N ∧ cstr r.cols.ipAddr = ip

/-- The connection is open and looking the serial number up can lead to it. -/
def Routed (s : Server) (N : Text) (con : Connection) : Prop :=
  con ∈ s.connections ∧ LeadsTo s N con.endpoint.text

/-- From `s` the routes were kept and frames were sent on the route of `N`
only. -/
structure Addressed (s : Server) (N : Text) (t : Server) : Prop where
  routes : RoutesKept s t
  connections : t.connections = s.connections
  wire : ∀ d ∈ t.wire, Routed s N d.receiver

theorem Addressed.start (s : Server) (N : Text) : Addressed s N s.start.state :=
  ⟨.of_same rfl, rfl, by simp⟩

theorem LeadsTo.of_kept {t : Server} {ip : Text} (h : RoutesKept s t) (hip : LeadsTo t N ip) :
    LeadsTo s N ip := by
  rcases hip with hnone | hquote | ⟨r', hr', hser, hip⟩
  · exact Or.inl hnone
  · exact Or.inr (Or.inl hquote)
  · obtain ⟨r, hr, hser', hip'⟩ := h r' hr'
    exact Or.inr (Or.inr ⟨r, hr, hser'.trans hser, by rw [hip', hip]⟩)

theorem Addressed.of_only {T : List Part} (hT : .chStations ∉ T ∧ .connections ∉ T ∧ .wire ∉ T)
    {t u : Server} (h : Only T t u) (hI : Addressed s N t) : Addressed s N u := by
  refine ⟨hI.routes.trans (.of_only hT.1 h), (h.connections hT.2.1).trans hI.connections, ?_⟩
  rw [h.wire hT.2.2]
  exact hI.wire

theorem Addressed.of_routesKept {T : List Part} (hT : .connections ∉ T ∧ .wire ∉ T)
    {t u : Server} (h : Only T t u) (hroutes : RoutesKept t u) (hI : Addressed s N t) :
    Addressed s N u := by
  refine ⟨hI.routes.trans hroutes, (h.connections hT.1).trans hI.connections, ?_⟩
  rw [h.wire hT.2]
  exact hI.wire

/-- The action keeps what was sent on the route of `N`. -/
abbrev KeepsAddressed (s : Server) (N : Text) {α : Type} (P : α → Prop) (act : Act α) :
    Prop :=
  Action.Keeps (Addressed s N) P act

theorem keepsAddressed_of_writes {T : List Part} {α : Type} {act : Act α} (h : Writes T act)
    (hT : .chStations ∉ T ∧ .connections ∉ T ∧ .wire ∉ T) :
    KeepsAddressed s N (fun _ => True) act :=
  Action.Keeps.of_within h fun _ _ honly hI => hI.of_only hT honly

theorem keepsAddressed_of_routesKept {T : List Part} {α : Type} {act : Act α}
    (h : Writes T act) (hT : .connections ∉ T ∧ .wire ∉ T)
    (hroutes : Action.Within RoutesKept act) : KeepsAddressed s N (fun _ => True) act :=
  fun k hI => ⟨trivial, hI.of_routesKept hT (h k) (hroutes k)⟩

theorem updateCSFWUpdate_routesKept {sern status : Text} (ts : Int)
    (hquote : '\'' ∉ cstr sern) (hstatus : '\'' ∉ status) :
    Action.Within RoutesKept (updateCSFWUpdateFromOcppMessage2DB E sern status ts) := by
  apply RoutesKept.update
  · exact updateCSFWUpdateSql_quoteFree.mpr ⟨fun hc => hstatus (mem_of_mem_cstr hc), hquote⟩
  · intro r a ha
    split at ha
    · cases ha
      exact ⟨rfl, rfl⟩
    · cases ha

/-- Looking a serial number up yields its endpoint; it keeps the routes, which
a note of a firmware update only does without a quote. -/
theorem getIPAddrBySerNumber_leads (fw : Bool) (hquote : fw = true → '\'' ∉ cstr N) :
    KeepsAddressed s N (LeadsTo s N) (getIPAddrBySerNumber E N fw) := by
  unfold getIPAddrBySerNumber
  apply Action.Keeps.bind (keepsAddressed_of_writes (.createConnection E) (T := []) (by simp))
  intro opened _
  apply Action.Keeps.ite
  · intro _
    apply Action.Keeps.bind (P := fun found => ∀ ip, found.first = some (some ip) →
      LeadsTo s N ip)
    · intro k hI
      rw [TableAt.read_snd]
      refine ⟨fun ip hip => ?_, hI⟩
      by_cases hN : '\'' ∈ cstr N
      · exact Or.inr (Or.inl hN)
      · have hmem := CH_STATIONS.read_first k (getIPAddrSql_quoteFree.mpr hN) hip
        obtain ⟨r, hr, rfl⟩ := List.mem_map.mp hmem
        obtain ⟨hrow, hser⟩ := List.mem_filter.mp hr
        exact .of_kept hI.routes (Or.inr (Or.inr ⟨r, hrow, of_decide_eq_true hser, rfl⟩))
    · intro found hfound
      cases hfirst : found.first with
      | none => exact .pure (Or.inl rfl)
      | some ip =>
        have hip : LeadsTo s N (ip.getD []) := by
          cases ip with
          | none => exact Or.inl rfl
          | some ip => exact hfound ip hfirst
        apply Action.Keeps.ite
        · intro hfw
          apply Action.Keeps.bind (keepsAddressed_of_writes (.clockNow E) (T := []) (by simp))
          intro ts _
          apply Action.Keeps.bind
          · exact keepsAddressed_of_routesKept (T := [.chStations])
              (.updateStations (by simp)) (by simp)
              (updateCSFWUpdate_routesKept ts (hquote hfw.1) (by decide))
          · exact fun _ _ => .pure hip
        · exact fun _ => .pure hip
  · exact fun _ => .pure (Or.inl rfl)

/-- A frame for an endpoint is handed to a connection that has it. -/
theorem sendResponse2Client_found (ip : Text) (frame : Frame) (k : Session Server)
    (hopen : ∃ con ∈ k.state.connections, con.endpoint.text = ip) :
    ∃ con ∈ k.state.connections, con.endpoint.text = ip ∧
      sendResponse2Client E ip frame k =
        (E.sends k.asked, ⟨{ k.state with
          wire := k.state.wire ++ [⟨con, frame, E.sends k.asked⟩] }, k.asked + 1⟩) := by
  unfold sendResponse2Client
  rw [Action.bind_apply, Action.look_apply]
  cases hfound : getOcppClientConnection ip k.state with
  | none =>
    obtain ⟨con, hcon, hend⟩ := hopen
    exact absurd (decide_eq_true hend) (List.find?_eq_none.mp hfound con hcon)
  | some con =>
    have hmem : con ∈ k.state.connections := List.mem_of_find?_eq_some hfound
    have hend : con.endpoint.text = ip := by simpa using List.find?_some hfound
    exact ⟨con, hmem, hend, sendTo_apply frame k⟩

/-- Without such a connection nothing is sent. -/
theorem sendResponse2Client_missing {ip : Text} (frame : Frame) (k : Session Server)
    (hnone : ∀ con ∈ k.state.connections, con.endpoint.text ≠ ip) :
    sendResponse2Client E ip frame k = (false, k) := by
  have hfound : getOcppClientConnection ip k.state = none :=
    List.find?_eq_none.mpr fun con hcon => by simpa using hnone con hcon
  unfold sendResponse2Client
  rw [Action.bind_apply, Action.look_apply, hfound]
  rfl

theorem sendResponse2Client_addressed {ip : Text} (hip : LeadsTo s N ip) (frame : Frame) :
    KeepsAddressed s N (fun _ => True) (sendResponse2Client E ip frame) := by
  intro k hI
  refine ⟨trivial, ?_⟩
  by_cases hopen : ∃ con ∈ k.state.connections, con.endpoint.text = ip
  · obtain ⟨con, hcon, hend, hsent⟩ := sendResponse2Client_found (E := E) ip frame k hopen
    rw [hsent]
    refine ⟨hI.routes, hI.connections, fun d hd => ?_⟩
    rcases List.mem_append.mp hd with old | new
    · exact hI.wire d old
    · rw [List.mem_singleton.mp new]
      exact ⟨hI.connections ▸ hcon, by rwa [hend]⟩
  · rw [sendResponse2Client_missing frame k fun con hcon hend => hopen ⟨con, hcon, hend⟩]
    exact hI

theorem createAndSend_addressed {create : Act (Option Created)} (h : Builds E create)
    (fw : Bool) (hquote : fw = true → '\'' ∉ cstr N) :
    KeepsAddressed s N (fun _ => True) (createAndSend E create N fw) := by
  unfold createAndSend
  apply Action.Keeps.bind (keepsAddressed_of_writes h.writes (by simp))
  intro created _
  cases created with
  | none => exact .pure trivial
  | some c =>
    apply Action.Keeps.bind (getIPAddrBySerNumber_leads fw hquote)
    intro ip hip
    apply Action.Keeps.bind (sendResponse2Client_addressed hip c.frame)
    exact fun _ _ => .pure trivial

theorem lookupAndSend_addressed (action : Text) (payload : Payload) :
    KeepsAddressed s N (fun _ => True) (lookupAndSend L E N action payload) := by
  unfold lookupAndSend
  apply Action.Keeps.bind (getIPAddrBySerNumber_leads false (by simp))
  intro ip hip
  apply Action.Keeps.bind (keepsAddressed_of_writes (T := [.requestQueue])
    (createCentralRequest_writes (by simp)) (by simp))
  intro c _
  apply Action.Keeps.bind (sendResponse2Client_addressed hip c.frame)
  exact fun _ _ => .pure trivial

/-- Assigning a profile keeps the routes. -/
theorem updateCSStationsWithProfile_routesKept {profileId cid : Int} {sern : Text}
    (hquote : sern = "*" ∨ '\'' ∉ sern) :
    Action.Within RoutesKept (updateCSStationsWithProfile E profileId cid sern) := by
  apply Action.Within.ite
  · exact fun _ => .pure RoutesKept.frame _
  · intro _
    apply RoutesKept.update
    · apply updateCSStationsWithProfileSql_quoteFree.mpr
      rcases hquote with rfl | hquote
      · decide
      · exact fun hc => hquote (mem_of_mem_cstr hc)
    · intro r a ha
      split at ha
      · cases ha
        exact ⟨rfl, rfl⟩
      · cases ha

theorem insertOrUpdateCSProf2DB_routesKept {cid profileId : Int} {profName sern json : Text}
    (hquote : sern = "*" ∨ '\'' ∉ sern) :
    Action.Within RoutesKept (insertOrUpdateCSProf2DB E cid profileId profName sern json) := by
  have hprof {α : Type} {act : Act α} (h : Writes [.csProf] act) :
      Action.Within RoutesKept act :=
    Action.Within.mono (fun _ _ honly => .of_only (by simp) honly) h
  unfold insertOrUpdateCSProf2DB
  apply Action.Within.bind RoutesKept.frame (hprof (.createConnection E))
  intro opened
  apply Action.Within.ite
  · intro _
    apply Action.Within.bind RoutesKept.frame (hprof (.clockNow E))
    intro ts
    apply Action.Within.ite
    · intro _
      apply Action.Within.bind RoutesKept.frame (hprof (.updateProf (by simp)))
      intro rv
      cases rv with
      | none => exact .pure RoutesKept.frame _
      | some n =>
        apply Action.Within.bind RoutesKept.frame
          (updateCSStationsWithProfile_routesKept hquote)
        exact fun _ => .pure RoutesKept.frame _
    · intro _
      apply Action.Within.bind RoutesKept.frame
        (hprof (.bind .read fun _ => .pure _))
      intro last
      cases last with
      | none => exact .pure RoutesKept.frame _
      | some last =>
        apply Action.Within.ite
        · intro _
          apply Action.Within.bind RoutesKept.frame (hprof (.insertProf (by simp)))
          exact fun _ => .pure RoutesKept.frame _
        · exact fun _ => .pure RoutesKept.frame _
  · exact fun _ => .pure RoutesKept.frame _

theorem removeChargingProfilefromCS_routesKept {sern : Text} (hquote : '\'' ∉ sern) :
    Action.Within RoutesKept (removeChargingProfilefromCS E sern) := by
  unfold removeChargingProfilefromCS
  apply Action.Within.bind RoutesKept.frame (connect_within RoutesKept.frame)
  intro opened
  apply Action.Within.ite
  · intro _
    apply Action.Within.bind RoutesKept.frame
    · apply RoutesKept.update
      · exact removeChargingProfileSql_quoteFree.mpr fun hc => hquote (mem_of_mem_cstr hc)
      · intro r a ha
        split at ha
        · cases ha
          exact ⟨rfl, rfl⟩
        · cases ha
    · exact fun _ => .pure RoutesKept.frame _
  · exact fun _ => .pure RoutesKept.frame _

/-- Whatever its form, a command without a quote is sent on the route of its
addressee only. -/
theorem Shape.addressed {act : Act Outcome} (h : Shape L E serN N act)
    (hserN : '\'' ∉ serN) (hN : '\'' ∉ N) :
    KeepsAddressed s N (fun _ => True) act := by
  induction h with
  | silent o => exact .pure trivial
  | queued hbuilds fw =>
    exact createAndSend_addressed hbuilds fw fun _ hc => hN (mem_of_mem_cstr hc)
  | looked action payload => exact lookupAndSend_addressed action payload
  | direct hx uid action payload =>
    apply Action.Keeps.bind (getIPAddrBySerNumber_leads false (by simp))
    intro ip hip
    apply Action.Keeps.bind (keepsAddressed_of_writes hx (by simp))
    intro b _
    apply Action.Keeps.bind (sendResponse2Client_addressed hip _)
    exact fun _ _ => .pure trivial
  | saves cid profileId hsern =>
    apply Action.Keeps.bind
    · exact keepsAddressed_of_routesKept (T := [.chStations, .csProf])
        (insertOrUpdateCSProf2DB_writes (by simp) (by simp)) (by simp)
        (insertOrUpdateCSProf2DB_routesKept (hsern.imp id fun hmem hc => hserN (hmem _ hc)))
    · exact fun _ _ => .pure trivial
  | clears hsern =>
    apply Action.Keeps.bind
    · exact keepsAddressed_of_routesKept (T := [.chStations])
        (removeChargingProfile_writes (by simp)) (by simp)
        (removeChargingProfilefromCS_routesKept fun hc => hserN (hsern _ hc))
    · exact fun _ _ => .pure trivial
  | reads hx _ ih =>
    apply Action.Keeps.bind (keepsAddressed_of_writes hx (by simp))
    exact fun b _ => ih b
  | result g _ ih =>
    apply Action.Keeps.bind ih
    exact fun _ _ => .pure trivial

end Addressing

section Boots

variable {L : Lib} {E : Env} {s : Server} {con : Connection} {payload : Text}

/-- The serial number a message reports, if it is a boot. -/
def bootSerial (L : Lib) (payload : Text) : Option Text :=
  match L.parse (cstr payload) with
  | some [.int 2, .string _, .string action, _] =>
    if cstr action = "BootNotification" then reportedSerial L payload else none
  | _ => none

theorem bootSerial_of_boot {uid action : Text} (h : IsCall L payload uid action)
    (ha : cstr action = "BootNotification") :
    bootSerial L payload = reportedSerial L payload := by
  obtain ⟨p, hparse⟩ := h
  unfold bootSerial
  rw [hparse]
  exact if_pos ha

/-- The serial number each connection has reported last. -/
abbrev Boots : Type := Connection → Option Text

/-- A connection has reported nothing when it is opened, and then what its
last boot reported. -/
def Boots.note (L : Lib) (b : Boots) (v : Visit Server (Env × Event)) : Boots :=
  match v.event.2 with
  | .opened con => Function.update b con none
  | .message con payload =>
    match bootSerial L payload with
    | some N => Function.update b con (some N)
    | none => b
  | _ => b

/-- The boot is one of the station whose row has the endpoint of the
connection, if there is one, and rewrites rows of its serial number only. -/
def BootRouted (L : Lib) (s : Server) (con : Connection) (payload : Text) : Prop :=
  ∀ p sern, L.loadBootNotification (doSimpleExtract payload) = some p →
    p.chargePointSerialNumber = some sern →
    (∀ r ∈ s.chStations.rows, cstr r.cols.ipAddr = con.endpoint.text →
      r.cols.csSerN = sern.toText) ∧
    ((∃ fw, p.firmwareVersion = some fw ∧ '\'' ∉ fw.toText ∧ '\'' ∉ sern.toText) ∨
      p.firmwareVersion = none ∧ ∀ r ∈ s.chStations.rows, r.cols.csSerN = sern.toText)

/-- The events of a run of opens, closes, boots and commands, with what each
has to find: connections are opened at endpoints that no open connection and
no row has, boots come on open connections and are routed, and commands have
no quote and no NUL. -/
def RoutedEvent (L : Lib) (p : Server × Boots) (e : Env × Event) : Prop :=
  match e.2 with
  | .opened con => (∀ c ∈ p.1.connections, c.endpoint ≠ con.endpoint) ∧
      ∀ r ∈ p.1.chStations.rows, cstr r.cols.ipAddr ≠ con.endpoint.text
  | .closed _ => True
  | .message con payload => con ∈ p.1.connections ∧
      (∃ uid action, IsCall L payload uid action ∧ cstr action = "BootNotification") ∧
      BootRouted L p.1 con payload
  | .command cmd => '\'' ∉ cmd.serN ∧ '\x00' ∉ cmd.serN

/-- No two of the connections have one endpoint. -/
def EndpointsDistinct (cs : List Connection) : Prop :=
  ∀ c ∈ cs, ∀ c' ∈ cs, c.endpoint = c'.endpoint → c = c'

theorem EndpointsDistinct.nil : EndpointsDistinct [] := by
  intro c hc
  cases hc

theorem EndpointsDistinct.append {cs : List Connection} (h : EndpointsDistinct cs)
    (hnew : ∀ c ∈ cs, c.endpoint ≠ con.endpoint) : EndpointsDistinct (cs ++ [con]) := by
  intro c hc c' hc' heq
  rcases List.mem_append.mp hc with old | new
  · rcases List.mem_append.mp hc' with old' | new'
    · exact h c old c' old' heq
    · exact absurd (List.mem_singleton.mp new' ▸ heq) (hnew c old)
  · rcases List.mem_append.mp hc' with old' | new'
    · exact absurd (List.mem_singleton.mp new ▸ heq.symm) (hnew c' old')
    · rw [List.mem_singleton.mp new, List.mem_singleton.mp new']

theorem EndpointsDistinct.filter {cs : List Connection} (h : EndpointsDistinct cs)
    (keep : Connection → Bool) : EndpointsDistinct (cs.filter keep) := by
  intro c hc c' hc' heq
  exact h c (List.mem_of_mem_filter hc) c' (List.mem_of_mem_filter hc') heq

/-- Open connections have distinct endpoints, and a row with the endpoint of
one is of the station it reported last. -/
structure RoutesRight (p : Server × Boots) : Prop where
  distinct : EndpointsDistinct p.1.connections
  booted : ∀ r ∈ p.1.chStations.rows, ∀ c ∈ p.1.connections,
    cstr r.cols.ipAddr = c.endpoint.text → p.2 c = some r.cols.csSerN

/-- A status update keeps the routes. -/
theorem setChargeStationStatus_routesKept {ip : Text} (hip : '\'' ∉ ip)
    (sts : ChargeStationStatus) : Action.Within RoutesKept (setChargeStationStatus E ip sts) := by
  unfold setChargeStationStatus updateChargeStationStatus
  apply Action.Within.bind RoutesKept.frame _ fun _ => .pure RoutesKept.frame _
  apply Action.Within.bind RoutesKept.frame (connect_within RoutesKept.frame)
  intro opened
  apply Action.Within.ite
  · intro _
    apply Action.Within.bind RoutesKept.frame _ fun _ => .pure RoutesKept.frame _
    apply RoutesKept.update
    · exact updateChargeStationStatusSql_quoteFree.mpr
        fun hc => hip (mem_of_mem_cstr hc)
    · intro r a ha
      split at ha
      · cases ha
        exact ⟨rfl, rfl⟩
      · cases ha
  · exact fun _ => .pure RoutesKept.frame _

/-- A routed boot gives its endpoint to rows of its serial number only. -/
theorem bootRewriting_routed (hrouted : BootRouted L s con payload)
    {p : BootNotificationRequest} {sern : SchemaString 25} {ts : Int}
    (hload : L.loadBootNotification (doSimpleExtract payload) = some p)
    (hsern : p.chargePointSerialNumber = some sern)
    {g : Row ChStation → Option ChStation} (hg : bootRewriting E con p sern ts = some g)
    {r : Row ChStation} (hr : r ∈ s.chStations.rows) {a : ChStation} (ha : g r = some a) :
    r.cols.csSerN = sern.toText ∧ a.csSerN = r.cols.csSerN ∧
      a.ipAddr = con.endpoint.text := by
  have hip : cstr con.endpoint.text = con.endpoint.text :=
    cstr_of_no_nul con.endpoint.noNul
  obtain ⟨_, ⟨fw, hfw, hquote, hquote'⟩ | ⟨hfw, hall⟩⟩ := hrouted p sern hload hsern
  · rw [bootRewriting_filtered hfw hquote hquote'] at hg
    cases hg
    dsimp only at ha
    split at ha
    · next hser =>
      cases ha
      exact ⟨hser, rfl, hip⟩
    · cases ha
  · rw [bootRewriting_unversioned hfw] at hg
    cases hg
    cases ha
    exact ⟨hall r hr, rfl, hip⟩

theorem setChargeStationStatus_writes {ip : Text} (sts : ChargeStationStatus) :
    Writes [.chStations] (setChargeStationStatus E ip sts) :=
  .bind (updateChargeStationStatus_writes (by simp)) fun _ => .pure _

/-- Opening a connection sets the status and adds the connection. -/
theorem step_opened (L : Lib) (E : Env) (s : Server) (con : Connection) :
    (Server.step L s (E, .opened con)).connections = s.connections ++ [con] ∧
      (Server.step L s (E, .opened con)).chStations =
        (setChargeStationStatus E con.endpoint.text .available s.start).2.state.chStations := by
  have hcons : (setChargeStationStatus E con.endpoint.text .available
      s.start).2.state.connections = s.connections :=
    (setChargeStationStatus_writes .available s.start).connections (by simp)
  refine ⟨?_, rfl⟩
  rw [← hcons]
  rfl

/-- Closing a connection sets the status and removes the connection. -/
theorem step_closed (L : Lib) (E : Env) (s : Server) (con : Connection) :
    (Server.step L s (E, .closed con)).connections = s.connections.filter (· ≠ con) ∧
      (Server.step L s (E, .closed con)).chStations =
        (setChargeStationStatus E (E.getRemoteEndpoint con) .unavailable
          s.start).2.state.chStations := by
  have hcons : (setChargeStationStatus E (E.getRemoteEndpoint con) .unavailable
      s.start).2.state.connections = s.connections :=
    (setChargeStationStatus_writes .unavailable s.start).connections (by simp)
  refine ⟨?_, rfl⟩
  rw [← hcons]
  rfl

namespace RoutesRight

variable {p : Server × Boots}

theorem opened (h : RoutesRight p) (hok : RoutedEvent L p (E, .opened con)) :
    RoutesRight (noting (Server.step L) (Boots.note L) p (E, .opened con)) := by
  obtain ⟨hnew, hfree⟩ := hok
  obtain ⟨hcons, hstations⟩ := step_opened L E p.1 con
  refine ⟨?_, ?_⟩
  · rw [noting_fst, hcons]
    exact h.distinct.append hnew
  · intro r' hr' c hc hip
    rw [noting_fst, hstations] at hr'
    rw [noting_fst, hcons] at hc
    obtain ⟨r, hr, hser, hip'⟩ :=
      setChargeStationStatus_routesKept con.endpoint.noQuote .available p.1.start r' hr'
    rw [← hip'] at hip
    rw [← hser]
    rcases List.mem_append.mp hc with old | new
    · have hne : c ≠ con := fun heq => hnew c old (heq ▸ rfl)
      have hkept : Function.update p.2 con none c = p.2 c := Function.update_of_ne hne _ _
      exact hkept.trans (h.booted r hr c old hip)
    · rw [List.mem_singleton.mp new] at hip
      exact absurd hip (hfree r hr)

theorem closed (h : RoutesRight p) :
    RoutesRight (noting (Server.step L) (Boots.note L) p (E, .closed con)) := by
  obtain ⟨hcons, hstations⟩ := step_closed L E p.1 con
  refine ⟨?_, ?_⟩
  · rw [noting_fst, hcons]
    exact h.distinct.filter _
  · intro r' hr' c hc hip
    rw [noting_fst, hstations] at hr'
    rw [noting_fst, hcons] at hc
    obtain ⟨r, hr, hser, hip'⟩ :=
      setChargeStationStatus_routesKept (E.getRemoteEndpoint_noQuote con) .unavailable
        p.1.start r' hr'
    rw [← hip'] at hip
    rw [← hser]
    exact h.booted r hr c (List.mem_of_mem_filter hc) hip

theorem message (h : RoutesRight p) (hok : RoutedEvent L p (E, .message con payload)) :
    RoutesRight (noting (Server.step L) (Boots.note L) p (E, .message con payload)) := by
  obtain ⟨hopen, ⟨uid, action, hcall, haction⟩, hrouted⟩ := hok
  have hcons : (p.1.after (onMessage L E con payload)).connections = p.1.connections :=
    onMessage_connections E con payload p.1.start
  have hnote : Boots.note L p.2 ⟨p.1, (E, .message con payload),
      Server.step L p.1 (E, .message con payload)⟩ =
      match reportedSerial L payload with
      | some N => Function.update p.2 con (some N)
      | none => p.2 := by
    rw [← bootSerial_of_boot hcall haction]
    rfl
  refine ⟨hcons.symm ▸ h.distinct, ?_⟩
  intro r' hr' c hc hip
  replace hr' : r' ∈ (p.1.after (onMessage L E con payload)).chStations.rows := hr'
  replace hc : c ∈ p.1.connections := hcons ▸ hc
  rw [noting_snd, hnote]
  cases hreported : reportedSerial L payload with
  | none =>
    obtain ⟨hsame, _⟩ := after_unreported_boot E p.1 con hcall haction hreported
    rw [hsame] at hr'
    exact h.booted r' hr' c hc hip
  | some N =>
    obtain ⟨q, hload, hserial⟩ := Option.bind_eq_some_iff.mp hreported
    obtain ⟨sern, hsern, rfl⟩ := Option.map_eq_some_iff.mp hserial
    have hold : ∀ r ∈ p.1.chStations.rows, cstr r.cols.ipAddr = c.endpoint.text →
        Function.update p.2 con (some sern.toText) c = some r.cols.csSerN := by
      intro r hr hip
      by_cases hc' : c = con
      · rw [hc'] at hip ⊢
        rw [Function.update_self, (hrouted q sern hload hsern).1 r hr hip]
      · rw [Function.update_of_ne hc']
        exact h.booted r hr c hc hip
    dsimp only
    rcases after_boot_rewrite E p.1 con hcall haction hload hsern with
      ⟨_, hsame⟩ | ⟨g, n, hg, hrw, _⟩
    · rw [hsame] at hr'
      exact hold r' hr' hip
    · obtain ⟨r, hr, rfl⟩ := Table.of_mem_rewrite hrw hr'
      cases hrow : g r with
      | none =>
        rw [Table.rewriteRow_none hrow] at hip ⊢
        exact hold r hr hip
      | some a =>
        obtain ⟨hser, hkey, hip'⟩ := bootRewriting_routed hrouted hload hsern hg hr hrow
        rw [Table.rewriteRow_some hrow] at hip ⊢
        dsimp only at hip ⊢
        rw [hip', cstr_of_no_nul con.endpoint.noNul] at hip
        have hc' : c = con := h.distinct c hc con hopen (Endpoint.ext hip.symm)
        rw [hc', Function.update_self, hkey, hser]

/-- A command finds the routes right and keeps them. -/
theorem command_addressed (cmd : Command) (hserN : '\'' ∉ cmd.serN) :
    Addressed p.1 cmd.addressee (Server.step L p.1 (E, .command cmd)) := by
  have hquote : '\'' ∉ cmd.addressee := fun hc => hserN (cmd.mem_serN hc)
  have hshape := (cmd.shape (L := L) (E := E)).addressed (s := p.1) hserN hquote
  exact (hshape p.1.start (.start p.1 cmd.addressee)).2

theorem command (h : RoutesRight p) {cmd : Command}
    (hok : RoutedEvent L p (E, .command cmd)) :
    RoutesRight (noting (Server.step L) (Boots.note L) p (E, .command cmd)) := by
  have haddressed := command_addressed (L := L) (E := E) (p := p) cmd hok.1
  refine ⟨haddressed.connections.symm ▸ h.distinct, ?_⟩
  · intro r' hr' c hc hip
    rw [noting_fst, haddressed.connections] at hc
    obtain ⟨r, hr, hser, hip'⟩ := haddressed.routes r' hr'
    rw [← hip'] at hip
    rw [← hser]
    exact h.booted r hr c hc hip

theorem step (h : RoutesRight p) {e : Env × Event} (hok : RoutedEvent L p e) :
    RoutesRight (noting (Server.step L) (Boots.note L) p e) := by
  obtain ⟨E, ev⟩ := e
  cases ev with
  | opened con => exact h.opened hok
  | closed con => exact h.closed
  | message con payload => exact h.message hok
  | command cmd => exact h.command hok

end RoutesRight

end Boots

/-- Frames of a command go out on open connections whose latest boot reported
the serial number it is addressed to. -/
def SentRight (v : Visit (Server × Boots) (Env × Event)) : Prop :=
  ∀ cmd, v.event.2 = .command cmd → ∀ d ∈ v.after.1.wire,
    d.receiver ∈ v.before.1.connections ∧ v.before.2 d.receiver = some cmd.addressee

/-- In every run of routed events of a server that was started without
connections, commands are sent to the stations they are addressed to. -/
theorem commands_sentRight (L : Lib) (s : Server) (hempty : s.connections = [])
    (es : List (Env × Event))
    (hrouted : Meets (noting (Server.step L) (Boots.note L)) (RoutedEvent L)
      (s, fun _ => none) es) :
    ∀ v ∈ visits (noting (Server.step L) (Boots.note L)) (s, fun _ => none) es,
      SentRight v := by
  intro v hv cmd hcmd d hd
  have hstart : RoutesRight (s, fun _ => none) := by
    refine ⟨?_, ?_⟩
    · rw [hempty]
      exact .nil
    · intro r _ c hc
      simp [hempty] at hc
  obtain ⟨hbefore, _⟩ := visits_invariant RoutesRight (fun _ _ h hok => h.step hok) hstart
    hrouted hv
  have hok := hrouted v hv
  have hafter := after_eq_step hv
  obtain ⟨⟨s', b⟩, ⟨E, ev⟩, after⟩ := v
  dsimp only at hcmd
  subst hcmd
  obtain ⟨hquote, hnul⟩ := hok
  have haddressed := RoutesRight.command_addressed (L := L) (E := E) (p := (s', b)) cmd hquote
  dsimp only at hafter
  rw [hafter] at hd
  obtain ⟨hopen, hleads⟩ := haddressed.wire d hd
  refine ⟨hopen, ?_⟩
  rcases hleads with hnone | hc | ⟨r, hr, hser, hip⟩
  · exact absurd hnone d.receiver.endpoint.nonempty
  · exact absurd (cmd.mem_serN (mem_of_mem_cstr hc)) hquote
  · have hboot := hbefore.booted r hr d.receiver hopen hip
    rw [hboot, hser, cstr_of_no_nul fun hc => hnul (cmd.mem_serN hc)]

def unbootedStation : Server :=
  { Server.empty with chStations := ⟨[⟨1, .plain "GRS-1" "" 1⟩], by decide, by decide⟩ }

/-- A station connects and boots, and is reset. -/
theorem commands_sentRight_reset :
    (visits (noting (Server.step fullBootLib) (Boots.note fullBootLib))
      (unbootedStation, fun _ => none)
      [(.calm, .opened somePeer), (.calm, .message somePeer fullBoot),
        (.calm, .command (.reset "GRS-1" true))]).Forall SentRight := by
  apply List.forall_iff_forall_mem.mpr
  apply commands_sentRight fullBootLib unbootedStation rfl
  refine meets_cons.mpr ⟨⟨by decide, by decide⟩, ?_⟩
  refine meets_cons.mpr
    ⟨⟨by decide, ⟨"1", "BootNotification", bootLib_isCall _, by decide⟩, ?_⟩, ?_⟩
  · intro p sern hload hsern
    cases hload
    cases hsern
    exact ⟨by decide, Or.inl ⟨_, rfl, by decide, by decide⟩⟩
  · exact meets_cons.mpr ⟨⟨by decide, by decide⟩, Meets.nil _⟩

/-- Another peer at the same endpoint. -/
def nextPeer : Connection := { somePeer with hdl := 1 }

/-- When a station has gone and another peer has its endpoint, the peer gets
the commands of the station. -/
theorem reused_endpoint_missent :
    ¬ ∀ v ∈ visits (noting (Server.step fullBootLib) (Boots.note fullBootLib))
        (unbootedStation, fun _ => none)
        [(.calm, .opened somePeer), (.calm, .message somePeer fullBoot),
          (.calm, .closed somePeer), (.calm, .opened nextPeer),
          (.calm, .command (.reset "GRS-1" true))],
      SentRight v := by
  intro h
  have hlast := h _ (List.mem_cons_of_mem _ (List.mem_cons_of_mem _ (List.mem_cons_of_mem _
    (List.mem_cons_of_mem _ (List.mem_cons_self ..)))))
  obtain ⟨_, hboot⟩ := hlast (.reset "GRS-1" true) rfl
    ⟨nextPeer, .call 2 "00" "Reset" (.reset "Soft"), true⟩ (by decide +kernel)
  exact absurd hboot (by decide +kernel)

end UCLinux.Ocpp
