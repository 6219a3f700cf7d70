import UCLinux.Ocpp.TelemetryServer

/-!
Which parts of the server each function can change, whatever the environment.
`Only T` relates a state to one that differs from it in the parts of `T` at
most; a function has one lemma, for all `T` that contain what it writes.
-/

namespace UCLinux.Ocpp

open Sql Machine Server CentralOcppDB HistoryDB

inductive Part where
  | chStations
  | csProf
  | csHist
  | startTr
  | stopTr
  | meterV
  | requestQueue
  | connections
  | wire
  deriving DecidableEq, Repr

/-- The two states agree outside `T`. -/
structure Only (T : List Part) (s t : Server) : Prop where
  chStations : .chStations ∉ T → t.chStations = s.chStations
  csProf : .csProf ∉ T → t.csProf = s.csProf
  csHist : .csHist ∉ T → t.csHist = s.csHist
  startTr : .startTr ∉ T → t.startTr = s.startTr
  stopTr : .stopTr ∉ T → t.stopTr = s.stopTr
  meterV : .meterV ∉ T → t.meterV = s.meterV
  requestQueue : .requestQueue ∉ T → t.requestQueue = s.requestQueue
  connections : .connections ∉ T → t.connections = s.connections
  wire : .wire ∉ T → t.wire = s.wire

namespace Only

variable {T : List Part}

theorem refl (s : Server) : Only T s s :=
  ⟨fun _ => rfl, fun _ => rfl, fun _ => rfl, fun _ => rfl, fun _ => rfl, fun _ => rfl,
    fun _ => rfl, fun _ => rfl, fun _ => rfl⟩

theorem trans {s t u : Server} (h : Only T s t) (h' : Only T t u) : Only T s u where
  chStations hT := (h'.chStations hT).trans (h.chStations hT)
  csProf hT := (h'.csProf hT).trans (h.csProf hT)
  csHist hT := (h'.csHist hT).trans (h.csHist hT)
  startTr hT := (h'.startTr hT).trans (h.startTr hT)
  stopTr hT := (h'.stopTr hT).trans (h.stopTr hT)
  meterV hT := (h'.meterV hT).trans (h.meterV hT)
  requestQueue hT := (h'.requestQueue hT).trans (h.requestQueue hT)
  connections hT := (h'.connections hT).trans (h.connections hT)
  wire hT := (h'.wire hT).trans (h.wire hT)

theorem frame : Action.Frame (Only T) := ⟨refl, trans⟩

theorem mono {T' : List Part} (hT : T ⊆ T') {s t : Server} (h : Only T s t) :
    Only T' s t where
  chStations hn := h.chStations fun hm => hn (hT hm)
  csProf hn := h.csProf fun hm => hn (hT hm)
  csHist hn := h.csHist fun hm => hn (hT hm)
  startTr hn := h.startTr fun hm => hn (hT hm)
  stopTr hn := h.stopTr fun hm => hn (hT hm)
  meterV hn := h.meterV fun hm => hn (hT hm)
  requestQueue hn := h.requestQueue fun hm => hn (hT hm)
  connections hn := h.connections fun hm => hn (hT hm)
  wire hn := h.wire fun hm => hn (hT hm)

theorem eq {s t : Server} (h : Only [] s t) : t = s := by
  obtain ⟨h1, h2, h3, h4, h5, h6, h7, h8, h9⟩ := h
  cases s
  cases t
  simp_all

theorem set_chStations (h : .chStations ∈ T) (s : Server) (t : Table ChStation.key) :
    Only T s (CH_STATIONS.set s t) := by
  constructor <;> first | exact fun _ => rfl | exact fun hT => absurd h hT

theorem set_csProf (h : .csProf ∈ T) (s : Server) (t : Table (noKey (α := CSProfile))) :
    Only T s (CSProfTbl.set s t) := by
  constructor <;> first | exact fun _ => rfl | exact fun hT => absurd h hT

theorem set_csHist (h : .csHist ∈ T) (s : Server) (t : Table (noKey (α := CSHist))) :
    Only T s (CSHistTbl.set s t) := by
  constructor <;> first | exact fun _ => rfl | exact fun hT => absurd h hT

theorem set_startTr (h : .startTr ∈ T) (s : Server) (t : Table (noKey (α := StartTr))) :
    Only T s (StartTrTbl.set s t) := by
  constructor <;> first | exact fun _ => rfl | exact fun hT => absurd h hT

theorem set_stopTr (h : .stopTr ∈ T) (s : Server) (t : Table (noKey (α := StopTr))) :
    Only T s (StopTrTbl.set s t) := by
  constructor <;> first | exact fun _ => rfl | exact fun hT => absurd h hT

theorem set_meterV (h : .meterV ∈ T) (s : Server) (t : Table (noKey (α := MeterV))) :
    Only T s (MeterVTbl.set s t) := by
  constructor <;> first | exact fun _ => rfl | exact fun hT => absurd h hT

theorem set_requestQueue (h : .requestQueue ∈ T) (s : Server) (q : List OcppRequest) :
    Only T s { s with requestQueue := q } := by
  constructor <;> first | exact fun _ => rfl | exact fun hT => absurd h hT

theorem set_connections (h : .connections ∈ T) (s : Server) (cs : List Connection) :
    Only T s { s with connections := cs } := by
  constructor <;> first | exact fun _ => rfl | exact fun hT => absurd h hT

theorem set_wire (h : .wire ∈ T) (s : Server) (w : List Delivery) :
    Only T s { s with wire := w } := by
  constructor <;> first | exact fun _ => rfl | exact fun hT => absurd h hT

end Only

/-- The action changes the parts of `T` at most. -/
def Writes (T : List Part) {α : Type} (act : Act α) : Prop :=
  ∀ s, Only T s.state (act s).2.state

namespace Writes

variable {T : List Part} {α β : Type}

theorem pure (a : α) : Writes T (Pure.pure a : Act α) := Action.Within.pure Only.frame a

theorem bind {x : Act α} {f : α → Act β} (hx : Writes T x) (hf : ∀ a, Writes T (f a)) :
    Writes T (x >>= f) :=
  Action.Within.bind Only.frame hx hf

theorem ite {p : Prop} [Decidable p] {x y : Act α} (hx : p → Writes T x)
    (hy : ¬p → Writes T y) : Writes T (if p then x else y) :=
  Action.Within.ite hx hy

theorem mono {T' : List Part} (hT : T ⊆ T') {x : Act α} (hx : Writes T x) : Writes T' x :=
  fun s => (hx s).mono hT

/-- What an action leaves that writes nothing. -/
theorem state_eq {x : Act α} (hx : Writes [] x) (s : Session Server) :
    (x s).2.state = s.state :=
  (hx s).eq

theorem bind_apply {x : Act α} (hx : Writes [] x) (f : α → Act β) (s : Session Server) :
    (x >>= f) s = f (x s).1 ⟨s.state, (x s).2.asked⟩ := by
  rw [Action.bind_apply, ← hx.state_eq s]

theorem look (f : Server → α) : Writes T (Action.look f) := Action.Within.look Only.frame f

theorem put {f : Server → Server} (hf : ∀ s, Only T s (f s)) : Writes T (Action.put f) :=
  Action.Within.put hf

theorem ask (answer : Nat → α) : Writes T (Action.ask answer : Act α) :=
  Action.Within.ask Only.frame answer

theorem clockNow (E : Env) : Writes T (clockNow E) := ask _

theorem createConnection (E : Env) : Writes T (createConnection E) :=
  connect_within Only.frame

theorem query {result : Server → Option (List β)} {raises : Nat → Option Nat} :
    Writes T (Sql.query raises result) :=
  query_within Only.frame

variable {E : Env} {st : Stmt}

theorem updateStations (h : .chStations ∈ T) {g : Row ChStation → Option ChStation} :
    Writes T (CH_STATIONS.update E st g) :=
  TableAt.update_within _ Only.frame fun s _ t _ _ _ => Only.set_chStations h s t

theorem updateProf (h : .csProf ∈ T) {g : Row CSProfile → Option CSProfile} :
    Writes T (CSProfTbl.update E st g) :=
  TableAt.update_within _ Only.frame fun s _ t _ _ _ => Only.set_csProf h s t

theorem insertProf (h : .csProf ∈ T)
    {ins : Table noKey → Option (Table noKey × Int)} :
    Writes T (CSProfTbl.insert E st ins) :=
  TableAt.insert_within _ Only.frame fun s t _ _ => Only.set_csProf h s t

theorem updateHist (h : .csHist ∈ T) {g : Row CSHist → Option CSHist} :
    Writes T (CSHistTbl.update E st g) :=
  TableAt.update_within _ Only.frame fun s _ t _ _ _ => Only.set_csHist h s t

theorem insertHist (h : .csHist ∈ T)
    {ins : Table noKey → Option (Table noKey × Int)} :
    Writes T (CSHistTbl.insert E st ins) :=
  TableAt.insert_within _ Only.frame fun s t _ _ => Only.set_csHist h s t

theorem insertStartTr (h : .startTr ∈ T)
    {ins : Table noKey → Option (Table noKey × Int)} :
    Writes T (StartTrTbl.insert E st ins) :=
  TableAt.insert_within _ Only.frame fun s t _ _ => Only.set_startTr h s t

theorem insertStopTr (h : .stopTr ∈ T)
    {ins : Table noKey → Option (Table noKey × Int)} :
    Writes T (StopTrTbl.insert E st ins) :=
  TableAt.insert_within _ Only.frame fun s t _ _ => Only.set_stopTr h s t

theorem insertMeterV (h : .meterV ∈ T)
    {ins : Table noKey → Option (Table noKey × Int)} :
    Writes T (MeterVTbl.insert E st ins) :=
  TableAt.insert_within _ Only.frame fun s t _ _ => Only.set_meterV h s t

theorem read {κ γ δ : Type} {key : γ → Option κ} {A : TableAt Server Env key}
    {rows : Table key → List δ} {decode : List Cell → δ} :
    Writes T (A.read E st rows decode) :=
  TableAt.read_within _ Only.frame

end Writes

section History

variable {T : List Part} {L : Lib} {E : Env} {req : OcppRequest} {rtt : RttOcpp}
  {sern : Text}

theorem insertOcppHistory2DB_writes (h : .csHist ∈ T) :
    Writes T (insertOcppHistory2DB E req rtt sern) :=
  .ite (fun _ => .pure _) fun _ => .bind (.insertHist h) fun _ => .pure _

theorem insertOcppHistory2DBConn_writes (h : .csHist ∈ T) :
    Writes T (insertOcppHistory2DBConn E req rtt sern) :=
  .bind (.createConnection E) fun _ =>
    .ite (fun _ => .bind (insertOcppHistory2DB_writes h) fun _ => .pure _)
      fun _ => .pure _

theorem updateHistOnStartTransaction_writes (h : .csHist ∈ T) {n : Int} :
    Writes T (updateHistOnStartTransaction E rtt n) :=
  .ite (fun _ => .pure _) fun _ => .updateHist h

theorem onStartTransaction_writes (h : .csHist ∈ T) (h' : .startTr ∈ T)
    {p : StartTransactionRequest} :
    Writes T (onStartTransactionRequestMessage2DB E req rtt p sern) := by
  refine .bind (.createConnection E) fun _ => .ite (fun _ => ?_) fun _ => .pure _
  refine .bind (insertOcppHistory2DB_writes h) fun hist => ?_
  cases hist with
  | none => exact .pure _
  | some found =>
    refine .ite (fun _ => ?_) fun _ => .pure _
    refine .bind (.bind (.insertStartTr h') fun _ => .pure _) fun id => ?_
    cases id with
    | none => exact .pure _
    | some n => exact .bind (updateHistOnStartTransaction_writes h) fun _ => .pure _

theorem onStopTransaction_writes (h : .csHist ∈ T) (h' : .stopTr ∈ T)
    {p : StopTransactionRequest} :
    Writes T (onStopTransactionRequestMessage2DB L E req rtt p sern) := by
  refine .bind (.createConnection E) fun _ => .ite (fun _ => ?_) fun _ => .pure _
  refine .bind (insertOcppHistory2DB_writes h) fun hist => ?_
  cases hist with
  | none => exact .pure _
  | some found =>
    refine .ite (fun _ => ?_) fun _ => .pure _
    exact .bind (.bind (.insertStopTr h') fun _ => .pure _) fun _ => .pure _

theorem insertMeterValues_writes (h : .meterV ∈ T) {n : Int} {p : MeterValuesRequest} :
    Writes T (insertMeterValuesReqMsg2DB L E n sern p) := by
  refine .ite (fun _ => .bind .read fun flags => ?_) fun _ => .pure _
  cases flags.all with
  | none => exact .pure _
  | some flags =>
    exact .ite (fun _ => .bind (.insertMeterV h) fun _ => .pure _) fun _ => .pure _

theorem onMeterValues_writes (h : .csHist ∈ T) (h' : .meterV ∈ T)
    {p : MeterValuesRequest} :
    Writes T (onMeterValuesRequestMessage2DB L E req rtt p sern) := by
  refine .bind (.createConnection E) fun _ => .ite (fun _ => ?_) fun _ => .pure _
  refine .bind (insertOcppHistory2DB_writes h) fun hist => ?_
  cases hist with
  | none => exact .pure _
  | some found =>
    exact .ite (fun _ => .bind (insertMeterValues_writes h') fun _ => .pure _)
      fun _ => .pure _

end History

section Central

variable {T : List Part} {L : Lib} {E : Env} {req : OcppRequest} {rtt : RttOcpp}
  {sern : Text}

theorem getSerNumberByIPAddr_writes : Writes T (getSerNumberByIPAddr E req) := by
  refine .ite (fun _ => .bind .read fun found => ?_) fun _ => .pure _
  split <;> exact .pure _

theorem preprocess_writes {requireIP : Bool} {stsType : StatusNotificationType}
    (h : requireIP = true ∨ stsType ≠ .none → .chStations ∈ T) :
    Writes T (preprocessOcppMessage2DB E req rtt requireIP stsType) := by
  refine .bind (.createConnection E) fun _ => .ite (fun _ => .ite (fun hip => ?_)
    fun _ => ?_) fun _ => .pure _
  · refine .bind (.updateStations (h (Or.inl hip))) fun rv => ?_
    cases rv with
    | none => exact .pure _
    | some n =>
      refine .bind getSerNumberByIPAddr_writes fun found => ?_
      split <;> exact .pure _
  · refine .bind getSerNumberByIPAddr_writes fun found => ?_
    split
    · exact .pure _
    · cases stsType with
      | none => exact .bind (.pure _) fun _ => .pure _
      | status =>
        exact .bind (.updateStations (h (Or.inr (by decide)))) fun _ => .pure _
      | firmware =>
        exact .bind (.updateStations (h (Or.inr (by decide)))) fun _ => .pure _

theorem insertOcppMessage2DB_writes {requireIP : Bool} {stsType : StatusNotificationType}
    (h : requireIP = true ∨ stsType ≠ .none → .chStations ∈ T) (h' : .csHist ∈ T) :
    Writes T (insertOcppMessage2DB E req rtt requireIP stsType) :=
  .bind (preprocess_writes h) fun _ =>
    .ite (fun _ => .pure _) fun _ => insertOcppHistory2DBConn_writes h'

theorem updateOcppHB_writes (h : .chStations ∈ T) :
    Writes T (updateOcppHBRequestMessage2DB E req rtt) := by
  refine .bind (.createConnection E) fun _ => .ite (fun _ => ?_) fun _ => .pure _
  refine .bind getSerNumberByIPAddr_writes fun found => .ite (fun _ => ?_) fun _ => .pure _
  exact .bind (.updateStations h) fun _ => .pure _

/-- Storing a request writes the history and the table of its kind. -/
theorem insertOcppRequestMessage2DB_writes {ptr : LoadedRequest} (h : .csHist ∈ T)
    (hstart : rtt.dbType = .startTransaction → .startTr ∈ T)
    (hstop : rtt.dbType = .stopTransaction → .stopTr ∈ T)
    (hmeter : rtt.dbType = .meterValues → .meterV ∈ T) :
    Writes T (insertOcppRequestMessage2DB L E req rtt ptr) := by
  have hpre : Writes T (preprocessOcppMessage2DB E req rtt false .none) :=
    preprocess_writes (by simp)
  unfold insertOcppRequestMessage2DB
  split
  · next p hdb =>
    exact .bind hpre fun _ => .ite (fun _ => .pure _) fun _ => onStartTransaction_writes h (hstart hdb)
  · next p hdb =>
    exact .bind hpre fun _ => .ite (fun _ => .pure _) fun _ => onStopTransaction_writes h (hstop hdb)
  · next p hdb =>
    exact .bind hpre fun _ => .ite (fun _ => .pure _) fun _ => onMeterValues_writes h (hmeter hdb)
  · exact .bind hpre fun _ =>
      .ite (fun _ => .pure _) fun _ => insertOcppHistory2DBConn_writes h
  · exact .pure _

theorem getIPAddrBySerNumber_writes {fw : Bool} (h : fw = true → .chStations ∈ T) :
    Writes T (getIPAddrBySerNumber E sern fw) := by
  refine .bind (.createConnection E) fun _ => .ite (fun _ => ?_) fun _ => .pure _
  refine .bind .read fun found => ?_
  split
  · exact .pure _
  · refine .ite (fun hfw => ?_) fun _ => .pure _
    exact .bind (.clockNow E) fun _ => .bind (.updateStations (h hfw.1)) fun _ => .pure _

theorem updateCSTimeZone_writes (h : .chStations ∈ T) {tz dls : Int} :
    Writes T (updateCSTimeZone E sern tz dls) :=
  .bind (.createConnection E) fun _ =>
    .ite (fun _ => .bind (.updateStations h) fun _ => .pure _) fun _ => .pure _

theorem removeChargingProfile_writes (h : .chStations ∈ T) :
    Writes T (removeChargingProfilefromCS E sern) :=
  .bind (.createConnection E) fun _ =>
    .ite (fun _ => .bind (.updateStations h) fun _ => .pure _) fun _ => .pure _

theorem updateCSStationsWithProfile_writes (h : .chStations ∈ T) {profileId cid : Int} :
    Writes T (updateCSStationsWithProfile E profileId cid sern) :=
  .ite (fun _ => .pure _) fun _ => .updateStations h

theorem insertOrUpdateCSProf2DB_writes (h : .chStations ∈ T) (h' : .csProf ∈ T)
    {cid profileId : Int} {profName json : Text} :
    Writes T (insertOrUpdateCSProf2DB E cid profileId profName sern json) := by
  refine .bind (.createConnection E) fun _ => .ite (fun _ => ?_) fun _ => .pure _
  refine .bind (.clockNow E) fun ts => .ite (fun _ => ?_) fun _ => ?_
  · refine .bind (.updateProf h') fun rv => ?_
    cases rv with
    | none => exact .pure _
    | some n =>
      exact .bind (updateCSStationsWithProfile_writes h) fun _ => .pure _
  · refine .bind (.bind .read fun _ => .pure _) fun last => ?_
    cases last with
    | none => exact .pure _
    | some last =>
      exact .ite (fun _ => .bind (.insertProf h') fun _ => .pure _) fun _ => .pure _

theorem getCSProfile_writes : Writes T (getCSProfile E sern) :=
  .ite (fun _ => .pure _) fun _ => .bind .query fun _ => .pure _

theorem getCSProfileFromDBByIp_writes : Writes T (getCSProfileFromDBByIp E req) := by
  refine .bind (.createConnection E) fun _ => .ite (fun _ => ?_) fun _ => .pure _
  refine .bind getSerNumberByIPAddr_writes fun found => ?_
  split
  · exact .pure _
  · refine .bind getCSProfile_writes fun profile => ?_
    split <;> exact .pure _

theorem getCSProfileFromDBByProfName_writes {profName : Text} :
    Writes T (getCSProfileFromDBByProfName E profName) :=
  .bind (.createConnection E) fun _ =>
    .ite (fun _ => .bind .read fun _ => .pure _) fun _ => .pure _

theorem updateChargeStationStatus_writes (h : .chStations ∈ T) {name value : Text}
    {field : ChStation → Text} {status : Int} :
    Writes T (updateChargeStationStatus E name field value status) :=
  .bind (.createConnection E) fun _ =>
    .ite (fun _ => .bind (.updateStations h) fun _ => .pure _) fun _ => .pure _

end Central

section Requests

variable {T : List Part} {L : Lib} {E : Env} {req : OcppRequest} {serN : Text}

theorem createCentralRequest_writes (h : .requestQueue ∈ T) {payload : Payload} :
    Writes T (createCentralRequest L E req payload) :=
  .bind (.bind (.ask _) fun _ => .bind (.clockNow E) fun _ => .pure _) fun _ =>
    .bind (.put fun s => Only.set_requestQueue h s _) fun _ => .pure _

theorem sendTo_writes (h : .wire ∈ T) {c : Connection} {frame : Frame} :
    Writes T (sendTo E c frame) :=
  .bind (.ask _) fun _ => .bind (.put fun s => Only.set_wire h s _) fun _ => .pure _

theorem sendResponse2Client_writes (h : .wire ∈ T) {ip : Text} {frame : Frame} :
    Writes T (sendResponse2Client E ip frame) := by
  refine .bind (.look _) fun con => ?_
  cases con with
  | none => exact .pure _
  | some c => exact sendTo_writes h

theorem createSetChargingProfileRequest_writes (req : OcppRequest)
    (h : .requestQueue ∈ T) :
    Writes T (createSetChargingProfileRequest L E req) :=
  .bind getCSProfileFromDBByIp_writes fun _ =>
    .ite (fun _ => createCentralRequest_writes h) fun _ =>
      .bind (.clockNow E) fun _ => createCentralRequest_writes h

theorem createAndSend_writes {create : Act (Option Created)} {fw : Bool}
    (hcreate : Writes T create) (hw : .wire ∈ T) (h : fw = true → .chStations ∈ T) :
    Writes T (createAndSend E create serN fw) := by
  refine .bind hcreate fun created => ?_
  cases created with
  | none => exact .pure _
  | some c =>
    exact .bind (getIPAddrBySerNumber_writes h) fun _ =>
      .bind (sendResponse2Client_writes hw) fun _ => .pure _

end Requests

section Incoming

variable {T : List Part} {L : Lib} {E : Env} {req : OcppRequest}

theorem insertOcppReqMsg2DB_writes {rtt : RttOcpp} {dbType : OcppDbType}
    {ptr : LoadedRequest} {hb : Bool} (hhb : hb = true → .chStations ∈ T)
    (h : hb = false → .csHist ∈ T)
    (hstart : dbType = .startTransaction → .startTr ∈ T)
    (hstop : dbType = .stopTransaction → .stopTr ∈ T)
    (hmeter : dbType = .meterValues → .meterV ∈ T) :
    Writes T (insertOcppReqMsg2DB L E req rtt dbType ptr hb) := by
  refine .bind (.clockNow E) fun _ => .ite (fun hb => ?_) fun hb => ?_
  · exact updateOcppHB_writes (hhb hb)
  · exact insertOcppRequestMessage2DB_writes (h (by simpa using hb)) hstart hstop hmeter

/-- A response only asks the clock. -/
theorem Writes.answered {x : Act Int} {f : Int → Act Payload} (hx : Writes T x)
    (hf : ∀ n, Writes T (f n)) :
    Writes T (do
      let n ← x
      let p ← f n
      Pure.pure (some p)) :=
  .bind hx fun n => .bind (hf n) fun _ => .pure _

theorem responses_write : (∀ sts, Writes T (createAuthorizeResponse E sts)) ∧
    (∀ sts, Writes T (createBootNotificationResponse E sts)) ∧
    (∀ id, Writes T (createStartTransactionResponse E id)) ∧
    Writes T (createStopTransactionResponse E) ∧ Writes T (createHeartbeatResponse E) :=
  ⟨fun _ => .bind (.clockNow E) fun _ => .pure _,
    fun _ => .bind (.clockNow E) fun _ => .pure _,
    fun _ => .bind (.clockNow E) fun _ => .pure _,
    .bind (.clockNow E) fun _ => .pure _, .bind (.clockNow E) fun _ => .pure _⟩

theorem processHeartbeat_writes (h : .chStations ∈ T) :
    Writes T (processHeartbeat L E req) :=
  .ite (fun _ => .answered (insertOcppReqMsg2DB_writes (fun _ => h) (by simp) (by simp)
    (by simp) (by simp)) fun _ => responses_write.2.2.2.2) fun _ => .pure _

theorem processBootNotification_writes (h : .chStations ∈ T) (h' : .csHist ∈ T) :
    Writes T (processBootNotification L E req) := by
  unfold processBootNotification
  split
  · exact .pure _
  · refine .bind (.clockNow E) fun _ => ?_
    split
    · exact .pure _
    · exact .answered (insertOcppMessage2DB_writes (fun _ => h) h') fun _ =>
        responses_write.2.1 _

theorem processAuthorize_writes (h : .csHist ∈ T) :
    Writes T (processAuthorize L E req) := by
  unfold processAuthorize
  split
  · exact .pure _
  · exact .bind (.clockNow E) fun _ =>
      .answered (insertOcppMessage2DB_writes (by simp) h) fun _ => responses_write.1 _

theorem processStartTransaction_writes (h : .csHist ∈ T) (h' : .startTr ∈ T) :
    Writes T (processStartTransaction L E req) := by
  unfold processStartTransaction
  split
  · exact .pure _
  · exact .answered (insertOcppReqMsg2DB_writes (by simp) (fun _ => h) (fun _ => h')
      (by simp) (by simp)) fun _ => responses_write.2.2.1 _

theorem processStopTransaction_writes (h : .csHist ∈ T) (h' : .stopTr ∈ T) :
    Writes T (processStopTransaction L E req) := by
  unfold processStopTransaction
  split
  · exact .pure _
  · exact .answered (insertOcppReqMsg2DB_writes (by simp) (fun _ => h) (by simp)
      (fun _ => h') (by simp)) fun _ => responses_write.2.2.2.1

theorem processStatusNotification_writes (h : .chStations ∈ T) (h' : .csHist ∈ T) :
    Writes T (processStatusNotification L E req) := by
  unfold processStatusNotification
  split
  · exact .pure _
  · exact .bind (.clockNow E) fun _ => .bind (.clockNow E) fun _ =>
      .answered (insertOcppMessage2DB_writes (fun _ => h) h') fun _ => .pure _

theorem processFirmwareStatusNotification_writes (h : .chStations ∈ T)
    (h' : .csHist ∈ T) : Writes T (processFirmwareStatusNotification L E req) := by
  unfold processFirmwareStatusNotification
  split
  · exact .pure _
  · exact .bind (.clockNow E) fun _ =>
      .answered (insertOcppMessage2DB_writes (fun _ => h) h') fun _ => .pure _

theorem processMeterValues_writes (h : .csHist ∈ T) (h' : .meterV ∈ T) :
    Writes T (processMeterValues L E req) := by
  unfold processMeterValues
  split
  · exact .pure _
  · exact .answered (insertOcppReqMsg2DB_writes (by simp) (fun _ => h) (by simp) (by simp)
      (fun _ => h')) fun _ => .pure _

theorem processDataTransfer_writes (h : .csHist ∈ T) :
    Writes T (processDataTransfer L E req) := by
  unfold processDataTransfer
  split
  · exact .pure _
  · exact .bind (.clockNow E) fun _ =>
      .answered (insertOcppReqMsg2DB_writes (by simp) (fun _ => h) (by simp) (by simp)
        (by simp)) fun _ => .pure _

/-- The tables an action can change. -/
def OcppAction.writes : OcppAction → List Part
  | .heartbeat => [.chStations]
  | .bootNotification => [.chStations, .csHist]
  | .authorize => [.csHist]
  | .startTransaction => [.csHist, .startTr]
  | .stopTransaction => [.csHist, .stopTr]
  | .statusNotification => [.chStations, .csHist]
  | .firmwareStatusNotification => [.chStations, .csHist]
  | .meterValues => [.csHist, .meterV]
  | .dataTransfer => [.csHist]

theorem OcppAction.process_writes (action : OcppAction) (h : action.writes ⊆ T) :
    Writes T (action.process L E req) := by
  cases action <;> simp only [OcppAction.writes, List.cons_subset, List.nil_subset] at h
  · exact processHeartbeat_writes h.1
  · exact processBootNotification_writes h.1 h.2.1
  · exact processAuthorize_writes h.1
  · exact processStartTransaction_writes h.1 h.2.1
  · exact processStopTransaction_writes h.1 h.2.1
  · exact processStatusNotification_writes h.1 h.2.1
  · exact processFirmwareStatusNotification_writes h.1 h.2.1
  · exact processMeterValues_writes h.1 h.2.1
  · exact processDataTransfer_writes h.1

theorem confirm_writes {action : Text} (h : .chStations ∈ T) :
    Writes T (confirm L E req action) := by
  unfold confirm
  split
  · exact .pure _
  · refine .ite (fun _ => ?_) fun _ => .pure _
    split
    · exact .pure _
    · refine .bind (.ite (fun _ => ?_) fun _ => .pure _) fun _ => .pure _
      split
      · exact .ite (fun _ => .bind (updateCSTimeZone_writes h) fun _ => .pure _)
          fun _ => .pure _
      · exact .pure _

theorem getActionByUID_writes {uid : Text} (h : .requestQueue ∈ T) :
    Writes T (getActionByUID uid) :=
  fun s => Only.set_requestQueue h s.state _

theorem processIncomingCPResponseMessage_writes (h : .requestQueue ∈ T)
    (h' : .chStations ∈ T) : Writes T (processIncomingCPResponseMessage L E req) :=
  .bind (getActionByUID_writes h) fun _ =>
    .ite (fun _ => .pure _) fun _ => confirm_writes h'

end Incoming

end UCLinux.Ocpp
