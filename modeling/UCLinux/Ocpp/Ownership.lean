import UCLinux.Ocpp.Routing

/-!
What a client of the mobile interface can reach. A command comes with the id
of the client that gave it, and only the statement that assigns a profile
compares that id with the owner of a row. For every command this is the exact
condition on the tables and the open connections under which it sends to
stations of its client and changes rows of its client only, whatever the
environment does.
-/

namespace UCLinux.Ocpp

open Sql Machine Server CentralOcppDB

/-- The connection has the endpoint of the station of the serial number, and
the client owns that station. -/
def OwnedRoute (s : Server) (cid : Int) (N : Text) (con : Connection) : Prop :=
  ∃ r ∈ s.chStations.rows, r.cols.csSerN = cstr N ∧
    cstr r.cols.ipAddr = con.endpoint.text ∧ r.cols.clientID = cid

/-- A command addressed to `N` that found `s` was defined, sent frames on
routes of the client only, and changed stations and profiles of the client
only. -/
structure OwnerOnly (s : Server) (cid : Int) (N : Text)
    (done : Outcome × Session Server) : Prop where
  defined : done.1 ≠ .undefined
  frames : ∀ d ∈ done.2.state.wire, OwnedRoute s cid N d.receiver
  stations : s.chStations.ChangesOnly (·.cols.clientID = cid) done.2.state.chStations
  profiles : s.csProf.ChangesOnly (·.cols.clientID = cid) done.2.state.csProf

/-- Every open connection that the serial number can lead to is a route of the
client. -/
def SendsOwned (s : Server) (cid : Int) (N : Text) : Prop :=
  ∀ con, Routed s N con → OwnedRoute s cid N con

/-- The largest profile ID as it is read, 0 in an empty table. -/
def Server.lastProfile (s : Server) : Int :=
  (s.csProf.rows.getLast?.map fun r => wrap32 r.rowid).getD 0

/-- A new profile gets the ID after this one, if it is positive. -/
def Server.profileBase (s : Server) (profileId : Int) : Int :=
  if s.lastProfile = 0 ∧ profileId = -1 then 1 else s.lastProfile

/-- What saving a profile changes belongs to the client: the profile of the
ID, every profile when the name or the data ends its literal early, every
station when the serial number does. -/
structure SavesOwned (s : Server) (cid profileId : Int) (profName sern json : Text) :
    Prop where
  profile : 0 < profileId → ∀ r ∈ s.csProf.rows, r.rowid = profileId →
    r.cols.clientID = cid
  altered : '\'' ∈ cstr profName ∨ '\'' ∈ cstr json →
    0 < profileId ∨ 0 < s.profileBase profileId →
    ∀ r ∈ s.csProf.rows, r.cols.clientID = cid
  station : 0 < profileId → '\'' ∈ cstr sern →
    ∀ r ∈ s.chStations.rows, r.cols.clientID = cid

/-- What removing the profile of a station changes belongs to the client. -/
structure ClearsOwned (s : Server) (cid : Int) (sern : Text) : Prop where
  station : ∀ r ∈ s.chStations.rows, r.cols.csSerN = cstr sern →
    r.cols.clientID = cid ∨ r.cols.profID = 0 ∧ r.cols.updMob = some 1
  altered : '\'' ∈ cstr sern → ∀ r ∈ s.chStations.rows, r.cols.clientID = cid

/-- A start without a tag comes to its request when `prcd` returns. -/
def RemoteOwned (L : Lib) (s : Server) (serN : Text) (cid par1 : Int) (par2 : Text) : Prop :=
  if par1 = 0 then SendsOwned s cid serN
  else if par1 = 1 then
    match split serN '*' with
    | sern :: idTag :: _ => schemaStringAccepts 20 idTag → SendsOwned s cid sern
    | _ => L.prcd par2 → SendsOwned s cid serN
  else True

def SavedOwned (s : Server) (serN : Text) (cid : Int) (par2 : Text) : Prop :=
  match split serN ',' with
  | sern :: id :: profName :: _ =>
    ∀ profileId, stoi id = some profileId →
      SavesOwned s cid profileId profName sern (decodeUrl par2)
  | _ => True

def ClearedOwned (s : Server) (serN : Text) (cid : Int) : Prop :=
  match split serN ',' with
  | sern :: id :: _ :: _ => (stoi id).isSome → ClearsOwned s cid sern
  | _ => False

/-- The condition of a mobile command, branch by branch. -/
def MobileOwned (L : Lib) (s : Server) (serN : Text) (cid cmd par1 : Int) (par2 : Text) : Prop :=
  match OcppCommand.ofInt cmd with
  | some .setChargeLimit => SendsOwned s cid serN
  | some .setSampleInterval =>
    schemaStringAccepts 500 (cstr (decimal par1)) → SendsOwned s cid serN
  | some .sendRemoteTransaction => RemoteOwned L s serN cid par1 par2
  | some .simpleCommand =>
    if par1 = 200 then SavedOwned s serN cid par2
    else if par1 = 201 then ClearedOwned s serN cid
    else True
  | none => True

section Sending

variable {s : Server} {cid : Int} {N ip : Text} {L : Lib}

/-- An engine that answers every altered query with one text. -/
def Env.answering (ip : Text) : Env :=
  { Env.calm with
    chStations := { Altered.refused _ with select := fun _ _ => some [[.text ip]] } }

/-- The lookup can be led to any text it can lead to. -/
theorem getIPAddrBySerNumber_answering (k : Session Server) (hnul : '\x00' ∉ ip)
    (h : '\'' ∈ cstr N ∨
      ∃ r ∈ k.state.chStations.rows, r.cols.csSerN = cstr N ∧ cstr r.cols.ipAddr = ip) :
    (getIPAddrBySerNumber (.answering ip) N false k).1 = ip := by
  have hfirst : ((CH_STATIONS.read (.answering ip) (getIPAddrSql N)
      (fun t => (t.select (·.cols.csSerN = cstr N)).map fun r => cstr r.cols.ipAddr)
      (HistoryDB.cellText · 0)) k.tick).1.first = some (some ip) := by
    by_cases hquote : '\'' ∈ cstr N
    · have haltered : ¬ (getIPAddrSql N).QuoteFree := by
        rw [getIPAddrSql_quoteFree]
        exact not_not_intro hquote
      rw [TableAt.read_altered _ _ haltered rfl rfl]
      exact congrArg (some ∘ some) (cstr_of_no_nul hnul)
    · obtain ⟨r, hr, hser, hip⟩ := h.resolve_left hquote
      rw [TableAt.read_literal _ _ (getIPAddrSql_quoteFree.mpr hquote) rfl]
      show (Fetched.mk ((k.state.chStations.select (·.cols.csSerN = cstr N)).map
        fun r => cstr r.cols.ipAddr) false).first = _
      rw [ChStation.select_serial hr hser, List.map_cons, hip]
      rfl
  unfold getIPAddrBySerNumber
  rw [createConnection_bind, if_pos (show (Env.answering ip).raises k.asked = none from rfl),
    Action.bind_apply, hfirst]
  rfl

/-- With a connection at the endpoint, the action sends a frame there. -/
def Reaches (s : Server) (ip : Text) {α : Type} (act : Act α) : Prop :=
  ∀ k : Session Server, k.state.chStations = s.chStations →
    k.state.connections = s.connections →
    (∃ con ∈ s.connections, con.endpoint.text = ip) →
    ∃ d ∈ (act k).2.state.wire, d.receiver.endpoint.text = ip

namespace Reaches

variable {α β : Type}

theorem after {x : Act α} {f : α → Act β} (hx : Writes [.requestQueue] x)
    (hf : ∀ k, Reaches s ip (f (x k).1)) : Reaches s ip (x >>= f) := by
  intro k hstations hconnections hopen
  apply hf k _ _ _ hopen
  · rw [(hx k).chStations (by simp), hstations]
  · rw [(hx k).connections (by simp), hconnections]

theorem lookup (hip : LeadsTo s N ip) {f : Text → Act α} (hf : Reaches s ip (f ip)) :
    Reaches s ip (getIPAddrBySerNumber (.answering ip) N false >>= f) := by
  intro k hstations hconnections hopen
  have hx : Writes [] (getIPAddrBySerNumber (.answering ip) N false) :=
    getIPAddrBySerNumber_writes (by simp)
  have hfound : (getIPAddrBySerNumber (.answering ip) N false k).1 = ip := by
    obtain ⟨con, _, hend⟩ := hopen
    apply getIPAddrBySerNumber_answering k (hend ▸ con.endpoint.noNul)
    rw [hstations]
    exact hip.resolve_left (hend ▸ con.endpoint.nonempty)
  rw [Action.bind_apply, hfound]
  apply hf _ _ _ hopen
  · rw [(hx k).chStations (by simp), hstations]
  · rw [(hx k).connections (by simp), hconnections]

theorem send (E : Env) (frame : Frame) : Reaches s ip (sendResponse2Client E ip frame) := by
  intro k _ hconnections hopen
  rw [← hconnections] at hopen
  obtain ⟨con, _, hend, hsent⟩ := sendResponse2Client_found (E := E) _ frame k hopen
  rw [hsent]
  exact ⟨_, List.mem_append_right _ (List.mem_singleton_self _), hend⟩

theorem map {x : Act α} (hx : Reaches s ip x) (g : α → β) :
    Reaches s ip (do
      let a ← x
      pure (g a)) :=
  hx

end Reaches

/-- In every environment the action sends on routes of `N` only and writes no
table, and in some it sends on any of them. -/
structure Sends (s : Server) (N : Text) (act : Env → Act Outcome) : Prop where
  addressed : ∀ E, KeepsAddressed s N (fun _ => True) (act E)
  writes : ∀ E, Writes [.requestQueue, .wire] (act E)
  defined : ∀ E, Action.Returns (· ≠ .undefined) (act E)
  reaches : ∀ ip, LeadsTo s N ip → Reaches s ip (act (.answering ip))

namespace Sends

/-- A request that is built whatever the state is sent. -/
theorem created {create : Env → Act (Option Created)} (h : ∀ E, Builds E (create E))
    (hsome : ∀ E k, (create E k).1 ≠ none) :
    Sends s N fun E => createAndSend E (create E) N false where
  addressed E := createAndSend_addressed (h E) false (by simp)
  writes E := createAndSend_writes ((h E).writes.mono (by simp)) (by simp) (by simp)
  defined E := by
    apply Action.Returns.bind
    intro c
    cases c with
    | none => exact .pure (by simp)
    | some c => exact .bind fun _ => .bind fun _ => .pure (by simp)
  reaches ip hip := by
    apply Reaches.after (h _).writes
    intro k
    cases hc : (create (.answering ip) k).1 with
    | none => exact absurd hc (hsome _ k)
    | some c => exact .lookup hip (.map (.send _ _) _)

theorem setChargeLimit (limit : Int) : Sends s N fun E => do
    let ip ← getIPAddrBySerNumber E N false
    let uid ← globalGenerateTextUID E
    sendSetChargeLimit E ip uid limit where
  addressed E := by
    apply Action.Keeps.bind (getIPAddrBySerNumber_leads false (by simp))
    intro ip hip
    apply Action.Keeps.bind (keepsAddressed_of_writes globalGenerateTextUID_writes
      (T := []) (by simp))
    intro uid _
    apply Action.Keeps.bind (sendResponse2Client_addressed hip _)
    exact fun _ _ => .pure trivial
  writes E := .bind (getIPAddrBySerNumber_writes (by simp)) fun _ =>
    .bind globalGenerateTextUID_writes fun _ =>
      .bind (sendResponse2Client_writes (by simp)) fun _ => .pure _
  defined E := .bind fun _ => .bind fun _ => .bind fun _ => .pure (by simp)
  reaches ip hip := by
    apply Reaches.lookup hip
    apply Reaches.after globalGenerateTextUID_writes
    exact fun _ => .map (.send _ _) _

theorem result {act : Env → Act Outcome} (h : Sends s N act) (g : Outcome → Outcome)
    (hg : ∀ o, o ≠ .undefined → g o ≠ .undefined) : Sends s N fun E => do
    let o ← act E
    pure (g o) where
  addressed E := .bind (h.addressed E) fun _ _ => .pure trivial
  writes E := .bind (h.writes E) fun _ => .pure _
  defined E k := hg _ (h.defined E k)
  reaches ip hip := .map (h.reaches ip hip) g

end Sends

/-- Started after any number of questions, the branch keeps to what is the
client's in every environment exactly under the condition. -/
def OwnedWhen (s : Server) (cid : Int) (N : Text) (act : Env → Act Outcome) (cond : Prop) :
    Prop :=
  ∀ asked : Env → Nat,
    (∀ E, OwnerOnly s cid N (act E ⟨s.start.state, asked E⟩)) ↔ cond

namespace OwnedWhen

variable {act : Env → Act Outcome} {cond : Prop}

theorem congr {cond' : Prop} (h : OwnedWhen s cid N act cond) (hc : cond ↔ cond') :
    OwnedWhen s cid N act cond' :=
  fun asked => (h asked).trans hc

theorem sends (h : Sends s N act) : OwnedWhen s cid N act (SendsOwned s cid N) := by
  intro asked
  constructor
  · intro hown con ⟨hopen, hleads⟩
    obtain ⟨d, hd, hend⟩ := h.reaches _ hleads ⟨s.start.state, asked _⟩ rfl rfl
      ⟨con, hopen, rfl⟩
    obtain ⟨r, hr, hser, hip, hcid⟩ := (hown (.answering con.endpoint.text)).frames d hd
    exact ⟨r, hr, hser, hip.trans hend, hcid⟩
  · intro hsends E
    have honly := h.writes E ⟨s.start.state, asked E⟩
    have haddressed := (h.addressed E ⟨s.start.state, asked E⟩ (.start s N)).2
    refine ⟨h.defined E _, fun d hd => hsends _ (haddressed.wire d hd), ?_, ?_⟩
    · rw [honly.chStations (by simp)]
      exact .refl _
    · rw [honly.csProf (by simp)]
      exact .refl _

theorem silent (hw : ∀ E, Writes [.requestQueue] (act E))
    (hdefined : ∀ E, Action.Returns (· ≠ .undefined) (act E)) :
    OwnedWhen s cid N act True := by
  intro asked
  refine ⟨fun _ => trivial, fun _ E => ?_⟩
  have honly := hw E ⟨s.start.state, asked E⟩
  refine ⟨hdefined E _, ?_, ?_, ?_⟩
  · rw [honly.wire (by simp)]
    simp
  · rw [honly.chStations (by simp)]
    exact .refl _
  · rw [honly.csProf (by simp)]
    exact .refl _

theorem pure {o : Outcome} (ho : o ≠ .undefined) :
    OwnedWhen s cid N (fun _ => Pure.pure o) True :=
  silent (fun _ => .pure _) fun _ => .pure ho

theorem undefined : OwnedWhen s cid N (fun _ => Pure.pure .undefined) False := by
  intro asked
  exact ⟨fun hown => (hown .calm).defined rfl, False.elim⟩

theorem guarded {p : Prop} (h : p → OwnedWhen s cid N act cond)
    (h' : ¬p → OwnedWhen s cid N act True) : OwnedWhen s cid N act (p → cond) := by
  intro asked
  by_cases hp : p
  · rw [h hp asked]
    exact ⟨fun hc _ => hc, fun hc => hc hp⟩
  · rw [h' hp asked]
    exact ⟨fun _ hp' => absurd hp' hp, fun _ => trivial⟩

theorem ite {p : Prop} [Decidable p] {act' : Env → Act Outcome} {cond' : Prop}
    (h : p → OwnedWhen s cid N act cond) (h' : ¬p → OwnedWhen s cid N act' cond') :
    OwnedWhen s cid N (fun E => if p then act E else act' E)
      (if p then cond else cond') := by
  by_cases hp : p
  · simp only [if_pos hp]
    exact h hp
  · simp only [if_neg hp]
    exact h' hp

/-- A request that is refused before anything is queued sends nothing. -/
theorem refused {create : Env → Act (Option Created)}
    (h : ∀ E, create E = Pure.pure none) :
    OwnedWhen s cid N (fun E => createAndSend E (create E) N false) True := by
  have hthrows : ∀ E, createAndSend E (create E) N false = Pure.pure .throws := by
    intro E
    rw [h E]
    rfl
  simp only [hthrows]
  exact pure (by simp)

end OwnedWhen

end Sending

section Profiles

variable {s : Server} {cid profileId : Int} {N profName sern json : Text} {E : Env}

/-- A clock that stands still, and an engine that makes an altered UPDATE
rewrite every row and an altered INSERT drop the table. -/
def Env.meddling (ts : Int) : Env :=
  { Env.calm with
    clock := fun _ => ts
    chStations := { Altered.refused _ with
      update := fun _ => some fun r => some { r.cols with profID := r.cols.profID + 1 } }
    csProf := { Altered.refused _ with
      update := fun _ => some fun r => some { r.cols with ts := r.cols.ts + 1 }
      insert := fun _ _ => some (Table.empty, 0) } }

/-- Assigning a profile changes stations of the client. -/
theorem updateCSStationsWithProfile_owned (E : Env) (profileId cid : Int) (sern : Text)
    (k : Session Server)
    (h : '\'' ∈ cstr sern → ∀ r ∈ k.state.chStations.rows, r.cols.clientID = cid) :
    k.state.chStations.ChangesOnly (·.cols.clientID = cid)
      (updateCSStationsWithProfile E profileId cid sern k).2.state.chStations := by
  unfold updateCSStationsWithProfile
  by_cases hempty : sern = []
  · rw [if_pos hempty]
    exact .refl _
  · rw [if_neg hempty]
    rcases CH_STATIONS.update_cases E _ _ k with hx | ⟨g, t, n, hg, hrw, _, hx⟩
    · rw [hx]
      exact .refl _
    · rw [hx]
      by_cases hquote : '\'' ∈ cstr sern
      · exact .of_all (h hquote)
      · rw [TableAt.rewriting_quoteFree _
          (updateCSStationsWithProfileSql_quoteFree.mpr hquote)] at hg
        cases hg
        refine Table.changesOnly_rewrite hrw fun r _ a ha _ => ?_
        split at ha
        · next hrow => exact hrow.2
        · cases ha

theorem getCSProfileID_apply (k : Session Server) :
    getCSProfileID E k =
      ((CSProfTbl.read E getCSProfileIDSql
        (fun t => (t.rows.getLast?.map fun r => wrap32 r.rowid).toList)
        (HistoryDB.cellInt · 0) k).1.first.map fun id => id.getD 0, k.tick) := by
  unfold getCSProfileID
  rw [Action.bind_apply, Action.pure_apply, TableAt.read_snd]

/-- Reading the largest ID raises, or yields it. -/
theorem getCSProfileID_cases (k : Session Server) :
    getCSProfileID E k = (none, k.tick) ∨
      getCSProfileID E k = (some k.state.lastProfile, k.tick) := by
  rw [getCSProfileID_apply]
  rcases CSProfTbl.read_first_cases (E := E)
    (fun t => (t.rows.getLast?.map fun r => wrap32 r.rowid).toList)
    (HistoryDB.cellInt · 0) k getCSProfileIDSql_quoteFree with hfirst | hfirst
  · rw [hfirst]
    exact Or.inl rfl
  · rw [hfirst, Option.head?_toList]
    exact Or.inr rfl

theorem getCSProfileID_of_calm (k : Session Server) (hr : E.raises k.asked = none) :
    getCSProfileID E k = (some k.state.lastProfile, k.tick) := by
  rw [getCSProfileID_apply, TableAt.read_literal _ k getCSProfileIDSql_quoteFree hr]
  show (Option.map _ (Fetched.first ⟨(k.state.csProf.rows.getLast?.map
    fun r => wrap32 r.rowid).toList, false⟩), k.tick) = _
  unfold Server.lastProfile
  cases k.state.csProf.rows.getLast? with
  | none => rfl
  | some r => rfl

/-- Everything saving a profile can do: nothing, the UPDATE of the profile and
then that of the stations, or for a new profile its ID and, if there is one
before it, an INSERT. -/
inductive SaveRun (E : Env) (cid profileId : Int) (profName sern json : Text)
    (k : Session Server) (done : Int × Session Server) : Prop where
  | failed (hrv : done.1 = 0) (hstate : done.2.state = k.state)
  | updated (ts : Int) (g : Row CSProfile → Option CSProfile) (t : Table noKey)
      (hpos : 0 < profileId)
      (hg : CSProfTbl.rewriting E (updateCSProfSql cid profileId profName json ts)
        (fun r => if r.rowid = profileId then some (csProfRow cid profName json ts) else none) =
          some g)
      (hrw : k.state.csProf.rewrite g = some (t, done.1))
      (hstate : done.2 = (updateCSStationsWithProfile E profileId cid sern
        ⟨CSProfTbl.set k.state t, k.asked + 3⟩).2)
  | unplaced (hpos : ¬0 < profileId) (hbase : ¬0 < k.state.profileBase profileId)
      (hrv : done.1 = k.state.profileBase profileId) (hstate : done.2.state = k.state)
  | inserted (ts : Int) (hpos : ¬0 < profileId) (hbase : 0 < k.state.profileBase profileId)
      (hrv : done.1 = wrap32 (k.state.profileBase profileId + 1))
      (hstate : done.2 = (CSProfTbl.insert E (insertCSProfSql done.1 cid profName json ts)
        (·.insertAt done.1 (csProfRow cid profName json ts)) ⟨k.state, k.asked + 3⟩).2)

/-- The UPDATE of an existing profile, that of its stations after it. -/
theorem saving_updates (sern : Text) (cid : Int) {k : Session Server} (hpos : 0 < profileId)
    (hopen : E.raises k.asked = none) (hr : E.raises (k.asked + 2) = none)
    {g : Row CSProfile → Option CSProfile} {t : Table noKey} {n : Int}
    (hg : CSProfTbl.rewriting E
      (updateCSProfSql cid profileId profName json (E.clock (k.asked + 1)))
      (fun r => if r.rowid = profileId then
        some (csProfRow cid profName json (E.clock (k.asked + 1))) else none) = some g)
    (hrw : k.state.csProf.rewrite g = some (t, n)) :
    insertOrUpdateCSProf2DB E cid profileId profName sern json k =
      (n, (updateCSStationsWithProfile E profileId cid sern
        ⟨CSProfTbl.set k.state t, k.asked + 3⟩).2) := by
  unfold insertOrUpdateCSProf2DB
  rw [createConnection_bind, if_pos hopen, clockNow_bind, if_pos hpos, Action.bind_apply,
    show E.clock k.tick.asked = E.clock (k.asked + 1) from rfl,
    CSProfTbl.update_some _ k.tick.tick hg hr hrw]
  rfl

/-- A new profile: its ID, and its INSERT. -/
theorem saving_inserts (profName sern json : Text) (cid : Int) {k : Session Server}
    (hpos : ¬0 < profileId) (hopen : E.raises k.asked = none)
    (hlast : getCSProfileID E k.tick.tick = (some k.state.lastProfile, k.tick.tick.tick))
    (hbase : 0 < k.state.profileBase profileId) :
    insertOrUpdateCSProf2DB E cid profileId profName sern json k =
      (wrap32 (k.state.profileBase profileId + 1),
        (CSProfTbl.insert E (insertCSProfSql (wrap32 (k.state.profileBase profileId + 1)) cid
            profName json (E.clock (k.asked + 1)))
          (·.insertAt (wrap32 (k.state.profileBase profileId + 1))
            (csProfRow cid profName json (E.clock (k.asked + 1))))
          ⟨k.state, k.asked + 3⟩).2) := by
  unfold insertOrUpdateCSProf2DB
  rw [createConnection_bind, if_pos hopen, clockNow_bind, if_neg hpos, Action.bind_apply,
    hlast]
  dsimp only
  rw [← Server.profileBase, if_pos hbase]
  rfl

/-- Without a positive ID before it a new profile is not inserted. -/
theorem saving_unplaced (profName sern json : Text) (cid : Int) {k : Session Server}
    (hpos : ¬0 < profileId) (hopen : E.raises k.asked = none)
    (hlast : getCSProfileID E k.tick.tick = (some k.state.lastProfile, k.tick.tick.tick))
    (hbase : ¬0 < k.state.profileBase profileId) :
    insertOrUpdateCSProf2DB E cid profileId profName sern json k =
      (k.state.profileBase profileId, ⟨k.state, k.asked + 3⟩) := by
  unfold insertOrUpdateCSProf2DB
  rw [createConnection_bind, if_pos hopen, clockNow_bind, if_neg hpos, Action.bind_apply,
    hlast]
  dsimp only
  rw [← Server.profileBase, if_neg hbase]
  rfl

theorem insertOrUpdateCSProf2DB_run (E : Env) (cid profileId : Int) (profName sern json : Text)
    (k : Session Server) :
    SaveRun E cid profileId profName sern json k
      (insertOrUpdateCSProf2DB E cid profileId profName sern json k) := by
  by_cases hopen : E.raises k.asked = none
  · by_cases hpos : 0 < profileId
    · rcases CSProfTbl.update_cases E
        (updateCSProfSql cid profileId profName json (E.clock (k.asked + 1)))
        (fun r => if r.rowid = profileId then
          some (csProfRow cid profName json (E.clock (k.asked + 1))) else none)
        k.tick.tick with hx | ⟨g, t, n, hg, hrw, hr, -⟩
      · have hrun : insertOrUpdateCSProf2DB E cid profileId profName sern json k =
            (0, k.tick.tick.tick) := by
          unfold insertOrUpdateCSProf2DB
          rw [createConnection_bind, if_pos hopen, clockNow_bind, if_pos hpos,
            Action.bind_apply, show E.clock k.tick.asked = E.clock (k.asked + 1) from rfl, hx]
          rfl
        rw [hrun]
        exact .failed rfl rfl
      · rw [saving_updates sern cid hpos hopen hr hg hrw]
        exact .updated _ g t hpos hg hrw rfl
    · rcases getCSProfileID_cases (E := E) k.tick.tick with hlast | hlast
      · have hrun : insertOrUpdateCSProf2DB E cid profileId profName sern json k =
            (0, k.tick.tick.tick) := by
          unfold insertOrUpdateCSProf2DB
          rw [createConnection_bind, if_pos hopen, clockNow_bind, if_neg hpos,
            Action.bind_apply, hlast]
          rfl
        rw [hrun]
        exact .failed rfl rfl
      · by_cases hbase : 0 < k.state.profileBase profileId
        · rw [saving_inserts profName sern json cid hpos hopen hlast hbase]
          exact .inserted _ hpos hbase rfl rfl
        · rw [saving_unplaced profName sern json cid hpos hopen hlast hbase]
          exact .unplaced hpos hbase rfl rfl
  · have hrun : insertOrUpdateCSProf2DB E cid profileId profName sern json k = (0, k.tick) := by
      unfold insertOrUpdateCSProf2DB
      rw [createConnection_bind, if_neg hopen]
      rfl
    rw [hrun]
    exact .failed rfl rfl

theorem updateCSProf_owned (h : SavesOwned s cid profileId profName sern json)
    (hpos : 0 < profileId) {ts n : Int} {t : Table noKey}
    {g : Row CSProfile → Option CSProfile}
    (hg : CSProfTbl.rewriting E (updateCSProfSql cid profileId profName json ts)
      (fun r => if r.rowid = profileId then some (csProfRow cid profName json ts) else none) =
        some g)
    (hrw : s.csProf.rewrite g = some (t, n)) :
    s.csProf.ChangesOnly (·.cols.clientID = cid) t := by
  by_cases hquote : '\'' ∉ cstr profName ∧ '\'' ∉ cstr json
  · rw [TableAt.rewriting_quoteFree _ (updateCSProfSql_quoteFree.mpr hquote)] at hg
    cases hg
    refine Table.changesOnly_rewrite hrw fun r hr a ha _ => ?_
    split at ha
    · next hid => exact h.profile hpos r hr hid
    · cases ha
  · rw [← not_or, not_not] at hquote
    exact .of_all (h.altered hquote (Or.inl hpos))

theorem insertCSProf_owned (h : SavesOwned s cid profileId profName sern json)
    (hbase : 0 < s.profileBase profileId) {id ts n : Int}
    {t : Table noKey}
    (hins : (if (insertCSProfSql id cid profName json ts).QuoteFree then
        fun t => t.insertAt id (csProfRow cid profName json ts)
      else E.csProf.insert (insertCSProfSql id cid profName json ts).text) s.csProf =
        some (t, n)) :
    s.csProf.ChangesOnly (·.cols.clientID = cid) t := by
  by_cases hquote : '\'' ∉ cstr profName ∧ '\'' ∉ cstr json
  · rw [if_pos (insertCSProfSql_quoteFree.mpr hquote)] at hins
    exact fun r hr hgone => absurd (Table.insertAt_mem hins hr) hgone
  · rw [← not_or, not_not] at hquote
    exact .of_all (h.altered hquote (Or.inr hbase))

/-- Saving a profile under its condition changes what is the client's. -/
theorem insertOrUpdateCSProf2DB_owned (h : SavesOwned s cid profileId profName sern json)
    (k : Session Server) (hstations : k.state.chStations = s.chStations)
    (hprof : k.state.csProf = s.csProf) :
    s.chStations.ChangesOnly (·.cols.clientID = cid)
        (insertOrUpdateCSProf2DB E cid profileId profName sern json k).2.state.chStations ∧
      s.csProf.ChangesOnly (·.cols.clientID = cid)
        (insertOrUpdateCSProf2DB E cid profileId profName sern json k).2.state.csProf := by
  have hsame : s.chStations.ChangesOnly (·.cols.clientID = cid) k.state.chStations ∧
      s.csProf.ChangesOnly (·.cols.clientID = cid) k.state.csProf := by
    rw [hstations, hprof]
    exact ⟨.refl _, .refl _⟩
  have hbaseEq : k.state.profileBase profileId = s.profileBase profileId := by
    unfold Server.profileBase Server.lastProfile
    rw [hprof]
  cases insertOrUpdateCSProf2DB_run E cid profileId profName sern json k with
  | failed hrv hstate =>
    rw [hstate]
    exact hsame
  | updated ts g t hpos hg hrw hstate =>
    rw [hstate]
    have hassigned := updateCSStationsWithProfile_owned E profileId cid sern
      ⟨CSProfTbl.set k.state t, k.asked + 3⟩ fun hquote => hstations ▸ h.station hpos hquote
    have hkept : Writes [.chStations] (updateCSStationsWithProfile E profileId cid sern) :=
      updateCSStationsWithProfile_writes (by simp)
    have hsaved := (hkept ⟨CSProfTbl.set k.state t, k.asked + 3⟩).csProf (by simp)
    rw [hprof] at hrw
    exact ⟨hstations ▸ hassigned, hsaved ▸ updateCSProf_owned h hpos hg hrw⟩
  | unplaced hpos hbase hrv hstate =>
    rw [hstate]
    exact hsame
  | inserted ts hpos hbase hrv hstate =>
    rw [hstate]
    rcases CSProfTbl.insert_cases E (insertCSProfSql _ cid profName json ts) _
      ⟨k.state, k.asked + 3⟩ with hx | ⟨t, n, hins, _, hx⟩
    · rw [hx]
      exact hsame
    · rw [hx]
      refine ⟨hsame.1, ?_⟩
      rw [show CSProfTbl.get k.state = s.csProf from hprof] at hins
      exact insertCSProf_owned h (hbaseEq ▸ hbase) hins

theorem removeChargingProfilefromCS_owned (h : ClearsOwned s cid sern) (k : Session Server)
    (hstations : k.state.chStations = s.chStations) :
    s.chStations.ChangesOnly (·.cols.clientID = cid)
      (removeChargingProfilefromCS E sern k).2.state.chStations := by
  have hsame : s.chStations.ChangesOnly (·.cols.clientID = cid) k.state.chStations := by
    rw [hstations]
    exact .refl _
  unfold removeChargingProfilefromCS
  rw [createConnection_bind]
  by_cases hopened : E.raises k.asked = none
  · rw [if_pos hopened, Action.bind_apply]
    rcases CH_STATIONS.update_cases E (removeChargingProfileSql sern) _ k.tick with
      hx | ⟨g, t, n, hg, hrw, _, hx⟩
    · rw [hx]
      exact hsame
    · rw [hx]
      rw [show CH_STATIONS.get k.tick.state = s.chStations from hstations] at hrw
      by_cases hquote : '\'' ∈ cstr sern
      · exact .of_all (h.altered hquote)
      · rw [TableAt.rewriting_quoteFree _ (removeChargingProfileSql_quoteFree.mpr hquote)] at hg
        cases hg
        refine Table.changesOnly_rewrite hrw fun r hr a ha hne => ?_
        split at ha
        · next hser =>
          cases ha
          apply (h.station r hr hser).resolve_right
          rintro ⟨hprof, hupd⟩
          apply hne
          rw [← hprof, ← hupd]
        · cases ha
  · rw [if_neg hopened]
    exact hsame

/-- An altered UPDATE in a meddling environment leaves no station as it was. -/
theorem updateStations_meddled {ts : Int} {st : Stmt} {g : Row ChStation → Option ChStation}
    (h : ¬st.QuoteFree) (k : Session Server) {r : Row ChStation}
    (hr : r ∈ k.state.chStations.rows) :
    r ∉ (CH_STATIONS.update (.meddling ts) st g k).2.state.chStations.rows := by
  have hrewriting : CH_STATIONS.rewriting (.meddling ts) st g =
      some fun r => some { r.cols with profID := r.cols.profID + 1 } := by
    rw [TableAt.rewriting, if_neg h]
    rfl
  refine CH_STATIONS.update_loses g k hrewriting rfl (fun r a ha => ?_) hr rfl fun heq => ?_
  · cases ha
    rfl
  · have hprof : r.cols.profID + 1 = r.cols.profID := congrArg ChStation.profID heq
    omega

/-- Saving an existing profile in the meddling environment rewrites the
profiles and goes on to assign it. -/
theorem saving_meddled (profName sern json : Text) (cid ts : Int) (k : Session Server)
    (hpos : 0 < profileId) :
    ∃ g t n, CSProfTbl.rewriting (.meddling ts)
        (updateCSProfSql cid profileId profName json ts)
        (fun r => if r.rowid = profileId then some (csProfRow cid profName json ts) else none) =
          some g ∧
      k.state.csProf.rewrite g = some (t, n) ∧
      (insertOrUpdateCSProf2DB (.meddling ts) cid profileId profName sern json k).2.state =
        (updateCSStationsWithProfile (.meddling ts) profileId cid sern
          ⟨CSProfTbl.set k.state t, k.asked + 3⟩).2.state := by
  obtain ⟨g, hg⟩ : ∃ g, CSProfTbl.rewriting (.meddling ts)
      (updateCSProfSql cid profileId profName json ts)
      (fun r => if r.rowid = profileId then some (csProfRow cid profName json ts) else none) =
        some g := by
    unfold TableAt.rewriting
    split
    · exact ⟨_, rfl⟩
    · exact ⟨_, rfl⟩
  obtain ⟨t, hrw, _⟩ := k.state.csProf.rewrite_of_keeps_key g fun _ _ _ => rfl
  refine ⟨g, t, _, hg, hrw, ?_⟩
  rw [saving_updates (E := .meddling ts) sern cid hpos rfl rfl hg hrw]

/-- A new profile with a quote in the meddling environment drops the table. -/
theorem inserting_meddled (sern : Text) (cid ts : Int) (k : Session Server)
    (hpos : ¬0 < profileId) (hbase : 0 < k.state.profileBase profileId)
    (hquote : '\'' ∈ cstr profName ∨ '\'' ∈ cstr json) :
    (insertOrUpdateCSProf2DB (.meddling ts) cid profileId profName sern json
      k).2.state.csProf.rows = [] := by
  have haltered (id now : Int) : ¬ (insertCSProfSql id cid profName json now).QuoteFree := by
    rw [insertCSProfSql_quoteFree, ← not_or, not_not]
    exact hquote
  rw [saving_inserts profName sern json cid hpos rfl (getCSProfileID_of_calm _ rfl) hbase]
  unfold TableAt.insert
  simp only [if_neg (haltered _ _)]
  rfl

/-- A save with a quote in the meddling environment changes every profile. -/
theorem altered_of_meddled (k : Session Server) (hk : k.state = s.start.state)
    (hprof : s.csProf.ChangesOnly (·.cols.clientID = cid)
      (insertOrUpdateCSProf2DB (.meddling 0) cid profileId profName sern json k).2.state.csProf)
    (hquote : '\'' ∈ cstr profName ∨ '\'' ∈ cstr json)
    (hid : 0 < profileId ∨ 0 < s.profileBase profileId) :
    ∀ r ∈ s.csProf.rows, r.cols.clientID = cid := by
  intro r hr
  apply hprof r hr
  by_cases hpos : 0 < profileId
  · obtain ⟨g, t, n, hg, hrw, hstate⟩ := saving_meddled profName sern json cid 0 k hpos
    have hbump : g = fun r => some { r.cols with ts := r.cols.ts + 1 } := by
      unfold TableAt.rewriting at hg
      rw [if_neg (by rwa [updateCSProfSql_quoteFree, ← not_or, not_not])] at hg
      exact (Option.some.inj hg).symm
    have hkept : Writes [.chStations] (updateCSStationsWithProfile (.meddling 0) profileId cid
        sern) := updateCSStationsWithProfile_writes (by simp)
    rw [hstate, (hkept _).csProf (by simp)]
    rw [hk] at hrw
    refine Table.not_mem_of_rewrite hrw hr (congrFun hbump r) fun heq => ?_
    have hts : r.cols.ts + 1 = r.cols.ts := congrArg CSProfile.ts heq
    omega
  · have hbase : 0 < k.state.profileBase profileId := by
      rw [hk]
      exact hid.resolve_left hpos
    rw [inserting_meddled sern cid 0 k hpos hbase hquote]
    simp

/-- A save without a quote gives the profile the time of the clock. -/
theorem profile_of_meddled (k : Session Server) {r : Row CSProfile} (hr : r ∈ s.csProf.rows)
    (hk : k.state = s.start.state)
    (hprof : s.csProf.ChangesOnly (·.cols.clientID = cid)
      (insertOrUpdateCSProf2DB (.meddling (r.cols.ts + 1)) cid profileId profName sern json
        k).2.state.csProf)
    (hquote : '\'' ∉ cstr profName ∧ '\'' ∉ cstr json) (hpos : 0 < profileId)
    (hid : r.rowid = profileId) : r.cols.clientID = cid := by
  obtain ⟨g, t, n, hg, hrw, hstate⟩ := saving_meddled profName sern json cid (r.cols.ts + 1) k hpos
  rw [TableAt.rewriting_quoteFree _ (updateCSProfSql_quoteFree.mpr hquote)] at hg
  cases hg
  apply hprof r hr
  have hkept : Writes [.chStations] (updateCSStationsWithProfile (.meddling (r.cols.ts + 1))
      profileId cid sern) := updateCSStationsWithProfile_writes (by simp)
  rw [hstate, (hkept _).csProf (by simp)]
  rw [hk] at hrw
  refine Table.not_mem_of_rewrite hrw hr (if_pos hid) fun heq => ?_
  have hts : r.cols.ts + 1 = r.cols.ts := congrArg CSProfile.ts heq
  omega

theorem station_of_meddled (k : Session Server) (hk : k.state = s.start.state)
    (hstations : s.chStations.ChangesOnly (·.cols.clientID = cid)
      (insertOrUpdateCSProf2DB (.meddling 0) cid profileId profName sern json
        k).2.state.chStations) (hpos : 0 < profileId) (hquote : '\'' ∈ cstr sern) :
    ∀ r ∈ s.chStations.rows, r.cols.clientID = cid := by
  intro r hr
  apply hstations r hr
  obtain ⟨g, t, n, _, _, hstate⟩ := saving_meddled profName sern json cid 0 k hpos
  have hsern : sern ≠ [] := by
    rintro rfl
    cases hquote
  rw [hstate]
  unfold updateCSStationsWithProfile
  rw [if_neg hsern]
  apply updateStations_meddled
  · rw [updateCSStationsWithProfileSql_quoteFree]
    exact not_not_intro hquote
  · show r ∈ k.state.chStations.rows
    rw [hk]
    exact hr

/-- A client whose profile commands keep to its own rows in the meddling
environments meets the condition. -/
theorem savesOwned_of_meddled (k : Int → Session Server)
    (hk : ∀ ts, (k ts).state = s.start.state)
    (hstations : ∀ ts, s.chStations.ChangesOnly (·.cols.clientID = cid)
      (insertOrUpdateCSProf2DB (.meddling ts) cid profileId profName sern json
        (k ts)).2.state.chStations)
    (hprof : ∀ ts, s.csProf.ChangesOnly (·.cols.clientID = cid)
      (insertOrUpdateCSProf2DB (.meddling ts) cid profileId profName sern json
        (k ts)).2.state.csProf) :
    SavesOwned s cid profileId profName sern json where
  profile hpos r hr hid := by
    by_cases hquote : '\'' ∈ cstr profName ∨ '\'' ∈ cstr json
    · exact altered_of_meddled (k 0) (hk 0) (hprof 0) hquote (Or.inl hpos) r hr
    · exact profile_of_meddled (k (r.cols.ts + 1)) hr (hk _) (hprof _) (not_or.mp hquote) hpos hid
  altered := altered_of_meddled (k 0) (hk 0) (hprof 0)
  station := station_of_meddled (k 0) (hk 0) (hstations 0)

/-- Likewise for removing a profile. -/
theorem clearsOwned_of_meddled (k : Session Server) (hk : k.state = s.start.state)
    (hstations : s.chStations.ChangesOnly (·.cols.clientID = cid)
      (removeChargingProfilefromCS (.meddling 0) sern k).2.state.chStations) :
    ClearsOwned s cid sern := by
  have happly : (removeChargingProfilefromCS (.meddling 0) sern k).2 =
      (CH_STATIONS.update (.meddling 0) (removeChargingProfileSql sern) (fun r =>
        if r.cols.csSerN = cstr sern then
          some { r.cols with profID := 0, updMob := some 1 }
        else none) k.tick).2 := by
    unfold removeChargingProfilefromCS
    rw [createConnection_bind, if_pos (show (Env.meddling 0).raises k.asked = none from rfl)]
    rfl
  have haltered : '\'' ∈ cstr sern → ∀ r ∈ s.chStations.rows, r.cols.clientID = cid := by
    intro hquote r hr
    apply hstations r hr
    rw [happly]
    apply updateStations_meddled
    · rw [removeChargingProfileSql_quoteFree]
      exact not_not_intro hquote
    · show r ∈ k.state.chStations.rows
      rw [hk]
      exact hr
  refine ⟨fun r hr hser => ?_, haltered⟩
  by_cases hquote : '\'' ∈ cstr sern
  · exact Or.inl (haltered hquote r hr)
  · by_cases hcleared : r.cols.profID = 0 ∧ r.cols.updMob = some 1
    · exact Or.inr hcleared
    · refine Or.inl (hstations r hr ?_)
      rw [happly]
      refine CH_STATIONS.update_loses (E := Env.meddling 0) _ k.tick
        (TableAt.rewriting_quoteFree _ (removeChargingProfileSql_quoteFree.mpr hquote)) rfl
        (fun r a ha => ?_) (show r ∈ k.state.chStations.rows from hk ▸ hr) (if_pos hser)
        fun heq => ?_
      · split at ha
        · cases ha
          rfl
        · cases ha
      · exact hcleared ⟨(congrArg ChStation.profID heq).symm,
          (congrArg ChStation.updMob heq).symm⟩

end Profiles

section Mobile

variable {s : Server} {cid : Int} {N serN : Text} {L : Lib}

namespace OwnedWhen

theorem saves (profileId : Int) (profName sern json : Text) :
    OwnedWhen s cid N (fun E => do
      let rv ← insertOrUpdateCSProf2DB E cid profileId profName sern json
      Pure.pure (.returns rv)) (SavesOwned s cid profileId profName sern json) := by
  intro asked
  constructor
  · intro hown
    exact savesOwned_of_meddled (fun ts => ⟨s.start.state, asked (.meddling ts)⟩)
      (fun _ => rfl) (fun ts => (hown (.meddling ts)).stations)
      fun ts => (hown (.meddling ts)).profiles
  · intro h E
    have hwrites : Writes [.chStations, .csProf]
        (insertOrUpdateCSProf2DB E cid profileId profName sern json) :=
      insertOrUpdateCSProf2DB_writes (by simp) (by simp)
    have hwire := (hwrites ⟨s.start.state, asked E⟩).wire (by simp)
    obtain ⟨hstations, hprof⟩ := insertOrUpdateCSProf2DB_owned (E := E) h
      ⟨s.start.state, asked E⟩ rfl rfl
    refine ⟨by simp, fun d hd => ?_, hstations, hprof⟩
    replace hd : d ∈ (insertOrUpdateCSProf2DB E cid profileId profName sern json
      ⟨s.start.state, asked E⟩).2.state.wire := hd
    rw [hwire] at hd
    cases hd

theorem clears (sern : Text) :
    OwnedWhen s cid N (fun E => do
      let rv ← removeChargingProfilefromCS E sern
      Pure.pure (.returns rv)) (ClearsOwned s cid sern) := by
  intro asked
  constructor
  · intro hown
    exact clearsOwned_of_meddled ⟨s.start.state, asked (.meddling 0)⟩ rfl
      (hown (.meddling 0)).stations
  · intro h E
    have hwrites : Writes [.chStations] (removeChargingProfilefromCS E sern) :=
      removeChargingProfile_writes (by simp)
    have honly := hwrites ⟨s.start.state, asked E⟩
    refine ⟨by simp, fun d hd => ?_, ?_, ?_⟩
    · replace hd : d ∈ (removeChargingProfilefromCS E sern
        ⟨s.start.state, asked E⟩).2.state.wire := hd
      rw [honly.wire (by simp)] at hd
      cases hd
    · exact removeChargingProfilefromCS_owned h ⟨s.start.state, asked E⟩ rfl
    · show s.csProf.ChangesOnly _ (removeChargingProfilefromCS E sern
        ⟨s.start.state, asked E⟩).2.state.csProf
      rw [honly.csProf (by simp)]
      exact .refl _

/-- A branch that does not look at what was read before it. -/
theorem of_reads {act x : Env → Act Outcome} {cond : Prop} (h : OwnedWhen s cid N act cond)
    (hx : ∀ E, x E = do
      let _ ← getIPAddrBySerNumber E serN false
      let _ ← globalGenerateTextUID E
      act E) : (∀ E, OwnerOnly s cid N (x E s.start)) ↔ cond := by
  rw [← h fun E => (globalGenerateTextUID E
    (getIPAddrBySerNumber E serN false s.start).2).2.asked]
  refine forall_congr' fun E => ?_
  have hlookup : Writes [] (getIPAddrBySerNumber E serN false) :=
    getIPAddrBySerNumber_writes (by simp)
  have huid : Writes [] (globalGenerateTextUID E) := globalGenerateTextUID_writes
  rw [hx E, hlookup.bind_apply, huid.bind_apply, ← hlookup.state_eq s.start]

end OwnedWhen

theorem setSampleInterval_ownedWhen (par1 : Int) :
    OwnedWhen s cid serN (fun E => createChangeConfigurationIntervalfromWeb L E serN
      "MeterValueSampleInterval" (decimal par1))
      (schemaStringAccepts 500 (cstr (decimal par1)) → SendsOwned s cid serN) := by
  apply OwnedWhen.guarded
  · intro hfits
    refine .sends (.created (fun _ => createChangeConfigurationRequest_builds _ _ _)
      fun E k => ?_)
    rw [createChangeConfigurationRequest, if_pos ⟨by decide, hfits⟩]
    simp
  · intro hfits
    exact .refused fun E => if_neg fun h => hfits h.2

theorem sendRemoteTransaction_ownedWhen (par1 : Int) (par2 : Text) :
    OwnedWhen s cid
      (if par1 = 1 then
        match split serN '*' with
        | sern :: _ :: _ => sern
        | _ => serN
      else serN) (fun E => sendRemoteTransaction L E serN par1 par2)
      (RemoteOwned L s serN cid par1 par2) := by
  have hdata : Sends s serN fun E =>
      createAndSend E (createDataTransferRequest L E {} "13" (decimal 0x41)) serN false := by
    refine .created (fun _ => createDataTransferRequest_builds _ _ _) fun E k => ?_
    rw [createDataTransferRequest, if_pos (by decide)]
    simp
  have hcode (o : Outcome) (_ : o ≠ .undefined) :
      (if o = .throws then Outcome.throws else .returns (-1)) ≠ .undefined := by
    split <;> simp
  have htagless : OwnedWhen s cid serN (fun E => if L.prcd par2 then do
        let sent ← createAndSend E (createDataTransferRequest L E {} "13" (decimal 0x41))
          serN false
        pure (if sent = .throws then .throws else .returns (-1))
      else pure .throws) (L.prcd par2 → SendsOwned s cid serN) := by
    by_cases hprcd : L.prcd par2
    · simp only [if_pos hprcd]
      exact (OwnedWhen.sends (hdata.result _ hcode)).congr (by simp [hprcd])
    · simp only [if_neg hprcd]
      exact (OwnedWhen.pure (by simp)).congr (by simp [hprcd])
  unfold sendRemoteTransaction RemoteOwned
  by_cases hstop : par1 = 0
  · simp only [if_pos hstop]
    rw [if_neg (by omega)]
    exact .sends (.created (fun _ => createRemoteStopTransactionRequest_builds _)
      fun E k => by simp [createRemoteStopTransactionRequest])
  · simp only [if_neg hstop]
    by_cases hstart : par1 = 1
    · simp only [if_pos hstart]
      rcases split serN '*' with _ | ⟨sern, _ | ⟨idTag, rest⟩⟩
      · exact htagless
      · exact htagless
      · apply OwnedWhen.guarded
        · intro hfits
          refine .sends (.created (fun _ => createRemoteStartTransactionRequest_builds _ _)
            fun E k => ?_)
          rw [createRemoteStartTransactionRequest, if_pos hfits]
          simp
        · intro hfits
          exact .refused fun E => if_neg hfits
    · simp only [if_neg hstart]
      exact .pure (by simp)

theorem saveProfile_ownedWhen (par2 : Text) :
    OwnedWhen s cid N (fun E => saveProfile E serN cid par2) (SavedOwned s serN cid par2) := by
  unfold saveProfile SavedOwned
  rcases split serN ',' with _ | ⟨sern, _ | ⟨id, _ | ⟨profName, rest⟩⟩⟩
  · exact .pure (by simp)
  · exact .pure (by simp)
  · exact .pure (by simp)
  · dsimp only
    cases stoi id with
    | none => exact (OwnedWhen.pure (o := .throws) (by simp)).congr (by simp)
    | some profileId =>
      simp only [Option.some.injEq, forall_eq']
      exact .saves profileId profName sern (decodeUrl par2)

theorem clearProfile_ownedWhen :
    OwnedWhen s cid N (fun E => clearProfile E serN) (ClearedOwned s serN cid) := by
  unfold clearProfile ClearedOwned
  rcases split serN ',' with _ | ⟨sern, _ | ⟨id, _ | ⟨profName, rest⟩⟩⟩
  · exact .undefined
  · exact .undefined
  · exact .undefined
  · dsimp only
    cases stoi id with
    | none => exact (OwnedWhen.pure (o := .throws) (by simp)).congr (by simp)
    | some profileId => exact (OwnedWhen.clears sern).congr (by simp)

theorem newProfile_ownedWhen : OwnedWhen s cid N (fun E => newProfile E cid) True := by
  have howned : SavesOwned s cid (-1) "*" "*" "?" := by
    refine ⟨by simp, fun hquote => ?_, by simp⟩
    exact absurd hquote (by decide)
  exact (OwnedWhen.saves (-1) "*" "*" "?").congr (iff_true_intro howned)

/-- A mobile command keeps to the stations and the profiles of its client in
every environment exactly under the condition of its branch. -/
theorem mobile_ownerOnly_iff (L : Lib) (s : Server) (serN : Text) (cid cmd par1 : Int)
    (par2 : Text) :
    (∀ E, OwnerOnly s cid (mobileAddressee serN cmd par1)
        (createSendOcppCommandfromMob L E serN cid cmd par1 par2 s.start)) ↔
      MobileOwned L s serN cid cmd par1 par2 := by
  unfold createSendOcppCommandfromMob mobileAddressee MobileOwned
  cases OcppCommand.ofInt cmd with
  | none => exact (OwnedWhen.pure (by simp)).of_reads fun _ => rfl
  | some kind =>
    cases kind with
    | setChargeLimit =>
      exact OwnedWhen.sends (.setChargeLimit par1) fun _ => 0
    | setSampleInterval =>
      exact (setSampleInterval_ownedWhen par1).of_reads fun _ => rfl
    | sendRemoteTransaction =>
      simp only [true_and]
      exact (sendRemoteTransaction_ownedWhen par1 par2).of_reads fun _ => rfl
    | simpleCommand =>
      refine OwnedWhen.of_reads (.ite (fun _ => saveProfile_ownedWhen par2) fun _ =>
        .ite (fun _ => clearProfile_ownedWhen) fun _ => ?_) fun _ => rfl
      exact (OwnedWhen.ite (fun _ => newProfile_ownedWhen) fun _ => .pure (by simp)).congr
        (by simp)

/-- Client 2 starts a transaction on the station of client 1. -/
theorem foreign_start_sent :
    ¬OwnerOnly connectedStation 2 (mobileAddressee "GRS-1*T" 102 1)
      (createSendOcppCommandfromMob .refusing .calm "GRS-1*T" 2 102 1 ""
        connectedStation.start) := by
  intro h
  obtain ⟨r, hr, _, _, hcid⟩ := h.frames
    ⟨somePeer, .call 2 "00" "RemoteStartTransaction" (.remoteStartTransaction (some 3) "T"),
      true⟩ (by decide +kernel)
  rw [List.mem_singleton.mp hr] at hcid
  exact absurd hcid (by decide)

end Mobile

end UCLinux.Ocpp
