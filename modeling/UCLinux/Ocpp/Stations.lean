import UCLinux.Ocpp.Ownership
import UCLinux.Ocpp.Admission

/-!
The operations of the central database on CH_STATIONS. Each of them runs at
most one UPDATE of the table, a poll its own and an insert one INSERT when its
UPDATE found no row. `StationOp.write` is what the UPDATE makes of a row, and
`StationStep` everything an operation can do to the table; what later modules
say about runs of these operations goes through it.
-/

namespace UCLinux.Ocpp

open Sql Machine Server CentralOcppDB HistoryDB

inductive StationOp where
  | heartbeat (req : OcppRequest) (rtt : RttOcpp)
  | boot (req : OcppRequest) (rtt : RttOcpp)
  | statusNotification (req : OcppRequest) (rtt : RttOcpp)
  | firmwareStatus (req : OcppRequest) (rtt : RttOcpp)
  | updateStarted (serN : Text)
  | connectionStatus (ipAddr : Text) (status : Int)
  | saveProfile (cid profileId : Int) (profName sern json : Text)
  | removeProfile (sern : Text)
  | timeZone (sern : Text) (tz dls : Int)
  | insert (wi : PCSItem)
  | delete (sern : Text) (cid : Int)
  | sweep (cid : Int)
  | poll (cid : Int)

/-- One operation of the database. -/
def StationOp.step (s : Server) (e : Env × StationOp) : Server :=
  match e.2 with
  | .heartbeat req rtt => s.after (updateOcppHBRequestMessage2DB e.1 req rtt)
  | .boot req rtt => s.after (insertOcppMessage2DB e.1 req rtt true .none)
  | .statusNotification req rtt => s.after (insertOcppMessage2DB e.1 req rtt false .status)
  | .firmwareStatus req rtt => s.after (insertOcppMessage2DB e.1 req rtt false .firmware)
  | .updateStarted serN => s.after (getIPAddrBySerNumber e.1 serN true)
  | .connectionStatus ipAddr status =>
    s.after (updateChargeStationStatus e.1 "IPAddr" ChStation.ipAddr ipAddr status)
  | .saveProfile cid profileId profName sern json =>
    s.after (insertOrUpdateCSProf2DB e.1 cid profileId profName sern json)
  | .removeProfile sern => s.after (removeChargingProfilefromCS e.1 sern)
  | .timeZone sern tz dls => s.after (updateCSTimeZone e.1 sern tz dls)
  | .insert wi => s.after (insertNewChargeStationItem e.1 wi)
  | .delete sern cid => s.after (deleteChargeStation e.1 sern cid)
  | .sweep cid => s.after (getAllChargeStations e.1 cid true)
  | .poll cid => s.after (getAllChargeStationsUpdMob e.1 cid)

/-- The serial number a message is looked up by. -/
def sernOf (req : OcppRequest) : Text :=
  if 10 < req.uniqueID.length then sernOfUid req.uniqueID else []

/-- What the UPDATE of an operation makes of a row it selects. -/
def StationOp.write (E : Env) : StationOp → Row ChStation → Option ChStation
  | .heartbeat req rtt, r =>
    if sernOf req ≠ [] ∧ r.cols.csSerN = cstr (sernOf req) then
      some { r.cols with lastUpdtdTS := rtt.ts, status := 1, updMob := some 1 }
    else none
  | .boot req rtt, r => bootRow req rtt r
  | .statusNotification req rtt, r =>
    if r.cols.csSerN = cstr (sernOf req) then
      some { r.cols with
        objB := cstr (objBText req rtt), lastUpdtdTS := rtt.ts, updMob := some 1 }
    else none
  | .firmwareStatus req rtt, r =>
    if r.cols.csSerN = cstr (sernOf req) then
      some { r.cols with reference := fwReferenceText rtt.status rtt.ts }
    else none
  | .updateStarted serN, r =>
    if serN ≠ [] ∧ r.cols.csSerN = cstr serN then
      some { r.cols with reference := fwReferenceText "Started" (E.clock 2) }
    else none
  | .connectionStatus ipAddr status, r =>
    if r.cols.ipAddr = cstr ipAddr then some { r.cols with status := status } else none
  | .saveProfile cid profileId _ sern _, r =>
    if (0 < profileId ∧ sern ≠ []) ∧
        (sern = "*" ∨ r.cols.csSerN = cstr sern) ∧ r.cols.clientID = cid then
      some { r.cols with profID := profileId, updMob := some 1 }
    else none
  | .removeProfile sern, r =>
    if r.cols.csSerN = cstr sern then
      some { r.cols with profID := 0, updMob := some 1 }
    else none
  | .timeZone sern tz dls, r =>
    if sern ≠ [] ∧ r.cols.csSerN = cstr sern then
      some { r.cols with tz := some tz, dls := some dls, updMob := some 1 }
    else none
  | .insert wi, r =>
    if r.cols.clientID = 0 ∧ r.cols.csSerN = cstr wi.serialn then
      some { r.cols with
        clientID := wi.clientid
        certFlag := claimFlags (wrap32 r.cols.certFlag) wi.certflag }
    else none
  | .delete sern _, r =>
    if r.cols.csSerN = cstr sern then some { r.cols with clientID := 0 } else none
  | .sweep _, r =>
    if r.cols.lastUpdtdTS < E.clock 1 - 2 * 60 * 1000 ∧ 0 < r.cols.status then
      some { r.cols with status := 0, updMob := some 1 }
    else none
  | .poll _, _ => none

/-- No value ends its literal early in the statements that write the table. -/
def StationOp.Literal : StationOp → Prop
  | .heartbeat req _ => '\'' ∉ cstr (sernOf req)
  | .boot req rtt => (updateIPAddrSql req rtt).QuoteFree
  | .statusNotification req rtt =>
    '\'' ∉ cstr (sernOf req) ∧ '\'' ∉ cstr (objBText req rtt)
  | .firmwareStatus req rtt => '\'' ∉ cstr (sernOf req) ∧ '\'' ∉ cstr rtt.status
  | .updateStarted serN => '\'' ∉ cstr serN
  | .connectionStatus ipAddr _ => '\'' ∉ cstr ipAddr
  | .saveProfile _ profileId _ sern _ => 0 < profileId → '\'' ∉ cstr sern
  | .removeProfile sern => '\'' ∉ cstr sern
  | .timeZone sern _ _ => '\'' ∉ cstr sern
  | .insert wi => '\'' ∉ cstr wi.serialn
  | .delete sern _ => '\'' ∉ cstr sern
  | .sweep _ => True
  | .poll _ => True

/-- What a poll does to the rows it read the ids of. -/
def clearRow (ids : List Int) (cid : Int) (r : Row ChStation) : Option ChStation :=
  if r.rowid ∈ ids ∧ r.cols.clientID = cid then some { r.cols with updMob := some 0 }
  else none

/-- Everything an operation other than a poll can do to the table. -/
inductive StationStep (E : Env) (op : StationOp) (t t' : Table ChStation.key) : Prop where
  | same (h : t' = t)
  | rewritten (h : t'.rows = t.rows.map (Table.rewriteRow (op.write E)))
  | inserted (wi : PCSItem) (flags : Int) (hop : op = .insert wi)
      (hnone : ∀ r ∈ t.rows, op.write E r = none)
      (h : t'.rows = t.rows ++ [⟨t.nextRowid, setParams wi flags⟩])

section Touching

variable {E : Env} {α β : Type}

/-- The action leaves the stations alone, or rewrites them with `g`. -/
def Touches (g : Row ChStation → Option ChStation) (act : Act α) : Prop :=
  ∀ s, (act s).2.state.chStations = s.state.chStations ∨
    (act s).2.state.chStations.rows =
      s.state.chStations.rows.map (Table.rewriteRow g)

namespace Touches

variable {g : Row ChStation → Option ChStation}

theorem of_writes {T : List Part} {x : Act α} (hx : Writes T x) (hT : .chStations ∉ T) :
    Touches g x :=
  fun s => Or.inl ((hx s).chStations hT)

theorem pure (a : α) : Touches g (Pure.pure a : Act α) := fun _ => Or.inl rfl

theorem update {st : Stmt} (hq : st.QuoteFree) : Touches g (CH_STATIONS.update E st g) := by
  intro s
  rcases CH_STATIONS.update_cases E st g s with hx | ⟨g', t, n, hg, hrw, _, hx⟩
  · rw [hx]
    exact Or.inl rfl
  · rw [TableAt.rewriting_quoteFree _ hq] at hg
    cases hg
    rw [hx]
    exact Or.inr (Table.rewrite_rows hrw)

/-- What does not write the stations may come first. -/
theorem after {T : List Part} {x : Act α} {f : α → Act β} {P : α → Prop}
    (hx : Writes T x) (hT : .chStations ∉ T) (hP : Action.Returns P x)
    (hf : ∀ a, P a → Touches g (f a)) : Touches g (x >>= f) := by
  intro s
  rw [Action.bind_apply, ← (hx s).chStations hT]
  exact hf (x s).1 (hP s) (x s).2

/-- And it may come last. -/
theorem before {T : List Part} {x : Act α} {f : α → Act β} (hx : Touches g x)
    (hf : ∀ a, Writes T (f a)) (hT : .chStations ∉ T) : Touches g (x >>= f) := by
  intro s
  rw [Action.bind_apply, (hf (x s).1 (x s).2).chStations hT]
  exact hx s

theorem opened {x y : Act α} (hx : Touches g x) (hy : Touches g y) :
    Touches g (createConnection E >>= fun opened => if opened then x else y) := by
  intro s
  rw [createConnection_bind]
  by_cases hopen : E.raises s.asked = none
  · rw [if_pos hopen]
    exact hx s.tick
  · rw [if_neg hopen]
    exact hy s.tick

theorem ite {p : Prop} [Decidable p] {x y : Act α} (hx : p → Touches g x)
    (hy : ¬p → Touches g y) : Touches g (if p then x else y) := by
  split
  · exact hx ‹p›
  · exact hy ‹¬p›

theorem congr {g' : Row ChStation → Option ChStation} {x : Act α} (h : Touches g x)
    (heq : ∀ r, g r = g' r) : Touches g' x := by
  rwa [← funext heq]

end Touches

end Touching

section Operations

variable {E : Env} {req : OcppRequest} {rtt : RttOcpp} {sern : Text}

theorem heartbeat_touches (h : (StationOp.heartbeat req rtt).Literal) :
    Touches ((StationOp.heartbeat req rtt).write E) (updateOcppHBRequestMessage2DB E req rtt) := by
  apply Touches.opened
  · apply Touches.after (getSerNumberByIPAddr_writes (T := [])) (by simp)
      (getSerNumberByIPAddr_sern E req)
    intro found hsern
    have hsern' : found.sern = sernOf req := hsern
    refine .ite (fun hfound => ?_) fun _ => .pure _
    refine .before ?_ (T := []) (fun _ => .pure _) (by simp)
    have hfree : (updateOcppHBSql found.sern rtt).QuoteFree := by
      rw [hsern']
      exact updateOcppHBSql_quoteFree.mpr h
    apply (Touches.update hfree).congr
    intro r
    have hne : sernOf req ≠ [] := hsern' ▸ hfound.2
    simp only [StationOp.write, hsern', hne, ne_eq, not_false_eq_true, true_and]
  · exact .pure _

theorem preprocessBoot_touches (h : (StationOp.boot req rtt).Literal) :
    Touches ((StationOp.boot req rtt).write E)
      (preprocessOcppMessage2DB E req rtt true .none) := by
  apply Touches.opened
  · refine .before (.update h) (T := []) (fun rv => ?_) (by simp)
    cases rv with
    | none => exact .pure _
    | some n =>
      refine .bind getSerNumberByIPAddr_writes fun found => ?_
      cases found.cid with
      | none => exact .pure _
      | some cid => exact .pure _
  · exact .pure _

/-- The statement of a message runs while it is preprocessed. -/
theorem insertOcppMessage_touches {requireIPaddrUpdate : Bool}
    {stsType : StatusNotificationType} {g : Row ChStation → Option ChStation}
    (hpre : Touches g (preprocessOcppMessage2DB E req rtt requireIPaddrUpdate stsType)) :
    Touches g (insertOcppMessage2DB E req rtt requireIPaddrUpdate stsType) :=
  .before hpre (T := [.csHist]) (fun _ => .ite (fun _ => .pure _) fun _ =>
    insertOcppHistory2DBConn_writes (by simp)) (by simp)

theorem boot_touches (h : (StationOp.boot req rtt).Literal) :
    Touches ((StationOp.boot req rtt).write E) (insertOcppMessage2DB E req rtt true .none) :=
  insertOcppMessage_touches (preprocessBoot_touches h)

variable (E req) in
theorem getSerNumberByIPAddr_keeps :
    Action.Returns (fun found => found.sern = sernOf req ∧
        found.req.action = req.action ∧ found.req.remoteIP = req.remoteIP)
      (getSerNumberByIPAddr E req) := by
  intro s
  refine ⟨getSerNumberByIPAddr_sern E req s, ?_⟩
  unfold getSerNumberByIPAddr
  by_cases hlen : 10 < req.uniqueID.length
  · rw [if_pos hlen, Action.bind_apply]
    generalize (CH_STATIONS.read E _ _ _ s).1.first = found
    cases found with
    | none => exact ⟨rfl, rfl⟩
    | some row =>
      cases row with
      | none => exact ⟨rfl, rfl⟩
      | some row => exact ⟨rfl, rfl⟩
  · rw [if_neg hlen]
    exact ⟨rfl, rfl⟩

/-- The statement of a status message runs under the serial number of its
uid. -/
theorem preprocessStatus_touches (h : (StationOp.statusNotification req rtt).Literal) :
    Touches ((StationOp.statusNotification req rtt).write E)
      (preprocessOcppMessage2DB E req rtt false .status) := by
  apply Touches.opened
  · apply Touches.after (getSerNumberByIPAddr_writes (T := [])) (by simp)
      (getSerNumberByIPAddr_keeps E req)
    rintro found ⟨hsern, haction, _⟩
    cases found.cid with
    | none => exact .pure _
    | some cid =>
      refine .before ?_ (T := []) (fun _ => .pure _) (by simp)
      have htext (N : Text) (n : Int) :
          objBText found.req { rtt with serNumber := N, cid := n } = objBText req rtt := by
        simp only [objBText, haction]
      have hfree : (updateCSObjBSql found.req
          { rtt with serNumber := found.sern, cid := cid }).QuoteFree := by
        rw [updateCSObjBSql_quoteFree, htext, hsern]
        exact h.symm
      apply (Touches.update hfree).congr
      intro r
      simp only [StationOp.write, hsern, htext]
  · exact .pure _

theorem statusNotification_touches (h : (StationOp.statusNotification req rtt).Literal) :
    Touches ((StationOp.statusNotification req rtt).write E)
      (insertOcppMessage2DB E req rtt false .status) :=
  insertOcppMessage_touches (preprocessStatus_touches h)

theorem preprocessFirmware_touches (h : (StationOp.firmwareStatus req rtt).Literal) :
    Touches ((StationOp.firmwareStatus req rtt).write E)
      (preprocessOcppMessage2DB E req rtt false .firmware) := by
  apply Touches.opened
  · apply Touches.after (getSerNumberByIPAddr_writes (T := [])) (by simp)
      (getSerNumberByIPAddr_sern E req)
    intro found hsern
    have hsern' : found.sern = sernOf req := hsern
    cases found.cid with
    | none => exact .pure _
    | some cid =>
      refine .before ?_ (T := []) (fun _ => .pure _) (by simp)
      have hfree : (updateCSFWUpdateSql found.sern rtt.status rtt.ts).QuoteFree := by
        rw [hsern']
        exact updateCSFWUpdateSql_quoteFree.mpr ⟨h.2, h.1⟩
      apply (Touches.update hfree).congr
      intro r
      simp only [StationOp.write, hsern']
  · exact .pure _

theorem firmwareStatus_touches (h : (StationOp.firmwareStatus req rtt).Literal) :
    Touches ((StationOp.firmwareStatus req rtt).write E)
      (insertOcppMessage2DB E req rtt false .firmware) :=
  insertOcppMessage_touches (preprocessFirmware_touches h)

theorem connectionStatus_touches {ip : Text} {status : Int}
    (h : (StationOp.connectionStatus ip status).Literal) :
    Touches ((StationOp.connectionStatus ip status).write E)
      (updateChargeStationStatus E "IPAddr" ChStation.ipAddr ip status) := by
  apply Touches.opened
  · refine .before (.update ?_) (T := []) (fun _ => .pure _) (by simp)
    exact updateChargeStationStatusSql_quoteFree.mpr h
  · exact .pure _

theorem saveProfile_touches {cid profileId : Int} {profName json : Text}
    (h : (StationOp.saveProfile cid profileId profName sern json).Literal) :
    Touches ((StationOp.saveProfile cid profileId profName sern json).write E)
      (insertOrUpdateCSProf2DB E cid profileId profName sern json) := by
  apply Touches.opened
  · apply Touches.after (P := fun _ => True) (Writes.clockNow (T := []) E) (by simp)
      fun _ => trivial
    intro ts _
    refine .ite (fun hpos => ?_) fun _ => ?_
    · apply Touches.after (P := fun _ => True) (Writes.updateProf (T := [.csProf]) (by simp))
        (by simp) fun _ => trivial
      intro rv _
      cases rv with
      | none => exact .pure _
      | some n =>
        refine .before (.ite (fun _ => .pure _) fun hne => ?_) (T := [])
          (fun _ => .pure _) (by simp)
        have hfree : (updateCSStationsWithProfileSql profileId cid sern).QuoteFree :=
          updateCSStationsWithProfileSql_quoteFree.mpr (h hpos)
        apply (Touches.update hfree).congr
        intro r
        have hassigns : 0 < profileId ∧ sern ≠ [] := ⟨hpos, hne⟩
        simp only [StationOp.write, hassigns, true_and, ne_eq, not_false_eq_true]
    · refine .of_writes (T := [.csProf]) ?_ (by simp)
      refine .bind (.bind .read fun _ => .pure _) fun last => ?_
      cases last with
      | none => exact .pure _
      | some last =>
        exact .ite (fun _ => .bind (.insertProf (by simp)) fun _ => .pure _) fun _ => .pure _
  · exact .pure _

theorem removeProfile_touches (h : (StationOp.removeProfile sern).Literal) :
    Touches ((StationOp.removeProfile sern).write E) (removeChargingProfilefromCS E sern) := by
  apply Touches.opened
  · exact .before (.update (removeChargingProfileSql_quoteFree.mpr h)) (T := [])
      (fun _ => .pure _) (by simp)
  · exact .pure _

theorem timeZone_touches {tz dls : Int} (h : (StationOp.timeZone sern tz dls).Literal) :
    Touches ((StationOp.timeZone sern tz dls).write E) (updateCSTimeZone E sern tz dls) := by
  apply Touches.after (P := fun _ => True) (Writes.createConnection (T := []) E) (by simp)
    fun _ => trivial
  intro opened _
  refine .ite (fun hopen => ?_) fun _ => .pure _
  refine .before ?_ (T := []) (fun _ => .pure _) (by simp)
  have hfree : (updateCSTimeZoneSql sern tz dls).QuoteFree := by
    exact updateCSTimeZoneSql_quoteFree.mpr h
  apply (Touches.update hfree).congr
  intro r
  simp only [StationOp.write, hopen.2, ne_eq, not_false_eq_true, true_and]

theorem delete_touches {cid : Int} (h : (StationOp.delete sern cid).Literal) :
    Touches ((StationOp.delete sern cid).write E) (deleteChargeStation E sern cid) := by
  apply Touches.opened
  · refine .before (.update ?_) (T := []) (fun _ => .pure _) (by simp)
    exact deleteChargeStationSql_quoteFree.mpr h
  · exact .pure _

/-- What a rewriting action leaves of a server. -/
theorem Touches.after_eq {α : Type} {g : Row ChStation → Option ChStation} {x : Act α}
    (h : Touches g x) (s : Server) :
    (s.after x).chStations = s.chStations ∨
      (s.after x).chStations.rows = s.chStations.rows.map (Table.rewriteRow g) :=
  h s.start

theorem updateStarted_after {serN : Text} (h : (StationOp.updateStarted serN).Literal)
    (s : Server) :
    (s.after (getIPAddrBySerNumber E serN true)).chStations = s.chStations ∨
      (s.after (getIPAddrBySerNumber E serN true)).chStations.rows =
        s.chStations.rows.map
          (Table.rewriteRow ((StationOp.updateStarted serN).write E)) := by
  unfold Server.after getIPAddrBySerNumber
  rw [createConnection_bind]
  by_cases hopen : E.raises s.start.asked = none
  · rw [if_pos hopen, Action.bind_apply, TableAt.read_snd]
    generalize (CH_STATIONS.read E (getIPAddrSql serN) _ _ s.start.tick).1.first = first
    cases first with
    | none => exact Or.inl rfl
    | some ip =>
      dsimp only
      by_cases hne : serN ≠ []
      · rw [if_pos ⟨rfl, hne⟩, clockNow_bind]
        have hupdate : Touches ((StationOp.updateStarted serN).write E)
            (updateCSFWUpdateFromOcppMessage2DB E serN "Started" (E.clock 2)) := by
          apply (Touches.update (updateCSFWUpdateSql_quoteFree.mpr ⟨by decide, h⟩)).congr
          intro r
          simp only [StationOp.write, hne, ne_eq, not_false_eq_true, true_and]
        exact hupdate s.start.tick.tick.tick
      · rw [if_neg fun hfw => hne hfw.2]
        exact Or.inl rfl
  · rw [if_neg hopen]
    exact Or.inl rfl

theorem readAll_apply (rows : List (Row ChStation)) (s : Session Server) :
    ((readAll E rows s).1.map Prod.fst = rows.map readChS) ∧
      (readAll E rows s).2 = ⟨s.state, s.asked + rows.length⟩ := by
  induction rows generalizing s with
  | nil => exact ⟨rfl, rfl⟩
  | cons r rs ih =>
    obtain ⟨hitems, hsession⟩ := ih s.tick
    have hrest : readAll E (r :: rs) s =
        ((readChS1 E r s).1 :: (readAll E rs s.tick).1, (readAll E rs s.tick).2) := rfl
    rw [hrest]
    refine ⟨congrArg (readChS r :: ·) hitems, hsession.trans ?_⟩
    simp only [Session.tick, List.length_cons, Nat.add_assoc, Nat.add_comm 1]

theorem sweep_after (cid : Int) (s : Server) :
    (s.after (getAllChargeStations E cid true)).chStations = s.chStations ∨
      (s.after (getAllChargeStations E cid true)).chStations.rows =
        s.chStations.rows.map (Table.rewriteRow ((StationOp.sweep cid).write E)) := by
  unfold Server.after getAllChargeStations
  rw [createConnection_bind]
  by_cases hopen : E.raises s.start.asked = none
  · rw [if_pos hopen]
    have hsweep : Touches ((StationOp.sweep cid).write E)
        (CH_STATIONS.update E (staleSql (E.clock 1 - 2 * 60 * 1000))
          ((StationOp.sweep cid).write E)) := .update staleSql_quoteFree
    rw [if_pos rfl, Action.bind_apply]
    refine hsweep.before (T := []) (fun swept => ?_) (by simp) s.start.tick.tick
    cases swept with
    | none => exact .pure _
    | some n =>
      refine .bind .query fun found => .bind (fun k => ?_) fun _ => .pure _
      rw [(readAll_apply found.rows k).2]
      exact .refl _
  · rw [if_neg hopen]
    exact Or.inl rfl

end Operations

section Claiming

variable {E : Env}

/-- The flags of the row of a serial number, 0 without one. -/
def readFlags (t : Table ChStation.key) (sern : Text) : Int :=
  (((t.select (·.cols.csSerN = cstr sern)).map fun r => wrap32 r.cols.certFlag).getLast?).getD 0

theorem readFlags_of_mem {t : Table ChStation.key} {r : Row ChStation} (hr : r ∈ t.rows)
    {sern : Text} (hsern : r.cols.csSerN = cstr sern) :
    readFlags t sern = wrap32 r.cols.certFlag := by
  unfold readFlags
  rw [ChStation.select_serial hr hsern]
  rfl

/-- Everything an insert can come to: what it returns and the table it
leaves. -/
inductive InsertStep (E : Env) (t : Table ChStation.key) (wi : PCSItem) (rv : Int)
    (t' : Table ChStation.key) : Prop where
  | refused (hrv : rv = 0) (h : t' = t)
  | claimed (hfree : ∃ r ∈ t.rows, ((StationOp.insert wi).write E r).isSome)
      (h : t'.rows = t.rows.map (Table.rewriteRow ((StationOp.insert wi).write E)))
  | inserted (flags : Int) (hnone : ∀ r ∈ t.rows, (StationOp.insert wi).write E r = none)
      (hnew : ∀ r ∈ t.rows, r.cols.csSerN ≠ wi.serialn)
      (h : t'.rows = t.rows ++ [⟨t.nextRowid, setParams wi flags⟩])

/-- The same with what it returns and the flags of a new row. -/
inductive ClaimStep (E : Env) (t : Table ChStation.key) (wi : PCSItem) (rv : Int)
    (t' : Table ChStation.key) : Prop where
  | refused (hrv : rv = 0) (h : t' = t)
  | claimed (hrv : 0 < rv)
      (hfree : ∃ r ∈ t.rows, ((StationOp.insert wi).write E r).isSome)
      (h : t'.rows = t.rows.map (Table.rewriteRow ((StationOp.insert wi).write E)))
  | inserted (hrv : rv = t.nextRowid)
      (hnone : ∀ r ∈ t.rows, (StationOp.insert wi).write E r = none)
      (hnew : ∀ r ∈ t.rows, r.cols.csSerN ≠ wi.serialn)
      (h : t'.rows = t.rows ++
        [⟨t.nextRowid, setParams wi (claimFlags (readFlags t wi.serialn) wi.certflag)⟩])

theorem insertCSI_cases (wi : PCSItem) (flags : Int) (s : Session Server) :
    ((insertCSI E wi flags s).1 = none ∧
      (insertCSI E wi flags s).2.state.chStations = s.state.chStations) ∨
    ((insertCSI E wi flags s).1 = some s.state.chStations.nextRowid ∧
      (∀ r ∈ s.state.chStations.rows, r.cols.csSerN ≠ wi.serialn) ∧
      (insertCSI E wi flags s).2.state.chStations.rows = s.state.chStations.rows ++
        [⟨s.state.chStations.nextRowid, setParams wi flags⟩]) := by
  unfold insertCSI
  rcases CH_STATIONS.insert_cases E insertCSISql (·.insert (setParams wi flags)) s with
    hx | ⟨t, n, hins, _, hx⟩
  · rw [hx]
    exact Or.inl ⟨rfl, rfl⟩
  · have hquote : insertCSISql.QuoteFree := by decide
    rw [if_pos hquote] at hins
    have hins' : s.state.chStations.insert (setParams wi flags) = some (t, n) := hins
    rw [hx]
    obtain ⟨hn, hrows⟩ := Table.insert_spec hins'
    refine Or.inr ⟨congrArg some hn, fun r hr heq => ?_, hrows⟩
    have hdiffer := Table.insert_keysDiffer hins' hr
    rcases hdiffer with hnone | hne
    · cases hnone
    · exact hne (congrArg some heq)

/-- On the rows of the table the UPDATE of a claim is what the claim writes. -/
theorem claimSql_write {t : Table ChStation.key} {r : Row ChStation} (hr : r ∈ t.rows)
    (wi : PCSItem) :
    (if r.cols.clientID = 0 ∧ r.cols.csSerN = cstr wi.serialn then
      some { r.cols with
        clientID := wi.clientid
        certFlag := claimFlags (readFlags t wi.serialn) wi.certflag }
    else none) = (StationOp.insert wi).write E r := by
  by_cases hrow : r.cols.clientID = 0 ∧ r.cols.csSerN = cstr wi.serialn
  · rw [if_pos hrow, readFlags_of_mem hr hrow.2]
    simp only [StationOp.write, hrow, and_self, if_true]
  · rw [if_neg hrow]
    simp only [StationOp.write, hrow, if_false]

theorem claim_cases (s : Server) (wi : PCSItem) (h : (StationOp.insert wi).Literal) :
    ClaimStep E s.chStations wi (insertNewChargeStationItem E wi s.start).1
      (s.after (insertNewChargeStationItem E wi)).chStations := by
  unfold Server.after insertNewChargeStationItem
  rw [createConnection_bind]
  by_cases hopen : E.raises s.start.asked = none
  · rw [if_pos hopen, Action.bind_apply, TableAt.read_snd]
    rcases CH_STATIONS.read_all_cases (E := E)
      (fun t => (t.select (·.cols.csSerN = cstr wi.serialn)).map
        fun r => wrap32 r.cols.certFlag) (cellInt · 0) s.start.tick
      (certFlagSql_quoteFree.mpr h) with hall | hall
    · rw [hall]
      exact .refused rfl rfl
    · rw [hall]
      dsimp only
      have hflags : (((CH_STATIONS.get s.start.tick.state).select
          (·.cols.csSerN = cstr wi.serialn)).map
            fun r => wrap32 r.cols.certFlag).getLast?.getD 0 =
          readFlags s.chStations wi.serialn := rfl
      rw [hflags, Action.bind_apply]
      rcases CH_STATIONS.update_cases E (claimSql wi.clientid
          (claimFlags (readFlags s.chStations wi.serialn) wi.certflag) wi.serialn)
          (fun r => if r.cols.clientID = 0 ∧ r.cols.csSerN = cstr wi.serialn then
            some { r.cols with
              clientID := wi.clientid
              certFlag := claimFlags (readFlags s.chStations wi.serialn) wi.certflag }
          else none) s.start.tick.tick with hx | ⟨g, t, n, hg, hrw, _, hx⟩
      · rw [hx]
        exact .refused rfl rfl
      · rw [TableAt.rewriting_quoteFree _ (claimSql_quoteFree.mpr h)] at hg
        cases hg
        rw [hx]
        have hclaim : s.chStations.rewrite ((StationOp.insert wi).write E) = some (t, n) :=
          (Table.rewrite_congr fun r hr => claimSql_write hr wi).symm.trans hrw
        by_cases hn : n = 0
        · rw [hn] at hclaim
          obtain ⟨hnone, hsame⟩ := Table.rewrite_zero hclaim
          rw [hn, hsame]
          dsimp only
          rcases insertCSI_cases (E := E) wi
            (claimFlags (readFlags s.chStations wi.serialn) wi.certflag)
            ⟨CH_STATIONS.set s.start.tick.tick.state s.chStations, s.start.tick.tick.asked + 1⟩
            with ⟨hrv, hkept⟩ | ⟨hrv, hnew, hins⟩
          · refine .refused ?_ hkept
            exact congrArg (·.getD 0) hrv
          · refine .inserted ?_ hnone hnew hins
            exact congrArg (·.getD 0) hrv
        · have hcount := Table.rewrite_count hclaim
          have hpos : 0 < n := by omega
          have hclaims := Table.exists_of_rewrite_pos hclaim hpos
          have hrows := Table.rewrite_rows hclaim
          cases n with
          | ofNat k =>
            cases k with
            | zero => exact absurd rfl hn
            | succ k => exact .claimed (Int.natCast_pos.mpr k.succ_pos) hclaims hrows
          | negSucc k => exact absurd hpos (by omega)
  · rw [if_neg hopen]
    exact .refused rfl rfl

theorem insert_cases (s : Server) (wi : PCSItem) (h : (StationOp.insert wi).Literal) :
    InsertStep E s.chStations wi (insertNewChargeStationItem E wi s.start).1
      (s.after (insertNewChargeStationItem E wi)).chStations := by
  cases claim_cases (E := E) s wi h with
  | refused hrv hsame => exact .refused hrv hsame
  | claimed _ hfree hrows => exact .claimed hfree hrows
  | inserted _ hnone hnew hrows => exact .inserted _ hnone hnew hrows

end Claiming

section Polling

variable {E : Env}

/-- The rows of a client whose flag is up. -/
def Server.flagged (s : Server) (cid : Int) : List (Row ChStation) :=
  s.chStations.select fun r => r.cols.updMob = some 1 ∧ r.cols.clientID = cid

theorem Server.mem_flagged {s : Server} {cid : Int} {r : Row ChStation} :
    r ∈ s.flagged cid ↔
      r ∈ s.chStations.rows ∧ r.cols.updMob = some 1 ∧ r.cols.clientID = cid := by
  simp [Server.flagged, Table.select]

/-- The copies a poll delivers. -/
def Server.delivered (s : Server) (E : Env) (cid : Int) : List PCSItem :=
  (getAllChargeStationsUpdMob E cid s.start).1.2

/-- `ridit` overrides no id. -/
def Env.KeepsIds (E : Env) : Prop := ∀ n, E.ridit n = 0 ∨ E.ridit n = -1

theorem readAll_ids (hids : E.KeepsIds) (rows : List (Row ChStation)) (s : Session Server) :
    (readAll E rows s).1.map Prod.snd = rows.map fun r => wrap32 r.rowid := by
  induction rows generalizing s with
  | nil => rfl
  | cons r rs ih =>
    have hid : (readChS1 E r s).1.2 = wrap32 r.rowid := by
      show (if (if E.ridit s.asked = -1 then 0 else E.ridit s.asked) = 0 then wrap32 r.rowid
        else if E.ridit s.asked = -1 then 0 else E.ridit s.asked) = wrap32 r.rowid
      rcases hids s.asked with hzero | hminus
      · simp [hzero]
      · simp [hminus]
    have hrest : (readAll E (r :: rs) s).1.map Prod.snd =
        (readChS1 E r s).1.2 :: (readAll E rs s.tick).1.map Prod.snd := rfl
    rw [hrest, hid, ih, List.map_cons]

/-- Everything a poll can come to: what it delivers and the table it leaves. -/
inductive PollStep (E : Env) (s : Server) (cid : Int) (list : List PCSItem)
    (t : Table ChStation.key) : Prop where
  | closed (hopen : E.raises 0 ≠ none) (hlist : list = []) (h : t = s.chStations)
  | cut (k : Nat) (hopen : E.raises 0 = none) (hread : E.raises 1 = some k)
      (hlist : list = ((s.flagged cid).take k).map readChS) (h : t = s.chStations)
  | kept (hopen : E.raises 0 = none) (hread : E.raises 1 = none)
      (hlist : list = (s.flagged cid).map readChS)
      (hraised : s.flagged cid = [] ∨ E.raises ((s.flagged cid).length + 2) ≠ none)
      (h : t = s.chStations)
  | cleared (ids : List Int) (hopen : E.raises 0 = none) (hread : E.raises 1 = none)
      (hlist : list = (s.flagged cid).map readChS)
      (hids : E.KeepsIds → ids = (s.flagged cid).map fun r => wrap32 r.rowid)
      (h : t.rows = s.chStations.rows.map (Table.rewriteRow (clearRow ids cid)))

theorem clearRow_keeps_key (ids : List Int) (cid : Int) (r : Row ChStation) (a : ChStation)
    (h : clearRow ids cid r = some a) : ChStation.key a = ChStation.key r.cols := by
  unfold clearRow at h
  split at h
  · cases h
    rfl
  · cases h

theorem poll_cases (E : Env) (s : Server) (cid : Int) :
    PollStep E s cid (s.delivered E cid)
      (s.after (getAllChargeStationsUpdMob E cid)).chStations := by
  unfold Server.delivered Server.after getAllChargeStationsUpdMob
  rw [createConnection_bind]
  by_cases hopen : E.raises s.start.asked = none
  · rw [if_pos hopen, Action.bind_apply, query_snd]
    cases hread : E.raises 1 with
    | some k =>
      have hfetched : (query E.raises (fun s : Server => some (s.chStations.select fun r =>
          r.cols.updMob = some 1 ∧ r.cols.clientID = cid)) s.start.tick).1 =
          ⟨(s.flagged cid).take k, true⟩ := by
        have hraises : E.raises s.start.tick.asked = some k := hread
        simp only [query, hraises]
        rfl
      rw [hfetched, Action.bind_apply]
      obtain ⟨hitems, hsession⟩ := readAll_apply (E := E) ((s.flagged cid).take k)
        s.start.tick.tick
      dsimp only
      rw [if_pos (Or.inl rfl), hsession]
      exact .cut k hopen hread hitems rfl
    | none =>
      have hfetched : (query E.raises (fun s : Server => some (s.chStations.select fun r =>
          r.cols.updMob = some 1 ∧ r.cols.clientID = cid)) s.start.tick).1 =
          ⟨s.flagged cid, false⟩ :=
        query_of_calm s.start.tick hread rfl
      rw [hfetched, Action.bind_apply]
      obtain ⟨hitems, hsession⟩ := readAll_apply (E := E) (s.flagged cid) s.start.tick.tick
      have hids (h : E.KeepsIds) := readAll_ids h (s.flagged cid) s.start.tick.tick
      generalize readAll E (s.flagged cid) s.start.tick.tick = done at hitems hsession hids
      obtain ⟨items, s'⟩ := done
      dsimp only at hitems hsession hids ⊢
      have hlen : items.length = (s.flagged cid).length := by
        have := congrArg List.length hitems
        simpa using this
      have hasked : s'.asked = (s.flagged cid).length + 2 := by
        rw [hsession]
        exact Nat.add_comm _ _
      by_cases hempty : items.map Prod.snd = []
      · rw [if_pos (Or.inr hempty), hsession]
        refine .kept hopen hread hitems (Or.inl ?_) rfl
        have hnil := List.map_eq_nil_iff.mp hempty
        rw [hnil] at hlen
        exact List.length_eq_zero_iff.mp hlen.symm
      · rw [if_neg fun h => h.elim Bool.false_ne_true hempty, Action.bind_apply,
          Action.pure_apply]
        by_cases hcleared : E.raises s'.asked = none
        · obtain ⟨t, hrows, hdone⟩ := CH_STATIONS.update_literal (E := E)
            (clearRow (items.map Prod.snd) cid) s'
            (clearUpdMobSql_quoteFree (items.map Prod.snd)) hcleared
            (clearRow_keeps_key (items.map Prod.snd) cid)
          have hupdate : CH_STATIONS.update E (clearUpdMobSql (items.map Prod.snd) cid)
              (fun r => if r.rowid ∈ items.map Prod.snd ∧ r.cols.clientID = cid then
                some { r.cols with updMob := some 0 } else none) s' = _ := hdone
          rw [hupdate]
          rw [hsession] at hrows
          exact .cleared _ hopen hread hitems hids hrows
        · have hraised : CH_STATIONS.update E (clearUpdMobSql (items.map Prod.snd) cid)
              (fun r => if r.rowid ∈ items.map Prod.snd ∧ r.cols.clientID = cid then
                some { r.cols with updMob := some 0 } else none) s' = (none, s'.tick) :=
            CH_STATIONS.update_raised hcleared
          rw [hraised, hsession]
          exact .kept hopen hread hitems (Or.inr (hasked ▸ hcleared)) rfl
  · rw [if_neg hopen]
    exact .closed hopen rfl rfl

end Polling

section Stepping

variable {E : Env} {op : StationOp}

theorem StationStep.of_or {t t' : Table ChStation.key}
    (h : t' = t ∨ t'.rows = t.rows.map (Table.rewriteRow (op.write E))) :
    StationStep E op t t' :=
  h.elim .same .rewritten

variable (op) in
theorem StationOp.step_cases (s : Server) (hop : ∀ cid, op ≠ .poll cid) (h : op.Literal) :
    StationStep E op s.chStations (StationOp.step s (E, op)).chStations := by
  cases op with
  | heartbeat req rtt => exact .of_or ((heartbeat_touches h).after_eq s)
  | boot req rtt => exact .of_or ((boot_touches h).after_eq s)
  | statusNotification req rtt => exact .of_or ((statusNotification_touches h).after_eq s)
  | firmwareStatus req rtt => exact .of_or ((firmwareStatus_touches h).after_eq s)
  | updateStarted serN => exact .of_or (updateStarted_after h s)
  | connectionStatus ipAddr status => exact .of_or ((connectionStatus_touches h).after_eq s)
  | saveProfile cid profileId profName sern json =>
    exact .of_or ((saveProfile_touches h).after_eq s)
  | removeProfile sern => exact .of_or ((removeProfile_touches h).after_eq s)
  | timeZone sern tz dls => exact .of_or ((timeZone_touches h).after_eq s)
  | insert wi =>
    cases insert_cases (E := E) s wi h with
    | refused _ hsame => exact .same hsame
    | claimed _ hrows => exact .rewritten hrows
    | inserted flags hnone _ hrows => exact .inserted wi flags rfl hnone hrows
  | delete sern cid => exact .of_or ((delete_touches h).after_eq s)
  | sweep cid => exact .of_or (sweep_after cid s)
  | poll cid => exact absurd rfl (hop cid)

/-- An UPDATE turns the flag of a row it selects up or leaves it. -/
theorem StationOp.write_flag {r : Row ChStation} {a : ChStation} (h : op.write E r = some a) :
    a.updMob = some 1 ∨ a.updMob = r.cols.updMob := by
  cases op with
  | poll cid => cases h
  | boot req rtt =>
    simp only [StationOp.write, bootRow] at h
    split at h
    · cases h
      exact Or.inr rfl
    · cases h
  | _ =>
    simp only [StationOp.write] at h
    split at h
    · cases h
      first | exact Or.inl rfl | exact Or.inr rfl
    · cases h

end Stepping

/-- A station as a client enters it. -/
def newStation : PCSItem where
  id := 0
  type := 0
  caller := []
  param1 := []
  reference := []
  serialn := "GRS-0123456789"
  address := []
  instrs := []
  certflag := 0
  createdts := 0
  lastupdtdts := 0
  status := 0
  servicegroup := 0
  clientid := 1
  lat := 0
  lon := 0
  profid := 0
  objb := []
  ipaddr := "[::1]:5000"
  fwver := []
  tz := 0
  dls := 0

end UCLinux.Ocpp
