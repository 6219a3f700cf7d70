import UCLinux.Machine.TwoRun
import UCLinux.Ocpp.ReadRequests
import UCLinux.Ocpp.Stations

/-!
What a client sees of the database. `Server.view` is what belongs to a client:
its stations, the history, transaction and meter rows under their serial
numbers and the profiles assigned to them. Two runs of a reading request over
states with one view are compared; they reply the same when the query asks for
rows of the view, which the queries that take a serial number do only when it
is that of a station of the client and spliced without a quote.
-/

namespace UCLinux.Ocpp

open Sql Machine Server CentralOcppDB HistoryDB

structure ClientView where
  stations : List (Row ChStation)
  profiles : List (Row CSProfile)
  history : List (Row CSHist)
  starts : List (Row StartTr)
  stops : List (Row StopTr)
  meters : List (Row MeterV)
  deriving DecidableEq

/-- A station of the client has the serial number. -/
def Server.owns (s : Server) (cid : Int) (sern : Text) : Bool :=
  s.chStations.rows.any fun r => r.cols.clientID = cid ∧ r.cols.csSerN = sern

/-- A history row of a station of the client has the rowid. -/
def Server.ownsHist (s : Server) (cid hRowId : Int) : Bool :=
  s.csHist.rows.any fun r => r.rowid = hRowId ∧ s.owns cid r.cols.csSerN

def Server.view (s : Server) (cid : Int) : ClientView where
  stations := s.chStations.select (·.cols.clientID = cid)
  profiles := assignedProfiles cid s
  history := s.csHist.select fun r => s.owns cid r.cols.csSerN
  starts := s.startTr.select fun r => s.ownsHist cid r.cols.hRowId
  stops := s.stopTr.select fun r => s.ownsHist cid r.cols.hRowId
  meters := s.meterV.select fun r => s.owns cid r.cols.csSerN

/-- The client sees the same of both states. -/
def SameView (cid : Int) (s t : Server) : Prop := t.view cid = s.view cid

section Views

variable {s t : Server} {cid : Int} {sern : Text}

theorem owns_iff : s.owns cid sern ↔
    ∃ r ∈ s.chStations.rows, r.cols.clientID = cid ∧ r.cols.csSerN = sern := by
  simp [Server.owns]

section Congruence

variable (hstations : t.chStations.select (·.cols.clientID = cid) =
  s.chStations.select (·.cols.clientID = cid))

include hstations

/-- What a station of the client has, one has in both states. -/
theorem exists_owned_congr (P : Row ChStation → Prop) :
    (∃ r ∈ t.chStations.rows, r.cols.clientID = cid ∧ P r) ↔
      ∃ r ∈ s.chStations.rows, r.cols.clientID = cid ∧ P r := by
  have hselected (u : Server) : (∃ r ∈ u.chStations.rows, r.cols.clientID = cid ∧ P r) ↔
      ∃ r ∈ u.chStations.select (·.cols.clientID = cid), P r := by
    simp [Table.select, and_assoc]
  rw [hselected, hselected, hstations]

theorem owns_congr (sern : Text) : t.owns cid sern = s.owns cid sern := by
  rw [Bool.eq_iff_iff, owns_iff, owns_iff, exists_owned_congr hstations]

theorem anyAssigned_congr (q : Row CSProfile) : (t.chStations.rows.any fun st =>
    st.cols.clientID = cid ∧ st.cols.profID = q.rowid) = s.chStations.rows.any fun st =>
      st.cols.clientID = cid ∧ st.cols.profID = q.rowid := by
  have hexists := exists_owned_congr hstations fun r => r.cols.profID = q.rowid
  rw [Bool.eq_iff_iff]
  simpa using hexists

theorem ownsHist_congr (hhistory : (t.csHist.select fun r => s.owns cid r.cols.csSerN) =
    s.csHist.select fun r => s.owns cid r.cols.csSerN) (id : Int) :
    t.ownsHist cid id = s.ownsHist cid id := by
  have hselected (u : Server) (hu : ∀ sern, u.owns cid sern = s.owns cid sern) :
      u.ownsHist cid id ↔
        ∃ r ∈ u.csHist.select fun r => s.owns cid r.cols.csSerN, r.rowid = id := by
    simp only [Server.ownsHist, Table.select, hu, List.any_eq_true, decide_eq_true_eq,
      List.mem_filter, and_assoc]
    exact exists_congr fun r => and_congr_right fun _ => and_comm
  rw [Bool.eq_iff_iff, hselected t (owns_congr hstations), hselected s fun _ => rfl, hhistory]

/-- The view of a state whose client has the stations and the history it has in
`s`. -/
theorem view_congr (hhistory : (t.csHist.select fun r => s.owns cid r.cols.csSerN) =
    s.csHist.select fun r => s.owns cid r.cols.csSerN) :
    t.view cid = ⟨s.chStations.select (·.cols.clientID = cid),
      t.csProf.select fun r => s.chStations.rows.any fun st =>
        st.cols.clientID = cid ∧ st.cols.profID = r.rowid,
      s.csHist.select fun r => s.owns cid r.cols.csSerN,
      t.startTr.select fun r => s.ownsHist cid r.cols.hRowId,
      t.stopTr.select fun r => s.ownsHist cid r.cols.hRowId,
      t.meterV.select fun r => s.owns cid r.cols.csSerN⟩ := by
  simp only [Server.view, assignedProfiles, owns_congr hstations,
    ownsHist_congr hstations hhistory, anyAssigned_congr hstations]
  rw [hstations, hhistory]

end Congruence

theorem SameView.owns (h : SameView cid s t) (sern : Text) :
    t.owns cid sern = s.owns cid sern :=
  owns_congr (congrArg ClientView.stations h) sern

/-- What is selected under a serial number of the client is the same in both
states. -/
theorem SameView.history (h : SameView cid s t) (howns : s.owns cid sern)
    {q : Row CSHist → Bool} (hq : ∀ r, q r → r.cols.csSerN = sern) :
    t.csHist.select q = s.csHist.select q := by
  have hview : (t.csHist.select fun r => t.owns cid r.cols.csSerN) =
      s.csHist.select fun r => s.owns cid r.cols.csSerN := congrArg ClientView.history h
  have howned (u : Server) (hu : u.owns cid sern) (r : Row CSHist) (hr : q r) :
      u.owns cid r.cols.csSerN := by rwa [hq r hr]
  rw [Table.select_select t.csHist (howned t (by rwa [h.owns])), hview,
    Table.select_select s.csHist (howned s howns)]

theorem SameView.meters (h : SameView cid s t) (howns : s.owns cid sern)
    {q : Row MeterV → Bool} (hq : ∀ r, q r → r.cols.csSerN = sern) :
    t.meterV.select q = s.meterV.select q := by
  have hview : (t.meterV.select fun r => t.owns cid r.cols.csSerN) =
      s.meterV.select fun r => s.owns cid r.cols.csSerN := congrArg ClientView.meters h
  have howned (u : Server) (hu : u.owns cid sern) (r : Row MeterV) (hr : q r) :
      u.owns cid r.cols.csSerN := by rwa [hq r hr]
  rw [Table.select_select t.meterV (howned t (by rwa [h.owns])), hview,
    Table.select_select s.meterV (howned s howns)]

/-- The profile of a station of the client is among those it sees. -/
theorem select_assigned {r : Row ChStation} (hr : r ∈ s.chStations.rows)
    (hcid : r.cols.clientID = cid) (hser : r.cols.csSerN = sern) :
    (s.csProf.select fun p => (s.chStations.select (·.cols.csSerN = sern)).head?.any
      (·.cols.profID = p.rowid)) =
    (assignedProfiles cid s).filter fun p => r.cols.profID = p.rowid := by
  rw [ChStation.select_serial hr hser]
  apply Table.select_select
  intro p hp
  have hid : r.cols.profID = p.rowid := of_decide_eq_true hp
  exact List.any_eq_true.mpr ⟨r, hr, by simp [hcid, hid]⟩

/-- The profile assigned to a station of the client is the same in both
states. -/
theorem SameView.assigned (h : SameView cid s t) (howns : s.owns cid sern) :
    (t.csProf.select fun r => (t.chStations.select (·.cols.csSerN = sern)).head?.any
      (·.cols.profID = r.rowid)) =
    s.csProf.select fun r => (s.chStations.select (·.cols.csSerN = sern)).head?.any
      (·.cols.profID = r.rowid) := by
  have hprofiles : assignedProfiles cid t = assignedProfiles cid s :=
    congrArg ClientView.profiles h
  have hstations : t.chStations.select (·.cols.clientID = cid) =
      s.chStations.select (·.cols.clientID = cid) := congrArg ClientView.stations h
  obtain ⟨r, hr, hcid, hser⟩ := owns_iff.mp howns
  have hr' : r ∈ t.chStations.select (·.cols.clientID = cid) := by
    rw [hstations]
    exact List.mem_filter.mpr ⟨hr, decide_eq_true hcid⟩
  rw [select_assigned hr hcid hser, select_assigned (List.mem_filter.mp hr').1 hcid hser,
    hprofiles]

end Views

section Alike

variable {cid : Int} {E : Env}

/-- A query for what both states have alike. -/
theorem query_alike {R : Server → Server → Prop} {β : Type}
    {result : Server → Option (List β)} (h : ∀ s t, R s t → result t = result s) :
    Action.Alike R Eq (query E.raises result) (query E.raises result) := by
  intro k k' hR hasked
  rw [query_snd, query_snd]
  refine ⟨?_, hR, congrArg (· + 1) hasked⟩
  unfold query
  rw [h _ _ hR, hasked]
  cases E.raises k'.asked <;> cases result k.state <;> rfl

theorem createConnection_alike {R : Server → Server → Prop} :
    Action.Alike R Eq (createConnection E) (createConnection E) :=
  .ask _

theorem readAll_alike {R : Server → Server → Prop} (rows : List (Row ChStation)) :
    Action.Alike R Eq (readAll E rows) (readAll E rows) := by
  induction rows with
  | nil => exact .pure rfl
  | cons r rs ih =>
    apply Action.Alike.bind_same
    · exact .bind_same (.ask _) fun _ => .pure rfl
    · exact fun _ => .bind_same ih fun _ => .pure rfl

/-- An UPDATE of columns that do not say what belongs to whom leaves of a view
what it leaves of its stations. -/
theorem view_rewritten {g : Row ChStation → Option ChStation} {tab : Table ChStation.key}
    (hg : ∀ r a, g r = some a → a.csSerN = r.cols.csSerN ∧ a.clientID = r.cols.clientID ∧
      a.profID = r.cols.profID) (s : Server)
    (hrows : tab.rows = s.chStations.rows.map (Table.rewriteRow g)) :
    (CH_STATIONS.set s tab).view cid =
      { s.view cid with stations := (s.view cid).stations.map (Table.rewriteRow g) } := by
  have hkept (r : Row ChStation) : (Table.rewriteRow g r).cols.csSerN = r.cols.csSerN ∧
      (Table.rewriteRow g r).cols.clientID = r.cols.clientID ∧
      (Table.rewriteRow g r).cols.profID = r.cols.profID := by
    cases hrow : g r with
    | none =>
      rw [Table.rewriteRow_none hrow]
      exact ⟨rfl, rfl, rfl⟩
    | some a =>
      rw [Table.rewriteRow_some hrow]
      exact hg r a hrow
  have howns (sern : Text) : (CH_STATIONS.set s tab).owns cid sern = s.owns cid sern := by
    show tab.rows.any _ = _
    rw [hrows, List.any_map]
    unfold Server.owns
    congr 1
    funext r
    simp [hkept r]
  have hhist (id : Int) : (CH_STATIONS.set s tab).ownsHist cid id = s.ownsHist cid id := by
    show s.csHist.rows.any (fun r => r.rowid = id ∧ (CH_STATIONS.set s tab).owns cid _) = _
    simp only [howns]
    rfl
  have hstations : tab.select (·.cols.clientID = cid) =
      (s.chStations.select (·.cols.clientID = cid)).map (Table.rewriteRow g) := by
    unfold Table.select
    rw [hrows, List.filter_map]
    congr 1
    apply List.filter_congr
    intro r _
    simp [hkept r]
  have hprofiles : assignedProfiles cid (CH_STATIONS.set s tab) = assignedProfiles cid s := by
    show s.csProf.select (fun p => tab.rows.any _) = _
    rw [hrows]
    unfold assignedProfiles
    congr 1
    funext p
    rw [List.any_map]
    congr 1
    funext r
    simp [hkept r]
  show ClientView.mk (tab.select _) (assignedProfiles cid (CH_STATIONS.set s tab))
    (s.csHist.select _) (s.startTr.select _) (s.stopTr.select _) (s.meterV.select _) = _
  simp only [hstations, hprofiles, howns, hhist]
  rfl

/-- Such an UPDATE in both runs: each counts rows of its own. -/
theorem update_alike {st : Stmt} {g : Row ChStation → Option ChStation} (hst : st.QuoteFree)
    (hg : ∀ r a, g r = some a → a.csSerN = r.cols.csSerN ∧ a.clientID = r.cols.clientID ∧
      a.profID = r.cols.profID) :
    Action.Alike (SameView cid) (fun m n => m.isSome = n.isSome) (CH_STATIONS.update E st g)
      (CH_STATIONS.update E st g) := by
  intro k k' hR hasked
  have hkey : ∀ r a, g r = some a → ChStation.key a = ChStation.key r.cols :=
    fun r a ha => congrArg some (hg r a ha).1
  by_cases hr : E.raises k.asked = none
  · obtain ⟨t, hrows, hk⟩ := CH_STATIONS.update_literal (E := E) g k hst hr hkey
    obtain ⟨t', hrows', hk'⟩ := CH_STATIONS.update_literal (E := E) g k' hst
      (hasked ▸ hr) hkey
    rw [hk, hk']
    refine ⟨rfl, ?_, congrArg (· + 1) hasked⟩
    show (CH_STATIONS.set k'.state t').view cid = (CH_STATIONS.set k.state t).view cid
    rw [view_rewritten hg k'.state hrows', view_rewritten hg k.state hrows, hR]
  · rw [CH_STATIONS.update_raised (E := E) hr,
      CH_STATIONS.update_raised (E := E) (s := k') (hasked ▸ hr)]
    exact ⟨rfl, hR, congrArg (· + 1) hasked⟩

/-- The stations read for a client, whatever the sweep counts. -/
theorem getAllChargeStations_alike (hcid : 0 < cid) :
    Action.Alike (SameView cid) (fun a b => a.2 = b.2) (getAllChargeStations E cid true)
      (getAllChargeStations E cid true) := by
  unfold getAllChargeStations
  apply Action.Alike.bind_same createConnection_alike
  intro opened
  apply Action.Alike.ite
  · intro _
    dsimp only
    rw [if_pos rfl]
    apply Action.Alike.bind_same (.ask _)
    intro now
    apply Action.Alike.bind (P := fun m n : Option Int => m.isSome = n.isSome)
    · apply update_alike staleSql_quoteFree
      intro r a ha
      split at ha
      · cases ha
        exact ⟨rfl, rfl, rfl⟩
      · cases ha
    · intro m n hmn
      cases m with
      | none =>
        cases n with
        | none => exact .pure rfl
        | some n => cases hmn
      | some m =>
        cases n with
        | none => cases hmn
        | some n =>
          apply Action.Alike.bind_same
          · apply query_alike
            intro s t h
            have hstations : t.chStations.select (·.cols.clientID = cid) =
                s.chStations.select (·.cols.clientID = cid) := congrArg ClientView.stations h
            have hpositive : ¬cid ≤ 0 := by omega
            simpa [hpositive] using hstations
          · exact fun found => .bind_same (readAll_alike found.rows) fun _ => .pure rfl
  · exact fun _ => .pure rfl

/-- A literal SELECT of what both states have alike. -/
theorem read_alike {R : Server → Server → Prop} {α κ β : Type} {key : α → Option κ}
    {T : TableAt Server Env key} {st : Stmt} {rows : Table key → List β}
    {decode : List Cell → β} (hraises : T.raises E = E.raises) (hst : st.QuoteFree)
    (h : ∀ s t, R s t → rows (T.get t) = rows (T.get s)) :
    Action.Alike R Eq (T.read E st rows decode) (T.read E st rows decode) := by
  unfold TableAt.read
  rw [hraises]
  apply query_alike
  intro s t hR
  rw [if_pos hst, if_pos hst, h s t hR]

end Alike

section Owned

variable {cid : Int} {E : Env} {sern : Text}

/-- The client sees the same of both states, and has a station with the serial
number. -/
def SameOwned (cid : Int) (sern : Text) (s t : Server) : Prop :=
  SameView cid s t ∧ s.owns cid (cstr sern)

theorem history_alike (hquote : '\'' ∉ cstr sern) :
    Action.Alike (SameOwned cid sern) Eq (getAllChargeStationsHistory E cid sern)
      (getAllChargeStationsHistory E cid sern) := by
  unfold getAllChargeStationsHistory
  apply Action.Alike.bind_same createConnection_alike
  intro opened
  apply Action.Alike.ite
  · intro _
    apply Action.Alike.bind_same
    · apply read_alike rfl
      · simpa [allHistorySql, -String.reduceToList] using hquote
      · intro s t ⟨hview, howns⟩
        unfold historyRows
        rw [show CSHistTbl.get t = t.csHist from rfl, hview.history howns]
        · rfl
        · intro r hr
          exact (of_decide_eq_true hr).1
    · exact fun _ => .pure rfl
  · exact fun _ => .pure rfl

theorem transactionIds_alike {action : Text} (hquote : '\'' ∉ cstr sern) :
    Action.Alike (SameOwned cid sern) Eq (readTransactionIds E action sern)
      (readTransactionIds E action sern) := by
  apply Action.Alike.bind_same
  · apply read_alike rfl
    · simpa [transactionIdsSql, -String.reduceToList] using hquote
    · intro s t ⟨hview, howns⟩
      rw [show CSHistTbl.get t = t.csHist from rfl, hview.history howns]
      · rfl
      · intro r hr
        exact (of_decide_eq_true hr).2
  · exact fun _ => .pure rfl

theorem meterValues_alike (hquote : '\'' ∉ cstr sern) (trIds : List Int) :
    Action.Alike (SameOwned cid sern) Eq (readAllMeterValues E sern trIds)
      (readAllMeterValues E sern trIds) := by
  induction trIds with
  | nil => exact .pure rfl
  | cons trId trIds ih =>
    apply Action.Alike.bind_same
    · apply read_alike rfl
      · simpa [meterValuesSql, -String.reduceToList] using hquote
      · intro s t ⟨hview, howns⟩
        rw [show MeterVTbl.get t = t.meterV from rfl, hview.meters howns]
        · rfl
        · intro r hr
          exact (of_decide_eq_true hr).2
    · intro found
      apply Action.Alike.ite
      · exact fun _ => .pure rfl
      · exact fun _ => .bind_same ih fun _ => .pure rfl

theorem statistics_alike (hquote : '\'' ∉ cstr sern) :
    Action.Alike (SameOwned cid sern) Eq (getAllChargeStationsStatistics E cid sern)
      (getAllChargeStationsStatistics E cid sern) := by
  unfold getAllChargeStationsStatistics
  apply Action.Alike.bind_same createConnection_alike
  intro opened
  apply Action.Alike.ite
  · intro _
    apply Action.Alike.bind_same (transactionIds_alike hquote)
    intro started
    cases started with
    | none => exact .pure rfl
    | some v0 =>
      apply Action.Alike.bind_same (transactionIds_alike hquote)
      intro stopped
      cases stopped with
      | none => exact .pure rfl
      | some v1 => exact meterValues_alike hquote _
  · exact fun _ => .pure rfl

theorem profile_alike (hquote : '\'' ∉ cstr sern) :
    Action.Alike (SameOwned cid sern) Eq (getCSProfileFromDBBySern E sern)
      (getCSProfileFromDBBySern E sern) := by
  unfold getCSProfileFromDBBySern getCSProfile
  apply Action.Alike.bind_same createConnection_alike
  intro opened
  apply Action.Alike.ite
  · intro _
    refine .bind_same (.ite (fun _ => .pure rfl) fun _ => ?_) fun _ => .pure rfl
    apply Action.Alike.bind_same
    · apply query_alike
      intro s t ⟨hview, howns⟩
      have hst : (getCSProfileSql sern).QuoteFree := getCSProfileSql_quoteFree.mpr hquote
      rw [if_pos hst, if_pos hst]
      dsimp only
      rw [hview.assigned howns]
    · exact fun _ => .pure rfl
  · exact fun _ => .pure rfl

/-- Without a serial number no profile is looked for. -/
theorem noProfile_alike {R : Server → Server → Prop} :
    Action.Alike R Eq (getCSProfileFromDBBySern E []) (getCSProfileFromDBBySern E []) := by
  unfold getCSProfileFromDBBySern
  apply Action.Alike.bind_same createConnection_alike
  intro opened
  exact .ite (fun _ => .bind_same (.pure rfl) fun _ => .pure rfl) fun _ => .pure rfl

theorem profiles_alike :
    Action.Alike (SameView cid) Eq (getCSProfilesFromDBByCID E cid)
      (getCSProfilesFromDBByCID E cid) := by
  unfold getCSProfilesFromDBByCID
  apply Action.Alike.bind_same createConnection_alike
  intro opened
  apply Action.Alike.ite
  · intro _
    apply Action.Alike.bind_same
    · apply query_alike
      intro s t hview
      have hprofiles : assignedProfiles cid t = assignedProfiles cid s :=
        congrArg ClientView.profiles hview
      rw [hprofiles]
    · exact fun _ => .pure rfl
  · exact fun _ => .pure rfl

end Owned

/-- Under this condition a request is answered from what belongs to its client.
A request that takes a serial number needs a station of the client for it and
no quote; the phone's list needs a station, and reads that do not fail. -/
def ReadRequest.Alone (quiet : Bool) (s : Server) (cid : Int) (user : Text) :
    ReadRequest → Prop
  | .history | .statistics => '\'' ∉ cstr user ∧ s.owns cid (cstr user)
  | .profile | .mobileProfile => user = [] ∨ '\'' ∉ cstr user ∧ s.owns cid (cstr user)
  | .mobileStationList => quiet ∧ ∃ r ∈ s.chStations.rows, r.cols.clientID = cid
  | .stationList | .statusPoll | .profileList => True

section Replies

variable {reparse : Text → Text} {E : Env} {s t : Server} {cid : Int} {user : Text}

/-- The replies of two runs of an action that is alike. -/
theorem reply_same {R : Server → Server → Prop} {act : Act Reply}
    (h : Action.Alike R Eq act act) (hst : R s.start.state t.start.state) :
    (act t.start).1 = (act s.start).1 :=
  (h s.start t.start hst rfl).1.symm

/-- Apart from the phone's list, two states with one view are answered
alike. -/
theorem alone_same (hcid : 0 < cid) (hview : SameView cid s t) {req : ReadRequest}
    {quiet : Bool} (halone : req.Alone quiet s cid user) (hreq : req ≠ .mobileStationList) :
    (req.exec reparse E cid user t.start).1 = (req.exec reparse E cid user s.start).1 := by
  have hview' : SameView cid s.start.state t.start.state := hview
  cases req with
  | stationList =>
    refine reply_same ((getAllChargeStations_alike hcid).bind fun a b hab => ?_) hview'
    exact .pure (congrArg Reply.stations hab)
  | statusPoll =>
    refine reply_same ((getAllChargeStations_alike hcid).bind fun a b hab => ?_) hview'
    exact .pure (by rw [hab])
  | history =>
    obtain ⟨hquote, howns⟩ := halone
    refine reply_same (R := SameOwned cid user) (.bind_same (history_alike hquote) fun v => ?_)
      ⟨hview', howns⟩
    exact .ite (fun _ => .pure rfl) fun _ => .pure rfl
  | statistics =>
    obtain ⟨hquote, howns⟩ := halone
    refine reply_same (R := SameOwned cid user)
      (.bind_same (statistics_alike hquote) fun v => ?_) ⟨hview', howns⟩
    exact .ite (fun _ => .pure rfl) fun _ => .pure rfl
  | profile =>
    rcases halone with rfl | ⟨hquote, howns⟩
    · exact reply_same (.bind_same noProfile_alike fun _ => .pure rfl) hview'
    · exact reply_same (R := SameOwned cid user)
        (.bind_same (profile_alike hquote) fun _ => .pure rfl) ⟨hview', howns⟩
  | profileList => exact reply_same (.bind_same profiles_alike fun _ => .pure rfl) hview'
  | mobileStationList => exact absurd rfl hreq
  | mobileProfile =>
    rcases halone with rfl | ⟨hquote, howns⟩
    · exact reply_same (.bind_same noProfile_alike fun _ => .pure rfl) hview'
    · exact reply_same (R := SameOwned cid user)
        (.bind_same (profile_alike hquote) fun _ => .pure rfl) ⟨hview', howns⟩

/-- What the sweep makes of a row. -/
def sweepRow (ts : Int) (r : Row ChStation) : Option ChStation :=
  if r.cols.lastUpdtdTS < ts ∧ 0 < r.cols.status then
    some { r.cols with status := 0, updMob := some 1 }
  else none

theorem sweepRow_clientID (ts : Int) (r : Row ChStation) :
    (Table.rewriteRow (sweepRow ts) r).cols.clientID = r.cols.clientID := by
  unfold Table.rewriteRow sweepRow
  split
  · next a ha =>
    split at ha
    · cases ha
      rfl
    · cases ha
  · rfl

/-- The rows of a client's stations that its third query fetches. -/
def foundStations (E : Env) (cid : Int) (s : Server) : List (Row ChStation) :=
  (query E.raises (fun s : Server => some (s.chStations.select (·.cols.clientID = cid)))
    ⟨s, 3⟩).1.rows

variable (s cid) in
/-- The stations read when opening the database and the sweep do not raise. -/
theorem getAllChargeStations_swept (hopen : E.raises 0 = none) (hsweep : E.raises 2 = none) :
    ∃ tab : Table ChStation.key,
    tab.rows = s.chStations.rows.map
      (Table.rewriteRow (sweepRow (E.clock 1 - 2 * 60 * 1000))) ∧
    ∀ found, (query E.raises (fun s : Server =>
        some (s.chStations.select fun r => cid ≤ 0 ∨ r.cols.clientID = cid))
        ⟨CH_STATIONS.set s.start.state tab, 3⟩).1.rows = found →
      (getAllChargeStations E cid true s.start).1 =
        (((s.chStations.rows.countP fun r =>
            (sweepRow (E.clock 1 - 2 * 60 * 1000) r).isSome : Nat) : Int) + found.length,
          found.map readChS) := by
  obtain ⟨tab, hrows, hupdate⟩ := CH_STATIONS.update_literal (E := E)
    (sweepRow (E.clock 1 - 2 * 60 * 1000)) s.start.tick.tick
    (@staleSql_quoteFree (E.clock 1 - 2 * 60 * 1000)) hsweep (by
      intro r a ha
      unfold sweepRow at ha
      split at ha
      · cases ha
        rfl
      · cases ha)
  have hswept : CH_STATIONS.update E (staleSql (E.clock s.start.tick.asked - 2 * 60 * 1000))
      (fun r => if r.cols.lastUpdtdTS < E.clock s.start.tick.asked - 2 * 60 * 1000 ∧
          0 < r.cols.status then some { r.cols with status := 0, updMob := some 1 } else none)
      s.start.tick.tick = _ := hupdate
  refine ⟨tab, hrows, ?_⟩
  rintro found rfl
  have hread (k : Session Server) := (readAll_apply (E := E) (query E.raises (fun s : Server =>
    some (s.chStations.select fun r => cid ≤ 0 ∨ r.cols.clientID = cid))
    ⟨CH_STATIONS.set s.start.state tab, 3⟩).1.rows k).1
  unfold getAllChargeStations
  rw [createConnection_bind, if_pos (show E.raises s.start.asked = none from hopen)]
  dsimp only
  rw [if_pos rfl, clockNow_bind, Action.bind_apply, hswept]
  dsimp only
  rw [Action.bind_apply, Action.bind_apply]
  apply Prod.ext
  · show _ + ((readAll E _ _).1.length : Int) = _
    rw [← List.length_map (f := Prod.fst), ← List.length_map (f := readChS)]
    congr 2
    exact congrArg List.length (hread _)
  · exact hread _

/-- The stations read for a client when opening the database and the sweep do
not raise. -/
theorem getAllChargeStations_apply (hcid : 0 < cid) (hopen : E.raises 0 = none)
    (hsweep : E.raises 2 = none) : ∃ tab : Table ChStation.key,
    tab.rows = s.chStations.rows.map
      (Table.rewriteRow (sweepRow (E.clock 1 - 2 * 60 * 1000))) ∧
    (getAllChargeStations E cid true s.start).1 =
      (((s.chStations.rows.countP fun r =>
          (sweepRow (E.clock 1 - 2 * 60 * 1000) r).isSome : Nat) : Int) +
          (foundStations E cid (CH_STATIONS.set s.start.state tab)).length,
        (foundStations E cid (CH_STATIONS.set s.start.state tab)).map readChS) := by
  have hpositive : ¬cid ≤ 0 := by omega
  obtain ⟨tab, hrows, hread⟩ := getAllChargeStations_swept s cid hopen hsweep
  refine ⟨tab, hrows, hread _ ?_⟩
  unfold foundStations
  simp only [hpositive, false_or]

/-- Of the sweep and the read a client with a station is told the read. -/
theorem mobileStationList_reply (hquiet : E.Quiet) (hcid : 0 < cid)
    (hstation : ∃ r ∈ s.chStations.rows, r.cols.clientID = cid) :
    (getChargeStationsFromDBMob E cid s.start).1 =
      .stations (getAllChargeStations E cid true s.start).1.2 := by
  obtain ⟨tab, hrows, hread⟩ := getAllChargeStations_apply (s := s) hcid (hquiet 0) (hquiet 2)
  obtain ⟨r, hr, hown⟩ := hstation
  have hfound : foundStations E cid (CH_STATIONS.set s.start.state tab) =
      tab.select (·.cols.clientID = cid) := by
    unfold foundStations
    rw [query_of_calm (s := ⟨CH_STATIONS.set s.start.state tab, 3⟩) (hquiet 3) rfl]
    rfl
  have hmem : Table.rewriteRow (sweepRow (E.clock 1 - 2 * 60 * 1000)) r ∈
      tab.select (·.cols.clientID = cid) := by
    apply List.mem_filter.mpr
    exact ⟨hrows ▸ List.mem_map_of_mem hr, decide_eq_true ((sweepRow_clientID _ r).trans hown)⟩
  have hpos : 0 < (getAllChargeStations E cid true s.start).1.1 := by
    rw [hread, hfound]
    have := List.length_pos_of_mem hmem
    omega
  unfold getChargeStationsFromDBMob
  rw [Action.bind_apply]
  exact if_pos hpos

theorem mobileStationList_same (hquiet : E.Quiet) (hcid : 0 < cid) (hview : SameView cid s t)
    (hstation : ∃ r ∈ s.chStations.rows, r.cols.clientID = cid) :
    (getChargeStationsFromDBMob E cid t.start).1 =
      (getChargeStationsFromDBMob E cid s.start).1 := by
  have hstations : t.chStations.select (·.cols.clientID = cid) =
      s.chStations.select (·.cols.clientID = cid) := congrArg ClientView.stations hview
  obtain ⟨r, hr, hown⟩ := hstation
  have hmem : r ∈ t.chStations.select (·.cols.clientID = cid) := by
    rw [hstations]
    exact List.mem_filter.mpr ⟨hr, decide_eq_true hown⟩
  rw [mobileStationList_reply hquiet hcid ⟨r, hr, hown⟩,
    mobileStationList_reply hquiet hcid ⟨r, (List.mem_filter.mp hmem).1, hown⟩]
  exact congrArg Reply.stations
    ((getAllChargeStations_alike hcid) s.start t.start hview rfl).1.symm

end Replies

end UCLinux.Ocpp
