import UCLinux.Ocpp.ClientViews

/-!
When a client can tell states with one view apart. Beside what belongs to the
client a state can hold a station of somebody else, with a profile and a
transaction of its own. A request that takes the serial number of such a
station, or that ends its literal early, is answered differently with it and
without it, and the phone's list tells whether its status was reset.
-/

namespace UCLinux.Ocpp

open Sql Machine Server CentralOcppDB HistoryDB

section Strangers

variable {s u v : Server} {cid : Int} {w : Text} {p ts : Int}

/-- Filtering what was filtered before, with rows that are filtered out. -/
theorem filter_append_others {α : Type} {P : α → Bool} {l others : List α}
    (h : ∀ r ∈ others, ¬P r) : (l.filter P ++ others).filter P = l.filter P := by
  rw [List.filter_append, List.filter_filter, List.filter_eq_nil_iff.mpr h]
  simp

/-- A state that holds what belongs to the client and rows that do not. -/
theorem sameView_of_rows {others : List (Row ChStation)} {profiles : List (Row CSProfile)}
    {history : List (Row CSHist)} {meters : List (Row MeterV)}
    (hstations : u.chStations.rows = (s.view cid).stations ++ others)
    (hothers : ∀ r ∈ others, r.cols.clientID ≠ cid)
    (hprofiles : u.csProf.rows = (s.view cid).profiles ++ profiles)
    (hunassigned : ∀ q ∈ profiles, ∀ r ∈ s.chStations.rows, r.cols.clientID = cid →
      r.cols.profID ≠ q.rowid)
    (hhistory : u.csHist.rows = (s.view cid).history ++ history)
    (hforeign : ∀ r ∈ history, ¬s.owns cid r.cols.csSerN)
    (hmeters : u.meterV.rows = (s.view cid).meters ++ meters)
    (hunread : ∀ r ∈ meters, ¬s.owns cid r.cols.csSerN)
    (hstarts : u.startTr.rows = (s.view cid).starts)
    (hstops : u.stopTr.rows = (s.view cid).stops) : SameView cid s u := by
  have howned : u.chStations.select (·.cols.clientID = cid) =
      s.chStations.select (·.cols.clientID = cid) := by
    show u.chStations.rows.filter _ = _
    rw [hstations]
    exact filter_append_others fun r hr => by simpa using hothers r hr
  have hheld : (u.csHist.select fun r => s.owns cid r.cols.csSerN) =
      s.csHist.select fun r => s.owns cid r.cols.csSerN := by
    show u.csHist.rows.filter _ = _
    rw [hhistory]
    exact filter_append_others hforeign
  have hprofilesHeld : (u.csProf.select fun r => s.chStations.rows.any fun st =>
      st.cols.clientID = cid ∧ st.cols.profID = r.rowid) = (s.view cid).profiles := by
    show u.csProf.rows.filter _ = _
    rw [hprofiles]
    exact filter_append_others fun q hq => by simpa using hunassigned q hq
  have hmetersHeld : (u.meterV.select fun r => s.owns cid r.cols.csSerN) =
      (s.view cid).meters := by
    show u.meterV.rows.filter _ = _
    rw [hmeters]
    exact filter_append_others hunread
  have hstartsHeld : (u.startTr.select fun r => s.ownsHist cid r.cols.hRowId) =
      (s.view cid).starts := by
    show u.startTr.rows.filter _ = _
    rw [hstarts]
    exact List.filter_filter.trans (by simp [Server.view, Table.select])
  have hstopsHeld : (u.stopTr.select fun r => s.ownsHist cid r.cols.hRowId) =
      (s.view cid).stops := by
    show u.stopTr.rows.filter _ = _
    rw [hstops]
    exact List.filter_filter.trans (by simp [Server.view, Table.select])
  show u.view cid = s.view cid
  rw [view_congr howned hheld, hprofilesHeld, hstartsHeld, hstopsHeld, hmetersHeld]
  rfl

/-- A station of another client. -/
def strangerStation (cid : Int) (w : Text) (p ts : Int) : ChStation :=
  { ChStation.plain w [] (cid + 1) with profID := p, status := 1, lastUpdtdTS := ts }

def strangerProfile : CSProfile := ⟨[], 0, "1", 0⟩

/-- The end of a transaction, or its start. -/
def strangerEvent (w action : Text) : CSHist := ⟨w, 0, [], action, "5", [], []⟩

def strangerReading (w : Text) : MeterV := ⟨w, 0, 5, 1, [], 0⟩

/-- The state holds what belongs to the client in `s`, and nothing else. -/
structure OnlyOwn (s : Server) (cid : Int) (u : Server) : Prop where
  stations : u.chStations.rows = (s.view cid).stations
  profiles : u.csProf.rows = (s.view cid).profiles
  history : u.csHist.rows = (s.view cid).history
  meters : u.meterV.rows = (s.view cid).meters
  same : SameView cid s u

/-- It also holds a transaction on a station `w` of another client, which has
the profile `p`. -/
structure WithStranger (s : Server) (cid : Int) (w : Text) (p ts : Int) (v : Server) :
    Prop where
  stations : ∃ n, v.chStations.rows =
    (s.view cid).stations ++ [⟨n, strangerStation cid w p ts⟩]
  profiles : v.csProf.rows = (s.view cid).profiles ++ [⟨p, strangerProfile⟩]
  history : ∃ m n, v.csHist.rows = (s.view cid).history ++
    [⟨m, strangerEvent w "StartTransaction"⟩, ⟨n, strangerEvent w "StopTransaction"⟩]
  meters : ∃ n, v.meterV.rows = (s.view cid).meters ++ [⟨n, strangerReading w⟩]
  same : SameView cid s v

/-- What belongs to a client, without the rest. -/
def Server.ownPart (s : Server) (cid : Int) : Server :=
  { s with
    chStations := (s.chStations.delete fun r => !decide (r.cols.clientID = cid)).1
    csProf := (s.csProf.delete fun r => !s.chStations.rows.any fun st =>
      st.cols.clientID = cid ∧ st.cols.profID = r.rowid).1
    csHist := (s.csHist.delete fun r => !s.owns cid r.cols.csSerN).1
    startTr := (s.startTr.delete fun r => !s.ownsHist cid r.cols.hRowId).1
    stopTr := (s.stopTr.delete fun r => !s.ownsHist cid r.cols.hRowId).1
    meterV := (s.meterV.delete fun r => !s.owns cid r.cols.csSerN).1 }

theorem delete_not_rows {α κ : Type} {key : α → Option κ} (t : Table key) (q : Row α → Bool) :
    (t.delete fun r => !q r).1.rows = t.select q := by
  simp [Table.delete, Table.select]

theorem onlyOwn_ownPart (s : Server) (cid : Int) : OnlyOwn s cid (s.ownPart cid) := by
  have hstations : (s.ownPart cid).chStations.rows = (s.view cid).stations :=
    delete_not_rows _ _
  have hprofiles : (s.ownPart cid).csProf.rows = (s.view cid).profiles := delete_not_rows _ _
  have hhistory : (s.ownPart cid).csHist.rows = (s.view cid).history := delete_not_rows _ _
  have hmeters : (s.ownPart cid).meterV.rows = (s.view cid).meters := delete_not_rows _ _
  refine ⟨hstations, hprofiles, hhistory, hmeters, ?_⟩
  exact sameView_of_rows (hstations.trans (List.append_nil _).symm) (by simp)
    (hprofiles.trans (List.append_nil _).symm) (by simp)
    (hhistory.trans (List.append_nil _).symm) (by simp)
    (hmeters.trans (List.append_nil _).symm) (by simp) (delete_not_rows _ _)
    (delete_not_rows _ _)

theorem exists_above (l : List Int) : ∃ p, ∀ x ∈ l, x < p := by
  induction l with
  | nil => exact ⟨0, by simp⟩
  | cons a l ih =>
    obtain ⟨p, hp⟩ := ih
    refine ⟨max (a + 1) p, fun x hx => ?_⟩
    rcases List.mem_cons.mp hx with rfl | hx
    · omega
    · have := hp x hx
      omega

theorem exists_withStranger (s : Server) (cid : Int) {w : Text} (hw : ¬s.owns cid w)
    (ts : Int) : ∃ p v, (∀ q ∈ (s.view cid).profiles, q.rowid ≠ p) ∧
      WithStranger s cid w p ts v := by
  have hown := onlyOwn_ownPart s cid
  obtain ⟨p, hp⟩ := exists_above
    ((s.ownPart cid).csProf.rows.map Row.rowid ++ s.chStations.rows.map (·.cols.profID))
  obtain ⟨stations, hstations⟩ := (s.ownPart cid).chStations.exists_append
    (a := strangerStation cid w p ts) (fun r hr => (s.ownPart cid).chStations.rowid_lt_next hr)
    (fun r hr => Or.inr fun heq => by
      rw [hown.stations] at hr
      obtain ⟨hmem, hcid⟩ := List.mem_filter.mp hr
      exact hw (owns_iff.mpr ⟨r, hmem, of_decide_eq_true hcid, Option.some.inj heq⟩))
  obtain ⟨profiles, hprofiles⟩ := (s.ownPart cid).csProf.exists_append (a := strangerProfile)
    (fun r hr => hp _ (List.mem_append_left _ (List.mem_map_of_mem hr)))
    (fun _ _ => Or.inl rfl)
  obtain ⟨started, hstarted⟩ := (s.ownPart cid).csHist.exists_append
    (a := strangerEvent w "StartTransaction")
    (fun r hr => (s.ownPart cid).csHist.rowid_lt_next hr) (fun _ _ => Or.inl rfl)
  obtain ⟨history, hhistory⟩ := started.exists_append (a := strangerEvent w "StopTransaction")
    (fun r hr => started.rowid_lt_next hr) (fun _ _ => Or.inl rfl)
  obtain ⟨meters, hmeters⟩ := (s.ownPart cid).meterV.exists_append (a := strangerReading w)
    (fun r hr => (s.ownPart cid).meterV.rowid_lt_next hr) (fun _ _ => Or.inl rfl)
  rw [hstarted, hown.history, List.append_assoc] at hhistory
  rw [hown.stations] at hstations
  rw [hown.profiles] at hprofiles
  rw [hown.meters] at hmeters
  refine ⟨p, { s.ownPart cid with
    chStations := stations, csProf := profiles, csHist := history, meterV := meters },
    fun q hq heq => ?_, ⟨_, hstations⟩, hprofiles, ⟨_, _, hhistory⟩, ⟨_, hmeters⟩, ?_⟩
  · have := hp q.rowid (List.mem_append_left _
      (List.mem_map_of_mem (hown.profiles ▸ hq : q ∈ (s.ownPart cid).csProf.rows)))
    omega
  · refine sameView_of_rows hstations ?_ hprofiles ?_ hhistory ?_ hmeters ?_
      (delete_not_rows _ _) (delete_not_rows _ _)
    · intro r hr
      rw [List.mem_singleton.mp hr]
      show cid + 1 ≠ cid
      omega
    · intro q hq r hr _
      rw [List.mem_singleton.mp hq]
      have := hp r.cols.profID (List.mem_append_right _ (List.mem_map_of_mem hr))
      exact Int.ne_of_lt this
    · simpa [strangerEvent] using hw
    · simpa [strangerReading] using hw

/-- An engine that answers altered queries of a table with its rows of `w` or
of the profile `p`, and a clock at which the stranger's status is reset. -/
def Env.spying (w : Text) (p ts : Int) (raises : Nat → Option Nat) : Env :=
  { Env.calm with
    raises := raises
    clock := fun _ => ts + 1 + 2 * 60 * 1000
    csHist := { Altered.refused _ with
      select := fun _ t => some ((t.select (·.cols.csSerN = w)).map fun _ => [.int 5]) }
    csProf := { Altered.refused _ with
      select := fun _ t => some ((t.select (·.rowid = p)).map fun r => [.text r.cols.data]) }
    meterV := { Altered.refused _ with
      select := fun _ t => some ((t.select (·.cols.csSerN = w)).map fun _ => [.int 1]) } }

end Strangers

section Spying

variable {s u v : Server} {cid p ts : Int} {w user : Text}

theorem spying_opened (w : Text) (p ts : Int) (n : Nat) :
    (Env.spying w p ts fun _ => none).raises n = none := rfl

theorem history_read {β : Type} {st : Stmt} {rows : Table (noKey (α := CSHist)) → List β}
    {decode : List Cell → β} (k : Session Server) :
    (CSHistTbl.read (.spying w p ts fun _ => none) st rows decode k).1 =
      ⟨if st.QuoteFree then rows k.state.csHist
        else (k.state.csHist.select (·.cols.csSerN = w)).map fun _ => decode [.int 5], false⟩ := by
  by_cases hst : st.QuoteFree
  · rw [if_pos hst]
    exact CSHistTbl.read_literal (E := .spying w p ts _) k hst rfl
  · rw [if_neg hst, CSHistTbl.read_altered (E := .spying w p ts _) k hst rfl rfl, List.map_map]
    rfl

theorem meters_read {β : Type} {st : Stmt} {rows : Table (noKey (α := MeterV)) → List β}
    {decode : List Cell → β} (k : Session Server) :
    (MeterVTbl.read (.spying w p ts fun _ => none) st rows decode k).1 =
      ⟨if st.QuoteFree then rows k.state.meterV
        else (k.state.meterV.select (·.cols.csSerN = w)).map fun _ => decode [.int 1], false⟩ := by
  by_cases hst : st.QuoteFree
  · rw [if_pos hst]
    exact MeterVTbl.read_literal (E := .spying w p ts _) k hst rfl
  · rw [if_neg hst, MeterVTbl.read_altered (E := .spying w p ts _) k hst rfl rfl, List.map_map]
    rfl

/-- What belongs to the client does not stand under `w`. -/
theorem view_history_ne (hw : ¬s.owns cid w) : ∀ r ∈ (s.view cid).history, r.cols.csSerN ≠ w := by
  rintro r hr rfl
  exact hw (List.mem_filter.mp hr).2

theorem view_stations_ne (hw : ¬s.owns cid w) :
    ∀ r ∈ (s.view cid).stations, r.cols.csSerN ≠ w := by
  rintro r hr rfl
  obtain ⟨hmem, hcid⟩ := List.mem_filter.mp hr
  exact hw (owns_iff.mpr ⟨r, hmem, of_decide_eq_true hcid, rfl⟩)

/-- Only an empty history is answered with a star. -/
theorem history_star_iff (E : Env) (s : Server) :
    (getChargeStationsHistory E cid user s.start).1 = .text "*" ↔
      (getAllChargeStationsHistory E cid user s.start).1 = [] := by
  unfold getChargeStationsHistory
  rw [Action.bind_apply]
  by_cases hempty : (getAllChargeStationsHistory E cid user s.start).1 = []
  · rw [if_pos hempty]
    exact iff_of_true rfl hempty
  · rw [if_neg hempty]
    refine iff_of_false (fun heq => ?_) hempty
    have hhead : some '\x7b' = some '*' := congrArg List.head? (Reply.text.inj heq)
    exact absurd hhead (by decide)

theorem history_unseen (hu : OnlyOwn s cid u) (hw : ¬s.owns cid w)
    (huser : '\'' ∉ cstr user → cstr user = w) :
    (getAllChargeStationsHistory (.spying w p ts fun _ => none) cid user u.start).1 = [] := by
  have hnone (q : Row CSHist → Bool) (hq : ∀ r, q r → r.cols.csSerN = w) :
      u.csHist.select q = [] := by
    apply List.filter_eq_nil_iff.mpr
    intro r hr hqr
    exact view_history_ne hw r (hu.history ▸ hr) (hq r hqr)
  show (CSHistTbl.read _ (allHistorySql user) _ _ u.start.tick).1.rows = []
  rw [history_read]
  by_cases hst : (allHistorySql user).QuoteFree
  · have hser : cstr user = w := huser (by simpa [allHistorySql, -String.reduceToList] using hst)
    show (if _ then _ else _) = []
    rw [if_pos hst]
    unfold historyRows
    rw [show u.start.tick.state.csHist = u.csHist from rfl, hnone]
    · rfl
    · intro r hr
      exact (of_decide_eq_true hr).1.trans hser
  · show (if _ then _ else _) = []
    rw [if_neg hst]
    exact congrArg _ (hnone _ fun r hr => of_decide_eq_true hr)

theorem history_seen (hv : WithStranger s cid w p ts v)
    (huser : '\'' ∉ cstr user → cstr user = w) :
    (getAllChargeStationsHistory (.spying w p ts fun _ => none) cid user v.start).1 ≠ [] := by
  obtain ⟨m, n, hhistory⟩ := hv.history
  have hmem : ⟨m, strangerEvent w "StartTransaction"⟩ ∈ v.csHist.rows := by
    rw [hhistory]
    simp
  show (CSHistTbl.read _ (allHistorySql user) _ _ v.start.tick).1.rows ≠ []
  rw [history_read]
  by_cases hst : (allHistorySql user).QuoteFree
  · have hser : cstr user = w := huser (by simpa [allHistorySql, -String.reduceToList] using hst)
    show (if _ then _ else _) ≠ []
    rw [if_pos hst]
    apply List.ne_nil_of_mem
    apply List.mem_map_of_mem
    unfold historyRows
    rw [List.mem_insertionSort]
    exact List.mem_filter.mpr ⟨hmem, by simp [strangerEvent, hser]⟩
  · show (if _ then _ else _) ≠ []
    rw [if_neg hst]
    apply List.ne_nil_of_mem
    apply List.mem_map_of_mem (a := ⟨m, strangerEvent w "StartTransaction"⟩)
    exact List.mem_filter.mpr ⟨hmem, decide_eq_true rfl⟩

theorem exists_map_cons {α β : Type} {f : α → β} {b : β} {l : List α} {a : α} (ha : a ∈ l)
    (h : ∀ x ∈ l, f x = b) : ∃ l', l.map f = b :: l' := by
  obtain ⟨x, l', rfl⟩ := List.exists_cons_of_ne_nil (List.ne_nil_of_mem ha)
  exact ⟨l'.map f, by rw [List.map_cons, h x List.mem_cons_self]⟩

theorem transactionIds_read (action : Text) (k : Session Server) :
    readTransactionIds (.spying w p ts fun _ => none) action user k =
      (some (if (transactionIdsSql action user).QuoteFree then
          (k.state.csHist.select fun r =>
            r.cols.action = action ∧ r.cols.csSerN = cstr user).map fun r =>
              str2Int r.cols.csSts
        else (k.state.csHist.select (·.cols.csSerN = w)).map fun _ => 5), k.tick) := by
  unfold readTransactionIds
  rw [Action.bind_apply, TableAt.read_snd, history_read]
  rfl

theorem transactionIdsSql_quoteFree {action : Text} :
    (transactionIdsSql action user).QuoteFree ↔ '\'' ∉ cstr user := by
  simp [transactionIdsSql, -String.reduceToList]

theorem transactionIds_unseen (hu : OnlyOwn s cid u) (hw : ¬s.owns cid w)
    (huser : '\'' ∉ cstr user → cstr user = w) (action : Text) {k : Session Server}
    (hk : k.state.csHist = u.csHist) :
    readTransactionIds (.spying w p ts fun _ => none) action user k = (some [], k.tick) := by
  have hnone (q : Row CSHist → Bool) (hq : ∀ r, q r → r.cols.csSerN = w) :
      k.state.csHist.select q = [] := by
    apply List.filter_eq_nil_iff.mpr
    intro r hr hqr
    exact view_history_ne hw r (hu.history ▸ hk ▸ hr) (hq r hqr)
  rw [transactionIds_read]
  split
  · next hst =>
    have hser : cstr user = w := huser (transactionIdsSql_quoteFree.mp hst)
    rw [hnone _ fun r hr => (of_decide_eq_true hr).2.trans hser]
    rfl
  · rw [hnone _ fun r hr => of_decide_eq_true hr]
    rfl

/-- Both events of the stranger are read, for the transaction 5. -/
theorem transactionIds_seen (hv : WithStranger s cid w p ts v) (hw : ¬s.owns cid w)
    (huser : '\'' ∉ cstr user → cstr user = w) {action : Text}
    (haction : action = "StartTransaction" ∨ action = "StopTransaction") {k : Session Server}
    (hk : k.state.csHist = v.csHist) :
    ∃ l, readTransactionIds (.spying w p ts fun _ => none) action user k =
      (some (5 :: l), k.tick) := by
  obtain ⟨m, n, hhistory⟩ := hv.history
  have hmem : ∃ r ∈ v.csHist.rows, r.cols = strangerEvent w action := by
    rw [hhistory]
    rcases haction with rfl | rfl
    · exact ⟨⟨m, strangerEvent w "StartTransaction"⟩,
        List.mem_append_right _ List.mem_cons_self, rfl⟩
    · exact ⟨⟨n, strangerEvent w "StopTransaction"⟩,
        List.mem_append_right _ (List.mem_cons_of_mem _ List.mem_cons_self), rfl⟩
  have hfive : str2Int "5" = 5 := by decide
  have hsts : ∀ r ∈ v.csHist.rows, r.cols.csSerN = w → str2Int r.cols.csSts = 5 := by
    rw [hhistory]
    intro r hr hser
    rcases List.mem_append.mp hr with hown | hforeign
    · exact absurd hser (view_history_ne hw r hown)
    · simp only [List.mem_cons, List.not_mem_nil, or_false] at hforeign
      rcases hforeign with rfl | rfl
      · exact hfive
      · exact hfive
  obtain ⟨r, hr, hcols⟩ := hmem
  rw [transactionIds_read, hk]
  split
  · next hst =>
    have hser : cstr user = w := huser (transactionIdsSql_quoteFree.mp hst)
    have hselected : r ∈ v.csHist.select fun r =>
        r.cols.action = action ∧ r.cols.csSerN = cstr user :=
      List.mem_filter.mpr ⟨hr, decide_eq_true (by rw [hcols, hser]; exact ⟨rfl, rfl⟩)⟩
    obtain ⟨l, hl⟩ := exists_map_cons (f := fun r => str2Int r.cols.csSts) hselected
      fun q hq => by
        obtain ⟨hrow, hkind⟩ := List.mem_filter.mp hq
        exact hsts q hrow ((of_decide_eq_true hkind).2.trans hser)
    exact ⟨l, by rw [hl]⟩
  · have hselected : r ∈ v.csHist.select (·.cols.csSerN = w) :=
      List.mem_filter.mpr ⟨hr, decide_eq_true (by rw [hcols]; rfl)⟩
    obtain ⟨l, hl⟩ := exists_map_cons (f := fun _ => (5 : Int)) hselected fun _ _ => rfl
    exact ⟨l, by rw [hl]⟩

/-- Only readings of nothing are answered with a star. -/
theorem statistics_star_iff (reparse : Text → Text) (E : Env) (s : Server) :
    (getChargeStationsStatistics E cid user reparse s.start).1 = .text "*" ↔
      (getAllChargeStationsStatistics E cid user s.start).1 = [] := by
  have hlist (stats : List CSStatistics) : trDataList user reparse stats = [] ↔ stats = [] := by
    unfold trDataList
    rw [List.map_eq_nil_iff, ← List.length_eq_zero_iff, List.length_insertionSort,
      List.length_eq_zero_iff, List.dedup_eq_nil, List.map_eq_nil_iff]
  unfold getChargeStationsStatistics
  rw [Action.bind_apply, ← hlist]
  by_cases hempty : trDataList user reparse
      (getAllChargeStationsStatistics E cid user s.start).1 = []
  · rw [if_pos hempty]
    exact iff_of_true rfl hempty
  · rw [if_neg hempty]
    exact iff_of_false (fun heq => by cases heq) hempty

theorem statistics_unseen (hu : OnlyOwn s cid u) (hw : ¬s.owns cid w)
    (huser : '\'' ∉ cstr user → cstr user = w) :
    (getAllChargeStationsStatistics (.spying w p ts fun _ => none) cid user u.start).1 = [] := by
  unfold getAllChargeStationsStatistics
  rw [createConnection_bind, if_pos (spying_opened w p ts _), Action.bind_apply,
    transactionIds_unseen hu hw huser "StartTransaction" rfl]
  dsimp only
  rw [Action.bind_apply, transactionIds_unseen hu hw huser "StopTransaction" rfl]
  rfl

theorem statistics_seen (hv : WithStranger s cid w p ts v) (hw : ¬s.owns cid w)
    (huser : '\'' ∉ cstr user → cstr user = w) :
    (getAllChargeStationsStatistics (.spying w p ts fun _ => none) cid user v.start).1 ≠ [] := by
  obtain ⟨n, hmeters⟩ := hv.meters
  have hmem : ⟨n, strangerReading w⟩ ∈ v.meterV.rows := by
    rw [hmeters]
    exact List.mem_append_right _ List.mem_cons_self
  obtain ⟨v0, hstarted⟩ := transactionIds_seen hv hw huser (Or.inl rfl)
    (k := v.start.tick) rfl
  obtain ⟨v1, hstopped⟩ := transactionIds_seen hv hw huser (Or.inr rfl)
    (k := v.start.tick.tick) rfl
  unfold getAllChargeStationsStatistics
  rw [createConnection_bind, if_pos (spying_opened w p ts _), Action.bind_apply, hstarted]
  dsimp only
  rw [Action.bind_apply, hstopped]
  dsimp only
  rw [List.length_cons, List.take_succ_cons]
  unfold readAllMeterValues readMeterValues
  rw [Action.bind_apply, meters_read]
  apply List.append_ne_nil_of_left_ne_nil
  show (if _ then _ else _) ≠ []
  split
  · next hst =>
    have hser : cstr user = w := huser (by simpa [meterValuesSql, -String.reduceToList] using hst)
    apply List.ne_nil_of_mem
    apply List.mem_map_of_mem (a := ⟨n, strangerReading w⟩)
    exact List.mem_filter.mpr ⟨hmem, by simp [strangerReading, hser]⟩
  · apply List.ne_nil_of_mem
    apply List.mem_map_of_mem (a := ⟨n, strangerReading w⟩)
    exact List.mem_filter.mpr ⟨hmem, decide_eq_true rfl⟩

/-- What the query for a profile delivers to the spying engine. -/
def profileTexts (user : Text) (p : Int) (s : Server) : List Text :=
  if (getCSProfileSql user).QuoteFree then
    (s.csProf.select fun r => (s.chStations.select (·.cols.csSerN = cstr user)).head?.any
      (·.cols.profID = r.rowid)).map fun r => cstr r.cols.data
  else (s.csProf.select (·.rowid = p)).map fun r => cstr r.cols.data

theorem profile_read (hsern : user ≠ []) (s : Server) :
    (getCSProfileFromDBBySern (.spying w p ts fun _ => none) user s.start).1 =
      (((profileTexts user p s).length : Int), (profileTexts user p s).getLast?.getD []) := by
  have hquery (k : Session Server) (hk : k.state = s.start.state) :
      (query (Env.spying w p ts fun _ => none).raises (fun s : Server =>
        if (getCSProfileSql user).QuoteFree then
          let assigned := (s.chStations.select (·.cols.csSerN = cstr user)).head?
          some ((s.csProf.select fun r => assigned.any (·.cols.profID = r.rowid)).map
            fun r => cstr r.cols.data)
        else ((Env.spying w p ts fun _ => none).csProf.select (getCSProfileSql user).text
          s.csProf).map (List.map (cellText · 0))) k).1 = ⟨profileTexts user p s, false⟩ := by
    apply query_of_calm k (spying_opened w p ts _)
    rw [hk]
    unfold profileTexts
    split
    · rfl
    · show some (List.map _ (List.map _ _)) = _
      rw [List.map_map]
      rfl
  unfold getCSProfileFromDBBySern getCSProfile
  rw [createConnection_bind, if_pos (spying_opened w p ts _), Action.bind_apply, if_neg hsern,
    Action.bind_apply, hquery s.start.tick rfl]
  rfl

theorem profile_unseen (hu : OnlyOwn s cid u) (hw : ¬s.owns cid w)
    (hp : ∀ q ∈ (s.view cid).profiles, q.rowid ≠ p)
    (huser : '\'' ∉ cstr user → cstr user = w) : profileTexts user p u = [] := by
  unfold profileTexts
  split
  · next hst =>
    have hser : cstr user = w := huser (getCSProfileSql_quoteFree.mp hst)
    have hnone : u.chStations.select (·.cols.csSerN = cstr user) = [] := by
      apply List.filter_eq_nil_iff.mpr
      intro r hr hrow
      exact view_stations_ne hw r (hu.stations ▸ hr) ((of_decide_eq_true hrow).trans hser)
    rw [hnone]
    simp [Table.select]
  · rw [List.map_eq_nil_iff]
    apply List.filter_eq_nil_iff.mpr
    intro r hr hrow
    exact hp r (hu.profiles ▸ hr) (of_decide_eq_true hrow)

theorem profile_seen (hv : WithStranger s cid w p ts v)
    (huser : '\'' ∉ cstr user → cstr user = w) : profileTexts user p v = [("1" : Text)] := by
  obtain ⟨n, hstations⟩ := hv.stations
  have hmem : ⟨n, strangerStation cid w p ts⟩ ∈ v.chStations.rows := by
    rw [hstations]
    exact List.mem_append_right _ List.mem_cons_self
  have hprofile : ⟨p, strangerProfile⟩ ∈ v.csProf.rows := by
    rw [hv.profiles]
    exact List.mem_append_right _ List.mem_cons_self
  have hselected : v.csProf.select (·.rowid = p) = [⟨p, strangerProfile⟩] :=
    v.csProf.select_rowid hprofile
  unfold profileTexts
  split
  · next hst =>
    have hser : cstr user = w := huser (getCSProfileSql_quoteFree.mp hst)
    rw [ChStation.select_serial hmem (show w = cstr user from hser.symm), List.head?_cons]
    have hsame : (fun r : Row CSProfile => Option.any (fun st : Row ChStation =>
        decide (st.cols.profID = r.rowid)) (some ⟨n, strangerStation cid w p ts⟩)) =
        fun r => decide (r.rowid = p) := by
      funext r
      simp [strangerStation, eq_comm]
    rw [hsame, hselected]
    rfl
  · rw [hselected]
    rfl

/-- Nothing is fetched for the client: the read fails, or there is nothing. -/
def FetchesNothing (E : Env) (cid : Int) (s : Server) : Prop :=
  E.raises 3 = some 0 ∨ E.raises 3 = none ∧ ∀ r ∈ s.chStations.rows, r.cols.clientID ≠ cid

theorem FetchesNothing.found {E : Env} (h : FetchesNothing E cid s) :
    foundStations E cid s = [] := by
  unfold foundStations query
  rcases h with hfails | ⟨hcalm, hnone⟩
  · simp [hfails]
  · simpa [hcalm, Table.select, List.filter_eq_nil_iff] using hnone

/-- The reply of the phone's list then tells whether a status was reset. -/
theorem mobile_reply {E : Env} (hcid : 0 < cid) (hopen : E.raises 0 = none)
    (hsweep : E.raises 2 = none) (hnone : FetchesNothing E cid s) :
    (getChargeStationsFromDBMob E cid s.start).1 =
      if ∃ r ∈ s.chStations.rows, (sweepRow (E.clock 1 - 2 * 60 * 1000) r).isSome then
        .stations []
      else .text "NOT" := by
  obtain ⟨tab, hrows, hread⟩ := getAllChargeStations_apply (s := s) hcid hopen hsweep
  have hfound : foundStations E cid (CH_STATIONS.set s.start.state tab) = [] := by
    apply FetchesNothing.found
    rcases hnone with hfails | ⟨hcalm, hother⟩
    · exact Or.inl hfails
    · refine Or.inr ⟨hcalm, fun r hr => ?_⟩
      have hr' : r ∈ s.chStations.rows.map (Table.rewriteRow (sweepRow _)) := hrows ▸ hr
      obtain ⟨q, hq, rfl⟩ := List.mem_map.mp hr'
      rw [sweepRow_clientID]
      exact hother q hq
  rw [hfound] at hread
  unfold getChargeStationsFromDBMob
  rw [Action.bind_apply, hread]
  show (if _ then _ else _) = _
  have hcount : 0 < ((s.chStations.rows.countP fun r =>
      (sweepRow (E.clock 1 - 2 * 60 * 1000) r).isSome : Nat) : Int) + ([] : List (Row ChStation)).length ↔
      ∃ r ∈ s.chStations.rows, (sweepRow (E.clock 1 - 2 * 60 * 1000) r).isSome := by
    rw [List.length_nil, Int.natCast_zero, Int.add_zero, Int.natCast_pos, List.countP_pos_iff]
  simp only [hcount]
  rfl

theorem mobile_unseen {E : Env} (hu : OnlyOwn s cid u) (hcid : 0 < cid)
    (hopen : E.raises 0 = none) (hsweep : E.raises 2 = none) (hnone : FetchesNothing E cid u)
    (hclock : E.clock 1 = ts + 1 + 2 * 60 * 1000)
    (hlate : ∀ r ∈ s.chStations.rows, ts < r.cols.lastUpdtdTS) :
    (getChargeStationsFromDBMob E cid u.start).1 = .text "NOT" := by
  rw [mobile_reply hcid hopen hsweep hnone, if_neg]
  rintro ⟨r, hr, hswept⟩
  rw [hu.stations] at hr
  have hlast := hlate r (List.mem_filter.mp hr).1
  unfold sweepRow at hswept
  rw [if_neg (by omega)] at hswept
  cases hswept

theorem mobile_seen {E : Env} (hv : WithStranger s cid w p ts v) (hcid : 0 < cid)
    (hopen : E.raises 0 = none) (hsweep : E.raises 2 = none) (hnone : FetchesNothing E cid v)
    (hclock : E.clock 1 = ts + 1 + 2 * 60 * 1000) :
    (getChargeStationsFromDBMob E cid v.start).1 = .stations [] := by
  obtain ⟨n, hstations⟩ := hv.stations
  rw [mobile_reply hcid hopen hsweep hnone, if_pos]
  refine ⟨⟨n, strangerStation cid w p ts⟩, ?_, ?_⟩
  · rw [hstations]
    exact List.mem_append_right _ List.mem_cons_self
  · unfold sweepRow
    rw [if_pos]
    · rfl
    · show ts < E.clock 1 - 2 * 60 * 1000 ∧ (0 : Int) < 1
      omega

end Spying

section Alone

variable {s : Server} {cid : Int} {user : Text}

/-- Some text is no serial number of the client. -/
theorem exists_unowned (s : Server) (cid : Int) : ∃ w, ¬s.owns cid w := by
  obtain ⟨n, hn⟩ := exists_above (s.chStations.rows.map fun r => (r.cols.csSerN.length : Int))
  refine ⟨List.replicate n.toNat 'a', fun howns => ?_⟩
  obtain ⟨r, hr, _, hser⟩ := owns_iff.mp howns
  have hlength := hn _ (List.mem_map_of_mem hr)
  rw [hser, List.length_replicate] at hlength
  omega

/-- A serial number that is not the client's, or one that its text can stand
for. -/
theorem exists_stranger (h : ¬('\'' ∉ cstr user ∧ s.owns cid (cstr user))) :
    ∃ w, ¬s.owns cid w ∧ ('\'' ∉ cstr user → cstr user = w) := by
  by_cases hquote : '\'' ∈ cstr user
  · obtain ⟨w, hw⟩ := exists_unowned s cid
    exact ⟨w, hw, fun hfree => absurd hquote hfree⟩
  · exact ⟨cstr user, fun howns => h ⟨hquote, howns⟩, fun _ => rfl⟩

/-- Every station was last heard of later than some time. -/
theorem exists_earlier (s : Server) : ∃ ts, ∀ r ∈ s.chStations.rows, ts < r.cols.lastUpdtdTS := by
  obtain ⟨n, hn⟩ := exists_above (s.chStations.rows.map fun r => -r.cols.lastUpdtdTS)
  refine ⟨-n, fun r hr => ?_⟩
  have := hn _ (List.mem_map_of_mem hr)
  omega

/-- The read of a list fails, unless nothing may. -/
def failing (quiet : Bool) (n : Nat) : Option Nat :=
  if quiet = false ∧ n = 3 then some 0 else none

section Distinguishing

variable {reparse : Text → Text} {quiet : Bool}

/-- Nothing but what is the client's shows in the answer. -/
def AnswersOwn (reparse : Text → Text) (quiet : Bool) (s : Server) (cid : Int) (user : Text)
    (req : ReadRequest) : Prop :=
  ∀ E : Env, (quiet = true → E.Quiet) → ∀ t : Server, SameView cid s t →
    (req.exec reparse E cid user t.start).1 = (req.exec reparse E cid user s.start).1

/-- Then it does not show a stranger beside what is the client's either. -/
theorem AnswersOwn.withStranger {req : ReadRequest} (h : AnswersOwn reparse quiet s cid user req)
    {E : Env} (hE : quiet = true → E.Quiet) {w : Text} {p ts : Int} {v : Server}
    (hv : WithStranger s cid w p ts v) :
    (req.exec reparse E cid user (s.ownPart cid).start).1 =
      (req.exec reparse E cid user v.start).1 :=
  (h E hE _ (onlyOwn_ownPart s cid).same).trans (h E hE _ hv.same).symm

theorem alone_of_history (h : AnswersOwn reparse quiet s cid user .history) :
    '\'' ∉ cstr user ∧ s.owns cid (cstr user) := by
  by_contra halone
  obtain ⟨w, hw, huser⟩ := exists_stranger halone
  obtain ⟨p, v, _, hv⟩ := exists_withStranger s cid hw 0
  have heq := h.withStranger (E := .spying w p 0 fun _ => none) (fun _ _ => rfl) hv
  have hunseen : (getAllChargeStationsHistory (.spying w p 0 fun _ => none) cid user
      (s.ownPart cid).start).1 = [] := history_unseen (onlyOwn_ownPart s cid) hw huser
  have hstar := (history_star_iff _ _).mpr hunseen
  exact history_seen hv huser ((history_star_iff _ _).mp (heq.symm.trans hstar))

theorem alone_of_statistics (h : AnswersOwn reparse quiet s cid user .statistics) :
    '\'' ∉ cstr user ∧ s.owns cid (cstr user) := by
  by_contra halone
  obtain ⟨w, hw, huser⟩ := exists_stranger halone
  obtain ⟨p, v, _, hv⟩ := exists_withStranger s cid hw 0
  have heq := h.withStranger (E := .spying w p 0 fun _ => none) (fun _ _ => rfl) hv
  have hunseen : (getAllChargeStationsStatistics (.spying w p 0 fun _ => none) cid user
      (s.ownPart cid).start).1 = [] := statistics_unseen (onlyOwn_ownPart s cid) hw huser
  have hstar := (statistics_star_iff reparse _ _).mpr hunseen
  exact statistics_seen hv hw huser
    ((statistics_star_iff reparse _ _).mp (heq.symm.trans hstar))

/-- A profile is looked up alike for the browser and for the phone, and the
answers to both tell its absence from its text. -/
theorem alone_of_profile {req : ReadRequest} (h : AnswersOwn reparse quiet s cid user req)
    (reply : Int × Text → Reply) (htold : reply (0, []) ≠ reply (1, "1"))
    (hreads : ∀ E t, (req.exec reparse E cid user t).1 =
      reply (getCSProfileFromDBBySern E user t).1) :
    user = [] ∨ '\'' ∉ cstr user ∧ s.owns cid (cstr user) := by
  by_contra halone
  obtain ⟨hsern, hforeign⟩ := not_or.mp halone
  obtain ⟨w, hw, huser⟩ := exists_stranger hforeign
  obtain ⟨p, v, hp, hv⟩ := exists_withStranger s cid hw 0
  have heq := h.withStranger (E := .spying w p 0 fun _ => none) (fun _ _ => rfl) hv
  rw [hreads, hreads, profile_read hsern, profile_read hsern,
    profile_unseen (onlyOwn_ownPart s cid) hw hp huser, profile_seen hv huser] at heq
  exact htold heq

theorem alone_of_mobileStationList (hcid : 0 < cid)
    (h : AnswersOwn reparse quiet s cid user .mobileStationList) :
    quiet = true ∧ ∃ r ∈ s.chStations.rows, r.cols.clientID = cid := by
  by_contra halone
  obtain ⟨w, hw⟩ := exists_unowned s cid
  obtain ⟨ts, hlate⟩ := exists_earlier s
  obtain ⟨p, v, _, hv⟩ := exists_withStranger s cid hw ts
  have hu := onlyOwn_ownPart s cid
  have hE : quiet = true → (Env.spying w p ts (failing quiet)).Quiet := by
    rintro rfl
    exact fun _ => rfl
  have hclock : (Env.spying w p ts (failing quiet)).clock 1 = ts + 1 + 2 * 60 * 1000 := rfl
  have hopen : (Env.spying w p ts (failing quiet)).raises 0 = none := by cases quiet <;> rfl
  have hsweep : (Env.spying w p ts (failing quiet)).raises 2 = none := by cases quiet <;> rfl
  have hnone (t : Server) (ht : ∀ r ∈ t.chStations.rows, r.cols.clientID = cid →
      r ∈ (s.view cid).stations) : FetchesNothing (.spying w p ts (failing quiet)) cid t := by
    cases quiet with
    | false => exact Or.inl rfl
    | true =>
      refine Or.inr ⟨rfl, fun r hr hcid => halone ⟨rfl, r, ?_⟩⟩
      obtain ⟨hmem, hown⟩ := List.mem_filter.mp (ht r hr hcid)
      exact ⟨hmem, of_decide_eq_true hown⟩
  have hunseen := mobile_unseen hu hcid hopen hsweep
    (hnone _ fun r hr _ => hu.stations ▸ hr) hclock hlate
  have hseen := mobile_seen hv hcid hopen hsweep (hnone _ fun r hr hr' => by
    obtain ⟨n, hstations⟩ := hv.stations
    rw [hstations] at hr
    rcases List.mem_append.mp hr with hown | hforeign
    · exact hown
    · rw [List.mem_singleton.mp hforeign] at hr'
      have hother : cid + 1 = cid := hr'
      omega) hclock
  have heq : Reply.text "NOT" = .stations [] :=
    hunseen.symm.trans ((h.withStranger hE hv).trans hseen)
  cases heq

end Distinguishing

/-- A request of a client is answered alike in all states that hold the same
for it, in every environment or in those where nothing raises, exactly under
its condition. -/
theorem reads_alone_iff (reparse : Text → Text) (quiet : Bool) (s : Server) {cid : Int}
    (hcid : 0 < cid) (user : Text) (req : ReadRequest) :
    (∀ E : Env, (quiet = true → E.Quiet) → ∀ t : Server, SameView cid s t →
      (req.exec reparse E cid user t.start).1 = (req.exec reparse E cid user s.start).1) ↔
      req.Alone quiet s cid user := by
  constructor
  · intro hsame
    cases req with
    | stationList | statusPoll | profileList => trivial
    | history => exact alone_of_history hsame
    | statistics => exact alone_of_statistics hsame
    | profile =>
      refine alone_of_profile hsame (fun found => setResponsePrintf
        (if found.1 ≠ 0 then found.2 else "*")) (by decide) fun E t => rfl
    | mobileProfile =>
      refine alone_of_profile hsame (fun found => .text (if found.1 ≠ 0 then
        "OCPP" ++ decimal 103 ++ decimal 203 ++ "|" ++ found.2 else "*")) (by decide)
        fun E t => rfl
    | mobileStationList => exact alone_of_mobileStationList hcid hsame
  · intro halone E hE t hview
    by_cases hreq : req = .mobileStationList
    · subst hreq
      exact mobileStationList_same (hE halone.1) hcid hview halone.2
    · exact alone_same hcid hview halone hreq

/-- Client 1 has a station with the serial number it asks for. -/
theorem reads_alone_iff_own :
    ReadRequest.Alone false connectedStation 1 "GRS-1" .history ∧
    ((∀ E : Env, (false = true → E.Quiet) → ∀ t : Server, SameView 1 connectedStation t →
      (ReadRequest.exec id E 1 "GRS-1" .history t.start).1 =
        (ReadRequest.exec id E 1 "GRS-1" .history connectedStation.start).1) ↔
      ReadRequest.Alone false connectedStation 1 "GRS-1" .history) :=
  ⟨⟨by decide, by decide⟩,
    reads_alone_iff id false connectedStation (by decide) "GRS-1" .history⟩

/-- The station of client 1 has reported that it charges. -/
def recordedStation : Server :=
  { connectedStation with
    csHist := ⟨[⟨1, "GRS-1", 7, [], "StatusNotification", "Charging", [], []⟩],
      by decide, by decide⟩ }

/-- Client 2 sees the same before and after, and its request for the history of
that station is answered differently. -/
theorem foreign_history_read :
    SameView 2 connectedStation recordedStation ∧
    (ReadRequest.exec id .calm 2 "GRS-1" .history recordedStation.start).1 ≠
      (ReadRequest.exec id .calm 2 "GRS-1" .history connectedStation.start).1 := by
  constructor
  · unfold SameView
    decide +kernel
  · decide +kernel

end Alone

end UCLinux.Ocpp
