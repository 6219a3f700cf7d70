import UCLinux.Ocpp.Transactions

/-!
What the rows of the history database say about each other. A transaction or
a meter row holds the rowid of the history row of its message. Clearing a
station's history deletes history rows and not these, and a new history row
takes the rowid after the largest left, so the history row of another message
can come to stand where an old reference points. The meter rows of a station
are kept two minutes apart by reading the last one back.
-/

namespace UCLinux.Ocpp

open Sql Machine Server HistoryDB

inductive HistoryOp where
  | startTransaction (req : OcppRequest) (rtt : RttOcpp) (p : StartTransactionRequest)
      (sern : Text)
  | stopTransaction (req : OcppRequest) (rtt : RttOcpp) (p : StopTransactionRequest)
      (sern : Text)
  | meterValues (req : OcppRequest) (rtt : RttOcpp) (p : MeterValuesRequest) (sern : Text)
  | clear (cid : Int) (sern : Text)

/-- One operation of the history database. -/
def HistoryOp.step (L : Lib) (s : Server) (e : Env × HistoryOp) : Server :=
  match e.2 with
  | .startTransaction req rtt p sern =>
    s.after (onStartTransactionRequestMessage2DB e.1 req rtt p sern)
  | .stopTransaction req rtt p sern =>
    s.after (onStopTransactionRequestMessage2DB L e.1 req rtt p sern)
  | .meterValues req rtt p sern =>
    s.after (onMeterValuesRequestMessage2DB L e.1 req rtt p sern)
  | .clear cid sern => s.after (clearAllChargeStationsHistory e.1 cid sern)

/-- The tables with a column HRowId. -/
inductive RefTable where
  | startTr
  | stopTr
  | meterV
  deriving DecidableEq, Repr

/-- The rowids of a table and what its rows hold in a column. -/
def refList {α : Type} (ref : α → Int) (t : Table (noKey (α := α))) : List (Int × Int) :=
  t.rows.map fun r => (r.rowid, ref r.cols)

/-- The rowids of such a table and what the rows hold as HRowId. -/
def Server.refRows (s : Server) : RefTable → List (Int × Int)
  | .startTr => refList StartTr.hRowId s.startTr
  | .stopTr => refList StopTr.hRowId s.stopTr
  | .meterV => refList MeterV.hRowId s.meterV

section Storing

variable {L : Lib} {E : Env} {req : OcppRequest} {rtt : RttOcpp} {sern : Text}

/-- What storing the row that refers to a history row can do: nothing, or
append one row with this HRowId to one table. -/
structure RefStep (hRowId : Int) (s t : Server) : Prop where
  hist : t.csHist.rows.map Row.rowid = s.csHist.rows.map Row.rowid
  refs : ∀ k, t.refRows k = s.refRows k ∨
    ∃ id, (∀ x ∈ s.refRows k, x.1 ≠ id) ∧ t.refRows k = s.refRows k ++ [(id, hRowId)]

/-- Everything storing a message can do to the history and what refers to
it. -/
inductive HistStep (s t : Server) : Prop where
  | same (hist : t.csHist = s.csHist) (refs : ∀ k, t.refRows k = s.refRows k)
  | stored (hist : t.csHist.rows.map Row.rowid =
        s.csHist.rows.map Row.rowid ++ [s.csHist.nextRowid])
      (refs : ∀ k, t.refRows k = s.refRows k ∨
        ∃ id, (∀ x ∈ s.refRows k, x.1 ≠ id) ∧
          t.refRows k = s.refRows k ++ [(id, wrap32 s.csHist.nextRowid)])

/-- Storing a history row without a quote: nothing, or the next row. -/
theorem insertOcppHistory2DB_cases (hq : (insertOcppHistorySql req rtt sern).QuoteFree)
    (s : Session Server) :
    ((insertOcppHistory2DB E req rtt sern s).2.state = s.state ∧
      ∀ id rtt', (insertOcppHistory2DB E req rtt sern s).1 = some (id, rtt') → id = -1) ∨
    ∃ t, t.rows = s.state.csHist.rows ++
        [⟨s.state.csHist.nextRowid, ocppHistoryRow req rtt sern⟩] ∧
      insertOcppHistory2DB E req rtt sern s =
        (some (wrap32 s.state.csHist.nextRowid, { rtt with serNumber := sern }),
          ⟨{ s.state with csHist := t }, s.asked + 1⟩) := by
  unfold insertOcppHistory2DB
  by_cases hsern : sern = []
  · rw [if_pos hsern]
    left
    refine ⟨rfl, fun id rtt' h => ?_⟩
    cases h
    rfl
  · rw [if_neg hsern, Action.bind_apply]
    rcases CSHistTbl.insert_cases E (insertOcppHistorySql req rtt sern)
      (·.insert (ocppHistoryRow req rtt sern)) s with hx | ⟨t, n, hins, _, hx⟩
    · rw [hx]
      left
      refine ⟨rfl, fun id rtt' h => ?_⟩
      cases h
    · rw [if_pos hq] at hins
      obtain ⟨hn, hrows⟩ := Table.insert_spec hins
      rw [hx]
      right
      refine ⟨t, hrows, ?_⟩
      rw [hn]
      rfl

/-- A message is stored in the history first, then what refers to it. -/
def storing (E : Env) (req : OcppRequest) (rtt : RttOcpp) (sern : Text)
    (store : Int → RttOcpp → Act Int) : Act Int := do
  let opened ← createConnection E
  if opened then do
    let hist ← insertOcppHistory2DB E req rtt sern
    match hist with
    | none => pure 0
    | some (histRowid, rtt) => if 0 < histRowid then store histRowid rtt else pure 0
  else pure 0

/-- What refers to the history row of a StartTransaction. -/
def storeStart (E : Env) (p : StartTransactionRequest) (histRowid : Int) (rtt : RttOcpp) :
    Act Int := do
  let id ← insertStartTransactionReqMsg2DB E histRowid p
  match id with
  | none => pure 0
  | some transactionId => do
    let _ ← updateHistOnStartTransaction E
      { rtt with errCode := decimal p.meterStart, status := decimal transactionId } histRowid
    pure transactionId

/-- What refers to the history row of a StopTransaction. -/
def storeStop (L : Lib) (E : Env) (p : StopTransactionRequest) (histRowid : Int)
    (_rtt : RttOcpp) : Act Int := do
  let id ← insertStopTransactionReqMsg2DB L E histRowid p
  pure (id.getD 0)

/-- What refers to the history row of MeterValues. -/
def storeMeter (L : Lib) (E : Env) (p : MeterValuesRequest) (histRowid : Int)
    (rtt : RttOcpp) : Act Int := do
  let id ← insertMeterValuesReqMsg2DB L E histRowid (cstr rtt.serNumber) p
  pure (id.getD 0)

theorem onStartTransaction_storing (p : StartTransactionRequest) :
    onStartTransactionRequestMessage2DB E req rtt p sern =
      storing E req rtt sern (storeStart E p) := rfl

theorem onStopTransaction_storing (p : StopTransactionRequest) :
    onStopTransactionRequestMessage2DB L E req rtt p sern =
      storing E req
        { rtt with errCode := decimal p.meterStop, status := decimal p.transactionId } sern
        (storeStop L E p) := rfl

theorem onMeterValues_storing (p : MeterValuesRequest) :
    onMeterValuesRequestMessage2DB L E req rtt p sern =
      storing E req rtt sern (storeMeter L E p) := rfl

/-- Everything this can come to: nothing, the next history row, and what
refers to it when its rowid is positive. -/
theorem storing_cases (hq : (insertOcppHistorySql req rtt sern).QuoteFree)
    (store : Int → RttOcpp → Act Int) (k : Session Server) :
    (storing E req rtt sern store k).2.state = k.state ∨
    ∃ t : Table (noKey (α := CSHist)),
      t.rows = k.state.csHist.rows ++
        [⟨k.state.csHist.nextRowid, ocppHistoryRow req rtt sern⟩] ∧
      ((storing E req rtt sern store k).2.state = { k.state with csHist := t } ∨
        (storing E req rtt sern store k).2.state =
          (store (wrap32 k.state.csHist.nextRowid) { rtt with serNumber := sern }
            ⟨{ k.state with csHist := t }, k.asked + 2⟩).2.state) := by
  unfold storing
  rw [createConnection_bind]
  by_cases hopen : E.raises k.asked = none
  · rw [if_pos hopen, Action.bind_apply]
    rcases insertOcppHistory2DB_cases (E := E) hq k.tick with
      ⟨hstate, hresult⟩ | ⟨t, hrows, hdone⟩
    · left
      generalize insertOcppHistory2DB E req rtt sern k.tick = done at hstate hresult
      obtain ⟨result, k'⟩ := done
      dsimp only at hstate hresult ⊢
      cases result with
      | none => exact hstate
      | some found =>
        obtain ⟨id, rtt'⟩ := found
        have hid : id = -1 := hresult id rtt' rfl
        dsimp only
        rw [if_neg (by omega)]
        exact hstate
    · right
      rw [hdone]
      refine ⟨t, hrows, ?_⟩
      dsimp only
      by_cases hpos : 0 < wrap32 k.tick.state.csHist.nextRowid
      · rw [if_pos hpos]
        exact Or.inr rfl
      · rw [if_neg hpos]
        exact Or.inl rfl
  · rw [if_neg hopen]
    exact Or.inl rfl

theorem histStep_of_refStep (hq : (insertOcppHistorySql req rtt sern).QuoteFree)
    {store : Int → RttOcpp → Act Int}
    (hstore : ∀ id rtt' k, RefStep id k.state (store id rtt' k).2.state) (s : Server) :
    HistStep s (s.after (storing E req rtt sern store)) := by
  unfold Server.after
  rcases storing_cases (E := E) hq store s.start with hsame | ⟨t, hrows, hdone⟩
  · rw [hsame]
    exact .same rfl fun k => by cases k <;> rfl
  · have hrowids : t.rows.map Row.rowid =
        s.csHist.rows.map Row.rowid ++ [s.csHist.nextRowid] := by
      rw [hrows, List.map_append]
      rfl
    rcases hdone with hdone | hdone
    · rw [hdone]
      exact .stored hrowids fun k => Or.inl (by cases k <;> rfl)
    · rw [hdone]
      have href := hstore (wrap32 s.csHist.nextRowid) { rtt with serNumber := sern }
        ⟨{ s.start.state with csHist := t }, s.start.asked + 2⟩
      refine .stored (href.hist.trans hrowids) fun k => ?_
      cases k <;> exact href.refs _

/-- An appended row of a table of references. -/
theorem refs_append {α : Type} {t t' : Table (noKey (α := α))} {a : α} (ref : α → Int)
    (h : t'.rows = t.rows ++ [⟨t.nextRowid, a⟩]) :
    ∃ id, (∀ x ∈ refList ref t, x.1 ≠ id) ∧
      refList ref t' = refList ref t ++ [(id, ref a)] := by
  unfold refList
  refine ⟨t.nextRowid, ?_, ?_⟩
  · intro x hx
    obtain ⟨r, hr, rfl⟩ := List.mem_map.mp hx
    exact Int.ne_of_lt (t.rowid_lt_next hr)
  · rw [h, List.map_append]
    rfl

theorem storeStart_refStep {p : StartTransactionRequest} (htag : '\'' ∉ cstr p.idTag.toText)
    (id : Int) (rtt' : RttOcpp) (k : Session Server) :
    RefStep id k.state (storeStart E p id rtt' k).2.state := by
  unfold storeStart
  rw [Action.bind_apply]
  rcases StartTrTbl.insert_cases E (insertStartTransactionSql id p)
    (·.insert (startTrRow id p)) k with hx | ⟨t, n, hins, _, hx⟩
  · have hinsert : insertStartTransactionReqMsg2DB E id p k = (none, k.tick) := by
      unfold insertStartTransactionReqMsg2DB
      rw [Action.bind_apply, hx]
      rfl
    rw [hinsert]
    exact ⟨rfl, fun _ => Or.inl rfl⟩
  · rw [if_pos (insertStartTransactionSql_quoteFree.mpr htag)] at hins
    have hinsert : insertStartTransactionReqMsg2DB E id p k =
        (some (wrap32 n), ⟨StartTrTbl.set k.state t, k.asked + 1⟩) := by
      unfold insertStartTransactionReqMsg2DB
      rw [Action.bind_apply, hx]
      rfl
    rw [hinsert]
    have hwrites : Writes [.csHist] (updateHistOnStartTransaction E
        { rtt' with errCode := decimal p.meterStart, status := decimal (wrap32 n) } id) :=
      updateHistOnStartTransaction_writes (by simp)
    have honly := hwrites ⟨StartTrTbl.set k.state t, k.asked + 1⟩
    have hrowids : (updateHistOnStartTransaction E
        { rtt' with errCode := decimal p.meterStart, status := decimal (wrap32 n) } id
        ⟨StartTrTbl.set k.state t, k.asked + 1⟩).2.state.csHist.rows.map Row.rowid =
        k.state.csHist.rows.map Row.rowid := by
      unfold updateHistOnStartTransaction
      by_cases hser : rtt'.serNumber = []
      · rw [if_pos hser]
        rfl
      · rw [if_neg hser]
        rcases CSHistTbl.update_cases E _ _ ⟨StartTrTbl.set k.state t, k.asked + 1⟩ with
          hu | ⟨g, t', m, _, hrw, _, hu⟩
        · rw [hu]
          rfl
        · rw [hu]
          exact Table.rewrite_rowids hrw
    change RefStep id k.state (updateHistOnStartTransaction E
      { rtt' with errCode := decimal p.meterStart, status := decimal (wrap32 n) } id
      ⟨StartTrTbl.set k.state t, k.asked + 1⟩).2.state
    generalize updateHistOnStartTransaction E _ id _ = done at honly hrowids ⊢
    refine ⟨hrowids, fun j => ?_⟩
    cases j with
    | startTr =>
      right
      obtain ⟨i, hnew, hrows⟩ := refs_append StartTr.hRowId (Table.insert_spec hins).2
      exact ⟨i, hnew, (congrArg (refList StartTr.hRowId) (honly.startTr (by simp))).trans hrows⟩
    | stopTr => exact Or.inl (congrArg (refList StopTr.hRowId) (honly.stopTr (by simp)))
    | meterV => exact Or.inl (congrArg (refList MeterV.hRowId) (honly.meterV (by simp)))

theorem startTransaction_histStep {p : StartTransactionRequest}
    (hq : (insertOcppHistorySql req rtt sern).QuoteFree) (htag : '\'' ∉ cstr p.idTag.toText)
    (s : Server) :
    HistStep s (s.after (onStartTransactionRequestMessage2DB E req rtt p sern)) := by
  rw [onStartTransaction_storing]
  exact histStep_of_refStep hq (storeStart_refStep htag) s

theorem storeStop_refStep (p : StopTransactionRequest) (id : Int) (rtt' : RttOcpp)
    (k : Session Server) : RefStep id k.state (storeStop L E p id rtt' k).2.state := by
  unfold storeStop insertStopTransactionReqMsg2DB
  rcases StopTrTbl.insert_cases E insertStopTransactionSql (·.insert (stopTrRow L id p)) k with
    hx | ⟨t, n, hins, _, hx⟩
  · simp only [Action.bind_apply, hx]
    exact ⟨rfl, fun _ => Or.inl rfl⟩
  · rw [if_pos insertStopTransactionSql_quoteFree] at hins
    simp only [Action.bind_apply, hx]
    refine ⟨rfl, fun j => ?_⟩
    cases j with
    | startTr => exact Or.inl rfl
    | stopTr => exact Or.inr (refs_append StopTr.hRowId (Table.insert_spec hins).2)
    | meterV => exact Or.inl rfl

theorem stopTransaction_histStep {p : StopTransactionRequest}
    (hq : (insertOcppHistorySql req { rtt with
      errCode := decimal p.meterStop, status := decimal p.transactionId } sern).QuoteFree)
    (s : Server) :
    HistStep s (s.after (onStopTransactionRequestMessage2DB L E req rtt p sern)) := by
  rw [onStopTransaction_storing]
  exact histStep_of_refStep hq (storeStop_refStep p) s

/-- The last meter row of a serial number. -/
def Server.lastMeter (s : Server) (csSern : Text) : Option (Row MeterV) :=
  (s.meterV.select (·.cols.csSerN = csSern)).getLast?

/-- Storing meter values does nothing, or appends a row whose flag is positive
and, when the serial number can be looked up, far enough from the last. -/
theorem insertMeterValues_cases (id : Int) (csSern : Text) (p : MeterValuesRequest)
    (k : Session Server) :
    (insertMeterValuesReqMsg2DB L E id csSern p k).2.state = k.state ∨
    ∃ t, t.rows = k.state.meterV.rows ++
        [⟨k.state.meterV.nextRowid, meterVRow L id csSern p⟩] ∧
      (insertMeterValuesReqMsg2DB L E id csSern p k).2.state = MeterVTbl.set k.state t ∧
      0 < firstSeconds p.meterValue ∧
      ('\'' ∉ csSern → ∀ r, k.state.lastMeter csSern = some r →
        wrap32 r.cols.flag = -1 ∨ 120 ≤ firstSeconds p.meterValue - wrap32 r.cols.flag) := by
  unfold insertMeterValuesReqMsg2DB
  dsimp only
  by_cases hpos : 0 < firstSeconds p.meterValue
  · rw [if_pos hpos, Action.bind_apply, TableAt.read_snd]
    have hread : '\'' ∉ csSern → ∀ flags, (MeterVTbl.read E (lastFlagSql csSern)
        (fun t => (((t.select (·.cols.csSerN = csSern)).getLast?).map
          (fun r => wrap32 r.cols.flag)).toList) (cellInt · 0) k).1.all = some flags →
        flags = ((k.state.lastMeter csSern).map fun r => wrap32 r.cols.flag).toList := by
      intro hquote flags hflags
      rcases MeterVTbl.read_all_cases (E := E)
        (fun t => (((t.select (·.cols.csSerN = csSern)).getLast?).map
          (fun r => wrap32 r.cols.flag)).toList) (cellInt · 0) k
        (lastFlagSql_quoteFree.mpr hquote) with hnone | hall
      · rw [hnone] at hflags
        cases hflags
      · rw [hall] at hflags
        cases hflags
        rfl
    generalize (MeterVTbl.read E (lastFlagSql csSern) _ _ k).1.all = found at hread
    cases found with
    | none => exact Or.inl rfl
    | some flags =>
      dsimp only
      by_cases hfar : flags.getLast?.getD (-1) = -1 ∨
          120 ≤ firstSeconds p.meterValue - flags.getLast?.getD (-1)
      · rw [if_pos hfar, Action.bind_apply]
        rcases MeterVTbl.insert_cases E insertMeterValuesSql
          (·.insert (meterVRow L id csSern p)) k.tick with hx | ⟨t, n, hins, _, hx⟩
        · rw [hx]
          exact Or.inl rfl
        · rw [if_pos insertMeterValuesSql_quoteFree] at hins
          rw [hx]
          refine Or.inr ⟨t, (Table.insert_spec hins).2, rfl, hpos, ?_⟩
          intro hquote r hr
          rw [hread hquote flags rfl, hr] at hfar
          exact hfar
      · rw [if_neg hfar]
        exact Or.inl rfl
  · rw [if_neg hpos]
    exact Or.inl rfl

theorem storeMeter_refStep (p : MeterValuesRequest) (id : Int) (rtt' : RttOcpp)
    (k : Session Server) : RefStep id k.state (storeMeter L E p id rtt' k).2.state := by
  unfold storeMeter
  rw [Action.bind_apply]
  change RefStep id k.state
    (insertMeterValuesReqMsg2DB L E id (cstr rtt'.serNumber) p k).2.state
  rcases insertMeterValues_cases (L := L) (E := E) id (cstr rtt'.serNumber) p k with
    hsame | ⟨t, hrows, hstate, _, _⟩
  · rw [hsame]
    exact ⟨rfl, fun _ => Or.inl rfl⟩
  · rw [hstate]
    refine ⟨rfl, fun j => ?_⟩
    cases j with
    | startTr => exact Or.inl rfl
    | stopTr => exact Or.inl rfl
    | meterV => exact Or.inr (refs_append MeterV.hRowId hrows)

theorem meterValues_histStep {p : MeterValuesRequest}
    (hq : (insertOcppHistorySql req rtt sern).QuoteFree) (s : Server) :
    HistStep s (s.after (onMeterValuesRequestMessage2DB L E req rtt p sern)) := by
  rw [onMeterValues_storing]
  exact histStep_of_refStep hq (storeMeter_refStep p) s

/-- Clearing does nothing, or deletes the history rows of the serial
number. -/
theorem clear_cases (hquote : '\'' ∉ cstr sern) (cid : Int) (s : Server) :
    (s.after (clearAllChargeStationsHistory E cid sern)).csHist = s.csHist ∨
    (s.after (clearAllChargeStationsHistory E cid sern)).csHist =
      (s.csHist.delete (·.cols.csSerN = cstr sern)).1 := by
  unfold Server.after clearAllChargeStationsHistory
  rw [createConnection_bind]
  by_cases hopen : E.raises s.start.asked = none
  · rw [if_pos hopen, Action.bind_apply]
    rcases CSHistTbl.delete_cases E (clearHistorySql sern) (·.cols.csSerN = cstr sern)
      s.start.tick (clearHistorySql_quoteFree.mpr hquote) with hx | hx
    · rw [hx]
      exact Or.inl rfl
    · rw [hx]
      exact Or.inr rfl
  · rw [if_neg hopen]
    exact Or.inl rfl

variable (sern) in
theorem clear_writes (cid : Int) :
    Writes [.csHist] (clearAllChargeStationsHistory E cid sern) := by
  refine .bind (.createConnection E) fun _ => .ite (fun _ => ?_) fun _ => .pure _
  refine .bind (TableAt.delete_within _ Only.frame fun s q => ?_) fun _ => .pure _
  exact Only.set_csHist (by simp) s _

end Storing

section References

variable {L : Lib} {E : Env}

/-- Which message of the run inserted a row, by its rowid; none for the rows
that were there before. -/
structure Origins where
  messages : Nat
  hist : Int → Option Nat
  ref : RefTable → Int → Option Nat

def Origins.start : Origins := ⟨0, fun _ => none, fun _ _ => none⟩

/-- The rows that are new after a message are its own. -/
def Origins.message (b : Origins) (s t : Server) : Origins where
  messages := b.messages + 1
  hist id :=
    if id ∈ t.csHist.rows.map Row.rowid ∧ id ∉ s.csHist.rows.map Row.rowid then
      some b.messages
    else b.hist id
  ref k id :=
    if id ∈ (t.refRows k).map Prod.fst ∧ id ∉ (s.refRows k).map Prod.fst then
      some b.messages
    else b.ref k id

def Origins.note (b : Origins) (v : Visit Server (Env × HistoryOp)) : Origins :=
  match v.event.2 with
  | .clear _ _ => b
  | _ => b.message v.before v.after

/-- No row holds the rowid of a history row of another message. -/
def RefersOwn (p : Server × Origins) : Prop :=
  ∀ k, ∀ x ∈ p.1.refRows k, x.2 ∈ p.1.csHist.rows.map Row.rowid →
    ∀ m n, p.2.ref k x.1 = some m → p.2.hist x.2 = some n → m = n

/-- Every HRowId is below the rowid the next history row gets. -/
def RefsBelow (s : Server) : Prop :=
  ∀ k, ∀ x ∈ s.refRows k, x.2 < s.csHist.nextRowid

/-- The rowid the next history row gets is an int. -/
def RowidFits (s : Server) : Prop :=
  -(2 ^ 31) ≤ s.csHist.nextRowid ∧ s.csHist.nextRowid < 2 ^ 31

/-- What an operation has to find: a message brings no quote into the
statements that store it and its history row's rowid is an int; clearing
leaves a history row above every HRowId. -/
def KeptOp (s : Server) (e : Env × HistoryOp) : Prop :=
  match e.2 with
  | .startTransaction req rtt p sern => (insertOcppHistorySql req rtt sern).QuoteFree ∧
    '\'' ∉ cstr p.idTag.toText ∧ RowidFits s
  | .stopTransaction req rtt p sern => (insertOcppHistorySql req { rtt with
      errCode := decimal p.meterStop, status := decimal p.transactionId } sern).QuoteFree ∧
    RowidFits s
  | .meterValues req rtt _ sern => (insertOcppHistorySql req rtt sern).QuoteFree ∧ RowidFits s
  | .clear _ sern => '\'' ∉ cstr sern ∧
    ∀ k, ∀ x ∈ s.refRows k, ∃ h ∈ s.csHist.rows, h.cols.csSerN ≠ cstr sern ∧ x.2 ≤ h.rowid

variable {b : Origins} {s t : Server}

/-- The invariant of a run: references are below and one's own. -/
structure RefsKept (p : Server × Origins) : Prop where
  below : RefsBelow p.1
  own : RefersOwn p

theorem nextRowid_of_rowids {u : Table (noKey (α := CSHist))} {n : Int} {ids : List Int}
    (h : u.rows.map Row.rowid = ids ++ [n]) : u.nextRowid = n + 1 := by
  unfold Table.nextRowid
  rw [Table.lastRowid_eq, h, List.getLast?_concat]
  rfl

theorem RefsKept.same (hkept : RefsKept (s, b)) (hist : t.csHist = s.csHist)
    (refs : ∀ k, t.refRows k = s.refRows k) : RefsKept (t, b.message s t) := by
  refine ⟨?_, ?_⟩
  · intro k x hx
    rw [hist]
    exact hkept.below k x (refs k ▸ hx)
  · intro k x hx hmem m n hm hn
    have href : (b.message s t).ref k x.1 = b.ref k x.1 := by
      refine if_neg ?_
      rw [refs k]
      exact fun h => h.2 h.1
    have hhist : (b.message s t).hist x.2 = b.hist x.2 := by
      refine if_neg ?_
      rw [hist]
      exact fun h => h.2 h.1
    dsimp only at hx hmem hm hn
    rw [href] at hm
    rw [hhist] at hn
    rw [refs k] at hx
    rw [hist] at hmem
    exact hkept.own k x hx hmem m n hm hn

/-- A row is as before, or it is the one that was added. -/
theorem mem_added {rows rows' : List (Int × Int)} {ref : Int} {x : Int × Int}
    (h : rows' = rows ∨ ∃ id, (∀ y ∈ rows, y.1 ≠ id) ∧ rows' = rows ++ [(id, ref)])
    (hx : x ∈ rows') : x ∈ rows ∨ (x.1 ∉ rows.map Prod.fst ∧ x.2 = ref) := by
  rcases h with rfl | ⟨id, hnew, rfl⟩
  · exact Or.inl hx
  · rcases List.mem_append.mp hx with hold | hlast
    · exact Or.inl hold
    · rw [List.mem_singleton.mp hlast]
      refine Or.inr ⟨fun hmem => ?_, rfl⟩
      obtain ⟨y, hy, hid⟩ := List.mem_map.mp hmem
      exact hnew y hy hid

/-- The row a message adds to the history is above all references, and the
one it adds elsewhere holds its rowid. -/
theorem RefsKept.stored (hkept : RefsKept (s, b)) (hfits : RowidFits s)
    (hist : t.csHist.rows.map Row.rowid =
      s.csHist.rows.map Row.rowid ++ [s.csHist.nextRowid])
    (refs : ∀ k, t.refRows k = s.refRows k ∨
      ∃ id, (∀ x ∈ s.refRows k, x.1 ≠ id) ∧
        t.refRows k = s.refRows k ++ [(id, wrap32 s.csHist.nextRowid)]) :
    RefsKept (t, b.message s t) := by
  rw [wrap32_of_range hfits] at refs
  have hfresh : s.csHist.nextRowid ∉ s.csHist.rows.map Row.rowid := by
    intro hmem
    obtain ⟨r, hr, hid⟩ := List.mem_map.mp hmem
    have := s.csHist.rowid_lt_next hr
    omega
  refine ⟨?_, ?_⟩
  · intro k x hx
    have hnext : t.csHist.nextRowid = s.csHist.nextRowid + 1 := nextRowid_of_rowids hist
    rw [hnext]
    rcases mem_added (refs k) hx with hold | ⟨_, hid⟩
    · have := hkept.below k x hold
      dsimp only at this
      omega
    · omega
  · intro k x hx hmem m n hm hn
    dsimp only at hx hmem hm hn
    rcases mem_added (refs k) hx with hold | ⟨hnew, hid⟩
    · have hlt : x.2 < s.csHist.nextRowid := hkept.below k x hold
      have hmem' : x.2 ∈ s.csHist.rows.map Row.rowid := by
        rw [hist] at hmem
        rcases List.mem_append.mp hmem with hin | hlast
        · exact hin
        · have := List.mem_singleton.mp hlast
          omega
      have href : (b.message s t).ref k x.1 = b.ref k x.1 :=
        if_neg fun h => h.2 (List.mem_map_of_mem hold)
      have hhist : (b.message s t).hist x.2 = b.hist x.2 := if_neg fun h => h.2 hmem'
      rw [href] at hm
      rw [hhist] at hn
      exact hkept.own k x hold hmem' m n hm hn
    · have href : (b.message s t).ref k x.1 = some b.messages :=
        if_pos ⟨List.mem_map_of_mem hx, hnew⟩
      have hhist : (b.message s t).hist x.2 = some b.messages := by
        refine if_pos ⟨hmem, ?_⟩
        rw [hid]
        exact hfresh
      rw [href] at hm
      rw [hhist] at hn
      cases hm
      cases hn
      rfl

theorem RefsKept.histStep (hkept : RefsKept (s, b)) (hfits : RowidFits s) (h : HistStep s t) :
    RefsKept (t, b.message s t) := by
  cases h with
  | same hist refs => exact hkept.same hist refs
  | stored hist refs => exact hkept.stored hfits hist refs

theorem RefsKept.clear {cid : Int} {sern : Text} (hkept : RefsKept (s, b))
    (h : KeptOp s (E, .clear cid sern)) :
    RefsKept (s.after (clearAllChargeStationsHistory E cid sern), b) := by
  obtain ⟨hquote, habove⟩ := h
  have honly := clear_writes (E := E) sern cid s.start
  have hrefs : ∀ k, (s.after (clearAllChargeStationsHistory E cid sern)).refRows k =
      s.refRows k := by
    intro k
    cases k with
    | startTr => exact congrArg (refList StartTr.hRowId) (honly.startTr (by simp))
    | stopTr => exact congrArg (refList StopTr.hRowId) (honly.stopTr (by simp))
    | meterV => exact congrArg (refList MeterV.hRowId) (honly.meterV (by simp))
  rcases clear_cases (E := E) hquote cid s with hsame | hdeleted
  · refine ⟨fun k x hx => ?_, fun k x hx hmem m n hm hn => ?_⟩
    · dsimp only at hx ⊢
      rw [hrefs k] at hx
      rw [hsame]
      exact hkept.below k x hx
    · dsimp only at hx hmem
      rw [hrefs k] at hx
      rw [hsame] at hmem
      exact hkept.own k x hx hmem m n hm hn
  · have hsub : ∀ r, r ∈ (s.after (clearAllChargeStationsHistory E cid sern)).csHist.rows ↔
        r ∈ s.csHist.rows ∧ r.cols.csSerN ≠ cstr sern := by
      intro r
      rw [hdeleted]
      simp [Table.delete]
    refine ⟨fun k x hx => ?_, fun k x hx hmem m n hm hn => ?_⟩
    · dsimp only at hx ⊢
      rw [hrefs k] at hx
      obtain ⟨r, hr, hother, hle⟩ := habove k x hx
      exact Int.lt_of_le_of_lt hle (Table.rowid_lt_next _ ((hsub r).mpr ⟨hr, hother⟩))
    · dsimp only at hx hmem
      rw [hrefs k] at hx
      obtain ⟨r, hr, hid⟩ := List.mem_map.mp hmem
      have hmem' : x.2 ∈ s.csHist.rows.map Row.rowid :=
        List.mem_map.mpr ⟨r, ((hsub r).mp hr).1, hid⟩
      exact hkept.own k x hx hmem' m n hm hn

theorem RefsKept.step {p : Server × Origins} {e : Env × HistoryOp} (hkept : RefsKept p)
    (h : KeptOp p.1 e) : RefsKept (noting (HistoryOp.step L) Origins.note p e) := by
  obtain ⟨s, b⟩ := p
  obtain ⟨E, op⟩ := e
  cases op with
  | startTransaction req rtt q sern =>
    obtain ⟨hq, htag, hfits⟩ := h
    exact hkept.histStep hfits (startTransaction_histStep hq htag s)
  | stopTransaction req rtt q sern =>
    obtain ⟨hq, hfits⟩ := h
    exact hkept.histStep hfits (stopTransaction_histStep hq s)
  | meterValues req rtt q sern =>
    obtain ⟨hq, hfits⟩ := h
    exact hkept.histStep hfits (meterValues_histStep hq s)
  | clear cid sern => exact hkept.clear h

end References

/-- In every run of such operations from tables whose references are below the
next rowid no row holds the rowid of a history row of another message. -/
theorem references_own (L : Lib) (s : Server) (hbelow : RefsBelow s)
    (es : List (Env × HistoryOp))
    (hkept : Meets (noting (HistoryOp.step L) Origins.note) (fun p e => KeptOp p.1 e)
      (s, Origins.start) es) :
    ∀ v ∈ visits (noting (HistoryOp.step L) Origins.note) (s, Origins.start) es,
      RefersOwn v.after := by
  intro v hv
  have hstart : RefsKept (s, Origins.start) :=
    ⟨hbelow, fun k x _ _ m n hm _ => by cases hm⟩
  exact (visits_invariant RefsKept (fun _ _ hI hok => hI.step hok) hstart hkept hv).2.own

/-- A StartTransaction of the station `sern`. -/
def startOf (sern : Text) : HistoryOp := .startTransaction {} { ts := 0 } someStart sern

/-- Two stations start a transaction, then the history of the first one is
cleared. -/
theorem references_own_cleared :
    (visits (noting (HistoryOp.step .refusing) Origins.note) (Server.empty, Origins.start)
      [(.calm, startOf "GRS-1"), (.calm, startOf "GRS-2"),
        (.calm, .clear 1 "GRS-1")]).Forall fun v => RefersOwn v.after := by
  apply List.forall_iff_forall_mem.mpr
  have hbelow : RefsBelow Server.empty := by
    intro k x hx
    cases k <;> cases hx
  apply references_own .refusing Server.empty hbelow
  refine meets_cons.mpr ⟨⟨by decide, by decide, by decide, by decide⟩, ?_⟩
  refine meets_cons.mpr ⟨⟨by decide, by decide, by decide +kernel, by decide +kernel⟩, ?_⟩
  refine meets_cons.mpr ⟨⟨by decide, fun k => ?_⟩, Meets.nil _⟩
  cases k <;> decide +kernel

/-- A history that is cleared to its end gives the rowid to another message. -/
theorem cleared_rowid_reused :
    ¬ ∀ v ∈ visits (noting (HistoryOp.step .refusing) Origins.note)
        (Server.empty, Origins.start)
        [(.calm, startOf "GRS-1"), (.calm, .clear 1 "GRS-1"), (.calm, startOf "GRS-2")],
      RefersOwn v.after := by
  intro h
  have hlast := h _ (List.mem_cons_of_mem _ (List.mem_cons_of_mem _ (List.mem_cons_self ..)))
  have heq := hlast .startTr (1, 1) (by decide +kernel) (by decide +kernel) 0 1
    (by decide +kernel) (by decide +kernel)
  cases heq

section Flags

variable {L : Lib} {E : Env} {s : Server}

/-- The flags of the meter rows are positive, and those of one serial number
two minutes apart from each other. -/
structure FlagsSpaced (s : Server) : Prop where
  positive : ∀ r ∈ s.meterV.rows, 0 < r.cols.flag
  spaced : ∀ N, (s.meterV.select (·.cols.csSerN = N)).Pairwise
    fun a b => a.cols.flag + 120 ≤ b.cols.flag

/-- Moreover they are ints, so they are read back as they are. -/
structure FlagsKept (s : Server) : Prop extends FlagsSpaced s where
  fits : ∀ r ∈ s.meterV.rows, r.cols.flag < 2 ^ 31

/-- What a message has to bring: a serial number the last flag is looked up
by. -/
def LookedUp (_s : Server) (e : Env × HistoryOp) : Prop :=
  match e.2 with
  | .meterValues _ _ _ sern => '\'' ∉ cstr sern
  | _ => True

theorem firstSeconds_lt (entries : List MeterValueEntry) : firstSeconds entries < 2 ^ 31 := by
  have hfold : ∀ (entries : List MeterValueEntry) (n : Int), n < 2 ^ 31 →
      entries.foldl (fun gTs v =>
        if gTs = 0 then wrap32 ((v.timestamp.tdiv 1000000).tdiv 1000) else gTs) n < 2 ^ 31 := by
    intro entries
    induction entries with
    | nil => exact fun n hn => hn
    | cons v entries ih =>
      intro n hn
      rw [List.foldl_cons]
      apply ih
      split
      · exact wrap32_lt _
      · exact hn
  exact hfold entries 0 (by decide)

/-- A flag far enough from the last one of its serial number is far enough
from all. -/
theorem FlagsKept.far (h : FlagsKept s) {N : Text} {f : Int}
    (hlast : ∀ r, s.lastMeter N = some r →
      wrap32 r.cols.flag = -1 ∨ 120 ≤ f - wrap32 r.cols.flag) :
    ∀ a ∈ s.meterV.select (·.cols.csSerN = N), a.cols.flag + 120 ≤ f := by
  intro a ha
  obtain ⟨rest, r, hrows⟩ := (List.eq_nil_or_concat
    (s.meterV.select (·.cols.csSerN = N))).resolve_left (List.ne_nil_of_mem ha)
  rw [List.concat_eq_append] at hrows
  have hmem : r ∈ s.meterV.rows := by
    have hr : r ∈ s.meterV.select (·.cols.csSerN = N) := by simp [hrows]
    exact (List.mem_filter.mp hr).1
  have hread : wrap32 r.cols.flag = r.cols.flag := by
    have := h.positive r hmem
    have := h.fits r hmem
    exact wrap32_of_range (by omega)
  have hfar : r.cols.flag + 120 ≤ f := by
    have hpos := h.positive r hmem
    have hr := hlast r (by rw [Server.lastMeter, hrows, List.getLast?_concat])
    rw [hread] at hr
    omega
  have hspaced := h.spaced N
  rw [hrows, List.pairwise_append] at hspaced
  rw [hrows] at ha
  rcases List.mem_append.mp ha with hold | hend
  · have := hspaced.2.2 a hold r (List.mem_singleton_self r)
    omega
  · rw [List.mem_singleton.mp hend]
    exact hfar

theorem FlagsKept.append (h : FlagsKept s) {t : Server} {N : Text} {id : Int}
    {p : MeterValuesRequest}
    (hrows : t.meterV.rows = s.meterV.rows ++ [⟨s.meterV.nextRowid, meterVRow L id N p⟩])
    (hpos : 0 < firstSeconds p.meterValue)
    (hlast : ∀ r, s.lastMeter N = some r →
      wrap32 r.cols.flag = -1 ∨ 120 ≤ firstSeconds p.meterValue - wrap32 r.cols.flag) :
    FlagsKept t := by
  refine ⟨⟨?_, ?_⟩, ?_⟩
  · intro r hr
    rw [hrows] at hr
    rcases List.mem_append.mp hr with hold | hnew
    · exact h.positive r hold
    · rw [List.mem_singleton.mp hnew]
      exact hpos
  · intro N'
    unfold Table.select
    rw [hrows, List.filter_append, List.pairwise_append]
    refine ⟨h.spaced N', List.Pairwise.filter _ (List.pairwise_singleton _ _), ?_⟩
    intro a ha b hb
    obtain ⟨hb, hser⟩ := List.mem_filter.mp hb
    rw [List.mem_singleton.mp hb] at hser ⊢
    have hsame : N = N' := of_decide_eq_true hser
    exact h.far hlast a (hsame ▸ ha)
  · intro r hr
    rw [hrows] at hr
    rcases List.mem_append.mp hr with hold | hnew
    · exact h.fits r hold
    · rw [List.mem_singleton.mp hnew]
      exact firstSeconds_lt _

theorem FlagsKept.same (h : FlagsKept s) {t : Server} (ht : t.meterV = s.meterV) :
    FlagsKept t := by
  refine ⟨⟨?_, ?_⟩, ?_⟩
  · rw [ht]
    exact h.positive
  · rw [ht]
    exact h.spaced
  · rw [ht]
    exact h.fits

/-- A history row that was stored leaves its serial number in the record. -/
theorem insertOcppHistory2DB_serial {req : OcppRequest} {rtt rtt' : RttOcpp} {sern : Text}
    {id : Int} (k : Session Server)
    (h : (insertOcppHistory2DB E req rtt sern k).1 = some (id, rtt')) (hpos : 0 < id) :
    rtt'.serNumber = sern := by
  unfold insertOcppHistory2DB at h
  by_cases hsern : sern = []
  · rw [if_pos hsern] at h
    cases h
    omega
  · rw [if_neg hsern, Action.bind_apply] at h
    obtain ⟨n, _, hn⟩ := Option.map_eq_some_iff.mp h
    cases hn
    rfl

theorem FlagsKept.meterValues {req : OcppRequest} {rtt : RttOcpp} {p : MeterValuesRequest}
    {sern : Text} (h : FlagsKept s) (hquote : '\'' ∉ cstr sern) :
    FlagsKept (s.after (onMeterValuesRequestMessage2DB L E req rtt p sern)) := by
  unfold Server.after onMeterValuesRequestMessage2DB
  rw [createConnection_bind]
  by_cases hopen : E.raises s.start.asked = none
  · rw [if_pos hopen, Action.bind_apply]
    have hwrites : Writes [.csHist] (insertOcppHistory2DB E req rtt sern) :=
      insertOcppHistory2DB_writes (by simp)
    have honly := hwrites s.start.tick
    have hserial (id : Int) (rtt' : RttOcpp)
        (hid : (insertOcppHistory2DB E req rtt sern s.start.tick).1 = some (id, rtt')) :
        0 < id → rtt'.serNumber = sern :=
      insertOcppHistory2DB_serial s.start.tick hid
    generalize insertOcppHistory2DB E req rtt sern s.start.tick = done at honly hserial
    obtain ⟨hist, k⟩ := done
    have hkept : FlagsKept k.state := h.same (honly.meterV (by simp))
    cases hist with
    | none => exact hkept
    | some found =>
      obtain ⟨id, rtt'⟩ := found
      dsimp only
      by_cases hpos : 0 < id
      · rw [if_pos hpos, Action.bind_apply]
        change FlagsKept (insertMeterValuesReqMsg2DB L E id (cstr rtt'.serNumber) p k).2.state
        rw [hserial id rtt' rfl hpos]
        rcases insertMeterValues_cases (L := L) (E := E) id (cstr sern) p k with
          hsame | ⟨t, hrows, hstate, hflag, hlast⟩
        · rw [hsame]
          exact hkept
        · rw [hstate]
          exact hkept.append hrows hflag (hlast hquote)
      · rw [if_neg hpos]
        exact hkept
  · rw [if_neg hopen]
    exact h.same rfl

theorem FlagsKept.step {e : Env × HistoryOp} (h : FlagsKept s) (hop : LookedUp s e) :
    FlagsKept (HistoryOp.step L s e) := by
  obtain ⟨E, op⟩ := e
  cases op with
  | startTransaction req rtt p sern =>
    exact h.same ((onStartTransaction_writes (T := [.csHist, .startTr]) (by simp) (by simp)
      s.start).meterV (by simp))
  | stopTransaction req rtt p sern =>
    exact h.same ((onStopTransaction_writes (T := [.csHist, .stopTr]) (by simp) (by simp)
      s.start).meterV (by simp))
  | meterValues req rtt p sern => exact h.meterValues hop
  | clear cid sern => exact h.same ((clear_writes sern cid s.start).meterV (by simp))

end Flags

/-- In every run whose meter values come under serial numbers without a quote
the flags of each serial number stay two minutes apart. -/
theorem flags_spaced (L : Lib) (s : Server) (hstart : FlagsKept s)
    (es : List (Env × HistoryOp)) (hlooked : Meets (HistoryOp.step L) LookedUp s es) :
    ∀ v ∈ visits (HistoryOp.step L) s es, FlagsSpaced v.after := by
  intro v hv
  exact (visits_invariant FlagsKept (fun _ _ h hop => h.step hop) hstart hlooked
    hv).2.toFlagsSpaced

/-- One reading. -/
def someReading : MeterValuesRequest := ⟨1, [⟨[], 1577836800000000000⟩], none⟩

/-- A reading of the station `sern`. -/
def readingOf (sern : Text) : HistoryOp := .meterValues {} { ts := 0 } someReading sern

/-- It is stored once. -/
theorem flags_spaced_twice :
    (visits (HistoryOp.step .refusing) Server.empty
      [(.calm, readingOf "GRS-1"), (.calm, readingOf "GRS-1")]).Forall
      fun v => FlagsSpaced v.after := by
  apply List.forall_iff_forall_mem.mpr
  have hquote : '\'' ∉ cstr "GRS-1" := by decide
  have hstart : FlagsKept Server.empty := by
    refine ⟨⟨?_, fun N => ?_⟩, ?_⟩
    · intro r hr
      cases hr
    · exact .nil
    · intro r hr
      cases hr
  apply flags_spaced .refusing Server.empty hstart
  exact meets_cons.mpr ⟨hquote, meets_cons.mpr ⟨hquote, Meets.nil _⟩⟩

/-- The engine that reads two literals with a concatenation between them. -/
def joiningEngine : Env :=
  { Env.calm with
    csHist := { Altered.refused _ with
      insert := fun text t =>
        if text = "INSERT INTO CSHistTbl (CSSerN,TS,IPAddr,Action,CSSts,ErrCode,RTValues) VALUES ('GRS-'||'abcdef',0,'','','*','*','*')".toList then
          t.insert ⟨"GRS-abcdef", 0, [], [], "*", "*", "*"⟩
        else none }
    meterV := { Altered.refused _ with
      select := fun text t =>
        if text = "SELECT Flag from MeterVTbl where CSSerN='GRS-'||'abcdef' order by ROWID DESC limit 1".toList then
          some (((t.select (·.cols.csSerN = "GRS-abcdef")).getLast?.map
            fun r => [Cell.int r.cols.flag]).toList)
        else none } }

set_option maxRecDepth 4000 in
/-- Under this serial number it is stored twice: the last flag is looked up
under another one. -/
theorem joined_serial_unspaced :
    ¬ ∀ v ∈ visits (HistoryOp.step .refusing) Server.empty
        [(joiningEngine, readingOf "GRS-'||'abcdef"),
          (joiningEngine, readingOf "GRS-'||'abcdef")], FlagsSpaced v.after := by
  intro h
  have hlast := (h _ (List.mem_cons_of_mem _ (List.mem_cons_self ..))).spaced "GRS-'||'abcdef"
  exact absurd hlast (by decide +kernel)

end UCLinux.Ocpp
