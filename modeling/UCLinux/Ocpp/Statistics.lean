import Mathlib.Data.List.Perm.Basic
import UCLinux.Ocpp.History
import UCLinux.Ocpp.ReadRequests

/-!
The statistics of a station: its readings, by transaction. Which transactions
are read is decided by two lists of history rows, the starts and the stops, one
of which is cut to the length of the other. On the way to the client connector
and transaction travel in one integer.
-/

namespace UCLinux.Ocpp

open Sql Machine Server HistoryDB

section Joining

variable {α κ : Type} [DecidableEq α] [DecidableEq κ]

theorem count_filter_eq (p : α → Bool) (a : α) (l : List α) :
    (l.filter p).count a = if p a then l.count a else 0 := by
  split
  · rename_i hp
    exact List.count_filter hp
  · rename_i hp
    apply List.count_eq_zero.mpr
    intro ha
    exact hp (List.mem_filter.mp ha).2

/-- An element is found once for each time its key is looked up. -/
theorem count_lookedUp (key : α → κ) (l : List α) (a : α) (ids : List κ) :
    (ids.flatMap fun id => l.filter (key · = id)).count a = ids.count (key a) * l.count a := by
  induction ids with
  | nil => simp
  | cons id ids ih =>
    rw [List.flatMap_cons, List.count_append, ih, count_filter_eq, List.count_cons]
    by_cases hkey : key a = id
    · rw [if_pos (decide_eq_true hkey), if_pos (beq_iff_eq.mpr hkey.symm),
        Nat.add_mul, Nat.one_mul, Nat.add_comm]
    · rw [if_neg (by simpa using hkey), if_neg (by simpa using Ne.symm hkey), Nat.zero_add,
        Nat.add_zero]

/-- Looking up a list of keys finds every element whose key is wanted once, and
nothing else, exactly when every key that occurs is looked up once if it is
wanted and never if it is not. -/
theorem lookedUp_perm_iff (key : α → κ) (wanted : κ → Bool) (l : List α) (ids : List κ) :
    (ids.flatMap fun id => l.filter (key · = id)).Perm (l.filter fun a => wanted (key a)) ↔
      ∀ a ∈ l, ids.count (key a) = if wanted (key a) then 1 else 0 := by
  rw [List.perm_iff_count]
  constructor
  · intro h a ha
    have hpos : 0 < l.count a := List.count_pos_iff.mpr ha
    have hcount := h a
    rw [count_lookedUp, count_filter_eq] at hcount
    split at hcount <;> rename_i hwanted
    · rw [if_pos hwanted]
      exact Nat.eq_of_mul_eq_mul_right hpos (by omega)
    · rw [if_neg hwanted]
      exact (Nat.mul_eq_zero.mp hcount).resolve_right (by omega)
  · intro h a
    rw [count_lookedUp, count_filter_eq]
    by_cases ha : a ∈ l
    · rw [h a ha]
      split
      · exact Nat.one_mul _
      · exact Nat.zero_mul _
    · rw [List.count_eq_zero.mpr ha]
      split <;> rfl

end Joining

section Reading

variable (s : Server) (sern : Text)

/-- The transaction ids in the history rows of an action. -/
def Server.transactionIds (action : Text) : List Int :=
  (s.csHist.select fun r => r.cols.action = action ∧ r.cols.csSerN = cstr sern).map
    fun r => str2Int r.cols.csSts

def Server.startIds : List Int := s.transactionIds sern "StartTransaction"

def Server.stopIds : List Int := s.transactionIds sern "StopTransaction"

def readingOfRow (r : Row MeterV) : CSStatistics :=
  ⟨r.cols.transactionId, wrap32 r.cols.connectorId, r.cols.meterValue⟩

/-- The readings of a station. -/
def Server.readings : List CSStatistics :=
  (s.meterV.select (·.cols.csSerN = cstr sern)).map readingOfRow

/-- The readings of the transactions that have a start and a stop in the
station's history. -/
def Server.finishedReadings : List CSStatistics :=
  (s.readings sern).filter fun q =>
    q.transactionId ∈ s.startIds sern ∧ q.transactionId ∈ s.stopIds sern

end Reading

section Right

variable {E : Env} {s : Server} {sern : Text}

theorem transactionIdsSql_literal {action : Text} (hquote : '\'' ∉ cstr sern) :
    (transactionIdsSql action sern).QuoteFree := by
  simp [transactionIdsSql, hquote, -String.reduceToList]

theorem readTransactionIds_literal (hE : E.Quiet) (hquote : '\'' ∉ cstr sern) (action : Text)
    (k : Session Server) :
    readTransactionIds E action sern k = (some (k.state.transactionIds sern action), k.tick) := by
  unfold readTransactionIds
  rw [Action.bind_apply, TableAt.read_snd,
    CSHistTbl.read_literal k (transactionIdsSql_literal hquote) (hE _)]
  rfl

theorem readMeterValues_literal (hE : E.Quiet) (hquote : '\'' ∉ cstr sern) (trId : Int)
    (k : Session Server) :
    readMeterValues E sern trId k =
      (⟨(k.state.readings sern).filter (·.transactionId = trId), false⟩, k.tick) := by
  have hsql : (meterValuesSql trId sern).QuoteFree := by
    simp [meterValuesSql, hquote, -String.reduceToList]
  have hrows : ((k.state.meterV.select fun r =>
      r.cols.transactionId = trId ∧ r.cols.csSerN = cstr sern).map fun r =>
        (⟨trId, wrap32 r.cols.connectorId, r.cols.meterValue⟩ : CSStatistics)) =
      (k.state.readings sern).filter (·.transactionId = trId) := by
    unfold Server.readings Table.select
    rw [List.filter_map, List.filter_filter]
    simp only [Bool.decide_and]
    apply List.map_congr_left
    intro r hr
    have hid : r.cols.transactionId = trId := by
      have hboth := (List.mem_filter.mp hr).2
      rw [Bool.and_eq_true] at hboth
      exact of_decide_eq_true hboth.1
    rw [← hid]
    rfl
  refine Prod.ext ?_ (TableAt.read_snd ..)
  unfold readMeterValues
  rw [MeterVTbl.read_literal k hsql (hE _), ← hrows]
  rfl

theorem readAllMeterValues_literal (hE : E.Quiet) (hquote : '\'' ∉ cstr sern) (trIds : List Int)
    (k : Session Server) :
    (readAllMeterValues E sern trIds k).1 =
      trIds.flatMap fun id => (k.state.readings sern).filter (·.transactionId = id) := by
  induction trIds generalizing k with
  | nil => rfl
  | cons trId trIds ih =>
    rw [readAllMeterValues, Action.bind_apply, readMeterValues_literal hE hquote]
    dsimp only
    rw [if_neg Bool.false_ne_true, Action.bind_apply, ih k.tick]
    rfl

/-- While the database works, the stops are read up to the number of starts. -/
theorem statistics_literal (hE : E.Quiet) (hquote : '\'' ∉ cstr sern) (cid : Int) :
    (getAllChargeStationsStatistics E cid sern s.start).1 =
      ((s.stopIds sern).take (s.startIds sern).length).flatMap fun id =>
        (s.readings sern).filter (·.transactionId = id) := by
  unfold getAllChargeStationsStatistics
  rw [createConnection_bind, if_pos (hE _), Action.bind_apply,
    readTransactionIds_literal hE hquote]
  dsimp only
  rw [Action.bind_apply, readTransactionIds_literal hE hquote]
  dsimp only
  rw [readAllMeterValues_literal hE hquote]
  rfl

theorem calm_quiet : Env.calm.Quiet := fun _ => rfl

/-- An engine that finds a reading whatever it is asked. -/
def Env.inventive : Env :=
  { Env.calm with
    csHist := { Altered.refused _ with select := fun _ _ => some [[.text "5"]] }
    meterV := { Altered.refused _ with select := fun _ _ => some [[.int 1, .text "x"]] } }

theorem inventive_quiet : Env.inventive.Quiet := fun _ => rfl

theorem transactionIdsSql_altered {action : Text} (hquote : '\'' ∈ cstr sern) :
    ¬(transactionIdsSql action sern).QuoteFree := by
  simp [transactionIdsSql, hquote, -String.reduceToList]

/-- The engine refuses the altered question. -/
theorem statistics_refused (hquote : '\'' ∈ cstr sern) :
    (getAllChargeStationsStatistics .calm 0 sern s.start).1 = [] := by
  have hnone : (readTransactionIds .calm "StartTransaction" sern s.start.tick).1 = none := by
    unfold readTransactionIds
    rw [Action.bind_apply]
    show Fetched.all (query _ _ _).1 = none
    rw [query_all_eq]
    exact (if_pos rfl).trans (if_neg (transactionIdsSql_altered hquote))
  unfold getAllChargeStationsStatistics
  rw [createConnection_bind, if_pos (calm_quiet _), Action.bind_apply, hnone]
  rfl

theorem statistics_invented (hquote : '\'' ∈ cstr sern) :
    (getAllChargeStationsStatistics .inventive 0 sern s.start).1 = [⟨5, 1, "x"⟩] := by
  have hids (action : Text) (k : Session Server) :
      readTransactionIds .inventive action sern k = (some [5], k.tick) := by
    unfold readTransactionIds
    rw [Action.bind_apply, TableAt.read_snd,
      CSHistTbl.read_altered k (transactionIdsSql_altered hquote) rfl rfl]
    rfl
  have hsql : ¬(meterValuesSql 5 sern).QuoteFree := by
    simp [meterValuesSql, hquote, -String.reduceToList]
  have hmeters (k : Session Server) : (readMeterValues .inventive sern 5 k).1 =
      ⟨[⟨5, 1, "x"⟩], false⟩ := by
    unfold readMeterValues
    rw [MeterVTbl.read_altered k hsql rfl rfl]
    rfl
  unfold getAllChargeStationsStatistics
  rw [createConnection_bind, if_pos (inventive_quiet _), Action.bind_apply, hids]
  dsimp only
  rw [Action.bind_apply, hids]
  dsimp only [List.length_cons, List.length_nil, List.take_succ_cons, List.take_zero]
  rw [readAllMeterValues, Action.bind_apply, hmeters]
  rfl

/-- The readings of the finished transactions are returned, each once, whatever
the engine makes of an altered text; the database does not raise. -/
def StatisticsRight (s : Server) (sern : Text) : Prop :=
  ∀ E : Env, E.Quiet → ∀ cid : Int,
    (getAllChargeStationsStatistics E cid sern s.start).1.Perm (s.finishedReadings sern)

/-- Of the stops up to the number of starts, one names each transaction that has
readings and is finished, and none a transaction that has readings and is not. -/
def StopsInStep (s : Server) (sern : Text) : Prop :=
  ∀ q ∈ s.readings sern,
    ((s.stopIds sern).take (s.startIds sern).length).count q.transactionId =
      if q.transactionId ∈ s.startIds sern ∧ q.transactionId ∈ s.stopIds sern then 1 else 0

theorem stopsInStep_iff (hquote : '\'' ∉ cstr sern) :
    StatisticsRight s sern ↔ StopsInStep s sern := by
  have hjoin := lookedUp_perm_iff CSStatistics.transactionId
    (fun id => decide (id ∈ s.startIds sern ∧ id ∈ s.stopIds sern)) (s.readings sern)
    ((s.stopIds sern).take (s.startIds sern).length)
  simp only [decide_eq_true_eq] at hjoin
  constructor
  · intro h
    have hcalm := h .calm calm_quiet 0
    rw [statistics_literal calm_quiet hquote] at hcalm
    exact hjoin.mp hcalm
  · intro h E hE cid
    rw [statistics_literal hE hquote]
    exact hjoin.mpr h

theorem not_statisticsRight_of_quote (hquote : '\'' ∈ cstr sern) : ¬StatisticsRight s sern := by
  intro h
  have hrefused := (h .calm calm_quiet 0).length_eq
  have hinvented := (h .inventive inventive_quiet 0).length_eq
  rw [statistics_refused hquote, List.length_nil] at hrefused
  rw [statistics_invented hquote, List.length_singleton] at hinvented
  omega

/-- The statistics of a station are right exactly when its serial number is read
as one literal and its stops are in step with its starts. -/
theorem statistics_right_iff (s : Server) (sern : Text) :
    StatisticsRight s sern ↔ '\'' ∉ cstr sern ∧ StopsInStep s sern := by
  constructor
  · intro h
    have hquote : '\'' ∉ cstr sern := fun hquote => not_statisticsRight_of_quote hquote h
    exact ⟨hquote, (stopsInStep_iff hquote).mp h⟩
  · rintro ⟨hquote, h⟩
    exact (stopsInStep_iff hquote).mpr h

end Right

/-- A station starts transaction 1, sends a reading of it and stops it; before,
it stops transaction 7, which was never started. -/
def strayStop : List HistoryOp :=
  let stop (id : Int) : HistoryOp := .stopTransaction { action := "StopTransaction" }
    { ts := 0 } ⟨none, 0, none, 0, none, id⟩ "GRS-1"
  [stop 7, .startTransaction { action := "StartTransaction" } { ts := 0 } someStart "GRS-1",
    .meterValues { action := "MeterValues" } { ts := 0 }
      { someReading with transactionId := some 1 } "GRS-1",
    stop 1]

set_option maxRecDepth 4000 in
theorem strayStop_unread :
    ¬StatisticsRight (run (HistoryOp.step .refusing) Server.empty
      (strayStop.map fun op => (.calm, op))) "GRS-1" := by
  intro h
  have hlen := (h .calm calm_quiet 0).length_eq
  exact absurd hlen (by decide +kernel)

/-- The values of an `int`. -/
def Int32Range (n : Int) : Prop := -(2 ^ 31) ≤ n ∧ n < 2 ^ 31

instance (n : Int) : Decidable (Int32Range n) := inferInstanceAs (Decidable (_ ∧ _))

theorem wrap32_emod (n : Int) : wrap32 (n % 2 ^ 32) = wrap32 n := Int.emod_bmod n (2 ^ 32)

section Keys

variable {c t c' t' : Int}

/-- The key is the sum, except that the least connector with a negative
transaction leaves the range of an `int64_t`. -/
theorem statisticsKey_eq (hc : Int32Range c) (ht : Int32Range t) :
    statisticsKey c t = c * 2 ^ 32 + t + if c = -(2 ^ 31) ∧ t < 0 then 2 ^ 64 else 0 := by
  unfold Int32Range at hc ht
  unfold statisticsKey
  rw [Int.bmod_def]
  split <;> split <;> omega

/-- The lower half of a key is the transaction. -/
theorem keyTransId_key (hc : Int32Range c) (ht : Int32Range t) :
    keyTransId (statisticsKey c t) = t := by
  have hlow : statisticsKey c t % 2 ^ 32 = t % 2 ^ 32 := by
    rw [statisticsKey_eq hc ht]
    split <;> omega
  unfold keyTransId
  rw [hlow, wrap32_emod]
  exact wrap32_of_range ht

/-- A negative transaction borrows one from the upper half. -/
theorem keyConnId_key (hc : Int32Range c) (ht : Int32Range t) :
    keyConnId (statisticsKey c t) = if t < 0 then wrap32 (c - 1) else c := by
  have hhigh : statisticsKey c t / 2 ^ 32 % 2 ^ 32 = (if t < 0 then c - 1 else c) % 2 ^ 32 := by
    unfold Int32Range at hc ht
    rw [statisticsKey_eq hc ht]
    split <;> split <;> omega
  unfold keyConnId
  rw [hhigh, wrap32_emod]
  split
  · rfl
  · exact wrap32_of_range hc

/-- Two pairs never share a key. -/
theorem statisticsKey_injective (hc : Int32Range c) (ht : Int32Range t) (hc' : Int32Range c')
    (ht' : Int32Range t') (hkey : statisticsKey c t = statisticsKey c' t') : c = c' ∧ t = t' := by
  rw [statisticsKey_eq hc ht, statisticsKey_eq hc' ht'] at hkey
  unfold Int32Range at hc ht hc' ht'
  split at hkey <;> split at hkey <;> omega

/-- The key of a pair is unpacked to it, and no other pair has this key. -/
def KeyRight (c t : Int) : Prop :=
  (keyConnId (statisticsKey c t), keyTransId (statisticsKey c t)) = (c, t) ∧
    ∀ c' t', Int32Range c' → Int32Range t' → statisticsKey c' t' = statisticsKey c t →
      (c', t') = (c, t)

/-- A pair of 32-bit values survives exactly when the transaction is not
negative. -/
theorem statisticsKey_right_iff (c t : BitVec 32) : KeyRight c.toInt t.toInt ↔ 0 ≤ t.toInt := by
  have hrange (x : BitVec 32) : Int32Range x.toInt := by
    have hlt := BitVec.toInt_lt (x := x)
    have hle := BitVec.le_toInt (x := x)
    exact ⟨hle, hlt⟩
  unfold KeyRight
  rw [keyConnId_key (hrange c) (hrange t), keyTransId_key (hrange c) (hrange t)]
  constructor
  · rintro ⟨hpair, -⟩
    by_contra hneg
    rw [if_pos (by omega)] at hpair
    have hconn : wrap32 (c.toInt - 1) = c.toInt := (Prod.mk.inj hpair).1
    unfold wrap32 at hconn
    rw [Int.bmod_def] at hconn
    split at hconn <;> omega
  · intro hpos
    refine ⟨by rw [if_neg (by omega)], ?_⟩
    intro c' t' hc' ht' hkey
    obtain ⟨rfl, rfl⟩ := statisticsKey_injective hc' ht' (hrange c) (hrange t) hkey
    rfl

/-- The key of connector 1 and transaction -1 is unpacked to connector 0. -/
theorem negativeTransaction_moved : ¬KeyRight 1 (-1) := by
  rintro ⟨hpair, -⟩
  exact absurd hpair (by decide)

end Keys

section Replies

variable {user : Text} {reparse : Text → Text} {stats : List CSStatistics}

/-- An item of the reply holds the readings of one connector and one transaction,
and no others. -/
theorem trDataList_unmixed
    (hrange : ∀ q ∈ stats, Int32Range q.connectorId ∧ Int32Range q.transactionId)
    {d : TrData} (hd : d ∈ trDataList user reparse stats) :
    ∃ q ∈ stats, d.connid = keyConnId q.id ∧ d.transid = q.transactionId ∧
      d.mvalues = (stats.filter fun x =>
        x.connectorId = q.connectorId ∧ x.transactionId = q.transactionId).map
          fun x => reparse x.meterValues := by
  obtain ⟨id, hid, rfl⟩ := List.mem_map.mp hd
  rw [List.mem_insertionSort, List.mem_dedup] at hid
  obtain ⟨q, hq, rfl⟩ := List.mem_map.mp hid
  obtain ⟨hc, ht⟩ := hrange q hq
  refine ⟨q, hq, rfl, keyTransId_key hc ht, ?_⟩
  have hsame : stats.filter (·.id = q.id) = stats.filter fun x =>
      x.connectorId = q.connectorId ∧ x.transactionId = q.transactionId := by
    apply List.filter_congr
    intro x hx
    rw [decide_eq_decide]
    constructor
    · intro hkey
      exact statisticsKey_injective (hrange x hx).1 (hrange x hx).2 hc ht hkey
    · rintro ⟨hconn, htrans⟩
      unfold CSStatistics.id
      rw [hconn, htrans]
  dsimp only
  rw [hsame]

end Replies

end UCLinux.Ocpp
