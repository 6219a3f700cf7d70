import UCLinux.Ocpp.Admission
import UCLinux.Ocpp.Splices

/-!
Transaction ids. The id of an accepted StartTransaction is the rowid of the
row of StartTrTbl that was inserted for it, so ids in use never come again.
That holds for the messages whose way to this row is clear; every other one is
accepted as well, with id 0 or an id that stands for no row.
-/

namespace UCLinux.Ocpp

open Sql Machine Server CentralOcppDB HistoryDB

section Storing

variable {E : Env} {req : OcppRequest} {rtt : RttOcpp}

variable (rtt) in
/-- With a long uid a message is stored under its serial number, and the
database is not changed on the way. -/
theorem preprocess_long (s : Session Server) (hopen : E.raises s.asked = none)
    (hlong : 10 < req.uniqueID.length) :
    ∃ pre, preprocessOcppMessage2DB E req rtt false .none s = (pre, s.tick.tick) ∧
      pre.sern = sernOfUid req.uniqueID ∧ pre.req.remoteIP = req.remoteIP ∧
      pre.req.action = req.action ∧ pre.rtt.status = rtt.status ∧
      pre.rtt.errCode = rtt.errCode ∧ pre.rtt.sensors = rtt.sensors := by
  unfold preprocessOcppMessage2DB getSerNumberByIPAddr
  rw [createConnection_bind, if_pos hopen, if_neg Bool.false_ne_true, if_pos hlong]
  simp only [Action.bind_apply, TableAt.read_snd]
  generalize (CH_STATIONS.read E _ _ _ s.tick).1.first = found
  cases found with
  | none => exact ⟨_, rfl, rfl, rfl, rfl, rfl, rfl, rfl⟩
  | some row =>
    cases row with
    | none => exact ⟨_, rfl, rfl, rfl, rfl, rfl, rfl, rfl⟩
    | some row => exact ⟨_, rfl, rfl, rfl, rfl, rfl, rfl, rfl⟩

/-- A message without a quote is stored in the next row of the history. -/
theorem insertOcppHistory2DB_literal {sern : Text} (s : Session Server)
    (hsern : sern ≠ []) (hquote : (insertOcppHistorySql req rtt sern).QuoteFree)
    (hopen : E.raises s.asked = none) :
    ∃ t, t.rows = s.state.csHist.rows ++
        [⟨s.state.csHist.nextRowid, ocppHistoryRow req rtt sern⟩] ∧
      insertOcppHistory2DB E req rtt sern s =
        (some (wrap32 s.state.csHist.nextRowid, { rtt with serNumber := sern }),
          ⟨{ s.state with csHist := t }, s.asked + 1⟩) := by
  obtain ⟨t, hins, hrows⟩ := Table.insert_of_no_key (t := s.state.csHist)
    (a := ocppHistoryRow req rtt sern) fun _ => rfl
  refine ⟨t, hrows, ?_⟩
  have hexec := CSHistTbl.insert_literal (E := E) (·.insert (ocppHistoryRow req rtt sern)) s
    hquote hopen hins
  unfold insertOcppHistory2DB
  rw [if_neg hsern, Action.bind_apply, hexec]
  rfl

/-- Its transaction is the next row of StartTrTbl. -/
theorem insertStartTransaction_literal (histRowid : Int) {p : StartTransactionRequest}
    (s : Session Server) (hquote : '\'' ∉ p.idTag.toText)
    (hopen : E.raises s.asked = none) :
    ∃ t : Table (noKey (α := StartTr)),
      t.rows = s.state.startTr.rows ++
        [⟨s.state.startTr.nextRowid, startTrRow histRowid p⟩] ∧
      insertStartTransactionReqMsg2DB E histRowid p s =
        (some (wrap32 s.state.startTr.nextRowid),
          ⟨{ s.state with startTr := t }, s.asked + 1⟩) := by
  obtain ⟨t, hins, hrows⟩ := Table.insert_of_no_key (t := s.state.startTr)
    (a := startTrRow histRowid p) fun _ => rfl
  have hfree : (insertStartTransactionSql histRowid p).QuoteFree :=
    insertStartTransactionSql_quoteFree.mpr fun hc => hquote (mem_of_mem_cstr hc)
  have hexec := StartTrTbl.insert_literal (E := E) (·.insert (startTrRow histRowid p)) s
    hfree hopen hins
  refine ⟨t, hrows, ?_⟩
  unfold insertStartTransactionReqMsg2DB
  rw [Action.bind_apply, hexec]
  rfl

/-- A StartTransaction that is not kept from its row gets the rowid of it. -/
theorem onStartTransaction_clear {sern : Text} {p : StartTransactionRequest}
    (s : Session Server) (hopen : E.raises s.asked = none)
    (hopen1 : E.raises (s.asked + 1) = none) (hopen2 : E.raises (s.asked + 2) = none)
    (hsern : sern ≠ []) (hfree : (insertOcppHistorySql req rtt sern).QuoteFree)
    (hquote : '\'' ∉ p.idTag.toText) (hhist : 0 < wrap32 s.state.csHist.nextRowid) :
    (onStartTransactionRequestMessage2DB E req rtt p sern s).1 =
      wrap32 s.state.startTr.nextRowid ∧
    ∃ histRowid, (onStartTransactionRequestMessage2DB E req rtt p sern s).2.state.startTr.rows =
      s.state.startTr.rows ++ [⟨s.state.startTr.nextRowid, startTrRow histRowid p⟩] := by
  obtain ⟨t, _, hstored⟩ := insertOcppHistory2DB_literal s.tick hsern hfree hopen1
  obtain ⟨t', hrows, hstart⟩ := insertStartTransaction_literal
    (wrap32 s.state.csHist.nextRowid) (p := p)
    ⟨{ s.state with csHist := t }, s.asked + 2⟩ hquote hopen2
  have hpos : 0 < wrap32 s.tick.state.csHist.nextRowid := hhist
  unfold onStartTransactionRequestMessage2DB
  rw [createConnection_bind, if_pos hopen, Action.bind_apply, hstored]
  dsimp only
  rw [if_pos hpos, Action.bind_apply]
  have hstart' : insertStartTransactionReqMsg2DB E (wrap32 s.tick.state.csHist.nextRowid) p
      ⟨{ s.tick.state with csHist := t }, s.tick.asked + 1⟩ = _ := hstart
  rw [hstart']
  dsimp only
  refine ⟨rfl, wrap32 s.state.csHist.nextRowid, ?_⟩
  rw [← hrows]
  exact congrArg Table.rows
    ((updateHistOnStartTransaction_writes (T := [.csHist]) (by simp) _).startTr (by simp))

end Storing

section Started

variable {L : Lib} {E : Env}

/-- Nothing keeps a StartTransaction from its row: the uid makes a serial
number, no statement on the way raises or is altered, and the two rowids
fit. -/
structure ClearWay (E : Env) (s : Server) (req : OcppRequest)
    (p : StartTransactionRequest) : Prop where
  uid : 10 < req.uniqueID.length
  uidQuote : '\'' ∉ req.uniqueID.take 10
  tagQuote : '\'' ∉ p.idTag.toText
  opened : E.raises 1 = none
  histOpened : E.raises 3 = none
  histInserted : E.raises 4 = none
  startInserted : E.raises 5 = none
  histRowid : 0 < wrap32 s.csHist.nextRowid
  startRowid : 0 < s.startTr.nextRowid ∧ s.startTr.nextRowid < 2 ^ 31

/-- Such a StartTransaction is answered with the rowid of its row. -/
theorem processStartTransaction_clear {s : Server} {req : OcppRequest}
    {p : StartTransactionRequest} (hclear : ClearWay E s req p)
    (hload : L.loadStartTransaction (doSimpleExtract req.reqStr) = some p)
    (hip : '\'' ∉ req.remoteIP) (haction : req.action = "StartTransaction") :
    (∃ info : IdTagInfo, info.status = "Accepted" ∧ (processStartTransaction L E req s.start).1 =
      some (.startTransaction info s.startTr.nextRowid)) ∧
    ∃ histRowid, (processStartTransaction L E req s.start).2.state.startTr.rows =
      s.startTr.rows ++ [⟨s.startTr.nextRowid, startTrRow histRowid p⟩] := by
  obtain ⟨pre, hpre, hsern, hpreip, hpreaction, hstatus, herr, hsensors⟩ :=
    preprocess_long { ts := E.clock 0, dbType := .startTransaction }
      s.start.tick hclear.opened hclear.uid
  have hne : pre.sern ≠ [] := by
    rw [hsern]
    exact sernOfUid_ne_nil _
  have hstar : '\'' ∉ cstr "*" := by decide
  have hfree : (insertOcppHistorySql pre.req pre.rtt pre.sern).QuoteFree := by
    rw [insertOcppHistorySql_quoteFree, hsern, hpreip, hpreaction, haction, hstatus, herr,
      hsensors]
    refine ⟨fun hc => ?_, fun hc => hip (mem_of_mem_cstr hc), by decide, hstar, hstar, hstar⟩
    rcases List.mem_append.mp (mem_of_mem_cstr hc) with hc | hc
    · exact absurd hc (by decide)
    · exact hclear.uidQuote hc
  obtain ⟨hid, histRowid, hrows⟩ := onStartTransaction_clear (p := p) s.start.tick.tick.tick
    hclear.histOpened hclear.histInserted hclear.startInserted hne hfree hclear.tagQuote
    hclear.histRowid
  have hfits : wrap32 s.startTr.nextRowid = s.startTr.nextRowid :=
    wrap32_of_range ⟨by have := hclear.startRowid.1; omega, hclear.startRowid.2⟩
  have hstored : insertOcppReqMsg2DB L E req { ts := 0 } .startTransaction
      (.startTransaction p) false s.start =
      onStartTransactionRequestMessage2DB E pre.req pre.rtt p pre.sern
        s.start.tick.tick.tick := by
    unfold insertOcppReqMsg2DB
    rw [clockNow_bind, if_neg Bool.false_ne_true]
    unfold insertOcppRequestMessage2DB
    dsimp only
    rw [Action.bind_apply]
    have hpre' : preprocessOcppMessage2DB E req
        { ts := E.clock s.start.asked, dbType := .startTransaction } false .none
        s.start.tick = (pre, s.start.tick.tick.tick) := hpre
    rw [hpre']
    dsimp only
    rw [if_neg hne]
  unfold processStartTransaction
  rw [hload]
  dsimp only
  rw [Action.bind_apply, hstored]
  generalize onStartTransactionRequestMessage2DB E pre.req pre.rtt p pre.sern
    s.start.tick.tick.tick = done at hid hrows
  obtain ⟨id, s'⟩ := done
  have hid' : id = s.startTr.nextRowid := hid.trans hfits
  refine ⟨⟨⟨some (E.clock s'.asked), some "12", "Accepted"⟩, rfl, ?_⟩, histRowid, hrows⟩
  rw [← hid']
  rfl

/-- The id an accepted StartTransaction is answered with. -/
def Frame.startedId : Frame → Option Int
  | .callResult _ _ (.startTransaction idTagInfo transactionId) =>
    if idTagInfo.status = "Accepted" then some transactionId else none
  | _ => none

/-- The ids given out during the last event. -/
def Server.startedIds (s : Server) : List Int :=
  (s.wire.map Delivery.frame).filterMap Frame.startedId

/-- A text message on a connection. -/
def receive (L : Lib) (s : Server) (m : Env × Connection × Text) : Server :=
  s.after (onMessage L m.1 m.2.1 m.2.2)

/-- The message starts the transaction `p`. -/
def Starts (L : Lib) (m : Env × Connection × Text) (req : OcppRequest)
    (p : StartTransactionRequest) : Prop :=
  parseOCPPRequest L (incoming m.2.1 m.2.2) = some req ∧ req.callID = 2 ∧
    req.action = "StartTransaction" ∧
    L.loadStartTransaction (doSimpleExtract req.reqStr) = some p

/-- A message that starts a transaction has a clear way. -/
def StartsClear (L : Lib) (s : Server) (m : Env × Connection × Text) : Prop :=
  ∀ req p, Starts L m req p → ClearWay m.1 s req p

theorem OcppAction.name_of_ofName {action : Text} {a : OcppAction}
    (h : OcppAction.ofName action = some a) : a.name = action := by
  have hfound : OcppAction.all.find? (·.name = action) = some a := h
  simpa using List.find?_some hfound

theorem startedId_of_answers {a : OcppAction} (ha : a ≠ .startTransaction) {q : Payload}
    (h : q.answers a = true) {k : Int} {u : Text} :
    (Frame.callResult k u q).startedId = none := by
  cases q with
  | startTransaction info id => cases a <;> first | exact absurd rfl ha | cases h
  | _ => rfl

/-- Frames that answer no StartTransaction give out no id. -/
theorem startedIds_of_frames {t : Server} {frames : List Frame}
    (hwire : t.wire.map Delivery.frame = frames)
    (hframes : ∀ f ∈ frames, f.startedId = none) : t.startedIds = [] := by
  unfold Server.startedIds
  rw [hwire]
  exact List.filterMap_eq_nil_iff.mpr hframes

/-- What is no StartTransaction that loads gives out no id and leaves StartTrTbl
alone. -/
theorem process_idle (E : Env) {a : OcppAction} (req : OcppRequest) (k : Session Server)
    (hp : ¬(a = .startTransaction ∧
      ∃ p, L.loadStartTransaction (doSimpleExtract req.reqStr) = some p)) :
    (a.process L E req k).2.state.startTr = k.state.startTr ∧
      ∀ q, (a.process L E req k).1 = some q →
        (Frame.callResult 3 req.uniqueID q).startedId = none := by
  by_cases hstarting : a = .startTransaction
  · subst hstarting
    have hload : L.loadStartTransaction (doSimpleExtract req.reqStr) = none := by
      by_contra hsome
      exact hp ⟨rfl, Option.ne_none_iff_exists'.mp hsome⟩
    rw [process_unloaded .startTransaction (by rw [OcppAction.loads, hload]; rfl)]
    exact ⟨rfl, by simp⟩
  · refine ⟨?_, fun q hq => ?_⟩
    · refine (OcppAction.process_writes (T := a.writes) a (List.Subset.refl _) k).startTr ?_
      cases a <;> first | exact absurd rfl hstarting | decide
    · exact startedId_of_answers hstarting (OcppAction.process_answers a req k q hq)

/-- A message gives out no id and leaves StartTrTbl alone, or gives out the
rowid of the row it appends. -/
theorem receive_starts {s : Server} {m : Env × Connection × Text}
    (hclear : StartsClear L s m) :
    ((receive L s m).startedIds = [] ∧ (receive L s m).startTr = s.startTr) ∨
    ∃ req p histRowid, Starts L m req p ∧ 0 < s.startTr.nextRowid ∧
      (receive L s m).startedIds = [s.startTr.nextRowid] ∧
      (receive L s m).startTr.rows =
        s.startTr.rows ++ [⟨s.startTr.nextRowid, startTrRow histRowid p⟩] := by
  obtain ⟨E, con, payload⟩ := m
  rcases onMessage_cases (L := L) E con payload s.start with
    ⟨req, a, hparse, hcall, ha⟩ | ⟨honly, ds, hwire, hds⟩
  · obtain ⟨ds, hds⟩ := onMessage_request E hparse hcall ha s.start
    have hwire : (receive L s (E, con, payload)).wire = ds := hds.wire
    have hstart : (receive L s (E, con, payload)).startTr =
        (a.process L E req s.start).2.state.startTr := hds.state.startTr (by simp)
    by_cases hp : a = .startTransaction ∧
        ∃ p, L.loadStartTransaction (doSimpleExtract req.reqStr) = some p
    · obtain ⟨rfl, p, hload⟩ := hp
      have haction : req.action = "StartTransaction" := (OcppAction.name_of_ofName ha).symm
      have hstarts : Starts L (E, con, payload) req p := ⟨hparse, hcall, haction, hload⟩
      have hway := hclear req p hstarts
      have hip : '\'' ∉ req.remoteIP := by
        rw [(parse_keeps hparse).2]
        exact con.endpoint.noQuote
      obtain ⟨⟨info, haccepted, hresult⟩, histRowid, hrows⟩ :=
        processStartTransaction_clear hway hload hip haction
      obtain ⟨more, hframes, hmore⟩ := hds.answered _ hresult
      refine Or.inr ⟨req, p, histRowid, hstarts, hway.startRowid.1, ?_, ?_⟩
      · have hnone : more.filterMap Frame.startedId = [] := by
          refine List.filterMap_eq_nil_iff.mpr fun f hf => ?_
          obtain ⟨u, q, rfl⟩ := hmore f hf
          rfl
        unfold Server.startedIds
        rw [hwire, hframes, List.filterMap_cons, hnone]
        simp [Frame.startedId, haccepted]
      · rw [hstart]
        exact hrows
    · left
      have hidle := process_idle E req s.start hp
      refine ⟨startedIds_of_frames rfl ?_, hstart.trans hidle.1⟩
      rw [hwire]
      intro f hf
      cases hdone : (a.process L E req s.start).1 with
      | none =>
        rw [hds.raised hdone] at hf
        rw [List.mem_singleton.mp hf]
        rfl
      | some q =>
        obtain ⟨more, hframes, hmore⟩ := hds.answered q hdone
        rw [hframes] at hf
        rcases List.mem_cons.mp hf with rfl | later
        · exact hidle.2 q hdone
        · obtain ⟨u, q', rfl⟩ := hmore f later
          rfl
  · left
    have hwire' : (receive L s (E, con, payload)).wire = ds := hwire
    refine ⟨startedIds_of_frames rfl ?_, honly.startTr (by simp)⟩
    intro f hf
    rw [hwire'] at hf
    obtain ⟨d, hd, rfl⟩ := List.mem_map.mp hf
    obtain ⟨u, hu⟩ := hds d hd
    rw [hu]
    rfl

/-- Every accepted StartTransaction of a message has an id above 0 that is the
rowid of the row inserted for it. -/
def IdentifiesStarts (L : Lib) (v : Visit Server (Env × Connection × Text)) : Prop :=
  ∀ id ∈ v.after.startedIds, 0 < id ∧
    ∃ req p histRowid, Starts L v.event req p ∧
      ⟨id, startTrRow histRowid p⟩ ∈ v.after.startTr.rows ∧
      ∀ r ∈ v.before.startTr.rows, r.rowid ≠ id

theorem lastRowid_of_append {α κ : Type} {key : α → Option κ} {t : Table key}
    {rows : List (Row α)} {r : Row α} (h : t.rows = rows ++ [r]) :
    t.lastRowid = r.rowid := by
  simp [Table.lastRowid, h]

theorem identifiesStarts_of_clear {s : Server} {m : Env × Connection × Text}
    (hclear : StartsClear L s m) : IdentifiesStarts L ⟨s, m, receive L s m⟩ := by
  intro id hid
  dsimp only at hid
  rcases receive_starts hclear with ⟨hnone, _⟩ | ⟨req, p, histRowid, hstarts, hpos, hids, hrows⟩
  · rw [hnone] at hid
    cases hid
  · rw [hids] at hid
    have heq : id = s.startTr.nextRowid := List.mem_singleton.mp hid
    rw [heq]
    refine ⟨hpos, req, p, histRowid, hstarts, ?_, ?_⟩
    · rw [hrows]
      exact List.mem_append_right _ (List.mem_singleton.mpr rfl)
    · intro r hr
      exact Int.ne_of_lt (s.startTr.rowid_lt_next hr)

/-- The ids a run of clear messages gives out are new and pairwise
distinct. -/
theorem startedIds_fresh {s : Server} {ms : List (Env × Connection × Text)}
    (hclear : Meets (receive L) (StartsClear L) s ms) :
    ((visits (receive L) s ms).flatMap fun v => v.after.startedIds).Nodup ∧
      ∀ v ∈ visits (receive L) s ms, ∀ id ∈ v.after.startedIds,
        s.startTr.lastRowid < id := by
  induction ms generalizing s with
  | nil => exact ⟨List.nodup_nil, by simp⟩
  | cons m ms ih =>
    obtain ⟨hfirst, hrest⟩ := meets_cons.mp hclear
    obtain ⟨hnodup, hnew⟩ := ih hrest
    rw [visits_cons, List.flatMap_cons]
    rcases receive_starts hfirst with ⟨hnone, hsame⟩ | ⟨_, _, _, _, _, hids, hrows⟩
    · rw [hnone, List.nil_append]
      refine ⟨hnodup, fun v hv id hid => ?_⟩
      rcases List.mem_cons.mp hv with rfl | later
      · dsimp only at hid
        rw [hnone] at hid
        cases hid
      · have hlater := hnew v later id hid
        rwa [hsame] at hlater
    · have hlast : (receive L s m).startTr.lastRowid = s.startTr.nextRowid :=
        lastRowid_of_append hrows
      rw [hlast] at hnew
      have hnext : s.startTr.lastRowid < s.startTr.nextRowid :=
        Int.lt_add_one_of_le (Int.le_refl _)
      rw [hids]
      refine ⟨List.nodup_cons.mpr ⟨fun hmem => ?_, hnodup⟩, fun v hv id hid => ?_⟩
      · obtain ⟨v, hv, hid⟩ := List.mem_flatMap.mp hmem
        exact Int.lt_irrefl _ (hnew v hv _ hid)
      · rcases List.mem_cons.mp hv with rfl | later
        · dsimp only at hid
          rw [hids] at hid
          rw [List.mem_singleton.mp hid]
          exact hnext
        · exact Int.lt_trans hnext (hnew v later id hid)

end Started

/-- In every run of messages of which those that start a transaction have a
clear way, each accepted StartTransaction has the rowid of its own row as its
id, and no id is given out twice. -/
theorem startTransactions_identified (L : Lib) (s : Server)
    (ms : List (Env × Connection × Text))
    (hclear : Meets (receive L) (StartsClear L) s ms) :
    (∀ v ∈ visits (receive L) s ms, IdentifiesStarts L v) ∧
      ((visits (receive L) s ms).flatMap fun v => v.after.startedIds).Nodup := by
  refine ⟨fun v hv => ?_, (startedIds_fresh hclear).1⟩
  have hafter := after_eq_step hv
  obtain ⟨before, m, after⟩ := v
  dsimp only at hafter
  rw [hafter]
  exact identifiesStarts_of_clear (hclear _ hv)

def someStart : StartTransactionRequest :=
  ⟨1, sampleTag, 0, none, 1577836800000000000⟩

/-- A library that reads a StartTransaction with this uid. -/
def startLib (t uid : Text) (h : 9 ≤ (cstr t).length) : Lib :=
  { Lib.parsing t [.int 2, .string uid, .string "StartTransaction", .other] h with
    loadStartTransaction := fun _ => some someStart }

theorem startLib_parse (t uid : Text) (h : 9 ≤ (cstr t).length) :
    (startLib t uid h).parse (cstr t) =
      some [.int 2, .string uid, .string "StartTransaction", .other] :=
  Lib.parsing_parse t [.int 2, .string uid, .string "StartTransaction", .other] h

/-- A StartTransaction whose uid makes a serial number. -/
def longStart : Text :=
  "[2,\"0123456789a\",\"StartTransaction\",\x7b\"connectorId\":1,\"idTag\":\"T\",\"meterStart\":0,\"timestamp\":\"2020-01-01T00:00:00Z\"\x7d]"

def longStartLib : Lib := startLib longStart "0123456789a" (by decide +kernel)

theorem longStart_clear {s : Server} (hhist : 0 < wrap32 s.csHist.nextRowid)
    (hstart : 0 < s.startTr.nextRowid ∧ s.startTr.nextRowid < 2 ^ 31) :
    StartsClear longStartLib s (.calm, somePeer, longStart) := by
  rintro req p ⟨hread, -, -, hload⟩
  have hparse : parseOCPPRequest longStartLib (incoming somePeer longStart) =
      some (callRequest somePeer longStart "0123456789a" "StartTransaction") :=
    parse_call somePeer ⟨.other, startLib_parse longStart "0123456789a" _⟩
  dsimp only at hread
  rw [hparse] at hread
  obtain rfl := Option.some.inj hread
  obtain rfl : someStart = p := Option.some.inj hload
  exact ⟨by decide, by decide, by decide, rfl, rfl, rfl, rfl, hhist, hstart⟩

/-- Two transactions of one station. -/
theorem startTransactions_identified_twice :
    (∀ v ∈ visits (receive longStartLib) Server.empty
        [(.calm, somePeer, longStart), (.calm, somePeer, longStart)],
      IdentifiesStarts longStartLib v) ∧
    ((visits (receive longStartLib) Server.empty
        [(.calm, somePeer, longStart), (.calm, somePeer, longStart)]).flatMap
      fun v => v.after.startedIds).Nodup :=
  startTransactions_identified longStartLib Server.empty _
    (meets_cons.mpr ⟨longStart_clear (by decide) (by decide),
      meets_cons.mpr ⟨longStart_clear (by decide +kernel) (by decide +kernel),
        Meets.nil _⟩⟩)

/-- A StartTransaction whose uid is too short for a serial number. -/
def shortStart : Text :=
  "[2,\"1\",\"StartTransaction\",\x7b\"connectorId\":1,\"idTag\":\"T\",\"meterStart\":0,\"timestamp\":\"2020-01-01T00:00:00Z\"\x7d]"

def shortStartLib : Lib := startLib shortStart "1" (by decide +kernel)

/-- It is accepted with id 0. -/
theorem shortStart_unidentified :
    ¬ ∀ v ∈ visits (receive shortStartLib) Server.empty [(.calm, somePeer, shortStart)],
      IdentifiesStarts shortStartLib v := by
  intro h
  have hzero : 0 ∈ (receive shortStartLib Server.empty
      (.calm, somePeer, shortStart)).startedIds := by decide +kernel
  have hvisit := h ⟨Server.empty, (.calm, somePeer, shortStart),
    receive shortStartLib Server.empty (.calm, somePeer, shortStart)⟩ (by simp)
  exact absurd (hvisit 0 hzero).1 (by decide)

end UCLinux.Ocpp
