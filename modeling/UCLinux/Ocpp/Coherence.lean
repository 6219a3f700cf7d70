import UCLinux.Machine.Run
import UCLinux.Ocpp.Stations

/-!
What the phones are told. A poll delivers the rows of its client whose UpdMob
is up and takes the flag down, so a phone is up to date as long as whatever
changes a row raises the flag. Half of the operations do not raise it, and an
inserted row has no flag at all. The flag itself is not lost on the way to the
phone: only a poll that delivered a row takes its flag down.
-/

namespace UCLinux.Ocpp

open Sql Machine Server CentralOcppDB HistoryDB

/-- The latest copy that was delivered to a client of the station with a
rowid. -/
abbrev Copies : Type := Int × Int → Option PCSItem

/-- The copies of a poll replace older ones. -/
def Copies.receive (b : Copies) (cid : Int) (list : List PCSItem) : Copies :=
  list.foldl (fun b item => Function.update b (cid, item.id) (some item)) b

def Copies.note (b : Copies) (v : Visit Server (Env × StationOp)) : Copies :=
  match v.event.2 with
  | .poll cid => b.receive cid (v.before.delivered v.event.1 cid)
  | _ => b

/-- The latest copies of the stations of a client are as the rows are. -/
def UpToDate (p : Server × Copies) (cid : Int) : Prop :=
  ∀ r ∈ p.1.chStations.rows, r.cols.clientID = cid → p.2 (cid, r.rowid) = some (readChS r)

/-- In a row whose flag is down an operation changes nothing that is
delivered, unless it raises the flag or leaves the row without an owner. -/
def Announces (E : Env) (op : StationOp) (t : Table ChStation.key) : Prop :=
  ∀ r ∈ t.rows, r.cols.updMob = some 0 → ∀ a, op.write E r = some a →
    a.updMob = some 1 ∨ a.clientID = 0 ∨
      a.clientID = r.cols.clientID ∧ readChS ⟨r.rowid, a⟩ = readChS r

/-- Every row of the client has a flag, an up one when the rows are those
without an owner, and the poll is not kept from reading those that are up. -/
structure PollCovers (E : Env) (s : Server) (cid : Int) : Prop where
  flags : ∀ r ∈ s.chStations.rows, r.cols.clientID = cid →
    r.cols.updMob = some 1 ∨ r.cols.updMob = some 0 ∧ cid ≠ 0
  reads : s.flagged cid ≠ [] → E.raises 0 = none ∧ E.raises 1 = none

/-- What an operation has to find. -/
def CoherentOp (p : Server × Copies) (e : Env × StationOp) : Prop :=
  match e.2 with
  | .poll cid => PollCovers e.1 p.1 cid
  | op => op.Literal ∧ Announces e.1 op p.1.chStations

/-- A row with an owner whose flag is down is as its owner's latest copy. -/
def Fresh (p : Server × Copies) : Prop :=
  ∀ r ∈ p.1.chStations.rows, r.cols.updMob = some 0 → r.cols.clientID ≠ 0 →
    p.2 (r.cols.clientID, r.rowid) = some (readChS r)

section Receiving

variable {b : Copies} {cid : Int} {rows : List (Row ChStation)}

theorem receive_other {list : List PCSItem} {k : Int × Int}
    (h : ∀ item ∈ list, (cid, item.id) ≠ k) : b.receive cid list k = b k := by
  induction list generalizing b with
  | nil => rfl
  | cons item list ih =>
    have hrest := ih (b := Function.update b (cid, item.id) (some item))
      fun item' hmem => h item' (List.mem_cons_of_mem _ hmem)
    have hfirst : (cid, item.id) ≠ k := h item (List.mem_cons_self ..)
    calc
      b.receive cid (item :: list) k =
          Copies.receive (Function.update b (cid, item.id) (some item)) cid list k := rfl
      _ = Function.update b (cid, item.id) (some item) k := hrest
      _ = b k := Function.update_of_ne hfirst.symm _ _

/-- Copies of rows with different rowids do not replace each other. -/
theorem receive_rows (hrows : rows.Pairwise fun r r' => r.rowid < r'.rowid)
    {r : Row ChStation} (hr : r ∈ rows) :
    b.receive cid (rows.map readChS) (cid, r.rowid) = some (readChS r) := by
  induction rows generalizing b with
  | nil => cases hr
  | cons r' rows ih =>
    obtain ⟨hlt, hrest⟩ := List.pairwise_cons.mp hrows
    have hstep : b.receive cid ((r' :: rows).map readChS) =
        Copies.receive (Function.update b (cid, r'.rowid) (some (readChS r'))) cid
          (rows.map readChS) := rfl
    rw [hstep]
    rcases List.mem_cons.mp hr with rfl | later
    · rw [receive_other]
      · exact Function.update_self ..
      · intro item hitem hkey
        obtain ⟨r'', hr'', rfl⟩ := List.mem_map.mp hitem
        have hid : r''.rowid = r.rowid := congrArg Prod.snd hkey
        have := hlt r'' hr''
        omega
    · exact ih hrest later

end Receiving

section Polls

variable {E : Env} {p : Server × Copies} {cid : Int}

theorem flagged_sorted (s : Server) (cid : Int) :
    (s.flagged cid).Pairwise fun r r' => r.rowid < r'.rowid :=
  s.chStations.rowids.filter _

/-- A poll that covers its client's rows delivers them as they are, or they
have been delivered before. -/
theorem poll_upToDate (hfresh : Fresh p) (h : PollCovers E p.1 cid) {r : Row ChStation}
    (hr : r ∈ p.1.chStations.rows) (hcid : r.cols.clientID = cid) :
    p.2.receive cid (p.1.delivered E cid) (cid, r.rowid) = some (readChS r) := by
  have hlist : p.1.delivered E cid = (p.1.flagged cid).map readChS := by
    by_cases hnone : p.1.flagged cid = []
    · cases poll_cases E p.1 cid with
      | closed _ hlist => rw [hlist, hnone, List.map_nil]
      | cut k _ _ hlist => rw [hlist, hnone, List.take_nil]
      | kept _ _ hlist => exact hlist
      | cleared ids _ _ hlist => exact hlist
    · obtain ⟨hopen, hread⟩ := h.reads hnone
      cases poll_cases E p.1 cid with
      | closed hclosed => exact absurd hopen hclosed
      | cut k _ hcut =>
        rw [hread] at hcut
        cases hcut
      | kept _ _ hlist => exact hlist
      | cleared ids _ _ hlist => exact hlist
  rw [hlist]
  rcases h.flags r hr hcid with hup | ⟨hdown, howned⟩
  · exact receive_rows (flagged_sorted p.1 cid) (Server.mem_flagged.mpr ⟨hr, hup, hcid⟩)
  · rw [receive_other]
    · rw [← hcid]
      exact hfresh r hr hdown (hcid ▸ howned)
    · intro item hitem hkey
      obtain ⟨r', hr', rfl⟩ := List.mem_map.mp hitem
      obtain ⟨hmem, hup, _⟩ := Server.mem_flagged.mp hr'
      have hsame : r' = r := p.1.chStations.eq_of_rowid hmem hr (congrArg Prod.snd hkey)
      rw [hsame, hdown] at hup
      cases hup

/-- Every row a poll leaves has the columns that are delivered from a row it
found, and other clients' rows are left alone. -/
theorem poll_rows {r' : Row ChStation}
    (hr' : r' ∈ (StationOp.step p.1 (E, .poll cid)).chStations.rows) :
    ∃ r ∈ p.1.chStations.rows, r'.rowid = r.rowid ∧ r'.cols.clientID = r.cols.clientID ∧
      readChS r' = readChS r ∧ (r.cols.clientID ≠ cid → r' = r) := by
  have hkept {t : Table ChStation.key} (ht : t = p.1.chStations) (hmem : r' ∈ t.rows) :
      ∃ r ∈ p.1.chStations.rows, r'.rowid = r.rowid ∧ r'.cols.clientID = r.cols.clientID ∧
        readChS r' = readChS r ∧ (r.cols.clientID ≠ cid → r' = r) :=
    ⟨r', ht ▸ hmem, rfl, rfl, rfl, fun _ => rfl⟩
  cases poll_cases E p.1 cid with
  | closed _ _ hsame => exact hkept hsame hr'
  | cut k _ _ _ hsame => exact hkept hsame hr'
  | kept _ _ _ _ hsame => exact hkept hsame hr'
  | cleared ids _ _ _ _ hrows =>
    have hmem : r' ∈ p.1.chStations.rows.map (Table.rewriteRow (clearRow ids cid)) :=
      hrows ▸ hr'
    obtain ⟨r, hr, rfl⟩ := List.mem_map.mp hmem
    refine ⟨r, hr, Table.rewriteRow_rowid _ r, ?_⟩
    by_cases hclears : r.rowid ∈ ids ∧ r.cols.clientID = cid
    · rw [Table.rewriteRow_some (if_pos hclears)]
      exact ⟨rfl, rfl, fun hother => absurd hclears.2 hother⟩
    · rw [Table.rewriteRow_none (if_neg hclears)]
      exact ⟨rfl, rfl, fun _ => rfl⟩

theorem poll_leaves_upToDate (hfresh : Fresh p) (h : PollCovers E p.1 cid) :
    UpToDate (noting StationOp.step Copies.note p (E, .poll cid)) cid := by
  intro r' hr' hcid
  obtain ⟨r, hr, hid, hclient, hcopy, _⟩ := poll_rows hr'
  rw [hid, hcopy]
  exact poll_upToDate hfresh h hr (hclient ▸ hcid)

theorem Fresh.polled (hfresh : Fresh p) (h : PollCovers E p.1 cid) :
    Fresh (noting StationOp.step Copies.note p (E, .poll cid)) := by
  intro r' hr' hdown howned
  obtain ⟨r, hr, hid, hclient, hcopy, hother⟩ := poll_rows hr'
  by_cases hcid : r.cols.clientID = cid
  · rw [hclient, hcid]
    exact poll_leaves_upToDate hfresh h r' hr' (hclient.trans hcid)
  · have hsame : r' = r := hother hcid
    rw [hsame] at hdown howned ⊢
    have hunread : p.2.receive cid (p.1.delivered E cid) (r.cols.clientID, r.rowid) =
        p.2 (r.cols.clientID, r.rowid) :=
      receive_other fun item _ hkey => hcid (congrArg Prod.fst hkey).symm
    exact hunread.trans (hfresh r hr hdown howned)

/-- An operation that announces its changes keeps the copies fresh. -/
theorem Fresh.written {op : StationOp} (hfresh : Fresh p) (hop : ∀ cid, op ≠ .poll cid)
    (h : op.Literal) (hannounces : Announces E op p.1.chStations) :
    Fresh (StationOp.step p.1 (E, op), p.2) := by
  intro r' hr' hdown howned
  cases StationOp.step_cases (E := E) op p.1 hop h with
  | same hsame =>
    have hmem : r' ∈ p.1.chStations.rows := hsame ▸ hr'
    exact hfresh r' hmem hdown howned
  | rewritten hrows =>
    have hmem : r' ∈ p.1.chStations.rows.map (Table.rewriteRow (op.write E)) := hrows ▸ hr'
    obtain ⟨r, hr, rfl⟩ := List.mem_map.mp hmem
    cases hwrite : op.write E r with
    | none =>
      rw [Table.rewriteRow_none hwrite] at hdown howned ⊢
      exact hfresh r hr hdown howned
    | some a =>
      rw [Table.rewriteRow_some hwrite] at hdown howned ⊢
      have hflag : a.updMob = some 0 := hdown
      have hold : r.cols.updMob = some 0 := by
        rcases StationOp.write_flag hwrite with hup | hkept
        · rw [hup] at hflag
          cases hflag
        · rw [← hkept, hflag]
      rcases hannounces r hr hold a hwrite with hup | hfree | ⟨hclient, hcopy⟩
      · rw [hup] at hflag
        cases hflag
      · exact absurd hfree howned
      · have howner : r.cols.clientID ≠ 0 := hclient ▸ howned
        dsimp only
        rw [hclient, hcopy]
        exact hfresh r hr hold howner
  | inserted wi flags _ _ hrows =>
    have hmem : r' ∈ p.1.chStations.rows ++ [⟨p.1.chStations.nextRowid, setParams wi flags⟩] :=
      hrows ▸ hr'
    rcases List.mem_append.mp hmem with hold | hnew
    · exact hfresh r' hold hdown howned
    · rw [List.mem_singleton.mp hnew] at hdown
      cases hdown

theorem Fresh.step {e : Env × StationOp} (hfresh : Fresh p) (h : CoherentOp p e) :
    Fresh (noting StationOp.step Copies.note p e) := by
  obtain ⟨E, op⟩ := e
  cases op with
  | poll cid => exact hfresh.polled h
  | _ => exact hfresh.written (by simp) h.1 h.2

end Polls

/-- In every run whose operations announce what they change and whose polls
cover the rows of their client, a client that has just polled is up to
date. -/
theorem polls_upToDate (s : Server) (hstart : ∀ r ∈ s.chStations.rows, r.cols.updMob ≠ some 0)
    (es : List (Env × StationOp))
    (hcoherent : Meets (noting StationOp.step Copies.note) CoherentOp (s, fun _ => none) es) :
    ∀ v ∈ visits (noting StationOp.step Copies.note) (s, fun _ => none) es,
      ∀ cid, v.event.2 = .poll cid → UpToDate v.after cid := by
  intro v hv cid hpoll
  have hfresh : Fresh (s, fun _ => none) := fun r hr hdown => absurd hdown (hstart r hr)
  have hbefore := (visits_invariant Fresh (fun _ _ hI hok => hI.step hok) hfresh hcoherent hv).1
  have hok := hcoherent v hv
  rw [after_eq_step hv]
  obtain ⟨p, ⟨E, op⟩, _⟩ := v
  dsimp only at hpoll
  rw [hpoll] at hok ⊢
  exact poll_leaves_upToDate hbefore hok

/-- The station is entered, reports and is polled. -/
def enteredAndPolled : List (Env × StationOp) :=
  [(.calm, .insert newStation),
    (.calm, .heartbeat { uniqueID := "0123456789-" } { ts := 0 }), (.calm, .poll 1)]

/-- The poll delivers it. -/
theorem polls_upToDate_entered :
    (visits (noting StationOp.step Copies.note) (Server.empty, fun _ => none)
      enteredAndPolled).Forall
      fun v => ∀ cid, v.event.2 = .poll cid → UpToDate v.after cid := by
  apply List.forall_iff_forall_mem.mpr
  have hserial : '\'' ∉ cstr newStation.serialn := by decide
  have hsern : '\'' ∉ cstr (sernOf { uniqueID := "0123456789-" }) := by decide
  apply polls_upToDate Server.empty (by decide)
  refine meets_cons.mpr ⟨⟨hserial, fun r hr => by cases hr⟩, ?_⟩
  refine meets_cons.mpr ⟨⟨hsern, ?_⟩, ?_⟩
  · intro r hr hdown
    have hnull : ∀ r ∈ (StationOp.step Server.empty (.calm, .insert newStation)).chStations.rows,
        r.cols.updMob ≠ some 0 := by decide +kernel
    exact absurd hdown (hnull r hr)
  · refine meets_cons.mpr ⟨⟨?_, fun _ => ⟨rfl, rfl⟩⟩, Meets.nil _⟩
    intro r hr _
    have hup : ∀ r ∈ (StationOp.step (StationOp.step Server.empty (.calm, .insert newStation))
        (.calm, .heartbeat { uniqueID := "0123456789-" } { ts := 0 })).chStations.rows,
        r.cols.updMob = some 1 := by decide +kernel
    exact Or.inl (hup r hr)

/-- When its connection closes, its Status becomes 0 and the next poll does
not tell. -/
theorem closed_station_stale :
    ¬ ∀ v ∈ visits (noting StationOp.step Copies.note) (Server.empty, fun _ => none)
        (enteredAndPolled ++ [(.calm, .connectionStatus "[::1]:5000" 0), (.calm, .poll 1)]),
      ∀ cid, v.event.2 = .poll cid → UpToDate v.after cid := by
  intro h
  have hlast := h _ (List.mem_cons_of_mem _ (List.mem_cons_of_mem _ (List.mem_cons_of_mem _
    (List.mem_cons_of_mem _ (List.mem_cons_self ..))))) 1 rfl
  have hrow := hlast ⟨1, { setParams newStation 0 with
    lastUpdtdTS := 0, status := 0, updMob := some 0 }⟩ (by decide +kernel) rfl
  exact absurd hrow (by decide +kernel)

/-- The flag of the row is up. -/
def FlagUp (s : Server) (id : Int) : Prop :=
  ∃ r ∈ s.chStations.rows, r.rowid = id ∧ r.cols.updMob = some 1

/-- A poll by the owner of the row that delivered it as it was. -/
def DeliversRow (v : Visit Server (Env × StationOp)) (id : Int) : Prop :=
  ∃ r ∈ v.before.chStations.rows, r.rowid = id ∧ v.event.2 = .poll r.cols.clientID ∧
    readChS r ∈ v.before.delivered v.event.1 r.cols.clientID

/-- From `s` to `t` the flags of the delivered rows were taken down and nothing
else was changed, and these are flagged rows of the client. -/
structure ClearsDelivered (s t : Server) (cid : Int) (list : List PCSItem) : Prop where
  delivered : ∀ item ∈ list, ∃ r ∈ s.chStations.rows,
    item = readChS r ∧ r.cols.clientID = cid ∧ r.cols.updMob = some 1
  cleared : t.chStations.rows = s.chStations.rows.map fun r =>
    if readChS r ∈ list then ⟨r.rowid, { r.cols with updMob := some 0 }⟩ else r

/-- The rowids of the rows a poll is to deliver fit an int, and it is not kept
from taking their flags down once it has read one. -/
structure PollClears (E : Env) (s : Server) (cid : Int) : Prop where
  rowids : ∀ r ∈ s.flagged cid, -(2 ^ 31) ≤ r.rowid ∧ r.rowid < 2 ^ 31
  clears : s.flagged cid ≠ [] → E.raises 0 ≠ none ∨ E.raises 1 = some 0 ∨
    E.raises 1 = none ∧ E.raises ((s.flagged cid).length + 2) = none

/-- What an operation has to find. -/
def ClearingOp (s : Server) (e : Env × StationOp) : Prop :=
  match e.2 with
  | .poll cid => PollClears e.1 s cid
  | op => op.Literal

section Flags

variable {E : Env} {s : Server} {cid : Int}

theorem readChS_mem {rows : List (Row ChStation)} (hrows : ∀ r ∈ rows, r ∈ s.chStations.rows)
    {r : Row ChStation} (hr : r ∈ s.chStations.rows) :
    readChS r ∈ rows.map readChS ↔ r ∈ rows := by
  constructor
  · intro hmem
    obtain ⟨r', hr', hcopy⟩ := List.mem_map.mp hmem
    have hid : r'.rowid = r.rowid := congrArg PCSItem.id hcopy
    rwa [← s.chStations.eq_of_rowid (hrows r' hr') hr hid]
  · exact List.mem_map_of_mem

theorem ClearsDelivered.of_same {t : Server} (h : t.chStations = s.chStations) :
    ClearsDelivered s t cid [] := by
  refine ⟨by simp, ?_⟩
  rw [h]
  exact (List.map_id _).symm

/-- A poll that is not kept from it clears what it delivers. -/
theorem poll_clearsDelivered (hids : E.KeepsIds) (h : PollClears E s cid) :
    ClearsDelivered s (StationOp.step s (E, .poll cid)) cid (s.delivered E cid) := by
  cases poll_cases E s cid with
  | closed _ hlist hsame =>
    rw [hlist]
    exact .of_same hsame
  | cut k hopen hread hlist hsame =>
    have hnothing : (s.flagged cid).take k = [] := by
      by_cases hnone : s.flagged cid = []
      · rw [hnone, List.take_nil]
      · rcases h.clears hnone with hclosed | hfirst | ⟨hcalm, _⟩
        · exact absurd hopen hclosed
        · rw [hread] at hfirst
          cases hfirst
          rfl
        · rw [hread] at hcalm
          cases hcalm
    rw [hlist, hnothing]
    exact .of_same hsame
  | kept hopen hread hlist hraised hsame =>
    have hnothing : s.flagged cid = [] := by
      by_contra hsome
      rcases h.clears hsome with hclosed | hfirst | ⟨_, hcalm⟩
      · exact hclosed hopen
      · rw [hread] at hfirst
        cases hfirst
      · exact hraised.elim hsome fun hraises => hraises hcalm
    rw [hlist, hnothing]
    exact .of_same hsame
  | cleared ids _ _ hlist hread hrows =>
    have hflagged : ∀ r ∈ s.flagged cid, r ∈ s.chStations.rows :=
      fun r hr => (Server.mem_flagged.mp hr).1
    have hkeep : ids = (s.flagged cid).map Row.rowid := by
      rw [hread hids]
      exact List.map_congr_left fun r hr => wrap32_of_range (h.rowids r hr)
    rw [hlist]
    constructor
    · intro item hitem
      obtain ⟨r, hr, rfl⟩ := List.mem_map.mp hitem
      obtain ⟨hmem, hup, hcid⟩ := Server.mem_flagged.mp hr
      exact ⟨r, hmem, rfl, hcid, hup⟩
    · have hrows' : (StationOp.step s (E, .poll cid)).chStations.rows =
          s.chStations.rows.map (Table.rewriteRow (clearRow ids cid)) := hrows
      rw [hrows']
      apply List.map_congr_left
      intro r hr
      have hmem : (r.rowid ∈ ids ∧ r.cols.clientID = cid) ↔
          readChS r ∈ (s.flagged cid).map readChS := by
        rw [readChS_mem hflagged hr, hkeep]
        constructor
        · rintro ⟨hid, _⟩
          obtain ⟨r', hr', heq⟩ := List.mem_map.mp hid
          rwa [← s.chStations.eq_of_rowid (hflagged r' hr') hr heq]
        · intro hr'
          exact ⟨List.mem_map_of_mem hr', (Server.mem_flagged.mp hr').2.2⟩
      by_cases hclears : r.rowid ∈ ids ∧ r.cols.clientID = cid
      · rw [Table.rewriteRow_some (if_pos hclears), if_pos (hmem.mp hclears)]
      · rw [Table.rewriteRow_none (if_neg hclears), if_neg fun hc => hclears (hmem.mpr hc)]

/-- Operations other than polls leave a flag up. -/
theorem FlagUp.written {op : StationOp} {id : Int} (hup : FlagUp s id)
    (hop : ∀ cid, op ≠ .poll cid) (h : op.Literal) :
    FlagUp (StationOp.step s (E, op)) id := by
  obtain ⟨r, hr, hid, hflag⟩ := hup
  cases StationOp.step_cases (E := E) op s hop h with
  | same hsame => exact ⟨r, by rwa [hsame], hid, hflag⟩
  | rewritten hrows =>
    refine ⟨Table.rewriteRow (op.write E) r, ?_, ?_, ?_⟩
    · rw [hrows]
      exact List.mem_map_of_mem hr
    · rw [Table.rewriteRow_rowid, hid]
    · cases hwrite : op.write E r with
      | none => rw [Table.rewriteRow_none hwrite, hflag]
      | some a =>
        rw [Table.rewriteRow_some hwrite]
        rcases StationOp.write_flag hwrite with hraised | hkept
        · exact hraised
        · exact hkept.trans hflag
  | inserted wi flags _ _ hrows =>
    refine ⟨r, ?_, hid, hflag⟩
    rw [hrows]
    exact List.mem_append_left _ hr

/-- A poll takes a flag down only when it delivers the row to its owner. -/
theorem FlagUp.polled {id : Int} (hup : FlagUp s id) (hids : E.KeepsIds)
    (h : PollClears E s cid) :
    FlagUp (StationOp.step s (E, .poll cid)) id ∨
      DeliversRow ⟨s, (E, .poll cid), StationOp.step s (E, .poll cid)⟩ id := by
  obtain ⟨r, hr, hid, hflag⟩ := hup
  have hclears := poll_clearsDelivered hids h
  by_cases hread : readChS r ∈ s.delivered E cid
  · obtain ⟨r', hr', hcopy, hcid, _⟩ := hclears.delivered _ hread
    have hsame : r' = r := s.chStations.eq_of_rowid hr' hr (congrArg PCSItem.id hcopy).symm
    rw [hsame] at hcid
    right
    refine ⟨r, hr, hid, ?_, ?_⟩
    · rw [hcid]
    · rw [hcid]
      exact hread
  · left
    refine ⟨r, ?_, hid, hflag⟩
    rw [hclears.cleared]
    exact List.mem_map.mpr ⟨r, hr, if_neg hread⟩

theorem FlagUp.step {e : Env × StationOp} {id : Int} (hup : FlagUp s id)
    (hids : e.1.KeepsIds) (h : ClearingOp s e) :
    FlagUp (StationOp.step s e) id ∨ DeliversRow ⟨s, e, StationOp.step s e⟩ id := by
  obtain ⟨E, op⟩ := e
  cases op with
  | poll cid => exact hup.polled hids h
  | _ => exact Or.inl (hup.written (by simp) h)

/-- Over a run a flag stays up until a poll of the owner delivered the row. -/
theorem FlagUp.run {es : List (Env × StationOp)} {id : Int} (hup : FlagUp s id)
    (hids : ∀ e ∈ es, e.1.KeepsIds) (h : Meets StationOp.step ClearingOp s es) :
    FlagUp (Machine.run StationOp.step s es) id ∨
      ∃ v ∈ visits StationOp.step s es, DeliversRow v id := by
  induction es generalizing s with
  | nil => exact Or.inl hup
  | cons e es ih =>
    obtain ⟨hok, hrest⟩ := meets_cons.mp h
    rcases hup.step (hids e (List.mem_cons_self ..)) hok with hstill | hdelivered
    · rcases ih hstill (fun e' he' => hids e' (List.mem_cons_of_mem _ he')) hrest with
        hend | ⟨v, hv, hdelivers⟩
      · exact Or.inl hend
      · exact Or.inr ⟨v, List.mem_cons_of_mem _ hv, hdelivers⟩
    · exact Or.inr ⟨_, List.mem_cons_self .., hdelivered⟩

end Flags

/-- In every run of such operations a flag that is up at the start stays up
until a poll by the client that then owns the row delivers it, and every poll
takes down the flags of what it delivers and changes nothing else. -/
theorem flags_delivered (s : Server) (es : List (Env × StationOp))
    (hids : ∀ e ∈ es, e.1.KeepsIds) (hclears : Meets StationOp.step ClearingOp s es) :
    (∀ id, FlagUp s id → FlagUp (run StationOp.step s es) id ∨
      ∃ v ∈ visits StationOp.step s es, DeliversRow v id) ∧
    ∀ v ∈ visits StationOp.step s es, ∀ cid, v.event.2 = .poll cid →
      ClearsDelivered v.before v.after cid (v.before.delivered v.event.1 cid) := by
  refine ⟨fun id hup => hup.run hids hclears, ?_⟩
  intro v hv cid hpoll
  have hok := hclears v hv
  have hkeeps := hids v.event (event_mem_of_visit hv)
  rw [after_eq_step hv]
  obtain ⟨s', ⟨E, op⟩, _⟩ := v
  dsimp only at hpoll hok hkeeps
  rw [hpoll] at hok ⊢
  exact poll_clearsDelivered hkeeps hok

/-- A station whose flag is up. -/
def flaggedStation : Server :=
  { Server.empty with
    chStations := ⟨[⟨1, { ChStation.plain "GRS-0123456789" "[::1]:5000" 1 with
      updMob := some 1 }⟩], by decide, by decide⟩ }

/-- Its owner polls and gets it. -/
theorem flags_delivered_polled :
    (∀ id, FlagUp flaggedStation id →
      FlagUp (run StationOp.step flaggedStation [(.calm, .poll 1)]) id ∨
        ∃ v ∈ visits StationOp.step flaggedStation [(.calm, .poll 1)], DeliversRow v id) ∧
    ∀ v ∈ visits StationOp.step flaggedStation [(.calm, .poll 1)],
      ∀ cid, v.event.2 = .poll cid →
        ClearsDelivered v.before v.after cid (v.before.delivered v.event.1 cid) := by
  apply flags_delivered
  · intro e he n
    rw [List.mem_singleton.mp he]
    exact Or.inl rfl
  · refine meets_cons.mpr ⟨⟨by decide, fun _ => Or.inr (Or.inr ⟨rfl, rfl⟩)⟩, Meets.nil _⟩

/-- A status message whose info ends the literal of its UPDATE early. -/
def clearingStatus : StationOp :=
  .statusNotification { uniqueID := "0123456789-", action := "StatusNotification" }
    { ts := 0, status := "Available", errCode := "NoError", sensors := "1,0,',UpdMob=0 --," }

/-- What the engine makes of this UPDATE: the rest of the text is a comment,
so it has no row filter. -/
def clearingEngine : Env :=
  { Env.calm with
    chStations := { Altered.refused _ with
      update := fun text =>
        if text = "UPDATE CH_STATIONS SET ObjB='StatusNotification,Available,NoError,1,0,',UpdMob=0 --,',LastUpdtdTS=0,UpdMob=1  WHERE CSSerN='GRS-0123456789'".toList then
          some fun r => some { r.cols with
            objB := "StatusNotification,Available,NoError,1,0,", updMob := some 0 }
        else none } }

set_option maxRecDepth 2000 in
/-- It takes the flag down though nobody polled. -/
theorem clearing_status_unflags :
    ¬ ((∀ id, FlagUp flaggedStation id →
      FlagUp (run StationOp.step flaggedStation [(clearingEngine, clearingStatus)]) id ∨
        ∃ v ∈ visits StationOp.step flaggedStation [(clearingEngine, clearingStatus)],
          DeliversRow v id) ∧
    ∀ v ∈ visits StationOp.step flaggedStation [(clearingEngine, clearingStatus)],
      ∀ cid, v.event.2 = .poll cid →
        ClearsDelivered v.before v.after cid (v.before.delivered v.event.1 cid)) := by
  rintro ⟨hup, -⟩
  rcases hup 1 ⟨_, List.mem_singleton_self _, rfl, rfl⟩ with ⟨r, hr, _, hflag⟩ | ⟨v, hv, hread⟩
  · have hdown : ∀ r ∈ (run StationOp.step flaggedStation
        [(clearingEngine, clearingStatus)]).chStations.rows, r.cols.updMob = some 0 := by
      decide +kernel
    rw [hdown r hr] at hflag
    cases hflag
  · obtain ⟨r, _, _, hpoll, _⟩ := hread
    rw [List.mem_singleton.mp hv] at hpoll
    cases hpoll

end UCLinux.Ocpp
