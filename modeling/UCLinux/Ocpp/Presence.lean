import UCLinux.Ocpp.Routing

/-!
The Status column. Opening and closing a connection set it in the rows that
carry the endpoint, and the endpoint stays in the row when the connection is
gone: another connection from there turns a station up that is away. A
connection whose peer is lost is asked for its endpoint too late, and the
station it was of stays up. Without such a reuse and such a loss the column
says whether the connection of a station's latest boot is still open.
-/

namespace UCLinux.Ocpp

open Sql Machine Server CentralOcppDB HistoryDB

section Status

variable {E : Env} {ip : Text}

/-- The row an open or a close writes. -/
def statusRow (ip : Text) (sts : ChargeStationStatus) (r : Row ChStation) :
    Option ChStation :=
  if r.cols.ipAddr = cstr ip then some { r.cols with status := sts.toInt } else none

theorem statusRow_keeps (sts : ChargeStationStatus) (r : Row ChStation) :
    (Table.rewriteRow (statusRow ip sts) r).cols.csSerN = r.cols.csSerN ∧
      (Table.rewriteRow (statusRow ip sts) r).cols.ipAddr = r.cols.ipAddr := by
  by_cases hip : r.cols.ipAddr = cstr ip
  · rw [Table.rewriteRow_some (if_pos hip)]
    exact ⟨rfl, rfl⟩
  · rw [Table.rewriteRow_none (if_neg hip)]
    exact ⟨rfl, rfl⟩

/-- The rows of an endpoint get the status, unless a statement raises. -/
theorem setChargeStationStatus_rows (hquote : '\'' ∉ ip) (sts : ChargeStationStatus)
    (s : Session Server) :
    ((setChargeStationStatus E ip sts s).2.state.chStations.rows = s.state.chStations.rows ∧
      ¬ (E.raises s.asked = none ∧ E.raises (s.asked + 1) = none)) ∨
    (setChargeStationStatus E ip sts s).2.state.chStations.rows =
      s.state.chStations.rows.map (Table.rewriteRow (statusRow ip sts)) := by
  have hkey : ∀ r a, statusRow ip sts r = some a → ChStation.key a = ChStation.key r.cols := by
    intro r a ha
    unfold statusRow at ha
    split at ha
    · cases ha
      rfl
    · cases ha
  unfold setChargeStationStatus updateChargeStationStatus
  rw [Action.bind_apply, createConnection_bind]
  by_cases hopen : E.raises s.asked = none
  · rw [if_pos hopen]
    by_cases hopen' : E.raises (s.asked + 1) = none
    · right
      obtain ⟨t, hrows, hdone⟩ := CH_STATIONS.update_literal (E := E) (statusRow ip sts) s.tick
        (updateChargeStationStatusSql_quoteFree.mpr fun hc => hquote (mem_of_mem_cstr hc))
        hopen' hkey
      have hupdate : CH_STATIONS.update E (updateChargeStationStatusSql "IPAddr" ip sts.toInt)
          (fun r => if r.cols.ipAddr = cstr ip then some { r.cols with status := sts.toInt }
            else none) s.tick = _ := hdone
      rw [Action.bind_apply, hupdate]
      exact hrows
    · left
      refine ⟨?_, fun h => hopen' h.2⟩
      rcases CH_STATIONS.update_cases E (updateChargeStationStatusSql "IPAddr" ip sts.toInt)
        (fun r => if r.cols.ipAddr = cstr ip then some { r.cols with status := sts.toInt }
          else none) s.tick with hu | ⟨_, _, _, _, _, hr, _⟩
      · rw [Action.bind_apply, hu]
        rfl
      · exact absurd hr hopen'
  · rw [if_neg hopen]
    exact Or.inl ⟨rfl, fun h => hopen h.1⟩

end Status

section Presence

variable {L : Lib} {E : Env} {con : Connection} {payload : Text}

/-- For a serial number the connection of its latest boot and whether this is
still open. -/
abbrev Presence : Type := Text → Option (Connection × Bool)

def Presence.note (L : Lib) (b : Presence) (v : Visit Server (Env × Event)) : Presence :=
  match v.event.2 with
  | .closed con => fun N => (b N).map fun latest => (latest.1, latest.2 && latest.1 ≠ con)
  | .message con payload =>
    match bootSerial L payload with
    | some N => Function.update b N (some (con, true))
    | none => b
  | _ => b

/-- A boot that reports a serial number and a firmware version, neither with a
quote. -/
def BootVersioned (L : Lib) (payload : Text) : Prop :=
  ∃ p sern fw, L.loadBootNotification (doSimpleExtract payload) = some p ∧
    p.chargePointSerialNumber = some sern ∧ p.firmwareVersion = some fw ∧
    '\'' ∉ fw.toText ∧ '\'' ∉ sern.toText

/-- The events of a run of opens, closes and boots, with what each has to
find: a connection is opened at an endpoint that no open connection has and
that is in no row of a station that has booted; an open connection is closed
or boots, and its statements do not raise. One that is closed when its peer is
lost has no station's latest boot. -/
def PresentEvent (L : Lib) (p : Server × Presence) (e : Env × Event) : Prop :=
  match e.2 with
  | .opened con => (∀ c ∈ p.1.connections, c.endpoint ≠ con.endpoint) ∧
      ∀ r ∈ p.1.chStations.rows, (p.2 r.cols.csSerN).isSome →
        r.cols.ipAddr ≠ con.endpoint.text
  | .closed con => con ∈ p.1.connections ∧ e.1.raises 0 = none ∧ e.1.raises 1 = none ∧
      (e.1.peerLost → ∀ r ∈ p.1.chStations.rows, p.2 r.cols.csSerN ≠ some (con, true))
  | .message con payload => con ∈ p.1.connections ∧
      (∃ uid action, IsCall L payload uid action ∧ cstr action = "BootNotification") ∧
      BootVersioned L payload ∧ e.1.raises 1 = none ∧ e.1.raises 2 = none
  | .command _ => False

/-- The Status of every station that has booted says whether the connection
of its latest boot is open. -/
def StatusRight (p : Server × Presence) : Prop :=
  ∀ r ∈ p.1.chStations.rows, ∀ c o, p.2 r.cols.csSerN = some (c, o) →
    r.cols.status = if o then 1 else 0

/-- Moreover such a connection is open and its endpoint is in the row. -/
structure PresenceRight (p : Server × Presence) : Prop where
  distinct : EndpointsDistinct p.1.connections
  status : StatusRight p
  present : ∀ r ∈ p.1.chStations.rows, ∀ c, p.2 r.cols.csSerN = some (c, true) →
    c ∈ p.1.connections ∧ r.cols.ipAddr = c.endpoint.text

namespace PresenceRight

variable {p : Server × Presence}

theorem opened (h : PresenceRight p) (hok : PresentEvent L p (E, .opened con)) :
    PresenceRight (noting (Server.step L) (Presence.note L) p (E, .opened con)) := by
  obtain ⟨hnew, hfree⟩ := hok
  obtain ⟨hcons, hstations⟩ := step_opened L E p.1 con
  have hip : cstr con.endpoint.text = con.endpoint.text := cstr_of_no_nul con.endpoint.noNul
  -- rows of stations that have booted are as they were
  have hkept : ∀ r' ∈ (Server.step L p.1 (E, .opened con)).chStations.rows,
      (p.2 r'.cols.csSerN).isSome → r' ∈ p.1.chStations.rows := by
    intro r' hr' hbooted
    rw [hstations] at hr'
    rcases setChargeStationStatus_rows (E := E) con.endpoint.noQuote .available p.1.start
      with ⟨hsame, _⟩ | hmap
    · rwa [hsame] at hr'
    · rw [hmap] at hr'
      obtain ⟨r, hr, rfl⟩ := List.mem_map.mp hr'
      rw [(statusRow_keeps _ r).1] at hbooted
      have hother : r.cols.ipAddr ≠ cstr con.endpoint.text := by
        rw [hip]
        exact hfree r hr hbooted
      rw [Table.rewriteRow_none (if_neg hother)]
      exact hr
  refine ⟨?_, ?_, ?_⟩
  · rw [noting_fst, hcons]
    exact h.distinct.append hnew
  · intro r hr c o hlatest
    have hlatest' : p.2 r.cols.csSerN = some (c, o) := hlatest
    exact h.status r (hkept r hr (by rw [hlatest']; rfl)) c o hlatest'
  · intro r hr c hlatest
    have hlatest' : p.2 r.cols.csSerN = some (c, true) := hlatest
    obtain ⟨hopen, hend⟩ := h.present r (hkept r hr (by rw [hlatest']; rfl)) c hlatest'
    refine ⟨?_, hend⟩
    rw [noting_fst, hcons]
    exact List.mem_append_left _ hopen

/-- Which row a close finds among those of stations whose latest connection is
open: that of the connection, unless its peer is lost. -/
theorem closes_iff (h : PresenceRight p) (hok : PresentEvent L p (E, .closed con))
    {r : Row ChStation} (hr : r ∈ p.1.chStations.rows) {c : Connection}
    (hlatest : p.2 r.cols.csSerN = some (c, true)) :
    r.cols.ipAddr = cstr (E.getRemoteEndpoint con) ↔ c = con := by
  obtain ⟨hlive, _, _, hlost⟩ := hok
  obtain ⟨hmem, hend⟩ := h.present r hr c hlatest
  rw [cstr_of_no_nul (E.getRemoteEndpoint_noNul con), hend]
  unfold Env.getRemoteEndpoint
  by_cases hgone : E.peerLost
  · rw [if_pos hgone]
    refine iff_of_false c.endpoint.known ?_
    rintro rfl
    exact hlost hgone r hr hlatest
  · rw [if_neg hgone]
    constructor
    · exact fun heq => h.distinct c hmem con hlive (Endpoint.ext heq)
    · rintro rfl
      rfl

/-- When a connection is closed, a row of one that stays open is as it was, the
others say 0. -/
theorem closed_row (h : PresenceRight p) (hok : PresentEvent L p (E, .closed con))
    {r : Row ChStation} (hr : r ∈ p.1.chStations.rows) {c : Connection} {o : Bool}
    (hlatest : p.2 r.cols.csSerN = some (c, o)) :
    (o = true ∧ c ≠ con ∧
      Table.rewriteRow (statusRow (E.getRemoteEndpoint con) .unavailable) r = r) ∨
    ((o && c ≠ con) = false ∧
      (Table.rewriteRow (statusRow (E.getRemoteEndpoint con) .unavailable) r).cols.status = 0) := by
  by_cases hend : r.cols.ipAddr = cstr (E.getRemoteEndpoint con)
  · right
    rw [Table.rewriteRow_some (if_pos hend)]
    refine ⟨?_, rfl⟩
    cases o with
    | false => rfl
    | true =>
      have heq : c = con := (h.closes_iff hok hr hlatest).mp hend
      simp [heq]
  · have hsame : Table.rewriteRow (statusRow (E.getRemoteEndpoint con) .unavailable) r = r :=
      Table.rewriteRow_none (if_neg hend)
    have hstatus := h.status r hr c o hlatest
    cases o with
    | false =>
      right
      rw [hsame]
      exact ⟨rfl, hstatus⟩
    | true =>
      left
      exact ⟨rfl, fun heq => hend ((h.closes_iff hok hr hlatest).mpr heq), hsame⟩

theorem closed (h : PresenceRight p) (hok : PresentEvent L p (E, .closed con)) :
    PresenceRight (noting (Server.step L) (Presence.note L) p (E, .closed con)) := by
  have hrows := fun {r} hr {c o} => h.closed_row (r := r) hok hr (c := c) (o := o)
  obtain ⟨_, hopen0, hopen1, _⟩ := hok
  obtain ⟨hcons, hstations⟩ := step_closed L E p.1 con
  have hmap : (Server.step L p.1 (E, .closed con)).chStations.rows =
      p.1.chStations.rows.map
        (Table.rewriteRow (statusRow (E.getRemoteEndpoint con) .unavailable)) := by
    rw [hstations]
    exact (setChargeStationStatus_rows (E.getRemoteEndpoint_noQuote con) .unavailable
      p.1.start).resolve_left fun hraised => hraised.2 ⟨hopen0, hopen1⟩
  refine ⟨?_, ?_, ?_⟩
  · rw [noting_fst, hcons]
    exact h.distinct.filter _
  · intro r' hr' c' o' hlatest
    rw [noting_fst, hmap] at hr'
    obtain ⟨r, hr, rfl⟩ := List.mem_map.mp hr'
    rw [(statusRow_keeps _ r).1] at hlatest
    obtain ⟨⟨c, o⟩, hold, hnew⟩ := Option.map_eq_some_iff.mp hlatest
    cases hnew
    rcases hrows hr hold with ⟨ho, hne, hsame⟩ | ⟨ho, hzero⟩
    · rw [hsame, h.status r hr c o hold]
      simp [ho, hne]
    · rw [hzero]
      dsimp only
      rw [ho]
      rfl
  · intro r' hr' c' hlatest
    rw [noting_fst, hmap] at hr'
    obtain ⟨r, hr, rfl⟩ := List.mem_map.mp hr'
    rw [(statusRow_keeps _ r).1] at hlatest
    obtain ⟨⟨c, o⟩, hold, hnew⟩ := Option.map_eq_some_iff.mp hlatest
    obtain ⟨hc, ho⟩ := Prod.mk.inj hnew
    dsimp only at hc ho
    rcases hrows hr hold with ⟨ho', hne, hsame⟩ | ⟨ho', _⟩
    · rw [hsame, ← hc]
      rw [ho'] at hold
      obtain ⟨hmem, hend⟩ := h.present r hr c hold
      refine ⟨?_, hend⟩
      rw [noting_fst, hcons]
      exact List.mem_filter.mpr ⟨hmem, by simpa using hne⟩
    · rw [ho'] at ho
      cases ho

theorem message (h : PresenceRight p) (hok : PresentEvent L p (E, .message con payload)) :
    PresenceRight (noting (Server.step L) (Presence.note L) p (E, .message con payload)) := by
  obtain ⟨hlive, ⟨uid, action, hcall, haction⟩,
    ⟨q, sern, fw, hload, hsern, hfw, hquote, hquote'⟩, hopen1, hopen2⟩ := hok
  have hip : cstr con.endpoint.text = con.endpoint.text := cstr_of_no_nul con.endpoint.noNul
  have hcons : (Server.step L p.1 (E, .message con payload)).connections =
      p.1.connections := onMessage_connections E con payload p.1.start
  have hmap : (Server.step L p.1 (E, .message con payload)).chStations.rows = _ :=
    after_filtered_boot hcall haction hload hsern hfw hquote hquote' hopen1 hopen2
  have hnote : Presence.note L p.2 ⟨p.1, (E, .message con payload),
      Server.step L p.1 (E, .message con payload)⟩ =
      Function.update p.2 sern.toText (some (con, true)) := by
    have hserial : bootSerial L payload = some sern.toText := by
      rw [bootSerial_of_boot hcall haction, reportedSerial_of_load hload hsern]
    unfold Presence.note
    dsimp only
    rw [hserial]
  -- the row of the station says 1 and has the endpoint, the others are as they were
  have hrow : ∀ r' ∈ (Server.step L p.1 (E, .message con payload)).chStations.rows,
      (r'.cols.csSerN = sern.toText ∧ r'.cols.status = 1 ∧
        r'.cols.ipAddr = con.endpoint.text) ∨
      (r'.cols.csSerN ≠ sern.toText ∧ r' ∈ p.1.chStations.rows) := by
    intro r' hr'
    rw [hmap] at hr'
    obtain ⟨r, hr, rfl⟩ := List.mem_map.mp hr'
    by_cases hser : r.cols.csSerN = sern.toText
    · rw [Table.rewriteRow_some (if_pos hser)]
      exact Or.inl ⟨hser, rfl, hip⟩
    · rw [Table.rewriteRow_none (if_neg hser)]
      exact Or.inr ⟨hser, hr⟩
  refine ⟨hcons.symm ▸ h.distinct, ?_, ?_⟩
  · intro r' hr' c o hlatest
    rw [noting_snd, hnote] at hlatest
    rcases hrow r' hr' with ⟨hser, hone, _⟩ | ⟨hser, hold⟩
    · rw [hser, Function.update_self] at hlatest
      cases hlatest
      exact hone
    · rw [Function.update_of_ne hser] at hlatest
      exact h.status r' hold c o hlatest
  · intro r' hr' c hlatest
    rw [noting_snd, hnote] at hlatest
    rw [noting_fst, hcons]
    rcases hrow r' hr' with ⟨hser, _, hend⟩ | ⟨hser, hold⟩
    · rw [hser, Function.update_self] at hlatest
      cases hlatest
      exact ⟨hlive, hend⟩
    · rw [Function.update_of_ne hser] at hlatest
      exact h.present r' hold c hlatest

theorem step (h : PresenceRight p) {e : Env × Event} (hok : PresentEvent L p e) :
    PresenceRight (noting (Server.step L) (Presence.note L) p e) := by
  obtain ⟨E, ev⟩ := e
  cases ev with
  | opened con => exact h.opened hok
  | closed con => exact h.closed hok
  | message con payload => exact h.message hok
  | command cmd => exact absurd hok id

end PresenceRight

end Presence

/-- In every run of such events of a server that was started without
connections, after each event the Status of every station that has booted is
1 when the connection of its latest boot is open and 0 when it is not. -/
theorem status_right (L : Lib) (s : Server) (hempty : s.connections = [])
    (es : List (Env × Event))
    (hpresent : Meets (noting (Server.step L) (Presence.note L)) (PresentEvent L)
      (s, fun _ => none) es) :
    ∀ v ∈ visits (noting (Server.step L) (Presence.note L)) (s, fun _ => none) es,
      StatusRight v.after := by
  intro v hv
  have hstart : PresenceRight (s, fun _ => none) := by
    refine ⟨?_, ?_, ?_⟩
    · rw [hempty]
      exact .nil
    · intro r _ c o hlatest
      cases hlatest
    · intro r _ c hlatest
      cases hlatest
  exact (visits_invariant PresenceRight (fun _ _ h hok => h.step hok) hstart hpresent
    hv).2.status

/-- Another peer. -/
def laterPeer : Connection := ⟨1, ⟨"[::1]:5001", by decide, by decide, by decide, by decide⟩⟩

/-- A peer is lost before a station connects, boots and goes. -/
theorem status_right_gone :
    (visits (noting (Server.step fullBootLib) (Presence.note fullBootLib))
      (unbootedStation, fun _ => none)
      [(.calm, .opened laterPeer), ({ Env.calm with peerLost := true }, .closed laterPeer),
        (.calm, .opened somePeer), (.calm, .message somePeer fullBoot),
        (.calm, .closed somePeer)]).Forall fun v => StatusRight v.after := by
  apply List.forall_iff_forall_mem.mpr
  apply status_right fullBootLib unbootedStation rfl
  refine meets_cons.mpr ⟨⟨by decide, by decide⟩, ?_⟩
  refine meets_cons.mpr ⟨⟨by decide, rfl, rfl, fun _ => by decide +kernel⟩, ?_⟩
  refine meets_cons.mpr ⟨⟨by decide +kernel, by decide +kernel⟩, ?_⟩
  refine meets_cons.mpr ⟨⟨by decide, ⟨"1", "BootNotification", bootLib_isCall _, by decide⟩,
    ⟨_, _, _, rfl, rfl, rfl, by decide, by decide⟩, rfl, rfl⟩, ?_⟩
  exact meets_cons.mpr ⟨⟨by decide +kernel, rfl, rfl, Bool.noConfusion⟩, Meets.nil _⟩

/-- The station as it is stored while it counts as present. -/
def presentStation : Row ChStation :=
  ⟨1, { ChStation.plain "GRS-1" "[::1]:5000" 1 with status := 1, fwVer := some "1" }⟩

/-- Its connection is gone. -/
theorem not_statusRight_gone {p : Server × Presence}
    (hrow : presentStation ∈ p.1.chStations.rows) (hgone : p.2 "GRS-1" = some (somePeer, false)) :
    ¬StatusRight p := by
  intro h
  have hzero := h presentStation hrow somePeer false hgone
  exact absurd hzero (by decide)

/-- When it has gone and another peer has its endpoint, it counts as present,
and so it does when its peer was lost. -/
theorem reused_endpoint_present :
    (¬ ∀ v ∈ visits (noting (Server.step fullBootLib) (Presence.note fullBootLib))
        (unbootedStation, fun _ => none)
        [(.calm, .opened somePeer), (.calm, .message somePeer fullBoot),
          (.calm, .closed somePeer), (.calm, .opened nextPeer)],
      StatusRight v.after) ∧
    ¬ ∀ v ∈ visits (noting (Server.step fullBootLib) (Presence.note fullBootLib))
        (unbootedStation, fun _ => none)
        [(.calm, .opened somePeer), (.calm, .message somePeer fullBoot),
          ({ Env.calm with peerLost := true }, .closed somePeer)],
      StatusRight v.after := by
  constructor
  · intro h
    have hlast := h _ (List.mem_cons_of_mem _ (List.mem_cons_of_mem _ (List.mem_cons_of_mem _
      (List.mem_cons_self ..))))
    exact not_statusRight_gone (by decide +kernel) (by decide +kernel) hlast
  · intro h
    have hlast := h _ (List.mem_cons_of_mem _ (List.mem_cons_of_mem _ (List.mem_cons_self ..)))
    exact not_statusRight_gone (by decide +kernel) (by decide +kernel) hlast

end UCLinux.Ocpp
