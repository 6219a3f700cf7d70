import UCLinux.Machine.Run
import UCLinux.Ocpp.Stations

/-!
Charging profiles and the stations they are assigned to. Saving a profile
under an ID rewrites its row and then assigns the ID to stations of the
client, without looking at whose row it was or whether there was one. A new
profile gets the ID after the largest and is assigned to nothing. Removing the
profile of a station does not look at whose station it is.
-/

namespace UCLinux.Ocpp

open Sql Machine Server CentralOcppDB HistoryDB

/-- The calls of clients on profiles. -/
inductive ProfileCall where
  | save (cid profileId : Int) (profName sern json : Text)
  | remove (cid : Int) (sern : Text)

def ProfileCall.cid : ProfileCall → Int
  | .save cid _ _ _ _ => cid
  | .remove cid _ => cid

/-- The operation of a call; removing is not told who asks for it. -/
def ProfileCall.op : ProfileCall → StationOp
  | .save cid profileId profName sern json => .saveProfile cid profileId profName sern json
  | .remove _ sern => .removeProfile sern

def ProfileCall.step (s : Server) (e : Env × ProfileCall) : Server :=
  StationOp.step s (e.1, e.2.op)

/-- Every profile a station is assigned exists. -/
def ProfilesExist (s : Server) : Prop :=
  ∀ r ∈ s.chStations.rows, r.cols.profID ≠ 0 → ∃ p ∈ s.csProf.rows, p.rowid = r.cols.profID

/-- What a call has to do. -/
structure ProfilesRight (v : Visit Server (Env × ProfileCall)) : Prop where
  exist : ProfilesExist v.after
  fresh : ∀ cid profileId profName sern json,
    v.event.2 = .save cid profileId profName sern json → profileId ≤ 0 →
    v.after.csProf = v.before.csProf ∨
    ∃ p ∈ v.after.csProf.rows,
      p.rowid = (insertOrUpdateCSProf2DB v.event.1 cid profileId profName sern json
        v.before.start).1 ∧
      (∀ q ∈ v.before.csProf.rows, q.rowid ≠ p.rowid) ∧
      ∀ q, q ∈ v.after.csProf.rows ↔ q ∈ v.before.csProf.rows ∨ q = p
  unknown : ∀ cid profileId profName sern json,
    v.event.2 = .save cid profileId profName sern json → 0 < profileId →
    (∀ p ∈ v.before.csProf.rows, p.rowid ≠ profileId) →
    ∀ r ∈ v.before.chStations.rows, ∃ r' ∈ v.after.chStations.rows,
      r'.rowid = r.rowid ∧ r'.cols.profID = r.cols.profID
  stations : v.before.chStations.ChangesOnly (·.cols.clientID = v.event.2.cid)
    v.after.chStations
  profiles : v.before.csProf.ChangesOnly (·.cols.clientID = v.event.2.cid) v.after.csProf

/-- A save brings no quote where it writes, its profile is the client's, and
when there is no such profile it has no station to assign it to. -/
structure SaveSafe (s : Server) (cid profileId : Int) (profName sern json : Text) : Prop where
  quote : 0 < profileId ∨ 0 < s.profileBase profileId →
    '\'' ∉ cstr profName ∧ '\'' ∉ cstr json
  sernQuote : 0 < profileId → '\'' ∉ cstr sern
  owned : 0 < profileId → ∀ p ∈ s.csProf.rows, p.rowid = profileId → p.cols.clientID = cid
  assigned : 0 < profileId → (∃ p ∈ s.csProf.rows, p.rowid = profileId) ∨ sern = [] ∨
    ∀ r ∈ s.chStations.rows, sern = "*" ∨ r.cols.csSerN = cstr sern → r.cols.clientID ≠ cid

/-- What a call has to find. -/
def SafeCall (s : Server) (e : Env × ProfileCall) : Prop :=
  match e.2 with
  | .save cid profileId profName sern json => SaveSafe s cid profileId profName sern json
  | .remove cid sern => '\'' ∉ cstr sern ∧
    ∀ r ∈ s.chStations.rows, r.cols.csSerN = cstr sern →
      r.cols.clientID = cid ∨ r.cols.profID = 0 ∧ r.cols.updMob = some 1

section Saving

variable {E : Env} {s : Server} {cid profileId : Int} {profName sern json : Text}

/-- Everything a save can do to the profiles. -/
inductive SaveStep (s : Server) (cid profileId : Int) (profName json : Text) (rv : Int)
    (t : Table (noKey (α := CSProfile))) : Prop where
  | same (h : t = s.csProf)
  | updated (ts : Int) (hpos : 0 < profileId)
      (h : t.rows = s.csProf.rows.map (Table.rewriteRow fun r =>
        if r.rowid = profileId then some (csProfRow cid profName json ts) else none))
  | inserted (ts : Int) (hnew : profileId ≤ 0)
      (h : s.csProf.insertAt rv (csProfRow cid profName json ts) = some (t, rv))

theorem save_cases (h : SaveSafe s cid profileId profName sern json) :
    SaveStep s cid profileId profName json
      (insertOrUpdateCSProf2DB E cid profileId profName sern json s.start).1
      (s.after (insertOrUpdateCSProf2DB E cid profileId profName sern json)).csProf := by
  unfold Server.after
  cases insertOrUpdateCSProf2DB_run E cid profileId profName sern json s.start with
  | failed hrv hstate =>
    rw [hstate]
    exact .same rfl
  | updated ts g t hpos hg hrw hstate =>
    rw [TableAt.rewriting_quoteFree _ (updateCSProfSql_quoteFree.mpr (h.quote (Or.inl hpos)))]
      at hg
    cases hg
    rw [hstate]
    have hkept : Writes [.chStations] (updateCSStationsWithProfile E profileId cid sern) :=
      updateCSStationsWithProfile_writes (by simp)
    have hsaved := (hkept ⟨CSProfTbl.set s.start.state t, s.start.asked + 3⟩).csProf (by simp)
    exact .updated ts hpos ((congrArg Table.rows hsaved).trans (Table.rewrite_rows hrw))
  | unplaced hpos hbase hrv hstate =>
    rw [hstate]
    exact .same rfl
  | inserted ts hpos hbase hrv hstate =>
    rw [hstate]
    rcases CSProfTbl.insert_cases E (insertCSProfSql _ cid profName json ts) _
      ⟨s.start.state, s.start.asked + 3⟩ with hx | ⟨t, n, hins, _, hx⟩
    · rw [hx]
      exact .same rfl
    · rw [if_pos (insertCSProfSql_quoteFree.mpr (h.quote (Or.inr hbase)))] at hins
      rw [hx]
      have hn := (Table.insertAt_spec hins).1
      refine .inserted ts (by omega) ?_
      rw [hn] at hins
      exact hins

/-- No profile disappears. -/
theorem SaveStep.rowids {rv : Int} {t : Table (noKey (α := CSProfile))}
    (h : SaveStep s cid profileId profName json rv t) :
    ∀ p ∈ s.csProf.rows, ∃ p' ∈ t.rows, p'.rowid = p.rowid := by
  intro p hp
  cases h with
  | same h => exact ⟨p, h ▸ hp, rfl⟩
  | updated ts _ h =>
    have hmem := List.mem_map_of_mem (f := Table.rewriteRow fun r : Row CSProfile =>
      if r.rowid = profileId then some (csProfRow cid profName json ts) else none) hp
    exact ⟨_, h ▸ hmem, Table.rewriteRow_rowid _ p⟩
  | inserted ts _ h => exact ⟨p, Table.insertAt_mem h hp, rfl⟩

theorem SaveSafe.savesOwned (h : SaveSafe s cid profileId profName sern json) :
    SavesOwned s cid profileId profName sern json := by
  refine ⟨h.owned, ?_, ?_⟩
  · intro hquote hwrites
    obtain ⟨hname, hdata⟩ := h.quote hwrites
    exact (hquote.elim hname hdata).elim
  · intro hpos hquote
    exact absurd hquote (h.sernQuote hpos)

/-- A station that is assigned a profile by a safe save is assigned one that
exists. -/
theorem SaveSafe.write_exists (h : SaveSafe s cid profileId profName sern json)
    {r : Row ChStation} (hr : r ∈ s.chStations.rows) {a : ChStation}
    (ha : (StationOp.saveProfile cid profileId profName sern json).write E r = some a) :
    0 < profileId ∧ a.profID = profileId ∧ ∃ p ∈ s.csProf.rows, p.rowid = profileId := by
  simp only [StationOp.write] at ha
  split at ha
  · next hrow =>
    cases ha
    obtain ⟨⟨hpos, hne⟩, hmatch, hcid⟩ := hrow
    refine ⟨hpos, rfl, ?_⟩
    rcases h.assigned hpos with hsome | hempty | hnone
    · exact hsome
    · exact absurd hempty hne
    · exact absurd hcid (hnone r hr hmatch)
  · cases ha

/-- A safe save of an ID that no profile has assigns nothing. -/
theorem save_unknown (h : SaveSafe s cid profileId profName sern json)
    (hunknown : ∀ p ∈ s.csProf.rows, p.rowid ≠ profileId) :
    ∀ r ∈ s.chStations.rows,
      r ∈ (ProfileCall.step s (E, .save cid profileId profName sern json)).chStations.rows := by
  intro r hr
  cases StationOp.step_cases (E := E) (.saveProfile cid profileId profName sern json)
    s (by simp) h.sernQuote with
  | same hsame =>
    have hsame' : (ProfileCall.step s (E, .save cid profileId profName sern json)).chStations =
        s.chStations := hsame
    rwa [hsame']
  | rewritten hrows =>
    have hnone : ∀ r ∈ s.chStations.rows,
        (StationOp.saveProfile cid profileId profName sern json).write E r = none := by
      intro r hr
      by_contra hsome
      obtain ⟨a, ha⟩ := Option.ne_none_iff_exists'.mp hsome
      obtain ⟨_, _, p, hp, hid⟩ := h.write_exists hr ha
      exact hunknown p hp hid
    rw [Table.map_rewriteRow_none hnone] at hrows
    have hrows' : (ProfileCall.step s (E, .save cid profileId profName sern json)).chStations.rows =
        s.chStations.rows := hrows
    rwa [hrows']
  | inserted wi flags hop => cases hop

theorem save_exist (hexist : ProfilesExist s) (h : SaveSafe s cid profileId profName sern json) :
    ProfilesExist (ProfileCall.step s (E, .save cid profileId profName sern json)) := by
  have hkept := (save_cases (E := E) h).rowids
  have hold : ∀ r ∈ s.chStations.rows, r.cols.profID ≠ 0 → ∃ p ∈ (ProfileCall.step s
      (E, .save cid profileId profName sern json)).csProf.rows, p.rowid = r.cols.profID := by
    intro r hr hassigned
    obtain ⟨p, hp, hid⟩ := hexist r hr hassigned
    obtain ⟨p', hp', hid'⟩ := hkept p hp
    exact ⟨p', hp', hid'.trans hid⟩
  intro r' hr' hassigned
  cases StationOp.step_cases (E := E) (.saveProfile cid profileId profName sern json)
    s (by simp) h.sernQuote with
  | same hsame => exact hold r' (hsame ▸ hr') hassigned
  | rewritten hrows =>
    have hmem : r' ∈ s.chStations.rows.map (Table.rewriteRow
        ((StationOp.saveProfile cid profileId profName sern json).write E)) := hrows ▸ hr'
    obtain ⟨r, hr, rfl⟩ := List.mem_map.mp hmem
    cases hrow : (StationOp.saveProfile cid profileId profName sern json).write E r with
    | none =>
      rw [Table.rewriteRow_none hrow] at hassigned ⊢
      exact hold r hr hassigned
    | some a =>
      obtain ⟨_, hprof, p, hp, hid⟩ := h.write_exists hr hrow
      obtain ⟨p', hp', hid'⟩ := hkept p hp
      rw [Table.rewriteRow_some hrow]
      exact ⟨p', hp', by rw [hid', hid]; exact hprof.symm⟩
  | inserted wi flags hop => cases hop

theorem save_profilesRight (hexist : ProfilesExist s)
    (h : SaveSafe s cid profileId profName sern json) :
    ProfilesRight ⟨s, (E, .save cid profileId profName sern json),
      ProfileCall.step s (E, .save cid profileId profName sern json)⟩ := by
  obtain ⟨hstations, hprofiles⟩ :=
    insertOrUpdateCSProf2DB_owned (E := E) h.savesOwned s.start rfl rfl
  refine ⟨save_exist hexist h, ?_, ?_, hstations, hprofiles⟩
  · intro cid' profileId' profName' sern' json' hcall hnew
    cases hcall
    cases save_cases (E := E) h with
    | same hsame => exact Or.inl hsame
    | updated ts hpos _ => omega
    | inserted ts _ hins =>
      obtain ⟨_, hfree, hmem⟩ := Table.insertAt_spec hins
      exact Or.inr ⟨_, (hmem _).mpr (Or.inr rfl), rfl, hfree, hmem⟩
  · intro cid' profileId' profName' sern' json' hcall _ hunknown r hr
    cases hcall
    exact ⟨r, save_unknown h hunknown r hr, rfl, rfl⟩

end Saving

section Removing

variable {E : Env} {s : Server} {cid : Int} {sern : Text}

theorem remove_profilesRight (hexist : ProfilesExist s)
    (h : SafeCall s (E, .remove cid sern)) :
    ProfilesRight ⟨s, (E, .remove cid sern), ProfileCall.step s (E, .remove cid sern)⟩ := by
  obtain ⟨hquote, hown⟩ := h
  have howned : ClearsOwned s cid sern := ⟨hown, fun hq => absurd hq hquote⟩
  have hwrites : Writes [.chStations] (removeChargingProfilefromCS E sern) :=
    removeChargingProfile_writes (by simp)
  have hprof : (ProfileCall.step s (E, .remove cid sern)).csProf = s.csProf :=
    (hwrites s.start).csProf (by simp)
  refine ⟨?_, ?_, ?_, removeChargingProfilefromCS_owned howned s.start rfl, ?_⟩
  · intro r' hr' hassigned
    rw [hprof]
    cases StationOp.step_cases (E := E) (.removeProfile sern) s (by simp) hquote with
    | same hsame => exact hexist r' (hsame ▸ hr') hassigned
    | rewritten hrows =>
      have hmem : r' ∈ s.chStations.rows.map (Table.rewriteRow
          ((StationOp.removeProfile sern).write E)) := hrows ▸ hr'
      obtain ⟨r, hr, rfl⟩ := List.mem_map.mp hmem
      by_cases hrow : r.cols.csSerN = cstr sern
      · rw [Table.rewriteRow_some (if_pos hrow)] at hassigned
        exact absurd rfl hassigned
      · rw [Table.rewriteRow_none (if_neg hrow)] at hassigned ⊢
        exact hexist r hr hassigned
    | inserted wi flags hop => cases hop
  · intro cid' profileId' profName' sern' json' hcall
    cases hcall
  · intro cid' profileId' profName' sern' json' hcall
    cases hcall
  · rw [hprof]
    exact .refl _

end Removing

theorem call_profilesRight {s : Server} {e : Env × ProfileCall} (hexist : ProfilesExist s)
    (h : SafeCall s e) : ProfilesRight ⟨s, e, ProfileCall.step s e⟩ := by
  obtain ⟨E, call⟩ := e
  cases call with
  | save cid profileId profName sern json => exact save_profilesRight hexist h
  | remove cid sern => exact remove_profilesRight hexist h

/-- In every run of safe calls from tables whose assigned profiles exist each
call does what it has to. -/
theorem profiles_right (s : Server) (hexist : ProfilesExist s) (es : List (Env × ProfileCall))
    (hsafe : Meets ProfileCall.step SafeCall s es) :
    ∀ v ∈ visits ProfileCall.step s es, ProfilesRight v := by
  intro v hv
  have hbefore : ProfilesExist v.before :=
    (visits_invariant ProfilesExist (fun _ _ hI hok => (call_profilesRight hI hok).exist)
      hexist hsafe hv).1
  have hok := hsafe v hv
  have hafter := after_eq_step hv
  obtain ⟨s', e, t⟩ := v
  dsimp only at hok hbefore hafter
  rw [hafter]
  exact call_profilesRight hbefore hok

/-- A client saves a profile, assigns it to its stations and removes it
again. -/
theorem profiles_right_assigned :
    (visits ProfileCall.step connectedStation
      [(.calm, .save 1 (-1) "P" "*" "\x7b\x7d"), (.calm, .save 1 2 "P" "*" "\x7b\x7d"),
        (.calm, .remove 1 "GRS-1")]).Forall ProfilesRight := by
  apply List.forall_iff_forall_mem.mpr
  apply profiles_right
  · intro r hr hassigned
    rw [List.mem_singleton.mp hr] at hassigned
    exact absurd rfl hassigned
  · refine meets_cons.mpr ⟨⟨fun _ => by decide, fun h => ?_, fun h => ?_, fun h => ?_⟩, ?_⟩
    · exact absurd h (by decide)
    · exact absurd h (by decide)
    · exact absurd h (by decide)
    · refine meets_cons.mpr ⟨⟨fun _ => by decide, fun _ => by decide, fun _ => ?_,
        fun _ => Or.inl ?_⟩, ?_⟩
      · decide +kernel
      · decide +kernel
      · refine meets_cons.mpr ⟨⟨by decide, ?_⟩, Meets.nil _⟩
        decide +kernel

/-- A profile that does not exist is assigned to the client's station. -/
theorem missing_profile_assigned :
    ¬ ∀ v ∈ visits ProfileCall.step connectedStation
        [(.calm, .save 1 7 "P" "*" "\x7b\x7d")], ProfilesRight v := by
  intro h
  have hstep := h _ (List.mem_cons_self ..)
  have hnone : (ProfileCall.step connectedStation
      (.calm, .save 1 7 "P" "*" "\x7b\x7d")).csProf.rows = [] := by decide +kernel
  obtain ⟨p, hp, _⟩ := hstep.exist
    ⟨1, { ChStation.plain "GRS-1" "[::1]:5000" 1 with profID := 7, updMob := some 1 }⟩
    (by decide +kernel) (by decide)
  have hp' : p ∈ (ProfileCall.step connectedStation
      (.calm, .save 1 7 "P" "*" "\x7b\x7d")).csProf.rows := hp
  rw [hnone] at hp'
  cases hp'

end UCLinux.Ocpp
