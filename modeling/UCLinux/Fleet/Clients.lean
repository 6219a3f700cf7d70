import UCLinux.Fleet.Registration
import UCLinux.Machine.Run

/-!
The names of the clients. A new name is looked for before it is inserted, and
the check goes by the name the SELECT returns: an empty name it finds is an
empty string, which reads as no name found. The name is compared up to its
first NUL, but stored whole. Logging in from the web wants exactly one row.
-/

namespace UCLinux.Fleet

open Sql Machine FleetDB FleetEmployeeDB
open Ocpp (wrap32)
open Ocpp.HistoryDB (cellText)

/-- The calls on the clients. -/
inductive ClientCall where
  | insert (c : Client)
  | remove (cid : Int32)
  | validate (c : Client)

def ClientCall.step (s : FleetDB) (e : Env × ClientCall) : FleetDB :=
  match e.2 with
  | .insert c => (insertNewClient e.1 c s.start).2.state
  | .remove cid => (removeClient e.1 cid.toInt s.start).2.state
  | .validate c => (validateWebClient e.1 c s.start).2.state

/-- What an insert promised: the name and the password log in as `cid`. -/
structure Grant where
  user : Text
  pass : Text
  cid : Int
  deriving DecidableEq, Repr

/-- The promises after a call: an insert that returned a CID makes one, and
removing the CID ends it. -/
def grantsAfter (live : List Grant) (v : Visit FleetDB (Env × ClientCall)) : List Grant :=
  match v.event.2 with
  | .insert c =>
    let rv := (insertNewClient v.event.1 c v.before.start).1.1
    if 0 < rv then live ++ [⟨c.user, c.pass, rv⟩] else live
  | .remove cid => live.filter (·.cid ≠ cid.toInt)
  | .validate _ => live

/-- The clients with the promises beside them. -/
def grantedStep : FleetDB × List Grant → Env × ClientCall → FleetDB × List Grant :=
  noting ClientCall.step grantsAfter

def NamesDiffer (t : AutoTable ClientRow) : Prop :=
  t.rows.Pairwise (fun a b => a.cols.username ≠ b.cols.username)

/-- What a call has to do. -/
structure ClientsRight (v : Visit (FleetDB × List Grant) (Env × ClientCall)) : Prop where
  names : NamesDiffer v.after.1.clients
  logins : ∀ c, v.event.2 = .validate c → ∀ g ∈ v.before.2, g.user = c.user → g.pass = c.pass →
    (validateWebClient v.event.1 c v.before.1.start).1.1 = true ∧
      (validateWebClient v.event.1 c v.before.1.start).1.2.cid = g.cid

/-- The engine takes the name checked as data. -/
def NameAsData (E : Env) (c : Client) : Prop :=
  CLIENTS.AsData E (usernameSql c.user) (takenNames c.user) (cellText · 0)

/-- The engine takes the name and the password of a login as data. -/
def NamePassAsData (E : Env) (c : Client) : Prop :=
  CLIENTS.AsData E (validateWebClientSql c.user c.pass)
    (fun t => (t.rows.filter (hasNamePass c.user c.pass)).map readClient) clientOfCells

/-- Texts are data, a client added has no NUL in its name and password and is
not a second one without a name, and a login does not raise. -/
def SafeClientCall (p : FleetDB × List Grant) (e : Env × ClientCall) : Prop :=
  match e.2 with
  | .insert c => NameAsData e.1 c ∧ (clientStep e.1 p.1 c.user = .added →
      cstr c.user = c.user ∧ cstr c.pass = c.pass ∧
        (c.user = [] → ∀ r ∈ p.1.clients.rows, r.cols.username ≠ []))
  | .remove _ => True
  | .validate c => NamePassAsData e.1 c ∧ e.1.Calm 0

/-- A promise stands: the row of its CID has its name and its password. -/
def Grant.Stands (g : Grant) (t : AutoTable ClientRow) : Prop :=
  cstr g.user = g.user ∧ cstr g.pass = g.pass ∧ ∃ r ∈ t.rows,
    wrap32 r.rowid = g.cid ∧ r.cols.username = g.user ∧ r.cols.password = g.pass

/-- The names differ and every promise stands. -/
structure Granted (p : FleetDB × List Grant) : Prop where
  names : NamesDiffer p.1.clients
  stands : ∀ g ∈ p.2, g.Stands p.1.clients

section Steps

variable {E : Env} {s : FleetDB} {c : Client}

theorem clientStep_added {user : Text} (h : clientStep E s user = .added) :
    ∃ names, namesFound E s user = some names ∧ getStringValue names = [] := by
  unfold clientStep at h
  split at h
  · cases hnames : namesFound E s user with
    | none =>
      rw [hnames] at h
      cases h
    | some names =>
      rw [hnames] at h
      dsimp only at h
      split at h
      · cases h
      · next hfree => exact ⟨names, rfl, not_not.mp hfree⟩
  · cases h

theorem namesFound_eq {user : Text} (hdata : CLIENTS.AsData E (usernameSql user)
    (takenNames user) (cellText · 0)) {names : List Text} (h : namesFound E s user = some names) :
    names = takenNames user s.clients := by
  unfold namesFound at h
  split at h
  · rw [hdata s.clients] at h
    exact (Option.some.inj h).symm
  · cases h

/-- The check reads the name itself, once for every client that has it. -/
theorem mem_takenNames {user name : Text} {t : AutoTable ClientRow}
    (h : name ∈ takenNames user t) : name = cstr user := by
  obtain ⟨r, hr, rfl⟩ := List.mem_map.mp h
  have huser := of_decide_eq_true (List.mem_filter.mp hr).2
  rw [huser, cstr_cstr]

/-- A name that is added was free. -/
theorem username_free (hdata : NameAsData E c) (hadd : clientStep E s c.user = .added)
    (hnul : cstr c.user = c.user)
    (hempty : c.user = [] → ∀ r ∈ s.clients.rows, r.cols.username ≠ []) :
    ∀ r ∈ s.clients.rows, r.cols.username ≠ c.user := by
  intro r hr huser
  obtain ⟨names, hfound, hvalue⟩ := clientStep_added hadd
  have hnames := namesFound_eq hdata hfound
  have hmem : cstr r.cols.username ∈ names := by
    rw [hnames]
    apply List.mem_map.mpr
    exact ⟨r, List.mem_filter.mpr ⟨hr, by simp [huser, hnul]⟩, rfl⟩
  obtain ⟨init, last, hlast⟩ := (List.eq_nil_or_concat names).resolve_left
    (List.ne_nil_of_mem hmem)
  have hvalue' : last = [] := by
    rw [hlast] at hvalue
    simpa [getStringValue] using hvalue
  have hlastUser : last = cstr c.user := by
    apply mem_takenNames (t := s.clients)
    rw [← hnames, hlast]
    simp
  have hnil : c.user = [] := by rw [← hnul, ← hlastUser, hvalue']
  exact hempty hnil r hr (huser.trans hnil)

theorem Grant.Stands.mono {g : Grant} {t t' : AutoTable ClientRow} (h : g.Stands t)
    (hrows : ∀ r ∈ t.rows, wrap32 r.rowid = g.cid → r ∈ t'.rows) : g.Stands t' := by
  obtain ⟨huser, hpass, r, hr, hid, hrow⟩ := h
  exact ⟨huser, hpass, r, hrows r hr hid, hid, hrow⟩

theorem Granted.insert {live : List Grant} (h : Granted (s, live))
    (hsafe : SafeClientCall (s, live) (E, .insert c)) :
    Granted (grantedStep (s, live) (E, .insert c)) := by
  obtain ⟨hdata, hadded⟩ := hsafe
  have hmade := insertNewClient_made E s c
  unfold grantedStep noting grantsAfter ClientCall.step
  dsimp only
  generalize hstep : clientStep E s c.user = step at hmade
  generalize insertNewClient E c s.start = x at hmade ⊢
  cases hmade with
  | taken => exact h
  | failed n => exact h
  | added t hrows hseq =>
    obtain ⟨huser, hpass, hempty⟩ := hadded hstep
    have hfree := username_free hdata hstep huser hempty
    refine ⟨?_, fun g hg => ?_⟩
    · unfold NamesDiffer
      dsimp only
      rw [hrows]
      refine List.pairwise_append.mpr ⟨h.names, List.pairwise_singleton _ _, ?_⟩
      intro r hr q hq
      rw [List.mem_singleton.mp hq]
      exact hfree r hr
    · have hold : g ∈ live → g.Stands t := by
        intro hlive
        apply (h.stands g hlive).mono
        intro r hr _
        rw [hrows]
        exact List.mem_append_left _ hr
      dsimp only at hg
      split at hg
      · rcases List.mem_append.mp hg with hlive | hnew
        · exact hold hlive
        · rw [List.mem_singleton.mp hnew]
          refine ⟨huser, hpass, ⟨s.clients.seq + 1, setCParams c (E.now 2)⟩, ?_, rfl, rfl, rfl⟩
          rw [hrows]
          simp
      · exact hold hg

/-- A removal takes one row out at most, and ends the promises of its CID. -/
theorem Granted.remove {live : List Grant} (h : Granted (s, live)) (cid : Int32) :
    Granted (grantedStep (s, live) (E, .remove cid)) := by
  have hrange : wrap32 cid.toInt = cid.toInt :=
    Ocpp.wrap32_of_range ⟨Int32.le_toInt cid, Int32.toInt_lt cid⟩
  unfold grantedStep noting grantsAfter ClientCall.step
  dsimp only
  rw [removeClient_apply]
  dsimp only
  split
  · refine ⟨h.names.filter _, fun g hg => ?_⟩
    obtain ⟨hlive, hcid⟩ := List.mem_filter.mp hg
    apply (h.stands g hlive).mono
    intro r hr hid
    apply List.mem_filter.mpr
    refine ⟨hr, ?_⟩
    have hne : r.rowid ≠ cid.toInt := by
      intro heq
      rw [heq, hrange] at hid
      exact (of_decide_eq_true hcid) hid.symm
    simp [hne]
  · exact ⟨h.names, fun g hg => h.stands g (List.mem_filter.mp hg).1⟩

/-- A promise that stands logs in. -/
theorem Grant.Stands.login {g : Grant} (h : g.Stands s.clients) (hnames : NamesDiffer s.clients)
    (hdata : NamePassAsData E c) (hcalm : E.Calm 0) (huser : g.user = c.user)
    (hpass : g.pass = c.pass) :
    (validateWebClient E c s.start).1.1 = true ∧
      (validateWebClient E c s.start).1.2.cid = g.cid := by
  obtain ⟨hnul, hnulPass, r, hr, hid, hru, hrp⟩ := h
  have hone : s.clients.rows.filter (hasNamePass c.user c.pass) = [r] := by
    apply filter_eq_singleton hnames hr
    · simp [hasNamePass, hru, hrp, ← huser, ← hpass, hnul, hnulPass]
    · intro q _ hq
      have hqu := (of_decide_eq_true hq).1
      rw [hqu, hru, ← huser, hnul]
  have hlist : (getAllClients E (validateWebClientSql c.user c.pass)
      (hasNamePass c.user c.pass) s.start).1 = [readClient r] := by
    unfold getAllClients
    rw [createConnection_bind, if_pos (show E.raises s.start.asked = none from hcalm.1),
      Action.bind_apply, CLIENTS.read_of_calm (s := s.start.tick) _ _ hdata hcalm.2]
    exact congrArg (List.map readClient) hone
  unfold validateWebClient
  rw [Action.bind_apply, hlist]
  exact ⟨rfl, hid⟩

/-- A login leaves the clients alone. -/
theorem validateWebClient_within (c : Client) : Action.Within Eq (validateWebClient E c) := by
  apply Action.Within.bind .unchanged
  · apply Action.Within.bind .unchanged (connect_within .unchanged)
    intro opened
    apply Action.Within.ite
    · intro _
      apply Action.Within.bind .unchanged (CLIENTS.read_within .unchanged)
      intro found
      exact .pure .unchanged _
    · intro _
      exact .pure .unchanged _
  · intro list
    split <;> exact .pure .unchanged _

end Steps

theorem Granted.step {p : FleetDB × List Grant} {e : Env × ClientCall} (h : Granted p)
    (hsafe : SafeClientCall p e) : Granted (grantedStep p e) := by
  obtain ⟨s, live⟩ := p
  obtain ⟨E, call⟩ := e
  cases call with
  | insert c => exact h.insert hsafe
  | remove cid => exact h.remove cid
  | validate c =>
    have hkept : s = (validateWebClient E c s.start).2.state :=
      validateWebClient_within c s.start
    unfold grantedStep noting grantsAfter ClientCall.step
    dsimp only
    rw [← hkept]
    exact h

/-- Over any run of safe calls the names of the clients differ, and every name
and password inserted logs in as its client until the client is removed. -/
theorem clients_right (es : List (Env × ClientCall))
    (hes : Meets grantedStep SafeClientCall (.created, []) es) :
    ∀ v ∈ visits grantedStep (.created, []) es, ClientsRight v := by
  intro v hv
  have hstart : Granted (.created, []) := ⟨List.Pairwise.nil, by simp⟩
  have hinv := visits_invariant Granted (fun _ _ h hok => h.step hok) hstart hes hv
  have hsafe := hes v hv
  refine ⟨hinv.2.names, fun c hc g hg huser hpass => ?_⟩
  obtain ⟨⟨s, live⟩, ⟨E, call⟩, after⟩ := v
  cases hc
  exact (hinv.1.stands g hg).login hinv.1.names hsafe.1 hsafe.2 huser hpass

def clientNamed (user pass : Text) : Client := { user := user, pass := pass }

/-- Two clients, of whom one is removed. -/
def annThenBob : List (Env × ClientCall) :=
  [(.calm, .insert (clientNamed "ann" "pw")), (.calm, .insert (clientNamed "bob" "pw")),
    (.calm, .validate (clientNamed "ann" "pw")), (.calm, .remove 2601),
    (.calm, .validate (clientNamed "bob" "pw"))]

theorem clients_right_ann :
    (visits grantedStep (.created, []) annThenBob).Forall ClientsRight := by
  apply List.forall_iff_forall_mem.mpr
  apply clients_right
  refine meets_cons.mpr ⟨⟨CLIENTS.asData_of_quoteFree (by decide), fun _ => ?_⟩,
    meets_cons.mpr ⟨⟨CLIENTS.asData_of_quoteFree (by decide), fun _ => ?_⟩,
      meets_cons.mpr ⟨⟨CLIENTS.asData_of_quoteFree (by decide), rfl, rfl⟩,
        meets_cons.mpr ⟨trivial, meets_cons.mpr
          ⟨⟨CLIENTS.asData_of_quoteFree (by decide), rfl, rfl⟩, Meets.nil _⟩⟩⟩⟩⟩
  all_goals
    refine ⟨by decide, by decide, fun hnil => ?_⟩
    exact absurd hnil (by decide)

/-- Two clients without a name. -/
theorem two_clients_without_name :
    ¬∀ v ∈ visits grantedStep (.created, [])
      [(.calm, .insert (clientNamed [] "a")), (.calm, .insert (clientNamed [] "b"))],
      ClientsRight v := by
  intro h
  have hnames := (h _ (List.mem_cons_of_mem _ List.mem_cons_self)).names
  have hfirst := (List.pairwise_cons.mp hnames).1 _ List.mem_cons_self
  exact hfirst rfl

end UCLinux.Fleet
