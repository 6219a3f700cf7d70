import UCLinux.Fleet.EmployeeDB

/-!
Logging in from a phone. The request carries a name, a password and a worker
ID; with a positive ID the worker is looked up by it, and otherwise by name
and password. The reply names the row found. With a positive ID nothing
compares the row with the name and the password of the request.
-/

namespace UCLinux.Fleet

open Sql Machine FleetDB FleetEmployeeDB
open Ocpp (wrap32)

structure CLogin where
  user : Text := []
  pass : Text := []
  cid : Int := 0
  si : Int := 0
  res : Int := 0
  lang : Text := []
  deriving DecidableEq, Repr

structure ClsLoginMD where
  lgn : CLogin := {}
  rid : Int := 0
  drName : Text := []
  driverProf : Option PEmpl := none
  deriving DecidableEq, Repr

/-- Whether the worker was found, and the records as they are left. -/
structure Validated where
  valid : Bool
  c : Client
  emp : PEmpl
  deriving DecidableEq, Repr

/-- The call that would compare the password is commented out. -/
def validateMobileClient (E : Env) (c : Client) (emp : PEmpl) : Act Validated := do
  let found ← (if 0 < c.resourceID then getEmployeeById E emp c.resourceID
    else getEmployeeByUserPass E emp c.user c.pass : Act (Bool × PEmpl))
  let emp := found.2
  if found.1 ∧ 0 < emp.id then
    pure ⟨true, { c with cid := emp.cid, resourceID := emp.id, driverName := emp.drName }, emp⟩
  else pure ⟨false, c, emp⟩

/-- What the request is looked up with. -/
def loginClient (lgn : ClsLoginMD) : Client :=
  { user := lgn.lgn.user, pass := lgn.lgn.pass, resourceID := lgn.rid }

/-- The values the reply is filled with before the lookup. -/
def noLogin (lgn : ClsLoginMD) : ClsLoginMD :=
  { lgn with lgn := { lgn.lgn with user := "NO", pass := "NO", cid := -1, si := 0 }, rid := -1 }

def failedLogin (lgn : ClsLoginMD) (v : Validated) : ClsLoginMD :=
  { noLogin lgn with lgn := { (noLogin lgn).lgn with res := 1 }, driverProf := some v.emp }

def okLogin (lgn : ClsLoginMD) (v : Validated) : ClsLoginMD where
  lgn := { (noLogin lgn).lgn with cid := v.c.cid, res := 2 }
  rid := v.c.resourceID
  drName := v.c.driverName
  driverProf := some v.emp

/-- The message sent back. -/
def processLogin (E : Env) (lgn : ClsLoginMD) : Act ClsLoginMD := do
  let v ← validateMobileClient E (loginClient lgn) { id := -1 }
  if v.valid then do
    let loginSts ← getLoginStsById E v.c.resourceID
    if loginSts ≠ 1 then do
      updateLoginStsById E v.c.resourceID 1
      pure (okLogin lgn v)
    else
      -- already logged in: logged in anyway
      pure (okLogin lgn v)
  else pure (failedLogin lgn v)

def FleetDB.start (s : FleetDB) : Session FleetDB := ⟨s, 0⟩

/-- The row has the name and the password of the request, and its ID when the
request gives one. -/
def Authentic (lgn : ClsLoginMD) (r : Row Employee) : Prop :=
  r.cols.username = lgn.lgn.user ∧ r.cols.password = lgn.lgn.pass ∧
    (0 < lgn.rid → r.rowid = lgn.rid)

/-- At most the login status of one row differs. -/
def OnlyLoginSts (id : Int) (t t' : AutoTable Employee) : Prop :=
  ∃ sts : Row Employee → Option Int, t'.rows = t.rows.map fun r =>
    if r.rowid = id then ⟨r.rowid, { r.cols with loginSts := sts r }⟩ else r

/-- The reply welcomes a worker whose row has the credentials. -/
def Welcomed (lgn reply : ClsLoginMD) (t t' : AutoTable Employee) : Prop :=
  reply.lgn.res = 2 ∧ ∃ r ∈ t.rows, Authentic lgn r ∧
    reply.lgn.cid = r.cols.clientID ∧ reply.rid = r.rowid ∧ OnlyLoginSts r.rowid t t'

/-- The reply turns the request down. -/
def TurnedDown (reply : ClsLoginMD) (t t' : AutoTable Employee) : Prop :=
  reply.lgn.res = 1 ∧ reply.lgn.cid = -1 ∧ reply.rid = -1 ∧ t'.rows = t.rows

/-- What a login has to do. -/
def LoginRight (E : Env) (s : FleetDB) (lgn : ClsLoginMD) : Prop :=
  Welcomed lgn (processLogin E lgn s.start).1 s.employee
    (processLogin E lgn s.start).2.state.employee ∨
  TurnedDown (processLogin E lgn s.start).1 s.employee
    (processLogin E lgn s.start).2.state.employee

/-- What the rows are selected by. -/
def selects (lgn : ClsLoginMD) (r : Row Employee) : Bool :=
  if 0 < lgn.rid then r.rowid = lgn.rid else hasUserPass lgn.lgn.user lgn.lgn.pass r

/-- The first row a condition selects, unless the database cannot be opened
or raises before it. -/
def firstRow (E : Env) (p : Row Employee → Bool) (s : Session FleetDB) :
    Option (Row Employee) :=
  if E.raises s.asked = none ∧ E.raises (s.asked + 1) ≠ some 0 then
    (s.state.employee.rows.filter p).head?
  else none

/-- The row that has the ID to be reported for the one selected has the name
and the password of the request. The IDs are read into an `int`. -/
def SelectsAuthentic (E : Env) (s : FleetDB) (lgn : ClsLoginMD) : Prop :=
  ∀ r, firstRow E (selects lgn) s.start = some r → 0 < wrap32 r.rowid →
    ∃ q ∈ s.employee.rows, q.rowid = wrap32 r.rowid ∧
      q.cols.clientID = wrap32 r.cols.clientID ∧ Authentic lgn q

/-- The engine takes the name and the password as data. -/
def LoginAsData (E : Env) (lgn : ClsLoginMD) : Prop :=
  EMPLOYEE.AsData E (getEmployeeByUserPassSql lgn.lgn.user lgn.lgn.pass)
    (fun t => (t.rows.filter (hasUserPass lgn.lgn.user lgn.lgn.pass)).map getEmployeeRow)
    employeeOfCells

section Lookup

variable {E : Env} {emp : PEmpl} {sql : Stmt} {p : Row Employee → Bool}

/-- A lookup leaves the database as it is. -/
theorem getEmployee_within : Action.Within Eq (getEmployee E emp sql p) := by
  apply Action.Within.bind .unchanged (connect_within .unchanged)
  intro opened
  apply Action.Within.ite
  · intro _
    apply Action.Within.bind .unchanged (EMPLOYEE.read_within .unchanged)
    intro found
    split <;> exact Action.Within.pure .unchanged _
  · intro _
    exact Action.Within.pure .unchanged _

theorem getEmployee_found
    (hdata : EMPLOYEE.AsData E sql (fun t => (t.rows.filter p).map getEmployeeRow)
      employeeOfCells) {s : Session FleetDB} {r : Row Employee} (h : firstRow E p s = some r) :
    (getEmployee E emp sql p s).1 = (true, getEmployeeRow r) := by
  unfold firstRow at h
  split at h
  · next hcalm =>
    have hfirst : (EMPLOYEE.read E sql (fun t => (t.rows.filter p).map getEmployeeRow)
        employeeOfCells s.tick).1.first = some (some (getEmployeeRow r)) := by
      apply (EMPLOYEE.read_first_eq_some hdata s.tick).mpr
      refine ⟨hcalm.2, ?_⟩
      rw [List.head?_map]
      exact congrArg (Option.map getEmployeeRow) h
    unfold getEmployee
    rw [createConnection_bind, if_pos hcalm.1, Action.bind_apply, hfirst]
    rfl
  · cases h

theorem getEmployee_missing
    (hdata : EMPLOYEE.AsData E sql (fun t => (t.rows.filter p).map getEmployeeRow)
      employeeOfCells) {s : Session FleetDB} (h : firstRow E p s = none) :
    (getEmployee E emp sql p s).1.2 = emp := by
  unfold getEmployee
  rw [createConnection_bind]
  by_cases hopen : E.raises s.asked = none
  · rw [if_pos hopen, Action.bind_apply]
    cases hfirst : (EMPLOYEE.read E sql (fun t => (t.rows.filter p).map getEmployeeRow)
        employeeOfCells s.tick).1.first with
    | none => rfl
    | some row =>
      cases row with
      | none => rfl
      | some row =>
        obtain ⟨hcalm, hhead⟩ := (EMPLOYEE.read_first_eq_some hdata s.tick).mp hfirst
        rw [List.head?_map] at hhead
        unfold firstRow at h
        rw [if_pos ⟨hopen, hcalm⟩] at h
        have hnone : (s.state.employee.rows.filter p).head? = none := h
        have hsome : ((s.state.employee.rows.filter p).head?).map getEmployeeRow = some row :=
          hhead
        rw [hnone] at hsome
        cases hsome
  · rw [if_neg hopen]
    rfl

theorem getLoginStsById_within (id : Int) : Action.Within Eq (getLoginStsById E id) := by
  apply Action.Within.bind .unchanged (connect_within .unchanged)
  intro opened
  apply Action.Within.ite
  · intro _
    apply Action.Within.bind .unchanged (EMPLOYEE.read_within .unchanged)
    intro found
    split <;> exact Action.Within.pure .unchanged _
  · intro _
    exact Action.Within.pure .unchanged _

theorem OnlyLoginSts.same (id : Int) (t : AutoTable Employee) : OnlyLoginSts id t t := by
  refine ⟨fun r => r.cols.loginSts, ?_⟩
  conv_lhs => rw [← List.map_id t.rows]
  apply List.map_congr_left
  intro r _
  simp

theorem updateLoginStsById_only (id sts : Int) (s : Session FleetDB) :
    OnlyLoginSts id s.state.employee (updateLoginStsById E id sts s).2.state.employee := by
  unfold updateLoginStsById
  rw [createConnection_bind]
  split
  · rw [Action.bind_apply]
    have hq : (updateLoginStsSql id sts).QuoteFree := by simp [updateLoginStsSql]
    rcases EMPLOYEE.update_cases (EMPLOYEE.rewriting_quoteFree (E := E) hq) s.tick with ⟨_, hx⟩ | ⟨_, hx⟩
    · rw [hx]
      exact .same id _
    · rw [hx]
      refine ⟨fun _ => some sts, ?_⟩
      apply List.map_congr_left
      intro r _
      by_cases hid : r.rowid = id
      · rw [if_pos hid]
        exact Table.rewriteRow_some (if_pos hid)
      · rw [if_neg hid]
        exact Table.rewriteRow_none (if_neg hid)
  · exact .same id _

end Lookup

section Validating

variable {E : Env} {lgn : ClsLoginMD} {s : Session FleetDB}

theorem validateMobileClient_within (c : Client) (emp : PEmpl) :
    Action.Within Eq (validateMobileClient E c emp) := by
  refine Action.Within.bind .unchanged ?_ fun found => ?_
  · exact .ite (fun _ => getEmployee_within) (fun _ => getEmployee_within)
  · exact .ite (fun _ => .pure .unchanged _) (fun _ => .pure .unchanged _)

/-- Both ways to look a worker up run one query. -/
def lookupSql (lgn : ClsLoginMD) : Stmt :=
  if 0 < lgn.rid then getEmployeeByIdSql lgn.rid
  else getEmployeeByUserPassSql lgn.lgn.user lgn.lgn.pass

theorem validateMobileClient_apply (emp : PEmpl) :
    validateMobileClient E (loginClient lgn) emp s =
      (getEmployee E emp (lookupSql lgn) (selects lgn) >>= fun found =>
        if found.1 ∧ 0 < found.2.id then
          pure ⟨true, { loginClient lgn with
            cid := found.2.cid, resourceID := found.2.id, driverName := found.2.drName }, found.2⟩
        else pure ⟨false, loginClient lgn, found.2⟩) s := by
  have hlookup : (if 0 < lgn.rid then getEmployeeById E emp lgn.rid
      else getEmployeeByUserPass E emp lgn.lgn.user lgn.lgn.pass) =
      getEmployee E emp (lookupSql lgn) (selects lgn) := by
    unfold lookupSql selects
    by_cases hrid : 0 < lgn.rid
    · simp only [if_pos hrid]
      rfl
    · simp only [if_neg hrid]
      rfl
  rw [← hlookup]
  rfl

theorem lookup_asData (hdata : LoginAsData E lgn) :
    EMPLOYEE.AsData E (lookupSql lgn) (fun t => (t.rows.filter (selects lgn)).map getEmployeeRow)
      employeeOfCells := by
  unfold lookupSql selects
  by_cases hrid : 0 < lgn.rid
  · simp only [if_pos hrid]
    exact EMPLOYEE.asData_of_quoteFree (by simp [getEmployeeByIdSql])
  · simp only [if_neg hrid]
    exact hdata

/-- A login that selects a row with an ID is valid. -/
theorem validateMobileClient_found (hdata : LoginAsData E lgn) {r : Row Employee}
    (h : firstRow E (selects lgn) s = some r) (hpos : 0 < wrap32 r.rowid) (emp : PEmpl) :
    (validateMobileClient E (loginClient lgn) emp s).1 =
      ⟨true, { loginClient lgn with
        cid := wrap32 r.cols.clientID, resourceID := wrap32 r.rowid,
        driverName := cstr r.cols.driverName }, getEmployeeRow r⟩ := by
  rw [validateMobileClient_apply, Action.bind_apply,
    getEmployee_found (lookup_asData hdata) h, if_pos ⟨rfl, hpos⟩]
  rfl

theorem validateMobileClient_refused (hdata : LoginAsData E lgn)
    (h : ∀ r, firstRow E (selects lgn) s = some r → ¬0 < wrap32 r.rowid) :
    (validateMobileClient E (loginClient lgn) { id := -1 } s).1.valid = false := by
  have hid : ¬0 < (getEmployee E { id := -1 } (lookupSql lgn) (selects lgn) s).1.2.id := by
    cases hrow : firstRow E (selects lgn) s with
    | none => simp [getEmployee_missing (lookup_asData hdata) hrow]
    | some r =>
      rw [getEmployee_found (lookup_asData hdata) hrow]
      exact h r hrow
  rw [validateMobileClient_apply, Action.bind_apply, if_neg fun hboth => hid hboth.2]
  rfl

end Validating

section Answering

variable {E : Env} {lgn : ClsLoginMD} {s : FleetDB}

/-- A login that validates nobody. -/
theorem processLogin_refused (hdata : LoginAsData E lgn)
    (h : ∀ r, firstRow E (selects lgn) s.start = some r → ¬0 < wrap32 r.rowid) :
    (∃ v, (processLogin E lgn s.start).1 = failedLogin lgn v) ∧
      (processLogin E lgn s.start).2.state = s := by
  have hrefused := validateMobileClient_refused hdata h
  have hstate := validateMobileClient_within (E := E) (loginClient lgn) { id := -1 } s.start
  unfold processLogin
  rw [Action.bind_apply, hrefused]
  exact ⟨⟨_, rfl⟩, hstate.symm⟩

/-- A login that validates somebody reports the row selected and touches the
login status of the ID it reports. -/
theorem processLogin_found (hdata : LoginAsData E lgn) {r : Row Employee}
    (h : firstRow E (selects lgn) s.start = some r) (hpos : 0 < wrap32 r.rowid) :
    (processLogin E lgn s.start).1.lgn.res = 2 ∧
      (processLogin E lgn s.start).1.lgn.cid = wrap32 r.cols.clientID ∧
      (processLogin E lgn s.start).1.rid = wrap32 r.rowid ∧
      OnlyLoginSts (wrap32 r.rowid) s.employee
        (processLogin E lgn s.start).2.state.employee := by
  have hfound := validateMobileClient_found hdata h hpos { id := -1 }
  have hstate := validateMobileClient_within (E := E) (loginClient lgn) { id := -1 } s.start
  have hsts := getLoginStsById_within (E := E) (wrap32 r.rowid)
    (validateMobileClient E (loginClient lgn) { id := -1 } s.start).2
  have hkept := hstate.trans hsts
  unfold processLogin
  rw [Action.bind_apply, hfound, if_pos rfl, Action.bind_apply, Action.ite_apply]
  split
  · refine ⟨rfl, rfl, rfl, ?_⟩
    have hupd := updateLoginStsById_only (E := E) (wrap32 r.rowid) 1
      (getLoginStsById E (wrap32 r.rowid)
        (validateMobileClient E (loginClient lgn) { id := -1 } s.start).2).2
    rw [← hkept] at hupd
    exact hupd
  · refine ⟨rfl, rfl, rfl, ?_⟩
    have hsame := OnlyLoginSts.same (wrap32 r.rowid) s.employee
    rw [Action.pure_apply, ← hkept]
    exact hsame

/-- A login does what it has to exactly when the row it reports has the name
and the password of the request. -/
theorem login_right_iff (E : Env) (s : FleetDB) (lgn : ClsLoginMD) (hdata : LoginAsData E lgn) :
    LoginRight E s lgn ↔ SelectsAuthentic E s lgn := by
  constructor
  · intro hright r hr hpos
    obtain ⟨hres, hcid, hrid, _⟩ := processLogin_found hdata hr hpos
    rcases hright with ⟨_, q, hq, hauth, hqcid, hqrid, _⟩ | ⟨hfail, _⟩
    · exact ⟨q, hq, hqrid.symm.trans hrid, hqcid.symm.trans hcid, hauth⟩
    · rw [hres] at hfail
      cases hfail
  · intro hsel
    by_cases hvalid : ∃ r, firstRow E (selects lgn) s.start = some r ∧ 0 < wrap32 r.rowid
    · obtain ⟨r, hr, hpos⟩ := hvalid
      obtain ⟨q, hq, hqid, hqcid, hauth⟩ := hsel r hr hpos
      obtain ⟨hres, hcid, hrid, honly⟩ := processLogin_found hdata hr hpos
      rw [← hqid] at honly
      exact Or.inl ⟨hres, q, hq, hauth, hcid.trans hqcid.symm, hrid.trans hqid.symm, honly⟩
    · obtain ⟨⟨v, hreply⟩, hstate⟩ := processLogin_refused hdata
        fun r hr hpos => hvalid ⟨r, hr, hpos⟩
      have hrows := congrArg (fun t => t.employee.rows) hstate
      refine Or.inr ⟨?_, ?_, ?_, hrows⟩ <;> rw [hreply] <;> rfl

/-- Bob of client 2601. -/
def bob : Row Employee where
  rowid := 1001
  cols :=
    { driverName := "Bob", username := "bob", password := "secret", license := []
      homeAddress := [], isSupervisor := 0, signature := [], cycle := 6, hosExcept := 0
      clientID := 2601, orgName := [], orgAddr := [], timeZone := -1, email := []
      photo := [], loginSts := none, loginFCM := none }

/-- The fleet of one client with one worker. -/
def bobOnly : FleetDB where
  employee :=
    { rows := [bob], rowids := List.pairwise_singleton _ _, keys := pairwise_unkeyed _
      seq := 1001, nonneg := by decide, positive := by decide, below := by decide }
  clients := .startingAt 2601

theorem login_right_bob :
    LoginRight .calm bobOnly { lgn := { user := "bob", pass := "secret" }, rid := 1001 } := by
  apply (login_right_iff _ _ _ (EMPLOYEE.asData_of_quoteFree (by decide))).mpr
  intro r hr _
  have hbob : r = bob := (Option.some.inj hr).symm
  rw [hbob]
  exact ⟨bob, by decide, by decide, by decide, by decide, by decide, fun _ => by decide⟩

/-- Nobody's name and password log in with a worker's ID. -/
theorem login_without_password :
    ¬LoginRight .calm bobOnly { lgn := { user := "eve", pass := [] }, rid := 1001 } := by
  rintro (⟨_, r, hr, ⟨huser, _⟩, _⟩ | ⟨hres, _⟩)
  · rw [List.mem_singleton.mp hr] at huser
    exact absurd huser (by decide)
  · exact absurd hres (by decide)

end Answering

end UCLinux.Fleet
