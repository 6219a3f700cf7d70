import UCLinux.Fleet.Registration
import UCLinux.Machine.Run

/-!
The workers over any sequence of registrations, saves and removals. A save
updates the row with the ID of the profile and inserts one when there was
none; from the web the row also has to be the client's. From a phone nothing
compares the client, and the client's ID is one of the columns written.
-/

namespace UCLinux.Fleet

open Sql Machine FleetDB FleetEmployeeDB
open Ocpp (wrap32 wrap32_of_range)

/-- The reply to a profile saved from a phone. -/
def sendEmpProfileFromMobile (E : Env) (pemp : PEmpl) : Act Text := do
  let _ ← saveEmployee E pemp true
  pure "OK"

inductive EmployeeCall where
  | register (rg : PRegister)
  | mobileSave (pemp : PEmpl)
  | webSave (emp : PEmpl)
  | remove (empId : Int)

def EmployeeCall.step (s : FleetDB) (e : Env × EmployeeCall) : FleetDB :=
  match e.2 with
  | .register rg => (processRegisterWS e.1 rg s.start).2.state
  | .mobileSave pemp => (sendEmpProfileFromMobile e.1 pemp s.start).2.state
  | .webSave emp => (saveEmployee e.1 emp false s.start).2.state
  | .remove empId => (removeEmployee e.1 empId s.start).2.state

/-- One call of `SaveEmployee` and the session it is made in. -/
structure Saving where
  emp : PEmpl
  fromMobile : Bool
  session : Session FleetDB

def Saving.before (c : Saving) : AutoTable Employee := c.session.state.employee

def Saving.after (E : Env) (c : Saving) : AutoTable Employee :=
  (saveEmployee E c.emp c.fromMobile c.session).2.state.employee

/-- The profile as the call leaves it. -/
def Saving.result (E : Env) (c : Saving) : PEmpl :=
  (saveEmployee E c.emp c.fromMobile c.session).1

/-- The save an event makes. -/
def EmployeeCall.saving (s : FleetDB) (e : Env × EmployeeCall) : Option Saving :=
  match e.2 with
  | .register rg =>
    let made := insertNewClient e.1 (registerClient rg) s.start
    if made.1.1 < 0 then none else some ⟨registerEmployee made.1.2, false, made.2⟩
  | .mobileSave pemp => some ⟨pemp, true, s.start⟩
  | .webSave emp => some ⟨emp, false, s.start⟩
  | .remove _ => none

/-- No row has the ID and the client of the profile. -/
def Saving.Missing (c : Saving) : Prop :=
  c.emp.id ≤ 0 ∨ ∀ r ∈ c.before.rows, ¬(r.rowid = c.emp.id ∧ r.cols.clientID = c.emp.cid)

/-- What a save has to do; `ever` lists the rows there ever were by ID and
client. -/
structure SaveRight (ever : List (Int × Int)) (E : Env) (c : Saving) : Prop where
  others : ∀ r ∈ c.before.rows, r ∉ (c.after E).rows →
    r.rowid = c.emp.id ∧ r.cols.clientID = c.emp.cid
  inserts : c.Missing → (∀ p ∈ ever, p.1 ≠ (c.result E).id) ∧
    ∃ a, (c.after E).rows = c.before.rows ++ [⟨(c.result E).id, a⟩]

def owners (t : AutoTable Employee) : List (Int × Int) :=
  t.rows.map fun r => (r.rowid, r.cols.clientID)

/-- The system with the list of all rows there ever were beside it. -/
def recordedStep : FleetDB × List (Int × Int) → Env × EmployeeCall → FleetDB × List (Int × Int) :=
  noting EmployeeCall.step fun ever v => ever ++ owners v.after.employee

/-- What an event has to do. -/
structure OwnersRight (v : Visit (FleetDB × List (Int × Int)) (Env × EmployeeCall)) : Prop where
  kept : ∀ r ∈ v.after.1.employee.rows, ∀ cid, (r.rowid, cid) ∈ v.before.2 → r.cols.clientID = cid
  saves : ∀ c, EmployeeCall.saving v.before.1 v.event = some c → SaveRight v.before.2 v.event.1 c

/-- The row of the ID is the client's, and when there is none nothing raises
and the ID given fits an `int`. -/
structure SaveSafe (E : Env) (c : Saving) : Prop where
  owned : c.fromMobile → 0 < c.emp.id → ∀ r ∈ c.before.rows, r.rowid = c.emp.id →
    r.cols.clientID = c.emp.cid
  calm : c.Missing → E.Calm c.session.asked ∧
    (0 < c.emp.id → E.raises (c.session.asked + 2) = none) ∧ c.before.seq + 1 < 2 ^ 31

def SafeEvent (p : FleetDB × List (Int × Int)) (e : Env × EmployeeCall) : Prop :=
  ∀ c, EmployeeCall.saving p.1 e = some c → SaveSafe e.1 c

section Saving

variable {E : Env} {emp : PEmpl} {fromMobile : Bool} {s : Session FleetDB}

theorem updateSql_quoteFree :
    (if fromMobile then updateEmployeeMobileSql else updateEmployeeWebSql).QuoteFree := by
  cases fromMobile <;> simp [updateEmployeeMobileSql, updateEmployeeWebSql]

theorem saveEmployee_raised (hopen : E.raises s.asked = none) (hid : 0 < emp.id)
    (hr : E.raises (s.asked + 1) ≠ none) :
    saveEmployee E emp fromMobile s = (emp, s.tick.tick) := by
  unfold saveEmployee
  rw [createConnection_bind, if_pos hopen, if_pos hid, Action.bind_apply]
  rcases EMPLOYEE.update_cases (EMPLOYEE.rewriting_quoteFree (E := E) updateSql_quoteFree) s.tick
    with ⟨_, hx⟩ | ⟨hcalm, _⟩
  · rw [hx]
    rfl
  · exact absurd hcalm hr

/-- The UPDATE of a save that does not raise, and what follows it. -/
theorem saveEmployee_update (hcalm : E.Calm s.asked) (hid : 0 < emp.id) :
    saveEmployee E emp fromMobile s =
      (if (s.state.employee.rewrite (savedRow emp fromMobile)).2 = 0 then insertEmployee E emp
        else pure emp)
      ⟨{ s.state with employee := (s.state.employee.rewrite (savedRow emp fromMobile)).1 },
        s.asked + 2⟩ := by
  unfold saveEmployee
  rw [createConnection_bind, if_pos hcalm.1, if_pos hid, Action.bind_apply]
  rcases EMPLOYEE.update_cases (EMPLOYEE.rewriting_quoteFree (E := E) updateSql_quoteFree) s.tick
    with ⟨hr, _⟩ | ⟨_, hx⟩
  · exact absurd hcalm.2 hr
  · rw [hx]
    rfl

theorem saveEmployee_missed (hcalm : E.Calm s.asked) (hid : 0 < emp.id)
    (hnone : ∀ r ∈ s.state.employee.rows, savedRow emp fromMobile r = none) :
    saveEmployee E emp fromMobile s = insertEmployee E emp ⟨s.state, s.asked + 2⟩ := by
  rw [saveEmployee_update hcalm hid, AutoTable.rewrite_of_none hnone, if_pos rfl]

theorem saveEmployee_selected (hcalm : E.Calm s.asked) (hid : 0 < emp.id) {r : Row Employee}
    (hr : r ∈ s.state.employee.rows) (hsel : savedRow emp fromMobile r ≠ none) :
    saveEmployee E emp fromMobile s =
      (emp, ⟨{ s.state with employee := (s.state.employee.rewrite (savedRow emp fromMobile)).1 },
        s.asked + 2⟩) := by
  rw [saveEmployee_update hcalm hid, if_neg (AutoTable.rewrite_count_pos hr hsel)]
  rfl

/-- Everything a save can do to the workers: nothing, rewrite the rows it
selects, or go on to the insert when it selects none. -/
inductive SaveStep (E : Env) (emp : PEmpl) (fromMobile : Bool) (s : Session FleetDB) :
    PEmpl × Session FleetDB → Prop where
  | nothing (m : Nat) : SaveStep E emp fromMobile s (emp, ⟨s.state, m⟩)
  | updated (hid : 0 < emp.id) :
      SaveStep E emp fromMobile s
        (emp, ⟨{ s.state with
          employee := (s.state.employee.rewrite (savedRow emp fromMobile)).1 }, s.asked + 2⟩)
  | inserted (m : Nat) :
      SaveStep E emp fromMobile s (insertEmployee E emp ⟨s.state, m⟩)

theorem saveEmployee_step (E : Env) (emp : PEmpl) (fromMobile : Bool) (s : Session FleetDB) :
    SaveStep E emp fromMobile s (saveEmployee E emp fromMobile s) := by
  by_cases hopen : E.raises s.asked = none
  · by_cases hid : 0 < emp.id
    · by_cases hr : E.raises (s.asked + 1) = none
      · by_cases hnone : ∀ r ∈ s.state.employee.rows, savedRow emp fromMobile r = none
        · rw [saveEmployee_missed ⟨hopen, hr⟩ hid hnone]
          exact .inserted _
        · simp only [not_forall] at hnone
          obtain ⟨r, hmem, hsel⟩ := hnone
          rw [saveEmployee_selected ⟨hopen, hr⟩ hid hmem hsel]
          exact .updated hid
      · rw [saveEmployee_raised hopen hid hr]
        exact .nothing _
    · rw [saveEmployee_noId hopen hid]
      exact .inserted _
  · rw [saveEmployee_closed hopen]
    exact .nothing _

/-- An insert adds one row at the end, or does nothing. -/
theorem insertEmployee_cases (E : Env) (emp : PEmpl) (s : Session FleetDB) :
    (insertEmployee E emp s).2.state = s.state ∨
      ∃ t, t.rows = s.state.employee.rows ++ [⟨s.state.employee.seq + 1, employeeRow emp⟩] ∧
        t.seq = s.state.employee.seq + 1 ∧
        (insertEmployee E emp s).2.state = { s.state with employee := t } := by
  rw [insertEmployee_apply]
  rcases EMPLOYEE.insert_cases (E := E) (employeeRow emp) s with hx | ⟨t, n, hins, _, hx⟩
  · rw [hx]
    exact Or.inl rfl
  · obtain ⟨_, _, hrows, hseq⟩ := AutoTable.insert_eq_some hins
    rw [hx]
    exact Or.inr ⟨t, hrows, hseq, rfl⟩

theorem insertEmployee_calm (hr : E.raises s.asked = none)
    (hseq : s.state.employee.seq + 1 < 2 ^ 31) :
    (insertEmployee E emp s).1.id = s.state.employee.seq + 1 ∧
      (insertEmployee E emp s).2.state.employee.rows =
        s.state.employee.rows ++ [⟨s.state.employee.seq + 1, employeeRow emp⟩] := by
  have hlt : s.state.employee.seq < maxRowid := by
    unfold maxRowid
    omega
  obtain ⟨t, hins, hrows, _⟩ := AutoTable.insert_of_lt (employeeRow emp) hlt
  rw [insertEmployee_apply, EMPLOYEE.insert_some hr hins]
  exact ⟨(wrap32_next_iff s.state.employee.nonneg).mpr hseq, hrows⟩

theorem savedRow_some {r : Row Employee} {a : Employee} (h : savedRow emp fromMobile r = some a) :
    r.rowid = emp.id ∧ (fromMobile = false → r.cols.clientID = emp.cid) ∧
      (a.clientID = r.cols.clientID ∨ fromMobile = true ∧ a.clientID = emp.cid) := by
  cases fromMobile with
  | true =>
    have hrow : mobileRow emp r = some a := h
    unfold mobileRow at hrow
    split at hrow
    · next hid =>
      cases hrow
      exact ⟨hid, by simp, Or.inr ⟨rfl, rfl⟩⟩
    · cases hrow
  | false =>
    have hrow : webRow emp r = some a := h
    unfold webRow at hrow
    split at hrow
    · next hid =>
      cases hrow
      exact ⟨hid.1, fun _ => hid.2, Or.inl rfl⟩
    · cases hrow

/-- A save moves the workers along the clients' IDs, from a phone only when
the row of the ID is the client's. -/
theorem saveEmployee_keeps (s : Session FleetDB)
    (howned : fromMobile → 0 < emp.id → ∀ r ∈ s.state.employee.rows, r.rowid = emp.id →
      r.cols.clientID = emp.cid) :
    AutoTable.KeepsColumn Employee.clientID s.state.employee
      (saveEmployee E emp fromMobile s).2.state.employee := by
  have hstep := saveEmployee_step E emp fromMobile s
  generalize saveEmployee E emp fromMobile s = x at hstep ⊢
  cases hstep with
  | nothing m => exact .refl _
  | updated hid =>
    apply AutoTable.KeepsColumn.rewrite
    intro r hr a ha
    obtain ⟨hrid, _, hcid | ⟨hmobile, hcid⟩⟩ := savedRow_some ha
    · exact hcid
    · exact hcid.trans (howned hmobile hid r hr hrid).symm
  | inserted m =>
    rcases insertEmployee_cases E emp ⟨s.state, m⟩ with hsame | ⟨t, hrows, hseq, hstate⟩
    · rw [hsame]
      exact .refl _
    · rw [hstate]
      exact .insert hrows hseq

/-- A save loses no row but one of the ID, which is the client's. -/
theorem saveEmployee_others
    (howned : fromMobile → 0 < emp.id → ∀ r ∈ s.state.employee.rows, r.rowid = emp.id →
      r.cols.clientID = emp.cid) {r : Row Employee} (hr : r ∈ s.state.employee.rows)
    (hgone : r ∉ (saveEmployee E emp fromMobile s).2.state.employee.rows) :
    r.rowid = emp.id ∧ r.cols.clientID = emp.cid := by
  have hstep := saveEmployee_step E emp fromMobile s
  generalize saveEmployee E emp fromMobile s = x at hstep hgone
  cases hstep with
  | nothing m => exact absurd hr hgone
  | updated hid =>
    cases hsel : savedRow emp fromMobile r with
    | none =>
      have hkept : r ∈ s.state.employee.rows.map (Table.rewriteRow (savedRow emp fromMobile)) :=
        List.mem_map.mpr ⟨r, hr, Table.rewriteRow_none hsel⟩
      exact absurd hkept hgone
    | some a =>
      obtain ⟨hrid, hweb, _⟩ := savedRow_some hsel
      cases fromMobile with
      | true => exact ⟨hrid, howned rfl hid r hr hrid⟩
      | false => exact ⟨hrid, hweb rfl⟩
  | inserted m =>
    rcases insertEmployee_cases E emp ⟨s.state, m⟩ with hsame | ⟨t, hrows, _, hstate⟩
    · rw [hsame] at hgone
      exact absurd hr hgone
    · rw [hstate] at hgone
      have hkept : r ∈ t.rows := by
        rw [hrows]
        exact List.mem_append_left _ hr
      exact absurd hkept hgone

end Saving

/-- A safe save of a profile that has no row inserts one. -/
theorem Saving.insert_of_missing {E : Env} {c : Saving} (hsafe : SaveSafe E c) (hmiss : c.Missing) :
    (c.result E).id = c.before.seq + 1 ∧
      (c.after E).rows = c.before.rows ++ [⟨c.before.seq + 1, employeeRow c.emp⟩] := by
  obtain ⟨hcalm, hthird, hseq⟩ := hsafe.calm hmiss
  unfold Saving.result Saving.after
  by_cases hid : 0 < c.emp.id
  · have hnone : ∀ r ∈ c.session.state.employee.rows, savedRow c.emp c.fromMobile r = none := by
      intro r hr
      by_contra hsel
      obtain ⟨a, ha⟩ := Option.ne_none_iff_exists'.mp hsel
      obtain ⟨hrid, hweb, _⟩ := savedRow_some ha
      have hcid : r.cols.clientID = c.emp.cid := by
        cases hmobile : c.fromMobile with
        | true => exact hsafe.owned hmobile hid r hr hrid
        | false => exact hweb hmobile
      rcases hmiss with hnonpos | hno
      · omega
      · exact hno r hr ⟨hrid, hcid⟩
    rw [saveEmployee_missed hcalm hid hnone]
    exact insertEmployee_calm (s := ⟨c.session.state, c.session.asked + 2⟩) (hthird hid) hseq
  · rw [saveEmployee_noId hcalm.1 hid]
    exact insertEmployee_calm (s := c.session.tick) hcalm.2 hseq

theorem SaveRight.of_safe {ever : List (Int × Int)} {E : Env} {c : Saving} (hsafe : SaveSafe E c)
    (hever : ∀ p ∈ ever, p.1 ≤ c.before.seq) : SaveRight ever E c where
  others _ hr hgone := saveEmployee_others hsafe.owned hr hgone
  inserts hmiss := by
    obtain ⟨hid, hrows⟩ := Saving.insert_of_missing hsafe hmiss
    rw [hid]
    refine ⟨fun p hp => ?_, _, hrows⟩
    have := hever p hp
    omega

/-- Making a client leaves the workers alone. -/
theorem insertNewClient_employee (E : Env) (s : FleetDB) (c : Client) :
    (insertNewClient E c s.start).2.state.employee = s.employee := by
  have hmade := insertNewClient_made E s c
  generalize clientStep E s c.user = step at hmade
  generalize insertNewClient E c s.start = x at hmade ⊢
  cases hmade <;> rfl

theorem EmployeeCall.saving_before {s : FleetDB} {e : Env × EmployeeCall} {c : Saving}
    (h : EmployeeCall.saving s e = some c) : c.before = s.employee := by
  obtain ⟨E, call⟩ := e
  cases call with
  | register rg =>
    have hkept := insertNewClient_employee E s (registerClient rg)
    unfold EmployeeCall.saving at h
    dsimp only at h
    split at h
    · cases h
    · cases h
      exact hkept
  | mobileSave pemp =>
    cases h
    rfl
  | webSave emp =>
    cases h
    rfl
  | remove empId => cases h

/-- The end of a registration takes a worker out at most. -/
theorem registerEmail_keeps (E : Env) (c : Client) (emp : PEmpl) (s : Session FleetDB) :
    AutoTable.KeepsColumn Employee.clientID s.state.employee
      (registerEmail E c emp s).2.state.employee := by
  by_cases hid : 0 < emp.id
  · by_cases hmail : E.mails s.asked = 1
    · rw [registerEmail_sent hid hmail]
      exact .refl _
    · rw [(registerEmail_unsent hid hmail).2]
      unfold takenBack
      dsimp only
      split
      · exact .delete _
      · exact .refl _
  · rw [registerEmail_noId hid]
    exact .refl _

theorem removeEmployee_keeps (E : Env) (empId : Int) (s : Session FleetDB) :
    AutoTable.KeepsColumn Employee.clientID s.state.employee
      (removeEmployee E empId s).2.state.employee := by
  rw [removeEmployee_state]
  split
  · exact .delete _
  · exact .refl _

/-- One safe event keeps every worker with the client. -/
theorem EmployeeCall.step_keeps {s : FleetDB} {e : Env × EmployeeCall}
    (hsafe : ∀ c, EmployeeCall.saving s e = some c → SaveSafe e.1 c) :
    AutoTable.KeepsColumn Employee.clientID s.employee (EmployeeCall.step s e).employee := by
  obtain ⟨E, call⟩ := e
  cases call with
  | register rg =>
    have hkept := insertNewClient_employee E s (registerClient rg)
    unfold EmployeeCall.step
    dsimp only
    rw [processRegisterWS_apply]
    split
    · rw [hkept]
      exact .refl _
    · have hsave : AutoTable.KeepsColumn Employee.clientID _
          (saveEmployee E (registerEmployee (insertNewClient E (registerClient rg) s.start).1.2)
            false (insertNewClient E (registerClient rg) s.start).2).2.state.employee :=
        saveEmployee_keeps _ (fun hweb => by cases hweb)
      rw [hkept] at hsave
      exact hsave.trans (registerEmail_keeps E _ _ _)
  | mobileSave pemp => exact saveEmployee_keeps s.start (hsafe _ rfl).owned
  | webSave emp => exact saveEmployee_keeps s.start (hsafe _ rfl).owned
  | remove empId => exact removeEmployee_keeps E empId s.start

/-- The rows there ever were have IDs given already, and a row that is still
there has the client it had. -/
structure Recorded (p : FleetDB × List (Int × Int)) : Prop where
  given : ∀ q ∈ p.2, q.1 ≤ p.1.employee.seq
  same : ∀ r ∈ p.1.employee.rows, ∀ cid, (r.rowid, cid) ∈ p.2 → r.cols.clientID = cid

theorem mem_owners {t : AutoTable Employee} {q : Int × Int} :
    q ∈ owners t ↔ ∃ r ∈ t.rows, (r.rowid, r.cols.clientID) = q :=
  List.mem_map

theorem owners_same {t : AutoTable Employee} {r : Row Employee} (hr : r ∈ t.rows) {cid : Int}
    (h : (r.rowid, cid) ∈ owners t) : r.cols.clientID = cid := by
  obtain ⟨q, hq, heq⟩ := mem_owners.mp h
  obtain ⟨hid, hcid⟩ := Prod.mk.inj heq
  rw [← t.eq_of_rowid hq hr hid]
  exact hcid

theorem Recorded.start (s : FleetDB) : Recorded (s, owners s.employee) where
  given q hq := by
    obtain ⟨r, hr, rfl⟩ := mem_owners.mp hq
    exact s.employee.below r hr
  same r hr cid hmem := owners_same hr hmem

/-- A row after a safe event has the client every earlier row of its ID had. -/
theorem Recorded.kept {p : FleetDB × List (Int × Int)} {e : Env × EmployeeCall}
    (h : Recorded p) (hsafe : SafeEvent p e) {r : Row Employee}
    (hr : r ∈ (EmployeeCall.step p.1 e).employee.rows) {cid : Int} (hmem : (r.rowid, cid) ∈ p.2) :
    r.cols.clientID = cid := by
  rcases (EmployeeCall.step_keeps hsafe).rows r hr with hnew | ⟨q, hq, hid, hcid⟩
  · have := h.given _ hmem
    omega
  · rw [← hid] at hmem
    exact hcid.symm.trans (h.same q hq cid hmem)

theorem Recorded.step {p : FleetDB × List (Int × Int)} {e : Env × EmployeeCall}
    (h : Recorded p) (hsafe : SafeEvent p e) : Recorded (recordedStep p e) where
  given q hq := by
    rcases List.mem_append.mp hq with hold | hnow
    · exact Int.le_trans (h.given q hold) (EmployeeCall.step_keeps hsafe).seq
    · obtain ⟨r, hr, rfl⟩ := mem_owners.mp hnow
      exact (EmployeeCall.step p.1 e).employee.below r hr
  same r hr cid hmem := by
    rcases List.mem_append.mp hmem with hold | hnow
    · exact h.kept hsafe hr hold
    · exact owners_same hr hnow

/-- Over any run of safe events no worker changes the client, a save changes
the client's row of its ID only, and a profile without a row gets an ID there
never was. -/
theorem workers_kept (s : FleetDB) (es : List (Env × EmployeeCall))
    (hes : Meets recordedStep SafeEvent (s, owners s.employee) es) :
    ∀ v ∈ visits recordedStep (s, owners s.employee) es, OwnersRight v := by
  intro v hv
  have hinv := visits_invariant Recorded (fun _ _ h hok => h.step hok) (Recorded.start s) hes hv
  have hsafe := hes v hv
  have hafter := after_eq_step hv
  refine ⟨fun r hr cid hmem => ?_, fun c hc => ?_⟩
  · rw [hafter] at hr
    exact hinv.1.kept hsafe hr hmem
  · apply SaveRight.of_safe (hsafe c hc)
    intro q hq
    rw [EmployeeCall.saving_before hc]
    exact hinv.1.given q hq

def ann : PRegister := { user := "ann", pass := "pw", fname := "Ann" }

theorem workers_kept_ann :
    (visits recordedStep (.created, owners FleetDB.created.employee)
      [(.calm, .register ann), (.calm, .mobileSave { id := 1001, user := "ann", cid := 2601 }),
        (.calm, .remove 1001)]).Forall OwnersRight := by
  apply List.forall_iff_forall_mem.mpr
  apply workers_kept
  refine meets_cons.mpr ⟨?_, meets_cons.mpr ⟨?_, meets_cons.mpr ⟨?_, Meets.nil _⟩⟩⟩
  · intro c hc
    cases Option.some.inj hc
    refine ⟨fun hmobile => ?_, fun _ => ⟨⟨rfl, rfl⟩, fun _ => rfl, by decide⟩⟩
    cases hmobile
  · intro c hc
    cases Option.some.inj hc
    refine ⟨fun _ _ r hr _ => ?_, fun _ => ⟨⟨rfl, rfl⟩, fun _ => rfl, by decide⟩⟩
    cases List.mem_singleton.mp hr
    rfl
  · intro c hc
    cases hc

/-- A profile saved from a phone hands the worker to the client it names. -/
theorem mobile_save_changes_client :
    ¬∀ v ∈ visits recordedStep (.created, owners FleetDB.created.employee)
      [(.calm, .register ann), (.calm, .mobileSave { id := 1001, cid := 2700 })],
      OwnersRight v := by
  intro h
  have hright := h _ (List.mem_cons_of_mem _ List.mem_cons_self)
  have hcid := hright.kept _ List.mem_cons_self 2601 List.mem_cons_self
  exact absurd hcid (by decide)

end UCLinux.Fleet
