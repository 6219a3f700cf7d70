import UCLinux.Fleet.Login

/-!
Registering a client from the web: a row in CLIENTS, then a row in EMPLOYEE,
then an e-mail. Only the outcome of the e-mail takes the rows out again.
Making the client returns 0 when something raised, which is not one of the
results that end the registration, and saving the worker does not say whether
it did.
-/

namespace UCLinux.Fleet

open Sql Machine FleetDB FleetEmployeeDB
open Ocpp (wrap32 wrap32_of_range)
open Ocpp.HistoryDB (cellText)

structure PRegister where
  user : Text := []
  pass : Text := []
  fname : Text := []
  email : Text := []
  deriving DecidableEq, Repr

def registerClient (rg : PRegister) : Client :=
  { email := rg.email, fullName := rg.fname, user := rg.user, pass := rg.pass }

/-- The worker made for a client. -/
def registerEmployee (c : Client) : PEmpl :=
  { id := -1, user := c.user, pass := c.pass, drName := c.fullName, email := c.email
    haddr := [], cid := c.cid, cycle := 6, tz := -1 }

/-- What follows once the worker is saved. -/
def registerEmail (E : Env) (c : Client) (emp : PEmpl) : Act Text :=
  if 0 < emp.id then do
    let rv ← Action.ask E.mails
    if rv = 1 then pure (("OK:" : Text) ++ decimal emp.id)
    else do
      removeClient E c.cid
      let _ ← removeEmployee E emp.id
      pure "Failed.. Check you email address"
  else pure "Failed to create this username"

/-- The reply when the name is taken; -2 would be the e-mail address. -/
def inUseReply (rv : Int) : Text :=
  let resp : Text := " is already in use"
  if rv = -1 then ("Username" : Text) ++ resp
  else if rv = -2 then ("Email" : Text) ++ resp
  else resp

/-- The reply of the page. -/
def processRegisterWS (E : Env) (rg : PRegister) : Act Text := do
  let made ← insertNewClient E (registerClient rg)
  if made.1 < 0 then pure (inUseReply made.1)
  else do
    let emp ← saveEmployee E (registerEmployee made.2) false
    registerEmail E made.2 emp

def okReply (id : Int) : Text := ("OK:" : Text) ++ decimal id

/-- A client and its worker were added. -/
def Registered (id : Int) (s s' : FleetDB) : Prop :=
  ∃ c ∈ s'.clients.rows, c ∉ s.clients.rows ∧
    ∃ e ∈ s'.employee.rows, e ∉ s.employee.rows ∧ e.rowid = id ∧ e.cols.clientID = c.rowid

def SameRows (s s' : FleetDB) : Prop :=
  s'.clients.rows = s.clients.rows ∧ s'.employee.rows = s.employee.rows

/-- A reply that names an ID stands for both rows, and every other for none. -/
structure Answers (s s' : FleetDB) (reply : Text) : Prop where
  ok : ∀ id, reply = okReply id → Registered id s s'
  otherwise : (∀ id, reply ≠ okReply id) → SameRows s s'

/-- What a registration has to do. -/
def RegisterRight (E : Env) (s : FleetDB) (rg : PRegister) : Prop :=
  Answers s (processRegisterWS E rg s.start).2.state (processRegisterWS E rg s.start).1

/-- Opening the database and the statement after it do not raise. -/
def Env.Calm (E : Env) (n : Nat) : Prop := E.raises n = none ∧ E.raises (n + 1) = none

instance (E : Env) (n : Nat) : Decidable (E.Calm n) :=
  inferInstanceAs (Decidable (_ ∧ _))

/-- What becomes of the client, and how many questions that takes. -/
inductive ClientStep where
  | taken
  | added
  | failed (asked : Nat)

/-- What the check of the name reads, unless it raises. -/
def namesFound (E : Env) (s : FleetDB) (user : Text) : Option (List Text) :=
  if E.raises 1 = none then
    CLIENTS.selected E (usernameSql user) (takenNames user) (cellText · 0) s.clients
  else none

/-- The questions are: opening, the check of the name, the date, the insert. -/
def clientStep (E : Env) (s : FleetDB) (user : Text) : ClientStep :=
  if E.raises 0 = none then
    match namesFound E s user with
    | none => .failed 2
    | some names =>
      if getStringValue names ≠ [] then .taken
      else if E.raises 3 = none ∧ s.clients.seq < maxRowid then .added
      else .failed 4
  else .failed 1

/-- The worker is inserted by the questions from `n` on. -/
def Saves (E : Env) (s : FleetDB) (n : Nat) : Prop := E.Calm n ∧ s.employee.seq < maxRowid

/-- How many questions taking a client out takes. -/
def removalAsks (E : Env) (n : Nat) : Nat := if E.raises n = none then 2 else 1

/-- The steps either all happen or are all taken back. -/
def RegisterSafe (E : Env) (s : FleetDB) (rg : PRegister) : Prop :=
  match clientStep E s rg.user with
  | .taken => True
  | .added => Saves E s 4 ∧ s.clients.seq + 1 < 2 ^ 31 ∧ s.employee.seq + 1 < 2 ^ 31 ∧
      (E.mails 6 = 1 ∨ E.Calm 7 ∧ E.Calm 9)
  | .failed n => Saves E s n → s.employee.seq + 1 < 2 ^ 31 ∧ E.mails (n + 2) ≠ 1 ∧
      E.Calm (n + 3 + removalAsks E (n + 3))

section Steps

variable {E : Env} {s : Session FleetDB}

theorem removeClient_apply (cid : Int) :
    removeClient E cid s =
      ((), ⟨if E.Calm s.asked then
          { s.state with clients := (s.state.clients.delete (·.rowid = cid)).1 } else s.state,
        s.asked + removalAsks E s.asked⟩) := by
  unfold removeClient removalAsks
  rw [createConnection_bind]
  by_cases hopen : E.raises s.asked = none
  · rw [if_pos hopen, if_pos hopen, Action.bind_apply]
    rcases CLIENTS.delete_cases (E := E) (fun r => decide (r.rowid = cid)) s.tick with
      ⟨hr, hx⟩ | ⟨hr, hx⟩
    · rw [hx, if_neg fun hcalm => hr hcalm.2]
      rfl
    · rw [hx, if_pos ⟨hopen, hr⟩]
      rfl
  · rw [if_neg hopen, if_neg hopen, if_neg fun hcalm => hopen hcalm.1]
    rfl

theorem removeEmployee_state (empId : Int) :
    (removeEmployee E empId s).2.state =
      if E.Calm s.asked then
        { s.state with employee := (s.state.employee.delete (·.rowid = empId)).1 }
      else s.state := by
  unfold removeEmployee
  rw [createConnection_bind]
  by_cases hopen : E.raises s.asked = none
  · rw [if_pos hopen, Action.bind_apply]
    rcases EMPLOYEE.delete_cases (E := E) (fun r => decide (r.rowid = empId)) s.tick with
      ⟨hr, hx⟩ | ⟨hr, hx⟩
    · rw [hx, if_neg fun hcalm => hr hcalm.2]
      rfl
    · rw [hx, if_pos ⟨hopen, hr⟩]
      rfl
  · rw [if_neg hopen, if_neg fun hcalm => hopen hcalm.1]
    rfl

/-- A profile without an ID is inserted. -/
theorem saveEmployee_new {emp : PEmpl} (fromMobile : Bool) (hid : emp.id ≤ 0)
    (h : Saves E s.state s.asked) :
    ∃ t, t.rows = s.state.employee.rows ++ [⟨s.state.employee.seq + 1, employeeRow emp⟩] ∧
      t.seq = s.state.employee.seq + 1 ∧
      saveEmployee E emp fromMobile s =
        ({ emp with id := wrap32 (s.state.employee.seq + 1) },
          ⟨{ s.state with employee := t }, s.asked + 2⟩) := by
  obtain ⟨t, hins, hrows, hseq⟩ := AutoTable.insert_of_lt (employeeRow emp) h.2
  refine ⟨t, hrows, hseq, ?_⟩
  rw [saveEmployee_noId h.1.1 (by omega), insertEmployee_apply, EMPLOYEE.insert_some (s := s.tick) h.1.2 hins]
  rfl

/-- Or nothing happens. -/
theorem saveEmployee_not {emp : PEmpl} (fromMobile : Bool) (hid : emp.id ≤ 0)
    (h : ¬Saves E s.state s.asked) :
    ∃ m, saveEmployee E emp fromMobile s = (emp, ⟨s.state, m⟩) := by
  by_cases hopen : E.raises s.asked = none
  · have hfails : E.raises s.tick.asked ≠ none ∨ ¬s.state.employee.seq < maxRowid := by
      by_contra hboth
      rw [not_or, not_not, not_not] at hboth
      exact h ⟨⟨hopen, hboth.1⟩, hboth.2⟩
    rw [saveEmployee_noId hopen (by omega), insertEmployee_apply, EMPLOYEE.insert_none hfails]
    exact ⟨_, rfl⟩
  · exact ⟨_, saveEmployee_closed hopen⟩

end Steps

/-- What making a client does, step by step. -/
inductive Made (E : Env) (s : FleetDB) (c : Client) :
    ClientStep → (Int × Client) × Session FleetDB → Prop where
  | taken : Made E s c .taken ((-1, c), ⟨s, 2⟩)
  | added (t : AutoTable ClientRow)
      (rows : t.rows = s.clients.rows ++ [⟨s.clients.seq + 1, setCParams c (E.now 2)⟩])
      (seq : t.seq = s.clients.seq + 1) :
      Made E s c .added
        ((wrap32 (s.clients.seq + 1), { c with cid := wrap32 (s.clients.seq + 1) }),
          ⟨{ s with clients := t }, 4⟩)
  | failed (n : Nat) : Made E s c (.failed n) ((0, c), ⟨s, n⟩)

theorem addClient_made (E : Env) (s : FleetDB) (c : Client) :
    Made E s c (if E.raises 3 = none ∧ s.clients.seq < maxRowid then .added else .failed 4)
      (addClient E c ⟨s, 2⟩) := by
  rw [addClient_apply]
  by_cases hadd : E.raises 3 = none ∧ s.clients.seq < maxRowid
  · obtain ⟨t, hins, hrows, hseq⟩ := AutoTable.insert_of_lt (setCParams c (E.now 2)) hadd.2
    rw [if_pos hadd, CLIENTS.insert_some (s := Session.tick ⟨s, 2⟩) hadd.1 hins]
    exact .added t hrows hseq
  · have hfails : E.raises 3 ≠ none ∨ ¬s.clients.seq < maxRowid := by
      rw [← not_and_or]
      exact hadd
    rw [if_neg hadd, CLIENTS.insert_none (s := Session.tick ⟨s, 2⟩) hfails]
    exact .failed 4

theorem insertNewClient_made (E : Env) (s : FleetDB) (c : Client) :
    Made E s c (clientStep E s c.user) (insertNewClient E c s.start) := by
  unfold clientStep insertNewClient
  rw [createConnection_bind]
  by_cases hopen : E.raises 0 = none
  · have hread : (CLIENTS.read E (usernameSql c.user) (takenNames c.user) (cellText · 0)
        s.start.tick).1.all = namesFound E s c.user := CLIENTS.read_all_eq s.start.tick
    rw [if_pos hopen, if_pos (show E.raises s.start.asked = none from hopen), Action.bind_apply,
      hread, CLIENTS.read_snd]
    cases namesFound E s c.user with
    | none => exact .failed 2
    | some names =>
      dsimp only
      by_cases htaken : getStringValue names ≠ []
      · rw [if_pos htaken, if_pos htaken]
        exact .taken
      · rw [if_neg htaken, if_neg htaken]
        exact addClient_made E s c
  · rw [if_neg hopen, if_neg (show ¬E.raises s.start.asked = none from hopen)]
    exact .failed 1

section Finishing

variable {E : Env} {c : Client} {emp : PEmpl} {s : Session FleetDB}

/-- The tables after the rows with the two IDs were to be taken out. -/
def takenBack (E : Env) (cid empId : Int) (s : Session FleetDB) : FleetDB where
  clients := if E.Calm s.asked then (s.state.clients.delete (·.rowid = cid)).1
    else s.state.clients
  employee := if E.Calm (s.asked + removalAsks E s.asked) then
      (s.state.employee.delete (·.rowid = empId)).1
    else s.state.employee

theorem registerEmail_noId (h : ¬0 < emp.id) :
    registerEmail E c emp s = (("Failed to create this username" : Text), s) := by
  unfold registerEmail
  rw [if_neg h]
  rfl

theorem registerEmail_sent (h : 0 < emp.id) (hmail : E.mails s.asked = 1) :
    registerEmail E c emp s = (okReply emp.id, s.tick) := by
  unfold registerEmail
  rw [if_pos h, Action.bind_apply, Action.ask_apply, if_pos hmail]
  rfl

theorem registerEmail_unsent (h : 0 < emp.id) (hmail : E.mails s.asked ≠ 1) :
    (registerEmail E c emp s).1 = ("Failed.. Check you email address" : Text) ∧
      (registerEmail E c emp s).2.state = takenBack E c.cid emp.id s.tick := by
  have hclient := removeClient_apply (E := E) (s := s.tick) c.cid
  have hemployee := removeEmployee_state (E := E) (s := (removeClient E c.cid s.tick).2) emp.id
  unfold registerEmail
  rw [if_pos h, Action.bind_apply, Action.ask_apply, if_neg hmail]
  refine ⟨rfl, ?_⟩
  rw [Action.bind_apply, Action.bind_apply]
  refine hemployee.trans ?_
  rw [hclient]
  unfold takenBack
  dsimp only
  split <;> split <;> rfl

end Finishing

section Verdict

variable {s s' : FleetDB} {E : Env} {c : Client} {n : Nat}

theorem okReply_injective {i j : Int} (h : okReply i = okReply j) : i = j :=
  decimal_injective (List.append_cancel_left h)

theorem answers_ok_iff (id : Int) : Answers s s' (okReply id) ↔ Registered id s s' := by
  constructor
  · intro h
    exact h.ok id rfl
  · intro h
    refine ⟨fun i hi => ?_, fun hno => absurd rfl (hno id)⟩
    rw [← okReply_injective hi]
    exact h

theorem answers_other_iff {reply : Text} (h : ∀ id, reply ≠ okReply id) :
    Answers s s' reply ↔ SameRows s s' :=
  ⟨fun ha => ha.otherwise h, fun hsame => ⟨fun id hid => absurd hid (h id), fun _ => hsame⟩⟩

/-- No other reply starts like the one that names an ID. -/
theorem ne_okReply_of_head {reply : Text} (h : reply.head? ≠ some 'O') (id : Int) :
    reply ≠ okReply id := by
  rintro rfl
  exact h rfl

theorem inUseReply_ne (rv id : Int) : inUseReply rv ≠ okReply id := by
  apply ne_okReply_of_head
  unfold inUseReply
  dsimp only
  split
  · decide
  · split <;> decide

/-- The number reported for a new row is its ID as long as an `int` holds
it. -/
theorem wrap32_next_iff {seq : Int} (h : 0 ≤ seq) :
    wrap32 (seq + 1) = seq + 1 ↔ seq + 1 < 2 ^ 31 := by
  constructor
  · intro heq
    have hlt : wrap32 (seq + 1) < 2 ^ 31 := by
      unfold wrap32
      have := Int.bmod_lt (x := seq + 1) (m := 2 ^ 32) (by decide)
      omega
    omega
  · intro hlt
    exact wrap32_of_range ⟨by omega, hlt⟩

/-- The worker's row in the tables once it is inserted. -/
def workerRow (s : FleetDB) (c : Client) : Row Employee :=
  ⟨s.employee.seq + 1, employeeRow (registerEmployee c)⟩

/-- What follows the client, by the questions from `n` on. -/
inductive Finished (E : Env) (s : FleetDB) (c : Client) (n : Nat) : Text → FleetDB → Prop where
  | unsaved (h : ¬Saves E s n) : Finished E s c n "Failed to create this username" s
  | noId (t : AutoTable Employee) (h : Saves E s n)
      (rows : t.rows = s.employee.rows ++ [workerRow s c])
      (hid : ¬0 < wrap32 (s.employee.seq + 1)) :
      Finished E s c n "Failed to create this username" { s with employee := t }
  | sent (t : AutoTable Employee) (h : Saves E s n)
      (rows : t.rows = s.employee.rows ++ [workerRow s c])
      (hid : 0 < wrap32 (s.employee.seq + 1)) (hmail : E.mails (n + 2) = 1) :
      Finished E s c n (okReply (wrap32 (s.employee.seq + 1))) { s with employee := t }
  | unsent (t : AutoTable Employee) (h : Saves E s n)
      (rows : t.rows = s.employee.rows ++ [workerRow s c])
      (hid : 0 < wrap32 (s.employee.seq + 1)) (hmail : E.mails (n + 2) ≠ 1) :
      Finished E s c n "Failed.. Check you email address"
        (takenBack E c.cid (wrap32 (s.employee.seq + 1)) ⟨{ s with employee := t }, n + 3⟩)

theorem register_finished (E : Env) (s : FleetDB) (c : Client) (n : Nat) :
    Finished E s c n
      ((saveEmployee E (registerEmployee c) false >>= registerEmail E c) ⟨s, n⟩).1
      ((saveEmployee E (registerEmployee c) false >>= registerEmail E c) ⟨s, n⟩).2.state := by
  have hnew : (registerEmployee c).id ≤ 0 := by simp [registerEmployee]
  rw [Action.bind_apply]
  by_cases hsaves : Saves E s n
  · obtain ⟨t, hrows, _, hsave⟩ := saveEmployee_new (s := ⟨s, n⟩) false hnew hsaves
    rw [hsave]
    by_cases hid : 0 < wrap32 (s.employee.seq + 1)
    · by_cases hmail : E.mails (n + 2) = 1
      · rw [registerEmail_sent hid hmail]
        exact .sent t hsaves hrows hid hmail
      · have hunsent : ∀ emp : PEmpl, emp.id = wrap32 (s.employee.seq + 1) → _ :=
          fun emp heq => registerEmail_unsent (E := E) (c := c)
            (s := ⟨{ s with employee := t }, n + 2⟩) (heq ▸ hid : 0 < emp.id) hmail
        rw [(hunsent _ rfl).1, (hunsent _ rfl).2]
        exact .unsent t hsaves hrows hid hmail
    · rw [registerEmail_noId hid]
      exact .noId t hsaves hrows hid
  · obtain ⟨m, hsave⟩ := saveEmployee_not (s := ⟨s, n⟩) false hnew hsaves
    rw [hsave, registerEmail_noId (by simp [registerEmployee])]
    exact .unsaved hsaves

/-- Without a client the rows come out right when the worker is not saved, or
is taken back. -/
theorem answers_failed_iff {reply : Text} (hcid : c.cid = -1) (h : Finished E s c n reply s') :
    Answers s s' reply ↔ (Saves E s n → s.employee.seq + 1 < 2 ^ 31 ∧ E.mails (n + 2) ≠ 1 ∧
      E.Calm (n + 3 + removalAsks E (n + 3))) := by
  have hseq := s.employee.nonneg
  cases h with
  | unsaved hnot =>
    rw [answers_other_iff (ne_okReply_of_head (by decide))]
    exact ⟨fun _ hsaves => absurd hsaves hnot, fun _ => ⟨rfl, rfl⟩⟩
  | noId t hsaves hrows hid =>
    rw [answers_other_iff (ne_okReply_of_head (by decide))]
    constructor
    · rintro ⟨_, hsame⟩
      exact absurd (hrows.symm.trans hsame) (s.employee.append_new_ne _)
    · intro hsafe
      have hwrap := (wrap32_next_iff hseq).mpr (hsafe hsaves).1
      omega
  | sent t hsaves hrows hid hmail =>
    rw [answers_ok_iff]
    constructor
    · rintro ⟨q, hq, hnew, _⟩
      exact absurd hq hnew
    · intro hsafe
      exact absurd hmail (hsafe hsaves).2.1
  | unsent t hsaves hrows hid hmail =>
    rw [answers_other_iff (ne_okReply_of_head (by decide))]
    have hclients : (takenBack E c.cid (wrap32 (s.employee.seq + 1))
        ⟨{ s with employee := t }, n + 3⟩).clients.rows = s.clients.rows := by
      unfold takenBack
      dsimp only
      split
      · rw [hcid]
        exact s.clients.delete_nonpos (by decide)
      · rfl
    have hemployee : (takenBack E c.cid (wrap32 (s.employee.seq + 1))
        ⟨{ s with employee := t }, n + 3⟩).employee.rows = s.employee.rows ↔
          E.Calm (n + 3 + removalAsks E (n + 3)) ∧ s.employee.seq + 1 < 2 ^ 31 := by
      rw [← wrap32_next_iff hseq]
      exact AutoTable.delete_if_new_iff _ hrows
    constructor
    · rintro ⟨_, hsame⟩ _
      obtain ⟨hcalm, hbound⟩ := hemployee.mp hsame
      exact ⟨hbound, hmail, hcalm⟩
    · intro hsafe
      obtain ⟨hbound, _, hcalm⟩ := hsafe hsaves
      exact ⟨hclients, hemployee.mpr ⟨hcalm, hbound⟩⟩

/-- With a client the rows come out right when the worker is saved too, and
both are reported or both taken back. -/
theorem answers_added_iff {reply : Text} {t : AutoTable ClientRow} {a : ClientRow}
    (hcid : c.cid = wrap32 (s.clients.seq + 1))
    (ht : t.rows = s.clients.rows ++ [⟨s.clients.seq + 1, a⟩])
    (h : Finished E { s with clients := t } c 4 reply s') :
    Answers s s' reply ↔ Saves E s 4 ∧ s.clients.seq + 1 < 2 ^ 31 ∧
      s.employee.seq + 1 < 2 ^ 31 ∧ (E.mails 6 = 1 ∨ E.Calm 7 ∧ E.Calm 9) := by
  have hseq := s.employee.nonneg
  have hcseq := s.clients.nonneg
  cases h with
  | unsaved hnot =>
    rw [answers_other_iff (ne_okReply_of_head (by decide))]
    constructor
    · rintro ⟨hsame, _⟩
      exact absurd (ht.symm.trans hsame) (s.clients.append_new_ne a)
    · rintro ⟨hsaves, _⟩
      exact absurd hsaves hnot
  | noId t' hsaves hrows hid =>
    rw [answers_other_iff (ne_okReply_of_head (by decide))]
    constructor
    · rintro ⟨hsame, _⟩
      exact absurd (ht.symm.trans hsame) (s.clients.append_new_ne a)
    · rintro ⟨_, _, hbound, _⟩
      have hwrap := (wrap32_next_iff hseq).mpr hbound
      simp only at hid
      omega
  | sent t' hsaves hrows hid hmail =>
    rw [answers_ok_iff]
    constructor
    · rintro ⟨q, hq, hqnew, e, he, henew, heid, hecid⟩
      have hq' := AutoTable.mem_append_new_iff.mp ⟨ht ▸ hq, hqnew⟩
      have he' := AutoTable.mem_append_new_iff.mp ⟨hrows ▸ he, henew⟩
      rw [he'] at heid hecid
      rw [hq'] at hecid
      have hwrap : wrap32 (s.clients.seq + 1) = s.clients.seq + 1 := hcid.symm.trans hecid
      exact ⟨hsaves, (wrap32_next_iff hcseq).mp hwrap, (wrap32_next_iff hseq).mp heid.symm,
        Or.inl hmail⟩
    · rintro ⟨_, hcbound, hbound, _⟩
      have hq := AutoTable.mem_append_new_iff.mpr (Eq.refl (⟨s.clients.seq + 1, a⟩ : Row ClientRow))
      have he := AutoTable.mem_append_new_iff.mpr (Eq.refl (workerRow s c))
      refine ⟨_, ?_, hq.2, _, ?_, he.2, ?_, ?_⟩
      · rw [ht]
        exact hq.1
      · rw [hrows]
        exact he.1
      · exact ((wrap32_next_iff hseq).mpr hbound).symm
      · exact hcid.trans ((wrap32_next_iff hcseq).mpr hcbound)
  | unsent t' hsaves hrows hid hmail =>
    rw [answers_other_iff (ne_okReply_of_head (by decide))]
    unfold SameRows takenBack
    dsimp only
    rw [AutoTable.delete_if_new_iff c.cid ht, AutoTable.delete_if_new_iff _ hrows, hcid,
      wrap32_next_iff hcseq, wrap32_next_iff hseq]
    have hasks : E.Calm 7 → removalAsks E 7 = 2 := fun hcalm => if_pos hcalm.1
    constructor
    · rintro ⟨⟨hcalm, hcbound⟩, hcalm', hbound⟩
      rw [hasks hcalm] at hcalm'
      exact ⟨hsaves, hcbound, hbound, Or.inr ⟨hcalm, hcalm'⟩⟩
    · rintro ⟨_, hcbound, hbound, hmailed | ⟨hcalm, hcalm'⟩⟩
      · exact absurd hmailed hmail
      · rw [hasks hcalm]
        exact ⟨⟨hcalm, hcbound⟩, hcalm', hbound⟩

/-- A registration that names the client taken, or makes it, or goes on without
it. -/
theorem processRegisterWS_apply (rg : PRegister) :
    processRegisterWS E rg s.start =
      if (insertNewClient E (registerClient rg) s.start).1.1 < 0 then
        (inUseReply (insertNewClient E (registerClient rg) s.start).1.1,
          (insertNewClient E (registerClient rg) s.start).2)
      else (saveEmployee E (registerEmployee (insertNewClient E (registerClient rg) s.start).1.2)
          false >>= registerEmail E (insertNewClient E (registerClient rg) s.start).1.2)
        (insertNewClient E (registerClient rg) s.start).2 := by
  unfold processRegisterWS
  rw [Action.bind_apply, Action.ite_apply]
  rfl

end Verdict

/-- A registration keeps the two tables and its reply together exactly when its
steps all happen or are all taken back. -/
theorem register_right_iff (E : Env) (s : FleetDB) (rg : PRegister) :
    RegisterRight E s rg ↔ RegisterSafe E s rg := by
  have hmade := insertNewClient_made E s (registerClient rg)
  have hcseq := s.clients.nonneg
  have huser : (registerClient rg).user = rg.user := rfl
  unfold RegisterRight RegisterSafe
  rw [processRegisterWS_apply]
  rw [huser] at hmade
  generalize clientStep E s rg.user = step at hmade ⊢
  generalize insertNewClient E (registerClient rg) s.start = x at hmade ⊢
  cases hmade with
  | taken =>
    rw [if_pos (show (-1 : Int) < 0 by decide), answers_other_iff (inUseReply_ne _)]
    exact ⟨fun _ => trivial, fun _ => ⟨rfl, rfl⟩⟩
  | added t hrows hseq =>
    by_cases hneg : wrap32 (s.clients.seq + 1) < 0
    · rw [if_pos hneg, answers_other_iff (inUseReply_ne _)]
      constructor
      · rintro ⟨hsame, _⟩
        exact absurd (hrows.symm.trans hsame) (s.clients.append_new_ne _)
      · rintro ⟨_, hbound, _⟩
        have hwrap := (wrap32_next_iff hcseq).mpr hbound
        omega
    · rw [if_neg hneg]
      exact answers_added_iff rfl hrows (register_finished E _ _ 4)
  | failed n =>
    rw [if_neg (show ¬(0 : Int) < 0 by decide)]
    exact answers_failed_iff rfl (register_finished E s _ n)

/-- Opening the database fails when the client is made and not later. -/
def busyOnce : Env := { Env.calm with raises := fun n => if n = 0 then some 0 else none }

/-- A registration is reported done without a row in CLIENTS. -/
theorem register_without_client :
    ¬RegisterRight busyOnce .created { user := "ann", pass := "pw", fname := "Ann" } := by
  intro h
  obtain ⟨c, hc, _⟩ := h.ok 1001 (by decide)
  have hempty : (processRegisterWS busyOnce { user := "ann", pass := "pw", fname := "Ann" }
      FleetDB.created.start).2.state.clients.rows = [] := rfl
  rw [hempty] at hc
  cases hc

end UCLinux.Fleet
