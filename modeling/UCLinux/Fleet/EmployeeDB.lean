import UCLinux.Ocpp.HistoryDB
import UCLinux.Sql.AutoTable

/-!
The fleet database: the customers (`CLIENTS`) and the workers who log in from
a phone (`EMPLOYEE`). Both tables are AUTOINCREMENT. Every function opens its
own connection; when that fails, or when a statement raises, it returns what
it had by then, and its caller cannot tell.
-/

namespace UCLinux.Fleet

open Sql Machine
open Ocpp (wrap32)

/-- A row of EMPLOYEE; its ID is the rowid. INSERT leaves the last two columns
NULL. -/
structure Employee where
  driverName : Text
  username : Text
  password : Text
  license : Text
  homeAddress : Text
  isSupervisor : Int
  signature : Text
  cycle : Int
  hosExcept : Int
  clientID : Int
  orgName : Text
  orgAddr : Text
  timeZone : Int
  email : Text
  photo : Text
  loginSts : Option Int
  loginFCM : Option Text
  deriving DecidableEq, Repr

/-- A row of CLIENTS; its CID is the rowid. -/
structure ClientRow where
  username : Text
  password : Text
  email : Text
  fullName : Text
  phone : Text
  ts : Text
  status : Int
  deriving DecidableEq, Repr

/-- The message that carries a worker's profile. -/
structure PEmpl where
  id : Int := 0
  drName : Text := []
  user : Text := []
  pass : Text := []
  license : Text := []
  haddr : Text := []
  superv : Int := 0
  sign : Text := []
  cycle : Int := 0
  hExc : Int := 0
  cid : Int := 0
  orgName : Text := []
  orgAddr : Text := []
  tz : Int := 0
  email : Text := []
  photo : Text := []
  deriving DecidableEq, Repr

structure Client where
  cid : Int := -1
  resourceID : Int := -1
  driverName : Text := []
  user : Text := []
  pass : Text := []
  fullName : Text := []
  email : Text := []
  phone : Text := []
  timestamp : Text := []
  status : Int := -1
  deriving DecidableEq, Repr

structure FleetDB where
  employee : AutoTable Employee
  clients : AutoTable ClientRow

/-- Everything outside the database: failures, what the engine makes of
altered statements, the date, the outcome of an e-mail. -/
structure Env where
  raises : Nat → Option Nat
  employee : Altered (unkeyed (α := Employee))
  clients : Altered (unkeyed (α := ClientRow))
  now : Nat → Text
  mails : Nat → Int

/-- Nothing raises, altered statements are refused, e-mails are sent. -/
def Env.calm : Env where
  raises := fun _ => none
  employee := Altered.refused _
  clients := Altered.refused _
  now := fun _ => []
  mails := fun _ => 1

namespace FleetDB

abbrev Act (α : Type) : Type := Action FleetDB α

/-- The tables as they are created: the first row inserted and deleted again
sets where the numbers start. -/
def created : FleetDB := ⟨.startingAt 1000, .startingAt 2600⟩

def EMPLOYEE : AutoAt FleetDB Env Employee where
  get := employee
  set s t := { s with employee := t }
  get_set _ _ := rfl
  raises := Env.raises
  altered := Env.employee

def CLIENTS : AutoAt FleetDB Env ClientRow where
  get := clients
  set s t := { s with clients := t }
  get_set _ _ := rfl
  raises := Env.raises
  altered := Env.clients

/-- `CREATECONNECTION`: false when the database cannot be opened. -/
def createConnection (E : Env) : Act Bool := connect E.raises

/-- What is done on an open connection, and what without one. -/
theorem createConnection_bind {α : Type} (E : Env) (x y : Act α) (s : Session FleetDB) :
    (createConnection E >>= fun opened => if opened then x else y) s =
      if E.raises s.asked = none then x s.tick else y s.tick := by
  rw [Action.bind_apply, createConnection, connect_apply]
  cases E.raises s.asked <;> rfl

end FleetDB

namespace FleetEmployeeDB

open FleetDB Ocpp.HistoryDB

/-- The columns of a row as the getters deliver them, over what the message
holds already. -/
def getEmployeeRow (r : Row Employee) : PEmpl where
  id := wrap32 r.rowid
  drName := cstr r.cols.driverName
  user := cstr r.cols.username
  pass := cstr r.cols.password
  license := cstr r.cols.license
  haddr := cstr r.cols.homeAddress
  superv := if wrap32 r.cols.isSupervisor = 0 then 0 else 1
  sign := r.cols.signature
  cycle := wrap32 r.cols.cycle
  hExc := wrap32 r.cols.hosExcept
  cid := wrap32 r.cols.clientID
  orgName := cstr r.cols.orgName
  orgAddr := cstr r.cols.orgAddr
  tz := wrap32 r.cols.timeZone
  email := cstr r.cols.email
  photo := cstr r.cols.photo

/-- The same for the row of an altered query. -/
def employeeOfCells (row : List Cell) : PEmpl where
  id := cellInt row 0
  drName := cellText row 1
  user := cellText row 2
  pass := cellText row 3
  license := cellText row 4
  haddr := cellText row 5
  superv := if cellInt row 6 = 0 then 0 else 1
  sign := cellText row 7
  cycle := cellInt row 8
  hExc := cellInt row 9
  cid := cellInt row 10
  orgName := cellText row 11
  orgAddr := cellText row 12
  tz := cellInt row 13
  email := cellText row 14
  photo := cellText row 15

/-- The first employee a query delivers, and whether the query ran: without a
row the message stays as it was. -/
def getEmployee (E : Env) (emp : PEmpl) (sql : Stmt) (p : Row Employee → Bool) :
    Act (Bool × PEmpl) := do
  let opened ← createConnection E
  if opened then do
    let found ← EMPLOYEE.read E sql (fun t => (t.rows.filter p).map getEmployeeRow)
      employeeOfCells
    match found.first with
    | none => pure (false, emp)
    | some none => pure (true, emp)
    | some (some row) => pure (true, row)
  else pure (false, emp)

def getEmployeeByIdSql (id : Int) : Stmt :=
  [.sql "SELECT * FROM EMPLOYEE WHERE ID = ", .number id, .sql " "]

def getEmployeeById (E : Env) (emp : PEmpl) (id : Int) : Act (Bool × PEmpl) :=
  getEmployee E emp (getEmployeeByIdSql id) (·.rowid = id)

def getEmployeeByUserPassSql (user pass : Text) : Stmt :=
  [.sql "SELECT * FROM EMPLOYEE WHERE Username='", .value (cstr user),
    .sql "' and Password='", .value (cstr pass), .sql "'"]

def hasUserPass (user pass : Text) (r : Row Employee) : Bool :=
  r.cols.username = cstr user ∧ r.cols.password = cstr pass

def getEmployeeByUserPass (E : Env) (emp : PEmpl) (user pass : Text) : Act (Bool × PEmpl) :=
  getEmployee E emp (getEmployeeByUserPassSql user pass) (hasUserPass user pass)

def getLoginStsSql (id : Int) : Stmt :=
  [.sql "SELECT LoginSts FROM EMPLOYEE WHERE ID = ", .number id, .sql " "]

def getLoginStsById (E : Env) (id : Int) : Act Int := do
  let opened ← createConnection E
  if opened then do
    let found ← EMPLOYEE.read E (getLoginStsSql id)
      (fun t => (t.rows.filter (·.rowid = id)).map fun r => (r.cols.loginSts.map wrap32).getD 0)
      (fun row => cellInt row 0)
    match found.first with
    | some (some sts) => pure sts
    | _ => pure (-1)
  else pure (-1)

def updateLoginStsSql (id sts : Int) : Stmt :=
  [.sql "UPDATE EMPLOYEE SET LoginSts=", .number sts, .sql " WHERE ID=", .number id, .sql " "]

def updateLoginStsById (E : Env) (id sts : Int) : Act Unit := do
  let opened ← createConnection E
  if opened then do
    let _ ← EMPLOYEE.update E (updateLoginStsSql id sts) fun r =>
      if r.rowid = id then some { r.cols with loginSts := some sts } else none
    pure ()
  else pure ()

def updateFCMLoginStsSql (id : Int) (msg : Text) : Stmt :=
  [.sql "UPDATE EMPLOYEE SET LoginFCM='", .value (cstr msg), .sql "' WHERE ID=", .number id,
    .sql " "]

def updateFCMLoginStsById (E : Env) (id : Int) (msg : Text) : Act Unit := do
  let opened ← createConnection E
  if opened then do
    let _ ← EMPLOYEE.update E (updateFCMLoginStsSql id msg) fun r =>
      if r.rowid = id then some { r.cols with loginFCM := some (cstr msg) } else none
    pure ()
  else pure ()

/-- The columns a profile is inserted with. -/
def employeeRow (emp : PEmpl) : Employee where
  driverName := emp.drName
  username := emp.user
  password := emp.pass
  license := emp.license
  homeAddress := emp.haddr
  isSupervisor := if emp.superv = 0 then 0 else 1
  signature := emp.sign
  cycle := emp.cycle
  hosExcept := emp.hExc
  clientID := emp.cid
  orgName := emp.orgName
  orgAddr := emp.orgAddr
  timeZone := emp.tz
  email := emp.email
  photo := emp.photo
  loginSts := none
  loginFCM := none

/-- The profile after an insert: with the ID given, unless it raised. -/
def employeeInserted (emp : PEmpl) : Option Int → PEmpl
  | none => emp
  | some n => { emp with id := wrap32 n }

/-- `INSERT INTO EMPLOYEE (DriverName, …, Photo) VALUES (?, …, ?)` -/
def insertEmployee (E : Env) (emp : PEmpl) : Act PEmpl := do
  let id ← EMPLOYEE.insert E (employeeRow emp)
  pure (employeeInserted emp id)

theorem insertEmployee_apply (E : Env) (emp : PEmpl) (s : Session FleetDB) :
    insertEmployee E emp s =
      (employeeInserted emp (EMPLOYEE.insert E (employeeRow emp) s).1,
        (EMPLOYEE.insert E (employeeRow emp) s).2) := rfl

def updateEmployeeMobileSql : Stmt :=
  [.sql "UPDATE EMPLOYEE SET DriverName=?,Password=?,Username=?,License=?,",
    .sql "HomeAddress=?,IsSupervisor=?,Signature=?,Cycle=?,HOSExcept=?,ClientID=?,OrgName=?,",
    .sql "OrgAddr=?,TimeZone=?,Email=?,Photo=? WHERE Id=?"]

def updateEmployeeWebSql : Stmt :=
  [.sql "UPDATE EMPLOYEE SET DriverName=?,Password=?,Username=?,Email=?,Photo=? ",
    .sql "WHERE Id=? and ClientID=?"]

/-- From a phone the row with the ID takes every column of the profile, the
client's ID among them. -/
def mobileRow (emp : PEmpl) (r : Row Employee) : Option Employee :=
  if r.rowid = emp.id then
    some { employeeRow emp with loginSts := r.cols.loginSts, loginFCM := r.cols.loginFCM }
  else none

/-- From the web the row has to be the client's. -/
def webRow (emp : PEmpl) (r : Row Employee) : Option Employee :=
  if r.rowid = emp.id ∧ r.cols.clientID = emp.cid then
    some { r.cols with
      driverName := emp.drName, password := emp.pass, username := emp.user
      email := emp.email, photo := emp.photo }
  else none

/-- The rows an UPDATE of a profile rewrites. -/
def savedRow (emp : PEmpl) (fromMobile : Bool) : Row Employee → Option Employee :=
  if fromMobile then mobileRow emp else webRow emp

/-- The profile as it is left: with the ID of the row inserted, if one was. -/
def saveEmployee (E : Env) (emp : PEmpl) (fromMobile : Bool) : Act PEmpl := do
  let opened ← createConnection E
  if opened then
    if 0 < emp.id then do
      let tmp ← EMPLOYEE.update E
        (if fromMobile then updateEmployeeMobileSql else updateEmployeeWebSql)
        (savedRow emp fromMobile)
      match tmp with
      | none => pure emp
      | some n => if n = 0 then insertEmployee E emp else pure emp
    else insertEmployee E emp
  else pure emp

section Save

variable {E : Env} {emp : PEmpl} {fromMobile : Bool} {s : Session FleetDB}

theorem saveEmployee_closed (hopen : E.raises s.asked ≠ none) :
    saveEmployee E emp fromMobile s = (emp, s.tick) := by
  unfold saveEmployee
  rw [createConnection_bind, if_neg hopen]
  rfl

theorem saveEmployee_noId (hopen : E.raises s.asked = none) (hid : ¬0 < emp.id) :
    saveEmployee E emp fromMobile s = insertEmployee E emp s.tick := by
  unfold saveEmployee
  rw [createConnection_bind, if_pos hopen, if_neg hid]

end Save

def removeEmployee (E : Env) (empId : Int) : Act Bool := do
  let opened ← createConnection E
  if opened then do
    let done ← EMPLOYEE.delete E (·.rowid = empId)
    pure done.isSome
  else pure false

/-- The last string of a column, empty when there is no row. -/
def getStringValue (rows : List Text) : Text := rows.getLast?.getD []

def usernameSql (user : Text) : Stmt :=
  [.sql "SELECT Username FROM CLIENTS WHERE Username = '", .value (cstr user), .sql "' "]

/-- The names the check for a taken name reads. -/
def takenNames (user : Text) (t : AutoTable ClientRow) : List Text :=
  (t.rows.filter (·.cols.username = cstr user)).map (cstr ·.cols.username)

/-- The columns a client is inserted with. -/
def setCParams (c : Client) (now : Text) : ClientRow where
  username := c.user
  password := c.pass
  email := c.email
  fullName := c.fullName
  phone := c.phone
  ts := now
  status := 1

/-- The result and the record after an insert: the CID given, 0 when it
raised. -/
def clientAdded (c : Client) : Option Int → Int × Client
  | none => (0, c)
  | some n => (wrap32 n, { c with cid := wrap32 n })

/-- The insert of a client whose name is free. -/
def addClient (E : Env) (c : Client) : Act (Int × Client) := do
  let now ← Action.ask E.now
  let id ← CLIENTS.insert E (setCParams c now)
  pure (clientAdded c id)

theorem addClient_apply (E : Env) (c : Client) (s : Session FleetDB) :
    addClient E c s =
      (clientAdded c (CLIENTS.insert E (setCParams c (E.now s.asked)) s.tick).1,
        (CLIENTS.insert E (setCParams c (E.now s.asked)) s.tick).2) := rfl

/-- The result is negative when the name is taken, 0 when something raised,
else the CID given. -/
def insertNewClient (E : Env) (c : Client) : Act (Int × Client) := do
  let opened ← createConnection E
  if opened then do
    let found ← CLIENTS.read E (usernameSql c.user) (takenNames c.user) (cellText · 0)
    match found.all with
    | none => pure (0, c)
    | some names => if getStringValue names ≠ [] then pure (-1, c) else addClient E c
  else pure (0, c)

def removeClient (E : Env) (cid : Int) : Act Unit := do
  let opened ← createConnection E
  if opened then do
    let _ ← CLIENTS.delete E (·.rowid = cid)
    pure ()
  else pure ()

def readClient (r : Row ClientRow) : Client where
  cid := wrap32 r.rowid
  user := cstr r.cols.username
  pass := cstr r.cols.password
  email := cstr r.cols.email
  fullName := cstr r.cols.fullName
  phone := cstr r.cols.phone
  timestamp := cstr r.cols.ts
  status := wrap32 r.cols.status

/-- The same for the row of an altered query. -/
def clientOfCells (row : List Cell) : Client where
  cid := cellInt row 0
  user := cellText row 1
  pass := cellText row 2
  email := cellText row 3
  fullName := cellText row 4
  phone := cellText row 5
  timestamp := cellText row 6
  status := cellInt row 7

/-- The clients fetched, also when fetching raised after them. -/
def getAllClients (E : Env) (sql : Stmt) (p : Row ClientRow → Bool) : Act (List Client) := do
  let opened ← createConnection E
  if opened then do
    let found ← CLIENTS.read E sql (fun t => (t.rows.filter p).map readClient) clientOfCells
    pure found.rows
  else pure []

def validateWebClientSql (user pass : Text) : Stmt :=
  [.sql "SELECT * FROM CLIENTS Where Username='", .value (cstr user),
    .sql "' and Password='", .value (cstr pass), .sql "'"]

def hasNamePass (user pass : Text) (r : Row ClientRow) : Bool :=
  r.cols.username = cstr user ∧ r.cols.password = cstr pass

/-- Exactly one row has to match; its columns are put into the record. -/
def validateWebClient (E : Env) (c : Client) : Act (Bool × Client) := do
  let list ← getAllClients E (validateWebClientSql c.user c.pass) (hasNamePass c.user c.pass)
  match list with
  | [c1] => pure (true, { c with
      cid := c1.cid, email := c1.email, fullName := c1.fullName, status := c1.status
      phone := c1.phone, timestamp := c1.timestamp })
  | _ => pure (false, c)

end FleetEmployeeDB

end UCLinux.Fleet
