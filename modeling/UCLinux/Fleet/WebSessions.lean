import UCLinux.Fleet.Clients
import UCLinux.Machine.Threads
import UCLinux.Ocpp.Literals
import UCLinux.Ocpp.Numbers
import Mathlib.Data.List.Nodup

/-!
Web sessions. A login makes a session whose ID is the address of its record,
and a page asks for its session by that ID. A page that is left sends the name
and the client of its login only, so the first session of that name and client
goes, whichever browser it was made for. A record is never freed, so no later
login gets its address. Several workers are at the sessions, which nothing
locks: one that has found where a session is may take out what has moved there.
-/

namespace UCLinux.Fleet

open Sql Machine FleetDB FleetEmployeeDB
open Ocpp (hexDigit digitsValue isSpace head_toDigits digitsValue_eq isDigit_toDigits)

section Numbers

def hexValue (s : Text) : Int := s.foldl (fun n c => 16 * n + ((hexDigit c).getD 0 : Nat)) 0

def octalValue (s : Text) : Int := s.foldl (fun n c => 8 * n + (c.toNat - '0'.toNat)) 0

def isOctal (c : Char) : Bool := '0' ≤ c ∧ c ≤ '7'

/-- The number without its sign; the base is told by how it starts. -/
def magnitude (s : Text) : Int :=
  match s with
  | '0' :: x :: rest =>
    if (x = 'x' ∨ x = 'X') ∧ (rest.head?.bind hexDigit).isSome then
      hexValue (rest.takeWhile fun c => (hexDigit c).isSome)
    else octalValue ((x :: rest).takeWhile isOctal)
  | _ => digitsValue (s.takeWhile Char.isDigit)

/-- `strtoll` with base 0, which saturates. -/
def str2Int64 (s : Text) : Int :=
  max (-(2 ^ 63)) (min (2 ^ 63 - 1)
    (match (cstr s).dropWhile isSpace with
    | '-' :: rest => -magnitude rest
    | '+' :: rest => magnitude rest
    | rest => magnitude rest))

/-- A number printed in decimal is read in decimal. -/
theorem magnitude_toDigits (n : Nat) : magnitude (Nat.toDigits 10 n) = n := by
  have hdigits : digitsValue ((Nat.toDigits 10 n).takeWhile Char.isDigit) = n := by
    rw [List.takeWhile_eq_self_iff.mpr isDigit_toDigits, digitsValue_eq isDigit_toDigits,
      Nat.ofDigitChars_ten_toDigits]
  unfold magnitude
  split
  · next x rest heq =>
    rcases Nat.eq_zero_or_pos n with rfl | hpos
    · rw [Nat.toDigits_zero] at heq
      cases heq
    · exact absurd (by rw [heq]; rfl) (head_toDigits hpos)
  · exact hdigits

theorem not_mem_toDigits {c : Char} (n : Nat) (hc : ¬c.isDigit) : c ∉ Nat.toDigits 10 n :=
  fun hmem => hc (isDigit_toDigits c hmem)

/-- An ID a page was given is read back as it was printed. -/
theorem str2Int64_decimal {n : Int} (h : -(2 ^ 63) ≤ n ∧ n < 2 ^ 63) :
    str2Int64 (decimal n) = n := by
  have hnul : cstr (decimal n) = decimal n := by
    apply cstr_of_no_nul
    unfold decimal
    split
    · rw [List.mem_cons, not_or]
      exact ⟨by decide, not_mem_toDigits _ (by decide)⟩
    · exact not_mem_toDigits _ (by decide)
  unfold str2Int64
  rw [hnul]
  unfold decimal
  by_cases hneg : n < 0
  · rw [if_pos hneg, List.dropWhile_cons_of_neg (by decide)]
    have hmag := magnitude_toDigits n.natAbs
    change max (-(2 ^ 63)) (min (2 ^ 63 - 1) (-magnitude (Nat.toDigits 10 n.natAbs))) = n
    rw [hmag]
    omega
  · rw [if_neg hneg]
    obtain ⟨c, cs, hdigits⟩ :=
      List.exists_cons_of_ne_nil (Nat.toDigits_ne_nil (n := n.natAbs) (b := 10))
    have hc : c.isDigit :=
      isDigit_toDigits (n := n.natAbs) c (by rw [hdigits]; exact List.mem_cons_self)
    have hspace : ¬isSpace c = true := by
      intro hspace
      simp only [isSpace, Bool.or_eq_true, decide_eq_true_eq] at hspace
      rcases hspace with ((((rfl | rfl) | rfl) | rfl) | rfl) | rfl <;> exact absurd hc (by decide)
    have hmag := magnitude_toDigits n.natAbs
    rw [hdigits] at hmag ⊢
    rw [List.dropWhile_cons_of_neg hspace]
    split
    · next rest heq =>
      cases heq
      exact absurd hc (by decide)
    · next rest heq =>
      cases heq
      exact absurd hc (by decide)
    · rw [hmag]
      omega

end Numbers

structure WebSession where
  user : Text
  pass : Text
  lang : Text
  cid : Int
  sessionid : Int
  deriving DecidableEq, Repr

/-- The reply to a login and the sessions after it; `ws` is the address of the
record made for a session, `url` the page of the configuration. -/
def processPLogin (url : Text) (E : Env) (db : FleetDB) (ws : Int) (lgn : CLogin)
    (webSessions : List WebSession) : CLogin × List WebSession :=
  let v := (validateWebClient E { user := lgn.user, pass := lgn.pass } db.start).1
  if v.1 then
    ({ lgn with
        user := v.2.user, pass := url ++ ("?si=" : Text) ++ decimal ws
        cid := v.2.cid, si := ws, res := 2 },
      webSessions ++ [⟨v.2.user, v.2.pass, "en", v.2.cid, ws⟩])
  else ({ lgn with user := "NO", pass := "NO", cid := -1, res := 1 }, webSessions)

/-- A session is identified by its record. -/
def getWebSessionByID (webSessions : List WebSession) (pws : Int) : Option WebSession :=
  webSessions.find? (·.sessionid = pws)

/-- The first session of a name and a client. -/
def ofUser (user : Text) (cid : Int) (v : WebSession) : Bool := v.user = user ∧ v.cid = cid

/-- `none` is the reply `*`. -/
def processWebPageOnload (webSessions : List WebSession) (user : Text) : Option CLogin :=
  let siLong := str2Int64 user
  (getWebSessionByID webSessions siLong).map fun si =>
    { user := si.user, pass := "***", cid := si.cid, si := siLong, res := 2, lang := "en" }

def processWebPageOnUnload (webSessions : List WebSession) (user : Text) (cid : Int) :
    List WebSession :=
  match webSessions.findIdx? (ofUser user cid) with
  | some index => webSessions.eraseIdx index
  | none => webSessions

/-- A login as the browser keeps it, and whether it has left the page
since. -/
structure Received where
  browser : Nat
  si : Int
  user : Text
  cid : Int
  unloaded : Bool
  deriving DecidableEq, Repr

/-- The sessions of the server and what every login gave its browser, oldest
first. -/
structure Pages where
  webSessions : List WebSession
  received : List Received

def Pages.start : Pages := ⟨[], []⟩

/-- What the browsers ask for. A page sends its ID in decimal. -/
inductive PageCall where
  | login (browser : Nat) (E : Env) (db : FleetDB) (lgn : CLogin) (ws : Int)
  | load (si : Int64)
  | unload (browser : Nat)

inductive PageReply where
  | login (lgn : CLogin)
  | load (lgn : Option CLogin)
  | unload

/-- What a browser got at its last login. -/
def Pages.latest (p : Pages) (browser : Nat) : Option Received :=
  p.received.reverse.find? (·.browser = browser)

def Received.leave (browser : Nat) (r : Received) : Received :=
  if r.browser = browser then { r with unloaded := true } else r

/-- A login that is let in gives its browser the ID, the name and the
client. -/
def Pages.login (url : Text) (p : Pages) (browser : Nat) (E : Env) (db : FleetDB) (lgn : CLogin)
    (ws : Int) : Pages :=
  let r := processPLogin url E db ws lgn p.webSessions
  if r.1.res = 2 then ⟨r.2, p.received ++ [⟨browser, r.1.si, r.1.user, r.1.cid, false⟩]⟩
  else ⟨r.2, p.received⟩

/-- A browser leaves with the name and the client of its last login. -/
def Pages.unload (p : Pages) (browser : Nat) : Pages :=
  match p.latest browser with
  | some r => ⟨processWebPageOnUnload p.webSessions r.user r.cid,
      p.received.map (Received.leave browser)⟩
  | none => p

def PageCall.exec (url : Text) (p : Pages) : PageCall → Pages × PageReply
  | .login browser E db lgn ws =>
    (p.login url browser E db lgn ws, .login (processPLogin url E db ws lgn p.webSessions).1)
  | .load si => (p, .load (processWebPageOnload p.webSessions (decimal si.toInt)))
  | .unload browser => (p.unload browser, .unload)

/-- Where a call is: in `push_back`, which looks where the sessions end and then
puts the new one there, in the loop of `GetWebSessionByID` or `GetWebSession`,
which reads the size once, or in `removeItemAtIndex`. -/
inductive PagePoint where
  | ending
  | pushing (size : Nat)
  | sizing
  | searching (size index : Nat)
  | leaving (user : Text) (cid : Int) (size index : Nat)
  | removing (index : Nat)

/-- The calls step by step, a session looked at in each. -/
def pageCalls (url : Text) : Procedure Pages PageCall PagePoint PageReply where
  enter
    | .login .. => .ending
    | _ => .sizing
  go
    | .login browser E db lgn ws, p, .pushing size =>
      -- the reply and the new session do not depend on the others
      let r := processPLogin url E db ws lgn []
      (⟨p.webSessions.take size ++ r.2,
        p.received ++ [⟨browser, r.1.si, r.1.user, r.1.cid, false⟩]⟩, .back (.login r.1))
    | .login _ E db lgn ws, p, _ =>
      let r := processPLogin url E db ws lgn []
      if r.1.res = 2 then (p, .on (.pushing p.webSessions.length))
      else (p, .back (.login r.1))
    | .load si, p, .searching size index =>
      if index < size then
        match p.webSessions[index]? with
        | some v =>
          if v.sessionid = str2Int64 (decimal si.toInt) then
            (p, .back (.load (some
              { user := v.user, pass := "***", cid := v.cid
                si := str2Int64 (decimal si.toInt), res := 2, lang := "en" })))
          else (p, .on (.searching size (index + 1)))
        | none => (p, .on (.searching size (index + 1)))
      else (p, .back (.load none))
    | .load _, p, _ => (p, .on (.searching p.webSessions.length 0))
    | .unload browser, p, .removing index =>
      (⟨p.webSessions.eraseIdx index, p.received.map (Received.leave browser)⟩, .back .unload)
    | .unload browser, p, .leaving user cid size index =>
      if index < size then
        match p.webSessions[index]? with
        | some v =>
          if ofUser user cid v then (p, .on (.removing index))
          else (p, .on (.leaving user cid size (index + 1)))
        | none => (p, .on (.leaving user cid size (index + 1)))
      else (⟨p.webSessions, p.received.map (Received.leave browser)⟩, .back .unload)
    | .unload browser, p, _ =>
      match p.latest browser with
      | some r => (p, .on (.leaving r.user r.cid p.webSessions.length 0))
      | none => (p, .back .unload)

/-- A load looks and changes nothing. -/
def PageCall.reads : PageCall → Bool
  | .load _ => true
  | _ => false

/-- The logins whose browser has not left since. -/
def Pages.live (p : Pages) : List Received := p.received.filter (!·.unloaded)

/-- What loading a page has to do. -/
def LoadRight (p : Pages) (si : Int64) (reply : Option CLogin) : Prop :=
  (reply.isSome ↔ ∃ r ∈ p.live, r.si = si.toInt) ∧
  ∀ l, reply = some l → ∃ r ∈ p.live, r.si = si.toInt ∧ l.cid = r.cid ∧ l.user = r.user

/-- The allocator gives a record an address no record still there has, and
records are never freed. -/
def NewAddress (p : Pages) : PageCall → Prop
  | .login _ _ _ _ ws => ws ∉ p.received.map Received.si
  | _ => True

/-- The session a browser's leaving takes is its only one, or there is none to
take and it has none. -/
def LeavesOwn (p : Pages) : PageCall → Prop
  | .unload browser => ∀ r ∈ p.latest browser,
    (p.live.filter (·.browser = browser)).map Received.si =
      ((p.webSessions.find? (ofUser r.user r.cid)).map WebSession.sessionid).toList
  | _ => True

instance (p : Pages) : (c : PageCall) → Decidable (NewAddress p c)
  | .login _ _ _ _ _ => inferInstanceAs (Decidable (_ ∉ _))
  | .load _ | .unload _ => inferInstanceAs (Decidable True)

instance (p : Pages) : (c : PageCall) → Decidable (LeavesOwn p c)
  | .unload browser => inferInstanceAs (Decidable (∀ r ∈ p.latest browser, _ = _))
  | .login .. | .load _ => inferInstanceAs (Decidable True)

/-- What a session and the login it was made by have in common. -/
def Received.key (r : Received) : Int × Text × Int := (r.si, r.user, r.cid)

def WebSession.key (v : WebSession) : Int × Text × Int := (v.sessionid, v.user, v.cid)

/-- The sessions are those of the logins not left, and no two logins got one
ID. -/
structure Mirrored (p : Pages) : Prop where
  same : p.webSessions.map WebSession.key = p.live.map Received.key
  distinct : (p.received.map Received.si).Nodup

section Steps

variable {p : Pages} {url : Text}

theorem Mirrored.live_of_session (h : Mirrored p) {v : WebSession} (hv : v ∈ p.webSessions) :
    ∃ r ∈ p.live, r.key = v.key := by
  have hmem : v.key ∈ p.live.map Received.key := by
    rw [← h.same]
    exact List.mem_map.mpr ⟨v, hv, rfl⟩
  exact List.mem_map.mp hmem

theorem Mirrored.session_of_live (h : Mirrored p) {r : Received} (hr : r ∈ p.live) :
    ∃ v ∈ p.webSessions, v.key = r.key := by
  have hmem : r.key ∈ p.webSessions.map WebSession.key := by
    rw [h.same]
    exact List.mem_map.mpr ⟨r, hr, rfl⟩
  exact List.mem_map.mp hmem

/-- A page loads with the IDs of the logins not left, and shows theirs. -/
theorem Mirrored.load (h : Mirrored p) (si : Int64) :
    LoadRight p si (processWebPageOnload p.webSessions (decimal si.toInt)) := by
  have hsi : str2Int64 (decimal si.toInt) = si.toInt :=
    str2Int64_decimal ⟨Int64.le_toInt si, Int64.toInt_lt si⟩
  unfold LoadRight processWebPageOnload getWebSessionByID
  rw [hsi]
  constructor
  · rw [Option.isSome_map, List.find?_isSome]
    constructor
    · rintro ⟨v, hv, hid⟩
      obtain ⟨r, hr, hkey⟩ := h.live_of_session hv
      have hrsi : r.si = v.sessionid := congrArg Prod.fst hkey
      exact ⟨r, hr, hrsi.trans (of_decide_eq_true hid)⟩
    · rintro ⟨r, hr, hid⟩
      obtain ⟨v, hv, hkey⟩ := h.session_of_live hr
      have hvsi : v.sessionid = r.si := congrArg Prod.fst hkey
      exact ⟨v, hv, decide_eq_true (hvsi.trans hid)⟩
  · intro l hl
    obtain ⟨v, hfind, rfl⟩ := Option.map_eq_some_iff.mp hl
    obtain ⟨r, hr, hkey⟩ := h.live_of_session (List.mem_of_find?_eq_some hfind)
    have hid : v.sessionid = si.toInt := by simpa using List.find?_some hfind
    have hrsi : r.si = v.sessionid := congrArg Prod.fst hkey
    have huser : r.user = v.user := congrArg (fun k => k.2.1) hkey
    have hcid : r.cid = v.cid := congrArg (fun k => k.2.2) hkey
    exact ⟨r, hr, hrsi.trans hid, hcid.symm, huser.symm⟩

theorem Mirrored.login (h : Mirrored p) (browser : Nat) (E : Env) (db : FleetDB) (lgn : CLogin)
    {ws : Int} (hws : ws ∉ p.received.map Received.si) :
    Mirrored (p.login url browser E db lgn ws) := by
  unfold Pages.login processPLogin
  by_cases hvalid : (validateWebClient E { user := lgn.user, pass := lgn.pass } db.start).1.1
  · simp only [if_pos hvalid]
    rw [if_pos trivial]
    constructor
    · have hsame := h.same
      unfold Pages.live at hsame ⊢
      rw [List.map_append, hsame, List.filter_append, List.map_append]
      rfl
    · rw [List.map_append]
      refine List.nodup_append.mpr ⟨h.distinct, by simp, ?_⟩
      intro a ha b hb heq
      have hb' : b = ws := List.mem_singleton.mp hb
      rw [heq, hb'] at ha
      exact hws ha
  · simp only [if_neg hvalid]
    exact h

theorem Received.leave_si (browser : Nat) (r : Received) : (r.leave browser).si = r.si := by
  unfold Received.leave
  split <;> rfl

/-- The logins not left once a browser has left. -/
theorem filter_leave (browser : Nat) (rs : List Received) :
    (rs.map (Received.leave browser)).filter (!·.unloaded) =
      (rs.filter (!·.unloaded)).filter (·.browser ≠ browser) := by
  induction rs with
  | nil => rfl
  | cons r rs ih =>
    by_cases hb : r.browser = browser
    · cases hu : r.unloaded <;> simp [Received.leave, hb, hu, ih]
    · cases hu : r.unloaded <;> simp [Received.leave, hb, hu, ih]

/-- Taking out the first session a condition finds takes out the one of its
ID. -/
theorem eraseP_eq_filter {rows : List WebSession} {f : WebSession → Bool} {v : WebSession}
    (hdistinct : (rows.map WebSession.sessionid).Nodup) (hv : rows.find? f = some v) :
    rows.eraseP f = rows.filter (·.sessionid ≠ v.sessionid) := by
  induction rows with
  | nil => cases hv
  | cons w rows ih =>
    rw [List.map_cons, List.nodup_cons] at hdistinct
    obtain ⟨hw, hrest⟩ := hdistinct
    by_cases hf : f w
    · rw [List.find?_cons_of_pos hf] at hv
      cases hv
      rw [List.eraseP_cons_of_pos hf, List.filter_cons_of_neg (by simp)]
      symm
      apply List.filter_eq_self.mpr
      intro q hq
      have hmem : q.sessionid ∈ rows.map WebSession.sessionid := List.mem_map_of_mem hq
      have hne : q.sessionid ≠ v.sessionid := fun heq => hw (heq ▸ hmem)
      simpa using hne
    · rw [List.find?_cons_of_neg hf] at hv
      have hne : w.sessionid ≠ v.sessionid := fun heq =>
        hw (heq ▸ List.mem_map.mpr ⟨v, List.mem_of_find?_eq_some hv, rfl⟩)
      rw [List.eraseP_cons_of_neg hf, List.filter_cons_of_pos (by simpa using hne), ih hrest hv]

theorem processWebPageOnUnload_eq (webSessions : List WebSession) (user : Text) (cid : Int) :
    processWebPageOnUnload webSessions user cid = webSessions.eraseP (ofUser user cid) := by
  rw [List.eraseP_eq_eraseIdx]
  unfold processWebPageOnUnload
  cases webSessions.findIdx? (ofUser user cid) <;> rfl

/-- When a browser has one login not left, that is the one of its ID. -/
theorem owns_iff {live : List Received} {browser : Nat} {v : WebSession}
    (hdistinct : (live.map Received.si).Nodup)
    (hids : (live.filter (·.browser = browser)).map Received.si =
      ((some v).map WebSession.sessionid).toList) {q : Received} (hq : q ∈ live) :
    q.browser = browser ↔ q.si = v.sessionid := by
  constructor
  · intro hb
    have hmem : q.si ∈ (live.filter (·.browser = browser)).map Received.si :=
      List.mem_map_of_mem (List.mem_filter.mpr ⟨hq, decide_eq_true hb⟩)
    rw [hids] at hmem
    exact List.mem_singleton.mp hmem
  · intro hsi
    have hmem : v.sessionid ∈ (live.filter (·.browser = browser)).map Received.si := by
      rw [hids]
      exact List.mem_singleton_self _
    obtain ⟨q', hq', hsi'⟩ := List.mem_map.mp hmem
    obtain ⟨hlive, hb⟩ := List.mem_filter.mp hq'
    have heq : q' = q := List.inj_on_of_nodup_map hdistinct hlive hq (hsi'.trans hsi.symm)
    rw [← heq]
    exact of_decide_eq_true hb

theorem Mirrored.unload (h : Mirrored p) {browser : Nat}
    (hown : LeavesOwn p (.unload browser)) : Mirrored (p.unload browser) := by
  unfold Pages.unload
  cases hlatest : p.latest browser with
  | none => exact h
  | some r =>
    have hids := hown r hlatest
    have hlive : Pages.live ⟨processWebPageOnUnload p.webSessions r.user r.cid,
        p.received.map (Received.leave browser)⟩ = p.live.filter (·.browser ≠ browser) :=
      filter_leave browser p.received
    have hsi : (p.received.map (Received.leave browser)).map Received.si =
        p.received.map Received.si := by
      rw [List.map_map]
      exact List.map_congr_left fun r _ => r.leave_si browser
    have hnodup : (p.live.map Received.si).Nodup :=
      h.distinct.sublist (List.filter_sublist.map Received.si)
    refine ⟨?_, hsi ▸ h.distinct⟩
    refine Eq.trans ?_ (congrArg (List.map Received.key) hlive).symm
    dsimp only
    rw [processWebPageOnUnload_eq]
    cases hfind : p.webSessions.find? (ofUser r.user r.cid) with
    | none =>
      rw [hfind] at hids
      have hnone : p.live.filter (·.browser = browser) = [] := List.map_eq_nil_iff.mp hids
      rw [List.eraseP_of_forall_not fun v hv => List.find?_eq_none.mp hfind v hv, h.same]
      congr 1
      symm
      apply List.filter_eq_self.mpr
      intro q hq
      simpa using List.filter_eq_nil_iff.mp hnone q hq
    | some v =>
      rw [hfind] at hids
      have hids' : p.webSessions.map WebSession.sessionid = p.live.map Received.si := by
        have hsame := congrArg (List.map Prod.fst) h.same
        rwa [List.map_map, List.map_map] at hsame
      rw [eraseP_eq_filter (hids' ▸ hnodup) hfind]
      have hlive' : p.live.filter (·.browser ≠ browser) = p.live.filter (·.si ≠ v.sessionid) :=
        List.filter_congr fun q hq => by simp [owns_iff hnodup hids hq]
      rw [hlive']
      have hfilter := congrArg (List.filter (·.1 ≠ v.sessionid)) h.same
      rwa [List.filter_map, List.filter_map] at hfilter

theorem Mirrored.step {c : PageCall} (h : Mirrored p) (hnew : NewAddress p c)
    (hown : LeavesOwn p c) : Mirrored (c.exec url p).1 := by
  cases c with
  | login browser E db lgn ws => exact h.login browser E db lgn hnew
  | load si => exact h
  | unload browser => exact h.unload hown

end Steps

section Calls

variable (url : Text)

theorem processPLogin_append (E : Env) (db : FleetDB) (ws : Int) (lgn : CLogin)
    (webSessions : List WebSession) :
    processPLogin url E db ws lgn webSessions =
      ((processPLogin url E db ws lgn []).1,
        webSessions ++ (processPLogin url E db ws lgn []).2) := by
  unfold processPLogin
  dsimp only
  split
  · rfl
  · rw [List.append_nil]

/-- A login that is not let in makes no session. -/
theorem processPLogin_refused {E : Env} {db : FleetDB} {ws : Int} {lgn : CLogin}
    (h : (processPLogin url E db ws lgn []).1.res ≠ 2) :
    (processPLogin url E db ws lgn []).2 = [] := by
  unfold processPLogin at h ⊢
  dsimp only at h ⊢
  split at h
  · exact absurd rfl h
  · next hv => rw [if_neg hv]

theorem login_ends (browser : Nat) (E : Env) (db : FleetDB) (lgn : CLogin) (ws : Int)
    (p : Pages) :
    (pageCalls url).Ends (.login browser E db lgn ws)
      ((PageCall.login browser E db lgn ws).exec url p) p .ending := by
  have happend := processPLogin_append url E db ws lgn p.webSessions
  by_cases hres : (processPLogin url E db ws lgn []).1.res = 2
  · apply Procedure.Ends.on (p := p) (l := .pushing p.webSessions.length)
    · unfold pageCalls
      simp only [if_pos hres]
    · apply Procedure.Ends.back
      unfold PageCall.exec Pages.login pageCalls
      simp only [happend, if_pos hres, List.take_length]
  · have hnone := processPLogin_refused url hres
    apply Procedure.Ends.back
    unfold PageCall.exec Pages.login pageCalls
    simp only [happend, if_neg hres, hnone, List.append_nil]

theorem load_ends (si : Int64) (p : Pages) :
    (pageCalls url).Ends (.load si) ((PageCall.load si).exec url p) p .sizing := by
  apply Procedure.Ends.on (p := p) (l := .searching p.webSessions.length 0) rfl
  apply Procedure.Ends.search p.webSessions (·.sessionid = str2Int64 (decimal si.toInt))
    (PagePoint.searching p.webSessions.length)
  · intro i v hat hv
    have hi : i < p.webSessions.length := (List.getElem?_eq_some_iff.mp hat).1
    unfold pageCalls
    simp only [if_pos hi, hat, if_neg hv]
  · intro before v after hsessions hat hbefore hv
    have hi : before.length < p.webSessions.length := (List.getElem?_eq_some_iff.mp hat).1
    have hfind : getWebSessionByID p.webSessions (str2Int64 (decimal si.toInt)) = some v := by
      unfold getWebSessionByID
      rw [hsessions, List.find?_append, List.find?_eq_none.mpr (by simpa using hbefore),
        Option.none_or, List.find?_cons_of_pos (by simpa using hv)]
    apply Procedure.Ends.back
    unfold PageCall.exec processWebPageOnload pageCalls
    simp only [if_pos hi, hat, if_pos hv, hfind, Option.map_some]
  · intro hnone
    have hfind : getWebSessionByID p.webSessions (str2Int64 (decimal si.toInt)) = none :=
      List.find?_eq_none.mpr (by simpa using hnone)
    apply Procedure.Ends.back
    unfold PageCall.exec processWebPageOnload pageCalls
    simp only [lt_irrefl, ↓reduceIte, hfind, Option.map_none]

theorem unload_ends (browser : Nat) (p : Pages) :
    (pageCalls url).Ends (.unload browser) ((PageCall.unload browser).exec url p) p .sizing := by
  cases hlatest : p.latest browser with
  | none =>
    apply Procedure.Ends.back
    unfold PageCall.exec Pages.unload pageCalls
    simp only [hlatest]
  | some r =>
    apply Procedure.Ends.on (p := p) (l := .leaving r.user r.cid p.webSessions.length 0)
    · unfold pageCalls
      simp only [hlatest]
    apply Procedure.Ends.search p.webSessions (ofUser r.user r.cid ·)
      (PagePoint.leaving r.user r.cid p.webSessions.length)
    · intro i v hat hv
      have hi : i < p.webSessions.length := (List.getElem?_eq_some_iff.mp hat).1
      unfold pageCalls
      simp only [if_pos hi, hat, if_neg hv]
    · intro before v after hsessions hat hbefore hv
      have hi : before.length < p.webSessions.length := (List.getElem?_eq_some_iff.mp hat).1
      have hfind : p.webSessions.findIdx? (ofUser r.user r.cid) = some before.length := by
        rw [hsessions, List.findIdx?_append, List.findIdx?_eq_none_iff.mpr (by simpa using hbefore),
          List.findIdx?_cons, if_pos hv]
        simp
      apply Procedure.Ends.on (p := p) (l := .removing before.length)
      · unfold pageCalls
        simp only [if_pos hi, hat, if_pos hv]
      · apply Procedure.Ends.back
        unfold PageCall.exec Pages.unload processWebPageOnUnload pageCalls
        simp only [hlatest, hfind]
    · intro hnone
      have hfind : p.webSessions.findIdx? (ofUser r.user r.cid) = none :=
        List.findIdx?_eq_none_iff.mpr (by simpa using hnone)
      apply Procedure.Ends.back
      unfold PageCall.exec Pages.unload processWebPageOnUnload pageCalls
      simp only [lt_irrefl, ↓reduceIte, hlatest, hfind]

/-- A call that has the sessions to itself is the call in one piece. -/
theorem pageCalls_computes : (pageCalls url).Computes (PageCall.exec url) := by
  intro p c
  cases c with
  | login browser E db lgn ws => exact login_ends url browser E db lgn ws p
  | load si => exact load_ends url si p
  | unload browser => exact unload_ends url browser p

theorem pageCalls_reads (c : PageCall) (p : Pages) (k : PagePoint) (h : c.reads) :
    ((pageCalls url).go c p k).1 = p := by
  cases c with
  | load si =>
    unfold pageCalls
    cases k with
    | searching size index =>
      dsimp only
      split
      · split
        · split <;> rfl
        · rfl
      · rfl
    | _ => rfl
  | login browser E db lgn ws => exact Bool.noConfusion h
  | unload browser => exact Bool.noConfusion h

end Calls

/-- The page loads that return with a turn are right, and the calls under way
return when their threads go on. -/
def LoadsRightAt {n : Nat} (url : Text)
    (v : Visit (Threads n Pages PageCall PagePoint) (Turn n PageCall)) : Prop :=
  (∀ u reply si, v.before.returned (pageCalls url) v.event = some (u, reply) →
    u.call = .load si → ∃ l, reply = .load l ∧ LoadRight v.after.shared si l) ∧
  ∀ t, ∃ i, (run (Threads.step (pageCalls url)) v.after
    (List.replicate i (.go t))).inside t = none

/-- Over any run of steps of any number of workers in which no login or unload
is under way together with another call and every browser's leaving takes its
own session, a page loads exactly with the IDs of logins whose browser has not
left since, and shows the name and the client of that login. -/
theorem loads_right (url : Text) (n : Nat) (es : List (Turn n PageCall))
    (hnew : Meets (Threads.step (pageCalls url)) (Threads.Begins NewAddress) (.idle .start) es)
    (hapart : Meets (Threads.step (pageCalls url)) (Threads.Apart PageCall.reads)
      (.idle .start) es)
    (hown : Meets (Threads.step (pageCalls url)) (Threads.Begins LeavesOwn) (.idle .start) es) :
    ∀ v ∈ visits (Threads.step (pageCalls url)) (.idle .start) es, LoadsRightAt url v := by
  intro v hv
  have hok : Meets (Threads.step (pageCalls url))
      (Threads.Begins fun p c => NewAddress p c ∧ LeavesOwn p c) (.idle .start) es := by
    intro v hv
    have hfirst := hnew v hv
    have hsecond := hown v hv
    cases he : v.event with
    | call t c =>
      rw [he] at hfirst hsecond
      exact ⟨hfirst, hsecond⟩
    | go t => trivial
  have hstart : Mirrored .start := ⟨rfl, List.nodup_nil⟩
  obtain ⟨hreturned, hreturns⟩ := returns_whole (pageCalls_computes url) (pageCalls_reads url)
    (fun _ _ h hok => h.step hok.1 hok.2) hstart hapart hok hv
  refine ⟨fun u reply si hret hload => ?_, hreturns⟩
  obtain ⟨hmirrored, _, hwhole, hsame⟩ := hreturned u reply hret
  rw [hload] at hwhole hsame
  refine ⟨_, (congrArg Prod.snd hwhole).symm, ?_⟩
  rw [← hsame rfl]
  exact hmirrored.load si

/-- The fleet with client 2601, Ann. -/
def annOnly : FleetDB :=
  (insertNewClient .calm (clientNamed "ann" "pw") FleetDB.created.start).2.state

/-- Ann logs in. -/
def annLogin (browser : Nat) (ws : Int) : PageCall :=
  .login browser .calm annOnly { user := "ann", pass := "pw" } ws

/-- Ann's two browsers load their pages at the same time, and leave in the order
they came. -/
def twoBrowsers : List (Turn 2 PageCall) :=
  Turn.whole 0 (annLogin 1 4096) 2 ++ Turn.whole 1 (annLogin 2 8192) 2 ++
    [.call 0 (.load 4096), .call 1 (.load 8192), .go 0, .go 1, .go 1, .go 0, .go 1] ++
    Turn.whole 1 (.unload 1) 3 ++ Turn.whole 0 (.load 8192) 2 ++ Turn.whole 0 (.load 4096) 3 ++
    Turn.whole 1 (.unload 2) 3

theorem loads_right_ann :
    (visits (Threads.step (pageCalls [])) (.idle .start) twoBrowsers).Forall
      (LoadsRightAt []) := by
  apply List.forall_iff_forall_mem.mpr
  apply loads_right
  · unfold Meets
    decide +kernel
  · unfold Meets
    decide +kernel
  · unfold Meets
    decide +kernel

/-- A page that does not load though its ID is of a login not left. -/
theorem not_loadsRight {n : Nat} {url : Text} {es : List (Turn n PageCall)} {t : Fin n}
    {found : Pages} {point : PagePoint} (si : Int64)
    (hret : (run (Threads.step (pageCalls url)) (.idle .start) es).returned (pageCalls url)
      (.go t) = some (⟨.load si, found, point⟩, .load none))
    (hlive : ∃ r ∈ (run (Threads.step (pageCalls url)) (.idle .start) (es ++ [.go t])).shared.live,
      r.si = si.toInt) :
    ¬∀ v ∈ visits (Threads.step (pageCalls url)) (.idle .start) (es ++ [.go t]),
      LoadsRightAt url v := by
  intro h
  obtain ⟨l, hl, hright⟩ := (h _ (last_visit_mem _ es (.go t))).1 _ _ si hret rfl
  cases hl
  rw [run_append] at hlive
  exact Bool.noConfusion (hright.1.mpr hlive)

/-- The fleet with Ann and Bob. -/
def annAndBob : FleetDB :=
  (insertNewClient .calm (clientNamed "bob" "pw") annOnly.start).2.state

def bobLogin (browser : Nat) (ws : Int) : PageCall :=
  .login browser .calm annAndBob { user := "bob", pass := "pw" } ws

/-- Two browsers of one client: the second to log in leaves, and the first asks
for its page. -/
def oneClient : List (Turn 1 PageCall) :=
  Turn.whole 0 (annLogin 1 4096) 2 ++ Turn.whole 0 (annLogin 2 8192) 2 ++
    Turn.whole 0 (.unload 2) 3 ++ Turn.whole 0 (.load 4096) 2

/-- Ann leaves with one browser while Bob leaves, each having found its own
session, and Ann's other browser asks for its page. -/
def leavingAtOnce : List (Turn 2 PageCall) :=
  Turn.whole 0 (annLogin 1 4096) 2 ++ Turn.whole 0 (bobLogin 2 8192) 2 ++
    Turn.whole 0 (annLogin 3 12288) 2 ++
    [.call 0 (.unload 1), .call 1 (.unload 2), .go 0, .go 0, .go 1, .go 1, .go 1, .go 0, .go 1] ++
    Turn.whole 0 (.load 12288) 2

/-- The session of the first browser goes with the second, and that of the
third with the first two. -/
theorem leaving_takes_anothers_session :
    (¬∀ v ∈ visits (Threads.step (pageCalls [])) (.idle .start) (oneClient ++ [.go 0]),
      LoadsRightAt [] v) ∧
    ¬∀ v ∈ visits (Threads.step (pageCalls [])) (.idle .start) (leavingAtOnce ++ [.go 0]),
      LoadsRightAt [] v :=
  ⟨not_loadsRight 4096 rfl ⟨⟨1, 4096, "ann", 2601, false⟩, by decide +kernel, rfl⟩,
    not_loadsRight 12288 rfl ⟨⟨3, 12288, "ann", 2601, false⟩, by decide +kernel, rfl⟩⟩

end UCLinux.Fleet
