import UCLinux.Sip.Calls

/-!
The users that are registered. A REGISTER binds the user its contact names to
the address it came from, or takes the binding off when it expires at once.
The user is cut out of the contact by the first colon and the first semicolon
of the whole text, which need not be those around it.
-/

namespace UCLinux.Sip

open Sql Machine
open Ocpp (numberOf)

section Contacts

/-- A contact that names a user of a host, in brackets or not. A display name
stands with what separates it from the bracket. -/
structure Contact where
  display : Text := []
  bracketed : Bool := true
  user : Text
  host : Text
  port : Text
  uriParams : List Text := []
  params : List Text := []
  named : user ≠ []
  plain : ':' ∉ user ∧ '@' ∉ user
  hostPort : ';' ∉ host ++ port
  shown : display ≠ [] → bracketed

def paramsText (params : List Text) : Text := (params.map fun p => ';' :: p).flatten

def Contact.text (c : Contact) : Text :=
  if c.bracketed then
    c.display ++ "<sip:" ++ c.user ++ "@" ++ c.host ++ ":" ++ c.port ++
      paramsText c.uriParams ++ ">" ++ paramsText c.params
  else "sip:" ++ c.user ++ "@" ++ c.host ++ ":" ++ c.port ++ paramsText (c.uriParams ++ c.params)

/-- The first colon and the first semicolon do not cut the user. -/
structure Contact.CutsUser (c : Contact) : Prop where
  colon : ':' ∉ c.display
  semicolon : ';' ∈ c.display ∨ ';' ∉ c.user ∧ (c.uriParams ≠ [] ∨ c.params ≠ [])

instance (c : Contact) : Decidable c.CutsUser :=
  decidable_of_iff (':' ∉ c.display ∧
      (';' ∈ c.display ∨ ';' ∉ c.user ∧ (c.uriParams ≠ [] ∨ c.params ≠ [])))
    ⟨fun h => ⟨h.1, h.2⟩, fun h => ⟨h.1, h.2⟩⟩

theorem mem_paramsText {params : List Text} (h : params ≠ []) : ';' ∈ paramsText params := by
  cases params with
  | nil => exact absurd rfl h
  | cons p params => exact List.mem_cons_self

/-- The user between what is before its colon and what is behind its `@`. -/
theorem Contact.text_parts (c : Contact) : ∃ a tail,
    c.text = (c.display ++ a) ++ ':' :: (c.user ++ '@' :: tail) ∧ ':' ∉ a ∧ ';' ∉ a ∧
      (c.uriParams ≠ [] ∨ c.params ≠ [] → ';' ∈ tail) := by
  unfold Contact.text
  by_cases hbracketed : c.bracketed
  · rw [if_pos hbracketed]
    refine ⟨"<sip", c.host ++ ":" ++ c.port ++ paramsText c.uriParams ++ ">" ++
      paramsText c.params, ?_, by decide, by decide, ?_⟩
    · simp
    · rintro (huri | hparams)
      · exact List.mem_append_left _ (List.mem_append_left _
          (List.mem_append_right _ (mem_paramsText huri)))
      · exact List.mem_append_right _ (mem_paramsText hparams)
  · have hdisplay : c.display = [] := by
      by_contra hne
      exact hbracketed (c.shown hne)
    rw [if_neg hbracketed, hdisplay]
    refine ⟨"sip", c.host ++ ":" ++ c.port ++ paramsText (c.uriParams ++ c.params), ?_,
      by decide, by decide, ?_⟩
    · simp
    · intro hsome
      apply List.mem_append_right
      apply mem_paramsText
      simpa [List.append_eq_nil_iff, imp_iff_not_or] using hsome

theorem Contact.contactNumber_eq {c : Contact} (h : c.CutsUser) :
    contactNumber c.text = c.user := by
  obtain ⟨a, tail, htext, hcolon, hsemicolon, htail⟩ := c.text_parts
  have hfirst : ':' ∉ c.display ++ a := fun hc => (List.mem_append.mp hc).elim h.colon hcolon
  have hnumber {b : Text} (hcut : extractSubStr c.text ":" ";" = c.user ++ '@' :: b) :
      contactNumber c.text = c.user := by
    unfold contactNumber
    rw [hcut]
    exact beforeFirst_append c.plain.2
  rw [htext] at hnumber
  rw [htext]
  by_cases hdisplay : ';' ∈ c.display
  · exact hnumber (extractSubStr_crossed hfirst (List.mem_append_left _ hdisplay))
  · obtain ⟨huser, hparams⟩ := h.semicolon.resolve_left hdisplay
    obtain ⟨t, b, rfl, ht⟩ := exists_first (htail hparams)
    have hsplit : c.user ++ '@' :: (t ++ ';' :: b) = (c.user ++ '@' :: t) ++ ';' :: b := by simp
    apply hnumber (b := t)
    rw [hsplit]
    apply extractSubStr_between hfirst
    simp [hdisplay, hsemicolon, huser, ht]

end Contacts

section Registrations

/-- A REGISTER with a contact of this form. -/
structure Registration where
  strm : SipStream
  req : Request
  contact : Contact
  kind : messageKind req.line1 = some .register
  shown : req.sr.contact = contact.text

namespace Registration

def address (r : Registration) : Text × Nat := (r.strm.clientIP, r.strm.clientPort)

/-- The number its Expires is. -/
def expires (r : Registration) : Option Int := numberOf (trim r.req.sr.expireStr)

/-- It binds its user or takes the binding off. -/
def Decides (r : Registration) : Prop := ∃ n ∈ r.expires, 0 ≤ n

instance (r : Registration) : Decidable r.Decides :=
  inferInstanceAs (Decidable (∃ n ∈ r.expires, _))

def binding (r : Registration) : Option (Text × Nat) :=
  if ∃ n ∈ r.expires, 0 < n then some r.address else none

/-- The handler reads the Expires and the user as they are. -/
structure Sound (r : Registration) : Prop where
  sane : r.req.Sane
  expires : ∀ n ∈ r.expires, n < 2 ^ 31
  unread : r.expires = none → strToInt (trim r.req.sr.expireStr) < 0
  contact : r.Decides → r.contact.CutsUser

instance (r : Registration) : Decidable r.Sound :=
  decidable_of_iff (r.req.Sane ∧ (∀ n ∈ r.expires, n < 2 ^ 31) ∧
      (r.expires = none → strToInt (trim r.req.sr.expireStr) < 0) ∧
      (r.Decides → r.contact.CutsUser))
    ⟨fun h => ⟨h.1, h.2.1, h.2.2.1, h.2.2.2⟩,
      fun h => ⟨h.sane, h.expires, h.unread, h.contact⟩⟩

end Registration

def ClientSipInfo.address (ci : ClientSipInfo) : Text × Nat := (ci.host, ci.port)

def SipServer.register (s : SipServer) (r : Registration) : SipServer := s.take ⟨r.strm, r.req⟩

/-- Where the users are reached. -/
def SipServer.addresses (s : SipServer) (user : Text) : Option (Text × Nat) :=
  (s.regClients user).map ClientSipInfo.address

/-- The last REGISTER that names the user and whose Expires is a number that
is not negative. -/
def lastFor (rs : List Registration) (user : Text) : Option Registration :=
  lastWriter Registration.Decides (·.contact.user) rs user

/-- The address a user is bound to: that of this REGISTER, unless it expires
at once. -/
def boundTo (rs : List Registration) (user : Text) : Option (Text × Nat) :=
  (lastFor rs user).bind Registration.binding

/-- The clients are the users that are bound, and a REGISTER changes its own
user only. -/
structure BindingsRight (rs : List Registration) : Prop where
  bound : ∀ user, (run SipServer.register SipServer.empty rs).addresses user = boundTo rs user
  others : ∀ v ∈ visits SipServer.register SipServer.empty rs,
    ∀ user ≠ v.event.contact.user, v.after.regClients user = v.before.regClients user

end Registrations

section Registering

variable {s : SipServer} {r : Registration}

theorem containSubstr_start {sub rest : Text} (h : sub ≠ []) :
    containSubstr (sub ++ rest) sub := by
  unfold containSubstr
  cases hsub : sub ++ rest with
  | nil => exact absurd (List.append_eq_nil_iff.mp hsub).1 h
  | cons c t =>
    have hprefix : sub.isPrefixOf (c :: t) := by
      rw [← hsub]
      exact List.isPrefixOf_iff_prefix.mpr (List.prefix_append _ _)
    rw [find, if_pos hprefix]
    rfl

/-- A REGISTER is dispatched as one. -/
theorem dispatch_register {line1 : Text} (h : messageKind line1 = some .register) :
    dispatch line1 = some .register := by
  have hword : line1.takeWhile (· ≠ ' ') = "REGISTER" := by
    by_contra hne
    unfold messageKind at h
    dsimp only at h
    rw [if_neg hne] at h
    repeat' split at h
    all_goals cases h
  have hline := List.takeWhile_append_dropWhile (p := fun c => decide (c ≠ ' ')) (l := line1)
  rw [hword] at hline
  have hcontains : containSubstr line1 "REGISTER" := by
    rw [← hline]
    exact containSubstr_start (by decide)
  unfold dispatch
  rw [if_pos hcontains]

theorem register_clients (hsane : r.req.Sane) : (s.register r).regClients =
    (processRegisterRequest s r.strm r.req.copied).1.regClients := by
  unfold SipServer.register SipServer.take
  rw [handle_dispatched s r.strm r.req hsane (dispatch_register r.kind)]
  rfl

theorem Registration.Sound.strToInt_eq (h : r.Sound) {n : Int} (hn : n ∈ r.expires)
    (hpos : 0 ≤ n) : strToInt (trim r.req.sr.expireStr) = n := by
  have hbound := h.expires n hn
  unfold strToInt
  rw [Ocpp.stoi_of_numberOf hn, if_pos ⟨by omega, hbound⟩]
  rfl

theorem Registration.Sound.strToInt_neg (h : r.Sound) (hr : ¬r.Decides) :
    strToInt (trim r.req.sr.expireStr) < 0 := by
  cases hn : r.expires with
  | none => exact h.unread hn
  | some n =>
    have hneg : n < 0 := by
      by_contra hpos
      exact hr ⟨n, hn, by omega⟩
    unfold strToInt
    rw [Ocpp.stoi_of_numberOf hn]
    split
    · exact hneg
    · decide

/-- The contact names the user it is cut for. -/
theorem Registration.Sound.number_eq (h : r.Sound) (hr : r.Decides) :
    contactNumber r.req.sr.contact = r.contact.user := by
  rw [r.shown]
  exact Contact.contactNumber_eq (h.contact hr)

theorem register_binds (h : r.Sound) {n : Int} (hn : n ∈ r.expires) (hpos : 0 < n) :
    (s.register r).regClients = Function.update s.regClients r.contact.user
      (some ⟨r.contact.user, r.strm.clientIP, r.strm.clientPort⟩) := by
  have hread : strToInt (trim r.req.copied.sr.expireStr) = n := h.strToInt_eq hn (by omega)
  have hnumber : contactNumber r.req.copied.sr.contact = r.contact.user :=
    h.number_eq ⟨n, hn, by omega⟩
  rw [register_clients h.sane]
  unfold processRegisterRequest
  dsimp only
  rw [hread, hnumber, if_pos hpos]

theorem register_unbinds (h : r.Sound) (hn : 0 ∈ r.expires) :
    (s.register r).regClients = Function.update s.regClients r.contact.user none := by
  have hread : strToInt (trim r.req.copied.sr.expireStr) = 0 := h.strToInt_eq hn (by omega)
  have hnumber : contactNumber r.req.copied.sr.contact = r.contact.user :=
    h.number_eq ⟨0, hn, by omega⟩
  rw [register_clients h.sane]
  unfold processRegisterRequest
  dsimp only
  rw [hread, hnumber, if_neg (by omega)]
  by_cases hbound : (s.regClients r.contact.user).isSome
  · rw [if_pos ⟨hbound, rfl⟩]
  · rw [if_neg fun hboth => hbound hboth.1]
    exact (Function.update_eq_self_iff.mpr (Option.not_isSome_iff_eq_none.mp hbound).symm).symm

/-- A REGISTER that decides writes the binding of its user. -/
theorem register_decides (h : r.Sound) (hr : r.Decides) : (s.register r).addresses =
    Function.update s.addresses r.contact.user r.binding := by
  have hupdate (v : Option ClientSipInfo) (hv : v.map ClientSipInfo.address = r.binding)
      (hs : (s.register r).regClients = Function.update s.regClients r.contact.user v) :
      (s.register r).addresses = Function.update s.addresses r.contact.user r.binding := by
    have hcomp := Function.comp_update (Option.map ClientSipInfo.address) s.regClients
      r.contact.user v
    rw [← hs, hv] at hcomp
    exact hcomp
  obtain ⟨n, hn, hle⟩ := hr
  by_cases hpos : 0 < n
  · exact hupdate _ (if_pos ⟨n, hn, hpos⟩).symm (register_binds h hn hpos)
  · have hzero : n = 0 := by omega
    have hnone : r.binding = none := by
      refine if_neg fun ⟨m, hm, hmpos⟩ => ?_
      have hsame : m = n := Option.some.inj (hm.symm.trans hn)
      omega
    exact hupdate none hnone.symm (register_unbinds h (hzero ▸ hn))

/-- Another one writes none. -/
theorem register_undecided (h : r.Sound) (hr : ¬r.Decides) :
    (s.register r).regClients = s.regClients := by
  have hneg := h.strToInt_neg hr
  rw [register_clients h.sane]
  unfold processRegisterRequest
  have hcopied : r.req.copied.sr = r.req.sr := rfl
  dsimp only
  rw [hcopied, if_neg (by omega), if_neg (by omega)]

/-- A REGISTER leaves the other users alone. -/
theorem register_others (h : r.Sound) {user : Text} (huser : user ≠ r.contact.user) :
    (s.register r).regClients user = s.regClients user := by
  by_cases hr : r.Decides
  · obtain ⟨n, hn, hle⟩ := hr
    by_cases hpos : 0 < n
    · rw [register_binds h hn hpos, Function.update_of_ne huser]
    · have hzero : n = 0 := by omega
      rw [register_unbinds h (hzero ▸ hn), Function.update_of_ne huser]
  · rw [register_undecided h hr]

theorem lastFor_elim (rs : List Registration) (user : Text) :
    (lastFor rs user).elim none Registration.binding = boundTo rs user := by
  unfold boundTo
  cases lastFor rs user <;> rfl

end Registering

section Samples

/-- A REGISTER of Bob's client, whose contact has these parameters. -/
def bobRegisters (params : List Text) (expires : Text) : Registration where
  strm := calleeStream
  req := {
    method := "REGISTER sip:h SIP/2.0\r\n"
    sr := {
      via := ["SIP/2.0/UDP b;branch=1"]
      fromHdr := "<sip:bob@h>"
      toHdr := "<sip:bob@h>"
      cid := "7@b"
      cseq := "1 REGISTER"
      contact := "<sip:bob@b:5060" ++ paramsText params ++ ">"
      expireStr := expires } }
  contact := {
    user := "bob"
    host := "b"
    port := "5060"
    uriParams := params
    named := by decide
    plain := by decide
    hostPort := by decide
    shown := fun h => absurd rfl h }
  kind := (by decide : messageKind (removeChars "REGISTER sip:h SIP/2.0\r\n" "\r\n") =
    some .register)
  shown := by simp [Contact.text, paramsText]

end Samples

end UCLinux.Sip
