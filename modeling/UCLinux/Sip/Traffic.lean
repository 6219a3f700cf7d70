import UCLinux.Machine.Run
import UCLinux.Sip.LineBuffers

/-!
What the server sends over a run of datagrams whose lines fit its buffers, whatever else
they hold. It answers the sender of a datagram, and otherwise forwards it to one address:
that from which the user who is named registered last. Nobody else hears of it, and nothing
else that came before matters.
-/

namespace UCLinux.Sip

open Sql Machine

section Runs

/-- A datagram and where it came from. -/
structure Datagram where
  strm : SipStream
  text : Text
  deriving DecidableEq, Repr

namespace Datagram

variable (d : Datagram)

def source : Text × Nat := (d.strm.clientIP, d.strm.clientPort)

/-- The request of the datagram, as its handler gets it. -/
def request : Option (Kind × Request) :=
  match readRequest (d.text.take maxLine) with
  | .ok req => if req.Sane then (dispatch req.line1).map fun kind => (kind, req.copied) else none
  | .error _ => none

/-- The user a REGISTER that is not refused binds, or takes the binding off. -/
def registration : Option (Text × Option ClientSipInfo) :=
  match d.request with
  | some (.register, req) =>
    let number := contactNumber req.sr.contact
    let expires := strToInt (trim req.sr.expireStr)
    if 0 < expires then some (number, some ⟨number, d.strm.clientIP, d.strm.clientPort⟩)
    else if expires = 0 then some (number, none)
    else none
  | _ => none

/-- The user a datagram is to be forwarded to. -/
def addressee : Option Text :=
  match d.request with
  | none => none
  | some (.register, _) => none
  | some (.invite, req) => some (extractSubStr req.method ":" "@")
  | some (.ok, req) | some (.ringing, req) | some (.terminated, req) | some (.busy, req) =>
    some (extractSubStr req.sr.fromHdr ":" "@")
  | some (.ack, req) | some (.bye, req) | some (.cancel, req) =>
    some (extractSubStr req.sr.toHdr ":" "@")

/-- The user of the registration. -/
def registers : Text := (d.registration.map Prod.fst).getD []

def binds : Option ClientSipInfo := d.registration.bind Prod.snd

end Datagram

def Sent.address (o : Sent) : Text × Nat := (o.host, o.port)

/-- The bytes of the datagram that are received. -/
def Datagram.received (d : Datagram) : Text := d.text.take maxLine

/-- Every line of the head fits its buffer. -/
def Datagram.Fits (d : Datagram) : Prop := HeadFits lineBuffer d.received

instance (d : Datagram) : Decidable d.Fits := inferInstanceAs (Decidable (HeadFits _ _))

def SipServer.serve (s : SipServer) (d : Datagram) : SipServer :=
  (processRequest s d.strm d.received).server

def SipServer.sends (s : SipServer) (d : Datagram) : List Sent :=
  (processRequest s d.strm d.received).sent

/-- The last datagram that registered the user. -/
def lastRegistration (ds : List Datagram) (user : Text) : Option Datagram :=
  lastWriter (fun d => d.registration.isSome) Datagram.registers ds user

/-- The datagram that the user is registered by: his last, unless it took him off. -/
def home (ds : List Datagram) (user : Text) : Option Datagram :=
  (lastRegistration ds user).filter fun d => d.binds.isSome

/-- A datagram that is read and makes no sense is refused, one that is not read is not
answered. -/
def Datagram.refusal (d : Datagram) : List Sent :=
  match readRequest (d.text.take maxLine) with
  | .ok req => if req.Sane then [] else [⟨d.strm.clientIP, d.strm.clientPort, .badRequest⟩]
  | .error _ => []

/-- A message goes to where its addressee is registered, an INVITE after the 100 to its
sender. -/
def Datagram.forwards (ds : List Datagram) (d : Datagram) (kind : Kind) (req : Request) :
    List Sent :=
  match d.addressee.bind (home ds) with
  | none => []
  | some d₀ =>
    (if kind = .invite then [⟨d.strm.clientIP, d.strm.clientPort, .message (TRYING_100 req)⟩]
      else []) ++
    [⟨d₀.strm.clientIP, d₀.strm.clientPort, .message (kind.message d.strm req)⟩]

/-- What there is to be sent for a datagram: a REGISTER is answered, anything else is
forwarded. -/
def Datagram.answers (ds : List Datagram) (d : Datagram) : List Sent :=
  match d.request with
  | none => d.refusal
  | some (kind, req) =>
    if kind = .register then
      [⟨d.strm.clientIP, d.strm.clientPort, .message ((registerReply req).message req.sr)⟩]
    else d.forwards ds kind req

end Runs

section Serving

variable {s : SipServer} {d : Datagram}

theorem serve_eq_receive (hfits : d.Fits) :
    (s.serve d, s.sends d) = receive s d.strm d.text := by
  have hlength : d.received.length ≤ maxLine := List.length_take_le ..
  have hsame : receive s d.strm d.received = receive s d.strm d.text := by
    unfold receive Datagram.received
    rw [List.take_take, Nat.min_self]
  exact (processRequest_eq_receive s d.strm hfits hlength).trans hsame

/-- A datagram without a request changes nothing and is refused at most. -/
theorem receive_of_none (h : d.request = none) : receive s d.strm d.text = (s, d.refusal) := by
  unfold receive Datagram.refusal
  unfold Datagram.request at h
  cases hread : readRequest (d.text.take maxLine) with
  | error e => rfl
  | ok req =>
    rw [hread] at h
    dsimp only at h ⊢
    by_cases hsane : req.Sane
    · rw [if_pos hsane, Option.map_eq_none_iff] at h
      rw [handle_undispatched s d.strm req hsane h, if_pos hsane]
    · rw [handle_refused s d.strm req hsane, if_neg hsane]

theorem receive_of_some {kind : Kind} {req : Request} (h : d.request = some (kind, req)) :
    receive s d.strm d.text = kind.process s d.strm req := by
  unfold Datagram.request at h
  unfold receive
  cases hread : readRequest (d.text.take maxLine) with
  | error e =>
    rw [hread] at h
    cases h
  | ok req' =>
    rw [hread] at h
    dsimp only at h ⊢
    by_cases hsane : req'.Sane
    · rw [if_pos hsane] at h
      obtain ⟨k, hdispatch, hpair⟩ := Option.map_eq_some_iff.mp h
      cases hpair
      exact handle_dispatched s d.strm req' hsane hdispatch
    · rw [if_neg hsane] at h
      cases h

theorem serve_of_none (hfits : d.Fits) (h : d.request = none) : s.serve d = s :=
  congrArg Prod.fst ((serve_eq_receive hfits).trans (receive_of_none h))

theorem serve_of_some (hfits : d.Fits) {kind : Kind} {req : Request}
    (h : d.request = some (kind, req)) : s.serve d = (kind.process s d.strm req).1 :=
  congrArg Prod.fst ((serve_eq_receive hfits).trans (receive_of_some h))

/-- Of the clients a datagram changes that which it registers. -/
theorem serve_registration (hfits : d.Fits) {user : Text} {ci : Option ClientSipInfo}
    (h : d.registration = some (user, ci)) :
    (s.serve d).regClients = Function.update s.regClients user ci := by
  unfold Datagram.registration at h
  split at h
  · rename_i req hreq
    rw [serve_of_some hfits hreq]
    dsimp only [Kind.process, processRegisterRequest] at h ⊢
    split at h
    · rename_i hpos
      cases h
      rw [if_pos hpos]
    · rename_i hnonpos
      split at h
      · rename_i hzero
        cases h
        rw [if_neg hnonpos]
        by_cases hbound : (s.regClients (contactNumber req.sr.contact)).isSome
        · rw [if_pos ⟨hbound, hzero⟩]
        · have hnone := Option.not_isSome_iff_eq_none.mp hbound
          rw [if_neg fun hboth => hbound hboth.1, ← hnone, Function.update_eq_self]
      · cases h
  · cases h

theorem recordCall_regClients (s : SipServer) (req : Request) (kind : Kind) :
    (kind.recordCall s req).regClients = s.regClients := by
  cases kind <;> rfl

theorem serve_no_registration (hfits : d.Fits) (h : d.registration = none) :
    (s.serve d).regClients = s.regClients := by
  cases hreq : d.request with
  | none => rw [serve_of_none hfits hreq]
  | some p =>
    obtain ⟨kind, req⟩ := p
    rw [serve_of_some hfits hreq]
    by_cases hkind : kind = .register
    · subst hkind
      unfold Datagram.registration at h
      rw [hreq] at h
      dsimp only [Kind.process, processRegisterRequest] at h ⊢
      split at h
      · cases h
      · rename_i hnonpos
        split at h
        · cases h
        · rename_i hnonzero
          rw [if_neg hnonpos, if_neg fun hboth => hnonzero hboth.2]
    · rw [process_apply s d.strm req hkind]
      cases kind.recipient s req with
      | none => rfl
      | some ci => exact recordCall_regClients s req kind

/-- The client a datagram is forwarded to is that of its addressee. -/
theorem recipient_eq {kind : Kind} {req : Request} (h : d.request = some (kind, req))
    (hkind : kind ≠ .register) : kind.recipient s req = d.addressee.bind s.regClients := by
  unfold Datagram.addressee
  rw [h]
  cases kind with
  | register => exact absurd rfl hkind
  | _ => rfl

end Serving

section Traffic

/-- Who is registered after a run of datagrams is said by the last one that registered
him. -/
theorem regClients_run {ds : List Datagram} (hfits : ∀ d ∈ ds, d.Fits) (user : Text) :
    (run SipServer.serve SipServer.empty ds).regClients user =
      (lastRegistration ds user).elim none Datagram.binds := by
  refine @run_lastWriter _ _ _ _ _ _ SipServer.regClients _ _ _ _ Datagram.Fits
    SipServer.empty ds hfits (fun s d hd hwrites => ?_) (fun s d hd hwrites => ?_) user
  · obtain ⟨⟨name, ci⟩, hreg⟩ := Option.isSome_iff_exists.mp hwrites
    rw [serve_registration hd hreg]
    unfold Datagram.registers Datagram.binds
    rw [hreg]
    rfl
  · exact serve_no_registration hd (Option.not_isSome_iff_eq_none.mp hwrites)

/-- What binds a user names the address the REGISTER came from. -/
theorem address_of_binds {d : Datagram} {ci : ClientSipInfo} (h : d.binds = some ci) :
    ci.host = d.strm.clientIP ∧ ci.port = d.strm.clientPort := by
  obtain ⟨⟨name, b⟩, hreg, hbind⟩ := Option.bind_eq_some_iff.mp h
  cases hbind
  unfold Datagram.registration at hreg
  split at hreg
  · dsimp only at hreg
    split at hreg
    · cases hreg
      exact ⟨rfl, rfl⟩
    · split at hreg <;> cases hreg
  · cases hreg

/-- The client that is registered for a user is at home where he is. -/
theorem regClients_home {ds : List Datagram} (hfits : ∀ d ∈ ds, d.Fits) (user : Text) :
    ((run SipServer.serve SipServer.empty ds).regClients user = none ∧ home ds user = none) ∨
      ∃ ci d₀, (run SipServer.serve SipServer.empty ds).regClients user = some ci ∧
        home ds user = some d₀ ∧ ci.host = d₀.strm.clientIP ∧ ci.port = d₀.strm.clientPort := by
  rw [regClients_run hfits]
  unfold home
  cases lastRegistration ds user with
  | none => exact .inl ⟨rfl, rfl⟩
  | some d₀ =>
    dsimp only [Option.elim]
    cases hbinds : d₀.binds with
    | none => exact .inl ⟨rfl, by simp [hbinds]⟩
    | some ci => exact .inr ⟨ci, d₀, rfl, by simp [hbinds], address_of_binds hbinds⟩

/-- A message of a run that is not a REGISTER is forwarded as the registrations before it
say. -/
theorem process_forwards {ds : List Datagram} (hfits : ∀ d ∈ ds, d.Fits) {d : Datagram}
    {kind : Kind} {req : Request} (h : d.request = some (kind, req))
    (hkind : kind ≠ .register) :
    (kind.process (run SipServer.serve SipServer.empty ds) d.strm req).2 =
      d.forwards ds kind req := by
  rw [process_apply _ d.strm req hkind, recipient_eq h hkind]
  unfold Datagram.forwards
  cases d.addressee with
  | none => rfl
  | some user =>
    dsimp only [Option.bind]
    rcases regClients_home hfits user with ⟨hnone, hhome⟩ | ⟨ci, d₀, hci, hhome, hhost, hport⟩
    · rw [hnone, hhome]
      rfl
    · rw [hci, hhome]
      dsimp only [Option.elim]
      rw [hhost, hport]

end Traffic

end UCLinux.Sip
