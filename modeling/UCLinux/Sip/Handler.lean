import UCLinux.Sip.Message

/-!
The SIP handler: the clients that are registered, the calls that are listed,
and what the server sends for each message. A request is forwarded to the
client its start line or its To names, a response to the client its From
names. The four request forwarders put the server's own Via entry in front,
the three response forwarders take the first entry off again.
-/

namespace UCLinux.Sip

open Sql
open Ocpp (wrap32)

structure ClientSipInfo where
  clientName : Text
  host : Text
  port : Nat
  deriving DecidableEq, Repr

structure CallDetails where
  callerNumber : Text
  calleeNumber : Text
  deriving DecidableEq, Repr

/-- The two static maps of the handler. -/
structure SipServer where
  regClients : Text → Option ClientSipInfo
  currentCalls : Text → Option CallDetails

/-- The server when it starts. -/
def SipServer.empty : SipServer := ⟨fun _ => none, fun _ => none⟩

/-- Where a datagram came from. `userData` is set by a websocket listener. -/
structure SipStream where
  clientIP : Text
  clientPort : Nat
  userData : Bool := false
  deriving DecidableEq, Repr

/-- What is sent: a message, or the one line of a refusal. -/
inductive Outgoing where
  | message (m : Message)
  | badRequest
  deriving DecidableEq, Repr

structure Sent where
  host : Text
  port : Nat
  what : Outgoing
  deriving DecidableEq, Repr

def voipListenerIPADDR : Text := "173.208.164.58"

def voipListenerIPADDRServerPort : Int := 5060

/-- The Via entry of the server. -/
def ownVia (transport : Text) : Text :=
  "SIP/2.0/" ++ transport ++ ":" ++ decimal voipListenerIPADDRServerPort ++
    ";branch=z9hG4bK2d4790"

section Forwarders

def viaHeaders (via : List Text) : List Header := via.map fun v => Header.mk "v" v

def dialogHeaders (sr : SipRequest) : List Header :=
  [Header.mk "f" sr.fromHdr, Header.mk "t" sr.toHdr, Header.mk "i" sr.cid,
    Header.mk "CSeq" sr.cseq]

/-- What a forwarder writes: after the Via entries come From, To, Call-ID and
CSeq of the request, then other headers and the content length. -/
structure Forward where
  startLine : Text
  via : List Text
  others : List Header := []
  contLen : Text := "0"
  body : Text := []

def Forward.message (f : Forward) (sr : SipRequest) : Message where
  startLine := f.startLine
  headers := viaHeaders f.via ++ (dialogHeaders sr ++ (f.others ++ [Header.mk "l" f.contLen]))
  body := f.body

/-- The contact up to its `@` with the address of the server behind it. -/
def modifiedContact (sr : SipRequest) (servIp : Text) : Text :=
  throughFirst sr.contact "@" ++ servIp ++ ">"

def maxForwardsHeader (sr : SipRequest) : Header :=
  Header.mk "Max-Forwards" (decimal (wrap32 (strToInt (trim sr.maxForwards) - 1)))

/-- The header of the To is that of a Call-ID. -/
def TRYING_100 (req : Request) : Message where
  startLine := "SIP/2.0 100 TRYING"
  headers := viaHeaders req.sr.via ++
    [Header.mk "f" req.sr.fromHdr, Header.mk "i" req.sr.toHdr, Header.mk "i" req.sr.cid,
      Header.mk "CSeq" req.sr.cseq, Header.mk "l" "0"]

/-- What is behind the first comma of the first line; all of it without one. -/
def cutFirstVia : List Text → List Text
  | [] => []
  | v0 :: rest => afterFirst v0 "," :: rest

/-- The same, but a first line without a comma is removed. -/
def removeFirstVia : List Text → List Text
  | [] => []
  | v0 :: rest => if containSubstr v0 "," then afterFirst v0 "," :: rest else rest

def forwardRinging (servIp : Text) (req : Request) : Forward where
  startLine := "SIP/2.0 180 Ringing"
  via := cutFirstVia req.sr.via
  others := if req.sr.contact = [] then []
    else [Header.mk "m" (modifiedContact req.sr servIp)]

def forward_200_OK (servIp : Text) (req : Request) : Forward where
  startLine := "SIP/2.0 200 OK"
  via := removeFirstVia req.sr.via
  others := (if containSubstr req.sr.cseq "CANCEL" ∧ req.sr.contact ≠ [] then
      [Header.mk "m" (modifiedContact req.sr servIp)] else []) ++
    (if req.sr.contLen ≠ "0" ∧ req.sr.contType ≠ [] then [Header.mk "c" req.sr.contType]
      else [])
  contLen := req.sr.contLen
  body := if ¬containSubstr req.sr.cseq "BYE" ∧ ¬containSubstr req.sr.cseq "CANCEL" then
    req.body else []

def forwardACK (servIp : Text) (req : Request) : Forward where
  startLine := req.method
  via := ownVia ("UDP " ++ servIp) :: req.sr.via
  others := if req.sr.contact = [] then [] else [Header.mk "m" req.sr.contact]

/-- The length is that of the request, the body is not sent. -/
def forwardBYE (servIp : Text) (req : Request) : Forward where
  startLine := req.method
  via := ownVia ("UDP " ++ servIp) :: req.sr.via
  others := [maxForwardsHeader req.sr]
  contLen := req.sr.contLen

def forwardCANCEL (servIp : Text) (req : Request) : Forward := forwardBYE servIp req

def forwardRequestTerminated (req : Request) : Forward where
  startLine := req.method
  via := removeFirstVia req.sr.via

def forwardInvite (strm : SipStream) (req : Request) : Forward where
  startLine := req.method
  via := ownVia (if strm.userData then "WSS mikerel.com" else "UDP " ++ voipListenerIPADDR) ::
    req.sr.via
  others := [Header.mk "m" (modifiedContact req.sr voipListenerIPADDR),
    Header.mk "c" req.sr.contType, maxForwardsHeader req.sr]
  contLen := req.sr.contLen
  body := req.body

end Forwarders

section Handlers

/-- The key of a call: its Call-ID up to the `@`. -/
def callKey (cid : Text) : Text :=
  match find "@" cid with
  | some indOf => if 0 < indOf then cid.take indOf else cid
  | none => cid

def insertCallDetails (s : SipServer) (cid : Text) (cd : CallDetails) : SipServer :=
  { s with currentCalls := Function.update s.currentCalls (callKey cid) (some cd) }

def removeFromCurrentCalls (s : SipServer) (cid : Text) : SipServer :=
  { s with currentCalls := Function.update s.currentCalls (callKey cid) none }

/-- To the client the start line names, and the 100 back to the caller. -/
def processInviteRequest (s : SipServer) (strm : SipStream) (req : Request) :
    SipServer × List Sent :=
  let callerNumber := extractSubStr req.sr.fromHdr ":" "@"
  let calleeNumber := extractSubStr req.method ":" "@"
  match s.regClients calleeNumber with
  | none => (s, [])
  | some ci =>
    (insertCallDetails s req.sr.cid ⟨callerNumber, calleeNumber⟩,
      [⟨strm.clientIP, strm.clientPort, .message (TRYING_100 req)⟩,
        ⟨ci.host, ci.port, .message ((forwardInvite strm req).message req.sr)⟩])

/-- The user a REGISTER binds: what its contact has between the first `:` and
the first `;`, up to the `@`. -/
def contactNumber (contact : Text) : Text := beforeFirst (extractSubStr contact ":" ";") "@"

/-- The reply has the first Via line only. -/
def registerReply (req : Request) : Forward where
  startLine := "SIP/2.0 200 OK"
  via := req.sr.via.take 1
  others := [Header.mk "m" req.sr.contact]

def processRegisterRequest (s : SipServer) (strm : SipStream) (req : Request) :
    SipServer × List Sent :=
  let number := contactNumber req.sr.contact
  let expires := strToInt (trim req.sr.expireStr)
  let regClients :=
    if 0 < expires then
      Function.update s.regClients number (some ⟨number, strm.clientIP, strm.clientPort⟩)
    else if (s.regClients number).isSome ∧ expires = 0 then
      Function.update s.regClients number none
    else s.regClients
  ({ s with regClients := regClients },
    [⟨strm.clientIP, strm.clientPort, .message ((registerReply req).message req.sr)⟩])

/-- The client a message is forwarded to: the one its From or its To names. -/
def extractForwardInfo (s : SipServer) (sr : SipRequest) (fromSide : Bool) :
    Option ClientSipInfo :=
  s.regClients (extractSubStr (if fromSide then sr.fromHdr else sr.toHdr) ":" "@")

/-- A message goes to that client, and only then is anything else done. -/
def relay (s : SipServer) (sr : SipRequest) (fromSide : Bool) (f : Forward)
    (done : SipServer → SipServer) : SipServer × List Sent :=
  match extractForwardInfo s sr fromSide with
  | none => (s, [])
  | some ci => (done s, [⟨ci.host, ci.port, .message (f.message sr)⟩])

variable (s : SipServer) (req : Request)

def process_180_Ringing : SipServer × List Sent :=
  relay s req.sr true (forwardRinging voipListenerIPADDR req) id

def process_200_OK : SipServer × List Sent :=
  relay s req.sr true (forward_200_OK voipListenerIPADDR req) id

def processAckRequest : SipServer × List Sent :=
  relay s req.sr false (forwardACK voipListenerIPADDR req) id

def processByeRequest : SipServer × List Sent :=
  relay s req.sr false (forwardBYE voipListenerIPADDR req) (removeFromCurrentCalls · req.sr.cid)

def processCancelRequest : SipServer × List Sent :=
  relay s req.sr false (forwardCANCEL voipListenerIPADDR req)
    (removeFromCurrentCalls · req.sr.cid)

/-- The call stays listed. -/
def process_487_Request : SipServer × List Sent :=
  relay s req.sr true (forwardRequestTerminated req) id

def process_486_Request : SipServer × List Sent :=
  relay s req.sr true (forwardRequestTerminated req) (removeFromCurrentCalls · req.sr.cid)

end Handlers

section Dispatching

/-- The messages the server handles. -/
inductive Kind where
  | register
  | invite
  | ok
  | ringing
  | ack
  | bye
  | cancel
  | terminated
  | busy
  deriving DecidableEq, Repr

/-- The handler is the first whose text occurs anywhere in the start line. -/
def dispatch (line1 : Text) : Option Kind :=
  if containSubstr line1 "REGISTER" then some .register
  else if containSubstr line1 "INVITE" then some .invite
  else if containSubstr line1 "SIP/2.0 200 OK" then some .ok
  else if containSubstr line1 "SIP/2.0 180 Ringing" then some .ringing
  else if containSubstr line1 "ACK" then some .ack
  else if containSubstr line1 "BYE" then some .bye
  else if containSubstr line1 "CANCEL" then some .cancel
  else if containSubstr line1 "487 Request" then some .terminated
  else if containSubstr line1 "486 Busy" then some .busy
  else none

/-- A message without a Via, or without a From and a To, is refused. -/
def Request.Sane (req : Request) : Prop :=
  req.sr.via ≠ [] ∧ ¬(req.sr.fromHdr = [] ∧ req.sr.toHdr = [])

instance (req : Request) : Decidable req.Sane := inferInstanceAs (Decidable (_ ∧ _))

def Kind.process (s : SipServer) (strm : SipStream) (req : Request) :
    Kind → SipServer × List Sent
  | .register => processRegisterRequest s strm req
  | .invite => processInviteRequest s strm req
  | .ok => process_200_OK s req
  | .ringing => process_180_Ringing s req
  | .ack => processAckRequest s req
  | .bye => processByeRequest s req
  | .cancel => processCancelRequest s req
  | .terminated => process_487_Request s req
  | .busy => process_486_Request s req

/-- The handler the server is started with. -/
def handle (s : SipServer) (strm : SipStream) (req : Request) : SipServer × List Sent :=
  let req := { req with method := req.line1 }
  if ¬req.Sane then (s, [⟨strm.clientIP, strm.clientPort, .badRequest⟩])
  else match dispatch req.method with
    | some kind => kind.process s strm req
    | none => (s, [])

end Dispatching

/-- What the server does with a datagram. A line that overflows its buffer has
been written past it by then, so this is what happens where every line fits; the
assertion behind the handlers is taken as compiled out. -/
def receive (s : SipServer) (strm : SipStream) (datagram : Text) : SipServer × List Sent :=
  match readRequest (datagram.take maxLine) with
  | .ok req => handle s strm req
  | .error _ => (s, [])

section Forwarding

/-- The client a message is forwarded to. -/
def Kind.recipient (s : SipServer) (req : Request) : Kind → Option ClientSipInfo
  | .register => none
  | .invite => s.regClients (extractSubStr req.method ":" "@")
  | .ok | .ringing | .terminated | .busy => extractForwardInfo s req.sr true
  | .ack | .bye | .cancel => extractForwardInfo s req.sr false

/-- What this client gets; a REGISTER is answered. -/
def Kind.forward (strm : SipStream) (req : Request) : Kind → Forward
  | .register => registerReply req
  | .invite => forwardInvite strm req
  | .ok => forward_200_OK voipListenerIPADDR req
  | .ringing => forwardRinging voipListenerIPADDR req
  | .ack => forwardACK voipListenerIPADDR req
  | .bye => forwardBYE voipListenerIPADDR req
  | .cancel => forwardCANCEL voipListenerIPADDR req
  | .terminated | .busy => forwardRequestTerminated req

def Kind.message (strm : SipStream) (req : Request) (kind : Kind) : Message :=
  (kind.forward strm req).message req.sr

/-- What forwarding a message does to the calls. -/
def Kind.recordCall (s : SipServer) (req : Request) : Kind → SipServer
  | .invite => insertCallDetails s req.sr.cid
      ⟨extractSubStr req.sr.fromHdr ":" "@", extractSubStr req.method ":" "@"⟩
  | .bye | .cancel | .busy => removeFromCurrentCalls s req.sr.cid
  | _ => s

variable (s : SipServer) (strm : SipStream) (req : Request)

theorem relay_apply (fromSide : Bool) (f : Forward) (done : SipServer → SipServer) :
    relay s req.sr fromSide f done =
      ((extractForwardInfo s req.sr fromSide).elim s fun _ => done s,
        (extractForwardInfo s req.sr fromSide).elim [] fun ci =>
          [⟨ci.host, ci.port, .message (f.message req.sr)⟩]) := by
  unfold relay
  cases extractForwardInfo s req.sr fromSide <;> rfl

/-- A message other than a REGISTER is forwarded when its recipient is
registered, an INVITE after the 100 to its sender. -/
theorem process_apply {kind : Kind} (hkind : kind ≠ .register) :
    kind.process s strm req =
      ((kind.recipient s req).elim s fun _ => kind.recordCall s req,
        (kind.recipient s req).elim [] fun ci =>
          (if kind = .invite then
            [⟨strm.clientIP, strm.clientPort, .message (TRYING_100 req)⟩] else []) ++
          [⟨ci.host, ci.port, .message (kind.message strm req)⟩]) := by
  cases kind with
  | register => exact absurd rfl hkind
  | invite =>
    simp only [Kind.process, processInviteRequest, Kind.recipient]
    cases s.regClients (extractSubStr req.method ":" "@") <;> rfl
  | ok => exact relay_apply s req true _ _
  | ringing => exact relay_apply s req true _ _
  | ack => exact relay_apply s req false _ _
  | bye => exact relay_apply s req false _ (removeFromCurrentCalls · req.sr.cid)
  | cancel => exact relay_apply s req false _ (removeFromCurrentCalls · req.sr.cid)
  | terminated => exact relay_apply s req true _ _
  | busy => exact relay_apply s req true _ (removeFromCurrentCalls · req.sr.cid)

/-- The messages that get the server's address into their contact. -/
def Kind.RewritesContact (req : Request) : Kind → Prop
  | .invite => True
  | .ringing => req.sr.contact ≠ []
  | .ok => containSubstr req.sr.cseq "CANCEL" ∧ req.sr.contact ≠ []
  | _ => False

/-- What the other headers of a message can be. -/
inductive OtherHeader (req : Request) (kind : Kind) : Header → Prop where
  | contact : OtherHeader req kind (Header.mk "m" req.sr.contact)
  | rewritten (h : kind.RewritesContact req) :
    OtherHeader req kind (Header.mk "m" (modifiedContact req.sr voipListenerIPADDR))
  | contType : OtherHeader req kind (Header.mk "c" req.sr.contType)
  | maxForwards : OtherHeader req kind (maxForwardsHeader req.sr)

theorem mem_ite_singleton {α : Type} {c : Prop} [Decidable c] {x a : α} :
    (x ∈ if c then [a] else []) ↔ c ∧ x = a := by
  by_cases hc : c <;> simp [hc]

theorem mem_ite_nil {α : Type} {c : Prop} [Decidable c] {x a : α} :
    (x ∈ if c then [] else [a]) ↔ ¬c ∧ x = a := by
  by_cases hc : c <;> simp [hc]

theorem forward_others {kind : Kind} {h : Header} (hh : h ∈ (kind.forward strm req).others) :
    OtherHeader req kind h := by
  cases kind with
  | register =>
    obtain rfl := List.mem_singleton.mp hh
    exact .contact
  | invite =>
    rcases List.mem_cons.mp hh with rfl | hh
    · exact .rewritten trivial
    rcases List.mem_pair.mp hh with rfl | rfl
    · exact .contType
    · exact .maxForwards
  | ok =>
    rcases List.mem_append.mp hh with hh | hh
    · obtain ⟨hc, rfl⟩ := mem_ite_singleton.mp hh
      exact .rewritten hc
    · obtain ⟨_, rfl⟩ := mem_ite_singleton.mp hh
      exact .contType
  | ringing =>
    obtain ⟨hc, rfl⟩ := mem_ite_nil.mp hh
    exact .rewritten hc
  | ack =>
    obtain ⟨_, rfl⟩ := mem_ite_nil.mp hh
    exact .contact
  | bye =>
    obtain rfl := List.mem_singleton.mp hh
    exact .maxForwards
  | cancel =>
    obtain rfl := List.mem_singleton.mp hh
    exact .maxForwards
  | terminated => cases hh
  | busy => cases hh

/-- The rewritten contact is among them. -/
theorem rewritten_mem {kind : Kind} (h : kind.RewritesContact req) :
    Header.mk "m" (modifiedContact req.sr voipListenerIPADDR) ∈
      (kind.forward strm req).others := by
  cases kind with
  | invite => exact List.mem_cons_self
  | ringing => exact mem_ite_nil.mpr ⟨h, rfl⟩
  | ok => exact List.mem_append_left _ (mem_ite_singleton.mpr ⟨h, rfl⟩)
  | _ => exact absurd h id

/-- The names of the other headers. -/
theorem OtherHeader.name_mem {kind : Kind} {h : Header} (hh : OtherHeader req kind h) :
    h.name ∈ (["m", "c", "Max-Forwards"] : List Text) := by
  cases hh with
  | contact => exact List.mem_cons_self
  | rewritten => exact List.mem_cons_self
  | contType => exact List.mem_cons_of_mem _ List.mem_cons_self
  | maxForwards => exact List.mem_cons_of_mem _ (List.mem_cons_of_mem _ List.mem_cons_self)

/-- The request as its handler gets it. -/
def Request.copied (req : Request) : Request := { req with method := req.line1 }

theorem handle_eq : handle s strm req =
    if ¬req.Sane then (s, [⟨strm.clientIP, strm.clientPort, .badRequest⟩])
    else match dispatch req.line1 with
      | some kind => kind.process s strm req.copied
      | none => (s, []) := rfl

theorem handle_refused (h : ¬req.Sane) :
    handle s strm req = (s, [⟨strm.clientIP, strm.clientPort, .badRequest⟩]) := by
  rw [handle_eq, if_pos h]

theorem handle_dispatched {kind : Kind} (hsane : req.Sane)
    (hkind : dispatch req.line1 = some kind) :
    handle s strm req = kind.process s strm req.copied := by
  rw [handle_eq, if_neg (not_not.mpr hsane), hkind]

theorem handle_undispatched (hsane : req.Sane) (h : dispatch req.line1 = none) :
    handle s strm req = (s, []) := by
  rw [handle_eq, if_neg (not_not.mpr hsane), h]

/-- The messages of a handler other than that of the REGISTER. -/
theorem process_messages_iff (P : Message → Prop) {kind : Kind} (hkind : kind ≠ .register) :
    (∀ o ∈ (kind.process s strm req).2, ∀ m, o.what = .message m → P m) ↔
      ((kind.recipient s req).isSome →
        (kind = .invite → P (TRYING_100 req)) ∧ P (kind.message strm req)) := by
  rw [process_apply s strm req hkind]
  cases hrecipient : kind.recipient s req with
  | none =>
    exact iff_of_true (fun o ho => absurd ho List.not_mem_nil) fun hno => by cases hno
  | some ci =>
    dsimp only [Option.elim]
    constructor
    · intro hall _
      refine ⟨fun hinvite => ?_, ?_⟩
      · have hsent : (⟨strm.clientIP, strm.clientPort, .message (TRYING_100 req)⟩ : Sent) ∈
            (if kind = .invite then
              [⟨strm.clientIP, strm.clientPort, .message (TRYING_100 req)⟩] else []) :=
          mem_ite_singleton.mpr ⟨hinvite, rfl⟩
        exact hall _ (List.mem_append_left _ hsent) _ rfl
      · exact hall _ (List.mem_append_right _ (List.mem_singleton.mpr rfl)) _ rfl
    · intro hall o ho m hm
      obtain ⟨htrying, hforwarded⟩ := hall rfl
      rcases List.mem_append.mp ho with trying | forwarded
      · obtain ⟨hinvite, rfl⟩ := mem_ite_singleton.mp trying
        cases hm
        exact htrying hinvite
      · rw [List.mem_singleton.mp forwarded] at hm
        cases hm
        exact hforwarded

theorem register_messages_iff (P : Message → Prop) :
    (∀ o ∈ (Kind.register.process s strm req).2, ∀ m, o.what = .message m → P m) ↔
      P (Kind.register.message strm req) := by
  constructor
  · exact fun hall => hall _ (List.mem_singleton.mpr rfl) _ rfl
  · intro hreply o ho m hm
    rw [List.mem_singleton.mp ho] at hm
    cases hm
    exact hreply

/-- The messages that are sent because of a request: the reply to a REGISTER,
the 100 to an INVITE, and the message that is forwarded. -/
theorem handle_messages_iff (P : Message → Prop) :
    (∀ o ∈ (handle s strm req).2, ∀ m, o.what = .message m → P m) ↔
      (req.Sane → ∀ kind, dispatch req.line1 = some kind →
        (kind = .register → P (kind.message strm req.copied)) ∧
        ((kind.recipient s req.copied).isSome →
          (kind = .invite → P (TRYING_100 req.copied)) ∧
            P (kind.message strm req.copied))) := by
  by_cases hsane : req.Sane
  · rw [forall_prop_of_true hsane]
    cases hdispatch : dispatch req.line1 with
    | none =>
      rw [handle_undispatched s strm req hsane hdispatch]
      exact iff_of_true (fun o ho => absurd ho List.not_mem_nil) fun kind hkind => by cases hkind
    | some kind =>
      rw [handle_dispatched s strm req hsane hdispatch]
      simp only [Option.some.injEq, forall_eq']
      by_cases hregister : kind = .register
      · subst hregister
        rw [register_messages_iff]
        exact ⟨fun hreply => ⟨fun _ => hreply, fun hno => by cases hno⟩, fun hall => hall.1 rfl⟩
      · rw [process_messages_iff _ _ _ _ hregister]
        exact (and_iff_right fun hno => absurd hno hregister).symm
  · rw [handle_refused s strm req hsane]
    refine iff_of_true ?_ fun hs => absurd hs hsane
    intro o ho m hm
    rw [List.mem_singleton.mp ho] at hm
    cases hm

end Forwarding

section Samples

def callerStream : SipStream where
  clientIP := "10.0.0.1"
  clientPort := 5060

def calleeStream : SipStream where
  clientIP := "10.0.0.2"
  clientPort := 5060

/-- Bob registers. -/
def bobRegister : Text :=
  "REGISTER sip:h SIP/2.0\r\nv: SIP/2.0/UDP b;branch=1\r\nf: <sip:bob@h>\r\nt: <sip:bob@h>\r\ni: 7@b\r\nCSeq: 1 REGISTER\r\nm: <sip:bob@b:5060;ob>\r\nExpires: 60\r\nl: 0\r\n\r\n"

def bobRegistered : SipServer := (receive SipServer.empty calleeStream bobRegister).1

/-- Alice calls him. -/
def aliceInvite : Text :=
  "INVITE sip:bob@h SIP/2.0\r\nv: SIP/2.0/UDP a;branch=1\r\nf: <sip:alice@h>\r\nt: <sip:bob@h>\r\ni: 9@a\r\nCSeq: 1 INVITE\r\nm: <sip:alice@a:5060>\r\nl: 0\r\n\r\n"

def aliceRequest : Request where
  method := "INVITE sip:bob@h SIP/2.0\r\n"
  sr := {
    via := ["SIP/2.0/UDP a;branch=1"]
    fromHdr := "<sip:alice@h>"
    toHdr := "<sip:bob@h>"
    cid := "9@a"
    cseq := "1 INVITE"
    contact := "<sip:alice@a:5060>"
    contLen := "0" }

theorem aliceInvite_read : readRequest (aliceInvite.take maxLine) = .ok aliceRequest := by
  decide +kernel

theorem aliceInvite_recipient :
    (Kind.invite.recipient bobRegistered aliceRequest.copied).isSome := by
  decide +kernel

end Samples

end UCLinux.Sip
