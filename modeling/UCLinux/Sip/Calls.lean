import UCLinux.Machine.Keyed
import UCLinux.Machine.Run
import UCLinux.Sip.Handler

/-!
The calls the server lists. A call begins when its INVITE is forwarded and is
over when a BYE, a CANCEL, a 486 or a 487 of its Call-ID is received. The
handler lists it under a part of the Call-ID, takes it off only when it could
forward the end, and never for a 487.
-/

namespace UCLinux.Sip

open Sql Machine

section Messages

/-- What a message is, by the first words of its start line. -/
def messageKind (line1 : Text) : Option Kind :=
  let word := line1.takeWhile (· ≠ ' ')
  let code := ((line1.dropWhile (· ≠ ' ')).drop 1).takeWhile (· ≠ ' ')
  if word = "REGISTER" then some .register
  else if word = "INVITE" then some .invite
  else if word = "ACK" then some .ack
  else if word = "BYE" then some .bye
  else if word = "CANCEL" then some .cancel
  else if word ≠ "SIP/2.0" then none
  else if code = "180" then some .ringing
  else if code = "200" then some .ok
  else if code = "486" then some .busy
  else if code = "487" then some .terminated
  else none

/-- A message and where it came from. -/
structure Arrival where
  strm : SipStream
  req : Request

def SipServer.take (s : SipServer) (a : Arrival) : SipServer := (handle s a.strm a.req).1

/-- The handler takes the message for one of the kind and forwards it. -/
def Forwards (s : SipServer) (req : Request) (kind : Kind) : Prop :=
  req.Sane ∧ dispatch req.line1 = some kind ∧ (kind.recipient s req.copied).isSome

instance (s : SipServer) (req : Request) (kind : Kind) : Decidable (Forwards s req kind) :=
  inferInstanceAs (Decidable (_ ∧ _))

/-- The message is forwarded and its call taken off the list. -/
def Unlists (s : SipServer) (req : Request) : Prop :=
  ∃ kind ∈ [Kind.bye, .cancel, .busy], Forwards s req kind

instance (s : SipServer) (req : Request) : Decidable (Unlists s req) :=
  inferInstanceAs (Decidable (∃ kind ∈ _, _))

/-- The message ends the call of its Call-ID. -/
def Request.Ends (req : Request) : Prop :=
  messageKind req.line1 ∈ [Kind.bye, .cancel, .busy, .terminated].map some

instance (req : Request) : Decidable req.Ends := inferInstanceAs (Decidable (_ ∈ _))

def Request.ended (req : Request) : Set Text := fun cid => req.Ends ∧ cid = req.sr.cid

end Messages

section Effects

variable {s : SipServer} (strm : SipStream) {req : Request} {kind : Kind}

/-- What a message that is forwarded does to the calls. -/
theorem take_forwards (h : Forwards s req kind) :
    (s.take ⟨strm, req⟩).currentCalls = (kind.recordCall s req.copied).currentCalls := by
  obtain ⟨hsane, hkind, hrecipient⟩ := h
  have hregister : kind ≠ .register := by
    rintro rfl
    cases hrecipient
  unfold SipServer.take
  rw [handle_dispatched s strm req hsane hkind, process_apply s strm req.copied hregister]
  obtain ⟨ci, hci⟩ := Option.isSome_iff_exists.mp hrecipient
  rw [hci]
  rfl

/-- Nothing else changes them. -/
theorem take_others (hinvite : ¬Forwards s req .invite) (hunlists : ¬Unlists s req) :
    (s.take ⟨strm, req⟩).currentCalls = s.currentCalls := by
  unfold SipServer.take
  by_cases hsane : req.Sane
  · cases hkind : dispatch req.line1 with
    | none => rw [handle_undispatched s strm req hsane hkind]
    | some kind =>
      rw [handle_dispatched s strm req hsane hkind]
      by_cases hregister : kind = .register
      · rw [hregister]
        rfl
      · rw [process_apply s strm req.copied hregister]
        cases hrecipient : kind.recipient s req.copied with
        | none => rfl
        | some ci =>
          have hforwards : Forwards s req kind := ⟨hsane, hkind, by rw [hrecipient]; rfl⟩
          cases kind with
          | invite => exact absurd hforwards hinvite
          | bye => exact absurd ⟨.bye, by decide, hforwards⟩ hunlists
          | cancel => exact absurd ⟨.cancel, by decide, hforwards⟩ hunlists
          | busy => exact absurd ⟨.busy, by decide, hforwards⟩ hunlists
          | _ => rfl
  · rw [handle_refused s strm req hsane]

theorem take_unlists (h : Unlists s req) : (s.take ⟨strm, req⟩).currentCalls =
    Function.update s.currentCalls (callKey req.sr.cid) none := by
  obtain ⟨kind, hkind, hforwards⟩ := h
  rw [take_forwards strm hforwards]
  simp only [List.mem_cons, List.not_mem_nil, or_false] at hkind
  rcases hkind with rfl | rfl | rfl <;> rfl

theorem Unlists.not_invite (h : Unlists s req) : ¬Forwards s req .invite := by
  rintro ⟨_, hinvite, _⟩
  obtain ⟨kind, hmem, _, hkind, _⟩ := h
  rw [hinvite] at hkind
  cases hkind
  exact absurd hmem (by decide)

end Effects

section Listing

/-- The calls whose INVITE was forwarded and that did not end since. -/
def noteCall (live : Set Text) (v : Visit SipServer Arrival) : Set Text :=
  if messageKind v.event.req.line1 = some .invite ∧ Forwards v.before v.event.req .invite then
    insert v.event.req.sr.cid live
  else live \ v.event.req.ended

/-- The server with the calls that are live. -/
abbrev callStep : SipServer × Set Text → Arrival → SipServer × Set Text :=
  noting SipServer.take noteCall

/-- Each live call has an entry of its own, and there is no other entry. -/
def CallsListed (p : SipServer × Set Text) : Prop := Stands callKey p.1.currentCalls p.2

/-- What is done to the entry of a message's Call-ID is right. -/
structure CallSafe (p : SipServer × Set Text) (a : Arrival) : Prop where
  /-- No other live call has the key of an INVITE. -/
  invited : Forwards p.1 a.req .invite → messageKind a.req.line1 = some .invite →
    ∀ cid ∈ p.2, callKey cid = callKey a.req.sr.cid → cid = a.req.sr.cid
  /-- What only looks like an INVITE is of a call that goes on. -/
  mistaken : Forwards p.1 a.req .invite → messageKind a.req.line1 ≠ some .invite →
    ∃ cid ∈ p.2 \ a.req.ended, callKey cid = callKey a.req.sr.cid
  /-- No call that goes on has the key of one that is taken off. -/
  unlisted : Unlists p.1 a.req →
    ∀ cid ∈ p.2 \ a.req.ended, callKey cid ≠ callKey a.req.sr.cid
  /-- What is not forwarded ends no live call. -/
  untouched : ¬Forwards p.1 a.req .invite → ¬Unlists p.1 a.req → a.req.Ends →
    a.req.sr.cid ∉ p.2

variable {p : SipServer × Set Text} {a : Arrival}

/-- Only a call of the message's own key ends. -/
theorem mem_diff_ended {req : Request} {live : Set Text} {cid : Text}
    (h : callKey cid ≠ callKey req.sr.cid) : cid ∈ live \ req.ended ↔ cid ∈ live :=
  and_iff_left fun hended => h (congrArg callKey hended.2)

theorem diff_ended_eq_iff {req : Request} {live : Set Text} :
    live \ req.ended = live ↔ (req.Ends → req.sr.cid ∉ live) := by
  constructor
  · intro heq hends hmem
    rw [← heq] at hmem
    exact hmem.2 ⟨hends, rfl⟩
  · intro hno
    apply Set.Subset.antisymm Set.sdiff_subset
    rintro cid hcid
    refine ⟨hcid, ?_⟩
    rintro ⟨hends, rfl⟩
    exact hno hends hcid

theorem callStep_invited (hkind : messageKind a.req.line1 = some .invite)
    (hinvite : Forwards p.1 a.req .invite) :
    (callStep p a).2 = insert a.req.sr.cid p.2 := if_pos ⟨hkind, hinvite⟩

theorem callStep_others
    (h : ¬(messageKind a.req.line1 = some .invite ∧ Forwards p.1 a.req .invite)) :
    (callStep p a).2 = p.2 \ a.req.ended := if_neg h

/-- A call goes on until a message ends it. -/
theorem callStep_keeps {cid : Text} (hends : ¬a.req.Ends) (hcid : cid ∈ p.2) :
    cid ∈ (callStep p a).2 := by
  by_cases h : messageKind a.req.line1 = some .invite ∧ Forwards p.1 a.req .invite
  · rw [callStep_invited h.1 h.2]
    exact Set.mem_insert_of_mem _ hcid
  · rw [callStep_others h]
    exact ⟨hcid, fun hended => hends hended.1⟩

/-- A message keeps the list right exactly when it is safe. -/
theorem callStep_listed_iff (h : CallsListed p) : CallsListed (callStep p a) ↔ CallSafe p a := by
  unfold CallsListed
  by_cases hinvite : Forwards p.1 a.req .invite
  · have hnot : ¬Unlists p.1 a.req := fun hun => hun.not_invite hinvite
    have hcalls : (callStep p a).1.currentCalls = Function.update p.1.currentCalls
        (callKey a.req.sr.cid) _ := take_forwards a.strm hinvite
    rw [hcalls]
    by_cases hkind : messageKind a.req.line1 = some .invite
    · rw [callStep_invited hkind hinvite, Stands.insert_iff h rfl]
      exact ⟨fun halone => ⟨fun _ _ => halone, fun _ hno => absurd hkind hno,
        fun hun => absurd hun hnot, fun hno => absurd hinvite hno⟩,
        fun hsafe => hsafe.invited hinvite hkind⟩
    · rw [callStep_others fun hboth => hkind hboth.1,
        Stands.list_iff h Set.sdiff_subset (fun _ => mem_diff_ended) rfl]
      exact ⟨fun hsome => ⟨fun _ hno => absurd hno hkind, fun _ _ => hsome,
        fun hun => absurd hun hnot, fun hno => absurd hinvite hno⟩,
        fun hsafe => hsafe.mistaken hinvite hkind⟩
  · rw [callStep_others fun hboth => hinvite hboth.2]
    by_cases hunlists : Unlists p.1 a.req
    · have hcalls : (callStep p a).1.currentCalls = _ := take_unlists a.strm hunlists
      rw [hcalls, Stands.erase_iff h fun _ => mem_diff_ended]
      exact ⟨fun hnone => ⟨fun hno => absurd hno hinvite, fun hno => absurd hno hinvite,
        fun _ => hnone, fun _ hno => absurd hunlists hno⟩, fun hsafe => hsafe.unlisted hunlists⟩
    · have hcalls : (callStep p a).1.currentCalls = _ :=
        take_others a.strm hinvite hunlists
      rw [hcalls, Stands.kept_iff h Set.sdiff_subset, diff_ended_eq_iff]
      exact ⟨fun hended => ⟨fun hno => absurd hno hinvite, fun hno => absurd hno hinvite,
        fun hno => absurd hno hunlists, fun _ _ => hended⟩,
        fun hsafe => hsafe.untouched hinvite hunlists⟩

theorem callsListed_empty : CallsListed (SipServer.empty, ∅) := Stands.empty

section Samples

/-- Bob registers for so many seconds. -/
def bobRegistration (expires : Text) : Arrival where
  strm := calleeStream
  req := {
    method := "REGISTER sip:h SIP/2.0\r\n"
    sr := {
      via := ["SIP/2.0/UDP b;branch=1"]
      fromHdr := "<sip:bob@h>"
      toHdr := "<sip:bob@h>"
      cid := "7@b"
      cseq := "1 REGISTER"
      contact := "<sip:bob@b:5060;ob>"
      expireStr := expires } }

def aliceHangsUp : Arrival where
  strm := callerStream
  req := { aliceRequest with method := "BYE sip:bob@h SIP/2.0\r\n" }

/-- Bob unregisters while Alice's call is live, and she hangs up. -/
def hangUpRun : List Arrival :=
  [bobRegistration "60", ⟨callerStream, aliceRequest⟩, bobRegistration "0", aliceHangsUp]

end Samples

end Listing

end UCLinux.Sip
