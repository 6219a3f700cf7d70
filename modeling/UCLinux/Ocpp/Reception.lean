import UCLinux.Ocpp.Footprint

/-!
What a text message comes to, by the kind of frame it is: the request read
from a CALL, a CALLRESULT or a CALLERROR, the frames that are sent back, and
the state that is left. Later modules argue from these and do not look into
`onMessage` again.
-/

namespace UCLinux.Ocpp

open Sql Machine Server

section Sending

variable {E : Env} {con : Connection}

theorem sendTo_apply (frame : Frame) (s : Session Server) :
    sendTo E con frame s =
      (E.sends s.asked,
        ⟨{ s.state with wire := s.state.wire ++ [⟨con, frame, E.sends s.asked⟩] },
          s.asked + 1⟩) := rfl

/-- Deliveries of the frames to one connection, in order. -/
def Delivers (E : Env) (con : Connection) (frames : List Frame) (ds : List Delivery) :
    Prop :=
  ds.map Delivery.frame = frames ∧
    ∀ d ∈ ds, d.receiver = con ∧ ∃ n, d.sent = E.sends n

theorem Delivers.cons {frame : Frame} {frames : List Frame} {ds : List Delivery}
    (h : Delivers E con frames ds) (n : Nat) :
    Delivers E con (frame :: frames) (⟨con, frame, E.sends n⟩ :: ds) := by
  refine ⟨by simp [h.1], fun d hd => ?_⟩
  rcases List.mem_cons.mp hd with rfl | later
  · exact ⟨rfl, n, rfl⟩
  · exact h.2 d later

theorem Delivers.nil : Delivers E con [] [] := ⟨rfl, by simp⟩

/-- A frame is among the deliveries exactly when it was to be sent. -/
theorem Delivers.mem_frames {frames : List Frame} {ds : List Delivery}
    (h : Delivers E con frames ds) {frame : Frame} :
    (∃ d ∈ ds, d.frame = frame) ↔ frame ∈ frames := by
  rw [← h.1, List.mem_map]

theorem sendAll_state (frames : List Frame) (s : Session Server) :
    ∃ ds, Delivers E con frames ds ∧
      (sendAll E con frames s).2.state = { s.state with wire := s.state.wire ++ ds } := by
  induction frames generalizing s with
  | nil => exact ⟨[], Delivers.nil, by simp [sendAll]⟩
  | cons f fs ih =>
    obtain ⟨ds, hds, hstate⟩ := ih (sendTo E con f s).2
    refine ⟨⟨con, f, E.sends s.asked⟩ :: ds, hds.cons s.asked, ?_⟩
    show (sendAll E con fs (sendTo E con f s).2).2.state = _
    rw [hstate, sendTo_apply]
    simp

end Sending

section Reading

variable {L : Lib}

theorem parseElements_keeps (req : OcppRequest) (i : Nat) (es : List Element) :
    (parseElements req i es).reqStr = req.reqStr ∧
      (parseElements req i es).remoteIP = req.remoteIP := by
  induction es generalizing req i with
  | nil => exact ⟨rfl, rfl⟩
  | cons e es ih =>
    cases e with
    | int n => exact ih { req with callID := n } (i + 1)
    | string t =>
      unfold parseElements
      split_ifs
      · exact ih { req with uniqueID := cstr t } (i + 1)
      · exact ⟨rfl, rfl⟩
      · exact ih req i
    | other => exact ih req i

theorem parse_keeps {req req' : OcppRequest} (h : parseOCPPRequest L req = some req') :
    req'.reqStr = req.reqStr ∧ req'.remoteIP = req.remoteIP := by
  obtain ⟨es, _, rfl⟩ := Option.map_eq_some_iff.mp h
  exact parseElements_keeps req 0 es

/-- What a message is handed on as. -/
def incoming (con : Connection) (payload : Text) : OcppRequest :=
  { reqStr := payload, remoteIP := con.endpoint.text }

/-- The request read from a CALL. -/
def callRequest (con : Connection) (payload uid action : Text) : OcppRequest :=
  { incoming con payload with callID := 2, uniqueID := cstr uid, action := cstr action }

/-- The message is `[2,uid,action,payload]`. -/
def IsCall (L : Lib) (payload uid action : Text) : Prop :=
  ∃ p, L.parse (cstr payload) = some [.int 2, .string uid, .string action, p]

/-- The message is `[3,uid,payload]`. -/
def IsCallResult (L : Lib) (payload uid : Text) (p : Element) : Prop :=
  L.parse (cstr payload) = some [.int 3, .string uid, p]

/-- The message is `[4,uid,code,description,details]`. -/
def IsCallError (L : Lib) (payload uid : Text) : Prop :=
  ∃ code desc details, L.parse (cstr payload) =
    some [.int 4, .string uid, .string code, .string desc, details]

theorem length_of_parse {payload : Text} {es : List Element}
    (h : L.parse (cstr payload) = some es) (hes : 1 ≤ es.length) : 2 < payload.length := by
  have hsize := L.parse_size _ _ h
  have hprefix : (cstr payload).length ≤ payload.length :=
    (List.takeWhile_prefix _).length_le
  omega

theorem parse_call (con : Connection) {payload uid action : Text}
    (h : IsCall L payload uid action) :
    parseOCPPRequest L (incoming con payload) =
      some (callRequest con payload uid action) := by
  obtain ⟨p, hparse⟩ := h
  have hread : L.parse (cstr (incoming con payload).reqStr) = _ := hparse
  simp [parseOCPPRequest, hread, parseElements, callRequest]

/-- The call id a CALLRESULT is processed under: an integer payload replaces
it. -/
def resultCallID : Element → Int
  | .int n => n
  | _ => 3

/-- The request read from a CALLRESULT; a string payload is read as an
action. -/
def resultRequest (con : Connection) (payload uid : Text) (p : Element) : OcppRequest :=
  { incoming con payload with
    callID := resultCallID p
    uniqueID := cstr uid
    action := match p with
      | .string s => cstr s
      | _ => [] }

theorem parse_callResult (con : Connection) {payload uid : Text} {p : Element}
    (h : IsCallResult L payload uid p) :
    parseOCPPRequest L (incoming con payload) =
      some (resultRequest con payload uid p) := by
  have hread : L.parse (cstr (incoming con payload).reqStr) = _ := h
  rw [parseOCPPRequest, hread]
  cases p <;> rfl

theorem parse_callError (con : Connection) {payload uid : Text}
    (h : IsCallError L payload uid) :
    ∃ action, parseOCPPRequest L (incoming con payload) =
      some { incoming con payload with callID := 4, uniqueID := cstr uid, action := action } := by
  obtain ⟨code, desc, details, hparse⟩ := h
  have hread : L.parse (cstr (incoming con payload).reqStr) = _ := hparse
  exact ⟨cstr code, by simp [parseOCPPRequest, hread, parseElements]⟩

end Reading

section Processing

variable {L : Lib} {E : Env}

theorem processOCPPIncoming_of_parse {req req' : OcppRequest}
    (h : parseOCPPRequest L req = some req') (resp : OcppResponse) :
    processOCPPIncoming L E req resp =
      if req'.callID = 2 then processCall L E req' resp
      else if req'.callID = 3 then processAnswer L E req' resp
      else pure ⟨true, req', resp⟩ := by
  unfold processOCPPIncoming
  rw [h]

/-- The frames of the answer: those of the response, or the error frame. -/
def Processed.frames (r : Processed) : List Frame :=
  if r.rv then r.resp.respStr else [internalError r.req.uniqueID]

/-- A message is processed and its answer sent. -/
theorem onMessage_state {con : Connection} {payload : Text} (hlen : 2 < payload.length)
    {s s' : Session Server} {r : Processed}
    (hr : processOCPPIncoming L E (incoming con payload) ⟨0, [], []⟩ s = (r, s')) :
    ∃ ds, Delivers E con r.frames ds ∧
      (onMessage L E con payload s).2.state =
        { s'.state with wire := s'.state.wire ++ ds } := by
  have hmessage : onMessage L E con payload s =
      (if r.rv then sendAll E con r.resp.respStr
        else do
          let _ ← sendTo E con (internalError r.req.uniqueID)
          pure () : Act Unit) s' := by
    unfold onMessage
    rw [if_neg (by omega), Action.bind_apply]
    have hin : processOCPPIncoming L E { reqStr := payload, remoteIP := con.endpoint.text }
        ⟨0, [], []⟩ s = (r, s') := hr
    rw [hin]
  rw [hmessage, Processed.frames]
  split
  · exact sendAll_state r.resp.respStr s'
  · exact ⟨[⟨con, internalError r.req.uniqueID, E.sends s'.asked⟩],
      Delivers.nil.cons s'.asked, rfl⟩

/-- The SetChargingProfile request that follows an answered
StartTransaction. -/
theorem createSetChargingProfileRequest_frame (req : OcppRequest) (s : Session Server) :
    ∃ uid payload, (createSetChargingProfileRequest L E req s).1.frame =
      .call 2 uid "SetChargingProfile" payload := by
  unfold createSetChargingProfileRequest
  rw [Action.bind_apply]
  dsimp only
  split
  · exact ⟨_, _, rfl⟩
  · exact ⟨_, _, rfl⟩

theorem processOCPPRequestAction_some {req : OcppRequest} {a : OcppAction}
    (h : OcppAction.ofName req.action = some a) (resp : OcppResponse)
    (s : Session Server) :
    processOCPPRequestAction L E req resp s =
      ((a.process L E req s).1.map fun p =>
        (true, { callID := 3, uniqueID := req.uniqueID,
                 respStr := resp.respStr ++ [.callResult 3 req.uniqueID p] }),
        (a.process L E req s).2) := by
  unfold processOCPPRequestAction
  rw [h]
  rfl

/-- Processing that raised sends the error frame. -/
theorem processCall_raised {req : OcppRequest} {a : OcppAction}
    (h : OcppAction.ofName req.action = some a) {s s' : Session Server}
    (hdone : a.process L E req s = (none, s')) :
    ∃ r, processCall L E req ⟨0, [], []⟩ s = (r, s') ∧
      r.frames = [internalError req.uniqueID] := by
  refine ⟨⟨false, req, ⟨0, [], []⟩⟩, ?_, rfl⟩
  unfold processCall
  rw [Action.bind_apply, processOCPPRequestAction_some h, hdone]
  rfl

/-- What processing that answered comes to. -/
theorem processCall_some {req : OcppRequest} {a : OcppAction}
    (h : OcppAction.ofName req.action = some a) {s s' : Session Server} {p : Payload}
    (hdone : a.process L E req s = (some p, s')) :
    processCall L E req ⟨0, [], []⟩ s =
      if req.action = "StartTransaction" then
        (⟨true, req, ⟨3, req.uniqueID, [.callResult 3 req.uniqueID p,
          (createSetChargingProfileRequest L E
            { remoteIP := req.remoteIP, uniqueID := req.uniqueID } s').1.frame]⟩⟩,
          (createSetChargingProfileRequest L E
            { remoteIP := req.remoteIP, uniqueID := req.uniqueID } s').2)
      else (⟨true, req, ⟨3, req.uniqueID, [.callResult 3 req.uniqueID p]⟩⟩, s') := by
  have haction := processOCPPRequestAction_some (L := L) (E := E) h ⟨0, [], []⟩ s
  rw [hdone] at haction
  unfold processCall
  rw [Action.bind_apply, haction]
  dsimp only [Option.map_some]
  split
  · rfl
  · rfl

/-- Processing that answered sends the response, and the server's own request
behind it when the action starts a transaction. -/
theorem processCall_answered {req : OcppRequest} {a : OcppAction}
    (h : OcppAction.ofName req.action = some a) {s s' : Session Server} {p : Payload}
    (hdone : a.process L E req s = (some p, s')) :
    ∃ r t more, processCall L E req ⟨0, [], []⟩ s = (r, t) ∧
      Only [.requestQueue] s'.state t.state ∧
      r.frames = .callResult 3 req.uniqueID p :: more ∧
      ∀ f ∈ more, ∃ u q, f = .call 2 u "SetChargingProfile" q := by
  rw [processCall_some h hdone]
  by_cases hstart : req.action = "StartTransaction"
  · rw [if_pos hstart]
    have hframe := createSetChargingProfileRequest_frame (L := L) (E := E)
      { remoteIP := req.remoteIP, uniqueID := req.uniqueID } s'
    have hqueue := createSetChargingProfileRequest_writes (L := L) (E := E)
      (T := [.requestQueue]) { remoteIP := req.remoteIP, uniqueID := req.uniqueID }
      (by simp) s'
    refine ⟨_, _, [_], rfl, hqueue, rfl, ?_⟩
    rintro f hf
    rw [List.mem_singleton.mp hf]
    exact hframe
  · rw [if_neg hstart]
    exact ⟨_, _, [], rfl, Only.refl _, rfl, by simp⟩

/-- What a handled CALL comes to, from what its action left: `done` is the
payload of the response, or none when processing raised, and the state. -/
structure Answered (con : Connection) (uid : Text) (s : Session Server)
    (done : Option Payload × Session Server) (t : Server) (ds : List Delivery) :
    Prop where
  state : Only [.requestQueue, .wire] done.2.state t
  wire : t.wire = s.state.wire ++ ds
  raised : done.1 = none → ds.map Delivery.frame = [internalError uid]
  answered : ∀ p, done.1 = some p → ∃ more,
    ds.map Delivery.frame = .callResult 3 uid p :: more ∧
    ∀ f ∈ more, ∃ u q, f = .call 2 u "SetChargingProfile" q
  receiver : ∀ d ∈ ds, d.receiver = con

/-- A parsed CALL is longer than what is ignored. -/
theorem length_of_request {con : Connection} {payload : Text} {req : OcppRequest}
    (h : parseOCPPRequest L (incoming con payload) = some req) (hcall : req.callID ≠ 0) :
    2 < payload.length := by
  obtain ⟨es, hparse, hreq⟩ := Option.map_eq_some_iff.mp h
  have hsome : es ≠ [] := by
    rintro rfl
    rw [← hreq] at hcall
    exact hcall rfl
  exact length_of_parse hparse (List.length_pos_iff.mpr hsome)

theorem onMessage_request (E : Env) {con : Connection} {payload : Text} {req : OcppRequest}
    {a : OcppAction} (h : parseOCPPRequest L (incoming con payload) = some req)
    (hcall : req.callID = 2) (ha : OcppAction.ofName req.action = some a)
    (s : Session Server) :
    ∃ ds, Answered con req.uniqueID s (a.process L E req s)
      (onMessage L E con payload s).2.state ds := by
  have hlen : 2 < payload.length := length_of_request h (by omega)
  have hwire : (a.process L E req s).2.state.wire = s.state.wire :=
    (OcppAction.process_writes (T := a.writes) a (List.Subset.refl _) s).wire
      (by cases a <;> decide)
  have hincoming : processOCPPIncoming L E (incoming con payload) ⟨0, [], []⟩ =
      processCall L E req ⟨0, [], []⟩ := by
    rw [processOCPPIncoming_of_parse h, if_pos hcall]
  generalize hdone : a.process L E req s = done at *
  obtain ⟨result, s'⟩ := done
  cases result with
  | none =>
    obtain ⟨r, hr, hframes⟩ := processCall_raised ha hdone
    obtain ⟨ds, hds, hstate⟩ := onMessage_state hlen (hincoming ▸ hr)
    refine ⟨ds, ?_, ?_, fun _ => hds.1.trans hframes, by simp, fun d hd => (hds.2 d hd).1⟩
    · rw [hstate]
      exact Only.set_wire (by simp) _ _
    · rw [hstate, ← hwire]
  | some p =>
    obtain ⟨r, t, more, hr, honly, hframes, hmore⟩ := processCall_answered ha hdone
    obtain ⟨ds, hds, hstate⟩ := onMessage_state hlen (hincoming ▸ hr)
    refine ⟨ds, ?_, ?_, by simp, fun p' hp => ⟨more, ?_, hmore⟩,
      fun d hd => (hds.2 d hd).1⟩
    · rw [hstate]
      exact (honly.mono (by simp)).trans (Only.set_wire (by simp) _ _)
    · rw [hstate, ← hwire, ← honly.wire (by simp)]
    · cases hp
      exact hds.1.trans hframes

theorem onMessage_call (E : Env) (con : Connection) {payload uid action : Text}
    {a : OcppAction} (h : IsCall L payload uid action)
    (ha : OcppAction.ofName (cstr action) = some a) (s : Session Server) :
    ∃ ds, Answered con (cstr uid) s
      (a.process L E (callRequest con payload uid action) s)
      (onMessage L E con payload s).2.state ds :=
  onMessage_request E (parse_call con h) rfl ha s

/-- An action without a branch is left without an answer. -/
theorem processCall_unhandled {req : OcppRequest}
    (ha : OcppAction.ofName req.action = none) (s : Session Server) :
    processCall L E req ⟨0, [], []⟩ s = (⟨true, req, ⟨0, [], []⟩⟩, s) := by
  have hstart : req.action ≠ "StartTransaction" := by
    intro hstart
    rw [hstart] at ha
    exact absurd ha (by decide)
  have hnone : processOCPPRequestAction L E req ⟨0, [], []⟩ s =
      (some (false, ⟨0, [], []⟩), s) := by
    unfold processOCPPRequestAction
    rw [ha]
    rfl
  unfold processCall
  rw [Action.bind_apply, hnone]
  dsimp only
  rw [if_neg hstart]
  rfl

/-- A CALL whose action has no branch is not answered and changes nothing. -/
theorem onMessage_unhandled {con : Connection} {payload uid action : Text}
    (h : IsCall L payload uid action) (ha : OcppAction.ofName (cstr action) = none)
    (s : Session Server) : (onMessage L E con payload s).2.state = s.state := by
  have hparse := parse_call con h
  have hlen : 2 < payload.length := length_of_request hparse (by simp [callRequest])
  have hincoming : processOCPPIncoming L E (incoming con payload) ⟨0, [], []⟩ s =
      (⟨true, callRequest con payload uid action, ⟨0, [], []⟩⟩, s) := by
    have hcall : processOCPPIncoming L E (incoming con payload) ⟨0, [], []⟩ =
        processCall L E (callRequest con payload uid action) ⟨0, [], []⟩ := by
      rw [processOCPPIncoming_of_parse hparse]
      exact if_pos rfl
    rw [hcall]
    exact processCall_unhandled ha s
  obtain ⟨ds, hds, hstate⟩ := onMessage_state hlen hincoming
  have hnone : ds = [] := List.map_eq_nil_iff.mp hds.1
  rw [hstate, hnone]
  simp

/-- Processing that answers no CALL ends with an error frame at most. -/
theorem processOCPPIncoming_other (req : OcppRequest)
    (h : ∀ req', parseOCPPRequest L req = some req' → req'.callID = 2 →
      OcppAction.ofName req'.action = none) (s : Session Server) :
    ∃ r s', processOCPPIncoming L E req ⟨0, [], []⟩ s = (r, s') ∧
      Only [.requestQueue, .chStations] s.state s'.state ∧
      ∀ f ∈ r.frames, ∃ uid, f = internalError uid := by
  cases hparse : parseOCPPRequest L req with
  | none =>
    refine ⟨⟨false, req, ⟨0, [], []⟩⟩, s, ?_, Only.refl _, ?_⟩
    · unfold processOCPPIncoming
      rw [hparse]
      rfl
    · intro f hf
      exact ⟨req.uniqueID, List.mem_singleton.mp hf⟩
  | some req' =>
    rw [processOCPPIncoming_of_parse hparse]
    by_cases hcall : req'.callID = 2
    · rw [if_pos hcall, processCall_unhandled (h req' hparse hcall)]
      exact ⟨_, _, rfl, Only.refl _, by simp [Processed.frames]⟩
    · rw [if_neg hcall]
      by_cases hanswer : req'.callID = 3
      · rw [if_pos hanswer]
        refine ⟨_, _, rfl, ?_, ?_⟩
        · exact processIncomingCPResponseMessage_writes (by simp) (by simp) s
        · intro f hf
          cases hdone : (processIncomingCPResponseMessage L E req' s).1 with
          | none =>
            simp [hdone, Processed.frames] at hf
            exact ⟨_, hf⟩
          | some rv => simp [hdone, Processed.frames] at hf
      · rw [if_neg hanswer]
        exact ⟨_, _, rfl, Only.refl _, by simp [Processed.frames]⟩

/-- A message is a CALL with a branch, or the server does not answer it with
a result and changes no more than its queue and the stations. -/
theorem onMessage_cases (E : Env) (con : Connection) (payload : Text)
    (s : Session Server) :
    (∃ req a, parseOCPPRequest L (incoming con payload) = some req ∧ req.callID = 2 ∧
      OcppAction.ofName req.action = some a) ∨
    (Only [.requestQueue, .chStations, .wire] s.state
        (onMessage L E con payload s).2.state ∧
      ∃ ds, (onMessage L E con payload s).2.state.wire = s.state.wire ++ ds ∧
        ∀ d ∈ ds, ∃ uid, d.frame = internalError uid) := by
  by_cases hlen : 2 < payload.length
  · by_cases hcall : ∃ req a, parseOCPPRequest L (incoming con payload) = some req ∧
        req.callID = 2 ∧ OcppAction.ofName req.action = some a
    · exact Or.inl hcall
    · obtain ⟨r, s', hr, honly, hframes⟩ := processOCPPIncoming_other (L := L) (E := E)
        (incoming con payload) (s := s) fun req hparse hid => by
          by_contra hsome
          obtain ⟨a, ha⟩ := Option.ne_none_iff_exists'.mp hsome
          exact hcall ⟨req, a, hparse, hid, ha⟩
      obtain ⟨ds, hds, hstate⟩ := onMessage_state hlen hr
      have hwire : s'.state.wire = s.state.wire := honly.wire (by simp)
      refine Or.inr ⟨?_, ds, ?_, ?_⟩
      · rw [hstate]
        exact (honly.mono (by simp)).trans (Only.set_wire (by simp) _ _)
      · rw [hstate, ← hwire]
      · intro d hd
        exact hframes d.frame (hds.mem_frames.mp ⟨d, hd, rfl⟩)
  · have hignored : onMessage L E con payload s = ((), s) := by
      unfold onMessage
      rw [if_pos (by omega)]
      rfl
    rw [hignored]
    exact Or.inr ⟨Only.refl _, [], by simp, by simp⟩

/-- A message opens and closes no connection. -/
theorem onMessage_connections (E : Env) (con : Connection) (payload : Text)
    (s : Session Server) :
    (onMessage L E con payload s).2.state.connections = s.state.connections := by
  rcases onMessage_cases (L := L) E con payload s with
    ⟨req, a, hparse, hcall, ha⟩ | ⟨honly, _⟩
  · obtain ⟨ds, hds⟩ := onMessage_request E hparse hcall ha s
    have hprocess : (a.process L E req s).2.state.connections = s.state.connections :=
      (OcppAction.process_writes (T := a.writes) a (List.Subset.refl _) s).connections
        (by cases a <;> decide)
    exact (hds.state.connections (by simp)).trans hprocess
  · exact honly.connections (by simp)

end Processing

section Replies

variable {L : Lib} {E : Env}

/-- Such a frame is among those sent. -/
def Server.sent (s : Server) (p : Frame → Bool) : Prop := ∃ d ∈ s.wire, p d.frame

/-- The payload is of the response type of the action. -/
def Payload.answers : OcppAction → Payload → Bool
  | .heartbeat, .heartbeat _ => true
  | .bootNotification, .bootNotification _ _ _ => true
  | .authorize, .authorize _ => true
  | .startTransaction, .startTransaction _ _ => true
  | .stopTransaction, .stopTransaction _ => true
  | .statusNotification, .raw _ => true
  | .firmwareStatusNotification, .raw _ => true
  | .meterValues, .raw _ => true
  | .dataTransfer, .dataTransferResponse _ => true
  | _, _ => false

/-- Whatever was done before it, the response is what is returned. -/
theorem returns_response {α : Type} {P : Payload → Prop} {x : Act α} {f : α → Act Payload}
    (hf : ∀ n, Action.Returns P (f n)) :
    Action.Returns (fun done => ∀ p, done = some p → P p) (do
      let n ← x
      let p ← f n
      pure (some p)) := by
  intro s p hp
  obtain rfl := Option.some.inj hp
  exact hf (x s).1 (x s).2

/-- The payload is one of the records of the server, or the empty object. -/
def Payload.IsRecord (p : Payload) : Prop := ∀ t, p = .raw t → t = "\x7b\x7d"

theorem Payload.isRecord_raw : (Payload.raw "\x7b\x7d").IsRecord :=
  fun _ h => (Payload.raw.inj h).symm

/-- Every action is answered with its own response type, written from a record
or as the empty object. -/
theorem OcppAction.process_responds (a : OcppAction) (req : OcppRequest) :
    Action.Returns
      (fun done : Option Payload => ∀ p, done = some p → p.answers a = true ∧ p.IsRecord)
      (a.process L E req) := by
  have hnone {a : OcppAction} : Action.Returns (σ := Server)
      (fun done : Option Payload => ∀ p, done = some p → p.answers a = true ∧ p.IsRecord)
      (pure none) :=
    .pure fun p hp => by cases hp
  cases a with
  | heartbeat =>
    rw [OcppAction.process, processHeartbeat]
    split
    · exact returns_response fun _ _ => ⟨rfl, nofun⟩
    · exact hnone
  | bootNotification =>
    rw [OcppAction.process, processBootNotification]
    split
    · exact hnone
    · refine .bind fun _ => ?_
      split
      · exact hnone
      · exact returns_response fun _ _ => ⟨rfl, nofun⟩
  | authorize =>
    rw [OcppAction.process, processAuthorize]
    split
    · exact hnone
    · exact .bind fun _ => returns_response fun _ _ => ⟨rfl, nofun⟩
  | startTransaction =>
    rw [OcppAction.process, processStartTransaction]
    split
    · exact hnone
    · exact returns_response fun _ _ => ⟨rfl, nofun⟩
  | stopTransaction =>
    rw [OcppAction.process, processStopTransaction]
    split
    · exact hnone
    · exact returns_response fun _ _ => ⟨rfl, nofun⟩
  | statusNotification =>
    rw [OcppAction.process, processStatusNotification]
    split
    · exact hnone
    · exact .bind fun _ => .bind fun _ => returns_response fun _ _ => ⟨rfl, Payload.isRecord_raw⟩
  | firmwareStatusNotification =>
    rw [OcppAction.process, processFirmwareStatusNotification]
    split
    · exact hnone
    · exact .bind fun _ => returns_response fun _ _ => ⟨rfl, Payload.isRecord_raw⟩
  | meterValues =>
    rw [OcppAction.process, processMeterValues]
    split
    · exact hnone
    · exact returns_response fun _ _ => ⟨rfl, Payload.isRecord_raw⟩
  | dataTransfer =>
    rw [OcppAction.process, processDataTransfer]
    split
    · exact hnone
    · exact .bind fun _ => returns_response fun _ _ => ⟨rfl, nofun⟩

/-- Every action is answered with its own response type. -/
theorem OcppAction.process_answers (a : OcppAction) (req : OcppRequest) :
    Action.Returns (fun done : Option Payload => ∀ p, done = some p → p.answers a = true)
      (a.process L E req) :=
  fun s p hp => (a.process_responds req s p hp).1

/-- A result that was sent is the response of the action of the message. -/
theorem sent_callResult {s : Server} {con : Connection} {payload uid : Text} {k : Int}
    {p : Payload} {d : Delivery}
    (hd : d ∈ (s.after (onMessage L E con payload)).wire)
    (hf : d.frame = .callResult k uid p) :
    ∃ req a, parseOCPPRequest L (incoming con payload) = some req ∧ req.callID = 2 ∧
      OcppAction.ofName req.action = some a ∧
      (a.process L E req s.start).1 = some p := by
  rcases onMessage_cases (L := L) E con payload s.start with
    ⟨req, a, hparse, hcall, ha⟩ | ⟨_, ds, hwire, hds⟩
  · obtain ⟨ds, hds⟩ := onMessage_request E hparse hcall ha s.start
    have hmem : d.frame ∈ ds.map Delivery.frame := by
      refine List.mem_map_of_mem ?_
      have hwire : (s.after (onMessage L E con payload)).wire = ds := hds.wire
      rwa [← hwire]
    refine ⟨req, a, hparse, hcall, ha, ?_⟩
    cases hdone : (a.process L E req s.start).1 with
    | none =>
      rw [hds.raised hdone, hf] at hmem
      simp [internalError] at hmem
    | some q =>
      obtain ⟨more, hframes, hmore⟩ := hds.answered q hdone
      rw [hframes, hf] at hmem
      rcases List.mem_cons.mp hmem with heq | later
      · cases heq
        rfl
      · obtain ⟨u, q', hq⟩ := hmore _ later
        cases hq
  · have hwire' : (s.after (onMessage L E con payload)).wire = ds := hwire
    obtain ⟨u, hu⟩ := hds d (hwire' ▸ hd)
    rw [hf] at hu
    cases hu

end Replies

end UCLinux.Ocpp
