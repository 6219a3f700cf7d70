import UCLinux.Ocpp.Correlation
import UCLinux.Ocpp.Literals
import UCLinux.Ocpp.Reception

/-!
Which frames a message is answered with. A CALL should get one CALLRESULT or
CALLERROR with its uid, before anything the server asks for itself, and an
answer of the charge point none. The code does this except when the action
has no branch (nothing is sent), when the uid cannot stand in a JSON string
as it is, and when the payload of an expected answer does not load (an error
frame is sent for an answer).
-/

namespace UCLinux.Ocpp

open Sql Machine Server

def Frame.isReply : Frame → Bool
  | .callResult _ _ _ => true
  | .callError _ _ _ _ _ => true
  | _ => false

def Frame.isCall : Frame → Bool
  | .call _ _ _ _ => true
  | _ => false

/-- The frame answers the CALL with this uid: the uid a JSON reader finds in
it is this one. -/
def Frame.RepliesTo (uid : Text) : Frame → Prop
  | .callResult _ shown _ => unescape (cstr shown) = some uid
  | .callError _ shown _ _ _ => unescape (cstr shown) = some uid
  | _ => False

/-- Exactly one frame answers the CALL, and no CALL of the server stands
before it. -/
def AnsweredOnce (uid : Text) (frames : List Frame) : Prop :=
  ∃ before f after, frames = before ++ f :: after ∧ f.RepliesTo uid ∧
    (∀ g ∈ before ++ after, ¬ g.RepliesTo uid) ∧ ∀ g ∈ before, g.isCall = false

/-- The frames sent to a connection during an event. -/
def Server.sentTo (con : Connection) (s : Server) : List Frame :=
  (s.wire.filter (·.receiver = con)).map Delivery.frame

/-- What the answer to a text message has to be. -/
structure ProperlyAnswered (L : Lib) (payload : Text) (frames : List Frame) : Prop where
  call : ∀ uid action, IsCall L payload uid action → AnsweredOnce uid frames
  callResult : ∀ uid p, IsCallResult L payload uid p → ∀ f ∈ frames, f.isReply = false
  callError : ∀ uid, IsCallError L payload uid → ∀ f ∈ frames, f.isReply = false

/-- The payload does not load as the response the action is confirmed with. -/
def LoadFails (L : Lib) (action load : Text) : Prop :=
  match confirmationOf action with
  | some c => L.loadConfirmation c load = false
  | none => action = "DataTransfer" ∧ L.loadDataTransferResponse load = none

/-- The payload of an answer does not load as the response of the action its
uid is queued with. -/
def AnswerRejected (L : Lib) (s : Server) (payload uid : Text) : Prop :=
  LoadFails L (RequestQueue.getActionByUID (cstr uid) s.requestQueue).1
    (doSimpleExtract payload)

/-- When a message is answered as it should be. -/
structure AnswerCondition (L : Lib) (s : Server) (payload : Text) : Prop where
  call : ∀ uid action, IsCall L payload uid action →
    (OcppAction.ofName (cstr action)).isSome ∧ Plain uid
  callResult : ∀ uid p, IsCallResult L payload uid p → resultCallID p = 3 →
    ¬ AnswerRejected L s payload uid

section

variable {L : Lib} {E : Env} {s : Server} {con : Connection} {payload uid : Text}

theorem sentTo_of_receiver {t : Server} (h : ∀ d ∈ t.wire, d.receiver = con) :
    t.sentTo con = t.wire.map Delivery.frame := by
  rw [Server.sentTo, List.filter_eq_self.mpr fun d hd => by simpa using h d hd]

/-- Where nothing is sent on the way, the frames of the answer are sent. -/
theorem sentTo_of_processed (hlen : 2 < payload.length) {r : Processed} {k' : Session Server}
    (hr : processOCPPIncoming L E (incoming con payload) ⟨0, [], []⟩ s.start = (r, k'))
    (hwire : k'.state.wire = []) :
    (s.after (onMessage L E con payload)).sentTo con = r.frames := by
  obtain ⟨ds, hds, hstate⟩ := onMessage_state hlen hr
  have hsent : (s.after (onMessage L E con payload)).wire = ds := by
    rw [Server.after, hstate]
    dsimp only
    rw [hwire, List.nil_append]
  rw [sentTo_of_receiver (hsent ▸ fun d hd => (hds.2 d hd).1), hsent, hds.1]

/-- The reply to a handled CALL and what may follow it. -/
theorem sentTo_call (E : Env) (s : Server) (con : Connection) {action : Text} {a : OcppAction}
    (h : IsCall L payload uid action) (ha : OcppAction.ofName (cstr action) = some a) :
    ∃ f more, (s.after (onMessage L E con payload)).sentTo con = f :: more ∧
      (∀ u, f.RepliesTo u ↔ unescape (cstr (cstr uid)) = some u) ∧
      ∀ g ∈ more, ∃ u q, g = .call 2 u "SetChargingProfile" q := by
  obtain ⟨ds, hds⟩ := onMessage_call E con h ha s.start
  have hwire : (s.after (onMessage L E con payload)).wire = ds := hds.wire
  rw [sentTo_of_receiver (hwire ▸ hds.receiver), hwire]
  cases hdone : (a.process L E (callRequest con payload uid action) s.start).1 with
  | none =>
    exact ⟨_, [], hds.raised hdone, fun u => Iff.rfl, by simp⟩
  | some p =>
    obtain ⟨more, hframes, hmore⟩ := hds.answered p hdone
    exact ⟨_, more, hframes, fun u => Iff.rfl, hmore⟩

theorem answeredOnce_cons_iff {f : Frame} {more : List Frame}
    (hmore : ∀ g ∈ more, ¬ g.RepliesTo uid) :
    AnsweredOnce uid (f :: more) ↔ f.RepliesTo uid := by
  constructor
  · rintro ⟨before, g, after, heq, hg, hothers, _⟩
    cases before with
    | nil =>
      obtain ⟨rfl, _⟩ := List.cons.inj heq
      exact hg
    | cons b before =>
      obtain ⟨_, rfl⟩ := List.cons.inj heq
      exact absurd hg (hmore g (by simp))
  · intro hf
    exact ⟨[], f, more, rfl, hf, by simpa using hmore, by simp⟩

/-- A CALL is answered exactly when its action has a branch and its uid is
plain. -/
theorem call_answered_iff {action : Text} (h : IsCall L payload uid action) :
    AnsweredOnce uid ((s.after (onMessage L E con payload)).sentTo con) ↔
      (OcppAction.ofName (cstr action)).isSome ∧ Plain uid := by
  cases ha : OcppAction.ofName (cstr action) with
  | none =>
    have hsame : s.after (onMessage L E con payload) = s.start.state :=
      onMessage_unhandled h ha s.start
    have hnothing : (s.after (onMessage L E con payload)).sentTo con = [] := by
      simp [hsame, Server.sentTo]
    rw [hnothing]
    constructor
    · rintro ⟨before, f, after, heq, _⟩
      simp at heq
    · simp
  | some a =>
    obtain ⟨f, more, hsent, hreply, hmore⟩ := sentTo_call E s con h ha
    have hothers : ∀ g ∈ more, ¬ g.RepliesTo uid := by
      intro g hg
      obtain ⟨u, q, rfl⟩ := hmore g hg
      exact id
    rw [hsent, answeredOnce_cons_iff hothers, hreply, cstr_cstr, unescape_cstr_iff]
    simp

theorem confirm_raises_iff (req : OcppRequest) (action : Text) (k : Session Server) :
    (confirm L E req action k).1 = none ↔
      LoadFails L action (doSimpleExtract req.reqStr) := by
  unfold confirm LoadFails
  cases confirmationOf action with
  | some c => simp only [Action.pure_apply, ite_eq_right_iff, reduceCtorEq, imp_false,
      Bool.not_eq_true]
  | none =>
    dsimp only
    by_cases hdata : action = "DataTransfer"
    · rw [if_pos hdata]
      cases L.loadDataTransferResponse (doSimpleExtract req.reqStr) with
      | none => simp only [Action.pure_apply, hdata, and_self]
      | some p => simp only [Action.bind_apply, Action.pure_apply, reduceCtorEq, and_false]
    · rw [if_neg hdata]
      simp only [Action.pure_apply, reduceCtorEq, hdata, false_and]

theorem processIncoming_raises_iff (req : OcppRequest) (k : Session Server) :
    (processIncomingCPResponseMessage L E req k).1 = none ↔
      LoadFails L (RequestQueue.getActionByUID req.uniqueID k.state.requestQueue).1
        (doSimpleExtract req.reqStr) := by
  rw [processIncoming_apply]
  dsimp only
  generalize hfound : RequestQueue.getActionByUID req.uniqueID k.state.requestQueue = found
  by_cases hempty : found.1 = []
  · rw [if_pos hempty, hempty]
    exact ⟨fun h => (Option.some_ne_none _ h).elim, fun h => absurd h.1 (by decide)⟩
  · rw [if_neg hempty]
    exact confirm_raises_iff req found.1 _

theorem resultRequest_callID (p : Element) :
    (resultRequest con payload uid p).callID = resultCallID p := rfl

/-- An expected answer is answered when its payload does not load. -/
theorem sentTo_answer {p : Element} (h : IsCallResult L payload uid p)
    (hanswer : resultCallID p = 3) :
    (s.after (onMessage L E con payload)).sentTo con =
      if (processIncomingCPResponseMessage L E (resultRequest con payload uid p)
        s.start).1.isSome then []
      else [internalError (cstr uid)] := by
  have hlen : 2 < payload.length := length_of_parse h (by simp)
  have hcall : resultCallID p ≠ 2 := by omega
  have hwire : (processIncomingCPResponseMessage L E
      (resultRequest con payload uid p) s.start).2.state.wire = [] :=
    (processIncomingCPResponseMessage_writes (T := [.requestQueue, .chStations])
      (by simp) (by simp) s.start).wire (by simp)
  have hdone : processOCPPIncoming L E (incoming con payload) ⟨0, [], []⟩ s.start =
      (⟨(processIncomingCPResponseMessage L E (resultRequest con payload uid p)
          s.start).1.isSome, resultRequest con payload uid p, ⟨0, [], []⟩⟩,
        (processIncomingCPResponseMessage L E (resultRequest con payload uid p)
          s.start).2) := by
    rw [processOCPPIncoming_of_parse (E := E) (parse_callResult con h) ⟨0, [], []⟩,
      resultRequest_callID, if_neg hcall, if_pos hanswer]
    rfl
  exact sentTo_of_processed hlen hdone hwire

/-- A result whose number is not that of an answer has no branch. -/
theorem sentTo_unexpected {p : Element} (h : IsCallResult L payload uid p)
    (hanswer : resultCallID p ≠ 3) :
    (s.after (onMessage L E con payload)).sentTo con = [] := by
  have hlen : 2 < payload.length := length_of_parse h (by simp)
  have hincoming := processOCPPIncoming_of_parse (E := E)
    (parse_callResult con h) ⟨0, [], []⟩
  rw [resultRequest_callID] at hincoming
  by_cases hcall : resultCallID p = 2
  · have haction : OcppAction.ofName (resultRequest con payload uid p).action = none := by
      cases p with
      | int n => rfl
      | string t => exact absurd hcall (by simp [resultCallID])
      | other => exact absurd hcall (by simp [resultCallID])
    have hnone : processOCPPRequestAction L E (resultRequest con payload uid p)
        ⟨0, [], []⟩ s.start = (some (false, ⟨0, [], []⟩), s.start) := by
      unfold processOCPPRequestAction
      rw [haction]
      rfl
    have hstart : (resultRequest con payload uid p).action ≠ "StartTransaction" := by
      intro hstart
      rw [hstart] at haction
      exact absurd haction (by decide)
    have hdone : processOCPPIncoming L E (incoming con payload) ⟨0, [], []⟩ s.start =
        (⟨true, resultRequest con payload uid p, ⟨0, [], []⟩⟩, s.start) := by
      rw [hincoming, if_pos hcall]
      unfold processCall
      rw [Action.bind_apply, hnone]
      dsimp only
      rw [if_neg hstart]
      rfl
    exact sentTo_of_processed hlen hdone rfl
  · have hdone : processOCPPIncoming L E (incoming con payload) ⟨0, [], []⟩ s.start =
        (⟨true, resultRequest con payload uid p, ⟨0, [], []⟩⟩, s.start) := by
      rw [hincoming, if_neg hcall, if_neg hanswer]
      rfl
    exact sentTo_of_processed hlen hdone rfl

/-- An answer of the charge point is answered only when it is expected and
its payload does not load. -/
theorem callResult_unanswered_iff {p : Element} (h : IsCallResult L payload uid p) :
    (∀ f ∈ (s.after (onMessage L E con payload)).sentTo con, f.isReply = false) ↔
      (resultCallID p = 3 → ¬ AnswerRejected L s payload uid) := by
  by_cases hanswer : resultCallID p = 3
  · have hrejected : (processIncomingCPResponseMessage L E
        (resultRequest con payload uid p) s.start).1 = none ↔
        AnswerRejected L s payload uid :=
      processIncoming_raises_iff (resultRequest con payload uid p) s.start
    rw [sentTo_answer h hanswer, ← hrejected]
    cases (processIncomingCPResponseMessage L E
      (resultRequest con payload uid p) s.start).1 with
    | none => simp [hanswer, internalError, Frame.isReply]
    | some b => simp
  · rw [sentTo_unexpected h hanswer]
    simp [hanswer]

/-- An error of the charge point is not answered. -/
theorem callError_unanswered (h : IsCallError L payload uid) :
    (s.after (onMessage L E con payload)).sentTo con = [] := by
  have hlen : 2 < payload.length := by
    obtain ⟨code, desc, details, hparse⟩ := h
    exact length_of_parse hparse (by simp)
  obtain ⟨action, hparse⟩ := parse_callError con h
  have hdone : processOCPPIncoming L E (incoming con payload) ⟨0, [], []⟩ s.start =
      (⟨true, { incoming con payload with
          callID := 4, uniqueID := cstr uid, action := action }, ⟨0, [], []⟩⟩,
        s.start) := by
    rw [processOCPPIncoming_of_parse (E := E) hparse ⟨0, [], []⟩]
    rfl
  exact sentTo_of_processed hlen hdone rfl

end

/-- A CALL of the standard the server has no branch for. -/
def diagnosticsCall : Text := "[2,\"7\",\"DiagnosticsStatusNotification\",{}]"

def diagnosticsElements : List Element :=
  [.int 2, .string "7", .string "DiagnosticsStatusNotification", .other]

/-- The lib reads this CALL. -/
def diagnosticsLib : Lib := .parsing diagnosticsCall diagnosticsElements (by decide)

end UCLinux.Ocpp
