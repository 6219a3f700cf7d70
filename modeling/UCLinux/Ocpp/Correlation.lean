import UCLinux.Machine.Threads
import UCLinux.Ocpp.Footprint

/-!
Answers meet the requests they answer. A request is queued under a fresh uid;
the first confirmation with that uid takes the entry out and is processed
under its action, every other confirmation finds nothing and changes nothing.
The rest of the queue keeps its order throughout. Nothing locks the queue, so
all this is true of threads that are at the queue one at a time; two that look
for its end together put their requests in one place.
-/

namespace UCLinux.Ocpp

open Sql Machine Server

namespace RequestQueue

variable {qs : List OcppRequest} {uid : Text}

theorem getActionByUID_of_unknown (h : uid ∉ qs.map OcppRequest.uniqueID) :
    getActionByUID uid qs = ([], qs) := by
  induction qs with
  | nil => rfl
  | cons q qs ih =>
    rw [List.map_cons, List.mem_cons, not_or] at h
    rw [getActionByUID, if_neg (Ne.symm h.1), ih h.2]

/-- Taking an entry out leaves the others in order. -/
theorem getActionByUID_of_mem (hnodup : (qs.map OcppRequest.uniqueID).Nodup)
    {q : OcppRequest} (hq : q ∈ qs) :
    getActionByUID q.uniqueID qs =
      (q.action, qs.filter (·.uniqueID ≠ q.uniqueID)) := by
  induction qs with
  | nil => cases hq
  | cons p qs ih =>
    obtain ⟨hp, hqs⟩ := List.nodup_cons.mp hnodup
    rcases List.mem_cons.mp hq with rfl | later
    · have hrest : ∀ r ∈ qs, r.uniqueID ≠ q.uniqueID := fun r hr heq =>
        hp (heq ▸ List.mem_map_of_mem hr)
      have hkeep : qs.filter (·.uniqueID ≠ q.uniqueID) = qs :=
        List.filter_eq_self.mpr (by simpa using hrest)
      simpa [getActionByUID] using hkeep.symm
    · have hne : p.uniqueID ≠ q.uniqueID := fun heq =>
        hp (heq ▸ List.mem_map_of_mem later)
      rw [getActionByUID, if_neg hne, ih hqs later]
      simp [hne]

/-- The search goes past requests with other uids. -/
theorem getActionByUID_append {ps : List OcppRequest}
    (h : uid ∉ ps.map OcppRequest.uniqueID) :
    getActionByUID uid (ps ++ qs) =
      ((getActionByUID uid qs).1, ps ++ (getActionByUID uid qs).2) := by
  induction ps with
  | nil => rfl
  | cons p ps ih =>
    rw [List.map_cons, List.mem_cons, not_or] at h
    rw [List.cons_append, getActionByUID, if_neg (Ne.symm h.1), ih h.2]
    rfl

/-- Whether or not the uid is queued, the entries with another uid stay. -/
theorem getActionByUID_snd (hnodup : (qs.map OcppRequest.uniqueID).Nodup) :
    (getActionByUID uid qs).2 = qs.filter (·.uniqueID ≠ uid) := by
  by_cases h : uid ∈ qs.map OcppRequest.uniqueID
  · obtain ⟨q, hq, rfl⟩ := List.mem_map.mp h
    rw [getActionByUID_of_mem hnodup hq]
  · rw [getActionByUID_of_unknown h]
    refine (List.filter_eq_self.mpr fun q hq => ?_).symm
    simp only [ne_eq, decide_not, Bool.not_eq_eq_eq_not, Bool.not_true,
      decide_eq_false_iff_not]
    rintro rfl
    exact h (List.mem_map_of_mem hq)

end RequestQueue

/-- The uid `globalGenerateTextUID` makes after `n` questions. -/
def Env.uid (E : Env) (n : Nat) : Text := hexText (E.rand n) ++ hexText (E.clock (n + 1))

def Env.firstUid (E : Env) : Text := E.uid 0

/-- What a queued request is, for a confirmation. -/
def OcppRequest.entry (q : OcppRequest) : Text × Text := (q.uniqueID, q.action)

theorem createCentralRequest_apply (L : Lib) (E : Env) (req : OcppRequest)
    (payload : Payload) (s : Session Server) :
    ∃ q : OcppRequest,
      q.uniqueID = E.uid s.asked ∧
      q.action = req.action ∧
      createCentralRequest L E req payload s =
        (⟨q, .call 2 q.uniqueID req.action payload⟩,
          ⟨{ s.state with requestQueue := s.state.requestQueue ++ [q] }, s.asked + 2⟩) :=
  ⟨{ req with callID := 2, uniqueID := _, reqStr := _ }, rfl, rfl, rfl⟩

theorem processIncoming_apply (L : Lib) (E : Env) (req : OcppRequest)
    (s : Session Server) :
    processIncomingCPResponseMessage L E req s =
      let found := RequestQueue.getActionByUID req.uniqueID s.state.requestQueue
      let s' : Session Server := ⟨{ s.state with requestQueue := found.2 }, s.asked⟩
      if found.1 = [] then (some false, s') else confirm L E req found.1 s' := by
  unfold processIncomingCPResponseMessage
  simp only [Action.bind_apply, Action.ite_apply, Action.pure_apply]
  rfl

/-- An empty action has no branch. -/
theorem confirm_nil (L : Lib) (E : Env) (req : OcppRequest) (s : Session Server) :
    confirm L E req [] s = (some false, s) := rfl

theorem confirm_requestQueue (L : Lib) (E : Env) (req : OcppRequest) (action : Text)
    (s : Session Server) :
    (confirm L E req action s).2.state.requestQueue = s.state.requestQueue :=
  (confirm_writes (T := [.chStations]) (by simp) s).requestQueue (by simp)

/-- A queue in which no uid occurs twice answers a confirmation by its entry. -/
theorem processIncoming_of_mem (L : Lib) (E : Env) (req : OcppRequest)
    (s : Session Server) (hnodup : (s.state.requestQueue.map OcppRequest.uniqueID).Nodup)
    {action : Text} (hq : (req.uniqueID, action) ∈ s.state.requestQueue.map OcppRequest.entry) :
    processIncomingCPResponseMessage L E req s =
      confirm L E req action
        ⟨{ s.state with
            requestQueue := s.state.requestQueue.filter (·.uniqueID ≠ req.uniqueID) },
          s.asked⟩ := by
  obtain ⟨q, hmem, hentry⟩ := List.mem_map.mp hq
  obtain ⟨huid, rfl⟩ := Prod.mk.inj hentry
  have hfound := RequestQueue.getActionByUID_of_mem hnodup hmem
  rw [huid] at hfound
  rw [processIncoming_apply, hfound]
  by_cases hempty : q.action = []
  · simp [hempty, confirm_nil]
  · simp [hempty]

theorem processIncoming_of_unknown (L : Lib) (E : Env) (req : OcppRequest)
    (s : Session Server)
    (h : req.uniqueID ∉ s.state.requestQueue.map OcppRequest.uniqueID) :
    processIncomingCPResponseMessage L E req s = (some false, s) := by
  rw [processIncoming_apply, RequestQueue.getActionByUID_of_unknown h]
  rfl

theorem processIncoming_requestQueue (L : Lib) (E : Env) (req : OcppRequest)
    (s : Session Server)
    (hnodup : (s.state.requestQueue.map OcppRequest.uniqueID).Nodup) :
    (processIncomingCPResponseMessage L E req s).2.state.requestQueue =
      s.state.requestQueue.filter (·.uniqueID ≠ req.uniqueID) := by
  rw [← RequestQueue.getActionByUID_snd hnodup, processIncoming_apply]
  dsimp only
  split
  · rfl
  · exact confirm_requestQueue ..

/-- Requests created and confirmations received. -/
inductive QueueCall where
  | create (E : Env) (req : OcppRequest) (payload : Payload)
  | callResult (E : Env) (req : OcppRequest)

inductive QueueReply where
  | created (c : Created)
  | processed (rv : Option Bool)

def QueueCall.exec (L : Lib) (s : Server) : QueueCall → Server × QueueReply
  | .create E req payload =>
    let r := createCentralRequest L E req payload ⟨s, 0⟩
    (r.2.state, .created r.1)
  | .callResult E req =>
    let r := processIncomingCPResponseMessage L E req ⟨s, 0⟩
    (r.2.state, .processed r.1)

theorem create_exec (L : Lib) (E : Env) (req : OcppRequest) (payload : Payload) (s : Server) :
    ∃ c : Created, c.req.entry = (E.firstUid, req.action) ∧
      (QueueCall.create E req payload).exec L s =
        ({ s with requestQueue := s.requestQueue ++ [c.req] }, .created c) := by
  obtain ⟨q, huid, haction, hcreated⟩ := createCentralRequest_apply L E req payload ⟨s, 0⟩
  refine ⟨⟨q, .call 2 q.uniqueID req.action payload⟩, Prod.ext huid haction, ?_⟩
  exact congrArg (fun r => (r.2.state, QueueReply.created r.1)) hcreated

theorem callResult_exec (L : Lib) (E : Env) (req : OcppRequest) (s : Server) :
    (QueueCall.callResult E req).exec L s =
      ((processIncomingCPResponseMessage L E req ⟨s, 0⟩).2.state,
        .processed (processIncomingCPResponseMessage L E req ⟨s, 0⟩).1) := rfl

/-- Where a call is: in `push_back`, which looks where the queue ends and then
puts the request there, or in the loop of `getActionByUID`. -/
inductive QueuePoint where
  | ending
  | pushing (size : Nat)
  | searching (index : Nat)
  | erasing (index : Nat) (action : Text)

/-- The calls step by step. No lock guards `request_queue`. A confirmation
does not look at the queue and is processed in the step that ends its
search. -/
def queueCalls (L : Lib) : Procedure Server QueueCall QueuePoint QueueReply where
  enter
    | .create .. => .ending
    | .callResult .. => .searching 0
  go
    | .create E req payload, s, .pushing size =>
      let c := (createCentralRequest L E req payload ⟨s, 0⟩).1
      ({ s with requestQueue := s.requestQueue.take size ++ [c.req] }, .back (.created c))
    | .create .., s, _ => (s, .on (.pushing s.requestQueue.length))
    | .callResult E req, s, .erasing index action =>
      let s' := { s with requestQueue := s.requestQueue.eraseIdx index }
      if action = [] then (s', .back (.processed (some false)))
      else
        let r := confirm L E req action ⟨s', 0⟩
        (r.2.state, .back (.processed r.1))
    | .callResult _ req, s, .searching index =>
      match s.requestQueue[index]? with
      | none => (s, .back (.processed (some false)))
      | some q =>
        if q.uniqueID = req.uniqueID then (s, .on (.erasing index q.action))
        else (s, .on (.searching (index + 1)))
    | .callResult .., s, _ => (s, .on (.searching 0))

section Calls

variable (L : Lib)

theorem create_ends (E : Env) (req : OcppRequest) (payload : Payload) (s : Server) :
    (queueCalls L).Ends (.create E req payload) ((QueueCall.create E req payload).exec L s) s
      .ending := by
  apply Procedure.Ends.on (p := s) (l := .pushing s.requestQueue.length) rfl
  apply Procedure.Ends.back
  obtain ⟨c, _, hexec⟩ := create_exec L E req payload s
  have hc : c = (createCentralRequest L E req payload ⟨s, 0⟩).1 :=
    (QueueReply.created.inj (congrArg Prod.snd hexec)).symm
  rw [hexec, hc]
  unfold queueCalls
  simp only [List.take_length]

theorem callResult_ends (E : Env) (req : OcppRequest) (s : Server) :
    (queueCalls L).Ends (.callResult E req) ((QueueCall.callResult E req).exec L s) s
      (.searching 0) := by
  apply Procedure.Ends.search s.requestQueue (·.uniqueID = req.uniqueID)
  · intro i q hat hq
    unfold queueCalls
    simp only [hat, if_neg hq]
  · intro before q after hqueue hat hbefore hq
    have hother : req.uniqueID ∉ before.map OcppRequest.uniqueID := by
      intro hmem
      obtain ⟨p, hp, huid⟩ := List.mem_map.mp hmem
      exact hbefore p hp huid
    have hfound : RequestQueue.getActionByUID req.uniqueID s.requestQueue =
        (q.action, s.requestQueue.eraseIdx before.length) := by
      rw [hqueue, RequestQueue.getActionByUID_append hother, RequestQueue.getActionByUID,
        if_pos hq, List.eraseIdx_append_of_length_le (Nat.le_refl _), Nat.sub_self]
      rfl
    have happly := processIncoming_apply L E req ⟨s, 0⟩
    simp only [hfound] at happly
    apply Procedure.Ends.on (p := s) (l := .erasing before.length q.action)
    · unfold queueCalls
      simp only [hat, if_pos hq]
    · apply Procedure.Ends.back
      rw [callResult_exec, happly]
      unfold queueCalls
      dsimp only
      split <;> rfl
  · intro hnone
    have hunknown := processIncoming_of_unknown L E req ⟨s, 0⟩ (by
      intro hmem
      obtain ⟨p, hp, huid⟩ := List.mem_map.mp hmem
      exact hnone p hp huid)
    apply Procedure.Ends.back
    rw [callResult_exec, hunknown]
    unfold queueCalls
    simp only [List.getElem?_length]

/-- A call that has the queue to itself is the call in one piece. -/
theorem queueCalls_computes : (queueCalls L).Computes (QueueCall.exec L) := by
  intro s c
  cases c with
  | create E req payload => exact create_ends L E req payload s
  | callResult E req => exact callResult_ends L E req s

end Calls

/-- What happened so far: the entries created, and the uids that were
confirmed after they were created. -/
structure QueueLog where
  created : List (Text × Text) := []
  answered : List Text := []

def QueueLog.note (log : QueueLog) : QueueCall → QueueLog
  | .create E req _ => { log with created := log.created ++ [(E.firstUid, req.action)] }
  | .callResult _ req =>
    if req.uniqueID ∈ log.created.map Prod.fst then
      { log with answered := req.uniqueID :: log.answered }
    else log

/-- The entries that wait for their confirmation. -/
def QueueLog.waiting (log : QueueLog) : List (Text × Text) :=
  log.created.filter fun c => c.1 ∉ log.answered

/-- A created uid is new. -/
def FreshUid (p : Server × QueueLog) : QueueCall → Prop
  | .create E _ _ => E.firstUid ∉ p.2.created.map Prod.fst
  | .callResult _ _ => True

instance (p : Server × QueueLog) : (c : QueueCall) → Decidable (FreshUid p c)
  | .create _ _ _ => inferInstanceAs (Decidable (_ ∉ _))
  | .callResult _ _ => inferInstanceAs (Decidable True)

/-- The queue is the list of entries that wait. -/
structure QueueMatches (p : Server × QueueLog) : Prop where
  queue : p.1.requestQueue.map OcppRequest.entry = p.2.waiting
  nodup : (p.2.created.map Prod.fst).Nodup
  answered : ∀ uid ∈ p.2.answered, uid ∈ p.2.created.map Prod.fst

namespace QueueMatches

variable {p : Server × QueueLog}

theorem uids (h : QueueMatches p) :
    p.1.requestQueue.map OcppRequest.uniqueID = p.2.waiting.map Prod.fst := by
  rw [← h.queue, List.map_map]
  rfl

theorem uids_nodup (h : QueueMatches p) :
    (p.1.requestQueue.map OcppRequest.uniqueID).Nodup := by
  rw [h.uids]
  exact (List.filter_sublist.map Prod.fst).nodup h.nodup

theorem created_step (L : Lib) (h : QueueMatches p) {E : Env} {req : OcppRequest}
    {payload : Payload} (hfresh : E.firstUid ∉ p.2.created.map Prod.fst) :
    QueueMatches (((QueueCall.create E req payload).exec L p.1).1,
      p.2.note (.create E req payload)) := by
  obtain ⟨c, hentry, hexec⟩ := create_exec L E req payload p.1
  have hnew : E.firstUid ∉ p.2.answered := fun hans => hfresh (h.answered _ hans)
  refine ⟨?_, ?_, ?_⟩
  · have hlast : [(E.firstUid, req.action)].filter (fun c => c.1 ∉ p.2.answered) =
        [(E.firstUid, req.action)] := by simp [hnew]
    dsimp only
    rw [hexec]
    dsimp only
    rw [List.map_append, h.queue, List.map_singleton, hentry]
    show _ = (p.2.created ++ [(E.firstUid, req.action)]).filter
      fun c => c.1 ∉ p.2.answered
    rw [List.filter_append, hlast]
    rfl
  · show ((p.2.created ++ [(E.firstUid, req.action)]).map Prod.fst).Nodup
    rw [List.map_append, List.map_singleton]
    exact List.nodup_append.mpr ⟨h.nodup, List.pairwise_singleton _ _, by
      intro a ha b hb
      rw [List.mem_singleton.mp hb]
      rintro rfl
      exact hfresh ha⟩
  · intro uid hans
    show uid ∈ (p.2.created ++ [(E.firstUid, req.action)]).map Prod.fst
    rw [List.map_append]
    exact List.mem_append_left _ (h.answered uid hans)

theorem callResult_step (L : Lib) (h : QueueMatches p) {E : Env} {req : OcppRequest} :
    QueueMatches (((QueueCall.callResult E req).exec L p.1).1,
      p.2.note (.callResult E req)) := by
  have hqueue : ((QueueCall.callResult E req).exec L p.1).1.requestQueue =
      p.1.requestQueue.filter (·.uniqueID ≠ req.uniqueID) :=
    processIncoming_requestQueue L E req ⟨p.1, 0⟩ h.uids_nodup
  have hentries : (p.1.requestQueue.filter (·.uniqueID ≠ req.uniqueID)).map
      OcppRequest.entry = p.2.waiting.filter (·.1 ≠ req.uniqueID) := by
    rw [← h.queue, List.filter_map]
    rfl
  by_cases hknown : req.uniqueID ∈ p.2.created.map Prod.fst
  · have hlog : p.2.note (.callResult E req) =
        { p.2 with answered := req.uniqueID :: p.2.answered } := if_pos hknown
    rw [hlog]
    refine ⟨?_, h.nodup, ?_⟩
    · dsimp only
      rw [hqueue, hentries, QueueLog.waiting, QueueLog.waiting, List.filter_filter]
      refine List.filter_congr fun c _ => ?_
      simp
    · intro uid hans
      rcases List.mem_cons.mp hans with rfl | old
      · exact hknown
      · exact h.answered uid old
  · have hlog : p.2.note (.callResult E req) = p.2 := if_neg hknown
    have hsame : p.2.waiting.filter (·.1 ≠ req.uniqueID) = p.2.waiting := by
      refine List.filter_eq_self.mpr fun c hc => ?_
      have hmem : c.1 ∈ p.2.created.map Prod.fst :=
        List.mem_map_of_mem (List.mem_of_mem_filter hc)
      simpa using fun heq : c.1 = req.uniqueID => hknown (heq ▸ hmem)
    rw [hlog]
    refine ⟨?_, h.nodup, h.answered⟩
    dsimp only
    rw [hqueue, hentries, hsame]

/-- The invariant survives every call. -/
theorem step (L : Lib) {c : QueueCall} (h : QueueMatches p) (hfresh : FreshUid p c) :
    QueueMatches ((c.exec L p.1).1, p.2.note c) := by
  cases c with
  | create E req payload => exact h.created_step L hfresh
  | callResult E req => exact h.callResult_step L

end QueueMatches

/-- How a call has to behave: what it replies and leaves behind, by the server
and the log it found. -/
def Correlated (L : Lib) (found : Server × QueueLog) (after : Server) :
    QueueCall → QueueReply → Prop
  | .create E req _, _ => ∃ q : OcppRequest, q.entry = (E.firstUid, req.action) ∧
      after.requestQueue = found.1.requestQueue ++ [q]
  | .callResult E req, reply =>
    -- the first confirmation of a created uid
    (∀ action, (req.uniqueID, action) ∈ found.2.created → req.uniqueID ∉ found.2.answered →
      let r := confirm L E req action ⟨{ found.1 with
        requestQueue := found.1.requestQueue.filter (·.uniqueID ≠ req.uniqueID) }, 0⟩
      reply = .processed r.1 ∧ after = r.2.state) ∧
    -- any other confirmation
    (req.uniqueID ∉ found.2.created.map Prod.fst ∨ req.uniqueID ∈ found.2.answered →
      reply = .processed (some false) ∧ after = found.1) ∧
    after.requestQueue = found.1.requestQueue.filter (·.uniqueID ≠ req.uniqueID)

/-- A call in one piece is correlated. -/
theorem QueueMatches.correlated (L : Lib) {p : Server × QueueLog} (h : QueueMatches p)
    (c : QueueCall) : Correlated L p (c.exec L p.1).1 c (c.exec L p.1).2 := by
  cases c with
  | create E req payload =>
    obtain ⟨c, hentry, hexec⟩ := create_exec L E req payload p.1
    exact ⟨c.req, hentry, congrArg (fun r => r.1.requestQueue) hexec⟩
  | callResult E req =>
    refine ⟨fun action hcreated hopen => ?_, fun hrejected => ?_, ?_⟩
    · have hqueued : (req.uniqueID, action) ∈ p.1.requestQueue.map OcppRequest.entry := by
        rw [h.queue]
        exact List.mem_filter.mpr ⟨hcreated, by simpa using hopen⟩
      have hmem := processIncoming_of_mem L E req ⟨p.1, 0⟩ h.uids_nodup hqueued
      rw [callResult_exec, hmem]
      exact ⟨rfl, rfl⟩
    · have hgone : req.uniqueID ∉ p.1.requestQueue.map OcppRequest.uniqueID := by
        rw [h.uids]
        intro hmem
        obtain ⟨c, hc, heq⟩ := List.mem_map.mp hmem
        obtain ⟨hcreated, hopen⟩ := List.mem_filter.mp hc
        rcases hrejected with hunknown | hanswered
        · exact hunknown (heq ▸ List.mem_map_of_mem hcreated)
        · exact of_decide_eq_true hopen (heq ▸ hanswered)
      rw [callResult_exec, processIncoming_of_unknown L E req ⟨p.1, 0⟩ hgone]
      exact ⟨rfl, rfl⟩
    · exact processIncoming_requestQueue L E req ⟨p.1, 0⟩ h.uids_nodup

/-- The calls with the log of those that returned. -/
def loggedCalls (L : Lib) : Procedure (Server × QueueLog) QueueCall QueuePoint QueueReply :=
  (queueCalls L).noting QueueLog.note

/-- Every call writes to the queue, or looks for what it would take out. -/
def readsQueue (_ : QueueCall) : Bool := false

/-- The calls that return with a turn are correlated, and those under way
return when their threads go on. -/
def CorrelatedAt {n : Nat} (L : Lib)
    (v : Visit (Threads n (Server × QueueLog) QueueCall QueuePoint) (Turn n QueueCall)) : Prop :=
  (∀ u reply, v.before.returned (loggedCalls L) v.event = some (u, reply) →
    Correlated L u.found v.after.shared.1 u.call reply) ∧
  ∀ t, ∃ i, (run (Threads.step (loggedCalls L)) v.after
    (List.replicate i (.go t))).inside t = none

/-- In every run of steps of any number of threads from an empty queue, in
which the created uids are pairwise distinct and no call begins while another
one is at the queue, each confirmation is matched with the request it answers,
once. -/
theorem callResults_correlated (L : Lib) (n : Nat) (s : Server) (hempty : s.requestQueue = [])
    (es : List (Turn n QueueCall))
    (hfresh : Meets (Threads.step (loggedCalls L)) (Threads.Begins FreshUid) (.idle (s, {})) es)
    (hapart : Meets (Threads.step (loggedCalls L)) (Threads.Apart readsQueue)
      (.idle (s, {})) es) :
    ∀ v ∈ visits (Threads.step (loggedCalls L)) (.idle (s, {})) es, CorrelatedAt L v := by
  intro v hv
  have hstart : QueueMatches (s, {}) :=
    ⟨by simp [hempty, QueueLog.waiting], List.nodup_nil, by simp⟩
  obtain ⟨hreturned, hreturns⟩ := returns_whole ((queueCalls_computes L).noting QueueLog.note)
    (fun c _ _ hreads => Bool.noConfusion hreads) (fun _ _ h hok => h.step L hok) hstart hapart
    hfresh hv
  refine ⟨fun u reply hret => ?_, hreturns⟩
  obtain ⟨hmatches, _, hwhole, _⟩ := hreturned u reply hret
  have hcorrelated := hmatches.correlated L u.call
  have hafter : (u.call.exec L u.found.1).1 = v.after.shared.1 :=
    congrArg (fun o => o.1.1) hwhole
  have hreply : (u.call.exec L u.found.1).2 = reply := congrArg Prod.snd hwhole
  rwa [hafter, hreply] at hcorrelated

/-- A library to which every confirmation is well formed. -/
def confirmingLib : Lib := { Lib.refusing with loadConfirmation := fun _ _ => true }

/-- The uid is 00. -/
def softReset : QueueCall := .create .calm { action := "Reset" } (.reset "Soft")

/-- The uid is 01. -/
def configurationAsked : QueueCall :=
  .create { Env.calm with clock := fun _ => 1 } { action := "GetConfiguration" } (.raw "{}")

/-- Two requests from two threads, the second confirmed twice. -/
theorem callResults_correlated_twice :
    (visits (Threads.step (loggedCalls confirmingLib)) (.idle (Server.empty, {}))
      (Turn.whole 0 softReset 2 ++ Turn.whole 1 configurationAsked 2 ++
        Turn.whole 1 (.callResult .calm { uniqueID := "01" }) 3 ++
        Turn.whole (1 : Fin 2) (.callResult .calm { uniqueID := "01" }) 2)).Forall
      (CorrelatedAt confirmingLib) := by
  apply List.forall_iff_forall_mem.mpr
  apply callResults_correlated confirmingLib 2 Server.empty rfl
  · unfold Meets
    decide +kernel
  · unfold Meets
    decide +kernel

/-- Two threads look where the queue ends before either has put its request
there. -/
def overlappingRequests {n : Nat} (t u : Fin n) : List (Turn n QueueCall) :=
  [.call t softReset, .call u configurationAsked, .go t, .go u, .go t, .go u,
    .call t (.callResult .calm { uniqueID := "00" }), .go t]

/-- The second request takes the place of the first, whose confirmation finds
nothing. -/
theorem overlapping_requests_lost :
    ¬∀ v ∈ visits (Threads.step (loggedCalls confirmingLib)) (.idle (Server.empty, {}))
      (overlappingRequests (0 : Fin 2) 1 ++ [.go 0]), CorrelatedAt confirmingLib v := by
  intro h
  have hlast := (h _ (last_visit_mem _ _ _)).1
  obtain ⟨found, reply, hret, hcreated, hopen, hreply⟩ :
      ∃ (found : Server × QueueLog) (reply : Option Bool),
        (run (Threads.step (loggedCalls confirmingLib)) (.idle (Server.empty, {}))
          (overlappingRequests (0 : Fin 2) 1)).returned (loggedCalls confirmingLib) (.go 0) =
          some (⟨.callResult .calm { uniqueID := "00" }, found, .searching 1⟩,
            .processed reply) ∧
        (("00" : Text), ("Reset" : Text)) ∈ found.2.created ∧
        ("00" : Text) ∉ found.2.answered ∧
        reply = some false :=
    ⟨_, _, rfl, by decide +kernel, by decide +kernel, by decide +kernel⟩
  have hconfirmed := ((hlast _ _ hret).1 "Reset" hcreated hopen).1
  rw [hreply] at hconfirmed
  cases hconfirmed

end UCLinux.Ocpp
