import UCLinux.Ocpp.Outstanding
import UCLinux.Ocpp.Stations
import UCLinux.Ocpp.Transactions

/-!
Stopping a transaction from afar. Beside the server runs a record of the
transactions it has given an id and that no StopTransaction has ended. A
remote stop asks for transaction 3 whatever that record says, so it is right
exactly when 3 is the id of the station's latest open transaction, or when it
reaches nobody.
-/

namespace UCLinux.Ocpp

open Sql Machine Server CentralOcppDB

/-- The open transactions, oldest first: the serial number a StartTransaction
came under and the id it was answered with. -/
abbrev OpenTransactions : Type := List (Text × Int)

/-- The transaction a message ends. -/
def endedId (L : Lib) (req : OcppRequest) : Option Int :=
  if req.callID = 2 ∧ req.action = "StopTransaction" then
    (L.loadStopTransaction (doSimpleExtract req.reqStr)).map (·.transactionId)
  else none

/-- What a message leaves of them. -/
def OpenTransactions.close (txs : OpenTransactions) (sern : Text) : Option Int → OpenTransactions
  | some id => txs.filter (· ≠ (sern, id))
  | none => txs

def OpenTransactions.note (L : Lib) (txs : OpenTransactions)
    (v : Visit Server (Env × Event)) : OpenTransactions :=
  match v.event.2 with
  | .message con payload =>
    match parseOCPPRequest L (incoming con payload) with
    | some req =>
      txs.close (sernOf req) (endedId L req) ++ v.after.startedIds.map fun id => (sernOf req, id)
    | none => txs
  | _ => txs

/-- The latest open transaction of a station. -/
def OpenTransactions.latest (txs : OpenTransactions) (N : Text) : Option Int :=
  (txs.filter (·.1 = cstr N)).getLast?.map Prod.snd

/-- The serial number of the station a command stops a transaction at. -/
def Command.stops : Command → Option Text
  | .remoteStop N => some N
  | .mobile serN _ cmd par1 _ =>
    if OcppCommand.ofInt cmd = some .sendRemoteTransaction ∧ par1 = 0 then some serN else none
  | _ => none

/-- Every frame that went out stops the latest open transaction of `N`. -/
def StopRight (txs : OpenTransactions) (N : Text) (t : Server) : Prop :=
  ∀ d ∈ t.wire, ∃ uid id, d.frame = .call 2 uid "RemoteStopTransaction" (.remoteStopTransaction id) ∧
    txs.latest N = some id

/-- The questions before the endpoint of a remote stop is looked up: those of
the uid, and with the mobile interface those of an endpoint and a uid that are
not used. -/
def Command.askedBefore (E : Env) : Command → Nat
  | .mobile _ _ _ _ _ => (if E.raises 0 = none then 2 else 1) + 2 + 2
  | _ => 2

/-- A remote stop that reaches a connection finds transaction 3 the latest of
its station. -/
def StopMet (p : Server × OpenTransactions) (e : Env × Event) : Prop :=
  ∀ cmd N, e.2 = .command cmd → cmd.stops = some N → Led e.1 p.1 N (cmd.askedBefore e.1) →
    p.2.latest N = some 3

/-- A remote stop of the visit stops the right transaction. -/
def StopsRight (v : Visit (Server × OpenTransactions) (Env × Event)) : Prop :=
  ∀ cmd N, v.event.2 = .command cmd → cmd.stops = some N → StopRight v.before.2 N v.after.1

section Stopping

variable {L : Lib} {E : Env} {s : Server} {N : Text}

/-- A remote stop is sent with id 3 to the connection the lookup leads to. -/
theorem remoteStop_frames (k : Session Server) (hk : k.state = s.start.state) :
    Led E s N (k.asked + 2) ∧ (∃ uid,
        (createRemoteStopTransactionfromWeb L E N k).2.state.wire.map Delivery.frame =
          [.call 2 uid "RemoteStopTransaction" (.remoteStopTransaction 3)]) ∨
      ¬Led E s N (k.asked + 2) ∧
        (createRemoteStopTransactionfromWeb L E N k).2.state.wire = [] := by
  obtain ⟨q, _, _, hcreated⟩ := createCentralRequest_apply L E
    { action := "RemoteStopTransaction" } (.remoteStopTransaction 3) k
  generalize hk' : (⟨{ k.state with requestQueue := k.state.requestQueue ++ [q] },
    k.asked + 2⟩ : Session Server) = k' at hcreated
  have hlookup : Writes [] (getIPAddrBySerNumber E N false) :=
    getIPAddrBySerNumber_writes (by simp)
  have hrun : (createRemoteStopTransactionfromWeb L E N k).2.state =
      (sendResponse2Client E (getIPAddrBySerNumber E N false k').1
        (.call 2 q.uniqueID "RemoteStopTransaction" (.remoteStopTransaction 3))
        ⟨k'.state, (getIPAddrBySerNumber E N false k').2.asked⟩).2.state := by
    unfold createRemoteStopTransactionfromWeb createAndSend createRemoteStopTransactionRequest
    rw [Action.bind_apply, Action.bind_apply, hcreated]
    dsimp only [Action.pure_apply]
    rw [hlookup.bind_apply]
    rfl
  rw [hrun]
  have hasked : k'.asked = k.asked + 2 := by rw [← hk']
  rcases sendResponse2Client_frames (E := E) (s := s) (N := N) k'
    ⟨k'.state, (getIPAddrBySerNumber E N false k').2.asked⟩ false
    (.call 2 q.uniqueID "RemoteStopTransaction" (.remoteStopTransaction 3))
    (by rw [← hk', hk]; rfl) (by rw [← hk', hk]; rfl) (by rw [← hk', hk]; rfl) with
    ⟨hled, hframes⟩ | ⟨hled, hframes⟩
  · exact Or.inl ⟨hasked ▸ hled, q.uniqueID, hframes⟩
  · exact Or.inr ⟨hasked ▸ hled, List.map_eq_nil_iff.mp hframes⟩

/-- What a remote stop sends. -/
theorem stops_frames {cmd : Command} (hstops : cmd.stops = some N) :
    Led E s N (cmd.askedBefore E) ∧ (∃ uid,
        (s.step L (E, .command cmd)).wire.map Delivery.frame =
          [.call 2 uid "RemoteStopTransaction" (.remoteStopTransaction 3)]) ∨
      ¬Led E s N (cmd.askedBefore E) ∧ (s.step L (E, .command cmd)).wire = [] := by
  cases cmd with
  | remoteStop serN =>
    cases hstops
    exact remoteStop_frames (L := L) (s := s) s.start rfl
  | mobile serN cid kind par1 par2 =>
    unfold Command.stops at hstops
    dsimp only at hstops
    split at hstops
    · next hkind =>
      cases hstops
      obtain ⟨hkind, rfl⟩ := hkind
      have hlookup : Writes [] (getIPAddrBySerNumber E N false) :=
        getIPAddrBySerNumber_writes (by simp)
      have huid : Writes [] (globalGenerateTextUID E) := globalGenerateTextUID_writes
      have hasked := getIPAddrBySerNumber_asked (E := E) (N := N) s.start
      rw [Server.start_asked, Nat.zero_add] at hasked
      have hrun : (s.step L (E, .command (.mobile N cid kind 0 par2))) =
          (createRemoteStopTransactionfromWeb L E N
            ⟨s.start.state, (if E.raises 0 = none then 2 else 1) + 2⟩).2.state := by
        show (createSendOcppCommandfromMob L E N cid kind 0 par2 s.start).2.state = _
        unfold createSendOcppCommandfromMob
        rw [hlookup.bind_apply, huid.bind_apply, hkind, hasked]
        rfl
      rw [hrun]
      exact remoteStop_frames (L := L) (s := s)
        ⟨s.start.state, (if E.raises 0 = none then 2 else 1) + 2⟩ rfl
    · cases hstops
  | _ => cases hstops

/-- It is right exactly when it finds transaction 3 the latest. -/
theorem stopRight_iff {cmd : Command} (hstops : cmd.stops = some N) (txs : OpenTransactions) :
    StopRight txs N (s.step L (E, .command cmd)) ↔
      (Led E s N (cmd.askedBefore E) → txs.latest N = some 3) := by
  rcases stops_frames (L := L) (E := E) (s := s) hstops with
    ⟨hled, uid, hframes⟩ | ⟨hled, hnone⟩
  · constructor
    · intro h _
      have hmem : Frame.call 2 uid "RemoteStopTransaction" (.remoteStopTransaction 3) ∈
          (s.step L (E, .command cmd)).wire.map Delivery.frame := by
        rw [hframes]
        exact List.mem_singleton_self _
      obtain ⟨d, hd, hframe⟩ := List.mem_map.mp hmem
      obtain ⟨uid', id, hframe', hlatest⟩ := h d hd
      cases hframe.symm.trans hframe'
      exact hlatest
    · intro h d hd
      have hmem := List.mem_map_of_mem (f := Delivery.frame) hd
      rw [hframes] at hmem
      exact ⟨uid, 3, List.mem_singleton.mp hmem, h hled⟩
  · refine iff_of_true ?_ fun h => absurd h hled
    intro d hd
    rw [hnone] at hd
    cases hd

/-- One event. -/
theorem stopsRight_iff {v : Visit (Server × OpenTransactions) (Env × Event)}
    (hv : v.after.1 = v.before.1.step L v.event) : StopsRight v ↔ StopMet v.before v.event := by
  obtain ⟨⟨s, txs⟩, ⟨E, ev⟩, after⟩ := v
  dsimp only at hv
  constructor
  · intro h cmd N hcmd hstops
    have hright := h cmd N hcmd hstops
    dsimp only at hcmd hright
    rw [hv, hcmd] at hright
    exact (stopRight_iff hstops txs).mp hright
  · intro h cmd N hcmd hstops
    have hmet := h cmd N hcmd hstops
    dsimp only at hcmd ⊢
    rw [hv, hcmd]
    exact (stopRight_iff hstops txs).mpr hmet

end Stopping

/-- In a run from any state the remote stops are right exactly when each of
them that reaches a connection finds transaction 3 the latest open one of its
station. -/
theorem remoteStops_right_iff (L : Lib) (p : Server × OpenTransactions)
    (es : List (Env × Event)) :
    (∀ v ∈ visits (noting (Server.step L) (OpenTransactions.note L)) p es, StopsRight v) ↔
      Meets (noting (Server.step L) (OpenTransactions.note L)) StopMet p es := by
  refine forall₂_congr fun v hv => ?_
  have hafter := after_eq_step hv
  exact stopsRight_iff (L := L) (by rw [hafter]; rfl)

/-- The station of `longStart`, connected. -/
def chargingStation : Server :=
  { Server.empty with
    chStations := ⟨[⟨1, .plain "GRS-0123456789" "[::1]:5000" 1⟩], by decide, by decide⟩
    connections := [somePeer] }

/-- It starts transaction 1 and is asked to stop transaction 3. -/
theorem other_transaction_stopped :
    ¬ ∀ v ∈ visits (noting (Server.step longStartLib) (OpenTransactions.note longStartLib))
        (chargingStation, [])
        [(.calm, .message somePeer longStart), (.calm, .command (.remoteStop "GRS-0123456789"))],
      StopsRight v := by
  intro h
  have hlast := h _ (List.mem_cons_of_mem _ (List.mem_cons_self ..))
  obtain ⟨uid, id, hframe, hlatest⟩ := hlast (.remoteStop "GRS-0123456789") "GRS-0123456789" rfl rfl
    ⟨somePeer, .call 2 "00" "RemoteStopTransaction" (.remoteStopTransaction 3), true⟩
    (by decide +kernel)
  cases hframe
  exact absurd hlatest (by decide +kernel)

end UCLinux.Ocpp
