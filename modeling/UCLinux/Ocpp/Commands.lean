import UCLinux.Ocpp.Correlation

/-!
What the commands come to. Fourteen functions build a request, look the
endpoint of a serial number up and send; they differ in the order of these
steps, in whether the request is queued, and the mobile interface also edits
profiles. `Shape` lists the forms they have, and every command is shown to
have one, so that a later argument goes through the forms and not through the
functions.
-/

namespace UCLinux.Ocpp

open Sql Machine Server CentralOcppDB

/-- The action throws and does nothing, or queues one request and returns its
frame. -/
def Builds (E : Env) (create : Act (Option Created)) : Prop :=
  ∀ s, ((create s).1 = none ∧ (create s).2.state = s.state) ∨
    ∃ (q : OcppRequest) (action : Text) (payload : Payload) (n : Nat), q.uniqueID = E.uid n ∧
      (create s).1 = some ⟨q, .call 2 q.uniqueID action payload⟩ ∧
      (create s).2.state =
        { s.state with requestQueue := s.state.requestQueue ++ [q] }

namespace Builds

variable {L : Lib} {E : Env}

theorem throws {x : Act (Option Created)} (h : ∀ s, (x s).1 = none ∧ (x s).2.state = s.state) :
    Builds E x :=
  fun s => Or.inl (h s)

/-- Creating a request and returning it. -/
theorem create (req : OcppRequest) (payload : Payload) :
    Builds E (do
      let c ← createCentralRequest L E req payload
      pure (some c)) := by
  intro s
  obtain ⟨q, huid, _, hcreated⟩ := createCentralRequest_apply L E req payload s
  refine Or.inr ⟨q, req.action, payload, s.asked, huid, ?_, ?_⟩
  · rw [Action.bind_apply, hcreated]
    rfl
  · rw [Action.bind_apply, hcreated]
    rfl

theorem clock {f : Int → Act (Option Created)} (h : ∀ n, Builds E (f n)) :
    Builds E (do
      let now ← clockNow E
      f now) :=
  fun s => h (E.clock s.asked) s.tick

theorem ite {p : Prop} [Decidable p] {x : Act (Option Created)} (h : Builds E x) :
    Builds E (if p then x else pure none) := by
  split
  · exact h
  · exact throws fun _ => ⟨rfl, rfl⟩

theorem writes {x : Act (Option Created)} (h : Builds E x) : Writes [.requestQueue] x := by
  intro s
  rcases h s with ⟨_, hstate⟩ | ⟨q, _, _, _, _, _, hstate⟩
  · rw [hstate]
    exact Only.refl _
  · rw [hstate]
    exact Only.set_requestQueue (by simp) _ _

end Builds

section Builders

variable {L : Lib} {E : Env} (req : OcppRequest)

theorem createReserveNowRequest_builds (idTag : Text) (connId reservId : Int) :
    Builds E (createReserveNowRequest L E req idTag connId reservId) :=
  .clock fun _ => .ite (.create _ _)

theorem createCancelReservationRequest_builds (reservId : Int) :
    Builds E (createCancelReservationRequest L E req reservId) :=
  .create _ _

theorem createChangeAvailabilityRequest_builds (connId : Int) (flag : Bool) :
    Builds E (createChangeAvailabilityRequest L E req connId flag) :=
  .create _ _

theorem createResetRequest_builds (type : Text) :
    Builds E (createResetRequest L E req type) :=
  .ite (.create _ _)

theorem createChangeConfigurationRequest_builds (key val : Text) :
    Builds E (createChangeConfigurationRequest L E req key val) :=
  .ite (.create _ _)

theorem createRemoteStartTransactionRequest_builds (idTag : Text) :
    Builds E (createRemoteStartTransactionRequest L E req idTag) :=
  .ite (.create _ _)

theorem createRemoteStopTransactionRequest_builds :
    Builds E (createRemoteStopTransactionRequest L E req) :=
  .create _ _

theorem createDataTransferRequest_builds (messageID data : Text) :
    Builds E (createDataTransferRequest L E req messageID data) :=
  .ite (.create _ _)

theorem createUpdateFirmwareRequest_builds :
    Builds E (createUpdateFirmwareRequest L E req) :=
  .clock fun _ => .create _ _

end Builders

/-- The items of a split text are made of its characters. -/
theorem mem_of_mem_splitFrom {delim : Char} {s item part : Text} {c : Char}
    (hpart : part ∈ splitFrom delim item s) (hc : c ∈ part) : c ∈ item ∨ c ∈ s := by
  induction s generalizing item with
  | nil =>
    unfold splitFrom at hpart
    split at hpart
    · cases hpart
    · rw [List.mem_singleton.mp hpart] at hc
      exact Or.inl hc
  | cons d s ih =>
    unfold splitFrom at hpart
    split at hpart
    · rcases List.mem_cons.mp hpart with rfl | later
      · exact Or.inl hc
      · rcases ih later with hnil | hs
        · cases hnil
        · exact Or.inr (List.mem_cons_of_mem d hs)
    · rcases ih hpart with hitem | hs
      · rcases List.mem_append.mp hitem with hitem | hd
        · exact Or.inl hitem
        · exact Or.inr (List.mem_singleton.mp hd ▸ List.mem_cons_self ..)
      · exact Or.inr (List.mem_cons_of_mem d hs)

theorem mem_of_mem_split {delim : Char} {s part : Text} {c : Char}
    (hpart : part ∈ split s delim) (hc : c ∈ part) : c ∈ s := by
  rcases mem_of_mem_splitFrom hpart hc with hnil | hs
  · cases hnil
  · exact hs

/-- The serial number text a command comes with. -/
def Command.serN : Command → Text
  | .reserveNow serN _ => serN
  | .cancelReservation serN => serN
  | .changeAvailability serN _ _ => serN
  | .reset serN _ => serN
  | .changeConfiguration serN _ _ => serN
  | .getCompositeSchedule serN => serN
  | .testChargingProfile serN _ => serN
  | .remoteStart serN _ => serN
  | .remoteStop serN => serN
  | .updateTZ serN _ _ => serN
  | .updateFW serN _ => serN
  | .configReq serN _ => serN
  | .getLocalListVersion serN => serN
  | .mobile serN _ _ _ _ => serN

/-- The serial number a mobile command is addressed to: a remote start packs
it with the tag. -/
def mobileAddressee (serN : Text) (cmd par1 : Int) : Text :=
  if OcppCommand.ofInt cmd = some .sendRemoteTransaction ∧ par1 = 1 then
    match split serN '*' with
    | sern :: _ :: _ => sern
    | _ => serN
  else serN

def Command.addressee : Command → Text
  | .mobile serN _ cmd par1 _ => mobileAddressee serN cmd par1
  | cmd => cmd.serN

/-- The forms of a command that came with `serN` and is addressed to `N`. -/
inductive Shape (L : Lib) (E : Env) (serN N : Text) : Act Outcome → Prop where
  | silent (o : Outcome) : Shape L E serN N (pure o)
  | queued {create : Act (Option Created)} (h : Builds E create) (fw : Bool) :
    Shape L E serN N (createAndSend E create N fw)
  | looked (action : Text) (payload : Payload) :
    Shape L E serN N (lookupAndSend L E N action payload)
  | direct {β : Type} {x : Act β} (hx : Writes [] x) (uid : β → Text) (action : Text)
    (payload : Payload) :
    Shape L E serN N (do
      let ip ← getIPAddrBySerNumber E N false
      let b ← x
      let ok ← sendResponse2Client E ip (.call 2 (uid b) action payload)
      pure (.returns (if ok then 1 else 0)))
  | saves (cid profileId : Int) {sern profName json : Text}
    (h : sern = "*" ∨ ∀ c ∈ sern, c ∈ serN) :
    Shape L E serN N (do
      let rv ← insertOrUpdateCSProf2DB E cid profileId profName sern json
      pure (.returns rv))
  | clears {sern : Text} (h : ∀ c ∈ sern, c ∈ serN) :
    Shape L E serN N (do
      let rv ← removeChargingProfilefromCS E sern
      pure (.returns rv))
  | reads {β : Type} {x : Act β} {f : β → Act Outcome} (hx : Writes [] x)
    (h : ∀ b, Shape L E serN N (f b)) : Shape L E serN N (x >>= f)
  | result {x : Act Outcome} (g : Outcome → Outcome) (h : Shape L E serN N x) :
    Shape L E serN N (do
      let o ← x
      pure (g o))

section Shapes

variable {L : Lib} {E : Env} {serN : Text}

theorem globalGenerateTextUID_writes {T : List Part} :
    Writes T (globalGenerateTextUID E) :=
  .bind (.ask _) fun _ => .bind (.clockNow E) fun _ => .pure _

variable (serN) in
theorem sendRemoteTransaction_shape (par1 : Int) (par2 : Text) :
    Shape L E serN
      (if par1 = 1 then
        match split serN '*' with
        | sern :: _ :: _ => sern
        | _ => serN
      else serN) (sendRemoteTransaction L E serN par1 par2) := by
  have hdata (N : Text) : Shape L E serN N (if L.prcd par2 then do
      let sent ← createAndSend E (createDataTransferRequest L E {} "13" (decimal 0x41)) N false
      pure (if sent = .throws then .throws else .returns (-1))
    else pure .throws) := by
    split
    · exact .result _ (.queued (createDataTransferRequest_builds _ _ _) _)
    · exact .silent _
  unfold sendRemoteTransaction
  by_cases hstop : par1 = 0
  · rw [if_pos hstop, if_neg (by omega)]
    exact .queued (createRemoteStopTransactionRequest_builds _) _
  · rw [if_neg hstop]
    by_cases hstart : par1 = 1
    · rw [if_pos hstart, if_pos hstart]
      rcases split serN '*' with _ | ⟨sern, _ | ⟨idTag, rest⟩⟩
      · exact hdata serN
      · exact hdata serN
      · exact .queued (createRemoteStartTransactionRequest_builds _ _) _
    · rw [if_neg hstart, if_neg hstart]
      exact .silent _

theorem saveProfile_shape (N : Text) (cid : Int) (par2 : Text) :
    Shape L E serN N (saveProfile E serN cid par2) := by
  unfold saveProfile
  split
  · next sern id profName rest hsplit =>
    split
    · exact .silent _
    · refine .saves _ _ (Or.inr fun c hc => ?_)
      exact mem_of_mem_split (hsplit ▸ List.mem_cons_self ..) hc
  · exact .silent _

theorem clearProfile_shape (N : Text) : Shape L E serN N (clearProfile E serN) := by
  unfold clearProfile
  split
  · next sern id profName rest hsplit =>
    split
    · exact .silent _
    · refine .clears fun c hc => ?_
      exact mem_of_mem_split (hsplit ▸ List.mem_cons_self ..) hc
  · exact .silent _

theorem createSendOcppCommandfromMob_shape (cid cmd par1 : Int) (par2 : Text) :
    Shape L E serN (mobileAddressee serN cmd par1)
      (createSendOcppCommandfromMob L E serN cid cmd par1 par2) := by
  have hlookup : Writes [] (getIPAddrBySerNumber E serN false) :=
    getIPAddrBySerNumber_writes (by simp)
  unfold createSendOcppCommandfromMob mobileAddressee
  cases OcppCommand.ofInt cmd with
  | none => exact .reads hlookup fun _ => .reads globalGenerateTextUID_writes fun _ => .silent _
  | some kind =>
    cases kind with
    | setChargeLimit => exact .direct globalGenerateTextUID_writes id _ _
    | setSampleInterval =>
      exact .reads hlookup fun _ => .reads globalGenerateTextUID_writes fun _ =>
        .queued (createChangeConfigurationRequest_builds _ _ _) _
    | sendRemoteTransaction =>
      have hshape := sendRemoteTransaction_shape (L := L) (E := E) serN par1 par2
      simp only [true_and]
      exact .reads hlookup fun _ => .reads globalGenerateTextUID_writes fun _ => hshape
    | simpleCommand =>
      refine .reads hlookup fun _ => .reads globalGenerateTextUID_writes fun _ => ?_
      dsimp only
      by_cases hsave : par1 = 200
      · rw [if_pos hsave]
        exact saveProfile_shape _ cid par2
      · rw [if_neg hsave]
        by_cases hclear : par1 = 201
        · rw [if_pos hclear]
          exact clearProfile_shape _
        · rw [if_neg hclear]
          by_cases hnew : par1 = 202
          · rw [if_pos hnew]
            exact .saves cid (-1) (Or.inl rfl)
          · rw [if_neg hnew]
            exact .silent _

/-- Every command has one of the forms. -/
theorem Command.shape (cmd : Command) :
    Shape L E cmd.serN cmd.addressee (cmd.exec L E) := by
  cases cmd with
  | reserveNow serN idTag => exact .queued (createReserveNowRequest_builds _ _ _ _) _
  | cancelReservation serN => exact .queued (createCancelReservationRequest_builds _ _) _
  | changeAvailability serN connId flag =>
    exact .queued (createChangeAvailabilityRequest_builds _ _ _) _
  | reset serN flag => exact .queued (createResetRequest_builds _ _) _
  | changeConfiguration serN key val =>
    exact .queued (createChangeConfigurationRequest_builds _ _ _) _
  | getCompositeSchedule serN =>
    exact .direct (x := pure ()) (.pure _) (fun _ => "1225545-54321") _ _
  | testChargingProfile serN cmd =>
    exact .reads getCSProfileFromDBByProfName_writes fun _ => .looked _ _
  | remoteStart serN idTag =>
    exact .queued (createRemoteStartTransactionRequest_builds _ _) _
  | remoteStop serN => exact .queued (createRemoteStopTransactionRequest_builds _) _
  | updateTZ serN tz dls => exact .queued (createDataTransferRequest_builds _ _ _) _
  | updateFW serN cmd => exact .queued (createUpdateFirmwareRequest_builds _) _
  | configReq serN forField => exact .looked _ _
  | getLocalListVersion serN => exact .looked _ _
  | mobile serN cid cmd par1 par2 =>
    exact createSendOcppCommandfromMob_shape cid cmd par1 par2

end Shapes

/-- An addressee is made of the characters of the text it came in. -/
theorem Command.mem_serN (cmd : Command) {c : Char} (hc : c ∈ cmd.addressee) :
    c ∈ cmd.serN := by
  cases cmd with
  | mobile serN cid kind par1 par2 =>
    unfold Command.addressee mobileAddressee at hc
    dsimp only at hc
    split at hc
    · split at hc
      · next sern idTag rest hsplit =>
        exact mem_of_mem_split (hsplit ▸ List.mem_cons_self ..) hc
      · exact hc
    · exact hc
  | _ => exact hc

end UCLinux.Ocpp
