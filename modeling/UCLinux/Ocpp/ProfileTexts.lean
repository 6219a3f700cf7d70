import UCLinux.Ocpp.Outstanding
import UCLinux.Ocpp.Ownership
import UCLinux.Ocpp.ProfileCalls
import UCLinux.Ocpp.ReadRequests

/-!
The texts of charging profiles. A browser or a phone sends a profile
percent-encoded with a name and the serial number it is for, and reads it back
by that number or by the name. What the database does with a text that is
spliced into a statement, and `printf` with one that is its format, decides
which texts come back as they were.
-/

namespace UCLinux.Ocpp

open Sql Machine Server CentralOcppDB

/-! ## Encoding -/

/-- A text and one of its percent-encodings: every character is itself or an
escape, and a percent sign, a plus and a bar are escapes. -/
inductive PercentEncoded : Text → Text → Prop where
  | nil : PercentEncoded [] []
  | plain {c : Char} {j p : Text} (hc : c ≠ '%' ∧ c ≠ '+' ∧ c ≠ '|') (h : PercentEncoded j p) :
      PercentEncoded (c :: j) (c :: p)
  | escape {a b : Char} {hi lo : Nat} {j p : Text} (ha : hexDigit a = some hi)
      (hb : hexDigit b = some lo) (h : PercentEncoded j p) :
      PercentEncoded (Char.ofNat (16 * hi + lo) :: j) ('%' :: a :: b :: p)

theorem decodeUrl_plain {c : Char} (hc : c ≠ '%' ∧ c ≠ '+') (p : Text) :
    decodeUrl (c :: p) = c :: decodeUrl p := by
  rw [decodeUrl]
  · rintro a b c d rest rfl
    exact absurd rfl hc.1
  · rintro a b rest rfl
    exact absurd rfl hc.1
  · rintro rfl
    exact absurd rfl hc.2

theorem hexDigit_u : hexDigit 'u' = none := by decide

theorem decodeUrl_escape {a b : Char} {hi lo : Nat} (ha : hexDigit a = some hi)
    (hb : hexDigit b = some lo) (p : Text) :
    decodeUrl ('%' :: a :: b :: p) = Char.ofNat (16 * hi + lo) :: decodeUrl p := by
  have hu : a ≠ 'u' := by
    rintro rfl
    rw [hexDigit_u] at ha
    cases ha
  have hval : fromHexToI [a, b] = some (16 * hi + lo) := by
    simp [fromHexToI, ha, hb]
  rw [Ocpp.decodeUrl, if_neg hu, hval]
  intro c d e f hau
  exact absurd hau hu

/-- The server reads back what was encoded. -/
theorem PercentEncoded.decodeUrl {j p : Text} (h : PercentEncoded j p) :
    Ocpp.decodeUrl p = j := by
  induction h with
  | nil => rfl
  | plain hc _ ih => rw [decodeUrl_plain ⟨hc.1, hc.2.1⟩, ih]
  | escape ha hb _ ih => rw [decodeUrl_escape ha hb, ih]

/-- `printf` shortens every text with a percent sign it does not stop at. -/
theorem printfText_length {s t : Text} (h : printfText s = some t) :
    t.length ≤ s.length ∧ (t.length = s.length → '%' ∉ s) := by
  induction s using printfText.induct generalizing t with
  | case1 =>
    cases h
    exact ⟨Nat.le_refl _, fun _ => List.not_mem_nil⟩
  | case2 rest ih =>
    rw [printfText] at h
    obtain ⟨u, hu, rfl⟩ := Option.map_eq_some_iff.mp h
    have hle := (ih hu).1
    refine ⟨by simp only [List.length_cons]; omega, fun hlen => ?_⟩
    simp only [List.length_cons] at hlen
    omega
  | case3 rest hrest =>
    rw [printfText] at h
    · cases h
    · exact hrest
  | case4 c rest hc hrest ih =>
    rw [printfText] at h
    · obtain ⟨u, hu, rfl⟩ := Option.map_eq_some_iff.mp h
      obtain ⟨hle, hsame⟩ := ih hu
      refine ⟨by simp only [List.length_cons]; omega, fun hlen => ?_⟩
      simp only [List.length_cons, Nat.add_right_cancel_iff] at hlen
      rw [List.mem_cons, not_or]
      exact ⟨fun heq => hrest heq.symm, hsame hlen⟩
    · exact hc
    · exact hrest

theorem printfText_plain {s : Text} (h : '%' ∉ s) : printfText s = some s := by
  induction s with
  | nil => rfl
  | cons c s ih =>
    rw [List.mem_cons, not_or] at h
    rw [printfText, ih h.2]
    · rfl
    · rintro rest rfl
      exact absurd rfl h.1
    · rintro rfl
      exact absurd rfl h.1

/-- A C string is its own `printf` exactly without a percent sign. -/
theorem setResponsePrintf_text_iff {t : Text} (hnul : cstr t = t) :
    setResponsePrintf t = .text t ↔ '%' ∉ t := by
  unfold setResponsePrintf
  rw [hnul]
  constructor
  · intro h
    cases hprintf : printfText t with
    | none =>
      rw [hprintf] at h
      cases h
    | some u =>
      rw [hprintf] at h
      exact (printfText_length hprintf).2 (congrArg List.length (Reply.text.inj h))
  · intro h
    rw [printfText_plain h]

/-! ## Saving -/

/-- The serial number and the name a browser's save is for; without a bar all
stations of the client. -/
def webTarget (user : Text) : Text × Text :=
  match split user '|' with
  | sern :: profName :: _ => (sern, profName)
  | _ => ("*", user)

def doCsProfile (E : Env) (cid rid : Int) (user payload : Text) : Act Reply := do
  let rv ← insertOrUpdateCSProf2DB E cid rid (webTarget user).2 (webTarget user).1
    (decodeUrl payload)
  pure (setResponsePrintf (if rv ≠ 0 then "OK:" ++ decimal rv else "*"))

/-- A save, from the browser or as `Ocpp_SimpleCommand_SaveProfile` of the
phone. -/
inductive SaveRequest where
  | web (rid : Int) (user payload : Text)
  | mobile (serN par2 : Text)
  deriving DecidableEq, Repr

/-- The profile a save names, and what for. -/
structure ProfileSave where
  profileId : Int
  profName : Text
  sern : Text
  deriving DecidableEq, Repr

namespace SaveRequest

def payload : SaveRequest → Text
  | .web _ _ payload => payload
  | .mobile _ par2 => par2

/-- What is asked for; nothing when a phone does not send three items. -/
def save : SaveRequest → Option ProfileSave
  | .web rid user _ => some ⟨rid, (webTarget user).2, (webTarget user).1⟩
  | .mobile serN _ =>
    match split serN ',' with
    | sern :: id :: profName :: _ => (stoi id).map fun profileId => ⟨profileId, profName, sern⟩
    | _ => none

/-- The number an answer other than a star carries. -/
def Answers (L : Lib) (E : Env) (cid : Int) (s : Server) (rv : Int) : SaveRequest → Prop
  | .web rid user payload => (doCsProfile E cid rid user payload s.start).1 =
      .text ("OK:" ++ decimal rv)
  | .mobile serN par2 => 0 < rv ∧
      (createSendOcppCommandfromMob L E serN cid 103 200 par2 s.start).1 = .returns rv

def after (L : Lib) (E : Env) (cid : Int) (s : Server) : SaveRequest → Server
  | .web rid user payload => s.after (doCsProfile E cid rid user payload)
  | .mobile serN par2 => s.after (createSendOcppCommandfromMob L E serN cid 103 200 par2)

/-- The values of the save that are answered with success. -/
def Accepts (rv : Int) : SaveRequest → Prop
  | .web _ _ _ => rv ≠ 0
  | .mobile _ _ => 0 < rv

/-- The questions asked before the profile is saved. -/
def asked : SaveRequest → Nat
  | .web _ _ _ => 0
  | .mobile _ _ => 4

end SaveRequest

theorem setResponsePrintf_number (rv : Int) :
    setResponsePrintf ("OK:" ++ decimal rv) = .text ("OK:" ++ decimal rv) := by
  have hfree (c : Char) (hc : c ∉ ("OK:" : Text)) (hdigit : ¬c.isDigit) (hsign : c ≠ '-') :
      c ∉ ("OK:" ++ decimal rv : Text) := by
    rw [List.mem_append, not_or]
    exact ⟨hc, not_mem_decimal hdigit hsign rv⟩
  apply (setResponsePrintf_text_iff (cstr_of_no_nul _)).mpr
  · exact hfree '%' (by decide) (by decide) (by decide)
  · exact hfree '\x00' (by decide) (by decide) (by decide)

theorem okNumber_inj {m n : Int}
    (h : Reply.text ("OK:" ++ decimal m) = .text ("OK:" ++ decimal n)) : m = n :=
  decimal_injective (List.append_cancel_left (Reply.text.inj h))

/-- The number of a success is the number that was returned. -/
theorem savedReply_iff (n rv : Int) :
    setResponsePrintf (if n ≠ 0 then "OK:" ++ decimal n else "*") =
      .text ("OK:" ++ decimal rv) ↔ rv ≠ 0 ∧ rv = n := by
  split
  · next hn =>
    rw [setResponsePrintf_number]
    constructor
    · intro h
      obtain rfl := okNumber_inj h
      exact ⟨hn, rfl⟩
    · rintro ⟨-, rfl⟩
      rfl
  · next hn =>
    constructor
    · intro h
      have hhead : some '*' = some 'O' := congrArg List.head? (Reply.text.inj h)
      cases hhead
    · rintro ⟨hrv, rfl⟩
      exact absurd hrv hn

/-- The save of a phone is that of the profile it names. -/
theorem saveProfile_apply {E : Env} {serN par2 : Text} {cid : Int} {save : ProfileSave}
    (hsave : (SaveRequest.mobile serN par2).save = some save) (k : Session Server) :
    saveProfile E serN cid par2 k =
      (.returns (insertOrUpdateCSProf2DB E cid save.profileId save.profName save.sern
        (decodeUrl par2) k).1, (insertOrUpdateCSProf2DB E cid save.profileId save.profName
        save.sern (decodeUrl par2) k).2) := by
  unfold SaveRequest.save at hsave
  dsimp only at hsave
  unfold saveProfile
  rcases hsplit : split serN ',' with _ | ⟨sern, _ | ⟨id, _ | ⟨profName, rest⟩⟩⟩
  all_goals rw [hsplit] at hsave
  · cases hsave
  · cases hsave
  · cases hsave
  · dsimp only at hsave ⊢
    cases hid : stoi id with
    | none =>
      rw [hid] at hsave
      cases hsave
    | some profileId =>
      rw [hid] at hsave
      cases hsave
      rfl

/-- A phone's save comes after the lookup of an endpoint and a uid. -/
theorem mobileSave_apply (L : Lib) (E : Env) (serN par2 : Text) (cid : Int) (s : Server) :
    createSendOcppCommandfromMob L E serN cid 103 200 par2 s.start =
      saveProfile E serN cid par2
        ⟨s.start.state, (getIPAddrBySerNumber E serN false s.start).2.asked + 2⟩ := by
  have hlookup : Writes [] (getIPAddrBySerNumber E serN false) :=
    getIPAddrBySerNumber_writes (by simp)
  have huid : Writes [] (globalGenerateTextUID E) := globalGenerateTextUID_writes
  unfold createSendOcppCommandfromMob
  rw [hlookup.bind_apply, huid.bind_apply]
  rfl

/-- A save comes to saving its profile, in the state it began with. -/
theorem SaveRequest.apply (L : Lib) (E : Env) (cid : Int) (s : Server) {req : SaveRequest}
    {save : ProfileSave} (hsave : req.save = some save) :
    ∃ k : Session Server, k.state = s.start.state ∧ (E.raises 0 = none → k.asked = req.asked) ∧
      (∀ rv, req.Answers L E cid s rv ↔ req.Accepts rv ∧
        rv = (insertOrUpdateCSProf2DB E cid save.profileId save.profName save.sern
          (decodeUrl req.payload) k).1) ∧
      req.after L E cid s = (insertOrUpdateCSProf2DB E cid save.profileId save.profName save.sern
        (decodeUrl req.payload) k).2.state := by
  cases req with
  | web rid user payload =>
    cases hsave
    exact ⟨s.start, rfl, fun _ => rfl, fun rv => savedReply_iff _ rv, rfl⟩
  | mobile serN par2 =>
    refine ⟨⟨s.start.state, (getIPAddrBySerNumber E serN false s.start).2.asked + 2⟩, rfl, ?_, ?_,
      ?_⟩
    · intro hopen
      show (getIPAddrBySerNumber E serN false s.start).2.asked + 2 = 4
      rw [getIPAddrBySerNumber_asked, Server.start_asked, if_pos hopen]
    · intro rv
      show 0 < rv ∧ (createSendOcppCommandfromMob L E serN cid 103 200 par2 s.start).1 = _ ↔ _
      rw [mobileSave_apply, saveProfile_apply hsave]
      constructor
      · rintro ⟨hrv, heq⟩
        exact ⟨hrv, (Outcome.returns.inj heq).symm⟩
      · rintro ⟨hrv, heq⟩
        exact ⟨hrv, congrArg Outcome.returns heq.symm⟩
    · show (createSendOcppCommandfromMob L E serN cid 103 200 par2 s.start).2.state = _
      rw [mobileSave_apply, saveProfile_apply hsave]
      rfl

end UCLinux.Ocpp
