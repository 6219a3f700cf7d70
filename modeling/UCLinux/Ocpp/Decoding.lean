import UCLinux.Ocpp.Answering
import UCLinux.Ocpp.Envelope

/-!
What a reply is for a JSON reader. The server prints the uid of a CALL
between quotes as it decoded it, and the rest of a reply is JSON, so the
reader finds the uid again exactly when it needs no escape.
-/

namespace UCLinux.Ocpp

open Sql Machine Server

/-- The text is that of a JSON object. -/
def IsObject (t : Text) : Prop := ∃ ms, Json.IsText literals (.object ms) t

/-- The library writes a record as a JSON object. -/
def Lib.WritesObjects (L : Lib) : Prop :=
  ∀ p : Payload, (∀ t, p ≠ .raw t) → IsObject (L.write p)

/-- The text is that of an array whose second element is this string. -/
def SecondIs (t uid : Text) : Prop :=
  ∃ vs, Json.IsText literals (.array vs) t ∧ vs[1]? = some (.string uid)

section Replies

variable {L : Lib} {E : Env} {s : Server} {con : Connection} {payload uid : Text}

/-- An array of digits, a uid printed as it is and other elements. -/
theorem secondIs_iff {ds rest : Text} {vs : List Json.Value} (hds : Json.Digits ds)
    (hzero : ds.head? ≠ some '0') (hrest : Json.Derives literals (.elements vs) rest) :
    SecondIs ('[' :: (ds ++ ',' :: ('"' :: cstr uid ++ '"' :: ',' :: rest)) ++ [']']) uid ↔
      Plain uid := by
  constructor
  · rintro ⟨us, htext, hsecond⟩
    obtain ⟨u, us', rfl⟩ : ∃ u us', us = u :: .string uid :: us' := by
      rcases us with _ | ⟨u, _ | ⟨u', us'⟩⟩
      · cases hsecond
      · cases hsecond
      · cases hsecond
        exact ⟨u, us', rfl⟩
    have helements := (htext.brackets (by simp)).elements_digits hds
    obtain ⟨b, r, hb, heq⟩ := helements.2.elements_quoted
    exact plain_of_shown hb heq
  · intro hplain
    have hshown : cstr uid = uid := cstr_of_no_nul fun hmem =>
      absurd (hplain _ hmem).2.2 (by decide)
    rw [hshown]
    have hnumber : Json.IsText literals (.number ds) ds :=
      .of_value (.number (.of_digits hds hzero))
    have huid : Json.IsText literals (.string uid) ('"' :: uid ++ ['"']) :=
      .of_value (.string (unescape_of_plain hplain))
    have hframe : Json.IsText literals (.array (.number ds :: .string uid :: vs))
        ('[' :: (ds ++ ',' :: ('"' :: uid ++ ['"'] ++ ',' :: rest)) ++ [']']) :=
      .of_value (.array (.element hnumber (.element huid hrest)))
    refine ⟨.number ds :: .string uid :: vs, ?_, rfl⟩
    rw [List.append_assoc] at hframe
    exact hframe

/-- An object has no NUL, so it is printed as a whole. -/
theorem IsObject.shown {t : Text} (h : IsObject t) : IsObject (cstr t) := by
  obtain ⟨ms, hms⟩ := h
  rw [cstr_of_no_nul hms.no_nul]
  exact ⟨ms, hms⟩

theorem payload_isObject (hwrites : L.WritesObjects) {p : Payload} (hp : p.IsRecord) :
    IsObject (cstr (p.text L)) := by
  apply IsObject.shown
  by_cases hraw : ∃ t, p = .raw t
  · obtain ⟨t, rfl⟩ := hraw
    rw [Payload.text, hp t rfl]
    exact ⟨_, .of_value (.emptyObject Json.Blank.nil)⟩
  · have hrecord : ∀ t, p ≠ .raw t := fun t ht => hraw ⟨t, ht⟩
    have htext : p.text L = L.write p := by
      cases p with
      | raw t => exact absurd rfl (hrecord t)
      | _ => rfl
    rw [htext]
    exact hwrites p hrecord

theorem Frame.call_text (k : Int) (u action : Text) (p : Payload) :
    (Frame.call k u action p).text L =
      "[" ++ decimal k ++ ",\"" ++ cstr u ++ "\",\"" ++ cstr action ++ "\"," ++
        cstr (p.text L) ++ "]" := rfl

theorem Frame.callResult_text (k : Int) (u : Text) (p : Payload) :
    (Frame.callResult k u p).text L =
      "[" ++ decimal k ++ ",\"" ++ cstr u ++ "\"," ++ cstr (p.text L) ++ "]" := rfl

theorem Frame.callError_text (k : Int) (u errCode errDesc json : Text) :
    (Frame.callError k u errCode errDesc json).text L =
      "[" ++ decimal k ++ ",\"" ++ cstr u ++ "\",\"" ++ errCode ++ "\",\"" ++ errDesc ++ "\"," ++
        json ++ "]" := rfl

/-- A result carries its uid for a reader when it is plain. -/
theorem callResult_secondIs_iff (hwrites : L.WritesObjects) {p : Payload} (hp : p.IsRecord) :
    SecondIs ((Frame.callResult 3 uid p).text L) uid ↔ Plain uid := by
  obtain ⟨v, hv⟩ := payload_isObject hwrites hp
  have htext : (Frame.callResult 3 uid p).text L =
      '[' :: (['3'] ++ ',' :: ('"' :: cstr uid ++ '"' :: ',' :: cstr (p.text L))) ++ [']'] := by
    have hid : decimal 3 = ['3'] := by decide
    simp only [Frame.callResult_text, hid, List.append_assoc, List.cons_append]
    rfl
  rw [htext]
  exact secondIs_iff (.of_all (by decide) (by decide)) (by decide) (.lastElement hv)

/-- So does the error frame. -/
theorem internalError_secondIs_iff :
    SecondIs ((internalError uid).text L) uid ↔ Plain uid := by
  have hcode : Json.IsText literals (.string "InternalError") "\"InternalError\"" :=
    .of_value (.string (b := "InternalError") (by decide))
  have hdesc : Json.IsText literals (.string "**") "\"**\"" :=
    .of_value (.string (b := "**") (by decide))
  have hempty : Json.IsText literals (.object []) "\x7b\x7d" :=
    .of_value (.emptyObject Json.Blank.nil)
  have htext : (internalError uid).text L = '[' :: (['4'] ++ ',' :: ('"' :: cstr uid ++
      '"' :: ',' :: ("\"InternalError\"" ++ ',' :: ("\"**\"" ++ ',' :: "\x7b\x7d")))) ++ [']'] := by
    have hid : decimal 4 = ['4'] := by decide
    simp only [internalError, Frame.callError_text, hid, List.append_assoc, List.cons_append]
    rfl
  rw [htext]
  exact secondIs_iff (.of_all (by decide) (by decide)) (by decide)
    (.element hcode (.element hdesc (.lastElement hempty)))

/-- The one reply to a handled CALL. -/
theorem sentTo_reply (E : Env) (s : Server) (con : Connection) {action : Text} {a : OcppAction}
    (h : IsCall L payload uid action) (ha : OcppAction.ofName (cstr action) = some a) :
    ∃ f more, (s.after (onMessage L E con payload)).sentTo con = f :: more ∧
      (f = internalError (cstr uid) ∨ ∃ p : Payload, p.IsRecord ∧ f = .callResult 3 (cstr uid) p) ∧
      f.isReply = true ∧ ∀ g ∈ more, g.isReply = false := by
  obtain ⟨ds, hds⟩ := onMessage_call E con h ha s.start
  have hwire : (s.after (onMessage L E con payload)).wire = ds := hds.wire
  rw [sentTo_of_receiver (hwire ▸ hds.receiver), hwire]
  have hresponds := a.process_responds (L := L) (E := E) (callRequest con payload uid action)
    s.start
  cases hdone : (a.process L E (callRequest con payload uid action) s.start).1 with
  | none => exact ⟨_, [], hds.raised hdone, Or.inl rfl, rfl, by simp⟩
  | some p =>
    obtain ⟨more, hframes, hmore⟩ := hds.answered p hdone
    refine ⟨_, more, hframes, Or.inr ⟨p, (hresponds p hdone).2, rfl⟩, rfl, ?_⟩
    intro g hg
    obtain ⟨u, q, rfl⟩ := hmore g hg
    rfl

end Replies

/-- Every reply to a CALL is a JSON array whose second element is the uid of
the CALL exactly when the CALL is not replied to, its action having no branch,
or its uid needs no escape. -/
theorem replies_secondIs_iff (L : Lib) (E : Env) (s : Server) (con : Connection)
    (payload uid action : Text) (hwrites : L.WritesObjects) (h : IsCall L payload uid action) :
    (∀ f ∈ (s.after (onMessage L E con payload)).sentTo con, f.isReply = true →
      SecondIs (f.text L) uid) ↔
      OcppAction.ofName (cstr action) = none ∨ Plain uid := by
  cases ha : OcppAction.ofName (cstr action) with
  | none =>
    have hsame : s.after (onMessage L E con payload) = s.start.state :=
      onMessage_unhandled h ha s.start
    simp [hsame, Server.sentTo]
  | some a =>
    obtain ⟨f, more, hsent, hkind, hreply, hmore⟩ := sentTo_reply E s con h ha
    have hf : SecondIs (f.text L) uid ↔ Plain uid := by
      have hshown (g : Text → Frame) (hg : (g (cstr uid)).text L = (g uid).text L) :
          SecondIs ((g (cstr uid)).text L) uid ↔ SecondIs ((g uid).text L) uid := by rw [hg]
      rcases hkind with rfl | ⟨p, hp, rfl⟩
      · rw [hshown internalError (by simp [internalError, Frame.callError_text]),
          internalError_secondIs_iff]
      · rw [hshown (fun u => .callResult 3 u p) (by simp [Frame.callResult_text]),
          callResult_secondIs_iff hwrites hp]
    rw [hsent, ← hf]
    constructor
    · intro hall
      exact Or.inr (hall f (List.mem_cons_self ..) hreply)
    · intro hone g hg hgreply
      rcases List.mem_cons.mp hg with rfl | later
      · exact hone.resolve_left (by simp)
      · rw [hmore g later] at hgreply
        cases hgreply

/-- A StatusNotification without its fields, which is answered with an error
frame; its uid as it is written and as it decodes. -/
def bareStatusFrame (written : Text) : Text :=
  "[2,\"" ++ written ++ "\",\"StatusNotification\",\x7b\x7d]"

/-- A library that reads it. -/
def bareStatusLib (written uid : Text) (h : 9 ≤ (cstr (bareStatusFrame written)).length) : Lib :=
  { Lib.parsing (bareStatusFrame written)
      [.int 2, .string uid, .string "StatusNotification", .other] h with
    write := fun _ => "\x7b\x7d" }

theorem bareStatusLib_writesObjects (written uid : Text)
    (h : 9 ≤ (cstr (bareStatusFrame written)).length) : (bareStatusLib written uid h).WritesObjects :=
  fun _ _ => ⟨_, .of_value (.emptyObject Json.Blank.nil)⟩

theorem bareStatusLib_isCall (written uid : Text)
    (h : 9 ≤ (cstr (bareStatusFrame written)).length) :
    IsCall (bareStatusLib written uid h) (bareStatusFrame written) uid "StatusNotification" :=
  ⟨.other, if_pos rfl⟩

/-- An ordinary uid. -/
theorem replies_secondIs_iff_bare :
    ((Server.empty.after (onMessage (bareStatusLib "7" "7" (by decide)) .calm somePeer
      (bareStatusFrame "7"))).sentTo somePeer).Forall fun f => f.isReply = true →
        SecondIs (f.text (bareStatusLib "7" "7" (by decide))) "7" := by
  apply List.forall_iff_forall_mem.mpr
  have hplain : ∀ c ∈ ("7" : Text), c ≠ '"' ∧ c ≠ '\\' ∧ 0x20 ≤ c.toNat := by simp
  exact (replies_secondIs_iff _ _ _ _ _ _ _ (bareStatusLib_writesObjects _ _ _)
    (bareStatusLib_isCall _ _ _)).mpr (Or.inr hplain)

/-- A library that reads the uid `"`, written with an escape. -/
def quotedUidLib : Lib := bareStatusLib "\\\"" "\"" (by decide)

/-- The reply to it is no JSON with this uid. -/
theorem quoted_uid_lost :
    quotedUidLib.WritesObjects ∧
      IsCall quotedUidLib (bareStatusFrame "\\\"") "\"" "StatusNotification" ∧
      ¬ ∀ f ∈ (Server.empty.after (onMessage quotedUidLib .calm somePeer
        (bareStatusFrame "\\\""))).sentTo somePeer, f.isReply = true →
        SecondIs (f.text quotedUidLib) "\"" := by
  refine ⟨bareStatusLib_writesObjects _ _ _, bareStatusLib_isCall _ _ _, fun h => ?_⟩
  have hsent : (Server.empty.after (onMessage quotedUidLib .calm somePeer
      (bareStatusFrame "\\\""))).sentTo somePeer = [internalError "\""] := by decide
  have hsecond := h (internalError "\"") (by rw [hsent]; simp) rfl
  have hplain := (internalError_secondIs_iff.mp hsecond) '"' (by decide)
  exact absurd rfl hplain.1

end UCLinux.Ocpp
