import UCLinux.Machine.Joined
import UCLinux.Sip.Bindings

/-!
Whom a message is forwarded to. An ACK, a BYE or a CANCEL goes to the user of
its To, a response to the user of its From. That user is taken from between the
first colon and the first `@` of the whole value, so what the display name
holds decides whether it is the user of the URI.
-/

namespace UCLinux.Sip

open Sql Machine

section Delimiters

variable {c d : Char} {a r u : Text}

/-- What a text without the second delimiter is cut out of. -/
theorem extractSubStr_eq_iff (hc : c ∉ a) (hr : d ∈ r) (hu : d ∉ u) (hne : d ≠ c) :
    extractSubStr (a ++ c :: r) [c] [d] = u ↔ d ∉ a ∧ ∃ t, r = u ++ d :: t := by
  constructor
  · intro hcut
    have ha : d ∉ a := by
      intro hd
      rw [extractSubStr_crossed hc hd] at hcut
      exact hu (hcut ▸ hr)
    obtain ⟨v, t, rfl, hv⟩ := exists_first hr
    have hfirst : d ∉ a ++ c :: v := by
      simp [ha, hv, hne]
    rw [extractSubStr_between hc hfirst] at hcut
    exact ⟨ha, t, by rw [hcut]⟩
  · rintro ⟨ha, t, rfl⟩
    apply extractSubStr_between hc
    simp [ha, hu, hne]

end Delimiters

section Addresses

/-- A From or To value. The display name stands in quotes and before spaces. -/
structure NameAddr where
  display : Option Text
  spaces : Nat := 1
  user : Text
  host : Text
  port : Option Text := none
  params : List Text := []
  plain : ':' ∉ user ∧ '@' ∉ user

def NameAddr.portText (a : NameAddr) : Text := a.port.elim [] fun port => ':' :: port

def NameAddr.shown (a : NameAddr) : Text :=
  a.display.elim [] fun d => '"' :: (d ++ '"' :: List.replicate a.spaces ' ')

def NameAddr.text (a : NameAddr) : Text :=
  a.shown ++ "<sip:" ++ a.user ++ "@" ++ a.host ++ a.portText ++ ">" ++ paramsText a.params

/-- The first colon and the first `@` are those around the user: the display
name has neither, or the user itself stands between its own. -/
def NameAddr.Legible (a : NameAddr) : Prop :=
  ∀ d ∈ a.display, (':' ∉ d ∧ '@' ∉ d) ∨
    ∃ x y, d = x ++ ':' :: (a.user ++ '@' :: y) ∧ ':' ∉ x ∧ '@' ∉ x

theorem NameAddr.text_parts (a : NameAddr) :
    ∃ tail, a.text = (a.shown ++ "<sip") ++ ':' :: (a.user ++ '@' :: tail) :=
  ⟨a.host ++ a.portText ++ ">" ++ paramsText a.params, by simp [NameAddr.text]⟩

/-- With a colon in the display name the user is looked for behind it. -/
theorem NameAddr.cut_display {a : NameAddr} {x y : Text}
    (hdisplay : a.display = some (x ++ ':' :: y)) (hx : ':' ∉ x) :
    extractSubStr a.text ":" "@" = a.user ↔ '@' ∉ x ∧ ∃ t, y = a.user ++ '@' :: t := by
  obtain ⟨tail, htext⟩ := a.text_parts
  have hsplit : a.text = ('"' :: x) ++ ':' :: (y ++ ('"' :: List.replicate a.spaces ' ' ++
      "<sip") ++ ':' :: (a.user ++ '@' :: tail)) := by
    rw [htext, NameAddr.shown, hdisplay]
    simp
  have hquoted : ':' ∉ '"' :: x := by simp [hx]
  rw [hsplit]
  refine (extractSubStr_eq_iff hquoted (by simp) a.plain.2 (by decide)).trans ?_
  refine and_congr (by simp) ⟨?_, ?_⟩
  · rintro ⟨t, ht⟩
    rw [List.append_assoc] at ht
    rcases List.append_eq_append_iff.mp ht with ⟨m, huser, hrest⟩ | ⟨m, hy, hrest⟩
    · -- the user would go on into the URI, past the colon in front of it
      have hcolon : ':' ∉ m := fun hm => a.plain.1 (huser ▸ List.mem_append_right _ hm)
      have hat : '@' ∉ '"' :: List.replicate a.spaces ' ' ++ "<sip" := by simp
      have hne : ':' ≠ '@' := by decide
      exact absurd hrest (joined_ne hne hat hcolon)
    · cases m with
      | nil => cases hrest
      | cons c m =>
        obtain ⟨rfl, _⟩ := List.cons.inj hrest
        exact ⟨m, hy⟩
  · rintro ⟨t, rfl⟩
    exact ⟨t ++ ('"' :: List.replicate a.spaces ' ' ++ "<sip") ++ ':' :: (a.user ++ '@' :: tail),
      by simp⟩

theorem NameAddr.cut_plain {a : NameAddr} (h : ∀ d ∈ a.display, ':' ∉ d) :
    extractSubStr a.text ":" "@" = a.user ↔ ∀ d ∈ a.display, '@' ∉ d := by
  obtain ⟨tail, htext⟩ := a.text_parts
  have hcolon : ':' ∉ a.shown ++ "<sip" := by
    unfold NameAddr.shown
    cases hdisplay : a.display with
    | none => simp
    | some d =>
      have hd := h d hdisplay
      simp [hd]
  rw [htext]
  refine (extractSubStr_eq_iff hcolon (by simp) a.plain.2 (by decide)).trans ?_
  rw [and_iff_left ⟨tail, rfl⟩]
  unfold NameAddr.shown
  cases hdisplay : a.display with
  | none => simp
  | some d => simp

/-- The user of the URI is found when the display name is legible. -/
theorem NameAddr.cut_iff (a : NameAddr) :
    extractSubStr a.text ":" "@" = a.user ↔ a.Legible := by
  by_cases hcolon : ∀ d ∈ a.display, ':' ∉ d
  · rw [NameAddr.cut_plain hcolon]
    refine forall₂_congr fun d hd => ?_
    constructor
    · exact fun hat => Or.inl ⟨hcolon d hd, hat⟩
    · rintro (⟨_, hat⟩ | ⟨x, y, rfl, _⟩)
      · exact hat
      · exact absurd (List.mem_append_right _ List.mem_cons_self) (hcolon _ hd)
  · push Not at hcolon
    obtain ⟨d, hd, hmem⟩ := hcolon
    obtain ⟨x, y, rfl, hx⟩ := exists_first hmem
    rw [NameAddr.cut_display hd hx]
    unfold NameAddr.Legible
    rw [Option.mem_def.mp hd]
    simp only [Option.mem_some_iff, forall_eq']
    constructor
    · rintro ⟨hat, t, rfl⟩
      exact Or.inr ⟨x, t, rfl, hx, hat⟩
    · rintro (⟨hno, _⟩ | ⟨x', y', heq, hx', hat⟩)
      · exact absurd hmem hno
      · obtain ⟨rfl, rfl⟩ := (joined_inj hx hx').mp heq
        exact ⟨hat, y', rfl⟩

end Addresses

section Recipients

/-- The header whose user a message is forwarded to. -/
def Kind.namedBy (sr : SipRequest) : Kind → Option Text
  | .ack | .bye | .cancel => some sr.toHdr
  | .ok | .ringing | .terminated | .busy => some sr.fromHdr
  | .register | .invite => none

/-- What is sent when a message goes to the user and to nobody else. -/
def SipServer.forwarded (s : SipServer) (user : Text) (m : Message) : List Sent :=
  (s.regClients user).elim [] fun ci => [⟨ci.host, ci.port, .message m⟩]

variable (s : SipServer) (strm : SipStream) {req : Request} {kind : Kind} {t : Text}

/-- The seven forwarders send to the user that is cut out of their header. -/
theorem handle_forwarded (hsane : req.Sane) (hdispatch : dispatch req.line1 = some kind)
    (hnamed : kind.namedBy req.sr = some t) :
    (handle s strm req).2 =
      s.forwarded (extractSubStr t ":" "@") (kind.message strm req.copied) := by
  have hkind : kind ≠ .register ∧ kind ≠ .invite := by
    constructor
    · rintro rfl
      cases hnamed
    · rintro rfl
      cases hnamed
  have hrecipient : kind.recipient s req.copied = s.regClients (extractSubStr t ":" "@") := by
    cases kind with
    | register => exact absurd rfl hkind.1
    | invite => exact absurd rfl hkind.2
    | _ =>
      cases hnamed
      rfl
  rw [handle_dispatched s strm req hsane hdispatch, process_apply s strm req.copied hkind.1,
    if_neg hkind.2, hrecipient]
  rfl

/-- Every message can be asked for. -/
theorem exists_dispatch (kind : Kind) :
    ∃ method, dispatch (removeChars method "\r\n") = some kind := by
  cases kind with
  | register => exact ⟨"REGISTER", by decide⟩
  | invite => exact ⟨"INVITE", by decide⟩
  | ok => exact ⟨"SIP/2.0 200 OK", by decide⟩
  | ringing => exact ⟨"SIP/2.0 180 Ringing", by decide⟩
  | ack => exact ⟨"ACK", by decide⟩
  | bye => exact ⟨"BYE", by decide⟩
  | cancel => exact ⟨"CANCEL", by decide⟩
  | terminated => exact ⟨"487 Request", by decide⟩
  | busy => exact ⟨"486 Busy", by decide⟩

/-- A value can be the header that a message is forwarded by. -/
theorem exists_named (hkind : kind ≠ .register ∧ kind ≠ .invite) (ht : t ≠ []) :
    ∃ req : Request, req.Sane ∧ dispatch req.line1 = some kind ∧
      kind.namedBy req.sr = some t := by
  obtain ⟨method, hmethod⟩ := exists_dispatch kind
  refine ⟨{ method := method, sr := { via := ["v"], fromHdr := t, toHdr := t } },
    ⟨List.cons_ne_nil _ _, fun hnil => ht hnil.1⟩, hmethod, ?_⟩
  cases kind with
  | register => exact absurd rfl hkind.1
  | invite => exact absurd rfl hkind.2
  | _ => rfl

theorem plain_bob : ':' ∉ ("bob" : Text) ∧ '@' ∉ ("bob" : Text) := ⟨by decide, by decide⟩

/-- Bob's From or To. -/
def bobAddr (display : Option Text) : NameAddr where
  display := display
  user := "bob"
  host := "h"
  plain := plain_bob

/-- Alice hangs up. -/
def namedBye (display : Option Text) : Request where
  method := "BYE sip:bob@h SIP/2.0\r\n"
  sr := { via := ["SIP/2.0/UDP a"], fromHdr := "<sip:alice@h>", toHdr := (bobAddr display).text }

end Recipients

end UCLinux.Sip
