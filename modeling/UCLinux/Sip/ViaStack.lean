import UCLinux.Sip.Handler

/-!
The stack of Via entries. Entries stand one on a line or several on one line
with commas between them. The server pushes its own entry as a line of its own
and pops the first entry of the answer. Removing the first entry is right for
either form, but the 180 is only cut behind a comma: with one entry a line
there is none, and the caller is sent the entry of the server.
-/

namespace UCLinux.Sip

open Sql

/-- The Via entries of header lines. -/
def entries (via : List Text) : List Text := via.flatMap fun v => (v.splitOn ',').map trim

/-- Every line is one entry. -/
def OnePerLine (via : List Text) : Prop := ∀ v ∈ via, ',' ∉ v

/-- The answer has the entries of what was received, one a line or all on one
line. -/
structure Echoes (received answer : List Text) : Prop where
  entries : entries answer = entries received
  form : OnePerLine answer ∨ answer.length = 1

section Entries

variable {v : Text} {via : List Text}

@[simp] theorem entries_nil : entries [] = [] := rfl

theorem entries_cons (v : Text) (via : List Text) :
    entries (v :: via) = (v.splitOn ',').map trim ++ entries via := by
  simp [entries]

theorem entries_single (h : ',' ∉ v) : entries (v :: via) = trim v :: entries via := by
  rw [entries_cons, List.splitOn_eq_singleton h, List.map_singleton, List.singleton_append]

theorem entries_comma {a b : Text} (h : ',' ∉ a) :
    entries ((a ++ ',' :: b) :: via) = trim a :: entries (b :: via) := by
  rw [entries_cons, List.splitOn_append_cons_self_of_not_mem h, List.map_cons, List.cons_append,
    entries_cons]

theorem entries_ne_nil (h : via ≠ []) : entries via ≠ [] := by
  cases via with
  | nil => exact absurd rfl h
  | cons v via =>
    intro hnil
    rw [entries_cons, List.append_eq_nil_iff, List.map_eq_nil_iff] at hnil
    exact List.splitOn_ne_nil _ _ hnil.1

theorem comma_toList : ("," : String).toList = [','] := rfl

theorem cutFirstVia_comma {a b : Text} (h : ',' ∉ a) :
    cutFirstVia ((a ++ ',' :: b) :: via) = b :: via := by
  simp only [cutFirstVia, comma_toList, afterFirst_append h]

theorem cutFirstVia_single (h : ',' ∉ v) : cutFirstVia (v :: via) = v :: via := by
  simp only [cutFirstVia, comma_toList, afterFirst_none h]

theorem removeFirstVia_comma {a b : Text} (h : ',' ∉ a) :
    removeFirstVia ((a ++ ',' :: b) :: via) = b :: via := by
  have hcontains : containSubstr (a ++ ',' :: b) [','] = true := containSubstr_char.mpr (by simp)
  simp only [removeFirstVia, comma_toList, hcontains, if_true, afterFirst_append h]

theorem removeFirstVia_single (h : ',' ∉ v) : removeFirstVia (v :: via) = via := by
  have hcontains : ¬containSubstr v [','] = true := fun hc => h (containSubstr_char.mp hc)
  simp only [removeFirstVia, comma_toList, hcontains, if_false, Bool.false_eq_true]

/-- Removing the first entry takes it off the stack, in either form. -/
theorem entries_removeFirstVia (via : List Text) :
    entries (removeFirstVia via) = (entries via).tail := by
  cases via with
  | nil => rfl
  | cons v0 rest =>
    by_cases hcomma : ',' ∈ v0
    · obtain ⟨a, b, rfl, ha⟩ := exists_first hcomma
      rw [removeFirstVia_comma ha, entries_comma ha, List.tail_cons]
    · rw [removeFirstVia_single hcomma, entries_single hcomma, List.tail_cons]

/-- Cutting behind a comma does when the first line has one. -/
theorem entries_cutFirstVia (h : ',' ∈ v) :
    entries (cutFirstVia (v :: via)) = (entries (v :: via)).tail := by
  obtain ⟨a, b, rfl, ha⟩ := exists_first h
  rw [cutFirstVia_comma ha, entries_comma ha, List.tail_cons]

/-- A stack of several entries is on one line only with commas. -/
theorem comma_of_single_line (hlen : via.length = 1) (hmany : 2 ≤ (entries via).length) :
    ∃ v, via = [v] ∧ ',' ∈ v := by
  obtain ⟨v, rfl⟩ := List.length_eq_one_iff.mp hlen
  refine ⟨v, rfl, by_contra fun hcomma => ?_⟩
  rw [entries_single hcomma] at hmany
  simp at hmany

end Entries

section Messages

/-- The Via lines of a message. -/
theorem Forward.values_via (f : Forward) (sr : SipRequest)
    (hothers : ∀ h ∈ f.others, h.name ≠ "v") : (f.message sr).values "v" = f.via := by
  have hvias : (viaHeaders f.via).filter (fun h : Header => h.name = "v") = viaHeaders f.via := by
    apply List.filter_eq_self.mpr
    intro h hh
    obtain ⟨v, _, rfl⟩ := List.mem_map.mp hh
    exact decide_eq_true rfl
  have hrest : (dialogHeaders sr ++ (f.others ++ [Header.mk "l" f.contLen])).filter
      (fun h : Header => h.name = "v") = [] := by
    apply List.filter_eq_nil_iff.mpr
    intro h hh
    rcases List.mem_append.mp hh with dialog | hh
    · simp only [dialogHeaders, List.mem_cons, List.not_mem_nil, or_false] at dialog
      rcases dialog with rfl | rfl | rfl | rfl <;> simp
    · rcases List.mem_append.mp hh with other | length
      · simpa using hothers h other
      · rw [List.mem_singleton.mp length]
        simp
  unfold Message.values Forward.message
  rw [List.filter_append, hvias, hrest, List.append_nil]
  simp [viaHeaders, Function.comp_def]

theorem message_vias (kind : Kind) (strm : SipStream) (req : Request) :
    (kind.message strm req).values "v" = (kind.forward strm req).via := by
  apply Forward.values_via
  intro h hh
  have hnames : ∀ n ∈ (["m", "c", "Max-Forwards"] : List Text), n ≠ ("v" : String).toList := by
    decide
  exact hnames _ (forward_others strm req hh).name_mem

/-- The requests that are forwarded. -/
def Kind.Pushes : Kind → Prop
  | .invite | .ack | .bye | .cancel => True
  | _ => False

/-- The answers that are forwarded. -/
def Kind.Pops : Kind → Prop
  | .ringing | .ok | .terminated | .busy => True
  | _ => False

theorem ownVia_single : ',' ∉ ownVia ("UDP " ++ voipListenerIPADDR) ∧
    ',' ∉ ownVia "WSS mikerel.com" := by
  decide

/-- A forwarded request has the server's entry in front. -/
theorem Kind.Pushes.via {kind : Kind} (h : kind.Pushes) (strm : SipStream) (req : Request) :
    ∃ own, ',' ∉ own ∧ (kind.forward strm req).via = own :: req.sr.via := by
  cases kind with
  | invite =>
    refine ⟨_, ?_, rfl⟩
    cases strm.userData with
    | false => exact ownVia_single.1
    | true => exact ownVia_single.2
  | ack => exact ⟨_, ownVia_single.1, rfl⟩
  | bye => exact ⟨_, ownVia_single.1, rfl⟩
  | cancel => exact ⟨_, ownVia_single.1, rfl⟩
  | _ => exact absurd h id

/-- The answer the server forwards. -/
theorem Kind.Pops.via {kind : Kind} (h : kind.Pops) (strm : SipStream) (req : Request) :
    (kind.forward strm req).via =
      if kind = .ringing then cutFirstVia req.sr.via else removeFirstVia req.sr.via := by
  cases kind with
  | ringing => rfl
  | ok => rfl
  | terminated => rfl
  | busy => rfl
  | _ => exact absurd h id

/-- The server forwards an answer with the Via entries of the request, unless
it is a 180 with one entry a line. -/
theorem viaRestored_iff {pushed popped : Kind} (hpushed : pushed.Pushes) (hpopped : popped.Pops)
    (strm strm' : SipStream) (req ans : Request) (hvia : req.sr.via ≠ [])
    (hecho : Echoes ((pushed.message strm req).values "v") ans.sr.via) :
    entries ((popped.message strm' ans).values "v") = entries req.sr.via ↔
      ¬(popped = .ringing ∧ OnePerLine ans.sr.via) := by
  obtain ⟨own, hown, hpush⟩ := hpushed.via strm req
  obtain ⟨hentries, hform⟩ := hecho
  rw [message_vias, hpush, entries_single hown] at hentries
  rw [message_vias, hpopped.via strm' ans]
  have htail : (entries ans.sr.via).tail = entries req.sr.via := by
    rw [hentries, List.tail_cons]
  have hpos := List.length_pos_of_ne_nil (entries_ne_nil hvia)
  have hmany : 2 ≤ (entries ans.sr.via).length := by
    rw [hentries, List.length_cons]
    omega
  by_cases hringing : popped = .ringing
  · rw [if_pos hringing]
    constructor
    · rintro hkept ⟨_, hone⟩
      cases hans : ans.sr.via with
      | nil => simp [hans] at hmany
      | cons v rest =>
        have hcomma : ',' ∉ v := hone v (hans ▸ List.mem_cons_self)
        rw [hans, cutFirstVia_single hcomma, ← hans, hentries] at hkept
        have hlen := congrArg List.length hkept
        simp at hlen
    · intro hnot
      have hmerged : ¬OnePerLine ans.sr.via := fun hone => hnot ⟨hringing, hone⟩
      obtain ⟨v, hv, hcomma⟩ :=
        comma_of_single_line (hform.resolve_left hmerged) hmany
      rw [hv, entries_cutFirstVia hcomma, ← hv, htail]
  · rw [if_neg hringing, entries_removeFirstVia, htail]
    exact iff_of_true rfl fun h => hringing h.1

end Messages

section Examples

/-- An INVITE of a caller behind another proxy. -/
def proxiedInvite : Request where
  method := "INVITE sip:bob@h SIP/2.0"
  sr := { via := ["SIP/2.0/UDP p:5060;branch=2, SIP/2.0/UDP c:5060;branch=1"] }

/-- What the callee answers, one entry a line. -/
def linewiseAnswer : Request where
  method := "SIP/2.0 180 Ringing"
  sr := { via := [ownVia ("UDP " ++ voipListenerIPADDR), "SIP/2.0/UDP p:5060;branch=2",
    "SIP/2.0/UDP c:5060;branch=1"] }

theorem linewiseAnswer_echoes :
    Echoes ((Kind.invite.message callerStream proxiedInvite).values "v")
      linewiseAnswer.sr.via := by
  refine ⟨by decide +kernel, Or.inl ?_⟩
  exact (by decide +kernel : ∀ v ∈ linewiseAnswer.sr.via, ',' ∉ v)

def busyAnswer : Request := { linewiseAnswer with method := "SIP/2.0 486 Busy Here" }

/-- A 486 comes back with the entries of the caller. -/
theorem viaRestored_iff_busy :
    entries ((Kind.busy.message callerStream busyAnswer).values "v") =
      entries proxiedInvite.sr.via := by
  have hpushes : Kind.invite.Pushes := trivial
  have hpops : Kind.busy.Pops := trivial
  apply (viaRestored_iff hpushes hpops callerStream callerStream proxiedInvite busyAnswer
    (by decide) linewiseAnswer_echoes).mpr
  intro h
  cases h.1

/-- A 180 comes back with the entry of the server. -/
theorem linewiseRinging_keepsOwn :
    Echoes ((Kind.invite.message callerStream proxiedInvite).values "v")
        linewiseAnswer.sr.via ∧
      entries ((Kind.ringing.message callerStream linewiseAnswer).values "v") ≠
        entries proxiedInvite.sr.via :=
  ⟨linewiseAnswer_echoes, by decide +kernel⟩

end Examples

end UCLinux.Sip
