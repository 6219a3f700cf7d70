import UCLinux.Machine.Keywords
import UCLinux.Sip.Handler

/-!
The handler of a start line. The dispatcher looks for its nine texts anywhere in
the line, so the URI of a request or the reason text of a response can choose
the handler in place of the method or the status code.
-/

namespace UCLinux.Sip

open Sql Machine

section Keywords

/-- The text the dispatcher looks for. -/
def Kind.keyword : Kind → Text
  | .register => "REGISTER"
  | .invite => "INVITE"
  | .ok => "SIP/2.0 200 OK"
  | .ringing => "SIP/2.0 180 Ringing"
  | .ack => "ACK"
  | .bye => "BYE"
  | .cancel => "CANCEL"
  | .terminated => "487 Request"
  | .busy => "486 Busy"

/-- The handlers in the order they are tried. -/
def chain : List Kind :=
  [.register, .invite, .ok, .ringing, .ack, .bye, .cancel, .terminated, .busy]

theorem mem_chain (kind : Kind) : kind ∈ chain := by
  cases kind <;> decide

/-- `find` finds what occurs. -/
theorem containSubstr_iff {s sub : Text} : containSubstr s sub ↔ sub <:+: s := by
  unfold containSubstr
  induction s with
  | nil =>
    unfold find
    by_cases hsub : sub = []
    · simp [hsub]
    · simp [hsub]
  | cons c s ih =>
    rw [find, List.infix_cons_iff, ← ih]
    by_cases hstart : sub.isPrefixOf (c :: s)
    · rw [if_pos hstart]
      exact iff_of_true rfl (Or.inl (List.isPrefixOf_iff_prefix.mp hstart))
    · rw [if_neg hstart, or_iff_right fun h => hstart (List.isPrefixOf_iff_prefix.mpr h),
        Option.isSome_map]

/-- The dispatcher takes the first of the chain. -/
theorem dispatch_eq (line1 : Text) : dispatch line1 = classify Kind.keyword chain line1 := by
  unfold chain
  simp only [classify_cons, ← containSubstr_iff]
  rfl

end Keywords

section StartLines

/-- METHOD SP URI SP SIP/2.0 -/
structure RequestLine where
  method : Text
  uri : Text
  words : ' ' ∉ method ∧ ' ' ∉ uri

/-- SIP/2.0 SP code SP reason -/
structure StatusLine where
  code : Text
  reason : Text
  digits : code.length = 3 ∧ code.all Char.isDigit

def RequestLine.text (l : RequestLine) : Text :=
  l.method ++ ' ' :: (l.uri ++ ' ' :: ("SIP/2.0" : Text))

def StatusLine.text (l : StatusLine) : Text :=
  ("SIP/2.0" : Text) ++ ' ' :: (l.code ++ ' ' :: l.reason)

/-- The code of a response and the reason the dispatcher looks for with it. -/
def Kind.answer : Kind → Option (Text × Text)
  | .ok => some ("200", "OK")
  | .ringing => some ("180", "Ringing")
  | .terminated => some ("487", "Request")
  | .busy => some ("486", "Busy")
  | _ => none

/-- The kind of a response by its code. -/
def statusKind (code : Text) : Option Kind :=
  chain.find? fun kind => kind.answer.any (·.1 = code)

/-- The two parts of a keyword with a space. -/
def Kind.halves : Kind → Option (Text × Text)
  | .ok => some ("SIP/2.0", "200 OK")
  | .ringing => some ("SIP/2.0", "180 Ringing")
  | .terminated => some ("487", "Request")
  | .busy => some ("486", "Busy")
  | _ => none

/-- The URI holds the text of a handler, or goes on with one that the method
begins. -/
def RequestLine.Stray (l : RequestLine) (kind : Kind) : Prop :=
  kind.keyword <:+: l.uri ∨ ∃ w ∈ kind.halves, w.1 <:+ l.method ∧ w.2 <+: l.uri

/-- The line has the text of a handler in its code and reason, or in the reason. -/
def StatusLine.Shows (l : StatusLine) (kind : Kind) : Prop :=
  (∃ w ∈ kind.answer, w.1 = l.code ∧ w.2 <+: l.reason) ∨ kind.keyword <:+: l.reason

end StartLines

section Occurrences

variable {kind : Kind}

theorem Kind.keyword_halves {w : Text × Text} (h : w ∈ kind.halves) :
    kind.keyword = w.1 ++ ' ' :: w.2 ∧ ' ' ∉ w.1 := by
  cases kind with
  | ok => cases h; decide
  | ringing => cases h; decide
  | terminated => cases h; decide
  | busy => cases h; decide
  | _ => cases h

theorem Kind.second_ne_nil {w : Text × Text} (h : w ∈ kind.halves) : w.2 ≠ [] := by
  cases kind <;> cases h <;> decide

theorem Kind.keyword_space (h : kind.halves = none) : ' ' ∉ kind.keyword := by
  cases kind with
  | ok => cases h
  | ringing => cases h
  | terminated => cases h
  | busy => cases h
  | _ => decide

/-- The version behind the URI does not complete a keyword. -/
theorem Kind.second_starts_iff {w : Text × Text} (h : w ∈ kind.halves) {uri : Text}
    (huri : ' ' ∉ uri) : w.2 <+: uri ++ ' ' :: ("SIP/2.0" : Text) ↔ w.2 <+: uri := by
  have hanswer (a b : Text) (ha : ' ' ∉ a) (hb : ¬b <+: ("SIP/2.0" : Text)) :
      a ++ ' ' :: b <+: uri ++ ' ' :: ("SIP/2.0" : Text) ↔ a ++ ' ' :: b <+: uri := by
    rw [prefix_joined_cons_iff ha huri]
    refine iff_of_false (fun hab => hb hab.2) fun hab => huri (hab.subset ?_)
    exact List.mem_append_right _ List.mem_cons_self
  cases kind with
  | ok => cases h; exact hanswer "200" "OK" (by decide) (by decide)
  | ringing => cases h; exact hanswer "180" "Ringing" (by decide) (by decide)
  | terminated => cases h; exact prefix_joined_iff (by decide)
  | busy => cases h; exact prefix_joined_iff (by decide)
  | _ => cases h

/-- A text of a handler in a request line. -/
theorem RequestLine.occurs_iff (l : RequestLine) :
    kind.keyword <:+: l.text ↔ kind.keyword <:+: l.method ∨ l.Stray kind := by
  obtain ⟨hmethod, huri⟩ := l.words
  have hversion : ¬kind.keyword <:+: ("SIP/2.0" : Text) := by
    cases kind <;> decide
  unfold RequestLine.text RequestLine.Stray
  cases hhalves : kind.halves with
  | none =>
    have hspace := Kind.keyword_space hhalves
    rw [infix_joined_iff hspace, infix_joined_iff hspace, or_iff_left hversion]
    simp
  | some w =>
    obtain ⟨hkeyword, hfirst⟩ := Kind.keyword_halves hhalves
    have hend : ¬w.2 <+: ("SIP/2.0" : Text) := by
      cases kind <;> cases hhalves <;> decide
    have hin {t : Text} (ht : ' ' ∉ t) : ¬kind.keyword <:+: t := by
      intro hsub
      apply ht
      apply hsub.subset
      rw [hkeyword]
      exact List.mem_append_right _ List.mem_cons_self
    rw [or_iff_right (hin hmethod), or_iff_right (hin huri)]
    rw [hkeyword] at hversion ⊢
    rw [infix_joined_cons_iff hfirst hmethod, infix_joined_cons_iff hfirst huri,
      or_iff_left hversion, or_iff_left fun h => hend h.2, Kind.second_starts_iff hhalves huri]
    simp

theorem StatusLine.keyword_code (l : StatusLine) : ¬kind.keyword <:+: l.code := by
  intro hsub
  have hdigits := List.all_eq_true.mp l.digits.2
  have hall : kind.keyword.all Char.isDigit :=
    List.all_eq_true.mpr fun c hc => hdigits c (hsub.subset hc)
  revert hall
  cases kind <;> decide

theorem StatusLine.code_space (l : StatusLine) : ' ' ∉ l.code := by
  intro hspace
  have hdigit := List.all_eq_true.mp l.digits.2 _ hspace
  revert hdigit
  decide

/-- A keyword that begins with the version. -/
theorem StatusLine.occurs_version (l : StatusLine) (code reason : Text) (hcode : ' ' ∉ code) :
    ("SIP/2.0" : Text) ++ ' ' :: (code ++ ' ' :: reason) <:+: l.text ↔
      (code = l.code ∧ reason <+: l.reason) ∨
        ("SIP/2.0" : Text) ++ ' ' :: (code ++ ' ' :: reason) <:+: l.reason := by
  have hversion : ' ' ∉ ("SIP/2.0" : Text) := by decide
  have hletter : ¬("SIP/2.0" : Text) <:+ l.code := by
    intro hsub
    have hdigit := List.all_eq_true.mp l.digits.2 'S' (hsub.subset (by decide))
    revert hdigit
    decide
  unfold StatusLine.text
  rw [infix_joined_cons_iff hversion hversion, prefix_joined_cons_iff hcode l.code_space,
    infix_joined_cons_iff hversion l.code_space, and_iff_right (List.suffix_refl _),
    or_iff_right fun h : _ ∧ _ => hletter h.1]

/-- A keyword that begins with the code. -/
theorem StatusLine.occurs_code (l : StatusLine) (code reason : Text) (hcode : ' ' ∉ code)
    (hlength : code.length = 3) (hversion : ¬code <:+ ("SIP/2.0" : Text)) :
    code ++ ' ' :: reason <:+: l.text ↔
      (code = l.code ∧ reason <+: l.reason) ∨ code ++ ' ' :: reason <:+: l.reason := by
  have hsame : code <:+ l.code ↔ code = l.code :=
    ⟨fun h => h.eq_of_length (hlength.trans l.digits.1.symm), fun h => h ▸ List.suffix_refl _⟩
  unfold StatusLine.text
  rw [infix_joined_cons_iff hcode (by decide), infix_joined_cons_iff hcode l.code_space,
    or_iff_right fun h : _ ∧ _ => hversion h.1, hsame]

/-- A text of a handler in a status line. -/
theorem StatusLine.occurs_iff (l : StatusLine) :
    kind.keyword <:+: l.text ↔ l.Shows kind := by
  have hword (hspace : ' ' ∉ kind.keyword) (hno : kind.answer = none)
      (hstart : ¬kind.keyword <:+: ("SIP/2.0" : Text)) :
      kind.keyword <:+: l.text ↔ l.Shows kind := by
    unfold StatusLine.text StatusLine.Shows
    rw [infix_joined_iff hspace, infix_joined_iff hspace, or_iff_right hstart,
      or_iff_right l.keyword_code, hno]
    simp
  have hanswer {w : Text × Text} (hsome : kind.answer = some w)
      (hoccurs : kind.keyword <:+: l.text ↔
        (w.1 = l.code ∧ w.2 <+: l.reason) ∨ kind.keyword <:+: l.reason) :
      kind.keyword <:+: l.text ↔ l.Shows kind := by
    unfold StatusLine.Shows
    rw [hoccurs, hsome]
    simp
  cases kind with
  | ok => exact hanswer rfl (l.occurs_version "200" "OK" (by decide))
  | ringing => exact hanswer rfl (l.occurs_version "180" "Ringing" (by decide))
  | terminated => exact hanswer rfl (l.occurs_code "487" "Request" (by decide) rfl (by decide))
  | busy => exact hanswer rfl (l.occurs_code "486" "Busy" (by decide) rfl (by decide))
  | _ => exact hword (by decide) rfl (by decide)

end Occurrences

section Determined

/-- A start line of the grammar. -/
inductive StartLine where
  | request (l : RequestLine)
  | status (l : StatusLine)

def StartLine.text : StartLine → Text
  | .request l => l.text
  | .status l => l.text

/-- What the method alone, or the status code alone, says. -/
def StartLine.meant : StartLine → Option Kind
  | .request l => dispatch l.method
  | .status l => statusKind l.code

/-- Nothing that is tried before the handler of the method strays into the URI,
nothing that is tried before the handler of the code into the reason, and the
reason is the one that is looked for with the code. -/
def StartLine.Unmixed : StartLine → Prop
  | .request l => ∀ kind ∈ before chain (dispatch l.method), ¬l.Stray kind
  | .status l => (∀ kind ∈ statusKind l.code, l.Shows kind) ∧
      ∀ kind ∈ before chain (statusKind l.code), ¬kind.keyword <:+: l.reason

theorem statusKind_iff {code : Text} {kind : Kind} :
    statusKind code = some kind ↔ ∃ w ∈ kind.answer, w.1 = code := by
  constructor
  · intro hkind
    unfold statusKind at hkind
    have hany := List.find?_some hkind
    cases hanswer : kind.answer with
    | none =>
      rw [hanswer] at hany
      cases hany
    | some w =>
      rw [hanswer] at hany
      exact ⟨w, rfl, of_decide_eq_true hany⟩
  · rintro ⟨w, hw, rfl⟩
    cases kind with
    | ok => cases hw; decide
    | ringing => cases hw; decide
    | terminated => cases hw; decide
    | busy => cases hw; decide
    | _ => cases hw

/-- Every method has a line that is not mixed up, so nothing but its own handler
can be what it says. -/
theorem RequestLine.exists_unmixed (l : RequestLine) :
    ∃ l' : RequestLine, l'.method = l.method ∧ (StartLine.request l').Unmixed := by
  have hkeyword (kind : Kind) : ¬kind.keyword <:+: [] := by
    cases kind <;> decide
  refine ⟨⟨l.method, [], l.words.1, List.not_mem_nil⟩, rfl, fun kind _ hstray => ?_⟩
  rcases hstray with hin | ⟨w, hw, _, hin⟩
  · exact hkeyword kind hin
  · exact Kind.second_ne_nil hw (List.prefix_nil.mp hin)

/-- And so has every status code. -/
theorem StatusLine.exists_unmixed (l : StatusLine) :
    ∃ l' : StatusLine, l'.code = l.code ∧ (StartLine.status l').Unmixed := by
  cases hkind : statusKind l.code with
  | none =>
    have hkeyword (kind : Kind) : ¬kind.keyword <:+: [] := by
      cases kind <;> decide
    refine ⟨⟨l.code, [], l.digits⟩, rfl, ?_, fun kind _ => hkeyword kind⟩
    intro kind hmem
    rw [hkind] at hmem
    cases hmem
  | some own =>
    obtain ⟨w, hw, hcode⟩ := statusKind_iff.mp hkind
    have hkeyword (kind : Kind) : ¬kind.keyword <:+: w.2 := by
      cases own <;> cases hw <;> cases kind <;> decide
    refine ⟨⟨l.code, w.2, l.digits⟩, rfl, ?_, fun kind _ => hkeyword kind⟩
    intro kind hmem
    rw [hkind] at hmem
    obtain rfl := Option.mem_some_iff.mp hmem
    exact Or.inl ⟨w, hw, hcode, List.prefix_refl _⟩

/-- A start line is handled by its method or its status code exactly when it is
not mixed up. -/
theorem StartLine.dispatch_iff (l : StartLine) : dispatch l.text = l.meant ↔ l.Unmixed := by
  rw [dispatch_eq, classify_eq_iff _ fun kind _ => mem_chain kind]
  cases l with
  | request l =>
    obtain ⟨hown, hearlier⟩ :=
      (classify_eq_iff Kind.keyword fun kind _ => mem_chain kind).mp (dispatch_eq l.method).symm
    refine (and_iff_right fun kind hkind => ?_).trans (forall₂_congr fun kind hkind => ?_)
    · exact l.occurs_iff.mpr (Or.inl (hown kind hkind))
    · exact not_congr (l.occurs_iff.trans (or_iff_right (hearlier kind hkind)))
  | status l =>
    refine and_congr (forall₂_congr fun kind _ => l.occurs_iff) (forall₂_congr fun kind hkind => ?_)
    apply not_congr
    refine l.occurs_iff.trans (or_iff_right ?_)
    rintro ⟨w, hw, hcode, _⟩
    exact not_mem_before (statusKind_iff.mpr ⟨w, hw, hcode⟩).symm hkind

/-- The method of both lines is BYE. -/
theorem bye_mixed : dispatch "BYE sip:bob@h SIP/2.0" = some .bye ∧
    dispatch "BYE sip:INVITE@h SIP/2.0" = some .invite := by
  decide

end Determined

end UCLinux.Sip
