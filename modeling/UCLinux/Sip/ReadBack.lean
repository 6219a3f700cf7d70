import UCLinux.Sip.Message

/-!
What is written is read back. A message whose lines are clean and fit the
buffer is read as its headers one after another, up to its blank line; a line
that does not fit overflows. And what was read is clean and did fit.
-/

namespace UCLinux.Sip

open Sql Machine

/-- No character of the text ends a line or a C string. -/
def Clean (t : Text) : Prop := ∀ c ∈ t, c ≠ '\r' ∧ c ≠ '\n' ∧ c ≠ '\x00'

instance (t : Text) : Decidable (Clean t) := List.decidableBAll _ t

namespace Clean

variable {a b : Text}

theorem nil : Clean [] := fun _ h => by cases h

theorem append (ha : Clean a) (hb : Clean b) : Clean (a ++ b) := by
  intro c hc
  rcases List.mem_append.mp hc with left | right
  · exact ha c left
  · exact hb c right

theorem of_subset (hb : Clean b) (h : a ⊆ b) : Clean a := fun c hc => hb c (h hc)

theorem noFeed (h : Clean a) : '\n' ∉ a := fun hc => (h _ hc).2.1 rfl

theorem noNul (h : Clean a) : '\x00' ∉ a := fun hc => (h _ hc).2.2 rfl

/-- The part of a line before its line end. -/
theorem takeWhile_lineEnd (h : Clean a) :
    (a ++ ['\r', '\n']).takeWhile (fun c => c ≠ '\r' ∧ c ≠ '\n') = a := by
  rw [List.takeWhile_append_of_pos]
  · simp
  · intro c hc
    exact decide_eq_true ⟨(h c hc).1, (h c hc).2.1⟩

theorem cstr_line (h : Clean a) : cstr (a ++ ['\r', '\n']) = a ++ ['\r', '\n'] := by
  apply cstr_of_no_nul
  intro hc
  rcases List.mem_append.mp hc with left | right
  · exact h.noNul left
  · simp at right

end Clean

/-- A header that is read as it is written. -/
structure Header.Wellformed (h : Header) : Prop where
  named : h.name ≠ []
  noColon : ':' ∉ h.name
  name : Clean h.name
  value : Clean h.value

structure Message.Wellformed (m : Message) : Prop where
  startLine : Clean m.startLine
  headers : ∀ h ∈ m.headers, h.Wellformed

/-- Every line fits a buffer, with its line feed and the NUL behind it. -/
def Message.Fits (m : Message) (bufsiz : Nat) : Prop := ∀ l ∈ m.lines, l.length + 1 < bufsiz

/-- What one header line of a message says. -/
def SipRequest.readHeader (sr : SipRequest) (h : Header) : SipRequest :=
  if h.value = [] then sr else sr.addHeader h.name h.value

section Fields

variable {β : Type} {field : SipRequest → β} {names : List Text}

/-- A header of another name leaves a field alone. -/
theorem SipRequest.readHeader_keeps
    (hadd : ∀ (sr : SipRequest) name val, name ∈ names →
      field (sr.addHeader name val) = field sr) {h : Header} (hname : h.name ∈ names)
    (sr : SipRequest) : field (sr.readHeader h) = field sr := by
  unfold SipRequest.readHeader
  split
  · rfl
  · exact hadd sr h.name h.value hname

theorem SipRequest.foldl_keeps
    (hadd : ∀ (sr : SipRequest) name val, name ∈ names →
      field (sr.addHeader name val) = field sr) {hs : List Header}
    (hnames : ∀ h ∈ hs, h.name ∈ names) (sr : SipRequest) :
    field (hs.foldl SipRequest.readHeader sr) = field sr := by
  induction hs generalizing sr with
  | nil => rfl
  | cons h hs ih =>
    rw [List.foldl_cons, ih fun h' hh' => hnames h' (List.mem_cons_of_mem _ hh'),
      readHeader_keeps hadd (hnames h List.mem_cons_self)]

end Fields

section Lines

variable {bufsiz : Nat} {h : Header}

theorem cutColon_append {key val : Text} (hkey : ':' ∉ key) :
    cutColon (key ++ ':' :: ' ' :: val) = some (key, val) := by
  induction key with
  | nil => rfl
  | cons c key ih =>
    have hne : c ≠ ':' := fun heq => hkey (heq ▸ List.mem_cons_self)
    have hkey' : ':' ∉ key := fun hmem => hkey (List.mem_cons_of_mem _ hmem)
    rw [List.cons_append, cutColon, ih hkey']
    · rfl
    · intro _ heq
      exact absurd heq hne

theorem Header.Wellformed.clean (hh : h.Wellformed) : Clean (h.name ++ [':', ' '] ++ h.value) := by
  refine (hh.name.append ?_).append hh.value
  decide

theorem Header.Wellformed.line_eq (_hh : h.Wellformed) :
    h.line ++ ['\n'] = (h.name ++ [':', ' '] ++ h.value) ++ ['\r', '\n'] := by
  simp [Header.line]

theorem matchHeader_line (hh : h.Wellformed) :
    matchHeader (h.line ++ ['\n']) = if h.value = [] then none else some (h.name, h.value) := by
  rw [hh.line_eq]
  unfold matchHeader
  rw [hh.clean.takeWhile_lineEnd]
  simp only [if_true]
  cases hname : h.name with
  | nil => exact absurd hname hh.named
  | cons c name =>
    have hcolon : ':' ∉ name := fun hmem => hh.noColon (hname ▸ List.mem_cons_of_mem _ hmem)
    have hcut : cutColon (name ++ ':' :: ' ' :: h.value) = _ := cutColon_append hcolon
    simp only [List.cons_append, List.append_assoc, List.nil_append]
    rw [hcut]

theorem socketReadln_cons {line : Text} {rest : List Text} (hrest : rest ≠ []) :
    socketReadln bufsiz (line :: rest) =
      if line.length < bufsiz then .ok (cstr line, rest) else .error .overflow := by
  cases rest with
  | nil => exact absurd rfl hrest
  | cons l ls => rfl

/-- The blank line ends the headers. -/
theorem readHeaders_blank {sr : SipRequest} {n : Nat} {rest : List Text} (hrest : rest ≠ [])
    (hfits : 2 < bufsiz) :
    readHeaders bufsiz sr n (['\r', '\n'] :: rest) = .ok (sr, n, rest.flatten) := by
  rw [readHeaders, socketReadln_cons hrest, if_pos (by simpa using hfits)]
  rfl

theorem readHeaders_line {sr : SipRequest} {n : Nat} {rest : List Text} (hrest : rest ≠ [])
    (hh : h.Wellformed) (hfits : h.line.length + 1 < bufsiz) :
    readHeaders bufsiz sr n ((h.line ++ ['\n']) :: rest) =
      readHeaders bufsiz (sr.readHeader h) (if h.value = [] then n else n + 1) rest := by
  have hcstr : cstr (h.line ++ ['\n']) = h.line ++ ['\n'] := by
    rw [hh.line_eq, hh.clean.cstr_line]
  have hblank : h.line ++ ['\n'] ≠ ['\r', '\n'] := by
    intro heq
    have hlen := congrArg List.length heq
    simp only [Header.line, List.length_append, List.length_cons, List.length_nil] at hlen
    omega
  rw [readHeaders, socketReadln_cons hrest, if_pos (by simpa using hfits)]
  dsimp only
  rw [hcstr, if_neg hblank, matchHeader_line hh]
  unfold SipRequest.readHeader
  by_cases hval : h.value = []
  · rw [if_pos hval, if_pos hval, if_pos hval]
  · rw [if_neg hval, if_neg hval, if_neg hval]

/-- How many of the headers are recognized. -/
def countRead (hs : List Header) : Nat := hs.countP (·.value ≠ [])

theorem readHeaders_lines {hs : List Header} {rest : List Text} (hrest : rest ≠ [])
    (hwell : ∀ h ∈ hs, h.Wellformed) (hfits : ∀ h ∈ hs, h.line.length + 1 < bufsiz)
    (hblank : 2 < bufsiz) (sr : SipRequest) (n : Nat) :
    readHeaders bufsiz sr n (hs.map (fun h => h.line ++ ['\n']) ++ ['\r', '\n'] :: rest) =
      .ok (hs.foldl SipRequest.readHeader sr, n + countRead hs, rest.flatten) := by
  induction hs generalizing sr n with
  | nil => exact readHeaders_blank hrest hblank
  | cons h hs ih =>
    have hmore : hs.map (fun h => h.line ++ ['\n']) ++ ['\r', '\n'] :: rest ≠ [] := by simp
    rw [List.map_cons, List.cons_append, readHeaders_line hmore (hwell h List.mem_cons_self)
      (hfits h List.mem_cons_self), ih (fun h' hh' => hwell h' (List.mem_cons_of_mem _ hh'))
      fun h' hh' => hfits h' (List.mem_cons_of_mem _ hh')]
    unfold countRead
    rw [List.foldl_cons, List.countP_cons]
    by_cases hval : h.value = []
    · simp [hval]
    · simp [hval]
      omega

/-- A line that does not fit overflows, when the ones before it do not. -/
theorem readHeaders_overflow {hs : List Header} {rest : List Text}
    (hwell : ∀ h ∈ hs, h.Wellformed) (hfits : ¬∀ h ∈ hs, h.line.length + 1 < bufsiz)
    (sr : SipRequest) (n : Nat) :
    readHeaders bufsiz sr n (hs.map (fun h => h.line ++ ['\n']) ++ ['\r', '\n'] :: rest) =
      .error .overflow := by
  induction hs generalizing sr n with
  | nil => exact absurd (fun _ h => by cases h) hfits
  | cons h hs ih =>
    have hmore : hs.map (fun h => h.line ++ ['\n']) ++ ['\r', '\n'] :: rest ≠ [] := by simp
    by_cases hfirst : h.line.length + 1 < bufsiz
    · have hlater : ¬∀ h ∈ hs, h.line.length + 1 < bufsiz := by
        intro hall
        apply hfits
        intro h' hh'
        rcases List.mem_cons.mp hh' with rfl | later
        · exact hfirst
        · exact hall h' later
      rw [List.map_cons, List.cons_append, readHeaders_line hmore (hwell h List.mem_cons_self)
        hfirst, ih (fun h' hh' => hwell h' (List.mem_cons_of_mem _ hh')) hlater]
    · rw [List.map_cons, List.cons_append, readHeaders, socketReadln_cons hmore,
        if_neg (by simpa using hfirst)]

end Lines

section Messages

variable {bufsiz : Nat} {m : Message}

theorem Message.cut_text (hm : m.Wellformed) :
    cutAfter '\n' m.text = (m.startLine ++ ['\r', '\n']) ::
      (m.headers.map (fun h => h.line ++ ['\n']) ++ ['\r', '\n'] :: cutAfter '\n' m.body) := by
  unfold Message.text
  rw [cutAfter_pieces]
  · simp [Message.lines, Function.comp_def]
  · intro l hl
    simp only [Message.lines, List.mem_append, List.mem_cons, List.mem_map,
      List.not_mem_nil, or_false] at hl
    rcases hl with (rfl | ⟨h, hh, rfl⟩) | rfl
    · intro hc
      rcases List.mem_append.mp hc with left | right
      · exact hm.startLine.noFeed left
      · simp at right
    · have hclean := (hm.headers h hh).clean
      intro hc
      rcases List.mem_append.mp hc with left | right
      · exact hclean.noFeed left
      · simp at right
    · decide

/-- A message that fits is read as it was written. -/
theorem readHead_text (hm : m.Wellformed) (hfits : m.Fits bufsiz) :
    readHead bufsiz m.text = .ok ⟨m.startLine ++ ['\r', '\n'],
      m.headers.foldl SipRequest.readHeader {}, countRead m.headers, m.body⟩ := by
  have hstart : (m.startLine ++ ['\r']).length + 1 < bufsiz :=
    hfits _ (by simp [Message.lines])
  have hblank : (['\r'] : Text).length + 1 < bufsiz := hfits _ (by simp [Message.lines])
  have hlines : ∀ h ∈ m.headers, h.line.length + 1 < bufsiz := fun h hh =>
    hfits _ (by simp only [Message.lines, List.mem_append, List.mem_cons, List.mem_map]
                exact Or.inl (Or.inr ⟨h, hh, rfl⟩))
  unfold readHead
  rw [Message.cut_text hm, socketReadln_cons (by simp), if_pos (by simpa using hstart)]
  dsimp only
  rw [hm.startLine.cstr_line, readHeaders_lines (cutAfter_ne_nil _) hm.headers hlines
    (by simpa using hblank), flatten_cutAfter]
  simp

theorem readHead_overflow (hm : m.Wellformed) (hfits : ¬m.Fits bufsiz) (hblank : 2 < bufsiz) :
    readHead bufsiz m.text = .error .overflow := by
  unfold readHead
  rw [Message.cut_text hm, socketReadln_cons (by simp)]
  by_cases hstart : (m.startLine ++ ['\r', '\n']).length < bufsiz
  · rw [if_pos hstart]
    dsimp only
    rw [readHeaders_overflow hm.headers]
    intro hall
    apply hfits
    intro l hl
    simp only [Message.lines, List.mem_append, List.mem_cons, List.mem_map,
      List.not_mem_nil, or_false] at hl
    rcases hl with (rfl | ⟨h, hh, rfl⟩) | rfl
    · simpa using hstart
    · exact hall h hh
    · exact hblank
  · rw [if_neg hstart]

end Messages

section Received

variable {bufsiz : Nat}

/-- A value that a header line of a buffer can have. -/
structure ReadAs (bufsiz : Nat) (name value : Text) : Prop where
  clean : Clean value
  fits : name.length + value.length + 4 < bufsiz

/-- The headers of a request that was read. -/
structure SipRequest.Received (bufsiz : Nat) (sr : SipRequest) : Prop where
  via : ∀ v ∈ sr.via, ReadAs bufsiz "v" v
  fromHdr : ReadAs bufsiz "f" sr.fromHdr
  toHdr : ReadAs bufsiz "t" sr.toHdr
  contact : ReadAs bufsiz "m" sr.contact
  cseq : ReadAs bufsiz "CSeq" sr.cseq
  cid : ReadAs bufsiz "i" sr.cid
  contType : ReadAs bufsiz "c" sr.contType
  contLen : ReadAs bufsiz "l" sr.contLen

theorem socketReadln_ok {lines rest : List Text} {buf : Text}
    (h : socketReadln bufsiz lines = .ok (buf, rest)) :
    '\x00' ∉ buf ∧ buf.length < bufsiz ∧ ∃ line, lines = line :: rest := by
  match lines with
  | [] => cases h
  | [last] =>
    simp only [socketReadln] at h
    split at h <;> cases h
  | line :: l :: ls =>
    simp only [socketReadln] at h
    split at h
    · next hlen =>
      cases h
      have hle : (cstr line).length ≤ line.length := (List.takeWhile_prefix _).length_le
      exact ⟨no_nul_cstr line, by omega, line, rfl⟩
    · cases h

theorem cutColon_some {s key val : Text} (h : cutColon s = some (key, val)) :
    s = key ++ ':' :: ' ' :: val := by
  fun_induction cutColon s generalizing key with
  | case1 val' =>
    cases h
    rfl
  | case2 c s _ ih =>
    obtain ⟨kv, hkv, heq⟩ := Option.map_eq_some_iff.mp h
    obtain ⟨k, v⟩ := kv
    cases heq
    rw [ih hkv]
    rfl
  | case3 => cases h

theorem matchHeader_some {line key val : Text} (h : matchHeader line = some (key, val))
    (hnul : '\x00' ∉ line) (hlen : line.length < bufsiz) : ReadAs bufsiz key val := by
  unfold matchHeader at h
  dsimp only at h
  split at h
  · next hline =>
    cases hinner : line.takeWhile (fun c => c ≠ '\r' ∧ c ≠ '\n') with
    | nil =>
      rw [hinner] at h
      cases h
    | cons c s =>
      rw [hinner] at h
      dsimp only at h
      cases hcut : cutColon s with
      | none =>
        rw [hcut] at h
        cases h
      | some kv =>
        obtain ⟨k, v⟩ := kv
        rw [hcut] at h
        dsimp only at h
        split at h
        · cases h
        · cases h
          have hs := cutColon_some hcut
          rw [hinner, hs] at hline
          have hmem : ∀ d ∈ val, d ∈ line.takeWhile (fun c => c ≠ '\r' ∧ c ≠ '\n') := by
            intro d hd
            rw [hinner, hs]
            simp [hd]
          refine ⟨fun d hd => ?_, ?_⟩
          · have hplain := List.mem_takeWhile_imp (hmem d hd)
            simp only [decide_eq_true_eq] at hplain
            refine ⟨hplain.1, hplain.2, ?_⟩
            rintro rfl
            exact hnul ((List.takeWhile_prefix _).mem (hmem _ hd))
          · rw [hline] at hlen
            simp only [List.length_append, List.length_cons, List.length_nil] at hlen ⊢
            omega
  · cases h

namespace SipRequest.Received

variable {sr : SipRequest}

theorem empty (h : 8 < bufsiz) : ({} : SipRequest).Received bufsiz := by
  have hnil (name : Text) (hname : name.length ≤ 4) : ReadAs bufsiz name [] :=
    ⟨Clean.nil, by rw [List.length_nil]; omega⟩
  exact ⟨fun _ hv => (by cases hv), hnil _ (by decide), hnil _ (by decide), hnil _ (by decide),
    hnil _ (by decide), hnil _ (by decide), hnil _ (by decide), hnil _ (by decide)⟩

theorem ite {c : Prop} [Decidable c] {a b : SipRequest} (ha : c → a.Received bufsiz)
    (hb : b.Received bufsiz) : (if c then a else b).Received bufsiz := by
  by_cases h : c
  · rw [if_pos h]
    exact ha h
  · rw [if_neg h]
    exact hb

theorem processKeyVal (h : sr.Received bufsiz) {key val : Text} (hval : ReadAs bufsiz key val) :
    (sr.processKeyVal key val).Received bufsiz := by
  unfold SipRequest.processKeyVal
  refine ite (fun heq => { h with fromHdr := heq ▸ hval }) ?_
  refine ite (fun heq => { h with toHdr := heq ▸ hval }) ?_
  refine ite (fun heq => { h with contact := heq ▸ hval }) ?_
  refine ite (fun heq => { h with cseq := heq ▸ hval }) ?_
  refine ite (fun heq => { h with cid := heq ▸ hval }) ?_
  refine ite (fun _ => { h with }) ?_
  refine ite (fun heq => { h with contType := heq ▸ hval }) ?_
  refine ite (fun heq => { h with contLen := heq ▸ hval }) ?_
  refine ite (fun _ => { h with }) ?_
  refine ite (fun _ => { h with }) ?_
  refine ite (fun _ => { h with }) ?_
  refine ite (fun _ => { h with }) ?_
  exact h

theorem addHeader (h : sr.Received bufsiz) {key val : Text} (hval : ReadAs bufsiz key val) :
    (sr.addHeader key val).Received bufsiz := by
  unfold SipRequest.addHeader
  split
  · next heq =>
    refine { h with via := fun v hv => ?_ }
    rcases List.mem_append.mp hv with old | new
    · exact h.via v old
    · rw [List.mem_singleton.mp new]
      exact heq ▸ hval
  · exact h.processKeyVal hval

end SipRequest.Received

theorem readHeaders_received {sr sr' : SipRequest} {n n' : Nat} {lines : List Text} {rest : Text}
    (hread : readHeaders bufsiz sr n lines = .ok (sr', n', rest)) (h : sr.Received bufsiz) :
    sr'.Received bufsiz := by
  induction lines generalizing sr n with
  | nil => cases hread
  | cons line lines ih =>
    rw [readHeaders] at hread
    split at hread
    · cases hread
    · next buf _ hbuf =>
      obtain ⟨hnul, hlen, _⟩ := socketReadln_ok hbuf
      split at hread
      · cases hread
        exact h
      · split at hread
        · next hmatch => exact ih hread (h.addHeader (matchHeader_some hmatch hnul hlen))
        · exact ih hread h

/-- What is known of a request that was read. -/
structure Request.Received (req : Request) : Prop where
  line1 : Clean req.line1
  sr : req.sr.Received lineBuffer

theorem line1_clean {req : Request} (h : '\x00' ∉ req.method) : Clean req.line1 := by
  intro c hc
  obtain ⟨hmem, hkept⟩ := List.mem_filter.mp hc
  have hplain : c ≠ '\r' ∧ c ≠ '\n' := by simpa using hkept
  refine ⟨hplain.1, hplain.2, ?_⟩
  rintro rfl
  exact h hmem

theorem readRequest_received {datagram : Text} {req : Request}
    (h : readRequest datagram = .ok req) : req.Received := by
  unfold readRequest readHead at h
  split at h
  · cases h
  · next head hhead =>
    split at hhead
    · cases hhead
    · next method lines hmethod =>
      obtain ⟨hnul, _, _⟩ := socketReadln_ok hmethod
      split at hhead
      · cases hhead
      · next sr n rest hheaders =>
        cases hhead
        split at h
        · cases h
        · split at h
          · cases h
          · cases h
            exact ⟨line1_clean hnul,
              readHeaders_received hheaders (SipRequest.Received.empty (by decide))⟩

end Received

end UCLinux.Sip
