import UCLinux.Sip.Handler
import UCLinux.Sip.ReadBack

/-!
The dialog of a message. Every message that is sent because of another should
be read with its From, To, Call-ID and CSeq. All forwarders write them under
the names the reader knows; the 100 writes the To as a second Call-ID. A line
that was read fits the buffer it is read into again, but a start line that
came without a carriage return and a rewritten contact grow.
-/

namespace UCLinux.Sip

open Sql
open Ocpp (wrap32)

/-- The message is read with the dialog of the request. -/
def RepeatsDialog (req : Request) (m : Message) : Prop :=
  ∃ head, readHead lineBuffer m.text = .ok head ∧ head.sr.dialog = req.sr.dialog

section Reading

variable {sr : SipRequest}

theorem addHeader_dialog (sr : SipRequest) (name val : Text)
    (hname : name ∈ (["v", "m", "c", "Max-Forwards", "l"] : List Text)) :
    (sr.addHeader name val).dialog = sr.dialog := by
  simp only [List.mem_cons, List.not_mem_nil, or_false] at hname
  rcases hname with rfl | rfl | rfl | rfl | rfl <;> rfl

/-- A header of the dialog sets its field, and an empty one leaves it. -/
theorem readHeader_sets {name value : Text} {D : Dialog}
    (hset : (sr.addHeader name value).dialog = D) (hempty : value = [] → sr.dialog = D) :
    (sr.readHeader ⟨name, value⟩).dialog = D := by
  unfold SipRequest.readHeader
  by_cases hval : value = []
  · rw [if_pos hval]
    exact hempty hval
  · rw [if_neg hval]
    exact hset

theorem foldl_dialogHeaders {sr₀ : SipRequest} (h₀ : sr₀.dialog = ⟨[], [], [], []⟩)
    (sr : SipRequest) :
    ((dialogHeaders sr).foldl SipRequest.readHeader sr₀).dialog = sr.dialog := by
  have h₁ : (sr₀.readHeader ⟨"f", sr.fromHdr⟩).dialog = ⟨sr.fromHdr, [], [], []⟩ :=
    readHeader_sets (congrArg (fun D : Dialog => { D with fromHdr := sr.fromHdr }) h₀)
      fun hval => hval ▸ h₀
  have h₂ : ((sr₀.readHeader ⟨"f", sr.fromHdr⟩).readHeader ⟨"t", sr.toHdr⟩).dialog =
      ⟨sr.fromHdr, sr.toHdr, [], []⟩ :=
    readHeader_sets (congrArg (fun D : Dialog => { D with toHdr := sr.toHdr }) h₁)
      fun hval => hval ▸ h₁
  have h₃ : (((sr₀.readHeader ⟨"f", sr.fromHdr⟩).readHeader ⟨"t", sr.toHdr⟩).readHeader
      ⟨"i", sr.cid⟩).dialog = ⟨sr.fromHdr, sr.toHdr, sr.cid, []⟩ :=
    readHeader_sets (congrArg (fun D : Dialog => { D with cid := sr.cid }) h₂)
      fun hval => hval ▸ h₂
  have h₄ : ((((sr₀.readHeader ⟨"f", sr.fromHdr⟩).readHeader ⟨"t", sr.toHdr⟩).readHeader
      ⟨"i", sr.cid⟩).readHeader ⟨"CSeq", sr.cseq⟩).dialog =
      ⟨sr.fromHdr, sr.toHdr, sr.cid, sr.cseq⟩ :=
    readHeader_sets (congrArg (fun D : Dialog => { D with cseq := sr.cseq }) h₃)
      fun hval => hval ▸ h₃
  exact h₄

theorem foldl_viaHeaders (via : List Text) :
    ((viaHeaders via).foldl SipRequest.readHeader {}).dialog = ⟨[], [], [], []⟩ := by
  rw [SipRequest.foldl_keeps addHeader_dialog]
  · rfl
  · intro h hh
    obtain ⟨v, _, rfl⟩ := List.mem_map.mp hh
    exact List.mem_cons_self

/-- The headers of a forwarded message say the dialog of its request. -/
theorem Forward.reads_dialog (f : Forward) (sr : SipRequest)
    (hothers : ∀ h ∈ f.others, h.name ∈ (["m", "c", "Max-Forwards"] : List Text)) :
    ((f.message sr).headers.foldl SipRequest.readHeader {}).dialog = sr.dialog := by
  unfold Forward.message
  rw [List.foldl_append, List.foldl_append,
    SipRequest.foldl_keeps addHeader_dialog]
  · exact foldl_dialogHeaders (foldl_viaHeaders _) _
  · intro h hh
    rcases List.mem_append.mp hh with other | length
    · have hnames : ∀ n ∈ (["m", "c", "Max-Forwards"] : List Text),
          n ∈ (["v", "m", "c", "Max-Forwards", "l"] : List Text) := by decide
      exact hnames _ (hothers h other)
    · rw [List.mem_singleton.mp length]
      simp

theorem addHeader_toHdr (sr : SipRequest) (name val : Text)
    (hname : name ∈ (["v", "f", "i", "CSeq", "l"] : List Text)) :
    (sr.addHeader name val).toHdr = sr.toHdr := by
  simp only [List.mem_cons, List.not_mem_nil, or_false] at hname
  rcases hname with rfl | rfl | rfl | rfl | rfl <;> rfl

/-- A To that is written as a Call-ID is not read as a To. -/
theorem TRYING_100_reads_dialog_iff (req : Request) :
    ((TRYING_100 req).headers.foldl SipRequest.readHeader {}).dialog = req.sr.dialog ↔
      req.sr.toHdr = [] := by
  constructor
  · intro h
    have hto : ((TRYING_100 req).headers.foldl SipRequest.readHeader {}).toHdr = [] := by
      rw [SipRequest.foldl_keeps addHeader_toHdr]
      intro h hh
      rcases List.mem_append.mp hh with via | other
      · obtain ⟨v, _, rfl⟩ := List.mem_map.mp via
        exact List.mem_cons_self
      · simp only [List.mem_cons, List.not_mem_nil, or_false] at other
        rcases other with rfl | rfl | rfl | rfl | rfl <;> simp
    exact (congrArg Dialog.toHdr h).symm.trans hto
  · intro hto
    have hskip (sr : SipRequest) : sr.readHeader ⟨"i", req.sr.toHdr⟩ =
        sr.readHeader ⟨"t", req.sr.toHdr⟩ := by
      unfold SipRequest.readHeader
      rw [if_pos hto, if_pos hto]
    have hsame : (TRYING_100 req).headers.foldl SipRequest.readHeader {} =
        ((dialogHeaders req.sr).foldl SipRequest.readHeader
          ((viaHeaders req.sr.via).foldl SipRequest.readHeader {})).readHeader ⟨"l", "0"⟩ := by
      unfold TRYING_100 dialogHeaders
      rw [List.foldl_append]
      simp only [List.foldl_cons, List.foldl_nil, hskip]
    rw [hsame, SipRequest.readHeader_keeps addHeader_dialog (by simp)]
    exact foldl_dialogHeaders (foldl_viaHeaders _) _

end Reading

section Writing

variable {strm : SipStream} {req : Request} {kind : Kind}

/-- A request as the handler gets it. -/
structure Request.Ready (req : Request) : Prop where
  startLine : Clean req.method
  sr : req.sr.Received lineBuffer

theorem Header.wellformed_of_clean {h : Header} (hclean : Clean h.value)
    (hname : h.name ∈ (["v", "f", "t", "i", "CSeq", "m", "c", "Max-Forwards", "l"] : List Text)) :
    h.Wellformed := by
  have hnames : ∀ n ∈ (["v", "f", "t", "i", "CSeq", "m", "c", "Max-Forwards", "l"] : List Text),
      n ≠ [] ∧ ':' ∉ n ∧ Clean n := by decide
  obtain ⟨hne, hcolon, hname'⟩ := hnames _ hname
  exact ⟨hne, hcolon, hname', hclean⟩

theorem Header.fits_iff {h : Header} {bufsiz : Nat} :
    h.line.length + 1 < bufsiz ↔ h.name.length + h.value.length + 4 < bufsiz := by
  simp only [Header.line, List.length_append, List.length_cons, List.length_nil]
  omega

theorem ReadAs.of_suffix {name v w : Text} (h : ReadAs lineBuffer name v) (hw : w <:+ v) :
    ReadAs lineBuffer name w := by
  have hle := hw.length_le
  have hfits := h.fits
  exact ⟨h.clean.of_subset hw.subset, by omega⟩

theorem ownVia_readAs : ReadAs lineBuffer "v" (ownVia ("UDP " ++ voipListenerIPADDR)) ∧
    ReadAs lineBuffer "v" (ownVia "WSS mikerel.com") :=
  ⟨⟨by decide +kernel, by decide +kernel⟩, ⟨by decide +kernel, by decide +kernel⟩⟩

/-- What is left of the Via lines are ends of them. -/
theorem cutFirstVia_suffix {via : List Text} {v : Text} (h : v ∈ cutFirstVia via) :
    ∃ w ∈ via, v <:+ w := by
  cases via with
  | nil => cases h
  | cons v0 rest =>
    rcases List.mem_cons.mp h with rfl | later
    · exact ⟨v0, List.mem_cons_self, afterFirst_suffix _ _⟩
    · exact ⟨v, List.mem_cons_of_mem _ later, List.suffix_refl v⟩

theorem removeFirstVia_suffix {via : List Text} {v : Text} (h : v ∈ removeFirstVia via) :
    ∃ w ∈ via, v <:+ w := by
  cases via with
  | nil => cases h
  | cons v0 rest =>
    unfold removeFirstVia at h
    dsimp only at h
    split at h
    · exact cutFirstVia_suffix h
    · exact ⟨v, List.mem_cons_of_mem _ h, List.suffix_refl v⟩

/-- The Via lines of a message could have been read. -/
theorem forward_via_readAs (h : req.Ready) :
    ∀ v ∈ (kind.forward strm req).via, ReadAs lineBuffer "v" v := by
  have hpushed (own : Text) (hown : ReadAs lineBuffer "v" own) :
      ∀ v ∈ own :: req.sr.via, ReadAs lineBuffer "v" v := by
    intro v hv
    rcases List.mem_cons.mp hv with rfl | later
    · exact hown
    · exact h.sr.via v later
  have hremoved : ∀ v ∈ removeFirstVia req.sr.via, ReadAs lineBuffer "v" v := by
    intro v hv
    obtain ⟨w, hw, hsuffix⟩ := removeFirstVia_suffix hv
    exact (h.sr.via w hw).of_suffix hsuffix
  cases kind with
  | register => exact fun v hv => h.sr.via v (List.mem_of_mem_take hv)
  | invite =>
    apply hpushed
    cases strm.userData with
    | false => exact ownVia_readAs.1
    | true => exact ownVia_readAs.2
  | ringing =>
    intro v hv
    obtain ⟨w, hw, hsuffix⟩ := cutFirstVia_suffix hv
    exact (h.sr.via w hw).of_suffix hsuffix
  | ack => exact hpushed _ ownVia_readAs.1
  | bye => exact hpushed _ ownVia_readAs.1
  | cancel => exact hpushed _ ownVia_readAs.1
  | ok => exact hremoved
  | terminated => exact hremoved
  | busy => exact hremoved

theorem wrap32_ge (n : Int) : -(2 ^ 31) ≤ wrap32 n := by
  have h := Int.le_bmod (x := n) (m := 2 ^ 32) (by decide)
  unfold wrap32
  omega

/-- A number of an `int` has at most eleven characters. -/
theorem length_decimal_wrap32 (n : Int) : (decimal (wrap32 n)).length ≤ 11 := by
  have hlow := wrap32_ge n
  have hhigh := Ocpp.wrap32_lt n
  have hdigits : (Nat.toDigits 10 (wrap32 n).natAbs).length ≤ 10 := by
    apply (Nat.length_toDigits_le_iff (by decide) (by decide)).mpr
    omega
  unfold decimal
  split
  · rw [List.length_cons]
    omega
  · omega

theorem clean_decimal (n : Int) : Clean (decimal n) := by
  have hother {c : Char} (hdigit : ¬c.isDigit) (hsign : c ≠ '-') {d : Char}
      (hd : d ∈ decimal n) : d ≠ c := by
    rintro rfl
    exact not_mem_decimal hdigit hsign n hd
  exact fun c hc => ⟨hother (by decide) (by decide) hc, hother (by decide) (by decide) hc,
    hother (by decide) (by decide) hc⟩

theorem clean_modifiedContact (h : req.Ready) :
    Clean (modifiedContact req.sr voipListenerIPADDR) := by
  unfold modifiedContact
  refine (Clean.append ?_ (by decide)).append (by decide)
  exact h.sr.contact.clean.of_subset (throughFirst_starts _ _).subset

theorem length_modifiedContact (sr : SipRequest) :
    (modifiedContact sr voipListenerIPADDR).length = (throughFirst sr.contact "@").length + 15 := by
  have hip : List.length voipListenerIPADDR = 14 := by decide
  unfold modifiedContact
  rw [List.length_append, List.length_append, hip]
  rfl

/-- So could the other headers, the rewritten contact apart. -/
theorem OtherHeader.readAs (h : req.Ready) {o : Header} (ho : OtherHeader req kind o) :
    ReadAs lineBuffer o.name o.value ∨
      kind.RewritesContact req ∧ o = ⟨"m", modifiedContact req.sr voipListenerIPADDR⟩ := by
  cases ho with
  | contact => exact Or.inl h.sr.contact
  | rewritten hc => exact Or.inr ⟨hc, rfl⟩
  | contType => exact Or.inl h.sr.contType
  | maxForwards =>
    refine Or.inl ⟨clean_decimal _, ?_⟩
    have hlen := length_decimal_wrap32 (strToInt (trim req.sr.maxForwards) - 1)
    have hname : List.length (maxForwardsHeader req.sr).name = 12 := rfl
    have hbuf : lineBuffer = 2048 := rfl
    have hvalue : (maxForwardsHeader req.sr).value =
        decimal (wrap32 (strToInt (trim req.sr.maxForwards) - 1)) := rfl
    rw [hvalue]
    omega

/-- So could the content length. -/
theorem forward_contLen_readAs (h : req.Ready) :
    ReadAs lineBuffer "l" (kind.forward strm req).contLen := by
  have hzero : ReadAs lineBuffer "l" "0" := ⟨by decide, by decide⟩
  cases kind with
  | invite => exact h.sr.contLen
  | ok => exact h.sr.contLen
  | bye => exact h.sr.contLen
  | cancel => exact h.sr.contLen
  | _ => exact hzero

theorem message_headers (h : req.Ready) {o : Header} (ho : o ∈ (kind.message strm req).headers) :
    o.name ∈ (["v", "f", "t", "i", "CSeq", "m", "c", "Max-Forwards", "l"] : List Text) ∧
      (ReadAs lineBuffer o.name o.value ∨
        kind.RewritesContact req ∧ o = ⟨"m", modifiedContact req.sr voipListenerIPADDR⟩) := by
  rcases List.mem_append.mp ho with via | rest
  · obtain ⟨v, hv, rfl⟩ := List.mem_map.mp via
    exact ⟨List.mem_cons_self, Or.inl (forward_via_readAs h v hv)⟩
  · rcases List.mem_append.mp rest with dialog | other
    · simp only [dialogHeaders, List.mem_cons, List.not_mem_nil, or_false] at dialog
      rcases dialog with rfl | rfl | rfl | rfl
      · exact ⟨by simp, Or.inl h.sr.fromHdr⟩
      · exact ⟨by simp, Or.inl h.sr.toHdr⟩
      · exact ⟨by simp, Or.inl h.sr.cid⟩
      · exact ⟨by simp, Or.inl h.sr.cseq⟩
    · rcases List.mem_append.mp other with other | length
      · have hother := forward_others strm req other
        have hnames : ∀ n ∈ (["m", "c", "Max-Forwards"] : List Text),
            n ∈ (["v", "f", "t", "i", "CSeq", "m", "c", "Max-Forwards", "l"] : List Text) := by
          decide
        exact ⟨hnames _ hother.name_mem, hother.readAs h⟩
      · rw [List.mem_singleton.mp length]
        exact ⟨by simp, Or.inl (forward_contLen_readAs h)⟩

theorem message_wellformed (h : req.Ready) (strm : SipStream) (kind : Kind) :
    (kind.message strm req).Wellformed := by
  constructor
  · cases kind with
    | register => exact (by decide : Clean "SIP/2.0 200 OK")
    | ok => exact (by decide : Clean "SIP/2.0 200 OK")
    | ringing => exact (by decide : Clean "SIP/2.0 180 Ringing")
    | _ => exact h.startLine
  · intro o ho
    obtain ⟨hname, hread | ⟨_, rfl⟩⟩ := message_headers h ho
    · exact Header.wellformed_of_clean hread.clean hname
    · exact Header.wellformed_of_clean (clean_modifiedContact h) hname

/-- The messages that start with the line of the request. -/
def Kind.CopiesStartLine : Kind → Prop
  | .register | .ok | .ringing => False
  | _ => True

/-- The lines of a message that may be longer than those of its request still
fit the buffer of the reader. -/
structure Kind.LinesFit (req : Request) (kind : Kind) : Prop where
  startLine : kind.CopiesStartLine → req.method.length + 2 < lineBuffer
  contact : kind.RewritesContact req →
    (throughFirst req.sr.contact "@").length + 20 < lineBuffer

theorem startLine_fits_iff (strm : SipStream) :
    (kind.message strm req).startLine.length + 2 < lineBuffer ↔
      (kind.CopiesStartLine → req.method.length + 2 < lineBuffer) := by
  have hok : ("SIP/2.0 200 OK" : String).toList.length + 2 < lineBuffer := by decide
  have hringing : ("SIP/2.0 180 Ringing" : String).toList.length + 2 < lineBuffer := by decide
  cases kind with
  | register => exact iff_of_true hok fun hno => absurd hno id
  | ok => exact iff_of_true hok fun hno => absurd hno id
  | ringing => exact iff_of_true hringing fun hno => absurd hno id
  | _ => exact ⟨fun hfits _ => hfits, fun hfits => hfits trivial⟩

theorem message_fits_iff (h : req.Ready) :
    (kind.message strm req).Fits lineBuffer ↔ kind.LinesFit req := by
  have hcontact := length_modifiedContact req.sr
  constructor
  · intro hfits
    refine ⟨(startLine_fits_iff strm).mp ?_, fun hrewrites => ?_⟩
    · have hline := hfits ((kind.message strm req).startLine ++ ['\r'])
        (by simp [Message.lines])
      rwa [List.length_append] at hline
    · have hmem : (⟨"m", modifiedContact req.sr voipListenerIPADDR⟩ : Header) ∈
          (kind.message strm req).headers :=
        List.mem_append_right _ (List.mem_append_right _ (List.mem_append_left _
          (rewritten_mem strm req hrewrites)))
      have hline := hfits (Header.line ⟨"m", modifiedContact req.sr voipListenerIPADDR⟩)
        (List.mem_append_left _ (List.mem_cons_of_mem _ (List.mem_map_of_mem hmem)))
      have hlen := Header.fits_iff.mp hline
      have hname : ("m" : String).toList.length = 1 := rfl
      dsimp only at hlen
      omega
  · intro hfit l hl
    rcases List.mem_append.mp hl with hl | blank
    · rcases List.mem_cons.mp hl with rfl | header
      · rw [List.length_append]
        exact (startLine_fits_iff strm).mpr hfit.startLine
      · obtain ⟨o, ho, rfl⟩ := List.mem_map.mp header
        apply Header.fits_iff.mpr
        obtain ⟨_, hread | ⟨hrewrites, rfl⟩⟩ := message_headers h ho
        · exact hread.fits
        · have hroom := hfit.contact hrewrites
          have hname : ("m" : String).toList.length = 1 := rfl
          dsimp only
          omega
    · rw [List.mem_singleton.mp blank]
      decide

end Writing

section Kept

variable {strm : SipStream} {req : Request} {kind : Kind}

theorem repeatsDialog_iff {m : Message} (hm : m.Wellformed) :
    RepeatsDialog req m ↔ m.Fits lineBuffer ∧
      (m.headers.foldl SipRequest.readHeader {}).dialog = req.sr.dialog := by
  constructor
  · rintro ⟨head, hread, hdialog⟩
    by_cases hfits : m.Fits lineBuffer
    · rw [readHead_text hm hfits] at hread
      cases hread
      exact ⟨hfits, hdialog⟩
    · rw [readHead_overflow hm hfits (by decide)] at hread
      cases hread
  · rintro ⟨hfits, hdialog⟩
    exact ⟨_, readHead_text hm hfits, hdialog⟩

/-- A forwarded message says its dialog exactly when its lines fit. -/
theorem message_repeats_iff (h : req.Ready) (strm : SipStream) (kind : Kind) :
    RepeatsDialog req (kind.message strm req) ↔ kind.LinesFit req := by
  rw [repeatsDialog_iff (message_wellformed h strm kind), message_fits_iff h]
  exact and_iff_left (Forward.reads_dialog _ _ fun o ho =>
    (forward_others strm req ho).name_mem)

theorem TRYING_100_headers (h : req.Ready) {o : Header} (ho : o ∈ (TRYING_100 req).headers) :
    o.name ∈ (["v", "f", "t", "i", "CSeq", "m", "c", "Max-Forwards", "l"] : List Text) ∧
      ReadAs lineBuffer o.name o.value := by
  have hto : ReadAs lineBuffer "i" req.sr.toHdr := ⟨h.sr.toHdr.clean, h.sr.toHdr.fits⟩
  rcases List.mem_append.mp ho with via | other
  · obtain ⟨v, hv, rfl⟩ := List.mem_map.mp via
    exact ⟨List.mem_cons_self, h.sr.via v hv⟩
  · simp only [List.mem_cons, List.not_mem_nil, or_false] at other
    rcases other with rfl | rfl | rfl | rfl | rfl
    · exact ⟨by simp, h.sr.fromHdr⟩
    · exact ⟨by simp, hto⟩
    · exact ⟨by simp, h.sr.cid⟩
    · exact ⟨by simp, h.sr.cseq⟩
    · exact ⟨by simp, ⟨by decide, by decide⟩⟩

theorem TRYING_100_wellformed (h : req.Ready) : (TRYING_100 req).Wellformed :=
  ⟨(by decide : Clean "SIP/2.0 100 TRYING"), fun o ho =>
    Header.wellformed_of_clean (TRYING_100_headers h ho).2.clean (TRYING_100_headers h ho).1⟩

/-- The 100 says its dialog exactly when there is no To in it. -/
theorem TRYING_100_repeats_iff (h : req.Ready) :
    RepeatsDialog req (TRYING_100 req) ↔ req.sr.toHdr = [] := by
  have hfits : (TRYING_100 req).Fits lineBuffer := by
    intro l hl
    rcases List.mem_append.mp hl with hl | blank
    · rcases List.mem_cons.mp hl with rfl | header
      · exact (by decide : (("SIP/2.0 100 TRYING" : String).toList ++ ['\r']).length + 1 <
          lineBuffer)
      · obtain ⟨o, ho, rfl⟩ := List.mem_map.mp header
        exact Header.fits_iff.mpr (TRYING_100_headers h ho).2.fits
    · rw [List.mem_singleton.mp blank]
      decide
  rw [repeatsDialog_iff (TRYING_100_wellformed h), TRYING_100_reads_dialog_iff]
  exact and_iff_right hfits

/-- Every message the server sends because of a request says the dialog of
it. -/
def DialogKept (s : SipServer) (strm : SipStream) (datagram : Text) : Prop :=
  ∀ req, readRequest (datagram.take maxLine) = .ok req →
    ∀ o ∈ (receive s strm datagram).2, ∀ m, o.what = .message m → RepeatsDialog req m

/-- A request that is forwarded: an INVITE has no To, a start line that is
copied leaves room for a carriage return, and a contact that is rewritten for
the address of the server. -/
def DialogSafe (s : SipServer) (datagram : Text) : Prop :=
  ∀ req, readRequest (datagram.take maxLine) = .ok req → req.Sane →
    ∀ kind, dispatch req.line1 = some kind → (kind.recipient s req.copied).isSome →
      (kind = .invite → req.sr.toHdr = []) ∧ kind.LinesFit req.copied

/-- The messages of a request say its dialog exactly when it is safe. -/
theorem dialogKept_iff (s : SipServer) (strm : SipStream) (datagram : Text) :
    DialogKept s strm datagram ↔ DialogSafe s datagram := by
  unfold DialogKept DialogSafe receive
  refine forall_congr' fun req => forall_congr' fun hread => ?_
  have hreceived := readRequest_received hread
  have hready : req.copied.Ready := ⟨hreceived.line1, hreceived.sr⟩
  have hregister : RepeatsDialog req (Kind.register.message strm req.copied) :=
    (message_repeats_iff hready strm .register).mpr
      ⟨fun hno => absurd hno id, fun hno => absurd hno id⟩
  rw [hread]
  dsimp only
  rw [handle_messages_iff]
  refine forall_congr' fun _ => forall_congr' fun kind => forall_congr' fun _ => ?_
  constructor
  · rintro ⟨_, hforwarded⟩ hrecipient
    obtain ⟨htrying, hmessage⟩ := hforwarded hrecipient
    exact ⟨fun hinvite => (TRYING_100_repeats_iff hready).mp (htrying hinvite),
      (message_repeats_iff hready strm kind).mp hmessage⟩
  · intro hsafe
    refine ⟨fun heq => heq ▸ hregister, fun hrecipient => ?_⟩
    obtain ⟨hto, hfit⟩ := hsafe hrecipient
    exact ⟨fun hinvite => (TRYING_100_repeats_iff hready).mpr (hto hinvite),
      (message_repeats_iff hready strm kind).mpr hfit⟩

/-- The 100 for an INVITE to a registered user has lost its To. -/
theorem aliceInvite_losesTo : ¬DialogKept bobRegistered callerStream aliceInvite := by
  intro h
  have hsent := h _ aliceInvite_read
  unfold receive at hsent
  rw [aliceInvite_read] at hsent
  have hreceived := readRequest_received aliceInvite_read
  have hready : aliceRequest.copied.Ready := ⟨hreceived.line1, hreceived.sr⟩
  obtain ⟨_, hforwarded⟩ := (handle_messages_iff _ _ _ _).mp hsent (by decide) .invite
    (by decide +kernel)
  have htrying := (hforwarded aliceInvite_recipient).1 rfl
  have hto := (TRYING_100_repeats_iff hready).mp htrying
  exact absurd hto (by decide)

end Kept

end UCLinux.Sip
