import UCLinux.Sip.Dialog

/-!
The content length of a message. An INVITE and a 200 declare the text of the
length they came with, and send the body that was read by it. A BYE and a
CANCEL declare it too and send no body, a 200 to one of them neither. The
other messages declare 0 and send none.
-/

namespace UCLinux.Sip

open Sql Machine
open Ocpp (stoi digitsValue Decimal)

/-- The text declares as its content length the number of bytes behind its
blank line. -/
def DeclaresContent (text : Text) : Prop :=
  ∃ head, readHead (text.length + 1) text = .ok head ∧ Decimal (trim head.sr.contLen) ∧
    digitsValue (trim head.sr.contLen) = head.rest.length

section Reading

theorem addHeader_contLen (sr : SipRequest) (name val : Text)
    (hname : name ∈ (["v", "f", "t", "i", "CSeq", "m", "c", "Max-Forwards"] : List Text)) :
    (sr.addHeader name val).contLen = sr.contLen := by
  simp only [List.mem_cons, List.not_mem_nil, or_false] at hname
  rcases hname with rfl | rfl | rfl | rfl | rfl | rfl | rfl | rfl <;> rfl

/-- A message whose last header is the only content length is read with it. -/
theorem foldl_last_contLen {hs : List Header} {v : Text} (hnames : ∀ h ∈ hs,
      h.name ∈ (["v", "f", "t", "i", "CSeq", "m", "c", "Max-Forwards"] : List Text)) :
    ((hs ++ [Header.mk "l" v]).foldl SipRequest.readHeader {}).contLen = v := by
  rw [List.foldl_append, List.foldl_cons, List.foldl_nil]
  have hempty := SipRequest.foldl_keeps addHeader_contLen hnames {}
  generalize hs.foldl SipRequest.readHeader {} = sr at hempty
  unfold SipRequest.readHeader
  by_cases hv : v = []
  · rw [if_pos hv, hempty, hv]
  · rw [if_neg hv]
    rfl

theorem Message.fits_text (m : Message) : m.Fits (m.text.length + 1) := by
  intro l hl
  have hmem : l ++ ['\n'] ∈ m.lines.map (· ++ ['\n']) := List.mem_map_of_mem hl
  have hle := (List.sublist_flatten_of_mem hmem).length_le
  unfold Message.text
  rw [List.length_append] at hle ⊢
  have hone : (['\n'] : Text).length = 1 := rfl
  omega

/-- What a message with one content length, the last header, declares. -/
theorem declaresContent_iff {m : Message} (hm : m.Wellformed) {hs : List Header} {v : Text}
    (hheaders : m.headers = hs ++ [Header.mk "l" v]) (hnames : ∀ h ∈ hs,
      h.name ∈ (["v", "f", "t", "i", "CSeq", "m", "c", "Max-Forwards"] : List Text)) :
    DeclaresContent m.text ↔ Decimal (trim v) ∧ digitsValue (trim v) = m.body.length := by
  have hread := readHead_text hm m.fits_text
  have hlast : (m.headers.foldl SipRequest.readHeader {}).contLen = v := by
    rw [hheaders]
    exact foldl_last_contLen hnames
  constructor
  · rintro ⟨head, hhead, hdecimal, hvalue⟩
    rw [hread] at hhead
    cases hhead
    dsimp only at hdecimal hvalue
    rw [hlast] at hdecimal hvalue
    exact ⟨hdecimal, hvalue⟩
  · rintro ⟨hdecimal, hvalue⟩
    refine ⟨_, hread, ?_, ?_⟩
    · rw [hlast]
      exact hdecimal
    · rw [hlast]
      exact hvalue

end Reading

section Declaring

variable {strm : SipStream} {req : Request} {kind : Kind}

/-- The length a request came with is right for what is forwarded of it. -/
def Kind.LengthRight (req : Request) : Kind → Prop
  | .invite => Decimal (trim req.sr.contLen)
  | .ok => Decimal (trim req.sr.contLen) ∧
      (containSubstr req.sr.cseq "BYE" ∨ containSubstr req.sr.cseq "CANCEL" →
        digitsValue (trim req.sr.contLen) = 0)
  | .bye | .cancel => Decimal (trim req.sr.contLen) ∧ digitsValue (trim req.sr.contLen) = 0
  | _ => True

theorem message_declaresContent_iff (h : req.Ready) (strm : SipStream) (kind : Kind) :
    DeclaresContent (kind.message strm req).text ↔
      Decimal (trim (kind.forward strm req).contLen) ∧
        digitsValue (trim (kind.forward strm req).contLen) =
          (kind.forward strm req).body.length := by
  have hheaders : (kind.message strm req).headers =
      (viaHeaders (kind.forward strm req).via ++
        (dialogHeaders req.sr ++ (kind.forward strm req).others)) ++
        [Header.mk "l" (kind.forward strm req).contLen] := by
    unfold Kind.message Forward.message
    rw [List.append_assoc, List.append_assoc]
  refine declaresContent_iff (message_wellformed h strm kind) hheaders fun o ho => ?_
  rcases List.mem_append.mp ho with via | rest
  · obtain ⟨v, _, rfl⟩ := List.mem_map.mp via
    exact List.mem_cons_self
  · rcases List.mem_append.mp rest with dialog | other
    · simp only [dialogHeaders, List.mem_cons, List.not_mem_nil, or_false] at dialog
      rcases dialog with rfl | rfl | rfl | rfl <;> simp
    · have hnames : ∀ n ∈ (["m", "c", "Max-Forwards"] : List Text),
          n ∈ (["v", "f", "t", "i", "CSeq", "m", "c", "Max-Forwards"] : List Text) := by decide
      exact hnames _ (forward_others strm req other).name_mem

/-- The body of a request that was read has the length it came with. -/
theorem readContent_length {contLen rest body : Text} (hnul : '\x00' ∉ contLen)
    (hdecimal : Decimal (trim contLen)) (h : readContent contLen rest = .ok body) :
    (body.length : Int) = digitsValue (trim contLen) := by
  have hread := leadingNumber_of_trim hnul (Ocpp.numberOf_decimal hdecimal)
  unfold readContent at h
  split at h
  · next hempty =>
    rw [hempty] at hdecimal
    exact absurd rfl hdecimal.nonempty
  · split at h
    · cases h
    · next len hlen =>
      have hvalue : len = digitsValue (trim contLen) := by
        unfold stoi at hlen
        rw [hread] at hlen
        dsimp only at hlen
        split at hlen
        · exact (Option.some.inj hlen).symm
        · cases hlen
      split at h
      · cases h
      · next hpos =>
        split at h
        · next hroom =>
          cases h
          rw [List.length_take, ← hvalue]
          omega
        · cases h

/-- A forwarded message declares the length of its body exactly when the
length of the request is right. -/
theorem message_declares_iff (h : req.Ready)
    (hbody : Decimal (trim req.sr.contLen) →
      (req.body.length : Int) = digitsValue (trim req.sr.contLen)) (strm : SipStream)
    (kind : Kind) : DeclaresContent (kind.message strm req).text ↔ kind.LengthRight req := by
  rw [message_declaresContent_iff h]
  have hzero : Decimal (trim "0") ∧ digitsValue (trim "0") = (0 : Nat) :=
    ⟨by decide, by decide⟩
  cases kind with
  | invite => exact ⟨fun hd => hd.1, fun hd => ⟨hd, (hbody hd).symm⟩⟩
  | bye => exact Iff.rfl
  | cancel => exact Iff.rfl
  | ok =>
    have hsent : (Kind.ok.forward strm req).body =
        if ¬containSubstr req.sr.cseq "BYE" ∧ ¬containSubstr req.sr.cseq "CANCEL" then
          req.body else [] := rfl
    rw [hsent]
    by_cases hended : containSubstr req.sr.cseq "BYE" ∨ containSubstr req.sr.cseq "CANCEL"
    · rw [if_neg fun hboth => hended.elim hboth.1 hboth.2]
      exact ⟨fun hd => ⟨hd.1, fun _ => hd.2⟩, fun hd => ⟨hd.1, hd.2 hended⟩⟩
    · rw [if_pos ⟨fun hbye => hended (Or.inl hbye), fun hcancel => hended (Or.inr hcancel)⟩]
      exact ⟨fun hd => ⟨hd.1, fun he => absurd he hended⟩, fun hd => ⟨hd.1, (hbody hd.1).symm⟩⟩
  | _ => exact iff_of_true hzero trivial

end Declaring

section Datagrams

/-- Every message the server sends because of a datagram declares the length
of its body. -/
def ContentDeclared (s : SipServer) (strm : SipStream) (datagram : Text) : Prop :=
  ∀ req, readRequest (datagram.take maxLine) = .ok req →
    ∀ o ∈ (receive s strm datagram).2, ∀ m, o.what = .message m → DeclaresContent m.text

/-- What is forwarded came with the right length. -/
def ContentSafe (s : SipServer) (datagram : Text) : Prop :=
  ∀ req, readRequest (datagram.take maxLine) = .ok req → req.Sane →
    ∀ kind, dispatch req.line1 = some kind → (kind.recipient s req.copied).isSome →
      kind.LengthRight req

/-- What the body of a request has when its length is a number. -/
theorem readRequest_body {datagram : Text} {req : Request}
    (h : readRequest datagram = .ok req) (hdecimal : Decimal (trim req.sr.contLen)) :
    (req.body.length : Int) = digitsValue (trim req.sr.contLen) := by
  have hnul := (readRequest_received h).sr.contLen.clean.noNul
  unfold readRequest at h
  split at h
  · cases h
  · split at h
    · cases h
    · split at h
      · cases h
      · next body hbody =>
        cases h
        exact readContent_length hnul hdecimal hbody

/-- The 100 has no body and says so. -/
theorem TRYING_100_declares {req : Request} (h : req.Ready) :
    DeclaresContent (TRYING_100 req).text := by
  have hheaders : (TRYING_100 req).headers = (viaHeaders req.sr.via ++
      [Header.mk "f" req.sr.fromHdr, Header.mk "i" req.sr.toHdr, Header.mk "i" req.sr.cid,
        Header.mk "CSeq" req.sr.cseq]) ++ [Header.mk "l" "0"] := by
    unfold TRYING_100
    rw [List.append_assoc]
    rfl
  refine (declaresContent_iff (TRYING_100_wellformed h) hheaders fun o ho => ?_).mpr
    ⟨by decide, rfl⟩
  rcases List.mem_append.mp ho with via | other
  · obtain ⟨v, _, rfl⟩ := List.mem_map.mp via
    exact List.mem_cons_self
  · simp only [List.mem_cons, List.not_mem_nil, or_false] at other
    rcases other with rfl | rfl | rfl | rfl <;> simp

/-- What is sent because of a datagram declares its body exactly when what is
forwarded came with the right length. -/
theorem contentDeclared_iff (s : SipServer) (strm : SipStream) (datagram : Text) :
    ContentDeclared s strm datagram ↔ ContentSafe s datagram := by
  unfold ContentDeclared ContentSafe receive
  refine forall_congr' fun req => forall_congr' fun hread => ?_
  have hreceived := readRequest_received hread
  have hready : req.copied.Ready := ⟨hreceived.line1, hreceived.sr⟩
  have hbody := readRequest_body hread
  have hdeclares (kind : Kind) : DeclaresContent (kind.message strm req.copied).text ↔
      kind.LengthRight req :=
    message_declares_iff hready hbody strm kind
  rw [hread]
  dsimp only
  rw [handle_messages_iff _ _ _ fun m => DeclaresContent m.text]
  refine forall_congr' fun _ => forall_congr' fun kind => forall_congr' fun _ => ?_
  constructor
  · rintro ⟨_, hforwarded⟩ hrecipient
    exact (hdeclares kind).mp (hforwarded hrecipient).2
  · intro hsafe
    refine ⟨?_, fun hrecipient => ⟨fun _ => TRYING_100_declares hready,
      (hdeclares kind).mpr (hsafe hrecipient)⟩⟩
    rintro rfl
    exact (hdeclares .register).mpr trivial

section Samples

/-- Alice hangs up, with a body of four bytes. -/
def aliceBye : Text :=
  "BYE sip:bob@h SIP/2.0\r\nv: SIP/2.0/UDP a;branch=2\r\nf: <sip:alice@h>\r\nt: <sip:bob@h>\r\ni: 9@a\r\nCSeq: 2 BYE\r\nl: 4\r\n\r\nlate"

def aliceByeRequest : Request where
  method := "BYE sip:bob@h SIP/2.0\r\n"
  body := "late"
  sr := {
    via := ["SIP/2.0/UDP a;branch=2"]
    fromHdr := "<sip:alice@h>"
    toHdr := "<sip:bob@h>"
    cid := "9@a"
    cseq := "2 BYE"
    contLen := "4" }

theorem aliceBye_read : readRequest (aliceBye.take maxLine) = .ok aliceByeRequest := by
  decide +kernel

end Samples

/-- The BYE that is forwarded declares the four bytes and does not send
them. -/
theorem aliceBye_bodyDropped : ¬ContentDeclared bobRegistered callerStream aliceBye := by
  intro h
  have hsent := h _ aliceBye_read
  unfold receive at hsent
  rw [aliceBye_read] at hsent
  have hreceived := readRequest_received aliceBye_read
  have hbody := readRequest_body aliceBye_read
  have hready : aliceByeRequest.copied.Ready := ⟨hreceived.line1, hreceived.sr⟩
  have hforwarded := ((handle_messages_iff _ _ _ fun m => DeclaresContent m.text).mp hsent
    (by decide) .bye (by decide +kernel)).2 (by decide +kernel)
  have hright := (message_declares_iff hready hbody callerStream .bye).mp hforwarded.2
  exact absurd hright.2 (by decide)

end Datagrams

end UCLinux.Sip
