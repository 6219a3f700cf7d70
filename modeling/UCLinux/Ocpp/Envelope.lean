import UCLinux.Ocpp.Literals
import UCLinux.Ocpp.Reception

/-!
Reading a frame. The server reads a frame in two ways: its envelope from the
array a JSON library makes of it, its payload from the first `{` to the last
`}` of the text. The two agree exactly when the first `{` is the payload's,
and the envelope is read as it is when uid and action have no NUL.
-/

namespace UCLinux.Ocpp

open Sql Machine Server

section Extraction

/-- From the first opening to the last closing brace. -/
theorem doSimpleExtract_eq {p m after : Text} (hp : '{' ∉ p) (hafter : '}' ∉ after) :
    doSimpleExtract (p ++ ('{' :: m ++ ['}']) ++ after) = '{' :: m ++ ['}'] := by
  have hfirst : (p ++ ('{' :: m ++ ['}']) ++ after).findIdx (· = '{') = p.length := by
    rw [List.append_assoc, List.findIdx_append]
    have hnone : p.findIdx (· = '{') = p.length :=
      List.findIdx_eq_length.mpr fun c hc => by
        simp only [decide_eq_false_iff_not]
        rintro rfl
        exact hp hc
    rw [hnone, if_neg (Nat.lt_irrefl _)]
    simp [List.findIdx_cons]
  have hlast : (p ++ ('{' :: m ++ ['}']) ++ after).reverse.findIdx (· = '}') = after.length := by
    rw [List.reverse_append, List.findIdx_append]
    have hnone : after.reverse.findIdx (· = '}') = after.reverse.length :=
      List.findIdx_eq_length.mpr fun c hc => by
        simp only [decide_eq_false_iff_not]
        rintro rfl
        exact hafter (List.mem_reverse.mp hc)
    rw [hnone, if_neg (Nat.lt_irrefl _)]
    simp [List.findIdx_cons]
  have hlen : (p ++ ('{' :: m ++ ['}']) ++ after).length =
      p.length + m.length + 2 + after.length := by
    simp only [List.length_append, List.length_cons, List.length_nil]
    omega
  unfold doSimpleExtract
  rw [if_pos (by simp)]
  dsimp only
  rw [hfirst, hlast, hlen, if_pos (by omega), List.append_assoc, List.drop_left]
  have hcut : p.length + m.length + 2 + after.length - 1 - after.length + 1 - p.length =
      ('{' :: m ++ ['}']).length := by
    simp only [List.length_append, List.length_cons, List.length_nil]
    omega
  rw [hcut, List.take_left]

end Extraction

section Frames

/-- The integer a lexeme without fraction and exponent denotes. -/
def lexemeInt : Text → Option Int
  | [] => none
  | '-' :: ds => if ds ≠ [] ∧ ds.all Char.isDigit then some (-digitsValue ds) else none
  | ds => if ds.all Char.isDigit then some (digitsValue ds) else none

/-- An element as the server sees it. -/
def Element.ofValue : Json.Value → Element
  | .number t =>
    match lexemeInt t with
    | some n => if -(2 ^ 31) ≤ n ∧ n < 2 ^ 31 then .int n else .other
    | none => .other
  | .string s => .string s
  | _ => .other

/-- The library reads the frame as the array of these values. -/
def Lib.ReadsArray (L : Lib) (frame : Text) (vs : List Json.Value) : Prop :=
  L.parse (cstr frame) = some (vs.map Element.ofValue)

/-- What stands around the payload of a CALL and of a CALLRESULT. -/
inductive Envelope where
  | call (uid action : Text)
  | callResult (uid : Text)

namespace Envelope

def callID : Envelope → Int
  | .call _ _ => 2
  | .callResult _ => 3

def uid : Envelope → Text
  | .call uid _ => uid
  | .callResult uid => uid

def action : Envelope → Text
  | .call _ action => action
  | .callResult _ => []

/-- The elements before the payload. -/
def heads : Envelope → List Json.Value
  | .call uid action => [.number "2", .string uid, .string action]
  | .callResult uid => [.number "3", .string uid]

def values (e : Envelope) (payload : Json.Value) : List Json.Value := e.heads ++ [payload]

theorem heads_scalar (e : Envelope) : ∀ v ∈ e.heads, Json.Scalar v := by
  cases e with
  | call uid action => simp [heads, Json.Scalar.number, Json.Scalar.string]
  | callResult uid => simp [heads, Json.Scalar.number, Json.Scalar.string]

end Envelope

/-- The frame is read as what it is: its envelope by the parser, its payload
from the text that is cut out of it. -/
structure ReadRightly (L : Lib) (con : Connection) (frame : Text) (e : Envelope)
    (payload : Json.Value) : Prop where
  envelope : ∃ req, parseOCPPRequest L (incoming con frame) = some req ∧
    req.callID = e.callID ∧ req.uniqueID = e.uid ∧ req.action = e.action
  payload : Json.IsText literals payload (doSimpleExtract frame)

/-- The first `{` of the frame does not stand in a string literal. -/
def BraceOutside (frame : Text) : Prop :=
  Json.scan Json.noEscape .outside (frame.takeWhile (· ≠ '{')) = some .outside

instance (frame : Text) : Decidable (BraceOutside frame) :=
  inferInstanceAs (Decidable (_ = _))

variable {L : Lib} {con : Connection} {frame uid action : Text}
  {ms : List (Text × Json.Value)}

theorem takeWhile_brace {p q : Text} (hp : '{' ∉ p) :
    (p ++ '{' :: q).takeWhile (· ≠ '{') = p := by
  have hall : ∀ c ∈ p, decide (c ≠ '{') = true := by
    intro c hc
    rw [decide_eq_true_iff]
    rintro rfl
    exact hp hc
  rw [List.takeWhile_append_of_pos hall, List.takeWhile_cons_of_neg (by simp), List.append_nil]

/-- The payload is cut out of the frame as it is when the first brace is its
own, and what is cut out is no JSON text when this stands in a literal. -/
theorem extract_isText_iff {vs : List Json.Value} (hvs : ∀ v ∈ vs, Json.Scalar v)
    (h : Json.IsText literals (.array (vs ++ [.object ms])) frame) :
    Json.IsText literals (.object ms) (doSimpleExtract frame) ↔ BraceOutside frame := by
  obtain ⟨lead, x, after, rfl, hlead, hx, hafter⟩ := h.lead hvs
  have hescape : ∀ c, Json.noBrace c = true → Json.noEscape c = true :=
    fun c hc => (Bool.and_eq_true_iff.mp hc).1
  obtain ⟨m, rfl⟩ := hx.object_braces
  unfold BraceOutside
  by_cases hbrace : '{' ∈ lead
  · obtain ⟨p, q, rfl, hp⟩ := List.eq_append_cons_of_mem hbrace
    have hinside := Json.scan_mono hescape (Json.scan_inside_of_brace hlead)
    -- from the brace to the end of the payload, scanned from inside
    have hrest : Json.scan Json.noEscape .inside ('{' :: q ++ ('{' :: m ++ ['}'])) =
        some .outside := by
      have hwhole : Json.scan Json.noEscape .outside
          (p ++ ('{' :: q) ++ ('{' :: m ++ ['}'])) = some .outside := by
        rw [Json.scan_append_of (Json.scan_mono hescape hlead)]
        exact hx.scan
      rwa [List.append_assoc, Json.scan_append_of hinside] at hwhole
    have hcut : doSimpleExtract (p ++ '{' :: q ++ ('{' :: m ++ ['}']) ++ after) =
        '{' :: q ++ ('{' :: m ++ ['}']) := by
      have hwhole : p ++ '{' :: q ++ ('{' :: m ++ ['}']) ++ after =
          p ++ ('{' :: (q ++ '{' :: m) ++ ['}']) ++ after := by simp
      rw [hwhole, doSimpleExtract_eq hp hafter]
      simp
    have htake : (p ++ '{' :: q ++ ('{' :: m ++ ['}']) ++ after).takeWhile (· ≠ '{') = p := by
      rw [List.append_assoc, List.append_assoc, List.cons_append]
      exact takeWhile_brace hp
    rw [hcut, htake, hinside]
    constructor
    · intro htext
      exact absurd rfl (Json.scan_opposite (by decide) (by decide) hrest htext.scan)
    · intro heq
      cases heq
  · have htake : (lead ++ ('{' :: m ++ ['}']) ++ after).takeWhile (· ≠ '{') = lead := by
      rw [List.append_assoc, List.cons_append, List.cons_append]
      exact takeWhile_brace hbrace
    rw [doSimpleExtract_eq hbrace hafter, htake]
    exact iff_of_true (Json.IsText.of_value hx) (Json.scan_mono hescape hlead)

theorem cstr_eq_iff {s : Text} : cstr s = s ↔ '\x00' ∉ s := by
  constructor
  · intro h
    rw [← h]
    exact no_nul_cstr s
  · exact cstr_of_no_nul

variable (con) in
/-- The request that is read from a frame. -/
theorem parse_envelope (e : Envelope) (hread : L.ReadsArray frame (e.values (.object ms))) :
    ∃ req, parseOCPPRequest L (incoming con frame) = some req ∧ req.callID = e.callID ∧
      req.uniqueID = cstr e.uid ∧ req.action = cstr e.action := by
  cases e with
  | call uid action =>
    have hcall : IsCall L frame uid action := ⟨.other, hread⟩
    exact ⟨_, parse_call con hcall, rfl, rfl, rfl⟩
  | callResult uid =>
    have hresult : IsCallResult L frame uid .other := hread
    exact ⟨_, parse_callResult con hresult, rfl, rfl, rfl⟩

end Frames

/-- A CALL or CALLRESULT that the library reads is read as what it is exactly
when its uid and its action hold no NUL and the first brace of the frame does
not stand in a string literal. -/
theorem readRightly_iff (L : Lib) (con : Connection) (frame : Text) (e : Envelope)
    (ms : List (Text × Json.Value))
    (hframe : Json.IsText literals (.array (e.values (.object ms))) frame)
    (hread : L.ReadsArray frame (e.values (.object ms))) :
    ReadRightly L con frame e (.object ms) ↔
      '\x00' ∉ e.uid ∧ '\x00' ∉ e.action ∧ BraceOutside frame := by
  obtain ⟨req, hreq, hid, huid, haction⟩ := parse_envelope con e hread
  rw [← cstr_eq_iff, ← cstr_eq_iff, ← extract_isText_iff e.heads_scalar hframe]
  constructor
  · rintro ⟨⟨req', hreq', _, huid', haction'⟩, hpayload⟩
    rw [hreq] at hreq'
    cases hreq'
    exact ⟨huid.symm.trans huid', haction.symm.trans haction', hpayload⟩
  · rintro ⟨huid', haction', hpayload⟩
    exact ⟨⟨req, hreq, hid, huid.trans huid', haction.trans haction'⟩, hpayload⟩

/-- A CALL written without whitespace. -/
theorem isText_call {a b uid action x : Text} {payload : Json.Value} (ha : unescape a = some uid)
    (hb : unescape b = some action) (hx : Json.IsText literals payload x) :
    Json.IsText literals (.array ((Envelope.call uid action).values payload))
      ("[2,\"" ++ a ++ "\",\"" ++ b ++ "\"," ++ x ++ "]") := by
  have hnumber : Json.IsText literals (.number "2") "2" :=
    .of_value (.number (.of_digits (.of_all (by decide) (by decide)) (by decide)))
  have huid : Json.IsText literals (.string uid) ('"' :: a ++ ['"']) := .of_value (.string ha)
  have haction : Json.IsText literals (.string action) ('"' :: b ++ ['"']) :=
    .of_value (.string hb)
  have hframe : Json.IsText literals (.array ((Envelope.call uid action).values payload))
      ('[' :: (['2'] ++ ',' :: ('"' :: a ++ ['"'] ++ ',' :: ('"' :: b ++ ['"'] ++ ',' :: x))) ++
        [']']) :=
    .of_value (.array (.element hnumber (.element huid (.element haction (.lastElement hx)))))
  simpa using hframe

/-- A Heartbeat with this uid, written without an escape. -/
def heartbeatFrame (uid : Text) : Text := "[2,\"" ++ uid ++ "\",\"Heartbeat\",\x7b\x7d]"

theorem heartbeatFrame_isText {uid : Text} (h : unescape uid = some uid) :
    Json.IsText literals (.array ((Envelope.call uid "Heartbeat").values (.object [])))
      (heartbeatFrame uid) := by
  have haction : unescape "Heartbeat" = some ("Heartbeat" : Text) := by decide
  have hempty : Json.IsText literals (.object []) "\x7b\x7d" :=
    .of_value (.emptyObject Json.Blank.nil)
  have hframe := isText_call h haction hempty
  simpa [heartbeatFrame] using hframe

/-- A library that reads it. -/
def heartbeatLib (uid : Text) (h : 9 ≤ (cstr (heartbeatFrame uid)).length) : Lib :=
  .parsing (heartbeatFrame uid) [.int 2, .string uid, .string "Heartbeat", .other] h

theorem heartbeatLib_reads (uid : Text) (h : 9 ≤ (cstr (heartbeatFrame uid)).length) :
    (heartbeatLib uid h).ReadsArray (heartbeatFrame uid)
      ((Envelope.call uid "Heartbeat").values (.object [])) :=
  Lib.parsing_parse (heartbeatFrame uid) [.int 2, .string uid, .string "Heartbeat", .other] h

/-- An ordinary uid. -/
theorem readRightly_iff_heartbeat :
    ReadRightly (heartbeatLib "7" (by decide)) somePeer (heartbeatFrame "7")
      (.call "7" "Heartbeat") (.object []) := by
  apply (readRightly_iff _ _ _ _ _ (heartbeatFrame_isText (by decide))
    (heartbeatLib_reads _ _)).mpr
  exact ⟨by decide, by decide, by decide⟩

/-- A uid with a brace in it: what is cut out begins in the uid. -/
theorem braced_uid_misread :
    Json.IsText literals (.array ((Envelope.call "\x7b" "Heartbeat").values (.object [])))
        (heartbeatFrame "\x7b") ∧
      (heartbeatLib "\x7b" (by decide)).ReadsArray (heartbeatFrame "\x7b")
        ((Envelope.call "\x7b" "Heartbeat").values (.object [])) ∧
      ¬ ReadRightly (heartbeatLib "\x7b" (by decide)) somePeer (heartbeatFrame "\x7b")
        (.call "\x7b" "Heartbeat") (.object []) := by
  refine ⟨heartbeatFrame_isText (by decide), heartbeatLib_reads _ _, fun h => ?_⟩
  have hscan := h.payload.scan
  exact absurd hscan (by decide)

end UCLinux.Ocpp
