import UCLinux.Machine.Lines
import UCLinux.Sip.Text

/-!
Reading and writing SIP messages in the configured mode of short header names.
A datagram is read line by line into buffers of 2048 bytes. Nothing checks
that a line fits, so a longer one is an outcome of its own: what happens after
it is not defined. What is sent is a start line, header lines, a blank line
and a body.
-/

namespace UCLinux.Sip

open Sql Machine
open Ocpp (stoi)

structure SipRequest where
  via : List Text := []
  fromHdr : Text := []
  toHdr : Text := []
  contact : Text := []
  cseq : Text := []
  cid : Text := []
  expireStr : Text := []
  contType : Text := []
  contLen : Text := []
  supported : Text := []
  maxForwards : Text := []
  pEarlyMedia : Text := []
  prefferedIdentity : Text := []
  deriving DecidableEq, Repr

structure Request where
  method : Text := []
  body : Text := []
  sr : SipRequest := {}
  deriving DecidableEq, Repr

/-- The start line without its line end. -/
def Request.line1 (req : Request) : Text := removeChars req.method "\r\n"

def SipRequest.processKeyVal (sr : SipRequest) (key val : Text) : SipRequest :=
  if key = "f" then { sr with fromHdr := val }
  else if key = "t" then { sr with toHdr := val }
  else if key = "m" then { sr with contact := val }
  else if key = "CSeq" then { sr with cseq := val }
  else if key = "i" then { sr with cid := val }
  else if key = "Expires" then { sr with expireStr := val }
  else if key = "c" then { sr with contType := val }
  else if key = "l" then { sr with contLen := val }
  else if key = "Max-Forwards" then { sr with maxForwards := val }
  else if key = "k" then { sr with supported := val }
  else if key = "P-Early-Media" then { sr with pEarlyMedia := val }
  else if key = "P-Preferred-Identity" then { sr with prefferedIdentity := val }
  else sr

/-- One header line that was recognized. -/
def SipRequest.addHeader (sr : SipRequest) (key val : Text) : SipRequest :=
  if key = "v" then { sr with via := sr.via ++ [val] } else sr.processKeyVal key val

/-- The buffer a line is read into. -/
def lineBuffer : Nat := 2048

/-- Why a datagram does not become a request: the stream throws when it ends
inside a line, a line overflows its buffer, there is no header, the content
length is no `int` or negative, or the body is cut short. -/
inductive Refusal where
  | ended
  | overflow
  | keepAlive
  | badLength
  | shortBody
  deriving DecidableEq, Repr

/-- `socket_readln` on the lines that are left: the line as a C string and the
lines after it. -/
def socketReadln (bufsiz : Nat) : List Text → Except Refusal (Text × List Text)
  | [] => .error .ended
  | [last] => if last.length ≤ bufsiz then .error .ended else .error .overflow
  | line :: rest => if line.length < bufsiz then .ok (cstr line, rest) else .error .overflow

/-- The text up to the first `": "` and what follows it. -/
def cutColon : Text → Option (Text × Text)
  | ':' :: ' ' :: val => some ([], val)
  | c :: s => (cutColon s).map fun kv => (c :: kv.1, kv.2)
  | [] => none

/-- What `(.+?): (.+?)\\r\\n` matches in a line. A dot matches neither a
carriage return nor a line feed, and the key ends at the first `": "` after
its first character. -/
def matchHeader (line : Text) : Option (Text × Text) :=
  let inner := line.takeWhile fun c => c ≠ '\r' ∧ c ≠ '\n'
  if line = inner ++ ['\r', '\n'] then
    match inner with
    | [] => none
    | c :: s =>
      match cutColon s with
      | some (key, val) => if val = [] then none else some (c :: key, val)
      | none => none
  else none

/-- The header lines up to the blank one: what they say, how many were
recognized, and what is left of the datagram. -/
def readHeaders (bufsiz : Nat) (sr : SipRequest) (numberRead : Nat) :
    List Text → Except Refusal (SipRequest × Nat × Text)
  | [] => .error .ended
  | line :: rest =>
    match socketReadln bufsiz (line :: rest) with
    | .error e => .error e
    | .ok (buf, _) =>
      if buf = ['\r', '\n'] then .ok (sr, numberRead, rest.flatten)
      else match matchHeader buf with
        | some (key, val) => readHeaders bufsiz (sr.addHeader key val) (numberRead + 1) rest
        | none => readHeaders bufsiz sr numberRead rest

/-- What is read of a datagram before its content. -/
structure Head where
  method : Text
  sr : SipRequest
  numberRead : Nat
  rest : Text

/-- `read_request_line` and `read_headers`, with buffers of `bufsiz` bytes. -/
def readHead (bufsiz : Nat) (datagram : Text) : Except Refusal Head :=
  match socketReadln bufsiz (cutAfter '\n' datagram) with
  | .error e => .error e
  | .ok (method, lines) =>
    match readHeaders bufsiz {} 0 lines with
    | .error e => .error e
    | .ok (sr, numberRead, rest) => .ok ⟨method, sr, numberRead, rest⟩

/-- `read_content` of a request whose content length is `contLen`. -/
def readContent (contLen rest : Text) : Except Refusal Text :=
  if contLen = [] then .ok []
  else match stoi contLen with
    | none => .error .badLength
    | some len =>
      if len < 0 then .error .badLength
      else if len.toNat ≤ rest.length then .ok (rest.take len.toNat)
      else .error .shortBody

/-- What `process_request` hands to the handler. -/
def readRequest (datagram : Text) : Except Refusal Request :=
  match readHead lineBuffer datagram with
  | .error e => .error e
  | .ok head =>
    if head.numberRead = 0 then .error .keepAlive
    else match readContent head.sr.contLen head.rest with
      | .error e => .error e
      | .ok body => .ok ⟨head.method, body, head.sr⟩

/-- The most bytes that are received of a datagram. -/
def maxLine : Nat := 2048 * 2

structure Header where
  name : Text
  value : Text
  deriving DecidableEq, Repr

/-- A message that is sent. -/
structure Message where
  startLine : Text
  headers : List Header
  body : Text := []
  deriving DecidableEq, Repr

def Header.line (h : Header) : Text := h.name ++ [':', ' '] ++ h.value ++ ['\r']

/-- The lines of a message up to its blank one, each without its line feed. -/
def Message.lines (m : Message) : List Text :=
  (m.startLine ++ ['\r']) :: m.headers.map Header.line ++ [['\r']]

def Message.text (m : Message) : Text :=
  (m.lines.map (· ++ ['\n'])).flatten ++ m.body

/-- The values of the headers of one name. -/
def Message.values (m : Message) (name : Text) : List Text :=
  (m.headers.filter (·.name = name)).map Header.value

/-- The From, To, Call-ID and CSeq of a request. -/
structure Dialog where
  fromHdr : Text
  toHdr : Text
  cid : Text
  cseq : Text
  deriving DecidableEq, Repr

def SipRequest.dialog (sr : SipRequest) : Dialog := ⟨sr.fromHdr, sr.toHdr, sr.cid, sr.cseq⟩

end UCLinux.Sip
