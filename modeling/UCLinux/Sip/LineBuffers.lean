import UCLinux.Sip.ReadBack
import UCLinux.Sip.Handler

/-!
The loops that read a request line and headers, byte by byte. Each line goes
into a buffer of its own, at an index that nothing compares with the size of the
buffer, and a NUL goes behind it. The loops end with the bytes of the datagram.
Where every line fits they read what the reader of lines reads.
-/

namespace UCLinux.Sip

open Sql Machine

section Reading

/-- A call of `socket_readln`: the indices of its buffer that are written, and
the line with what is left of the datagram, when it does not throw. -/
structure LineRead where
  writes : List Nat
  line : Option (Text × Text)
  deriving DecidableEq, Repr

/-- The loop of `socket_readln` from index `i` on. A read at the end of the
datagram gives -1, and that throws. -/
def readln (i : Nat) : Text → LineRead
  | [] => ⟨[], none⟩
  | byte :: s =>
    if byte = '\n' then ⟨[i, i + 1], some ([byte], s)⟩
    else
      let r := readln (i + 1) s
      ⟨i :: r.writes, r.line.map fun line => (byte :: line.1, line.2)⟩

/-- How the loop over the headers ends; `running` is a loop that did not. -/
inductive HeadersEnd where
  | parsed (sr : SipRequest) (numberRead : Nat) (rest : Text)
  | thrown
  | running
  deriving DecidableEq, Repr

/-- The line the headers end at. -/
def blankLine : Text := ['\r', '\n']

/-- What a header line says. -/
def SipRequest.readLine (sr : SipRequest) (numberRead : Nat) (buf : Text) : SipRequest × Nat :=
  match matchHeader buf with
  | some (key, val) => (sr.addHeader key val, numberRead + 1)
  | none => (sr, numberRead)

/-- The loop of `read_headers` for at most `fuel` rounds: what each buffer has
written, and the end. -/
def headerLoop : Nat → SipRequest → Nat → Text → List (List Nat) × HeadersEnd
  | 0, _, _, _ => ([], .running)
  | fuel + 1, sr, numberRead, s =>
    let r := readln 0 s
    match r.line with
    | none => ([r.writes], .thrown)
    | some (line, rest) =>
      if cstr line = blankLine then ([r.writes], .parsed sr numberRead rest)
      else
        let read := sr.readLine numberRead (cstr line)
        let next := headerLoop fuel read.1 read.2 rest
        (r.writes :: next.1, next.2)

/-- The request line and the headers of a datagram. -/
def headLoop (fuel : Nat) (datagram : Text) : List (List Nat) × Option Text × HeadersEnd :=
  let r := readln 0 datagram
  match r.line with
  | none => ([r.writes], none, .thrown)
  | some (method, rest) =>
    let headers := headerLoop fuel {} 0 rest
    (r.writes :: headers.1, some (cstr method), headers.2)

/-- Every index is one of a buffer of `bufsiz` bytes. -/
def InBuffers (bufsiz : Nat) (buffers : List (List Nat)) : Prop :=
  ∀ writes ∈ buffers, ∀ i ∈ writes, i < bufsiz

end Reading

section Lines

variable {s line : Text} {rest : List Text}

/-- What a line takes of its buffer: a whole one has a NUL behind it. -/
def lineSpace (line : Text) : Nat := if '\n' ∈ line then line.length + 1 else line.length

theorem lineSpace_cons {c : Char} (h : c ≠ '\n') : lineSpace (c :: line) = lineSpace line + 1 := by
  unfold lineSpace
  simp only [List.mem_cons, h.symm, false_or, List.length_cons]
  split <;> rfl

/-- A line that the datagram ends in. -/
theorem readln_last {last : Text} (h : cutAfter '\n' s = [last]) (i : Nat) :
    readln i s = ⟨List.range' i (lineSpace last), none⟩ := by
  induction s generalizing last i with
  | nil =>
    obtain rfl : [] = last := (List.cons.inj h).1
    rfl
  | cons c s ih =>
    by_cases hc : c = '\n'
    · rw [cutAfter, if_pos hc] at h
      exact absurd (List.cons.inj h).2 (cutAfter_ne_nil s)
    · obtain ⟨p, hp, rfl⟩ := (cutAfter_cons_ne hc).mp h
      rw [readln, if_neg hc, ih hp, lineSpace_cons hc, List.range'_succ]
      rfl

/-- A whole line. -/
theorem readln_whole (h : cutAfter '\n' s = line :: rest) (hrest : rest ≠ []) (i : Nat) :
    readln i s = ⟨List.range' i (lineSpace line), some (line, rest.flatten)⟩ ∧
      cutAfter '\n' rest.flatten = rest := by
  induction s generalizing line i with
  | nil => exact absurd (List.cons.inj h).2.symm hrest
  | cons c s ih =>
    by_cases hc : c = '\n'
    · rw [cutAfter, if_pos hc] at h
      obtain ⟨rfl, rfl⟩ := List.cons.inj h
      rw [flatten_cutAfter, readln, if_pos hc, hc]
      exact ⟨rfl, rfl⟩
    · obtain ⟨p, hp, rfl⟩ := (cutAfter_cons_ne hc).mp h
      obtain ⟨hread, hcut⟩ := ih hp (i + 1)
      rw [readln, if_neg hc, hread, lineSpace_cons hc, List.range'_succ]
      exact ⟨rfl, hcut⟩

theorem inRange_iff {bufsiz n : Nat} : (∀ i ∈ List.range' 0 n, i < bufsiz) ↔ n ≤ bufsiz := by
  constructor
  · intro h
    by_contra hlt
    have hmem : bufsiz ∈ List.range' 0 n := List.mem_range'_1.mpr ⟨Nat.zero_le _, by omega⟩
    exact Nat.lt_irrefl _ (h bufsiz hmem)
  · intro h i hi
    have hlt := (List.mem_range'_1.mp hi).2
    omega

end Lines

section Headers

variable {s line : Text} {rest : List Text} {bufsiz fuel : Nat} {sr : SipRequest} {n : Nat}

theorem headerLoop_last (h : cutAfter '\n' s = [line]) :
    headerLoop (fuel + 1) sr n s = ([List.range' 0 (lineSpace line)], .thrown) := by
  rw [headerLoop, readln_last h]

theorem headerLoop_blank (h : cutAfter '\n' s = line :: rest) (hrest : rest ≠ [])
    (hblank : cstr line = blankLine) : headerLoop (fuel + 1) sr n s =
      ([List.range' 0 (lineSpace line)], .parsed sr n rest.flatten) := by
  rw [headerLoop, (readln_whole h hrest 0).1]
  dsimp only
  rw [if_pos hblank]

theorem headerLoop_line (h : cutAfter '\n' s = line :: rest) (hrest : rest ≠ [])
    (hblank : cstr line ≠ blankLine) : headerLoop (fuel + 1) sr n s =
      (List.range' 0 (lineSpace line) ::
          (headerLoop fuel (sr.readLine n (cstr line)).1 (sr.readLine n (cstr line)).2
            rest.flatten).1,
        (headerLoop fuel (sr.readLine n (cstr line)).1 (sr.readLine n (cstr line)).2
          rest.flatten).2) := by
  rw [headerLoop, (readln_whole h hrest 0).1]
  dsimp only
  rw [if_neg hblank]

/-- The loop ends: each round takes a line. -/
theorem headerLoop_ends {lines : List Text} (h : cutAfter '\n' s = lines)
    (hfuel : lines.length ≤ fuel) : (headerLoop fuel sr n s).2 ≠ .running := by
  induction lines generalizing fuel sr n s with
  | nil => exact absurd h (cutAfter_ne_nil s)
  | cons line rest ih =>
    obtain ⟨fuel, rfl⟩ : ∃ k, fuel = k + 1 := ⟨fuel - 1, by rw [List.length_cons] at hfuel; omega⟩
    by_cases hrest : rest = []
    · rw [headerLoop_last (hrest ▸ h)]
      exact HeadersEnd.noConfusion
    by_cases hblank : cstr line = blankLine
    · rw [headerLoop_blank h hrest hblank]
      exact HeadersEnd.noConfusion
    · rw [headerLoop_line h hrest hblank]
      exact ih (readln_whole h hrest 0).2 (Nat.le_of_succ_le_succ hfuel)

/-- The header lines, up to the blank one. -/
def headerLines : List Text → List Text
  | [] => []
  | line :: rest => line :: if cstr line = blankLine then [] else headerLines rest

theorem headerLines_last : headerLines [line] = [line] := by
  unfold headerLines
  split <;> rfl

theorem headerLines_blank (h : cstr line = blankLine) : headerLines (line :: rest) = [line] := by
  rw [headerLines, if_pos h]

theorem headerLines_line (h : cstr line ≠ blankLine) :
    headerLines (line :: rest) = line :: headerLines rest := by
  rw [headerLines, if_neg h]

/-- The buffers hold the lines that fit. -/
theorem headerLoop_inBuffers {lines : List Text} (h : cutAfter '\n' s = lines)
    (hfuel : lines.length ≤ fuel) : InBuffers bufsiz (headerLoop fuel sr n s).1 ↔
      ∀ l ∈ headerLines lines, lineSpace l ≤ bufsiz := by
  induction lines generalizing fuel sr n s with
  | nil => exact absurd h (cutAfter_ne_nil s)
  | cons line rest ih =>
    obtain ⟨fuel, rfl⟩ : ∃ k, fuel = k + 1 := ⟨fuel - 1, by rw [List.length_cons] at hfuel; omega⟩
    by_cases hrest : rest = []
    · subst hrest
      rw [headerLoop_last h, headerLines_last]
      simp only [InBuffers, List.forall_mem_singleton]
      exact inRange_iff
    by_cases hblank : cstr line = blankLine
    · rw [headerLoop_blank h hrest hblank, headerLines_blank hblank]
      simp only [InBuffers, List.forall_mem_singleton]
      exact inRange_iff
    · rw [headerLoop_line h hrest hblank, headerLines_line hblank, InBuffers,
        List.forall_mem_cons, List.forall_mem_cons]
      exact and_congr inRange_iff
        (ih (readln_whole h hrest 0).2 (Nat.le_of_succ_le_succ hfuel))

/-- What the loop read, as the reader of lines says it. -/
def HeadersEnd.read : HeadersEnd → Except Refusal (SipRequest × Nat × Text)
  | .parsed sr numberRead rest => .ok (sr, numberRead, rest)
  | .thrown => .error .ended
  | .running => .error .ended

theorem socketReadln_last (h : cutAfter '\n' s = [line]) : socketReadln bufsiz [line] =
    if lineSpace line ≤ bufsiz then .error .ended else .error .overflow := by
  rw [lineSpace, if_neg (not_mem_of_cutAfter h)]
  rfl

theorem socketReadln_whole (h : cutAfter '\n' s = line :: rest) (hrest : rest ≠ []) :
    socketReadln bufsiz (line :: rest) =
      if lineSpace line ≤ bufsiz then .ok (cstr line, rest) else .error .overflow := by
  rw [lineSpace, if_pos (mem_of_cutAfter h hrest), socketReadln_cons hrest]
  rfl

/-- The reader of lines reads what the loop reads where the lines fit, and says
of the others that they overflow. -/
theorem readHeaders_eq {lines : List Text} (h : cutAfter '\n' s = lines)
    (hfuel : lines.length ≤ fuel) : readHeaders bufsiz sr n lines =
      if ∀ l ∈ headerLines lines, lineSpace l ≤ bufsiz then (headerLoop fuel sr n s).2.read
      else .error .overflow := by
  induction lines generalizing fuel sr n s with
  | nil => exact absurd h (cutAfter_ne_nil s)
  | cons line rest ih =>
    obtain ⟨fuel, rfl⟩ : ∃ k, fuel = k + 1 := ⟨fuel - 1, by rw [List.length_cons] at hfuel; omega⟩
    by_cases hrest : rest = []
    · subst hrest
      rw [readHeaders, socketReadln_last h, headerLoop_last h, headerLines_last]
      simp only [List.forall_mem_singleton]
      by_cases hfits : lineSpace line ≤ bufsiz
      · rw [if_pos hfits, if_pos hfits]
        rfl
      · rw [if_neg hfits, if_neg hfits]
    rw [readHeaders, socketReadln_whole h hrest]
    by_cases hfits : lineSpace line ≤ bufsiz
    · rw [if_pos hfits]
      by_cases hblank : cstr line = blankLine
      · rw [headerLoop_blank h hrest hblank, headerLines_blank hblank]
        simp only [List.forall_mem_singleton]
        rw [if_pos hfits]
        exact if_pos hblank
      · rw [headerLoop_line h hrest hblank, headerLines_line hblank]
        simp only [List.forall_mem_cons, hfits, true_and]
        rw [← ih (readln_whole h hrest 0).2 (Nat.le_of_succ_le_succ hfuel)]
        refine (if_neg hblank).trans ?_
        unfold SipRequest.readLine
        cases matchHeader (cstr line) <;> rfl
    · have hfirst : line ∈ headerLines (line :: rest) := List.mem_cons_self
      rw [if_neg hfits, if_neg fun hall => hfits (hall line hfirst)]

end Headers

section Processing

/-- What `process_request` does with a datagram: what its line buffers have
written, how the reading of the headers ends, the request it hands to the
handler, and what the handler makes of it. -/
structure Processing where
  buffers : List (List Nat)
  ended : HeadersEnd
  handled : Option Request
  server : SipServer
  sent : List Sent

/-- The request of a head that was read. -/
def handedOver (method : Text) : HeadersEnd → Option Request
  | .parsed sr numberRead rest =>
    if numberRead = 0 then none
    else match readContent sr.contLen rest with
      | .ok body => some ⟨method, body, sr⟩
      | .error _ => none
  | .thrown => none
  | .running => none

/-- The loops have a round for each byte, and one more. -/
def processRequest (s : SipServer) (strm : SipStream) (datagram : Text) : Processing :=
  let head := headLoop (datagram.length + 1) datagram
  let req := head.2.1.bind fun method => handedOver method head.2.2
  let handled := req.elim (s, []) (handle s strm)
  ⟨head.1, head.2.2, req, handled.1, handled.2⟩

/-- The loops end with a head or with an exception, and the maps are what they
were unless a request was handed over. -/
structure Processing.Ends (p : Processing) (s : SipServer) : Prop where
  ended : (∃ sr numberRead rest, p.ended = .parsed sr numberRead rest) ∨ p.ended = .thrown
  thrown : p.ended = .thrown → p.server = s
  unhandled : p.handled = none → p.server = s

/-- The request line and the header lines of a datagram. -/
def headLines : List Text → List Text
  | [] => []
  | line :: rest => line :: headerLines rest

/-- Every line of the head fits a buffer of `bufsiz` bytes. -/
def HeadFits (bufsiz : Nat) (datagram : Text) : Prop :=
  ∀ l ∈ headLines (cutAfter '\n' datagram), lineSpace l ≤ bufsiz

instance (bufsiz : Nat) (datagram : Text) : Decidable (HeadFits bufsiz datagram) :=
  List.decidableBAll _ _

variable {bufsiz : Nat} {datagram line : Text} {rest : List Text}

theorem headLoop_last (fuel : Nat) (h : cutAfter '\n' datagram = [line]) :
    headLoop fuel datagram = ([List.range' 0 (lineSpace line)], none, .thrown) := by
  rw [headLoop, readln_last h]

theorem headLoop_whole (fuel : Nat) (h : cutAfter '\n' datagram = line :: rest)
    (hrest : rest ≠ []) : headLoop fuel datagram =
      (List.range' 0 (lineSpace line) :: (headerLoop fuel {} 0 rest.flatten).1,
        some (cstr line), (headerLoop fuel {} 0 rest.flatten).2) := by
  rw [headLoop, (readln_whole h hrest 0).1]

/-- There is a round for each line behind the request line. -/
theorem rounds (h : cutAfter '\n' datagram = line :: rest) :
    rest.length ≤ datagram.length + 1 := by
  have hlength := length_cutAfter_le (d := '\n') datagram
  rw [h, List.length_cons] at hlength
  omega

theorem headLoop_inBuffers : InBuffers bufsiz (headLoop (datagram.length + 1) datagram).1 ↔
    HeadFits bufsiz datagram := by
  unfold HeadFits
  cases h : cutAfter '\n' datagram with
  | nil => exact absurd h (cutAfter_ne_nil datagram)
  | cons line rest =>
    by_cases hrest : rest = []
    · subst hrest
      rw [headLoop_last _ h]
      simp only [InBuffers, headLines, headerLines, List.forall_mem_singleton]
      exact inRange_iff
    · rw [headLoop_whole _ h hrest, headLines, InBuffers, List.forall_mem_cons,
        List.forall_mem_cons]
      exact and_congr inRange_iff
        (headerLoop_inBuffers (readln_whole h hrest 0).2 (rounds h))

theorem headLoop_ends : (headLoop (datagram.length + 1) datagram).2.2 ≠ .running := by
  cases h : cutAfter '\n' datagram with
  | nil => exact absurd h (cutAfter_ne_nil datagram)
  | cons line rest =>
    by_cases hrest : rest = []
    · subst hrest
      rw [headLoop_last _ h]
      exact HeadersEnd.noConfusion
    · rw [headLoop_whole _ h hrest]
      exact headerLoop_ends (readln_whole h hrest 0).2 (rounds h)

variable (s : SipServer) (strm : SipStream)

theorem processRequest_ends : (processRequest s strm datagram).Ends s where
  ended := by
    have hends : (headLoop (datagram.length + 1) datagram).2.2 ≠ .running := headLoop_ends
    unfold processRequest
    cases hended : (headLoop (datagram.length + 1) datagram).2.2 with
    | parsed sr numberRead rest => exact Or.inl ⟨sr, numberRead, rest, hended⟩
    | thrown => exact Or.inr hended
    | running => exact absurd hended hends
  thrown := by
    intro hthrown
    unfold processRequest at hthrown ⊢
    dsimp only at hthrown ⊢
    rw [hthrown]
    cases (headLoop (datagram.length + 1) datagram).2.1 <;> rfl
  unhandled := by
    intro hnone
    unfold processRequest at hnone ⊢
    dsimp only at hnone ⊢
    rw [hnone]
    rfl

/-- The line buffers of a datagram are written in bounds, and its loops end as
they should, exactly when each line of its head fits. -/
theorem processRequest_safe_iff :
    (InBuffers lineBuffer (processRequest s strm datagram).buffers ∧
      (processRequest s strm datagram).Ends s) ↔ HeadFits lineBuffer datagram :=
  (and_iff_left (processRequest_ends s strm)).trans headLoop_inBuffers

/-- A datagram of 4096 bytes without a line end. -/
theorem processRequest_overruns : (List.replicate maxLine 'a').length ≤ maxLine ∧
    ∃ writes ∈ (processRequest SipServer.empty callerStream (List.replicate maxLine 'a')).buffers,
      lineBuffer ∈ writes := by
  have hend : '\n' ∉ List.replicate maxLine 'a' := by
    intro hmem
    have heq := List.eq_of_mem_replicate hmem
    revert heq
    decide
  refine ⟨(List.length_replicate).le, List.range' 0 maxLine, ?_, ?_⟩
  · unfold processRequest
    rw [headLoop_last _ (cutAfter_of_not_mem hend), lineSpace, if_neg hend,
      List.length_replicate]
    exact List.mem_cons_self
  · exact List.mem_range'_1.mpr ⟨Nat.zero_le _, by decide⟩

/-- Where the lines fit, the request that is handed over is the one that is read
of the datagram. -/
theorem processRequest_handled (hfits : HeadFits lineBuffer datagram) :
    (processRequest s strm datagram).handled = (readRequest datagram).toOption := by
  unfold HeadFits at hfits
  unfold processRequest readRequest readHead
  cases h : cutAfter '\n' datagram with
  | nil => exact absurd h (cutAfter_ne_nil datagram)
  | cons line rest =>
    rw [h, headLines] at hfits
    have hline : lineSpace line ≤ lineBuffer := hfits line List.mem_cons_self
    have hheaders : ∀ l ∈ headerLines rest, lineSpace l ≤ lineBuffer := fun l hl =>
      hfits l (List.mem_cons_of_mem _ hl)
    by_cases hrest : rest = []
    · subst hrest
      rw [headLoop_last _ h, socketReadln_last h, if_pos hline]
      rfl
    · rw [headLoop_whole _ h hrest, socketReadln_whole h hrest, if_pos hline]
      dsimp only
      rw [readHeaders_eq (readln_whole h hrest 0).2 (rounds h), if_pos hheaders]
      cases (headerLoop (datagram.length + 1) {} 0 rest.flatten).2 with
      | parsed sr numberRead rest' =>
        simp only [HeadersEnd.read, Option.bind_some, handedOver]
        by_cases hread : numberRead = 0
        · rw [if_pos hread, if_pos hread]
          rfl
        · rw [if_neg hread, if_neg hread]
          cases readContent sr.contLen rest' <;> rfl
      | thrown => rfl
      | running => rfl

/-- Where the lines fit, the server does what it is said to do with a datagram. -/
theorem processRequest_eq_receive (hfits : HeadFits lineBuffer datagram)
    (hlength : datagram.length ≤ maxLine) :
    ((processRequest s strm datagram).server, (processRequest s strm datagram).sent) =
      receive s strm datagram := by
  have hhandled := processRequest_handled s strm hfits
  unfold receive
  rw [List.take_of_length_le hlength]
  unfold processRequest at hhandled ⊢
  dsimp only at hhandled ⊢
  rw [hhandled]
  cases readRequest datagram <;> rfl

end Processing

end UCLinux.Sip
