import UCLinux.Ocpp.Admission
import UCLinux.Ocpp.Decoding
import UCLinux.Ocpp.Outstanding

/-!
The SetChargingProfile CALLs of the server. Their payload is text of the table
of profiles, which the mobile interface writes as it comes, so such a CALL is
valid when the text that is read for it is that of an object. After a
StartTransaction an empty text is replaced by a profile of the server's own;
the command that tests a profile sends whatever it has read.
-/

namespace UCLinux.Ocpp

open Sql Machine Server CentralOcppDB HistoryDB

/-- The text is that of `[2,uid,"SetChargingProfile",object]`. -/
def ValidProfileCall (t : Text) : Prop :=
  ∃ uid ms, Json.IsText literals
    (.array ((Envelope.call uid "SetChargingProfile").values (.object ms))) t

def Frame.asksProfile : Frame → Bool
  | .call _ _ action _ => action = "SetChargingProfile"
  | _ => false

/-- The SetChargingProfile CALLs of the last event are valid. -/
def ProfileCallsValid (L : Lib) (s : Server) : Prop :=
  ∀ d ∈ s.wire, d.frame.asksProfile = true → ValidProfileCall (d.frame.text L)

section Frames

variable {L : Lib} {E : Env} {s : Server}

/-- A CALL with a plain uid is valid when its payload is an object. -/
theorem validProfileCall_iff {uid : Text} (hplain : Plain uid) (p : Payload) :
    ValidProfileCall ((Frame.call 2 uid "SetChargingProfile" p).text L) ↔
      IsObject (cstr (p.text L)) := by
  have huid : unescape uid = some uid := unescape_of_plain hplain
  have hname : unescape "SetChargingProfile" = some ("SetChargingProfile" : Text) := by decide
  have hshown : cstr uid = uid := cstr_of_no_nul fun hmem =>
    absurd (hplain _ hmem).2.2 (by decide)
  have htext : (Frame.call 2 uid "SetChargingProfile" p).text L =
      "[2,\"" ++ uid ++ "\",\"" ++ "SetChargingProfile" ++ "\"," ++ cstr (p.text L) ++ "]" := by
    have hid : decimal 2 = ['2'] := by decide
    have haction : cstr "SetChargingProfile" = "SetChargingProfile" := by decide
    simp only [Frame.call_text, hid, hshown, haction]
    rfl
  rw [htext]
  constructor
  · rintro ⟨u, ms, hms⟩
    have hbrackets : "[2,\"" ++ uid ++ "\",\"" ++ "SetChargingProfile" ++ "\"," ++
        cstr (p.text L) ++ "]" = '[' :: (['2'] ++ ',' :: ('"' :: uid ++ '"' :: ',' ::
          ('"' :: "SetChargingProfile" ++ '"' :: ',' :: cstr (p.text L)))) ++ [']'] := by
      simp
    rw [hbrackets] at hms
    have hdigits := (hms.brackets (List.cons_ne_nil _ _)).elements_digits
      (.of_all (by decide) (by decide))
    have hfirst := hdigits.2.elements_literal (literals.isBody _ _ huid)
    have hsecond := hfirst.2.elements_literal (literals.isBody _ _ hname)
    rcases hsecond.2.elements_cases with ⟨_, hobject⟩ | ⟨_, _, _, _, hmore⟩
    · exact ⟨ms, hobject⟩
    · cases hmore
  · rintro ⟨ms, hms⟩
    exact ⟨uid, ms, isText_call huid hname hms⟩

theorem plain_uid (n : Nat) : Plain (E.uid n) := by
  intro c hc
  rcases List.mem_append.mp hc with hc | hc
  · exact plain_hexText _ c hc
  · exact plain_hexText _ c hc

theorem no_profile_calls {t : Server} (h : ∀ d ∈ t.wire, d.frame.asksProfile = false) :
    ProfileCallsValid L t := by
  intro d hd hasks
  rw [h d hd] at hasks
  cases hasks

/-- One SetChargingProfile CALL among the frames of an event. -/
theorem profileCallsValid_iff {t : Server} (before : List Frame) {n : Nat} {p : Payload}
    (hwire : t.wire.map Delivery.frame =
      before ++ [.call 2 (E.uid n) "SetChargingProfile" p])
    (hbefore : ∀ f ∈ before, f.asksProfile = false) :
    ProfileCallsValid L t ↔ IsObject (cstr (p.text L)) := by
  rw [← validProfileCall_iff (plain_uid n)]
  constructor
  · intro h
    have hmem : Frame.call 2 (E.uid n) "SetChargingProfile" p ∈ t.wire.map Delivery.frame := by
      rw [hwire]
      simp
    obtain ⟨d, hd, hframe⟩ := List.mem_map.mp hmem
    have hvalid := h d hd (by rw [hframe]; rfl)
    rwa [hframe] at hvalid
  · intro h d hd hasks
    have hmem : d.frame ∈ before ++ [.call 2 (E.uid n) "SetChargingProfile" p] := by
      rw [← hwire]
      exact List.mem_map_of_mem hd
    rcases List.mem_append.mp hmem with hframe | hframe
    · rw [hbefore _ hframe] at hasks
      cases hasks
    · rwa [List.mem_singleton.mp hframe]

end Frames

section Assigned

variable {L : Lib} {E : Env} {s : Server}

/-- The data of the profile assigned to the station with this serial
number. -/
def assignedRows (s : Server) (sern : Text) : List Text :=
  let assigned := (s.chStations.select (·.cols.csSerN = cstr sern)).head?
  (s.csProf.select fun r => assigned.any (·.cols.profID = r.rowid)).map fun r => cstr r.cols.data

/-- What the query for the assigned profile asks for. -/
def getCSProfileResult (E : Env) (sern : Text) (s : Server) : Option (List Text) :=
  if (getCSProfileSql sern).QuoteFree then some (assignedRows s sern)
  else (E.csProf.select (getCSProfileSql sern).text s.csProf).map (List.map (cellText · 0))

/-- The last row of a result, empty when there is none. -/
def lastOf (rows : List Text) : Text := rows.getLast?.getD []

/-- A lookup of an assigned profile raises, or yields the last row. -/
theorem getCSProfile_cases {sern : Text} {rows : List Text} (hsern : sern ≠ [])
    (k : Session Server) (hrows : getCSProfileResult E sern k.state = some rows) :
    ((getCSProfile E sern k).1 = none ∨
      (getCSProfile E sern k).1 = some ((rows.length : Int), lastOf rows)) ∧
    (E.raises k.asked = none →
      (getCSProfile E sern k).1 = some ((rows.length : Int), lastOf rows)) := by
  have hread : (getCSProfile E sern k).1 =
      (query E.raises (getCSProfileResult E sern) k).1.all.map fun rows =>
        ((rows.length : Int), lastOf rows) := by
    unfold getCSProfile
    rw [if_neg hsern]
    rfl
  rw [hread]
  refine ⟨?_, fun hcalm => ?_⟩
  · rcases query_all k hrows with hall | hall
    · rw [hall]
      exact Or.inl rfl
    · rw [hall]
      exact Or.inr rfl
  · rw [query_of_calm k hcalm hrows]
    rfl

/-- What is read for the CALL that follows a StartTransaction. -/
def foundData (E : Env) (req : OcppRequest) (k : Session Server) : Text :=
  let found := (getCSProfileFromDBByIp E req k).1
  if found.1 = 0 then [] else found.2.1

/-- The CALL carries the data that was found, or a profile of the server when
it is empty. -/
theorem createSetChargingProfileRequest_valid (hwrites : L.WritesObjects) (req : OcppRequest)
    (k : Session Server) :
    ∃ n p, (createSetChargingProfileRequest L E req k).1.frame =
        .call 2 (E.uid n) "SetChargingProfile" p ∧
      (IsObject (cstr (p.text L)) ↔ foundData E req k = [] ∨ IsObject (cstr (foundData E req k))) := by
  unfold createSetChargingProfileRequest foundData
  rw [Action.bind_apply]
  generalize (getCSProfileFromDBByIp E req k).1 = found
  obtain ⟨rv, data, req'⟩ := found
  dsimp only
  by_cases hfound : rv ≠ 0 ∧ data ≠ []
  · rw [if_pos hfound, if_neg hfound.1]
    refine ⟨_, .raw data, rfl, ?_⟩
    rw [Payload.text, or_iff_right hfound.2]
  · rw [if_neg hfound]
    refine ⟨_, _, rfl, iff_of_true ?_ (Or.inl ?_)⟩
    · exact (hwrites (fillSetChargingProfileRequest _) fun t ht => by cases ht).shown
    · split
      · rfl
      · next hrv =>
        by_contra hdata
        exact hfound ⟨hrv, hdata⟩

/-- Without a station nothing is found. -/
theorem foundData_short (req : OcppRequest) (h : ¬10 < req.uniqueID.length)
    (k : Session Server) : foundData E req k = [] := by
  have hzero : (getCSProfileFromDBByIp E req k).1.1 = 0 := by
    unfold getCSProfileFromDBByIp getSerNumberByIPAddr getCSProfile
    rw [createConnection_bind, if_neg h]
    split
    · rfl
    · rfl
  unfold foundData
  rw [if_pos hzero]

/-- What is found in the order of the lookups. -/
theorem getCSProfileFromDBByIp_long {req : OcppRequest} (h : 10 < req.uniqueID.length)
    (k : Session Server) :
    ∃ k', k'.state = k.state ∧
      ((getCSProfileFromDBByIp E req k).1.1, (getCSProfileFromDBByIp E req k).1.2.1) =
      if E.raises k.asked = none ∧ (getSerNumberByIPAddr E req k.tick).1.cid ≠ none then
        (getCSProfile E (sernOfUid req.uniqueID) k').1.getD (0, [])
      else (0, []) := by
  refine ⟨(getSerNumberByIPAddr E req k.tick).2, ?_, ?_⟩
  · exact Writes.state_eq getSerNumberByIPAddr_writes k.tick
  · have hsern := getSerNumberByIPAddr_sern E req k.tick
    rw [if_pos h] at hsern
    unfold getCSProfileFromDBByIp
    rw [createConnection_bind]
    by_cases hopened : E.raises k.asked = none
    · rw [if_pos hopened, Action.bind_apply, ← hsern]
      simp only [hopened, true_and]
      generalize getSerNumberByIPAddr E req k.tick = found
      obtain ⟨found, k'⟩ := found
      dsimp only
      cases found.cid with
      | none => rfl
      | some cid =>
        dsimp only
        rw [Action.bind_apply, if_pos (Option.some_ne_none _)]
        cases (getCSProfile E found.sern k').1 with
        | none => rfl
        | some row => rfl
    · rw [if_neg hopened, if_neg fun h => hopened h.1]
      rfl

theorem lastOf_length (rows : List Text) :
    (if (rows.length : Int) = 0 then [] else lastOf rows) = lastOf rows := by
  cases rows with
  | nil => rfl
  | cons row rows =>
    rw [if_neg]
    simp only [List.length_cons]
    omega

theorem foundData_eq {req : OcppRequest} {k : Session Server} {n : Int} {data : Text}
    (h : ((getCSProfileFromDBByIp E req k).1.1, (getCSProfileFromDBByIp E req k).1.2.1) =
      (n, data)) : foundData E req k = if n = 0 then [] else data := by
  obtain ⟨rfl, rfl⟩ := Prod.mk.inj h
  rfl

/-- What is found is the last row of the query, or nothing because something
raises. -/
theorem foundData_cases (req : OcppRequest) {rows : List Text} (h : 10 < req.uniqueID.length)
    (k : Session Server)
    (hrows : getCSProfileResult E (sernOfUid req.uniqueID) k.state = some rows) :
    foundData E req k = [] ∨ foundData E req k = lastOf rows := by
  obtain ⟨k', hk', hfound⟩ := getCSProfileFromDBByIp_long (E := E) h k
  split at hfound
  · rcases (getCSProfile_cases (sernOfUid_ne_nil _) k' (hk' ▸ hrows)).1 with hread | hread
    · rw [hread] at hfound
      exact Or.inl (foundData_eq hfound)
    · rw [hread] at hfound
      exact Or.inr ((foundData_eq hfound).trans (lastOf_length rows))
  · exact Or.inl (foundData_eq hfound)

/-- Nothing raises. -/
theorem foundData_quiet {req : OcppRequest} {rows : List Text} (h : 10 < req.uniqueID.length)
    (hquiet : E.Quiet) (k : Session Server)
    (hcid : (getSerNumberByIPAddr E req k.tick).1.cid ≠ none)
    (hrows : getCSProfileResult E (sernOfUid req.uniqueID) k.state = some rows) :
    foundData E req k = lastOf rows := by
  obtain ⟨k', hk', hfound⟩ := getCSProfileFromDBByIp_long (E := E) h k
  have hread := (getCSProfile_cases (E := E) (sernOfUid_ne_nil _) k' (hk' ▸ hrows)).2 (hquiet _)
  rw [if_pos ⟨hquiet _, hcid⟩, hread] at hfound
  exact (foundData_eq hfound).trans (lastOf_length rows)

/-- The client of a station is found when nothing raises. -/
theorem getSerNumberByIPAddr_quiet {req : OcppRequest} (hquiet : E.Quiet) (k : Session Server)
    (hselect : (getSerNumberSql (sernOfUid req.uniqueID)).QuoteFree ∨
      ∃ rows, E.chStations.select (getSerNumberSql (sernOfUid req.uniqueID)).text
        k.state.chStations = some rows) :
    (getSerNumberByIPAddr E req k).1.cid ≠ none := by
  unfold getSerNumberByIPAddr
  by_cases hlong : 10 < req.uniqueID.length
  · rw [if_pos hlong, Action.bind_apply]
    obtain ⟨row, hrow⟩ := CH_STATIONS.read_first_of_calm (E := E)
      (getSerNumberSql (sernOfUid req.uniqueID))
      (fun t => (t.select (·.cols.csSerN = cstr (sernOfUid req.uniqueID))).map
        fun r => (wrap32 r.cols.clientID, wrap32 r.cols.certFlag))
      (fun row => (cellInt row 0, cellInt row 1)) k (hquiet _) hselect
    revert hrow
    generalize (CH_STATIONS.read E _ _ _ k).1.first = found
    rintro rfl
    cases row with
    | none => exact Option.some_ne_none _
    | some row => exact Option.some_ne_none _
  · rw [if_neg hlong]
    exact Option.some_ne_none _

end Assigned

/-- What the CALL after a StartTransaction is built from. -/
def profileRequest (req : OcppRequest) : OcppRequest :=
  { remoteIP := req.remoteIP, uniqueID := req.uniqueID }

section Messages

variable {L : Lib} {E : Env} {s : Server} {con : Connection} {payload : Text}

/-- The frames of a handled CALL. -/
theorem onMessage_frames {req : OcppRequest} {a : OcppAction}
    (h : parseOCPPRequest L (incoming con payload) = some req) (hcall : req.callID = 2)
    (ha : OcppAction.ofName req.action = some a) :
    (s.after (onMessage L E con payload)).wire.map Delivery.frame =
      match a.process L E req s.start with
      | (none, _) => [internalError req.uniqueID]
      | (some p, s') => [.callResult 3 req.uniqueID p] ++
        if req.action = "StartTransaction" then
          [(createSetChargingProfileRequest L E (profileRequest req) s').1.frame]
        else [] := by
  have hlen : 2 < payload.length := length_of_request h (by omega)
  have hsent {r : Processed} {s' : Session Server}
      (hr : processCall L E req ⟨0, [], []⟩ s.start = (r, s')) (hwire : s'.state.wire = []) :
      (s.after (onMessage L E con payload)).wire.map Delivery.frame = r.frames := by
    have hincoming : processOCPPIncoming L E (incoming con payload) ⟨0, [], []⟩ s.start =
        (r, s') := by
      rw [processOCPPIncoming_of_parse h, if_pos hcall, hr]
    obtain ⟨ds, hds, hstate⟩ := onMessage_state hlen hincoming
    have hafter : s.after (onMessage L E con payload) =
        { s'.state with wire := s'.state.wire ++ ds } := hstate
    rw [hafter, ← hds.1, hwire]
    rfl
  have hwire : (a.process L E req s.start).2.state.wire = [] :=
    (OcppAction.process_writes (T := a.writes) a (List.Subset.refl _) s.start).wire
      (by cases a <;> decide)
  cases hdone : a.process L E req s.start with
  | mk done s' =>
    rw [hdone] at hwire
    cases done with
    | none =>
      obtain ⟨r, hr, hframes⟩ := processCall_raised ha hdone
      rw [hsent hr hwire, hframes]
    | some p =>
      have hprocess := processCall_some ha hdone
      dsimp only
      by_cases hstart : req.action = "StartTransaction"
      · rw [if_pos hstart] at hprocess
        rw [if_pos hstart, hsent hprocess]
        · rfl
        · have hcreate : Writes [.requestQueue] (createSetChargingProfileRequest L E
              (profileRequest req)) :=
            createSetChargingProfileRequest_writes _ (by simp)
          exact ((hcreate s').wire (by simp)).trans hwire
      · rw [if_neg hstart] at hprocess
        rw [if_neg hstart, hsent hprocess hwire]
        rfl

/-- The profile assigned to the station of a StartTransaction is an object or
empty, and its serial number no text of the query. -/
def StartsFit (L : Lib) (s : Server) (con : Connection) (payload : Text) : Prop :=
  ∀ req, parseOCPPRequest L (incoming con payload) = some req → req.callID = 2 →
    req.action = "StartTransaction" →
    (L.loadStartTransaction (doSimpleExtract payload)).isSome → 10 < req.uniqueID.length →
    '\'' ∉ cstr (sernOfUid req.uniqueID) ∧
      (lastOf (assignedRows s (sernOfUid req.uniqueID)) = [] ∨
        IsObject (lastOf (assignedRows s (sernOfUid req.uniqueID))))

/-- A StartTransaction that loads is answered. -/
theorem processStartTransaction_answers {req : OcppRequest} {p : StartTransactionRequest}
    (hload : L.loadStartTransaction (doSimpleExtract req.reqStr) = some p)
    (k : Session Server) : ∃ q, (processStartTransaction L E req k).1 = some q := by
  unfold processStartTransaction
  rw [hload]
  exact ⟨_, rfl⟩

/-- Its frames are valid as the data found for them. -/
theorem started_valid_iff (hwrites : L.WritesObjects) {req : OcppRequest}
    {p : StartTransactionRequest}
    (h : parseOCPPRequest L (incoming con payload) = some req) (hcall : req.callID = 2)
    (haction : req.action = "StartTransaction")
    (hload : L.loadStartTransaction (doSimpleExtract req.reqStr) = some p) :
    ∃ k, k.state.chStations = s.chStations ∧ k.state.csProf = s.csProf ∧
      (ProfileCallsValid L (s.after (onMessage L E con payload)) ↔
        foundData E (profileRequest req) k = [] ∨
        IsObject (cstr (foundData E (profileRequest req) k))) := by
  have ha : OcppAction.ofName req.action = some .startTransaction := by
    rw [haction]
    rfl
  have hframes := onMessage_frames (E := E) (s := s) h hcall ha
  obtain ⟨q, hq⟩ := processStartTransaction_answers (L := L) (E := E) hload s.start
  have hwrites' : Writes [.csHist, .startTr]
      (OcppAction.startTransaction.process L E req) :=
    OcppAction.process_writes .startTransaction (List.Subset.refl _)
  have honly := hwrites' s.start
  cases hdone : OcppAction.startTransaction.process L E req s.start with
  | mk done k =>
    have hsome : done = some q := by
      have hfst : (OcppAction.startTransaction.process L E req s.start).1 = some q := hq
      rw [hdone] at hfst
      exact hfst
    rw [hdone, hsome] at hframes
    rw [hdone] at honly
    dsimp only at hframes
    rw [if_pos haction] at hframes
    obtain ⟨n, p', hframe, hp'⟩ := createSetChargingProfileRequest_valid (E := E) hwrites
      (profileRequest req) k
    rw [hframe] at hframes
    refine ⟨k, honly.chStations (by simp), honly.csProf (by simp), ?_⟩
    rw [← hp']
    refine profileCallsValid_iff _ hframes fun f hf => ?_
    rw [List.mem_singleton.mp hf]
    rfl

theorem IsObject.brace {t : Text} (h : IsObject t) : '{' ∈ t := by
  obtain ⟨ms, hms⟩ := h
  unfold Json.IsText at hms
  cases hms with
  | padded _ hvalue _ =>
    obtain ⟨m, rfl⟩ := hvalue.object_braces
    simp

theorem cstr_lastOf_assignedRows (sern : Text) :
    cstr (lastOf (assignedRows s sern)) = lastOf (assignedRows s sern) := by
  unfold lastOf
  cases hlast : (assignedRows s sern).getLast? with
  | none => rfl
  | some row =>
    obtain ⟨r, _, rfl⟩ := List.mem_map.mp (List.mem_of_getLast? hlast)
    exact cstr_cstr _

/-- An engine that takes a query altered by a quote for one of the
placeholder. -/
def Env.placeholding : Env :=
  { Env.calm with
    chStations := { Altered.refused _ with select := fun _ _ => some [] }
    csProf := { Altered.refused _ with select := fun _ _ => some [[.text "?"]] } }

theorem getCSProfileResult_literal {sern : Text} (hquote : '\'' ∉ cstr sern) {t : Server}
    (hstations : t.chStations = s.chStations) (hprof : t.csProf = s.csProf) :
    getCSProfileResult E sern t = some (assignedRows s sern) := by
  unfold getCSProfileResult assignedRows
  rw [if_pos (getCSProfileSql_quoteFree.mpr hquote), hstations, hprof]

/-- With a quote in the uid the query can yield anything. -/
theorem foundData_placeholding (req : OcppRequest) (hlong : 10 < req.uniqueID.length)
    (hquote : '\'' ∈ cstr (sernOfUid req.uniqueID)) (k : Session Server) :
    foundData .placeholding req k = "?" := by
  have hquiet : Env.placeholding.Quiet := fun _ => rfl
  have hrows : getCSProfileResult .placeholding (sernOfUid req.uniqueID) k.state =
      some [("?" : Text)] := by
    unfold getCSProfileResult
    rw [if_neg fun hfree => getCSProfileSql_quoteFree.mp hfree hquote]
    rfl
  exact foundData_quiet hlong hquiet k
    (getSerNumberByIPAddr_quiet hquiet k.tick (Or.inr ⟨[], rfl⟩)) hrows

theorem foundData_calm (req : OcppRequest) (hlong : 10 < req.uniqueID.length)
    (hquote : '\'' ∉ cstr (sernOfUid req.uniqueID)) (k : Session Server)
    (hstations : k.state.chStations = s.chStations) (hprof : k.state.csProf = s.csProf) :
    foundData .calm req k = lastOf (assignedRows s (sernOfUid req.uniqueID)) := by
  have hquiet : Env.calm.Quiet := fun _ => rfl
  refine foundData_quiet hlong hquiet k ?_ (getCSProfileResult_literal hquote hstations hprof)
  exact getSerNumberByIPAddr_quiet hquiet k.tick
    (Or.inl (getSerNumberSql_quoteFree.mpr hquote))

theorem frames_ask_nothing {t : Server} {frames : List Frame}
    (hwire : t.wire.map Delivery.frame = frames)
    (hframes : ∀ f ∈ frames, f.asksProfile = false) : ProfileCallsValid L t := by
  refine no_profile_calls fun d hd => ?_
  have hmem := List.mem_map_of_mem (f := Delivery.frame) hd
  rw [hwire] at hmem
  exact hframes _ hmem

/-- A message that starts no transaction is answered without a CALL. -/
theorem unstarted_valid {req : OcppRequest} {a : OcppAction}
    (h : parseOCPPRequest L (incoming con payload) = some req) (hcall : req.callID = 2)
    (ha : OcppAction.ofName req.action = some a)
    (hstart : req.action = "StartTransaction" →
      L.loadStartTransaction (doSimpleExtract req.reqStr) = none) :
    ProfileCallsValid L (s.after (onMessage L E con payload)) := by
  have hframes := onMessage_frames (E := E) (s := s) h hcall ha
  refine frames_ask_nothing hframes ?_
  cases hdone : a.process L E req s.start with
  | mk done s' =>
    intro f hf
    cases done with
    | none =>
      rw [List.mem_singleton.mp hf]
      rfl
    | some q =>
      dsimp only at hf
      by_cases haction : req.action = "StartTransaction"
      · have ha' : a = .startTransaction := by
          rw [haction] at ha
          exact (Option.some.inj ha).symm
        subst ha'
        rw [process_unloaded .startTransaction
          (by rw [OcppAction.loads, hstart haction]; rfl)] at hdone
        cases hdone
      · rw [if_neg haction, List.append_nil] at hf
        rw [List.mem_singleton.mp hf]
        rfl

/-- Whatever fails outside, the CALL after a message is valid exactly when the
profile it is made from fits. -/
theorem starts_valid_iff (hwrites : L.WritesObjects) :
    (∀ E, ProfileCallsValid L (s.after (onMessage L E con payload))) ↔
      StartsFit L s con payload := by
  constructor
  · intro hvalid req hparse hcall haction hload hlong
    have hstr : req.reqStr = payload := (parse_keeps hparse).1
    obtain ⟨p, hp⟩ := Option.isSome_iff_exists.mp hload
    rw [← hstr] at hp
    have hquote : '\'' ∉ cstr (sernOfUid req.uniqueID) := by
      intro hmem
      obtain ⟨k, _, _, hiff⟩ := started_valid_iff (E := .placeholding) (s := s) hwrites hparse
        hcall haction hp
      rw [foundData_placeholding (profileRequest req) hlong hmem] at hiff
      rcases hiff.mp (hvalid _) with hnil | hobject
      · cases hnil
      · exact absurd hobject.brace (by decide)
    refine ⟨hquote, ?_⟩
    obtain ⟨k, hstations, hprof, hiff⟩ := started_valid_iff (E := .calm) (s := s) hwrites hparse
      hcall haction hp
    rw [foundData_calm (profileRequest req) hlong hquote k hstations hprof,
      cstr_lastOf_assignedRows] at hiff
    exact hiff.mp (hvalid _)
  · intro hfit E
    rcases onMessage_cases (L := L) E con payload s.start with
      ⟨req, a, hparse, hcall, ha⟩ | ⟨_, ds, hwire, hds⟩
    · by_cases hstart : req.action = "StartTransaction" ∧
          ∃ p, L.loadStartTransaction (doSimpleExtract req.reqStr) = some p
      · obtain ⟨haction, p, hload⟩ := hstart
        have hstr : req.reqStr = payload := (parse_keeps hparse).1
        obtain ⟨k, hstations, hprof, hiff⟩ := started_valid_iff (E := E) (s := s) hwrites hparse
          hcall haction hload
        refine hiff.mpr ?_
        by_cases hlong : 10 < req.uniqueID.length
        · obtain ⟨hquote, hdata⟩ := hfit req hparse hcall haction
            (by rw [← hstr, hload]; rfl) hlong
          rcases foundData_cases (E := E) (profileRequest req) hlong k
            (getCSProfileResult_literal hquote hstations hprof) with hnone | hfound
          · exact Or.inl hnone
          · rw [hfound, cstr_lastOf_assignedRows]
            exact hdata
        · exact Or.inl (foundData_short (profileRequest req) hlong k)
      · refine unstarted_valid hparse hcall ha fun haction => ?_
        by_contra hload
        exact hstart ⟨haction, Option.ne_none_iff_exists'.mp hload⟩
    · have hsame : (s.after (onMessage L E con payload)).wire.map Delivery.frame =
          ds.map Delivery.frame := congrArg (List.map Delivery.frame) hwire
      refine frames_ask_nothing hsame fun f hf => ?_
      obtain ⟨d, hd, rfl⟩ := List.mem_map.mp hf
      obtain ⟨uid, hframe⟩ := hds d hd
      rw [hframe]
      rfl

end Messages

section Commands

variable {L : Lib} {E : Env} {s : Server} {N : Text}

def testProfileName (cmd : Int) : Text := "ChargingProfile_" ++ decimal (cmd - 30)

/-- The rows of a profile name that are read before the second question
raises. -/
def namedRows (E : Env) (s : Server) (profName : Text) : List Text :=
  let rows := (s.csProf.select (·.cols.profName = cstr profName)).map fun r => cstr r.cols.data
  match E.raises 1 with
  | none => rows
  | some n => rows.take n

theorem testProfileName_quote (cmd : Int) : '\'' ∉ cstr (testProfileName cmd) := by
  intro hmem
  rcases List.mem_append.mp (mem_of_mem_cstr hmem) with hmem | hmem
  · exact absurd hmem (by decide)
  · exact quote_not_mem_decimal _ hmem

/-- What is read for the test of a profile. -/
theorem getCSProfileFromDBByProfName_start (cmd : Int) :
    getCSProfileFromDBByProfName E (testProfileName cmd) s.start =
      if E.raises 0 = none then
        ((((namedRows E s (testProfileName cmd)).length : Int),
          lastOf (namedRows E s (testProfileName cmd))), s.start.tick.tick)
      else ((0, []), s.start.tick) := by
  unfold getCSProfileFromDBByProfName
  rw [createConnection_bind, Server.start_asked]
  by_cases hopened : E.raises 0 = none
  · rw [if_pos hopened, if_pos hopened, Action.bind_apply, TableAt.read_snd]
    have hrows : (CSProfTbl.read E (getCSProfileByProfNameSql (testProfileName cmd))
        (fun t => (t.select (·.cols.profName = cstr (testProfileName cmd))).map
          fun r => cstr r.cols.data) (cellText · 0) s.start.tick).1.rows =
        namedRows E s (testProfileName cmd) := by
      unfold TableAt.read query namedRows
      simp only [getCSProfileByProfNameSql_quoteFree.mpr (testProfileName_quote cmd), if_true]
      have hraises : CSProfTbl.raises E s.start.tick.asked = E.raises 1 := rfl
      rw [hraises]
      cases E.raises 1 <;> rfl
    rw [hrows]
    rfl
  · rw [if_neg hopened, if_neg hopened]
    rfl

/-- A request that is looked up first is handed over, or nothing is. -/
theorem lookupAndSend_frames (action : Text) (payload : Payload) (k : Session Server)
    (hk : k.state = s.start.state) :
    Led E s N k.asked ∧ (∃ n, (lookupAndSend L E N action payload k).2.state.wire.map
        Delivery.frame = [.call 2 (E.uid n) action payload]) ∨
      ¬Led E s N k.asked ∧ (lookupAndSend L E N action payload k).2.state.wire.map
        Delivery.frame = [] := by
  have hlookup : Writes [] (getIPAddrBySerNumber E N false) :=
    getIPAddrBySerNumber_writes (by simp)
  obtain ⟨q, huid, _, hcreated⟩ := createCentralRequest_apply L E { action := action } payload
    ⟨k.state, (getIPAddrBySerNumber E N false k).2.asked⟩
  have hrun : (lookupAndSend L E N action payload k).2.state =
      (sendResponse2Client E (getIPAddrBySerNumber E N false k).1
        (.call 2 q.uniqueID action payload)
        ⟨{ k.state with requestQueue := k.state.requestQueue ++ [q] },
          (getIPAddrBySerNumber E N false k).2.asked + 2⟩).2.state := by
    unfold lookupAndSend
    rw [hlookup.bind_apply, Action.bind_apply, hcreated]
    rfl
  rw [hrun]
  rcases sendResponse2Client_frames (E := E) (s := s) (N := N) k
    ⟨{ k.state with requestQueue := k.state.requestQueue ++ [q] },
      (getIPAddrBySerNumber E N false k).2.asked + 2⟩ false
    (.call 2 q.uniqueID action payload) (by rw [hk]; rfl) (by rw [hk]; rfl) (by rw [hk]; rfl) with
    ⟨hled, hframes⟩ | ⟨hled, hframes⟩
  · refine Or.inl ⟨hled, (getIPAddrBySerNumber E N false k).2.asked, ?_⟩
    rw [hframes, huid]
  · exact Or.inr ⟨hled, hframes⟩

/-- When the test of a profile reaches a connection, its text was read and is
an object. -/
def NamedFits (E : Env) (s : Server) (serN : Text) (cmd : Int) : Prop :=
  Led E s serN (if E.raises 0 = none then 2 else 1) →
    E.raises 0 = none ∧ IsObject (lastOf (namedRows E s (testProfileName cmd)))

theorem cstr_lastOf_namedRows (name : Text) :
    cstr (lastOf (namedRows E s name)) = lastOf (namedRows E s name) := by
  unfold lastOf
  cases hlast : (namedRows E s name).getLast? with
  | none => rfl
  | some row =>
    have hmem := List.mem_of_getLast? hlast
    have hrow : row ∈ (s.csProf.select (·.cols.profName = cstr name)).map
        fun r => cstr r.cols.data := by
      unfold namedRows at hmem
      dsimp only at hmem
      split at hmem
      · exact hmem
      · exact List.mem_of_mem_take hmem
    obtain ⟨r, _, rfl⟩ := List.mem_map.mp hrow
    exact cstr_cstr _

/-- The test of a profile sends what was read, whatever that is. -/
theorem test_valid_iff (serN : Text) (cmd : Int) :
    ProfileCallsValid L (s.after (createTestChargingProfilefromWeb L E serN cmd)) ↔
      NamedFits E s serN cmd := by
  have hsent (data : Text) (k : Session Server) (hk : k.state = s.start.state) :
      ProfileCallsValid L (lookupAndSend L E serN "SetChargingProfile" (.raw (cstr data)) k).2.state ↔
        (Led E s serN k.asked → IsObject (cstr data)) := by
    rcases lookupAndSend_frames (L := L) (E := E) (N := serN) "SetChargingProfile"
      (.raw (cstr data)) k hk with ⟨hled, n, hframes⟩ | ⟨hled, hframes⟩
    · rw [profileCallsValid_iff [] hframes (by simp), Payload.text, cstr_cstr]
      exact ⟨fun h _ => h, fun h => h hled⟩
    · exact iff_of_true (frames_ask_nothing hframes (by simp)) fun h => absurd h hled
  unfold NamedFits Server.after createTestChargingProfilefromWeb
  have hread := getCSProfileFromDBByProfName_start (E := E) (s := s) cmd
  unfold testProfileName at hread
  rw [Action.bind_apply, hread]
  by_cases hopened : E.raises 0 = none
  · rw [if_pos hopened, if_pos hopened]
    refine (hsent (lastOf (namedRows E s (testProfileName cmd))) s.start.tick.tick rfl).trans ?_
    rw [cstr_lastOf_namedRows]
    exact ⟨fun h hled => ⟨hopened, h hled⟩, fun h hled => (h hled).2⟩
  · rw [if_neg hopened, if_neg hopened]
    refine (hsent [] s.start.tick rfl).trans ?_
    constructor
    · intro h hled
      exact absurd (h hled).brace (by simp [cstr])
    · intro h hled
      exact absurd (h hled).1 hopened

theorem IsObject.of_text {ms : List (Text × Json.Value)} {t t' : Text}
    (h : Json.IsText literals (.object ms) t) (heq : t' = t) : IsObject t' :=
  ⟨ms, heq ▸ h⟩

/-- The last member of an object, with a blank behind the colon. -/
theorem members_last (key : Text) {t : Text} {v : Json.Value} (hkey : unescape key = some key)
    (h : Json.IsText literals v t) :
    Json.Derives literals (.members [(key, v)]) ('"' :: key ++ ['"', ':', ' '] ++ t) := by
  have hmember := Json.Derives.lastMember (Json.IsText.of_value (.string (D := literals) hkey)) h.spaced
  simpa using hmember

theorem members_cons (key : Text) {t t' : Text} {v : Json.Value} {ms : List (Text × Json.Value)}
    (hkey : unescape key = some key) (h : Json.IsText literals v t)
    (hs : Json.Derives literals (.members ms) t') :
    Json.Derives literals (.members ((key, v) :: ms))
      ('"' :: key ++ ['"', ':', ' '] ++ t ++ ',' :: t') := by
  have hmember := Json.Derives.member (Json.IsText.of_value (.string (D := literals) hkey))
    h.spaced hs
  simpa using hmember

set_option maxRecDepth 2000 in
/-- The profile that limits the charge is an object for every limit. -/
theorem setChargeLimitText_isObject (limit : Int) : IsObject (setChargeLimitText limit) := by
  have hnumber (ds : Text) (hds : Json.Digits ds) (hzero : ds.head? ≠ some '0') :
      Json.IsText literals (.number ds) ds := .of_value (.number (.of_digits hds hzero))
  have hone : Json.IsText literals (.number "1") "1" :=
    hnumber "1" (.of_all (by decide) (by decide)) (by decide)
  have htwenty : Json.IsText literals (.number "20") "20" :=
    hnumber "20" (.of_all (by decide) (by decide)) (by decide)
  have hzero : Json.IsText literals (.number (decimal 0)) "0" :=
    .of_value (.number (isNumber_decimal 0))
  have hlimit : Json.IsText literals (.number (decimal limit)) (decimal limit) :=
    .of_value (.number (isNumber_decimal limit))
  have hstring (b : Text) (hb : unescape b = some b) :
      Json.IsText literals (.string b) ('"' :: b ++ ['"']) := .of_value (.string hb)
  have hperiod := members_cons "startPeriod" (by decide) hzero
    (members_last "limit" (by decide) hlimit)
  have hperiods := Json.Derives.array (.lastElement (Json.IsText.of_value (.object hperiod)))
  have hschedule := members_cons "chargingRateUnit" (by decide)
    (hstring "A" (by decide)) (members_last "chargingSchedulePeriod" (by decide)
      (.of_value hperiods))
  have hprofile := members_cons "chargingProfileId" (by decide) htwenty
    (members_cons "stackLevel" (by decide) hone
      (members_cons "chargingProfilePurpose" (by decide)
        (hstring "TxProfile" (by decide))
        (members_cons "chargingProfileKind" (by decide)
          (hstring "Relative" (by decide))
          (members_last "chargingSchedule" (by decide)
            (.of_value (.object hschedule))))))
  have hrequest := members_cons "connectorId" (by decide) hone
    (members_last "csChargingProfiles" (by decide) (.of_value (.object hprofile)))
  refine IsObject.of_text (.of_value (.object hrequest)) ?_
  have hbraces : (String.toList "\x7d]\x7d\x7d\x7d" : Text) =
      ['}'] ++ ([']'] ++ (['}'] ++ (['}'] ++ ['}']))) := by decide
  unfold setChargeLimitText
  -- a literal of this length is decoded by the lemma, not by evaluation
  rw [hbraces, String.toList_ofList]
  simp only [← List.append_assoc]
  rfl

/-- A CALL with an object for a profile is valid when it is sent. -/
theorem sendResponse2Client_valid {k : Session Server} {t : Text} {n : Nat} (ht : IsObject t)
    (hk : k.state = s.start.state) :
    ProfileCallsValid L (sendResponse2Client E (getIPAddrBySerNumber E N false s.start).1
      (.call 2 (E.uid n) "SetChargingProfile" (.raw t)) k).2.state := by
  rcases sendResponse2Client_frames (E := E) (s := s) (N := N) s.start k false
    (.call 2 (E.uid n) "SetChargingProfile" (.raw t)) rfl (by rw [hk]; rfl) (by rw [hk]; rfl) with
    ⟨_, hframes⟩ | ⟨_, hframes⟩
  · exact (profileCallsValid_iff [] hframes (by simp)).mpr ht.shown
  · exact frames_ask_nothing hframes (by simp)

/-- The charge limit of the mobile interface. -/
theorem chargeLimit_valid (serN : Text) (cid par1 : Int) (par2 : Text) :
    ProfileCallsValid L (s.after (createSendOcppCommandfromMob L E serN cid 101 par1 par2)) := by
  have hlookup : Writes [] (getIPAddrBySerNumber E serN false) :=
    getIPAddrBySerNumber_writes (by simp)
  have huid : Writes [] (globalGenerateTextUID E) := globalGenerateTextUID_writes
  have hkind : OcppCommand.ofInt 101 = some .setChargeLimit := rfl
  have hobject := setChargeLimitText_isObject par1
  unfold Server.after createSendOcppCommandfromMob
  rw [hlookup.bind_apply, huid.bind_apply, hkind]
  dsimp only
  unfold sendSetChargeLimit
  revert hobject
  generalize setChargeLimitText par1 = limit
  intro hobject
  exact sendResponse2Client_valid (n := (getIPAddrBySerNumber E serN false s.start).2.asked)
    hobject rfl

end Commands

/-- The SetChargingProfile CALLs of the server: after a message they are valid
exactly when the assigned profile fits, those of a test exactly when the named
one does, and those that limit the charge always. -/
theorem profileCalls_valid_iff (L : Lib) (s : Server) (hwrites : L.WritesObjects) :
    (∀ con payload, (∀ E, ProfileCallsValid L (s.step L (E, .message con payload))) ↔
      StartsFit L s con payload) ∧
    (∀ E serN cmd, ProfileCallsValid L (s.step L (E, .command (.testChargingProfile serN cmd))) ↔
      NamedFits E s serN cmd) ∧
    ∀ E serN cid par1 par2,
      ProfileCallsValid L (s.step L (E, .command (.mobile serN cid 101 par1 par2))) :=
  ⟨fun _ _ => starts_valid_iff hwrites, fun _ serN cmd => test_valid_iff serN cmd,
    fun _ serN cid par1 par2 => chargeLimit_valid serN cid par1 par2⟩

/-- A library that writes empty objects. -/
def emptyObjectLib : Lib := { Lib.refusing with write := fun _ => "\x7b\x7d" }

theorem emptyObjectLib_writesObjects : emptyObjectLib.WritesObjects :=
  fun _ _ => ⟨_, .of_value (.emptyObject Json.Blank.nil)⟩

/-- A phone saves this text as the first profile. -/
def savedProfile (data : Text) : Server :=
  connectedStation.step emptyObjectLib
    (.calm, .command (.mobile "GRS-1,-1,ChargingProfile_1" 1 103 200 data))

/-- An object is sent as it was saved. -/
theorem profileCalls_valid_iff_saved :
    ProfileCallsValid emptyObjectLib ((savedProfile "\x7b\x7d").step emptyObjectLib
      (.calm, .command (.testChargingProfile "GRS-1" 31))) := by
  have hiff := (profileCalls_valid_iff emptyObjectLib (savedProfile "\x7b\x7d")
    emptyObjectLib_writesObjects).2.1
  apply (hiff .calm "GRS-1" 31).mpr
  intro _
  have hdata : lastOf (namedRows .calm (savedProfile "\x7b\x7d") (testProfileName 31)) =
      "\x7b\x7d" := by decide +kernel
  rw [hdata]
  exact ⟨rfl, _, .of_value (.emptyObject Json.Blank.nil)⟩

/-- So is any other text. -/
theorem saved_text_sent :
    emptyObjectLib.WritesObjects ∧
      ¬ ProfileCallsValid emptyObjectLib ((savedProfile "?").step emptyObjectLib
        (.calm, .command (.testChargingProfile "GRS-1" 31))) := by
  refine ⟨emptyObjectLib_writesObjects, fun h => ?_⟩
  have hwire : ((savedProfile "?").step emptyObjectLib
      (.calm, .command (.testChargingProfile "GRS-1" 31))).wire =
      [⟨somePeer, .call 2 (Env.calm.uid 4) "SetChargingProfile" (.raw "?"), true⟩] := by
    decide +kernel
  have hvalid := h _ (hwire ▸ List.mem_singleton_self _) rfl
  have hobject := (validProfileCall_iff (plain_uid 4) _).mp hvalid
  exact absurd hobject.brace (by decide)

end UCLinux.Ocpp
