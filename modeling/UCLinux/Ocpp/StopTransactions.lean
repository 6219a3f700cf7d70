import UCLinux.Ocpp.HistoryDB

/-!
Reading back a stopped transaction. It is stored in one row, with the readings
as protobuf bytes; columns and bytes have no place for a field that is absent
other than the empty text, and what is read is assigned whether it is empty or
not.
-/

namespace UCLinux.Ocpp

open Sql Machine Server HistoryDB

section Program

/-- `from_string`: any other text becomes the empty one. -/
def schemaEnumFromString (names : List Text) (value : Text) : Text :=
  if names.contains value then value else []

/-- Entries pushed into a `schema_array<_, 65536, 0>`; `none` throws. -/
def schemaArray {α : Type} (entries : List α) : Option (List α) :=
  if entries.length ≤ 65536 then some entries else none

/-- `set_millis`; the count is a `uint64_t`. -/
def setMillis (ms : Int) : Int := ms * 1000000 % 2 ^ 64

/-- A `SampledValueEntry` that was assigned to: its enumerations may hold the
empty text. -/
structure SampledValueFields where
  context : Option Text
  format : Option Text
  location : Option Text
  measurand : Option Text
  phase : Option Text
  unit : Option Text
  value : Text
  deriving DecidableEq, Repr

structure MeterValueFields where
  sampledValue : List SampledValueFields
  timestamp : Int
  deriving DecidableEq, Repr

/-- A `StopTransactionRequest` that was assigned to. -/
structure StopTransactionFields where
  idTag : Option Text
  meterStop : Int
  reason : Option Text
  timestamp : Int
  transactionData : Option (List MeterValueFields)
  transactionId : Int
  deriving DecidableEq, Repr

/-- The library reads a field that is not set as the empty text. -/
def readSampledValue (v1 : PbSampledValue) : SampledValueFields where
  context := some (schemaEnumFromString SampledValueEntry.contexts (v1.context.getD []))
  format := some (schemaEnumFromString SampledValueEntry.formats (v1.format.getD []))
  location := some (schemaEnumFromString SampledValueEntry.locations (v1.location.getD []))
  measurand := some (schemaEnumFromString SampledValueEntry.measurands (v1.measurand.getD []))
  phase := some (schemaEnumFromString SampledValueEntry.phases (v1.phase.getD []))
  unit := some (schemaEnumFromString SampledValueEntry.units (v1.unit.getD []))
  value := v1.value

def readMeterValue (v : PbMeterValue) : Option MeterValueFields :=
  (schemaArray (v.sampledvalue.map readSampledValue)).map fun sampledValue =>
    ⟨sampledValue, setMillis v.timestamp⟩

def readTransactionData (m : PbMeterValues) : Option (List MeterValueFields) :=
  (m.transactiondata.mapM readMeterValue).bind schemaArray

def readStopTrData (r : Row StopTr) : StopTr where
  hRowId := wrap32 r.cols.hRowId
  transactionId := wrap32 r.cols.transactionId
  idTag := cstr r.cols.idTag
  meterStop := wrap32 r.cols.meterStop
  ts := r.cols.ts
  reason := cstr r.cols.reason
  transactionData := r.cols.transactionData

/-- The same columns of an altered query's row. -/
def cellsStopTrData (row : List Cell) : StopTr where
  hRowId := cellInt row 0
  transactionId := cellInt row 1
  idTag := cellText row 2
  meterStop := cellInt row 3
  ts := match row[(4 : Nat)]? with
    | some (.int n) => n
    | _ => cellInt row 4
  reason := cellText row 5
  transactionData := cellText row 6

/-- What is made of the row that was read. -/
def assignStopTrData (parse : Text → PbMeterValues) (data : StopTr)
    (trData : StopTransactionFields) : Option StopTransactionFields :=
  if schemaStringAccepts 20 data.idTag then
    (if data.transactionData = [] then some trData.transactionData
      else (readTransactionData (parse data.transactionData)).map some).map
    fun transactionData =>
      { idTag := some data.idTag
        meterStop := data.meterStop
        reason := some (schemaEnumFromString StopTransactionRequest.reasons data.reason)
        timestamp := setMillis data.ts
        transactionData := transactionData
        transactionId := data.transactionId }
  else none

def selectStopTrSql (transactionId : Int) : Stmt :=
  [.sql "select * from StopTrTbl where transactionId=", .number transactionId]

/-- The number of rows and the request, read from the last of them; `none`
throws. -/
def getStopTransactionRequestDataFromDB (parse : Text → PbMeterValues) (E : Env)
    (transactionId : Int) (trData : StopTransactionFields) :
    Act (Option (Int × StopTransactionFields)) := do
  let opened ← createConnection E
  if opened then do
    let found ← StopTrTbl.read E (selectStopTrSql transactionId)
      (fun t => (t.select (·.cols.transactionId = transactionId)).map readStopTrData)
      cellsStopTrData
    -- without a row the idTag is empty, which is refused
    pure (found.rows.getLast?.bind fun data =>
      (assignStopTrData parse data trData).map fun req => ((found.rows.length : Int), req))
  else pure none

end Program

section Stored

/-- A count of nanoseconds cut to milliseconds. -/
def truncatedMillis (timestamp : Int) : Int := timestamp.tdiv 1000000 * 1000000

def SampledValueEntry.fields (v : SampledValueEntry) : SampledValueFields where
  context := v.context.map SchemaEnum.toText
  format := v.format.map SchemaEnum.toText
  location := v.location.map SchemaEnum.toText
  measurand := v.measurand.map SchemaEnum.toText
  phase := v.phase.map SchemaEnum.toText
  unit := v.unit.map SchemaEnum.toText
  value := v.value

def MeterValueEntry.truncated (v : MeterValueEntry) : MeterValueFields where
  sampledValue := v.sampledValue.map SampledValueEntry.fields
  timestamp := truncatedMillis v.timestamp

/-- The request with its timestamps cut to milliseconds. -/
def StopTransactionRequest.truncated (r : StopTransactionRequest) : StopTransactionFields where
  idTag := r.idTag.map SchemaString.toText
  meterStop := r.meterStop
  reason := r.reason.map SchemaEnum.toText
  timestamp := truncatedMillis r.timestamp
  transactionData := r.transactionData.map (List.map MeterValueEntry.truncated)
  transactionId := r.transactionId

/-- A count of nanoseconds is a `uint64_t`. -/
def IsCount (timestamp : Int) : Prop := 0 ≤ timestamp ∧ timestamp < 2 ^ 64

instance (timestamp : Int) : Decidable (IsCount timestamp) := inferInstanceAs (Decidable (_ ∧ _))

/-- The ranges of the members. -/
structure StopTransactionRequest.Representable (r : StopTransactionRequest) : Prop where
  meterStop : -(2 ^ 31) ≤ r.meterStop ∧ r.meterStop < 2 ^ 31
  transactionId : -(2 ^ 31) ≤ r.transactionId ∧ r.transactionId < 2 ^ 31
  timestamp : IsCount r.timestamp
  length : ∀ entries, r.transactionData = some entries → entries.length ≤ 65536
  entry : ∀ entries, r.transactionData = some entries → ∀ v ∈ entries,
    v.sampledValue.length ≤ 65536 ∧ IsCount v.timestamp

structure SampledValueEntry.Complete (v : SampledValueEntry) : Prop where
  context : v.context ≠ none
  format : v.format ≠ none
  location : v.location ≠ none
  measurand : v.measurand ≠ none
  phase : v.phase ≠ none
  unit : v.unit ≠ none

/-- Nothing that is optional is left out, but for the readings as a whole; where
there are none, those of the request that is assigned to stay, and they are the
same. -/
structure StopTransactionRequest.Complete (r : StopTransactionRequest)
    (kept : Option (List MeterValueFields)) : Prop where
  idTag : r.idTag ≠ none
  reason : r.reason ≠ none
  transactionData : r.transactionData.getD [] = [] → kept = r.transactionData.map fun _ => []
  sampledValue : ∀ entries, r.transactionData = some entries → ∀ v ∈ entries,
    ∀ x ∈ v.sampledValue, x.Complete

variable {r : StopTransactionRequest}

theorem setMillis_tdiv {timestamp : Int} (h : IsCount timestamp) :
    setMillis (timestamp.tdiv 1000000) = truncatedMillis timestamp := by
  obtain ⟨hpos, hlt⟩ := h
  unfold setMillis truncatedMillis
  rw [Int.tdiv_eq_ediv_of_nonneg hpos]
  exact Int.emod_eq_of_lt (by omega) (by omega)

/-- A value that is there comes back, one that is not comes back as the empty
text. -/
theorem schemaEnumFromString_iff {names : List Text} (v : Option (SchemaEnum names)) :
    some (schemaEnumFromString names ((v.map SchemaEnum.toText).getD [])) =
      v.map SchemaEnum.toText ↔ v ≠ none := by
  cases v with
  | none => simp
  | some v => exact iff_of_true (congrArg some (if_pos (List.contains_iff_mem.mpr v.property))) (Option.some_ne_none v)

theorem readSampledValue_iff (v : SampledValueEntry) :
    readSampledValue (PbSampledValue.ofEntry v) = v.fields ↔ v.Complete := by
  unfold readSampledValue PbSampledValue.ofEntry SampledValueEntry.fields
  simp only [SampledValueFields.mk.injEq, schemaEnumFromString_iff, and_true]
  constructor
  · rintro ⟨hcontext, hformat, hlocation, hmeasurand, hphase, hunit⟩
    exact ⟨hcontext, hformat, hlocation, hmeasurand, hphase, hunit⟩
  · intro h
    exact ⟨h.context, h.format, h.location, h.measurand, h.phase, h.unit⟩

/-- An entry as it is rebuilt from its bytes. -/
def MeterValueEntry.rebuilt (v : MeterValueEntry) : MeterValueFields where
  sampledValue := v.sampledValue.map fun x => readSampledValue (PbSampledValue.ofEntry x)
  timestamp := truncatedMillis v.timestamp

theorem rebuilt_iff (v : MeterValueEntry) :
    v.rebuilt = v.truncated ↔ ∀ x ∈ v.sampledValue, x.Complete := by
  unfold MeterValueEntry.rebuilt MeterValueEntry.truncated
  simp only [MeterValueFields.mk.injEq, and_true, List.map_inj_left]
  exact forall₂_congr fun x _ => readSampledValue_iff x

theorem readMeterValue_stored {v : MeterValueEntry}
    (h : v.sampledValue.length ≤ 65536 ∧ IsCount v.timestamp) :
    readMeterValue ⟨v.timestamp.tdiv 1000000, v.sampledValue.map PbSampledValue.ofEntry⟩ =
      some v.rebuilt := by
  unfold readMeterValue schemaArray
  rw [List.length_map, List.length_map, if_pos h.1, setMillis_tdiv h.2, List.map_map]
  rfl

theorem readTransactionData_stored {entries : List MeterValueEntry}
    (hlength : entries.length ≤ 65536)
    (hentry : ∀ v ∈ entries, v.sampledValue.length ≤ 65536 ∧ IsCount v.timestamp) :
    readTransactionData (pbMeterValues id entries) =
      some (entries.map MeterValueEntry.rebuilt) := by
  have hread : (pbMeterValues id entries).transactiondata.mapM readMeterValue =
      some (entries.map MeterValueEntry.rebuilt) := by
    unfold pbMeterValues
    clear hlength
    induction entries with
    | nil => rfl
    | cons v entries ih =>
      have hv := readMeterValue_stored (hentry v List.mem_cons_self)
      have hrest := ih fun v hv => hentry v (List.mem_cons_of_mem _ hv)
      rw [List.map_cons, List.mapM_cons, hrest]
      simp only [id, hv]
      rfl
  unfold readTransactionData
  rw [hread, Option.bind_some]
  exact if_pos ((List.length_map _).trans_le hlength)

/-- The readings as they come back: none at all and an empty list are the same
bytes, and nothing is assigned for them. -/
def StopTransactionRequest.readings (r : StopTransactionRequest)
    (kept : Option (List MeterValueFields)) : Option (List MeterValueFields) :=
  match r.transactionData with
  | none | some [] => kept
  | some entries => some (entries.map MeterValueEntry.rebuilt)

theorem readings_iff {kept : Option (List MeterValueFields)} :
    r.readings kept = r.truncated.transactionData ↔
      (r.transactionData.getD [] = [] → kept = r.transactionData.map fun _ => []) ∧
      ∀ entries, r.transactionData = some entries → ∀ v ∈ entries, ∀ x ∈ v.sampledValue,
        x.Complete := by
  unfold StopTransactionRequest.readings StopTransactionRequest.truncated
  rcases r.transactionData with _ | _ | ⟨v, entries⟩
  · simp
  · simp
  · simp [List.map_inj_left, rebuilt_iff]

end Stored

section RoundTrip

/-- The library reads back the bytes it makes of the readings of a request. -/
structure ReadsBackReadings (L : Lib) (parse : Text → PbMeterValues)
    (r : StopTransactionRequest) : Prop where
  serialize_empty : L.serialize ⟨[]⟩ = []
  parse_empty : parse [] = ⟨[]⟩
  parse_serialize : ∀ entries, r.transactionData = some entries →
    parse (L.serialize (pbMeterValues id entries)) = pbMeterValues id entries

variable {L : Lib} {parse : Text → PbMeterValues} {r : StopTransactionRequest}
  {E : Env} {histRowid : Int} {s : Session Server} {trData : StopTransactionFields}

theorem readTransactionData_row (hr : r.Representable) (hlib : ReadsBackReadings L parse r) :
    (if (stopTrRow L histRowid r).transactionData = [] then some trData.transactionData
      else (readTransactionData (parse (stopTrRow L histRowid r).transactionData)).map some) =
      some (r.readings trData.transactionData) := by
  unfold stopTrRow StopTransactionRequest.readings
  rcases hdata : r.transactionData with _ | _ | ⟨v, entries⟩
  · rfl
  · exact if_pos hlib.serialize_empty
  · have hparse := hlib.parse_serialize _ hdata
    have hbytes : L.serialize (pbMeterValues id (v :: entries)) ≠ [] := by
      intro hnone
      rw [hnone, hlib.parse_empty] at hparse
      cases hparse
    rw [Option.map_some, Option.getD_some, Function.comp_apply, if_neg hbytes, hparse,
      readTransactionData_stored (hr.length _ hdata) (hr.entry _ hdata)]
    rfl

/-- What is read of the row of a request: without an idTag it is refused. -/
theorem assignStopTrData_row (hr : r.Representable) (hlib : ReadsBackReadings L parse r)
    (id : Int) :
    assignStopTrData parse (readStopTrData ⟨id, stopTrRow L histRowid r⟩) trData =
      r.idTag.map fun idTag =>
        { r.truncated with
          idTag := some idTag.toText
          reason := some (schemaEnumFromString StopTransactionRequest.reasons
            ((r.reason.map SchemaEnum.toText).getD []))
          transactionData := r.readings trData.transactionData } := by
  have hreason : cstr ((r.reason.map SchemaEnum.toText).getD []) =
      (r.reason.map SchemaEnum.toText).getD [] := by
    cases r.reason with
    | none => rfl
    | some reason =>
      exact cstr_of_no_nul ((show ∀ n ∈ StopTransactionRequest.reasons, '\x00' ∉ n by decide) _
        reason.property)
  unfold assignStopTrData readStopTrData
  dsimp only
  rw [readTransactionData_row hr hlib]
  unfold stopTrRow StopTransactionRequest.truncated
  dsimp only
  rw [hreason, setMillis_tdiv hr.timestamp, wrap32_of_range hr.meterStop,
    wrap32_of_range hr.transactionId]
  cases r.idTag with
  | none => rfl
  | some idTag =>
    have hlength := List.length_pos_iff.mpr idTag.nonempty
    have haccepts : schemaStringAccepts 20 idTag.toText = true :=
      decide_eq_true ⟨hlength, idTag.bounded⟩
    simp only [Option.map_some, Option.getD_some, cstr_of_no_nul idTag.noNul, haccepts, if_true]

theorem assignStopTrData_iff (hr : r.Representable) (hlib : ReadsBackReadings L parse r)
    (id : Int) :
    assignStopTrData parse (readStopTrData ⟨id, stopTrRow L histRowid r⟩) trData =
      some r.truncated ↔ r.Complete trData.transactionData := by
  have hreason := schemaEnumFromString_iff r.reason
  have hreadings : r.readings trData.transactionData = r.truncated.transactionData ↔ _ :=
    readings_iff
  rw [assignStopTrData_row hr hlib]
  constructor
  · intro h
    obtain ⟨idTag, hidTag, heq⟩ := Option.map_eq_some_iff.mp h
    have hdata := hreadings.mp (congrArg StopTransactionFields.transactionData heq)
    exact {
      idTag := by
        rw [hidTag]
        exact Option.some_ne_none idTag
      reason := hreason.mp (congrArg StopTransactionFields.reason heq)
      transactionData := hdata.1
      sampledValue := hdata.2 }
  · intro h
    obtain ⟨idTag, hidTag⟩ := Option.ne_none_iff_exists'.mp h.idTag
    rw [hidTag, hreason.mpr h.reason, hreadings.mpr ⟨h.transactionData, h.sampledValue⟩]
    unfold StopTransactionRequest.truncated
    rw [hidTag]
    rfl

/-- The row of a stored request is the only one under its transaction. -/
theorem select_stored (hnew : ∀ row ∈ s.state.stopTr.rows, row.cols.transactionId ≠ r.transactionId)
    (hstored : (insertStopTransactionReqMsg2DB L E histRowid r s).1 ≠ none) :
    ∃ id, (insertStopTransactionReqMsg2DB L E histRowid r s).2.state.stopTr.select
      (·.cols.transactionId = r.transactionId) = [⟨id, stopTrRow L histRowid r⟩] := by
  have hliteral : insertStopTransactionSql.QuoteFree := by
    unfold insertStopTransactionSql
    simp
  unfold insertStopTransactionReqMsg2DB at hstored ⊢
  rw [Action.bind_apply] at hstored ⊢
  rcases StopTrTbl.insert_cases E insertStopTransactionSql
      (·.insert (stopTrRow L histRowid r)) s with hfails | ⟨t, n, hinsert, -, hdone⟩
  · rw [hfails] at hstored
    exact absurd rfl hstored
  · rw [if_pos hliteral] at hinsert
    refine ⟨s.state.stopTr.nextRowid, ?_⟩
    rw [hdone]
    have hrows : (StopTrTbl.set s.state t).stopTr.rows =
        s.state.stopTr.rows ++ [⟨s.state.stopTr.nextRowid, stopTrRow L histRowid r⟩] :=
      (Table.insert_spec hinsert).2
    have hothers : s.state.stopTr.rows.filter
        (fun row => decide (row.cols.transactionId = r.transactionId)) = [] :=
      List.filter_eq_nil_iff.mpr fun row hrow => by simpa using hnew row hrow
    unfold Table.select
    dsimp only [Action.pure_apply]
    rw [hrows, List.filter_append, hothers, List.nil_append]
    exact List.filter_cons_of_pos (decide_eq_true rfl)

/-- A stored request is read back exactly when nothing that is optional was
left out. -/
theorem getStopTransactionRequestDataFromDB_stored_iff (hr : r.Representable)
    (hlib : ReadsBackReadings L parse r) (hE : E.Quiet)
    (hnew : ∀ row ∈ s.state.stopTr.rows, row.cols.transactionId ≠ r.transactionId)
    (hstored : (insertStopTransactionReqMsg2DB L E histRowid r s).1 ≠ none) :
    (getStopTransactionRequestDataFromDB parse E r.transactionId trData
        (insertStopTransactionReqMsg2DB L E histRowid r s).2).1 = some (1, r.truncated) ↔
      r.Complete trData.transactionData := by
  obtain ⟨id, hselect⟩ := select_stored hnew hstored
  generalize (insertStopTransactionReqMsg2DB L E histRowid r s).2 = t at hselect ⊢
  have hliteral : (selectStopTrSql r.transactionId).QuoteFree := by
    unfold selectStopTrSql
    simp
  unfold getStopTransactionRequestDataFromDB
  rw [createConnection_bind, if_pos (hE _), Action.bind_apply,
    TableAt.read_literal _ _ hliteral (hE _)]
  have hrows : (StopTrTbl.get t.tick.state).select (·.cols.transactionId = r.transactionId) =
      [⟨id, stopTrRow L histRowid r⟩] := hselect
  rw [← assignStopTrData_iff hr hlib id]
  dsimp only [Action.pure_apply]
  rw [hrows, List.map_singleton, List.getLast?_singleton, Option.bind_some]
  cases assignStopTrData parse (readStopTrData ⟨id, stopTrRow L histRowid r⟩) trData with
  | none => simp
  | some req => simp

/-- One reading with all its attributes. -/
def fullReading : StopTransactionRequest where
  idTag := some sampleTag
  meterStop := 127
  reason := some ⟨"Remote", by decide⟩
  timestamp := 1999999
  transactionData := some [⟨[{
    context := some ⟨"Other", by decide⟩
    format := some ⟨"Raw", by decide⟩
    location := some ⟨"EV", by decide⟩
    measurand := some ⟨"SoC", by decide⟩
    phase := some ⟨"N", by decide⟩
    unit := some ⟨"Percent", by decide⟩
    value := "7" }], 1000000⟩]
  transactionId := 1

/-- Its bytes. -/
def fullReadingBytes : Text :=
  "\x0a\x28\x08\x01\x12\x24\x0a\x017\x12\x05Other\x1a\x03Raw\x22\x03SoC*\x01N2\x02EV:\x07Percent"

/-- A library that reads and writes these. -/
def Lib.writing (bytes : Text) : Lib :=
  { Lib.refusing with
    serialize := fun m => if m.transactiondata.isEmpty then [] else bytes }

def fullReadingParse (bytes : Text) : PbMeterValues :=
  if bytes = fullReadingBytes then pbMeterValues id (fullReading.transactionData.getD []) else ⟨[]⟩

theorem getStopTransactionRequestDataFromDB_full :
    (getStopTransactionRequestDataFromDB fullReadingParse .calm 1 ⟨none, 0, none, 0, none, 0⟩
      (insertStopTransactionReqMsg2DB (Lib.writing fullReadingBytes) .calm 1 fullReading
        ⟨.empty, 0⟩).2).1 = some (1, fullReading.truncated) := by
  have hranges : fullReading.Representable := {
    meterStop := by decide
    transactionId := by decide
    timestamp := by decide
    length := by
      rintro _ ⟨⟩
      decide
    entry := by
      rintro _ ⟨⟩
      decide }
  have hlib : ReadsBackReadings (Lib.writing fullReadingBytes) fullReadingParse fullReading := {
    serialize_empty := rfl
    parse_empty := rfl
    parse_serialize := by
      rintro _ ⟨⟩
      exact if_pos rfl }
  have hcomplete : fullReading.Complete none := {
    idTag := Option.some_ne_none _
    reason := Option.some_ne_none _
    transactionData := fun hnone => by cases hnone
    sampledValue := by
      rintro _ ⟨⟩ v hv x hx
      obtain rfl := List.mem_singleton.mp hv
      obtain rfl := List.mem_singleton.mp hx
      constructor <;> exact Option.some_ne_none _ }
  refine (getStopTransactionRequestDataFromDB_stored_iff hranges hlib (fun _ => rfl) ?_ ?_).mpr
    hcomplete
  · intro row hrow
    cases hrow
  · decide

/-- A stop that comes with neither an idTag nor a reason. -/
def bareStop : StopTransactionRequest where
  idTag := none
  meterStop := 127
  reason := none
  timestamp := 0
  transactionData := none
  transactionId := 1

/-- It is stored, and reading it throws. -/
theorem getStopTransactionRequestDataFromDB_bare :
    (insertStopTransactionReqMsg2DB .refusing .calm 1 bareStop ⟨.empty, 0⟩).1 = some 1 ∧
      (getStopTransactionRequestDataFromDB (fun _ => ⟨[]⟩) .calm 1 ⟨none, 0, none, 0, none, 0⟩
        (insertStopTransactionReqMsg2DB .refusing .calm 1 bareStop ⟨.empty, 0⟩).2).1 = none :=
  ⟨by decide, by decide⟩

end RoundTrip

end UCLinux.Ocpp
