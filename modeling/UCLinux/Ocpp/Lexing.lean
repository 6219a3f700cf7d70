import UCLinux.Ocpp.ReadRequests
import UCLinux.Sql.Lexer

/-!
How an SQL engine reads the statements the two databases print. A text that a
charge point or a client supplies is put between quotes as it is. It is read
back as it was supplied, in a statement of the shape that was meant, exactly
when it holds neither a quote nor a NUL. The UPDATE of a boot is printed in
two steps, of which the one that adds the row filter is only taken for a
firmware version.
-/

namespace UCLinux.Ocpp

open Sql CentralOcppDB HistoryDB

section Statements

def getChargeStationByIDSql (csid : Int) : Stmt :=
  [.sql "SELECT ROWID,* FROM CH_STATIONS  WHERE ROWID=", .number csid]

def getStopTransactionSql (transactionId : Int) : Stmt :=
  [.sql "select * from StopTrTbl where transactionId=", .number transactionId]

def getLastStatusNotificationSql (sern : Text) : Stmt :=
  [.sql "select RTValues from cshisttbl where cssern='", .value (cstr sern),
    .sql "' and action='StatusNotification' order by rowid desc limit 1"]

/-- `getLastRowIDInDB` of the stations. -/
def getLastRowIDSql : Stmt :=
  [.sql "SELECT ROWID FROM ", .sql "CH_STATIONS", .sql " ORDER BY ROWID DESC LIMIT 1"]

end Statements

/-- A statement that `StringPrintf` prints, with what it is printed from. -/
inductive Printed where
  | updateCSProf (cid profileId : Int) (profName json : Text) (ts : Int)
  | insertCSProf (id cid : Int) (profName json : Text) (ts : Int)
  | getCSProfile (sern : Text)
  | getCSProfileByProfName (profName : Text)
  | getCSProfiles (cid : Int)
  | removeChargingProfile (sern : Text)
  | updateOcppHB (sern : Text) (rtt : RttOcpp)
  | updateCSTimeZone (sern : Text) (tz dls : Int)
  | updateCSStationsWithProfile (profileId cid : Int) (sern : Text)
  | getSerNumber (sern : Text)
  | getIPAddr (serN : Text)
  | updateIPAddr (req : OcppRequest) (rtt : RttOcpp)
  | updateCSObjB (req : OcppRequest) (rtt : RttOcpp)
  | updateCSFWUpdate (sern status : Text) (ts : Int)
  | stale (ts : Int)
  | allChargeStations (cid : Int)
  | updMob (cid : Int)
  | clearUpdMob (ids : List Int) (cid : Int)
  | updateChargeStationStatus (ipAddr : Text) (status : Int)
  | getChargeStationByID (csid : Int)
  | deleteChargeStation (sern : Text)
  | certFlag (sern : Text)
  | claim (cid flags : Int) (sern : Text)
  | getLastRowID
  | getStopTransaction (transactionId : Int)
  | lastFlag (serNumber : Text)
  | insertStartTransaction (histRowid : Int) (p : StartTransactionRequest)
  | updateHistOnStartTransaction (rtt : RttOcpp) (histRowid : Int)
  | getLastStatusNotification (sern : Text)
  | allHistory (sern : Text)
  | clearHistory (sern : Text)
  | transactionIds (started : Bool) (sern : Text)
  | meterValues (trId : Int) (sern : Text)
  | insertOcppHistory (req : OcppRequest) (rtt : RttOcpp) (sern : Text)

namespace Printed

def stmt : Printed → Stmt
  | .updateCSProf cid profileId profName json ts => updateCSProfSql cid profileId profName json ts
  | .insertCSProf id cid profName json ts => insertCSProfSql id cid profName json ts
  | .getCSProfile sern => getCSProfileSql sern
  | .getCSProfileByProfName profName => getCSProfileByProfNameSql profName
  | .getCSProfiles cid => getCSProfilesSql cid
  | .removeChargingProfile sern => removeChargingProfileSql sern
  | .updateOcppHB sern rtt => updateOcppHBSql sern rtt
  | .updateCSTimeZone sern tz dls => updateCSTimeZoneSql sern tz dls
  | .updateCSStationsWithProfile profileId cid sern =>
    updateCSStationsWithProfileSql profileId cid sern
  | .getSerNumber sern => getSerNumberSql sern
  | .getIPAddr serN => getIPAddrSql serN
  | .updateIPAddr req rtt => updateIPAddrSql req rtt
  | .updateCSObjB req rtt => updateCSObjBSql req rtt
  | .updateCSFWUpdate sern status ts => updateCSFWUpdateSql sern status ts
  | .stale ts => staleSql ts
  | .allChargeStations cid => allChargeStationsSql cid
  | .updMob cid => updMobSql cid
  | .clearUpdMob ids cid => clearUpdMobSql ids cid
  | .updateChargeStationStatus ipAddr status =>
    updateChargeStationStatusSql "IPAddr" ipAddr status
  | .getChargeStationByID csid => getChargeStationByIDSql csid
  | .deleteChargeStation sern => deleteChargeStationSql sern
  | .certFlag sern => certFlagSql sern
  | .claim cid flags sern => claimSql cid flags sern
  | .getLastRowID => getLastRowIDSql
  | .getStopTransaction transactionId => getStopTransactionSql transactionId
  | .lastFlag serNumber => lastFlagSql (cstr serNumber)
  | .insertStartTransaction histRowid p => insertStartTransactionSql histRowid p
  | .updateHistOnStartTransaction rtt histRowid => updateHistOnStartTransactionSql rtt histRowid
  | .getLastStatusNotification sern => getLastStatusNotificationSql sern
  | .allHistory sern => allHistorySql sern
  | .clearHistory sern => clearHistorySql sern
  | .transactionIds started sern =>
    transactionIdsSql (if started then "StartTransaction" else "StopTransaction") sern
  | .meterValues trId sern => meterValuesSql trId sern
  | .insertOcppHistory req rtt sern => insertOcppHistorySql req rtt sern

/-- The values that are put between quotes, as they are supplied. -/
def supplied : Printed → List Text
  | .updateCSProf _ _ profName json _ | .insertCSProf _ _ profName json _ => [profName, json]
  | .getCSProfileByProfName profName => [profName]
  | .getCSProfile sern | .removeChargingProfile sern | .updateOcppHB sern _
  | .updateCSTimeZone sern _ _ | .getSerNumber sern | .getIPAddr sern
  | .deleteChargeStation sern | .certFlag sern | .claim _ _ sern | .lastFlag sern
  | .getLastStatusNotification sern | .allHistory sern | .clearHistory sern
  | .transactionIds _ sern | .meterValues _ sern => [sern]
  | .updateCSStationsWithProfile _ _ sern => if sern = "*" then [] else [sern]
  | .updateIPAddr req rtt =>
    if rtt.fwVer = [] then [req.remoteIP] else [req.remoteIP, rtt.fwVer, rtt.serNumber]
  | .updateCSObjB req rtt => [objBText req rtt, rtt.serNumber]
  | .updateCSFWUpdate sern status ts => [status ++ "," ++ decimal (wrapU64 ts), sern]
  | .updateChargeStationStatus ipAddr _ => [ipAddr]
  | .insertStartTransaction _ p => [p.idTag.toText]
  | .updateHistOnStartTransaction rtt _ => [rtt.status, rtt.errCode]
  | .insertOcppHistory req rtt sern =>
    [sern, req.remoteIP, req.action, rtt.status, rtt.errCode, rtt.sensors]
  | .getCSProfiles _ | .stale _ | .allChargeStations _ | .updMob _ | .clearUpdMob _ _
  | .getChargeStationByID _ | .getLastRowID | .getStopTransaction _ => []

/-- The part of the UPDATE of a boot that selects the station. -/
def bootFilter (rtt : RttOcpp) : Stmt :=
  [.sql " ,FWVer='", .value rtt.fwVer, .sql "'  WHERE CSSerN='", .value rtt.serNumber, .sql "'"]

/-- What the statement is meant to go on with. -/
def missing : Printed → Stmt
  | .updateIPAddr _ rtt => if rtt.fwVer = [] then bootFilter rtt else []
  | _ => []

/-- The statement that is meant, with the values as they are supplied. -/
def form (s : Printed) : Stmt := s.stmt.fill s.supplied ++ s.missing

/-- Nothing of the statement is left out. -/
def Whole : Printed → Prop
  | .updateIPAddr _ rtt => rtt.fwVer ≠ []
  | _ => True

section Spliced

open Stmt.Spliced

theorem idList_spliced (ids : List Int) {st : Stmt} (hst : Stmt.Spliced .outside st) :
    Stmt.Spliced .outside (idList ids ++ st) := by
  induction ids with
  | nil => exact hst
  | cons id ids ih =>
    cases ids with
    | nil => exact .number hst
    | cons id' ids =>
      have hcomma : Place.outside.read (",".toList) = .outside := Place.read_string rfl _
      apply Stmt.Spliced.number
      apply Stmt.Spliced.sql
      rw [hcomma]
      exact ih

/-- The UPDATE of a boot, with or without the part that selects the
station. -/
theorem updateIPAddr_spliced (req : OcppRequest) (rtt : RttOcpp) {tail : Stmt}
    (htail : Stmt.Spliced .outside tail) :
    Stmt.Spliced .outside ([.sql "UPDATE CH_STATIONS SET IPAddr='", .value (cstr req.remoteIP),
      .sql "',LastUpdtdTS=", .number rtt.ts,
      .sql (if bit2 (bootFlags rtt) then ",Status=1,CertFlag = CertFlag | 4"
        else ",Status=1,CertFlag = CertFlag & ~4")] ++ tail) := by
  refine text_value rfl rfl (text_number rfl rfl (.sql ?_))
  split
  · rw [Place.read_string rfl]
    exact htail
  · rw [Place.read_string rfl]
    exact htail

theorem bootFilter_spliced (version serNumber : Text) :
    Stmt.Spliced .outside [.sql " ,FWVer='", .value version, .sql "'  WHERE CSSerN='",
      .value serNumber, .sql "'"] :=
  text_value rfl rfl (text_value rfl rfl (text_end rfl (Or.inr (Or.inr rfl))))

theorem updateIPAddrSql_spliced (req : OcppRequest) (rtt : RttOcpp) :
    Stmt.Spliced .outside (updateIPAddrSql req rtt) := by
  unfold updateIPAddrSql
  apply updateIPAddr_spliced
  split
  · exact .nil (Or.inl rfl)
  · exact bootFilter_spliced _ _

theorem updateCSStationsWithProfileSql_spliced (profileId cid : Int) (sern : Text) :
    Stmt.Spliced .outside (updateCSStationsWithProfileSql profileId cid sern) := by
  unfold updateCSStationsWithProfileSql
  split
  · exact text_number rfl rfl (text_number rfl rfl (.nil (Or.inl rfl)))
  · exact text_number rfl rfl (text_value rfl rfl (text_number rfl rfl (.nil (Or.inl rfl))))

theorem allChargeStationsSql_spliced (cid : Int) :
    Stmt.Spliced .outside (allChargeStationsSql cid) := by
  unfold allChargeStationsSql
  apply Stmt.Spliced.sql
  rw [Place.read_string rfl]
  split
  · exact text_number rfl rfl (text_end rfl (Or.inl rfl))
  · exact .nil (Or.inl rfl)

theorem clearUpdMobSql_spliced (ids : List Int) (cid : Int) :
    Stmt.Spliced .outside (clearUpdMobSql ids cid) := by
  unfold clearUpdMobSql
  apply Stmt.Spliced.sql
  rw [Place.read_string rfl]
  exact idList_spliced ids (text_number rfl rfl (.nil (Or.inl rfl)))

/-- Every value stands alone between two quotes. -/
theorem spliced (s : Printed) : Stmt.Spliced .outside s.stmt := by
  cases s with
  | updateCSProf => exact text_number rfl rfl (text_value rfl rfl (text_number rfl rfl
      (text_value rfl rfl (text_number rfl rfl (.nil (Or.inl rfl))))))
  | insertCSProf => exact text_number rfl rfl (text_value rfl rfl (text_number rfl rfl
      (text_value rfl rfl (text_number rfl rfl (text_end rfl (Or.inl rfl))))))
  | getCSProfileByProfName | removeChargingProfile | getSerNumber | getIPAddr
  | deleteChargeStation | certFlag =>
    exact text_value rfl rfl (text_end rfl (Or.inr (Or.inr rfl)))
  | getCSProfile | lastFlag | getLastStatusNotification | allHistory | clearHistory =>
    exact text_value rfl rfl (text_end rfl (Or.inl rfl))
  | updMob | getChargeStationByID | getStopTransaction =>
    exact text_number rfl rfl (.nil (Or.inl rfl))
  | getCSProfiles | stale => exact text_number rfl rfl (text_end rfl (Or.inl rfl))
  | updateOcppHB | meterValues =>
    exact text_number rfl rfl (text_value rfl rfl (text_end rfl (Or.inr (Or.inr rfl))))
  | updateCSTimeZone | claim => exact text_number rfl rfl (text_number rfl rfl
      (text_value rfl rfl (text_end rfl (Or.inr (Or.inr rfl)))))
  | updateCSStationsWithProfile => exact updateCSStationsWithProfileSql_spliced _ _ _
  | updateIPAddr => exact updateIPAddrSql_spliced _ _
  | updateCSObjB => exact text_value rfl rfl (text_number rfl rfl (text_value rfl rfl
      (text_end rfl (Or.inr (Or.inr rfl)))))
  | updateCSFWUpdate =>
    exact text_value rfl rfl (text_value rfl rfl (text_end rfl (Or.inr (Or.inr rfl))))
  | allChargeStations => exact allChargeStationsSql_spliced _
  | clearUpdMob => exact clearUpdMobSql_spliced _ _
  | updateChargeStationStatus =>
    refine text_number rfl rfl (.sql (.sql ?_))
    rw [Place.read_string rfl, Place.read_string rfl]
    exact text_value rfl rfl (text_end rfl (Or.inr (Or.inr rfl)))
  | getLastRowID =>
    refine .sql (.sql ?_)
    rw [Place.read_string rfl, Place.read_string rfl]
    exact text_end rfl (Or.inl rfl)
  | insertStartTransaction => exact text_number rfl rfl (text_number rfl rfl (text_value rfl rfl
      (text_number rfl rfl (text_number rfl rfl (text_number rfl rfl
        (text_end rfl (Or.inl rfl)))))))
  | updateHistOnStartTransaction =>
    exact text_value rfl rfl (text_value rfl rfl (text_number rfl rfl (.nil (Or.inl rfl))))
  | transactionIds started sern =>
    refine .sql (.sql ?_)
    rw [Place.read_string rfl]
    cases started with
    | false =>
      rw [if_neg Bool.false_ne_true, Place.read_string rfl]
      exact text_value rfl rfl (text_end rfl (Or.inr (Or.inr rfl)))
    | true =>
      rw [if_pos rfl, Place.read_string rfl]
      exact text_value rfl rfl (text_end rfl (Or.inr (Or.inr rfl)))
  | insertOcppHistory => exact text_value rfl rfl (text_number rfl rfl (text_value rfl rfl
      (text_value rfl rfl (text_value rfl rfl (text_value rfl rfl (text_value rfl rfl
        (text_end rfl (Or.inl rfl))))))))

end Spliced

theorem shown_one (v : Text) : List.Forall₂ Stmt.Shown [v] [cstr v] :=
  .cons (Stmt.shown_cstr v) .nil

theorem shown_two (v w : Text) : List.Forall₂ Stmt.Shown [v, w] [cstr v, cstr w] :=
  .cons (Stmt.shown_cstr v) (shown_one w)

theorem shown_reference (status sern : Text) (ts : Int) :
    List.Forall₂ Stmt.Shown [status ++ "," ++ decimal (wrapU64 ts), sern]
      [fwReferenceText status ts, cstr sern] := by
  have hdecimal : '\x00' ∉ decimal (wrapU64 ts) := not_mem_decimal (by decide) (by decide) _
  refine .cons ⟨?_, fun hnul => ?_⟩ (shown_one sern)
  · unfold fwReferenceText
    simp only [List.mem_append, not_or]
    exact ⟨⟨no_nul_cstr status, by decide⟩, hdecimal⟩
  · simp only [List.mem_append, not_or] at hnul
    unfold fwReferenceText
    rw [cstr_of_no_nul hnul.1.1]

theorem idList_values (ids : List Int) : Stmt.values (idList ids) = [] := by
  induction ids with
  | nil => rfl
  | cons id ids ih =>
    cases ids with
    | nil => rfl
    | cons id' ids => exact ih

theorem clearUpdMobSql_values (ids : List Int) (cid : Int) :
    (clearUpdMobSql ids cid).values = [] := by
  have hlist : Stmt.values (idList ids ++ [.sql ") and ClientID=", .number cid]) =
      Stmt.values (idList ids) ++ [] := List.filterMap_append
  rw [idList_values, List.append_nil] at hlist
  exact hlist

theorem allChargeStationsSql_values (cid : Int) : (allChargeStationsSql cid).values = [] := by
  unfold allChargeStationsSql
  split <;> rfl

theorem updateCSStationsWithProfileSql_shown (profileId cid : Int) (sern : Text) :
    List.Forall₂ Stmt.Shown (if sern = "*" then [] else [sern])
      (updateCSStationsWithProfileSql profileId cid sern).values := by
  unfold updateCSStationsWithProfileSql
  by_cases hstar : sern = "*"
  · rw [if_pos hstar, if_pos hstar]
    exact .nil
  · rw [if_neg hstar, if_neg hstar]
    exact shown_one sern

theorem updateIPAddrSql_shown (req : OcppRequest) (rtt : RttOcpp) :
    List.Forall₂ Stmt.Shown
      (if rtt.fwVer = [] then [req.remoteIP] else [req.remoteIP, rtt.fwVer, rtt.serNumber])
      (updateIPAddrSql req rtt).values := by
  unfold updateIPAddrSql
  by_cases hver : rtt.fwVer = []
  · rw [if_pos hver, if_pos hver]
    exact shown_one req.remoteIP
  · rw [if_neg hver, if_neg hver]
    exact .cons (Stmt.shown_cstr _) (shown_two _ _)

/-- The values are shown by the text. -/
theorem shown (s : Printed) : List.Forall₂ Stmt.Shown s.supplied s.stmt.values := by
  cases s with
  | updateCSProf | insertCSProf | updateHistOnStartTransaction | updateCSObjB =>
    exact shown_two _ _
  | getCSProfileByProfName | getCSProfile | removeChargingProfile | updateOcppHB
  | updateCSTimeZone | getSerNumber | getIPAddr | deleteChargeStation | certFlag | claim
  | lastFlag | getLastStatusNotification | allHistory | clearHistory | transactionIds
  | meterValues | updateChargeStationStatus | insertStartTransaction => exact shown_one _
  | getCSProfiles | stale | updMob | getChargeStationByID | getLastRowID | getStopTransaction =>
    exact .nil
  | updateCSStationsWithProfile profileId cid sern =>
    exact updateCSStationsWithProfileSql_shown profileId cid sern
  | updateIPAddr req rtt => exact updateIPAddrSql_shown req rtt
  | updateCSFWUpdate sern status ts => exact shown_reference status sern ts
  | allChargeStations cid =>
    rw [stmt, allChargeStationsSql_values]
    exact .nil
  | clearUpdMob ids cid =>
    rw [stmt, clearUpdMobSql_values]
    exact .nil
  | insertOcppHistory =>
    exact .cons (Stmt.shown_cstr _) (.cons (Stmt.shown_cstr _) (.cons (Stmt.shown_cstr _)
      (.cons (Stmt.shown_cstr _) (shown_two _ _))))

/-- A statement is read as the one that is meant exactly when nothing of it is
left out and the supplied texts hold neither a quote nor a NUL. -/
theorem lexes_iff (s : Printed) :
    s.stmt.LexesAs s.form ↔ s.Whole ∧ ∀ v ∈ s.supplied, Stmt.Clean v := by
  have hfull (hmissing : s.missing = []) :
      s.stmt.LexesAs s.form ↔ ∀ v ∈ s.supplied, Stmt.Clean v := by
    unfold form
    rw [hmissing, List.append_nil]
    exact Stmt.lexesAs_iff s.spliced s.shown
  by_cases hwhole : s.Whole
  · have hmissing : s.missing = [] := by
      cases s with
      | updateIPAddr req rtt => exact if_neg hwhole
      | _ => rfl
    rw [hfull hmissing, and_iff_right hwhole]
  · refine iff_of_false ?_ fun h => hwhole h.1
    cases s with
    | updateIPAddr req rtt =>
      have hver : rtt.fwVer = [] := not_not.mp hwhole
      have hmissing : (updateIPAddr req rtt).missing = bootFilter rtt := if_pos hver
      have hstmt : (updateIPAddr req rtt).stmt = _ ++ [] :=
        (congrArg (_ ++ ·) (if_pos hver) : updateIPAddrSql req rtt = _)
      have htext : " ,FWVer='".toList = ' ' :: ',' :: ['F', 'W', 'V', 'e', 'r', '=', '\''] :=
        String.toList_ofList
      unfold form
      rw [hmissing]
      refine Stmt.not_lexesAs_longer (spliced _) ?_ htext (shown _)
      rw [hstmt, List.append_nil]
      exact updateIPAddr_spliced req rtt (bootFilter_spliced _ _)
    | _ => exact absurd trivial hwhole

/-- A profile with a quote in its name is not looked up by that name. -/
theorem quoted_name_misread : ¬∀ s : Printed, s.stmt.LexesAs s.form := by
  intro h
  have hread := h (.getCSProfileByProfName "Bob's")
  have hmissing : (getCSProfileByProfName "Bob's").missing = [] := rfl
  unfold form at hread
  rw [hmissing, List.append_nil] at hread
  have hclean := (Stmt.lexesAs_iff (spliced _) (shown _)).mp hread "Bob's" List.mem_cons_self
  exact hclean.1 (by decide)

end Printed

end UCLinux.Ocpp
