import UCLinux.Ocpp.CentralOcppDB

/-!
Which values the statements of the two databases carry between quotes. A
statement is read as it was written when none of them has a quote, so every
statement with such a value has one lemma that lists them, and later modules
do not look into a statement's text. The literals of the texts stay folded in
these proofs.
-/

namespace UCLinux.Ocpp

open Sql CentralOcppDB HistoryDB

section History

variable {req : OcppRequest} {rtt : RttOcpp} {sern : Text} {id : Int}

theorem insertOcppHistorySql_quoteFree :
    (insertOcppHistorySql req rtt sern).QuoteFree ↔ '\'' ∉ cstr sern ∧
      '\'' ∉ cstr req.remoteIP ∧ '\'' ∉ cstr req.action ∧ '\'' ∉ cstr rtt.status ∧
      '\'' ∉ cstr rtt.errCode ∧ '\'' ∉ cstr rtt.sensors := by
  simp [insertOcppHistorySql, -String.reduceToList]

theorem insertStartTransactionSql_quoteFree {p : StartTransactionRequest} :
    (insertStartTransactionSql id p).QuoteFree ↔ '\'' ∉ cstr p.idTag.toText := by
  simp [insertStartTransactionSql, -String.reduceToList]

theorem updateHistOnStartTransactionSql_quoteFree :
    (updateHistOnStartTransactionSql rtt id).QuoteFree ↔
      '\'' ∉ cstr rtt.status ∧ '\'' ∉ cstr rtt.errCode := by
  simp [updateHistOnStartTransactionSql, -String.reduceToList]

theorem insertStopTransactionSql_quoteFree : insertStopTransactionSql.QuoteFree := by
  simp [insertStopTransactionSql, -String.reduceToList]

theorem insertMeterValuesSql_quoteFree : insertMeterValuesSql.QuoteFree := by
  simp [insertMeterValuesSql, -String.reduceToList]

theorem lastFlagSql_quoteFree : (lastFlagSql sern).QuoteFree ↔ '\'' ∉ sern := by
  simp [lastFlagSql, -String.reduceToList]

theorem clearHistorySql_quoteFree : (clearHistorySql sern).QuoteFree ↔ '\'' ∉ cstr sern := by
  simp [clearHistorySql, -String.reduceToList]

end History

section Messages

variable {req : OcppRequest} {rtt : RttOcpp} {sern status : Text} {ts : Int}

theorem getSerNumberSql_quoteFree : (getSerNumberSql sern).QuoteFree ↔ '\'' ∉ cstr sern := by
  simp [getSerNumberSql, -String.reduceToList]

/-- The UPDATE of a boot holds its serial number only with a firmware
version. -/
theorem updateIPAddrSql_quoteFree :
    (updateIPAddrSql req rtt).QuoteFree ↔ '\'' ∉ cstr req.remoteIP ∧
      (rtt.fwVer ≠ [] → '\'' ∉ cstr rtt.fwVer ∧ '\'' ∉ cstr rtt.serNumber) := by
  unfold updateIPAddrSql
  by_cases hver : rtt.fwVer = []
  · simp [hver, -String.reduceToList]
  · simp [hver, -String.reduceToList]

theorem updateCSObjBSql_quoteFree :
    (updateCSObjBSql req rtt).QuoteFree ↔
      '\'' ∉ cstr (objBText req rtt) ∧ '\'' ∉ cstr rtt.serNumber := by
  simp [updateCSObjBSql, -String.reduceToList]

theorem fwReferenceText_quote : '\'' ∉ fwReferenceText status ts ↔ '\'' ∉ cstr status := by
  simp [fwReferenceText, quote_not_mem_decimal]

theorem updateCSFWUpdateSql_quoteFree :
    (updateCSFWUpdateSql sern status ts).QuoteFree ↔
      '\'' ∉ cstr status ∧ '\'' ∉ cstr sern := by
  simp [updateCSFWUpdateSql, fwReferenceText_quote, -String.reduceToList]

theorem updateOcppHBSql_quoteFree :
    (updateOcppHBSql sern rtt).QuoteFree ↔ '\'' ∉ cstr sern := by
  simp [updateOcppHBSql, -String.reduceToList]

theorem getIPAddrSql_quoteFree : (getIPAddrSql sern).QuoteFree ↔ '\'' ∉ cstr sern := by
  simp [getIPAddrSql, -String.reduceToList]

theorem updateCSTimeZoneSql_quoteFree {tz dls : Int} :
    (updateCSTimeZoneSql sern tz dls).QuoteFree ↔ '\'' ∉ cstr sern := by
  simp [updateCSTimeZoneSql, -String.reduceToList]

theorem updateChargeStationStatusSql_quoteFree {name value : Text} {n : Int} :
    (updateChargeStationStatusSql name value n).QuoteFree ↔ '\'' ∉ cstr value := by
  simp [updateChargeStationStatusSql, -String.reduceToList]

end Messages

section Profiles

variable {cid profileId : Int} {profName sern json : Text}

theorem updateCSStationsWithProfileSql_quoteFree :
    (updateCSStationsWithProfileSql profileId cid sern).QuoteFree ↔ '\'' ∉ cstr sern := by
  unfold updateCSStationsWithProfileSql
  by_cases hstar : sern = "*"
  · rw [if_pos hstar, hstar]
    exact iff_of_true (by simp [-String.reduceToList]) (by decide)
  · rw [if_neg hstar]
    simp [-String.reduceToList]

theorem removeChargingProfileSql_quoteFree :
    (removeChargingProfileSql sern).QuoteFree ↔ '\'' ∉ cstr sern := by
  simp [removeChargingProfileSql, -String.reduceToList]

theorem getCSProfileIDSql_quoteFree : getCSProfileIDSql.QuoteFree := by
  simp [getCSProfileIDSql, -String.reduceToList]

theorem updateCSProfSql_quoteFree {ts : Int} :
    (updateCSProfSql cid profileId profName json ts).QuoteFree ↔
      '\'' ∉ cstr profName ∧ '\'' ∉ cstr json := by
  simp [updateCSProfSql, -String.reduceToList]

theorem insertCSProfSql_quoteFree {id ts : Int} :
    (insertCSProfSql id cid profName json ts).QuoteFree ↔
      '\'' ∉ cstr profName ∧ '\'' ∉ cstr json := by
  simp [insertCSProfSql, -String.reduceToList]

theorem getCSProfileSql_quoteFree : (getCSProfileSql sern).QuoteFree ↔ '\'' ∉ cstr sern := by
  simp [getCSProfileSql, -String.reduceToList]

theorem getCSProfileByProfNameSql_quoteFree :
    (getCSProfileByProfNameSql profName).QuoteFree ↔ '\'' ∉ cstr profName := by
  simp [getCSProfileByProfNameSql, -String.reduceToList]

end Profiles

section Lists

variable {sern : Text} {cid : Int}

theorem deleteChargeStationSql_quoteFree :
    (deleteChargeStationSql sern).QuoteFree ↔ '\'' ∉ cstr sern := by
  simp [deleteChargeStationSql, -String.reduceToList]

theorem staleSql_quoteFree {ts : Int} : (staleSql ts).QuoteFree := by
  simp [staleSql, -String.reduceToList]

theorem idList_quoteFree (ids : List Int) : Stmt.QuoteFree (idList ids) := by
  induction ids with
  | nil => simp [idList, -String.reduceToList]
  | cons id ids ih =>
    cases ids with
    | nil => simp [idList, -String.reduceToList]
    | cons id' ids => simpa [idList] using ih

theorem clearUpdMobSql_quoteFree (ids : List Int) : (clearUpdMobSql ids cid).QuoteFree := by
  simp [clearUpdMobSql, idList_quoteFree, -String.reduceToList]

theorem certFlagSql_quoteFree : (certFlagSql sern).QuoteFree ↔ '\'' ∉ cstr sern := by
  simp [certFlagSql, -String.reduceToList]

theorem claimSql_quoteFree {flags : Int} :
    (claimSql cid flags sern).QuoteFree ↔ '\'' ∉ cstr sern := by
  simp [claimSql, -String.reduceToList]

end Lists

end UCLinux.Ocpp
