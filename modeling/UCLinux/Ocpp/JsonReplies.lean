import UCLinux.Json.Compact
import UCLinux.Ocpp.ClientViews
import UCLinux.Ocpp.Literals

/-!
The stations and the history as a browser is sent them. The JSON is printed row
by row, every column between its quotes as it is stored. A reader finds the
rows again exactly when no column that is printed has a quote, a backslash or a
control character.
-/

namespace UCLinux.Ocpp

open Sql Machine Server CentralOcppDB HistoryDB

section Values

/-- The rows of the client's stations, or of all, once the stale ones are
offline. -/
def Server.queriedStations (s : Server) (E : Env) (cid : Int) : List (Row ChStation) :=
  (s.chStations.select fun r => cid ≤ 0 ∨ r.cols.clientID = cid).map
    (Table.rewriteRow (sweepRow (E.clock 1 - 2 * 60 * 1000)))

def storedHistory (r : Row CSHist) : CSHistory where
  ts := r.cols.ts
  ipAddr := r.cols.ipAddr
  action := r.cols.action
  csSts := r.cols.csSts
  errCode := r.cols.errCode
  rtValues := r.cols.rtValues

/-- The same row as it is fetched. -/
def HistoryDB.CSHistory.cut (h : CSHistory) : CSHistory where
  ts := h.ts
  ipAddr := cstr h.ipAddr
  action := cstr h.action
  csSts := cstr h.csSts
  errCode := cstr h.errCode
  rtValues := cstr h.rtValues

/-- The history rows of a serial number; one that ends the literal is another
query. -/
def Server.queriedHistory (s : Server) (E : Env) (sern : Text) : List CSHistory :=
  if (allHistorySql sern).QuoteFree then (historyRows sern s.csHist).map storedHistory
  else ((E.csHist.select (allHistorySql sern).text s.csHist).getD []).map cellsHistory

def stationObject (r : Row ChStation) : Json.Value :=
  .object [("sern".toList, .string r.cols.csSerN), ("objb".toList, .string r.cols.objB),
    ("ref".toList, .string r.cols.reference), ("fwver".toList, .string (r.cols.fwVer.getD [])),
    ("sts".toList, .number (decimal (wrap32 r.cols.status)))]

def historyObject (h : CSHistory) : Json.Value :=
  .object [("o_act".toList, .string h.action), ("cs_sts".toList, .string h.csSts),
    ("ts".toList, .number (decimal h.ts)), ("err_c".toList, .string h.errCode),
    ("ip_a".toList, .string h.ipAddr), ("rtt".toList, .string h.rtValues)]

/-- One object for each row. -/
def listing (name : Text) (objects : List Json.Value) : Json.Value :=
  .object [(name, .array objects)]

instance (t : Text) : Decidable (Plain t) := List.decidableBAll _ t

/-- The columns that are printed stand for themselves. -/
structure PlainStation (r : Row ChStation) : Prop where
  csSerN : Plain r.cols.csSerN
  objB : Plain r.cols.objB
  reference : Plain r.cols.reference
  fwVer : Plain (r.cols.fwVer.getD [])

structure PlainHistory (h : CSHistory) : Prop where
  action : Plain h.action
  csSts : Plain h.csSts
  errCode : Plain h.errCode
  ipAddr : Plain h.ipAddr
  rtValues : Plain h.rtValues

end Values

section Texts

/-- What `printf` writes for a string. -/
def Cut (s b : Text) : Prop := b = cstr s

/-- The same for a string that stands for itself. -/
def PlainCut (s b : Text) : Prop := Cut s b ∧ Plain s

theorem cut_of_plain (s : Text) (h : Plain s) : Cut s s :=
  (cstr_of_no_nul fun hmem => absurd (h _ hmem).2.2 (by decide)).symm

variable {R : Text → Text → Prop}

theorem printed_station {r : Row ChStation}
    (hkey : ∀ k, Plain k → R k k)
    (hsern : R r.cols.csSerN (cstr r.cols.csSerN)) (hobjb : R r.cols.objB (cstr r.cols.objB))
    (href : R r.cols.reference (cstr r.cols.reference))
    (hfwver : R (r.cols.fwVer.getD []) (cstr (r.cols.fwVer.getD []))) :
    Json.Printed R (.value (stationObject r)) (stationText (readChS r)) := by
  have h₁ := hkey "sern".toList (by decide)
  have h₂ := hkey "objb".toList (by decide)
  have h₃ := hkey "ref".toList (by decide)
  have h₄ := hkey "fwver".toList (by decide)
  have h₅ := hkey "sts".toList (by decide)
  have hprinted := Json.Printed.object (.member (.padded (.string h₁)) (.padded (.string hsern))
    (.member (.padded (.string h₂)) (.padded (.string hobjb))
    (.member (.padded (.string h₃)) (.padded (.string href))
    (.member (.padded (.string h₄)) (.padded (.string hfwver))
    (.lastMember (.padded (.string h₅))
      (.padded (.number (isNumber_decimal (wrap32 r.cols.status)))))))))
  refine Eq.mp (congrArg (Json.Printed R _) ?_) hprinted
  unfold stationText readChS
  simp only [cstr_cstr, String.reduceToList, List.cons_append, List.nil_append, List.append_assoc]

theorem printed_history {h : CSHistory}
    (hkey : ∀ k, Plain k → R k k)
    (haction : R h.action (cstr h.action)) (hsts : R h.csSts (cstr h.csSts))
    (herr : R h.errCode (cstr h.errCode)) (hip : R h.ipAddr (cstr h.ipAddr))
    (hrtt : R h.rtValues (cstr h.rtValues)) :
    Json.Printed R (.value (historyObject h)) (historyText h.cut) := by
  have h₁ := hkey "o_act".toList (by decide)
  have h₂ := hkey "cs_sts".toList (by decide)
  have h₃ := hkey "ts".toList (by decide)
  have h₄ := hkey "err_c".toList (by decide)
  have h₅ := hkey "ip_a".toList (by decide)
  have h₆ := hkey "rtt".toList (by decide)
  have hprinted := Json.Printed.object (.member (.padded (.string h₁)) (.padded (.string haction))
    (.member (.padded (.string h₂)) (.padded (.string hsts))
    (.member (.padded (.string h₃)) (.padded (.number (isNumber_decimal h.ts)))
    (.member (.padded (.string h₄)) (.padded (.string herr))
    (.member (.padded (.string h₅)) (.padded (.string hip))
    (.lastMember (.padded (.string h₆)) (.padded (.string hrtt))))))))
  refine Eq.mp (congrArg (Json.Printed R _) ?_) hprinted
  unfold historyText CSHistory.cut
  simp only [String.reduceToList, List.cons_append, List.nil_append, List.append_assoc]

theorem cut_cases {s b : Text} (h : Cut s b) : b.length < s.length ∨ b = s := by
  have hstarts : cstr s <+: s := List.takeWhile_prefix _
  obtain rfl := h
  rcases Nat.lt_or_eq_of_le hstarts.length_le with hlt | heq
  · exact Or.inl hlt
  · exact Or.inr (hstarts.eq_of_length heq)

/-- What is printed from a value is JSON of it exactly when its strings are
plain. -/
theorem printed_isText_iff {v : Json.Value} {t : Text} (h : Json.Printed Cut (.value v) t) :
    Json.IsText literals v t ↔ Json.Printed PlainCut (.value v) t := by
  apply h.isText_iff
  · intro b s hs
    rcases unescape_shortens hs with hlt | ⟨rfl, hplain⟩
    · exact Or.inl hlt
    · exact Or.inr ⟨rfl, hplain⟩
  · exact fun _ _ => cut_cases
  · rintro s _ rfl hs
    exact unescape_cstr_iff.mpr hs

theorem exists_plainCut {s : Text} : (∃ b, PlainCut s b) ↔ Plain s :=
  ⟨fun ⟨_, _, hs⟩ => hs, fun hs => ⟨cstr s, rfl, hs⟩⟩

theorem joinItems_eq {items : List Text} (hne : items ≠ []) :
    joinItems items = Json.separated items ++ [' '] := by
  induction items with
  | nil => exact absurd rfl hne
  | cons item items ih =>
    cases items with
    | nil => rfl
    | cons next items =>
      unfold joinItems Json.separated
      rw [ih (List.cons_ne_nil next items)]
      simp

variable {α : Type} {f : α → Json.Value} {g : α → Text} {P : α → Prop} {as : List α}
  {name : Text}

/-- What is printed for a list of rows is JSON of the rows exactly when each of
them can be printed. -/
theorem listing_isText_iff (hname : Plain name)
    (hcut : ∀ a, Json.Printed Cut (.value (f a)) (g a))
    (hplain : ∀ a, P a → Json.Printed PlainCut (.value (f a)) (g a))
    (hprintable : ∀ a, Json.Printable PlainCut (.value (f a)) → P a) :
    Json.IsText literals (listing name (as.map f))
        ("\x7b\"" ++ name ++ "\":[" ++ joinItems (as.map g) ++ "]\x7d") ↔ ∀ a ∈ as, P a := by
  have htight : Json.IsText literals (listing name (as.map f))
      ("\x7b\"" ++ name ++ "\":[" ++ joinItems (as.map g) ++ "]\x7d") ↔
      Json.IsText literals (listing name (as.map f))
        ('{' :: ('"' :: name ++ ['"'] ++ ':' :: ('[' :: Json.separated (as.map g) ++ [']'])) ++
          ['}']) := by
    by_cases hnil : as = []
    · rw [hnil]
      refine iff_of_eq (congrArg _ ?_)
      simp [joinItems, Json.separated]
    · rw [joinItems_eq (by simpa using hnil)]
      have hblank : Json.IsText literals (.object [(name, .array (as.map f))]) _ ↔ _ :=
        Json.IsText.object_array_concat_iff
          (t := '"' :: name ++ ['"'] ++ ':' :: '[' :: Json.separated (as.map g))
      simpa [listing] using hblank
  have hprinted {R : Text → Text → Prop} (hkey : R name name)
      (h : ∀ a ∈ as, Json.Printed R (.value (f a)) (g a)) :
      Json.Printed R (.value (listing name (as.map f)))
        ('{' :: ('"' :: name ++ ['"'] ++ ':' :: ('[' :: Json.separated (as.map g) ++ [']'])) ++
          ['}']) :=
    .object (.lastMember (.padded (.string hkey)) (.padded (Json.printed_array h)))
  rw [htight, printed_isText_iff (hprinted (cut_of_plain name hname) fun a _ => hcut a)]
  constructor
  · intro h a ha
    have hprints : Json.Printable PlainCut (.value (listing name (as.map f))) := ⟨_, h⟩
    unfold listing at hprints
    rw [Json.printable_object, Json.printable_lastMember] at hprints
    exact hprintable a (hprints.2.of_array _ (List.mem_map_of_mem ha))
  · exact fun h => hprinted ⟨cut_of_plain name hname, hname⟩ fun a ha => hplain a (h a ha)

end Texts

section Replies

variable {E : Env} {s : Server} {cid : Int} {user : Text}

theorem processChargeStationsHB_reply (hE : E.Quiet) :
    (processChargeStationsHB E cid s.start).1 =
      .text ("\x7b\"" ++ "ChSs" ++ "\":[" ++
        joinItems ((s.queriedStations E cid).map fun r => stationText (readChS r)) ++ "]\x7d") := by
  obtain ⟨tab, hrows, hread⟩ := getAllChargeStations_swept s cid (hE 0) (hE 2)
  have hfound : (query E.raises (fun s : Server =>
      some (s.chStations.select fun r => cid ≤ 0 ∨ r.cols.clientID = cid))
      ⟨CH_STATIONS.set s.start.state tab, 3⟩).1.rows = s.queriedStations E cid := by
    rw [query_of_calm ⟨CH_STATIONS.set s.start.state tab, 3⟩ (hE 3) rfl]
    have hswept : tab.select (fun r => cid ≤ 0 ∨ r.cols.clientID = cid) =
        s.queriedStations E cid := by
      unfold Table.select Server.queriedStations Table.select
      rw [hrows, List.filter_map]
      congr 2
      funext r
      simp only [Function.comp_apply, sweepRow_clientID]
    exact hswept
  have hitems := congrArg Prod.snd (hread _ hfound)
  unfold processChargeStationsHB
  rw [Action.bind_apply]
  dsimp only [Action.pure_apply]
  rw [hitems, List.map_map]
  rfl

theorem cstr_cellText (row : List Cell) (i : Nat) : cstr (cellText row i) = cellText row i := by
  unfold cellText
  split
  · exact cstr_cstr _
  · exact cstr_of_no_nul (not_mem_decimal (by decide) (by decide) _)
  · rfl

theorem getAllChargeStationsHistory_rows (hE : E.Quiet) :
    (getAllChargeStationsHistory E cid user s.start).1 =
      (s.queriedHistory E user).map CSHistory.cut := by
  unfold getAllChargeStationsHistory Server.queriedHistory
  rw [createConnection_bind, if_pos (hE _), Action.bind_apply]
  by_cases hliteral : (allHistorySql user).QuoteFree
  · rw [if_pos hliteral, TableAt.read_literal _ _ hliteral (hE _), List.map_map]
    rfl
  · rw [if_neg hliteral]
    have hcells : (CSHistory.cut ∘ cellsHistory) = cellsHistory := by
      funext row
      unfold CSHistory.cut cellsHistory
      simp only [Function.comp_apply, cstr_cellText]
    rw [List.map_map, hcells]
    cases hselect : E.csHist.select (allHistorySql user).text s.csHist with
    | some found =>
      rw [TableAt.read_altered _ _ hliteral (hE _) hselect]
      rfl
    | none =>
      rw [TableAt.read_refused _ _ hliteral hselect]
      rfl

/-- The replies are JSON of what is stored. A star is none. -/
structure RepliesDecode (E : Env) (s : Server) (cid : Int) (user : Text) : Prop where
  stations : ∀ t, (processChargeStationsHB E cid s.start).1 = .text t → t ≠ "*" →
    Json.IsText literals (listing "ChSs" ((s.queriedStations E cid).map stationObject)) t
  history : ∀ t, (getChargeStationsHistory E cid user s.start).1 = .text t → t ≠ "*" →
    Json.IsText literals (listing "CsHist" ((s.queriedHistory E user).map historyObject)) t

theorem stationListing_isText_iff {rows : List (Row ChStation)} :
    Json.IsText literals (listing "ChSs" (rows.map stationObject))
        ("\x7b\"" ++ "ChSs" ++ "\":[" ++ joinItems (rows.map fun r => stationText (readChS r)) ++
          "]\x7d") ↔ ∀ r ∈ rows, PlainStation r := by
  apply listing_isText_iff
  · decide
  · exact fun r => printed_station cut_of_plain rfl rfl rfl rfl
  · exact fun r h => printed_station (fun k hk => ⟨cut_of_plain k hk, hk⟩) ⟨rfl, h.csSerN⟩
      ⟨rfl, h.objB⟩ ⟨rfl, h.reference⟩ ⟨rfl, h.fwVer⟩
  · intro r h
    simp only [stationObject, Json.printable_object, Json.printable_member,
      Json.printable_lastMember, Json.printable_string, exists_plainCut] at h
    obtain ⟨-, hsern, -, hobjb, -, href, -, hfwver, -⟩ := h
    exact ⟨hsern, hobjb, href, hfwver⟩

theorem historyListing_isText_iff {rows : List CSHistory} :
    Json.IsText literals (listing "CsHist" (rows.map historyObject))
        ("\x7b\"" ++ "CsHist" ++ "\":[" ++ joinItems (rows.map fun h => historyText h.cut) ++
          "]\x7d") ↔ ∀ h ∈ rows, PlainHistory h := by
  apply listing_isText_iff
  · decide
  · exact fun r => printed_history cut_of_plain rfl rfl rfl rfl rfl
  · exact fun r h => printed_history (fun k hk => ⟨cut_of_plain k hk, hk⟩) ⟨rfl, h.action⟩
      ⟨rfl, h.csSts⟩ ⟨rfl, h.errCode⟩ ⟨rfl, h.ipAddr⟩ ⟨rfl, h.rtValues⟩
  · intro r h
    simp only [historyObject, Json.printable_object, Json.printable_member,
      Json.printable_lastMember, Json.printable_string, exists_plainCut] at h
    obtain ⟨-, haction, -, hsts, -, -, -, herr, -, hip, -, hrtt⟩ := h
    exact ⟨haction, hsts, herr, hip, hrtt⟩

/-- The sweep leaves the strings of a row as they are. -/
theorem plainStation_sweep (ts : Int) (r : Row ChStation) :
    PlainStation (Table.rewriteRow (sweepRow ts) r) ↔ PlainStation r := by
  unfold Table.rewriteRow sweepRow
  split
  · next a ha =>
    split at ha
    · cases ha
      exact ⟨fun h => ⟨h.csSerN, h.objB, h.reference, h.fwVer⟩,
        fun h => ⟨h.csSerN, h.objB, h.reference, h.fwVer⟩⟩
    · cases ha
  · exact Iff.rfl

theorem plain_queriedStations :
    (∀ r ∈ s.queriedStations E cid, PlainStation r) ↔
      ∀ r ∈ s.chStations.rows, (cid ≤ 0 ∨ r.cols.clientID = cid) → PlainStation r := by
  unfold Server.queriedStations Table.select
  simp only [List.forall_mem_map, plainStation_sweep, List.mem_filter, decide_eq_true_eq, and_imp]

theorem brace_ne_star (t : Text) : '{' :: t ≠ "*" := by
  intro h
  cases congrArg List.head? h

theorem stationReply_iff (hE : E.Quiet) :
    (∀ t, (processChargeStationsHB E cid s.start).1 = .text t → t ≠ "*" →
      Json.IsText literals (listing "ChSs" ((s.queriedStations E cid).map stationObject)) t) ↔
      ∀ r ∈ s.chStations.rows, (cid ≤ 0 ∨ r.cols.clientID = cid) → PlainStation r := by
  rw [← plain_queriedStations (E := E), ← stationListing_isText_iff,
    processChargeStationsHB_reply hE]
  constructor
  · exact fun h => h _ rfl (brace_ne_star _)
  · rintro h _ ⟨⟩ -
    exact h

theorem historyReply_iff (hE : E.Quiet) :
    (∀ t, (getChargeStationsHistory E cid user s.start).1 = .text t → t ≠ "*" →
      Json.IsText literals (listing "CsHist" ((s.queriedHistory E user).map historyObject)) t) ↔
      ∀ h ∈ s.queriedHistory E user, PlainHistory h := by
  unfold getChargeStationsHistory
  rw [Action.bind_apply, getAllChargeStationsHistory_rows hE, ← historyListing_isText_iff]
  by_cases hnil : s.queriedHistory E user = []
  · rw [hnil, historyListing_isText_iff]
    refine iff_of_true ?_ (by simp)
    rintro _ ⟨⟩ hstar
    exact absurd rfl hstar
  · rw [if_neg (by simpa using hnil), List.map_map]
    constructor
    · exact fun h => h _ rfl (brace_ne_star _)
    · rintro h _ ⟨⟩ -
      exact h

/-- Both replies are JSON of what is stored exactly when the columns they print
are plain. -/
theorem repliesDecode_iff (hE : E.Quiet) :
    RepliesDecode E s cid user ↔
      (∀ r ∈ s.chStations.rows, (cid ≤ 0 ∨ r.cols.clientID = cid) → PlainStation r) ∧
        ∀ h ∈ s.queriedHistory E user, PlainHistory h := by
  rw [← stationReply_iff hE, ← historyReply_iff hE]
  exact ⟨fun h => ⟨h.stations, h.history⟩, fun h => ⟨h.1, h.2⟩⟩

/-- Two stations, of which the first has sent a notice. -/
def reportedStations : Server :=
  { Server.empty with
    chStations := ⟨[⟨1, .plain "GRS-1" "[::1]:5000" 1⟩, ⟨2, .plain "GRS-2" "[::1]:6000" 1⟩],
      by decide, by decide⟩
    csHist := ⟨[⟨1, ⟨"GRS-1", 5, "[::1]:5000", "StatusNotification", "Available", "NoError",
      "1,0,"⟩⟩], by decide, by decide⟩ }

/-- What client 1 is sent of its stations and the first one's history. -/
theorem repliesDecode_reported : RepliesDecode .calm reportedStations 1 "GRS-1" := by
  refine (repliesDecode_iff fun _ => rfl).mpr ⟨?_, ?_⟩
  · intro r hr _
    rcases List.mem_pair.mp hr with rfl | rfl <;>
      exact ⟨by decide, by decide, by decide, by decide⟩
  · have hrows : reportedStations.queriedHistory .calm "GRS-1" =
        [⟨5, "[::1]:5000", "StatusNotification", "Available", "NoError", "1,0,"⟩] := by
      decide
    intro h hmem
    rw [hrows] at hmem
    obtain rfl := List.mem_singleton.mp hmem
    exact ⟨by decide, by decide, by decide, by decide, by decide⟩

/-- A notice with a quoted word in its info. -/
def quotingNotice : StatusNotificationRequest where
  connectorId := 1
  errorCode := ⟨"InternalError", by decide⟩
  info := some ⟨"\"E1\"", by decide, by decide, by decide⟩
  status := ⟨"Unavailable", by decide⟩
  timestamp := some 0
  vendorErrorCode := none
  vendorId := none

/-- The server of one station once it has sent the notice. -/
def noticedServer : Server :=
  (processStatusNotification { Lib.refusing with loadStatusNotification := fun _ => quotingNotice }
    .calm { uniqueID := "0123456789A", action := "StatusNotification" }
    ({ Server.empty with
      chStations := ⟨[⟨1, .plain "GRS-0123456789" "[::1]:5001" 1⟩], by decide, by decide⟩ } :
      Server).start).2.state

/-- The client is sent `"rtt":"1,0,"E1",` and what follows. -/
theorem repliesDecode_quoted : ¬RepliesDecode .calm noticedServer 1 "GRS-0123456789" := by
  intro h
  have hplain := (historyReply_iff fun _ => rfl).mp h.history
  have hrows : noticedServer.queriedHistory .calm "GRS-0123456789" =
      [⟨0, [], "StatusNotification", "Unavailable", "InternalError", "1,0,\"E1\","⟩] := by
    decide
  rw [hrows] at hplain
  exact absurd (hplain _ (List.mem_singleton_self _)).rtValues (by decide)

end Replies

end UCLinux.Ocpp
