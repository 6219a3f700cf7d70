import UCLinux.Ocpp.ProfileTexts

/-!
Saving a profile for a station and reading it back. What is read for the
station or under the name is the text that was saved exactly when the texts
come through the statements and `printf` as they are, the row of the profile
holds the text and the name, and the station is assigned that profile. Saving a
profile that exists rewrites its row and assigns it; a new profile is inserted
and assigned to nothing, and its ID is answered before the row is.
-/

namespace UCLinux.Ocpp

open Sql Machine Server CentralOcppDB

/-- The profile assigned to the station of a serial number. -/
def Server.assignment (s : Server) (N : Text) : Option Int :=
  ((s.chStations.select (·.cols.csSerN = N)).head?).map (·.cols.profID)

def Server.profile (s : Server) (n : Int) : Option CSProfile :=
  ((s.csProf.select (·.rowid = n)).head?).map (·.cols)

/-- Neither the profile nor the assignment has changed, whatever else has. -/
structure Untouched (n : Int) (N : Text) (s t : Server) : Prop where
  profile : t.profile n = s.profile n
  assignment : t.assignment N = s.assignment N

/-- Reading by the serial number, from the browser and from the phone, and by
the name give the text. -/
structure Shown (E : Env) (t : Server) (N profName j : Text) (n : Int) : Prop where
  profile : (getCsProfile E N t.start).1 = .text j
  mobile : (getProfileMob E N t.start).1 =
    .text ("OCPP" ++ decimal 103 ++ decimal 203 ++ "|" ++ j)
  byName : (∀ r ∈ t.csProf.rows, r.rowid ≠ n → r.cols.profName ≠ profName) →
    (getCsProfileByName E profName t.start).1 = .text j

/-- The texts that are read back as they are. -/
structure ReadsBack (N profName j : Text) : Prop where
  sern : N ≠ []
  sernQuote : '\'' ∉ N
  sernNul : '\x00' ∉ N
  nameQuote : '\'' ∉ profName
  nameNul : '\x00' ∉ profName
  nul : '\x00' ∉ j
  percent : '%' ∉ j

/-- The station is assigned a profile that has the text and the name. -/
def Stored (s : Server) (N profName j : Text) (n : Int) : Prop :=
  s.assignment N = some n ∧
    ∃ a, s.profile n = some a ∧ cstr a.data = j ∧ a.profName = profName

theorem profile_eq_some {s : Server} {n : Int} {a : CSProfile} :
    s.profile n = some a ↔ ⟨n, a⟩ ∈ s.csProf.rows := by
  unfold Server.profile
  constructor
  · intro h
    obtain ⟨r, hr, rfl⟩ := Option.map_eq_some_iff.mp h
    obtain ⟨hmem, hid⟩ := List.mem_filter.mp (List.mem_of_mem_head? hr)
    obtain rfl : r.rowid = n := of_decide_eq_true hid
    exact hmem
  · intro h
    rw [show s.csProf.select (·.rowid = n) = [⟨n, a⟩] from s.csProf.select_rowid h]
    rfl

theorem profile_eq_none {s : Server} {n : Int} :
    s.profile n = none ↔ ∀ r ∈ s.csProf.rows, r.rowid ≠ n := by
  rw [← Option.not_isSome_iff_eq_none, Option.isSome_iff_exists]
  constructor
  · rintro h r hr rfl
    exact h ⟨r.cols, profile_eq_some.mpr hr⟩
  · rintro h ⟨a, ha⟩
    exact h _ (profile_eq_some.mp ha) rfl

theorem assignment_eq_some {s : Server} {N : Text} {p : Int} :
    s.assignment N = some p ↔
      ∃ r ∈ s.chStations.rows, r.cols.csSerN = N ∧ r.cols.profID = p := by
  unfold Server.assignment
  constructor
  · intro h
    obtain ⟨r, hr, hp⟩ := Option.map_eq_some_iff.mp h
    obtain ⟨hmem, hser⟩ := List.mem_filter.mp (List.mem_of_mem_head? hr)
    exact ⟨r, hmem, of_decide_eq_true hser, hp⟩
  · rintro ⟨r, hr, hser, rfl⟩
    rw [ChStation.select_serial hr hser]
    rfl

/-! ## Reading -/

section Reading

variable {E : Env} {t : Server} {N profName j : Text} {n : Int}

theorem lastOf_of_all {rows : List Text} (hne : rows ≠ []) (hall : ∀ x ∈ rows, x = j) :
    lastOf rows = j := by
  unfold lastOf
  rw [List.getLast?_eq_some_getLast hne]
  exact hall _ (List.getLast_mem hne)

/-- The profile read for a serial number. -/
theorem mem_assignedRows {x : Text} :
    x ∈ assignedRows t N ↔ ∃ p a, t.assignment (cstr N) = some p ∧ t.profile p = some a ∧
      cstr a.data = x := by
  unfold assignedRows Table.select Server.assignment Table.select
  cases (t.chStations.rows.filter (·.cols.csSerN = cstr N)).head? with
  | none => simp
  | some r =>
    simp only [Option.any_some, decide_eq_true_eq, List.mem_map, List.mem_filter,
      Option.map_some, Option.some.injEq]
    constructor
    · rintro ⟨q, ⟨hq, hid⟩, hx⟩
      exact ⟨_, q.cols, rfl, profile_eq_some.mpr (hid ▸ hq), hx⟩
    · rintro ⟨p, a, rfl, ha, hx⟩
      exact ⟨_, ⟨profile_eq_some.mp ha, rfl⟩, hx⟩

theorem getCSProfileFromDBBySern_literal (hE : E.Quiet) (hne : N ≠ []) (hquote : '\'' ∉ cstr N) :
    (getCSProfileFromDBBySern E N t.start).1 =
      (((assignedRows t N).length : Int), lastOf (assignedRows t N)) := by
  unfold getCSProfileFromDBBySern
  rw [createConnection_bind, if_pos (hE _), Action.bind_apply,
    (getCSProfile_cases hne t.start.tick
      (getCSProfileResult_literal hquote (s := t) rfl rfl)).2 (hE _)]
  rfl

theorem getCSProfileFromDBByProfName_literal (hE : E.Quiet) (hquote : '\'' ∉ cstr profName) :
    (getCSProfileFromDBByProfName E profName t.start).1 =
      ((((t.csProf.select (·.cols.profName = cstr profName)).map
        fun r => cstr r.cols.data).length : Int),
        lastOf ((t.csProf.select (·.cols.profName = cstr profName)).map
          fun r => cstr r.cols.data)) := by
  unfold getCSProfileFromDBByProfName
  rw [createConnection_bind, if_pos (hE _), Action.bind_apply, TableAt.read_literal _ _
    (getCSProfileByProfNameSql_quoteFree.mpr hquote) (hE _)]
  rfl

theorem mem_assignedRows_of_stored (hread : ReadsBack N profName j)
    (hstored : Stored t N profName j n) (x : Text) : x ∈ assignedRows t N ↔ x = j := by
  obtain ⟨hassigned, a, ha, hdata, -⟩ := hstored
  rw [mem_assignedRows, cstr_of_no_nul hread.sernNul]
  constructor
  · rintro ⟨p, b, hp, hb, rfl⟩
    obtain rfl := Option.some.inj (hassigned.symm.trans hp)
    obtain rfl := Option.some.inj (ha.symm.trans hb)
    exact hdata
  · rintro rfl
    exact ⟨n, a, hassigned, ha, hdata⟩

/-- The texts of the profiles of a name that no other profile has. -/
theorem mem_namedRows_of_stored (hread : ReadsBack N profName j)
    (hstored : Stored t N profName j n)
    (hunique : ∀ r ∈ t.csProf.rows, r.rowid ≠ n → r.cols.profName ≠ profName) (x : Text) :
    x ∈ (t.csProf.select (·.cols.profName = cstr profName)).map (fun r => cstr r.cols.data) ↔
      x = j := by
  obtain ⟨-, a, ha, hdata, hname⟩ := hstored
  simp only [Table.select, List.mem_map, List.mem_filter, decide_eq_true_eq,
    cstr_of_no_nul hread.nameNul]
  constructor
  · rintro ⟨r, ⟨hr, hrname⟩, rfl⟩
    have hid : r.rowid = n := by
      by_contra hother
      exact hunique r hr hother hrname
    have hsame := t.csProf.eq_of_rowid hr (profile_eq_some.mp ha) hid
    rw [hsame]
    exact hdata
  · rintro rfl
    exact ⟨⟨n, a⟩, ⟨profile_eq_some.mp ha, hname⟩, hdata⟩

/-- Rows that all hold one text, and are there. -/
theorem read_of_mem_iff {rows : List Text} (hrows : ∀ x, x ∈ rows ↔ x = j) :
    (rows.length : Int) ≠ 0 ∧ lastOf rows = j := by
  have hne : rows ≠ [] := List.ne_nil_of_mem ((hrows j).mpr rfl)
  have hlength := List.length_pos_iff.mpr hne
  exact ⟨by omega, lastOf_of_all hne fun x hx => (hrows x).mp hx⟩

/-- What is stored is read back. -/
theorem shown_of_stored (hE : E.Quiet) (hread : ReadsBack N profName j)
    (hstored : Stored t N profName j n) : Shown E t N profName j n := by
  have hN : cstr N = N := cstr_of_no_nul hread.sernNul
  have hP : cstr profName = profName := cstr_of_no_nul hread.nameNul
  have hprintf : setResponsePrintf j = .text j :=
    (setResponsePrintf_text_iff (cstr_of_no_nul hread.nul)).mpr hread.percent
  obtain ⟨hcount, hlast⟩ := read_of_mem_iff (mem_assignedRows_of_stored hread hstored)
  have hfound : (getCSProfileFromDBBySern E N t.start).1 =
      (((assignedRows t N).length : Int), j) := by
    rw [getCSProfileFromDBBySern_literal hE hread.sern (hN.symm ▸ hread.sernQuote : '\'' ∉ cstr N),
      hlast]
  refine ⟨?_, ?_, fun hunique => ?_⟩
  · show setResponsePrintf (if (getCSProfileFromDBBySern E N t.start).1.1 ≠ 0 then
      (getCSProfileFromDBBySern E N t.start).1.2 else "*") = _
    rw [hfound, if_pos hcount, hprintf]
  · show Reply.text (if (getCSProfileFromDBBySern E N t.start).1.1 ≠ 0 then
      "OCPP" ++ decimal 103 ++ decimal 203 ++ "|" ++
        (getCSProfileFromDBBySern E N t.start).1.2 else "*") = _
    rw [hfound, if_pos hcount]
  · obtain ⟨hcount', hlast'⟩ := read_of_mem_iff (mem_namedRows_of_stored hread hstored hunique)
    show (if (getCSProfileFromDBByProfName E profName t.start).1.1 ≠ 0 then
      setResponsePrintf (getCSProfileFromDBByProfName E profName t.start).1.2
      else .undefined) = _
    rw [getCSProfileFromDBByProfName_literal hE
      (hP.symm ▸ hread.nameQuote : '\'' ∉ cstr profName), hlast', if_pos hcount', hprintf]

/-- A phone that is sent a profile: a row was read. -/
theorem read_of_mobile (h : (getProfileMob E N t.start).1 =
      .text ("OCPP" ++ decimal 103 ++ decimal 203 ++ "|" ++ j)) :
    (getCSProfileFromDBBySern E N t.start).1.1 ≠ 0 ∧
      (getCSProfileFromDBBySern E N t.start).1.2 = j := by
  have hreply : Reply.text (if (getCSProfileFromDBBySern E N t.start).1.1 ≠ 0 then
      "OCPP" ++ decimal 103 ++ decimal 203 ++ "|" ++
        (getCSProfileFromDBBySern E N t.start).1.2 else "*") =
      .text ("OCPP" ++ decimal 103 ++ decimal 203 ++ "|" ++ j) := h
  have hfound : (getCSProfileFromDBBySern E N t.start).1.1 ≠ 0 := by
    intro hzero
    rw [if_neg (not_not.mpr hzero)] at hreply
    have hhead : some '*' = some 'O' := congrArg List.head? (Reply.text.inj hreply)
    cases hhead
  rw [if_pos hfound] at hreply
  exact ⟨hfound, List.append_cancel_left (Reply.text.inj hreply)⟩

/-- When altered queries are refused, that row is the profile of the
station. -/
theorem found_of_mobile (h : (getProfileMob .calm N t.start).1 =
      .text ("OCPP" ++ decimal 103 ++ decimal 203 ++ "|" ++ j)) :
    N ≠ [] ∧ '\'' ∉ cstr N ∧ ∃ p a, t.assignment (cstr N) = some p ∧ t.profile p = some a ∧
      cstr a.data = j := by
  obtain ⟨hfound, hdata⟩ := read_of_mobile h
  have hne : N ≠ [] := by
    rintro rfl
    exact hfound rfl
  have hquote : '\'' ∉ cstr N := by
    intro hquote
    apply hfound
    have haltered : ¬(getCSProfileSql N).QuoteFree := fun hq =>
      getCSProfileSql_quoteFree.mp hq hquote
    unfold getCSProfileFromDBBySern getCSProfile
    rw [if_neg hne, createConnection_bind,
      if_pos (show Env.calm.raises t.start.asked = none from rfl)]
    simp only [if_neg haltered]
    rfl
  rw [getCSProfileFromDBBySern_literal (fun _ => rfl) hne hquote] at hfound hdata
  refine ⟨hne, hquote, ?_⟩
  have hrows : assignedRows t N ≠ [] := by
    intro hnil
    rw [hnil] at hfound
    exact hfound rfl
  have hmem : lastOf (assignedRows t N) ∈ assignedRows t N := by
    unfold lastOf
    rw [List.getLast?_eq_some_getLast hrows]
    exact List.getLast_mem hrows
  obtain ⟨p, a, hp, ha, hx⟩ := mem_assignedRows.mp hmem
  exact ⟨p, a, hp, ha, hx.trans hdata⟩

/-- A browser that is sent a profile by its name has been sent one of that
name. -/
theorem found_of_name {u : Text}
    (h : (getCsProfileByName .calm profName t.start).1 = .text u) :
    '\'' ∉ cstr profName ∧ ∃ r ∈ t.csProf.rows, r.cols.profName = cstr profName ∧
      (t.csProf.rows.filter (·.cols.profName = cstr profName)).getLast? = some r ∧
      setResponsePrintf (cstr r.cols.data) = .text u := by
  have hreply : (if (getCSProfileFromDBByProfName .calm profName t.start).1.1 ≠ 0 then
      setResponsePrintf (getCSProfileFromDBByProfName .calm profName t.start).1.2
      else .undefined) = Reply.text u := h
  have hfound : (getCSProfileFromDBByProfName .calm profName t.start).1.1 ≠ 0 := by
    intro hzero
    rw [if_neg (not_not.mpr hzero)] at hreply
    cases hreply
  rw [if_pos hfound] at hreply
  have hquote : '\'' ∉ cstr profName := by
    intro hquote
    apply hfound
    have haltered : ¬(getCSProfileByProfNameSql profName).QuoteFree := fun hq =>
      getCSProfileByProfNameSql_quoteFree.mp hq hquote
    unfold getCSProfileFromDBByProfName TableAt.read
    rw [createConnection_bind, if_pos (show Env.calm.raises t.start.asked = none from rfl)]
    simp only [if_neg haltered]
    rfl
  rw [getCSProfileFromDBByProfName_literal (fun _ => rfl) hquote] at hfound hreply
  refine ⟨hquote, ?_⟩
  unfold Table.select at hfound hreply
  cases hlast : (t.csProf.rows.filter (·.cols.profName = cstr profName)).getLast? with
  | none =>
    rw [List.getLast?_eq_none_iff.mp hlast] at hfound
    exact absurd rfl hfound
  | some r =>
    obtain ⟨hr, hname⟩ := List.mem_filter.mp (List.mem_of_mem_getLast? hlast)
    refine ⟨r, hr, of_decide_eq_true hname, rfl, ?_⟩
    unfold lastOf at hreply
    rw [List.getLast?_map, hlast] at hreply
    exact hreply

end Reading

/-! ## What has to be stored -/

section Storing

variable {s : Server} {N profName j : Text} {n : Int}

/-- The table without the other profiles. -/
def Server.onlyProfile (s : Server) (n : Int) : Server :=
  { s with csProf := (s.csProf.delete (·.rowid ≠ n)).1 }

theorem mem_onlyProfile {r : Row CSProfile} :
    r ∈ (s.onlyProfile n).csProf.rows ↔ r ∈ s.csProf.rows ∧ r.rowid = n := by
  show r ∈ s.csProf.rows.filter (fun r => !decide (r.rowid ≠ n)) ↔ _
  simp

theorem onlyProfile_untouched : Untouched n N s (s.onlyProfile n) := by
  refine ⟨?_, rfl⟩
  apply Option.ext
  intro a
  show (s.onlyProfile n).profile n = some a ↔ s.profile n = some a
  rw [profile_eq_some, profile_eq_some, mem_onlyProfile]
  exact and_iff_left rfl

/-- A serial number with a NUL is read for another station, which can be taken
away. -/
theorem serial_unfit
    (h : ∀ t, Untouched n N s t → ∀ E : Env, E.Quiet → Shown E t N profName j n) :
    '\x00' ∉ N := by
  intro hnul
  have hother : N ≠ cstr N := fun heq => cstr_eq_iff.mp heq.symm hnul
  have hrow (r : Row ChStation) : r ∈ (s.chStations.delete (·.cols.csSerN = cstr N)).1.rows ↔
      r ∈ s.chStations.rows ∧ r.cols.csSerN ≠ cstr N := by
    show r ∈ s.chStations.rows.filter (fun r => !decide (r.cols.csSerN = cstr N)) ↔ _
    simp
  have huntouched : Untouched n N s
      { s with chStations := (s.chStations.delete (·.cols.csSerN = cstr N)).1 } := by
    refine ⟨rfl, ?_⟩
    apply Option.ext
    intro p
    rw [assignment_eq_some, assignment_eq_some]
    constructor
    · rintro ⟨r, hr, hser, hp⟩
      exact ⟨r, ((hrow r).mp hr).1, hser, hp⟩
    · rintro ⟨r, hr, hser, hp⟩
      exact ⟨r, (hrow r).mpr ⟨hr, hser ▸ hother⟩, hser, hp⟩
  obtain ⟨-, -, p, a, hassigned, -, -⟩ :=
    found_of_mobile (h _ huntouched .calm fun _ => rfl).mobile
  obtain ⟨r, hr, hser, -⟩ := assignment_eq_some.mp hassigned
  exact ((hrow r).mp hr).2 hser

/-- A text that is not sent for `j`. -/
def otherText (j : Text) : Text := if j = [] then "x" else []

theorem otherText_sent (j : Text) : setResponsePrintf (cstr (otherText j)) ≠ .text j := by
  unfold otherText
  split
  · next hj =>
    subst hj
    decide
  · next hj =>
    intro h
    exact hj (Reply.text.inj h).symm

theorem cstr_otherText (j : Text) : cstr (otherText j) ≠ j := by
  unfold otherText
  split
  · next hj =>
    subst hj
    decide
  · next hj => exact fun h => hj h.symm

/-- A name with a NUL is read for another name, which can be given to a later
profile. -/
theorem name_unfit
    (h : ∀ t, Untouched n N s t → ∀ E : Env, E.Quiet → Shown E t N profName j n) :
    '\x00' ∉ profName := by
  intro hnul
  have hother : cstr profName ≠ profName := fun heq => cstr_eq_iff.mp heq hnul
  have hlast : ∀ r ∈ (s.onlyProfile n).csProf.rows, r.rowid < n + 1 := fun r hr => by
    have := (mem_onlyProfile.mp hr).2
    omega
  obtain ⟨T, hT⟩ := Table.exists_append (s.onlyProfile n).csProf (a := {
    profName := cstr profName, ts := 0, data := otherText j, clientID := 0 }) hlast
    fun _ _ => Or.inl rfl
  have huntouched : Untouched n N s { s with csProf := T } := by
    refine ⟨?_, rfl⟩
    apply Option.ext
    intro a
    rw [profile_eq_some, profile_eq_some]
    show _ ∈ T.rows ↔ _
    rw [hT, List.mem_append, mem_onlyProfile, List.mem_singleton]
    constructor
    · rintro (hold | hnew)
      · exact hold.1
      · have hid : n = n + 1 := congrArg Row.rowid hnew
        omega
    · intro hold
      exact .inl ⟨hold, rfl⟩
  have hunique : ∀ r ∈ T.rows, r.rowid ≠ n → r.cols.profName ≠ profName := by
    intro r hr hid
    rw [hT, List.mem_append, List.mem_singleton] at hr
    rcases hr with hold | rfl
    · exact absurd (mem_onlyProfile.mp hold).2 hid
    · exact hother
  obtain ⟨-, r, -, -, hlast, hsent⟩ :=
    found_of_name ((h _ huntouched .calm fun _ => rfl).byName hunique)
  have hfilter : (T.rows.filter (·.cols.profName = cstr profName)).getLast? = some ⟨n + 1, {
      profName := cstr profName, ts := 0, data := otherText j, clientID := 0 }⟩ := by
    rw [hT, List.filter_append]
    simp
  rw [hfilter] at hlast
  cases hlast
  exact otherText_sent j hsent

/-- Texts that are read back, whatever else is changed, come through as they
are and are stored. -/
theorem stored_of_shown
    (h : ∀ t, Untouched n N s t → ∀ E : Env, E.Quiet → Shown E t N profName j n) :
    ReadsBack N profName j ∧ Stored s N profName j n := by
  have honly := h (s.onlyProfile n) onlyProfile_untouched .calm fun _ => rfl
  obtain ⟨hne, hsern, p, a, hassigned, ha, hdata⟩ := found_of_mobile honly.mobile
  have ha' := mem_onlyProfile.mp (profile_eq_some.mp ha)
  obtain rfl : p = n := ha'.2
  have hnul : cstr j = j := by rw [← hdata, cstr_cstr]
  have hN : '\x00' ∉ N := serial_unfit h
  have hNeq : cstr N = N := cstr_of_no_nul hN
  have hP : '\x00' ∉ profName := name_unfit h
  have hPeq : cstr profName = profName := cstr_of_no_nul hP
  have hunique : ∀ r ∈ (s.onlyProfile p).csProf.rows, r.rowid ≠ p → r.cols.profName ≠ profName :=
    fun r hr hother => absurd (mem_onlyProfile.mp hr).2 hother
  obtain ⟨hquote, r, hr, hname, -, -⟩ := found_of_name (honly.byName hunique)
  have hr' := mem_onlyProfile.mp hr
  have hrow : r = ⟨p, a⟩ := s.csProf.eq_of_rowid hr'.1 ha'.1 hr'.2
  have hprintf : setResponsePrintf j = .text j := by
    have hweb : setResponsePrintf (if (getCSProfileFromDBBySern .calm N
        (s.onlyProfile p).start).1.1 ≠ 0 then (getCSProfileFromDBBySern .calm N
        (s.onlyProfile p).start).1.2 else "*") = .text j := honly.profile
    obtain ⟨hfound, hread⟩ := read_of_mobile honly.mobile
    rwa [if_pos hfound, hread] at hweb
  rw [hNeq] at hsern hassigned
  rw [hPeq] at hquote hname
  refine ⟨⟨hne, hsern, hN, hquote, hP, cstr_eq_iff.mp hnul,
    (setResponsePrintf_text_iff hnul).mp hprintf⟩, hassigned, a, ?_, hdata, ?_⟩
  · exact profile_eq_some.mpr ha'.1
  · rw [hrow] at hname
    exact hname

theorem shown_iff_stored :
    (∀ t, Untouched n N s t → ∀ E : Env, E.Quiet → Shown E t N profName j n) ↔
      ReadsBack N profName j ∧ Stored s N profName j n := by
  constructor
  · exact stored_of_shown
  · rintro ⟨hread, hassigned, a, ha, hrow⟩ t ⟨hprofile, hassignment⟩ E hE
    apply shown_of_stored hE hread
    exact ⟨hassignment.trans hassigned, a, hprofile.trans ha, hrow⟩

end Storing

/-! ## Saving -/

section Saving

variable {E : Env} {s : Server} {cid profileId id n : Int} {profName N j : Text}

/-- A station of the client is assigned the profile, unless the UPDATE
raises. -/
theorem assignment_updated (E : Env) (profileId : Int) {k : Session Server}
    (hread : ReadsBack N profName j)
    (hown : ∃ r ∈ k.state.chStations.rows, r.cols.csSerN = N ∧ r.cols.clientID = cid) :
    (updateCSStationsWithProfile E profileId cid N k).2.state.assignment N =
      if E.raises k.asked = none then some profileId else k.state.assignment N := by
  have hN : cstr N = N := cstr_of_no_nul hread.sernNul
  unfold updateCSStationsWithProfile
  rw [if_neg hread.sern]
  by_cases hr : E.raises k.asked = none
  · rw [if_pos hr]
    obtain ⟨r, hmem, hser, hcid⟩ := hown
    have hquote : '\'' ∉ cstr N := hN.symm ▸ hread.sernQuote
    have hfree : (updateCSStationsWithProfileSql profileId cid N).QuoteFree :=
      updateCSStationsWithProfileSql_quoteFree.mpr hquote
    obtain ⟨t, hrows, hx⟩ := CH_STATIONS.update_literal (E := E) (fun r =>
        if (N = "*" ∨ r.cols.csSerN = cstr N) ∧ r.cols.clientID = cid then
          some { r.cols with profID := profileId, updMob := some 1 }
        else none) k hfree hr fun r a ha => by
        split at ha
        · cases ha
          rfl
        · cases ha
    rw [hx]
    apply assignment_eq_some.mpr
    refine ⟨⟨r.rowid, { r.cols with profID := profileId, updMob := some 1 }⟩, ?_, hser, rfl⟩
    show _ ∈ t.rows
    rw [hrows]
    refine List.mem_map.mpr ⟨r, hmem, ?_⟩
    rw [Table.rewriteRow_some (if_pos ⟨Or.inr (hser.trans hN.symm), hcid⟩)]
  · rw [if_neg hr, CH_STATIONS.update_raised hr]
    rfl

theorem profile_rewritten {g : Row CSProfile → Option CSProfile} {t : Table noKey} {m : Int}
    (hrw : s.csProf.rewrite g = some (t, m)) {r : Row CSProfile} (hr : r ∈ s.csProf.rows)
    {a : CSProfile} (ha : g r = some a) : (CSProfTbl.set s t).profile r.rowid = some a := by
  apply profile_eq_some.mpr
  have hmem := Table.rewriteRow_mem hrw hr
  rwa [Table.rewriteRow_some ha] at hmem

theorem profile_inserted {t : Table noKey} {a : CSProfile} {m : Int}
    (h : s.csProf.insertAt id a = some (t, m)) :
    s.profile id = none ∧ (CSProfTbl.set s t).profile id = some a := by
  obtain ⟨-, hfree, hmem⟩ := Table.insertAt_spec h
  exact ⟨profile_eq_none.mpr hfree, profile_eq_some.mpr ((hmem _).mpr (Or.inr rfl))⟩

/-- The profile that a save leaves is stored exactly with its assignment. -/
theorem stored_of_row {s : Server} {ts : Int} (hread : ReadsBack N profName j)
    (hprofile : s.profile n = some (csProfRow cid profName j ts)) :
    Stored s N profName j n ↔ s.assignment N = some n := by
  have hdata : cstr (csProfRow cid profName j ts).data = j := by
    show cstr (cstr j) = j
    rw [cstr_cstr, cstr_of_no_nul hread.nul]
  constructor
  · exact And.left
  · intro hassigned
    exact ⟨hassigned, _, hprofile, hdata, cstr_of_no_nul hread.nameNul⟩

/-- The number a new profile is answered with. -/
def Server.newProfile (s : Server) (profileId : Int) : Int :=
  if 0 < s.profileBase profileId then wrap32 (s.profileBase profileId + 1)
  else s.profileBase profileId

/-- When an UPDATE of a profile that is answered with success stores it: the
texts come through, and the station has the profile even if assigning it fails.
No success is answered where no row can be updated. With `quiet` the database
works. -/
def UpdateStores (quiet : Bool) (s : Server) (profileId : Int) (N profName j : Text) : Prop :=
  (∃ r ∈ s.csProf.rows, r.rowid = profileId ∨ '\'' ∈ cstr profName ∨ '\'' ∈ cstr j) →
    ReadsBack N profName j ∧ '\'' ∉ j ∧ (quiet = true ∨ s.assignment N = some profileId)

/-- When a new profile that is answered with a number is stored: it already
was, or the number is free and is what the station is assigned. -/
def InsertStores (quiet : Bool) (s : Server) (profileId : Int) (N profName j : Text) : Prop :=
  ReadsBack N profName j ∧ (0 < s.profileBase profileId → '\'' ∉ j) ∧
    (Stored s N profName j (s.newProfile profileId) ∨
      quiet = true ∧ 0 < s.profileBase profileId ∧
        s.profile (s.newProfile profileId) = none ∧
        s.assignment N = some (s.newProfile profileId))

/-- An engine that makes an altered UPDATE give every profile one text and an
altered INSERT drop the table. -/
def Env.spoiling (j : Text) : Env :=
  { Env.calm with
    csProf := { Altered.refused _ with
      update := fun _ => some fun r => some { r.cols with data := otherText j }
      insert := fun _ _ => some (Table.empty, 0) } }

/-- Only the statement after so many questions raises. -/
def Env.failing (i : Nat) : Env :=
  { Env.calm with raises := fun n => if n = i then some 0 else none }

section Runs

variable {quiet : Bool} {accepts : Int → Prop} {k : Env → Session Server} {asked : Nat}

/-- Every save that is answered with success leaves its profile stored. -/
def SavesStored (quiet : Bool) (accepts : Int → Prop) (k : Env → Session Server)
    (cid profileId : Int) (N profName j : Text) (saved : Int → Int) : Prop :=
  ∀ E : Env, (quiet = true → E.Quiet) →
    ∀ rv, accepts rv ∧ rv = (insertOrUpdateCSProf2DB E cid profileId profName N j (k E)).1 →
      ReadsBack N profName j ∧
        Stored (insertOrUpdateCSProf2DB E cid profileId profName N j (k E)).2.state
          N profName j (saved rv)

/-- Every save begins in `s`, after so many questions when the first of them is
answered. -/
structure BeginsAt (s : Server) (asked : Nat) (k : Env → Session Server) : Prop where
  state : ∀ E, (k E).state = s.start.state
  asked : ∀ E, E.raises 0 = none → (k E).asked = asked

/-- The engine gets a save as far as the UPDATE of the stations, or the INSERT
of the profile. -/
structure Env.Reaches (E : Env) (asked : Nat) : Prop where
  first : E.raises 0 = none
  opened : E.raises asked = none
  statement : E.raises (asked + 2) = none

theorem Env.calm_reaches : Env.calm.Reaches asked := ⟨rfl, rfl, rfl⟩

theorem Env.spoiling_reaches : (Env.spoiling j).Reaches asked := ⟨rfl, rfl, rfl⟩

theorem Env.failing_reaches : (Env.failing (asked + 3)).Reaches asked := by
  have hanswered (i : Nat) (hi : i ≠ asked + 3) : (Env.failing (asked + 3)).raises i = none :=
    if_neg hi
  exact ⟨hanswered _ (by omega), hanswered _ (by omega), hanswered _ (by omega)⟩

theorem Env.failing_raises : (Env.failing (asked + 3)).raises (asked + 3) ≠ none := by
  simp [Env.failing]

theorem BeginsAt.eq (hk : BeginsAt s asked k) (hE : E.Reaches asked) :
    k E = ⟨s.start.state, asked⟩ := by
  rw [← hk.state E, ← hk.asked E hE.first]

/-- An UPDATE that changes a profile finds its row, or is altered. -/
theorem row_of_updated {ts : Int} {g : Row CSProfile → Option CSProfile} {t : Table noKey}
    (hg : CSProfTbl.rewriting E (updateCSProfSql cid profileId profName j ts)
      (fun r => if r.rowid = profileId then some (csProfRow cid profName j ts) else none) =
        some g)
    (hrw : s.csProf.rewrite g = some (t, n)) (hne : n ≠ 0) :
    ∃ r ∈ s.csProf.rows, r.rowid = profileId ∨ '\'' ∈ cstr profName ∨ '\'' ∈ cstr j := by
  have hcount : 0 < n := by
    have hrows := Table.rewrite_count hrw
    omega
  obtain ⟨r, hr, hsome⟩ := Table.exists_of_rewrite_pos hrw hcount
  refine ⟨r, hr, ?_⟩
  by_cases hquote : '\'' ∉ cstr profName ∧ '\'' ∉ cstr j
  · rw [TableAt.rewriting_quoteFree _ (updateCSProfSql_quoteFree.mpr hquote)] at hg
    cases hg
    left
    by_contra hother
    dsimp only at hsome
    rw [if_neg hother] at hsome
    cases hsome
  · rw [← not_or, not_not] at hquote
    exact Or.inr hquote

theorem updated_stored (hpos : 0 < profileId) (hzero : ∀ rv, accepts rv → rv ≠ 0)
    (hk : BeginsAt s asked k)
    (hown : ∃ r ∈ s.chStations.rows, r.cols.csSerN = N ∧ r.cols.clientID = cid)
    (h : UpdateStores quiet s profileId N profName j) :
    SavesStored quiet accepts k cid profileId N profName j fun _ => profileId := by
  rintro E hE rv ⟨haccepts, rfl⟩
  cases insertOrUpdateCSProf2DB_run E cid profileId profName N j (k E) with
  | failed hrv hstate => exact absurd hrv (hzero _ haccepts)
  | unplaced hneg => exact absurd hpos hneg
  | inserted ts hneg => exact absurd hpos hneg
  | updated ts g t _ hg hrw hstate =>
    rw [hk.state E] at hrw
    obtain ⟨r, hr, hselected⟩ := row_of_updated hg hrw (hzero _ haccepts)
    obtain ⟨hread, hdata, hassigned⟩ := h ⟨r, hr, hselected⟩
    have hquote : '\'' ∉ cstr profName ∧ '\'' ∉ cstr j :=
      ⟨fun hc => hread.nameQuote (mem_of_mem_cstr hc), fun hc => hdata (mem_of_mem_cstr hc)⟩
    obtain rfl : r.rowid = profileId :=
      hselected.resolve_right fun hc => hc.elim hquote.1 hquote.2
    rw [TableAt.rewriting_quoteFree _ (updateCSProfSql_quoteFree.mpr hquote)] at hg
    cases hg
    refine ⟨hread, ?_⟩
    have hkept : Writes [.chStations] (updateCSStationsWithProfile E r.rowid cid N) :=
      updateCSStationsWithProfile_writes (by simp)
    have hrow : (insertOrUpdateCSProf2DB E cid r.rowid profName N j (k E)).2.state.profile
        r.rowid = some (csProfRow cid profName j ts) := by
      rw [hstate]
      unfold Server.profile
      rw [(hkept _).csProf (by simp)]
      exact profile_rewritten (s := (k E).state) ((hk.state E).symm ▸ hrw) ((hk.state E).symm ▸ hr)
        (if_pos rfl)
    have hstation : ∃ r' ∈ (CSProfTbl.set (k E).state t).chStations.rows,
        r'.cols.csSerN = N ∧ r'.cols.clientID = cid := by
      rw [hk.state E]
      exact hown
    rw [stored_of_row hread hrow, hstate,
      assignment_updated (k := ⟨CSProfTbl.set (k E).state t, (k E).asked + 3⟩) E _ hread hstation]
    by_cases hr : E.raises ((k E).asked + 3) = none
    · rw [if_pos hr]
    · rw [if_neg hr]
      have hassigned := hassigned.resolve_left fun hquiet => hr (hE hquiet _)
      show (k E).state.assignment N = _
      rw [hk.state E]
      exact hassigned

/-- A save whose UPDATE the engine reads as `g` leaves the profile stored. -/
theorem SavesStored.updated
    (h : SavesStored quiet accepts k cid profileId N profName j fun _ => profileId)
    (hpos : 0 < profileId) (haccepts : ∀ rv, 0 < rv → accepts rv) (hk : BeginsAt s asked k)
    (hE : quiet = true → E.Quiet) (hreaches : E.Reaches asked)
    {g : Row CSProfile → Option CSProfile}
    (hg : CSProfTbl.rewriting E (updateCSProfSql cid profileId profName j (E.clock (asked + 1)))
      (fun r => if r.rowid = profileId then
        some (csProfRow cid profName j (E.clock (asked + 1))) else none) = some g)
    (hsome : ∃ r ∈ s.csProf.rows, (g r).isSome) :
    ReadsBack N profName j ∧ ∃ t m, s.csProf.rewrite g = some (t, m) ∧
      Stored (updateCSStationsWithProfile E profileId cid N
        ⟨CSProfTbl.set s.start.state t, asked + 3⟩).2.state N profName j profileId := by
  obtain ⟨t, hrw, -⟩ := s.csProf.rewrite_of_keeps_key g fun _ _ _ => rfl
  have hrun := saving_updates (k := ⟨s.start.state, asked⟩) N cid hpos hreaches.opened
    hreaches.statement hg hrw
  obtain ⟨hread, hstored⟩ := h E hE _
    ⟨haccepts _ (Table.rewrite_pos_of_exists hrw hsome), by rw [hk.eq hreaches, hrun]⟩
  rw [hk.eq hreaches, hrun] at hstored
  exact ⟨hread, t, _, hrw, hstored⟩

/-- The engine that spoils an altered UPDATE tells a name or a text with a
quote. -/
theorem SavesStored.no_quote
    (h : SavesStored quiet accepts k cid profileId N profName j fun _ => profileId)
    (hpos : 0 < profileId) (haccepts : ∀ rv, 0 < rv → accepts rv) (hk : BeginsAt s asked k)
    (hsome : ∃ r, r ∈ s.csProf.rows) : '\'' ∉ cstr profName ∧ '\'' ∉ cstr j := by
  by_contra hquote
  have haltered : CSProfTbl.rewriting (.spoiling j) (updateCSProfSql cid profileId profName j 0)
      (fun r => if r.rowid = profileId then some (csProfRow cid profName j 0) else none) =
        some fun r => some { r.cols with data := otherText j } := by
    unfold TableAt.rewriting
    rw [if_neg fun hfree => hquote (updateCSProfSql_quoteFree.mp hfree)]
    rfl
  obtain ⟨r, hr⟩ := hsome
  obtain ⟨-, t, m, hrw, -, a, ha, hdata, -⟩ := h.updated (E := .spoiling j) hpos haccepts hk
    (fun _ _ => rfl) Env.spoiling_reaches haltered ⟨r, hr, rfl⟩
  have hkept : Writes [.chStations] (updateCSStationsWithProfile (.spoiling j) profileId cid N) :=
    updateCSStationsWithProfile_writes (by simp)
  have hmem : ⟨profileId, a⟩ ∈ t.rows := by
    have hrow := profile_eq_some.mp ha
    rwa [(hkept _).csProf (by simp)] at hrow
  obtain ⟨q, -, hq⟩ := Table.of_mem_rewrite hrw hmem
  have hspoilt : otherText j = a.data := congrArg (fun r => r.cols.data) hq
  rw [← hspoilt] at hdata
  exact cstr_otherText j hdata

/-- An UPDATE of the stations that raises tells whether they were assigned the
profile. -/
theorem updateStores_of_saved (hpos : 0 < profileId) (haccepts : ∀ rv, 0 < rv → accepts rv)
    (hk : BeginsAt s asked k)
    (hown : ∃ r ∈ s.chStations.rows, r.cols.csSerN = N ∧ r.cols.clientID = cid)
    (h : SavesStored quiet accepts k cid profileId N profName j fun _ => profileId) :
    UpdateStores quiet s profileId N profName j := by
  rintro ⟨r, hr, hselected⟩
  have hquote := h.no_quote hpos haccepts hk ⟨r, hr⟩
  obtain rfl : r.rowid = profileId :=
    hselected.resolve_right fun hc => hc.elim hquote.1 hquote.2
  have hsaved {E : Env} (hE : quiet = true → E.Quiet) (hreaches : E.Reaches asked) :=
    h.updated hpos haccepts hk hE hreaches
      (TableAt.rewriting_quoteFree _ (updateCSProfSql_quoteFree.mpr hquote))
      ⟨r, hr, by simp only [if_true, Option.isSome_some]⟩
  obtain ⟨hread, -⟩ := hsaved (E := .calm) (fun _ _ => rfl) Env.calm_reaches
  refine ⟨hread, fun hc => hquote.2 (by rwa [cstr_of_no_nul hread.nul]), ?_⟩
  cases quiet with
  | true => exact Or.inl rfl
  | false =>
    obtain ⟨-, t, m, -, hassigned, -⟩ := hsaved (E := .failing (asked + 3)) (by simp)
      Env.failing_reaches
    rw [assignment_updated (k := ⟨CSProfTbl.set s.start.state t, asked + 3⟩) _ _ hread hown,
      if_neg Env.failing_raises] at hassigned
    exact Or.inr hassigned

theorem newProfile_of_pos (hbase : 0 < s.profileBase profileId) :
    s.newProfile profileId = wrap32 (s.profileBase profileId + 1) := if_pos hbase

/-- The INSERT of a profile that was stored before, or whose ID is free and
assigned to the station. -/
theorem stored_of_insert {ts : Int} {k : Session Server} (hread : ReadsBack N profName j)
    (hdata : '\'' ∉ j) (hstored : Stored k.state N profName j id ∨
      E.Quiet ∧ k.state.profile id = none ∧ k.state.assignment N = some id) :
    Stored (CSProfTbl.insert E (insertCSProfSql id cid profName j ts)
      (·.insertAt id (csProfRow cid profName j ts)) k).2.state N profName j id := by
  have hfree : (insertCSProfSql id cid profName j ts).QuoteFree :=
    insertCSProfSql_quoteFree.mpr ⟨fun hc => hread.nameQuote (mem_of_mem_cstr hc),
      fun hc => hdata (mem_of_mem_cstr hc)⟩
  rcases CSProfTbl.insert_cases E (insertCSProfSql id cid profName j ts)
    (·.insertAt id (csProfRow cid profName j ts)) k with hx | ⟨t, m, hins, -, hx⟩
  · rcases hstored with hstored | ⟨hquiet, hnone, -⟩
    · rw [hx]
      exact hstored
    · obtain ⟨t, hins⟩ := Table.insertAt_of_no_key (t := k.state.csProf)
        (a := csProfRow cid profName j ts) (fun _ => rfl) (profile_eq_none.mp hnone)
      have hdone := CSProfTbl.insert_literal (E := E)
        (·.insertAt id (csProfRow cid profName j ts)) k hfree (hquiet _) hins
      rw [hx] at hdone
      cases congrArg Prod.fst hdone
  · rw [hx]
    rw [if_pos hfree] at hins
    obtain ⟨hnone, hrow⟩ := profile_inserted (s := k.state) hins
    rw [stored_of_row hread hrow]
    rcases hstored with ⟨-, a, ha, -⟩ | ⟨-, -, hassigned⟩
    · rw [ha] at hnone
      cases hnone
    · exact hassigned

/-- A new profile that is stored once its INSERT ran, or without it. -/
theorem inserted_stored (hpos : ¬0 < profileId) (hzero : ∀ rv, accepts rv → rv ≠ 0)
    (hk : BeginsAt s asked k)
    (h : accepts (s.newProfile profileId) → InsertStores quiet s profileId N profName j) :
    SavesStored quiet accepts k cid profileId N profName j (fun rv => rv) := by
  rintro E hE rv ⟨haccepts, rfl⟩
  have hbaseEq : (k E).state.profileBase profileId = s.profileBase profileId := by
    rw [hk.state E]
    rfl
  cases insertOrUpdateCSProf2DB_run E cid profileId profName N j (k E) with
  | failed hrv hstate => exact absurd hrv (hzero _ haccepts)
  | updated ts g t hpos' => exact absurd hpos' hpos
  | unplaced _ hbase hrv hstate =>
    rw [hbaseEq] at hbase hrv
    have hnew : s.newProfile profileId = s.profileBase profileId := if_neg hbase
    rw [hrv, ← hnew] at haccepts
    obtain ⟨hread, -, hstored⟩ := h haccepts
    refine ⟨hread, ?_⟩
    rw [hrv, hstate, hk.state E]
    rw [hnew] at hstored
    exact hstored.resolve_right fun hnone => hbase hnone.2.1
  | inserted ts _ hbase hrv hstate =>
    rw [hbaseEq] at hbase hrv
    rw [← newProfile_of_pos hbase] at hrv
    rw [hrv] at haccepts hstate ⊢
    obtain ⟨hread, hdata, hstored⟩ := h haccepts
    refine ⟨hread, ?_⟩
    rw [hstate]
    apply stored_of_insert hread (hdata hbase)
    dsimp only
    rw [hk.state E]
    exact hstored.imp_right fun ⟨hquiet, _, hnone, hassigned⟩ => ⟨hE hquiet, hnone, hassigned⟩

/-- A save whose INSERT the engine comes to leaves the profile stored. -/
theorem SavesStored.inserted
    (h : SavesStored quiet accepts k cid profileId N profName j fun rv => rv)
    (hpos : ¬0 < profileId) (hbase : 0 < s.profileBase profileId)
    (haccepts : accepts (s.newProfile profileId)) (hk : BeginsAt s asked k)
    (hE : quiet = true → E.Quiet) (hreaches : E.Reaches asked) :
    ReadsBack N profName j ∧ Stored (CSProfTbl.insert E (insertCSProfSql
      (s.newProfile profileId) cid profName j (E.clock (asked + 1)))
      (·.insertAt (s.newProfile profileId) (csProfRow cid profName j (E.clock (asked + 1))))
      ⟨s.start.state, asked + 3⟩).2.state N profName j (s.newProfile profileId) := by
  have hrun := saving_inserts (k := ⟨s.start.state, asked⟩) profName N j cid hpos
    hreaches.opened (getCSProfileID_of_calm _ hreaches.statement) hbase
  rw [show s.start.state.profileBase profileId = s.profileBase profileId from rfl,
    ← newProfile_of_pos hbase] at hrun
  have hstored := h E hE _ ⟨haccepts, by rw [hk.eq hreaches, hrun]⟩
  rwa [hk.eq hreaches, hrun] at hstored

/-- The engine that drops the table tells a text with a quote. -/
theorem SavesStored.no_quote_inserted
    (h : SavesStored quiet accepts k cid profileId N profName j fun rv => rv)
    (hpos : ¬0 < profileId) (hbase : 0 < s.profileBase profileId)
    (haccepts : accepts (s.newProfile profileId)) (hk : BeginsAt s asked k) : '\'' ∉ j := by
  intro hc
  obtain ⟨hread, -, a, ha, -⟩ := h.inserted (E := .spoiling j) hpos hbase haccepts hk
    (fun _ _ => rfl) Env.spoiling_reaches
  have haltered : ¬(insertCSProfSql (s.newProfile profileId) cid profName j 0).QuoteFree :=
    fun hfree => (insertCSProfSql_quoteFree.mp hfree).2 (by rwa [cstr_of_no_nul hread.nul])
  have hmem := profile_eq_some.mp ha
  unfold TableAt.insert at hmem
  rw [show (Env.spoiling j).clock (asked + 1) = 0 from rfl] at hmem
  simp only [if_neg haltered] at hmem
  cases hmem

/-- An INSERT that raises tells whether the profile was there. -/
theorem stored_of_inserted
    (h : SavesStored quiet accepts k cid profileId N profName j fun rv => rv)
    (hpos : ¬0 < profileId) (hbase : 0 < s.profileBase profileId)
    (haccepts : accepts (s.newProfile profileId)) (hk : BeginsAt s asked k)
    (hread : ReadsBack N profName j) (hdata : '\'' ∉ j) :
    Stored s N profName j (s.newProfile profileId) ∨
      quiet = true ∧ s.profile (s.newProfile profileId) = none ∧
        s.assignment N = some (s.newProfile profileId) := by
  have hfree (ts : Int) : (insertCSProfSql (s.newProfile profileId) cid profName j ts).QuoteFree :=
    insertCSProfSql_quoteFree.mpr ⟨fun hc => hread.nameQuote (mem_of_mem_cstr hc),
      fun hc => hdata (mem_of_mem_cstr hc)⟩
  obtain ⟨-, hcalm⟩ := h.inserted (E := .calm) hpos hbase haccepts hk (fun _ _ => rfl)
    Env.calm_reaches
  rcases CSProfTbl.insert_cases .calm (insertCSProfSql (s.newProfile profileId) cid profName j
    (Env.calm.clock (asked + 1))) (·.insertAt (s.newProfile profileId)
      (csProfRow cid profName j (Env.calm.clock (asked + 1)))) ⟨s.start.state, asked + 3⟩ with
    hx | ⟨t, m, hins, -, hx⟩
  · rw [hx] at hcalm
    exact Or.inl hcalm
  · rw [hx] at hcalm
    rw [if_pos (hfree _)] at hins
    cases quiet with
    | true =>
      exact Or.inr ⟨rfl, (profile_inserted (s := s.start.state) hins).1, hcalm.1⟩
    | false =>
      obtain ⟨-, hstored⟩ := h.inserted (E := .failing (asked + 3)) hpos hbase haccepts hk
        (by simp) Env.failing_reaches
      left
      unfold TableAt.insert at hstored
      rwa [exec_raised _ Env.failing_raises] at hstored

theorem insertStores_of_saved (hpos : ¬0 < profileId) (hk : BeginsAt s asked k)
    (h : SavesStored quiet accepts k cid profileId N profName j fun rv => rv)
    (haccepts : accepts (s.newProfile profileId)) :
    InsertStores quiet s profileId N profName j := by
  by_cases hbase : 0 < s.profileBase profileId
  · obtain ⟨hread, -⟩ := h.inserted (E := .calm) hpos hbase haccepts hk (fun _ _ => rfl)
      Env.calm_reaches
    have hdata := h.no_quote_inserted hpos hbase haccepts hk
    refine ⟨hread, fun _ => hdata, ?_⟩
    apply (stored_of_inserted h hpos hbase haccepts hk hread hdata).imp_right
    exact fun ⟨hquiet, hnone, hassigned⟩ => ⟨hquiet, hbase, hnone, hassigned⟩
  · have hrun := saving_unplaced (E := .calm) (k := ⟨s.start.state, asked⟩) profName N j cid hpos
      rfl (getCSProfileID_of_calm _ rfl) hbase
    have hnew : s.newProfile profileId = s.start.state.profileBase profileId := if_neg hbase
    rw [← hnew] at hrun
    have hstored := h .calm (fun _ _ => rfl) _
      ⟨haccepts, by rw [hk.eq Env.calm_reaches, hrun]⟩
    rw [hk.eq Env.calm_reaches, hrun] at hstored
    exact ⟨hstored.1, fun hpos => absurd hpos hbase, Or.inl hstored.2⟩

end Runs

end Saving

/-! ## Requests -/

/-- What a save that succeeds writes its profile under: its ID, or the one it
is answered with. -/
def ProfileSave.saved (save : ProfileSave) (rv : Int) : Int :=
  if 0 < save.profileId then save.profileId else rv

/-- Every save that is answered with success is read back until its profile or
the assignment of the station is changed. Readers find a database that works;
with `quiet` the save does too. -/
def SavedReadBack (L : Lib) (quiet : Bool) (s : Server) (cid : Int) (req : SaveRequest)
    (save : ProfileSave) (j : Text) : Prop :=
  ∀ E : Env, (quiet = true → E.Quiet) → ∀ rv, req.Answers L E cid s rv →
    ∀ t, Untouched (save.saved rv) save.sern (req.after L E cid s) t →
      ∀ E' : Env, E'.Quiet → Shown E' t save.sern save.profName j (save.saved rv)

/-- The saves that are read back. -/
def SaveStores (quiet : Bool) (s : Server) (req : SaveRequest) (save : ProfileSave)
    (j : Text) : Prop :=
  if 0 < save.profileId then UpdateStores quiet s save.profileId save.sern save.profName j
  else req.Accepts (s.newProfile save.profileId) →
    InsertStores quiet s save.profileId save.sern save.profName j

theorem SaveRequest.accepts_of_pos {req : SaveRequest} {rv : Int} (h : 0 < rv) :
    req.Accepts rv := by
  cases req with
  | web rid user payload => exact (by omega : rv ≠ 0)
  | mobile serN par2 => exact h

theorem SaveRequest.ne_zero_of_accepts {req : SaveRequest} {rv : Int} (h : req.Accepts rv) :
    rv ≠ 0 := by
  cases req with
  | web rid user payload => exact h
  | mobile serN par2 => exact (by have hpos : 0 < rv := h; omega)

/-- A text saved for a station of the client is read back, by its serial number
and by its name, after every save that is answered with success, exactly when
the texts come back as they were and the save stores and assigns the profile. -/
theorem profile_readBack_iff (L : Lib) (quiet : Bool) {s : Server} {cid : Int}
    {req : SaveRequest} {save : ProfileSave} {j : Text} (hsave : req.save = some save)
    (hown : ∃ r ∈ s.chStations.rows, r.cols.csSerN = save.sern ∧ r.cols.clientID = cid)
    (hj : PercentEncoded j req.payload) :
    SavedReadBack L quiet s cid req save j ↔ SaveStores quiet s req save j := by
  choose k hstate hasked hanswers hafter using fun E => req.apply L E cid s hsave
  rw [hj.decodeUrl] at hanswers hafter
  have hk : BeginsAt s req.asked k := ⟨hstate, hasked⟩
  have hstored : SavedReadBack L quiet s cid req save j ↔
      SavesStored quiet req.Accepts k cid save.profileId save.sern save.profName j
        save.saved := by
    refine forall_congr' fun E => forall_congr' fun _ => forall_congr' fun rv => ?_
    rw [hanswers E rv, ← hafter E]
    exact imp_congr_right fun _ => shown_iff_stored
  rw [hstored]
  have hsaved : save.saved = if 0 < save.profileId then fun _ => save.profileId
      else fun rv => rv := by
    funext rv
    unfold ProfileSave.saved
    split <;> rfl
  rw [hsaved]
  unfold SaveStores
  by_cases hpos : 0 < save.profileId
  · rw [if_pos hpos, if_pos hpos]
    exact ⟨updateStores_of_saved hpos (fun _ => req.accepts_of_pos) hk hown,
      updated_stored hpos (fun _ => req.ne_zero_of_accepts) hk hown⟩
  · rw [if_neg hpos, if_neg hpos]
    exact ⟨insertStores_of_saved hpos hk,
      inserted_stored hpos (fun _ => req.ne_zero_of_accepts) hk⟩

/-- A station of client 1, and a profile. -/
def profiledStation : Server :=
  { connectedStation with csProf := ⟨[⟨3, ⟨"Day", 0, "0", 1⟩⟩], by decide, by decide⟩ }

/-- A text saved under the ID of a profile is read back. -/
theorem profile_readBack_iff_updated :
    SavedReadBack .refusing true profiledStation 1 (.web 3 "GRS-1|Night" "%31")
      ⟨3, "Night", "GRS-1"⟩ "1" := by
  have hsave : (SaveRequest.web 3 "GRS-1|Night" "%31").save = some ⟨3, "Night", "GRS-1"⟩ := by
    decide
  have hthree : hexDigit '3' = some 3 := by decide
  have hone : hexDigit '1' = some 1 := by decide
  refine (profile_readBack_iff .refusing true hsave ⟨⟨1, .plain "GRS-1" "[::1]:5000" 1⟩,
    List.mem_singleton_self _, rfl, rfl⟩ (.escape hthree hone .nil)).mpr ?_
  exact fun _ => ⟨by constructor <;> decide, by decide, Or.inl rfl⟩

/-- A new profile is answered with its ID and assigned to no station. -/
theorem new_profile_unassigned :
    (SaveRequest.web (-1) "GRS-1|Night" "1").save = some ⟨-1, "Night", "GRS-1"⟩ ∧
      PercentEncoded "1" "1" ∧
      ¬SavedReadBack .refusing true connectedStation 1 (.web (-1) "GRS-1|Night" "1")
        ⟨-1, "Night", "GRS-1"⟩ "1" := by
  refine ⟨by decide, .plain (by decide) .nil, fun h => ?_⟩
  have hanswer : (doCsProfile .calm 1 (-1) "GRS-1|Night" "1" connectedStation.start).1 =
      .text ("OK:" ++ decimal 2) := by decide +kernel
  have hshown := (h .calm (fun _ _ => rfl) 2 hanswer _ ⟨rfl, rfl⟩ .calm fun _ => rfl).mobile
  revert hshown
  decide +kernel

end UCLinux.Ocpp
