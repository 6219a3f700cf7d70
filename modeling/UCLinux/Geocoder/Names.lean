import Mathlib.Algebra.Order.Ring.Int
import UCLinux.Ocpp.Text
import UCLinux.Sql.AutoTable
import UCLinux.Sql.Lookup

/-!
The names of an entity: its own and that of the place it is in. One query asks for
both rows, and what arrives is told apart by its position. Ids that are wider than an
`int` are cut down on the way in.
-/

namespace UCLinux.Geocoder

open Ocpp Sql

section Program

/-- The table `names`. -/
abbrev NamesTable := Table (unkeyed (α := Text))

/-- `name`, `*isinStr` and `ind` while rows arrive. -/
structure NameRows where
  name : Text
  isinStr : Text
  ind : Nat
  deriving DecidableEq, Repr

def NameRows.receive (nameInd : Nat) (s : NameRows) (strName : Text) : NameRows :=
  if s.ind = nameInd then { s with name := strName, ind := s.ind + 1 }
  else { s with isinStr := strName, ind := s.ind + 1 }

/-- The name returned, and what `*isinStr` holds then. `none` is an exception: a query
for a single value has to find a row. -/
def NamesTable.readGeometryInfo (db : NamesTable) (nameid isinid : Int) (isinStr : Text) :
    Option (Text × Text) :=
  if nameid = 0 then some ([], isinStr)
  else if isinid = 0 then
    ((db.select fun r => r.rowid = nameid).map Row.cols).head?.map fun name => (name, isinStr)
  else
    let nameInd := if isinid < nameid then 1 else 0
    let rows := (db.selectIn nameid isinid).map Row.cols
    let s := rows.foldl (NameRows.receive nameInd) ⟨[], isinStr, 0⟩
    some (s.name, s.isinStr)

/-- The call as an entity or an address list makes it: without an `isinid` the default
is taken. -/
def NamesTable.nameAndIsIn (db : NamesTable) (nameid isinid : Int) (isinStr : Text) :
    Option (Text × Text) :=
  if isinid ≠ 0 then db.readGeometryInfo (wrap32 nameid) (wrap32 isinid) isinStr
  else db.readGeometryInfo (wrap32 nameid) 0 isinStr

end Program

section Purpose

/-- The name stored for the id, empty if there is none. -/
def NamesTable.nameFor (db : NamesTable) (id : Int) : Text := (db.colsAt id).getD []

/-- The call gives the name of `nameid` and leaves that of `isinid`. -/
def NamesTable.Delivers (db : NamesTable) (nameid isinid : Int) : Prop :=
  ∀ isinStr, db.nameAndIsIn nameid isinid isinStr =
    some (db.nameFor nameid, (db.colsAt isinid).getD isinStr)

/-- How the two ids may be told apart, `a` and `b` being what an `int` keeps of them. -/
inductive NamesTable.ToldApart (db : NamesTable) (nameid isinid a b : Int) : Prop where
  /-- Neither name is asked for. -/
  | unasked (ha : a = 0) (hname : db.nameFor nameid = []) (hisin : db.colsAt isinid = none)
  /-- Only the one name is asked for, and it is there. -/
  | single (ha : a ≠ 0) (hb : b = 0) (hstored : db.colsAt a ≠ none)
      (hname : db.nameFor a = db.nameFor nameid) (hisin : db.colsAt isinid = none)
  | same (ha : a ≠ 0) (hb : b = a) (hname : db.nameFor a = db.nameFor nameid)
      (hisin : db.colsAt isinid = none)
  /-- The first of the two is there, or the second is not there either. -/
  | apart (ha : a ≠ 0) (hb : b ≠ 0) (hne : a ≠ b)
      (hlt : a < b → db.colsAt a = none → db.colsAt b = none)
      (hgt : b < a → db.colsAt b = none → db.colsAt a = none)
      (hname : db.nameFor a = db.nameFor nameid) (hisin : db.colsAt b = db.colsAt isinid)
  /-- The other name is taken for this one, and is the same. -/
  | nameTaken (ha : a ≠ 0) (hb : b ≠ 0) (hlt : a < b) (hfirst : db.colsAt a = none)
      (hsecond : db.colsAt b ≠ none) (hname : db.nameFor b = db.nameFor nameid)
      (hisin : db.colsAt isinid = none)
  /-- This name is taken for the other one, and is the same. -/
  | isinTaken (ha : a ≠ 0) (hb : b ≠ 0) (hlt : b < a) (hfirst : db.colsAt b = none)
      (hsecond : db.colsAt a ≠ none) (hname : db.nameFor nameid = [])
      (hisin : db.colsAt a = db.colsAt isinid)

end Purpose

section Reading

variable {db : NamesTable} {a b : Int} {isinStr : Text}

theorem forall_getD_iff {x y : Option Text} : (∀ s, x.getD s = y.getD s) ↔ x = y := by
  constructor
  · intro h
    cases x with
    | none =>
      cases y with
      | none => rfl
      | some u => exact absurd (h ('x' :: u)) (List.cons_ne_self 'x' u)
    | some t =>
      cases y with
      | none => exact absurd (h ('x' :: t)).symm (List.cons_ne_self 'x' t)
      | some u => exact congrArg some (h [])
  · rintro rfl s
    rfl

/-- The default is the call with a null id. -/
theorem nameAndIsIn_eq (db : NamesTable) (nameid isinid : Int) (isinStr : Text) :
    db.nameAndIsIn nameid isinid isinStr =
      db.readGeometryInfo (wrap32 nameid) (wrap32 isinid) isinStr := by
  unfold NamesTable.nameAndIsIn
  by_cases h : isinid = 0
  · rw [if_neg (not_not.mpr h), h]
    rfl
  · rw [if_pos h]

theorem read_unasked (db : NamesTable) (b : Int) (isinStr : Text) :
    db.readGeometryInfo 0 b isinStr = some ([], isinStr) := if_pos rfl

theorem read_single (ha : a ≠ 0) :
    db.readGeometryInfo a 0 isinStr = (db.colsAt a).map fun name => (name, isinStr) := by
  unfold NamesTable.readGeometryInfo
  rw [if_neg ha, if_pos rfl, Table.select_rowid_cols]
  cases db.colsAt a <;> rfl

theorem read_same (ha : a ≠ 0) :
    db.readGeometryInfo a a isinStr = some (db.nameFor a, isinStr) := by
  unfold NamesTable.readGeometryInfo NamesTable.nameFor
  rw [if_neg ha, if_neg ha, if_neg (Int.lt_irrefl a), Table.selectIn_self]
  cases db.colsAt a <;> rfl

/-- The id of the name comes first: without its row the other name is in its place. -/
theorem read_name_first (ha : a ≠ 0) (hb : b ≠ 0) (hlt : a < b) :
    db.readGeometryInfo a b isinStr =
      some (if db.colsAt a = none then (db.nameFor b, isinStr)
        else (db.nameFor a, (db.colsAt b).getD isinStr)) := by
  unfold NamesTable.readGeometryInfo NamesTable.nameFor
  rw [if_neg ha, if_neg hb, if_neg (by omega), Table.selectIn_cols db hlt]
  cases db.colsAt a <;> cases db.colsAt b <;> rfl

/-- The id of the name comes second: without the other row the name is in its place. -/
theorem read_name_second (ha : a ≠ 0) (hb : b ≠ 0) (hlt : b < a) :
    db.readGeometryInfo a b isinStr =
      some (if db.colsAt b = none then ([], (db.colsAt a).getD isinStr)
        else (db.nameFor a, (db.colsAt b).getD isinStr)) := by
  unfold NamesTable.readGeometryInfo NamesTable.nameFor
  rw [if_neg ha, if_neg hb, if_pos hlt, Table.selectIn_comm, Table.selectIn_cols db hlt]
  cases db.colsAt a <;> cases db.colsAt b <;> rfl

end Reading

section Telling

variable {db : NamesTable} {a b nameid isinid : Int}

/-- The name read is that of `nameid`, and what is left is that of `isinid`. -/
def NamesTable.Reads (db : NamesTable) (a b nameid isinid : Int) : Prop :=
  ∀ isinStr, db.readGeometryInfo a b isinStr =
    some (db.nameFor nameid, (db.colsAt isinid).getD isinStr)

theorem forall_answer_iff {name name' : Text} {x y : Option Text} :
    (∀ s, some (name, x.getD s) = some (name', y.getD s)) ↔ name = name' ∧ x = y := by
  rw [← forall_getD_iff]
  constructor
  · intro h
    exact ⟨(Prod.mk.inj (Option.some.inj (h []))).1,
      fun s => (Prod.mk.inj (Option.some.inj (h s))).2⟩
  · rintro ⟨rfl, h⟩ s
    rw [h s]

theorem forall_cases_iff {c : Prop} [Decidable c] {name name' name'' : Text}
    {x y z : Option Text} :
    (∀ s, some (if c then (name, x.getD s) else (name', y.getD s)) = some (name'', z.getD s)) ↔
      if c then name = name'' ∧ x = z else name' = name'' ∧ y = z := by
  by_cases h : c
  · simp only [if_pos h]
    exact forall_answer_iff
  · simp only [if_neg h]
    exact forall_answer_iff

theorem reads_unasked : db.Reads 0 b nameid isinid ↔
    [] = db.nameFor nameid ∧ none = db.colsAt isinid := by
  rw [← forall_answer_iff]
  unfold NamesTable.Reads
  simp only [read_unasked]
  rfl

theorem reads_single (ha : a ≠ 0) : db.Reads a 0 nameid isinid ↔
    db.colsAt a ≠ none ∧ db.nameFor a = db.nameFor nameid ∧ none = db.colsAt isinid := by
  rw [← forall_answer_iff]
  unfold NamesTable.Reads
  simp only [read_single ha]
  unfold NamesTable.nameFor
  cases db.colsAt a with
  | none => exact iff_of_false (fun h => nomatch h []) fun h => h.1 rfl
  | some name => exact (and_iff_right (Option.some_ne_none name)).symm

theorem reads_same (ha : a ≠ 0) : db.Reads a a nameid isinid ↔
    db.nameFor a = db.nameFor nameid ∧ none = db.colsAt isinid := by
  rw [← forall_answer_iff]
  unfold NamesTable.Reads
  simp only [read_same ha]
  rfl

theorem reads_name_first (ha : a ≠ 0) (hb : b ≠ 0) (hlt : a < b) :
    db.Reads a b nameid isinid ↔
      if db.colsAt a = none then db.nameFor b = db.nameFor nameid ∧ none = db.colsAt isinid
      else db.nameFor a = db.nameFor nameid ∧ db.colsAt b = db.colsAt isinid := by
  unfold NamesTable.Reads
  simp only [read_name_first ha hb hlt]
  exact forall_cases_iff (x := none)

theorem reads_name_second (ha : a ≠ 0) (hb : b ≠ 0) (hlt : b < a) :
    db.Reads a b nameid isinid ↔
      if db.colsAt b = none then [] = db.nameFor nameid ∧ db.colsAt a = db.colsAt isinid
      else db.nameFor a = db.nameFor nameid ∧ db.colsAt b = db.colsAt isinid := by
  unfold NamesTable.Reads
  simp only [read_name_second ha hb hlt]
  exact forall_cases_iff

theorem nameFor_of_none (h : db.colsAt a = none) : db.nameFor a = [] := by
  unfold NamesTable.nameFor
  rw [h]
  rfl

theorem toldApart_of_reads (h : db.Reads a b nameid isinid) : db.ToldApart nameid isinid a b := by
  by_cases ha : a = 0
  · subst ha
    obtain ⟨hname, hisin⟩ := reads_unasked.mp h
    exact .unasked rfl hname.symm hisin.symm
  by_cases hb : b = 0
  · subst hb
    obtain ⟨hstored, hname, hisin⟩ := (reads_single ha).mp h
    exact .single ha rfl hstored hname hisin.symm
  rcases lt_trichotomy a b with hlt | rfl | hgt
  · rw [reads_name_first ha hb hlt] at h
    by_cases hfirst : db.colsAt a = none
    · rw [if_pos hfirst] at h
      by_cases hsecond : db.colsAt b = none
      · refine .apart ha hb hlt.ne (fun _ _ => hsecond) (fun hgt => absurd hgt hlt.not_gt) ?_
          (hsecond.trans h.2)
        rw [← h.1, nameFor_of_none hfirst, nameFor_of_none hsecond]
      · exact .nameTaken ha hb hlt hfirst hsecond h.1 h.2.symm
    · rw [if_neg hfirst] at h
      exact .apart ha hb hlt.ne (fun _ hnone => absurd hnone hfirst)
        (fun hgt => absurd hgt hlt.not_gt) h.1 h.2
  · obtain ⟨hname, hisin⟩ := (reads_same ha).mp h
    exact .same ha rfl hname hisin.symm
  · rw [reads_name_second ha hb hgt] at h
    by_cases hfirst : db.colsAt b = none
    · rw [if_pos hfirst] at h
      by_cases hsecond : db.colsAt a = none
      · refine .apart ha hb hgt.ne' (fun hlt => absurd hlt hgt.not_gt) (fun _ _ => hsecond) ?_
          (hfirst.trans (hsecond.symm.trans h.2))
        rw [← h.1, nameFor_of_none hsecond]
      · exact .isinTaken ha hb hgt hfirst hsecond h.1.symm h.2
    · rw [if_neg hfirst] at h
      exact .apart ha hb hgt.ne' (fun hlt => absurd hlt hgt.not_gt)
        (fun _ hnone => absurd hnone hfirst) h.1 h.2

theorem reads_of_toldApart (h : db.ToldApart nameid isinid a b) : db.Reads a b nameid isinid := by
  cases h with
  | unasked ha hname hisin =>
    subst ha
    exact reads_unasked.mpr ⟨hname.symm, hisin.symm⟩
  | single ha hb hstored hname hisin =>
    subst hb
    exact (reads_single ha).mpr ⟨hstored, hname, hisin.symm⟩
  | same ha hb hname hisin =>
    subst hb
    exact (reads_same ha).mpr ⟨hname, hisin.symm⟩
  | apart ha hb hne hlt hgt hname hisin =>
    rcases lt_or_gt_of_ne hne with hless | hmore
    · rw [reads_name_first ha hb hless]
      by_cases hfirst : db.colsAt a = none
      · have hsecond := hlt hless hfirst
        rw [if_pos hfirst, nameFor_of_none hsecond, ← hname, nameFor_of_none hfirst, ← hisin,
          hsecond]
        exact ⟨rfl, rfl⟩
      · rw [if_neg hfirst]
        exact ⟨hname, hisin⟩
    · rw [reads_name_second ha hb hmore]
      by_cases hfirst : db.colsAt b = none
      · have hsecond := hgt hmore hfirst
        rw [if_pos hfirst, hsecond, ← hname, nameFor_of_none hsecond, ← hisin, hfirst]
        exact ⟨rfl, rfl⟩
      · rw [if_neg hfirst]
        exact ⟨hname, hisin⟩
  | nameTaken ha hb hlt hfirst _ hname hisin =>
    rw [reads_name_first ha hb hlt, if_pos hfirst]
    exact ⟨hname, hisin.symm⟩
  | isinTaken ha hb hlt hfirst _ hname hisin =>
    rw [reads_name_second ha hb hlt, if_pos hfirst]
    exact ⟨hname.symm, hisin⟩

/-- The names are delivered just when the ids may be told apart. -/
theorem delivers_iff (db : NamesTable) (nameid isinid : Int) :
    db.Delivers nameid isinid ↔
      db.ToldApart nameid isinid (wrap32 nameid) (wrap32 isinid) := by
  have hreads : db.Delivers nameid isinid ↔
      db.Reads (wrap32 nameid) (wrap32 isinid) nameid isinid := by
    unfold NamesTable.Delivers NamesTable.Reads
    simp only [nameAndIsIn_eq]
  rw [hreads]
  exact ⟨toldApart_of_reads, reads_of_toldApart⟩

/-- For ids that are `int`s: of two different ids the smaller one has to be stored, or
the larger one has not. -/
theorem delivers_iff_of_int (db : NamesTable) {nameid isinid : Int}
    (hn : -(2 ^ 31) ≤ nameid ∧ nameid < 2 ^ 31) (hi : -(2 ^ 31) ≤ isinid ∧ isinid < 2 ^ 31) :
    db.Delivers nameid isinid ↔
      if nameid = 0 then db.nameFor 0 = [] ∧ db.colsAt isinid = none
      else if isinid = 0 then db.colsAt nameid ≠ none ∧ db.colsAt 0 = none
      else if nameid = isinid then db.colsAt nameid = none
      else (nameid < isinid → db.colsAt nameid = none → db.colsAt isinid = none) ∧
        (isinid < nameid → db.colsAt isinid = none → db.colsAt nameid = none) := by
  rw [delivers_iff, wrap32_of_range hn, wrap32_of_range hi]
  constructor
  · intro h
    cases h with
    | unasked ha hname hisin =>
      rw [if_pos ha, ← ha]
      exact ⟨hname, hisin⟩
    | single ha hb hstored _ hisin =>
      rw [if_neg ha, if_pos hb, ← hb]
      exact ⟨hstored, hisin⟩
    | same ha hb _ hisin =>
      rw [if_neg ha, if_neg (hb ▸ ha), if_pos hb.symm, ← hb]
      exact hisin
    | apart ha hb hne hlt hgt _ _ =>
      rw [if_neg ha, if_neg hb, if_neg hne]
      exact ⟨hlt, hgt⟩
    | nameTaken _ _ _ _ hsecond _ hisin => exact absurd hisin hsecond
    | isinTaken _ _ _ hfirst hsecond _ hisin => exact absurd (hisin.trans hfirst) hsecond
  · intro h
    by_cases ha : nameid = 0
    · rw [if_pos ha, ← ha] at h
      exact .unasked ha h.1 h.2
    rw [if_neg ha] at h
    by_cases hb : isinid = 0
    · rw [if_pos hb, ← hb] at h
      exact .single ha hb h.1 rfl h.2
    rw [if_neg hb] at h
    by_cases hne : nameid = isinid
    · rw [if_pos hne] at h
      exact .same ha hne.symm rfl (hne ▸ h)
    · rw [if_neg hne] at h
      exact .apart ha hb hne h.1 h.2 rfl rfl

/-- A town whose main street has its name: one row stands for both. -/
def york : NamesTable :=
  ⟨[⟨7, "York"⟩], List.pairwise_singleton _ _, List.pairwise_singleton _ _⟩

/-- The town is lost where it has the name of the street, and where the town is not
stored the street is taken for it. -/
theorem town_mistaken :
    york.nameAndIsIn 7 7 [] = some ("York".toList, []) ∧ ¬york.Delivers 7 7 ∧
      york.nameAndIsIn 7 5 [] = some ([], "York".toList) ∧ ¬york.Delivers 7 5 :=
  ⟨by decide, fun h => absurd (h []) (by decide), by decide, fun h => absurd (h []) (by decide)⟩

end Telling

end UCLinux.Geocoder
