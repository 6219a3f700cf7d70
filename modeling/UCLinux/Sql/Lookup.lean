import UCLinux.Sql.Table

/-!
Rows looked up by their rowids. One rowid has at most one row; two are answered
together in the order of the rowids, and a rowid without a row leaves no gap.
-/

namespace UCLinux.Sql.Table

variable {α κ : Type} {key : α → Option κ} (t : Table key)

/-- The columns stored under a rowid. -/
def colsAt (id : Int) : Option α := (t.rows.find? fun r => r.rowid = id).map Row.cols

/-- `rowid IN (a, b)` -/
def selectIn (a b : Int) : List (Row α) := t.select fun r => r.rowid = a ∨ r.rowid = b

theorem find?_eq_none_of_lt {rows : List (Row α)} {id : Int} (h : ∀ r ∈ rows, id < r.rowid) :
    rows.find? (fun r => r.rowid = id) = none := by
  rw [List.find?_eq_none]
  intro r hr hid
  have hlt := h r hr
  have heq := of_decide_eq_true hid
  omega

theorem filter_rowid {rows : List (Row α)} (hsorted : rows.Pairwise fun r s => r.rowid < s.rowid)
    (id : Int) :
    rows.filter (fun r => r.rowid = id) = (rows.find? fun r => r.rowid = id).toList := by
  induction rows with
  | nil => rfl
  | cons r rows ih =>
    obtain ⟨hfirst, hrest⟩ := List.pairwise_cons.mp hsorted
    by_cases hid : r.rowid = id
    · have hnone : rows.filter (fun r => r.rowid = id) = [] := by
        rw [ih hrest, find?_eq_none_of_lt fun s hs => hid ▸ hfirst s hs]
        rfl
      rw [List.filter_cons_of_pos (by exact decide_eq_true hid), hnone,
        List.find?_cons_of_pos (by exact decide_eq_true hid)]
      rfl
    · rw [List.filter_cons_of_neg (by simpa using hid), ih hrest,
        List.find?_cons_of_neg (by simpa using hid)]

theorem filter_rowids {rows : List (Row α)} (hsorted : rows.Pairwise fun r s => r.rowid < s.rowid)
    {a b : Int} (hab : a < b) :
    rows.filter (fun r => r.rowid = a ∨ r.rowid = b) =
      (rows.find? fun r => r.rowid = a).toList ++ (rows.find? fun r => r.rowid = b).toList := by
  induction rows with
  | nil => rfl
  | cons r rows ih =>
    obtain ⟨hfirst, hrest⟩ := List.pairwise_cons.mp hsorted
    by_cases ha : r.rowid = a
    · have hnone := find?_eq_none_of_lt fun s hs => ha ▸ hfirst s hs
      rw [List.filter_cons_of_pos (by simpa using Or.inl ha), ih hrest, hnone,
        List.find?_cons_of_pos (by simpa using ha),
        List.find?_cons_of_neg (by simpa using fun hb : r.rowid = b => by omega)]
      rfl
    · rw [List.find?_cons_of_neg (by simpa using ha)]
      by_cases hb : r.rowid = b
      · have hnone := find?_eq_none_of_lt fun s hs => hb ▸ hfirst s hs
        have hnone' : rows.find? (fun r => r.rowid = a) = none :=
          find?_eq_none_of_lt fun s hs => Int.lt_trans hab (hb ▸ hfirst s hs)
        rw [List.filter_cons_of_pos (by simpa using Or.inr hb), ih hrest, hnone, hnone',
          List.find?_cons_of_pos (by simpa using hb)]
        rfl
      · rw [List.filter_cons_of_neg (by simpa using ⟨ha, hb⟩), ih hrest,
          List.find?_cons_of_neg (by simpa using hb)]

theorem select_rowid_cols (id : Int) :
    (t.select fun r => r.rowid = id).map Row.cols = (t.colsAt id).toList := by
  unfold select colsAt
  rw [filter_rowid t.rowids, Option.toList_map]

theorem selectIn_cols {a b : Int} (hab : a < b) :
    (t.selectIn a b).map Row.cols = (t.colsAt a).toList ++ (t.colsAt b).toList := by
  unfold selectIn select colsAt
  rw [filter_rowids t.rowids hab, List.map_append, Option.toList_map, Option.toList_map]

theorem selectIn_comm (a b : Int) : t.selectIn a b = t.selectIn b a := by
  unfold selectIn
  congr 1
  funext r
  rw [decide_eq_decide]
  exact or_comm

theorem selectIn_self (a : Int) : (t.selectIn a a).map Row.cols = (t.colsAt a).toList := by
  rw [← select_rowid_cols]
  unfold selectIn
  simp only [or_self]

end UCLinux.Sql.Table
