import Mathlib.Algebra.Group.Int.Defs
import Mathlib.Algebra.Group.Nat.Defs
import Mathlib.Data.List.Pairwise
import Mathlib.Data.Option.Basic

/-!
Rowid tables. A table is a list of rows in ascending rowid order, and an
optional key column whose present values are pairwise distinct (an absent
value is SQL NULL, and any number of rows may have none). Both facts are
fields, so an operation that would break the key is refused instead of
building a table. A table without a key column uses `fun _ => none`.

Rowids of new rows follow the documented rule for tables without
AUTOINCREMENT: one more than the largest rowid in use, and 1 in an empty
table. The random choice made when the largest 64-bit rowid is in use is not
modelled.
-/

namespace UCLinux.Sql

/-- One stored row: its rowid and its columns. -/
@[ext]
structure Row (α : Type) where
  rowid : Int
  cols : α
  deriving DecidableEq, Repr

/-- Two column records may stand in the same table: at most one of them
carries a given key value. -/
def KeysDiffer {α κ : Type} (key : α → Option κ) (a b : α) : Prop :=
  key a = none ∨ key a ≠ key b

instance {α κ : Type} [DecidableEq κ] (key : α → Option κ) (a b : α) :
    Decidable (KeysDiffer key a b) :=
  inferInstanceAs (Decidable (_ ∨ _))

theorem KeysDiffer.symm {α κ : Type} {key : α → Option κ} {a b : α}
    (h : KeysDiffer key a b) : KeysDiffer key b a := by
  by_cases hb : key b = none
  · exact Or.inl hb
  · refine Or.inr fun heq => ?_
    rcases h with hnone | hne
    · exact hb (heq.trans hnone)
    · exact hne heq.symm

@[ext]
structure Table {α κ : Type} (key : α → Option κ) where
  rows : List (Row α)
  rowids : rows.Pairwise (fun a b => a.rowid < b.rowid)
  keys : rows.Pairwise (fun a b => KeysDiffer key a.cols b.cols)

namespace Table

variable {α κ : Type} {key : α → Option κ}

/-- The table with no rows. -/
def empty : Table key := ⟨[], List.Pairwise.nil, List.Pairwise.nil⟩

/-- The largest rowid in use, 0 in an empty table. -/
def lastRowid (t : Table key) : Int :=
  (t.rows.getLast?.map Row.rowid).getD 0

/-- The rowid the next insert without an explicit rowid receives. -/
def nextRowid (t : Table key) : Int := t.lastRowid + 1

/-- The rows a condition selects, in rowid order. -/
def select (t : Table key) (p : Row α → Bool) : List (Row α) := t.rows.filter p

/-- A stricter condition selects from what a weaker one selects. -/
theorem select_select (t : Table key) {p q : Row α → Bool} (h : ∀ r, q r → p r) :
    t.select q = (t.select p).filter q := by
  unfold select
  rw [List.filter_filter]
  apply List.filter_congr
  intro r _
  cases hq : q r with
  | false => rfl
  | true => simp [h r hq]

theorem rowid_le_last (t : Table key) {r : Row α} (h : r ∈ t.rows) :
    r.rowid ≤ t.lastRowid := by
  obtain ⟨init, last, hrows⟩ := (List.eq_nil_or_concat t.rows).resolve_left
    (List.ne_nil_of_mem h)
  have hlast : t.lastRowid = last.rowid := by simp [lastRowid, hrows]
  have hsorted := t.rowids
  rw [hrows, List.concat_eq_append, List.pairwise_append] at hsorted
  rw [hrows, List.concat_eq_append, List.mem_append] at h
  rw [hlast]
  rcases h with old | new
  · exact Int.le_of_lt (hsorted.2.2 r old last (by simp))
  · exact Int.le_of_eq (congrArg Row.rowid (List.mem_singleton.mp new))

theorem rowid_lt_next (t : Table key) {r : Row α} (h : r ∈ t.rows) :
    r.rowid < t.nextRowid :=
  Int.lt_add_one_of_le (t.rowid_le_last h)

theorem lastRowid_eq (t : Table key) :
    t.lastRowid = (t.rows.map Row.rowid).getLast?.getD 0 := by
  rw [List.getLast?_map]
  rfl

/-- Two rows of a table with one rowid are the same row. -/
theorem eq_of_rowid (t : Table key) {r s : Row α} (hr : r ∈ t.rows)
    (hs : s ∈ t.rows) (h : r.rowid = s.rowid) : r = s := by
  have hdistinct : t.rows.Pairwise (fun a b => a.rowid ≠ b.rowid) :=
    t.rowids.imp (fun hlt => Int.ne_of_lt hlt)
  have : Std.Symm (fun a b : Row α => a.rowid ≠ b.rowid) := ⟨fun _ _ hab => hab.symm⟩
  by_contra hrs
  exact hdistinct.forall hr hs hrs h

/-- Two rows with one key value are the same row. -/
theorem eq_of_key (t : Table key) {r s : Row α} {k : κ} (hr : r ∈ t.rows)
    (hs : s ∈ t.rows) (hrk : key r.cols = some k) (hsk : key s.cols = some k) :
    r = s := by
  have : Std.Symm (fun a b : Row α => KeysDiffer key a.cols b.cols) :=
    ⟨fun _ _ hab => hab.symm⟩
  by_contra hrs
  rcases t.keys.forall hr hs hrs with hnone | hne
  · rw [hnone] at hrk
    cases hrk
  · exact hne (hrk.trans hsk.symm)

/-- A condition that one row only meets selects that row. -/
theorem select_eq_singleton (t : Table key) {p : Row α → Bool} {r : Row α} (hr : r ∈ t.rows)
    (hp : p r) (honly : ∀ q ∈ t.rows, p q → q = r) : t.select p = [r] := by
  have hdistinct : (t.select p).Pairwise (fun a b => a.rowid < b.rowid) := t.rowids.filter p
  have hall : ∀ q ∈ t.select p, q = r := fun q hq =>
    honly q (List.mem_filter.mp hq).1 (List.mem_filter.mp hq).2
  have hmem : r ∈ t.select p := List.mem_filter.mpr ⟨hr, hp⟩
  cases hrows : t.select p with
  | nil =>
    rw [hrows] at hmem
    cases hmem
  | cons a rest =>
    rw [hrows] at hdistinct hall
    obtain rfl := hall a List.mem_cons_self
    cases rest with
    | nil => rfl
    | cons b rest =>
      have hlt := List.rel_of_pairwise_cons hdistinct List.mem_cons_self
      rw [hall b (List.mem_cons_of_mem _ List.mem_cons_self)] at hlt
      omega

theorem select_rowid (t : Table key) {r : Row α} (hr : r ∈ t.rows) :
    t.select (·.rowid = r.rowid) = [r] :=
  t.select_eq_singleton hr (decide_eq_true rfl) fun _ hq hid =>
    t.eq_of_rowid hq hr (of_decide_eq_true hid)

/-- One row under an UPDATE: `g` gives the new columns of a selected row and
`none` for a row that is left alone. -/
def rewriteRow (g : Row α → Option α) (r : Row α) : Row α :=
  match g r with
  | some a => ⟨r.rowid, a⟩
  | none => r

@[simp] theorem rewriteRow_rowid (g : Row α → Option α) (r : Row α) :
    (rewriteRow g r).rowid = r.rowid := by
  unfold rewriteRow
  cases g r <;> rfl

theorem rewriteRow_none {g : Row α → Option α} {r : Row α} (h : g r = none) :
    rewriteRow g r = r := by
  simp [rewriteRow, h]

theorem rewriteRow_some {g : Row α → Option α} {r : Row α} {a : α}
    (h : g r = some a) : rewriteRow g r = ⟨r.rowid, a⟩ := by
  simp [rewriteRow, h]

theorem map_rewriteRow_none {g : Row α → Option α} {rows : List (Row α)}
    (h : ∀ r ∈ rows, g r = none) : rows.map (rewriteRow g) = rows := by
  have hsame : rows.map (rewriteRow g) = rows.map id :=
    List.map_congr_left fun r hr => rewriteRow_none (h r hr)
  rw [hsame, List.map_id]

/-- The rows of `t` that are not in `t'` as they were have `P`. -/
def ChangesOnly (P : Row α → Prop) (t t' : Table key) : Prop :=
  ∀ r ∈ t.rows, r ∉ t'.rows → P r

theorem ChangesOnly.refl {P : Row α → Prop} (t : Table key) : ChangesOnly P t t :=
  fun _ hr hgone => absurd hr hgone

theorem ChangesOnly.of_all {P : Row α → Prop} {t t' : Table key} (h : ∀ r ∈ t.rows, P r) :
    ChangesOnly P t t' :=
  fun r hr _ => h r hr

section Keyed

variable [DecidableEq κ]

/-- UPDATE: the new table and the number of rows selected, or `none` when the
key column would lose its uniqueness. -/
def rewrite (t : Table key) (g : Row α → Option α) : Option (Table key × Int) :=
  if h : (t.rows.map (rewriteRow g)).Pairwise
      (fun a b => KeysDiffer key a.cols b.cols) then
    some (⟨t.rows.map (rewriteRow g),
      List.pairwise_map.mpr (t.rowids.imp (by simp)), h⟩,
      (t.rows.countP (fun r => (g r).isSome) : Nat))
  else none

/-- INSERT without an explicit rowid: the new table and the rowid given, or
`none` when the key is taken. -/
def insert (t : Table key) (a : α) : Option (Table key × Int) :=
  if h : ∀ r ∈ t.rows, KeysDiffer key r.cols a then
    some (⟨t.rows ++ [⟨t.nextRowid, a⟩],
      List.pairwise_append.mpr ⟨t.rowids, List.pairwise_singleton _ _,
        by simpa using fun r hr => t.rowid_lt_next hr⟩,
      List.pairwise_append.mpr ⟨t.keys, List.pairwise_singleton _ _,
        by simpa using h⟩⟩, t.nextRowid)
  else none

/-- INSERT with an explicit rowid: `none` when the rowid or the key is
taken. -/
def insertAt (t : Table key) (id : Int) (a : α) : Option (Table key × Int) :=
  if h : (∀ r ∈ t.rows, KeysDiffer key r.cols a) ∧ ∀ r ∈ t.rows, r.rowid ≠ id then
    some (⟨t.rows.filter (·.rowid < id) ++ ⟨id, a⟩ :: t.rows.filter (id < ·.rowid),
      List.pairwise_append.mpr ⟨t.rowids.filter _,
        List.pairwise_cons.mpr ⟨by simp, t.rowids.filter _⟩,
        by
          simp only [List.mem_filter, List.mem_cons, decide_eq_true_eq]
          rintro r ⟨-, hr⟩ s (rfl | ⟨-, hs⟩)
          · exact hr
          · exact Int.lt_trans hr hs⟩,
      List.pairwise_append.mpr ⟨t.keys.filter _,
        List.pairwise_cons.mpr ⟨by
          simpa using fun r hr _ => (h.1 r hr).symm, t.keys.filter _⟩,
        by
          simp only [List.mem_filter, List.mem_cons, decide_eq_true_eq]
          rintro r ⟨hr, hlt⟩ s (rfl | ⟨hs, hgt⟩)
          · exact h.1 r hr
          · have : Std.Symm (fun a b : Row α => KeysDiffer key a.cols b.cols) :=
              ⟨fun _ _ hab => hab.symm⟩
            refine t.keys.forall hr hs ?_
            rintro rfl
            exact absurd hlt (by omega)⟩⟩, id)
  else none

/-- DELETE: the rows the condition leaves and the number it removes. -/
def delete (t : Table key) (p : Row α → Bool) : Table key × Int :=
  (⟨t.rows.filter (fun r => !p r), t.rowids.filter _, t.keys.filter _⟩,
    (t.rows.countP p : Nat))

/-- An UPDATE that keeps the key of every row it selects always succeeds. -/
theorem rewrite_of_keeps_key (t : Table key) (g : Row α → Option α)
    (hkey : ∀ r a, g r = some a → key a = key r.cols) :
    ∃ t' : Table key,
      t.rewrite g = some (t', ((t.rows.countP (fun r => (g r).isSome) : Nat) : Int)) ∧
      t'.rows = t.rows.map (rewriteRow g) := by
  have hsame (r : Row α) : key (rewriteRow g r).cols = key r.cols := by
    unfold rewriteRow
    cases hg : g r with
    | none => rfl
    | some a => exact hkey r a hg
  have hkeys : (t.rows.map (rewriteRow g)).Pairwise
      (fun a b => KeysDiffer key a.cols b.cols) :=
    List.pairwise_map.mpr (t.keys.imp (by simp [KeysDiffer, hsame]))
  exact ⟨_, by rw [rewrite, dif_pos hkeys], rfl⟩

theorem rewrite_rows {t t' : Table key} {g : Row α → Option α} {n : Int}
    (h : t.rewrite g = some (t', n)) : t'.rows = t.rows.map (rewriteRow g) := by
  unfold rewrite at h
  split at h
  · cases h
    rfl
  · cases h

/-- An UPDATE keeps what it leaves of the rows it selects. -/
theorem rewrite_map {β : Type} (f : Row α → β) {t t' : Table key} {g : Row α → Option α}
    {n : Int} (h : t.rewrite g = some (t', n))
    (hg : ∀ r a, g r = some a → f ⟨r.rowid, a⟩ = f r) : t'.rows.map f = t.rows.map f := by
  rw [rewrite_rows h, List.map_map]
  apply List.map_congr_left
  intro r _
  rw [Function.comp_apply]
  cases hr : g r with
  | none => rw [rewriteRow_none hr]
  | some a => rw [rewriteRow_some hr, hg r a hr]

/-- An UPDATE keeps every rowid. -/
theorem rewrite_rowids {t t' : Table key} {g : Row α → Option α} {n : Int}
    (h : t.rewrite g = some (t', n)) : t'.rows.map Row.rowid = t.rows.map Row.rowid :=
  rewrite_map Row.rowid h fun _ _ _ => rfl

theorem rewrite_count {t t' : Table key} {g : Row α → Option α} {n : Int}
    (h : t.rewrite g = some (t', n)) :
    n = (t.rows.countP (fun r => (g r).isSome) : Nat) := by
  unfold rewrite at h
  split at h <;> cases h
  rfl

/-- Only what becomes of the table's own rows matters. -/
theorem rewrite_congr {t : Table key} {g g' : Row α → Option α} (h : ∀ r ∈ t.rows, g r = g' r) :
    t.rewrite g = t.rewrite g' := by
  have hmap : t.rows.map (rewriteRow g) = t.rows.map (rewriteRow g') :=
    List.map_congr_left fun r hr => by simp only [rewriteRow, h r hr]
  have hcount : t.rows.countP (fun r => (g r).isSome) = t.rows.countP (fun r => (g' r).isSome) :=
    List.countP_congr fun r hr => by rw [h r hr]
  unfold rewrite
  simp only [hmap, hcount]

/-- An UPDATE that selects no row leaves the table. -/
theorem rewrite_zero {t t' : Table key} {g : Row α → Option α} (h : t.rewrite g = some (t', 0)) :
    (∀ r ∈ t.rows, g r = none) ∧ t' = t := by
  have hcount : t.rows.countP (fun r => (g r).isSome) = 0 := by
    have hzero := rewrite_count h
    omega
  have hnone : ∀ r ∈ t.rows, g r = none := fun r hr =>
    Option.not_isSome_iff_eq_none.mp (List.countP_eq_zero.mp hcount r hr)
  exact ⟨hnone, Table.ext ((rewrite_rows h).trans (map_rewriteRow_none hnone))⟩

/-- A row that was in the table is in the updated one, selected or not. -/
theorem rewriteRow_mem {t t' : Table key} {g : Row α → Option α} {n : Int}
    (h : t.rewrite g = some (t', n)) {r : Row α} (hr : r ∈ t.rows) :
    rewriteRow g r ∈ t'.rows := by
  rw [rewrite_rows h]
  exact List.mem_map.mpr ⟨r, hr, rfl⟩

/-- Every row of the updated table comes from a row of the old one. -/
theorem of_mem_rewrite {t t' : Table key} {g : Row α → Option α} {n : Int}
    (h : t.rewrite g = some (t', n)) {r' : Row α} (hr : r' ∈ t'.rows) :
    ∃ r ∈ t.rows, rewriteRow g r = r' := by
  rw [rewrite_rows h] at hr
  exact List.mem_map.mp hr

/-- An UPDATE that selects some row selected a row of the table. -/
theorem exists_of_rewrite_pos {t t' : Table key} {g : Row α → Option α} {n : Int}
    (h : t.rewrite g = some (t', n)) (hn : 0 < n) :
    ∃ r ∈ t.rows, (g r).isSome := by
  rw [rewrite_count h] at hn
  exact List.countP_pos_iff.mp (by omega)

theorem rewrite_pos_of_exists {t t' : Table key} {g : Row α → Option α} {n : Int}
    (h : t.rewrite g = some (t', n)) (hr : ∃ r ∈ t.rows, (g r).isSome) :
    0 < n := by
  rw [rewrite_count h]
  have := List.countP_pos_iff.mpr hr
  omega

/-- An UPDATE changes rows it selects, and those only if their columns become
other ones. -/
theorem changesOnly_rewrite {P : Row α → Prop} {t t' : Table key} {g : Row α → Option α}
    {n : Int} (h : t.rewrite g = some (t', n))
    (hP : ∀ r ∈ t.rows, ∀ a, g r = some a → a ≠ r.cols → P r) : ChangesOnly P t t' := by
  intro r hr hgone
  have hmem := rewriteRow_mem h hr
  cases hrow : g r with
  | none =>
    rw [rewriteRow_none hrow] at hmem
    exact absurd hmem hgone
  | some a =>
    rw [rewriteRow_some hrow] at hmem
    apply hP r hr a hrow
    rintro rfl
    exact hgone hmem

/-- A row that an UPDATE selects and gives other columns is gone. -/
theorem not_mem_of_rewrite {t t' : Table key} {g : Row α → Option α} {n : Int}
    (h : t.rewrite g = some (t', n)) {r : Row α} (hr : r ∈ t.rows) {a : α}
    (ha : g r = some a) (hne : a ≠ r.cols) : r ∉ t'.rows := by
  intro hkept
  obtain ⟨r', hr', heq⟩ := of_mem_rewrite h hkept
  have hid : r'.rowid = r.rowid := by rw [← rewriteRow_rowid g r', heq]
  have hsame : r' = r := t.eq_of_rowid hr' hr hid
  rw [hsame, rewriteRow_some ha] at heq
  exact hne (congrArg Row.cols heq)

/-- An INSERT adds one row with a new rowid and leaves the others as they
were. -/
theorem insertAt_spec {t t' : Table key} {id : Int} {a : α} {n : Int}
    (h : t.insertAt id a = some (t', n)) :
    n = id ∧ (∀ r ∈ t.rows, r.rowid ≠ id) ∧ ∀ r, r ∈ t'.rows ↔ r ∈ t.rows ∨ r = ⟨id, a⟩ := by
  unfold insertAt at h
  split at h
  · next hfree =>
    cases h
    refine ⟨rfl, hfree.2, fun r => ?_⟩
    simp only [List.mem_append, List.mem_filter, List.mem_cons, decide_eq_true_eq]
    constructor
    · rintro (⟨hr, _⟩ | rfl | ⟨hr, _⟩)
      · exact Or.inl hr
      · exact Or.inr rfl
      · exact Or.inl hr
    · rintro (hr | rfl)
      · rcases Int.lt_or_gt_of_ne (hfree.2 r hr) with hlt | hgt
        · exact Or.inl ⟨hr, hlt⟩
        · exact Or.inr (Or.inr ⟨hr, hgt⟩)
      · exact Or.inr (Or.inl rfl)
  · cases h

theorem insertAt_mem {t t' : Table key} {id : Int} {a : α} {n : Int}
    (h : t.insertAt id a = some (t', n)) {r : Row α} (hr : r ∈ t.rows) : r ∈ t'.rows :=
  ((insertAt_spec h).2.2 r).mpr (Or.inl hr)

theorem insertAt_of_no_key {t : Table key} {id : Int} {a : α} (ha : ∀ b, key b = none)
    (hid : ∀ r ∈ t.rows, r.rowid ≠ id) : ∃ t', t.insertAt id a = some (t', id) :=
  ⟨_, by rw [insertAt, dif_pos ⟨fun r _ => Or.inl (ha r.cols), hid⟩]⟩

theorem insert_spec {t t' : Table key} {a : α} {n : Int}
    (h : t.insert a = some (t', n)) :
    n = t.nextRowid ∧ t'.rows = t.rows ++ [⟨t.nextRowid, a⟩] := by
  unfold insert at h
  split at h <;> cases h
  exact ⟨rfl, rfl⟩

theorem insert_keysDiffer {t t' : Table key} {a : α} {n : Int}
    (h : t.insert a = some (t', n)) {r : Row α} (hr : r ∈ t.rows) :
    KeysDiffer key r.cols a := by
  unfold insert at h
  split at h
  · next hnew => exact hnew r hr
  · cases h

theorem insert_of_no_key {t : Table key} {a : α} (ha : ∀ b, key b = none) :
    ∃ t', t.insert a = some (t', t.nextRowid) ∧
      t'.rows = t.rows ++ [⟨t.nextRowid, a⟩] := by
  have hkeys : ∀ r ∈ t.rows, KeysDiffer key r.cols a := fun r _ => Or.inl (ha r.cols)
  exact ⟨_, by rw [insert, dif_pos hkeys], rfl⟩

end Keyed

/-- A row can stand behind the others under a larger rowid. -/
theorem exists_append (t : Table key) {id : Int} {a : α} (hid : ∀ r ∈ t.rows, r.rowid < id)
    (hkey : ∀ r ∈ t.rows, KeysDiffer key r.cols a) :
    ∃ t' : Table key, t'.rows = t.rows ++ [⟨id, a⟩] :=
  ⟨⟨t.rows ++ [⟨id, a⟩],
    List.pairwise_append.mpr ⟨t.rowids, List.pairwise_singleton _ _, by simpa using hid⟩,
    List.pairwise_append.mpr ⟨t.keys, List.pairwise_singleton _ _, by simpa using hkey⟩⟩, rfl⟩

end Table

end UCLinux.Sql
