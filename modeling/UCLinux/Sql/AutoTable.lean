import UCLinux.Sql.Statement

/-!
Tables whose rowid is declared AUTOINCREMENT. Such a table remembers the
largest rowid it ever gave, also after the row is deleted, so a new row gets a
rowid no row had before. When the largest 64-bit rowid has been given the
engine refuses every further insert. That rowids are positive and not above
the remembered one are fields, so no operation has to be shown not to reuse
one.

`AutoAt` is where such a table lives in a state, with the statements run on
it. Inserts and deletes bind their values or splice numbers only, so the
engine reads them as they are written; an UPDATE or a SELECT may splice text.
-/

namespace UCLinux.Sql

open Machine

/-- The key of a table that declares none. -/
def unkeyed {α : Type} (_ : α) : Option Unit := none

theorem pairwise_unkeyed {α : Type} (rows : List (Row α)) :
    rows.Pairwise (fun a b => KeysDiffer unkeyed a.cols b.cols) :=
  List.pairwise_of_forall fun _ _ => Or.inl rfl

/-- A condition that only one row of a table with distinct values of `f` can
meet selects that row. -/
theorem filter_eq_singleton {α β : Type} {f : α → β} {p : α → Bool} {rows : List α} {r : α}
    (hdistinct : rows.Pairwise (fun a b => f a ≠ f b)) (hr : r ∈ rows) (hp : p r = true)
    (honly : ∀ q ∈ rows, p q = true → f q = f r) : rows.filter p = [r] := by
  induction rows with
  | nil => cases hr
  | cons q rows ih =>
    obtain ⟨hq, hrest⟩ := List.pairwise_cons.mp hdistinct
    rcases List.mem_cons.mp hr with rfl | hmem
    · have hnone : rows.filter p = [] := by
        apply List.filter_eq_nil_iff.mpr
        intro b hb hpb
        exact hq b hb (honly b (List.mem_cons_of_mem _ hb) hpb).symm
      rw [List.filter_cons_of_pos hp, hnone]
    · have hnot : ¬p q = true := fun hpq => hq r hmem (honly q List.mem_cons_self hpq)
      rw [List.filter_cons_of_neg hnot]
      exact ih hrest hmem fun b hb => honly b (List.mem_cons_of_mem _ hb)

structure AutoTable (α : Type) extends Table (unkeyed (α := α)) where
  /-- The largest rowid given so far. -/
  seq : Int
  nonneg : 0 ≤ seq
  positive : ∀ r ∈ rows, 0 < r.rowid
  below : ∀ r ∈ rows, r.rowid ≤ seq

/-- The largest rowid there is. -/
def maxRowid : Int := 2 ^ 63 - 1

namespace AutoTable

variable {α : Type}

/-- A table without rows that has given rowids up to `seq`. -/
def startingAt (seq : Nat) : AutoTable α where
  toTable := Table.empty
  seq := seq
  nonneg := by omega
  positive := by simp [Table.empty]
  below := by simp [Table.empty]

/-- INSERT: the new table and the rowid given. -/
def insert (t : AutoTable α) (a : α) : Option (AutoTable α × Int) :=
  if t.seq < maxRowid then
    some (
      { rows := t.rows ++ [⟨t.seq + 1, a⟩]
        rowids := List.pairwise_append.mpr ⟨t.rowids, List.pairwise_singleton _ _,
          by simpa using fun r hr => Int.lt_add_one_of_le (t.below r hr)⟩
        keys := pairwise_unkeyed _
        seq := t.seq + 1
        nonneg := by have := t.nonneg; omega
        positive := by
          intro r hr
          have hseq := t.nonneg
          rcases List.mem_append.mp hr with hold | hnew
          · exact t.positive r hold
          · rw [List.mem_singleton.mp hnew]
            exact Int.lt_add_one_of_le hseq
        below := by
          intro r hr
          rcases List.mem_append.mp hr with hold | hnew
          · have := t.below r hold
            omega
          · exact Int.le_of_eq (congrArg Row.rowid (List.mem_singleton.mp hnew)) }, t.seq + 1)
  else none

/-- UPDATE: the new table and the number of rows selected. -/
def rewrite (t : AutoTable α) (g : Row α → Option α) : AutoTable α × Int :=
  ({ rows := t.rows.map (Table.rewriteRow g)
     rowids := List.pairwise_map.mpr (t.rowids.imp (by simp))
     keys := pairwise_unkeyed _
     seq := t.seq
     nonneg := t.nonneg
     positive := by
       intro r hr
       obtain ⟨r', hr', rfl⟩ := List.mem_map.mp hr
       simpa using t.positive r' hr'
     below := by
       intro r hr
       obtain ⟨r', hr', rfl⟩ := List.mem_map.mp hr
       simpa using t.below r' hr' },
    (t.rows.countP (fun r => (g r).isSome) : Nat))

/-- DELETE: the rows the condition leaves and the number it removes. -/
def delete (t : AutoTable α) (p : Row α → Bool) : AutoTable α × Int :=
  ({ rows := t.rows.filter (fun r => !p r)
     rowids := t.rowids.filter _
     keys := t.keys.filter _
     seq := t.seq
     nonneg := t.nonneg
     positive := fun r hr => t.positive r (List.mem_filter.mp hr).1
     below := fun r hr => t.below r (List.mem_filter.mp hr).1 },
    (t.rows.countP p : Nat))

theorem insert_eq_some {t t' : AutoTable α} {a : α} {n : Int} :
    t.insert a = some (t', n) →
      t.seq < maxRowid ∧ n = t.seq + 1 ∧ t'.rows = t.rows ++ [⟨t.seq + 1, a⟩] ∧
        t'.seq = t.seq + 1 := by
  intro h
  unfold insert at h
  split at h
  · next hlt =>
    cases h
    exact ⟨hlt, rfl, rfl, rfl⟩
  · cases h

theorem insert_of_lt {t : AutoTable α} (a : α) (h : t.seq < maxRowid) :
    ∃ t', t.insert a = some (t', t.seq + 1) ∧ t'.rows = t.rows ++ [⟨t.seq + 1, a⟩] ∧
      t'.seq = t.seq + 1 := by
  unfold insert
  rw [if_pos h]
  exact ⟨_, rfl, rfl, rfl⟩

theorem insert_eq_none {t : AutoTable α} {a : α} (h : ¬t.seq < maxRowid) :
    t.insert a = none :=
  if_neg h

@[simp] theorem delete_rows (t : AutoTable α) (p : Row α → Bool) :
    (t.delete p).1.rows = t.rows.filter (fun r => !p r) := rfl

/-- No row of the table has a rowid the next insert may give. -/
theorem not_mem_of_seq_lt (t : AutoTable α) {r : Row α} (h : t.seq < r.rowid) :
    r ∉ t.rows := fun hr => absurd (t.below r hr) (Int.not_le.mpr h)

theorem ext_rows {t t' : AutoTable α} (hrows : t.rows = t'.rows) (hseq : t.seq = t'.seq) :
    t = t' := by
  obtain ⟨⟨rows, _, _⟩, seq, _, _, _⟩ := t
  obtain ⟨⟨rows', _, _⟩, seq', _, _, _⟩ := t'
  cases hrows
  cases hseq
  rfl

/-- An UPDATE that selects no row. -/
theorem rewrite_of_none {t : AutoTable α} {g : Row α → Option α}
    (h : ∀ r ∈ t.rows, g r = none) : t.rewrite g = (t, 0) := by
  have hcount : t.rows.countP (fun r => (g r).isSome) = 0 := by
    apply List.countP_eq_zero.mpr
    intro r hr
    simp [h r hr]
  unfold rewrite
  rw [hcount]
  exact Prod.ext (ext_rows (Table.map_rewriteRow_none h) rfl) rfl

theorem rewrite_count_pos {t : AutoTable α} {g : Row α → Option α} {r : Row α} (hr : r ∈ t.rows)
    (h : g r ≠ none) : (t.rewrite g).2 ≠ 0 := by
  have hpos : 0 < t.rows.countP (fun r => (g r).isSome) :=
    List.countP_pos_iff.mpr ⟨r, hr, Option.isSome_iff_ne_none.mpr h⟩
  unfold rewrite
  dsimp only
  omega

section Column

variable {β : Type} {f : α → β} {t t' t'' : AutoTable α}

/-- No row is given another value of `f`: every row has a rowid given since,
or had its value before. -/
structure KeepsColumn (f : α → β) (t t' : AutoTable α) : Prop where
  seq : t.seq ≤ t'.seq
  rows : ∀ r' ∈ t'.rows, t.seq < r'.rowid ∨
    ∃ r ∈ t.rows, r.rowid = r'.rowid ∧ f r.cols = f r'.cols

theorem KeepsColumn.refl (t : AutoTable α) : KeepsColumn f t t :=
  ⟨Int.le_refl _, fun r hr => Or.inr ⟨r, hr, rfl, rfl⟩⟩

theorem KeepsColumn.trans (h : KeepsColumn f t t') (h' : KeepsColumn f t' t'') :
    KeepsColumn f t t'' := by
  refine ⟨Int.le_trans h.seq h'.seq, fun r'' hr'' => ?_⟩
  rcases h'.rows r'' hr'' with hnew | ⟨r', hr', hid', hf'⟩
  · exact Or.inl (Int.lt_of_le_of_lt h.seq hnew)
  · rcases h.rows r' hr' with hnew | ⟨r, hr, hid, hf⟩
    · exact Or.inl (hid' ▸ hnew)
    · exact Or.inr ⟨r, hr, hid.trans hid', hf.trans hf'⟩

theorem KeepsColumn.insert {a : α} (hrows : t'.rows = t.rows ++ [⟨t.seq + 1, a⟩])
    (hseq : t'.seq = t.seq + 1) : KeepsColumn f t t' := by
  refine ⟨by omega, fun r' hr' => ?_⟩
  rw [hrows] at hr'
  rcases List.mem_append.mp hr' with hold | hnew
  · exact Or.inr ⟨r', hold, rfl, rfl⟩
  · rw [List.mem_singleton.mp hnew]
    exact Or.inl (Int.lt_add_one_of_le (Int.le_refl _))

theorem KeepsColumn.rewrite {g : Row α → Option α}
    (hg : ∀ r ∈ t.rows, ∀ a, g r = some a → f a = f r.cols) :
    KeepsColumn f t (t.rewrite g).1 := by
  refine ⟨Int.le_refl _, fun r' hr' => ?_⟩
  obtain ⟨r, hr, rfl⟩ := List.mem_map.mp hr'
  refine Or.inr ⟨r, hr, (Table.rewriteRow_rowid g r).symm, ?_⟩
  cases hrow : g r with
  | none => rw [Table.rewriteRow_none hrow]
  | some a =>
    rw [Table.rewriteRow_some hrow]
    exact (hg r hr a hrow).symm

theorem KeepsColumn.delete (p : Row α → Bool) : KeepsColumn f t (t.delete p).1 :=
  ⟨Int.le_refl _, fun r hr => Or.inr ⟨r, (List.mem_filter.mp hr).1, rfl, rfl⟩⟩

end Column

theorem new_not_mem (t : AutoTable α) (a : α) : (⟨t.seq + 1, a⟩ : Row α) ∉ t.rows :=
  t.not_mem_of_seq_lt (Int.lt_add_one_of_le (Int.le_refl _))

theorem append_new_ne (t : AutoTable α) (a : α) : t.rows ++ [⟨t.seq + 1, a⟩] ≠ t.rows := by
  intro h
  have hmem : (⟨t.seq + 1, a⟩ : Row α) ∈ t.rows ++ [⟨t.seq + 1, a⟩] := by simp
  rw [h] at hmem
  exact t.new_not_mem a hmem

theorem mem_append_new_iff {t : AutoTable α} {a : α} {r : Row α} :
    r ∈ t.rows ++ [(⟨t.seq + 1, a⟩ : Row α)] ∧ r ∉ t.rows ↔ r = ⟨t.seq + 1, a⟩ := by
  constructor
  · rintro ⟨hr, hnew⟩
    rcases List.mem_append.mp hr with hold | hlast
    · exact absurd hold hnew
    · exact List.mem_singleton.mp hlast
  · rintro rfl
    exact ⟨by simp, t.new_not_mem a⟩

/-- Deleting by a rowid undoes an insert exactly when it is the rowid given. -/
theorem delete_new_iff {t t' : AutoTable α} {a : α} (k : Int)
    (h : t'.rows = t.rows ++ [⟨t.seq + 1, a⟩]) :
    (t'.delete (·.rowid = k)).1.rows = t.rows ↔ k = t.seq + 1 := by
  rw [delete_rows, h]
  constructor
  · intro hsame
    by_contra hk
    have hkept : (⟨t.seq + 1, a⟩ : Row α) ∈
        (t.rows ++ [(⟨t.seq + 1, a⟩ : Row α)]).filter (fun r => !decide (r.rowid = k)) := by
      simpa using Or.inr (Ne.symm hk)
    rw [hsame] at hkept
    exact t.new_not_mem a hkept
  · rintro rfl
    have hold : t.rows.filter (fun r => !decide (r.rowid = t.seq + 1)) = t.rows := by
      apply List.filter_eq_self.mpr
      intro r hr
      have := t.below r hr
      simp only [Bool.not_eq_true', decide_eq_false_iff_not]
      omega
    simp [List.filter_append, hold]

/-- A new row that is taken out, if it is: the others are left exactly when it
was that row. -/
theorem delete_if_new_iff {t t' : AutoTable α} {a : α} {c : Prop} [Decidable c] (k : Int)
    (h : t'.rows = t.rows ++ [⟨t.seq + 1, a⟩]) :
    (if c then (t'.delete (·.rowid = k)).1 else t').rows = t.rows ↔ c ∧ k = t.seq + 1 := by
  by_cases hc : c
  · rw [if_pos hc, delete_new_iff k h]
    exact (and_iff_right hc).symm
  · rw [if_neg hc, h]
    exact iff_of_false (t.append_new_ne a) fun hboth => hc hboth.1

/-- Deleting by a number that is no rowid changes nothing. -/
theorem delete_nonpos (t : AutoTable α) {k : Int} (hk : k ≤ 0) :
    (t.delete (·.rowid = k)).1.rows = t.rows := by
  apply List.filter_eq_self.mpr
  intro r hr
  have := t.positive r hr
  simp only [Bool.not_eq_true', decide_eq_false_iff_not]
  omega

end AutoTable

/-- Where an AUTOINCREMENT table lives in the state, and how an environment
answers for it. -/
structure AutoAt (σ ε α : Type) where
  get : σ → AutoTable α
  set : σ → AutoTable α → σ
  get_set : ∀ s t, get (set s t) = t
  raises : ε → Nat → Option Nat
  altered : ε → Altered (unkeyed (α := α))

namespace AutoAt

variable {σ ε α β : Type}

/-- The rows an UPDATE selects and what it makes of them. -/
def rewriting (T : AutoAt σ ε α) (E : ε) (st : Stmt) (g : Row α → Option α) :
    Option (Row α → Option α) :=
  if st.QuoteFree then some g else (T.altered E).update st.text

/-- The rows a SELECT delivers. -/
def selected (T : AutoAt σ ε α) (E : ε) (st : Stmt) (rows : AutoTable α → List β)
    (decode : List Cell → β) (t : AutoTable α) : Option (List β) :=
  if st.QuoteFree then some (rows t)
  else ((T.altered E).select st.text t.toTable).map (List.map decode)

/-- The engine takes every value spliced into the SELECT as data. -/
def AsData (T : AutoAt σ ε α) (E : ε) (st : Stmt) (rows : AutoTable α → List β)
    (decode : List Cell → β) : Prop :=
  ∀ t, T.selected E st rows decode t = some (rows t)

/-- UPDATE of the table at `T`. -/
def update (T : AutoAt σ ε α) (E : ε) (st : Stmt) (g : Row α → Option α) :
    Action σ (Option Int) :=
  exec (T.raises E) fun state =>
    (T.rewriting E st g).map fun h =>
      (T.set state ((T.get state).rewrite h).1, ((T.get state).rewrite h).2)

/-- INSERT into the table at `T` of columns that are all bound. -/
def insert (T : AutoAt σ ε α) (E : ε) (a : α) : Action σ (Option Int) :=
  exec (T.raises E) fun state =>
    ((T.get state).insert a).map fun done => (T.set state done.1, done.2)

/-- DELETE from the table at `T` by numbers only. -/
def delete (T : AutoAt σ ε α) (E : ε) (p : Row α → Bool) : Action σ (Option Int) :=
  exec (T.raises E) fun state =>
    some (T.set state ((T.get state).delete p).1, ((T.get state).delete p).2)

/-- SELECT from the table at `T`; `decode` reads the columns of an altered
query's rows. -/
def read (T : AutoAt σ ε α) (E : ε) (st : Stmt) (rows : AutoTable α → List β)
    (decode : List Cell → β) : Action σ (Fetched β) :=
  query (T.raises E) fun state => T.selected E st rows decode (T.get state)

variable (T : AutoAt σ ε α) {E : ε} {st : Stmt} {rows : AutoTable α → List β}
  {decode : List Cell → β} {s : Session σ}

theorem asData_of_quoteFree (h : st.QuoteFree) : T.AsData E st rows decode :=
  fun _ => if_pos h

/-- Everything an INSERT can do: nothing, or one new row. -/
theorem insert_cases (a : α) (s : Session σ) :
    T.insert E a s = (none, s.tick) ∨
      ∃ t n, (T.get s.state).insert a = some (t, n) ∧ T.raises E s.asked = none ∧
        T.insert E a s = (some n, ⟨T.set s.state t, s.asked + 1⟩) := by
  rcases exec_cases (T.raises E) _ s with hx | ⟨state, n, heff, hr, hx⟩
  · exact Or.inl hx
  · obtain ⟨⟨t, m⟩, hins, hdone⟩ := Option.map_eq_some_iff.mp heff
    cases hdone
    exact Or.inr ⟨t, m, hins, hr, hx⟩

theorem insert_some {a : α} {t : AutoTable α} {n : Int} (hr : T.raises E s.asked = none)
    (hins : (T.get s.state).insert a = some (t, n)) :
    T.insert E a s = (some n, ⟨T.set s.state t, s.asked + 1⟩) :=
  exec_some s hr (by simp [hins])

theorem insert_none {a : α}
    (h : T.raises E s.asked ≠ none ∨ ¬(T.get s.state).seq < maxRowid) :
    T.insert E a s = (none, s.tick) := by
  rcases T.insert_cases (E := E) a s with hx | ⟨t, n, hins, hr, _⟩
  · exact hx
  · rcases h with hraised | hfull
    · exact absurd hr hraised
    · rw [AutoTable.insert_eq_none hfull] at hins
      cases hins

/-- Everything a DELETE can do: nothing, or remove what it selects. -/
theorem delete_cases (p : Row α → Bool) (s : Session σ) :
    T.raises E s.asked ≠ none ∧ T.delete E p s = (none, s.tick) ∨
      T.raises E s.asked = none ∧
        T.delete E p s = (some ((T.get s.state).delete p).2,
          ⟨T.set s.state ((T.get s.state).delete p).1, s.asked + 1⟩) := by
  by_cases hr : T.raises E s.asked = none
  · exact Or.inr ⟨hr, exec_some s hr rfl⟩
  · exact Or.inl ⟨hr, exec_raised s hr⟩

/-- Everything an UPDATE that the engine reads as rewriting with `h` can do. -/
theorem update_cases {g h : Row α → Option α} (hh : T.rewriting E st g = some h)
    (s : Session σ) :
    T.raises E s.asked ≠ none ∧ T.update E st g s = (none, s.tick) ∨
      T.raises E s.asked = none ∧
        T.update E st g s = (some ((T.get s.state).rewrite h).2,
          ⟨T.set s.state ((T.get s.state).rewrite h).1, s.asked + 1⟩) := by
  by_cases hr : T.raises E s.asked = none
  · exact Or.inr ⟨hr, exec_some s hr (by rw [hh, Option.map_some])⟩
  · exact Or.inl ⟨hr, exec_raised s hr⟩

theorem rewriting_quoteFree {g : Row α → Option α} (hq : st.QuoteFree) :
    T.rewriting E st g = some g :=
  if_pos hq

@[simp] theorem read_snd (s : Session σ) : (T.read E st rows decode s).2 = s.tick :=
  query_snd s

theorem read_within {R : σ → σ → Prop} (hR : Action.Frame R) :
    Action.Within R (T.read E st rows decode) :=
  query_within hR

theorem read_first_eq_some (h : T.AsData E st rows decode) (s : Session σ) {b : β} :
    (T.read E st rows decode s).1.first = some (some b) ↔
      T.raises E s.asked ≠ some 0 ∧ (rows (T.get s.state)).head? = some b := by
  unfold read
  rw [query_first_eq_some, h]
  simp

theorem read_all_eq (s : Session σ) :
    (T.read E st rows decode s).1.all =
      if T.raises E s.asked = none then T.selected E st rows decode (T.get s.state) else none :=
  query_all_eq s

variable (rows decode) in
/-- A SELECT whose values are taken as data delivers the rows it asks for,
unless it raises. -/
theorem read_of_calm (h : T.AsData E st rows decode) (hr : T.raises E s.asked = none) :
    (T.read E st rows decode s).1 = ⟨rows (T.get s.state), false⟩ :=
  query_of_calm s hr (h (T.get s.state))

end AutoAt

end UCLinux.Sql
