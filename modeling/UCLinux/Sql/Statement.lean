import UCLinux.Machine.Action
import UCLinux.Sql.Table
import Mathlib.Data.List.TakeWhile

/-!
Running statements whose text was put together by splicing values between
quotes.

A statement is given by the pieces of its text and by what it does when every
value spliced between quotes is read back as one literal. That reading is
right exactly when no value contains a quote. A quote ends the literal early
and the engine then reads another statement, so what happens is left to a
parameter (`Altered`): such an UPDATE still rewrites columns of rows of the
table its text starts with, such an INSERT still writes that table only, such
a SELECT still reads only, and beyond that nothing is assumed. A prepared
statement is compiled up to its first semicolon, which is why the altered text
cannot reach another table.

Opening a connection and running a statement may also raise and leave the
database as it was, a SELECT possibly after some rows were fetched.
-/

namespace UCLinux.Sql

open Machine

abbrev Text := List Char

/-- A C string ends at its first NUL. -/
def cstr (s : Text) : Text := s.takeWhile (· ≠ '\x00')

theorem cstr_of_no_nul {s : Text} (h : '\x00' ∉ s) : cstr s = s := by
  refine List.takeWhile_eq_self_iff.mpr fun c hc => ?_
  simp only [decide_eq_true_eq]
  rintro rfl
  exact h hc

theorem mem_of_mem_cstr {s : Text} {c : Char} (h : c ∈ cstr s) : c ∈ s :=
  (List.takeWhile_prefix _).mem h

theorem no_nul_cstr (s : Text) : '\x00' ∉ cstr s := by
  intro h
  simpa using List.mem_takeWhile_imp h

@[simp] theorem cstr_cstr (s : Text) : cstr (cstr s) = cstr s :=
  cstr_of_no_nul (no_nul_cstr s)

theorem cstr_append_of_not_mem {a b : Text} (h : '\x00' ∉ a) : cstr (a ++ b) = a ++ cstr b := by
  unfold cstr
  apply List.takeWhile_append_of_pos
  intro c hc
  exact decide_eq_true fun heq => h (heq ▸ hc)

theorem cstr_append_of_mem {a b : Text} (h : '\x00' ∈ a) : cstr (a ++ b) = cstr a := by
  have hshort : (cstr a).length ≠ a.length := by
    intro hlength
    have hwhole : cstr a = a := (List.takeWhile_prefix _).eq_of_length hlength
    exact no_nul_cstr a (by rw [hwhole]; exact h)
  unfold cstr at hshort ⊢
  rw [List.takeWhile_append, if_neg hshort]

theorem mem_cstr_append {a b : Text} {c : Char} (h : c ∈ cstr (a ++ b)) : c ∈ a ∨ c ∈ cstr b := by
  by_cases hnul : '\x00' ∈ a
  · rw [cstr_append_of_mem hnul] at h
    exact Or.inl (mem_of_mem_cstr h)
  · rw [cstr_append_of_not_mem hnul] at h
    exact List.mem_append.mp h

/-- One piece of a statement text: fixed text, a value between quotes, a
number. -/
inductive Piece where
  | sql (t : Text)
  | value (v : Text)
  | number (n : Int)
  deriving DecidableEq, Repr

/-- A number as `%d` and `%lld` print it. -/
def decimal (n : Int) : Text :=
  if n < 0 then '-' :: Nat.toDigits 10 n.natAbs else Nat.toDigits 10 n.natAbs

theorem not_mem_decimal {c : Char} (hdigit : ¬c.isDigit) (hsign : c ≠ '-') (n : Int) :
    c ∉ decimal n := by
  have hdigits : c ∉ Nat.toDigits 10 n.natAbs := fun hc =>
    hdigit (Nat.isDigit_of_mem_toDigits (by decide) (by decide) hc)
  unfold decimal
  split
  · rw [List.mem_cons, not_or]
    exact ⟨hsign, hdigits⟩
  · exact hdigits

theorem quote_not_mem_decimal (n : Int) : '\'' ∉ decimal n :=
  not_mem_decimal (by decide) (by decide) n

theorem minus_not_mem_toDigits (n : Nat) : '-' ∉ Nat.toDigits 10 n := fun hc =>
  absurd (Nat.isDigit_of_mem_toDigits (by decide) (by decide) hc) (by decide)

theorem toDigits_injective {m n : Nat} (h : Nat.toDigits 10 m = Nat.toDigits 10 n) : m = n := by
  have hvalue := congrArg (Nat.ofDigitChars 10 · 0) h
  rwa [Nat.ofDigitChars_ten_toDigits, Nat.ofDigitChars_ten_toDigits] at hvalue

/-- Two numbers are not printed alike. -/
theorem decimal_injective {m n : Int} (h : decimal m = decimal n) : m = n := by
  unfold decimal at h
  by_cases hm : m < 0 <;> by_cases hn : n < 0
  · rw [if_pos hm, if_pos hn] at h
    have := toDigits_injective (List.cons.inj h).2
    omega
  · rw [if_pos hm, if_neg hn] at h
    exact absurd (h ▸ List.mem_cons_self) (minus_not_mem_toDigits n.natAbs)
  · rw [if_neg hm, if_pos hn] at h
    exact absurd (h ▸ List.mem_cons_self) (minus_not_mem_toDigits m.natAbs)
  · rw [if_neg hm, if_neg hn] at h
    have := toDigits_injective h
    omega

def Piece.text : Piece → Text
  | .sql t => t
  | .value v => v
  | .number n => decimal n

abbrev Stmt := List Piece

/-- The text handed to the engine. -/
def Stmt.text (st : Stmt) : Text := st.flatMap Piece.text

/-- The values spliced between quotes. -/
def Stmt.values (st : Stmt) : List Text :=
  st.filterMap fun
    | .value v => some v
    | _ => none

/-- No value ends its literal early. -/
def Stmt.QuoteFree (st : Stmt) : Prop := ∀ v ∈ st.values, '\'' ∉ v

instance (st : Stmt) : Decidable st.QuoteFree :=
  inferInstanceAs (Decidable (∀ v ∈ st.values, '\'' ∉ v))

namespace Stmt

variable {t v : Text} {n : Int} {st st' : Stmt}

@[simp] theorem quoteFree_nil : QuoteFree [] := by
  simp [QuoteFree, values]

@[simp] theorem quoteFree_sql : QuoteFree (.sql t :: st) ↔ QuoteFree st := by
  simp [QuoteFree, values]

@[simp] theorem quoteFree_number : QuoteFree (.number n :: st) ↔ QuoteFree st := by
  simp [QuoteFree, values]

@[simp] theorem quoteFree_value : QuoteFree (.value v :: st) ↔ '\'' ∉ v ∧ QuoteFree st := by
  simp [QuoteFree, values]

@[simp] theorem quoteFree_append : QuoteFree (st ++ st') ↔ QuoteFree st ∧ QuoteFree st' := by
  simp [QuoteFree, values, or_imp, forall_and]

end Stmt

/-- One result column of a row. -/
inductive Cell where
  | null
  | int (n : Int)
  | text (t : Text)
  deriving DecidableEq, Repr

/-- What the engine makes of a statement text altered by a spliced value;
`none` when it refuses the text. -/
structure Altered {α κ : Type} (key : α → Option κ) where
  update : Text → Option (Row α → Option α)
  insert : Text → Table key → Option (Table key × Int)
  delete : Text → Option (Row α → Bool)
  select : Text → Table key → Option (List (List Cell))

/-- An engine that refuses every altered text. -/
def Altered.refused {α κ : Type} (key : α → Option κ) : Altered key :=
  ⟨fun _ => none, fun _ _ => none, fun _ => none, fun _ _ => none⟩

/-- The rows a SELECT delivered and whether it raised before it was done. -/
structure Fetched (β : Type) where
  rows : List β
  raised : Bool

/-- Reading only the first row: `none` when fetching it raises. -/
def Fetched.first {β : Type} (f : Fetched β) : Option (Option β) :=
  match f.rows with
  | b :: _ => some (some b)
  | [] => if f.raised then none else some none

/-- Reading every row: `none` when fetching one of them raises. -/
def Fetched.all {β : Type} (f : Fetched β) : Option (List β) :=
  if f.raised then none else some f.rows

/-- Opening a connection; false when that fails. -/
def connect {σ : Type} (raises : Nat → Option Nat) : Action σ Bool :=
  Action.ask fun i => (raises i).isNone

/-- One statement that may write: the integer is the number of rows changed,
or the rowid of the row inserted. -/
def exec {σ : Type} (raises : Nat → Option Nat) (effect : σ → Option (σ × Int)) :
    Action σ (Option Int) := fun s =>
  match raises s.asked, effect s.state with
  | none, some (state, n) => (some n, ⟨state, s.asked + 1⟩)
  | _, _ => (none, s.tick)

/-- One SELECT. -/
def query {σ β : Type} (raises : Nat → Option Nat) (result : σ → Option (List β)) :
    Action σ (Fetched β) := fun s =>
  match raises s.asked, result s.state with
  | none, some rows => (⟨rows, false⟩, s.tick)
  | some k, some rows => (⟨rows.take k, true⟩, s.tick)
  | _, none => (⟨[], true⟩, s.tick)

section Exec

variable {σ : Type} {raises : Nat → Option Nat} {effect : σ → Option (σ × Int)}

@[simp] theorem connect_apply (s : Session σ) :
    connect raises s = ((raises s.asked).isNone, s.tick) := rfl

theorem connect_within {R : σ → σ → Prop} (hR : Action.Frame R) :
    Action.Within R (connect raises : Action σ Bool) :=
  Action.Within.ask hR _

/-- Everything a writing statement can do: nothing, or its effect. -/
theorem exec_cases (raises : Nat → Option Nat) (effect : σ → Option (σ × Int))
    (s : Session σ) :
    exec raises effect s = (none, s.tick) ∨
      ∃ state n, effect s.state = some (state, n) ∧ raises s.asked = none ∧
        exec raises effect s = (some n, ⟨state, s.asked + 1⟩) := by
  unfold exec
  cases hr : raises s.asked with
  | some k => exact Or.inl rfl
  | none =>
    cases heff : effect s.state with
    | none => exact Or.inl rfl
    | some done => exact Or.inr ⟨done.1, done.2, rfl, rfl, rfl⟩

theorem exec_some (s : Session σ) {state : σ} {n : Int}
    (hr : raises s.asked = none) (heff : effect s.state = some (state, n)) :
    exec raises effect s = (some n, ⟨state, s.asked + 1⟩) := by
  simp [exec, hr, heff]

/-- A statement that raises changes nothing. -/
theorem exec_raised (s : Session σ) (hr : raises s.asked ≠ none) :
    exec raises effect s = (none, s.tick) := by
  rcases exec_cases raises effect s with hx | ⟨_, _, _, hcalm, _⟩
  · exact hx
  · exact absurd hcalm hr

theorem exec_within {R : σ → σ → Prop} (hR : Action.Frame R)
    (h : ∀ s t n, effect s = some (t, n) → R s t) :
    Action.Within R (exec raises effect) := by
  intro s
  rcases exec_cases raises effect s with
    hx | ⟨state, n, heff, _, hx⟩
  · rw [hx]
    exact hR.refl s.state
  · rw [hx]
    exact h _ _ _ heff

end Exec

section Query

variable {σ β : Type} {raises : Nat → Option Nat} {result : σ → Option (List β)}

/-- A SELECT only counts as one more statement. -/
@[simp] theorem query_snd (s : Session σ) : (query raises result s).2 = s.tick := by
  unfold query
  split <;> rfl

theorem query_within {R : σ → σ → Prop} (hR : Action.Frame R) :
    Action.Within R (query raises result) := by
  intro s
  rw [query_snd]
  exact hR.refl s.state

/-- A SELECT that the engine does not take. -/
theorem query_refused (s : Session σ) (hres : result s.state = none) :
    (query raises result s).1 = ⟨[], true⟩ := by
  unfold query
  cases raises s.asked <;> simp [hres]

theorem query_of_calm (s : Session σ) {rows : List β} (hr : raises s.asked = none)
    (hres : result s.state = some rows) :
    (query raises result s).1 = ⟨rows, false⟩ := by
  simp [query, hr, hres]

theorem query_first_of_calm (s : Session σ) (hr : raises s.asked = none) :
    (query raises result s).1.first = (result s.state).map List.head? := by
  cases hres : result s.state with
  | none =>
    rw [query_refused s hres]
    rfl
  | some rows =>
    rw [query_of_calm s hr hres]
    cases rows with
    | nil => rfl
    | cons b bs => rfl

/-- When reading the first row yields one: the engine took the statement and
did not raise before it. -/
theorem query_first_eq_some (s : Session σ) {b : β} :
    (query raises result s).1.first = some (some b) ↔
      raises s.asked ≠ some 0 ∧ ∃ rows, result s.state = some rows ∧ rows.head? = some b := by
  cases hres : result s.state with
  | none =>
    rw [query_refused s hres]
    simp [Fetched.first]
  | some rows =>
    cases hr : raises s.asked with
    | none =>
      rw [query_of_calm s hr hres]
      cases rows <;> simp [Fetched.first]
    | some k =>
      have hfetched : (query raises result s).1 = ⟨rows.take k, true⟩ := by
        simp [query, hr, hres]
      rw [hfetched]
      cases k <;> cases rows <;> simp [Fetched.first]

/-- Reading the first row raises, or yields the first of the result. -/
theorem query_first_cases (s : Session σ) {rows : List β}
    (hres : result s.state = some rows) :
    (query raises result s).1.first = none ∨
      (query raises result s).1.first = some rows.head? := by
  cases hr : raises s.asked with
  | none =>
    rw [query_of_calm s hr hres]
    cases rows with
    | nil => exact Or.inr rfl
    | cons b bs => exact Or.inr rfl
  | some k =>
    have hfetched : (query raises result s).1 = ⟨rows.take k, true⟩ := by
      simp [query, hr, hres]
    rw [hfetched]
    cases rows with
    | nil => exact Or.inl (by simp [Fetched.first])
    | cons b bs =>
      cases k with
      | zero => exact Or.inl rfl
      | succ k => exact Or.inr rfl

theorem query_all_eq (s : Session σ) :
    (query raises result s).1.all = if raises s.asked = none then result s.state else none := by
  unfold query
  cases raises s.asked <;> cases result s.state <;> rfl

/-- Reading every row raises, or yields the whole result. -/
theorem query_all (s : Session σ) {rows : List β} (hres : result s.state = some rows) :
    (query raises result s).1.all = none ∨ (query raises result s).1.all = some rows := by
  cases hr : raises s.asked with
  | none =>
    rw [query_of_calm s hr hres]
    exact Or.inr rfl
  | some k =>
    have hfetched : (query raises result s).1 = ⟨rows.take k, true⟩ := by
      simp [query, hr, hres]
    rw [hfetched]
    exact Or.inl rfl

end Query

/-- Where a table lives in the state, and how an environment answers for
it. -/
structure TableAt (σ ε : Type) {α κ : Type} (key : α → Option κ) where
  get : σ → Table key
  set : σ → Table key → σ
  get_set : ∀ s t, get (set s t) = t
  raises : ε → Nat → Option Nat
  altered : ε → Altered key

namespace TableAt

variable {σ ε α κ : Type} {key : α → Option κ}

/-- The rows an UPDATE selects and what it makes of them. -/
def rewriting (T : TableAt σ ε key) (E : ε) (st : Stmt) (g : Row α → Option α) :
    Option (Row α → Option α) :=
  if st.QuoteFree then some g else (T.altered E).update st.text

/-- UPDATE of the table at `T`. -/
def update [DecidableEq κ] (T : TableAt σ ε key) (E : ε) (st : Stmt)
    (g : Row α → Option α) : Action σ (Option Int) :=
  exec (T.raises E) fun state =>
    (T.rewriting E st g).bind fun h =>
      ((T.get state).rewrite h).map fun done => (T.set state done.1, done.2)

/-- INSERT into the table at `T`; `ins` is the insertion when the values are
literals. -/
def insert (T : TableAt σ ε key) (E : ε) (st : Stmt)
    (ins : Table key → Option (Table key × Int)) :
    Action σ (Option Int) :=
  exec (T.raises E) fun state =>
    ((if st.QuoteFree then ins else (T.altered E).insert st.text) (T.get state)).map
      fun done => (T.set state done.1, done.2)

/-- DELETE from the table at `T`. -/
def delete (T : TableAt σ ε key) (E : ε) (st : Stmt) (p : Row α → Bool) :
    Action σ (Option Int) :=
  exec (T.raises E) fun state =>
    (if st.QuoteFree then some p else (T.altered E).delete st.text).map
      fun q => (T.set state ((T.get state).delete q).1, ((T.get state).delete q).2)

/-- SELECT from the table at `T`; `decode` reads the columns of an altered
query's rows. -/
def read {β : Type} (T : TableAt σ ε key) (E : ε) (st : Stmt)
    (rows : Table key → List β) (decode : List Cell → β) :
    Action σ (Fetched β) :=
  query (T.raises E) fun state =>
    if st.QuoteFree then some (rows (T.get state))
    else ((T.altered E).select st.text (T.get state)).map (List.map decode)

variable (T : TableAt σ ε key) {E : ε} {st : Stmt}

theorem rewriting_quoteFree {g : Row α → Option α} (hq : st.QuoteFree) :
    T.rewriting E st g = some g := by
  rw [rewriting, if_pos hq]

/-- Everything an UPDATE can do: nothing, or one rewrite of its table. -/
theorem update_cases [DecidableEq κ] (E : ε) (st : Stmt) (g : Row α → Option α)
    (s : Session σ) :
    T.update E st g s = (none, s.tick) ∨
      ∃ h t n, T.rewriting E st g = some h ∧
        (T.get s.state).rewrite h = some (t, n) ∧
        T.raises E s.asked = none ∧
        T.update E st g s = (some n, ⟨T.set s.state t, s.asked + 1⟩) := by
  rcases exec_cases (T.raises E) _ s with hx | ⟨state, n, heff, hr, hx⟩
  · exact Or.inl hx
  · obtain ⟨h, hh, hrest⟩ := Option.bind_eq_some_iff.mp heff
    obtain ⟨⟨t, m⟩, hrw, hdone⟩ := Option.map_eq_some_iff.mp hrest
    cases hdone
    exact Or.inr ⟨h, t, m, hh, hrw, hr, hx⟩

theorem update_within [DecidableEq κ] {R : σ → σ → Prop} (hR : Action.Frame R)
    {g : Row α → Option α}
    (h : ∀ s g' t n, T.rewriting E st g = some g' →
      (T.get s).rewrite g' = some (t, n) → R s (T.set s t)) :
    Action.Within R (T.update E st g) := by
  intro s
  rcases T.update_cases E st g s with hx | ⟨g', t, n, hg, hrw, _, hx⟩
  · rw [hx]
    exact hR.refl s.state
  · rw [hx]
    exact h _ _ _ _ hg hrw

/-- An UPDATE that the engine reads as rewriting with `h` does so, unless it
raises. -/
theorem update_some [DecidableEq κ] (g : Row α → Option α) (s : Session σ)
    {h : Row α → Option α} {t : Table key} {n : Int} (hh : T.rewriting E st g = some h)
    (hr : T.raises E s.asked = none) (hrw : (T.get s.state).rewrite h = some (t, n)) :
    T.update E st g s = (some n, ⟨T.set s.state t, s.asked + 1⟩) :=
  exec_some s hr (by simp [hh, hrw])

/-- An UPDATE whose values are literals and that keeps the key runs as
written, unless it raises. -/
theorem update_literal [DecidableEq κ] (g : Row α → Option α) (s : Session σ)
    (hq : st.QuoteFree) (hr : T.raises E s.asked = none)
    (hkey : ∀ r a, g r = some a → key a = key r.cols) :
    ∃ t, t.rows = (T.get s.state).rows.map (Table.rewriteRow g) ∧
      T.update E st g s =
        (some (((T.get s.state).rows.countP (fun r => (g r).isSome) : Nat) : Int),
          ⟨T.set s.state t, s.asked + 1⟩) := by
  obtain ⟨t, hrw, hrows⟩ := (T.get s.state).rewrite_of_keeps_key g hkey
  exact ⟨t, hrows, T.update_some g s (T.rewriting_quoteFree hq) hr hrw⟩

theorem update_raised [DecidableEq κ] {g : Row α → Option α} {s : Session σ}
    (hr : T.raises E s.asked ≠ none) : T.update E st g s = (none, s.tick) :=
  exec_raised s hr

/-- A row that an UPDATE gives other columns is gone, unless it raises. -/
theorem update_loses [DecidableEq κ] (g : Row α → Option α) (s : Session σ)
    {h : Row α → Option α} (hh : T.rewriting E st g = some h) (hr : T.raises E s.asked = none)
    (hkey : ∀ r a, h r = some a → key a = key r.cols) {r : Row α}
    (hmem : r ∈ (T.get s.state).rows) {a : α} (ha : h r = some a) (hne : a ≠ r.cols) :
    r ∉ (T.get (T.update E st g s).2.state).rows := by
  obtain ⟨t, hrw, _⟩ := (T.get s.state).rewrite_of_keeps_key h hkey
  rw [T.update_some g s hh hr hrw, T.get_set]
  exact Table.not_mem_of_rewrite hrw hmem ha hne

/-- Everything an INSERT can do: nothing, or one insertion. -/
theorem insert_cases (E : ε) (st : Stmt) (ins : Table key → Option (Table key × Int))
    (s : Session σ) :
    T.insert E st ins s = (none, s.tick) ∨
      ∃ t n, (if st.QuoteFree then ins else (T.altered E).insert st.text)
          (T.get s.state) = some (t, n) ∧
        T.raises E s.asked = none ∧
        T.insert E st ins s = (some n, ⟨T.set s.state t, s.asked + 1⟩) := by
  rcases exec_cases (T.raises E) _ s with hx | ⟨state, n, heff, hr, hx⟩
  · exact Or.inl hx
  · obtain ⟨⟨t, m⟩, hins, hdone⟩ := Option.map_eq_some_iff.mp heff
    cases hdone
    exact Or.inr ⟨t, m, hins, hr, hx⟩

theorem insert_within {R : σ → σ → Prop} (hR : Action.Frame R)
    {ins : Table key → Option (Table key × Int)}
    (h : ∀ s t n, (if st.QuoteFree then ins else (T.altered E).insert st.text)
      (T.get s) = some (t, n) → R s (T.set s t)) :
    Action.Within R (T.insert E st ins) := by
  intro s
  rcases T.insert_cases E st ins s with hx | ⟨t, n, hins, _, hx⟩
  · rw [hx]
    exact hR.refl s.state
  · rw [hx]
    exact h _ _ _ hins

/-- Everything a DELETE whose values are literals can do. -/
theorem delete_cases (E : ε) (st : Stmt) (p : Row α → Bool) (s : Session σ) (hq : st.QuoteFree) :
    T.delete E st p s = (none, s.tick) ∨
      T.delete E st p s = (some ((T.get s.state).delete p).2,
        ⟨T.set s.state ((T.get s.state).delete p).1, s.asked + 1⟩) := by
  unfold TableAt.delete
  rcases exec_cases (T.raises E) _ s with hx | ⟨state, n, heff, _, hx⟩
  · exact Or.inl hx
  · rw [hx]
    rw [if_pos hq] at heff
    cases heff
    exact Or.inr rfl

/-- A DELETE that does not raise, of the rows it is taken to select. -/
theorem delete_some {p q : Row α → Bool} (s : Session σ)
    (hq : (if st.QuoteFree then some p else (T.altered E).delete st.text) = some q)
    (hr : T.raises E s.asked = none) :
    T.delete E st p s = (some ((T.get s.state).delete q).2,
      ⟨T.set s.state ((T.get s.state).delete q).1, s.asked + 1⟩) := by
  apply exec_some s hr
  rw [hq]
  rfl

theorem delete_within {R : σ → σ → Prop} (hR : Action.Frame R) {p : Row α → Bool}
    (h : ∀ s q, R s (T.set s ((T.get s).delete q).1)) :
    Action.Within R (T.delete E st p) := by
  refine exec_within hR fun s t n heff => ?_
  obtain ⟨q, _, hdone⟩ := Option.map_eq_some_iff.mp heff
  cases hdone
  exact h s q

theorem insert_literal (ins : Table key → Option (Table key × Int)) (s : Session σ)
    {t : Table key} {n : Int} (hq : st.QuoteFree)
    (hr : T.raises E s.asked = none) (hins : ins (T.get s.state) = some (t, n)) :
    T.insert E st ins s = (some n, ⟨T.set s.state t, s.asked + 1⟩) := by
  refine exec_some s hr ?_
  simp [hq, hins]

variable {β : Type} {rows : Table key → List β} {decode : List Cell → β}

@[simp] theorem read_snd (s : Session σ) : (T.read E st rows decode s).2 = s.tick :=
  query_snd s

/-- The first row of a SELECT that does not raise and that the engine takes. -/
theorem read_first_of_calm {β : Type} (st : Stmt) (rows : Table key → List β)
    (decode : List Cell → β) (s : Session σ) (hr : T.raises E s.asked = none)
    (htaken : st.QuoteFree ∨ ∃ cells, (T.altered E).select st.text (T.get s.state) = some cells) :
    ∃ row, (T.read E st rows decode s).1.first = some row := by
  by_cases hq : st.QuoteFree
  · refine ⟨(rows (T.get s.state)).head?, ?_⟩
    unfold read
    rw [query_first_of_calm s hr, if_pos hq]
    rfl
  · obtain ⟨cells, hcells⟩ := htaken.resolve_left hq
    refine ⟨(cells.map decode).head?, ?_⟩
    unfold read
    rw [query_first_of_calm s hr, if_neg hq, hcells]
    rfl

theorem read_within {R : σ → σ → Prop} (hR : Action.Frame R) :
    Action.Within R (T.read E st rows decode) :=
  query_within hR

theorem read_literal (s : Session σ) (hq : st.QuoteFree)
    (hr : T.raises E s.asked = none) :
    (T.read E st rows decode s).1 = ⟨rows (T.get s.state), false⟩ :=
  query_of_calm s hr (if_pos hq)

/-- An altered SELECT delivers what the engine makes of it, unless it
raises. -/
theorem read_altered (s : Session σ) {found : List (List Cell)} (hq : ¬st.QuoteFree)
    (hr : T.raises E s.asked = none)
    (hfound : (T.altered E).select st.text (T.get s.state) = some found) :
    (T.read E st rows decode s).1 = ⟨found.map decode, false⟩ :=
  query_of_calm s hr (by rw [if_neg hq, hfound, Option.map_some])

theorem read_refused (s : Session σ) (hq : ¬st.QuoteFree)
    (hrefused : (T.altered E).select st.text (T.get s.state) = none) :
    (T.read E st rows decode s).1 = ⟨[], true⟩ :=
  query_refused s (by rw [if_neg hq, hrefused, Option.map_none])

variable (rows decode) in
/-- Reading the first row of such a SELECT raises, or yields the first of the
rows it asks for. -/
theorem read_first_cases (s : Session σ) (hq : st.QuoteFree) :
    (T.read E st rows decode s).1.first = none ∨
      (T.read E st rows decode s).1.first = some (rows (T.get s.state)).head? :=
  query_first_cases s (if_pos hq)

variable (rows decode) in
theorem read_all_cases (s : Session σ) (hq : st.QuoteFree) :
    (T.read E st rows decode s).1.all = none ∨
      (T.read E st rows decode s).1.all = some (rows (T.get s.state)) :=
  query_all s (if_pos hq)

/-- The first row of such a SELECT is one of those it asks for. -/
theorem read_first (s : Session σ) (hq : st.QuoteFree) {b : β}
    (h : (T.read E st rows decode s).1.first = some (some b)) : b ∈ rows (T.get s.state) := by
  have hcases := T.read_first_cases (E := E) rows decode s hq
  rw [h] at hcases
  rcases hcases with hnone | hhead
  · cases hnone
  · exact List.mem_of_mem_head? (Option.some.inj hhead).symm

end TableAt

end UCLinux.Sql
