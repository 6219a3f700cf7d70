import Mathlib.Data.List.Basic
import Mathlib.Data.List.Induction
import Mathlib.Logic.Function.Basic

/-!
Runs of a machine that takes one event after another. A run is recorded as
the list of its visits, so what an event did, and what any state was reached
by, can be read off the record. `Meets ok` says that every event of a run was
allowed in the state it found.
-/

namespace UCLinux.Machine

/-- One event of a run with the states before and after it. -/
structure Visit (σ ε : Type) where
  before : σ
  event : ε
  after : σ

section

variable {σ ε : Type}

/-- The state after the events. -/
def run (step : σ → ε → σ) (s : σ) (es : List ε) : σ := es.foldl step s

/-- The record of a run, oldest event first. -/
def visits (step : σ → ε → σ) : σ → List ε → List (Visit σ ε)
  | _, [] => []
  | s, e :: es => ⟨s, e, step s e⟩ :: visits step (step s e) es

/-- Every event of the run was allowed in the state it found. -/
def Meets (step : σ → ε → σ) (ok : σ → ε → Prop) (s : σ) (es : List ε) : Prop :=
  ∀ v ∈ visits step s es, ok v.before v.event

variable {step : σ → ε → σ} {ok : σ → ε → Prop}

@[simp] theorem run_nil (s : σ) : run step s [] = s := rfl

@[simp] theorem run_cons (s : σ) (e : ε) (es : List ε) :
    run step s (e :: es) = run step (step s e) es := rfl

@[simp] theorem visits_nil (s : σ) : visits step s [] = [] := rfl

@[simp] theorem visits_cons (s : σ) (e : ε) (es : List ε) :
    visits step s (e :: es) = ⟨s, e, step s e⟩ :: visits step (step s e) es := rfl

theorem after_eq_step {s : σ} {es : List ε} {v : Visit σ ε}
    (h : v ∈ visits step s es) : v.after = step v.before v.event := by
  induction es generalizing s with
  | nil => cases h
  | cons e es ih =>
    rcases List.mem_cons.mp h with rfl | later
    · rfl
    · exact ih later

theorem event_mem_of_visit {s : σ} {es : List ε} {v : Visit σ ε}
    (h : v ∈ visits step s es) : v.event ∈ es := by
  induction es generalizing s with
  | nil => cases h
  | cons e es ih =>
    rcases List.mem_cons.mp h with rfl | later
    · exact List.mem_cons_self ..
    · exact List.mem_cons_of_mem _ (ih later)

/-- The last event of a run is visited in the state the others lead to. -/
theorem last_visit_mem (s : σ) (es : List ε) (e : ε) :
    ⟨run step s es, e, step (run step s es) e⟩ ∈ visits step s (es ++ [e]) := by
  induction es generalizing s with
  | nil => exact List.mem_singleton_self _
  | cons e' es ih => exact List.mem_cons_of_mem _ (ih (step s e'))

theorem Meets.nil (s : σ) : Meets step ok s [] := by
  simp [Meets]

theorem meets_cons {s : σ} {e : ε} {es : List ε} :
    Meets step ok s (e :: es) ↔ ok s e ∧ Meets step ok (step s e) es := by
  simp [Meets]

/-- The invariant also holds before and after every event of the run. -/
theorem visits_invariant (I : σ → Prop)
    (hstep : ∀ s e, I s → ok s e → I (step s e)) {s : σ} {es : List ε} (hs : I s)
    (hes : Meets step ok s es) {v : Visit σ ε} (hv : v ∈ visits step s es) :
    I v.before ∧ I v.after := by
  induction es generalizing s with
  | nil => cases hv
  | cons e es ih =>
    obtain ⟨hok, hrest⟩ := meets_cons.mp hes
    rcases List.mem_cons.mp hv with rfl | later
    · exact ⟨hs, hstep s e hs hok⟩
    · exact ih (hstep s e hs hok) hrest later

/-- What every event moves the state along, all later states lie ahead by. -/
theorem visits_pairwise {R : σ → σ → Prop} (I : σ → Prop)
    (htrans : ∀ {s t u}, R s t → R t u → R s u)
    (hstep : ∀ s e, I s → R s (step s e) ∧ I (step s e)) {s : σ} (hs : I s) (es : List ε) :
    (∀ v ∈ visits step s es, R s v.after) ∧
      (visits step s es).Pairwise fun v w => R v.after w.after := by
  induction es generalizing s with
  | nil => exact ⟨fun v hv => absurd hv List.not_mem_nil, List.Pairwise.nil⟩
  | cons e es ih =>
    obtain ⟨hfirst, hI⟩ := hstep s e hs
    obtain ⟨hahead, hpair⟩ := ih hI
    rw [visits_cons, List.forall_mem_cons]
    exact ⟨⟨hfirst, fun v hv => htrans hfirst (hahead v hv)⟩,
      List.pairwise_cons.mpr ⟨hahead, hpair⟩⟩

/-- When an event keeps the invariant exactly if it is allowed, the invariant
holds throughout a run exactly if every event was. -/
theorem visits_invariant_iff (I : σ → Prop)
    (hstep : ∀ s e, I s → (I (step s e) ↔ ok s e)) {s : σ} {es : List ε} (hs : I s) :
    (∀ v ∈ visits step s es, I v.after) ↔ Meets step ok s es := by
  induction es generalizing s with
  | nil => exact iff_of_true (fun v hv => by cases hv) (Meets.nil s)
  | cons e es ih =>
    rw [meets_cons, visits_cons, List.forall_mem_cons]
    constructor
    · rintro ⟨hfirst, hlater⟩
      exact ⟨(hstep s e hs).mp hfirst, (ih hfirst).mp hlater⟩
    · rintro ⟨hok, hmeets⟩
      have hfirst := (hstep s e hs).mpr hok
      exact ⟨hfirst, (ih hfirst).mpr hmeets⟩

/-- The machine with a note kept beside its state: after each event the note
is brought up to date from the visit. The machine itself does not see it. -/
def noting {ν : Type} (step : σ → ε → σ) (note : ν → Visit σ ε → ν) :
    σ × ν → ε → σ × ν :=
  fun p e => (step p.1 e, note p.2 ⟨p.1, e, step p.1 e⟩)

@[simp] theorem noting_fst {ν : Type} (note : ν → Visit σ ε → ν) (p : σ × ν) (e : ε) :
    (noting step note p e).1 = step p.1 e := rfl

@[simp] theorem noting_snd {ν : Type} (note : ν → Visit σ ε → ν) (p : σ × ν) (e : ε) :
    (noting step note p e).2 = note p.2 ⟨p.1, e, step p.1 e⟩ := rfl

end

section LastWrite

variable {σ ε κ β : Type} [DecidableEq κ] {step : σ → ε → σ}

theorem run_append (s : σ) (es : List ε) (e : ε) :
    run step s (es ++ [e]) = step (run step s es) e := by
  unfold run
  rw [List.foldl_append, List.foldl_cons, List.foldl_nil]

/-- The last event that writes a key. -/
def lastWriter (writes : ε → Prop) [DecidablePred writes] (key : ε → κ) (es : List ε) (k : κ) :
    Option ε :=
  es.reverse.find? fun e => writes e ∧ key e = k

/-- Each event writes one key of a map or none. Then the last event that wrote
a key says what is under it. -/
theorem run_lastWriter {map : σ → κ → β} {writes : ε → Prop} [DecidablePred writes]
    {key : ε → κ} {value : ε → β} {ok : ε → Prop} (s : σ) {es : List ε} (hes : ∀ e ∈ es, ok e)
    (hwrites : ∀ s e, ok e → writes e →
      map (step s e) = Function.update (map s) (key e) (value e))
    (hkeeps : ∀ s e, ok e → ¬writes e → map (step s e) = map s) (k : κ) :
    map (run step s es) k = (lastWriter writes key es k).elim (map s k) value := by
  induction es using List.reverseRecOn with
  | nil => rfl
  | append_singleton es e ih =>
    have hprefix := ih fun e' he' => hes e' (List.mem_append_left _ he')
    have hok := hes e (List.mem_append_right _ (List.mem_singleton.mpr rfl))
    unfold lastWriter at hprefix ⊢
    rw [run_append, List.reverse_append, List.reverse_singleton, List.singleton_append,
      List.find?_cons]
    by_cases hw : writes e
    · rw [hwrites _ e hok hw]
      by_cases hk : key e = k
      · rw [← hk, Function.update_self, decide_eq_true ⟨hw, rfl⟩]
        rfl
      · rw [Function.update_of_ne (Ne.symm hk), hprefix,
          decide_eq_false fun hboth => hk hboth.2]
    · rw [hkeeps _ e hok hw, hprefix, decide_eq_false fun hboth => hw hboth.1]

end LastWrite

end UCLinux.Machine
