import Mathlib.Data.List.Basic

/-!
Programs that call an object and choose each call by what the ones before it
answered. A call may throw, which ends the program. The record of the calls
shows what states a program calls the object in, whatever the program is: what
every safe call keeps holds at each call, and calls that make headway are no
more than there is way to make.
-/

namespace UCLinux.Machine

/-- A program whose calls `c` are answered by an `R c`. -/
inductive Program (C : Type) (R : C → Type) (α : Type) where
  | done (a : α)
  | call (c : C) (next : R c → Program C R α)

/-- A call and the state it is made in. -/
structure Called (σ C : Type) where
  before : σ
  call : C

namespace Program

variable {C : Type} {R : C → Type} {α β σ : Type}

def bind : Program C R α → (α → Program C R β) → Program C R β
  | done a, f => f a
  | call c next, f => call c fun r => (next r).bind f

instance : Monad (Program C R) where
  pure := done
  bind := bind

/-- A program of one call. -/
def ask (c : C) : Program C R (R c) := call c done

variable (step : σ → (c : C) → σ × Option (R c))

/-- The calls of a program; the last one may have thrown. -/
def calls : Program C R α → σ → List (Called σ C)
  | done _, _ => []
  | call c next, s => ⟨s, c⟩ ::
      (step s c).2.elim [] fun r => (next r).calls (step s c).1

/-- What a program returns and the state it leaves; nothing when a call throws. -/
def run : Program C R α → σ → Option (α × σ)
  | done a, s => some (a, s)
  | call c next, s => (step s c).2.bind fun r => (next r).run (step s c).1

variable {step} {p : Program C R α} {s : σ}

@[simp] theorem run_pure (a : α) : (pure a : Program C R α).run step s = some (a, s) := rfl

@[simp] theorem calls_pure (a : α) : (pure a : Program C R α).calls step s = [] := rfl

theorem run_ask {c : C} {r : R c} {t : σ} (h : step s c = (t, some r)) :
    (ask c : Program C R (R c)).run step s = some (r, t) := by
  unfold ask run
  rw [h]
  rfl

theorem calls_ask {c : C} : (ask c : Program C R (R c)).calls step s = [⟨s, c⟩] := by
  unfold ask calls
  cases (step s c).2 <;> rfl

theorem run_bind (f : α → Program C R β) :
    (p >>= f).run step s = (p.run step s).bind fun q => (f q.1).run step q.2 := by
  induction p generalizing s with
  | done a => rfl
  | call c next ih =>
    have hcall : ((call c next : Program C R α) >>= f) = call c fun r => next r >>= f := rfl
    rw [hcall, run, run, Option.bind_assoc]
    exact congrArg _ (funext fun r => ih r)

/-- One program after another calls the object where the first one left it. -/
theorem calls_bind (f : α → Program C R β) :
    (p >>= f).calls step s =
      p.calls step s ++ (p.run step s).elim [] fun q => (f q.1).calls step q.2 := by
  induction p generalizing s with
  | done a => rfl
  | call c next ih =>
    have hcall : ((call c next : Program C R α) >>= f) = call c fun r => next r >>= f := rfl
    rw [hcall, calls, calls, run]
    cases (step s c).2 with
    | none => rfl
    | some r => exact congrArg _ (ih r)

/-- Calls are safe exactly when they are allowed, where an invariant holds that
safe calls keep. -/
theorem calls_safe_iff {I : σ → Prop} {Safe Allowed : σ → C → Prop}
    (hiff : ∀ s c, I s → (Safe s c ↔ Allowed s c))
    (hkeep : ∀ s c, I s → Safe s c → I (step s c).1) (hs : I s) :
    (∀ v ∈ p.calls step s, Safe v.before v.call) ↔
      ∀ v ∈ p.calls step s, Allowed v.before v.call := by
  have hnone {P : Called σ C → Prop} : ∀ v ∈ ([] : List (Called σ C)), P v :=
    fun v hv => absurd hv List.not_mem_nil
  induction p generalizing s with
  | done a => exact iff_of_true hnone hnone
  | call c next ih =>
    unfold calls
    rw [List.forall_mem_cons, List.forall_mem_cons]
    refine (and_congr_left' (hiff s c hs)).trans (and_congr_right fun hallowed => ?_)
    cases (step s c).2 with
    | none => exact iff_of_true hnone hnone
    | some r => exact ih r (hkeep s c hs ((hiff s c hs).mpr hallowed))

/-- A program ends after as many calls as there is headway to make, and one that
throws. -/
theorem length_calls_le {I : σ → Prop} (μ : σ → Nat)
    (hreturn : ∀ s c, I s → (step s c).2.isSome → I (step s c).1 ∧ μ (step s c).1 < μ s)
    (hs : I s) : (p.calls step s).length ≤ μ s + 1 := by
  induction p generalizing s with
  | done a => exact Nat.zero_le _
  | call c next ih =>
    unfold calls
    rw [List.length_cons]
    cases hanswer : (step s c).2 with
    | none => exact Nat.succ_le_succ (Nat.zero_le _)
    | some r =>
      obtain ⟨hkept, hless⟩ := hreturn s c hs (by rw [hanswer]; rfl)
      have hrest := ih r hkept
      rw [Option.elim_some]
      omega

end Program

end UCLinux.Machine
