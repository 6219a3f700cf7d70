import UCLinux.Machine.Action

/-!
Two runs side by side. `Alike R P x y` compares an action with another one from
states that `R` relates, after as many questions and so in the same
environment: the values they return are related by `P`, the states they leave
by `R`, and they have asked as much. When `R` says that somebody sees the same
of both states, an action that is alike itself shows him nothing else.
-/

namespace UCLinux.Machine.Action

variable {σ α β γ δ : Type}

def Alike (R : σ → σ → Prop) (P : α → β → Prop) (x : Action σ α) (y : Action σ β) : Prop :=
  ∀ k k' : Session σ, R k.state k'.state → k.asked = k'.asked →
    P (x k).1 (y k').1 ∧ R (x k).2.state (y k').2.state ∧ (x k).2.asked = (y k').2.asked

variable {R : σ → σ → Prop} {P : α → β → Prop} {Q : γ → δ → Prop}

theorem Alike.pure {a : α} {b : β} (h : P a b) :
    Alike R P (Pure.pure a) (Pure.pure b) :=
  fun _ _ hR hasked => ⟨h, hR, hasked⟩

theorem Alike.bind {x : Action σ α} {y : Action σ β} {f : α → Action σ γ} {g : β → Action σ δ}
    (hx : Alike R P x y) (hf : ∀ a b, P a b → Alike R Q (f a) (g b)) :
    Alike R Q (x >>= f) (y >>= g) := by
  intro k k' hR hasked
  obtain ⟨hP, hR', hasked'⟩ := hx k k' hR hasked
  exact hf _ _ hP _ _ hR' hasked'

/-- Both runs return the same and go on in the same way. -/
theorem Alike.bind_same {x y : Action σ α} {f : α → Action σ γ} {g : α → Action σ δ}
    (hx : Alike R Eq x y) (hf : ∀ a, Alike R Q (f a) (g a)) : Alike R Q (x >>= f) (y >>= g) := by
  apply hx.bind
  rintro a b rfl
  exact hf a

theorem Alike.ite {p : Prop} [Decidable p] {x x' : Action σ α} {y y' : Action σ β}
    (hx : p → Alike R P x y) (hy : ¬p → Alike R P x' y') :
    Alike R P (if p then x else x') (if p then y else y') := by
  split
  · exact hx ‹p›
  · exact hy ‹¬p›

theorem Alike.ask (answer : Nat → α) :
    Alike R Eq (Action.ask answer : Action σ α) (Action.ask answer) :=
  fun _ _ hR hasked => ⟨congrArg answer hasked, hR, congrArg (· + 1) hasked⟩

end UCLinux.Machine.Action
