/-!
Programs that act on a state while an environment answers for everything they
cannot compute: whether a connection opens, whether a statement raises, what
the clock reads. Answers are looked up by the number of questions asked so
far, so one environment fixes a whole execution and a theorem about every
environment is a theorem about every outcome.

`Within R` says that an action moves the state along `R` only. For a
reflexive and transitive `R` it is closed under sequencing, which is how a
frame condition on the statements of a program becomes one on the program.
-/

namespace UCLinux.Machine

/-- The program's state and the number of questions asked so far. -/
structure Session (σ : Type) where
  state : σ
  asked : Nat

/-- The session after one more question. -/
def Session.tick {σ : Type} (s : Session σ) : Session σ := ⟨s.state, s.asked + 1⟩

@[simp] theorem Session.tick_state {σ : Type} (s : Session σ) :
    s.tick.state = s.state := rfl

@[simp] theorem Session.tick_asked {σ : Type} (s : Session σ) :
    s.tick.asked = s.asked + 1 := rfl

def Action (σ α : Type) : Type := Session σ → α × Session σ

namespace Action

variable {σ α β : Type}

instance : Monad (Action σ) where
  pure a := fun s => (a, s)
  bind x f := fun s => f (x s).1 (x s).2

@[simp] theorem pure_apply (a : α) (s : Session σ) :
    (pure a : Action σ α) s = (a, s) := rfl

@[simp] theorem bind_apply (x : Action σ α) (f : α → Action σ β) (s : Session σ) :
    (x >>= f) s = f (x s).1 (x s).2 := rfl

@[simp] theorem map_apply (x : Action σ α) (f : α → β) (s : Session σ) :
    (f <$> x) s = (f (x s).1, (x s).2) := rfl

@[simp] theorem ite_apply (p : Prop) [Decidable p] (x y : Action σ α)
    (s : Session σ) : (if p then x else y) s = if p then x s else y s := by
  split <;> rfl

/-- One question to the environment. -/
def ask (answer : Nat → α) : Action σ α := fun s => (answer s.asked, s.tick)

/-- Reading the state. -/
def look (f : σ → α) : Action σ α := fun s => (f s.state, s)

/-- Replacing the state. -/
def put (f : σ → σ) : Action σ Unit := fun s => ((), ⟨f s.state, s.asked⟩)

@[simp] theorem ask_apply (answer : Nat → α) (s : Session σ) :
    ask answer s = (answer s.asked, s.tick) := rfl

@[simp] theorem look_apply (f : σ → α) (s : Session σ) :
    look f s = (f s.state, s) := rfl

@[simp] theorem put_apply (f : σ → σ) (s : Session σ) :
    put f s = ((), ⟨f s.state, s.asked⟩) := rfl

/-- An action on a part of the state. -/
def zoom {τ : Type} (get : σ → τ) (set : σ → τ → σ) (x : Action τ α) : Action σ α := fun s =>
  ((x ⟨get s.state, s.asked⟩).1,
    ⟨set s.state (x ⟨get s.state, s.asked⟩).2.state, (x ⟨get s.state, s.asked⟩).2.asked⟩)

/-- The action moves the state along `R`, whatever the environment. -/
def Within (R : σ → σ → Prop) (x : Action σ α) : Prop :=
  ∀ s, R s.state (x s).2.state

/-- A relation programs can be framed by. -/
structure Frame (R : σ → σ → Prop) : Prop where
  refl : ∀ s, R s s
  trans : ∀ {s t u}, R s t → R t u → R s u

/-- Actions that leave the state as it is. -/
theorem Frame.unchanged : Frame (σ := σ) Eq :=
  ⟨fun _ => rfl, fun hst htu => hst.trans htu⟩

variable {R : σ → σ → Prop}

theorem Within.pure (hR : Frame R) (a : α) : Within R (pure a : Action σ α) :=
  fun s => hR.refl s.state

theorem Within.bind (hR : Frame R) {x : Action σ α} {f : α → Action σ β}
    (hx : Within R x) (hf : ∀ a, Within R (f a)) : Within R (x >>= f) :=
  fun s => hR.trans (hx s) (hf (x s).1 (x s).2)

theorem Within.ite {p : Prop} [Decidable p] {x y : Action σ α}
    (hx : p → Within R x) (hy : ¬p → Within R y) :
    Within R (if p then x else y) := by
  split
  · exact hx ‹p›
  · exact hy ‹¬p›

theorem Within.ask (hR : Frame R) (answer : Nat → α) :
    Within R (Action.ask answer : Action σ α) :=
  fun s => hR.refl s.state

theorem Within.look (hR : Frame R) (f : σ → α) : Within R (Action.look f) :=
  fun s => hR.refl s.state

theorem Within.put {f : σ → σ} (hf : ∀ s, R s (f s)) : Within R (Action.put f) :=
  fun s => hf s.state

theorem Within.mono {R' : σ → σ → Prop} (h : ∀ s t, R s t → R' s t)
    {x : Action σ α} (hx : Within R x) : Within R' x :=
  fun s => h _ _ (hx s)

/-- Whatever the state and the environment, the action returns a `P`. -/
def Returns (P : α → Prop) (x : Action σ α) : Prop := ∀ s, P (x s).1

theorem Returns.pure {P : α → Prop} {a : α} (h : P a) : Returns P (pure a : Action σ α) :=
  fun _ => h

theorem Returns.bind {P : β → Prop} {x : Action σ α} {f : α → Action σ β}
    (hf : ∀ a, Returns P (f a)) : Returns P (x >>= f) :=
  fun s => hf (x s).1 (x s).2

/-- From a state with `I` the action returns a `P` and leaves a state with
`I`. -/
def Keeps (I : σ → Prop) (P : α → Prop) (x : Action σ α) : Prop :=
  ∀ s, I s.state → P (x s).1 ∧ I (x s).2.state

variable {I : σ → Prop} {P : α → Prop} {Q : β → Prop}

theorem Keeps.pure {a : α} (h : P a) : Keeps I P (pure a : Action σ α) :=
  fun _ hI => ⟨h, hI⟩

theorem Keeps.bind {x : Action σ α} {f : α → Action σ β} (hx : Keeps I P x)
    (hf : ∀ a, P a → Keeps I Q (f a)) : Keeps I Q (x >>= f) := by
  intro s hI
  obtain ⟨hP, hI'⟩ := hx s hI
  exact hf (x s).1 hP (x s).2 hI'

theorem Keeps.ite {p : Prop} [Decidable p] {x y : Action σ α} (hx : p → Keeps I P x)
    (hy : ¬p → Keeps I P y) : Keeps I P (if p then x else y) := by
  split
  · exact hx ‹p›
  · exact hy ‹¬p›

/-- An action along a relation that passes `I` on keeps `I`. -/
theorem Keeps.of_within {x : Action σ α} (hx : Within R x) (hR : ∀ s t, R s t → I s → I t) :
    Keeps I (fun _ => True) x :=
  fun s hI => ⟨trivial, hR _ _ (hx s) hI⟩

end Action

end UCLinux.Machine
