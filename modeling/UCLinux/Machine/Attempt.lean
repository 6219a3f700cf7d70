/-!
Programs that act on a state and may stop before their end. What they did by then is not
undone: whoever catches the error goes on in the state they stopped in.
-/

namespace UCLinux.Machine

def Attempt (σ ε α : Type) : Type := σ → Except ε α × σ

namespace Attempt

variable {σ ε α β : Type}

instance : Monad (Attempt σ ε) where
  pure a := fun s => (.ok a, s)
  bind x f := fun s =>
    match x s with
    | (.ok a, s') => f a s'
    | (.error e, s') => (.error e, s')

def fail (e : ε) : Attempt σ ε α := fun s => (.error e, s)

/-- What depends on the state, which stays as it is. -/
def look (f : σ → Except ε α) : Attempt σ ε α := fun s => (f s, s)

def put (f : σ → σ) : Attempt σ ε Unit := fun s => (.ok (), f s)

/-- An error is handled in the state it was met in. -/
def catching (x : Attempt σ ε α) (handle : ε → Attempt σ ε α) : Attempt σ ε α := fun s =>
  match x s with
  | (.ok a, s') => (.ok a, s')
  | (.error e, s') => handle e s'

/-- The program over and over, as often as is said. -/
def many (x : Attempt σ ε α) : Nat → Attempt σ ε (List α)
  | 0 => pure []
  | n + 1 => do
    let a ← x
    let as ← many x n
    pure (a :: as)

variable {x : Attempt σ ε α} {f : α → Attempt σ ε β} {s s' : σ} {a : α} {e : ε}

@[simp] theorem pure_apply (a : α) (s : σ) : (pure a : Attempt σ ε α) s = (.ok a, s) := rfl

@[simp] theorem fail_apply (e : ε) (s : σ) : (fail e : Attempt σ ε α) s = (.error e, s) := rfl

@[simp] theorem look_apply (f : σ → Except ε α) (s : σ) : look f s = (f s, s) := rfl

@[simp] theorem put_apply (f : σ → σ) (s : σ) : (put f : Attempt σ ε Unit) s = (.ok (), f s) := rfl

theorem many_succ (x : Attempt σ ε α) (n : Nat) :
    many x (n + 1) = (do
      let a ← x
      let as ← many x n
      pure (a :: as)) := rfl

theorem bind_ok (h : x s = (.ok a, s')) : (x >>= f) s = f a s' := by
  change (match x s with
    | (.ok a, s') => f a s'
    | (.error e, s') => (.error e, s')) = f a s'
  rw [h]

theorem bind_error (h : x s = (.error e, s')) : (x >>= f) s = (.error e, s') := by
  change (match x s with
    | (.ok a, s') => f a s'
    | (.error e, s') => (.error e, s')) = (.error e, s')
  rw [h]

theorem catching_ok {handle : ε → Attempt σ ε α} (h : x s = (.ok a, s')) :
    x.catching handle s = (.ok a, s') := by
  unfold catching
  rw [h]

theorem catching_error {handle : ε → Attempt σ ε α} (h : x s = (.error e, s')) :
    x.catching handle s = handle e s' := by
  unfold catching
  rw [h]

end Attempt

end UCLinux.Machine
