import UCLinux.Machine.Run

/-!
Calls that take several steps on a state they share. A thread has one call
under way at most, and a turn begins one or takes one step of it, so the steps
of different threads come in any order. A call that reads leaves the state as
it is. As long as a call that writes is under way alone, every call that
returns has done what it does when nothing else runs: a run of turns is a run
of whole calls.
-/

namespace UCLinux.Machine

/-- How a call goes on after one of its steps. -/
inductive Onward (κ ρ : Type) where
  | on (point : κ)
  | back (reply : ρ)

/-- A call enters its code at a point. Each step takes the shared state and the
point to the next ones, the last step to a reply. -/
structure Procedure (σ γ κ ρ : Type) where
  enter : γ → κ
  go : γ → σ → κ → σ × Onward κ ρ

/-- A call under way: the state it found when it began, and where it is. -/
structure UnderWay (σ γ κ : Type) where
  call : γ
  found : σ
  point : κ

structure Threads (n : Nat) (σ γ κ : Type) where
  shared : σ
  inside : Fin n → Option (UnderWay σ γ κ)

inductive Turn (n : Nat) (γ : Type) where
  | call (thread : Fin n) (call : γ)
  | go (thread : Fin n)

/-- The turns of a call with the state to itself. -/
def Turn.whole {n : Nat} {γ : Type} (t : Fin n) (c : γ) (steps : Nat) : List (Turn n γ) :=
  .call t c :: List.replicate steps (.go t)

/-- No thread is inside a call. -/
def Threads.idle {n : Nat} {σ γ κ : Type} (m : σ) : Threads n σ γ κ := ⟨m, fun _ => none⟩

section

variable {n : Nat} {σ γ κ ρ ν : Type} {P : Procedure σ γ κ ρ} {s : Threads n σ γ κ}
  {t : Fin n} {u : UnderWay σ γ κ} {m : σ} {k : κ} {r : ρ}

/-- A thread takes its next call when it is through with the last. -/
def Threads.step (P : Procedure σ γ κ ρ) (s : Threads n σ γ κ) : Turn n γ → Threads n σ γ κ
  | .call t c =>
    match s.inside t with
    | some _ => s
    | none => { s with inside := Function.update s.inside t (some ⟨c, s.shared, P.enter c⟩) }
  | .go t =>
    match s.inside t with
    | none => s
    | some u =>
      match P.go u.call s.shared u.point with
      | (m, .on k) => ⟨m, Function.update s.inside t (some { u with point := k })⟩
      | (m, .back _) => ⟨m, Function.update s.inside t none⟩

/-- The call that ends with a turn, and its reply. -/
def Threads.returned (P : Procedure σ γ κ ρ) (s : Threads n σ γ κ) :
    Turn n γ → Option (UnderWay σ γ κ × ρ)
  | .call .. => none
  | .go t =>
    match s.inside t with
    | none => none
    | some u =>
      match P.go u.call s.shared u.point with
      | (_, .on _) => none
      | (_, .back r) => some (u, r)

theorem Threads.step_busy {c : γ} (h : s.inside t = some u) : s.step P (.call t c) = s := by
  simp only [Threads.step, h]

theorem Threads.step_call {c : γ} (h : s.inside t = none) :
    s.step P (.call t c) =
      { s with inside := Function.update s.inside t (some ⟨c, s.shared, P.enter c⟩) } := by
  simp only [Threads.step, h]

theorem Threads.step_none (h : s.inside t = none) : s.step P (.go t) = s := by
  simp only [Threads.step, h]

theorem Threads.step_on (h : s.inside t = some u)
    (hgo : P.go u.call s.shared u.point = (m, .on k)) :
    s.step P (.go t) = ⟨m, Function.update s.inside t (some { u with point := k })⟩ := by
  simp only [Threads.step, h, hgo]

theorem Threads.step_back (h : s.inside t = some u)
    (hgo : P.go u.call s.shared u.point = (m, .back r)) :
    s.step P (.go t) = ⟨m, Function.update s.inside t none⟩ := by
  simp only [Threads.step, h, hgo]

/-- A call returns with a last step of its own. -/
theorem Threads.returned_eq_some {e : Turn n γ} (h : s.returned P e = some (u, r)) :
    ∃ t m, e = .go t ∧ s.inside t = some u ∧ P.go u.call s.shared u.point = (m, .back r) := by
  cases e with
  | call t c => cases h
  | go t =>
    unfold Threads.returned at h
    cases hin : s.inside t with
    | none => simp only [hin, reduceCtorEq] at h
    | some u' =>
      rcases hgo : P.go u'.call s.shared u'.point with ⟨m, k | r'⟩
      · simp only [hin, hgo, reduceCtorEq] at h
      · simp only [hin, hgo, Option.some.injEq, Prod.mk.injEq] at h
        obtain ⟨rfl, rfl⟩ := h
        exact ⟨t, m, rfl, hin, hgo⟩

/-- Undisturbed, a call leaves the state and the reply of `o`. -/
inductive Procedure.Ends (P : Procedure σ γ κ ρ) (c : γ) (o : σ × ρ) : σ → κ → Prop where
  | back {m : σ} {k : κ} (last : P.go c m k = (o.1, .back o.2)) : P.Ends c o m k
  | on {m p : σ} {k l : κ} (first : P.go c m k = (p, .on l)) (rest : P.Ends c o p l) :
      P.Ends c o m k

/-- What the calls do when each has the state to itself. -/
def Procedure.Computes (P : Procedure σ γ κ ρ) (f : σ → γ → σ × ρ) : Prop :=
  ∀ m c, P.Ends c (f m c) m (P.enter c)

theorem Procedure.Ends.on_inv {c : γ} {o : σ × ρ} {m' : σ} {k' : κ} (h : P.Ends c o m k)
    (hgo : P.go c m k = (m', .on k')) : P.Ends c o m' k' := by
  cases h with
  | back last =>
    rw [hgo, Prod.mk.injEq] at last
    exact nomatch last.2
  | on first rest =>
    rw [hgo, Prod.mk.injEq, Onward.on.injEq] at first
    obtain ⟨rfl, rfl⟩ := first
    exact rest

theorem Procedure.Ends.back_inv {c : γ} {o : σ × ρ} {m' : σ} (h : P.Ends c o m k)
    (hgo : P.go c m k = (m', .back r)) : o = (m', r) := by
  cases h with
  | back last =>
    rw [hgo, Prod.mk.injEq, Onward.back.injEq] at last
    exact Prod.ext last.1.symm last.2.symm
  | on first rest =>
    rw [hgo, Prod.mk.injEq] at first
    exact nomatch first.2

/-- A loop over a list of the state that looks for an element: it skips those
before the first one sought. -/
theorem Procedure.Ends.search {α : Type} {c : γ} {o : σ × ρ} (xs : List α) (sought : α → Prop)
    (loop : Nat → κ)
    (hskip : ∀ i x, xs[i]? = some x → ¬sought x → P.go c m (loop i) = (m, .on (loop (i + 1))))
    (hfound : ∀ before x after, xs = before ++ x :: after → xs[before.length]? = some x →
      (∀ y ∈ before, ¬sought y) → sought x → P.Ends c o m (loop before.length))
    (hend : (∀ y ∈ xs, ¬sought y) → P.Ends c o m (loop xs.length)) : P.Ends c o m (loop 0) := by
  suffices hrest : ∀ rest before, xs = before ++ rest → (∀ y ∈ before, ¬sought y) →
      P.Ends c o m (loop before.length) from hrest xs [] rfl (by simp)
  intro rest
  induction rest with
  | nil =>
    intro before hxs hnone
    rw [List.append_nil] at hxs
    subst hxs
    exact hend hnone
  | cons x rest ih =>
    intro before hxs hnone
    have hat : xs[before.length]? = some x := by
      rw [hxs, List.getElem?_append_right (Nat.le_refl _), Nat.sub_self]
      rfl
    by_cases hx : sought x
    · exact hfound before x rest hxs hat hnone hx
    · have hlater := ih (before ++ [x]) (by rw [hxs, List.append_assoc]; rfl) (by
        intro y hy
        rcases List.mem_append.mp hy with hy | hy
        · exact hnone y hy
        · rw [List.mem_singleton.mp hy]
          exact hx)
      rw [List.length_append, List.length_singleton] at hlater
      exact .on (hskip _ x hat hx) hlater

/-- A call under way that is left alone returns. -/
theorem Procedure.Ends.returns {o : σ × ρ} (hin : s.inside t = some u)
    (h : P.Ends u.call o s.shared u.point) :
    ∃ i, (run (Threads.step P) s (List.replicate i (.go t))).inside t = none := by
  generalize hm : s.shared = m at h
  generalize hk : u.point = k at h
  generalize hc : u.call = c at h
  induction h generalizing s u with
  | back last =>
    subst hm hk hc
    refine ⟨1, ?_⟩
    rw [List.replicate_one, run_cons, run_nil, Threads.step_back hin last]
    exact Function.update_self ..
  | @on _ m' _ k' first _ ih =>
    subst hm hk hc
    have hstep := Threads.step_on hin first
    obtain ⟨i, hi⟩ := ih (s := s.step P (.go t)) (u := { u with point := k' })
      (by rw [hstep]; exact Function.update_self ..) (by rw [hstep]) rfl rfl
    exact ⟨i + 1, hi⟩

/-- The calls with a note kept beside the state of the calls that returned. -/
def Procedure.noting (P : Procedure σ γ κ ρ) (note : ν → γ → ν) : Procedure (σ × ν) γ κ ρ where
  enter := P.enter
  go c p k :=
    match P.go c p.1 k with
    | (m, .on k) => ((m, p.2), .on k)
    | (m, .back r) => ((m, note p.2 c), .back r)

theorem Procedure.Computes.noting {f : σ → γ → σ × ρ} (h : P.Computes f) (note : ν → γ → ν) :
    (P.noting note).Computes fun p c => (((f p.1 c).1, note p.2 c), (f p.1 c).2) := by
  intro p c
  obtain ⟨m, l⟩ := p
  dsimp only
  have hends := h m c
  show (P.noting note).Ends c _ (m, l) (P.enter c)
  generalize f m c = o at hends
  generalize P.enter c = k at hends
  induction hends with
  | back last =>
    apply Procedure.Ends.back
    simp only [Procedure.noting, last]
  | on first rest ih =>
    refine .on ?_ ih
    simp only [Procedure.noting, first]

/-- A call that writes begins when no other is under way, one that reads when
none that writes is. -/
def Threads.Apart (reads : γ → Bool) (s : Threads n σ γ κ) : Turn n γ → Prop
  | .call _ c => ∀ t, ∀ u ∈ s.inside t, reads c ∧ reads u.call
  | .go _ => True

/-- A call is allowed in the state it finds. -/
def Threads.Begins (ok : σ → γ → Prop) (s : Threads n σ γ κ) : Turn n γ → Prop
  | .call _ c => ok s.shared c
  | .go _ => True

instance (reads : γ → Bool) (s : Threads n σ γ κ) : (e : Turn n γ) → Decidable (s.Apart reads e)
  | .call _ c => inferInstanceAs (Decidable (∀ t, ∀ u ∈ s.inside t, reads c ∧ reads u.call))
  | .go _ => inferInstanceAs (Decidable True)

instance (ok : σ → γ → Prop) [∀ m c, Decidable (ok m c)] (s : Threads n σ γ κ) :
    (e : Turn n γ) → Decidable (s.Begins ok e)
  | .call _ c => inferInstanceAs (Decidable (ok s.shared c))
  | .go _ => inferInstanceAs (Decidable True)

/-- Every call under way ends as it would end alone, one that reads still sees
what it found, and one that writes is the only one. -/
structure Threads.Serial (P : Procedure σ γ κ ρ) (f : σ → γ → σ × ρ) (reads : γ → Bool)
    (I : σ → Prop) (ok : σ → γ → Prop) (s : Threads n σ γ κ) : Prop where
  ends : ∀ t, ∀ u ∈ s.inside t,
    I u.found ∧ ok u.found u.call ∧ P.Ends u.call (f u.found u.call) s.shared u.point
  reader : ∀ t, ∀ u ∈ s.inside t, reads u.call → u.found = s.shared
  writer : ∀ t, ∀ u ∈ s.inside t, ¬reads u.call → ∀ t', t' ≠ t → s.inside t' = none
  quiet : (∀ t, ∀ u ∈ s.inside t, reads u.call) → I s.shared

end

section

variable {n : Nat} {σ γ κ ρ : Type} {P : Procedure σ γ κ ρ} {f : σ → γ → σ × ρ}
  {reads : γ → Bool} {I : σ → Prop} {ok : σ → γ → Prop} {s : Threads n σ γ κ}

theorem Threads.Serial.idle {m : σ} (h : I m) :
    (Threads.idle m : Threads n σ γ κ).Serial P f reads I ok := by
  have hnone : ∀ t, ∀ u, u ∉ (Threads.idle m : Threads n σ γ κ).inside t :=
    fun _ _ => Option.not_mem_none _
  exact ⟨fun t u hu => absurd hu (hnone t u), fun t u hu => absurd hu (hnone t u),
    fun t u hu => absurd hu (hnone t u), fun _ => h⟩

/-- What a thread's slot holds once one was written. -/
theorem mem_update {inside : Fin n → Option (UnderWay σ γ κ)} {t t' : Fin n}
    {o : Option (UnderWay σ γ κ)} {u : UnderWay σ γ κ} (h : u ∈ Function.update inside t o t') :
    t' = t ∧ o = some u ∨ t' ≠ t ∧ u ∈ inside t' := by
  by_cases heq : t' = t
  · subst heq
    rw [Function.update_self] at h
    exact .inl ⟨rfl, h⟩
  · rw [Function.update_of_ne heq] at h
    exact .inr ⟨heq, h⟩

theorem Threads.Serial.call (hf : P.Computes f) (h : s.Serial P f reads I ok) {t : Fin n} {c : γ}
    (hapart : s.Apart reads (.call t c)) (hok : ok s.shared c) :
    (s.step P (.call t c)).Serial P f reads I ok := by
  cases hin : s.inside t with
  | some u =>
    rw [Threads.step_busy hin]
    exact h
  | none =>
    have hreads : ∀ t, ∀ u ∈ s.inside t, reads u.call := fun t u hu => (hapart t u hu).2
    have hI : I s.shared := h.quiet hreads
    rw [Threads.step_call hin]
    constructor
    · intro t' u hu
      obtain ⟨rfl, heq⟩ | ⟨_, hold⟩ := mem_update hu
      · cases heq
        exact ⟨hI, hok, hf s.shared c⟩
      · exact h.ends t' u hold
    · intro t' u hu hread
      obtain ⟨rfl, heq⟩ | ⟨_, hold⟩ := mem_update hu
      · cases heq
        rfl
      · exact h.reader t' u hold hread
    · intro t' u hu hwrite t'' hne
      obtain ⟨rfl, heq⟩ | ⟨_, hold⟩ := mem_update hu
      · cases heq
        dsimp only
        rw [Function.update_of_ne hne]
        cases hother : s.inside t'' with
        | none => rfl
        | some w => exact absurd (hapart t'' w hother).1 hwrite
      · exact absurd (hreads t' u hold) hwrite
    · exact fun _ => hI

/-- What a step of a call does to the others: one that reads changes nothing,
one that writes is alone. -/
theorem Threads.Serial.others (hreads : ∀ c m k, reads c → (P.go c m k).1 = m)
    (h : s.Serial P f reads I ok) {t : Fin n} {u : UnderWay σ γ κ} (hu : u ∈ s.inside t) :
    (P.go u.call s.shared u.point).1 = s.shared ∨ ∀ t', t' ≠ t → s.inside t' = none := by
  by_cases hread : reads u.call
  · exact .inl (hreads _ _ _ hread)
  · exact .inr (h.writer t u hu hread)

theorem Threads.Serial.on (hreads : ∀ c m k, reads c → (P.go c m k).1 = m)
    (h : s.Serial P f reads I ok) {t : Fin n} {u : UnderWay σ γ κ} (hu : u ∈ s.inside t) {m : σ}
    {k : κ} (hgo : P.go u.call s.shared u.point = (m, .on k)) :
    (s.step P (.go t)).Serial P f reads I ok := by
  have hothers := h.others hreads hu
  rw [hgo] at hothers
  dsimp only at hothers
  have hsame : reads u.call → m = s.shared := fun hread => by
    have hkeep := hreads u.call s.shared u.point hread
    rwa [hgo] at hkeep
  obtain ⟨hI, hok, hends⟩ := h.ends t u hu
  rw [Threads.step_on hu hgo]
  constructor
  · intro t' w hw
    obtain ⟨rfl, heq⟩ | ⟨hne, hold⟩ := mem_update hw
    · cases heq
      exact ⟨hI, hok, hends.on_inv hgo⟩
    · rcases hothers with rfl | hnone
      · exact h.ends t' w hold
      · rw [hnone t' hne] at hold
        cases hold
  · intro t' w hw hread
    obtain ⟨rfl, heq⟩ | ⟨hne, hold⟩ := mem_update hw
    · cases heq
      exact (h.reader t' u hu hread).trans (hsame hread).symm
    · rcases hothers with rfl | hnone
      · exact h.reader t' w hold hread
      · rw [hnone t' hne] at hold
        cases hold
  · intro t' w hw hwrite t'' hne
    dsimp only
    obtain ⟨rfl, heq⟩ | ⟨hne', hold⟩ := mem_update hw
    · cases heq
      rw [Function.update_of_ne hne]
      exact h.writer t' u hu hwrite t'' hne
    · have hgone : s.inside t = none := h.writer t' w hold hwrite t hne'.symm
      rw [hgone] at hu
      cases hu
  · intro hall
    have hread : reads u.call :=
      hall t { u with point := k } (Function.update_self ..)
    rw [hsame hread]
    refine h.quiet fun t' w hw => ?_
    by_cases heq : t' = t
    · subst heq
      cases hu.symm.trans hw
      exact hread
    · exact hall t' w ((Function.update_of_ne heq ..).trans hw)

theorem Threads.Serial.back (hreads : ∀ c m k, reads c → (P.go c m k).1 = m)
    (hstep : ∀ m c, I m → ok m c → I (f m c).1) (h : s.Serial P f reads I ok) {t : Fin n}
    {u : UnderWay σ γ κ} (hu : u ∈ s.inside t) {m : σ} {r : ρ}
    (hgo : P.go u.call s.shared u.point = (m, .back r)) :
    (s.step P (.go t)).Serial P f reads I ok := by
  have hothers := h.others hreads hu
  rw [hgo] at hothers
  dsimp only at hothers
  obtain ⟨hI, hok, hends⟩ := h.ends t u hu
  rw [Threads.step_back hu hgo]
  constructor
  · intro t' w hw
    obtain ⟨rfl, heq⟩ | ⟨hne, hold⟩ := mem_update hw
    · cases heq
    · rcases hothers with rfl | hnone
      · exact h.ends t' w hold
      · rw [hnone t' hne] at hold
        cases hold
  · intro t' w hw hread
    obtain ⟨rfl, heq⟩ | ⟨hne, hold⟩ := mem_update hw
    · cases heq
    · rcases hothers with rfl | hnone
      · exact h.reader t' w hold hread
      · rw [hnone t' hne] at hold
        cases hold
  · intro t' w hw hwrite t'' hne
    obtain ⟨rfl, heq⟩ | ⟨hne', hold⟩ := mem_update hw
    · cases heq
    · have hgone : s.inside t = none := h.writer t' w hold hwrite t hne'.symm
      rw [hgone] at hu
      cases hu
  · intro _
    have hout : f u.found u.call = (m, r) := hends.back_inv hgo
    have hkept := hstep u.found u.call hI hok
    rwa [hout] at hkept

theorem Threads.Serial.step (hf : P.Computes f) (hreads : ∀ c m k, reads c → (P.go c m k).1 = m)
    (hstep : ∀ m c, I m → ok m c → I (f m c).1) (h : s.Serial P f reads I ok) {e : Turn n γ}
    (hapart : s.Apart reads e) (hok : s.Begins ok e) : (s.step P e).Serial P f reads I ok := by
  cases e with
  | call t c => exact h.call hf hapart hok
  | go t =>
    cases hin : s.inside t with
    | none =>
      rw [Threads.step_none hin]
      exact h
    | some u =>
      rcases hgo : P.go u.call s.shared u.point with ⟨m, k | r⟩
      · exact h.on hreads hin hgo
      · exact h.back hreads hstep hin hgo

/-- A call that returns has done what it does alone, from a state in which the
invariant holds and the call is allowed; if it reads, that state is still there. -/
theorem Threads.Serial.returned (hreads : ∀ c m k, reads c → (P.go c m k).1 = m)
    (h : s.Serial P f reads I ok) {e : Turn n γ} {u : UnderWay σ γ κ} {r : ρ}
    (hret : s.returned P e = some (u, r)) :
    I u.found ∧ ok u.found u.call ∧ f u.found u.call = ((s.step P e).shared, r) ∧
      (reads u.call → u.found = (s.step P e).shared) := by
  obtain ⟨t, m, rfl, hin, hgo⟩ := Threads.returned_eq_some hret
  obtain ⟨hI, hok, hends⟩ := h.ends t u hin
  rw [Threads.step_back hin hgo]
  refine ⟨hI, hok, hends.back_inv hgo, fun hread => ?_⟩
  have hkeep := hreads u.call s.shared u.point hread
  rw [hgo] at hkeep
  exact (h.reader t u hin hread).trans hkeep.symm

/-- A call under way returns once its thread goes on. -/
theorem Threads.Serial.returns (h : s.Serial P f reads I ok) (t : Fin n) :
    ∃ i, (run (Threads.step P) s (List.replicate i (.go t))).inside t = none := by
  cases hin : s.inside t with
  | none => exact ⟨0, hin⟩
  | some u => exact (h.ends t u hin).2.2.returns hin

/-- Calls that keep an invariant, in a run in which the writing ones are apart:
each that returns has done what it does alone, and each under way returns. -/
theorem returns_whole (hf : P.Computes f) (hreads : ∀ c m k, reads c → (P.go c m k).1 = m)
    (hstep : ∀ m c, I m → ok m c → I (f m c).1) {m : σ} (hm : I m) {es : List (Turn n γ)}
    (hapart : Meets (Threads.step P) (Threads.Apart reads) (.idle m) es)
    (hok : Meets (Threads.step P) (Threads.Begins ok) (.idle m) es)
    {v : Visit (Threads n σ γ κ) (Turn n γ)} (hv : v ∈ visits (Threads.step P) (.idle m) es) :
    (∀ u r, v.before.returned P v.event = some (u, r) →
      I u.found ∧ ok u.found u.call ∧ f u.found u.call = (v.after.shared, r) ∧
        (reads u.call → u.found = v.after.shared)) ∧
    ∀ t, ∃ i, (run (Threads.step P) v.after (List.replicate i (.go t))).inside t = none := by
  have hboth : Meets (Threads.step P) (fun s e => s.Apart reads e ∧ s.Begins ok e) (.idle m) es :=
    fun v hv => ⟨hapart v hv, hok v hv⟩
  obtain ⟨hbefore, hafter⟩ := visits_invariant (Threads.Serial P f reads I ok)
    (fun _ _ h he => h.step hf hreads hstep he.1 he.2) (Threads.Serial.idle hm) hboth hv
  constructor
  · intro u r hret
    rw [after_eq_step hv]
    exact hbefore.returned hreads hret
  · exact hafter.returns

end

end UCLinux.Machine
