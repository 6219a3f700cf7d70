import Mathlib.Data.List.Basic

/-!
Two lists joined to one. Two pairs are joined alike when they are the same or
when a piece at the join has moved from one list to the other. With a separator
between them such a piece holds a separator, so a first list without one is
found again.
-/

namespace UCLinux.Machine

variable {α : Type} {s : α} {x y x' y' : List α}

/-- A piece at the end of `x'` stands at the start of `y` instead. -/
def Slid (x y x' y' : List α) : Prop := ∃ m, m ≠ [] ∧ x' = x ++ m ∧ y = m ++ y'

theorem Slid.joined (h : Slid x y x' y') : x ++ y = x' ++ y' := by
  obtain ⟨m, _, hx, hy⟩ := h
  rw [hx, hy, List.append_assoc]

theorem Slid.shorter (h : Slid x y x' y') : y'.length < y.length := by
  obtain ⟨m, hm, _, hy⟩ := h
  have hpos := List.length_pos_of_ne_nil hm
  rw [hy, List.length_append]
  omega

/-- When two pairs are joined alike without a separator. -/
theorem append_eq_iff : x ++ y = x' ++ y' ↔
    (x = x' ∧ y = y') ∨ Slid x y x' y' ∨ Slid x' y' x y := by
  constructor
  · intro h
    rcases List.append_eq_append_iff.mp h with ⟨m, hx, hy⟩ | ⟨m, hx, hy⟩
    · by_cases hm : m = []
      · rw [hm, List.append_nil] at hx
        rw [hm, List.nil_append] at hy
        exact Or.inl ⟨hx.symm, hy⟩
      · exact Or.inr (Or.inl ⟨m, hm, hx, hy⟩)
    · by_cases hm : m = []
      · rw [hm, List.append_nil] at hx
        rw [hm, List.nil_append] at hy
        exact Or.inl ⟨hx, hy.symm⟩
      · exact Or.inr (Or.inr ⟨m, hm, hx, hy⟩)
  · rintro (⟨rfl, rfl⟩ | hslid | hslid)
    · rfl
    · exact hslid.joined
    · exact hslid.joined.symm

/-- A piece `m` at the end of `x'` that a separator stands before stands before
`y` instead. -/
def Moved (s : α) (x y x' y' : List α) : Prop :=
  ∃ m, x' = x ++ s :: m ∧ y = m ++ s :: y'

theorem Moved.joined (h : Moved s x y x' y') : x ++ s :: y = x' ++ s :: y' := by
  obtain ⟨m, hx, hy⟩ := h
  rw [hx, hy, List.append_assoc, List.cons_append]

theorem Moved.ne (h : Moved s x y x' y') : x ≠ x' := by
  obtain ⟨m, hx, _⟩ := h
  intro heq
  have hlength := congrArg List.length hx
  rw [heq, List.length_append, List.length_cons] at hlength
  omega

theorem Moved.mem (h : Moved s x y x' y') : s ∈ x' := by
  obtain ⟨m, rfl, _⟩ := h
  exact List.mem_append.mpr (Or.inr List.mem_cons_self)

/-- When two pairs are joined alike. -/
theorem joined_eq_iff : x ++ s :: y = x' ++ s :: y' ↔
    (x = x' ∧ y = y') ∨ Moved s x y x' y' ∨ Moved s x' y' x y := by
  constructor
  · intro h
    rcases List.append_eq_append_iff.mp h with ⟨m, hx, hy⟩ | ⟨m, hx, hy⟩
    · cases m with
      | nil => exact Or.inl ⟨by simpa using hx.symm, (List.cons.inj hy).2⟩
      | cons c m =>
        obtain ⟨rfl, hrest⟩ := List.cons.inj hy
        exact Or.inr (Or.inl ⟨m, hx, hrest⟩)
    · cases m with
      | nil => exact Or.inl ⟨by simpa using hx, (List.cons.inj hy).2.symm⟩
      | cons c m =>
        obtain ⟨rfl, hrest⟩ := List.cons.inj hy
        exact Or.inr (Or.inr ⟨m, hx, hrest⟩)
  · rintro (⟨rfl, rfl⟩ | hmoved | hmoved)
    · rfl
    · exact hmoved.joined
    · exact hmoved.joined.symm

/-- Without a separator in the first lists nothing can move. -/
theorem joined_inj (hx : s ∉ x) (hx' : s ∉ x') :
    x ++ s :: y = x' ++ s :: y' ↔ x = x' ∧ y = y' := by
  rw [joined_eq_iff]
  constructor
  · rintro (heq | hmoved | hmoved)
    · exact heq
    · exact absurd hmoved.mem hx'
    · exact absurd hmoved.mem hx
  · exact Or.inl

/-- Two separators, each behind a list without the other. -/
theorem joined_ne {s' : α} (hs : s ≠ s') (hx : s' ∉ x) (hx' : s ∉ x') :
    x ++ s :: y ≠ x' ++ s' :: y' := by
  intro h
  rcases List.append_eq_append_iff.mp h with ⟨m, rfl, hy⟩ | ⟨m, rfl, hy⟩
  · cases m with
    | nil => exact hs (List.cons.inj hy).1
    | cons c m =>
      obtain ⟨rfl, _⟩ := List.cons.inj hy
      exact hx' (List.mem_append_right _ List.mem_cons_self)
  · cases m with
    | nil => exact hs (List.cons.inj hy).1.symm
    | cons c m =>
      obtain ⟨rfl, _⟩ := List.cons.inj hy
      exact hx (List.mem_append_right _ List.mem_cons_self)

end UCLinux.Machine
