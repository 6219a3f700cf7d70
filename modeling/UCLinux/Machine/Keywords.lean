import Mathlib.Data.List.Infix
import Mathlib.Data.List.TakeWhile
import UCLinux.Machine.Joined

/-!
Lines told apart by the keywords that occur in them. Of a chain of keywords the
first one that occurs anywhere in the line decides. In a line of words with
separators a keyword without a separator occurs in one of the words, and a
keyword with one over the separator of the line.
-/

namespace UCLinux.Machine

section Chains

variable {κ α : Type} [DecidableEq α] (keyword : κ → List α)

/-- The first of the chain whose keyword occurs. -/
def classify (chain : List κ) (line : List α) : Option κ :=
  chain.find? fun k => decide (keyword k <:+: line)

theorem classify_cons (k : κ) (chain : List κ) (line : List α) :
    classify keyword (k :: chain) line =
      if keyword k <:+: line then some k else classify keyword chain line := by
  unfold classify
  by_cases h : keyword k <:+: line
  · rw [if_pos h]
    exact List.find?_cons_of_pos (decide_eq_true h)
  · rw [if_neg h]
    exact List.find?_cons_of_neg (by simpa using h)

variable [DecidableEq κ]

/-- What of a chain stands before an element, all of it before none. -/
def before (chain : List κ) (o : Option κ) : List κ :=
  chain.takeWhile fun k => decide (some k ≠ o)

variable {chain : List κ} {line : List α} {o : Option κ}

theorem not_mem_before {k : κ} (h : some k = o) : k ∉ before chain o := by
  intro hmem
  have hne := List.mem_takeWhile_imp hmem
  exact of_decide_eq_true hne h

/-- A line is of a kind when its keyword occurs and none that stands before. -/
theorem classify_eq_iff (ho : ∀ k ∈ o, k ∈ chain) : classify keyword chain line = o ↔
    (∀ k ∈ o, keyword k <:+: line) ∧ ∀ k ∈ before chain o, ¬keyword k <:+: line := by
  induction chain with
  | nil =>
    have hnone : o = none := Option.eq_none_iff_forall_not_mem.mpr fun k hk => by cases ho k hk
    subst hnone
    simp [classify, before]
  | cons k chain ih =>
    rw [classify_cons]
    by_cases hk : some k = o
    · subst hk
      by_cases hoccurs : keyword k <:+: line
      · simp [before, hoccurs]
      · rw [if_neg hoccurs]
        have hfound (hfind : classify keyword chain line = some k) : keyword k <:+: line :=
          of_decide_eq_true (List.find?_some (p := fun k => decide (keyword k <:+: line)) hfind)
        exact iff_of_false (fun hfind => hoccurs (hfound hfind)) fun h => hoccurs (h.1 k rfl)
    · have hbefore : before (k :: chain) o = k :: before chain o :=
        List.takeWhile_cons_of_pos (decide_eq_true hk)
      have ho' : ∀ k' ∈ o, k' ∈ chain := by
        intro k' hk'
        rcases List.mem_cons.mp (ho k' hk') with rfl | htail
        · exact absurd hk'.symm hk
        · exact htail
      rw [hbefore, List.forall_mem_cons]
      by_cases hoccurs : keyword k <:+: line
      · rw [if_pos hoccurs]
        exact iff_of_false hk fun h => h.2.1 hoccurs
      · rw [if_neg hoccurs, ih ho', and_iff_right hoccurs]

end Chains

section Separators

variable {α : Type} {s : α} {k k₁ k₂ x y : List α}

/-- A keyword without a separator is in one of the words. -/
theorem infix_joined_iff (hk : s ∉ k) : k <:+: x ++ s :: y ↔ k <:+: x ∨ k <:+: y := by
  constructor
  · rw [List.infix_append_iff, List.infix_cons_iff]
    rintro (hx | (hstart | hy) | ⟨a, b, rfl, ha, hb⟩)
    · exact Or.inl hx
    · cases k with
      | nil => exact Or.inl List.nil_infix
      | cons c k =>
        obtain ⟨rfl, _⟩ := List.cons_prefix_cons.mp hstart
        exact absurd List.mem_cons_self hk
    · exact Or.inr hy
    · cases b with
      | nil => exact Or.inl (by simpa using ha.isInfix)
      | cons c b =>
        obtain ⟨rfl, _⟩ := List.cons_prefix_cons.mp hb
        exact absurd (List.mem_append_right _ List.mem_cons_self) hk
  · rintro (hx | hy)
    · exact List.infix_append_of_infix_left hx
    · exact List.infix_append_of_infix_right (List.infix_cons hy)

/-- A keyword with one stands over that of the line or behind it. -/
theorem infix_joined_cons_iff (hk : s ∉ k₁) (hx : s ∉ x) :
    k₁ ++ s :: k₂ <:+: x ++ s :: y ↔ (k₁ <:+ x ∧ k₂ <+: y) ∨ k₁ ++ s :: k₂ <:+: y := by
  have hmem : s ∈ k₁ ++ s :: k₂ := List.mem_append_right _ List.mem_cons_self
  constructor
  · rw [List.infix_append_iff, List.infix_cons_iff]
    rintro (hin | (hstart | hy) | ⟨a, b, heq, ha, hb⟩)
    · exact absurd (hin.subset hmem) hx
    · cases k₁ with
      | nil => exact Or.inl ⟨List.nil_suffix, (List.cons_prefix_cons.mp hstart).2⟩
      | cons c k₁ =>
        obtain ⟨rfl, _⟩ := List.cons_prefix_cons.mp hstart
        exact absurd List.mem_cons_self hk
    · exact Or.inr hy
    · have ha' : s ∉ a := fun hs => hx (ha.subset hs)
      cases b with
      | nil => exact absurd (by simpa [heq] using hmem) ha'
      | cons c b =>
        obtain ⟨rfl, hb'⟩ := List.cons_prefix_cons.mp hb
        obtain ⟨rfl, rfl⟩ := (joined_inj hk ha').mp heq
        exact Or.inl ⟨ha, hb'⟩
  · rintro (⟨⟨p, rfl⟩, q, rfl⟩ | hy)
    · exact ⟨p, q, by simp⟩
    · exact List.infix_append_of_infix_right (List.infix_cons hy)

theorem prefix_joined_iff (hk : s ∉ k) : k <+: x ++ s :: y ↔ k <+: x := by
  constructor
  · intro h
    obtain ⟨t, ht⟩ := h
    rcases List.append_eq_append_iff.mp ht with ⟨m, rfl, _⟩ | ⟨m, rfl, hm⟩
    · exact List.prefix_append _ _
    · cases m with
      | nil => rw [List.append_nil]
      | cons c m =>
        obtain ⟨rfl, _⟩ := List.cons.inj hm
        exact absurd (List.mem_append_right _ List.mem_cons_self) hk
  · exact fun h => h.trans (List.prefix_append _ _)

theorem prefix_joined_cons_iff (hk : s ∉ k₁) (hx : s ∉ x) :
    k₁ ++ s :: k₂ <+: x ++ s :: y ↔ k₁ = x ∧ k₂ <+: y := by
  constructor
  · rintro ⟨t, ht⟩
    rw [List.append_assoc, List.cons_append] at ht
    obtain ⟨rfl, rfl⟩ := (joined_inj hk hx).mp ht
    exact ⟨rfl, t, rfl⟩
  · rintro ⟨rfl, t, rfl⟩
    exact ⟨t, by simp⟩

end Separators

end UCLinux.Machine
