import Mathlib.Data.List.Sort

/-!
Sorting by a comparator, as `std::sort` promises it: where the comparator is a
strict weak order of the elements, the result is a permutation no element of
which goes before one in front of it. Which one of equivalent elements comes
first is left open, and about other comparators nothing is said.
-/

namespace UCLinux.Machine

variable {α : Type} {lt : α → α → Bool} {xs : List α} {a b c : α}

/-- The comparator orders the elements by classes of equivalent ones. -/
structure StrictWeakOn (lt : α → α → Bool) (xs : List α) : Prop where
  irrefl : ∀ a ∈ xs, lt a a = false
  trans : ∀ a ∈ xs, ∀ b ∈ xs, ∀ c ∈ xs, lt a b = true → lt b c = true → lt a c = true
  equiv : ∀ a ∈ xs, ∀ b ∈ xs, ∀ c ∈ xs, lt a b = false → lt b a = false →
    lt b c = false → lt c b = false → lt a c = false

/-- A sort that keeps the promise. -/
structure StdSort (lt : α → α → Bool) where
  sort : List α → List α
  perm : ∀ xs, StrictWeakOn lt xs → (sort xs).Perm xs
  sorted : ∀ xs, StrictWeakOn lt xs → (sort xs).Pairwise fun a b => lt b a = false

namespace StrictWeakOn

theorem asymm (h : StrictWeakOn lt xs) (ha : a ∈ xs) (hb : b ∈ xs) (hab : lt a b = true) :
    lt b a = false := by
  refine Bool.eq_false_iff.mpr fun hba => ?_
  have haa := h.trans a ha b hb a ha hab hba
  rw [h.irrefl a ha] at haa
  cases haa

/-- Not going after is transitive. -/
theorem not_lt_trans (h : StrictWeakOn lt xs) (ha : a ∈ xs) (hb : b ∈ xs) (hc : c ∈ xs)
    (hba : lt b a = false) (hcb : lt c b = false) : lt c a = false := by
  refine Bool.eq_false_iff.mpr fun hca => ?_
  have hab : lt a b = false := by
    refine Bool.eq_false_iff.mpr fun hab => ?_
    rw [h.trans c hc a ha b hb hca hab] at hcb
    cases hcb
  have hbc : lt b c = false := by
    refine Bool.eq_false_iff.mpr fun hbc => ?_
    rw [h.trans b hb c hc a ha hbc hca] at hba
    cases hba
  rw [h.equiv c hc b hb a ha hcb hbc hba hab] at hca
  cases hca

theorem of_subset {ys : List α} (h : StrictWeakOn lt xs) (hsub : ∀ a ∈ ys, a ∈ xs) :
    StrictWeakOn lt ys where
  irrefl a ha := h.irrefl a (hsub a ha)
  trans a ha b hb c hc := h.trans a (hsub a ha) b (hsub b hb) c (hsub c hc)
  equiv a ha b hb c hc := h.equiv a (hsub a ha) b (hsub b hb) c (hsub c hc)

/-- Only the comparisons of the elements matter. -/
theorem congr {lt' : α → α → Bool} (h : StrictWeakOn lt xs)
    (heq : ∀ a ∈ xs, ∀ b ∈ xs, lt' a b = lt a b) : StrictWeakOn lt' xs where
  irrefl a ha := (heq a ha a ha).trans (h.irrefl a ha)
  trans a ha b hb c hc := by
    rw [heq a ha b hb, heq b hb c hc, heq a ha c hc]
    exact h.trans a ha b hb c hc
  equiv a ha b hb c hc := by
    rw [heq a ha b hb, heq b hb a ha, heq b hb c hc, heq c hc b hb, heq a ha c hc]
    exact h.equiv a ha b hb c hc

/-- Comparing by a number orders anything. -/
theorem of_key (key : α → Int) (xs : List α) :
    StrictWeakOn (fun a b => decide (key a < key b)) xs where
  irrefl a _ := decide_eq_false (Int.lt_irrefl _)
  trans a _ b _ c _ hab hbc :=
    decide_eq_true (Int.lt_trans (of_decide_eq_true hab) (of_decide_eq_true hbc))
  equiv a _ b _ c _ hab hba hbc hcb := by
    have h₁ := of_decide_eq_false hab
    have h₂ := of_decide_eq_false hba
    have h₃ := of_decide_eq_false hbc
    have h₄ := of_decide_eq_false hcb
    exact decide_eq_false (by omega)

end StrictWeakOn

namespace StdSort

/-- The first of the sorted elements goes after none. -/
theorem not_lt_of_sort_eq (S : StdSort lt) (h : StrictWeakOn lt xs) {ys : List α}
    (hs : S.sort xs = a :: ys) : a ∈ xs ∧ ∀ b ∈ xs, lt b a = false := by
  have hperm := S.perm xs h
  have hsorted := S.sorted xs h
  rw [hs] at hperm hsorted
  have ha := hperm.mem_iff.mp List.mem_cons_self
  refine ⟨ha, fun b hb => ?_⟩
  rcases List.mem_cons.mp (hperm.mem_iff.mpr hb) with rfl | hlater
  · exact h.irrefl b ha
  · exact (List.pairwise_cons.mp hsorted).1 b hlater

theorem sort_ne_nil (S : StdSort lt) (h : StrictWeakOn lt xs) (hne : xs ≠ []) :
    S.sort xs ≠ [] := by
  intro hnil
  have hperm := S.perm xs h
  rw [hnil] at hperm
  exact hne (List.perm_nil.mp hperm.symm)

theorem pairwise_orderedInsert (h : StrictWeakOn lt (a :: xs))
    (hsorted : xs.Pairwise fun a b => lt b a = false) :
    (xs.orderedInsert (fun a b => lt b a = false) a).Pairwise fun a b => lt b a = false := by
  induction xs with
  | nil => exact List.pairwise_singleton _ _
  | cons b xs ih =>
    obtain ⟨hhead, htail⟩ := List.pairwise_cons.mp hsorted
    rw [List.orderedInsert_cons]
    split
    · rename_i hba
      refine List.pairwise_cons.mpr ⟨fun c hc => ?_, hsorted⟩
      rcases List.mem_cons.mp hc with rfl | hlater
      · exact hba
      · have hcmem := List.mem_cons_of_mem a (List.mem_cons_of_mem b hlater)
        exact h.not_lt_trans List.mem_cons_self (List.mem_cons_of_mem _ List.mem_cons_self) hcmem
          hba (hhead c hlater)
    · rename_i hba
      have hsub : ∀ c ∈ a :: xs, c ∈ a :: b :: xs := fun c hc =>
        (List.mem_cons.mp hc).elim (fun hca => hca ▸ List.mem_cons_self)
          fun hlater => List.mem_cons_of_mem _ (List.mem_cons_of_mem _ hlater)
      refine List.pairwise_cons.mpr ⟨fun c hc => ?_, ih (h.of_subset hsub) htail⟩
      rcases List.mem_cons.mp ((List.perm_orderedInsert _ a xs).mem_iff.mp hc) with rfl | hlater
      · exact h.asymm (List.mem_cons_of_mem _ List.mem_cons_self) List.mem_cons_self
          (Bool.eq_true_of_not_eq_false hba)
      · exact hhead c hlater

/-- Insertion sort keeps the promise. -/
def insertion (lt : α → α → Bool) : StdSort lt where
  sort xs := xs.insertionSort fun a b => lt b a = false
  perm xs _ := List.perm_insertionSort _ xs
  sorted xs h := by
    induction xs with
    | nil => exact List.Pairwise.nil
    | cons a xs ih =>
      have hperm := List.perm_insertionSort (fun a b => lt b a = false) xs
      have hsub : ∀ b ∈ a :: xs.insertionSort fun a b => lt b a = false, b ∈ a :: xs :=
        fun b hb => (hperm.cons a).mem_iff.mp hb
      exact pairwise_orderedInsert (h.of_subset hsub)
        (ih (h.of_subset fun b hb => List.mem_cons_of_mem a hb))

/-- So does the sort that takes a certain one of the elements none goes before
first. -/
def choosing [DecidableEq α] (S : StdSort lt) (ys : List α) (a : α) (ha : a ∈ ys)
    (hleast : ∀ b ∈ ys, lt b a = false) : StdSort lt where
  sort xs := if xs = ys then a :: S.sort (ys.erase a) else S.sort xs
  perm xs h := by
    split
    · rename_i heq
      subst heq
      have hsub : StrictWeakOn lt (xs.erase a) := h.of_subset fun b hb => List.mem_of_mem_erase hb
      exact ((S.perm _ hsub).cons a).trans (List.perm_cons_erase ha).symm
    · exact S.perm xs h
  sorted xs h := by
    split
    · rename_i heq
      subst heq
      have hsub : StrictWeakOn lt (xs.erase a) := h.of_subset fun b hb => List.mem_of_mem_erase hb
      refine List.pairwise_cons.mpr ⟨fun b hb => ?_, S.sorted _ hsub⟩
      exact hleast b (List.mem_of_mem_erase ((S.perm _ hsub).mem_iff.mp hb))
    · exact S.sorted xs h

theorem choosing_sort [DecidableEq α] (S : StdSort lt) {ys : List α} (ha : a ∈ ys)
    (hleast : ∀ b ∈ ys, lt b a = false) :
    (S.choosing ys a ha hleast).sort ys = a :: S.sort (ys.erase a) :=
  if_pos rfl

end StdSort

end UCLinux.Machine
