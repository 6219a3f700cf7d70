import Mathlib.Data.List.Nodup
import Mathlib.Data.List.Perm.Subperm

/-!
Positions recovered from values. A list is reordered, and for each entry of the
new list the position in the old one is read off the value: the same position
when the value stands there, and otherwise the first one it stands at. Where
values repeat this may take one position twice.
-/

namespace UCLinux.Machine

variable {α : Type} [DecidableEq α]

/-- The position a value at the new position `k` is given. -/
def recovered (xs : List α) (k : Nat) (y : α) : Nat :=
  if xs[k]? = some y then k else xs.idxOf y

def recovery (xs ys : List α) : List Nat := ys.mapIdx (recovered xs)

/-- A value that has come to a new position has also left its first one, and has
come to no other. -/
def Recoverable (xs ys : List α) : Prop :=
  ∀ (k : Nat) (y : α), ys[k]? = some y → xs[k]? ≠ some y →
    ys[xs.idxOf y]? ≠ some y ∧ ∀ k' : Nat, ys[k']? = some y → xs[k']? ≠ some y → k' = k

variable {xs ys : List α} {k : Nat} {y : α}

theorem getElem?_idxOf_of_mem (h : y ∈ xs) : xs[xs.idxOf y]? = some y := by
  rw [List.getElem?_eq_getElem (List.idxOf_lt_length_of_mem h), List.getElem_idxOf]

/-- The value does stand at its position. -/
theorem getElem?_recovered (h : y ∈ xs) : xs[recovered xs k y]? = some y := by
  unfold recovered
  split
  · assumption
  · exact getElem?_idxOf_of_mem h

theorem recovered_lt (h : y ∈ xs) : recovered xs k y < xs.length :=
  (List.getElem?_eq_some_iff.mp (getElem?_recovered h)).1

theorem recovery_nodup_iff : (recovery xs ys).Nodup ↔
    ∀ i j y z, ys[i]? = some y → ys[j]? = some z →
      recovered xs i y = recovered xs j z → i = j := by
  have hget (i : Nat) : (recovery xs ys)[i]? = (ys[i]?).map (recovered xs i) := List.getElem?_mapIdx
  rw [List.nodup_iff_getElem?_ne_getElem?]
  constructor
  · intro h i j y z hi hj heq
    have hsame : (recovery xs ys)[i]? = (recovery xs ys)[j]? := by
      rw [hget, hget, hi, hj, Option.map_some, Option.map_some, heq]
    have hin : i < (recovery xs ys).length := by
      rw [recovery, List.length_mapIdx]
      exact (List.getElem?_eq_some_iff.mp hi).1
    have hjn : j < (recovery xs ys).length := by
      rw [recovery, List.length_mapIdx]
      exact (List.getElem?_eq_some_iff.mp hj).1
    rcases Nat.lt_trichotomy i j with hlt | rfl | hlt
    · exact absurd hsame (h i j hlt hjn)
    · rfl
    · exact absurd hsame.symm (h j i hlt hin)
  · intro h i j hlt hjn hsame
    rw [recovery, List.length_mapIdx] at hjn
    rw [hget, hget, List.getElem?_eq_getElem hjn,
      List.getElem?_eq_getElem (Nat.lt_trans hlt hjn), Option.map_some, Option.map_some] at hsame
    exact absurd (h i j _ _ (List.getElem?_eq_getElem (Nat.lt_trans hlt hjn))
      (List.getElem?_eq_getElem hjn) (Option.some.inj hsame)) (Nat.ne_of_lt hlt)

theorem recovery_nodup_iff_recoverable (hmem : ∀ y ∈ ys, y ∈ xs) :
    (recovery xs ys).Nodup ↔ Recoverable xs ys := by
  rw [recovery_nodup_iff]
  constructor
  · intro h k y hk hmoved
    have hy := hmem y (List.mem_of_getElem? hk)
    have hrec : recovered xs k y = xs.idxOf y := if_neg hmoved
    refine ⟨fun hfirst => ?_, fun k' hk' hmoved' => ?_⟩
    · have hstay : recovered xs (xs.idxOf y) y = xs.idxOf y := if_pos (getElem?_idxOf_of_mem hy)
      have hk := h k (xs.idxOf y) y y hk hfirst (hrec.trans hstay.symm)
      exact hmoved (hk ▸ getElem?_idxOf_of_mem hy)
    · have hrec' : recovered xs k' y = xs.idxOf y := if_neg hmoved'
      exact h k' k y y hk' hk (hrec'.trans hrec.symm)
  · intro h i j y z hi hj heq
    have hy := hmem y (List.mem_of_getElem? hi)
    have hz := hmem z (List.mem_of_getElem? hj)
    -- one position holds both values
    have hyz : y = z := by
      have hget := getElem?_recovered (k := i) hy
      rw [heq, getElem?_recovered hz] at hget
      exact (Option.some.inj hget).symm
    subst hyz
    unfold recovered at heq
    by_cases histay : xs[i]? = some y
    · by_cases hjstay : xs[j]? = some y
      · rwa [if_pos histay, if_pos hjstay] at heq
      · rw [if_pos histay, if_neg hjstay] at heq
        exact absurd (heq ▸ hi) (h j y hj hjstay).1
    · by_cases hjstay : xs[j]? = some y
      · rw [if_neg histay, if_pos hjstay] at heq
        exact absurd (heq ▸ hj) (h i y hi histay).1
      · exact (h j y hj hjstay).2 i hi histay

/-- The positions recovered of a reordered list are all positions exactly when
the reordering is recoverable. -/
theorem recovery_perm_iff (hperm : ys.Perm xs) :
    (recovery xs ys).Perm (List.range xs.length) ↔ Recoverable xs ys := by
  rw [← recovery_nodup_iff_recoverable fun y hy => hperm.mem_iff.mp hy]
  constructor
  · exact fun h => h.nodup_iff.mpr List.nodup_range
  · intro hnodup
    refine (List.subperm_of_subset hnodup fun j hj => ?_).perm_of_length_le ?_
    · obtain ⟨k, hk, rfl⟩ := List.mem_mapIdx.mp hj
      exact List.mem_range.mpr (recovered_lt (hperm.mem_iff.mp (List.getElem_mem hk)))
    · rw [List.length_range, recovery, List.length_mapIdx]
      exact Nat.le_of_eq hperm.length_eq.symm

end UCLinux.Machine
