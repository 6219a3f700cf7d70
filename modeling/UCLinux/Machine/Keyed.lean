import Mathlib.Data.Set.Function

/-!
A map that stands for a set through a key. It lists the key of every member
and no other key, and no two members share one. When a key is written and the
set changes only among the members that have it, whether the map still stands
for the set depends on these members alone.
-/

namespace UCLinux.Machine

variable {α κ β : Type}

/-- The map lists exactly the keys of the members, each for one member. -/
structure Stands (key : α → κ) (m : κ → Option β) (S : Set α) : Prop where
  listed : ∀ k, (m k).isSome ↔ ∃ a ∈ S, key a = k
  apart : Set.InjOn key S

namespace Stands

variable {key : α → κ} {m : κ → Option β} {S S' : Set α}

theorem empty : Stands key (fun _ => none : κ → Option β) ∅ :=
  ⟨fun k => iff_of_false (by simp) fun ⟨_, ha, _⟩ => ha, Set.injOn_empty key⟩

/-- Nothing is written: the set may not lose a member. -/
theorem kept_iff (h : Stands key m S) (hsub : S' ⊆ S) : Stands key m S' ↔ S' = S := by
  constructor
  · intro h'
    apply Set.Subset.antisymm hsub
    intro a ha
    obtain ⟨b, hb, hkey⟩ := (h'.listed _).mp ((h.listed (key a)).mpr ⟨a, ha, rfl⟩)
    rwa [← h.apart (hsub hb) ha hkey]
  · rintro rfl
    exact h

variable [DecidableEq κ] {K : κ} {v : Option β}

/-- The key `K` is written, and the set changes only among its members. -/
theorem update_iff (h : Stands key m S) (hoff : ∀ a, key a ≠ K → (a ∈ S' ↔ a ∈ S)) :
    Stands key (Function.update m K v) S' ↔
      (v.isSome ↔ ∃ a ∈ S', key a = K) ∧
        ∀ a ∈ S', ∀ b ∈ S', key a = K → key b = K → a = b := by
  constructor
  · intro h'
    have hlisted := h'.listed K
    rw [Function.update_self] at hlisted
    exact ⟨hlisted, fun a ha b hb hka hkb => h'.apart ha hb (hka.trans hkb.symm)⟩
  · rintro ⟨hlisted, hapart⟩
    constructor
    · intro k
      by_cases hk : k = K
      · rw [hk, Function.update_self]
        exact hlisted
      · rw [Function.update_of_ne hk, h.listed k]
        apply exists_congr
        intro a
        constructor
        · rintro ⟨ha, rfl⟩
          exact ⟨(hoff a hk).mpr ha, rfl⟩
        · rintro ⟨ha, rfl⟩
          exact ⟨(hoff a hk).mp ha, rfl⟩
    · intro a ha b hb hkey
      by_cases hka : key a = K
      · exact hapart a ha b hb hka (hkey.symm.trans hka)
      · have hkb : key b ≠ K := fun heq => hka (hkey.trans heq)
        exact h.apart ((hoff a hka).mp ha) ((hoff b hkb).mp hb) hkey

/-- A member is added and its key listed. -/
theorem insert_iff (h : Stands key m S) {b : α} (hv : v.isSome) :
    Stands key (Function.update m (key b) v) (insert b S) ↔
      ∀ a ∈ S, key a = key b → a = b := by
  have hoff (a : α) (ha : key a ≠ key b) : a ∈ insert b S ↔ a ∈ S := by
    have hne : a ≠ b := fun heq => ha (congrArg key heq)
    simp [hne]
  rw [h.update_iff hoff]
  constructor
  · rintro ⟨_, hapart⟩ a ha hkey
    exact hapart a (Set.mem_insert_of_mem b ha) b (Set.mem_insert b S) hkey rfl
  · intro halone
    refine ⟨iff_of_true hv ⟨b, Set.mem_insert b S, rfl⟩, fun a ha c hc hka hkc => ?_⟩
    have hself {d : α} (hd : d ∈ insert b S) (hkd : key d = key b) : d = b := by
      rcases Set.mem_insert_iff.mp hd with rfl | hd
      · rfl
      · exact halone d hd hkd
    rw [hself ha hka, hself hc hkc]

/-- A key is listed and no member added. -/
theorem list_iff (h : Stands key m S) (hsub : S' ⊆ S)
    (hoff : ∀ a, key a ≠ K → (a ∈ S' ↔ a ∈ S)) (hv : v.isSome) :
    Stands key (Function.update m K v) S' ↔ ∃ a ∈ S', key a = K := by
  rw [h.update_iff hoff, iff_true_left hv]
  refine and_iff_left fun a ha b hb hka hkb => ?_
  exact h.apart (hsub ha) (hsub hb) (hka.trans hkb.symm)

/-- A key is taken off the list. -/
theorem erase_iff (h : Stands key m S) (hoff : ∀ a, key a ≠ K → (a ∈ S' ↔ a ∈ S)) :
    Stands key (Function.update m K none) S' ↔ ∀ a ∈ S', key a ≠ K := by
  rw [h.update_iff hoff]
  constructor
  · rintro ⟨hlisted, _⟩ a ha hkey
    cases hlisted.mpr ⟨a, ha, hkey⟩
  · intro hnone
    refine ⟨iff_of_false Bool.false_ne_true ?_, fun a ha _ _ hka => absurd hka (hnone a ha)⟩
    rintro ⟨a, ha, hkey⟩
    exact hnone a ha hkey

end Stands

end UCLinux.Machine
