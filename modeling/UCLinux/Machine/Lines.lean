import Mathlib.Data.List.Basic

/-!
A list cut after each delimiter, as a stream is read line by line. Every piece
but the last ends with the delimiter and holds no other, the last holds none,
and the pieces together are the list. Pieces that are put together and cut
again are the same pieces.
-/

namespace UCLinux.Machine

variable {α : Type} [DecidableEq α]

/-- The pieces of a list, each but the last with the delimiter at its end. -/
def cutAfter (d : α) : List α → List (List α)
  | [] => [[]]
  | a :: s => if a = d then [d] :: cutAfter d s else (cutAfter d s).modifyHead (a :: ·)

variable {d : α}

theorem cutAfter_ne_nil (s : List α) : cutAfter d s ≠ [] := by
  induction s with
  | nil => simp [cutAfter]
  | cons a s ih =>
    unfold cutAfter
    split
    · exact List.cons_ne_nil _ _
    · cases hcut : cutAfter d s with
      | nil => exact absurd hcut ih
      | cons p ps => exact List.cons_ne_nil _ _

theorem flatten_cutAfter (s : List α) : (cutAfter d s).flatten = s := by
  induction s with
  | nil => simp [cutAfter]
  | cons a s ih =>
    unfold cutAfter
    split
    · next heq => rw [List.flatten_cons, ih, heq, List.singleton_append]
    · cases hcut : cutAfter d s with
      | nil => exact absurd hcut (cutAfter_ne_nil s)
      | cons p ps =>
        rw [hcut] at ih
        simp only [List.modifyHead_cons, List.flatten_cons, List.cons_append] at ih ⊢
        rw [ih]

/-- An element that is no delimiter goes to the first piece. -/
theorem cutAfter_cons_ne {a : α} (h : a ≠ d) {s p : List α} {ps : List (List α)} :
    cutAfter d (a :: s) = p :: ps ↔ ∃ p', cutAfter d s = p' :: ps ∧ p = a :: p' := by
  rw [cutAfter, if_neg h]
  cases hcut : cutAfter d s with
  | nil => exact absurd hcut (cutAfter_ne_nil s)
  | cons p' ps' =>
    rw [List.modifyHead_cons]
    constructor
    · rintro heq
      obtain ⟨rfl, rfl⟩ := List.cons.inj heq
      exact ⟨p', rfl, rfl⟩
    · rintro ⟨p'', heq, rfl⟩
      obtain ⟨rfl, rfl⟩ := List.cons.inj heq
      rfl

/-- A piece with another behind it is a whole one. -/
theorem mem_of_cutAfter {s p : List α} {ps : List (List α)} (h : cutAfter d s = p :: ps)
    (hps : ps ≠ []) : d ∈ p := by
  induction s generalizing p with
  | nil => exact absurd (List.cons.inj h).2.symm hps
  | cons a s ih =>
    by_cases ha : a = d
    · rw [cutAfter, if_pos ha] at h
      rw [← (List.cons.inj h).1]
      exact List.mem_cons_self
    · obtain ⟨p', hp', rfl⟩ := (cutAfter_cons_ne ha).mp h
      exact List.mem_cons_of_mem _ (ih hp')

theorem not_mem_of_cutAfter {s p : List α} (h : cutAfter d s = [p]) : d ∉ p := by
  induction s generalizing p with
  | nil =>
    rw [← (List.cons.inj h).1]
    exact List.not_mem_nil
  | cons a s ih =>
    by_cases ha : a = d
    · rw [cutAfter, if_pos ha] at h
      exact absurd (List.cons.inj h).2 (cutAfter_ne_nil s)
    · obtain ⟨p', hp', rfl⟩ := (cutAfter_cons_ne ha).mp h
      exact List.not_mem_cons_of_ne_of_not_mem (Ne.symm ha) (ih hp')

theorem cutAfter_of_not_mem {l : List α} (h : d ∉ l) : cutAfter d l = [l] := by
  induction l with
  | nil => rfl
  | cons a l ih =>
    have hne : a ≠ d := fun heq => h (heq ▸ List.mem_cons_self)
    have hl : d ∉ l := fun hmem => h (List.mem_cons_of_mem _ hmem)
    rw [cutAfter, if_neg hne, ih hl, List.modifyHead_cons]

/-- There are at most as many whole pieces as elements. -/
theorem length_cutAfter_le (s : List α) : (cutAfter d s).length ≤ s.length + 1 := by
  induction s with
  | nil => exact Nat.le_refl 1
  | cons a s ih =>
    unfold cutAfter
    split
    · rw [List.length_cons, List.length_cons]
      omega
    · rw [List.length_modifyHead, List.length_cons]
      omega

/-- The first piece of a list that starts with a whole one. -/
theorem cutAfter_append {l : List α} (h : d ∉ l) (s : List α) :
    cutAfter d (l ++ d :: s) = (l ++ [d]) :: cutAfter d s := by
  induction l with
  | nil => simp [cutAfter]
  | cons a l ih =>
    have hne : a ≠ d := fun heq => h (heq ▸ List.mem_cons_self)
    have hl : d ∉ l := fun hmem => h (List.mem_cons_of_mem _ hmem)
    rw [List.cons_append, cutAfter, if_neg hne, ih hl, List.modifyHead_cons, List.cons_append]

/-- What is put together from whole pieces is cut into them again. -/
theorem cutAfter_pieces {ls : List (List α)} (h : ∀ l ∈ ls, d ∉ l) (s : List α) :
    cutAfter d ((ls.map (· ++ [d])).flatten ++ s) = ls.map (· ++ [d]) ++ cutAfter d s := by
  induction ls with
  | nil => simp
  | cons l ls ih =>
    have hl : d ∉ l := h l List.mem_cons_self
    have hls : ∀ l' ∈ ls, d ∉ l' := fun l' hl' => h l' (List.mem_cons_of_mem _ hl')
    have hhead : ((l :: ls).map (· ++ [d])).flatten ++ s =
        l ++ d :: ((ls.map (· ++ [d])).flatten ++ s) := by simp
    rw [hhead, cutAfter_append hl, ih hls, List.map_cons, List.cons_append]

end UCLinux.Machine
