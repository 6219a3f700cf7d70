import Mathlib.Algebra.BigOperators.Group.List.Basic
import Mathlib.Algebra.Order.BigOperators.GroupWithZero.List
import Mathlib.Algebra.Order.Ring.Int

/-!
Products of signed words. A product that does not fit is undefined: what comes
out of it is a parameter. Where the factors are positive the products on the way
are no larger than the last one, so the whole is right when that one fits.
-/

namespace UCLinux.Machine.Signed

variable {w : Nat}

/-- The numbers of a signed word. -/
def Fits (w : Nat) (n : Int) : Prop := -2 ^ (w - 1) ≤ n ∧ n < 2 ^ (w - 1)

instance (w : Nat) (n : Int) : Decidable (Fits w n) := inferInstanceAs (Decidable (_ ∧ _))

section Products

variable (wild : BitVec w → BitVec w → BitVec w)

def mul (a b : BitVec w) : BitVec w := if a.smulOverflow b then wild a b else a * b

/-- `a` times the factors, from left to right. -/
def prod (a : BitVec w) (factors : List (BitVec w)) : BitVec w := factors.foldl (mul wild) a

end Products

variable {wild : BitVec w → BitVec w → BitVec w} {a b : BitVec w} {n r : Int}

theorem ofInt_toNat (a : BitVec w) : BitVec.ofInt w (a.toNat : Int) = a := by
  rw [BitVec.ofInt_natCast, BitVec.ofNat_toNat, BitVec.setWidth_eq]

theorem fits_toInt (a : BitVec w) : Fits w a.toInt := ⟨a.le_toInt, a.toInt_lt⟩

theorem toInt_mul (h : Fits w (a.toInt * b.toInt)) : (mul wild a b).toInt = a.toInt * b.toInt := by
  have hfits : ¬a.smulOverflow b = true := by
    unfold BitVec.smulOverflow
    rw [Bool.or_eq_true, decide_eq_true_eq, decide_eq_true_eq]
    rintro (hhigh | hlow)
    · exact absurd hhigh (not_le.mpr h.2)
    · exact absurd hlow (not_lt.mpr h.1)
  unfold mul
  rw [if_neg hfits, BitVec.toInt_mul_of_not_smulOverflow hfits]

/-- A factor fits when the product with a positive number does. -/
theorem fits_of_mul (hr : 0 < r) (h : Fits w (n * r)) : Fits w n := by
  have hone : 1 ≤ r := hr
  obtain ⟨hlow, hhigh⟩ := h
  rcases le_total 0 n with hn | hn
  · have hle : n ≤ n * r := le_mul_of_one_le_right hn hone
    have hpow : (0 : Int) < 2 ^ (w - 1) := pow_pos (by decide) _
    exact ⟨by omega, by omega⟩
  · have hle : n * r ≤ n := mul_le_of_one_le_right hn hone
    have hpow : (0 : Int) < 2 ^ (w - 1) := pow_pos (by decide) _
    exact ⟨by omega, by omega⟩

theorem toInt_prod {factors : List (BitVec w)} (hpos : ∀ f ∈ factors, 0 < f.toInt)
    (h : Fits w (a.toInt * (factors.map BitVec.toInt).prod)) :
    (prod wild a factors).toInt = a.toInt * (factors.map BitVec.toInt).prod := by
  induction factors generalizing a with
  | nil => exact (mul_one _).symm
  | cons f factors ih =>
    have hrest : 0 < (factors.map BitVec.toInt).prod := by
      apply List.prod_pos
      intro n hn
      obtain ⟨g, hg, rfl⟩ := List.mem_map.mp hn
      exact hpos g (List.mem_cons_of_mem f hg)
    rw [List.map_cons, List.prod_cons, ← mul_assoc] at h ⊢
    have hfirst : (mul wild a f).toInt = a.toInt * f.toInt := toInt_mul (fits_of_mul hrest h)
    rw [← hfirst] at h ⊢
    exact ih (fun g hg => hpos g (List.mem_cons_of_mem f hg)) h

end UCLinux.Machine.Signed
