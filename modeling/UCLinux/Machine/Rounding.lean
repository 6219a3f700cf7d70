import Mathlib.Data.Int.Log
import Mathlib.Data.Rat.Floor
import Mathlib.Tactic.Linarith

/-!
Numbers rounded to a count of binary digits: to the nearest one, and of two as near to the
even one. The exponent is not bounded, so that this is the rounding of a floating-point
format for the numbers that are neither too large nor too small for it.
-/

namespace UCLinux.Machine.Rounding

section Rounding

/-- The nearest integer. -/
def roundEven (x : Rat) : Int :=
  let n := ⌊x⌋
  if x - n < 1 / 2 then n
  else if 1 / 2 < x - n then n + 1
  else if n % 2 = 0 then n
  else n + 1

/-- What the last of the digits of `x` counts. -/
def lastPlace (digits : Nat) (x : Rat) : Rat := 2 ^ (Int.log 2 |x| + 1 - digits)

def rounded (digits : Nat) (x : Rat) : Rat :=
  roundEven (x / lastPlace digits x) * lastPlace digits x

/-- A `float`. -/
def single (x : Rat) : Rat := rounded 24 x

/-- A `double`. -/
def double (x : Rat) : Rat := rounded 53 x

end Rounding

section Errors

variable {digits : Nat} {x : Rat} {k : Int}

theorem abs_roundEven_sub_le (x : Rat) : |(roundEven x : Rat) - x| ≤ 1 / 2 := by
  have hfloor := Int.floor_le x
  have hnext := Int.lt_floor_add_one x
  unfold roundEven
  dsimp only
  rw [abs_le]
  split
  · constructor <;> linarith
  · split
    · push_cast
      constructor <;> linarith
    · split
      · constructor <;> linarith
      · push_cast
        constructor <;> linarith

theorem lastPlace_pos : 0 < lastPlace digits x := zpow_pos two_pos _

theorem lastPlace_le (hk : 0 < k) (hx : |x| < 2 ^ k) : lastPlace digits x ≤ 2 ^ (k - digits) := by
  have hlog : Int.log 2 |x| < k := by
    rcases (abs_nonneg x).eq_or_lt with hzero | hpos
    · rw [← hzero, Int.log_zero_right]
      exact hk
    · apply (Int.lt_zpow_iff_log_lt one_lt_two hpos).mp
      rw [Nat.cast_ofNat]
      exact hx
  unfold lastPlace
  apply zpow_le_zpow_right₀ one_le_two
  omega

/-- No more than half of what the last digit counts. -/
theorem abs_rounded_sub_le (digits : Nat) (x : Rat) :
    |rounded digits x - x| ≤ lastPlace digits x / 2 := by
  have hpos : 0 < lastPlace digits x := lastPlace_pos
  have hsplit : rounded digits x - x =
      (roundEven (x / lastPlace digits x) - x / lastPlace digits x) * lastPlace digits x := by
    unfold rounded
    rw [sub_mul, div_mul_cancel₀ x hpos.ne']
  have hunit := abs_roundEven_sub_le (x / lastPlace digits x)
  rw [hsplit, abs_mul, abs_of_pos hpos]
  calc
    _ ≤ 1 / 2 * lastPlace digits x := mul_le_mul_of_nonneg_right hunit hpos.le
    _ = lastPlace digits x / 2 := one_div_mul_eq_div ..

theorem abs_rounded_sub_le_zpow (hk : 0 < k) (hx : |x| < 2 ^ k) :
    |rounded digits x - x| ≤ 2 ^ (k - digits) / 2 := by
  have herror := abs_rounded_sub_le digits x
  have hplace : lastPlace digits x ≤ 2 ^ (k - digits) := lastPlace_le hk hx
  linarith

end Errors

end UCLinux.Machine.Rounding
