import UCLinux.Machine.SignedProducts

/-!
The clock: milliseconds since the epoch, in 64 bits without a sign. An amount of
days, hours, minutes or seconds is multiplied out as an `int`, from left to right,
and then added.
-/

namespace UCLinux.CommonUtils

open Machine

structure DateTime where
  millis : BitVec 64
  deriving DecidableEq, Repr

section Program

-- `wild` is what comes out of a product that does not fit an `int`
variable (wild : BitVec 32 → BitVec 32 → BitVec 32)

/-- `t += n`, where `t` is a `uint64_t` and `n` an `int`. -/
def DateTime.plus (dt : DateTime) (n : BitVec 32) : DateTime := ⟨dt.millis + n.signExtend 64⟩

def DateTime.addDays (dt : DateTime) (d : BitVec 32) : DateTime :=
  dt.plus (Signed.prod wild d [24, 60, 60, 1000])

def DateTime.addHours (dt : DateTime) (h : BitVec 32) : DateTime :=
  dt.plus (Signed.prod wild h [60, 60, 1000])

def DateTime.addMinutes (dt : DateTime) (m : BitVec 32) : DateTime :=
  dt.plus (Signed.prod wild m [60, 1000])

def DateTime.addSeconds (dt : DateTime) (sec : BitVec 32) : DateTime :=
  dt.plus (Signed.prod wild sec [1000])

inductive TimeUnit where
  | days
  | hours
  | minutes
  | seconds
  deriving DecidableEq, Repr

def TimeUnit.add : TimeUnit → DateTime → BitVec 32 → DateTime
  | .days => DateTime.addDays wild
  | .hours => DateTime.addHours wild
  | .minutes => DateTime.addMinutes wild
  | .seconds => DateTime.addSeconds wild

end Program

section Purpose

/-- The milliseconds of one unit. -/
def TimeUnit.millis : TimeUnit → Int
  | .days => 86400000
  | .hours => 3600000
  | .minutes => 60000
  | .seconds => 1000

/-- The number is one of the clock. -/
def OnClock (n : Int) : Prop := 0 ≤ n ∧ n < 2 ^ 64

instance (n : Int) : Decidable (OnClock n) := inferInstanceAs (Decidable (_ ∧ _))

/-- The clock moved by exactly the amount, as a number. -/
def TimeUnit.shifted (u : TimeUnit) (dt : DateTime) (n : BitVec 32) : Int :=
  dt.millis.toNat + n.toInt * u.millis

/-- The amount is added exactly: taking it away again leads back, and the same time
given in another unit leads to the same place. -/
structure AddsExactly (wild : BitVec 32 → BitVec 32 → BitVec 32) (u : TimeUnit) (dt : DateTime)
    (n : BitVec 32) : Prop where
  exact : ((u.add wild dt n).millis.toNat : Int) = u.shifted dt n
  back : ∀ m : BitVec 32, m.toInt = -n.toInt → u.add wild (u.add wild dt n) m = dt
  agree : ∀ (v : TimeUnit) (m : BitVec 32), m.toInt * v.millis = n.toInt * u.millis →
    v.add wild dt m = u.add wild dt n

end Purpose

variable {wild : BitVec 32 → BitVec 32 → BitVec 32} {u v : TimeUnit} {dt : DateTime}
  {n m : BitVec 32}

section Adding

def TimeUnit.factors : TimeUnit → List (BitVec 32)
  | .days => [24, 60, 60, 1000]
  | .hours => [60, 60, 1000]
  | .minutes => [60, 1000]
  | .seconds => [1000]

theorem TimeUnit.add_eq_plus (u : TimeUnit) :
    u.add wild dt n = dt.plus (Signed.prod wild n u.factors) := by
  cases u <;> rfl

theorem TimeUnit.prod_factors (u : TimeUnit) : (u.factors.map BitVec.toInt).prod = u.millis := by
  cases u <;> decide

theorem TimeUnit.factors_pos (u : TimeUnit) : ∀ f ∈ u.factors, 0 < f.toInt := by
  have hall : u.factors.all (fun f => 0 < f.toInt) = true := by cases u <;> decide
  intro f hf
  exact of_decide_eq_true (List.all_eq_true.mp hall f hf)

theorem plus_millis (dt : DateTime) (n : BitVec 32) :
    (dt.plus n).millis = BitVec.ofInt 64 (dt.millis.toNat + n.toInt) := by
  rw [BitVec.ofInt_add, Signed.ofInt_toNat]
  rfl

theorem toNat_ofInt_of_onClock {n : Int} (h : OnClock n) :
    ((BitVec.ofInt 64 n).toNat : Int) = n := by
  obtain ⟨hlow, hhigh⟩ := h
  rw [BitVec.toNat_ofInt]
  omega

/-- Where the product fits, the clock is moved by the amount, round the clock. -/
theorem add_of_fits (h : Signed.Fits 32 (n.toInt * u.millis)) :
    (u.add wild dt n).millis = BitVec.ofInt 64 (u.shifted dt n) := by
  rw [← u.prod_factors] at h
  rw [u.add_eq_plus, plus_millis, Signed.toInt_prod u.factors_pos h, u.prod_factors]
  rfl

end Adding

section Exact

theorem fits_neg (h : Signed.Fits 32 (n.toInt * u.millis)) (hm : m.toInt = -n.toInt) :
    Signed.Fits 32 (m.toInt * u.millis) := by
  obtain ⟨hlow, hhigh⟩ := h
  rw [hm]
  unfold Signed.Fits
  -- the lowest `int` is no multiple of a second
  cases u <;> simp only [TimeUnit.millis, Nat.add_one_sub_one] at * <;>
    exact ⟨by omega, by omega⟩

/-- A number congruent to the shift is the shift, if it is an `int`: no amount of a
unit is as much as the clock is long. -/
theorem product_of_shifted {p : Int} (hp : Signed.Fits 32 p)
    (h : (dt.millis.toNat + p) % 2 ^ 64 = u.shifted dt n) : p = n.toInt * u.millis := by
  obtain ⟨hlow, hhigh⟩ := hp
  obtain ⟨hlow', hhigh'⟩ := Signed.fits_toInt n
  unfold TimeUnit.shifted at h
  cases u <;> simp only [TimeUnit.millis, Nat.add_one_sub_one] at * <;> omega

theorem addsExactly_of_fits (hclock : OnClock (u.shifted dt n))
    (h : Signed.Fits 32 (n.toInt * u.millis)) : AddsExactly wild u dt n where
  exact := by
    rw [add_of_fits h]
    exact toNat_ofInt_of_onClock hclock
  back := by
    intro m hm
    have hshift : (u.shifted (u.add wild dt n) m : Int) = dt.millis.toNat := by
      unfold TimeUnit.shifted
      rw [add_of_fits h, toNat_ofInt_of_onClock hclock, hm, Int.neg_mul]
      exact Int.add_neg_cancel_right _ _
    have hmillis : (u.add wild (u.add wild dt n) m).millis = dt.millis := by
      rw [add_of_fits (fits_neg h hm), hshift, Signed.ofInt_toNat]
    exact congrArg DateTime.mk hmillis
  agree := by
    intro v m hm
    have hmillis : (v.add wild dt m).millis = (u.add wild dt n).millis := by
      rw [add_of_fits (hm ▸ h), add_of_fits h]
      unfold TimeUnit.shifted
      rw [hm]
    exact congrArg DateTime.mk hmillis

/-- An amount is added exactly just when its milliseconds fit an `int`, whatever comes
out of a product that does not. -/
theorem addsExactly_iff (wild : BitVec 32 → BitVec 32 → BitVec 32) (u : TimeUnit)
    (dt : DateTime) (n : BitVec 32) (hclock : OnClock (u.shifted dt n)) :
    AddsExactly wild u dt n ↔ Signed.Fits 32 (n.toInt * u.millis) := by
  constructor
  · intro h
    have hexact := h.exact
    rw [u.add_eq_plus, plus_millis, BitVec.toNat_ofInt] at hexact
    have hfits : Signed.Fits 32 (Signed.prod wild n u.factors).toInt := Signed.fits_toInt _
    have hcong : (dt.millis.toNat + (Signed.prod wild n u.factors).toInt) % 2 ^ 64 =
        u.shifted dt n := by omega
    rwa [product_of_shifted hfits hcong] at hfits
  · exact addsExactly_of_fits hclock

theorem addsExactly_one_day : AddsExactly (· * ·) .days ⟨1700000000000⟩ 1 :=
  (addsExactly_iff (· * ·) .days ⟨1700000000000⟩ 1 (by decide)).mpr (by decide)

/-- Twenty-five days on is twenty-four days back. -/
theorem addDays_overflows :
    (⟨1700000000000⟩ : DateTime).addDays (· * ·) 25 = ⟨1697865032704⟩ ∧
      OnClock (TimeUnit.days.shifted ⟨1700000000000⟩ 25) ∧
      ¬AddsExactly (· * ·) .days ⟨1700000000000⟩ 25 := by
  refine ⟨by decide, by decide, fun h => ?_⟩
  exact absurd h.exact (by decide)

end Exact

end UCLinux.CommonUtils
