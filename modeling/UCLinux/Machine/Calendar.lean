import Mathlib.Algebra.BigOperators.Group.List.Basic
import Mathlib.Tactic.Ring

/-!
The Gregorian calendar: days counted from the first of January of the year one, and the
date of each day. The count of a date and the date of a count are inverse to each other.
-/

namespace UCLinux.Machine.Calendar

/-- Every fourth year, of the full centuries every fourth. -/
def IsLeap (year : Nat) : Prop := year % 4 = 0 ∧ (year % 100 = 0 → year % 400 = 0)

instance (year : Nat) : Decidable (IsLeap year) := inferInstanceAs (Decidable (_ ∧ _))

def monthLengths (year : Nat) : List Nat :=
  [31, if IsLeap year then 29 else 28, 31, 30, 31, 30, 31, 31, 30, 31, 30, 31]

def yearLength (year : Nat) : Nat := if IsLeap year then 366 else 365

/-- The days of all years before a year. -/
def daysBeforeYear (year : Nat) : Nat :=
  365 * (year - 1) + (year - 1) / 4 - (year - 1) / 100 + (year - 1) / 400

/-- The days before the given day of a month; a day the month does not have is a day of a
later month. -/
def dayNumber (year month day : Nat) : Nat :=
  daysBeforeYear year + ((monthLengths year).take (month - 1)).sum + (day - 1)

/-- A day of the calendar. -/
structure Date where
  year : Nat
  month : Nat
  day : Nat
  year_pos : 0 < year
  month_pos : 0 < month
  day_pos : 0 < day
  day_le : ∃ length, (monthLengths year)[month - 1]? = some length ∧ day ≤ length

def Date.number (d : Date) : Nat := dayNumber d.year d.month d.day

/-- Which of the parts a count falls into, and how far. -/
def partOf : List Nat → Nat → Nat × Nat
  | [], n => (0, n)
  | length :: lengths, n =>
    if n < length then (0, n) else
      ((partOf lengths (n - length)).1 + 1, (partOf lengths (n - length)).2)

/-- The year of a day, and the day of the year: full cycles of 400 years, then centuries,
then cycles of 4 years, then years. The last century of a cycle and the last year of four
are a day longer. -/
def yearOf (n : Nat) : Nat × Nat :=
  let ofCycle := n % 146097
  let century := min (ofCycle / 36524) 3
  let ofCentury := ofCycle - 36524 * century
  let ofFour := ofCentury % 1461
  let year := min (ofFour / 365) 3
  (400 * (n / 146097) + 100 * century + 4 * (ofCentury / 1461) + year + 1, ofFour - 365 * year)

section Parts

variable {lengths : List Nat} {n i d length : Nat}

theorem partOf_spec (h : n < lengths.sum) :
    (lengths.take (partOf lengths n).1).sum + (partOf lengths n).2 = n ∧
      ∃ length, lengths[(partOf lengths n).1]? = some length ∧ (partOf lengths n).2 < length := by
  induction lengths generalizing n with
  | nil => exact absurd h (Nat.not_lt_zero n)
  | cons length lengths ih =>
    unfold partOf
    by_cases hlt : n < length
    · rw [if_pos hlt]
      exact ⟨by simp, length, rfl, hlt⟩
    · rw [if_neg hlt]
      rw [List.sum_cons] at h
      obtain ⟨hsum, hpart⟩ := ih (n := n - length) (by omega)
      refine ⟨?_, hpart⟩
      rw [List.take_succ_cons, List.sum_cons]
      omega

/-- There is no other part. -/
theorem partOf_eq (hpart : lengths[i]? = some length) (hd : d < length) :
    partOf lengths ((lengths.take i).sum + d) = (i, d) := by
  induction lengths generalizing i with
  | nil => simp at hpart
  | cons first lengths ih =>
    unfold partOf
    cases i with
    | zero =>
      rw [List.getElem?_cons_zero, Option.some.injEq] at hpart
      rw [List.take_zero, List.sum_nil, Nat.zero_add, if_pos (hpart ▸ hd)]
    | succ i =>
      rw [List.getElem?_cons_succ] at hpart
      have hrest : first + (lengths.take i).sum + d - first = (lengths.take i).sum + d := by omega
      rw [List.take_succ_cons, List.sum_cons, if_neg (by omega), hrest, ih hpart]

theorem sum_take_add_lt (hpart : lengths[i]? = some length) (hd : d < length) :
    (lengths.take i).sum + d < lengths.sum := by
  have hsplit := List.sum_take_add_sum_drop lengths i
  rw [List.drop_eq_getElem?_toList_append, hpart, Option.toList_some, List.sum_append,
    List.sum_singleton] at hsplit
  omega

end Parts

section Years

variable {n year d : Nat}

theorem monthLengths_sum (year : Nat) : (monthLengths year).sum = yearLength year := by
  unfold monthLengths yearLength
  split <;> rfl

theorem monthLengths_length (year : Nat) : (monthLengths year).length = 12 := rfl

/-- The years of a cycle of 400, and the days before them. -/
theorem daysBeforeYear_parts {a b c d : Nat} (hb : b ≤ 3) (hc : c ≤ 24) (hd : d ≤ 3) :
    daysBeforeYear (400 * a + 100 * b + 4 * c + d + 1) =
      146097 * a + 36524 * b + 1461 * c + 365 * d := by
  unfold daysBeforeYear
  omega

theorem isLeap_parts {a b c d : Nat} (hb : b ≤ 3) (hc : c ≤ 24) (hd : d ≤ 3) :
    IsLeap (400 * a + 100 * b + 4 * c + d + 1) ↔ d = 3 ∧ (c = 24 → b = 3) := by
  unfold IsLeap
  omega

theorem yearOf_spec (n : Nat) :
    0 < (yearOf n).1 ∧ daysBeforeYear (yearOf n).1 + (yearOf n).2 = n ∧
      (yearOf n).2 < yearLength (yearOf n).1 := by
  unfold yearOf
  dsimp only
  generalize ha : n / 146097 = a
  generalize hb : min (n % 146097 / 36524) 3 = b
  generalize hr : n % 146097 - 36524 * b = r
  generalize hc : r / 1461 = c
  generalize hd : min (r % 1461 / 365) 3 = d
  have hb3 : b ≤ 3 := by omega
  have hrle : r ≤ 36524 ∧ (b < 3 → r < 36524) := by omega
  have hc24 : c ≤ 24 := by omega
  have hd3 : d ≤ 3 := by omega
  rw [daysBeforeYear_parts hb3 hc24 hd3]
  refine ⟨by omega, by omega, ?_⟩
  unfold yearLength
  by_cases hleap : IsLeap (400 * a + 100 * b + 4 * c + d + 1)
  · rw [if_pos hleap]
    omega
  · rw [if_neg hleap]
    rw [isLeap_parts hb3 hc24 hd3] at hleap
    omega

/-- The year of a day is no other. -/
theorem yearOf_eq (hyear : 0 < year) (hd : d < yearLength year) :
    yearOf (daysBeforeYear year + d) = (year, d) := by
  obtain ⟨a, b, c, e, hb, hc, he, rfl⟩ : ∃ a b c e, b ≤ 3 ∧ c ≤ 24 ∧ e ≤ 3 ∧
      year = 400 * a + 100 * b + 4 * c + e + 1 :=
    ⟨(year - 1) / 400, (year - 1) % 400 / 100, (year - 1) % 100 / 4, (year - 1) % 4, by omega,
      by omega, by omega, by omega⟩
  have hd' : d < 365 ∨ d = 365 ∧ e = 3 ∧ (c = 24 → b = 3) := by
    unfold yearLength at hd
    by_cases hleap : IsLeap (400 * a + 100 * b + 4 * c + e + 1)
    · rw [if_pos hleap] at hd
      rw [isLeap_parts hb hc he] at hleap
      omega
    · rw [if_neg hleap] at hd
      exact .inl hd
  rw [daysBeforeYear_parts hb hc he]
  have hcycle : (146097 * a + 36524 * b + 1461 * c + 365 * e + d) / 146097 = a := by omega
  have hofCycle : (146097 * a + 36524 * b + 1461 * c + 365 * e + d) % 146097 =
      36524 * b + 1461 * c + 365 * e + d := by omega
  have hcentury : min ((36524 * b + 1461 * c + 365 * e + d) / 36524) 3 = b := by omega
  have hofCentury : 36524 * b + 1461 * c + 365 * e + d - 36524 * b = 1461 * c + (365 * e + d) := by
    omega
  have hfour : (1461 * c + (365 * e + d)) / 1461 = c := by omega
  have hofFour : (1461 * c + (365 * e + d)) % 1461 = 365 * e + d := by omega
  have hlast : min ((365 * e + d) / 365) 3 = e := by omega
  unfold yearOf
  rw [hcycle, hofCycle]
  dsimp only
  rw [hcentury, hofCentury, hfour, hofFour, hlast, Nat.add_sub_cancel_left]

end Years

section Dates

/-- The date of a day. -/
def dateOf (n : Nat) : Date where
  year := (yearOf n).1
  month := (partOf (monthLengths (yearOf n).1) (yearOf n).2).1 + 1
  day := (partOf (monthLengths (yearOf n).1) (yearOf n).2).2 + 1
  year_pos := (yearOf_spec n).1
  month_pos := Nat.succ_pos _
  day_pos := Nat.succ_pos _
  day_le :=
    (partOf_spec ((monthLengths_sum _).symm ▸ (yearOf_spec n).2.2)).2

theorem number_dateOf (n : Nat) : (dateOf n).number = n := by
  obtain ⟨-, hyear, hlt⟩ := yearOf_spec n
  obtain ⟨hpart, -⟩ := partOf_spec ((monthLengths_sum _).symm ▸ hlt)
  unfold Date.number dayNumber dateOf
  rw [Nat.add_sub_cancel, Nat.add_sub_cancel, Nat.add_assoc, hpart, hyear]

theorem Date.month_le (d : Date) : d.month ≤ 12 := by
  obtain ⟨length, hpart, -⟩ := d.day_le
  have hlt := (List.getElem?_eq_some_iff.mp hpart).1
  have hpos := d.month_pos
  rw [monthLengths_length] at hlt
  omega

theorem Date.day_le_31 (d : Date) : d.day ≤ 31 := by
  obtain ⟨length, hpart, hle⟩ := d.day_le
  have hlength : ∀ l ∈ monthLengths d.year, l ≤ 31 := by
    unfold monthLengths
    split <;> decide
  exact hle.trans (hlength length (List.mem_of_getElem? hpart))

theorem Date.ext_of {d e : Date} (hyear : d.year = e.year) (hmonth : d.month = e.month)
    (hday : d.day = e.day) : d = e := by
  cases d
  cases e
  cases hyear
  cases hmonth
  cases hday
  rfl

theorem dateOf_number (d : Date) : dateOf d.number = d := by
  obtain ⟨length, hpart, hle⟩ := d.day_le
  have hday := d.day_pos
  have hmonth := d.month_pos
  have hwithin : d.day - 1 < length := by omega
  have hmonths := partOf_eq hpart hwithin
  have hlt := sum_take_add_lt hpart hwithin
  rw [monthLengths_sum] at hlt
  have hyears := yearOf_eq d.year_pos hlt
  have hnumber : d.number =
      daysBeforeYear d.year + (((monthLengths d.year).take (d.month - 1)).sum + (d.day - 1)) :=
    Nat.add_assoc _ _ _
  rw [← hnumber] at hyears
  unfold dateOf
  refine Date.ext_of (congrArg Prod.fst hyears) ?_ ?_
  · simp only [hyears, hmonths]
    omega
  · simp only [hyears, hmonths]
    omega

end Dates

end UCLinux.Machine.Calendar
