import Mathlib.Algebra.Group.Nat.Defs
import Mathlib.Data.List.Forall2
import Mathlib.Data.List.Induction

/-!
Texts of a fixed shape: decimal fields of a fixed width, a row of character classes at the
front of a text, and the last character of a set in it.
-/

namespace UCLinux.Machine.FixedWidth

/-- The last `width` decimal digits of a number. -/
def padded : Nat → Nat → List Char
  | 0, _ => []
  | width + 1, n => padded width (n / 10) ++ [(n % 10).digitChar]

/-- The number that digits stand for. -/
def value (digits : List Char) : Nat := Nat.ofDigitChars 10 digits 0

/-- What is left of a text whose first characters are of the given classes. -/
def strip : List (Char → Bool) → List Char → Option (List Char)
  | [], text => some text
  | p :: ps, c :: text => if p c then strip ps text else none
  | _ :: _, [] => none

/-- Where the last character of a set stands. -/
def findLastOf (cs : List Char) : List Char → Option Nat
  | [] => none
  | c :: text =>
    match findLastOf cs text with
    | some pos => some (pos + 1)
    | none => if c ∈ cs then some 0 else none

/-- Where the first one stands. -/
def findFirstOf (cs : List Char) : List Char → Option Nat
  | [] => none
  | c :: text => if c ∈ cs then some 0 else (findFirstOf cs text).map (· + 1)

section Fields

variable {width n : Nat} {digits : List Char} {c : Char}

@[simp]
theorem length_padded (width n : Nat) : (padded width n).length = width := by
  induction width generalizing n with
  | zero => rfl
  | succ width ih => simp [padded, ih]

theorem isDigit_padded (width n : Nat) : ∀ c ∈ padded width n, c.isDigit := by
  induction width generalizing n with
  | zero => simp [padded]
  | succ width ih =>
    intro c hc
    rcases List.mem_append.mp hc with hfront | hlast
    · exact ih (n / 10) c hfront
    · rw [List.mem_singleton.mp hlast]
      exact Nat.isDigit_digitChar.trans (decide_eq_true (Nat.mod_lt n (by decide)))

theorem not_mem_padded (hc : c.isDigit = false) (width n : Nat) : c ∉ padded width n :=
  fun hmem => absurd (isDigit_padded width n c hmem) (Bool.eq_false_iff.mp hc)

theorem value_nil : value [] = 0 := rfl

theorem value_concat (digits : List Char) (c : Char) :
    value (digits ++ [c]) = 10 * value digits + (c.toNat - '0'.toNat) := by
  unfold value
  rw [Nat.ofDigitChars_append, Nat.ofDigitChars_cons, Nat.ofDigitChars_nil]

theorem value_cons (c : Char) (digits : List Char) :
    value (c :: digits) = (c.toNat - '0'.toNat) * 10 ^ digits.length + value digits := by
  unfold value
  rw [Nat.ofDigitChars_cons, Nat.ofDigitChars_eq_ofDigitChars_zero, Nat.mul_zero, Nat.zero_add,
    Nat.mul_comm]

theorem value_padded (width n : Nat) : value (padded width n) = n % 10 ^ width := by
  induction width generalizing n with
  | zero => rw [Nat.pow_zero, Nat.mod_one]; rfl
  | succ width ih =>
    have hdigit : (n % 10).digitChar.toNat - '0'.toNat = n % 10 :=
      Nat.toNat_digitChar_sub_48_of_lt_ten (Nat.mod_lt n (by decide))
    unfold padded
    rw [value_concat, ih, hdigit, Nat.pow_succ', Nat.mod_mul]
    omega

theorem value_padded_of_lt (h : n < 10 ^ width) : value (padded width n) = n :=
  (value_padded width n).trans (Nat.mod_eq_of_lt h)

theorem digit_lt_ten (h : c.isDigit) : c.toNat - '0'.toNat < 10 := by
  obtain ⟨-, hle⟩ := Char.isDigit_iff_toNat.mp h
  have hnine : '9'.toNat - '0'.toNat = 9 := rfl
  omega

theorem digitChar_value (h : c.isDigit) : (c.toNat - '0'.toNat).digitChar = c := by
  obtain ⟨hge, -⟩ := Char.isDigit_iff_toNat.mp h
  have hzero : '0'.toNat = 48 := rfl
  apply Char.toNat_inj.mp
  rw [Nat.toNat_digitChar_of_lt_ten (digit_lt_ten h)]
  omega

theorem padded_value (h : ∀ c ∈ digits, c.isDigit) :
    padded digits.length (value digits) = digits := by
  induction digits using List.reverseRecOn with
  | nil => rfl
  | append_singleton digits c ih =>
    have hc := h c (by simp)
    have hlt := digit_lt_ten hc
    rw [value_concat, List.length_append, List.length_singleton]
    unfold padded
    have hdiv : (10 * value digits + (c.toNat - '0'.toNat)) / 10 = value digits := by omega
    have hmod : (10 * value digits + (c.toNat - '0'.toNat)) % 10 = c.toNat - '0'.toNat := by omega
    rw [hdiv, hmod, digitChar_value hc, ih fun d hd => h d (List.mem_append_left _ hd)]

/-- Only the last digits count. -/
theorem padded_mod (width n : Nat) : padded width (n % 10 ^ width) = padded width n := by
  have h := padded_value (isDigit_padded width n)
  rwa [length_padded, value_padded] at h

/-- The first digit and the rest. -/
theorem padded_succ (width n : Nat) :
    padded (width + 1) n = (n / 10 ^ width % 10).digitChar :: padded width n := by
  induction width generalizing n with
  | zero => simp [padded]
  | succ width ih =>
    have hdiv : n / 10 / 10 ^ width = n / 10 ^ (width + 1) := by
      rw [Nat.div_div_eq_div_mul, Nat.pow_succ']
    rw [padded, ih, hdiv, List.cons_append]
    rfl

theorem value_lt (h : ∀ c ∈ digits, c.isDigit) : value digits < 10 ^ digits.length := by
  rw [← padded_value h, value_padded, length_padded]
  exact Nat.mod_lt _ (Nat.pow_pos (by decide))

/-- A number of just so many digits is printed without zeros in front. -/
theorem toDigits_eq_padded (hlow : 10 ^ width ≤ n) (hhigh : n < 10 ^ (width + 1)) :
    Nat.toDigits 10 n = padded (width + 1) n := by
  induction width generalizing n with
  | zero =>
    have hlt : n < 10 := hhigh
    rw [Nat.toDigits_of_lt_base hlt]
    simp [padded, Nat.mod_eq_of_lt hlt]
  | succ width ih =>
    have hten : 10 ≤ n := by
      have : 10 ^ 1 ≤ 10 ^ (width + 1) := Nat.pow_le_pow_right (by decide) (by omega)
      omega
    rw [Nat.toDigits_of_base_le (by decide) hten, ih]
    · rfl
    · rw [Nat.pow_succ] at hlow
      omega
    · rw [Nat.pow_succ] at hhigh
      omega

end Fields

section Shapes

variable {ps : List (Char → Bool)} {cs text rest a b : List Char} {c : Char} {pos : Nat}

theorem strip_eq_some_iff :
    strip ps text = some rest ↔
      ∃ front, text = front ++ rest ∧ List.Forall₂ (fun p c => p c = true) ps front := by
  induction ps generalizing text with
  | nil => simp [strip]
  | cons p ps ih =>
    cases text with
    | nil => simp [strip]
    | cons c text =>
      unfold strip
      by_cases hp : p c
      · rw [if_pos hp, ih]
        constructor
        · rintro ⟨front, rfl, hfront⟩
          exact ⟨c :: front, rfl, .cons hp hfront⟩
        · rintro ⟨_ | ⟨d, front⟩, htext, hfront⟩
          · cases hfront
          · obtain ⟨rfl, rfl⟩ := List.cons.inj htext
            exact ⟨front, rfl, (List.forall₂_cons.mp hfront).2⟩
      · rw [if_neg hp]
        refine ⟨fun h => absurd h (by simp), ?_⟩
        rintro ⟨_ | ⟨d, front⟩, htext, hfront⟩
        · cases hfront
        · obtain ⟨rfl, rfl⟩ := List.cons.inj htext
          exact absurd (List.forall₂_cons.mp hfront).1 hp

/-- A row of classes is held against just as many characters. -/
theorem strip_append_iff {front r : List Char} (hlength : front.length = ps.length) :
    strip ps (front ++ rest) = some r ↔ List.Forall₂ (fun p c => p c = true) ps front ∧ r = rest := by
  rw [strip_eq_some_iff]
  constructor
  · rintro ⟨front', heq, hfront⟩
    obtain ⟨rfl, rfl⟩ := List.append_inj heq (hlength.trans hfront.length_eq)
    exact ⟨hfront, rfl⟩
  · rintro ⟨hfront, rfl⟩
    exact ⟨front, rfl, hfront⟩

theorem findLastOf_eq_none_iff : findLastOf cs text = none ↔ ∀ d ∈ text, d ∉ cs := by
  induction text with
  | nil => simp [findLastOf]
  | cons c text ih =>
    unfold findLastOf
    rw [List.forall_mem_cons, ← ih]
    cases findLastOf cs text with
    | none => simp
    | some pos => simp

theorem findLastOf_append (hc : c ∈ cs) (hb : ∀ d ∈ b, d ∉ cs) :
    findLastOf cs (a ++ c :: b) = some a.length := by
  induction a with
  | nil =>
    rw [List.nil_append, findLastOf, findLastOf_eq_none_iff.mpr hb]
    exact if_pos hc
  | cons d a ih =>
    rw [List.cons_append, findLastOf, ih]
    rfl

theorem findLastOf_split (h : findLastOf cs text = some pos) :
    ∃ a c b, text = a ++ c :: b ∧ a.length = pos ∧ c ∈ cs ∧ ∀ d ∈ b, d ∉ cs := by
  induction text generalizing pos with
  | nil => cases h
  | cons c text ih =>
    unfold findLastOf at h
    cases hrest : findLastOf cs text with
    | some i =>
      rw [hrest, Option.some.injEq] at h
      obtain ⟨a, d, b, rfl, hlen, hd, hb⟩ := ih hrest
      exact ⟨c :: a, d, b, rfl, by rw [List.length_cons, hlen, h], hd, hb⟩
    | none =>
      rw [hrest] at h
      by_cases hc : c ∈ cs
      · rw [if_pos hc, Option.some.injEq] at h
        exact ⟨[], c, text, rfl, h, hc, findLastOf_eq_none_iff.mp hrest⟩
      · rw [if_neg hc] at h
        cases h

theorem findFirstOf_eq_none_iff : findFirstOf cs text = none ↔ ∀ d ∈ text, d ∉ cs := by
  induction text with
  | nil => simp [findFirstOf]
  | cons c text ih =>
    unfold findFirstOf
    rw [List.forall_mem_cons, ← ih]
    by_cases hc : c ∈ cs
    · simp [hc]
    · simp [hc]

theorem findFirstOf_append (hc : c ∈ cs) (ha : ∀ d ∈ a, d ∉ cs) :
    findFirstOf cs (a ++ c :: b) = some a.length := by
  induction a with
  | nil =>
    rw [List.nil_append, findFirstOf]
    exact if_pos hc
  | cons d a ih =>
    obtain ⟨hd, ha⟩ := List.forall_mem_cons.mp ha
    rw [List.cons_append, findFirstOf, if_neg hd, ih ha]
    rfl

theorem findFirstOf_split (h : findFirstOf cs text = some pos) :
    ∃ a c b, text = a ++ c :: b ∧ a.length = pos ∧ c ∈ cs ∧ ∀ d ∈ a, d ∉ cs := by
  induction text generalizing pos with
  | nil => cases h
  | cons c text ih =>
    unfold findFirstOf at h
    by_cases hc : c ∈ cs
    · rw [if_pos hc, Option.some.injEq] at h
      exact ⟨[], c, text, rfl, h, hc, by simp⟩
    · rw [if_neg hc, Option.map_eq_some_iff] at h
      obtain ⟨i, hi, rfl⟩ := h
      obtain ⟨a, d, b, rfl, hlen, hd, ha⟩ := ih hi
      exact ⟨c :: a, d, b, rfl, by rw [List.length_cons, hlen], hd,
        List.forall_mem_cons.mpr ⟨hc, ha⟩⟩

end Shapes

end UCLinux.Machine.FixedWidth
