import Mathlib.Algebra.Group.Nat.Defs

/-!
Numbers in groups of seven bits, the lowest group first, a byte for each. All
bytes of a number but the last carry a flag, so a number ends by itself and
another one may follow.

A reader goes through the groups with an accumulator. `foldGroups_encode` is the
rule to reason about it with: an invariant of the accumulator, the index of the
next group and what is left of the number.
-/

namespace UCLinux.Machine.Varint

def encode (n : Nat) : List (BitVec 8) :=
  if n < 128 then [BitVec.ofNat 8 n]
  else BitVec.ofNat 8 (n % 128 + 128) :: encode (n / 128)
termination_by n
decreasing_by omega

theorem encode_of_lt {n : Nat} (h : n < 128) : encode n = [BitVec.ofNat 8 n] := by
  rw [encode, if_pos h]

theorem encode_of_le {n : Nat} (h : 128 ≤ n) :
    encode n = BitVec.ofNat 8 (n % 128 + 128) :: encode (n / 128) := by
  rw [encode, if_neg (by omega)]

/-- A number of `k` groups takes no more than `k` bytes. -/
theorem encode_length_le {k n : Nat} (hn : n < 128 ^ (k + 1)) :
    (encode n).length ≤ k + 1 := by
  induction k generalizing n with
  | zero => rw [encode_of_lt (by omega)]; simp
  | succ k ih =>
    by_cases hlast : n < 128
    · rw [encode_of_lt hlast]; simp
    · have hdiv : n / 128 < 128 ^ (k + 1) := by
        rw [Nat.div_lt_iff_lt_mul (by omega), ← Nat.pow_succ]
        exact hn
      have hrest := ih hdiv
      rw [encode_of_le (by omega), List.length_cons]
      omega

/-- The seven bits of a byte that belong to the number. -/
def payload (byte : BitVec 8) : Nat := byte.toNat % 128

/-- The byte is not the last one of its number. -/
def flagged (byte : BitVec 8) : Bool := 128 ≤ byte.toNat

theorem payload_ofNat (n : Nat) : payload (BitVec.ofNat 8 n) = n % 128 := by
  unfold payload
  rw [BitVec.toNat_ofNat]
  omega

theorem flagged_ofNat {n : Nat} (h : n < 256) :
    flagged (BitVec.ofNat 8 n) = decide (128 ≤ n) := by
  unfold flagged
  rw [BitVec.toNat_ofNat, Nat.mod_eq_of_lt h]

variable {σ : Type}

/-- A reader with an accumulator: what it has after the last byte of the number
and how many bytes that were; `none` when there is no last byte. -/
def foldGroups (f : σ → Nat → BitVec 8 → σ) : σ → Nat → List (BitVec 8) → Option (σ × Nat)
  | _, _, [] => none
  | s, i, byte :: rest =>
    if flagged byte then foldGroups f (f s i byte) (i + 1) rest
    else some (f s i byte, i + 1)

/-- A number has at least one byte, and they are among those that are read. -/
theorem foldGroups_count {f : σ → Nat → BitVec 8 → σ} {bytes : List (BitVec 8)} {s s' : σ}
    {i n : Nat} (h : foldGroups f s i bytes = some (s', n)) : i < n ∧ n ≤ i + bytes.length := by
  induction bytes generalizing s i with
  | nil => cases h
  | cons byte rest ih =>
    rw [foldGroups] at h
    rw [List.length_cons]
    split at h
    · have hrest := ih h
      omega
    · cases h
      omega

/-- Reading what was written, with anything behind it: the reader takes exactly
the bytes of the number, and an invariant that every group but the last keeps
holds before the last one. -/
theorem foldGroups_encode {f : σ → Nat → BitVec 8 → σ} {P : σ → Nat → Nat → Prop}
    (hstep : ∀ s i n, 128 ≤ n → P s i n →
      P (f s i (BitVec.ofNat 8 (n % 128 + 128))) (i + 1) (n / 128))
    (rest : List (BitVec 8)) {s : σ} {i n : Nat} (hP : P s i n) :
    ∃ s' k m, foldGroups f s i (encode n ++ rest) =
        some (f s' k (BitVec.ofNat 8 m), i + (encode n).length) ∧
      m < 128 ∧ P s' k m := by
  induction n using Nat.strongRecOn generalizing s i with
  | ind n ih =>
    by_cases hlast : n < 128
    · have hflag : flagged (BitVec.ofNat 8 n) = false := by
        rw [flagged_ofNat (by omega)]
        exact decide_eq_false (by omega)
      refine ⟨s, i, n, ?_, hlast, hP⟩
      rw [encode_of_lt hlast, List.singleton_append, foldGroups, hflag]
      rfl
    · have hflag : flagged (BitVec.ofNat 8 (n % 128 + 128)) = true := by
        rw [flagged_ofNat (by omega)]
        exact decide_eq_true (by omega)
      obtain ⟨s', k, m, hread, hm, hP'⟩ :=
        ih (n / 128) (by omega) (hstep s i n (by omega) hP)
      refine ⟨s', k, m, ?_, hm, hP'⟩
      rw [encode_of_le (by omega), List.cons_append, foldGroups, if_pos hflag, hread,
        List.length_cons]
      congr 2
      omega

end UCLinux.Machine.Varint
