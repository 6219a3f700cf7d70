import Mathlib.Data.BitVec
import Mathlib.Logic.Function.Iterate

/-!
Cyclic redundancy checks, low bit first and of any width. A step of the register
drops its low bit and adds the polynomial where the bit was set; a chunk of the
message is added to the register and stepped through bit by bit. Steps are linear
in exclusive or, so a whole chunk can be stepped through at once: the steps of
the low bits are looked up, the others only move down. The same register comes
from feeding the message bit by bit.
-/

namespace UCLinux.Machine.Crc

variable {w : Nat} (poly : BitVec w)

def step (r : BitVec w) : BitVec w :=
  if r.getLsbD 0 then (r >>> 1) ^^^ poly else r >>> 1

def steps (k : Nat) (r : BitVec w) : BitVec w := (step poly)^[k] r

/-- The register after a chunk of `k` bits. -/
def absorb {k : Nat} (r : BitVec w) (chunk : BitVec k) : BitVec w :=
  steps poly k (r ^^^ chunk.setWidth w)

/-- The register after a message. -/
def remainder {k : Nat} (message : List (BitVec k)) (r : BitVec w) : BitVec w :=
  message.foldl (absorb poly) r

theorem step_of_low_clear {r : BitVec w} (hlow : r.getLsbD 0 = false) : step poly r = r >>> 1 := by
  unfold step
  rw [hlow, if_neg Bool.false_ne_true]

theorem step_xor (a b : BitVec w) : step poly (a ^^^ b) = step poly a ^^^ step poly b := by
  unfold step
  rw [BitVec.getLsbD_xor, BitVec.ushiftRight_xor_distrib]
  cases a.getLsbD 0 with
  | false =>
    cases b.getLsbD 0 with
    | false => rfl
    | true => exact BitVec.xor_assoc _ _ _
  | true =>
    cases b.getLsbD 0 with
    | false =>
      show (a >>> 1 ^^^ b >>> 1) ^^^ poly = (a >>> 1 ^^^ poly) ^^^ b >>> 1
      ac_rfl
    | true =>
      show a >>> 1 ^^^ b >>> 1 = (a >>> 1 ^^^ poly) ^^^ (b >>> 1 ^^^ poly)
      have hcancel : (a >>> 1 ^^^ poly) ^^^ (b >>> 1 ^^^ poly) =
          (a >>> 1 ^^^ b >>> 1) ^^^ (poly ^^^ poly) := by ac_rfl
      rw [hcancel, BitVec.xor_self, BitVec.xor_zero]

theorem steps_xor (k : Nat) (a b : BitVec w) :
    steps poly k (a ^^^ b) = steps poly k a ^^^ steps poly k b := by
  induction k generalizing a b with
  | zero => rfl
  | succ k ih =>
    show steps poly k (step poly (a ^^^ b)) = _
    rw [step_xor, ih]
    rfl

/-- Bits that are clear only move out. -/
theorem steps_of_low_clear (k : Nat) {r : BitVec w} (hlow : ∀ i < k, r.getLsbD i = false) :
    steps poly k r = r >>> k := by
  induction k generalizing r with
  | zero => rfl
  | succ k ih =>
    show steps poly k (step poly r) = _
    rw [step_of_low_clear poly (hlow 0 (by omega)), ih, ← BitVec.shiftRight_add, Nat.add_comm]
    intro i hi
    rw [BitVec.getLsbD_ushiftRight]
    exact hlow _ (by omega)

/-- The low `k` bits. -/
def low (k : Nat) (r : BitVec w) : BitVec w := (r.setWidth k).setWidth w

theorem getLsbD_low (k : Nat) (r : BitVec w) (i : Nat) :
    (low k r).getLsbD i = (decide (i < k) && r.getLsbD i) := by
  unfold low
  rw [BitVec.getLsbD_setWidth, BitVec.getLsbD_setWidth]
  rcases Nat.lt_or_ge i w with hi | hi
  · rw [decide_eq_true hi, Bool.true_and]
  · rw [decide_eq_false (by omega), Bool.false_and, BitVec.getLsbD_of_ge r i hi, Bool.and_false]

/-- A register is its low bits and the rest. -/
theorem low_xor_rest (k : Nat) (r : BitVec w) : low k r ^^^ (low k r ^^^ r) = r := by
  rw [← BitVec.xor_assoc, BitVec.xor_self, BitVec.zero_xor]

/-- Stepping through `k` bits at once: the low ones are looked up, the others
move down. -/
theorem steps_split (k : Nat) (r : BitVec w) :
    steps poly k r = steps poly k (low k r) ^^^ (r >>> k) := by
  have hclear : ∀ i < k, (low k r ^^^ r).getLsbD i = false := by
    intro i hi
    rw [BitVec.getLsbD_xor, getLsbD_low, decide_eq_true hi, Bool.true_and, Bool.xor_self]
  have hgone : low k r >>> k = 0#w := by
    apply BitVec.eq_of_getLsbD_eq
    intro i _
    rw [BitVec.getLsbD_ushiftRight, getLsbD_low, decide_eq_false (by omega), Bool.false_and,
      BitVec.getLsbD_zero]
  calc steps poly k r = steps poly k (low k r ^^^ (low k r ^^^ r)) := by rw [low_xor_rest]
    _ = steps poly k (low k r) ^^^ steps poly k (low k r ^^^ r) := steps_xor poly k _ _
    _ = steps poly k (low k r) ^^^ (r >>> k) := by
      rw [steps_of_low_clear poly k hclear, BitVec.ushiftRight_xor_distrib, hgone,
        BitVec.zero_xor]

theorem setWidth_ushiftRight_self {k : Nat} (chunk : BitVec k) : chunk.setWidth w >>> k = 0#w := by
  apply BitVec.eq_of_getLsbD_eq
  intro i _
  rw [BitVec.getLsbD_ushiftRight, BitVec.getLsbD_setWidth, BitVec.getLsbD_of_ge chunk _ (by omega),
    Bool.and_false, BitVec.getLsbD_zero]

/-- A chunk from a table of the low bits. -/
theorem absorb_eq_table {k : Nat} (r : BitVec w) (chunk : BitVec k) :
    absorb poly r chunk =
      steps poly k (low k (r ^^^ chunk.setWidth w)) ^^^ (r >>> k) := by
  have hgone : chunk.setWidth w >>> k = 0#w := setWidth_ushiftRight_self chunk
  unfold absorb
  rw [steps_split, BitVec.ushiftRight_xor_distrib, hgone, BitVec.xor_zero]

/-- The register after a message in parts is the one after the whole message. -/
theorem remainder_flatten {k : Nat} (parts : List (List (BitVec k))) (r : BitVec w) :
    remainder poly parts.flatten r = parts.foldl (fun r part => remainder poly part r) r := by
  unfold remainder
  rw [List.foldl_flatten]

/-! ## Bit by bit -/

/-- The register after one bit of the message. -/
def feed (r : BitVec w) (bit : Bool) : BitVec w :=
  if r.getLsbD 0 ^^ bit then (r >>> 1) ^^^ poly else r >>> 1

/-- The bits of a chunk, the low one first. -/
def bits {k : Nat} (chunk : BitVec k) : List Bool := (List.range k).map chunk.getLsbD

/-- The register after a message that arrives bit by bit. -/
def serial {k : Nat} (message : List (BitVec k)) (r : BitVec w) : BitVec w :=
  (message.flatMap bits).foldl (feed poly) r

/-- A step takes in the low bit of what is added to the register. -/
theorem step_xor_eq_feed (r x : BitVec w) :
    step poly (r ^^^ x) = feed poly r (x.getLsbD 0) ^^^ (x >>> 1) := by
  unfold step feed
  rw [BitVec.getLsbD_xor, BitVec.ushiftRight_xor_distrib]
  cases r.getLsbD 0 ^^ x.getLsbD 0 with
  | false => rfl
  | true =>
    show (r >>> 1 ^^^ x >>> 1) ^^^ poly = (r >>> 1 ^^^ poly) ^^^ x >>> 1
    ac_rfl

/-- After `n` steps the first `n` bits have been fed, and the others have moved
down by `n`. -/
theorem steps_xor_eq_feed (n : Nat) (r x : BitVec w) :
    steps poly n (r ^^^ x) =
      ((List.range n).map x.getLsbD).foldl (feed poly) r ^^^ (x >>> n) := by
  induction n with
  | zero => rfl
  | succ n ih =>
    have hlow : (x >>> n).getLsbD 0 = x.getLsbD n := by rw [BitVec.getLsbD_ushiftRight, Nat.add_zero]
    have hnext : steps poly (n + 1) (r ^^^ x) = step poly (steps poly n (r ^^^ x)) :=
      Function.iterate_succ_apply' _ _ _
    rw [hnext, ih, step_xor_eq_feed, hlow, ← BitVec.shiftRight_add, List.range_succ,
      List.map_append, List.foldl_append]
    rfl

/-- A chunk that fits the register is absorbed as its bits are fed. -/
theorem absorb_eq_feed {k : Nat} (hk : k ≤ w) (r : BitVec w) (chunk : BitVec k) :
    absorb poly r chunk = (bits chunk).foldl (feed poly) r := by
  have hbits : (List.range k).map (chunk.setWidth w).getLsbD = bits chunk := by
    apply List.map_congr_left
    intro i hi
    rw [BitVec.getLsbD_setWidth, decide_eq_true (by have := List.mem_range.mp hi; omega),
      Bool.true_and]
  have hgone : chunk.setWidth w >>> k = 0#w := setWidth_ushiftRight_self chunk
  unfold absorb
  rw [steps_xor_eq_feed, hbits, hgone, BitVec.xor_zero]

theorem remainder_eq_serial {k : Nat} (hk : k ≤ w) (message : List (BitVec k)) (r : BitVec w) :
    remainder poly message r = serial poly message r := by
  induction message generalizing r with
  | nil => rfl
  | cons chunk message ih =>
    show remainder poly message (absorb poly r chunk) = _
    rw [ih, absorb_eq_feed poly hk]
    unfold serial
    rw [List.flatMap_cons, List.foldl_append]

end UCLinux.Machine.Crc
