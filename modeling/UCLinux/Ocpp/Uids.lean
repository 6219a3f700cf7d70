import UCLinux.Machine.Joined
import UCLinux.Ocpp.Correlation
import UCLinux.Ocpp.Literals

/-!
The uids of the requests to a charge point. A uid is the hexadecimal text of a
random number with that of a time behind it. The generator is seeded again at
every call, from a clock of seconds, since the flag that should prevent it is
never set. So the random number is one for each second, and calls within a
millisecond get one uid.
-/

namespace UCLinux.Ocpp

open Sql Machine Server

/-- `rand` of the C library after `srand`: the number it draws depends on the
seed and on how many were drawn since. -/
structure Rand where
  draw : Nat → Nat → Nat
  draw_le : ∀ seed n, draw seed n ≤ 2 ^ 31 - 1

/-- The generator, and the static flag of the function that uses it. -/
structure RandState where
  randomInitialized : Bool
  seed : Nat
  drawn : Nat

/-- A process that has made no uid yet. -/
def RandState.start : RandState := ⟨false, 1, 0⟩

/-- What the clocks show during one call: `time(NULL)`, then the milliseconds. -/
structure Reading where
  seconds : Nat
  millis : Nat
  millis_lt : millis < 2 ^ 63

def RandState.srand (seed : Nat) (s : RandState) : RandState :=
  { s with seed := seed % 2 ^ 32, drawn := 0 }

/-- `Global_GenerateTextUID`. -/
def Rand.globalGenerateTextUID (R : Rand) (s : RandState) (r : Reading) : Text × RandState :=
  let s := if s.randomInitialized then s else s.srand r.seconds
  (hexText (R.draw s.seed s.drawn) ++ hexText r.millis, { s with drawn := s.drawn + 1 })

/-- The uids of one call after another. -/
def Rand.uids (R : Rand) : RandState → List Reading → List Text
  | _, [] => []
  | s, r :: rs => (R.globalGenerateTextUID s r).1 :: R.uids (R.globalGenerateTextUID s r).2 rs

/-- The random number of a call that seeds the generator. -/
def Rand.first (R : Rand) (r : Reading) : Nat := R.draw (r.seconds % 2 ^ 32) 0

section

variable {R : Rand}

/-- Every call seeds the generator, since none sets the flag. -/
theorem Rand.uids_eq (R : Rand) {s : RandState} (hs : s.randomInitialized = false)
    (rs : List Reading) :
    R.uids s rs = rs.map fun r => hexText (R.first r) ++ hexText r.millis := by
  induction rs generalizing s with
  | nil => rfl
  | cons r rs ih =>
    have hseeded : R.globalGenerateTextUID s r =
        (hexText (R.first r) ++ hexText r.millis, { s.srand r.seconds with drawn := 1 }) := by
      unfold globalGenerateTextUID
      rw [hs]
      rfl
    have hnext : R.uids { s.srand r.seconds with drawn := 1 } rs = _ := ih hs
    rw [uids, hseeded, List.map_cons, ← hnext]

/-- The uid of a server whose generator and clock answer as these do. -/
theorem Rand.uid_eq (R : Rand) (r : Reading) {E : Env} {n : Nat}
    (hrand : E.rand n = R.first r) (hclock : E.clock (n + 1) = r.millis) :
    E.uid n = (R.globalGenerateTextUID .start r).1 := by
  unfold Env.uid
  rw [hrand, hclock]
  rfl

theorem digitChar_injective {m n : Nat} (hm : m < 16) (hn : n < 16)
    (h : Nat.digitChar m = Nat.digitChar n) : m = n := by
  have hall : ∀ m < 16, ∀ n < 16, Nat.digitChar m = Nat.digitChar n → m = n := by decide
  exact hall m hm n hn h

/-- Two numbers are not printed alike in hexadecimal. -/
theorem toDigits_hex_injective {m n : Nat} (h : Nat.toDigits 16 m = Nat.toDigits 16 n) :
    m = n := by
  induction m using Nat.strongRecOn generalizing n with
  | ind m ih =>
    have hlast {x y : Text} {a b : Nat} (heq : x ++ [Nat.digitChar (a % 16)] =
        y ++ [Nat.digitChar (b % 16)]) : x = y ∧ a % 16 = b % 16 := by
      obtain ⟨hinit, hchar⟩ := List.append_inj' heq rfl
      exact ⟨hinit, digitChar_injective (Nat.mod_lt a (by decide)) (Nat.mod_lt b (by decide))
        (List.cons.inj hchar).1⟩
    rcases toDigits_cases (n := m) (b := 16) (by decide) with ⟨hm, hlt⟩ | ⟨hm, hle⟩ <;>
      rcases toDigits_cases (n := n) (b := 16) (by decide) with ⟨hn, hlt'⟩ | ⟨hn, hle'⟩ <;>
      rw [hm, hn] at h
    · have := (hlast (x := []) (y := []) h).2
      omega
    · exact absurd (hlast (x := []) h).1.symm Nat.toDigits_ne_nil
    · exact absurd (hlast (y := []) h).1 Nat.toDigits_ne_nil
    · obtain ⟨hinit, hdigit⟩ := hlast h
      have := ih (m / 16) (by omega) hinit
      omega

theorem hexText_of_lt {n : Nat} (h : n < 2 ^ 64) : hexText n = Nat.toDigits 16 n := by
  unfold hexText wrapU64
  congr 1
  omega

theorem Rand.first_lt (R : Rand) (r : Reading) : R.first r < 2 ^ 64 := by
  have := R.draw_le (r.seconds % 2 ^ 32) 0
  unfold Rand.first
  omega

theorem Reading.millis_lt' (r : Reading) : r.millis < 2 ^ 64 := by
  have := r.millis_lt
  omega

theorem hexText_injective {m n : Nat} (hm : m < 2 ^ 64) (hn : n < 2 ^ 64)
    (h : hexText m = hexText n) : m = n := by
  rw [hexText_of_lt hm, hexText_of_lt hn] at h
  exact toDigits_hex_injective h

/-- Two calls get one uid: they draw one number in one millisecond, or the
digits one number has more stand before the time of the other instead. -/
def Rand.Clash (R : Rand) (a b : Reading) : Prop :=
  (R.first a = R.first b ∧ a.millis = b.millis) ∨
    Slid (hexText (R.first a)) (hexText a.millis) (hexText (R.first b)) (hexText b.millis) ∨
    Slid (hexText (R.first b)) (hexText b.millis) (hexText (R.first a)) (hexText a.millis)

theorem Rand.clash_iff (R : Rand) (a b : Reading) : R.Clash a b ↔
    hexText (R.first a) ++ hexText a.millis = hexText (R.first b) ++ hexText b.millis := by
  rw [append_eq_iff]
  refine or_congr ?_ Iff.rfl
  constructor
  · rintro ⟨hfirst, hmillis⟩
    exact ⟨by rw [hfirst], by rw [hmillis]⟩
  · rintro ⟨hfirst, hmillis⟩
    exact ⟨hexText_injective (R.first_lt a) (R.first_lt b) hfirst,
      hexText_injective a.millis_lt' b.millis_lt' hmillis⟩

/-- Times with as many digits clash in one way only. -/
theorem Rand.clash_of_digits (R : Rand) {a b : Reading}
    (hdigits : (hexText a.millis).length = (hexText b.millis).length) :
    R.Clash a b ↔ R.first a = R.first b ∧ a.millis = b.millis := by
  constructor
  · rintro (hsame | hslid | hslid)
    · exact hsame
    · exact absurd hslid.shorter (by omega)
    · exact absurd hslid.shorter (by omega)
  · exact Or.inl

/-- The uids of a run are distinct exactly when no two of its calls clash. -/
theorem uids_nodup_iff (R : Rand) (rs : List Reading) :
    (R.uids .start rs).Nodup ↔ rs.Pairwise fun a b => ¬R.Clash a b := by
  rw [R.uids_eq rfl, List.nodup_iff_pairwise_ne, List.pairwise_map]
  exact List.Pairwise.iff fun {a b} => not_congr (R.clash_iff a b).symm

/-- A call five seconds after the epoch. -/
def earlyReading : Reading := ⟨5, 5000, by decide⟩

/-- Two calls in one millisecond return one uid, whatever the generator
draws. -/
theorem uids_not_nodup :
    ¬∀ (R : Rand) (rs : List Reading),
      (rs.Pairwise fun a b => a.seconds ≤ b.seconds ∧ a.millis ≤ b.millis) →
        (R.uids .start rs).Nodup := by
  intro h
  have hnodup := h ⟨fun _ _ => 0, fun _ _ => Nat.zero_le _⟩ [earlyReading, earlyReading]
    (by simp)
  rw [Rand.uids_eq _ rfl] at hnodup
  exact (List.nodup_cons.mp hnodup).1 List.mem_cons_self

end

end UCLinux.Ocpp
