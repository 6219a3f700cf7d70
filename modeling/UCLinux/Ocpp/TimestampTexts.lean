import UCLinux.Ocpp.Timestamps

/-!
The texts of points in time. What is printed is read back to the digits that were printed,
and what is written as a time is printed again as it was, on machines that take the clock
shown for as far from UTC as they took their time zone to be.
-/

namespace UCLinux.Ocpp.Rfc3339

open Machine.Calendar Machine.FixedWidth Sql

section Purpose

/-- A clock as it is read: whether it is summer is not known. -/
def Tm.read (tm : Tm) : Tm := { tm with isdst := -1 }

/-- The machine takes the clock of a time, read as its local one, for as far from UTC as it
took its time zone to be. -/
def Zone.Keeps (z : Zone) (seconds : Nat) : Prop :=
  z.mktime (gmtime seconds).read - z.timeZone = seconds

/-- The digits that are asked for, none to nine. -/
def digitsOf (precision : Int) : Nat := (min (max precision 0) nanoSecondPrecision).toNat

/-- The nanoseconds that a number of digits show. -/
def cut (digits nanos : Nat) : Nat := nanos - nanos % 10 ^ (9 - digits)

/-- The time point that a text shows: cut in the time zone of the text. -/
def TimePoint.shown (tp : TimePoint) (minutes : Int) (digits : Nat) : TimePoint :=
  (TimePoint.mk (BitVec.ofNat 64 (cut digits (tp.moved minutes).nanosSinceEpoch.toNat))).moved
    (-minutes)

/-- A time as it is written: a date of the calendar, a time of the day, up to nine digits of
a second and an offset. -/
structure Stamp where
  date : Date
  hour : Nat
  minute : Nat
  second : Nat
  digits : Text
  off : Text
  minutes : Int
  hour_lt : hour < 24
  minute_lt : minute < 60
  second_lt : second < 60
  isDigit : ∀ c ∈ digits, c.isDigit
  digits_le : digits.length ≤ 9
  isOffset : IsOffset off minutes

def Stamp.clock (s : Stamp) : Tm :=
  ⟨s.date.year, s.date.month, s.date.day, s.hour, s.minute, s.second, 0⟩

def Stamp.text (s : Stamp) : Text :=
  s.clock.text ++ ((if s.digits = [] then [] else '.' :: s.digits) ++ s.off)

/-- The nanoseconds from the epoch to the clock. -/
def Stamp.nanos (s : Stamp) : Int :=
  s.clock.seconds * nanosInSecond + value s.digits * 10 ^ (9 - s.digits.length)

end Purpose

section Printing

variable {tp : TimePoint} {seconds : Nat} {text timeOffset : Text} {precision minutes : Int}

theorem ofNat_digit {val : Nat} (h : val < 10) : Char.ofNat ('0'.toNat + val) = val.digitChar := by
  have hzero : '0'.toNat = 48 := rfl
  rw [hzero, ← Nat.toNat_digitChar_of_lt_ten h, Char.ofNat_toNat]

/-- The loop prints the leading digits of the part of a second. -/
theorem subsecondString_eq {digits k subsecond : Nat} (hdigits : digits ≤ k)
    (hsub : subsecond < 10 ^ k) :
    subsecondString digits (10 ^ k / 10) subsecond =
      padded digits (subsecond / 10 ^ (k - digits)) := by
  induction digits generalizing k subsecond with
  | zero => rfl
  | succ digits ih =>
    obtain ⟨k, rfl⟩ : ∃ j, k = j + 1 := ⟨k - 1, by omega⟩
    have hle : digits ≤ k := by omega
    have hpow : 10 ^ (k + 1) / 10 = 10 ^ k := by
      rw [Nat.pow_succ, Nat.mul_div_cancel _ (by decide)]
    have hval : subsecond / 10 ^ k < 10 :=
      Nat.div_lt_of_lt_mul (by rwa [Nat.pow_succ] at hsub)
    have hrest : subsecond - subsecond / 10 ^ k * 10 ^ k = subsecond % 10 ^ k := by
      rw [Nat.mod_eq_sub_div_mul]
    have hk : 10 ^ k = 10 ^ (k - digits) * 10 ^ digits := by
      rw [← Nat.pow_add, Nat.sub_add_cancel hle]
    have hfirst : subsecond / 10 ^ (k - digits) / 10 ^ digits = subsecond / 10 ^ k := by
      rw [Nat.div_div_eq_div_mul, ← hk]
    have hmod : subsecond % 10 ^ k / 10 ^ (k - digits) =
        subsecond / 10 ^ (k - digits) % 10 ^ digits := by
      rw [hk, Nat.mod_mul_right_div_self]
    have hsame : k + 1 - (digits + 1) = k - digits := by omega
    unfold subsecondString
    dsimp only
    rw [hpow, hrest, ofNat_digit hval, ih hle (Nat.mod_lt _ (Nat.pow_pos (by decide))), hmod,
      padded_mod, hsame, padded_succ, hfirst, Nat.mod_eq_of_lt hval]

/-- The clock of a time keeps it. -/
theorem gmtime_seconds (seconds : Nat) : (gmtime seconds).seconds = seconds := by
  have hnumber : dayNumber (gmtime seconds).year (gmtime seconds).month (gmtime seconds).day =
      epochDay + seconds / 86400 := number_dateOf _
  unfold Tm.seconds
  rw [hnumber]
  unfold gmtime
  dsimp only
  omega

/-- The years that 64 bits of nanoseconds reach. -/
theorem gmtime_year (h : seconds < 18446744074) :
    1000 ≤ (gmtime seconds).year ∧ (gmtime seconds).year < 3000 := by
  obtain ⟨-, hyear, hlt⟩ := yearOf_spec (epochDay + seconds / 86400)
  have hlength : yearLength (yearOf (epochDay + seconds / 86400)).1 ≤ 366 := by
    unfold yearLength
    split <;> decide
  have hsame : (gmtime seconds).year = (yearOf (epochDay + seconds / 86400)).1 := rfl
  unfold daysBeforeYear epochDay at *
  omega

theorem gmtime_inRange (h : seconds < 18446744074) : (gmtime seconds).read.InRange where
  year := by
    have hyear := (gmtime_year h).2
    unfold Tm.read
    dsimp only
    omega
  month := ⟨(dateOf _).month_pos, (dateOf _).month_le⟩
  day := ⟨(dateOf _).day_pos, (dateOf _).day_le_31⟩
  hour := by
    unfold Tm.read gmtime
    dsimp only
    omega
  minute := by
    unfold Tm.read gmtime
    dsimp only
    omega
  second := by
    unfold Tm.read gmtime
    dsimp only
    omega

theorem putTime_eq_text {tm : Tm} (h : 1000 ≤ tm.year ∧ tm.year < 3000) : putTime tm = tm.text := by
  have hhigh : tm.year < 10 ^ (3 + 1) := by omega
  have hyear : Nat.toDigits 10 tm.year = padded 4 tm.year := toDigits_eq_padded h.1 hhigh
  unfold putTime Tm.text
  rw [hyear]

/-- The point and the digits of the part of a second. -/
def fractionOf (digits nanos : Nat) : Text :=
  if digits = 0 then [] else '.' :: padded digits (nanos / 10 ^ (9 - digits))

/-- The text of nanoseconds since the epoch, as they are shown. -/
def textOf (digits nanos : Nat) (timeOffset : Text) : Text :=
  (gmtime (nanos / nanosInSecond)).text ++
    (fractionOf digits (nanos % nanosInSecond) ++ timeOffset)

theorem seconds_lt (tp : TimePoint) : tp.nanosSinceEpoch.toNat / nanosInSecond < 18446744074 := by
  have hlt := tp.nanosSinceEpoch.isLt
  unfold nanosInSecond
  omega

theorem digitsOf_le (precision : Int) : digitsOf precision ≤ 9 := by
  unfold digitsOf nanoSecondPrecision
  omega

theorem toString_of_offset (h : IsOffset timeOffset minutes) :
    toString tp precision timeOffset =
      .ok (textOf (digitsOf precision) (tp.moved minutes).nanosSinceEpoch.toNat timeOffset) := by
  have hsub : (tp.moved minutes).nanosSinceEpoch.toNat -
      (tp.moved minutes).nanosSinceEpoch.toNat / nanosInSecond * nanosInSecond =
        (tp.moved minutes).nanosSinceEpoch.toNat % nanosInSecond := by
    rw [Nat.mod_eq_sub_div_mul]
  have hdigits := subsecondString_eq (digitsOf_le precision)
    (Nat.mod_lt (tp.moved minutes).nanosSinceEpoch.toNat (by decide : 0 < 10 ^ 9))
  unfold toString
  rw [calcTimeOffset_eq_some_iff.mpr h]
  dsimp only
  rw [putTime_eq_text (gmtime_year (seconds_lt _)), hsub]
  unfold textOf fractionOf
  exact congrArg (fun digits => Except.ok (_ ++ ((if digitsOf precision = 0 then [] else
    '.' :: digits) ++ timeOffset))) hdigits

/-- A time is printed just with an offset. -/
theorem toString_ok_iff :
    toString tp precision timeOffset = .ok text ↔
      ∃ minutes, IsOffset timeOffset minutes ∧
        text = textOf (digitsOf precision) (tp.moved minutes).nanosSinceEpoch.toNat timeOffset := by
  constructor
  · intro h
    cases hoff : calcTimeOffset timeOffset with
    | none =>
      unfold toString at h
      rw [hoff] at h
      cases h
    | some minutes =>
      have hoffset := calcTimeOffset_eq_some_iff.mp hoff
      rw [toString_of_offset hoffset] at h
      exact ⟨minutes, hoffset, (Except.ok.inj h).symm⟩
  · rintro ⟨minutes, hoffset, rfl⟩
    exact toString_of_offset hoffset

end Printing

section Results

variable {z : Zone} {tp : TimePoint} {text timeOffset : Text} {precision minutes : Int}
  {nanos digits : Nat}

theorem cut_eq (digits nanos : Nat) :
    cut digits nanos = nanos / 10 ^ (9 - digits) * 10 ^ (9 - digits) := by
  have hdiv := Nat.div_add_mod' nanos (10 ^ (9 - digits))
  unfold cut
  omega

/-- A cut leaves the seconds alone. -/
theorem cut_seconds (hdigits : digits ≤ 9) (nanos : Nat) :
    cut digits nanos = nanos / nanosInSecond * nanosInSecond + cut digits (nanos % nanosInSecond) := by
  have hsecond : nanosInSecond = 10 ^ (9 - digits) * 10 ^ digits := by
    rw [← Nat.pow_add, Nat.sub_add_cancel hdigits]
    rfl
  have hmod : nanos % nanosInSecond % 10 ^ (9 - digits) = nanos % 10 ^ (9 - digits) := by
    rw [hsecond, Nat.mod_mul_right_mod]
  have hle := Nat.mod_le (nanos % nanosInSecond) (10 ^ (9 - digits))
  have hdiv := Nat.div_add_mod' nanos nanosInSecond
  unfold cut
  omega

theorem isFraction_fractionOf (hdigits : digits ≤ 9) (hnanos : nanos < nanosInSecond) :
    IsFraction (fractionOf digits nanos) (cut digits nanos) := by
  rw [cut_eq]
  unfold fractionOf
  by_cases hzero : digits = 0
  · subst hzero
    have hnone : nanos / 10 ^ (9 - 0) = 0 := Nat.div_eq_of_lt hnanos
    rw [if_pos rfl, hnone, Nat.zero_mul]
    exact .none
  · rw [if_neg hzero]
    have hlt : nanos / 10 ^ (9 - digits) < 10 ^ digits := by
      apply Nat.div_lt_of_lt_mul
      rw [← Nat.pow_add, Nat.sub_add_cancel hdigits]
      exact hnanos
    have hfraction := IsFraction.digits (isDigit_padded digits (nanos / 10 ^ (9 - digits)))
      (by rwa [length_padded])
    rwa [value_padded_of_lt hlt, length_padded] at hfraction

/-- Nothing needs to be skipped. -/
theorem Reads.plain {tm : Tm} {fraction off : Text} (hrange : tm.InRange)
    (hyear : 1000 ≤ tm.year ∧ tm.year < 3000) (hisdst : tm.isdst = -1)
    (hfraction : IsFraction fraction nanos) (hoff : IsOffset off minutes) :
    Reads (tm.text ++ (fraction ++ off)) tm nanos minutes :=
  @Reads.intro tm [] fraction off nanos minutes hrange hyear hisdst
    (fun _ hc => absurd hc List.not_mem_nil) hfraction hoff

/-- What is read of a printed text. -/
theorem fromString_textOf (hnanos : nanos / nanosInSecond < 18446744074) (hdigits : digits ≤ 9)
    (hoff : IsOffset timeOffset minutes) :
    fromString z (textOf digits nanos timeOffset) =
      .ok (z.timePoint (gmtime (nanos / nanosInSecond)).read (cut digits (nanos % nanosInSecond))
        minutes) := by
  have hreads := Reads.plain (gmtime_inRange hnanos) (gmtime_year hnanos) rfl
    (isFraction_fractionOf hdigits (Nat.mod_lt nanos (by decide))) hoff
  exact (fromString_ok_iff z _ _).mpr ⟨_, _, minutes, hreads, rfl⟩

theorem ofInt_eq_iff {m n : Int} :
    BitVec.ofInt 64 m = BitVec.ofInt 64 n ↔ (m - n) % 2 ^ 64 = 0 := by
  rw [← BitVec.toNat_inj, BitVec.toNat_ofInt, BitVec.toNat_ofInt]
  omega

/-- The machine is never more than days off. -/
theorem Zone.near (z : Zone) (seconds : Nat) :
    z.mktime (gmtime seconds).read - z.timeZone - seconds < 4 * 86400 ∧
      seconds - (z.mktime (gmtime seconds).read - z.timeZone) < 4 * 86400 := by
  have hread := z.mktime_near (gmtime seconds).read
  have hgmt := z.mktime_near (gmtime z.now)
  have hlocal := z.mktime_near (z.localtime z.now)
  have hnow := z.localtime_near z.now
  have hsame : (gmtime seconds).read.seconds = seconds := gmtime_seconds seconds
  rw [gmtime_seconds] at hgmt
  rw [hsame] at hread
  unfold Zone.timeZone
  omega

/-- Whole seconds, days at most, vanish in 64 bits of nanoseconds only if there are none. -/
theorem seconds_wrapped_iff {m n : Int} (hm : m - n < 4 * 86400) (hn : n - m < 4 * 86400) :
    (m - n) * nanosInSecond % 2 ^ 64 = 0 ↔ m = n := by
  have hsecond : (nanosInSecond : Int) = 1000000000 := rfl
  rw [hsecond]
  have hsmall : |(m - n) * 1000000000| < 2 ^ 64 := abs_lt.mpr ⟨by omega, by omega⟩
  constructor
  · intro h
    have hzero := Int.eq_zero_of_abs_lt_dvd (Int.dvd_of_emod_eq_zero h) hsmall
    exact Int.sub_eq_zero.mp ((Int.mul_eq_zero.mp hzero).resolve_right (by decide))
  · rintro rfl
    rw [Int.sub_self, Int.zero_mul, Int.zero_emod]

theorem timePoint_eq_shown_iff (hdigits : digits ≤ 9) :
    z.timePoint (gmtime ((tp.moved minutes).nanosSinceEpoch.toNat / nanosInSecond)).read
        (cut digits ((tp.moved minutes).nanosSinceEpoch.toNat % nanosInSecond)) minutes =
      tp.shown minutes digits ↔
      z.Keeps ((tp.moved minutes).nanosSinceEpoch.toNat / nanosInSecond) := by
  have hnear := z.near ((tp.moved minutes).nanosSinceEpoch.toNat / nanosInSecond)
  have hcut := cut_seconds hdigits (tp.moved minutes).nanosSinceEpoch.toNat
  unfold TimePoint.shown Zone.Keeps Zone.timePoint
  generalize (tp.moved minutes).nanosSinceEpoch.toNat = nanos at hnear hcut ⊢
  generalize z.mktime (gmtime (nanos / nanosInSecond)).read - z.timeZone = seconds at hnear ⊢
  have hdiff : seconds * nanosInSecond + cut digits (nanos % nanosInSecond) -
        minutes * nanosInMinute - (cut digits nanos + -minutes * nanosInMinute) =
      (seconds - (nanos / nanosInSecond : Nat)) * nanosInSecond := by
    rw [hcut]
    push_cast
    ring
  unfold TimePoint.moved
  rw [TimePoint.mk.injEq, ← BitVec.ofInt_natCast, ← BitVec.ofInt_add, ofInt_eq_iff, hdiff]
  exact seconds_wrapped_iff hnear.1 hnear.2

/-- A cut time is shown as it was, and is cut to itself. -/
theorem textOf_cut (hdigits : digits ≤ 9) (nanos : Nat) (timeOffset : Text) :
    textOf digits (cut digits nanos) timeOffset = textOf digits nanos timeOffset := by
  have hcut := cut_seconds hdigits nanos
  have hle : cut digits (nanos % nanosInSecond) ≤ nanos % nanosInSecond := Nat.sub_le _ _
  have hlt : nanos % nanosInSecond < nanosInSecond := Nat.mod_lt _ (by decide)
  have hseconds : cut digits nanos / nanosInSecond = nanos / nanosInSecond := by
    unfold nanosInSecond at *
    omega
  have hrest : cut digits nanos % nanosInSecond = cut digits (nanos % nanosInSecond) := by
    unfold nanosInSecond at *
    omega
  have hfraction : fractionOf digits (cut digits (nanos % nanosInSecond)) =
      fractionOf digits (nanos % nanosInSecond) := by
    unfold fractionOf
    rw [cut_eq, Nat.mul_div_cancel _ (Nat.pow_pos (by decide))]
  unfold textOf
  rw [hseconds, hrest, hfraction]

theorem moved_shown (tp : TimePoint) (minutes : Int) (digits : Nat) :
    ((tp.shown minutes digits).moved minutes).nanosSinceEpoch.toNat =
      cut digits (tp.moved minutes).nanosSinceEpoch.toNat := by
  have hlt := (tp.moved minutes).nanosSinceEpoch.isLt
  have hle : cut digits (tp.moved minutes).nanosSinceEpoch.toNat ≤
    (tp.moved minutes).nanosSinceEpoch.toNat := Nat.sub_le _ _
  unfold TimePoint.shown
  generalize (tp.moved minutes).nanosSinceEpoch.toNat = nanos at *
  have hback : BitVec.ofInt 64 (-minutes * nanosInMinute) =
      -BitVec.ofInt 64 (minutes * nanosInMinute) := by
    rw [Int.neg_mul, BitVec.ofInt_neg]
  unfold TimePoint.moved
  dsimp only
  rw [hback, BitVec.add_assoc, BitVec.add_left_neg, BitVec.add_zero, BitVec.toNat_ofNat,
    Nat.mod_eq_of_lt (hle.trans_lt hlt)]

/-- A machine without summer time keeps every clock. -/
theorem Zone.keeps_of_constant {east : Int} (hlocal : ∀ n, (z.localtime n).seconds = n + east)
    (hmktime : ∀ tm, z.mktime tm = tm.seconds - east) (seconds : Nat) : z.Keeps seconds := by
  have hsame : (gmtime seconds).read.seconds = seconds := gmtime_seconds seconds
  unfold Zone.Keeps Zone.timeZone
  rw [hmktime, hmktime, hmktime, hlocal, hsame, gmtime_seconds]
  omega

/-- The machine on which the clocks of the world are local. -/
def utcMachine : Zone where
  localtime := gmtime
  mktime := Tm.seconds
  now := 0
  localtime_near n := by
    rw [gmtime_seconds]
    omega
  mktime_near tm := by omega

theorem utcMachine_keeps (seconds : Nat) : utcMachine.Keeps seconds := by
  have hlocal (n : Nat) : (utcMachine.localtime n).seconds = n + (0 : Int) :=
    (gmtime_seconds n).trans (Int.add_zero _).symm
  exact Zone.keeps_of_constant hlocal (fun tm => (Int.sub_zero _).symm) seconds

/-- A time that is printed is read back, to the digits printed, on machines that keep its
clock and on no others; what is read is printed alike. -/
theorem toString_read_back (z : Zone) (tp : TimePoint) (precision : Int) (timeOffset text : Text)
    (h : toString tp precision timeOffset = .ok text) :
    ∃ minutes, IsOffset timeOffset minutes ∧
      (fromString z text = .ok (tp.shown minutes (digitsOf precision)) ↔
        z.Keeps ((tp.moved minutes).nanosSinceEpoch.toNat / nanosInSecond)) ∧
      toString (tp.shown minutes (digitsOf precision)) precision timeOffset = .ok text := by
  obtain ⟨minutes, hoffset, rfl⟩ := toString_ok_iff.mp h
  refine ⟨minutes, hoffset, ?_, ?_⟩
  · rw [fromString_textOf (seconds_lt _) (digitsOf_le precision) hoffset, Except.ok.injEq]
    exact timePoint_eq_shown_iff (digitsOf_le precision)
  · rw [toString_of_offset hoffset, moved_shown, textOf_cut (digitsOf_le precision)]

theorem toString_read_back_offset :
    ∃ minutes, IsOffset "+02:00" minutes ∧
      (fromString utcMachine "2018-11-22T12:04:18.868+02:00" =
          .ok (TimePoint.shown ⟨1542881058868123456⟩ minutes (digitsOf 3)) ↔
        utcMachine.Keeps ((TimePoint.moved ⟨1542881058868123456⟩ minutes).nanosSinceEpoch.toNat /
          nanosInSecond)) ∧
      toString (TimePoint.shown ⟨1542881058868123456⟩ minutes (digitsOf 3)) 3 "+02:00" =
        .ok "2018-11-22T12:04:18.868+02:00" :=
  toString_read_back utcMachine ⟨1542881058868123456⟩ 3 "+02:00" "2018-11-22T12:04:18.868+02:00"
    (by decide +kernel)

theorem isOffset_unique {off : Text} {m n : Int} (hm : IsOffset off m) (hn : IsOffset off n) :
    m = n := by
  have h := calcTimeOffset_eq_some_iff.mpr hm
  rw [calcTimeOffset_eq_some_iff.mpr hn] at h
  exact (Option.some.inj h).symm

theorem moved_zero (tp : TimePoint) : tp.moved 0 = tp := by
  unfold TimePoint.moved
  rw [Int.zero_mul]
  exact congrArg TimePoint.mk (BitVec.add_zero _)

/-- Milliseconds are shown whole. -/
theorem setMillis_shown {ms : Nat} (h : ms < 18446744073709) :
    (setMillis ms).shown 0 3 = setMillis ms ∧
      (setMillis ms).nanosSinceEpoch.toNat / nanosInSecond = ms / 1000 := by
  have hnanos : (setMillis ms).nanosSinceEpoch.toNat = ms * 1000000 := by
    have hcast : (ms : Int) * 1000000 = (ms * 1000000 : Nat) := (Nat.cast_mul _ _).symm
    have hlt : ms * 1000000 < 2 ^ 64 := by omega
    unfold setMillis
    rw [hcast, BitVec.ofInt_natCast, BitVec.toNat_ofNat, Nat.mod_eq_of_lt hlt]
  have hcut : cut 3 (ms * 1000000) = ms * 1000000 := by
    have hzero : ms * 1000000 % 10 ^ (9 - 3) = 0 := Nat.mul_mod_left ms 1000000
    unfold cut
    rw [hzero, Nat.sub_zero]
  refine ⟨?_, ?_⟩
  · unfold TimePoint.shown
    rw [moved_zero, hnanos, hcut, Int.neg_zero, moved_zero, ← hnanos, BitVec.ofNat_toNat,
      BitVec.setWidth_eq]
  · rw [hnanos]
    unfold nanosInSecond
    omega

/-- The clock of a stamp is that of its time. -/
theorem Stamp.gmtime_clock (s : Stamp) {seconds : Nat} (h : s.clock.seconds = seconds) :
    gmtime seconds = s.clock := by
  have hhour := s.hour_lt
  have hminute := s.minute_lt
  have hsecond := s.second_lt
  have hseconds : ((s.date.number : Int) - epochDay) * 86400 + s.hour * 3600 + s.minute * 60 +
    s.second = seconds := h
  have hday : epochDay + seconds / 86400 = s.date.number := by omega
  have hhour : seconds % 86400 / 3600 = s.hour := by omega
  have hminute : seconds % 3600 / 60 = s.minute := by omega
  have hsecond : seconds % 60 = s.second := by omega
  unfold gmtime Stamp.clock
  rw [hday, dateOf_number, hhour, hminute, hsecond]

/-- The digits of a stamp are fewer nanoseconds than a second. -/
theorem Stamp.fraction_lt (s : Stamp) :
    value s.digits * 10 ^ (9 - s.digits.length) < nanosInSecond := by
  have hlt := Nat.mul_lt_mul_of_pos_right (value_lt s.isDigit)
    (Nat.pow_pos (by decide) : 0 < 10 ^ (9 - s.digits.length))
  rwa [← Nat.pow_add, Nat.add_sub_cancel' s.digits_le] at hlt

theorem Stamp.text_eq_textOf (s : Stamp) (h : s.nanos = nanos) :
    s.text = textOf s.digits.length nanos s.off := by
  have hlt := s.fraction_lt
  have hsplit : s.clock.seconds * nanosInSecond +
    (value s.digits * 10 ^ (9 - s.digits.length) : Nat) = nanos := by
    rw [← h]
    unfold Stamp.nanos
    push_cast
    rfl
  have hseconds : s.clock.seconds = (nanos / nanosInSecond : Nat) := by
    unfold nanosInSecond at *
    omega
  have hfraction : nanos % nanosInSecond = value s.digits * 10 ^ (9 - s.digits.length) := by
    unfold nanosInSecond at *
    omega
  have hdigits : fractionOf s.digits.length (nanos % nanosInSecond) =
      if s.digits = [] then [] else '.' :: s.digits := by
    unfold fractionOf
    rw [hfraction, Nat.mul_div_cancel _ (Nat.pow_pos (by decide)), padded_value s.isDigit]
    simp only [List.length_eq_zero_iff]
  unfold Stamp.text textOf
  rw [s.gmtime_clock hseconds, hdigits]

/-- A text shows one time only, down to the second. -/
theorem textOf_seconds {m n : Nat} (hm : m / nanosInSecond < 18446744074)
    (hn : n / nanosInSecond < 18446744074)
    (h : textOf digits m timeOffset = textOf digits n timeOffset) :
    m / nanosInSecond = n / nanosInSecond := by
  have hread (k : Nat) (hk : k / nanosInSecond < 18446744074) :
      getTime (textOf digits k timeOffset) = some (gmtime (k / nanosInSecond)).read :=
    getTime_text (gmtime_inRange hk) rfl _
  have hsame := hread m hm
  rw [h, hread n hn, Option.some.injEq] at hsame
  have hseconds := congrArg Tm.seconds hsame
  have hm' : (gmtime (m / nanosInSecond)).read.seconds = (m / nanosInSecond : Nat) := gmtime_seconds _
  have hn' : (gmtime (n / nanosInSecond)).read.seconds = (n / nanosInSecond : Nat) := gmtime_seconds _
  rw [hm', hn'] at hseconds
  exact (Int.ofNat.inj hseconds).symm

theorem digitsOf_cast (hdigits : digits ≤ 9) : digitsOf digits = digits := by
  unfold digitsOf nanoSecondPrecision
  omega

/-- In the zone it was read in, a time shows the clock that was read. -/
theorem timePoint_moved (tm : Tm) (nanos : Nat) (minutes : Int) :
    ((z.timePoint tm nanos minutes).moved minutes).nanosSinceEpoch =
      BitVec.ofInt 64 ((z.mktime tm - z.timeZone) * nanosInSecond + nanos) := by
  unfold TimePoint.moved Zone.timePoint
  dsimp only
  rw [← BitVec.ofInt_add, Int.sub_add_cancel]

/-- The second that is shown is the one that was meant only if no whole second is lost. -/
theorem eq_of_seconds_eq {m : Int} {shown rest : Nat} (hm : m - (nanos / nanosInSecond : Nat) < 4 * 86400)
    (hn : (nanos / nanosInSecond : Nat) - m < 4 * 86400) (hrest : rest < nanosInSecond)
    (hshown : shown / nanosInSecond = nanos / nanosInSecond)
    (h : BitVec.ofInt 64 (m * nanosInSecond + rest) = BitVec.ofInt 64 shown) :
    m = (nanos / nanosInSecond : Nat) := by
  have hdvd := Int.dvd_of_emod_eq_zero (ofInt_eq_iff.mp h)
  have hsmall : |m * nanosInSecond + rest - shown| < 2 ^ 64 := by
    clear h hdvd
    unfold nanosInSecond at *
    exact abs_lt.mpr ⟨by omega, by omega⟩
  have hzero := Int.eq_zero_of_abs_lt_dvd hdvd hsmall
  clear h hdvd hsmall
  unfold nanosInSecond at *
  omega

theorem saveMinimal_eq (tp : TimePoint) :
    saveMinimal tp = .ok (textOf 3 tp.nanosSinceEpoch.toNat utcIndicator) := by
  have hprinted := @toString_of_offset tp utcIndicator 3 0 .utc
  rwa [moved_zero] at hprinted

theorem textOf_noNul (digits nanos : Nat) : '\x00' ∉ textOf digits nanos utcIndicator := by
  have hdigits (width n : Nat) : '\x00' ∉ padded width n := not_mem_padded (by decide) width n
  unfold textOf fractionOf Tm.text utcIndicator
  split_ifs <;> simp [hdigits]

/-- A field is read again from its text just if it holds whole milliseconds of a clock that
the machine keeps. -/
theorem loadMinimal_saved_iff (z : Zone) (tp : TimePoint) :
    loadMinimal z (textOf 3 tp.nanosSinceEpoch.toNat utcIndicator) = .ok tp ↔
      tp.shown 0 3 = tp ∧ z.Keeps (tp.nanosSinceEpoch.toNat / nanosInSecond) := by
  have hshown := @timePoint_eq_shown_iff z tp 0 3 (by decide)
  have hread := @fromString_textOf z utcIndicator 0 _ 3 (seconds_lt tp) (by decide) .utc
  rw [moved_zero] at hshown
  unfold loadMinimal
  rw [hread, Except.ok.injEq]
  constructor
  · intro h
    have hnear := z.near (tp.nanosSinceEpoch.toNat / nanosInSecond)
    have hrest : cut 3 (tp.nanosSinceEpoch.toNat % nanosInSecond) < nanosInSecond :=
      (Nat.sub_le _ _).trans_lt (Nat.mod_lt _ (by decide))
    have hmoved := timePoint_moved (z := z) (gmtime (tp.nanosSinceEpoch.toNat / nanosInSecond)).read
      (cut 3 (tp.nanosSinceEpoch.toNat % nanosInSecond)) 0
    rw [h, moved_zero] at hmoved
    have hkeeps := eq_of_seconds_eq hnear.1 hnear.2 hrest rfl (by
      rw [← hmoved, BitVec.ofInt_natCast, BitVec.ofNat_toNat, BitVec.setWidth_eq])
    exact ⟨(hshown.mpr hkeeps).symm.trans h, hkeeps⟩
  · rintro ⟨hwhole, hkeeps⟩
    exact (hshown.mpr hkeeps).trans hwhole

/-- What a field is set to in milliseconds is read again from its text. -/
theorem loadMinimal_saved (z : Zone) {ms : Nat} (h : ms < 18446744073709)
    (hkeeps : z.Keeps (ms / 1000)) :
    ∃ text, saveMinimal (setMillis ms) = .ok text ∧ loadMinimal z text = .ok (setMillis ms) := by
  obtain ⟨hshown, hseconds⟩ := setMillis_shown h
  refine ⟨_, saveMinimal_eq _, (loadMinimal_saved_iff z _).mpr ⟨hshown, ?_⟩⟩
  rwa [hseconds]

/-- A stamp whose clock, taken for UTC, is within 64 bits of nanoseconds is read and printed
again as it was written, on machines that keep its clock and on no others. -/
theorem stamp_printed_back (z : Zone) (s : Stamp) (h : s.nanos = nanos) (hnanos : nanos < 2 ^ 64) :
    (∃ tp, fromString z s.text = .ok tp ∧ toString tp s.digits.length s.off = .ok s.text) ↔
      z.Keeps (nanos / nanosInSecond) := by
  have hseconds : nanos / nanosInSecond < 18446744074 := by
    unfold nanosInSecond
    omega
  have hread := fromString_textOf (z := z) hseconds s.digits_le s.isOffset
  have hcut := cut_seconds s.digits_le nanos
  have hcutle : cut s.digits.length nanos ≤ nanos := Nat.sub_le _ _
  rw [s.text_eq_textOf h, hread]
  constructor
  · rintro ⟨tp, htp, hprint⟩
    obtain rfl := Except.ok.inj htp
    obtain ⟨minutes, hoffset, htext⟩ := toString_ok_iff.mp hprint
    obtain rfl := isOffset_unique s.isOffset hoffset
    rw [digitsOf_cast s.digits_le] at htext
    have hshown := textOf_seconds hseconds (seconds_lt _) htext
    have hmoved := timePoint_moved (z := z) (gmtime (nanos / nanosInSecond)).read
      (cut s.digits.length (nanos % nanosInSecond)) s.minutes
    have hnear := z.near (nanos / nanosInSecond)
    have hrest : cut s.digits.length (nanos % nanosInSecond) < nanosInSecond :=
      (Nat.sub_le _ _).trans_lt (Nat.mod_lt _ (by decide))
    refine eq_of_seconds_eq hnear.1 hnear.2 hrest hshown.symm ?_
    rw [← hmoved, BitVec.ofInt_natCast, BitVec.ofNat_toNat, BitVec.setWidth_eq]
  · intro hkeeps
    refine ⟨_, rfl, ?_⟩
    have hmoved := timePoint_moved (z := z) (gmtime (nanos / nanosInSecond)).read
      (cut s.digits.length (nanos % nanosInSecond)) s.minutes
    have hvalue : ((nanos / nanosInSecond : Nat) : Int) * nanosInSecond +
        (cut s.digits.length (nanos % nanosInSecond) : Nat) = (cut s.digits.length nanos : Nat) := by
      rw [hcut]
      push_cast
      rfl
    unfold Zone.Keeps at hkeeps
    rw [hkeeps, hvalue, BitVec.ofInt_natCast] at hmoved
    rw [toString_of_offset s.isOffset, hmoved, BitVec.toNat_ofNat,
      Nat.mod_eq_of_lt (hcutle.trans_lt hnanos), digitsOf_cast s.digits_le, textOf_cut s.digits_le]

/-- The last moment of 64 bits. -/
def lastMoment : Stamp where
  date := ⟨2554, 7, 21, by decide, by decide, by decide, 31, rfl, by decide⟩
  hour := 23
  minute := 34
  second := 33
  digits := "709551615"
  off := "Z"
  minutes := 0
  hour_lt := by decide
  minute_lt := by decide
  second_lt := by decide
  isDigit := List.all_eq_true.mp rfl
  digits_le := by decide
  isOffset := .utc

theorem stamp_printed_back_last :
    ∃ tp, fromString utcMachine lastMoment.text = .ok tp ∧
      toString tp lastMoment.digits.length lastMoment.off = .ok lastMoment.text :=
  (stamp_printed_back utcMachine lastMoment rfl (by decide)).mpr (utcMachine_keeps _)

example : fromString utcMachine "2554-07-21T23:34:33.709551616Z" = .ok ⟨0⟩ := rfl

end Results

end UCLinux.Ocpp.Rfc3339
