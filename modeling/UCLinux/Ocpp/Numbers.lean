import UCLinux.Ocpp.Text

/-!
Decimal numbers in texts. `leadingNumber` reads a number at the start of a
text, after spaces and whatever comes behind it; `numberOf` is the number that
a whole text is. A number that a text is is read from it, also between spaces.
-/

namespace UCLinux.Ocpp

open Sql

/-- A character that ends a number. -/
structure EndsNumber (d : Char) : Prop where
  noSpace : isSpace d = false
  noDigit : d.isDigit = false
  noMinus : d ≠ '-'
  noPlus : d ≠ '+'
  noNul : d ≠ '\x00'

variable {d : Char}

theorem takeWhile_stop {p : Char → Bool} {a rest : Text} (h : p d = false) :
    (a ++ d :: rest).takeWhile p = a.takeWhile p := by
  induction a with
  | nil => simp [h]
  | cons c a ih => simp only [List.cons_append, List.takeWhile_cons, ih]

theorem dropWhile_stop {p : Char → Bool} {a rest : Text} (h : p d = false) :
    (a ++ d :: rest).dropWhile p = a.dropWhile p ++ d :: rest := by
  induction a with
  | nil => simp [h]
  | cons c a ih =>
    simp only [List.cons_append, List.dropWhile_cons, ih]
    split <;> rfl

/-- The number after the spaces. -/
def signedNumber : Text → Option Int
  | '-' :: rest => leadingNumber.digits (rest.takeWhile Char.isDigit) fun n => -n
  | '+' :: rest => leadingNumber.digits (rest.takeWhile Char.isDigit) id
  | rest => leadingNumber.digits (rest.takeWhile Char.isDigit) id

theorem leadingNumber_eq (s : Text) :
    leadingNumber s = signedNumber ((cstr s).dropWhile isSpace) := rfl

theorem signedNumber_unsigned {c : Char} {rest : Text} (hminus : c ≠ '-') (hplus : c ≠ '+') :
    signedNumber (c :: rest) =
      leadingNumber.digits ((c :: rest).takeWhile Char.isDigit) id := by
  unfold signedNumber
  split
  · next heq => exact absurd (List.cons.inj heq).1 hminus
  · next heq => exact absurd (List.cons.inj heq).1 hplus
  · rfl

theorem signedNumber_stop (hd : EndsNumber d) (a rest : Text) :
    signedNumber (a ++ d :: rest) = signedNumber a := by
  have hstop (b : Text) : (b ++ d :: rest).takeWhile Char.isDigit = b.takeWhile Char.isDigit :=
    takeWhile_stop hd.noDigit
  cases a with
  | nil =>
    rw [List.nil_append, signedNumber_unsigned hd.noMinus hd.noPlus, ← List.nil_append (d :: rest),
      hstop]
    rfl
  | cons c a =>
    by_cases hminus : c = '-'
    · subst hminus
      exact congrArg (leadingNumber.digits · fun n => -n) (hstop a)
    · by_cases hplus : c = '+'
      · subst hplus
        exact congrArg (leadingNumber.digits · id) (hstop a)
      · rw [List.cons_append, signedNumber_unsigned hminus hplus,
          signedNumber_unsigned hminus hplus, ← List.cons_append, hstop]

/-- A number is not read past such a character. -/
theorem leadingNumber_stop (hd : EndsNumber d) (a rest : Text) :
    leadingNumber (a ++ d :: rest) = leadingNumber a := by
  rw [leadingNumber_eq, leadingNumber_eq]
  by_cases hnul : '\x00' ∈ a
  · rw [cstr_append_of_mem hnul]
  · have hkept : cstr (d :: rest) = d :: cstr rest :=
      List.takeWhile_cons_of_pos (decide_eq_true hd.noNul)
    rw [cstr_append_of_not_mem hnul, hkept, cstr_of_no_nul hnul, dropWhile_stop hd.noSpace,
      signedNumber_stop hd]

/-- Reading up to such a character changes no number. -/
theorem leadingNumber_takeWhile (hd : EndsNumber d) (s : Text) :
    leadingNumber (s.takeWhile (· ≠ d)) = leadingNumber s := by
  have hsplit := List.takeWhile_append_dropWhile (p := fun c => decide (c ≠ d)) (l := s)
  cases hrest : s.dropWhile (· ≠ d) with
  | nil =>
    rw [hrest, List.append_nil] at hsplit
    rw [hsplit]
  | cons c rest =>
    have hc : c = d := by
      have h := List.head?_dropWhile_not (fun c => decide (c ≠ d)) s
      rw [hrest] at h
      simpa using h
    rw [hrest, hc] at hsplit
    rw [← leadingNumber_stop hd _ rest, hsplit]

/-- The text is digits only. -/
structure Decimal (t : Text) : Prop where
  nonempty : t ≠ []
  digits : ∀ c ∈ t, c.isDigit

instance (t : Text) : Decidable (Decimal t) :=
  decidable_of_iff (t ≠ [] ∧ t.all Char.isDigit)
    ⟨fun h => ⟨h.1, List.all_eq_true.mp h.2⟩, fun h => ⟨h.1, List.all_eq_true.mpr h.2⟩⟩

/-- The signed decimal number that a text is. -/
def numberOf : Text → Option Int
  | '-' :: ds => if Decimal ds then some (-digitsValue ds) else none
  | '+' :: ds => if Decimal ds then some (digitsValue ds) else none
  | ds => if Decimal ds then some (digitsValue ds) else none

theorem Decimal.takeWhile {ds b : Text} (h : Decimal ds) (hb : ∀ c ∈ b, c.isDigit = false) :
    (ds ++ b).takeWhile Char.isDigit = ds := by
  rw [List.takeWhile_append_of_pos h.digits]
  cases b with
  | nil => simp
  | cons c b =>
    have hc : c.isDigit = false := hb c List.mem_cons_self
    simp [hc]

theorem Decimal.digits_read {ds b : Text} (h : Decimal ds) (hb : ∀ c ∈ b, c.isDigit = false)
    (sign : Int → Int) :
    leadingNumber.digits ((ds ++ b).takeWhile Char.isDigit) sign =
      some (sign (digitsValue ds)) := by
  rw [h.takeWhile hb]
  exact if_neg h.nonempty

theorem numberOf_unsigned {t : Text} (hminus : t.head? ≠ some '-') (hplus : t.head? ≠ some '+') :
    numberOf t = if Decimal t then some (digitsValue t) else none := by
  unfold numberOf
  split
  · exact absurd rfl hminus
  · exact absurd rfl hplus
  · rfl

theorem Decimal.unsigned {t : Text} (h : Decimal t) :
    t.head? ≠ some '-' ∧ t.head? ≠ some '+' := by
  cases t with
  | nil => exact ⟨by simp, by simp⟩
  | cons c t =>
    have hc := h.digits c List.mem_cons_self
    refine ⟨fun heq => ?_, fun heq => ?_⟩
    · cases heq
      exact absurd hc (by decide)
    · cases heq
      exact absurd hc (by decide)

theorem numberOf_decimal {t : Text} (h : Decimal t) : numberOf t = some (digitsValue t) := by
  rw [numberOf_unsigned h.unsigned.1 h.unsigned.2, if_pos h]

/-- A number is read from its text, whatever other than a digit follows. -/
theorem signedNumber_of_numberOf {t b : Text} {n : Int} (h : numberOf t = some n)
    (hb : ∀ c ∈ b, c.isDigit = false) : signedNumber (t ++ b) = some n := by
  unfold numberOf at h
  split at h
  · split at h
    · next hds =>
      cases h
      exact hds.digits_read hb fun n => -n
    · cases h
  · split at h
    · next hds =>
      cases h
      exact hds.digits_read hb id
    · cases h
  · split at h
    · next hds =>
      cases h
      obtain ⟨hminus, hplus⟩ := hds.unsigned
      cases t with
      | nil => exact absurd rfl hds.nonempty
      | cons c t =>
        rw [List.cons_append, signedNumber_unsigned (fun heq => hminus (congrArg some heq))
          fun heq => hplus (congrArg some heq), ← List.cons_append]
        exact hds.digits_read hb id
    · cases h

theorem eq_of_isSpace {c : Char} (h : isSpace c = true) :
    c = ' ' ∨ c = '\t' ∨ c = '\n' ∨ c = '\x0b' ∨ c = '\x0c' ∨ c = '\r' := by
  simpa [isSpace, or_assoc] using h

theorem isDigit_of_isSpace {c : Char} (h : isSpace c = true) : c.isDigit = false := by
  rcases eq_of_isSpace h with rfl | rfl | rfl | rfl | rfl | rfl <;> rfl

/-- A number starts with no space. -/
theorem numberOf_head {t : Text} {n : Int} (h : numberOf t = some n) :
    ∃ c s, t = c :: s ∧ isSpace c = false := by
  unfold numberOf at h
  split at h
  · exact ⟨_, _, rfl, rfl⟩
  · exact ⟨_, _, rfl, rfl⟩
  · split at h
    · next hds =>
      cases t with
      | nil => exact absurd rfl hds.nonempty
      | cons c s =>
        refine ⟨c, s, rfl, Bool.eq_false_iff.mpr fun hspace => ?_⟩
        have hdigit := hds.digits c List.mem_cons_self
        rw [isDigit_of_isSpace hspace] at hdigit
        cases hdigit
    · cases h

/-- A number between spaces is read. -/
theorem leadingNumber_spaced {a t b : Text} {n : Int} (hnul : '\x00' ∉ a ++ (t ++ b))
    (ha : ∀ c ∈ a, isSpace c) (h : numberOf t = some n) (hb : ∀ c ∈ b, c.isDigit = false) :
    leadingNumber (a ++ (t ++ b)) = some n := by
  obtain ⟨c, s, rfl, hc⟩ := numberOf_head h
  have hstart : (a ++ (c :: s ++ b)).dropWhile isSpace = c :: s ++ b := by
    rw [List.dropWhile_append_of_pos ha, List.cons_append, List.dropWhile_cons,
      if_neg (by simp [hc])]
  rw [leadingNumber_eq, cstr_of_no_nul hnul, hstart, signedNumber_of_numberOf h hb]

theorem Decimal.noNul {ds : Text} (h : Decimal ds) : '\x00' ∉ ds := fun hc =>
  absurd (h.digits _ hc) (by decide)

theorem numberOf_noNul {t : Text} {n : Int} (h : numberOf t = some n) : '\x00' ∉ t := by
  have hsigned {c : Char} {ds : Text} (hc : c ≠ '\x00') (hds : Decimal ds) :
      '\x00' ∉ c :: ds := fun hmem =>
    (List.mem_cons.mp hmem).elim (fun heq => hc heq.symm) hds.noNul
  unfold numberOf at h
  split at h
  · split at h
    · next hds => exact hsigned (by decide) hds
    · cases h
  · split at h
    · next hds => exact hsigned (by decide) hds
    · cases h
  · split at h
    · next hds => exact hds.noNul
    · cases h

/-- The number that a text is, if it is an `int`. -/
theorem stoi_of_numberOf {t : Text} {n : Int} (h : numberOf t = some n) :
    stoi t = if -(2 ^ 31) ≤ n ∧ n < 2 ^ 31 then some n else none := by
  have hread : leadingNumber ([] ++ (t ++ [])) = some n := by
    apply leadingNumber_spaced _ _ h
    · exact fun c hc => absurd hc List.not_mem_nil
    · simpa using numberOf_noNul h
    · exact fun c hc => absurd hc List.not_mem_nil
  rw [List.nil_append, List.append_nil] at hread
  unfold stoi
  rw [hread]

theorem digitsValue_eq {s : Text} (h : ∀ c ∈ s, c.isDigit) :
    digitsValue s = (Nat.ofDigitChars 10 s 0 : Nat) := by
  unfold digitsValue Nat.ofDigitChars
  have hstep : ∀ (n : Nat), s.foldl (fun (m : Int) c => 10 * m + (c.toNat - '0'.toNat)) (n : Int) =
      (s.foldl (fun m c => 10 * m + (c.toNat - '0'.toNat)) n : Nat) := by
    induction s with
    | nil => intro n; rfl
    | cons c s ih =>
      intro n
      have hc := h c List.mem_cons_self
      have hge : '0'.toNat ≤ c.toNat := by
        simp only [Char.isDigit, Bool.and_eq_true, decide_eq_true_eq, ge_iff_le] at hc
        exact hc.1
      have hdigit : (10 * (n : Int) + ((c.toNat : Int) - ('0'.toNat : Int))) =
          ((10 * n + (c.toNat - '0'.toNat) : Nat) : Int) := by omega
      rw [List.foldl_cons, List.foldl_cons, hdigit]
      exact ih (fun d hd => h d (List.mem_cons_of_mem _ hd)) _
  exact hstep 0

theorem isDigit_toDigits {n : Nat} : ∀ c ∈ Nat.toDigits 10 n, c.isDigit :=
  fun _ hc => Nat.isDigit_of_mem_toDigits (by decide) (by decide) hc

/-- A printed number is the number it prints. -/
theorem numberOf_printed (n : Int) : numberOf (decimal n) = some n := by
  have hds : Decimal (Nat.toDigits 10 n.natAbs) := ⟨Nat.toDigits_ne_nil, isDigit_toDigits⟩
  have hvalue : digitsValue (Nat.toDigits 10 n.natAbs) = n.natAbs := by
    rw [digitsValue_eq isDigit_toDigits, Nat.ofDigitChars_ten_toDigits]
  unfold decimal
  split
  · have hneg : numberOf ('-' :: Nat.toDigits 10 n.natAbs) =
        some (-digitsValue (Nat.toDigits 10 n.natAbs)) := if_pos hds
    rw [hneg, hvalue]
    exact congrArg some (by omega)
  · rw [numberOf_decimal hds, hvalue]
    exact congrArg some (by omega)

theorem stoi_decimal {n : Int} (h : -(2 ^ 31) ≤ n ∧ n < 2 ^ 31) : stoi (decimal n) = some n :=
  (stoi_of_numberOf (numberOf_printed n)).trans (if_pos h)

end UCLinux.Ocpp
