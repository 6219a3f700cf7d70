import UCLinux.Json.Reading
import UCLinux.Ocpp.Text

/-!
String literals. Decoding a literal shortens it unless it has no escape, and
brings its first quote nearer to its start, so a text that is printed between
quotes as it is comes back from a reader only when it needs no escape.
-/

namespace UCLinux.Ocpp

open Sql

section Decoding

theorem isPlain_of_hexDigit {c : Char} {n : Nat} (h : hexDigit c = some n) : Json.IsPlain c := by
  have hrange : 48 ≤ c.toNat ∧ c.toNat ≤ 57 ∨ 65 ≤ c.toNat ∧ c.toNat ≤ 70 ∨
      97 ≤ c.toNat ∧ c.toNat ≤ 102 := by
    unfold hexDigit at h
    split_ifs at h with hdigit hupper hlower
    · simp only [Char.isDigit, Bool.and_eq_true, decide_eq_true_eq, ge_iff_le] at hdigit
      exact Or.inl ⟨hdigit.1, hdigit.2⟩
    · exact Or.inr (Or.inl hupper)
    · exact Or.inr (Or.inr hlower)
  refine ⟨?_, ?_, by omega⟩
  · rintro rfl
    exact absurd hrange (by decide)
  · rintro rfl
    exact absurd hrange (by decide)

theorem isPlain_of_fromHexToI {s : Text} {n : Nat} (h : fromHexToI s = some n) {c : Char}
    (hc : c ∈ s) : Json.IsPlain c := by
  have hfold : ∀ (s : Text) (k n : Nat),
      s.foldlM (fun n c => (hexDigit c).map (16 * n + ·)) k = some n →
      ∀ c ∈ s, Json.IsPlain c := by
    intro s
    induction s with
    | nil => simp
    | cons d s ih =>
      intro k n hk c hc
      rw [List.foldlM_cons] at hk
      obtain ⟨k', hd, hrest⟩ := Option.bind_eq_some_iff.mp hk
      rcases List.mem_cons.mp hc with rfl | hc
      · obtain ⟨_, hdigit, _⟩ := Option.map_eq_some_iff.mp hd
        exact isPlain_of_hexDigit hdigit
      · exact ih k' n hrest c hc
  exact hfold s 0 n h c hc

/-- Four hexadecimal digits behind `\u`. -/
theorem isBody_unicode {a b c d : Char} {n : Nat} (h : fromHexToI [a, b, c, d] = some n)
    {t : Text} (ht : Json.IsBody t) : Json.IsBody ('\\' :: 'u' :: a :: b :: c :: d :: t) := by
  have hplain := fun x hx => isPlain_of_fromHexToI h (c := x) hx
  exact .escape (by decide) (.plain (hplain a (by simp)) (.plain (hplain b (by simp))
    (.plain (hplain c (by simp)) (.plain (hplain d (by simp)) ht))))

theorem escapes_of_simpleEscape {e c : Char} (h : simpleEscape e = some c) :
    e ∈ Json.escapes := by
  unfold simpleEscape at h
  split at h
  all_goals first
    | decide
    | cases h

/-- What decodes is the inside of one string literal. -/
theorem unescape_isBody {b s : Text} (h : unescape b = some s) : Json.IsBody b := by
  fun_induction unescape b generalizing s with
  | case1 => exact .nil
  | case2 a b c d rest val hval hrange ih =>
    obtain ⟨v, hv, _⟩ := Option.map_eq_some_iff.mp h
    exact isBody_unicode hval (ih hv)
  | case3 a b c d val hval hrange e f g h' rest low hlow hpair ih =>
    obtain ⟨v, hv, _⟩ := Option.map_eq_some_iff.mp h
    exact isBody_unicode hval (isBody_unicode hlow (ih hv))
  | case8 e rest hu c hc ih =>
    obtain ⟨v, hv, _⟩ := Option.map_eq_some_iff.mp h
    exact .escape (escapes_of_simpleEscape hc) (ih hv)
  | case11 c rest _ _ hplain ih =>
    obtain ⟨v, hv, _⟩ := Option.map_eq_some_iff.mp h
    refine .plain ⟨fun hq => hplain (Or.inl hq), fun hb => hplain (Or.inr (Or.inl hb)), ?_⟩
      (ih hv)
    exact Nat.le_of_not_lt fun hlt => hplain (Or.inr (Or.inr hlt))
  | case4 | case5 | case6 | case7 | case9 | case10 => cases h

/-- String literals as JSON libraries decode them. -/
def literals : Json.Decoder where
  decode := unescape
  isBody _ _ := unescape_isBody

end Decoding

section Plain

/-- A text that stands for itself between the quotes of a JSON string. -/
def Plain (t : Text) : Prop := ∀ c ∈ t, c ≠ '"' ∧ c ≠ '\\' ∧ 0x20 ≤ c.toNat

theorem toUtf8_length (code : Nat) : (toUtf8 code).length ≤ 4 := by
  unfold toUtf8
  dsimp only
  split_ifs <;> simp

/-- Decoding a string literal shortens it, or leaves it as it is. -/
theorem unescape_shortens {t u : Text} (h : unescape t = some u) :
    u.length < t.length ∨ u = t ∧ Plain t := by
  fun_induction unescape t generalizing u with
  | case1 =>
    cases h
    exact Or.inr ⟨rfl, by simp [Plain]⟩
  | case2 a b c d rest val hval hrange ih =>
    obtain ⟨v, hv, rfl⟩ := Option.map_eq_some_iff.mp h
    have hutf := toUtf8_length val
    simp only [List.length_append, List.length_cons]
    rcases ih hv with hlt | ⟨rfl, _⟩ <;> omega
  | case3 a b c d val hval hrange e f g h' rest low hlow hpair ih =>
    obtain ⟨v, hv, rfl⟩ := Option.map_eq_some_iff.mp h
    have hutf := toUtf8_length (0x10000 + (val - 0xD800) * 0x400 + (low - 0xDC00))
    simp only [List.length_append, List.length_cons]
    rcases ih hv with hlt | ⟨rfl, _⟩ <;> omega
  | case8 e rest hu c hc ih =>
    obtain ⟨v, hv, rfl⟩ := Option.map_eq_some_iff.mp h
    simp only [List.length_cons]
    rcases ih hv with hlt | ⟨rfl, _⟩ <;> omega
  | case11 c rest _ _ hplain ih =>
    obtain ⟨v, hv, rfl⟩ := Option.map_eq_some_iff.mp h
    rcases ih hv with hlt | ⟨rfl, hrest⟩
    · exact Or.inl (by simpa using hlt)
    · refine Or.inr ⟨rfl, fun x hx => ?_⟩
      rcases List.mem_cons.mp hx with rfl | later
      · exact ⟨fun hq => hplain (Or.inl hq), fun hb => hplain (Or.inr (Or.inl hb)),
          Nat.le_of_not_lt fun hlt => hplain (Or.inr (Or.inr hlt))⟩
      · exact hrest x later
  | case4 | case5 | case6 | case7 | case9 | case10 => cases h

theorem unescape_of_plain {t : Text} (h : Plain t) : unescape t = some t := by
  induction t with
  | nil => rfl
  | cons c t ih =>
    obtain ⟨hquote, hslash, hctrl⟩ := h c (List.mem_cons_self ..)
    have hrest := ih fun x hx => h x (List.mem_cons_of_mem c hx)
    have hkeep : ¬(c = '"' ∨ c = '\\' ∨ c.toNat < 0x20) := by
      rintro (hq | hb | hlt)
      · exact hquote hq
      · exact hslash hb
      · omega
    unfold unescape
    split
    · cases ‹_ = []›
    · exact absurd (List.cons.inj ‹_›).1 hslash
    · exact absurd (List.cons.inj ‹_›).1 hslash
    · next heq =>
      obtain ⟨rfl, rfl⟩ := List.cons.inj heq
      rw [if_neg hkeep, hrest]
      rfl

/-- The server prints a uid as it is, so a JSON reader finds it again exactly
when it is plain. -/
theorem unescape_cstr_iff {uid : Text} : unescape (cstr uid) = some uid ↔ Plain uid := by
  constructor
  · intro h
    have hprefix : cstr uid <+: uid := List.takeWhile_prefix _
    rcases unescape_shortens h with hlt | ⟨heq, hplain⟩
    · have := hprefix.length_le
      omega
    · rwa [← heq] at hplain
  · intro h
    have hnul : '\x00' ∉ uid := fun hmem => absurd (h _ hmem).2.2 (by decide)
    rw [cstr_of_no_nul hnul]
    exact unescape_of_plain h

end Plain

section Quotes

theorem takeWhile_append_le {p : Char → Bool} (x y : Text) :
    ((x ++ y).takeWhile p).length ≤ x.length + (y.takeWhile p).length := by
  induction x with
  | nil => simp
  | cons c x ih =>
    rw [List.cons_append]
    by_cases hc : p c = true
    · rw [List.takeWhile_cons_of_pos hc]
      simp only [List.length_cons]
      omega
    · rw [List.takeWhile_cons_of_neg hc]
      simp

/-- What stands before the first quote. -/
def beforeQuote (t : Text) : Text := t.takeWhile (· ≠ '"')

theorem beforeQuote_cons {c : Char} (hc : c ≠ '"') (t : Text) :
    beforeQuote (c :: t) = c :: beforeQuote t :=
  List.takeWhile_cons_of_pos (by simpa using hc)

theorem beforeQuote_append (x y : Text) :
    (beforeQuote (x ++ y)).length ≤ x.length + (beforeQuote y).length :=
  takeWhile_append_le x y

/-- What stands before the first quote of two texts that go on with one. -/
theorem beforeQuote_quote (x r : Text) : beforeQuote (x ++ '"' :: r) = beforeQuote x := by
  induction x with
  | nil => rfl
  | cons c x ih =>
    by_cases hc : c = '"'
    · rw [hc]
      rfl
    · rw [List.cons_append, beforeQuote_cons hc, beforeQuote_cons hc, ih]

theorem beforeQuote_le (x y : Text) :
    (beforeQuote x).length ≤ (beforeQuote (x ++ y)).length := by
  induction x with
  | nil => exact Nat.zero_le _
  | cons c x ih =>
    by_cases hc : c = '"'
    · rw [hc]
      exact Nat.zero_le _
    · rw [List.cons_append, beforeQuote_cons hc, beforeQuote_cons hc]
      exact Nat.succ_le_succ ih

theorem beforeQuote_of_not_mem {t : Text} (h : '"' ∉ t) : beforeQuote t = t := by
  refine List.takeWhile_eq_self_iff.mpr fun c hc => ?_
  rw [decide_eq_true_iff]
  rintro rfl
  exact h hc

theorem beforeQuote_unicode {a b c d : Char} {n : Nat} (h : fromHexToI [a, b, c, d] = some n)
    (t : Text) : beforeQuote ('\\' :: 'u' :: a :: b :: c :: d :: t) =
      '\\' :: 'u' :: a :: b :: c :: d :: beforeQuote t := by
  have hquote := fun x hx => (isPlain_of_fromHexToI h (c := x) hx).1
  rw [beforeQuote_cons (by decide), beforeQuote_cons (by decide),
    beforeQuote_cons (hquote a (by simp)), beforeQuote_cons (hquote b (by simp)),
    beforeQuote_cons (hquote c (by simp)), beforeQuote_cons (hquote d (by simp))]

theorem mem_of_mem_unicode {a b c d : Char} {n : Nat} (h : fromHexToI [a, b, c, d] = some n)
    {t : Text} (hq : '"' ∈ '\\' :: 'u' :: a :: b :: c :: d :: t) : '"' ∈ t := by
  have hquote := fun x hx => (isPlain_of_fromHexToI h (c := x) hx).1
  simp only [List.mem_cons] at hq
  rcases hq with hq | hq | hq | hq | hq | hq | hq
  · exact absurd hq (by decide)
  · exact absurd hq (by decide)
  · exact absurd hq.symm (hquote a (by simp))
  · exact absurd hq.symm (hquote b (by simp))
  · exact absurd hq.symm (hquote c (by simp))
  · exact absurd hq.symm (hquote d (by simp))
  · exact hq

/-- Decoding brings the first quote nearer to the start. -/
theorem unescape_quote {t u : Text} (h : unescape t = some u) (hq : '"' ∈ t) :
    (beforeQuote u).length < (beforeQuote t).length := by
  fun_induction unescape t generalizing u with
  | case1 => cases hq
  | case2 a b c d rest val hval hrange ih =>
    obtain ⟨v, hv, rfl⟩ := Option.map_eq_some_iff.mp h
    have hutf := toUtf8_length val
    have hout := beforeQuote_append (toUtf8 val) v
    have hrest := ih hv (mem_of_mem_unicode hval hq)
    rw [beforeQuote_unicode hval]
    simp only [List.length_cons]
    omega
  | case3 a b c d val hval hrange e f g h' rest low hlow hpair ih =>
    obtain ⟨v, hv, rfl⟩ := Option.map_eq_some_iff.mp h
    have hutf := toUtf8_length (0x10000 + (val - 0xD800) * 0x400 + (low - 0xDC00))
    have hout := beforeQuote_append
      (toUtf8 (0x10000 + (val - 0xD800) * 0x400 + (low - 0xDC00))) v
    have hrest := ih hv (mem_of_mem_unicode hlow (mem_of_mem_unicode hval hq))
    rw [beforeQuote_unicode hval, beforeQuote_unicode hlow]
    simp only [List.length_cons]
    omega
  | case8 e rest hu c hc ih =>
    obtain ⟨v, hv, rfl⟩ := Option.map_eq_some_iff.mp h
    have hslash : beforeQuote ('\\' :: e :: rest) = '\\' :: beforeQuote (e :: rest) :=
      beforeQuote_cons (by decide) _
    rw [hslash]
    by_cases he : e = '"'
    · rw [he] at hc
      cases hc
      exact Nat.succ_pos _
    · have hmem : '"' ∈ rest := by
        simp only [List.mem_cons] at hq
        rcases hq with hq | hq | hq
        · exact absurd hq (by decide)
        · exact absurd hq.symm he
        · exact hq
      have hout := beforeQuote_append [c] v
      have hrest := ih hv hmem
      rw [beforeQuote_cons he]
      simp only [List.length_cons, List.length_nil, List.singleton_append] at hout ⊢
      omega
  | case11 c rest _ _ hplain ih =>
    obtain ⟨v, hv, rfl⟩ := Option.map_eq_some_iff.mp h
    have hc : c ≠ '"' := fun hc => hplain (Or.inl hc)
    have hmem : '"' ∈ rest := by
      rcases List.mem_cons.mp hq with hq | hq
      · exact absurd hq.symm hc
      · exact hq
    have hrest := ih hv hmem
    rw [beforeQuote_cons hc, beforeQuote_cons hc]
    simp only [List.length_cons]
    omega
  | case4 | case5 | case6 | case7 | case9 | case10 => cases h

/-- A literal that begins as the printed uid does and decodes to the uid shows
that this is plain. -/
theorem plain_of_shown {uid b r r' : Text} (h : unescape b = some uid)
    (heq : cstr uid ++ '"' :: r = b ++ '"' :: r') : Plain uid := by
  have hprefix : cstr uid <+: uid := List.takeWhile_prefix _
  have hsame : beforeQuote (cstr uid) = beforeQuote b := by
    rw [← beforeQuote_quote (cstr uid) r, heq, beforeQuote_quote]
  have hshort : (beforeQuote (cstr uid)).length ≤ (beforeQuote uid).length := by
    obtain ⟨z, hz⟩ := hprefix
    have hmono := beforeQuote_le (cstr uid) z
    rwa [hz] at hmono
  by_cases hq : '"' ∈ b
  · have hlt := unescape_quote h hq
    rw [hsame] at hshort
    omega
  · rw [beforeQuote_of_not_mem hq] at hsame
    rcases unescape_shortens h with hlt | ⟨rfl, hplain⟩
    · have hle : b.length ≤ (cstr uid).length := by
        rw [← hsame]
        exact (List.takeWhile_prefix _).length_le
      have := hprefix.length_le
      omega
    · exact hplain

end Quotes

section Numbers

/-- The digits of a number are those of its quotient and a last one. -/
theorem toDigits_cases {b n : Nat} (hb : 1 < b) :
    Nat.toDigits b n = [Nat.digitChar (n % b)] ∧ n < b ∨
      Nat.toDigits b n = Nat.toDigits b (n / b) ++ [Nat.digitChar (n % b)] ∧ b ≤ n := by
  rcases Nat.lt_or_ge n b with hlt | hle
  · rw [Nat.toDigits_of_lt_base hlt, Nat.mod_eq_of_lt hlt]
    exact Or.inl ⟨rfl, hlt⟩
  · exact Or.inr ⟨Nat.toDigits_of_base_le hb hle, hle⟩

/-- A hexadecimal text needs no escape. -/
theorem plain_hexText (n : Int) : Plain (hexText n) := by
  have hdigit : ∀ k < 16, Nat.digitChar k ≠ '"' ∧ Nat.digitChar k ≠ '\\' ∧
      0x20 ≤ (Nat.digitChar k).toNat := by decide
  unfold hexText
  induction (wrapU64 n).toNat using Nat.strongRecOn with
  | ind m ih =>
    intro c hc
    have hlast := hdigit (m % 16) (Nat.mod_lt m (by decide))
    rcases toDigits_cases (n := m) (b := 16) (by decide) with ⟨hdigits, _⟩ | ⟨hdigits, hle⟩
    · rw [hdigits] at hc
      rwa [List.mem_singleton.mp hc]
    · rw [hdigits] at hc
      rcases List.mem_append.mp hc with hc | hc
      · exact ih (m / 16) (by omega) c hc
      · rwa [List.mem_singleton.mp hc]

/-- A positive number does not begin with zero. -/
theorem head_toDigits {n : Nat} (h : 0 < n) : (Nat.toDigits 10 n).head? ≠ some '0' := by
  have hdigit : ∀ k < 10, k ≠ 0 → Nat.digitChar k ≠ '0' := by decide
  induction n using Nat.strongRecOn with
  | ind n ih =>
    rcases toDigits_cases (n := n) (b := 10) (by decide) with ⟨hdigits, hlt⟩ | ⟨hdigits, hle⟩
    · rw [hdigits, Nat.mod_eq_of_lt hlt]
      intro heq
      exact hdigit n hlt (by omega) (Option.some.inj heq)
    · rw [hdigits, List.head?_append_of_ne_nil _ Nat.toDigits_ne_nil]
      exact ih (n / 10) (by omega) (by omega)

/-- A number the server prints is one of JSON. -/
theorem isNumber_decimal (n : Int) : Json.IsNumber (decimal n) := by
  have hdigits (k : Nat) : Json.Digits (Nat.toDigits 10 k) :=
    ⟨Nat.toDigits_ne_nil, fun c hc => Nat.isDigit_of_mem_toDigits (by decide) (by decide) hc⟩
  have hint (k : Nat) : Nat.toDigits 10 k = ['0'] ∨
      Json.Digits (Nat.toDigits 10 k) ∧ (Nat.toDigits 10 k).head? ≠ some '0' := by
    rcases Nat.eq_zero_or_pos k with rfl | hk
    · exact Or.inl (Nat.toDigits_zero 10)
    · exact Or.inr ⟨hdigits k, head_toDigits hk⟩
  have hsigned {sign : Text} (hsign : sign = [] ∨ sign = ['-']) (k : Nat) :
      Json.IsNumber (sign ++ Nat.toDigits 10 k) := by
    have hnumber := Json.IsNumber.mk hsign (hint k) (Or.inl rfl) (Or.inl rfl)
    rwa [List.append_nil, List.append_nil] at hnumber
  unfold decimal
  split
  · exact hsigned (Or.inr rfl) n.natAbs
  · exact hsigned (Or.inl rfl) n.natAbs

end Numbers

end UCLinux.Ocpp
