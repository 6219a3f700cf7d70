import UCLinux.Ocpp.Numbers

/-!
The string helpers of the SIP server: searches for the first occurrence of a
text, what is cut out of a header value by two of them, `strToInt` and `trim`.
-/

namespace UCLinux.Sip

open Sql
open Ocpp (isSpace stoi)

/-- The position of the first occurrence of a text. -/
def find (sub : Text) : Text → Option Nat
  | [] => if sub = [] then some 0 else none
  | c :: s => if sub.isPrefixOf (c :: s) then some 0 else (find sub s).map (· + 1)

/-- `contain_substr` -/
def containSubstr (s sub : Text) : Bool := (find sub s).isSome

/-- `s.substr(0, indexOf(s, sub) + 1)`: nothing when the text does not
occur. -/
def throughFirst (s sub : Text) : Text :=
  match find sub s with
  | some i => s.take (i + 1)
  | none => []

/-- `s.substr(indexOf(s, sub) + 1)`: everything when the text does not
occur. -/
def afterFirst (s sub : Text) : Text :=
  match find sub s with
  | some i => s.drop (i + 1)
  | none => s

/-- `s.substr(0, indexOf(s, sub))`: a length of -1 takes everything. -/
def beforeFirst (s sub : Text) : Text :=
  match find sub s with
  | some i => s.take i
  | none => s

/-- A negative length takes the rest of the text. -/
def extractSubStr (s delim1 delim2 : Text) : Text :=
  match find delim1 s, find delim2 s with
  | some ind1, some ind2 =>
    if ind1 + 1 ≤ ind2 then (s.drop (ind1 + 1)).take (ind2 - (ind1 + 1)) else s.drop (ind1 + 1)
  | _, _ => []

def strToInt (s : Text) : Int := (stoi s).getD (-1)

def trim (s : Text) : Text :=
  ((s.reverse.dropWhile isSpace).reverse).dropWhile isSpace

/-- `removeCharsFromString` -/
def removeChars (s chars : Text) : Text := s.filter fun c => c ∉ chars

section Searching

variable {c : Char} {a b s : Text}

theorem find_char_append (h : c ∉ a) : find [c] (a ++ c :: b) = some a.length := by
  induction a with
  | nil => simp [find]
  | cons d a ih =>
    have hne : c ≠ d := fun heq => h (heq ▸ List.mem_cons_self)
    have ha : c ∉ a := fun hmem => h (List.mem_cons_of_mem _ hmem)
    have hprefix : [c].isPrefixOf (d :: (a ++ c :: b)) = false := by
      simp [List.isPrefixOf, hne]
    rw [List.cons_append, find, hprefix, if_neg Bool.false_ne_true, ih ha]
    rfl

theorem find_char_none (h : c ∉ s) : find [c] s = none := by
  induction s with
  | nil => rfl
  | cons d s ih =>
    have hne : c ≠ d := fun heq => h (heq ▸ List.mem_cons_self)
    have hs : c ∉ s := fun hmem => h (List.mem_cons_of_mem _ hmem)
    have hprefix : [c].isPrefixOf (d :: s) = false := by
      simp [List.isPrefixOf, hne]
    rw [find, hprefix, if_neg Bool.false_ne_true, ih hs]
    rfl

/-- A text that holds a character is cut at its first one. -/
theorem exists_first (h : c ∈ s) : ∃ a b, s = a ++ c :: b ∧ c ∉ a := by
  obtain ⟨a, b, hs, ha⟩ := List.eq_append_cons_of_mem h
  exact ⟨a, b, hs, ha⟩

theorem containSubstr_of_infix {sub : Text} (h : sub <:+: s) : containSubstr s sub = true := by
  unfold containSubstr
  induction s with
  | nil =>
    rw [List.infix_nil.mp h]
    rfl
  | cons c s ih =>
    unfold find
    split_ifs with hprefix
    · rfl
    · rcases List.infix_cons_iff.mp h with hstart | hlater
      · exact absurd (List.isPrefixOf_iff_prefix.mpr hstart) hprefix
      · rw [Option.isSome_map]
        exact ih hlater

theorem afterFirst_append (h : c ∉ a) : afterFirst (a ++ c :: b) [c] = b := by
  unfold afterFirst
  rw [find_char_append h]
  simp [List.drop_append]

theorem afterFirst_none (h : c ∉ s) : afterFirst s [c] = s := by
  unfold afterFirst
  rw [find_char_none h]

theorem beforeFirst_append (h : c ∉ a) : beforeFirst (a ++ c :: b) [c] = a := by
  unfold beforeFirst
  rw [find_char_append h]
  exact List.take_left

theorem drop_past : (a ++ c :: b).drop (a.length + 1) = b := by
  rw [← List.drop_drop, List.drop_left, List.drop_one, List.tail_cons]

theorem extractSubStr_between {d : Char} {t : Text} (hc : c ∉ a) (hd : d ∉ a ++ c :: b) :
    extractSubStr (a ++ c :: (b ++ d :: t)) [c] [d] = b := by
  have hsecond : find [d] (a ++ c :: (b ++ d :: t)) = some (a ++ c :: b).length := by
    rw [← List.cons_append, ← List.append_assoc]
    exact find_char_append hd
  have hlen : (a ++ c :: b).length = a.length + 1 + b.length := by
    rw [List.length_append, List.length_cons]
    omega
  unfold extractSubStr
  rw [find_char_append hc, hsecond]
  dsimp only
  rw [hlen, if_pos (by omega), Nat.add_sub_cancel_left, drop_past, List.take_left]

/-- With the second delimiter before the first the rest of the text is taken. -/
theorem extractSubStr_crossed {d : Char} (hc : c ∉ a) (hd : d ∈ a) :
    extractSubStr (a ++ c :: b) [c] [d] = b := by
  obtain ⟨a₁, a₂, ha, hd₁⟩ := exists_first hd
  have hsecond : find [d] (a ++ c :: b) = some a₁.length := by
    rw [ha, List.append_assoc]
    exact find_char_append hd₁
  have hlen : a₁.length < a.length := by
    rw [ha, List.length_append, List.length_cons]
    omega
  unfold extractSubStr
  rw [find_char_append hc, hsecond]
  dsimp only
  rw [if_neg (by omega), drop_past]

theorem throughFirst_starts (s sub : Text) : throughFirst s sub <+: s := by
  unfold throughFirst
  split
  · exact List.take_prefix _ _
  · exact List.nil_prefix

theorem afterFirst_suffix (s sub : Text) : afterFirst s sub <:+ s := by
  unfold afterFirst
  split
  · exact List.drop_suffix _ _
  · exact List.suffix_refl s

theorem containSubstr_char : containSubstr s [c] = true ↔ c ∈ s := by
  unfold containSubstr
  constructor
  · intro h
    by_contra hc
    rw [find_char_none hc] at h
    cases h
  · intro h
    obtain ⟨a, b, rfl, ha⟩ := exists_first h
    rw [find_char_append ha]
    rfl

end Searching

/-- Trimming takes spaces off at both ends. -/
theorem trim_spaces (s : Text) :
    ∃ a b, s = a ++ (trim s ++ b) ∧ (∀ c ∈ a, isSpace c) ∧ ∀ c ∈ b, isSpace c := by
  refine ⟨((s.reverse.dropWhile isSpace).reverse).takeWhile isSpace,
    (s.reverse.takeWhile isSpace).reverse, ?_, fun c hc => List.mem_takeWhile_imp hc,
    fun c hc => List.mem_takeWhile_imp (List.mem_reverse.mp hc)⟩
  unfold trim
  rw [← List.append_assoc, List.takeWhile_append_dropWhile, ← List.reverse_append,
    List.takeWhile_append_dropWhile, List.reverse_reverse]

/-- A text that is a number between spaces is read as it. -/
theorem leadingNumber_of_trim {s : Text} {n : Int} (hnul : '\x00' ∉ s)
    (h : Ocpp.numberOf (trim s) = some n) : Ocpp.leadingNumber s = some n := by
  obtain ⟨a, b, hs, ha, hb⟩ := trim_spaces s
  rw [hs] at hnul ⊢
  exact Ocpp.leadingNumber_spaced hnul ha h fun c hc => Ocpp.isDigit_of_isSpace (hb c hc)

end UCLinux.Sip
