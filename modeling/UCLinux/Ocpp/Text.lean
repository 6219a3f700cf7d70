import UCLinux.Sql.Statement

/-!
The string and integer helpers the server calls: `split` and `Str2Int` of the
common utilities, `std::stoi`, `std::to_string`, the percent decoding of the
HTTP library. A text is a list of characters below 256, one for each byte.
-/

namespace UCLinux.Ocpp

open Sql

instance : Coe String Text := ⟨String.toList⟩

/-- An integer stored in an `int`. -/
def wrap32 (n : Int) : Int := n.bmod (2 ^ 32)

/-- The value of an `uint64_t` an integer is stored in. -/
def wrapU64 (n : Int) : Int := n % 2 ^ 64

theorem wrap32_of_range {n : Int} (h : -(2 ^ 31) ≤ n ∧ n < 2 ^ 31) : wrap32 n = n := by
  unfold wrap32
  exact Int.bmod_eq_of_le (by omega) (by omega)

theorem wrap32_lt (n : Int) : wrap32 n < 2 ^ 31 := by
  have h := Int.bmod_lt (x := n) (m := 2 ^ 32) (by decide)
  unfold wrap32
  omega

theorem wrap32_le (n : Nat) : wrap32 n ≤ n := by
  unfold wrap32
  rw [Int.bmod_def]
  split <;> omega

/-- Bit 2 of a two's complement integer. -/
def bit2 (n : Int) : Bool := n / 4 % 2 = 1

/-- `n | 4` -/
def setBit2 (n : Int) : Int := if bit2 n then n else n + 4

/-- `n & ~4` -/
def clearBit2 (n : Int) : Int := if bit2 n then n - 4 else n

def splitFrom (delim : Char) (item : Text) : Text → List Text
  | [] => if item = [] then [] else [item]
  | c :: s => if c = delim then item :: splitFrom delim [] s
      else splitFrom delim (item ++ [c]) s

/-- Items between delimiters as `getline` reads them: an empty item at the end
is not one. -/
def split (s : Text) (delim : Char) : List Text := splitFrom delim [] s

def isSpace (c : Char) : Bool :=
  c = ' ' || c = '\t' || c = '\n' || c = '\x0b' || c = '\x0c' || c = '\r'

def digitsValue (s : Text) : Int :=
  s.foldl (fun n c => 10 * n + (c.toNat - '0'.toNat)) 0

/-- The decimal number a C string starts with, unbounded; `none` when it
starts with none. -/
def leadingNumber (s : Text) : Option Int :=
  match (cstr s).dropWhile isSpace with
  | '-' :: rest => digits (rest.takeWhile Char.isDigit) fun n => -n
  | '+' :: rest => digits (rest.takeWhile Char.isDigit) id
  | rest => digits (rest.takeWhile Char.isDigit) id
where
  digits (ds : Text) (sign : Int → Int) : Option Int :=
    if ds = [] then none else some (sign (digitsValue ds))

/-- `atoi`: the number read as a `long`, which saturates, and cut to an
`int`. -/
def str2Int (s : Text) : Int :=
  wrap32 (max (-(2 ^ 63)) (min (2 ^ 63 - 1) ((leadingNumber s).getD 0)))

/-- `std::stoi`; `none` when it throws. -/
def stoi (s : Text) : Option Int :=
  match leadingNumber s with
  | some n => if -(2 ^ 31) ≤ n ∧ n < 2 ^ 31 then some n else none
  | none => none

/-- A non-negative integer as an `std::hex` stream prints it. -/
def hexText (n : Int) : Text := Nat.toDigits 16 (wrapU64 n).toNat

def hexDigit (c : Char) : Option Nat :=
  if c.isDigit then some (c.toNat - '0'.toNat)
  else if 'A' ≤ c ∧ c ≤ 'F' then some (c.toNat - 'A'.toNat + 10)
  else if 'a' ≤ c ∧ c ≤ 'f' then some (c.toNat - 'a'.toNat + 10)
  else none

/-- `from_hex_to_i` on the characters it is asked to read. -/
def fromHexToI (s : Text) : Option Nat :=
  s.foldlM (fun n c => (hexDigit c).map (16 * n + ·)) 0

def toUtf8 (code : Nat) : Text :=
  let continuation (n : Nat) := Char.ofNat (0x80 + n % 0x40)
  if code < 0x80 then [Char.ofNat code]
  else if code < 0x800 then
    [Char.ofNat (0xC0 + code / 0x40 % 0x20), continuation code]
  else if 0xD800 ≤ code ∧ code < 0xE000 then []
  else if code < 0x10000 then
    [Char.ofNat (0xE0 + code / 0x1000 % 0x10), continuation (code / 0x40),
      continuation code]
  else if code < 0x110000 then
    [Char.ofNat (0xF0 + code / 0x40000 % 0x8), continuation (code / 0x1000),
      continuation (code / 0x40), continuation code]
  else []

/-- `decode_url(s, true)` -/
def decodeUrl : Text → Text
  | [] => []
  | '%' :: 'u' :: a :: b :: c :: d :: rest =>
    match fromHexToI [a, b, c, d] with
    | some val => toUtf8 val ++ decodeUrl rest
    | none => '%' :: decodeUrl ('u' :: a :: b :: c :: d :: rest)
  | '%' :: a :: b :: rest =>
    if a = 'u' then '%' :: decodeUrl (a :: b :: rest)
    else match fromHexToI [a, b] with
      | some val => Char.ofNat val :: decodeUrl rest
      | none => '%' :: decodeUrl (a :: b :: rest)
  | '+' :: rest => ' ' :: decodeUrl rest
  | c :: rest => c :: decodeUrl rest

/-- Escapes of a JSON string literal and what they denote. -/
def simpleEscape : Char → Option Char
  | '"' => some '"'
  | '\\' => some '\\'
  | '/' => some '/'
  | 'b' => some '\x08'
  | 'f' => some '\x0c'
  | 'n' => some '\n'
  | 'r' => some '\r'
  | 't' => some '\t'
  | _ => none

/-- What the text between the quotes of a JSON string literal denotes; `none`
when it is not the inside of one literal. -/
def unescape : Text → Option Text
  | [] => some []
  | '\\' :: 'u' :: a :: b :: c :: d :: rest =>
    match fromHexToI [a, b, c, d] with
    | some val =>
      if val < 0xD800 ∨ 0xE000 ≤ val then (unescape rest).map (toUtf8 val ++ ·)
      else match rest with
        | '\\' :: 'u' :: e :: f :: g :: h :: rest =>
          match fromHexToI [e, f, g, h] with
          | some low =>
            if val < 0xDC00 ∧ 0xDC00 ≤ low ∧ low < 0xE000 then
              (unescape rest).map
                (toUtf8 (0x10000 + (val - 0xD800) * 0x400 + (low - 0xDC00)) ++ ·)
            else none
          | none => none
        | _ => none
    | none => none
  | '\\' :: e :: rest =>
    match simpleEscape e with
    | some c => (unescape rest).map (c :: ·)
    | none => none
  | c :: rest =>
    if c = '"' ∨ c = '\\' ∨ c.toNat < 0x20 then none
    else (unescape rest).map (c :: ·)

section Joined

variable {delim : Char}

theorem splitFrom_join {item pre rest : Text} (h : delim ∉ pre) :
    splitFrom delim item (pre ++ delim :: rest) = (item ++ pre) :: splitFrom delim [] rest := by
  induction pre generalizing item with
  | nil => simp [splitFrom]
  | cons c pre ih =>
    obtain ⟨hc, hpre⟩ := List.ne_and_not_mem_of_not_mem_cons h
    have hstep : splitFrom delim item (c :: pre ++ delim :: rest) =
        splitFrom delim (item ++ [c]) (pre ++ delim :: rest) := if_neg (Ne.symm hc)
    rw [hstep, ih hpre, List.append_assoc, List.singleton_append]

/-- The first item of a text that is not empty. -/
theorem splitFrom_head {item s : Text} (h : item ++ s ≠ []) :
    (splitFrom delim item s).head? = some (item ++ s.takeWhile (· ≠ delim)) := by
  induction s generalizing item with
  | nil =>
    have hne : item ≠ [] := by simpa using h
    simp [splitFrom, hne]
  | cons c s ih =>
    by_cases hc : c = delim
    · simp [splitFrom, hc]
    · have hstep : splitFrom delim item (c :: s) = splitFrom delim (item ++ [c]) s := if_neg hc
      rw [hstep, ih (by simp)]
      simp [hc]

theorem splitFrom_unbroken {item s : Text} (h : delim ∉ s) :
    splitFrom delim item s = if item ++ s = [] then [] else [item ++ s] := by
  induction s generalizing item with
  | nil => simp [splitFrom]
  | cons c s ih =>
    obtain ⟨hc, hs⟩ := List.ne_and_not_mem_of_not_mem_cons h
    have hstep : splitFrom delim item (c :: s) = splitFrom delim (item ++ [c]) s :=
      if_neg (Ne.symm hc)
    rw [hstep, ih hs]
    simp

end Joined

end UCLinux.Ocpp
