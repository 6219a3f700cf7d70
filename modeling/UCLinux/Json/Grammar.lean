import Mathlib.Data.List.Basic

/-!
The JSON grammar as a relation between texts and the values they denote. How
the inside of a string literal is decoded is a parameter: a `Decoder` accepts
nothing but literals, and what it makes of them is its own.
-/

namespace UCLinux.Json

/-- A JSON value. A number is known by its lexeme. -/
inductive Value where
  | null
  | bool (b : Bool)
  | number (lexeme : List Char)
  | string (s : List Char)
  | array (vs : List Value)
  | object (ms : List (List Char × Value))

def isBlank (c : Char) : Bool := c = ' ' || c = '\t' || c = '\n' || c = '\r'

/-- Insignificant whitespace. -/
def Blank (t : List Char) : Prop := ∀ c ∈ t, isBlank c = true

/-- The characters that may follow a backslash. -/
def escapes : List Char := ['"', '\\', '/', 'b', 'f', 'n', 'r', 't', 'u']

/-- A character that stands for itself in a string literal. -/
def IsPlain (c : Char) : Prop := c ≠ '"' ∧ c ≠ '\\' ∧ 0x20 ≤ c.toNat

/-- The inside of a string literal, each escape known by its first
character. -/
inductive IsBody : List Char → Prop where
  | nil : IsBody []
  | plain {c : Char} {t : List Char} (hc : IsPlain c) (ht : IsBody t) : IsBody (c :: t)
  | escape {c : Char} {t : List Char} (hc : c ∈ escapes) (ht : IsBody t) :
    IsBody ('\\' :: c :: t)

/-- What the inside of a string literal denotes. -/
structure Decoder where
  decode : List Char → Option (List Char)
  isBody : ∀ b s, decode b = some s → IsBody b

def Digits (t : List Char) : Prop := t ≠ [] ∧ ∀ c ∈ t, c.isDigit = true

inductive IsNumber : List Char → Prop where
  | mk {sign int frac exp : List Char} (hsign : sign = [] ∨ sign = ['-'])
    (hint : int = ['0'] ∨ Digits int ∧ int.head? ≠ some '0')
    (hfrac : frac = [] ∨ ∃ ds, Digits ds ∧ frac = '.' :: ds)
    (hexp : exp = [] ∨ ∃ e s ds, (e = 'e' ∨ e = 'E') ∧ (s = [] ∨ s = ['+'] ∨ s = ['-']) ∧
      Digits ds ∧ exp = e :: (s ++ ds)) :
    IsNumber (sign ++ int ++ frac ++ exp)

def boolText : Bool → List Char
  | true => ['t', 'r', 'u', 'e']
  | false => ['f', 'a', 'l', 's', 'e']

/-- What a text can be read as: a value, a value between whitespace, the
elements of an array, the members of an object. -/
inductive Phrase where
  | value (v : Value)
  | padded (v : Value)
  | elements (vs : List Value)
  | members (ms : List (List Char × Value))

inductive Derives (D : Decoder) : Phrase → List Char → Prop where
  | null : Derives D (.value .null) ['n', 'u', 'l', 'l']
  | bool (b : Bool) : Derives D (.value (.bool b)) (boolText b)
  | number {t : List Char} (h : IsNumber t) : Derives D (.value (.number t)) t
  | string {b s : List Char} (h : D.decode b = some s) :
    Derives D (.value (.string s)) ('"' :: b ++ ['"'])
  | emptyArray {w : List Char} (hw : Blank w) : Derives D (.value (.array [])) ('[' :: w ++ [']'])
  | array {vs : List Value} {t : List Char} (h : Derives D (.elements vs) t) :
    Derives D (.value (.array vs)) ('[' :: t ++ [']'])
  | emptyObject {w : List Char} (hw : Blank w) :
    Derives D (.value (.object [])) ('{' :: w ++ ['}'])
  | object {ms : List (List Char × Value)} {t : List Char} (h : Derives D (.members ms) t) :
    Derives D (.value (.object ms)) ('{' :: t ++ ['}'])
  | padded {v : Value} {w t w' : List Char} (hw : Blank w) (h : Derives D (.value v) t)
    (hw' : Blank w') : Derives D (.padded v) (w ++ t ++ w')
  | lastElement {v : Value} {t : List Char} (h : Derives D (.padded v) t) :
    Derives D (.elements [v]) t
  | element {v : Value} {vs : List Value} {t t' : List Char} (h : Derives D (.padded v) t)
    (hs : Derives D (.elements vs) t') : Derives D (.elements (v :: vs)) (t ++ ',' :: t')
  | lastMember {k : List Char} {v : Value} {x t : List Char}
    (hk : Derives D (.padded (.string k)) x) (h : Derives D (.padded v) t) :
    Derives D (.members [(k, v)]) (x ++ ':' :: t)
  | member {k : List Char} {v : Value} {ms : List (List Char × Value)} {x t t' : List Char}
    (hk : Derives D (.padded (.string k)) x) (h : Derives D (.padded v) t)
    (hs : Derives D (.members ms) t') :
    Derives D (.members ((k, v) :: ms)) (x ++ ':' :: t ++ ',' :: t')

/-- The text is a JSON text of the value. -/
def IsText (D : Decoder) (v : Value) (t : List Char) : Prop := Derives D (.padded v) t

theorem Blank.nil : Blank [] := by
  intro c hc
  cases hc

theorem Blank.cons {c : Char} {t : List Char} (h : Blank (c :: t)) : isBlank c = true ∧ Blank t :=
  ⟨h c (List.mem_cons_self ..), fun x hx => h x (List.mem_cons_of_mem _ hx)⟩

theorem Blank.not_mem {t : List Char} (h : Blank t) {c : Char} (hc : isBlank c = false) :
    c ∉ t := by
  intro hmem
  rw [h c hmem] at hc
  cases hc

theorem IsText.of_value {D : Decoder} {v : Value} {t : List Char}
    (h : Derives D (.value v) t) : IsText D v t := by
  have hpadded := Derives.padded Blank.nil h Blank.nil
  rwa [List.nil_append, List.append_nil] at hpadded

/-- Whitespace before a value. -/
theorem IsText.spaced {D : Decoder} {v : Value} {t : List Char} (h : IsText D v t) :
    IsText D v (' ' :: t) := by
  unfold IsText at h ⊢
  cases h with
  | padded hw hvalue hw' =>
    refine .padded (w := ' ' :: _) ?_ hvalue hw'
    intro c hc
    rcases List.mem_cons.mp hc with rfl | hc
    · rfl
    · exact hw c hc

section Numbers

theorem Digits.mem {t : List Char} (h : Digits t) {c : Char} (hc : c ∈ t) : c.isDigit = true :=
  h.2 c hc

theorem Digits.of_all {t : List Char} (hne : t ≠ []) (h : t.all Char.isDigit = true) : Digits t :=
  ⟨hne, fun c hc => List.all_eq_true.mp h c hc⟩

/-- The characters a number is written with. -/
def isNumeric (c : Char) : Bool :=
  c.isDigit || c = '-' || c = '+' || c = '.' || c = 'e' || c = 'E'

theorem isNumeric_of_isDigit {c : Char} (h : c.isDigit = true) : isNumeric c = true := by
  simp [isNumeric, h]

theorem isBlank_of_isNumeric {c : Char} (h : isNumeric c = true) : isBlank c = false := by
  by_contra hblank
  simp only [isBlank, Bool.or_eq_true, decide_eq_true_eq, Bool.not_eq_false] at hblank
  rcases hblank with ((rfl | rfl) | rfl) | rfl <;> exact absurd h (by decide)

theorem IsNumber.numeric {t : List Char} (h : IsNumber t) {c : Char} (hc : c ∈ t) :
    isNumeric c = true := by
  obtain ⟨hsign, hint, hfrac, hexp⟩ := h
  rcases List.mem_append.mp hc with hc | hc
  · rcases List.mem_append.mp hc with hc | hc
    · rcases List.mem_append.mp hc with hc | hc
      · rcases hsign with rfl | rfl
        · cases hc
        · rw [List.mem_singleton.mp hc]
          rfl
      · rcases hint with rfl | ⟨hds, _⟩
        · rw [List.mem_singleton.mp hc]
          rfl
        · exact isNumeric_of_isDigit (hds.mem hc)
    · rcases hfrac with rfl | ⟨ds, hds, rfl⟩
      · cases hc
      · rcases List.mem_cons.mp hc with rfl | hc
        · rfl
        · exact isNumeric_of_isDigit (hds.mem hc)
  · rcases hexp with rfl | ⟨e, s, ds, he, hs, hds, rfl⟩
    · cases hc
    · rcases List.mem_cons.mp hc with rfl | hc
      · rcases he with rfl | rfl
        · rfl
        · rfl
      · rcases List.mem_append.mp hc with hc | hc
        · rcases hs with rfl | rfl | rfl
          · cases hc
          · rw [List.mem_singleton.mp hc]
            rfl
          · rw [List.mem_singleton.mp hc]
            rfl
        · exact isNumeric_of_isDigit (hds.mem hc)

theorem IsNumber.not_mem {t : List Char} (h : IsNumber t) {c : Char} (hc : isNumeric c = false) :
    c ∉ t := by
  intro hmem
  rw [h.numeric hmem] at hc
  cases hc

/-- A natural number in decimal digits. -/
theorem IsNumber.of_digits {t : List Char} (h : Digits t) (hzero : t.head? ≠ some '0') :
    IsNumber t := by
  have hnumber := IsNumber.mk (Or.inl rfl) (Or.inr ⟨h, hzero⟩) (Or.inl rfl) (Or.inl rfl)
  rwa [List.nil_append, List.append_nil, List.append_nil] at hnumber

end Numbers

section Bodies

/-- A string literal ends in one place. -/
theorem IsBody.unique {b b' : List Char} (h : IsBody b) (h' : IsBody b') {r r' : List Char}
    (heq : b ++ '"' :: r = b' ++ '"' :: r') : b = b' ∧ r = r' := by
  induction h generalizing b' with
  | nil =>
    cases h' with
    | nil => exact ⟨rfl, (List.cons.inj heq).2⟩
    | plain hc _ => exact absurd (List.cons.inj heq).1.symm hc.1
    | escape _ _ => exact absurd (List.cons.inj heq).1 (by decide)
  | plain hc _ ih =>
    cases h' with
    | nil => exact absurd (List.cons.inj heq).1 hc.1
    | plain _ ht' =>
      obtain ⟨rfl, hrest⟩ := List.cons.inj heq
      obtain ⟨rfl, hr⟩ := ih ht' hrest
      exact ⟨rfl, hr⟩
    | escape _ _ => exact absurd (List.cons.inj heq).1 hc.2.1
  | escape _ _ ih =>
    cases h' with
    | nil => exact absurd (List.cons.inj heq).1 (by decide)
    | plain hc _ => exact absurd (List.cons.inj heq).1.symm hc.2.1
    | escape _ ht' =>
      obtain ⟨rfl, hrest⟩ := List.cons.inj (List.cons.inj heq).2
      obtain ⟨rfl, hr⟩ := ih ht' hrest
      exact ⟨rfl, hr⟩

theorem IsBody.printable {t : List Char} (h : IsBody t) {c : Char} (hc : c ∈ t) :
    0x20 ≤ c.toNat := by
  induction h with
  | nil => cases hc
  | plain hplain _ ih =>
    rcases List.mem_cons.mp hc with rfl | hc
    · exact hplain.2.2
    · exact ih hc
  | escape hesc _ ih =>
    rcases List.mem_cons.mp hc with rfl | hc
    · decide
    · rcases List.mem_cons.mp hc with rfl | hc
      · have hall : ∀ e ∈ escapes, 0x20 ≤ e.toNat := by simp [escapes]
        exact hall c hesc
      · exact ih hc

end Bodies

section Characters

variable {D : Decoder} {p : Phrase} {t : List Char}

theorem blank_or_printable_of_numeric {c : Char} (h : isNumeric c = true) : 0x20 ≤ c.toNat := by
  simp only [isNumeric, Bool.or_eq_true, decide_eq_true_eq, Char.isDigit,
    Bool.and_eq_true, ge_iff_le] at h
  rcases h with ((((⟨h, _⟩ | rfl) | rfl) | rfl) | rfl) | rfl
  · have hle : (48 : Nat) ≤ c.toNat := h
    omega
  all_goals decide

/-- A JSON text is made of whitespace and characters that are no control
characters. -/
theorem Derives.printable (h : Derives D p t) {c : Char} (hc : c ∈ t) :
    isBlank c = true ∨ 0x20 ≤ c.toNat := by
  induction h with
  | null =>
    have hall : ∀ c ∈ ['n', 'u', 'l', 'l'], 0x20 ≤ c.toNat := by simp
    exact Or.inr (hall c hc)
  | bool b =>
    have hall : ∀ c ∈ boolText b, 0x20 ≤ c.toNat := by cases b <;> simp [boolText]
    exact Or.inr (hall c hc)
  | number h => exact Or.inr (blank_or_printable_of_numeric (h.numeric hc))
  | string h =>
    right
    rcases List.mem_append.mp hc with hc | hc
    · rcases List.mem_cons.mp hc with rfl | hc
      · decide
      · exact (D.isBody _ _ h).printable hc
    · rw [List.mem_singleton.mp hc]
      decide
  | emptyArray hw | emptyObject hw =>
    rcases List.mem_append.mp hc with hc | hc
    · rcases List.mem_cons.mp hc with rfl | hc
      · exact Or.inr (by decide)
      · exact Or.inl (hw c hc)
    · rw [List.mem_singleton.mp hc]
      exact Or.inr (by decide)
  | array _ ih | object _ ih =>
    rcases List.mem_append.mp hc with hc | hc
    · rcases List.mem_cons.mp hc with rfl | hc
      · exact Or.inr (by decide)
      · exact ih hc
    · rw [List.mem_singleton.mp hc]
      exact Or.inr (by decide)
  | padded hw _ hw' ih =>
    rcases List.mem_append.mp hc with hc | hc
    · rcases List.mem_append.mp hc with hc | hc
      · exact Or.inl (hw c hc)
      · exact ih hc
    · exact Or.inl (hw' c hc)
  | lastElement _ ih => exact ih hc
  | element _ _ ih ih' | lastMember _ _ ih ih' =>
    rcases List.mem_append.mp hc with hc | hc
    · exact ih hc
    · rcases List.mem_cons.mp hc with rfl | hc
      · exact Or.inr (by decide)
      · exact ih' hc
  | member _ _ _ ih ih' ih'' =>
    rcases List.mem_append.mp hc with hc | hc
    · rcases List.mem_append.mp hc with hc | hc
      · exact ih hc
      · rcases List.mem_cons.mp hc with rfl | hc
        · exact Or.inr (by decide)
        · exact ih' hc
    · rcases List.mem_cons.mp hc with rfl | hc
      · exact Or.inr (by decide)
      · exact ih'' hc

theorem Derives.no_nul (h : Derives D p t) : '\x00' ∉ t := by
  intro hmem
  rcases h.printable hmem with hblank | hprint
  · exact absurd hblank (by decide)
  · exact absurd hprint (by decide)

end Characters

end UCLinux.Json
