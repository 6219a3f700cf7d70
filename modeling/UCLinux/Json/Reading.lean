import UCLinux.Json.Scan

/-!
Readings of a JSON text whose first characters are known. A text that begins
with a digit is a number, one that begins with a quote is a string, and the
elements of an array that begin so can be taken off one by one.
-/

namespace UCLinux.Json

/-- What stands before the first `c` of a text, and what stands behind it. -/
theorem first_split {α : Type} {c : α} {a b r r' : List α} (ha : c ∉ a) (hb : c ∉ b)
    (h : a ++ c :: r = b ++ c :: r') : a = b ∧ r = r' := by
  induction a generalizing b with
  | nil =>
    cases b with
    | nil => exact ⟨rfl, (List.cons.inj h).2⟩
    | cons x b =>
      obtain ⟨rfl, _⟩ := List.cons.inj h
      exact absurd (List.mem_cons_self ..) hb
  | cons x a ih =>
    cases b with
    | nil =>
      obtain ⟨rfl, _⟩ := List.cons.inj h
      exact absurd (List.mem_cons_self ..) ha
    | cons y b =>
      obtain ⟨rfl, hrest⟩ := List.cons.inj h
      obtain ⟨rfl, hr⟩ := ih (fun hmem => ha (List.mem_cons_of_mem _ hmem))
        (fun hmem => hb (List.mem_cons_of_mem _ hmem)) hrest
      exact ⟨rfl, hr⟩

section Values

variable {D : Decoder} {v : Value} {t : List Char}

theorem IsNumber.ne_nil (h : IsNumber t) : t ≠ [] := by
  obtain ⟨_, hint, _, _⟩ := h
  have hne : ∀ int : List Char, (int = ['0'] ∨ Digits int ∧ int.head? ≠ some '0') → int ≠ [] := by
    rintro int (rfl | ⟨hds, _⟩)
    · exact List.cons_ne_nil _ _
    · exact hds.1
  simp [hne _ hint]

/-- The first character of a value tells what it is. -/
theorem Derives.first (h : Derives D (.value v) t) : ∃ c r, t = c :: r ∧ isBlank c = false ∧
    (c.isDigit = true → IsNumber t) ∧
    (c = '"' → ∃ b s, v = .string s ∧ D.decode b = some s ∧ t = '"' :: b ++ ['"']) := by
  have hother {c : Char} (hblank : isBlank c = false) (hdigit : c.isDigit = false)
      (hquote : c ≠ '"') (r : List Char) : ∃ c' r', c :: r = c' :: r' ∧ isBlank c' = false ∧
        (c'.isDigit = true → IsNumber (c :: r)) ∧
        (c' = '"' → ∃ b s, v = .string s ∧ D.decode b = some s ∧ c :: r = '"' :: b ++ ['"']) := by
    refine ⟨c, r, rfl, hblank, fun h => ?_, fun h => absurd h hquote⟩
    rw [hdigit] at h
    cases h
  cases h with
  | null => exact hother (by decide) (by decide) (by decide) _
  | bool b =>
    cases b with
    | true => exact hother (by decide) (by decide) (by decide) _
    | false => exact hother (by decide) (by decide) (by decide) _
  | number h =>
    obtain ⟨c, r, rfl⟩ := List.exists_cons_of_ne_nil h.ne_nil
    have hnumeric : isNumeric c = true := h.numeric (List.mem_cons_self ..)
    refine ⟨c, r, rfl, isBlank_of_isNumeric hnumeric, fun _ => h, ?_⟩
    rintro rfl
    exact absurd hnumeric (by decide)
  | string h =>
    refine ⟨'"', _, rfl, rfl, fun h => ?_, fun _ => ⟨_, _, rfl, h, rfl⟩⟩
    exact absurd h (by decide)
  | emptyArray hw | array hs => exact hother (by decide) (by decide) (by decide) _
  | emptyObject hw | object hs => exact hother (by decide) (by decide) (by decide) _

/-- No whitespace stands before a text whose first character is none. -/
theorem IsText.unpadded {c : Char} {r : List Char} (h : IsText D v (c :: r))
    (hc : isBlank c = false) :
    ∃ x w, c :: r = x ++ w ∧ Derives D (.value v) x ∧ Blank w := by
  unfold IsText at h
  generalize ht : c :: r = t at h
  cases h with
  | padded hw hvalue hw' =>
    rename_i w x w'
    cases w with
    | nil => exact ⟨x, w', rfl, hvalue, hw'⟩
    | cons b w =>
      obtain ⟨rfl, _⟩ := List.cons.inj ht
      rw [hw.cons.1] at hc
      cases hc

theorem IsText.ne_nil (h : IsText D v t) : t ≠ [] := by
  unfold IsText at h
  cases h with
  | padded _ hvalue _ =>
    obtain ⟨c, r, rfl, _⟩ := hvalue.first
    simp

/-- A text that begins with a digit is a number, so it has no comma. -/
theorem IsText.no_comma {c : Char} {r : List Char} (h : IsText D v (c :: r))
    (hc : c.isDigit = true) : ',' ∉ c :: r := by
  have hblank : isBlank c = false := isBlank_of_isNumeric (isNumeric_of_isDigit hc)
  obtain ⟨x, w, heq, hvalue, hw⟩ := h.unpadded hblank
  obtain ⟨c', r', rfl, _, hnumber, _⟩ := hvalue.first
  obtain ⟨rfl, _⟩ := List.cons.inj heq
  rw [heq, List.mem_append, not_or]
  exact ⟨(hnumber hc).not_mem (by decide), hw.not_mem (by decide)⟩

/-- A text that begins with a quote is a string. -/
theorem IsText.quoted {r : List Char} (h : IsText D v ('"' :: r)) :
    ∃ b s w, v = .string s ∧ D.decode b = some s ∧ Blank w ∧ r = b ++ '"' :: w := by
  obtain ⟨x, w, heq, hvalue, hw⟩ := h.unpadded (by decide)
  obtain ⟨c, r', rfl, _, _, hstring⟩ := hvalue.first
  obtain ⟨rfl, _⟩ := List.cons.inj heq
  obtain ⟨b, s, hv, hb, hx⟩ := hstring rfl
  refine ⟨b, s, w, hv, hb, hw, ?_⟩
  rw [hx] at heq
  simpa using heq

theorem Derives.object_braces {ms : List (List Char × Value)}
    (h : Derives D (.value (.object ms)) t) : ∃ m, t = '{' :: m ++ ['}'] := by
  cases h with
  | emptyObject _ => exact ⟨_, rfl⟩
  | object _ => exact ⟨_, rfl⟩

/-- The parts of the text of an array. -/
theorem IsText.array_parts {vs : List Value} (h : IsText D (.array vs) t) (hne : vs ≠ []) :
    ∃ w m w', t = w ++ ('[' :: m ++ [']']) ++ w' ∧ Blank w ∧ Blank w' ∧
      Derives D (.elements vs) m := by
  unfold IsText at h
  cases h with
  | padded hw hvalue hw' =>
    cases hvalue with
    | emptyArray _ => exact absurd rfl hne
    | array hs => exact ⟨_, _, _, rfl, hw, hw', hs⟩

/-- The elements of an array that is written without whitespace around it. -/
theorem IsText.brackets {vs : List Value} {m : List Char}
    (h : IsText D (.array vs) ('[' :: m ++ [']'])) (hne : vs ≠ []) :
    Derives D (.elements vs) m := by
  obtain ⟨w, m', w', heq, hw, hw', hs⟩ := h.array_parts hne
  have hstart : w = [] := by
    cases w with
    | nil => rfl
    | cons b w =>
      have hb : '[' = b := (List.cons.inj heq).1
      exact absurd hw.cons.1 (by rw [← hb]; decide)
  have hend : w' = [] := by
    rcases List.eq_nil_or_concat w' with hnil | ⟨w'', b, rfl⟩
    · exact hnil
    · rw [List.concat_eq_append, ← List.append_assoc] at heq
      have hb : [']'] = [b] := (List.append_inj' heq rfl).2
      have hblank := hw' b (by simp)
      rw [← (List.cons.inj hb).1] at hblank
      exact absurd hblank (by decide)
  rw [hstart, hend, List.nil_append, List.append_nil] at heq
  have hm : m ++ [']'] = m' ++ [']'] := (List.cons.inj heq).2
  rwa [(List.append_inj' hm rfl).1]

/-- The first element of an array and the rest. -/
theorem Derives.elements_cases {vs : List Value} (h : Derives D (.elements (v :: vs)) t) :
    vs = [] ∧ IsText D v t ∨
      ∃ x t', t = x ++ ',' :: t' ∧ IsText D v x ∧ Derives D (.elements vs) t' := by
  cases h with
  | lastElement h => exact Or.inl ⟨rfl, h⟩
  | element h hs => exact Or.inr ⟨_, _, rfl, h, hs⟩

theorem Derives.elements_split {v' : Value} {vs : List Value}
    (h : Derives D (.elements (v :: v' :: vs)) t) :
    ∃ x t', t = x ++ ',' :: t' ∧ IsText D v x ∧ Derives D (.elements (v' :: vs)) t' := by
  rcases h.elements_cases with ⟨hnil, _⟩ | hsplit
  · cases hnil
  · exact hsplit

/-- Digits that begin an array are its first element. -/
theorem Derives.elements_digits {v' : Value} {vs : List Value} {ds r : List Char}
    (h : Derives D (.elements (v :: v' :: vs)) (ds ++ ',' :: r)) (hds : Digits ds) :
    IsText D v ds ∧ Derives D (.elements (v' :: vs)) r := by
  obtain ⟨x, t', heq, hx, hs⟩ := h.elements_split
  obtain ⟨c, ds', rfl⟩ := List.exists_cons_of_ne_nil hds.1
  have hcomma : ',' ∉ c :: ds' := fun hmem => absurd (hds.mem hmem) (by decide)
  obtain ⟨c', x', rfl⟩ := List.exists_cons_of_ne_nil hx.ne_nil
  have hc : c = c' := (List.cons.inj heq).1
  have hcomma' : ',' ∉ c' :: x' := hx.no_comma (hc ▸ hds.mem (List.mem_cons_self ..))
  obtain ⟨hsame, hr⟩ := first_split hcomma hcomma' heq
  rw [hsame, hr]
  exact ⟨hx, hs⟩

/-- A string that begins an array is its first element. -/
theorem Derives.elements_literal {v' : Value} {vs : List Value} {b r : List Char}
    (h : Derives D (.elements (v :: v' :: vs)) ('"' :: b ++ '"' :: ',' :: r)) (hb : IsBody b) :
    (∃ s, v = .string s ∧ D.decode b = some s) ∧ Derives D (.elements (v' :: vs)) r := by
  obtain ⟨x, t', heq, hx, hs⟩ := h.elements_split
  obtain ⟨c, x', rfl⟩ := List.exists_cons_of_ne_nil hx.ne_nil
  obtain ⟨rfl, _⟩ := List.cons.inj heq
  obtain ⟨b', s, w, hv, hb', hw, rfl⟩ := hx.quoted
  have htail : b ++ '"' :: (',' :: r) = b' ++ '"' :: (w ++ ',' :: t') := by simpa using heq
  obtain ⟨rfl, hrest⟩ := hb.unique (D.isBody _ _ hb') htail
  have hblank : w = [] := by
    cases w with
    | nil => rfl
    | cons c w =>
      have hc : ',' = c := (List.cons.inj hrest).1
      exact absurd hw.cons.1 (by rw [← hc]; decide)
  rw [hblank] at hrest
  obtain ⟨_, rfl⟩ := List.cons.inj hrest
  exact ⟨⟨s, hv, hb'⟩, hs⟩

/-- A string that begins an array ends at a quote. -/
theorem Derives.elements_quoted {s : List Char} {vs : List Value} {r : List Char}
    (h : Derives D (.elements (.string s :: vs)) ('"' :: r)) :
    ∃ b r', D.decode b = some s ∧ r = b ++ '"' :: r' := by
  rcases h.elements_cases with ⟨_, htext⟩ | ⟨x, t', heq, hx, _⟩
  · obtain ⟨b, s', w, hv, hb, _, hr⟩ := htext.quoted
    cases hv
    exact ⟨b, w, hb, hr⟩
  · obtain ⟨c, x', rfl⟩ := List.exists_cons_of_ne_nil hx.ne_nil
    obtain ⟨rfl, _⟩ := List.cons.inj heq
    obtain ⟨b, s', w, hv, hb, _, rfl⟩ := hx.quoted
    cases hv
    have htail : r = b ++ '"' :: (w ++ ',' :: t') := by simpa using heq
    exact ⟨b, w ++ ',' :: t', hb, htail⟩

end Values

section Leads

variable {D : Decoder}

/-- Between literals neither a backslash nor an opening brace. -/
def noBrace (c : Char) : Bool := c ≠ '\\' && c ≠ '{'

inductive Scalar : Value → Prop where
  | number (t : List Char) : Scalar (.number t)
  | string (s : List Char) : Scalar (.string s)

theorem noBrace_of_isBlank {c : Char} (h : isBlank c = true) : noBrace c = true := by
  by_contra hbrace
  simp only [noBrace, ne_eq, decide_not, Bool.and_eq_true, Bool.not_eq_eq_eq_not, Bool.not_true,
    decide_eq_false_iff_not, not_and_or, not_not] at hbrace
  rcases hbrace with rfl | rfl <;> cases h

/-- In the text of a scalar a brace stands in a literal only. -/
theorem Scalar.scan {v : Value} (hv : Scalar v) {t : List Char} (h : IsText D v t) :
    scan noBrace .outside t = some .outside := by
  unfold IsText at h
  cases h with
  | padded hw hvalue hw' =>
    rw [scan_append_of, scan_blank (fun _ => noBrace_of_isBlank) hw']
    rw [scan_append_of (scan_blank (fun _ => noBrace_of_isBlank) hw)]
    cases hv with
    | number _ =>
      cases hvalue with
      | number hnumber =>
        apply scan_between
        intro c hc
        have hnumeric := hnumber.numeric hc
        refine ⟨?_, ?_⟩
        · rintro rfl
          cases hnumeric
        · by_contra hbrace
          simp only [noBrace, ne_eq, decide_not, Bool.and_eq_true, Bool.not_eq_eq_eq_not,
            Bool.not_true, decide_eq_false_iff_not, not_and_or, not_not] at hbrace
          rcases hbrace with rfl | rfl <;> cases hnumeric
    | string _ =>
      cases hvalue with
      | string hs => exact scan_literal (D.isBody _ _ hs)

/-- In an array of scalars and an object, no brace stands outside of literals
before the object. -/
theorem Derives.elements_lead {vs : List Value} {ms : List (List Char × Value)} {t : List Char}
    (hvs : ∀ v ∈ vs, Scalar v) (h : Derives D (.elements (vs ++ [.object ms])) t) :
    ∃ lead x w, t = lead ++ x ++ w ∧ Json.scan noBrace .outside lead = some .outside ∧
      Derives D (.value (.object ms)) x ∧ Blank w := by
  induction vs generalizing t with
  | nil =>
    rcases h.elements_cases with ⟨_, htext⟩ | ⟨_, _, _, _, hs⟩
    · unfold IsText at htext
      cases htext with
      | padded hw hvalue hw' =>
        exact ⟨_, _, _, rfl, scan_blank (fun _ => noBrace_of_isBlank) hw, hvalue, hw'⟩
    · cases hs
  | cons v vs ih =>
    rcases h.elements_cases with ⟨hnil, _⟩ | ⟨y, t', rfl, hy, hs⟩
    · exact absurd hnil (by simp)
    · obtain ⟨lead, x, w, rfl, hlead, hx, hw⟩ :=
        ih (fun u hu => hvs u (List.mem_cons_of_mem _ hu)) hs
      refine ⟨y ++ ',' :: lead, x, w, by simp, ?_, hx, hw⟩
      exact scan_separated (by decide) ((hvs v (List.mem_cons_self ..)).scan hy) hlead

/-- The same with the brackets of the array. -/
theorem IsText.lead {vs : List Value} {ms : List (List Char × Value)} {t : List Char}
    (hvs : ∀ v ∈ vs, Scalar v) (h : IsText D (.array (vs ++ [.object ms])) t) :
    ∃ lead x after, t = lead ++ x ++ after ∧ Json.scan noBrace .outside lead = some .outside ∧
      Derives D (.value (.object ms)) x ∧ '}' ∉ after := by
  obtain ⟨w, m, w', rfl, hw, hw', hs⟩ := h.array_parts (by simp)
  obtain ⟨lead, x, w'', rfl, hlead, hx, hw''⟩ := hs.elements_lead hvs
  refine ⟨w ++ '[' :: lead, x, w'' ++ ']' :: w', by simp, ?_, hx, ?_⟩
  · exact scan_separated (by decide) (scan_blank (fun _ => noBrace_of_isBlank) hw) hlead
  · rw [List.mem_append, List.mem_cons, not_or, not_or]
    exact ⟨hw''.not_mem (by decide), by decide, hw'.not_mem (by decide)⟩

/-- A brace in such a lead stands in a literal. -/
theorem scan_inside_of_brace {p q : List Char}
    (h : scan noBrace .outside (p ++ '{' :: q) = some .outside) :
    scan noBrace .outside p = some .inside := by
  rw [scan_append] at h
  obtain ⟨m, hp, hrest⟩ := Option.bind_eq_some_iff.mp h
  rw [hp]
  cases m with
  | outside => cases hrest
  | inside => rfl
  | escaped => cases hrest

end Leads

end UCLinux.Json
