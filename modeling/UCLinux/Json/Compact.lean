import UCLinux.Json.Reading

/-!
Texts written without whitespace around values, with something in the place of
each string. When what stands there is no longer than the string, and decoding
shortens whatever it changes, no text of the value is shorter; so such a text
is one of the value only if each string stands there as it is and decodes to
itself.
-/

namespace UCLinux.Json

/-- A text without whitespace; `R s b` says that `b` may be written between the
quotes of the string `s`. -/
inductive Printed (R : List Char → List Char → Prop) : Phrase → List Char → Prop where
  | null : Printed R (.value .null) ['n', 'u', 'l', 'l']
  | bool (b : Bool) : Printed R (.value (.bool b)) (boolText b)
  | number {t : List Char} (h : IsNumber t) : Printed R (.value (.number t)) t
  | string {b s : List Char} (h : R s b) : Printed R (.value (.string s)) ('"' :: b ++ ['"'])
  | emptyArray : Printed R (.value (.array [])) ['[', ']']
  | array {vs : List Value} {t : List Char} (h : Printed R (.elements vs) t) :
    Printed R (.value (.array vs)) ('[' :: t ++ [']'])
  | emptyObject : Printed R (.value (.object [])) ['{', '}']
  | object {ms : List (List Char × Value)} {t : List Char} (h : Printed R (.members ms) t) :
    Printed R (.value (.object ms)) ('{' :: t ++ ['}'])
  | padded {v : Value} {t : List Char} (h : Printed R (.value v) t) : Printed R (.padded v) t
  | lastElement {v : Value} {t : List Char} (h : Printed R (.padded v) t) :
    Printed R (.elements [v]) t
  | element {v : Value} {vs : List Value} {t t' : List Char} (h : Printed R (.padded v) t)
    (hs : Printed R (.elements vs) t') : Printed R (.elements (v :: vs)) (t ++ ',' :: t')
  | lastMember {k : List Char} {v : Value} {x t : List Char}
    (hk : Printed R (.padded (.string k)) x) (h : Printed R (.padded v) t) :
    Printed R (.members [(k, v)]) (x ++ ':' :: t)
  | member {k : List Char} {v : Value} {ms : List (List Char × Value)} {x t t' : List Char}
    (hk : Printed R (.padded (.string k)) x) (h : Printed R (.padded v) t)
    (hs : Printed R (.members ms) t') :
    Printed R (.members ((k, v) :: ms)) (x ++ ':' :: t ++ ',' :: t')

section Shortest

variable {D : Decoder} {R : List Char → List Char → Prop} {P : List Char → Prop} {p : Phrase}
  {t t' : List Char}

theorem Printed.derives (hR : ∀ s b, R s b → D.decode b = some s) (h : Printed R p t) :
    Derives D p t := by
  induction h with
  | null => exact .null
  | bool b => exact .bool b
  | number h => exact .number h
  | string h => exact .string (hR _ _ h)
  | emptyArray => exact .emptyArray Blank.nil
  | array _ ih => exact .array ih
  | emptyObject => exact .emptyObject Blank.nil
  | object _ ih => exact .object ih
  | padded _ ih => exact IsText.of_value ih
  | lastElement _ ih => exact .lastElement ih
  | element _ _ ih ih' => exact .element ih ih'
  | lastMember _ _ ih ih' => exact .lastMember ih ih'
  | member _ _ _ ih ih' ih'' => exact .member ih ih' ih''

/-- A text is shorter than another, or it is the same and `Q` holds. -/
def Shortens (Q : Prop) (t' t : List Char) : Prop := t'.length < t.length ∨ t' = t ∧ Q

namespace Shortens

variable {Q Q' : Prop} {u u' : List Char}

theorem of_same (hQ : Q) (t : List Char) : Shortens Q t t := Or.inr ⟨rfl, hQ⟩

theorem imp (h : Shortens Q t' t) (hQ : Q → Q') : Shortens Q' t' t :=
  h.imp_right fun hsame => ⟨hsame.1, hQ hsame.2⟩

theorem enclosed (h : Shortens Q t' t) (a b : Char) :
    Shortens Q (a :: t' ++ [b]) (a :: t ++ [b]) := by
  rcases h with hlt | ⟨rfl, hQ⟩
  · exact Or.inl (by simpa using hlt)
  · exact of_same hQ _

theorem padded (h : Shortens Q t' t) (w w' : List Char) : Shortens Q t' (w ++ t ++ w') := by
  rcases h with hlt | ⟨rfl, hQ⟩
  · refine Or.inl ?_
    simp only [List.length_append]
    omega
  · cases w with
    | nil =>
      cases w' with
      | nil =>
        rw [List.nil_append, List.append_nil]
        exact of_same hQ _
      | cons c w' => exact Or.inl (by simp)
    | cons c w =>
      refine Or.inl ?_
      simp only [List.cons_append, List.length_cons, List.length_append]
      omega

theorem joined (h : Shortens Q t' t) (h' : Shortens Q' u' u) (c : Char) :
    Shortens (Q ∧ Q') (t' ++ c :: u') (t ++ c :: u) := by
  have hlength (x y : List Char) : (x ++ c :: y).length = x.length + y.length + 1 :=
    List.length_append
  rcases h with hlt | ⟨rfl, hQ⟩
  · rcases h' with hlt' | ⟨rfl, _⟩
    · exact Or.inl (by rw [hlength, hlength]; omega)
    · exact Or.inl (by rw [hlength, hlength]; omega)
  · rcases h' with hlt' | ⟨rfl, hQ'⟩
    · exact Or.inl (by rw [hlength, hlength]; omega)
    · exact of_same ⟨hQ, hQ'⟩ _

end Shortens

/-- A text is no shorter than what is printed for its value. -/
theorem Derives.shortest (hD : ∀ b s, D.decode b = some s → s.length < b.length ∨ s = b ∧ P s)
    (hR : ∀ s b, R s b → b.length < s.length ∨ b = s) (h : Derives D p t) :
    ∀ {t'}, Printed R p t' → Shortens (Printed (fun s b => R s b ∧ P s) p t') t' t := by
  induction h with
  | null =>
    rintro _ ⟨⟩
    exact .of_same .null _
  | bool b =>
    rintro _ ⟨⟩
    exact .of_same (.bool b) _
  | number h =>
    rintro _ ⟨⟩
    exact .of_same (.number h) _
  | @string b s h =>
    intro t' hp
    cases hp with
    | @string b' _ hb =>
      have hshort : Shortens (R s b' ∧ P s) b' b := by
        rcases hD _ _ h with hlt | ⟨rfl, hP⟩
        · rcases hR _ _ hb with hlt' | rfl
          · exact Or.inl (Nat.lt_trans hlt' hlt)
          · exact Or.inl hlt
        · exact (hR _ _ hb).imp_right fun heq => ⟨heq, hb, hP⟩
      exact (hshort.enclosed '"' '"').imp fun hstands => .string hstands
  | @emptyArray w hw =>
    intro t' hp
    cases hp with
    | emptyArray =>
      have hshort := Shortens.padded (Shortens.of_same (t := []) trivial) w []
      simpa using (hshort.enclosed '[' ']').imp fun _ => Printed.emptyArray
    | array h => cases h
  | @array vs t hs ih =>
    intro t' hp
    cases hp with
    | emptyArray => cases hs
    | array h => exact ((ih h).enclosed '[' ']').imp .array
  | @emptyObject w hw =>
    intro t' hp
    cases hp with
    | emptyObject =>
      have hshort := Shortens.padded (Shortens.of_same (t := []) trivial) w []
      simpa using (hshort.enclosed '{' '}').imp fun _ => Printed.emptyObject
    | object h => cases h
  | @object ms t hs ih =>
    intro t' hp
    cases hp with
    | emptyObject => cases hs
    | object h => exact ((ih h).enclosed '{' '}').imp .object
  | @padded v w t w' hw h hw' ih =>
    intro t' hp
    cases hp with
    | padded h => exact ((ih h).padded w w').imp .padded
  | lastElement _ ih =>
    intro t' hp
    cases hp with
    | lastElement h => exact (ih h).imp .lastElement
    | element _ hs => cases hs
  | element _ hs ih ih' =>
    intro t' hp
    cases hp with
    | lastElement _ => cases hs
    | element h h' => exact ((ih h).joined (ih' h') ',').imp fun hparts => .element hparts.1 hparts.2
  | lastMember _ _ ih ih' =>
    intro t' hp
    cases hp with
    | lastMember h h' =>
      exact ((ih h).joined (ih' h') ':').imp fun hparts => .lastMember hparts.1 hparts.2
    | member _ _ hs => cases hs
  | member _ _ hs ih ih' ih'' =>
    intro t' hp
    cases hp with
    | lastMember _ _ => cases hs
    | member h h' h'' =>
      exact (((ih h).joined (ih' h') ':').joined (ih'' h'') ',').imp fun hparts =>
        .member hparts.1.1 hparts.1.2 hparts.2

/-- The text printed for a value is a text of it exactly when every string is
one that stands for itself. -/
theorem Printed.isText_iff {v : Value}
    (hD : ∀ b s, D.decode b = some s → s.length < b.length ∨ s = b ∧ P s)
    (hR : ∀ s b, R s b → b.length < s.length ∨ b = s)
    (hP : ∀ s b, R s b → P s → D.decode b = some s) (h : Printed R (.value v) t) :
    IsText D v t ↔ Printed (fun s b => R s b ∧ P s) (.value v) t := by
  constructor
  · intro htext
    rcases htext.shortest hD hR (.padded h) with hlt | ⟨_, hprinted⟩
    · omega
    · cases hprinted with
      | padded hprinted => exact hprinted
  · intro hprinted
    exact IsText.of_value (hprinted.derives fun s b hb => hP s b hb.1 hb.2)

end Shortest

section Printable

/-- Something is printed for every string. -/
def Printable (R : List Char → List Char → Prop) (p : Phrase) : Prop := ∃ t, Printed R p t

variable {R : List Char → List Char → Prop} {k s t : List Char} {v : Value} {vs : List Value}
  {m : List Char × Value} {ms : List (List Char × Value)}

@[simp] theorem printable_string : Printable R (.value (.string s)) ↔ ∃ b, R s b := by
  constructor
  · rintro ⟨_, h⟩
    cases h with
    | string hb => exact ⟨_, hb⟩
  · rintro ⟨b, hb⟩
    exact ⟨_, .string hb⟩

@[simp] theorem printable_number : Printable R (.value (.number t)) ↔ IsNumber t := by
  constructor
  · rintro ⟨_, h⟩
    cases h with
    | number ht => exact ht
  · intro ht
    exact ⟨t, .number ht⟩

@[simp] theorem printable_padded : Printable R (.padded v) ↔ Printable R (.value v) := by
  constructor
  · rintro ⟨t, h⟩
    cases h with
    | padded hv => exact ⟨t, hv⟩
  · rintro ⟨t, hv⟩
    exact ⟨t, .padded hv⟩

@[simp] theorem printable_object :
    Printable R (.value (.object (m :: ms))) ↔ Printable R (.members (m :: ms)) := by
  constructor
  · rintro ⟨_, h⟩
    cases h with
    | object hms => exact ⟨_, hms⟩
  · rintro ⟨_, hms⟩
    exact ⟨_, .object hms⟩

@[simp] theorem printable_lastMember :
    Printable R (.members [(k, v)]) ↔ (∃ b, R k b) ∧ Printable R (.value v) := by
  rw [← printable_string, ← printable_padded, ← printable_padded]
  constructor
  · rintro ⟨_, h⟩
    cases h with
    | lastMember hk hv => exact ⟨⟨_, hk⟩, ⟨_, hv⟩⟩
    | member _ _ hs => cases hs
  · rintro ⟨⟨_, hk⟩, ⟨_, hv⟩⟩
    exact ⟨_, .lastMember hk hv⟩

@[simp] theorem printable_member :
    Printable R (.members ((k, v) :: m :: ms)) ↔
      (∃ b, R k b) ∧ Printable R (.value v) ∧ Printable R (.members (m :: ms)) := by
  rw [← printable_string, ← printable_padded, ← printable_padded]
  constructor
  · rintro ⟨_, h⟩
    cases h with
    | member hk hv hs => exact ⟨⟨_, hk⟩, ⟨_, hv⟩, ⟨_, hs⟩⟩
  · rintro ⟨⟨_, hk⟩, ⟨_, hv⟩, ⟨_, hs⟩⟩
    exact ⟨_, .member hk hv hs⟩

theorem Printable.of_elements (h : Printable R (.elements vs)) :
    ∀ v ∈ vs, Printable R (.value v) := by
  obtain ⟨t, h⟩ := h
  induction vs generalizing t with
  | nil => cases h
  | cons v vs ih =>
    cases h with
    | lastElement hv => simpa using printable_padded.mp ⟨_, hv⟩
    | element hv hs =>
      intro u hu
      rcases List.mem_cons.mp hu with rfl | hu
      · exact printable_padded.mp ⟨_, hv⟩
      · exact ih _ hs u hu

theorem Printable.of_array (h : Printable R (.value (.array vs))) :
    ∀ v ∈ vs, Printable R (.value v) := by
  obtain ⟨_, h⟩ := h
  cases h with
  | emptyArray => simp
  | array hs => exact Printable.of_elements ⟨_, hs⟩

/-- Texts with commas between them. -/
def separated : List (List Char) → List Char
  | [] => []
  | [t] => t
  | t :: ts => t ++ ',' :: separated ts

variable {α : Type} {f : α → Value} {g : α → List Char} {as : List α}

theorem printed_elements (hne : as ≠ []) (h : ∀ a ∈ as, Printed R (.value (f a)) (g a)) :
    Printed R (.elements (as.map f)) (separated (as.map g)) := by
  induction as with
  | nil => exact absurd rfl hne
  | cons a as ih =>
    have ha := Printed.padded (h a List.mem_cons_self)
    cases as with
    | nil => exact .lastElement ha
    | cons b as =>
      exact .element ha (ih (List.cons_ne_nil b as) fun c hc => h c (List.mem_cons_of_mem a hc))

theorem printed_array (h : ∀ a ∈ as, Printed R (.value (f a)) (g a)) :
    Printed R (.value (.array (as.map f))) ('[' :: separated (as.map g) ++ [']']) := by
  cases as with
  | nil => exact .emptyArray
  | cons a as => exact .array (printed_elements (List.cons_ne_nil a as) h)

end Printable

section Blanks

variable {D : Decoder} {v : Value} {vs : List Value} {k t : List Char}

/-- No value ends in whitespace. -/
theorem Derives.last (h : Derives D (.value v) t) : ∃ r c, t = r ++ [c] ∧ isBlank c = false := by
  cases h with
  | null => exact ⟨['n', 'u', 'l'], 'l', rfl, rfl⟩
  | bool b =>
    cases b with
    | true => exact ⟨['t', 'r', 'u'], 'e', rfl, rfl⟩
    | false => exact ⟨['f', 'a', 'l', 's'], 'e', rfl, rfl⟩
  | number h =>
    exact ⟨t.dropLast, t.getLast h.ne_nil, (List.dropLast_concat_getLast h.ne_nil).symm,
      isBlank_of_isNumeric (h.numeric (List.getLast_mem h.ne_nil))⟩
  | string _ | emptyArray _ | array _ | emptyObject _ | object _ => exact ⟨_, _, rfl, by decide⟩

theorem blank_concat {w : List Char} : Blank (w ++ [' ']) ↔ Blank w := by
  unfold Blank
  simp only [List.mem_append, List.mem_singleton]
  constructor
  · exact fun h c hc => h c (Or.inl hc)
  · rintro h c (hc | rfl)
    · exact h c hc
    · rfl

/-- A blank behind a value. -/
theorem IsText.concat_iff : IsText D v (t ++ [' ']) ↔ IsText D v t := by
  constructor
  · intro h
    unfold IsText at h
    generalize ht : t ++ [' '] = u at h
    cases h with
    | @padded _ w x w' hw hvalue hw' =>
      rcases List.eq_nil_or_concat' w' with rfl | ⟨w', c, rfl⟩
      · obtain ⟨r, c, rfl, hc⟩ := hvalue.last
        rw [List.append_nil, ← List.append_assoc] at ht
        obtain ⟨_, hlast⟩ := List.append_inj' ht rfl
        cases hlast
        cases hc
      · rw [← List.append_assoc] at ht
        obtain ⟨rfl, hlast⟩ := List.append_inj' ht rfl
        cases hlast
        exact .padded hw hvalue (blank_concat.mp hw')
  · intro h
    unfold IsText at h
    cases h with
    | padded hw hvalue hw' =>
      rw [List.append_assoc]
      exact .padded hw hvalue (blank_concat.mpr hw')

theorem Derives.elements_ne_nil (h : Derives D (.elements vs) t) : t ≠ [] := by
  cases h with
  | lastElement h => exact IsText.ne_nil h
  | element _ _ => simp

/-- A blank behind the last element. -/
theorem Derives.elements_concat_iff :
    Derives D (.elements vs) (t ++ [' ']) ↔ Derives D (.elements vs) t := by
  constructor
  · intro h
    generalize ht : t ++ [' '] = u at h
    induction vs generalizing t u with
    | nil => cases h
    | cons v vs ih =>
      cases h with
      | lastElement h =>
        rw [← ht] at h
        exact .lastElement (IsText.concat_iff.mp h)
      | @element _ _ x y hx hy =>
        rcases List.eq_nil_or_concat' y with rfl | ⟨y, c, rfl⟩
        · exact absurd rfl hy.elements_ne_nil
        · have hcomma : t ++ [' '] = x ++ ',' :: y ++ [c] := by simpa using ht
          obtain ⟨rfl, hlast⟩ := List.append_inj' hcomma rfl
          cases hlast
          exact .element hx (ih _ rfl hy)
  · intro h
    induction vs generalizing t with
    | nil => cases h
    | cons v vs ih =>
      cases h with
      | lastElement h => exact .lastElement (IsText.concat_iff.mpr h)
      | element hx hy =>
        rw [List.append_assoc, List.cons_append]
        exact .element hx (ih hy)

theorem Derives.array_concat_iff :
    Derives D (.value (.array vs)) ('[' :: (t ++ [' ']) ++ [']']) ↔
      Derives D (.value (.array vs)) ('[' :: t ++ [']']) := by
  constructor
  · intro h
    generalize hu : '[' :: (t ++ [' ']) ++ [']'] = u at h
    cases h with
    | emptyArray hw =>
      obtain rfl := (List.cons.inj (List.append_cancel_right hu)).2
      exact .emptyArray (blank_concat.mp hw)
    | array hs =>
      obtain rfl := (List.cons.inj (List.append_cancel_right hu)).2
      exact .array (Derives.elements_concat_iff.mp hs)
  · intro h
    generalize hu : '[' :: t ++ [']'] = u at h
    cases h with
    | emptyArray hw =>
      obtain rfl := (List.cons.inj (List.append_cancel_right hu)).2
      exact .emptyArray (blank_concat.mpr hw)
    | array hs =>
      obtain rfl := (List.cons.inj (List.append_cancel_right hu)).2
      exact .array (Derives.elements_concat_iff.mpr hs)

/-- The parts of an object whose only member is an array that ends it. -/
theorem Derives.member_array_iff :
    Derives D (.members [(k, .array vs)]) (t ++ [']']) ↔
      ∃ x w e, t = x ++ ':' :: (w ++ '[' :: e) ∧ Derives D (.padded (.string k)) x ∧ Blank w ∧
        Derives D (.value (.array vs)) ('[' :: e ++ [']']) := by
  constructor
  · intro h
    generalize ht : t ++ [']'] = u at h
    cases h with
    | member _ _ hs => cases hs
    | @lastMember _ _ x y hk h =>
      cases h with
      | @padded _ w y w' hw harray hblank =>
        have hbrackets : ∃ e, y = '[' :: e ++ [']'] := by
          cases harray with
          | emptyArray _ => exact ⟨_, rfl⟩
          | array _ => exact ⟨_, rfl⟩
        obtain ⟨e, rfl⟩ := hbrackets
        rcases List.eq_nil_or_concat' w' with rfl | ⟨w', c, rfl⟩
        · have hcut : t ++ [']'] = x ++ ':' :: (w ++ '[' :: e) ++ [']'] := by simpa using ht
          exact ⟨x, w, e, List.append_cancel_right hcut, hk, hw, harray⟩
        · have hcut : t ++ [']'] = x ++ ':' :: (w ++ ('[' :: e ++ [']']) ++ w') ++ [c] := by
            simpa using ht
          obtain ⟨_, hlast⟩ := List.append_inj' hcut rfl
          cases hlast
          exact absurd (hblank ']' (by simp)) (by decide)
  · rintro ⟨x, w, e, rfl, hk, hw, harray⟩
    have hpadded := Derives.padded hw harray Blank.nil
    have hmember := Derives.lastMember hk hpadded
    simpa using hmember

/-- A blank behind the elements of such an array. -/
theorem Derives.member_array_concat_iff :
    Derives D (.members [(k, .array vs)]) (t ++ [' '] ++ [']']) ↔
      Derives D (.members [(k, .array vs)]) (t ++ [']']) := by
  rw [Derives.member_array_iff, Derives.member_array_iff]
  constructor
  · rintro ⟨x, w, e, ht, hk, hw, harray⟩
    rcases List.eq_nil_or_concat' e with rfl | ⟨e, c, rfl⟩
    · have hcut : t ++ [' '] = x ++ ':' :: w ++ ['['] := by simpa using ht
      obtain ⟨_, hlast⟩ := List.append_inj' hcut rfl
      cases hlast
    · have hcut : t ++ [' '] = x ++ ':' :: (w ++ '[' :: e) ++ [c] := by simpa using ht
      obtain ⟨rfl, hlast⟩ := List.append_inj' hcut rfl
      cases hlast
      exact ⟨x, w, e, rfl, hk, hw, Derives.array_concat_iff.mp harray⟩
  · rintro ⟨x, w, e, rfl, hk, hw, harray⟩
    exact ⟨x, w, e ++ [' '], by simp, hk, hw, Derives.array_concat_iff.mpr harray⟩

/-- No whitespace stands around a text that neither begins nor ends with any. -/
theorem IsText.tight {c c' : Char} (hc : isBlank c = false) (hc' : isBlank c' = false) :
    IsText D v (c :: t ++ [c']) ↔ Derives D (.value v) (c :: t ++ [c']) := by
  constructor
  · intro h
    obtain ⟨x, w, heq, hvalue, hw⟩ := IsText.unpadded (r := t ++ [c']) h hc
    rcases List.eq_nil_or_concat' w with rfl | ⟨w, b, rfl⟩
    · rw [List.append_nil] at heq
      rwa [List.cons_append, heq]
    · have hcut : c :: t ++ [c'] = x ++ w ++ [b] := by simpa using heq
      obtain ⟨_, hlast⟩ := List.append_inj' hcut rfl
      cases hlast
      rw [hw c' (by simp)] at hc'
      cases hc'
  · exact IsText.of_value

theorem IsText.object_array_concat_iff :
    IsText D (.object [(k, .array vs)]) ('{' :: (t ++ [' '] ++ [']']) ++ ['}']) ↔
      IsText D (.object [(k, .array vs)]) ('{' :: (t ++ [']']) ++ ['}']) := by
  have hobject (m : List Char) : Derives D (.value (.object [(k, .array vs)])) ('{' :: m ++ ['}']) ↔
      Derives D (.members [(k, .array vs)]) m := by
    constructor
    · intro h
      generalize hu : '{' :: m ++ ['}'] = u at h
      cases h with
      | object hms =>
        obtain rfl := (List.cons.inj (List.append_cancel_right hu)).2
        exact hms
    · exact .object
  rw [IsText.tight rfl rfl, IsText.tight rfl rfl, hobject, hobject,
    Derives.member_array_concat_iff]

end Blanks

end UCLinux.Json
