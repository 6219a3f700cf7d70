import UCLinux.Json.Grammar

/-!
A scanner that tells string literals from what is between them. Scanned from
outside and from inside of a literal, one text never ends at the same place,
so what is cut out of a JSON text from a place inside a literal is no JSON
text.
-/

namespace UCLinux.Json

/-- Between string literals, in one, or behind a backslash in one. -/
inductive Mode where
  | outside
  | inside
  | escaped
  deriving DecidableEq, Repr

/-- One character; `ok` are those that may stand between literals. -/
def Mode.step (ok : Char → Bool) : Mode → Char → Option Mode
  | .outside, c =>
    if c = '"' then some .inside else if ok c then some .outside else none
  | .inside, c =>
    if c = '"' then some .outside
    else if c = '\\' then some .escaped
    else if 0x20 ≤ c.toNat then some .inside else none
  | .escaped, c => if c ∈ escapes then some .inside else none

def scan (ok : Char → Bool) : Mode → List Char → Option Mode
  | m, [] => some m
  | m, c :: t => (m.step ok c).bind fun m' => scan ok m' t

/-- JSON has no backslash outside of string literals. -/
def noEscape (c : Char) : Bool := c ≠ '\\'

section Scanning

variable {ok : Char → Bool}

theorem scan_append (m : Mode) (t t' : List Char) :
    scan ok m (t ++ t') = (scan ok m t).bind fun m' => scan ok m' t' := by
  induction t generalizing m with
  | nil => rfl
  | cons c t ih =>
    rw [List.cons_append, scan, scan, Option.bind_assoc]
    exact congrArg _ (funext fun m' => ih m')

theorem scan_append_of {m m' : Mode} {t : List Char} (h : scan ok m t = some m')
    (t' : List Char) : scan ok m (t ++ t') = scan ok m' t' := by
  rw [scan_append, h, Option.bind_some]

theorem scan_cons_of {m m' : Mode} {c : Char} (h : m.step ok c = some m') (t : List Char) :
    scan ok m (c :: t) = scan ok m' t := by
  rw [scan, h, Option.bind_some]

theorem step_quote : Mode.step ok .outside '"' = some .inside := rfl

theorem step_plain {c : Char} (hc : IsPlain c) : Mode.step ok .inside c = some .inside := by
  obtain ⟨hquote, hslash, hprint⟩ := hc
  rw [Mode.step, if_neg hquote, if_neg hslash, if_pos hprint]

theorem step_slash : Mode.step ok .inside '\\' = some .escaped := rfl

theorem step_escape {c : Char} (hc : c ∈ escapes) : Mode.step ok .escaped c = some .inside :=
  if_pos hc

theorem step_between {c : Char} (hquote : c ≠ '"') (hok : ok c = true) :
    Mode.step ok .outside c = some .outside := by
  rw [Mode.step, if_neg hquote, if_pos hok]

/-- What stands between literals. -/
theorem scan_between {t : List Char} (h : ∀ c ∈ t, c ≠ '"' ∧ ok c = true) :
    scan ok .outside t = some .outside := by
  induction t with
  | nil => rfl
  | cons c t ih =>
    obtain ⟨hquote, hok⟩ := h c (List.mem_cons_self ..)
    rw [scan_cons_of (step_between hquote hok)]
    exact ih fun x hx => h x (List.mem_cons_of_mem _ hx)

theorem IsBody.scan {b : List Char} (h : IsBody b) : scan ok .inside b = some .inside := by
  induction h with
  | nil => rfl
  | plain hc _ ih =>
    rw [scan_cons_of (step_plain hc)]
    exact ih
  | escape hc _ ih =>
    rw [scan_cons_of step_slash, scan_cons_of (step_escape hc)]
    exact ih

theorem scan_literal {b : List Char} (h : IsBody b) :
    scan ok .outside ('"' :: b ++ ['"']) = some .outside := by
  rw [List.cons_append, scan_cons_of step_quote, scan_append_of h.scan]
  rfl

/-- Fewer characters allowed between literals. -/
theorem scan_mono {ok' : Char → Bool} (h : ∀ c, ok c = true → ok' c = true) {m m' : Mode}
    {t : List Char} (hscan : scan ok m t = some m') : scan ok' m t = some m' := by
  induction t generalizing m with
  | nil => exact hscan
  | cons c t ih =>
    rw [scan] at hscan
    obtain ⟨k, hstep, hrest⟩ := Option.bind_eq_some_iff.mp hscan
    have hstep' : m.step ok' c = some k := by
      cases m with
      | outside =>
        simp only [Mode.step] at hstep ⊢
        split_ifs at hstep with hquote hok
        · rw [if_pos hquote]
          exact hstep
        · rw [if_neg hquote, if_pos (h c hok)]
          exact hstep
      | inside => exact hstep
      | escaped => exact hstep
    rw [scan_cons_of hstep']
    exact ih hrest

/-- Scanned from outside and from inside, a text ends in two places. -/
theorem scan_opposite {ok' : Char → Bool} (hok : ok '\\' = false) (hok' : ok' '\\' = false)
    {t : List Char} {m m' : Mode} (h : scan ok .inside t = some m)
    (h' : scan ok' .outside t = some m') : m ≠ m' := by
  induction t generalizing ok ok' m m' with
  | nil =>
    cases h
    cases h'
    decide
  | cons c t ih =>
    rw [scan] at h h'
    obtain ⟨k, hstep, hrest⟩ := Option.bind_eq_some_iff.mp h
    obtain ⟨k', hstep', hrest'⟩ := Option.bind_eq_some_iff.mp h'
    simp only [Mode.step] at hstep hstep'
    by_cases hquote : c = '"'
    · rw [if_pos hquote] at hstep hstep'
      cases hstep
      cases hstep'
      exact (ih hok' hok hrest' hrest).symm
    · rw [if_neg hquote] at hstep hstep'
      by_cases hslash : c = '\\'
      · rw [hslash, hok'] at hstep'
        cases hstep'
      · rw [if_neg hslash] at hstep
        split_ifs at hstep
        split_ifs at hstep'
        cases hstep
        cases hstep'
        exact ih hok hok' hrest hrest'

theorem scan_blank (hok : ∀ c, isBlank c = true → ok c = true) {w : List Char} (hw : Blank w) :
    scan ok .outside w = some .outside := by
  apply scan_between
  intro c hc
  have hblank := hw c hc
  refine ⟨?_, hok c hblank⟩
  rintro rfl
  cases hblank

theorem noEscape_of_isBlank {c : Char} (h : isBlank c = true) : noEscape c = true := by
  unfold noEscape
  rw [decide_eq_true_iff]
  rintro rfl
  cases h

theorem scan_number {t : List Char} (h : IsNumber t) :
    scan noEscape .outside t = some .outside := by
  apply scan_between
  intro c hc
  have hnumeric := h.numeric hc
  refine ⟨?_, ?_⟩
  · rintro rfl
    cases hnumeric
  · unfold noEscape
    rw [decide_eq_true_iff]
    rintro rfl
    cases hnumeric

/-- A text between two brackets. -/
theorem scan_brackets {a b : Char} (ha : a ≠ '"' ∧ ok a = true) (hb : b ≠ '"' ∧ ok b = true)
    {t : List Char} (h : scan ok .outside t = some .outside) :
    scan ok .outside (a :: t ++ [b]) = some .outside := by
  rw [List.cons_append, scan_cons_of (step_between ha.1 ha.2), scan_append_of h,
    scan_cons_of (step_between hb.1 hb.2)]
  rfl

/-- Two texts with a separator. -/
theorem scan_separated {c : Char} (hc : c ≠ '"' ∧ ok c = true) {t t' : List Char}
    (h : scan ok .outside t = some .outside) (h' : scan ok .outside t' = some .outside) :
    scan ok .outside (t ++ c :: t') = some .outside := by
  rw [scan_append_of h, scan_cons_of (step_between hc.1 hc.2)]
  exact h'

variable {D : Decoder}

/-- A JSON text begins and ends outside of string literals. -/
theorem Derives.scan {p : Phrase} {t : List Char} (h : Derives D p t) :
    scan noEscape .outside t = some .outside := by
  induction h with
  | null => rfl
  | bool b => cases b <;> rfl
  | number h => exact scan_number h
  | string h => exact scan_literal (D.isBody _ _ h)
  | emptyArray hw | emptyObject hw =>
    exact scan_brackets (by decide) (by decide) (scan_blank (fun _ => noEscape_of_isBlank) hw)
  | array _ ih | object _ ih => exact scan_brackets (by decide) (by decide) ih
  | padded hw _ hw' ih =>
    rw [scan_append_of, scan_blank (fun _ => noEscape_of_isBlank) hw']
    rw [scan_append_of (scan_blank (fun _ => noEscape_of_isBlank) hw)]
    exact ih
  | lastElement _ ih => exact ih
  | element _ _ ih ih' | lastMember _ _ ih ih' => exact scan_separated (by decide) ih ih'
  | member _ _ _ ih ih' ih'' =>
    exact scan_separated (by decide) (scan_separated (by decide) ih ih') ih''

end Scanning

end UCLinux.Json
