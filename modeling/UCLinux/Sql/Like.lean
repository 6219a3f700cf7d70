import Mathlib.Data.List.Infix
import UCLinux.Sql.Statement

/-!
The LIKE operator. A percent sign stands for any text and an underscore for any character;
every other character of a pattern stands for itself in either case. Between two percent
signs a text without wildcards asks for the names that contain it.
-/

namespace UCLinux.Sql

section Program

/-- `text LIKE pattern`, without an escape character. -/
def like : Text → Text → Bool
  | [], text => text.isEmpty
  | c :: pattern, text =>
    if c = '%' then text.tails.any (like pattern)
    else match text with
      | [] => false
      | d :: text => (c = '_' || c.toLower = d.toLower) && like pattern text

end Program

section Purpose

/-- A pattern without wildcards. -/
def NoWildcard (word : Text) : Prop := ∀ c ∈ word, c ≠ '%' ∧ c ≠ '_'

instance (word : Text) : Decidable (NoWildcard word) :=
  inferInstanceAs (Decidable (∀ c ∈ word, c ≠ '%' ∧ c ≠ '_'))

/-- The same text, whatever the case of its letters. -/
def SameLetters (a b : Text) : Prop := a.map Char.toLower = b.map Char.toLower

/-- The text contains the word, whatever the case. -/
def ContainsWord (text word : Text) : Prop := word.map Char.toLower <:+: text.map Char.toLower

instance (text word : Text) : Decidable (ContainsWord text word) :=
  inferInstanceAs (Decidable (word.map Char.toLower <:+: text.map Char.toLower))

end Purpose

section Matching

variable {c d : Char} {word pattern text : Text}

theorem like_nil : like [] text = true ↔ text = [] := List.isEmpty_iff

/-- A percent sign takes any text. -/
theorem like_percent :
    like ('%' :: pattern) text = true ↔ ∃ taken rest, text = taken ++ rest ∧
      like pattern rest = true := by
  have heq : like ('%' :: pattern) text = text.tails.any (like pattern) := if_pos rfl
  rw [heq, List.any_eq_true]
  constructor
  · rintro ⟨rest, hrest, h⟩
    obtain ⟨taken, htaken⟩ := (List.mem_tails rest text).mp hrest
    exact ⟨taken, rest, htaken.symm, h⟩
  · rintro ⟨taken, rest, rfl, h⟩
    exact ⟨rest, (List.mem_tails rest _).mpr (List.suffix_append taken rest), h⟩

theorem like_percent_nil : like ['%'] text = true :=
  like_percent.mpr ⟨text, [], (List.append_nil text).symm, rfl⟩

theorem not_like_nil (hpercent : c ≠ '%') : like (c :: pattern) [] = false :=
  if_neg hpercent

/-- A character that is no wildcard takes the same letter. -/
theorem like_cons (hpercent : c ≠ '%') (hunderscore : c ≠ '_') :
    like (c :: pattern) (d :: text) = true ↔
      c.toLower = d.toLower ∧ like pattern text = true := by
  have heq : like (c :: pattern) (d :: text) =
      ((c = '_' || c.toLower = d.toLower) && like pattern text) := if_neg hpercent
  rw [heq, decide_eq_false hunderscore, Bool.false_or, Bool.and_eq_true, decide_eq_true_iff]

/-- A word in front of a pattern takes the same letters. -/
theorem like_noWildcard_append (h : NoWildcard word) :
    like (word ++ pattern) text = true ↔ ∃ taken rest, text = taken ++ rest ∧
      SameLetters word taken ∧ like pattern rest = true := by
  induction word generalizing text with
  | nil =>
    constructor
    · exact fun hlike => ⟨[], text, rfl, rfl, hlike⟩
    · rintro ⟨taken, rest, rfl, hsame, hlike⟩
      rw [List.map_eq_nil_iff.mp hsame.symm]
      exact hlike
  | cons c word ih =>
    obtain ⟨⟨hpercent, hunderscore⟩, hword⟩ := List.forall_mem_cons.mp h
    rw [List.cons_append]
    cases text with
    | nil =>
      rw [not_like_nil hpercent]
      refine iff_of_false Bool.false_ne_true ?_
      rintro ⟨taken, rest, hnil, hsame, -⟩
      rw [(List.append_eq_nil_iff.mp hnil.symm).1] at hsame
      exact List.cons_ne_nil _ _ hsame
    | cons d text =>
      rw [like_cons hpercent hunderscore, ih hword]
      constructor
      · rintro ⟨hletter, taken, rest, rfl, hsame, hlike⟩
        exact ⟨d :: taken, rest, rfl, List.cons_eq_cons.mpr ⟨hletter, hsame⟩, hlike⟩
      · rintro ⟨taken, rest, htext, hsame, hlike⟩
        cases taken with
        | nil => exact absurd hsame (List.cons_ne_nil _ _)
        | cons d' taken =>
          obtain ⟨rfl, rfl⟩ := List.cons.inj htext
          obtain ⟨hletter, hrest⟩ := List.cons.inj hsame
          exact ⟨hletter, taken, rest, rfl, hrest, hlike⟩

/-- Between percent signs a word is looked for. -/
theorem like_contains (h : NoWildcard word) :
    like ('%' :: (word ++ ['%'])) text = true ↔ ContainsWord text word := by
  rw [like_percent]
  constructor
  · rintro ⟨before, rest, rfl, hlike⟩
    obtain ⟨taken, after, rfl, hsame, -⟩ := (like_noWildcard_append h).mp hlike
    refine ⟨before.map Char.toLower, after.map Char.toLower, ?_⟩
    rw [hsame, List.map_append, List.map_append, List.append_assoc]
  · rintro ⟨before, after, htext⟩
    obtain ⟨front, rest, rfl, hfront, -⟩ := List.map_eq_append_iff.mp htext.symm
    obtain ⟨first, taken, rfl, -, htaken⟩ := List.map_eq_append_iff.mp hfront
    rw [List.append_assoc]
    exact ⟨first, taken ++ rest, rfl,
      (like_noWildcard_append h).mpr ⟨taken, rest, rfl, htaken.symm, like_percent_nil⟩⟩

end Matching

end UCLinux.Sql
