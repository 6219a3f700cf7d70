import Mathlib.Data.List.Infix

/-!
Paths through a tree of directories. A path is a list of steps, each into an
entry or up one level, and at the root a step up stays there. Steps have a net
effect: some levels are left and some entries are entered behind. A walk from a
directory ends inside it when it enters again what it has left.
-/

namespace UCLinux.Machine

section Walks

variable {α : Type}

inductive PathStep (α : Type) where
  | enter (entry : α)
  | up
  deriving DecidableEq, Repr

/-- The directory a step leads to. A directory is the list of the entries on the
way from the root. -/
def PathStep.next (d : List α) : PathStep α → List α
  | .enter entry => d ++ [entry]
  | .up => d.dropLast

/-- Where steps lead from a directory. -/
def walk (d : List α) (steps : List (PathStep α)) : List α := steps.foldl PathStep.next d

theorem walk_append (d : List α) (steps steps' : List (PathStep α)) :
    walk d (steps ++ steps') = walk (walk d steps) steps' := List.foldl_append

/-- The net effect of steps. -/
structure NetSteps (α : Type) where
  levels : Nat
  entries : List α
  deriving DecidableEq, Repr

/-- A step up undoes the last entry, or leaves one more level. -/
def NetSteps.next (n : NetSteps α) : PathStep α → NetSteps α
  | .enter entry => ⟨n.levels, n.entries ++ [entry]⟩
  | .up => if n.entries = [] then ⟨n.levels + 1, []⟩ else ⟨n.levels, n.entries.dropLast⟩

def netSteps (steps : List (PathStep α)) : NetSteps α := steps.foldl NetSteps.next ⟨0, []⟩

/-- Where a net effect leads. -/
def NetSteps.apply (n : NetSteps α) (d : List α) : List α :=
  d.take (d.length - n.levels) ++ n.entries

/-- The levels left are entered again, or none was. -/
def NetSteps.Returns (n : NetSteps α) (d : List α) : Prop :=
  d.drop (d.length - n.levels) <+: n.entries

instance [DecidableEq α] (n : NetSteps α) (d : List α) : Decidable (n.Returns d) :=
  inferInstanceAs (Decidable (_ <+: _))

theorem NetSteps.apply_next (n : NetSteps α) (d : List α) (s : PathStep α) :
    (n.next s).apply d = s.next (n.apply d) := by
  cases s with
  | enter entry => exact (List.append_assoc _ _ _).symm
  | up =>
    unfold NetSteps.apply PathStep.next NetSteps.next
    dsimp only
    by_cases hnone : n.entries = []
    · have htake : min (min (d.length - n.levels) d.length - 1) (d.length - n.levels) =
          d.length - (n.levels + 1) := by
        omega
      rw [if_pos hnone, hnone, List.append_nil, List.append_nil, List.dropLast_eq_take,
        List.take_take, List.length_take, htake]
    · rw [if_neg hnone, List.dropLast_append_of_ne_nil hnone]

theorem foldl_next (n : NetSteps α) (d : List α) (steps : List (PathStep α)) :
    walk (n.apply d) steps = (steps.foldl NetSteps.next n).apply d := by
  induction steps generalizing n with
  | nil => rfl
  | cons s steps ih =>
    have hnext := ih (n.next s)
    rw [NetSteps.apply_next] at hnext
    exact hnext

/-- A walk does what its steps do in the net. -/
theorem walk_eq (d : List α) (steps : List (PathStep α)) :
    walk d steps = (netSteps steps).apply d := by
  have hstart : (⟨0, []⟩ : NetSteps α).apply d = d := by
    unfold NetSteps.apply
    rw [Nat.sub_zero, List.take_length, List.append_nil]
  unfold netSteps
  rw [← foldl_next, hstart]

/-- When a walk from a directory ends in it or below. -/
theorem starts_walk_iff (d : List α) (steps : List (PathStep α)) :
    d <+: walk d steps ↔ (netSteps steps).Returns d := by
  have hinj (k : Nat) (entries : List α) :
      d.take k ++ d.drop k <+: d.take k ++ entries ↔ d.drop k <+: entries :=
    List.prefix_append_right_inj _
  rw [walk_eq]
  unfold NetSteps.apply NetSteps.Returns
  rw [← hinj, List.take_append_drop]

/-- Steps that leave no level return to every directory. -/
theorem NetSteps.returns_of_levels {n : NetSteps α} (h : n.levels = 0) (d : List α) :
    n.Returns d := by
  unfold NetSteps.Returns
  rw [h, Nat.sub_zero, List.drop_length]
  exact List.nil_prefix

/-- One step behind an entry leaves at most the entry. -/
theorem levels_entered (entry : α) (s : Option (PathStep α)) :
    (netSteps (.enter entry :: s.toList)).levels = 0 := by
  cases s with
  | none => rfl
  | some s => cases s <;> rfl

/-- What a walk ends in is where it started from and what it entered. -/
theorem mem_walk {d : List α} {steps : List (PathStep α)} {e : α} (h : e ∈ walk d steps) :
    e ∈ d ∨ .enter e ∈ steps := by
  induction steps generalizing d with
  | nil => exact Or.inl h
  | cons s steps ih =>
    rcases ih h with hnext | hlater
    · cases s with
      | up => exact Or.inl (List.mem_of_mem_dropLast hnext)
      | enter entry =>
        rcases List.mem_append.mp hnext with hold | hnew
        · exact Or.inl hold
        · rw [List.mem_singleton.mp hnew]
          exact Or.inr List.mem_cons_self
    · exact Or.inr (List.mem_cons_of_mem _ hlater)

end Walks

section Texts

variable {d name dir : List Char}

/-- The step of what stands between two slashes. -/
def pathStep (entry : List Char) : Option (PathStep (List Char)) :=
  if entry = [] ∨ entry = ['.'] then none
  else if entry = ['.', '.'] then some .up
  else some (.enter entry)

def pathSteps (path : List Char) : List (PathStep (List Char)) :=
  (path.splitOn '/').filterMap pathStep

/-- Where a path from the root leads. -/
def resolve (path : List Char) : List (List Char) := walk [] (pathSteps path)

/-- A path leads to a directory or to something below it. -/
def Inside (dir path : List Char) : Prop := resolve dir <+: resolve path

instance (dir path : List Char) : Decidable (Inside dir path) :=
  inferInstanceAs (Decidable (_ <+: _))

theorem pathSteps_append : pathSteps (d ++ '/' :: name) = pathSteps d ++ pathSteps name := by
  unfold pathSteps
  rw [List.splitOn_append_cons_self, List.filterMap_append]

/-- A name without a slash is one step at most. -/
theorem pathSteps_of_no_slash (h : '/' ∉ name) : pathSteps name = (pathStep name).toList := by
  unfold pathSteps
  rw [List.splitOn_eq_singleton h]
  cases hstep : pathStep name with
  | none => exact List.filterMap_cons_none hstep
  | some s => exact List.filterMap_cons_some hstep

/-- A name behind a directory leads inside when it returns to the directory. -/
theorem inside_append_iff (hdir : dir = d ++ ['/']) :
    Inside dir (dir ++ name) ↔ (netSteps (pathSteps name)).Returns (resolve dir) := by
  have hsteps : pathSteps (dir ++ name) = pathSteps dir ++ pathSteps name := by
    rw [hdir, List.append_assoc, List.cons_append, List.nil_append, pathSteps_append,
      pathSteps_append]
    exact congrArg (· ++ pathSteps name) (List.append_nil _).symm
  unfold Inside
  rw [← starts_walk_iff]
  unfold resolve
  rw [hsteps, walk_append]

/-- What stands between two separators stands in the list. -/
theorem infix_of_mem_splitOn {α : Type} [BEq α] [LawfulBEq α] {c : α} {e p : List α}
    (h : e ∈ p.splitOn c) : e <:+: p := by
  induction hn : p.length using Nat.strongRecOn generalizing p with
  | ind n ih =>
    by_cases hc : c ∈ p
    · obtain ⟨a, b, rfl, ha⟩ := List.eq_append_cons_of_mem hc
      rw [List.splitOn_append_cons_self, List.splitOn_eq_singleton ha, List.singleton_append] at h
      rcases List.mem_cons.mp h with rfl | hrest
      · exact (List.prefix_append e _).isInfix
      · have hb := ih b.length (by rw [← hn, List.length_append, List.length_cons]; omega) hrest rfl
        exact hb.trans ((List.suffix_cons c b).trans (List.suffix_append a _)).isInfix
    · rw [List.splitOn_eq_singleton hc] at h
      rw [List.mem_singleton.mp h]

theorem mem_splitOn_of_mem_resolve {e path : List Char} (h : e ∈ resolve path) :
    e ∈ path.splitOn '/' := by
  rcases mem_walk h with hroot | hstep
  · cases hroot
  · obtain ⟨entry, hentry, hpath⟩ := List.mem_filterMap.mp hstep
    unfold pathStep at hpath
    split_ifs at hpath
    · cases hpath
    · cases hpath
      exact hentry

/-- A path that ends in a letter leads into an entry that does. -/
theorem resolve_last {path : List Char} {c : Char} (h : path.getLast? = some c) (hslash : c ≠ '/')
    (hdot : c ≠ '.') : ∃ d e, resolve path = d ++ [e] ∧ e.getLast? = some c := by
  have hstep {e : List Char} (he : e.getLast? = some c) : pathStep e = some (.enter e) := by
    unfold pathStep
    rw [if_neg, if_neg]
    · rintro rfl
      exact hdot (Option.some.inj he).symm
    · rintro (rfl | rfl)
      · cases he
      · exact hdot (Option.some.inj he).symm
  by_cases hmem : '/' ∈ path
  · obtain ⟨b, a, hrev, hb⟩ := List.eq_append_cons_of_mem (List.mem_reverse.mpr hmem)
    obtain rfl : path = a.reverse ++ '/' :: b.reverse := by
      rw [← List.reverse_reverse path, hrev]
      simp
    have hlast : b.reverse.getLast? = some c := by
      rw [List.getLast?_append_cons] at h
      cases hb' : b.reverse with
      | nil =>
        rw [hb'] at h
        exact absurd (Option.some.inj h).symm hslash
      | cons x xs =>
        rw [hb'] at h
        exact h
    have hname : '/' ∉ b.reverse := fun hin => hb (List.mem_reverse.mp hin)
    refine ⟨resolve a.reverse, b.reverse, ?_, hlast⟩
    unfold resolve
    rw [pathSteps_append, walk_append, pathSteps_of_no_slash hname, hstep hlast]
    rfl
  · refine ⟨[], path, ?_, h⟩
    unfold resolve
    rw [pathSteps_of_no_slash hmem, hstep h]
    rfl

end Texts

end UCLinux.Machine
