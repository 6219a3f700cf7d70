import Mathlib.Data.Rat.Defs
import UCLinux.Machine.Run
import UCLinux.Navigation.RouteStatus

/-!
What the driver is told. Within 60 metres of the next instruction it is played
and the status becomes `told`; a new instruction clears the status again, once
the car moves the right way. Both may happen in one call, in this order.
-/

namespace UCLinux.Navigation

open Machine

section Program

inductive VRStatus where
  | utwpTold
  | unknown
  | longPrepare
  | prepare
  | turnIn
  | turn
  | told
  deriving DecidableEq, Repr

/-- `lastVoiceNotif` is there on Android only, in milliseconds. -/
structure VoiceRouter where
  currentStatus : VRStatus
  prevRouteDirectionIndex : Int
  lastVoiceNotif : Int
  deriving DecidableEq, Repr

inductive Play where
  | prepareTurn (ind : Int)
  | makeTurn (ind : Int)
  | pastVerbalInstruction (ind : Int)
  deriving DecidableEq, Repr

/-- The next instruction and how far it is. -/
structure NextInfo where
  dist : Rat
  ind : Int
  deriving DecidableEq, Repr

/-- What a call finds: no `nextInfo` without a route or an instruction ahead. -/
structure Reading where
  nextInfo : Option NextInfo
  wrongMovementDirection : Bool
  now : Int
  deriving DecidableEq, Repr

namespace VoiceRouter

variable (android : Bool) (v : VoiceRouter) (now : Int) (n : NextInfo)

def reset : VoiceRouter :=
  { v with prevRouteDirectionIndex := 0, currentStatus := .unknown }

def announcePrepare : VoiceRouter × List Play :=
  if v.currentStatus ≠ .prepare ∧ v.currentStatus ≠ .told ∧ n.dist < 250 ∧ android ∧
      now - v.lastVoiceNotif > 2000 then
    ({ v with lastVoiceNotif := now, currentStatus := .prepare }, [.prepareTurn n.ind])
  else (v, [])

def announceTurn : VoiceRouter × List Play :=
  if v.currentStatus ≠ .told ∧ n.dist < 60 then
    ({ v with currentStatus := .told
              lastVoiceNotif := if android then now else v.lastVoiceNotif }, [.makeTurn n.ind])
  else (v, [])

def announcePast : VoiceRouter × List Play :=
  if android ∧ n.dist > 500 ∧ now - v.lastVoiceNotif > 1000 then
    ({ v with lastVoiceNotif := now }, [.pastVerbalInstruction v.prevRouteDirectionIndex])
  else (v, [])

/-- A new instruction is taken on unless the car moves away from it. -/
def takeInstruction (wrongMovementDirection : Bool) : VoiceRouter × List Play :=
  if v.prevRouteDirectionIndex ≠ n.ind ∧ wrongMovementDirection = false then
    let past := v.announcePast android now n
    ({ past.1 with prevRouteDirectionIndex := n.ind, currentStatus := .unknown }, past.2)
  else (v, [])

def updateVoiceRouterStatus (r : Reading) : VoiceRouter × List Play :=
  match r.nextInfo with
  | none => (v, [])
  | some n =>
    let prepared := v.announcePrepare android r.now n
    let turned := prepared.1.announceTurn android r.now n
    let taken := turned.1.takeInstruction android r.now n r.wrongMovementDirection
    (taken.1, prepared.2 ++ turned.2 ++ taken.2)

def next (r : Reading) : VoiceRouter := (v.updateVoiceRouterStatus android r).1

/-- What a run plays. -/
def plays : VoiceRouter → List Reading → List Play
  | _, [] => []
  | v, r :: rs => (v.updateVoiceRouterStatus android r).2 ++ plays (v.next android r) rs

end VoiceRouter

end Program

section Readings

/-- The reading is of the instruction `i`. -/
def Reading.IsAt (i : Int) (r : Reading) : Prop := ∃ n, r.nextInfo = some n ∧ n.ind = i

/-- Within the distance where the instruction is played. -/
def Reading.Near (i : Int) (r : Reading) : Prop :=
  ∃ n, r.nextInfo = some n ∧ n.ind = i ∧ n.dist < 60

def Reading.Right (i : Int) (r : Reading) : Prop :=
  r.IsAt i ∧ r.wrongMovementDirection = false

/-- Instructions are numbered along the route. -/
def Reading.InOrder (a b : Reading) : Prop :=
  ∀ m n, a.nextInfo = some m → b.nextInfo = some n → m.ind ≤ n.ind

/-- Near `i` once more after the car has been on the right way to it. -/
def RightThenNear (i : Int) (rs : List Reading) : Prop :=
  ∃ l r l', rs = l ++ r :: l' ∧ r.Right i ∧ ∃ b ∈ l', b.Near i

/-- Near `i` while nothing is told and `i` not taken on, and near it once more
after it was. -/
def Reannounced (android : Bool) (v : VoiceRouter) (rs : List Reading) (i : Int) : Prop :=
  ∃ l a l', rs = l ++ a :: l' ∧
    (run (VoiceRouter.next android) v l).currentStatus ≠ .told ∧
    (run (VoiceRouter.next android) v l).prevRouteDirectionIndex ≠ i ∧
    a.Near i ∧ RightThenNear i (a :: l')

variable {i : Int} {r : Reading} {rs : List Reading}

/-- A reading of a run is its first one or one of the rest. -/
theorem exists_split_cons {P : List Reading → Reading → List Reading → Prop} :
    (∃ l a l', r :: rs = l ++ a :: l' ∧ P l a l') ↔
      P [] r rs ∨ ∃ l a l', rs = l ++ a :: l' ∧ P (r :: l) a l' := by
  constructor
  · rintro ⟨l, a, l', heq, h⟩
    rcases List.cons_eq_append_iff.mp heq with ⟨rfl, hcons⟩ | ⟨l₁, rfl, hrest⟩
    · cases hcons
      exact .inl h
    · exact .inr ⟨l₁, a, l', hrest, h⟩
  · rintro (h | ⟨l, a, l', rfl, h⟩)
    · exact ⟨[], r, rs, rfl, h⟩
    · exact ⟨r :: l, a, l', rfl, h⟩

theorem not_exists_split_nil {P : List Reading → Reading → List Reading → Prop} :
    ¬∃ l a l', [] = l ++ a :: l' ∧ P l a l' := by
  rintro ⟨l, a, l', heq, -⟩
  exact absurd heq.symm (List.append_ne_nil_of_right_ne_nil l (List.cons_ne_nil a l'))

theorem rightThenNear_cons :
    RightThenNear i (r :: rs) ↔ (r.Right i ∧ ∃ b ∈ rs, b.Near i) ∨ RightThenNear i rs :=
  exists_split_cons

theorem not_rightThenNear_nil : ¬RightThenNear i [] := not_exists_split_nil

theorem RightThenNear.exists_near (h : RightThenNear i rs) : ∃ b ∈ rs, b.Near i := by
  obtain ⟨l, a, l', rfl, -, b, hb, hnear⟩ := h
  exact ⟨b, List.mem_append_right _ (List.mem_cons_of_mem _ hb), hnear⟩

variable {android : Bool} {v : VoiceRouter}

theorem reannounced_cons :
    Reannounced android v (r :: rs) i ↔
      (v.currentStatus ≠ .told ∧ v.prevRouteDirectionIndex ≠ i ∧ r.Near i ∧
        RightThenNear i (r :: rs)) ∨ Reannounced android (v.next android r) rs i :=
  exists_split_cons

theorem not_reannounced_nil : ¬Reannounced android v [] i := not_exists_split_nil

end Readings

section Step

namespace VoiceRouter

variable {android : Bool} {v : VoiceRouter} {r : Reading} {n : NextInfo} {i : Int}

variable (android) in
/-- Preparing tells nothing. -/
theorem announcePrepare_spec (now : Int) :
    (v.announcePrepare android now n).1.prevRouteDirectionIndex = v.prevRouteDirectionIndex ∧
      ((v.announcePrepare android now n).1.currentStatus = .told ↔ v.currentStatus = .told) ∧
      (v.announcePrepare android now n).2.count (.makeTurn i) = 0 := by
  unfold announcePrepare
  split
  · rename_i h
    exact ⟨rfl, iff_of_false (by simp) h.2.1, by simp⟩
  · exact ⟨rfl, Iff.rfl, rfl⟩

variable (android) in
theorem announceTurn_spec (now : Int) :
    (v.announceTurn android now n).1.prevRouteDirectionIndex = v.prevRouteDirectionIndex ∧
      ((v.announceTurn android now n).1.currentStatus = .told ↔
        v.currentStatus = .told ∨ n.dist < 60) ∧
      (v.announceTurn android now n).2.count (.makeTurn i) =
        if v.currentStatus ≠ .told ∧ n.dist < 60 ∧ n.ind = i then 1 else 0 := by
  unfold announceTurn
  by_cases h : v.currentStatus ≠ .told ∧ n.dist < 60
  · rw [if_pos h]
    refine ⟨rfl, iff_of_true rfl (.inr h.2), ?_⟩
    dsimp only
    rw [List.count_singleton]
    by_cases hi : n.ind = i
    · have hall : v.currentStatus ≠ .told ∧ n.dist < 60 ∧ n.ind = i := ⟨h.1, h.2, hi⟩
      rw [if_pos hall, hi, if_pos (beq_self_eq_true _)]
    · have hnot : ¬(v.currentStatus ≠ .told ∧ n.dist < 60 ∧ n.ind = i) := fun h' => hi h'.2.2
      rw [if_neg hnot, if_neg (by simpa using hi)]
  · rw [if_neg h]
    refine ⟨rfl, ⟨.inl, fun h' => ?_⟩, ?_⟩
    · by_contra hnot
      exact h ⟨hnot, h'.resolve_left hnot⟩
    · rw [if_neg fun h' => h ⟨h'.1, h'.2.1⟩]
      exact List.count_nil

variable (android) in
theorem announcePast_count (now : Int) :
    (v.announcePast android now n).2.count (.makeTurn i) = 0 := by
  unfold announcePast
  split <;> simp

variable (android) in
theorem takeInstruction_spec (now : Int) (wrong : Bool) :
    (v.takeInstruction android now n wrong).1.prevRouteDirectionIndex =
        (if v.prevRouteDirectionIndex ≠ n.ind ∧ wrong = false then n.ind
          else v.prevRouteDirectionIndex) ∧
      ((v.takeInstruction android now n wrong).1.currentStatus = .told ↔
        v.currentStatus = .told ∧ ¬(v.prevRouteDirectionIndex ≠ n.ind ∧ wrong = false)) ∧
      (v.takeInstruction android now n wrong).2.count (.makeTurn i) = 0 := by
  unfold takeInstruction
  split
  · rename_i h
    exact ⟨rfl, iff_of_false (by simp) fun h' => h'.2 h, announcePast_count android now⟩
  · rename_i h
    exact ⟨rfl, ⟨fun htold => ⟨htold, h⟩, And.left⟩, rfl⟩

theorem updateVoiceRouterStatus_none (h : r.nextInfo = none) :
    v.updateVoiceRouterStatus android r = (v, []) := by
  unfold updateVoiceRouterStatus
  rw [h]

theorem next_none (h : r.nextInfo = none) : v.next android r = v :=
  congrArg Prod.fst (updateVoiceRouterStatus_none h)

variable (android) in
/-- What one call does, by the instruction it finds. -/
theorem next_spec (h : r.nextInfo = some n) :
    (v.next android r).prevRouteDirectionIndex =
        (if v.prevRouteDirectionIndex ≠ n.ind ∧ r.wrongMovementDirection = false then n.ind
          else v.prevRouteDirectionIndex) ∧
      ((v.next android r).currentStatus = .told ↔
        (v.currentStatus = .told ∨ n.dist < 60) ∧
          ¬(v.prevRouteDirectionIndex ≠ n.ind ∧ r.wrongMovementDirection = false)) ∧
      (v.updateVoiceRouterStatus android r).2.count (.makeTurn i) =
        if v.currentStatus ≠ .told ∧ n.dist < 60 ∧ n.ind = i then 1 else 0 := by
  unfold next updateVoiceRouterStatus
  rw [h]
  dsimp only
  obtain ⟨hprev, htold, hcount⟩ := announcePrepare_spec android (v := v) (n := n) (i := i) r.now
  obtain ⟨hprev', htold', hcount'⟩ := announceTurn_spec android
    (v := (v.announcePrepare android r.now n).1) (n := n) (i := i) r.now
  obtain ⟨hprev'', htold'', hcount''⟩ := takeInstruction_spec android
    (v := ((v.announcePrepare android r.now n).1.announceTurn android r.now n).1)
    (n := n) (i := i) r.now r.wrongMovementDirection
  rw [List.count_append, List.count_append, hcount, hcount', hcount'', hprev'', htold'', hprev',
    htold', hprev]
  simp only [ne_eq, htold]
  exact ⟨trivial, trivial, by omega⟩

end VoiceRouter

end Step

section Counting

namespace VoiceRouter

variable {android : Bool} {v : VoiceRouter} {r : Reading} {n : NextInfo} {i : Int}
  {rs : List Reading}

/-- How often a run plays an instruction. -/
def turns (android : Bool) (v : VoiceRouter) (rs : List Reading) (i : Int) : Nat :=
  (plays android v rs).count (.makeTurn i)

theorem plays_cons : plays android v (r :: rs) =
    (v.updateVoiceRouterStatus android r).2 ++ plays android (v.next android r) rs := rfl

@[simp] theorem turns_nil : turns android v [] i = 0 := rfl

theorem turns_none (h : r.nextInfo = none) :
    turns android v (r :: rs) i = turns android v rs i := by
  unfold turns
  rw [plays_cons, next_none h, updateVoiceRouterStatus_none h]
  rfl

theorem turns_cons (h : r.nextInfo = some n) :
    turns android v (r :: rs) i =
      (if v.currentStatus ≠ .told ∧ n.dist < 60 ∧ n.ind = i then 1 else 0) +
        turns android (v.next android r) rs i := by
  unfold turns
  rw [plays_cons, List.count_append, (next_spec android h).2.2]

/-- All that is still read is of `i` or of an instruction behind. -/
def AtOrPast (i : Int) (rs : List Reading) : Prop :=
  ∀ r ∈ rs, ∀ n, r.nextInfo = some n → i ≤ n.ind

def Past (i : Int) (rs : List Reading) : Prop :=
  ∀ r ∈ rs, ∀ n, r.nextInfo = some n → i < n.ind

theorem past_of_inOrder (h : (r :: rs).Pairwise Reading.InOrder) (hn : r.nextInfo = some n)
    (hi : i < n.ind) : Past i rs :=
  fun b hb m hm => Int.lt_of_lt_of_le hi ((List.pairwise_cons.mp h).1 b hb n m hn hm)

theorem atOrPast_of_inOrder (h : (r :: rs).Pairwise Reading.InOrder) (hn : r.nextInfo = some n)
    (hi : i ≤ n.ind) : AtOrPast i rs :=
  fun b hb m hm => Int.le_trans hi ((List.pairwise_cons.mp h).1 b hb n m hn hm)

theorem Past.not_near (h : Past i rs) : ¬∃ b ∈ rs, b.Near i := by
  rintro ⟨b, hb, n, hn, hi, -⟩
  exact absurd hi (Int.ne_of_gt (h b hb n hn))

theorem Past.turns_eq_zero (h : Past i rs) : turns android v rs i = 0 := by
  induction rs generalizing v with
  | nil => rfl
  | cons r rs ih =>
    have hrest : Past i rs := fun b hb => h b (List.mem_cons_of_mem _ hb)
    cases hn : r.nextInfo with
    | none => rw [turns_none hn, ih hrest]
    | some n =>
      have hlt := h r List.mem_cons_self n hn
      rw [turns_cons hn, ih hrest, if_neg fun h' => absurd h'.2.2 (Int.ne_of_gt hlt)]

theorem exists_near_cons : (∃ b ∈ r :: rs, b.Near i) ↔ r.Near i ∨ ∃ b ∈ rs, b.Near i := by
  simp

theorem near_iff (h : r.nextInfo = some n) : r.Near i ↔ n.ind = i ∧ n.dist < 60 := by
  unfold Reading.Near
  simp [h]

theorem not_near_of_none (h : r.nextInfo = none) : ¬r.Near i := by
  unfold Reading.Near
  simp [h]

theorem reading_right_iff (h : r.nextInfo = some n) :
    r.Right i ↔ n.ind = i ∧ r.wrongMovementDirection = false := by
  unfold Reading.Right Reading.IsAt
  simp [h]

theorem not_right_of_none (h : r.nextInfo = none) : ¬r.Right i := by
  unfold Reading.Right Reading.IsAt
  simp [h]

variable (android) in
/-- Of an instruction that has been taken on, the first near reading is told. -/
theorem turns_of_taken (hprev : v.prevRouteDirectionIndex = i)
    (hmono : rs.Pairwise Reading.InOrder) (hfrom : AtOrPast i rs) :
    turns android v rs i ≤ 1 ∧
      (0 < turns android v rs i ↔ v.currentStatus ≠ .told ∧ ∃ b ∈ rs, b.Near i) := by
  induction rs generalizing v with
  | nil => simp
  | cons r rs ih =>
    have hrest := (List.pairwise_cons.mp hmono).2
    have hfrom' : AtOrPast i rs := fun b hb => hfrom b (List.mem_cons_of_mem _ hb)
    rw [exists_near_cons]
    cases hn : r.nextInfo with
    | none =>
      rw [turns_none hn, or_iff_right (not_near_of_none hn)]
      exact ih hprev hrest hfrom'
    | some n =>
      obtain ⟨hnext, htold, -⟩ := next_spec android (v := v) (i := i) hn
      rcases Int.lt_or_eq_of_le (hfrom r List.mem_cons_self n hn) with hlt | rfl
      · have hpast := past_of_inOrder hmono hn hlt
        have hnear : ¬r.Near i := fun h => absurd ((near_iff hn).mp h).1 (Int.ne_of_gt hlt)
        rw [turns_cons hn, hpast.turns_eq_zero,
          if_neg fun h' => absurd h'.2.2 (Int.ne_of_gt hlt)]
        exact ⟨Nat.zero_le _, iff_of_false (Nat.lt_irrefl 0)
          fun h => h.2.elim hnear hpast.not_near⟩
      · -- the instruction is not taken on again
        have hsame : ¬(v.prevRouteDirectionIndex ≠ n.ind ∧ r.wrongMovementDirection = false) :=
          fun h => h.1 hprev
        rw [if_neg hsame] at hnext
        rw [and_iff_left hsame] at htold
        obtain ⟨hle, hpos⟩ := ih (hnext.trans hprev) hrest hfrom'
        rw [turns_cons hn, near_iff hn]
        rw [ne_eq, htold] at hpos
        by_cases hplay : v.currentStatus ≠ .told ∧ n.dist < 60
        · have hzero : ¬0 < turns android (v.next android r) rs n.ind :=
            fun h => (hpos.mp h).1 (.inr hplay.2)
          rw [if_pos ⟨hplay.1, hplay.2, rfl⟩]
          exact ⟨by omega, iff_of_true (by omega) ⟨hplay.1, .inl ⟨rfl, hplay.2⟩⟩⟩
        · rw [if_neg fun h => hplay ⟨h.1, h.2.1⟩, Nat.zero_add]
          refine ⟨hle, hpos.trans ⟨fun h => ⟨fun h' => h.1 (.inl h'), .inr h.2⟩, fun h => ?_⟩⟩
          have hfar : ¬n.dist < 60 := fun h' => hplay ⟨h.1, h'⟩
          exact ⟨fun h' => h'.elim h.1 hfar, h.2.resolve_left fun h' => hfar h'.2⟩

variable (android) in
/-- After a telling of an instruction that is not taken on, the next one needs
a right way first. -/
theorem turns_of_told (htold : v.currentStatus = .told) (hprev : v.prevRouteDirectionIndex ≠ i)
    (hmono : rs.Pairwise Reading.InOrder) (hfrom : AtOrPast i rs) :
    turns android v rs i ≤ 1 ∧ (0 < turns android v rs i ↔ RightThenNear i rs) := by
  induction rs generalizing v with
  | nil => exact ⟨Nat.zero_le _, iff_of_false (Nat.lt_irrefl 0) not_rightThenNear_nil⟩
  | cons r rs ih =>
    have hrest := (List.pairwise_cons.mp hmono).2
    have hfrom' : AtOrPast i rs := fun b hb => hfrom b (List.mem_cons_of_mem _ hb)
    rw [rightThenNear_cons]
    cases hn : r.nextInfo with
    | none =>
      rw [turns_none hn, or_iff_right fun h => not_right_of_none hn h.1]
      exact ih htold hprev hrest hfrom'
    | some n =>
      obtain ⟨hnext, htold', -⟩ := next_spec android (v := v) (i := i) hn
      have hhead : ¬(v.currentStatus ≠ .told ∧ n.dist < 60 ∧ n.ind = i) := fun h => h.1 htold
      rw [turns_cons hn, if_neg hhead, Nat.zero_add, reading_right_iff hn]
      rcases Int.lt_or_eq_of_le (hfrom r List.mem_cons_self n hn) with hlt | rfl
      · have hpast := past_of_inOrder hmono hn hlt
        rw [hpast.turns_eq_zero]
        refine ⟨Nat.zero_le _, iff_of_false (Nat.lt_irrefl 0) ?_⟩
        rintro (h | h)
        · exact absurd h.1.1 (Int.ne_of_gt hlt)
        · exact hpast.not_near h.exists_near
      · cases hwrong : r.wrongMovementDirection with
        | false =>
          rw [hwrong] at hnext htold'
          rw [if_pos ⟨hprev, rfl⟩] at hnext
          have hnot : (v.next android r).currentStatus ≠ .told :=
            fun h => (htold'.mp h).2 ⟨hprev, rfl⟩
          obtain ⟨hle, hpos⟩ := turns_of_taken android hnext hrest hfrom'
          refine ⟨hle, hpos.trans ⟨fun h => .inl ⟨⟨rfl, rfl⟩, h.2⟩, ?_⟩⟩
          rintro (h | h)
          · exact ⟨hnot, h.2⟩
          · exact ⟨hnot, h.exists_near⟩
        | true =>
          rw [hwrong] at hnext htold'
          rw [if_neg fun h => Bool.noConfusion h.2] at hnext
          have htold'' := htold'.mpr ⟨.inl htold, fun h => Bool.noConfusion h.2⟩
          rw [or_iff_right fun h => Bool.noConfusion h.1.2]
          exact ih htold'' (hnext ▸ hprev) hrest hfrom'

/-- An instruction is played twice where it is played before it is taken on and
once more after. -/
theorem two_le_turns_iff (hmono : rs.Pairwise Reading.InOrder) :
    2 ≤ turns android v rs i ↔ Reannounced android v rs i := by
  induction rs generalizing v with
  | nil => exact iff_of_false (by simp) not_reannounced_nil
  | cons r rs ih =>
    have hrest := (List.pairwise_cons.mp hmono).2
    have hih := ih (v := v.next android r) hrest
    rw [reannounced_cons]
    cases hn : r.nextInfo with
    | none =>
      rw [next_none hn] at hih ⊢
      rw [turns_none hn, or_iff_right fun h => not_near_of_none hn h.2.2.1]
      exact hih
    | some n =>
      obtain ⟨hnext, htold, -⟩ := next_spec android (v := v) (i := i) hn
      rw [turns_cons hn, near_iff hn, rightThenNear_cons, reading_right_iff hn]
      by_cases hplay : v.currentStatus ≠ .told ∧ n.dist < 60 ∧ n.ind = i
      · obtain ⟨hnot, hnear, rfl⟩ := hplay
        have hfrom := atOrPast_of_inOrder hmono hn (Int.le_refl n.ind)
        rw [if_pos ⟨hnot, hnear, rfl⟩]
        by_cases hprev : v.prevRouteDirectionIndex = n.ind
        · -- taken on before: told, it is not played again
          rw [if_neg fun h => h.1 hprev] at hnext
          have htold' := htold.mpr ⟨.inr hnear, fun h => h.1 hprev⟩
          obtain ⟨hle, hpos⟩ := turns_of_taken android (hnext.trans hprev) hrest hfrom
          have hzero : ¬0 < turns android (v.next android r) rs n.ind :=
            fun h => (hpos.mp h).1 htold'
          refine iff_of_false (by omega) ?_
          rintro (h | h)
          · exact h.2.1 hprev
          · have htwo := hih.mpr h
            omega
        · cases hwrong : r.wrongMovementDirection with
          | false =>
            rw [hwrong] at hnext htold
            rw [if_pos ⟨hprev, rfl⟩] at hnext
            have hnot' : (v.next android r).currentStatus ≠ .told :=
              fun h => (htold.mp h).2 ⟨hprev, rfl⟩
            obtain ⟨hle, hpos⟩ := turns_of_taken android hnext hrest hfrom
            constructor
            · intro htwo
              have hone := hpos.mp (by omega)
              exact .inl ⟨hnot, hprev, ⟨rfl, hnear⟩, .inl ⟨⟨rfl, rfl⟩, hone.2⟩⟩
            · rintro (h | h)
              · have hsome := h.2.2.2.elim And.right RightThenNear.exists_near
                have hone := hpos.mpr ⟨hnot', hsome⟩
                omega
              · have htwo := hih.mpr h
                omega
          | true =>
            rw [hwrong] at hnext htold
            rw [if_neg fun h => Bool.noConfusion h.2] at hnext
            have htold' := htold.mpr ⟨.inr hnear, fun h => Bool.noConfusion h.2⟩
            obtain ⟨hle, hpos⟩ := turns_of_told android htold' (hnext ▸ hprev) hrest
              hfrom
            constructor
            · intro htwo
              have hone := hpos.mp (by omega)
              exact .inl ⟨hnot, hprev, ⟨rfl, hnear⟩, .inr hone⟩
            · rintro (h | h)
              · have hagain := h.2.2.2.resolve_left fun h' => Bool.noConfusion h'.1.2
                have hone := hpos.mpr hagain
                omega
              · have htwo := hih.mpr h
                omega
      · rw [if_neg hplay, Nat.zero_add, hih]
        refine (or_iff_right fun h => hplay ⟨h.1, h.2.2.1.2, h.2.2.1.1⟩).symm

/-- After a reset, with instructions in order: each is played once at most
exactly when no instruction is near both before and after it is taken on. -/
theorem playMakeTurn_once_iff (android : Bool) (v : VoiceRouter) (rs : List Reading)
    (hmono : rs.Pairwise Reading.InOrder) :
    (∀ i, (plays android v.reset rs).count (.makeTurn i) ≤ 1) ↔
      ∀ i, ¬Reannounced android v.reset rs i := by
  refine forall_congr' fun i => ?_
  rw [← two_le_turns_iff hmono]
  unfold turns
  omega

/-- Two instructions, each taken on before the car is near it. -/
def twoTurns : List Reading :=
  [⟨some ⟨300, 1⟩, false, 0⟩, ⟨some ⟨50, 1⟩, false, 1000⟩, ⟨some ⟨40, 1⟩, false, 2000⟩,
    ⟨some ⟨400, 2⟩, false, 3000⟩, ⟨some ⟨55, 2⟩, false, 4000⟩]

theorem twoTurns_inOrder : twoTurns.Pairwise Reading.InOrder := by
  unfold twoTurns Reading.InOrder
  simp

/-- Both are played, and each once. -/
theorem playMakeTurn_once_two :
    plays false (reset ⟨.unknown, 0, 0⟩) twoTurns = [.makeTurn 1, .makeTurn 2] ∧
      ∀ i, ¬Reannounced false (reset ⟨.unknown, 0, 0⟩) twoTurns i := by
  have hplays : plays false (reset ⟨.unknown, 0, 0⟩) twoTurns = [.makeTurn 1, .makeTurn 2] := by
    decide +kernel
  refine ⟨hplays, ?_⟩
  apply (playMakeTurn_once_iff false ⟨.unknown, 0, 0⟩ twoTurns twoTurns_inOrder).mp
  rw [hplays]
  exact fun i => List.nodup_iff_count.mp (by decide) _

/-- Two readings, 50 and 40 metres from the first instruction. -/
def approach : List Reading := [⟨some ⟨50, 1⟩, false, 0⟩, ⟨some ⟨40, 1⟩, false, 1000⟩]

theorem approach_inOrder : approach.Pairwise Reading.InOrder := by
  unfold approach Reading.InOrder
  simp

theorem playMakeTurn_twice :
    ¬∀ (v : VoiceRouter) (rs : List Reading), rs.Pairwise Reading.InOrder →
      ∀ i, (plays false v.reset rs).count (.makeTurn i) ≤ 1 := by
  intro h
  have htwice : (plays false (reset ⟨.unknown, 0, 0⟩) approach).count (.makeTurn 1) = 2 := by
    decide +kernel
  have honce := h ⟨.unknown, 0, 0⟩ approach approach_inOrder 1
  omega

end VoiceRouter

end Counting

section Drive

open RouteManager

variable {F : Type} {E : Measures F} {ok : Outcomes F} {outside : Int → PPointLL F}
  {leg : PLegO F}

/-- Readings taken along a drive, one after each location, find the instructions
in order. -/
theorem inOrder_of_drive (hpoints : leg.geo_points ≠ []) (hsteps : leg.steps ≠ [])
    {us : List (Fix F)} {ps : List (Visit (Session Progress) (Fix F) × Reading)}
    (hdrive : ps.map Prod.fst = visits (update E ok outside leg) ⟨Progress.start, 0⟩ us)
    (hfind : ∀ p ∈ ps, ∀ n, p.2.nextInfo = some n →
      p.1.after.state.nextInd leg = some n.ind) :
    (ps.map Prod.snd).Pairwise Reading.InOrder := by
  have hadv : ∀ (s : Session Progress) (u : Fix F), s.state.OnLeg leg →
      s.state.Advances leg (update E ok outside leg s u).state ∧
        (update E ok outside leg s u).state.OnLeg leg := fun s u hs =>
    have h := updateCurrentRouteStatus_advances E ok outside u.mloc u.lastFixedLocation hs
    ⟨h, h.onLeg⟩
  have hpair := (visits_pairwise (R := fun s t : Session Progress => s.state.Advances leg t.state)
    (fun s => s.state.OnLeg leg) Progress.Advances.trans hadv (s := ⟨Progress.start, 0⟩)
    (Progress.start_onLeg hpoints hsteps) us).2
  rw [← hdrive, List.pairwise_map] at hpair
  rw [List.pairwise_map]
  refine hpair.imp_of_mem fun {p q} hp hq hahead m n hm hn => ?_
  exact Progress.nextInd_le hahead (hfind p hp m hm) (hfind q hq n hn)

end Drive

end UCLinux.Navigation
