import UCLinux.Machine.Action
import UCLinux.Machine.Run
import UCLinux.Navigation.RouteObj

/-!
How far along the route the car is. Each new location is held against the points
ahead of `currentRoute`; as long as it is past one of them the route is taken up
behind that point, and the current instruction follows. What distances and
bearings come to is left open, and so is how each comparison of them turns out.
-/

namespace UCLinux.Navigation

open Machine Sql

section Program

/-- The numbers of the measurements. `fltMax` is `FLT_MAX`, `lit` a literal of
the source. -/
structure Measures (F : Type) where
  getOrthogonalDistance : PPointLL F → PPointLL F → PPointLL F → F
  distance : PPointLL F → PPointLL F → F
  heading : PPointLL F → PPointLL F → F
  degreesDiff : F → F → F
  abs : F → F
  fltMax : F
  lit : Nat → F

inductive Comparison where
  | less
  | atLeast
  | unequal
  deriving DecidableEq, Repr

/-- How the comparisons turn out, counted from the start of the route. -/
abbrev Outcomes (F : Type) := Nat → Comparison → F → F → Bool

/-- `flags`: bit 1 says that the location has a bearing, `cog`. -/
structure MyLocation (F : Type) where
  flags : BitVec 32
  lat : F
  lon : F
  cog : F

variable {F : Type}

def MyLocation.hasBearing (m : MyLocation F) : Bool := m.flags &&& 2 = 2

def MyLocation.pos (m : MyLocation F) : PPointLL F := ⟨m.lon, m.lat⟩

/-- The indices of a `RoutingResult`, and those `getRoutePointAt` was called
with, the last one first. -/
structure Progress where
  currentRoute : Int
  currentDirectionInfo : Int
  points : List Int
  deriving DecidableEq, Repr

/-- A route that has just been set. -/
def Progress.start : Progress := ⟨0, 0, []⟩

namespace RouteManager

def POSITION_TOLERANCE : Nat := 60

-- `outside` is what memory holds behind the points
variable (E : Measures F) (ok : Outcomes F) (outside : Int → PPointLL F) (leg : PLegO F)

def compare (c : Comparison) (a b : F) : Action Progress Bool :=
  Action.ask fun k => ok k c a b

def getRoutePointAt (ind : Int) : Action Progress (PPointLL F) := do
  Action.put fun p => { p with points := ind :: p.points }
  pure (leg.geo_points[ind.toNat]?.getD (outside ind))

/-- The loop of `lookAheadFindMinOrthogonalDistance`. -/
def lookAhead (loc : PPointLL F) : Nat → Int → Int → F → Action Progress Int
  | 0, _, index, _ => pure index
  | iterations + 1, currentRoute, index, dist =>
    if currentRoute + 1 < leg.geo_points.length then do
      let p1 ← getRoutePointAt outside leg currentRoute
      let p2 ← getRoutePointAt outside leg (currentRoute + 1)
      let newDist := E.getOrthogonalDistance loc p1 p2
      let nearer ← compare ok .less newDist dist
      if nearer then lookAhead loc iterations (currentRoute + 1) currentRoute newDist
      else lookAhead loc iterations (currentRoute + 1) index dist
    else pure index

def lookAheadFindMinOrthogonalDistance (loc : PPointLL F) (currentRoute : Int)
    (iterations : Nat) : Action Progress Int :=
  lookAhead E ok outside leg loc iterations currentRoute currentRoute E.fltMax

/-- `while` there is a step ahead that starts before `currentRoute`. -/
def passSteps (steps : List (PStepO F)) (currentRoute currentDirectionInfo : Int) : Int :=
  if currentDirectionInfo < (steps.length : Int) - 1 ∧
      (steps[(currentDirectionInfo + 1).toNat]?).any fun step =>
        step.point_start_index < currentRoute
  then passSteps steps currentRoute (currentDirectionInfo + 1)
  else currentDirectionInfo
termination_by ((steps.length : Int) - 1 - currentDirectionInfo).toNat

def updateCurrentRoute (currentRoute : Int) : Action Progress Unit :=
  Action.put fun p => { p with
    currentRoute := currentRoute
    currentDirectionInfo := passSteps leg.steps currentRoute p.currentDirectionInfo }

variable (mloc lastFixedLocation : MyLocation F)

/-- The location is close to the point `p2` but may not have turned there: the
motion is held against the way to it and against the segment behind. -/
def turned (p2 : PPointLL F) (newCurrentRoute : Int) : Action Progress Bool := do
  let bearingToRoute := E.heading mloc.pos p2
  let known ← compare ok .unequal bearingToRoute (E.lit 0)
  if known then do
    let p1 ← getRoutePointAt outside leg newCurrentRoute
    let p2 ← getRoutePointAt outside leg (newCurrentRoute + 1)
    let bearingRouteNext := E.heading p1 p2
    let bearingMotion := if mloc.hasBearing then mloc.cog
      else E.heading lastFixedLocation.pos mloc.pos
    let diff := E.abs (E.degreesDiff bearingMotion bearingToRoute)
    let diffToNext := E.abs (E.degreesDiff bearingMotion bearingRouteNext)
    compare ok .less diffToNext diff
  else pure false

/-- Not farther from the segment ahead than from the one behind, is the point
passed? -/
def passed (p2 : PPointLL F) (newCurrentRoute : Int) (dist : F) : Action Progress Bool := do
  let far ← compare ok .less (E.lit POSITION_TOLERANCE) dist
  if far then pure true
  else if mloc.hasBearing || lastFixedLocation.hasBearing then
    turned E ok outside leg mloc lastFixedLocation p2 newCurrentRoute
  else pure false

/-- `newDist < dist || newDist < 10` -/
def nearerOr (nearer : Bool) (newDist : F) : Action Progress Bool :=
  if nearer then pure true else compare ok .less newDist (E.lit 10)

def processed (p2 : PPointLL F) (newCurrentRoute : Int) (longDistance : Bool) (dist newDist : F) :
    Action Progress Bool := do
  let nearer ← compare ok .less newDist dist
  if longDistance then pure nearer
  else do
    let close ← nearerOr E ok nearer newDist
    if close then passed E ok outside leg mloc lastFixedLocation p2 newCurrentRoute dist
    else pure false

/-- How far the location is from the segment to `p2`, or from `p2` itself when it
is the first point. -/
def distanceTo (p2 : PPointLL F) (currentRoute : Int) : Action Progress F :=
  if 0 < currentRoute then do
    let p1 ← getRoutePointAt outside leg (currentRoute - 1)
    pure (E.getOrthogonalDistance mloc.pos p1 p2)
  else pure (E.distance mloc.pos p2)

/-- One pass of the loop of `updateCurrentRouteStatus`: the point found ahead,
if it has been passed. -/
def proceed (currentRoute : Int) : Action Progress (Option Int) := do
  let p2 ← getRoutePointAt outside leg currentRoute
  let dist ← distanceTo E outside leg mloc p2 currentRoute
  let longDistance ← compare ok .atLeast dist (E.lit 250)
  let newCurrentRoute ← lookAheadFindMinOrthogonalDistance E ok outside leg mloc.pos currentRoute
    (if longDistance then 15 else 8)
  let p1 ← getRoutePointAt outside leg (newCurrentRoute + 1)
  let newDist := E.getOrthogonalDistance mloc.pos p2 p1
  let processed ← processed E ok outside leg mloc lastFixedLocation p2 newCurrentRoute
    longDistance dist newDist
  pure (if processed then some newCurrentRoute else none)

end RouteManager

end Program

namespace RouteManager

variable {F : Type} {E : Measures F} {ok : Outcomes F} {outside : Int → PPointLL F}
  {leg : PLegO F} {I : Progress → Prop}

section Reads

/-- What the reads of a pass keep, and a comparison moves nothing. -/
theorem compare_keeps (c : Comparison) (a b : F) :
    (compare ok c a b).Keeps I (fun _ => True) :=
  fun _ hI => ⟨trivial, hI⟩

theorem getRoutePointAt_keeps {ind : Int} (hI : ∀ p, I p → I { p with points := ind :: p.points }) :
    (getRoutePointAt outside leg ind).Keeps I (fun _ => True) :=
  fun _ hs => ⟨trivial, hI _ hs⟩

/-- The point found ahead is the one the search starts from or lies behind it,
and another point follows. -/
theorem lookAhead_keeps {loc : PPointLL F} {c index : Int} (n : Nat) {dist : F}
    (hread : ∀ i : Int, c ≤ i → i < leg.geo_points.length →
      (getRoutePointAt outside leg i).Keeps I (fun _ => True))
    {c' : Int} (hc : c ≤ c') (hindex : c ≤ index) (hnext : index + 1 < leg.geo_points.length) :
    (lookAhead E ok outside leg loc n c' index dist).Keeps I
      (fun r => c ≤ r ∧ r + 1 < leg.geo_points.length) := by
  induction n generalizing c' index dist with
  | zero => exact Action.Keeps.pure ⟨hindex, hnext⟩
  | succ n ih =>
    refine Action.Keeps.ite (fun hinside => ?_) fun _ => Action.Keeps.pure ⟨hindex, hnext⟩
    refine Action.Keeps.bind (hread c' hc (by omega)) fun p1 _ => ?_
    refine Action.Keeps.bind (hread (c' + 1) (by omega) hinside) fun p2 _ => ?_
    refine Action.Keeps.bind (compare_keeps _ _ _) fun nearer _ => ?_
    exact Action.Keeps.ite (fun _ => ih (by omega) hc hinside)
      fun _ => ih (by omega) hindex hnext

variable {mloc lastFixedLocation : MyLocation F}

theorem turned_keeps {p2 : PPointLL F} {r : Int}
    (hfirst : (getRoutePointAt outside leg r).Keeps I (fun _ => True))
    (hsecond : (getRoutePointAt outside leg (r + 1)).Keeps I (fun _ => True)) :
    (turned E ok outside leg mloc lastFixedLocation p2 r).Keeps I (fun _ => True) := by
  refine Action.Keeps.bind (compare_keeps _ _ _) fun known _ => ?_
  refine Action.Keeps.ite (fun _ => ?_) fun _ => Action.Keeps.pure trivial
  refine Action.Keeps.bind hfirst fun p1 _ => ?_
  exact Action.Keeps.bind hsecond fun p2 _ => compare_keeps _ _ _

theorem processed_keeps {p2 : PPointLL F} {r : Int} {longDistance : Bool} {dist newDist : F}
    (hfirst : (getRoutePointAt outside leg r).Keeps I (fun _ => True))
    (hsecond : (getRoutePointAt outside leg (r + 1)).Keeps I (fun _ => True)) :
    (processed E ok outside leg mloc lastFixedLocation p2 r longDistance dist newDist).Keeps I
      (fun _ => True) := by
  refine Action.Keeps.bind (compare_keeps _ _ _) fun nearer _ => ?_
  refine Action.Keeps.ite (fun _ => Action.Keeps.pure trivial) fun _ => ?_
  have hclose : (nearerOr E ok nearer newDist).Keeps I (fun _ => True) :=
    Action.Keeps.ite (fun _ => Action.Keeps.pure trivial) fun _ => compare_keeps _ _ _
  refine Action.Keeps.bind hclose fun close _ => ?_
  refine Action.Keeps.ite (fun _ => ?_) fun _ => Action.Keeps.pure trivial
  refine Action.Keeps.bind (compare_keeps _ _ _) fun far _ => ?_
  refine Action.Keeps.ite (fun _ => Action.Keeps.pure trivial) fun _ => ?_
  exact Action.Keeps.ite (fun _ => turned_keeps hfirst hsecond) fun _ => Action.Keeps.pure trivial

variable (E ok outside mloc lastFixedLocation) in
/-- A pass reads points of the route only, and a point it takes the route up at
is followed by another. -/
theorem proceed_keeps {c : Int} (hc : c + 1 < leg.geo_points.length)
    (hread : ∀ i : Int, (0 ≤ c → 0 ≤ i) → i < leg.geo_points.length →
      (getRoutePointAt outside leg i).Keeps I (fun _ => True)) :
    (proceed E ok outside leg mloc lastFixedLocation c).Keeps I
      (fun r => ∀ c', r = some c' → c ≤ c' ∧ c' + 1 < leg.geo_points.length) := by
  refine Action.Keeps.bind (hread c (fun h => h) (by omega)) fun p2 _ => ?_
  have hdist : (distanceTo E outside leg mloc p2 c).Keeps I (fun _ => True) := by
    refine Action.Keeps.ite (fun hpos => ?_) fun _ => Action.Keeps.pure trivial
    exact Action.Keeps.bind (hread (c - 1) (by omega) (by omega)) fun _ _ =>
      Action.Keeps.pure trivial
  refine Action.Keeps.bind hdist fun dist _ => ?_
  refine Action.Keeps.bind (compare_keeps _ _ _) fun longDistance _ => ?_
  refine Action.Keeps.bind (lookAhead_keeps (c := c) _
    (fun i hi hin => hread i (by omega) hin) (Int.le_refl c) (Int.le_refl c) hc) fun r hr => ?_
  have hfirst := hread r (by omega) (by omega)
  have hsecond := hread (r + 1) (by omega) hr.2
  refine Action.Keeps.bind hsecond fun p1 _ => ?_
  refine Action.Keeps.bind (processed_keeps hfirst hsecond) fun passed _ => ?_
  refine Action.Keeps.pure fun c' hc' => ?_
  cases passed with
  | false => cases hc'
  | true =>
    cases hc'
    exact hr

end Reads

end RouteManager

section Program

variable {F : Type}

namespace RouteManager

variable (E : Measures F) (ok : Outcomes F) (outside : Int → PPointLL F) (leg : PLegO F)
  (mloc lastFixedLocation : MyLocation F)

/-- A pass that takes the route up takes it up farther along. -/
theorem le_of_proceed {c c' : Int} {s s' : Session Progress}
    (hc : c + 1 < leg.geo_points.length)
    (h : proceed E ok outside leg mloc lastFixedLocation c s = (some c', s')) : c ≤ c' := by
  have hkeeps := proceed_keeps E ok outside mloc lastFixedLocation (I := fun _ => True) hc
    (fun _ _ _ => getRoutePointAt_keeps fun _ _ => trivial)
  exact ((hkeeps s trivial).1 c' (by rw [h])).1

/-- The loop of `updateCurrentRouteStatus`. -/
def followFrom (currentRoute : Int) (s : Session Progress) : Int × Session Progress :=
  if currentRoute + 1 < leg.geo_points.length then
    match h : proceed E ok outside leg mloc lastFixedLocation currentRoute s with
    | (some newCurrentRoute, s') =>
      followFrom (newCurrentRoute + 1) (updateCurrentRoute leg (newCurrentRoute + 1) s').2
    | (none, s') => (currentRoute, s')
  else (currentRoute, s)
termination_by (leg.geo_points.length - currentRoute).toNat
decreasing_by
  have hle := le_of_proceed E ok outside leg mloc lastFixedLocation ‹_› h
  omega

def followRoute (currentRoute : Int) : Action Progress Int :=
  fun s => followFrom E ok outside leg mloc lastFixedLocation currentRoute s

/-- `true` when the destination is reached. -/
def updateCurrentRouteStatus : Action Progress Bool := do
  let start ← Action.look Progress.currentRoute
  let currentRoute ← followRoute E ok outside leg mloc lastFixedLocation start
  if (leg.geo_points.length : Int) - 3 < currentRoute then
    let lastPoint := leg.geo_points[((leg.geo_points.length : Int) - 1).toNat]?.getD
      (outside (leg.geo_points.length - 1))
    compare ok .less (E.distance mloc.pos lastPoint) (E.lit POSITION_TOLERANCE)
  else pure false

end RouteManager

/-- The next instruction, as `getNextRouteDirectionInfo` numbers it. -/
def Progress.nextInd (leg : PLegO F) (p : Progress) : Option Int :=
  if p.currentDirectionInfo + 1 < leg.steps.length then some (p.currentDirectionInfo + 1) else none

end Program

section Invariant

variable {F : Type} {leg : PLegO F}

/-- The indices are those of a point and of a step of the leg, and only points
of the leg were asked for. -/
structure Progress.OnLeg (leg : PLegO F) (p : Progress) : Prop where
  route_nonneg : 0 ≤ p.currentRoute
  route_lt : p.currentRoute < leg.geo_points.length
  info_nonneg : 0 ≤ p.currentDirectionInfo
  info_lt : p.currentDirectionInfo < leg.steps.length
  points : ∀ i ∈ p.points, 0 ≤ i ∧ i < leg.geo_points.length

/-- The step behind the current one, if any, does not start before
`currentRoute`. -/
def Progress.StepAhead (leg : PLegO F) (p : Progress) : Prop :=
  ∀ step, leg.steps[(p.currentDirectionInfo + 1).toNat]? = some step →
    p.currentRoute ≤ step.point_start_index

/-- What may happen between two moments of a drive: whoever has moved along the
route has the steps passed behind him, and nobody else has passed one. -/
structure Progress.Advances (leg : PLegO F) (p q : Progress) : Prop where
  onLeg : q.OnLeg leg
  route_le : p.currentRoute ≤ q.currentRoute
  info_le : p.currentDirectionInfo ≤ q.currentDirectionInfo
  ahead : p.currentRoute < q.currentRoute → q.StepAhead leg
  still : p.currentRoute = q.currentRoute → p.currentDirectionInfo = q.currentDirectionInfo

theorem Progress.start_onLeg (hpoints : leg.geo_points ≠ []) (hsteps : leg.steps ≠ []) :
    Progress.start.OnLeg leg := by
  have hpos := List.length_pos_iff.mpr hpoints
  have hpos' := List.length_pos_iff.mpr hsteps
  refine ⟨Int.le_refl 0, ?_, Int.le_refl 0, ?_, fun i hi => absurd hi List.not_mem_nil⟩
  · exact Int.natCast_pos.mpr hpos
  · exact Int.natCast_pos.mpr hpos'

theorem Progress.Advances.trans {p q r : Progress} (h : p.Advances leg q)
    (h' : q.Advances leg r) : p.Advances leg r where
  onLeg := h'.onLeg
  route_le := Int.le_trans h.route_le h'.route_le
  info_le := Int.le_trans h.info_le h'.info_le
  ahead hlt := by
    rcases Int.lt_or_eq_of_le h'.route_le with hmoved | heq
    · exact h'.ahead hmoved
    · have hahead := h.ahead (by omega)
      unfold StepAhead at hahead ⊢
      rwa [← h'.still heq, ← heq]
  still heq := by
    have hle := h.route_le
    have hle' := h'.route_le
    exact (h.still (by omega)).trans (h'.still (by omega))

/-- Reading a point of the leg does not move along it. -/
theorem Progress.Advances.of_read {p q : Progress} (hq : q.OnLeg leg)
    (hroute : q.currentRoute = p.currentRoute)
    (hinfo : q.currentDirectionInfo = p.currentDirectionInfo) : p.Advances leg q where
  onLeg := hq
  route_le := Int.le_of_eq hroute.symm
  info_le := Int.le_of_eq hinfo.symm
  ahead hlt := by omega
  still _ := hinfo.symm

namespace RouteManager

variable {E : Measures F} {ok : Outcomes F} {outside : Int → PPointLL F}
  {mloc lastFixedLocation : MyLocation F}

/-- Passing steps stops at a step of the leg that none behind starts before. -/
theorem passSteps_spec (steps : List (PStepO F)) (c d : Int) (hd : d < steps.length) :
    d ≤ passSteps steps c d ∧ passSteps steps c d < steps.length ∧
      ∀ step, steps[(passSteps steps c d + 1).toNat]? = some step →
        c ≤ step.point_start_index := by
  induction d using passSteps.induct steps c with
  | case1 d h ih =>
    obtain ⟨hle, hlt, hahead⟩ := ih (by omega)
    rw [passSteps, if_pos h]
    exact ⟨by omega, hlt, hahead⟩
  | case2 d h =>
    rw [passSteps, if_neg h]
    refine ⟨Int.le_refl d, hd, fun step hstep => ?_⟩
    by_contra hbefore
    refine h ⟨?_, ?_⟩
    · have hin := (List.getElem?_eq_some_iff.mp hstep).1
      omega
    · rw [hstep]
      exact decide_eq_true (Int.not_le.mp hbefore)

/-- Taking the route up farther along. -/
theorem updateCurrentRoute_advances {c : Int} {s : Session Progress} (hs : s.state.OnLeg leg)
    (hle : s.state.currentRoute < c) (hlt : c < leg.geo_points.length) :
    s.state.Advances leg (updateCurrentRoute leg c s).2.state := by
  obtain ⟨hinfo, hin, hahead⟩ := passSteps_spec leg.steps c _ hs.info_lt
  have hnonneg := hs.route_nonneg
  have hinfo_nonneg := hs.info_nonneg
  refine ⟨⟨?_, hlt, ?_, hin, hs.points⟩, ?_, hinfo, fun _ => hahead, fun heq => ?_⟩
  · exact Int.le_of_lt (Int.lt_of_le_of_lt hnonneg hle)
  · exact Int.le_trans hinfo_nonneg hinfo
  · exact Int.le_of_lt hle
  · exact absurd heq (Int.ne_of_lt hle)

variable (E ok outside mloc lastFixedLocation) in
/-- A pass of the loop moves nothing but the record of the reads. -/
theorem proceed_advances {s : Session Progress} (hs : s.state.OnLeg leg)
    (hinside : s.state.currentRoute + 1 < leg.geo_points.length) :
    s.state.Advances leg
      (proceed E ok outside leg mloc lastFixedLocation s.state.currentRoute s).2.state ∧
    (proceed E ok outside leg mloc lastFixedLocation s.state.currentRoute s).2.state.currentRoute =
      s.state.currentRoute ∧
    ∀ c', (proceed E ok outside leg mloc lastFixedLocation s.state.currentRoute s).1 = some c' →
      s.state.currentRoute ≤ c' ∧ c' + 1 < leg.geo_points.length := by
  have hkeeps := proceed_keeps E ok outside mloc lastFixedLocation
    (I := fun q => q.OnLeg leg ∧ q.currentRoute = s.state.currentRoute ∧
      q.currentDirectionInfo = s.state.currentDirectionInfo) hinside fun i hnonneg hlt =>
    getRoutePointAt_keeps fun q hq => ⟨⟨hq.1.route_nonneg, hq.1.route_lt, hq.1.info_nonneg,
      hq.1.info_lt, List.forall_mem_cons.mpr ⟨⟨hnonneg hs.route_nonneg, hlt⟩, hq.1.points⟩⟩, hq.2⟩
  obtain ⟨hnext, hon, hroute, hinfo⟩ := hkeeps s ⟨hs, rfl, rfl⟩
  exact ⟨Progress.Advances.of_read hon hroute hinfo, hroute, hnext⟩

variable (E ok outside mloc lastFixedLocation) in
/-- The loop ends where the route has been taken up last. -/
theorem followFrom_advances {c : Int} {s : Session Progress} (hs : s.state.OnLeg leg)
    (hc : s.state.currentRoute = c) :
    s.state.Advances leg (followFrom E ok outside leg mloc lastFixedLocation c s).2.state ∧
      (followFrom E ok outside leg mloc lastFixedLocation c s).2.state.currentRoute =
        (followFrom E ok outside leg mloc lastFixedLocation c s).1 := by
  induction c, s using followFrom.induct E ok outside leg mloc lastFixedLocation with
  | case1 c s hinside c' s' hpass ih =>
    subst hc
    obtain ⟨hadv, hroute, hnext⟩ := proceed_advances E ok outside mloc lastFixedLocation hs
      hinside
    simp only [hpass] at hadv hroute hnext
    obtain ⟨hle, hlt⟩ := hnext c' rfl
    have hup : s'.state.currentRoute < c' + 1 := by omega
    have hmove := updateCurrentRoute_advances hadv.onLeg hup hlt
    obtain ⟨hrest, hlast⟩ := ih hmove.onLeg rfl
    rw [followFrom, if_pos hinside, hpass]
    exact ⟨hadv.trans (hmove.trans hrest), hlast⟩
  | case2 c s hinside s' hpass =>
    subst hc
    obtain ⟨hadv, hroute, -⟩ := proceed_advances E ok outside mloc lastFixedLocation hs
      hinside
    simp only [hpass] at hadv hroute
    rw [followFrom, if_pos hinside, hpass]
    exact ⟨hadv, hroute⟩
  | case3 c s houtside =>
    rw [followFrom, if_neg houtside]
    exact ⟨Progress.Advances.of_read hs rfl rfl, hc⟩

variable (E ok outside mloc lastFixedLocation) in
/-- One update, whatever the measurements come to. -/
theorem updateCurrentRouteStatus_advances {s : Session Progress} (hs : s.state.OnLeg leg) :
    s.state.Advances leg
      (updateCurrentRouteStatus E ok outside leg mloc lastFixedLocation s).2.state := by
  obtain ⟨hadv, -⟩ := followFrom_advances E ok outside mloc lastFixedLocation hs rfl
  unfold updateCurrentRouteStatus
  rw [Action.bind_apply, Action.look_apply, Action.bind_apply, Action.ite_apply]
  split <;> exact hadv

end RouteManager

/-- Instructions come in order. -/
theorem Progress.nextInd_le {p q : Progress} (h : p.Advances leg q) {i j : Int}
    (hp : p.nextInd leg = some i) (hq : q.nextInd leg = some j) : i ≤ j := by
  have hle := h.info_le
  unfold nextInd at hp hq
  split at hp
  · split at hq
    · cases hp
      cases hq
      omega
    · cases hq
  · cases hp

end Invariant

section Runs

/-- A location the car reports, and the one fixed before. -/
structure Fix (F : Type) where
  mloc : MyLocation F
  lastFixedLocation : MyLocation F

namespace RouteManager

variable {F : Type} (E : Measures F) (ok : Outcomes F) (outside : Int → PPointLL F)
  (leg : PLegO F)

def update (s : Session Progress) (u : Fix F) : Session Progress :=
  (updateCurrentRouteStatus E ok outside leg u.mloc u.lastFixedLocation s).2

/-- On a leg with a point and a step, whatever is reported and however the
comparisons turn out. An update returns: its loop is a total function. -/
theorem update_bounds (hpoints : leg.geo_points ≠ []) (hsteps : leg.steps ≠ [])
    (us : List (Fix F)) :
    ∀ v ∈ visits (update E ok outside leg) ⟨Progress.start, 0⟩ us,
      (∀ i ∈ v.after.state.points, 0 ≤ i ∧ i ≤ (leg.geo_points.length : Int) - 1) ∧
      v.before.state.currentRoute ≤ v.after.state.currentRoute ∧
      v.after.state.currentRoute ≤ (leg.geo_points.length : Int) - 1 ∧
      v.before.state.currentDirectionInfo ≤ v.after.state.currentDirectionInfo ∧
      v.after.state.currentDirectionInfo < leg.steps.length ∧
      (v.before.state.currentRoute < v.after.state.currentRoute →
        ∀ step, leg.steps[(v.after.state.currentDirectionInfo + 1).toNat]? = some step →
          v.after.state.currentRoute ≤ step.point_start_index) := by
  intro v hv
  have hmeets : Meets (update E ok outside leg) (fun _ _ => True) ⟨Progress.start, 0⟩ us :=
    fun _ _ => trivial
  have hinv := visits_invariant (fun s => s.state.OnLeg leg)
    (fun _ u hs _ => (updateCurrentRouteStatus_advances E ok outside u.mloc u.lastFixedLocation
      hs).onLeg) (Progress.start_onLeg hpoints hsteps) hmeets hv
  have hadv : v.before.state.Advances leg v.after.state := by
    rw [after_eq_step hv]
    exact updateCurrentRouteStatus_advances E ok outside _ _ hinv.1
  have hlt := hadv.onLeg.route_lt
  refine ⟨fun i hi => ?_, hadv.route_le, by omega, hadv.info_le, hadv.onLeg.info_lt, hadv.ahead⟩
  have hread := hadv.onLeg.points i hi
  omega

/-- On a straight line. -/
def straight : Measures Int where
  getOrthogonalDistance p a b := max (a.lon - p.lon) (max (p.lon - b.lon) 0)
  distance p q := (p.lon - q.lon).natAbs
  heading p q := q.lon - p.lon
  degreesDiff a b := a - b
  abs a := a.natAbs
  fltMax := 2 ^ 31
  lit := Int.ofNat

def exactly : Outcomes Int := fun _ c a b =>
  match c with
  | .less => a < b
  | .atLeast => b ≤ a
  | .unequal => a ≠ b

/-- Two steps of 500 metres. -/
def twoSteps : PLegO Int :=
  ⟨[⟨0, 0⟩, ⟨500, 0⟩, ⟨1000, 0⟩],
    [⟨0, 1, ⟨.goStraight, [], [], 0, []⟩, [], 500, [], 30⟩,
      ⟨1, 2, ⟨.goStraight, [], [], 0, []⟩, [], 500, [], 30⟩], [], 1000, 60⟩

/-- One location in each step. -/
def alongSteps : List (Fix Int) :=
  [⟨⟨0, 0, 490, 0⟩, ⟨0, 0, 0, 0⟩⟩, ⟨⟨0, 0, 700, 0⟩, ⟨0, 0, 490, 0⟩⟩]

theorem update_bounds_straight :
    (visits (update straight exactly (fun _ => ⟨0, 0⟩) twoSteps)
      ⟨Progress.start, 0⟩ alongSteps).Forall fun v =>
      (∀ i ∈ v.after.state.points, 0 ≤ i ∧ i ≤ (twoSteps.geo_points.length : Int) - 1) ∧
      v.before.state.currentRoute ≤ v.after.state.currentRoute ∧
      v.after.state.currentRoute ≤ (twoSteps.geo_points.length : Int) - 1 ∧
      v.before.state.currentDirectionInfo ≤ v.after.state.currentDirectionInfo ∧
      v.after.state.currentDirectionInfo < (twoSteps.steps.length : Int) ∧
      (v.before.state.currentRoute < v.after.state.currentRoute →
        ∀ step, twoSteps.steps[(v.after.state.currentDirectionInfo + 1).toNat]? = some step →
          v.after.state.currentRoute ≤ step.point_start_index) := by
  apply List.forall_iff_forall_mem.mpr
  exact update_bounds _ _ _ _ (List.cons_ne_nil _ _) (List.cons_ne_nil _ _) _

example : (visits (update straight exactly (fun _ => ⟨0, 0⟩) twoSteps)
    ⟨Progress.start, 0⟩ alongSteps).map (fun v => v.after.state.currentRoute) = [1, 2] := by
  decide +kernel

end RouteManager

end Runs

end UCLinux.Navigation
