import Mathlib.Algebra.Order.Ring.Rat
import UCLinux.Navigation.Legs
import UCLinux.Navigation.RouteManager

/-!
The threads of a guidance. One reports locations; each location that is found off the
route starts another one, which computes a route anew. A mutex lets one thread at a
time work on the route, but whether there is a route is looked up outside of it.
-/

namespace UCLinux.Navigation

open Machine Sql

section Program

/-- How far the recalculation is that has the mutex: it has stopped the guidance, or a
route has been computed. -/
inductive Recalculation where
  | stopped
  | routed (rr : CreatedRoute)
  deriving DecidableEq, Repr

inductive Fault where
  | nullRoute
  | doubleDelete
  deriving DecidableEq, Repr

/-- `locating` counts the calls of `updateLocation` that have found a route and wait
for the mutex, `waiting` the recalculations that wait for it. -/
structure Guidance where
  manager : RouteManager
  locating : Nat
  waiting : Nat
  holder : Option Recalculation
  fault : Option Fault

/-- The events of `updateLocation` before and inside the mutex, then those of a
recalculation, up to its call of `stopTBT`, `createRoute` and `startRoute`. -/
inductive GuidanceEvent where
  | updateLocation
  | processStateMachine (mloc : MyLocation Rat) (now : Int)
  | stopTBT
  | createRoute (trip : Trip)
  | startRoute

-- `outside` is what memory holds behind the points
variable (E : Measures Rat) (ok : Outcomes Rat) (outside : Int → PPointLL Rat) (android : Bool)

namespace Guidance

def onManager {α : Type} (x : Action RouteManager α) : Action Guidance α :=
  Action.zoom manager (fun g m => { g with manager := m }) x

def updateLocation : Action Guidance Unit :=
  Action.put fun g =>
    if g.manager.sm_nav_state = .none then g
    else if g.manager.r_route.isSome then { g with locating := g.locating + 1 } else g

def processStateMachine (mloc : MyLocation Rat) (now : Int) : Action Guidance Unit := do
  let started ← onManager (RouteManager.processStateMachine E ok outside android mloc now)
  Action.put fun g => match started with
    | none => { g with fault := some .nullRoute }
    | some started => { g with
        locating := g.locating - 1
        waiting := if started then g.waiting + 1 else g.waiting }

/-- `recalculateRouteInBackground` up to `stopTBT`: the destination is that of the route. -/
def stopTBT : Action Guidance Unit :=
  Action.put fun g => match g.manager.r_route with
    | none => { g with fault := some .nullRoute }
    | some _ => { g with
        manager := g.manager.stopTBT
        waiting := g.waiting - 1
        holder := some .stopped }

def createRoute (trip : Trip) : Action Guidance Unit := do
  let rr ← onManager (RouteManager.createRoute E trip)
  Action.put fun g => { g with holder := some (.routed rr) }

/-- The object is deleted unless it says that there is a route. -/
def startRoute (rr : CreatedRoute) : Action Guidance Unit :=
  if rr.code = "1".toList then do
    let _rv ← onManager (RouteManager.startRoute outside)
    Action.put fun g => { g with holder := none }
  else Action.put fun g => match rr with
    | .ofResult _ => { g with fault := some .doubleDelete }
    | .ofError _ => { g with holder := none }

/-- What `createRoute` has returned to the recalculation. -/
def created (g : Guidance) : Option CreatedRoute :=
  match g.holder with
  | some (.routed rr) => some rr
  | some .stopped => none
  | none => none

/-- The thread of the event is there and has the mutex where it needs it. -/
def Enabled (g : Guidance) : GuidanceEvent → Prop
  | .updateLocation => g.fault = none
  | .processStateMachine _ _ => g.fault = none ∧ 0 < g.locating ∧ g.holder = none
  | .stopTBT => g.fault = none ∧ 0 < g.waiting ∧ g.holder = none
  | .createRoute _ => g.fault = none ∧ g.holder = some .stopped
  | .startRoute => g.fault = none ∧ g.created.isSome

instance (g : Guidance) (e : GuidanceEvent) : Decidable (g.Enabled e) :=
  match e with
  | .updateLocation => inferInstanceAs (Decidable (_ = _))
  | .processStateMachine _ _ => inferInstanceAs (Decidable (_ ∧ _))
  | .stopTBT => inferInstanceAs (Decidable (_ ∧ _))
  | .createRoute _ => inferInstanceAs (Decidable (_ ∧ _))
  | .startRoute => inferInstanceAs (Decidable (_ ∧ _))

def startCreated : Action Guidance Unit := do
  let created ← Action.look created
  match created with
  | some rr => startRoute outside rr
  | none => pure ()

def act : GuidanceEvent → Action Guidance Unit
  | .updateLocation => updateLocation
  | .processStateMachine mloc now => processStateMachine E ok outside android mloc now
  | .stopTBT => stopTBT
  | .createRoute trip => createRoute E trip
  | .startRoute => startCreated outside

/-- An event that is not enabled does not happen, and none happens after a fault. -/
def step (s : Session Guidance) (e : GuidanceEvent) : Session Guidance :=
  if s.state.Enabled e then (act E ok outside android e s).2 else s

/-- The guidance along a leg: the route is created and started. -/
def start (leg : PLegO Rat) : Session Guidance :=
  let s := (RouteManager.createRoute E (.path leg) ⟨.new, 0⟩).2
  let s := (RouteManager.startRoute outside s).2
  ⟨⟨s.state, 0, 0, none, none⟩, s.asked⟩

end Guidance

end Program

section Purpose

namespace Guidance

variable (E : Measures Rat)

/-- What there is of a route, by the thread that has the mutex: none while one is
computed, and none that is not one to be followed. -/
inductive Held : RouteManager → Option Recalculation → Prop
  | guided {m : RouteManager} {r : RoutingResult} {p : Progress} (route : Routable r.leg)
      (follows : m.Follows r p) (state : m.sm_nav_state ≠ .none) : Held m none
  | lost {m : RouteManager} (route : m.r_route = none) (state : m.sm_nav_state = .none) :
      Held m none
  | stopped {m : RouteManager} (route : m.r_route = none) (state : m.sm_nav_state = .none) :
      Held m (some .stopped)
  | computed {m : RouteManager} {leg : PLegO Rat} (routable : Routable leg)
      (route : m.r_route = some (.new E "1".toList leg)) (state : m.sm_nav_state = .none) :
      Held m (some (.routed (.ofResult "1".toList)))
  | failed {m : RouteManager} {code : Text} (error : code ≠ "1".toList)
      (route : m.r_route = none) (state : m.sm_nav_state = .none) :
      Held m (some (.routed (.ofError code)))

/-- The recalculations that have not ended. -/
def recalculations (g : Guidance) : Nat := g.waiting + g.holder.elim 0 fun _ => 1

/-- Whether an arrival may still be announced. -/
def ahead (g : Guidance) : Nat :=
  match g.manager.sm_nav_state with
  | .started => 1
  | .none => 0
  | .finished => 0

/-- The prompts: no start without a recalculation that was announced, except for the
first, and no arrival without a start. -/
structure Counted (g : Guidance) : Prop where
  starts : g.manager.prompts.count (.instruction 0) + g.recalculations ≤
    g.manager.prompts.count .recalculate + 1
  arrivals : g.manager.prompts.count .arrived + g.ahead ≤
    g.manager.prompts.count (.instruction 0)

structure Sound (g : Guidance) : Prop where
  held : Held E g.manager g.holder
  counted : g.Counted
  fault : g.fault = none

end Guidance

/-- The routes that are computed can be followed. -/
def GuidanceEvent.Sound : GuidanceEvent → Prop
  | .createRoute (.path leg) => Routable leg
  | _ => True

end Purpose

section Steps

variable {E : Measures Rat} {ok : Outcomes Rat} {outside : Int → PPointLL Rat} {android : Bool}
  {s : Session Guidance} {mloc : MyLocation Rat} {now : Int}

/-- Directions that are consistent make a leg to be followed. -/
theorem routable_of_consistent {decode : Text → List (PPointLL Rat)} {leg : DirectionsLeg}
    (h : leg.Consistent decode) (hmaneuver : leg.maneuver ≠ []) (units : Units) :
    Routable (process_vleg decode units leg) := by
  obtain ⟨m, hm⟩ := List.exists_mem_of_ne_nil _ hmaneuver
  refine ⟨fun hnil => ?_, fun hnil => hmaneuver (List.map_eq_nil_iff.mp hnil), fun step hstep => ?_⟩
  · have hlt := h.begin_lt m hm
    have hlength : (decode leg.shape).length = 0 := congrArg List.length hnil
    exact Nat.not_lt_zero _ (hlength ▸ hlt)
  · obtain ⟨m, hm, rfl⟩ := List.mem_map.mp hstep
    exact ⟨Int.natCast_nonneg _, Int.ofNat_lt.mpr (h.begin_lt m hm)⟩

theorem count_announced (finished recalculate : Bool) (plays : List Play) :
    (RouteManager.announced finished plays recalculate).count .arrived = finished.toNat ∧
      (RouteManager.announced finished plays recalculate).count .recalculate = recalculate.toNat ∧
      (RouteManager.announced finished plays recalculate).count (.instruction 0) = 0 := by
  have hplay : ∀ x, (∀ p, Prompt.play p ≠ x) → (plays.map Prompt.play).count x = 0 := by
    intro x hx
    refine List.count_eq_zero.mpr fun hmem => ?_
    obtain ⟨p, -, hp⟩ := List.mem_map.mp hmem
    exact hx p hp
  unfold RouteManager.announced
  simp only [List.count_append]
  rw [hplay .arrived fun _ => Prompt.noConfusion, hplay .recalculate fun _ => Prompt.noConfusion,
    hplay (.instruction 0) fun _ => Prompt.noConfusion]
  cases finished <;> cases recalculate <;> decide

theorem count_start :
    [Prompt.instruction 0].count (.instruction 0) = 1 ∧
      [Prompt.instruction 0].count .recalculate = 0 ∧
      [Prompt.instruction 0].count .arrived = 0 := by decide

namespace Guidance

theorem onManager_eq {α : Type} {x : Action RouteManager α} {a : α} {t : Session RouteManager}
    (h : x ⟨s.state.manager, s.asked⟩ = (a, t)) :
    onManager x s = (a, ⟨{ s.state with manager := t.state }, t.asked⟩) := by
  unfold onManager Action.zoom
  rw [h]

/-- Outside the mutex nothing else changes. -/
theorem updateLocation_eq (s : Session Guidance) :
    ∃ n, (updateLocation s).2.state = { s.state with locating := n } := by
  unfold updateLocation
  rw [Action.put_apply]
  dsimp only
  split
  · exact ⟨_, rfl⟩
  · split <;> exact ⟨_, rfl⟩

theorem updateLocation_sound (h : s.state.Sound E) : (updateLocation s).2.state.Sound E := by
  obtain ⟨n, hstate⟩ := updateLocation_eq s
  rw [hstate]
  exact ⟨h.held, ⟨h.counted.starts, h.counted.arrivals⟩, h.fault⟩

/-- Whatever a location does on the route, a recalculation it starts waits. -/
theorem processStateMachine_eq {recalculate : Bool} {t : Session RouteManager}
    (h : RouteManager.processStateMachine E ok outside android mloc now
      ⟨s.state.manager, s.asked⟩ = (some recalculate, t)) :
    (processStateMachine E ok outside android mloc now s).2.state = { s.state with
      manager := t.state, locating := s.state.locating - 1,
      waiting := if recalculate then s.state.waiting + 1 else s.state.waiting } := by
  unfold processStateMachine
  rw [Action.bind_apply, onManager_eq h]
  rfl

variable (ok outside android mloc now) in
/-- What a location does with the mutex: nothing, or it follows the route. -/
theorem processStateMachine_cases (hheld : Held E s.state.manager none) :
    (processStateMachine E ok outside android mloc now s).2.state =
        { s.state with locating := s.state.locating - 1 } ∨
      ∃ r p finished recalculate m', Routable r.leg ∧ s.state.manager.Follows r p ∧
        s.state.manager.sm_nav_state = .started ∧
        RouteManager.Followed r s.state.manager m' finished recalculate ∧
        (processStateMachine E ok outside android mloc now s).2.state =
          { s.state with
              manager := m', locating := s.state.locating - 1,
              waiting := if recalculate then s.state.waiting + 1 else s.state.waiting } := by
  by_cases hstarted : s.state.manager.sm_nav_state = .started
  · cases hheld with
    | @guided r p hroute hfollows hstate =>
      obtain ⟨finished, hfollowed⟩ := RouteManager.follow_followed ok outside android mloc now
        (s := ⟨s.state.manager, s.asked⟩) hfollows
      exact .inr ⟨r, p, finished, _, _, hroute, hfollows, hstarted, hfollowed,
        processStateMachine_eq (RouteManager.processStateMachine_started
          (s := ⟨s.state.manager, s.asked⟩) (r := { r with progress := p }) hstarted
          hfollows.route)⟩
    | lost hroute hstate => exact absurd (hstate.symm.trans hstarted) TBTNavStates.noConfusion
  · exact .inl (processStateMachine_eq (RouteManager.processStateMachine_idle hstarted))

/-- With the mutex and a route that is followed. -/
theorem processStateMachine_sound (h : s.state.Sound E) (hfree : s.state.holder = none) :
    (processStateMachine E ok outside android mloc now s).2.state.Sound E := by
  obtain ⟨hheld, ⟨hstarts, harrivals⟩, hfault⟩ := h
  rcases processStateMachine_cases ok outside android mloc now (hfree ▸ hheld) with
    hstate | ⟨r, p, finished, recalculate, m', hroute, -, hstarted, hfollowed, hstate⟩
  · rw [hstate]
    exact ⟨hheld, ⟨hstarts, harrivals⟩, hfault⟩
  · obtain ⟨⟨q, hq⟩, hnav, plays, hplays, -⟩ := hfollowed
    obtain ⟨harrived, hrecalculate, hinstruction⟩ := count_announced finished recalculate plays
    have hahead : s.state.ahead = 1 := by
      unfold ahead
      rw [hstarted]
    rw [hstarted] at hnav
    rw [hstate]
    refine ⟨?_, ⟨?_, ?_⟩, hfault⟩
    · dsimp only
      rw [hfree]
      refine .guided hroute hq ?_
      rw [hnav]
      cases finished <;> exact TBTNavStates.noConfusion
    · dsimp only [recalculations] at hstarts ⊢
      rw [hplays, List.count_append, List.count_append, hrecalculate, hinstruction]
      cases recalculate <;>
        simp only [Bool.toNat_false, Bool.toNat_true, if_true, if_neg Bool.false_ne_true] <;>
        omega
    · rw [hahead] at harrivals
      dsimp only [ahead]
      rw [hplays, List.count_append, List.count_append, harrived, hinstruction, hnav]
      cases finished <;> exact harrivals

theorem stopTBT_eq (h : s.state.manager.r_route ≠ none) :
    (stopTBT s).2.state = { s.state with
      manager := s.state.manager.stopTBT, waiting := s.state.waiting - 1,
      holder := some .stopped } := by
  obtain ⟨r, hr⟩ := Option.ne_none_iff_exists'.mp h
  unfold stopTBT
  rw [Action.put_apply]
  dsimp only
  rw [hr]

theorem stopTBT_sound (h : s.state.Sound E) (hwaiting : 0 < s.state.waiting)
    (hfree : s.state.holder = none) (hroute : s.state.manager.r_route ≠ none) :
    (stopTBT s).2.state.Sound E := by
  obtain ⟨hheld, ⟨hstarts, harrivals⟩, hfault⟩ := h
  rw [stopTBT_eq hroute]
  refine ⟨.stopped rfl rfl, ⟨?_, ?_⟩, hfault⟩
  · rw [recalculations, hfree] at hstarts
    dsimp only [RouteManager.stopTBT, recalculations, Option.elim] at hstarts ⊢
    omega
  · exact Nat.le_trans (Nat.add_le_add_left (Nat.zero_le _) _) harrivals

theorem createRoute_sound {trip : Trip} (h : s.state.Sound E)
    (hholder : s.state.holder = some .stopped)
    (htrip : (GuidanceEvent.createRoute trip).Sound) :
    (createRoute E trip s).2.state.Sound E := by
  obtain ⟨hheld, ⟨hstarts, harrivals⟩, hfault⟩ := h
  have hnav : s.state.manager.sm_nav_state = .none := by
    rw [hholder] at hheld
    cases hheld with
    | stopped hroute hstate => exact hstate
  unfold recalculations at hstarts
  rw [hholder] at hstarts
  unfold createRoute
  by_cases hpath : ∃ leg, trip = .path leg
  · obtain ⟨leg, rfl⟩ := hpath
    rw [Action.bind_apply, onManager_eq (RouteManager.createRoute_path leg)]
    exact ⟨.computed htrip rfl hnav, ⟨hstarts, harrivals⟩, hfault⟩
  · obtain ⟨code, hcode, heq⟩ := RouteManager.createRoute_error
      (E := E) (s := ⟨s.state.manager, s.asked⟩) fun leg hleg => hpath ⟨leg, hleg⟩
    rw [Action.bind_apply, onManager_eq heq]
    exact ⟨.failed hcode rfl hnav, ⟨hstarts, harrivals⟩, hfault⟩

theorem startRoute_eq {rr : CreatedRoute} (h : rr.code = "1".toList) :
    (startRoute outside rr s).2.state = { s.state with
      manager := (RouteManager.startRoute outside ⟨s.state.manager, s.asked⟩).2.state
      holder := none } := by
  unfold startRoute
  rw [if_pos h, Action.bind_apply, onManager_eq (x := RouteManager.startRoute outside) rfl]
  rfl

theorem startRoute_error {code : Text} (h : code ≠ "1".toList) :
    (startRoute outside (.ofError code) s).2.state = { s.state with holder := none } := by
  have hcode : (CreatedRoute.ofError code).code ≠ "1".toList := h
  unfold startRoute
  rw [if_neg hcode]
  rfl

theorem startRoute_sound {rr : CreatedRoute} (h : s.state.Sound E)
    (hholder : s.state.holder = some (.routed rr)) :
    (startRoute outside rr s).2.state.Sound E := by
  obtain ⟨hheld, ⟨hstarts, harrivals⟩, hfault⟩ := h
  unfold recalculations at hstarts
  rw [hholder] at hstarts hheld
  dsimp only [Option.elim] at hstarts
  cases hheld with
  | @computed leg hroutable hroute hstate =>
    obtain ⟨⟨p, hfollows⟩, hstarted, hprompts⟩ := RouteManager.startRoute_spec
      outside (s := ⟨s.state.manager, s.asked⟩) hroute hroutable
      (Progress.start_onLeg hroutable.points hroutable.steps)
    rw [startRoute_eq rfl]
    refine ⟨.guided hroutable hfollows (hstarted ▸ TBTNavStates.noConfusion), ⟨?_, ?_⟩, hfault⟩
    · dsimp only [recalculations, Option.elim]
      rw [hprompts, List.count_append, List.count_append, count_start.1, count_start.2.1]
      dsimp only
      omega
    · dsimp only [ahead]
      rw [hprompts, hstarted, List.count_append, List.count_append, count_start.1,
        count_start.2.2]
      dsimp only
      omega
  | @failed code herror hroute hstate =>
    rw [startRoute_error herror]
    exact ⟨.lost hroute hstate, ⟨Nat.le_trans (Nat.le_add_right _ 1) hstarts, harrivals⟩, hfault⟩

theorem holder_of_created {g : Guidance} {rr : CreatedRoute} (h : g.created = some rr) :
    g.holder = some (.routed rr) := by
  unfold created at h
  cases hholder : g.holder with
  | none =>
    rw [hholder] at h
    cases h
  | some recalculation =>
    rw [hholder] at h
    cases recalculation with
    | stopped => cases h
    | routed => exact congrArg (fun rr => some (Recalculation.routed rr)) (Option.some.inj h)

theorem startCreated_sound (h : s.state.Sound E) :
    (startCreated outside s).2.state.Sound E := by
  unfold startCreated
  rw [Action.bind_apply, Action.look_apply]
  dsimp only
  cases hcreated : s.state.created with
  | none => exact h
  | some rr => exact startRoute_sound h (holder_of_created hcreated)

variable (E outside) in
theorem start_spec {leg : PLegO Rat} (h : Routable leg) :
    (∃ p, (start E outside leg).state.manager.Follows (.new E "1".toList leg) p) ∧
      (start E outside leg).state.manager.sm_nav_state = .started ∧
      (start E outside leg).state.manager.prompts = [.instruction 0] :=
  have hroute : ((RouteManager.createRoute E (.path leg) ⟨.new, 0⟩).2).state.r_route =
      some (.new E "1".toList leg) := rfl
  RouteManager.startRoute_spec outside hroute h (Progress.start_onLeg h.points h.steps)

/-- The guidance is sound from its start. -/
theorem start_sound {leg : PLegO Rat} (h : Routable leg) :
    (start E outside leg).state.Sound E := by
  obtain ⟨⟨p, hfollows⟩, hstarted, hprompts⟩ := start_spec E outside h
  refine ⟨.guided h hfollows (hstarted ▸ TBTNavStates.noConfusion), ⟨?_, ?_⟩, rfl⟩
  · rw [hprompts]
    exact Nat.le_refl 1
  · unfold ahead
    rw [hprompts, hstarted]
    exact Nat.le_refl 1

/-- A recalculation that begins with no route. -/
def Loses (g : Guidance) (e : GuidanceEvent) : Prop :=
  e = .stopTBT ∧ g.Enabled e ∧ g.manager.r_route = none

theorem act_sound {e : GuidanceEvent} (h : s.state.Sound E) (he : e.Sound)
    (henabled : s.state.Enabled e) (hloses : ¬s.state.Loses e) :
    (act E ok outside android e s).2.state.Sound E := by
  cases e with
  | updateLocation => exact updateLocation_sound h
  | processStateMachine mloc now => exact processStateMachine_sound h henabled.2.2
  | stopTBT =>
    refine stopTBT_sound h henabled.2.1 henabled.2.2 fun hroute => ?_
    exact hloses ⟨rfl, henabled, hroute⟩
  | createRoute trip => exact createRoute_sound h henabled.2 he
  | startRoute => exact startCreated_sound h

variable (ok outside android) in
/-- An event keeps the guidance sound unless it is of a recalculation that begins with no
route. -/
theorem step_sound {e : GuidanceEvent} (h : s.state.Sound E) (he : e.Sound)
    (hloses : ¬s.state.Loses e) : (step E ok outside android s e).state.Sound E := by
  unfold step
  split
  · exact act_sound h he ‹_› hloses
  · exact h

theorem stopTBT_null (h : s.state.manager.r_route = none) :
    (stopTBT s).2.state = { s.state with fault := some .nullRoute } := by
  unfold stopTBT
  rw [Action.put_apply]
  dsimp only
  rw [h]

theorem step_of_loses {e : GuidanceEvent} (h : s.state.Loses e) :
    (step E ok outside android s e).state = { s.state with fault := some .nullRoute } := by
  obtain ⟨rfl, henabled, hroute⟩ := h
  unfold step
  rw [if_pos henabled]
  exact stopTBT_null hroute

theorem step_of_fault {e : GuidanceEvent} (h : s.state.fault ≠ none) :
    step E ok outside android s e = s := by
  have henabled : ¬s.state.Enabled e := by
    cases e with
    | updateLocation => exact h
    | processStateMachine => exact fun hen => h hen.1
    | stopTBT => exact fun hen => h hen.1
    | createRoute => exact fun hen => h hen.1
    | startRoute => exact fun hen => h hen.1
  exact if_neg henabled

end Guidance

end Steps

section Runs

variable {E : Measures Rat} {ok : Outcomes Rat} {outside : Int → PPointLL Rat} {android : Bool}
  {s : Session Guidance} {e : GuidanceEvent}

namespace Guidance

variable (E) in
/-- Sound, or it was until a recalculation began with no route. -/
def Reached (g : Guidance) : Prop :=
  g.Sound E ∨ ∃ g₀ : Guidance, g₀.Sound E ∧ g₀.manager.r_route = none ∧
    g = { g₀ with fault := some .nullRoute }

theorem Reached.sound {g : Guidance} (h : g.Reached E) (hfault : g.fault = none) : g.Sound E := by
  rcases h with h | ⟨g₀, -, -, rfl⟩
  · exact h
  · exact absurd hfault (Option.some_ne_none _)

theorem Reached.counted {g : Guidance} (h : g.Reached E) : g.Counted := by
  rcases h with h | ⟨g₀, h, -, rfl⟩
  · exact h.counted
  · exact ⟨h.counted.starts, h.counted.arrivals⟩

variable (ok outside android) in
theorem step_reached (h : s.state.Reached E) (he : e.Sound) :
    (step E ok outside android s e).state.Reached E := by
  by_cases hfault : s.state.fault = none
  · have hsound := h.sound hfault
    by_cases hloses : s.state.Loses e
    · exact .inr ⟨s.state, hsound, hloses.2.2, step_of_loses hloses⟩
    · exact .inl (step_sound ok outside android hsound he hloses)
  · rw [step_of_fault hfault]
    exact h

variable (ok outside android) in
theorem visits_reached {leg : PLegO Rat} (hleg : Routable leg) {es : List GuidanceEvent}
    (hes : ∀ e ∈ es, e.Sound) {v : Visit (Session Guidance) GuidanceEvent}
    (hv : v ∈ visits (step E ok outside android) (start E outside leg) es) :
    v.before.state.Reached E ∧ v.after.state.Reached E :=
  visits_invariant (fun s => s.state.Reached E)
    (fun _ e hs (he : e.Sound) => step_reached ok outside android hs he) (.inl (start_sound hleg))
    (fun w hw => hes w.event (event_mem_of_visit hw)) hv

def size (a : Rat) : Rat := if a < 0 then -a else a

/-- Along the axes. -/
def blocks : Measures Rat where
  getOrthogonalDistance p a b :=
    max (a.lon - p.lon) (max (p.lon - b.lon) 0) + size (p.lat - a.lat)
  distance p q := size (p.lon - q.lon) + size (p.lat - q.lat)
  heading p q := if p.lon ≤ q.lon then 90 else 270
  degreesDiff a b := a - b
  abs := size
  fltMax := 2 ^ 31
  lit n := n

def asMeasured : Outcomes Rat
  | _, .less, a, b => a < b
  | _, .atLeast, a, b => b ≤ a
  | _, .unequal, a, b => a ≠ b

def avenuePoints : Text → List (PPointLL Rat) := fun _ => [⟨0, 0⟩, ⟨500, 0⟩, ⟨1000, 0⟩, ⟨1500, 0⟩]

/-- Three blocks with a turn after the first. -/
def threeBlocks : DirectionsLeg :=
  ⟨[], [⟨.start, 0, 1, [], 0, [], [], 1 / 2, 30⟩, ⟨.right, 1, 3, [], 0, [], [], 1, 60⟩,
    ⟨.destination, 3, 3, [], 0, [], [], 0, 0⟩], ⟨3 / 2, 90⟩⟩

theorem threeBlocks_consistent : threeBlocks.Consistent avenuePoints := by
  refine ⟨by decide +kernel, by decide +kernel, ?_, ?_⟩ <;> simp [threeBlocks, avenuePoints]

def avenue : PLegO Rat := process_vleg avenuePoints .kilometers threeBlocks

theorem avenue_routable : Routable avenue :=
  routable_of_consistent threeBlocks_consistent (List.cons_ne_nil _ _) .kilometers

/-- Three locations away from the route. The first gets a new route, on which the turn is
made and the destination is reached; for the second there is none. -/
def astray : List GuidanceEvent :=
  let away : GuidanceEvent := .processStateMachine ⟨2, 500, 500, 180⟩ 0
  let eastward (lon : Rat) (now : Int) : GuidanceEvent :=
    .processStateMachine ⟨2, 0, lon, 90⟩ now
  [.updateLocation, away, .updateLocation, away, .updateLocation, away,
    .stopTBT, .createRoute (.path avenue), .startRoute,
    .updateLocation, eastward 460 1000, .updateLocation, eastward 800 2000,
    .updateLocation, eastward 1460 9000,
    .stopTBT, .createRoute .noPath, .startRoute, .stopTBT]

theorem astray_sound : ∀ e ∈ astray, e.Sound := by
  unfold astray
  simp [GuidanceEvent.Sound, avenue_routable]

/-- A recalculation that gets the mutex and the route it is for. -/
def Begins (v : Visit (Session Guidance) GuidanceEvent) : Prop :=
  v.event = .stopTBT ∧ v.before.state.Enabled .stopTBT

/-- A recalculation for which no route is found. -/
def Fails (v : Visit (Session Guidance) GuidanceEvent) : Prop :=
  ∃ trip, v.event = .createRoute trip ∧ v.before.state.Enabled (.createRoute trip) ∧
    ∀ leg, trip ≠ .path leg

/-- No recalculation is computing the route that is missing. -/
def Lost (g : Guidance) : Prop := g.manager.r_route = none ∧ g.holder ≠ some .stopped

theorem updateLocation_lost : (updateLocation s).2.state.Lost ↔ s.state.Lost := by
  obtain ⟨n, hstate⟩ := updateLocation_eq s
  rw [hstate]
  exact Iff.rfl

theorem processStateMachine_lost {mloc : MyLocation Rat} {now : Int} (h : s.state.Sound E)
    (hfree : s.state.holder = none) :
    (processStateMachine E ok outside android mloc now s).2.state.Lost ↔ s.state.Lost := by
  rcases processStateMachine_cases ok outside android mloc now (hfree ▸ h.held) with
    hstate | ⟨r, p, finished, recalculate, m', -, hfollows, -, hfollowed, hstate⟩
  · rw [hstate]
    exact Iff.rfl
  · obtain ⟨q, hq⟩ := hfollowed.follows
    rw [hstate]
    refine iff_of_false (fun hlost => ?_) fun hlost => ?_
    · exact absurd (hq.route.symm.trans hlost.1) (Option.some_ne_none _)
    · exact absurd (hfollows.route.symm.trans hlost.1) (Option.some_ne_none _)

theorem startCreated_lost (h : s.state.Sound E) :
    (startCreated outside s).2.state.Lost ↔ s.state.Lost := by
  unfold startCreated
  rw [Action.bind_apply, Action.look_apply]
  dsimp only
  cases hcreated : s.state.created with
  | none => exact Iff.rfl
  | some rr =>
    have hholder := holder_of_created hcreated
    have hheld := h.held
    rw [hholder] at hheld
    dsimp only
    cases hheld with
    | @computed leg hroutable hroute hstate =>
      obtain ⟨⟨p, hfollows⟩, -, -⟩ := RouteManager.startRoute_spec
        outside (s := ⟨s.state.manager, s.asked⟩) hroute hroutable
        (Progress.start_onLeg hroutable.points hroutable.steps)
      rw [startRoute_eq rfl]
      refine iff_of_false (fun hlost => ?_) fun hlost => ?_
      · exact absurd (hfollows.route.symm.trans hlost.1) (Option.some_ne_none _)
      · exact absurd (hroute.symm.trans hlost.1) (Option.some_ne_none _)
    | @failed code herror hroute hstate =>
      rw [startRoute_error herror]
      refine iff_of_true ⟨hroute, nofun⟩ ⟨hroute, fun hstopped => ?_⟩
      rw [hholder] at hstopped
      cases hstopped

theorem createRoute_lost {trip : Trip} :
    (createRoute E trip s).2.state.Lost ↔ ∀ leg, trip ≠ .path leg := by
  unfold createRoute
  by_cases hpath : ∃ leg, trip = .path leg
  · obtain ⟨leg, rfl⟩ := hpath
    rw [Action.bind_apply, onManager_eq (RouteManager.createRoute_path leg)]
    exact iff_of_false (fun hlost => Option.some_ne_none _ hlost.1) fun hnone => hnone leg rfl
  · have hnone : ∀ leg, trip ≠ .path leg := fun leg hleg => hpath ⟨leg, hleg⟩
    obtain ⟨code, -, heq⟩ := RouteManager.createRoute_error
      (E := E) (s := ⟨s.state.manager, s.asked⟩) hnone
    rw [Action.bind_apply, onManager_eq heq]
    exact iff_of_true ⟨rfl, nofun⟩ hnone

variable (ok outside android) in
/-- The route is lost by a recalculation that finds none, and nothing brings it back. -/
theorem step_lost_iff (h : s.state.Sound E) (hloses : ¬s.state.Loses e) :
    (step E ok outside android s e).state.Lost ↔
      s.state.Lost ∨ Fails ⟨s, e, step E ok outside android s e⟩ := by
  by_cases henabled : s.state.Enabled e
  · have hact : step E ok outside android s e = (act E ok outside android e s).2 :=
      if_pos henabled
    have hother : (∀ trip, e ≠ .createRoute trip) →
        ¬Fails ⟨s, e, step E ok outside android s e⟩ :=
      fun hne ⟨trip, htrip, _⟩ => hne trip htrip
    cases e with
    | updateLocation =>
      rw [or_iff_left (hother nofun), hact]
      exact updateLocation_lost
    | processStateMachine mloc now =>
      rw [or_iff_left (hother nofun), hact]
      exact processStateMachine_lost h henabled.2.2
    | stopTBT =>
      have hroute : s.state.manager.r_route ≠ none := fun hnone => hloses ⟨rfl, henabled, hnone⟩
      have hafter : ¬(stopTBT s).2.state.Lost := by
        rw [stopTBT_eq hroute]
        exact fun hlost => hlost.2 rfl
      rw [or_iff_left (hother nofun), hact]
      exact iff_of_false hafter fun hlost => hroute hlost.1
    | createRoute trip =>
      have hbefore : ¬s.state.Lost := fun hlost => hlost.2 henabled.2
      rw [or_iff_right hbefore, hact]
      refine createRoute_lost.trans ⟨fun hnone => ⟨trip, rfl, henabled, hnone⟩, ?_⟩
      rintro ⟨trip', htrip, -, hnone⟩
      cases htrip
      exact hnone
    | startRoute =>
      rw [or_iff_left (hother nofun), hact]
      exact startCreated_lost h
  · have hsame : step E ok outside android s e = s := if_neg henabled
    rw [hsame]
    refine (or_iff_left ?_).symm
    rintro ⟨trip, rfl, hen, -⟩
    exact henabled hen

theorem begins_iff (hlost : s.state.Lost) :
    Begins ⟨s, e, step E ok outside android s e⟩ ↔ s.state.Loses e := by
  constructor
  · rintro ⟨rfl, henabled⟩
    exact ⟨rfl, henabled, hlost.1⟩
  · rintro ⟨rfl, henabled, -⟩
    exact ⟨rfl, henabled⟩

variable (ok outside android) in
/-- After a fault nothing happens. -/
theorem run_of_fault (h : s.state.fault ≠ none) (es : List GuidanceEvent) :
    run (step E ok outside android) s es = s := by
  induction es with
  | nil => rfl
  | cons e es ih => rw [run_cons, step_of_fault h, ih]

variable (ok outside android) in
/-- With the route lost, or after a fault, no recalculation looks for a route. -/
theorem no_fails {es : List GuidanceEvent}
    (h : s.state.fault = none → s.state.Sound E ∧ s.state.Lost) (hes : ∀ e ∈ es, e.Sound) :
    ∀ w ∈ visits (step E ok outside android) s es, ¬Fails w := by
  intro w hw
  have hstep : ∀ (s : Session Guidance) (e : GuidanceEvent),
      (s.state.fault = none → s.state.Sound E ∧ s.state.Lost) → e.Sound →
      ((step E ok outside android s e).state.fault = none →
        (step E ok outside android s e).state.Sound E ∧
          (step E ok outside android s e).state.Lost) := by
    intro s e hs he hafter
    by_cases hfault : s.state.fault = none
    · obtain ⟨hsound, hlost⟩ := hs hfault
      have hloses : ¬s.state.Loses e := fun hloses => by
        rw [step_of_loses hloses] at hafter
        exact Option.some_ne_none _ hafter
      exact ⟨step_sound ok outside android hsound he hloses,
        (step_lost_iff ok outside android hsound hloses).mpr (.inl hlost)⟩
    · rw [step_of_fault hfault] at hafter
      exact absurd hafter hfault
  have hinv := (visits_invariant _ (fun s e hs (he : e.Sound) => hstep s e hs he) h
    (fun w hw => hes w.event (event_mem_of_visit hw)) hw).1
  rintro ⟨trip, -, henabled, -⟩
  exact (hinv henabled.1).2.2 henabled.2

/-- A run that starts with the route lost: the next recalculation is a fault. -/
theorem lost_run {es : List GuidanceEvent} (h : s.state.Sound E) (hlost : s.state.Lost)
    (hes : ∀ e ∈ es, e.Sound) :
    (run (step E ok outside android) s es).state.fault = none ↔
      ∀ w ∈ visits (step E ok outside android) s es, ¬Begins w := by
  induction es generalizing s with
  | nil => exact iff_of_true h.fault fun w hw => absurd hw List.not_mem_nil
  | cons e es ih =>
    obtain ⟨he, hrest⟩ := List.forall_mem_cons.mp hes
    rw [run_cons, visits_cons, List.forall_mem_cons, begins_iff hlost]
    by_cases hloses : s.state.Loses e
    · have hfault : (step E ok outside android s e).state.fault ≠ none := by
        rw [step_of_loses hloses]
        exact Option.some_ne_none _
      rw [run_of_fault ok outside android hfault]
      exact iff_of_false hfault fun hnone => hnone.1 hloses
    · have hsound := step_sound ok outside android h he hloses
      have hstays := (step_lost_iff ok outside android h hloses).mpr (.inl hlost)
      rw [ih hsound hstays hrest, and_iff_right hloses]

/-- The same from a state with a route, where it takes a recalculation that finds none. -/
theorem fault_iff {es : List GuidanceEvent} (h : s.state.Sound E) (hlost : ¬s.state.Lost)
    (hes : ∀ e ∈ es, e.Sound) :
    (run (step E ok outside android) s es).state.fault = none ↔
      (visits (step E ok outside android) s es).Pairwise fun v w => Fails v → ¬Begins w := by
  induction es generalizing s with
  | nil => exact iff_of_true h.fault List.Pairwise.nil
  | cons e es ih =>
    obtain ⟨he, hrest⟩ := List.forall_mem_cons.mp hes
    have hloses : ¬s.state.Loses e := fun hloses => by
      refine hlost ⟨hloses.2.2, fun hstopped => ?_⟩
      have hfree := (hloses.1 ▸ hloses.2.1 : s.state.Enabled .stopTBT).2.2
      exact Option.some_ne_none _ (hstopped.symm.trans hfree)
    have hsound := step_sound ok outside android h he hloses
    have hiff := step_lost_iff ok outside android h hloses
    rw [or_iff_right hlost] at hiff
    rw [run_cons, visits_cons, List.pairwise_cons]
    by_cases hfails : Fails ⟨s, e, step E ok outside android s e⟩
    · have hlost' := hiff.mpr hfails
      have hnever := no_fails ok outside android (fun _ => ⟨hsound, hlost'⟩) hrest
      rw [lost_run hsound hlost' hrest]
      refine ⟨fun hnone => ⟨fun w hw _ => hnone w hw, ?_⟩, fun hall w hw => hall.1 w hw hfails⟩
      exact List.pairwise_of_forall_mem_list fun v hv w _ hv' => absurd hv' (hnever v hv)
    · rw [ih hsound (fun hlost' => hfails (hiff.mp hlost')) hrest, and_iff_right]
      exact fun w _ hfails' => absurd hfails' hfails

/-- A run without a fault: no recalculation begins after one that found no route. -/
theorem guidance_fault_iff (E : Measures Rat) (ok : Outcomes Rat) (outside : Int → PPointLL Rat)
    (android : Bool) (leg : PLegO Rat) (hleg : Routable leg) (es : List GuidanceEvent)
    (hes : ∀ e ∈ es, e.Sound) :
    (run (step E ok outside android) (start E outside leg) es).state.fault = none ↔
      (visits (step E ok outside android) (start E outside leg) es).Pairwise
        fun v w => Fails v → ¬Begins w := by
  obtain ⟨⟨p, hfollows⟩, -, -⟩ := start_spec E outside hleg
  refine fault_iff (start_sound hleg) (fun hlost => ?_) hes
  exact absurd (hfollows.route.symm.trans hlost.1) (Option.some_ne_none _)

theorem guidance_fault_iff_astray :
    (run (step blocks asMeasured (fun _ => ⟨0, 0⟩) false)
        (start blocks (fun _ => ⟨0, 0⟩) avenue) astray).state.fault = none ↔
      (visits (step blocks asMeasured (fun _ => ⟨0, 0⟩) false)
        (start blocks (fun _ => ⟨0, 0⟩) avenue) astray).Pairwise fun v w => Fails v → ¬Begins w :=
  guidance_fault_iff _ _ _ _ avenue avenue_routable astray astray_sound

example : (run (step blocks asMeasured (fun _ => ⟨0, 0⟩) false)
    (start blocks (fun _ => ⟨0, 0⟩) avenue) astray).state.fault = some .nullRoute := by
  decide +kernel

/-- What is played from one state to the next are instructions of the route there was. -/
def Tells (m m' : RouteManager) : Prop :=
  ∃ new, m'.prompts = m.prompts ++ new ∧ ∀ play, .play play ∈ new →
    ∃ r, m.r_route = some r ∧ r.leg.HasStep play.ind

theorem Tells.silent {m m' : RouteManager} (h : m'.prompts = m.prompts) : Tells m m' :=
  ⟨[], h.trans (List.append_nil _).symm, fun _ hplay => absurd hplay List.not_mem_nil⟩

theorem tells_of_followed {r : RoutingResult} {p : Progress} {m m' : RouteManager}
    {finished recalculate : Bool} (hm : m.Follows r p)
    (h : RouteManager.Followed r m m' finished recalculate) : Tells m m' := by
  obtain ⟨-, -, plays, hplays, hsteps⟩ := h
  refine ⟨_, hplays, fun play hplay => ⟨_, hm.route, hsteps play ?_⟩⟩
  unfold RouteManager.announced at hplay
  cases finished <;> cases recalculate <;> simpa using hplay

theorem startCreated_tells (h : s.state.Sound E) :
    Tells s.state.manager (startCreated outside s).2.state.manager := by
  unfold startCreated
  rw [Action.bind_apply, Action.look_apply]
  dsimp only
  cases hcreated : s.state.created with
  | none => exact .silent rfl
  | some rr =>
    have hheld := h.held
    rw [holder_of_created hcreated] at hheld
    dsimp only
    cases hheld with
    | @computed leg hroutable hroute hstate =>
      obtain ⟨-, -, hprompts⟩ := RouteManager.startRoute_spec
        outside (s := ⟨s.state.manager, s.asked⟩) hroute hroutable
        (Progress.start_onLeg hroutable.points hroutable.steps)
      rw [startRoute_eq rfl]
      exact ⟨_, hprompts, fun play hplay => Prompt.noConfusion (List.mem_singleton.mp hplay)⟩
    | @failed code herror hroute hstate =>
      rw [startRoute_error herror]
      exact .silent rfl

theorem createRoute_tells {trip : Trip} :
    Tells s.state.manager (createRoute E trip s).2.state.manager := by
  unfold createRoute
  refine .silent ?_
  by_cases hpath : ∃ leg, trip = .path leg
  · obtain ⟨leg, rfl⟩ := hpath
    rw [Action.bind_apply, onManager_eq (RouteManager.createRoute_path leg)]
    rfl
  · obtain ⟨code, -, heq⟩ := RouteManager.createRoute_error
      (E := E) (s := ⟨s.state.manager, s.asked⟩) fun leg hleg => hpath ⟨leg, hleg⟩
    rw [Action.bind_apply, onManager_eq heq]
    rfl

variable (ok outside android) in
theorem step_tells (h : s.state.Reached E) :
    Tells s.state.manager (step E ok outside android s e).state.manager := by
  by_cases henabled : s.state.Enabled e
  · have hact : step E ok outside android s e = (act E ok outside android e s).2 :=
      if_pos henabled
    rw [hact]
    cases e with
    | updateLocation =>
      obtain ⟨n, hstate⟩ := updateLocation_eq s
      exact .silent (congrArg (fun g => g.manager.prompts) hstate)
    | processStateMachine mloc now =>
      have hsound := h.sound henabled.1
      rcases processStateMachine_cases ok outside android mloc now
        (henabled.2.2 ▸ hsound.held) with
        hstate | ⟨r, p, finished, recalculate, m', -, hfollows, -, hfollowed, hstate⟩
      · exact .silent (congrArg (fun g => g.manager.prompts) hstate)
      · exact (congrArg manager hstate) ▸ tells_of_followed hfollows hfollowed
    | stopTBT =>
      refine .silent ?_
      by_cases hroute : s.state.manager.r_route = none
      · exact congrArg (fun g => g.manager.prompts) (stopTBT_null hroute)
      · exact congrArg (fun g => g.manager.prompts) (stopTBT_eq hroute)
    | createRoute trip => exact createRoute_tells
    | startRoute => exact startCreated_tells (h.sound henabled.1)
  · have hsame : step E ok outside android s e = s := if_neg henabled
    rw [hsame]
    exact .silent rfl

/-- What is said: no more arrivals than starts, no start but the first one without a
recalculation announced before, and in each step instructions of the route there was. -/
theorem guidance_prompts (E : Measures Rat) (ok : Outcomes Rat) (outside : Int → PPointLL Rat)
    (android : Bool) (leg : PLegO Rat) (hleg : Routable leg) (es : List GuidanceEvent)
    (hes : ∀ e ∈ es, e.Sound) :
    ∀ v ∈ visits (step E ok outside android) (start E outside leg) es,
      v.after.state.manager.prompts.count .arrived ≤
        v.after.state.manager.prompts.count (.instruction 0) ∧
      v.after.state.manager.prompts.count (.instruction 0) ≤
        v.after.state.manager.prompts.count .recalculate + 1 ∧
      ∃ new, v.after.state.manager.prompts = v.before.state.manager.prompts ++ new ∧
        ∀ play, .play play ∈ new → ∃ r, v.before.state.manager.r_route = some r ∧
          r.leg.HasStep play.ind := by
  intro v hv
  obtain ⟨hbefore, hafter⟩ := visits_reached ok outside android hleg hes hv
  refine ⟨?_, ?_, ?_⟩
  · exact Nat.le_of_add_right_le hafter.counted.arrivals
  · exact Nat.le_of_add_right_le hafter.counted.starts
  · rw [after_eq_step hv]
    exact step_tells ok outside android hbefore

theorem guidance_prompts_astray :
    Routable avenue ∧ ∀ v ∈ visits (step blocks asMeasured (fun _ => ⟨0, 0⟩) false)
        (start blocks (fun _ => ⟨0, 0⟩) avenue) astray,
      v.after.state.manager.prompts.count .arrived ≤
        v.after.state.manager.prompts.count (.instruction 0) ∧
      v.after.state.manager.prompts.count (.instruction 0) ≤
        v.after.state.manager.prompts.count .recalculate + 1 ∧
      ∃ new, v.after.state.manager.prompts = v.before.state.manager.prompts ++ new ∧
        ∀ play, .play play ∈ new → ∃ r, v.before.state.manager.r_route = some r ∧
          r.leg.HasStep play.ind :=
  ⟨avenue_routable, guidance_prompts _ _ _ _ avenue avenue_routable astray astray_sound⟩

example : (run (step blocks asMeasured (fun _ => ⟨0, 0⟩) false)
    (start blocks (fun _ => ⟨0, 0⟩) avenue) astray).state.manager.prompts =
      [.instruction 0, .recalculate, .recalculate, .recalculate, .instruction 0,
        .play (.makeTurn 1), .arrived, .play (.makeTurn 2)] := by
  decide +kernel

variable (E ok outside android) in
theorem step_finished (hfinished : s.state.manager.sm_nav_state = .finished)
    (hwaiting : s.state.waiting = 0) (hfree : s.state.holder = none) (e : GuidanceEvent) :
    ∃ n, (step E ok outside android s e).state = { s.state with locating := n } := by
  by_cases henabled : s.state.Enabled e
  · have hact : step E ok outside android s e = (act E ok outside android e s).2 :=
      if_pos henabled
    rw [hact]
    cases e with
    | updateLocation => exact updateLocation_eq s
    | processStateMachine mloc now =>
      have hidle : s.state.manager.sm_nav_state ≠ .started := hfinished ▸ TBTNavStates.noConfusion
      exact ⟨_, processStateMachine_eq (RouteManager.processStateMachine_idle hidle)⟩
    | stopTBT => exact absurd henabled.2.1 (hwaiting ▸ Nat.lt_irrefl 0)
    | createRoute trip => exact absurd (hfree.symm.trans henabled.2) (Option.some_ne_none _).symm
    | startRoute =>
      have hnone : s.state.created = none := by
        unfold created
        rw [hfree]
      exact absurd henabled.2 (by rw [hnone]; exact Bool.false_ne_true)
  · have hsame : step E ok outside android s e = s := if_neg henabled
    exact ⟨_, congrArg Session.state hsame⟩

/-- Once the destination is reached and no recalculation is left, nothing is said any
more and the route stays as it is. -/
theorem finished_run (hfinished : s.state.manager.sm_nav_state = .finished)
    (hwaiting : s.state.waiting = 0) (hfree : s.state.holder = none) (es : List GuidanceEvent) :
    (run (step E ok outside android) s es).state.manager = s.state.manager := by
  induction es generalizing s with
  | nil => rfl
  | cons e es ih =>
    obtain ⟨n, hstate⟩ := step_finished E ok outside android hfinished hwaiting hfree e
    rw [run_cons, ih (hstate ▸ hfinished) (hstate ▸ hwaiting) (hstate ▸ hfree), hstate]

end Guidance

end Runs

end UCLinux.Navigation
