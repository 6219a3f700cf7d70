import UCLinux.Navigation.VoiceRouter

/-!
The route manager: how a route is computed, started and given up, and what a new
location does to a route that is being followed. Off the route another one has to be
computed, which the caller does on a thread of its own.
-/

namespace UCLinux.Navigation

open Machine Sql

section Program

/-- What Valhalla makes of a start and a destination; `unmade` is a path for which the
result could not be constructed. -/
inductive Trip where
  | path (leg : PLegO Rat)
  | noPath
  | unmade
  | throws (std : Bool)
  deriving DecidableEq, Repr

/-- A route of one leg, with the distance that is left at each of its points. -/
structure RoutingResult where
  code : Text
  leg : PLegO Rat
  progress : Progress
  listDistance : List Rat
  deriving DecidableEq, Repr

-- `outside` is what memory holds behind the points
variable (E : Measures Rat) (ok : Outcomes Rat) (outside : Int → PPointLL Rat) (android : Bool)

def distancesFrom : List (PPointLL Rat) → List Rat
  | [] => []
  | [_] => [0]
  | p1 :: p2 :: rest =>
    (E.distance p1 p2 + (distancesFrom (p2 :: rest)).headD 0) :: distancesFrom (p2 :: rest)

def RoutingResult.new (code : Text) (leg : PLegO Rat) : RoutingResult :=
  ⟨code, leg, .start, distancesFrom E leg.geo_points⟩

/-- `main_run_route` for two points: the exit code, and a result of the code 1. -/
def mainRunRoute : Trip → Int × Option RoutingResult
  | .path leg => (0, some (.new E "1".toList leg))
  | .noPath => (-6, none)
  | .unmade => (-7, none)
  | .throws std => (if std then -11 else -10, none)

/-- The next instruction from a location, and how far it is. -/
def RoutingResult.getNextRouteDirectionInfo (r : RoutingResult) (fromLoc : PPointLL Rat) :
    Option NextInfo :=
  let p2 := r.leg.geo_points[r.progress.currentRoute.toNat]?.getD
    (outside r.progress.currentRoute)
  let dist := (r.listDistance[r.progress.currentRoute.toNat]?).getD 0 + E.distance fromLoc p2
  (r.progress.nextInd r.leg).map fun nextInd =>
    ⟨dist - ((r.leg.steps[nextInd.toNat]?).bind fun step =>
      r.listDistance[step.point_start_index.toNat]?).getD 0, nextInd⟩

inductive TBTNavStates where
  | none
  | started
  | finished
  deriving DecidableEq, Repr

/-- What the driver is shown or told. -/
inductive Prompt where
  | instruction (ind : Int)
  | arrived
  | recalculate
  | play (p : Play)
  deriving DecidableEq, Repr

structure RouteManager where
  sm_nav_state : TBTNavStates
  r_route : Option RoutingResult
  voiceRouter : VoiceRouter
  lastFixedLocation : MyLocation Rat
  prompts : List Prompt

/-- The object `createRoute` returns a pointer to: that of the result, which the route
owns if it has taken the result, or one that was made for the error. -/
inductive CreatedRoute where
  | ofResult (code : Text)
  | ofError (code : Text)
  deriving DecidableEq, Repr

def CreatedRoute.code : CreatedRoute → Text
  | .ofResult code => code
  | .ofError code => code

namespace RouteManager

def new : RouteManager := ⟨.none, none, ⟨.unknown, 0, 0⟩, ⟨0, 0, 0, 0⟩, []⟩

/-- Something on the progress along the route; the callers have found that there is
one. -/
def onProgress {α : Type} (x : Action Progress α) : Action RouteManager α :=
  Action.zoom (fun m => m.r_route.elim .start RoutingResult.progress)
    (fun m p => { m with r_route := m.r_route.map fun r => { r with progress := p } }) x

def prompt (p : Prompt) : Action RouteManager Unit :=
  Action.put fun m => { m with prompts := m.prompts ++ [p] }

def createRoute (trip : Trip) : Action RouteManager CreatedRoute :=
  match mainRunRoute E trip with
  | (rv, some result) =>
    if rv = 0 then do
      if result.code = "1".toList then Action.put fun m => { m with r_route := some result }
      pure (.ofResult result.code)
    else do
      Action.put fun m => { m with r_route := none }
      pure (.ofError (decimal rv))
  | (rv, none) => do
    Action.put fun m => { m with r_route := none }
    pure (.ofError (decimal rv))

/-- The points the steps start at, as `startTBT` reads them to mark them on the map. -/
def readSteps (leg : PLegO Rat) : List (PStepO Rat) → Action Progress Unit
  | [] => pure ()
  | step :: steps => do
    let _pnt ← getRoutePointAt outside leg step.point_start_index
    readSteps leg steps

def showSteps (leg : PLegO Rat) : Action RouteManager Unit :=
  if 0 < leg.steps.length then do
    onProgress (readSteps outside leg leg.steps)
    prompt (.instruction 0)
  else pure ()

def startTBT (r : RoutingResult) : Action RouteManager Unit := do
  showSteps outside r.leg
  Action.put fun m => { m with sm_nav_state := .started }

def startRoute : Action RouteManager Int := do
  let route ← Action.look RouteManager.r_route
  match route with
  | none => pure 0
  | some r => do
    Action.put fun m => { m with voiceRouter := m.voiceRouter.reset }
    startTBT outside r
    pure 1

def stopTBT (m : RouteManager) : RouteManager :=
  { m with r_route := none, sm_nav_state := .none }

variable (leg : PLegO Rat) (mloc lastFixedLocation : MyLocation Rat)

/-- The car moves away from the next point: the motion is held against the way there. -/
def checkWrongMovementDirection (nextRouteLocation : PPointLL Rat) : Action Progress Bool :=
  if mloc.hasBearing || lastFixedLocation.hasBearing then
    let bearingMotion := if mloc.hasBearing then mloc.cog
      else E.heading lastFixedLocation.pos mloc.pos
    let bearingToRoute := E.heading mloc.pos nextRouteLocation
    compare ok .less (E.lit 60) (E.abs (E.degreesDiff bearingMotion bearingToRoute))
  else pure false

/-- More than 120 metres beside the segment that ends at the current point. -/
def offRoute : Action Progress Bool := do
  let currentRoute ← Action.look Progress.currentRoute
  if 0 < currentRoute then do
    let p1 ← getRoutePointAt outside leg (currentRoute - 1)
    let p2 ← getRoutePointAt outside leg currentRoute
    compare ok .less (E.lit (2 * POSITION_TOLERANCE)) (E.getOrthogonalDistance mloc.pos p1 p2)
  else pure false

def getNextRouteLocation (currentRoute : Int) : Option (PPointLL Rat) :=
  if currentRoute < leg.geo_points.length then
    some (leg.geo_points[currentRoute.toNat]?.getD (outside currentRoute))
  else none

/-- Whether the car moves the wrong way, and is more than 120 metres from the current
point then. -/
def wrongWay : Action Progress (Bool × Bool) := do
  let currentRoute ← Action.look Progress.currentRoute
  match getNextRouteLocation outside leg currentRoute with
  | none => pure (false, false)
  | some next => do
    let wrongMovementDirection ←
      checkWrongMovementDirection E ok mloc lastFixedLocation next
    let p1 ← getRoutePointAt outside leg currentRoute
    if wrongMovementDirection then do
      let far ← compare ok .less (E.lit (2 * POSITION_TOLERANCE)) (E.distance mloc.pos p1)
      pure (true, far)
    else pure (false, false)

/-- The voice router, with what it reads off the route. -/
def updateVoice (wrongMovementDirection : Bool) (now : Int) (m : RouteManager) : RouteManager :=
  let nextInfo := m.r_route.bind fun r => r.getNextRouteDirectionInfo E outside mloc.pos
  let told := m.voiceRouter.updateVoiceRouterStatus android ⟨nextInfo, wrongMovementDirection, now⟩
  { m with voiceRouter := told.1, prompts := m.prompts ++ told.2.map .play }

/-- The parts 2 to 5 of `process_routing`: whether the route has to be computed anew. -/
def analyzeLocation (now : Int) : Action RouteManager Bool := do
  let lastFixedLocation ← Action.look RouteManager.lastFixedLocation
  let off ← onProgress (offRoute E ok outside leg mloc)
  let (wrongMovementDirection, away) ← onProgress
    (wrongWay E ok outside leg mloc lastFixedLocation)
  let calculateRoute := off || away
  Action.put fun m => if calculateRoute then m
    else updateVoice E outside android mloc wrongMovementDirection now m
  Action.put fun m => { m with lastFixedLocation := mloc }
  pure calculateRoute

/-- Returns whether a thread is started that recalculates the route. -/
def process_routing (now : Int) : Action RouteManager Bool := do
  let calculateRoute ← analyzeLocation E ok outside android leg mloc now
  if calculateRoute then do
    prompt .recalculate
    pure true
  else pure false

def arrive (finished : Bool) : Action RouteManager Unit :=
  if finished then do
    prompt .arrived
    Action.put fun m => { m with sm_nav_state := .finished }
  else pure ()

/-- What a location does on a route that is followed. -/
def follow (now : Int) : Action RouteManager Bool := do
  let lastFixedLocation ← Action.look RouteManager.lastFixedLocation
  let finished ← onProgress
    (updateCurrentRouteStatus E ok outside leg mloc lastFixedLocation)
  arrive finished
  process_routing E ok outside android leg mloc now

/-- `none` is the use of a route that is not there. -/
def processStateMachine (now : Int) : Action RouteManager (Option Bool) := do
  let m ← Action.look id
  match m.sm_nav_state with
  | .none => pure (some false)
  | .finished => pure (some false)
  | .started =>
    match m.r_route with
    | none => pure none
    | some r => do
      let started ← follow E ok outside android r.leg mloc now
      pure (some started)

end RouteManager

end Program

section Purpose

/-- A leg to be followed: its steps start at points it has. -/
structure Routable (leg : PLegO Rat) : Prop where
  points : leg.geo_points ≠ []
  steps : leg.steps ≠ []
  starts : ∀ step ∈ leg.steps,
    0 ≤ step.point_start_index ∧ step.point_start_index < leg.geo_points.length

/-- The instruction that is played. -/
def Play.ind : Play → Int
  | .prepareTurn ind => ind
  | .makeTurn ind => ind
  | .pastVerbalInstruction ind => ind

/-- The index is that of a step of the leg. -/
def PLegO.HasStep (leg : PLegO Rat) (ind : Int) : Prop := 0 ≤ ind ∧ ind < leg.steps.length

/-- The route is `r` up to its progress, which is inside the leg, and so is the
instruction taken on last. -/
structure RouteManager.Follows (m : RouteManager) (r : RoutingResult) (p : Progress) : Prop where
  route : m.r_route = some { r with progress := p }
  onLeg : p.OnLeg r.leg
  heard : r.leg.HasStep m.voiceRouter.prevRouteDirectionIndex

/-- From one state to another on the way along `r`: instructions of it are played. -/
structure RouteManager.OnWay (r : RoutingResult) (m m' : RouteManager) : Prop where
  follows : ∃ p, m'.Follows r p
  same : m'.sm_nav_state = m.sm_nav_state
  said : ∃ plays, m'.prompts = m.prompts ++ List.map .play plays ∧
    ∀ play ∈ plays, r.leg.HasStep play.ind

/-- What a location makes the driver hear. -/
def RouteManager.announced (finished : Bool) (plays : List Play) (recalculate : Bool) : List Prompt :=
  (if finished then [.arrived] else []) ++ plays.map .play ++
    (if recalculate then [.recalculate] else [])

/-- One location on the route `r`: it may arrive, and it may start a recalculation. -/
structure RouteManager.Followed (r : RoutingResult) (m m' : RouteManager)
    (finished recalculate : Bool) : Prop where
  follows : ∃ p, m'.Follows r p
  state : m'.sm_nav_state = if finished then .finished else m.sm_nav_state
  said : ∃ plays, m'.prompts = m.prompts ++ announced finished plays recalculate ∧
    ∀ play ∈ plays, r.leg.HasStep play.ind

end Purpose

section Reads

variable {E : Measures Rat} {ok : Outcomes Rat} {outside : Int → PPointLL Rat} {android : Bool}
  {leg : PLegO Rat} {mloc lastFixedLocation : MyLocation Rat}

namespace RouteManager

/-- Reading a point of the leg keeps what is known of the progress. -/
theorem getRoutePointAt_onLeg {ind : Int} (h : 0 ≤ ind ∧ ind < leg.geo_points.length) :
    (getRoutePointAt outside leg ind).Keeps (Progress.OnLeg leg) (fun _ => True) :=
  getRoutePointAt_keeps fun _ hp => ⟨hp.route_nonneg, hp.route_lt, hp.info_nonneg, hp.info_lt,
    List.forall_mem_cons.mpr ⟨h, hp.points⟩⟩

theorem look_currentRoute_onLeg :
    (Action.look Progress.currentRoute).Keeps (Progress.OnLeg leg)
      (fun c : Int => 0 ≤ c ∧ c < leg.geo_points.length) :=
  fun _ hp => ⟨⟨hp.route_nonneg, hp.route_lt⟩, hp⟩

variable (outside) in
theorem readSteps_onLeg {steps : List (PStepO Rat)}
    (h : ∀ step ∈ steps,
      0 ≤ step.point_start_index ∧ step.point_start_index < leg.geo_points.length) :
    (readSteps outside leg steps).Keeps (Progress.OnLeg leg) (fun _ => True) := by
  induction steps with
  | nil => exact Action.Keeps.pure trivial
  | cons step steps ih =>
    obtain ⟨hfirst, hrest⟩ := List.forall_mem_cons.mp h
    exact Action.Keeps.bind (getRoutePointAt_onLeg hfirst) fun _ _ => ih hrest

theorem offRoute_onLeg :
    (offRoute E ok outside leg mloc).Keeps (Progress.OnLeg leg) (fun _ => True) := by
  refine Action.Keeps.bind look_currentRoute_onLeg fun c hc => ?_
  refine Action.Keeps.ite (fun hpos => ?_) fun _ => Action.Keeps.pure trivial
  refine Action.Keeps.bind (getRoutePointAt_onLeg ⟨by omega, by omega⟩) fun _ _ => ?_
  exact Action.Keeps.bind (getRoutePointAt_onLeg hc) fun _ _ => compare_keeps _ _ _

theorem checkWrongMovementDirection_onLeg {next : PPointLL Rat} :
    (checkWrongMovementDirection E ok mloc lastFixedLocation next).Keeps (Progress.OnLeg leg)
      (fun _ => True) :=
  Action.Keeps.ite (fun _ => compare_keeps _ _ _) fun _ => Action.Keeps.pure trivial

theorem wrongWay_onLeg :
    (wrongWay E ok outside leg mloc lastFixedLocation).Keeps (Progress.OnLeg leg)
      (fun _ => True) := by
  refine Action.Keeps.bind look_currentRoute_onLeg fun c hc => ?_
  cases getNextRouteLocation outside leg c with
  | none => exact Action.Keeps.pure trivial
  | some next =>
    refine Action.Keeps.bind checkWrongMovementDirection_onLeg fun wrong _ => ?_
    refine Action.Keeps.bind (getRoutePointAt_onLeg hc) fun _ _ => ?_
    refine Action.Keeps.ite (fun _ => ?_) fun _ => Action.Keeps.pure trivial
    exact Action.Keeps.bind (compare_keeps _ _ _) fun _ _ => Action.Keeps.pure trivial

end RouteManager

end Reads

section Voice

variable (android : Bool) {leg : PLegO Rat} (v : VoiceRouter) {n : NextInfo} (now : Int)

namespace VoiceRouter

theorem announcePrepare_hasStep (hn : leg.HasStep n.ind) :
    (v.announcePrepare android now n).1.prevRouteDirectionIndex = v.prevRouteDirectionIndex ∧
      ∀ p ∈ (v.announcePrepare android now n).2, leg.HasStep p.ind := by
  unfold announcePrepare
  split
  · exact ⟨rfl, fun p hp => List.mem_singleton.mp hp ▸ hn⟩
  · exact ⟨rfl, fun p hp => absurd hp List.not_mem_nil⟩

theorem announceTurn_hasStep (hn : leg.HasStep n.ind) :
    (v.announceTurn android now n).1.prevRouteDirectionIndex = v.prevRouteDirectionIndex ∧
      ∀ p ∈ (v.announceTurn android now n).2, leg.HasStep p.ind := by
  unfold announceTurn
  split
  · exact ⟨rfl, fun p hp => List.mem_singleton.mp hp ▸ hn⟩
  · exact ⟨rfl, fun p hp => absurd hp List.not_mem_nil⟩

variable {v} in
theorem announcePast_hasStep (hv : leg.HasStep v.prevRouteDirectionIndex) :
    ∀ p ∈ (v.announcePast android now n).2, leg.HasStep p.ind := by
  unfold announcePast
  split
  · exact fun p hp => List.mem_singleton.mp hp ▸ hv
  · exact fun p hp => absurd hp List.not_mem_nil

variable {v} in
theorem takeInstruction_hasStep (wrong : Bool) (hv : leg.HasStep v.prevRouteDirectionIndex)
    (hn : leg.HasStep n.ind) :
    leg.HasStep (v.takeInstruction android now n wrong).1.prevRouteDirectionIndex ∧
      ∀ p ∈ (v.takeInstruction android now n wrong).2, leg.HasStep p.ind := by
  unfold takeInstruction
  split
  · exact ⟨hn, announcePast_hasStep android now hv⟩
  · exact ⟨hv, fun p hp => absurd hp List.not_mem_nil⟩

variable {v} in
/-- What is played, and what is remembered as taken on, are instructions of the leg. -/
theorem updateVoiceRouterStatus_hasStep {r : Reading}
    (hv : leg.HasStep v.prevRouteDirectionIndex)
    (hr : ∀ n, r.nextInfo = some n → leg.HasStep n.ind) :
    leg.HasStep (v.updateVoiceRouterStatus android r).1.prevRouteDirectionIndex ∧
      ∀ p ∈ (v.updateVoiceRouterStatus android r).2, leg.HasStep p.ind := by
  cases hinfo : r.nextInfo with
  | none =>
    rw [updateVoiceRouterStatus_none hinfo]
    exact ⟨hv, fun p hp => absurd hp List.not_mem_nil⟩
  | some n =>
    have hn := hr n hinfo
    unfold updateVoiceRouterStatus
    rw [hinfo]
    dsimp only
    obtain ⟨hprev, hprepare⟩ := announcePrepare_hasStep android v r.now hn
    obtain ⟨hprev', hturn⟩ := announceTurn_hasStep android
      (v.announcePrepare android r.now n).1 r.now hn
    obtain ⟨htaken, hpast⟩ := takeInstruction_hasStep android r.now
      r.wrongMovementDirection (hprev'.trans hprev ▸ hv) hn
    refine ⟨htaken, fun p hp => ?_⟩
    rcases List.mem_append.mp hp with hp | hp
    · exact (List.mem_append.mp hp).elim (hprepare p) (hturn p)
    · exact hpast p hp

end VoiceRouter

end Voice

section Way

variable {E : Measures Rat} {ok : Outcomes Rat} {outside : Int → PPointLL Rat} {android : Bool}
  {mloc lastFixedLocation : MyLocation Rat} {r : RoutingResult} {m : RouteManager}

/-- The instruction ahead is one of the leg. -/
theorem Progress.nextInd_hasStep {leg : PLegO Rat} {p : Progress} (hp : p.OnLeg leg) {i : Int}
    (h : p.nextInd leg = some i) : leg.HasStep i := by
  unfold nextInd at h
  split at h
  · cases h
    exact ⟨by have := hp.info_nonneg; omega, ‹_›⟩
  · cases h

theorem RoutingResult.getNextRouteDirectionInfo_hasStep {loc : PPointLL Rat} {n : NextInfo}
    (hp : r.progress.OnLeg r.leg) (h : r.getNextRouteDirectionInfo E outside loc = some n) :
    r.leg.HasStep n.ind := by
  obtain ⟨i, hi, rfl⟩ := Option.map_eq_some_iff.mp h
  exact Progress.nextInd_hasStep hp hi

namespace RouteManager

theorem OnWay.refl {p : Progress} (h : m.Follows r p) : OnWay r m m :=
  ⟨⟨p, h⟩, rfl, [], (List.append_nil _).symm, fun _ hp => absurd hp List.not_mem_nil⟩

/-- What is done on the progress changes nothing else. -/
theorem onProgress_spec {α : Type} {x : Action Progress α} {P : α → Prop} {p : Progress}
    {s : Session RouteManager} (hx : x.Keeps (Progress.OnLeg r.leg) P)
    (hs : s.state.Follows r p) :
    P (onProgress x s).1 ∧ ∃ q, q.OnLeg r.leg ∧
      (onProgress x s).2.state = { s.state with r_route := some { r with progress := q } } := by
  have hget : s.state.r_route.elim Progress.start RoutingResult.progress = p := by
    rw [hs.route]
    rfl
  have hkept := hx ⟨p, s.asked⟩ hs.onLeg
  unfold onProgress Action.zoom
  dsimp only
  rw [hget, hs.route]
  exact ⟨hkept.1, _, hkept.2, rfl⟩

theorem onProgress_onWay {α : Type} {x : Action Progress α} {P : α → Prop}
    (hx : x.Keeps (Progress.OnLeg r.leg) P) : (onProgress x).Keeps (OnWay r m) P := by
  rintro s ⟨⟨p, hs⟩, hsame, hsaid⟩
  obtain ⟨hP, q, hq, hstate⟩ := onProgress_spec hx hs
  rw [hstate]
  exact ⟨hP, ⟨q, rfl, hq, hs.heard⟩, hsame, hsaid⟩

theorem updateVoice_onWay {wrong : Bool} {now : Int} {m' : RouteManager} (h : OnWay r m m') :
    OnWay r m (updateVoice E outside android mloc wrong now m') := by
  obtain ⟨⟨p, hs⟩, hsame, plays, hnew, hall⟩ := h
  let reading : Reading :=
    ⟨m'.r_route.bind fun r => r.getNextRouteDirectionInfo E outside mloc.pos, wrong, now⟩
  have hinfo : ∀ n, reading.nextInfo = some n → r.leg.HasStep n.ind := by
    intro n hn
    dsimp only [reading] at hn
    rw [hs.route] at hn
    exact RoutingResult.getNextRouteDirectionInfo_hasStep (r := { r with progress := p })
      hs.onLeg hn
  obtain ⟨hheard, hplays⟩ := VoiceRouter.updateVoiceRouterStatus_hasStep android
    hs.heard hinfo
  let told := (m'.voiceRouter.updateVoiceRouterStatus android reading).2
  refine ⟨⟨p, hs.route, hs.onLeg, hheard⟩, hsame, plays ++ told, ?_, fun play hplay => ?_⟩
  · rw [List.map_append, ← List.append_assoc, ← hnew]
    rfl
  · exact (List.mem_append.mp hplay).elim (hall play) (hplays play)

variable (E ok outside) in
theorem analyzeLocation_onWay {now : Int} :
    (analyzeLocation E ok outside android r.leg mloc now).Keeps (OnWay r m)
      (fun _ => True) := by
  refine Action.Keeps.bind (P := fun _ => True) (fun s hs => ⟨trivial, hs⟩) fun last _ => ?_
  refine Action.Keeps.bind (onProgress_onWay offRoute_onLeg) fun off _ => ?_
  refine Action.Keeps.bind (onProgress_onWay wrongWay_onLeg) fun wrong _ => ?_
  refine Action.Keeps.bind (P := fun _ => True) (fun s hs => ⟨trivial, ?_⟩) fun _ _ => ?_
  · rw [Action.put_apply]
    dsimp only
    split
    · exact hs
    · exact updateVoice_onWay hs
  refine Action.Keeps.bind (P := fun _ => True) (fun s hs => ⟨trivial, ?_⟩) fun _ _ => ?_
  · obtain ⟨⟨p, h⟩, hsame, hsaid⟩ := hs
    exact ⟨⟨p, h.route, h.onLeg, h.heard⟩, hsame, hsaid⟩
  exact Action.Keeps.pure trivial

theorem process_routing_followed {now : Int} {p : Progress} {s : Session RouteManager}
    (hs : s.state.Follows r p) :
    Followed r s.state (process_routing E ok outside android r.leg mloc now s).2.state false
      (process_routing E ok outside android r.leg mloc now s).1 := by
  obtain ⟨-, ⟨q, hq⟩, hsame, plays, hplays, hsteps⟩ :=
    analyzeLocation_onWay E ok outside s (OnWay.refl hs)
  unfold process_routing
  rw [Action.bind_apply, Action.ite_apply]
  split
  · refine ⟨⟨q, hq.route, hq.onLeg, hq.heard⟩, hsame, plays, ?_, hsteps⟩
    calc _ = _ := congrArg (· ++ [Prompt.recalculate]) hplays
      _ = _ := List.append_assoc _ _ _
  · refine ⟨⟨q, hq⟩, hsame, plays, hplays.trans ?_, hsteps⟩
    exact congrArg (s.state.prompts ++ ·) (List.append_nil _).symm

/-- What has been said of an arrival comes first. -/
theorem Followed.after {m m₁ m' : RouteManager} {finished recalculate : Bool}
    (h : Followed r m₁ m' false recalculate)
    (hstate : m₁.sm_nav_state = if finished then .finished else m.sm_nav_state)
    (hprompts : m₁.prompts = m.prompts ++ if finished then [.arrived] else []) :
    Followed r m m' finished recalculate := by
  obtain ⟨hfollows, hsame, plays, hplays, hsteps⟩ := h
  refine ⟨hfollows, hsame.trans hstate, plays, ?_, hsteps⟩
  rw [hplays, hprompts]
  unfold announced
  simp

variable (ok outside android mloc) in
theorem follow_followed (now : Int) {p : Progress} {s : Session RouteManager}
    (hs : s.state.Follows r p) :
    ∃ finished,
      Followed r s.state (follow E ok outside android r.leg mloc now s).2.state finished
        (follow E ok outside android r.leg mloc now s).1 := by
  have hstatus : (updateCurrentRouteStatus E ok outside r.leg mloc
      s.state.lastFixedLocation).Keeps (Progress.OnLeg r.leg) (fun _ => True) := fun t ht =>
    ⟨trivial, (updateCurrentRouteStatus_advances E ok outside mloc _ ht).onLeg⟩
  obtain ⟨-, q, hq, hstate⟩ := onProgress_spec hstatus hs
  unfold follow
  rw [Action.bind_apply, Action.look_apply, Action.bind_apply, Action.bind_apply]
  dsimp only
  generalize onProgress (updateCurrentRouteStatus E ok outside r.leg mloc
    s.state.lastFixedLocation) s = u at hstate ⊢
  obtain ⟨finished, t⟩ := u
  refine ⟨finished, ?_⟩
  cases finished with
  | false =>
    refine (process_routing_followed (p := q) ?_).after ?_ ?_
    · exact hstate ▸ ⟨rfl, hq, hs.heard⟩
    · exact (congrArg sm_nav_state hstate : t.state.sm_nav_state = _)
    · exact (congrArg prompts hstate).trans (List.append_nil _).symm
  | true =>
    refine (process_routing_followed (p := q) ?_).after rfl ?_
    · exact ⟨congrArg r_route hstate, hq, (congrArg voiceRouter hstate) ▸ hs.heard⟩
    · exact congrArg (fun m => m.prompts ++ [Prompt.arrived]) hstate

variable {s : Session RouteManager} {now : Int}

theorem processStateMachine_idle (h : s.state.sm_nav_state ≠ .started) :
    processStateMachine E ok outside android mloc now s = (some false, s) := by
  unfold processStateMachine
  rw [Action.bind_apply, Action.look_apply]
  dsimp only [id]
  cases hstate : s.state.sm_nav_state with
  | none => rfl
  | started => exact absurd hstate h
  | finished => rfl

theorem processStateMachine_started (h : s.state.sm_nav_state = .started)
    (hroute : s.state.r_route = some r) :
    processStateMachine E ok outside android mloc now s =
      (some (follow E ok outside android r.leg mloc now s).1,
        (follow E ok outside android r.leg mloc now s).2) := by
  unfold processStateMachine
  rw [Action.bind_apply, Action.look_apply]
  dsimp only [id]
  rw [h, hroute]
  rfl

end RouteManager

end Way

section Route

variable {E : Measures Rat} {outside : Int → PPointLL Rat} {r : RoutingResult}
  {s : Session RouteManager}

namespace RouteManager

theorem createRoute_path (leg : PLegO Rat) :
    createRoute E (.path leg) s = (.ofResult "1".toList,
      ⟨{ s.state with r_route := some (.new E "1".toList leg) }, s.asked⟩) := rfl

/-- Of no other trip there is a route, and its code is not that of a route. -/
theorem createRoute_error {trip : Trip} (h : ∀ leg, trip ≠ .path leg) :
    ∃ code, code ≠ "1".toList ∧ createRoute E trip s =
      (.ofError code, ⟨{ s.state with r_route := none }, s.asked⟩) := by
  cases trip with
  | path leg => exact absurd rfl (h leg)
  | noPath => exact ⟨decimal (-6), by decide, rfl⟩
  | unmade => exact ⟨decimal (-7), by decide, rfl⟩
  | throws std =>
    cases std
    · exact ⟨decimal (-10), by decide, rfl⟩
    · exact ⟨decimal (-11), by decide, rfl⟩

variable (outside) in
theorem startTBT_spec {p : Progress} (hs : s.state.Follows r p) (hr : Routable r.leg) :
    (∃ p, (startTBT outside r s).2.state.Follows r p) ∧
      (startTBT outside r s).2.state.sm_nav_state = .started ∧
      (startTBT outside r s).2.state.prompts = s.state.prompts ++ [.instruction 0] := by
  have hsteps := List.length_pos_iff.mpr hr.steps
  obtain ⟨-, q, hq, hstate⟩ :=
    onProgress_spec (readSteps_onLeg outside hr.starts) hs
  unfold startTBT showSteps
  rw [Action.bind_apply, if_pos hsteps]
  refine ⟨⟨q, ?_, hq, ?_⟩, rfl, ?_⟩
  · exact congrArg r_route hstate
  · exact (congrArg voiceRouter hstate) ▸ hs.heard
  · exact congrArg (fun m => m.prompts ++ [Prompt.instruction 0]) hstate

variable (outside) in
/-- A route that can be followed is started from its first instruction. -/
theorem startRoute_spec (hroute : s.state.r_route = some r) (hr : Routable r.leg)
    (hp : r.progress.OnLeg r.leg) :
    (∃ p, (startRoute outside s).2.state.Follows r p) ∧
      (startRoute outside s).2.state.sm_nav_state = .started ∧
      (startRoute outside s).2.state.prompts = s.state.prompts ++ [.instruction 0] := by
  have hsteps := List.length_pos_iff.mpr hr.steps
  have hstart : RouteManager.Follows { s.state with voiceRouter := s.state.voiceRouter.reset }
      r r.progress := ⟨hroute, hp, Int.le_refl 0, Int.natCast_pos.mpr hsteps⟩
  have hspec := startTBT_spec outside (s := ⟨_, s.asked⟩) hstart hr
  unfold startRoute
  rw [Action.bind_apply, Action.look_apply]
  dsimp only
  rw [hroute]
  exact hspec

end RouteManager

end Route

end UCLinux.Navigation
