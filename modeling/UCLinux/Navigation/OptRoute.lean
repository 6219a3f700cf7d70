import UCLinux.Machine.Recovery
import UCLinux.Navigation.RouteObj

/-!
The round trip over a list of stops. The start is appended as the last point, the
points in between are reordered, and each waypoint is named by the index its
point had before, which is found again by comparing coordinates.
-/

namespace UCLinux.Navigation

open Machine Sql

section Program

variable {F : Type}

structure LatLng (F : Type) where
  lat : F
  lng : F
  deriving DecidableEq, Repr

structure PWayPoint (F : Type) where
  name : Text
  wploc : PPointLL F
  deriving DecidableEq, Repr

/-- The optimised order of the points, as Valhalla returns it: the first and the
last point stay. -/
structure Optimizer (F : Type) where
  reorder : List (LatLng F) → List (LatLng F)
  perm : ∀ ps, (reorder ps).Perm ps
  head : ∀ ps, (reorder ps).head? = ps.head?
  last : ∀ ps, (reorder ps).getLast? = ps.getLast?

variable [DecidableEq F]

/-- The loop of `getIndexInOriginalLocs`, from index `j` on. -/
def searchFrom (ll : LatLng F) : Int → List (LatLng F) → Int
  | _, [] => -1
  | j, p :: pnts => if p.lng = ll.lng ∧ p.lat = ll.lat then j else searchFrom ll (j + 1) pnts

def getIndexInOriginalLocs (k : Nat) (ll : LatLng F) (pnts : List (LatLng F)) : Int :=
  if (pnts[k]?).any fun pos => pos.lng = ll.lng ∧ pos.lat = ll.lat then k
  else searchFrom ll 0 pnts

/-- The waypoints of `__main_run_route`. -/
def waypoints (pnts locations : List (LatLng F)) : List (PWayPoint F) :=
  locations.mapIdx fun k ll =>
    ⟨decimal (getIndexInOriginalLocs k ll pnts), ⟨ll.lng, ll.lat⟩⟩

/-- Latitude and longitude of each stop. -/
def stops : List F → List (LatLng F)
  | lat :: lon :: vIn => ⟨lat, lon⟩ :: stops vIn
  | _ => []

/-- The points of the request: the first is there once more at the end. -/
def points (vIn : List F) : List (LatLng F) := stops vIn ++ (stops vIn).head?.toList

def createOptRoute (O : Optimizer F) (vIn : List F) : Option (List (PWayPoint F)) :=
  if vIn.length < 4 ∨ vIn.length % 2 ≠ 0 then none
  else some (waypoints (points vIn) (O.reorder (points vIn)))

/-- The names are the indices, each once, and the point with that index is where
the waypoint is. -/
def Named (pnts : List (LatLng F)) (wps : List (PWayPoint F)) : Prop :=
  (wps.map PWayPoint.name).Perm ((List.range pnts.length).map fun j : Nat => decimal j) ∧
    ∀ wp ∈ wps, ∃ (j : Nat) (p : LatLng F), wp.name = decimal j ∧ pnts[j]? = some p ∧
      wp.wploc = ⟨p.lng, p.lat⟩

end Program

section Search

variable {F : Type} [DecidableEq F] {pnts locations : List (LatLng F)} {ll : LatLng F} {k : Nat}

omit [DecidableEq F] in
theorem same_iff {p q : LatLng F} : p.lng = q.lng ∧ p.lat = q.lat ↔ p = q := by
  cases p
  cases q
  simp [and_comm]

theorem searchFrom_of_mem (h : ll ∈ pnts) (j : Int) :
    searchFrom ll j pnts = j + pnts.idxOf ll := by
  induction pnts generalizing j with
  | nil => cases h
  | cons p pnts ih =>
    unfold searchFrom
    by_cases hp : p = ll
    · subst hp
      rw [if_pos ⟨rfl, rfl⟩, List.idxOf_cons_self, Int.natCast_zero, Int.add_zero]
    · have hrest : ll ∈ pnts := (List.mem_cons.mp h).resolve_left fun heq => hp heq.symm
      rw [if_neg fun hsame => hp (same_iff.mp hsame), ih hrest, List.idxOf_cons_ne _ hp]
      omega

/-- A point of the request is found again at the index read off its value. -/
theorem getIndexInOriginalLocs_of_mem (h : ll ∈ pnts) :
    getIndexInOriginalLocs k ll pnts = recovered pnts k ll := by
  unfold getIndexInOriginalLocs recovered
  have hstay : ((pnts[k]?).any fun pos => decide (pos.lng = ll.lng ∧ pos.lat = ll.lat)) = true ↔
      pnts[k]? = some ll := by
    rw [Option.any_eq_true]
    simp only [decide_eq_true_eq, same_iff, exists_eq_right]
  rw [apply_ite Nat.cast, searchFrom_of_mem h, Int.zero_add]
  exact if_congr hstay rfl rfl

theorem map_name_waypoints (hmem : ∀ ll ∈ locations, ll ∈ pnts) :
    (waypoints pnts locations).map PWayPoint.name =
      (recovery pnts locations).map fun j : Nat => decimal j := by
  unfold waypoints recovery
  refine List.ext_getElem? fun k => ?_
  rw [List.getElem?_map, List.getElem?_map, List.getElem?_mapIdx, List.getElem?_mapIdx]
  cases hk : locations[k]? with
  | none => rfl
  | some ll =>
    have hindex := getIndexInOriginalLocs_of_mem (k := k) (hmem ll (List.mem_of_getElem? hk))
    exact congrArg (fun j => some (decimal j)) hindex

/-- Each waypoint is where the point is that it is named by. -/
theorem wploc_waypoints (hmem : ∀ ll ∈ locations, ll ∈ pnts) :
    ∀ wp ∈ waypoints pnts locations, ∃ (j : Nat) (p : LatLng F), wp.name = decimal j ∧
      pnts[j]? = some p ∧ wp.wploc = ⟨p.lng, p.lat⟩ := by
  intro wp hwp
  obtain ⟨k, hk, rfl⟩ := List.mem_mapIdx.mp hwp
  have hll := hmem _ (List.getElem_mem hk)
  refine ⟨recovered pnts k locations[k], locations[k], ?_, getElem?_recovered hll, rfl⟩
  exact congrArg decimal (getIndexInOriginalLocs_of_mem hll)

theorem named_waypoints_iff (hperm : locations.Perm pnts) :
    Named pnts (waypoints pnts locations) ↔ Recoverable pnts locations := by
  have hmem : ∀ ll ∈ locations, ll ∈ pnts := fun ll hll => hperm.mem_iff.mp hll
  have hinj : Function.Injective fun j : Nat => decimal j :=
    fun j j' h => Int.ofNat_inj.mp (decimal_injective h)
  unfold Named
  rw [and_iff_left (wploc_waypoints hmem), map_name_waypoints hmem, List.map_perm_map_iff hinj,
    recovery_perm_iff hperm]

/-- The names of the optimised route are right exactly when every point that has
been moved has left the first index with its coordinates, and no other moved
point shares them. -/
theorem createOptRoute_named_iff (O : Optimizer F) (vIn : List F) (wps : List (PWayPoint F))
    (h : createOptRoute O vIn = some wps) :
    Named (points vIn) wps ↔ Recoverable (points vIn) (O.reorder (points vIn)) := by
  unfold createOptRoute at h
  split at h
  · cases h
  · cases h
    exact named_waypoints_iff (O.perm _)

end Search

section Repeated

/-- Two stops of four are at one place. -/
def repeatedStops : List Int := [0, 0, 0, 1, 0, 1, 0, 2]

def repeatedOrder : List (LatLng Int) := [⟨0, 0⟩, ⟨0, 1⟩, ⟨0, 2⟩, ⟨0, 1⟩, ⟨0, 0⟩]

theorem repeatedOrder_perm : repeatedOrder.Perm (points repeatedStops) := by decide

/-- The last two stops change places. -/
def swapping : Optimizer Int where
  reorder ps := if ps = points repeatedStops then repeatedOrder else ps
  perm ps := by
    split
    · rename_i h
      exact h ▸ repeatedOrder_perm
    · exact List.Perm.refl ps
  head ps := by
    split
    · rename_i h
      exact h ▸ rfl
    · rfl
  last ps := by
    split
    · rename_i h
      exact h ▸ rfl
    · rfl

theorem createOptRoute_named_repeated :
    Named (points repeatedStops)
        (waypoints (points repeatedStops) (swapping.reorder (points repeatedStops))) ↔
      Recoverable (points repeatedStops) (swapping.reorder (points repeatedStops)) :=
  createOptRoute_named_iff swapping repeatedStops _ rfl

theorem createOptRoute_twice_named :
    ¬∀ (O : Optimizer Int) (vIn : List Int) (wps : List (PWayPoint Int)),
      createOptRoute O vIn = some wps → Named (points vIn) wps := by
  intro h
  have hnamed := h swapping repeatedStops _ rfl
  rw [named_waypoints_iff (swapping.perm _)] at hnamed
  exact (hnamed 3 ⟨0, 1⟩ rfl (by decide)).1 rfl

end Repeated

end UCLinux.Navigation
