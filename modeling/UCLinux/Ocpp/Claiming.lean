import UCLinux.Machine.Run
import UCLinux.Ocpp.Stations

/-!
Whose a station is. A client gets a station by entering it, which claims the
row when nobody owns it, inserts one when there is none, and fails on the
primary key otherwise. Releasing a station is told who asks for it and does
not look at that: any client can release any station.
-/

namespace UCLinux.Ocpp

open Sql Machine Server CentralOcppDB HistoryDB

/-- The calls of clients: entering a station and releasing one. -/
def ClientOp : StationOp → Prop
  | .insert wi => 0 < wi.clientid
  | .delete _ cid => 0 < cid
  | _ => False

/-- How an owner may change: from nobody to the client that enters the
station, from the client that releases it to nobody. -/
inductive Transfer (op : StationOp) (old new : Int) : Prop where
  | kept (h : new = old)
  | claimed (wi : PCSItem) (hop : op = .insert wi) (hold : old = 0) (hnew : new = wi.clientid)
  | released (sern : Text) (hop : op = .delete sern old) (hnew : new = 0)

/-- What a call may do: no two rows get one serial number, every row keeps its
own and its owner changes as it may, and entering an owned serial number
returns 0 and changes nothing. -/
structure OwnersRight (v : Visit Server (Env × StationOp)) : Prop where
  distinct : v.after.chStations.rows.Pairwise fun a b => a.cols.csSerN ≠ b.cols.csSerN
  transfers : ∀ r ∈ v.before.chStations.rows, ∃ r' ∈ v.after.chStations.rows,
    r'.rowid = r.rowid ∧ r'.cols.csSerN = r.cols.csSerN ∧
      Transfer v.event.2 r.cols.clientID r'.cols.clientID
  refused : ∀ wi, v.event.2 = .insert wi →
    (∃ r ∈ v.before.chStations.rows, r.cols.csSerN = wi.serialn ∧ r.cols.clientID ≠ 0) →
    (insertNewChargeStationItem v.event.1 wi v.before.start).1 = 0 ∧
      v.after.chStations = v.before.chStations

/-- What a call has to find: the rows it releases are the client's or
nobody's, and when it enters an owned serial number the C string of this is
not that of a row nobody owns. -/
def RightfulOp (s : Server) (e : Env × StationOp) : Prop :=
  e.2.Literal ∧
  match e.2 with
  | .insert wi => (∃ r ∈ s.chStations.rows, r.cols.csSerN = wi.serialn ∧ r.cols.clientID ≠ 0) →
    ∀ r ∈ s.chStations.rows, r.cols.csSerN = cstr wi.serialn → r.cols.clientID ≠ 0
  | .delete sern cid => ∀ r ∈ s.chStations.rows, r.cols.csSerN = cstr sern →
    r.cols.clientID = cid ∨ r.cols.clientID = 0
  | _ => True

section Calls

variable {E : Env} {s : Server} {op : StationOp}

theorem serials_distinct (t : Table ChStation.key) :
    t.rows.Pairwise fun a b => a.cols.csSerN ≠ b.cols.csSerN := by
  refine t.keys.imp ?_
  intro a b hkeys heq
  rcases hkeys with hnone | hne
  · cases hnone
  · exact hne (congrArg some heq)

/-- A call keeps rowids and serial numbers, and a row it gives another owner
is one its UPDATE selects. -/
theorem call_rows (hop : ∀ cid, op ≠ .poll cid) (h : op.Literal)
    (hwrite : ∀ r ∈ s.chStations.rows, ∀ a, op.write E r = some a →
      a.csSerN = r.cols.csSerN ∧ Transfer op r.cols.clientID a.clientID) :
    ∀ r ∈ s.chStations.rows, ∃ r' ∈ (StationOp.step s (E, op)).chStations.rows,
      r'.rowid = r.rowid ∧ r'.cols.csSerN = r.cols.csSerN ∧
        Transfer op r.cols.clientID r'.cols.clientID := by
  intro r hr
  cases StationOp.step_cases (E := E) op s hop h with
  | same hsame => exact ⟨r, hsame ▸ hr, rfl, rfl, .kept rfl⟩
  | rewritten hrows =>
    refine ⟨Table.rewriteRow (op.write E) r, ?_, Table.rewriteRow_rowid _ r, ?_⟩
    · rw [hrows]
      exact List.mem_map_of_mem hr
    · cases hrow : op.write E r with
      | none =>
        rw [Table.rewriteRow_none hrow]
        exact ⟨rfl, .kept rfl⟩
      | some a =>
        rw [Table.rewriteRow_some hrow]
        exact hwrite r hr a hrow
  | inserted wi flags _ _ hrows =>
    refine ⟨r, ?_, rfl, rfl, .kept rfl⟩
    rw [hrows]
    exact List.mem_append_left _ hr

theorem insert_ownersRight {wi : PCSItem} (h : RightfulOp s (E, .insert wi)) :
    OwnersRight ⟨s, (E, .insert wi), StationOp.step s (E, .insert wi)⟩ := by
  obtain ⟨hliteral, hfree⟩ := h
  refine ⟨serials_distinct _, ?_, ?_⟩
  · apply call_rows (by simp) hliteral
    intro r _ a ha
    simp only [StationOp.write] at ha
    split at ha
    · next hrow =>
      cases ha
      exact ⟨rfl, .claimed wi rfl hrow.1 rfl⟩
    · cases ha
  · rintro wi' hop howned
    cases hop
    cases insert_cases (E := E) s wi hliteral with
    | refused hrv hsame => exact ⟨hrv, hsame⟩
    | claimed hclaims _ =>
      obtain ⟨r, hr, hsome⟩ := hclaims
      simp only [StationOp.write] at hsome
      split at hsome
      · next hrow => exact absurd hrow.1 (hfree howned r hr hrow.2)
      · cases hsome
    | inserted flags _ hnew _ =>
      obtain ⟨r, hr, hserial, _⟩ := howned
      exact absurd hserial (hnew r hr)

theorem delete_ownersRight {sern : Text} {cid : Int} (h : RightfulOp s (E, .delete sern cid)) :
    OwnersRight ⟨s, (E, .delete sern cid), StationOp.step s (E, .delete sern cid)⟩ := by
  obtain ⟨hliteral, hown⟩ := h
  refine ⟨serials_distinct _, ?_, ?_⟩
  · apply call_rows (by simp) hliteral
    intro r hr a ha
    simp only [StationOp.write] at ha
    split at ha
    · next hrow =>
      cases ha
      refine ⟨rfl, ?_⟩
      rcases hown r hr hrow with hmine | hnobody
      · exact .released sern (by rw [hmine]) rfl
      · exact .kept hnobody.symm
    · cases ha
  · intro wi hop
    cases hop

theorem call_ownersRight {e : Env × StationOp} (hclient : ClientOp e.2) (h : RightfulOp s e) :
    OwnersRight ⟨s, e, StationOp.step s e⟩ := by
  obtain ⟨E, op⟩ := e
  cases op with
  | insert wi => exact insert_ownersRight h
  | delete sern cid => exact delete_ownersRight h
  | _ => exact absurd hclient id

end Calls

/-- In every run of such calls each does what it may to the owners. -/
theorem owners_right (s : Server) (es : List (Env × StationOp))
    (hclients : ∀ e ∈ es, ClientOp e.2) (hrightful : Meets StationOp.step RightfulOp s es) :
    ∀ v ∈ visits StationOp.step s es, OwnersRight v := by
  intro v hv
  have hok := hrightful v hv
  have hclient := hclients v.event (event_mem_of_visit hv)
  have hafter := after_eq_step hv
  obtain ⟨s', e, t⟩ := v
  dsimp only at hok hclient hafter
  rw [hafter]
  exact call_ownersRight hclient hok

/-- Client 1 enters a station, client 2 is refused it, client 1 releases
it. -/
theorem owners_right_released :
    (visits StationOp.step Server.empty
      [(.calm, .insert newStation), (.calm, .insert { newStation with clientid := 2 }),
        (.calm, .delete "GRS-0123456789" 1)]).Forall OwnersRight := by
  apply List.forall_iff_forall_mem.mpr
  have hserial : '\'' ∉ cstr newStation.serialn := by decide
  have hserial' : '\'' ∉ cstr "GRS-0123456789" := by decide
  apply owners_right
  · intro e he
    simp only [List.mem_cons, List.not_mem_nil, or_false] at he
    rcases he with rfl | rfl | rfl
    · exact (by decide : (0 : Int) < 1)
    · exact (by decide : (0 : Int) < 2)
    · exact (by decide : (0 : Int) < 1)
  · refine meets_cons.mpr ⟨⟨hserial, fun _ r hr => by cases hr⟩, ?_⟩
    refine meets_cons.mpr ⟨⟨hserial, fun _ => ?_⟩, ?_⟩
    · decide +kernel
    · refine meets_cons.mpr ⟨⟨hserial', ?_⟩, Meets.nil _⟩
      decide +kernel

/-- Client 2 releases the station of client 1. -/
theorem foreign_release :
    ¬ ∀ v ∈ visits StationOp.step Server.empty
        [(.calm, .insert newStation), (.calm, .delete "GRS-0123456789" 2)], OwnersRight v := by
  intro h
  have hlast := h _ (List.mem_cons_of_mem _ (List.mem_cons_self ..))
  have hnobody : ∀ r ∈ (StationOp.step (StationOp.step Server.empty (.calm, .insert newStation))
      (.calm, .delete "GRS-0123456789" 2)).chStations.rows, r.cols.clientID = 0 := by
    decide +kernel
  obtain ⟨r', hr', _, _, htransfer⟩ := hlast.transfers ⟨1, setParams newStation 0⟩
    (by decide +kernel)
  have hzero : r'.cols.clientID = 0 := hnobody r' hr'
  rw [hzero] at htransfer
  cases htransfer with
  | kept h => cases h
  | claimed wi hop _ _ => cases hop
  | released sern hop _ => cases hop

end UCLinux.Ocpp
