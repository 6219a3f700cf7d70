import UCLinux.Machine.Attempt
import UCLinux.Ocpp.Envelope
import UCLinux.Ocpp.Schemas

/-!
Loading a message from JSON. The archive walks through the document with a stack of
iterators, one for each node it is in; a member is sought by its name, an element is the
next one. An exception leaves the stack as it is: when it comes out of a member that is
optional it is swallowed, and the members that follow are sought in the node the archive was
in when it was raised.
-/

namespace UCLinux.Ocpp.Cereal

open Sql Rfc3339 Machine

section Program

/-- What a call may end with: an exception of the library, one of another library, which the
archive does not know, or a read past the end of a node. -/
inductive Stop where
  | exception
  | foreign
  | outOfBounds
  deriving DecidableEq, Repr

/-- The nodes of one level, and where the archive is among them. -/
inductive Iterator where
  | member (ms : List (Text × Json.Value)) (index : Nat)
  | value (vs : List Json.Value) (index : Nat)

namespace Iterator

/-- `operator++` -/
def next : Iterator → Iterator
  | member ms index => member ms (index + 1)
  | value vs index => value vs (index + 1)

def current : Iterator → Except Stop Json.Value
  | member ms index => (ms[index]?.map Prod.snd).elim (.error .outOfBounds) .ok
  | value vs index => vs[index]?.elim (.error .outOfBounds) .ok

/-- The name of a member is a C string for the archive. -/
def name : Iterator → Option Text
  | member ms index => ms[index]?.map fun m => cstr m.1
  | value _ _ => none

def search (searchName : Text) : Iterator → Except Stop Iterator
  | member ms _ =>
    (ms.findIdx? fun m => cstr m.1 = searchName).elim (.error .exception) fun index =>
      .ok (member ms index)
  | value _ _ => .error .exception

end Iterator

/-- The iterator stack has its back first. -/
structure JSONInputArchive where
  itsNextName : Option Text
  itsIteratorStack : List Iterator
  itsDocument : Json.Value

abbrev Load : Type → Type := Attempt JSONInputArchive Stop

def setNextName (name : Option Text) : Load Unit :=
  .put fun archive => { archive with itsNextName := name }

def search : Load Unit := fun archive =>
  match archive.itsNextName, archive.itsIteratorStack with
  | none, _ => (.ok (), archive)
  | some _, [] => (.error .outOfBounds, archive)
  | some name, back :: rest =>
    if back.name = some name then (.ok (), { archive with itsNextName := none })
    else
      match back.search name with
      | .error e => (.error e, archive)
      | .ok found => (.ok (), ⟨none, found :: rest, archive.itsDocument⟩)

/-- `itsIteratorStack.back().value()` -/
def value : Load Json.Value :=
  .look fun archive =>
    match archive.itsIteratorStack with
    | [] => .error .outOfBounds
    | back :: _ => back.current

/-- `++itsIteratorStack.back()` -/
def advance : Load Unit :=
  .put fun archive =>
    { archive with itsIteratorStack := archive.itsIteratorStack.modifyHead Iterator.next }

def push (node : Iterator) : Load Unit :=
  .put fun archive => { archive with itsIteratorStack := node :: archive.itsIteratorStack }

def startNode : Load Unit := do
  search
  let v ← value
  match v with
  | .array vs => push (.value vs 0)
  | .object ms => push (.member ms 0)
  | _ => .fail .exception

def finishNode : Load Unit := do
  .put fun archive => { archive with itsIteratorStack := archive.itsIteratorStack.tail }
  advance

/-- `loadValue`, with what it asks of the value. -/
def loadValue {α : Type} (get : Json.Value → Option α) : Load α := do
  search
  let v ← value
  match get v with
  | some a => do
    advance
    pure a
  | none => .fail .exception

def getInt : Json.Value → Option CInt
  | .number t =>
    (lexemeInt t).bind fun n => if h : -(2 ^ 31) ≤ n ∧ n < 2 ^ 31 then some ⟨n, h⟩ else none
  | _ => none

def getBool : Json.Value → Option Bool
  | .bool b => some b
  | _ => none

def getDouble (D : Doubles) : Json.Value → Option D.Double
  | .number t => some (D.read t)
  | _ => none

/-- The text up to its first NUL. -/
def getString : Json.Value → Option Text
  | .string s => some (cstr s)
  | _ => none

/-- `Size()` -/
def sizeOfArray : Json.Value → Except Stop Nat
  | .array vs => .ok vs.length
  | _ => .error .exception

def loadSize : Load Nat :=
  .look fun archive =>
    match archive.itsIteratorStack with
    | _ :: node :: _ => node.current.bind sizeOfArray
    | _ => sizeOfArray archive.itsDocument

/-- `schema_string::copy` -/
def copy (maxSize : Nat) (value : Text) : Option { t : Text // t.length ≤ maxSize } :=
  if h : value.length ≤ maxSize then
    if value.length < 1 then none else some ⟨value, h⟩
  else none

/-- `SchemaEnum::verify`, of which the empty text is a failure. -/
def verify (names : List Text) (value : Text) : Option { t : Text // t = [] ∨ t ∈ names } :=
  if h : names.contains value then
    if value = [] then none else some ⟨value, .inr (List.contains_iff_mem.mp h)⟩
  else none

/-- `load_minimal` of a class that keeps a text it checks. -/
def loadChecked {α : Type} (check : Text → Option α) : Load α := do
  let value ← loadValue getString
  match check value with
  | some a => pure a
  | none => .fail .exception

def enforceSizeConstraints (maxSize minSize size : Nat) : Load Unit :=
  if size < minSize then .fail .exception
  else if maxSize < size then .fail .exception
  else pure ()

def nvp {α : Type} (name : Text) (x : Load α) : Load α := do
  setNextName (some name)
  x

/-- `nvp` of an optional member. -/
def nvpOptional {α : Type} (name : Text) (x : Load α) : Load (Option α) :=
  Attempt.catching
    (do
      let t ← nvp name x
      pure (some t))
    fun
      | .exception => do
        setNextName none
        pure none
      | e => .fail e

variable (D : Doubles) (z : Zone)

mutual

/-- `archive(value)` -/
def Ty.load : (ty : Ty) → Load (ty.Val D)
  | .int => loadValue getInt
  | .bool => loadValue getBool
  | .double => loadValue (getDouble D)
  | .string => loadValue getString
  | .schemaString maxSize => loadChecked (copy maxSize)
  | .schemaEnum names => loadChecked (verify names)
  | .dateTime => do
    let value ← loadValue getString
    match loadMinimal z value with
    | .ok tp => pure tp
    | .error _ => .fail .foreign
  | .schemaArray elem maxSize minSize => do
    startNode
    let size ← loadSize
    enforceSizeConstraints maxSize minSize size
    let vs ← Attempt.many (elem.load) size
    finishNode
    pure vs
  | .record fields => do
    startNode
    let v ← fields.serialize
    finishNode
    pure v

/-- `serialize`: the members in turn. -/
def Fields.serialize : (fields : Fields) → Load (fields.Val D)
  | .nil => pure ()
  | .required name ty rest => do
    let v ← nvp name ty.load
    let vs ← rest.serialize
    pure (v, vs)
  | .optional name ty rest => do
    let v ← nvpOptional name ty.load
    let vs ← rest.serialize
    pure (v, vs)

end

/-- A message is loaded from the members of a document; an array has elements instead, and
anything else is refused. -/
def Fields.loadFrom (fields : Fields) (document : Json.Value) : Except Stop (fields.Val D) :=
  match document with
  | .array vs => (fields.serialize D z ⟨none, [.value vs 0], document⟩).1
  | .object ms => (fields.serialize D z ⟨none, [.member ms 0], document⟩).1
  | _ => .error .exception

end Program

section Purpose

/-- Where an exception leaves the archive: before the value it was to load, behind it, or in
a node of it. -/
inductive Place where
  | before
  | behind
  | inside (node : Iterator)

/-- Where the archive goes on from there. -/
def Place.of (it : Iterator) : Place → Iterator
  | before => it
  | behind => it.next
  | inside node => node

inductive Failure (π : Type) where
  | exception (place : π)
  | foreign

/-- The member of this name: the current one if it has it, else the first that has. -/
def Iterator.find (sought : Text) : Iterator → Option (Iterator × Json.Value)
  | .member ms index =>
    let found := if (Iterator.member ms index).name = some sought then some index
      else ms.findIdx? fun m => cstr m.1 = sought
    found.bind fun index => ms[index]?.map fun m => (.member ms index, m.2)
  | .value _ _ => none

def readValue {α : Type} (get : Json.Value → Option α) (v : Json.Value) :
    Except (Failure Place) α :=
  (get v).elim (.error (.exception .before)) .ok

def readChecked {α : Type} (check : Text → Option α) (v : Json.Value) :
    Except (Failure Place) α :=
  (readValue getString v).bind fun t => (check t).elim (.error (.exception .behind)) .ok

/-- A value and the rest of its node, which is read from behind it. -/
def joined {α β γ : Type} (g : α → β → γ) (it : Iterator)
    (rest : Except (Failure Iterator) (β × Iterator)) :
    Except (Failure Place) α → Except (Failure Iterator) (γ × Iterator)
  | .ok a => rest.map fun p => (g a p.1, p.2)
  | .error (.exception place) => .error (.exception (place.of it))
  | .error .foreign => .error .foreign

/-- An optional value and the rest of its node, which is read from where an exception left
the archive. -/
def attempted {α β : Type} (it : Iterator)
    (rest : Iterator → Except (Failure Iterator) (β × Iterator)) :
    Except (Failure Place) α → Except (Failure Iterator) ((Option α × β) × Iterator)
  | .ok a => (rest it.next).map fun p => ((some a, p.1), p.2)
  | .error (.exception place) => (rest (place.of it)).map fun p => ((none, p.1), p.2)
  | .error .foreign => .error .foreign

/-- The elements of an array, from the one with this index on. -/
def readAll {α : Type} (read : Json.Value → Except (Failure Place) α) (vs : List Json.Value) :
    Nat → List Json.Value → Except (Failure Iterator) (List α × Iterator)
  | index, [] => .ok ([], .value vs index)
  | index, v :: rest =>
    joined List.cons (.value vs index) (readAll read vs (index + 1) rest) (read v)

/-- An array and a record are nodes of their own. -/
def enclosed {α : Type} : Except (Failure Iterator) (α × Iterator) → Except (Failure Place) α
  | .ok r => .ok r.1
  | .error (.exception node) => .error (.exception (.inside node))
  | .error .foreign => .error .foreign

variable (D : Doubles) (z : Zone)

mutual

/-- What a value is read as, without an archive. -/
def Ty.read : (ty : Ty) → Json.Value → Except (Failure Place) (ty.Val D)
  | .int, v => readValue getInt v
  | .bool, v => readValue getBool v
  | .double, v => readValue (getDouble D) v
  | .string, v => readValue getString v
  | .schemaString maxSize, v => readChecked (copy maxSize) v
  | .schemaEnum names, v => readChecked (verify names) v
  | .dateTime, v => (readValue getString v).bind fun t =>
    match loadMinimal z t with
    | .ok tp => .ok tp
    | .error _ => .error .foreign
  | .schemaArray elem maxSize minSize, v =>
    match v with
    | .array vs =>
      if minSize ≤ vs.length ∧ vs.length ≤ maxSize then enclosed (readAll elem.read vs 0 vs)
      else .error (.exception (.inside (.value vs 0)))
    | .object ms => .error (.exception (.inside (.member ms 0)))
    | _ => .error (.exception .before)
  | .record fields, v =>
    match v with
    | .array vs => enclosed (fields.read (.value vs 0))
    | .object ms => enclosed (fields.read (.member ms 0))
    | _ => .error (.exception .before)

/-- The members of a record, each sought from where the archive is. -/
def Fields.read : (fields : Fields) → Iterator →
    Except (Failure Iterator) (fields.Val D × Iterator)
  | .nil, it => .ok ((), it)
  | .required name ty rest, it =>
    match it.find name with
    | none => .error (.exception it)
    | some (found, v) => joined Prod.mk found (rest.read found.next) (ty.read v)
  | .optional name ty rest, it =>
    match it.find name with
    | none => (rest.read it).map fun r => ((none, r.1), r.2)
    | some (found, v) => attempted found rest.read (ty.read v)

end

/-- How a call ends that reads so. -/
def outcome {α : Type} : Except (Failure Iterator) α → Except Stop α
  | .ok a => .ok a
  | .error (.exception _) => .error .exception
  | .error .foreign => .error .foreign

/-- What a message is read as. -/
def Fields.readFrom (fields : Fields) : Json.Value → Except (Failure Iterator) (fields.Val D)
  | .array vs => (fields.read D z (.value vs 0)).map Prod.fst
  | .object ms => (fields.read D z (.member ms 0)).map Prod.fst
  | _ => .error (.exception (.value [] 0))

/-- The optional members have no nodes an exception could leave the archive in. -/
def Fields.closed : Fields → Bool
  | .nil => true
  | .required _ _ rest => rest.closed
  | .optional _ ty rest => ty.minimal && rest.closed

mutual

/-- No record below is left open. -/
def Ty.tight : Ty → Bool
  | .schemaArray elem _ _ => elem.tight
  | .record fields => fields.closed && fields.tight
  | _ => true

def Fields.tight : Fields → Bool
  | .nil => true
  | .required _ ty rest | .optional _ ty rest => ty.tight && rest.tight

end

end Purpose

section Walking

variable {α : Type} {ar : JSONInputArchive} {it found node : Iterator} {rest : List Iterator}
  {v doc : Json.Value} {sought : Text} {name : Option Text}

/-- The archive comes to this value when it searches. -/
structure Stands (ar : JSONInputArchive) (it : Iterator) (v : Json.Value)
    (rest : List Iterator) : Prop where
  searched : search ar = (.ok (), ⟨none, it :: rest, ar.itsDocument⟩)
  current : it.current = .ok v

theorem Iterator.find_current (h : it.find sought = some (found, v)) : found.current = .ok v := by
  cases it with
  | value vs index => cases h
  | member ms index =>
    obtain ⟨i, _, hmap⟩ := Option.bind_eq_some_iff.mp h
    obtain ⟨m, hm, hpair⟩ := Option.map_eq_some_iff.mp hmap
    cases hpair
    simp [Iterator.current, hm]

/-- What is found is the current member, or what a search comes to. -/
theorem Iterator.find_cases (h : it.find sought = some (found, v)) :
    it.name = some sought ∧ found = it ∨
      it.name ≠ some sought ∧ it.search sought = .ok found := by
  cases it with
  | value vs index => cases h
  | member ms index =>
    obtain ⟨i, hi, hmap⟩ := Option.bind_eq_some_iff.mp h
    obtain ⟨m, hm, hpair⟩ := Option.map_eq_some_iff.mp hmap
    cases hpair
    by_cases hname : (Iterator.member ms index).name = some sought
    · rw [if_pos hname] at hi
      cases hi
      exact .inl ⟨hname, rfl⟩
    · rw [if_neg hname] at hi
      exact .inr ⟨hname, by simp [Iterator.search, hi]⟩

theorem Iterator.find_none (h : it.find sought = none) :
    it.name ≠ some sought ∧ it.search sought = .error .exception := by
  cases it with
  | value vs index => exact ⟨by simp [Iterator.name], rfl⟩
  | member ms index =>
    by_cases hname : (Iterator.member ms index).name = some sought
    · obtain ⟨m, hm, _⟩ := Option.map_eq_some_iff.mp hname
      simp [Iterator.find, hname, hm] at h
    · refine ⟨hname, ?_⟩
      cases hi : ms.findIdx? fun m => cstr m.1 = sought with
      | none => simp [Iterator.search, hi]
      | some i =>
        obtain ⟨hlt, _⟩ := List.findIdx?_eq_some_iff_getElem.mp hi
        simp [Iterator.find, hname, hi, hlt] at h

theorem search_found (h : it.find sought = some (found, v)) (rest : List Iterator)
    (doc : Json.Value) : Stands ⟨some sought, it :: rest, doc⟩ found v rest := by
  refine ⟨?_, Iterator.find_current h⟩
  unfold search
  dsimp only
  rcases Iterator.find_cases h with ⟨hname, rfl⟩ | ⟨hname, hsearch⟩
  · rw [if_pos hname]
  · rw [if_neg hname, hsearch]

theorem search_missing (h : it.find sought = none) (rest : List Iterator) (doc : Json.Value) :
    search ⟨some sought, it :: rest, doc⟩ =
      (.error .exception, ⟨some sought, it :: rest, doc⟩) := by
  obtain ⟨hname, hsearch⟩ := Iterator.find_none h
  unfold search
  dsimp only
  rw [if_neg hname, hsearch]

/-- An element has no name to be sought by. -/
theorem search_element (h : it.current = .ok v) : Stands ⟨none, it :: rest, doc⟩ it v rest :=
  ⟨rfl, h⟩

theorem value_apply (h : it.current = .ok v) :
    value ⟨name, it :: rest, doc⟩ = (.ok v, ⟨name, it :: rest, doc⟩) := by
  unfold value
  rw [Attempt.look_apply]
  dsimp only
  rw [h]

theorem loadValue_some {get : Json.Value → Option α} {a : α} (h : Stands ar it v rest)
    (hget : get v = some a) :
    loadValue get ar = (.ok a, ⟨none, it.next :: rest, ar.itsDocument⟩) := by
  unfold loadValue
  rw [Attempt.bind_ok h.searched, Attempt.bind_ok (value_apply h.current), hget]
  rfl

theorem loadValue_none {get : Json.Value → Option α} (h : Stands ar it v rest)
    (hget : get v = none) :
    loadValue get ar = (.error .exception, ⟨none, it :: rest, ar.itsDocument⟩) := by
  unfold loadValue
  rw [Attempt.bind_ok h.searched, Attempt.bind_ok (value_apply h.current), hget]
  rfl

end Walking

section Loading

variable {α β γ : Type} {ar : JSONInputArchive} {it : Iterator} {rest : List Iterator}
  {v doc : Json.Value}

/-- How loading a value ends that is read so. -/
inductive Ends (it : Iterator) (rest : List Iterator) (doc : Json.Value) :
    Except (Failure Place) α → Except Stop α × JSONInputArchive → Prop where
  | ok (a : α) : Ends it rest doc (.ok a) (.ok a, ⟨none, it.next :: rest, doc⟩)
  | before : Ends it rest doc (.error (.exception .before))
      (.error .exception, ⟨none, it :: rest, doc⟩)
  | behind : Ends it rest doc (.error (.exception .behind))
      (.error .exception, ⟨none, it.next :: rest, doc⟩)
  | inside (node : Iterator) (name : Option Text) (below : List Iterator) :
      Ends it rest doc (.error (.exception (.inside node)))
        (.error .exception, ⟨name, node :: (below ++ rest), doc⟩)
  | foreign (ar : JSONInputArchive) : Ends it rest doc (.error .foreign) (.error .foreign, ar)

/-- How the walk through a node ends: if it is closed, with the nodes below as they were. -/
inductive NodeEnds (closed : Prop) (rest : List Iterator) (doc : Json.Value) :
    Except (Failure Iterator) (α × Iterator) → Except Stop α × JSONInputArchive → Prop where
  | ok (a : α) (node : Iterator) (below : List Iterator) (hclosed : closed → below = []) :
      NodeEnds closed rest doc (.ok (a, node)) (.ok a, ⟨none, node :: (below ++ rest), doc⟩)
  | exception (node : Iterator) (name : Option Text) (below : List Iterator) :
      NodeEnds closed rest doc (.error (.exception node))
        (.error .exception, ⟨name, node :: (below ++ rest), doc⟩)
  | foreign (ar : JSONInputArchive) :
      NodeEnds closed rest doc (.error .foreign) (.error .foreign, ar)

theorem loadValue_ends (get : Json.Value → Option α) (h : Stands ar it v rest) :
    Ends it rest ar.itsDocument (readValue get v) (loadValue get ar) := by
  unfold readValue
  cases hget : get v with
  | none =>
    rw [loadValue_none h hget]
    exact .before
  | some a =>
    rw [loadValue_some h hget]
    exact .ok a

theorem loadChecked_ends (check : Text → Option α) (h : Stands ar it v rest) :
    Ends it rest ar.itsDocument (readChecked check v) (loadChecked check ar) := by
  unfold readChecked readValue loadChecked
  cases hget : getString v with
  | none =>
    rw [Attempt.bind_error (loadValue_none h hget)]
    exact .before
  | some t =>
    rw [Attempt.bind_ok (loadValue_some h hget)]
    dsimp only [Option.elim, Except.bind]
    cases check t with
    | none => exact .behind
    | some a => exact .ok a

/-- What is loaded in a node of its own. -/
theorem NodeEnds.enclosed {x : Load α} {r : Except (Failure Iterator) (α × Iterator)}
    (h : NodeEnds True (it :: rest) doc r (x ar)) :
    Ends it rest doc (enclosed r) ((do let a ← x; finishNode; pure a : Load α) ar) := by
  generalize hx : x ar = out at h
  cases h with
  | ok a node below hclosed =>
    obtain rfl := hclosed trivial
    rw [Attempt.bind_ok hx]
    exact .ok a
  | exception node name below =>
    rw [Attempt.bind_error hx, List.append_cons]
    exact .inside node name _
  | foreign ar =>
    rw [Attempt.bind_error hx]
    exact .foreign ar

/-- What is made of the walk through the rest of a node. -/
theorem NodeEnds.map {closed : Prop} {y : Load β} {q : Except (Failure Iterator) (β × Iterator)}
    (f : β → γ) (h : NodeEnds closed rest doc q (y ar)) :
    NodeEnds closed rest doc (q.map fun p => (f p.1, p.2))
      ((do let b ← y; pure (f b) : Load γ) ar) := by
  generalize hy : y ar = out at h
  cases h with
  | ok b node below hclosed =>
    rw [Attempt.bind_ok hy]
    exact .ok (f b) node below hclosed
  | exception node name below =>
    rw [Attempt.bind_error hy]
    exact .exception node name below
  | foreign ar =>
    rw [Attempt.bind_error hy]
    exact .foreign ar

/-- A value and the rest of its node. -/
theorem Ends.joined {closed : Prop} {x : Load α} {y : Load β} {r : Except (Failure Place) α}
    {q : Except (Failure Iterator) (β × Iterator)} (g : α → β → γ) (hx : Ends it rest doc r (x ar))
    (hy : NodeEnds closed rest doc q (y ⟨none, it.next :: rest, doc⟩)) :
    NodeEnds closed rest doc (joined g it q r)
      ((do let a ← x; let b ← y; pure (g a b) : Load γ) ar) := by
  generalize hout : x ar = out at hx
  cases hx with
  | ok a =>
    rw [Attempt.bind_ok hout]
    exact hy.map (g a)
  | before =>
    rw [Attempt.bind_error hout]
    exact .exception it none []
  | behind =>
    rw [Attempt.bind_error hout]
    exact .exception it.next none []
  | inside node name below =>
    rw [Attempt.bind_error hout]
    exact .exception node name below
  | foreign ar =>
    rw [Attempt.bind_error hout]
    exact .foreign ar

/-- The elements of an array are loaded as they are read. -/
theorem many_ends {x : Load α} {read : Json.Value → Except (Failure Place) α}
    (hx : ∀ ar it v rest, Stands ar it v rest → Ends it rest ar.itsDocument (read v) (x ar))
    (vs : List Json.Value) (below : List Iterator) (index : Nat) (remaining : List Json.Value)
    (h : vs.drop index = remaining) :
    NodeEnds True below doc (readAll read vs index remaining)
      (x.many remaining.length ⟨none, .value vs index :: below, doc⟩) := by
  induction remaining generalizing index with
  | nil => exact .ok [] _ [] fun _ => rfl
  | cons v remaining ih =>
    have hcurrent : (Iterator.value vs index).current = .ok v := by
      have hget : vs[index]? = some v := by
        rw [← List.head?_drop, h]
        rfl
      simp [Iterator.current, hget]
    have hnext : vs.drop (index + 1) = remaining := by
      rw [← List.drop_drop, h]
      rfl
    have hfirst := hx ⟨none, .value vs index :: below, doc⟩ _ v below (search_element hcurrent)
    rw [List.length_cons, Attempt.many_succ]
    exact hfirst.joined List.cons (ih (index + 1) hnext)

theorem startNode_array {vs : List Json.Value} (h : Stands ar it (.array vs) rest) :
    startNode ar = (.ok (), ⟨none, .value vs 0 :: it :: rest, ar.itsDocument⟩) := by
  unfold startNode
  rw [Attempt.bind_ok h.searched, Attempt.bind_ok (value_apply h.current)]
  rfl

theorem startNode_object {ms : List (Text × Json.Value)} (h : Stands ar it (.object ms) rest) :
    startNode ar = (.ok (), ⟨none, .member ms 0 :: it :: rest, ar.itsDocument⟩) := by
  unfold startNode
  rw [Attempt.bind_ok h.searched, Attempt.bind_ok (value_apply h.current)]
  rfl

/-- A value without a node is not entered. -/
theorem startNode_other (h : Stands ar it v rest) (harray : ∀ vs, v ≠ .array vs)
    (hobject : ∀ ms, v ≠ .object ms) :
    startNode ar = (.error .exception, ⟨none, it :: rest, ar.itsDocument⟩) := by
  unfold startNode
  rw [Attempt.bind_ok h.searched, Attempt.bind_ok (value_apply h.current)]
  cases v with
  | array vs => exact absurd rfl (harray vs)
  | object ms => exact absurd rfl (hobject ms)
  | _ => rfl

theorem loadSize_apply (h : it.current = .ok v) (node : Iterator) (rest : List Iterator)
    (doc : Json.Value) :
    loadSize ⟨none, node :: it :: rest, doc⟩ =
      (sizeOfArray v, ⟨none, node :: it :: rest, doc⟩) := by
  unfold loadSize
  rw [Attempt.look_apply]
  dsimp only
  rw [h]
  rfl

theorem enforceSizeConstraints_apply (maxSize minSize size : Nat) (ar : JSONInputArchive) :
    enforceSizeConstraints maxSize minSize size ar =
      (if minSize ≤ size ∧ size ≤ maxSize then .ok () else .error .exception, ar) := by
  unfold enforceSizeConstraints
  split_ifs with hmin hmax hboth hboth hboth
  · omega
  · rfl
  · omega
  · rfl
  · rfl
  · omega

variable {D : Doubles} {z : Zone}

/-- An array is loaded as it is read. -/
theorem schemaArray_ends {elem : Ty} {maxSize minSize : Nat}
    (helem : ∀ ar it v rest, Stands ar it v rest →
      Ends it rest ar.itsDocument (elem.read D z v) (elem.load D z ar))
    (h : Stands ar it v rest) :
    Ends it rest ar.itsDocument ((Ty.schemaArray elem maxSize minSize).read D z v)
      ((Ty.schemaArray elem maxSize minSize).load D z ar) := by
  unfold Ty.read Ty.load
  cases v with
  | array vs =>
    rw [Attempt.bind_ok (startNode_array h)]
    have hsize := loadSize_apply h.current (.value vs 0) rest ar.itsDocument
    rw [Attempt.bind_ok hsize]
    have hbounds := enforceSizeConstraints_apply maxSize minSize vs.length
      ⟨none, .value vs 0 :: it :: rest, ar.itsDocument⟩
    dsimp only
    by_cases hfits : minSize ≤ vs.length ∧ vs.length ≤ maxSize
    · rw [if_pos hfits] at hbounds ⊢
      rw [Attempt.bind_ok hbounds]
      exact (many_ends helem vs (it :: rest) 0 vs rfl).enclosed
    · rw [if_neg hfits] at hbounds ⊢
      rw [Attempt.bind_error hbounds]
      exact .inside _ none [it]
  | object ms =>
    rw [Attempt.bind_ok (startNode_object h)]
    have hsize := loadSize_apply h.current (.member ms 0) rest ar.itsDocument
    rw [Attempt.bind_error hsize]
    exact .inside _ none [it]
  | null =>
    rw [Attempt.bind_error (startNode_other h (by simp) (by simp))]
    exact .before
  | bool b =>
    rw [Attempt.bind_error (startNode_other h (by simp) (by simp))]
    exact .before
  | number t =>
    rw [Attempt.bind_error (startNode_other h (by simp) (by simp))]
    exact .before
  | string t =>
    rw [Attempt.bind_error (startNode_other h (by simp) (by simp))]
    exact .before

/-- A record whose optional members have no nodes is loaded as it is read. -/
theorem record_ends {fields : Fields}
    (hfields : ∀ node below doc, NodeEnds True below doc (fields.read D z node)
      (fields.serialize D z ⟨none, node :: below, doc⟩))
    (h : Stands ar it v rest) :
    Ends it rest ar.itsDocument ((Ty.record fields).read D z v)
      ((Ty.record fields).load D z ar) := by
  unfold Ty.read Ty.load
  cases v with
  | array vs =>
    rw [Attempt.bind_ok (startNode_array h)]
    exact (hfields _ _ _).enclosed
  | object ms =>
    rw [Attempt.bind_ok (startNode_object h)]
    exact (hfields _ _ _).enclosed
  | null =>
    rw [Attempt.bind_error (startNode_other h (by simp) (by simp))]
    exact .before
  | bool b =>
    rw [Attempt.bind_error (startNode_other h (by simp) (by simp))]
    exact .before
  | number t =>
    rw [Attempt.bind_error (startNode_other h (by simp) (by simp))]
    exact .before
  | string t =>
    rw [Attempt.bind_error (startNode_other h (by simp) (by simp))]
    exact .before

theorem dateTime_ends (h : Stands ar it v rest) :
    Ends it rest ar.itsDocument (Ty.dateTime.read D z v) (Ty.dateTime.load D z ar) := by
  unfold Ty.read Ty.load readValue
  cases hget : getString v with
  | none =>
    rw [Attempt.bind_error (loadValue_none h hget)]
    exact .before
  | some t =>
    rw [Attempt.bind_ok (loadValue_some h hget)]
    dsimp only [Option.elim, Except.bind]
    cases loadMinimal z t with
    | error e => exact .foreign _
    | ok tp => exact .ok tp

/-- Every load begins with the search for its value. -/
theorem load_missing (ty : Ty) (h : search ar = (.error .exception, ar)) :
    ty.load D z ar = (.error .exception, ar) := by
  have hvalue {α : Type} (get : Json.Value → Option α) :
      loadValue get ar = (.error .exception, ar) := by
    unfold loadValue
    rw [Attempt.bind_error h]
  have hnode : startNode ar = (.error .exception, ar) := by
    unfold startNode
    rw [Attempt.bind_error h]
  cases ty with
  | int => exact hvalue getInt
  | bool => exact hvalue getBool
  | double => exact hvalue (getDouble D)
  | string => exact hvalue getString
  | schemaString maxSize =>
    unfold Ty.load loadChecked
    rw [Attempt.bind_error (hvalue getString)]
  | schemaEnum names =>
    unfold Ty.load loadChecked
    rw [Attempt.bind_error (hvalue getString)]
  | dateTime =>
    unfold Ty.load
    rw [Attempt.bind_error (hvalue getString)]
  | schemaArray elem maxSize minSize =>
    unfold Ty.load
    rw [Attempt.bind_error hnode]
  | record fields =>
    unfold Ty.load
    rw [Attempt.bind_error hnode]

/-- A value without a node is not left from inside. -/
theorem read_minimal {ty : Ty} (h : ty.minimal = true) (v : Json.Value) (node : Iterator) :
    ty.read D z v ≠ .error (.exception (.inside node)) := by
  have hvalue {α : Type} (get : Json.Value → Option α) :
      readValue get v ≠ .error (.exception (.inside node)) := by
    unfold readValue
    cases get v <;> simp [Option.elim]
  have hchecked {α : Type} (check : Text → Option α) :
      readChecked check v ≠ .error (.exception (.inside node)) := by
    unfold readChecked readValue
    cases getString v with
    | none => simp [Except.bind]
    | some t =>
      dsimp only [Option.elim, Except.bind]
      cases check t <;> simp
  cases ty with
  | int => exact hvalue getInt
  | bool => exact hvalue getBool
  | double => exact hvalue (getDouble D)
  | string => exact hvalue getString
  | schemaString maxSize => exact hchecked (copy maxSize)
  | schemaEnum names => exact hchecked (verify names)
  | dateTime =>
    unfold Ty.read readValue
    cases getString v with
    | none => simp [Except.bind]
    | some t =>
      dsimp only [Option.elim, Except.bind]
      cases loadMinimal z t <;> simp
  | schemaArray elem maxSize minSize => cases h
  | record fields => cases h

/-- Nodes that were left open are below those of the rest. -/
theorem NodeEnds.above {closed : Prop} {r : Except (Failure Iterator) (α × Iterator)}
    {out : Except Stop α × JSONInputArchive} {left : List Iterator}
    (h : NodeEnds closed (left ++ rest) doc r out) (hleft : closed → left = []) :
    NodeEnds closed rest doc r out := by
  cases h with
  | ok a node below hclosed =>
    rw [← List.append_assoc]
    refine .ok a node (below ++ left) fun hyes => ?_
    rw [hclosed hyes, hleft hyes]
    rfl
  | exception node name below =>
    rw [← List.append_assoc]
    exact .exception node name (below ++ left)
  | foreign ar => exact .foreign ar

variable {closed : Prop} {name : Text} {ty : Ty} {fields : Fields} {node : Iterator}

theorem nvp_apply (x : Load α) {stack : List Iterator} :
    nvp name x ⟨none, stack, doc⟩ = x ⟨some name, stack, doc⟩ := rfl

theorem nvpOptional_ok {x : Load α} {stack : List Iterator} {a : α}
    (h : x ⟨some name, stack, doc⟩ = (.ok a, ar)) :
    nvpOptional name x ⟨none, stack, doc⟩ = (.ok (some a), ar) :=
  Attempt.catching_ok (Attempt.bind_ok h)

theorem nvpOptional_error {x : Load α} {stack : List Iterator} {e : Stop}
    (h : x ⟨some name, stack, doc⟩ = (.error e, ar)) :
    nvpOptional name x ⟨none, stack, doc⟩ =
      if e = .exception then (.ok none, { ar with itsNextName := none }) else (.error e, ar) := by
  have hnvp : nvp name x ⟨none, stack, doc⟩ = (.error e, ar) := h
  unfold nvpOptional
  rw [Attempt.catching_error (Attempt.bind_error hnvp)]
  cases e <;> rfl

/-- What an optional member is read as, and where the others are sought. -/
theorem Ends.attempted {x : Load α} {y : Load β} {r : Except (Failure Place) α}
    {read : Iterator → Except (Failure Iterator) (β × Iterator)} {stack : List Iterator}
    (hminimal : closed → ∀ node, r ≠ .error (.exception (.inside node)))
    (hx : Ends it rest doc r (x ⟨some name, stack, doc⟩))
    (hy : ∀ node rest, NodeEnds closed rest doc (read node) (y ⟨none, node :: rest, doc⟩)) :
    NodeEnds closed rest doc (attempted it read r)
      ((do let a ← nvpOptional name x; let b ← y; pure (a, b) : Load (Option α × β))
        ⟨none, stack, doc⟩) := by
  generalize hout : x ⟨some name, stack, doc⟩ = out at hx
  cases hx with
  | ok a =>
    rw [Attempt.bind_ok (nvpOptional_ok hout)]
    exact (hy it.next rest).map (Prod.mk (some a))
  | before =>
    rw [Attempt.bind_ok (nvpOptional_error hout)]
    exact (hy it rest).map (Prod.mk none)
  | behind =>
    rw [Attempt.bind_ok (nvpOptional_error hout)]
    exact (hy it.next rest).map (Prod.mk none)
  | inside node name below =>
    rw [Attempt.bind_ok (nvpOptional_error hout)]
    have hrest := ((hy node (below ++ rest)).map (Prod.mk (none : Option α)))
    exact hrest.above fun hyes => absurd rfl (hminimal hyes node)
  | foreign ar =>
    rw [Attempt.bind_error (nvpOptional_error hout)]
    exact .foreign ar

theorem required_ends
    (hty : ∀ ar it v rest, Stands ar it v rest →
      Ends it rest ar.itsDocument (ty.read D z v) (ty.load D z ar))
    (hfields : ∀ node rest doc, NodeEnds closed rest doc (fields.read D z node)
      (fields.serialize D z ⟨none, node :: rest, doc⟩)) :
    NodeEnds closed rest doc ((Fields.required name ty fields).read D z node)
      ((Fields.required name ty fields).serialize D z ⟨none, node :: rest, doc⟩) := by
  unfold Fields.read Fields.serialize
  cases hfind : node.find name with
  | none =>
    have hmissing := load_missing (D := D) (z := z) ty
      (search_missing hfind rest doc)
    rw [Attempt.bind_error ((nvp_apply _).trans hmissing)]
    exact .exception node (some name) []
  | some found =>
    obtain ⟨found, v⟩ := found
    have hfirst := hty _ _ _ _ (search_found hfind rest doc)
    exact Ends.joined (x := nvp name (ty.load D z)) Prod.mk hfirst (hfields found.next rest doc)

theorem optional_ends (hminimal : closed → ty.minimal = true)
    (hty : ∀ ar it v rest, Stands ar it v rest →
      Ends it rest ar.itsDocument (ty.read D z v) (ty.load D z ar))
    (hfields : ∀ node rest doc, NodeEnds closed rest doc (fields.read D z node)
      (fields.serialize D z ⟨none, node :: rest, doc⟩)) :
    NodeEnds closed rest doc ((Fields.optional name ty fields).read D z node)
      ((Fields.optional name ty fields).serialize D z ⟨none, node :: rest, doc⟩) := by
  unfold Fields.read Fields.serialize
  cases hfind : node.find name with
  | none =>
    have hmissing := load_missing (D := D) (z := z) ty
      (search_missing hfind rest doc)
    rw [Attempt.bind_ok (nvpOptional_error hmissing)]
    exact (hfields node rest doc).map (Prod.mk none)
  | some found =>
    obtain ⟨found, v⟩ := found
    have hfirst := hty _ _ _ _ (search_found hfind rest doc)
    have hinside (hyes : closed) := read_minimal (D := D) (z := z) (hminimal hyes) v
    exact hfirst.attempted hinside fun node rest => hfields node rest doc

theorem NodeEnds.mono {closed' : Prop} {r : Except (Failure Iterator) (α × Iterator)}
    {out : Except Stop α × JSONInputArchive} (h : NodeEnds closed rest doc r out)
    (himp : closed' → closed) : NodeEnds closed' rest doc r out := by
  cases h with
  | ok a node below hclosed => exact .ok a node below (hclosed ∘ himp)
  | exception node name below => exact .exception node name below
  | foreign ar => exact .foreign ar

variable (D z)

mutual

/-- A value is loaded as it is read, if no record below is left open. -/
theorem load_ends : (ty : Ty) → ty.tight = true → ∀ ar it v rest, Stands ar it v rest →
    Ends it rest ar.itsDocument (ty.read D z v) (ty.load D z ar)
  | .int, _, _, _, _, _, h => loadValue_ends getInt h
  | .bool, _, _, _, _, _, h => loadValue_ends getBool h
  | .double, _, _, _, _, _, h => loadValue_ends (getDouble D) h
  | .string, _, _, _, _, _, h => loadValue_ends getString h
  | .schemaString maxSize, _, _, _, _, _, h => loadChecked_ends (copy maxSize) h
  | .schemaEnum names, _, _, _, _, _, h => loadChecked_ends (verify names) h
  | .dateTime, _, _, _, _, _, h => dateTime_ends h
  | .schemaArray elem _ _, htight, _, _, _, _, h => schemaArray_ends (load_ends elem htight) h
  | .record fields, htight, _, _, _, _, h => by
    unfold Ty.tight at htight
    obtain ⟨hclosed, htight⟩ := Bool.and_eq_true_iff.mp htight
    exact record_ends (fun node below doc =>
      (serialize_ends fields htight node below doc).mono fun _ => hclosed) h

/-- And so are the members of a record. -/
theorem serialize_ends : (fields : Fields) → fields.tight = true → ∀ node rest doc,
    NodeEnds (fields.closed = true) rest doc (fields.read D z node)
      (fields.serialize D z ⟨none, node :: rest, doc⟩)
  | .nil, _, node, _, _ => .ok () node [] fun _ => rfl
  | .required name ty fields, htight, node, rest, doc => by
    unfold Fields.tight at htight
    obtain ⟨hty, hfields⟩ := Bool.and_eq_true_iff.mp htight
    exact required_ends (load_ends ty hty) (serialize_ends fields hfields)
  | .optional name ty fields, htight, node, rest, doc => by
    unfold Fields.tight at htight
    obtain ⟨hty, hfields⟩ := Bool.and_eq_true_iff.mp htight
    refine optional_ends (fun hclosed => ?_) (load_ends ty hty) fun node rest doc =>
      (serialize_ends fields hfields node rest doc).mono fun hclosed => ?_
    all_goals
      unfold Fields.closed at hclosed
      obtain ⟨hminimal, hrest⟩ := Bool.and_eq_true_iff.mp hclosed
      assumption

end

/-- A message whose members hold no record that is left open is loaded as it is read, from
any document, and no node is read past its end. -/
theorem loadFrom_eq_read {fields : Fields} (h : fields.tight = true) (document : Json.Value) :
    fields.loadFrom D z document = outcome (fields.readFrom D z document) := by
  have hnode (node : Iterator) :
      (fields.serialize D z ⟨none, [node], document⟩).1 =
        outcome ((fields.read D z node).map Prod.fst) := by
    have hends := serialize_ends D z fields h node [] document
    generalize fields.read D z node = r at hends ⊢
    generalize fields.serialize D z ⟨none, [node], document⟩ = out at hends ⊢
    cases hends <;> rfl
  cases document with
  | array vs => exact hnode (.value vs 0)
  | object ms => exact hnode (.member ms 0)
  | _ => rfl

end Loading

end UCLinux.Ocpp.Cereal
