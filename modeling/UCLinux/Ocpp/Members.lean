import UCLinux.Ocpp.Records

/-!
What a message is loaded from. Members are sought by their names, so their order does not
matter, nor do members that no record of the message asks for: a document that says the same
of the names that are asked for is loaded alike, wherever loading may break off.
-/

namespace UCLinux.Ocpp.Cereal

open Sql Rfc3339 Machine

section Purpose

mutual

/-- The names that are asked for. -/
def Ty.allNames : Ty → List Text
  | .schemaArray elem _ _ => elem.allNames
  | .record fields => fields.allNames
  | _ => []

def Fields.allNames : Fields → List Text
  | .nil => []
  | .required name ty rest | .optional name ty rest => name :: (ty.allNames ++ rest.allNames)

end

/-- The member of this name. -/
def memberOf (n : Text) (ms : List (Text × Json.Value)) : Option Json.Value :=
  (ms.find? fun m => cstr m.1 = n).map Prod.snd

/-- Members of one of these names have one value. -/
def Definite (N : List Text) (ms : List (Text × Json.Value)) : Prop :=
  ∀ m ∈ ms, ∀ m' ∈ ms, cstr m.1 ∈ N → cstr m'.1 = cstr m.1 → m'.2 = m.2

/-- Documents with the same elements, and the same members of these names in any order. -/
inductive Alike (N : List Text) : Json.Value → Json.Value → Prop where
  | null : Alike N .null .null
  | bool (b : Bool) : Alike N (.bool b) (.bool b)
  | number (t : Text) : Alike N (.number t) (.number t)
  | string (s : Text) : Alike N (.string s) (.string s)
  | array {vs vs' : List Json.Value} (h : List.Forall₂ (Alike N) vs vs') :
      Alike N (.array vs) (.array vs')
  | object {ms ms' : List (Text × Json.Value)} (hms : Definite N ms) (hms' : Definite N ms')
      (h : ∀ n ∈ N, Option.Rel (Alike N) (memberOf n ms) (memberOf n ms')) :
      Alike N (.object ms) (.object ms')

/-- The archive in nodes that are alike; where it is among the members does not matter. -/
inductive IteratorsAlike (N : List Text) : Iterator → Iterator → Prop where
  | member {ms ms' : List (Text × Json.Value)} (h : Alike N (.object ms) (.object ms'))
      (i j : Nat) : IteratorsAlike N (.member ms i) (.member ms' j)
  | value (vs vs' : List Json.Value) (i j : Nat) :
      IteratorsAlike N (.value vs i) (.value vs' j)

inductive PlacesAlike (N : List Text) : Place → Place → Prop where
  | before : PlacesAlike N .before .before
  | behind : PlacesAlike N .behind .behind
  | inside {node node' : Iterator} (h : IteratorsAlike N node node') :
      PlacesAlike N (.inside node) (.inside node')

/-- The same value is read, or the reading breaks off in places that are alike. -/
inductive Agree {α : Type} (N : List Text) :
    Except (Failure Place) α → Except (Failure Place) α → Prop where
  | ok (a : α) : Agree N (.ok a) (.ok a)
  | exception {place place' : Place} (h : PlacesAlike N place place') :
      Agree N (.error (.exception place)) (.error (.exception place'))
  | foreign : Agree N (.error .foreign) (.error .foreign)

inductive NodesAgree {α : Type} (N : List Text) :
    Except (Failure Iterator) (α × Iterator) → Except (Failure Iterator) (α × Iterator) →
      Prop where
  | ok (a : α) {node node' : Iterator} (h : IteratorsAlike N node node') :
      NodesAgree N (.ok (a, node)) (.ok (a, node'))
  | exception {node node' : Iterator} (h : IteratorsAlike N node node') :
      NodesAgree N (.error (.exception node)) (.error (.exception node'))
  | foreign : NodesAgree N (.error .foreign) (.error .foreign)

/-- The nodes of a document, with the archive anywhere in them. -/
inductive NodeOf : Json.Value → Iterator → Prop where
  | array (vs : List Json.Value) (i : Nat) : NodeOf (.array vs) (.value vs i)
  | object (ms : List (Text × Json.Value)) (i : Nat) : NodeOf (.object ms) (.member ms i)
  | element {vs : List Json.Value} {v : Json.Value} {node : Iterator} (hv : v ∈ vs)
      (h : NodeOf v node) : NodeOf (.array vs) node
  | member {ms : List (Text × Json.Value)} {m : Text × Json.Value} {node : Iterator}
      (hm : m ∈ ms) (h : NodeOf m.2 node) : NodeOf (.object ms) node

def Iterator.document : Iterator → Json.Value
  | .member ms _ => .object ms
  | .value vs _ => .array vs

def Iterator.Holds (it : Iterator) (n : Text) (v : Json.Value) : Prop :=
  match it with
  | .member ms _ => ∃ m ∈ ms, cstr m.1 = n ∧ m.2 = v
  | .value _ _ => False

/-- Where reading a value breaks off inside, it does so in a node of the document. -/
def Breaks {α : Type} (d : Json.Value) (r : Except (Failure Place) α) : Prop :=
  ∀ node, r = .error (.exception (.inside node)) → NodeOf d node

/-- The archive is in a node of the document afterwards. -/
def Within {α : Type} (d : Json.Value) : Except (Failure Iterator) (α × Iterator) → Prop
  | .ok (_, node) => NodeOf d node
  | .error (.exception node) => NodeOf d node
  | .error .foreign => True

def stopTransactionId (D : Doubles) (v : stopTransactionRequest.Val D) : CInt := v.2.2.2.2.2.1

end Purpose

section Finding

variable {N : List Text} {ms : List (Text × Json.Value)} {n : Text} {it it' : Iterator}

theorem IteratorsAlike.next (h : IteratorsAlike N it it') : IteratorsAlike N it.next it'.next := by
  cases h with
  | member h i j => exact .member h (i + 1) (j + 1)
  | value vs vs' i j => exact .value vs vs' (i + 1) (j + 1)

/-- What is found is a member of the node that has the name. -/
theorem find_member {index : Nat} {found : Iterator} {v : Json.Value}
    (h : (Iterator.member ms index).find n = some (found, v)) :
    ∃ i, ∃ m ∈ ms, found = .member ms i ∧ cstr m.1 = n ∧ m.2 = v := by
  obtain ⟨i, hi, hmap⟩ := Option.bind_eq_some_iff.mp h
  obtain ⟨m, hm, hpair⟩ := Option.map_eq_some_iff.mp hmap
  cases hpair
  refine ⟨i, m, List.mem_of_getElem? hm, rfl, ?_, rfl⟩
  by_cases hname : (Iterator.member ms index).name = some n
  · rw [if_pos hname] at hi
    obtain rfl := Option.some.inj hi
    simp only [Iterator.name, hm] at hname
    exact Option.some.inj hname
  · rw [if_neg hname] at hi
    obtain ⟨hlt, hat, _⟩ := List.findIdx?_eq_some_iff_getElem.mp hi
    obtain ⟨_, heq⟩ := List.getElem?_eq_some_iff.mp hm
    rw [heq] at hat
    exact of_decide_eq_true hat

/-- A name that is asked for is found as the member it names. -/
theorem find_definite (hms : Definite N ms) (hn : n ∈ N) (index : Nat) :
    ∃ i, (Iterator.member ms index).find n =
      (memberOf n ms).map fun v => (Iterator.member ms i, v) := by
  cases hfind : (Iterator.member ms index).find n with
  | none =>
    obtain ⟨_, hsearch⟩ := Iterator.find_none hfind
    refine ⟨0, ?_⟩
    have habsent : ms.find? (fun m => cstr m.1 = n) = none := by
      refine List.find?_eq_none.mpr fun m hm hname => ?_
      unfold Iterator.search at hsearch
      cases hidx : ms.findIdx? fun m => cstr m.1 = n with
      | none => exact absurd hname (List.findIdx?_eq_none_iff.mp hidx m hm ▸ Bool.false_ne_true)
      | some i =>
        simp only [hidx] at hsearch
        cases hsearch
    unfold memberOf
    rw [habsent]
    rfl
  | some p =>
    obtain ⟨found, v⟩ := p
    obtain ⟨i, m, hm, rfl, hname, rfl⟩ := find_member hfind
    refine ⟨i, ?_⟩
    cases hfirst : ms.find? fun m => cstr m.1 = n with
    | none => exact absurd (decide_eq_true hname) (List.find?_eq_none.mp hfirst m hm)
    | some m' =>
      have hname' : cstr m'.1 = n := by simpa using List.find?_some hfirst
      have hsame := hms m' (List.mem_of_find?_eq_some hfirst) m hm (hname'.symm ▸ hn)
        (hname.trans hname'.symm)
      unfold memberOf
      rw [hfirst, hsame]
      rfl

/-- In nodes that are alike the same is found, or nothing in both. -/
theorem find_alike (h : IteratorsAlike N it it') (hn : n ∈ N) :
    Option.Rel (fun p p' => IteratorsAlike N p.1 p'.1 ∧ Alike N p.2 p'.2) (it.find n)
      (it'.find n) := by
  cases h with
  | value vs vs' i j => exact .none
  | @member ms ms' h i j =>
    cases h with
    | object hms hms' hmembers =>
      obtain ⟨k, hfind⟩ := find_definite hms hn i
      obtain ⟨k', hfind'⟩ := find_definite hms' hn j
      have hmember := hmembers n hn
      rw [hfind, hfind']
      generalize memberOf n ms = o at hmember
      generalize memberOf n ms' = o' at hmember
      cases hmember with
      | none => exact .none
      | some hv => exact .some ⟨.member (.object hms hms' hmembers) k k', hv⟩

end Finding

section Reading

variable {α β γ : Type} {N : List Text} {it it' : Iterator} {d d' : Json.Value}

theorem Agree.refl {r : Except (Failure Place) α}
    (h : ∀ node, r ≠ .error (.exception (.inside node))) : Agree N r r := by
  rcases r with (place | _) | a
  · cases place with
    | before => exact .exception .before
    | behind => exact .exception .behind
    | inside node => exact absurd rfl (h node)
  · exact .foreign
  · exact .ok a

theorem PlacesAlike.of {place place' : Place} (hit : IteratorsAlike N it it')
    (h : PlacesAlike N place place') : IteratorsAlike N (place.of it) (place'.of it') := by
  cases h with
  | before => exact hit
  | behind => exact hit.next
  | inside h => exact h

theorem NodesAgree.map {r r' : Except (Failure Iterator) (α × Iterator)} (f : α → β)
    (h : NodesAgree N r r') :
    NodesAgree N (r.map fun p => (f p.1, p.2)) (r'.map fun p => (f p.1, p.2)) := by
  cases h with
  | ok a h => exact .ok (f a) h
  | exception h => exact .exception h
  | foreign => exact .foreign

theorem NodesAgree.enclosed {r r' : Except (Failure Iterator) (α × Iterator)}
    (h : NodesAgree N r r') : Agree N (enclosed r) (enclosed r') := by
  cases h with
  | ok a h => exact .ok a
  | exception h => exact .exception (.inside h)
  | foreign => exact .foreign

theorem Agree.joined {q q' : Except (Failure Iterator) (β × Iterator)}
    {r r' : Except (Failure Place) α} (g : α → β → γ) (hit : IteratorsAlike N it it')
    (hr : Agree N r r') (hq : NodesAgree N q q') :
    NodesAgree N (joined g it q r) (joined g it' q' r') := by
  cases hr with
  | ok a => exact hq.map (g a)
  | exception h => exact .exception (h.of hit)
  | foreign => exact .foreign

theorem Agree.attempted {rest : Iterator → Except (Failure Iterator) (β × Iterator)}
    {r r' : Except (Failure Place) α} (hit : IteratorsAlike N it it') (hr : Agree N r r')
    (hrest : ∀ it it', IteratorsAlike N it it' → NodesAgree N (rest it) (rest it')) :
    NodesAgree N (attempted it rest r) (attempted it' rest r') := by
  cases hr with
  | ok a => exact (hrest _ _ hit.next).map (Prod.mk (some a))
  | exception h => exact (hrest _ _ (h.of hit)).map (Prod.mk none)
  | foreign => exact .foreign

theorem readAll_agree {read : Json.Value → Except (Failure Place) α}
    (hread : ∀ d d', Alike N d d' → Agree N (read d) (read d')) (all all' : List Json.Value)
    {vs vs' : List Json.Value} (h : List.Forall₂ (Alike N) vs vs') (i j : Nat) :
    NodesAgree N (readAll read all i vs) (readAll read all' j vs') := by
  induction h generalizing i j with
  | nil => exact .ok [] (.value all all' i j)
  | cons hd _ ih =>
    exact (hread _ _ hd).joined List.cons (.value all all' i j) (ih (i + 1) (j + 1))

variable {D : Doubles} {z : Zone}

/-- A value without a node is read alike from documents that are alike. -/
theorem read_minimal_alike {ty : Ty} (hty : ty.minimal = true) (h : Alike N d d') :
    Agree N (ty.read D z d) (ty.read D z d') := by
  have hsame : ty.read D z d = ty.read D z d' := by
    cases h with
    | null => rfl
    | bool b => rfl
    | number t => rfl
    | string s => rfl
    | array h =>
      cases ty with
      | schemaArray elem maxSize minSize => cases hty
      | record fields => cases hty
      | _ => rfl
    | object hms hms' h =>
      cases ty with
      | schemaArray elem maxSize minSize => cases hty
      | record fields => cases hty
      | _ => rfl
  rw [hsame]
  exact .refl fun node => read_minimal hty d' node

theorem schemaArray_agree {elem : Ty} (maxSize minSize : Nat)
    (helem : ∀ d d', Alike N d d' → Agree N (elem.read D z d) (elem.read D z d'))
    (h : Alike N d d') :
    Agree N ((Ty.schemaArray elem maxSize minSize).read D z d)
      ((Ty.schemaArray elem maxSize minSize).read D z d') := by
  unfold Ty.read
  cases h with
  | null => exact .exception .before
  | bool b => exact .exception .before
  | number t => exact .exception .before
  | string s => exact .exception .before
  | @array vs vs' h =>
    dsimp only
    rw [h.length_eq]
    by_cases hfits : minSize ≤ vs'.length ∧ vs'.length ≤ maxSize
    · rw [if_pos hfits, if_pos hfits]
      exact (readAll_agree helem vs vs' h 0 0).enclosed
    · rw [if_neg hfits, if_neg hfits]
      exact .exception (.inside (.value vs vs' 0 0))
  | object hms hms' h => exact .exception (.inside (.member (.object hms hms' h) 0 0))

theorem record_agree {fields : Fields}
    (hfields : ∀ it it', IteratorsAlike N it it' →
      NodesAgree N (fields.read D z it) (fields.read D z it')) (h : Alike N d d') :
    Agree N ((Ty.record fields).read D z d) ((Ty.record fields).read D z d') := by
  unfold Ty.read
  cases h with
  | null => exact .exception .before
  | bool b => exact .exception .before
  | number t => exact .exception .before
  | string s => exact .exception .before
  | array h => exact (hfields _ _ (.value _ _ 0 0)).enclosed
  | object hms hms' h => exact (hfields _ _ (.member (.object hms hms' h) 0 0)).enclosed

theorem required_agree {name : Text} {ty : Ty} {rest : Fields} (hname : name ∈ N)
    (hty : ∀ d d', Alike N d d' → Agree N (ty.read D z d) (ty.read D z d'))
    (hrest : ∀ it it', IteratorsAlike N it it' →
      NodesAgree N (rest.read D z it) (rest.read D z it')) (hit : IteratorsAlike N it it') :
    NodesAgree N ((Fields.required name ty rest).read D z it)
      ((Fields.required name ty rest).read D z it') := by
  have hfind := find_alike hit hname
  rw [Fields.read, Fields.read]
  generalize it.find name = o at hfind
  generalize it'.find name = o' at hfind
  cases hfind with
  | none => exact .exception hit
  | @some p p' h => exact (hty _ _ h.2).joined Prod.mk h.1 (hrest _ _ h.1.next)

theorem optional_agree {name : Text} {ty : Ty} {rest : Fields} (hname : name ∈ N)
    (hty : ∀ d d', Alike N d d' → Agree N (ty.read D z d) (ty.read D z d'))
    (hrest : ∀ it it', IteratorsAlike N it it' →
      NodesAgree N (rest.read D z it) (rest.read D z it')) (hit : IteratorsAlike N it it') :
    NodesAgree N ((Fields.optional name ty rest).read D z it)
      ((Fields.optional name ty rest).read D z it') := by
  have hfind := find_alike hit hname
  rw [Fields.read, Fields.read]
  generalize it.find name = o at hfind
  generalize it'.find name = o' at hfind
  cases hfind with
  | none => exact (hrest _ _ hit).map (Prod.mk none)
  | @some p p' h => exact (hty _ _ h.2).attempted h.1 hrest

variable (D z)

mutual

/-- A value is read alike from documents that are alike. -/
theorem read_agree : (ty : Ty) → (∀ n ∈ ty.allNames, n ∈ N) → ∀ d d', Alike N d d' →
    Agree N (ty.read D z d) (ty.read D z d')
  | .int, _, _, _, h => read_minimal_alike rfl h
  | .bool, _, _, _, h => read_minimal_alike rfl h
  | .double, _, _, _, h => read_minimal_alike rfl h
  | .string, _, _, _, h => read_minimal_alike rfl h
  | .schemaString _, _, _, _, h => read_minimal_alike rfl h
  | .schemaEnum _, _, _, _, h => read_minimal_alike rfl h
  | .dateTime, _, _, _, h => read_minimal_alike rfl h
  | .schemaArray elem maxSize minSize, hnames, _, _, h =>
    schemaArray_agree maxSize minSize (read_agree elem hnames) h
  | .record fields, hnames, _, _, h => record_agree (members_agree fields hnames) h

/-- And the members of a record from nodes that are. -/
theorem members_agree : (fields : Fields) → (∀ n ∈ fields.allNames, n ∈ N) → ∀ it it',
    IteratorsAlike N it it' → NodesAgree N (fields.read D z it) (fields.read D z it')
  | .nil, _, _, _, h => .ok () h
  | .required name ty rest, hnames, _, _, h => by
    unfold Fields.allNames at hnames
    obtain ⟨hname, hmore⟩ := List.forall_mem_cons.mp hnames
    obtain ⟨hty, hrest⟩ := List.forall_mem_append.mp hmore
    exact required_agree hname (read_agree ty hty) (members_agree rest hrest) h
  | .optional name ty rest, hnames, _, _, h => by
    unfold Fields.allNames at hnames
    obtain ⟨hname, hmore⟩ := List.forall_mem_cons.mp hnames
    obtain ⟨hty, hrest⟩ := List.forall_mem_append.mp hmore
    exact optional_agree hname (read_agree ty hty) (members_agree rest hrest) h

end

theorem NodesAgree.outcome {r r' : Except (Failure Iterator) (α × Iterator)}
    (h : NodesAgree N r r') :
    outcome (r.map Prod.fst) = outcome (r'.map Prod.fst) := by
  cases h with
  | ok a h => rfl
  | exception h => rfl
  | foreign => rfl

/-- A message the server loads is loaded alike from documents that say the same of the names
it asks for, in whatever order, and whatever they say of others. -/
theorem loaded_in_any_order {fields : Fields} (h : fields ∈ loadedMessages)
    (hd : Alike fields.allNames d d') :
    fields.loadFrom D z d = fields.loadFrom D z d' := by
  have htight := List.all_eq_true.mp tight_of_loaded fields h
  rw [loadFrom_eq_read D z htight, loadFrom_eq_read D z htight]
  have hagree := members_agree (N := fields.allNames) D z fields fun n hn => hn
  cases hd with
  | null => rfl
  | bool b => rfl
  | number t => rfl
  | string s => rfl
  | array hvs => exact (hagree _ _ (.value _ _ 0 0)).outcome
  | object hms hms' hmembers =>
    exact (hagree _ _ (.member (.object hms hms' hmembers) 0 0)).outcome

theorem loaded_in_any_order_data :
    dataTransferResponse.loadFrom wholeDoubles utcMachine
        (.object [("status", .string "Accepted"), ("data", .string "11,5")]) =
      dataTransferResponse.loadFrom wholeDoubles utcMachine
        (.object [("data", .string "11,5"), ("note", .null), ("status", .string "Accepted")]) := by
  refine loaded_in_any_order wholeDoubles utcMachine (by simp [loadedMessages])
    (.object ?_ ?_ ?_)
  · simp [Definite, cstr]
  · simp [Definite, cstr]
  · simp [Fields.allNames, Ty.allNames, dataTransferResponse, memberOf, cstr, Alike.string]

end Reading

section BreakingOff

variable {α β γ : Type} {d : Json.Value} {it node node' : Iterator}

theorem NodeOf.next (h : NodeOf d node) : NodeOf d node.next := by
  induction h with
  | array vs i => exact .array vs (i + 1)
  | object ms i => exact .object ms (i + 1)
  | element hv _ ih => exact .element hv ih
  | member hm _ ih => exact .member hm ih

/-- A node of a node is one of the document. -/
theorem NodeOf.trans (h : NodeOf d node) (h' : NodeOf node.document node') : NodeOf d node' := by
  induction h with
  | array vs i => exact h'
  | object ms i => exact h'
  | element hv _ ih => exact .element hv (ih h')
  | member hm _ ih => exact .member hm (ih h')

/-- What is found lies in the node it was sought in. -/
theorem find_within {n : Text} {found : Iterator} {v : Json.Value} (hit : NodeOf d it)
    (h : it.find n = some (found, v)) :
    NodeOf d found ∧ ∀ node, NodeOf v node → NodeOf d node := by
  cases it with
  | value vs i => cases h
  | member ms i =>
    obtain ⟨j, m, hm, rfl, _, rfl⟩ := find_member h
    exact ⟨hit.trans (.object ms j), fun node hnode => hit.trans (.member hm hnode)⟩

theorem Within.map {r : Except (Failure Iterator) (α × Iterator)} (f : α → β)
    (h : Within d r) : Within d (r.map fun p => (f p.1, p.2)) := by
  rcases r with (place | _) | ⟨a, end'⟩
  · exact h
  · exact h
  · exact h

theorem Within.enclosed {r : Except (Failure Iterator) (α × Iterator)} (h : Within d r) :
    Breaks d (enclosed r) := by
  intro node heq
  rcases r with (place | _) | ⟨a, end'⟩
  · cases heq
    exact h
  · cases heq
  · cases heq

theorem Breaks.mono {d' : Json.Value} {r : Except (Failure Place) α} (h : Breaks d r)
    (hsub : ∀ node, NodeOf d node → NodeOf d' node) : Breaks d' r :=
  fun node heq => hsub node (h node heq)

theorem Breaks.of {r : Except (Failure Place) α} {place : Place} (h : Breaks d r)
    (hit : NodeOf d it) (heq : r = .error (.exception place)) : NodeOf d (place.of it) := by
  cases place with
  | before => exact hit
  | behind => exact hit.next
  | inside node => exact h node heq

theorem Breaks.joined {q : Except (Failure Iterator) (β × Iterator)}
    {r : Except (Failure Place) α} (g : α → β → γ) (hit : NodeOf d it) (hr : Breaks d r)
    (hq : Within d q) : Within d (joined g it q r) := by
  rcases r with (place | _) | a
  · exact hr.of hit rfl
  · trivial
  · exact hq.map (g a)

theorem Breaks.attempted {rest : Iterator → Except (Failure Iterator) (β × Iterator)}
    {r : Except (Failure Place) α} (hit : NodeOf d it) (hr : Breaks d r)
    (hrest : ∀ it, NodeOf d it → Within d (rest it)) : Within d (attempted it rest r) := by
  rcases r with (place | _) | a
  · exact (hrest _ (hr.of hit rfl)).map (Prod.mk none)
  · trivial
  · exact (hrest _ hit.next).map (Prod.mk (some a))

theorem readAll_within {read : Json.Value → Except (Failure Place) α}
    (hread : ∀ v, Breaks v (read v)) {all vs : List Json.Value} (h : ∀ v ∈ vs, v ∈ all)
    (i : Nat) : Within (.array all) (readAll read all i vs) := by
  induction vs generalizing i with
  | nil => exact .array all i
  | cons v vs ih =>
    obtain ⟨hv, hvs⟩ := List.forall_mem_cons.mp h
    have hfirst : Breaks (.array all) (read v) := (hread v).mono fun _ hnode => .element hv hnode
    exact hfirst.joined List.cons (.array all i) (ih hvs (i + 1))

variable (D : Doubles) (z : Zone)

mutual

/-- Where reading a value breaks off is in the value. -/
theorem read_breaks : (ty : Ty) → ∀ v, Breaks v (ty.read D z v)
  | .int, v => fun node heq => absurd heq (read_minimal rfl v node)
  | .bool, v => fun node heq => absurd heq (read_minimal rfl v node)
  | .double, v => fun node heq => absurd heq (read_minimal rfl v node)
  | .string, v => fun node heq => absurd heq (read_minimal rfl v node)
  | .schemaString _, v => fun node heq => absurd heq (read_minimal rfl v node)
  | .schemaEnum _, v => fun node heq => absurd heq (read_minimal rfl v node)
  | .dateTime, v => fun node heq => absurd heq (read_minimal rfl v node)
  | .schemaArray elem maxSize minSize, v => by
    unfold Ty.read
    cases v with
    | array vs =>
      dsimp only
      split_ifs with hfits
      · exact (readAll_within (read_breaks elem) (fun v hv => hv) 0).enclosed
      · rintro _ ⟨⟩
        exact .array vs 0
    | object ms =>
      rintro _ ⟨⟩
      exact .object ms 0
    | null => rintro _ ⟨⟩
    | bool b => rintro _ ⟨⟩
    | number t => rintro _ ⟨⟩
    | string t => rintro _ ⟨⟩
  | .record fields, v => by
    unfold Ty.read
    cases v with
    | array vs => exact (members_within fields _ _ (.array vs 0)).enclosed
    | object ms => exact (members_within fields _ _ (.object ms 0)).enclosed
    | null => rintro _ ⟨⟩
    | bool b => rintro _ ⟨⟩
    | number t => rintro _ ⟨⟩
    | string t => rintro _ ⟨⟩

/-- And where the archive is after the members of a record is in the document. -/
theorem members_within : (fields : Fields) → ∀ d it, NodeOf d it →
    Within d (fields.read D z it)
  | .nil, _, _, hit => hit
  | .required name ty rest, d, it, hit => by
    rw [Fields.read]
    cases hfind : it.find name with
    | none => exact hit
    | some p =>
      obtain ⟨found, v⟩ := p
      obtain ⟨hfound, hinside⟩ := find_within hit hfind
      have hfirst : Breaks d (ty.read D z v) := (read_breaks ty v).mono hinside
      exact hfirst.joined Prod.mk hfound (members_within rest d _ hfound.next)
  | .optional name ty rest, d, it, hit => by
    rw [Fields.read]
    cases hfind : it.find name with
    | none => exact (members_within rest d it hit).map (Prod.mk none)
    | some p =>
      obtain ⟨found, v⟩ := p
      obtain ⟨hfound, hinside⟩ := find_within hit hfind
      have hfirst : Breaks d (ty.read D z v) := (read_breaks ty v).mono hinside
      exact hfirst.attempted hfound (members_within rest d)

end

end BreakingOff

section Stops

variable {D : Doubles} {z : Zone} {name : Text} {ty : Ty} {rest : Fields}
  {ms : List (Text × Json.Value)} {it : Iterator}

theorem except_map_ok {α β ε : Type} {r : Except ε α} {f : α → β} {b : β}
    (h : r.map f = .ok b) : ∃ a, r = .ok a ∧ f a = b := by
  cases r with
  | error e => cases h
  | ok a => exact ⟨a, rfl, Except.ok.inj h⟩

theorem required_from {a : ty.Val D} {v : rest.Val D}
    (h : ∃ end', (Fields.required name ty rest).read D z it = .ok ((a, v), end')) :
    ∃ found d, it.find name = some (found, d) ∧ ty.read D z d = .ok a ∧
      ∃ end', rest.read D z found.next = .ok (v, end') := by
  rw [Fields.read] at h
  cases hfind : it.find name with
  | none =>
    rw [hfind] at h
    obtain ⟨_, h⟩ := h
    cases h
  | some p =>
    obtain ⟨found, d⟩ := p
    rw [hfind] at h
    obtain ⟨a', v', ha, hv, heq⟩ := joined_ok_iff.mp h
    cases heq
    exact ⟨found, d, rfl, ha, hv⟩

/-- The rest is sought in the same node, or in the one that reading the member broke off in. -/
theorem optional_from {o : Option (ty.Val D)} {v : rest.Val D} {index : Nat}
    (h : ∃ end', (Fields.optional name ty rest).read D z (.member ms index) =
      .ok ((o, v), end')) :
    ∃ node, (∃ end', rest.read D z node = .ok (v, end')) ∧
      ((∃ i, node = .member ms i) ∨ ∃ m ∈ ms, cstr m.1 = name ∧ o = none ∧
        ty.read D z m.2 = .error (.exception (.inside node))) := by
  obtain ⟨end', h⟩ := h
  rw [Fields.read] at h
  cases hfind : (Iterator.member ms index).find name with
  | none =>
    rw [hfind] at h
    obtain ⟨r, hr, heq⟩ := except_map_ok h
    cases heq
    exact ⟨_, ⟨_, hr⟩, .inl ⟨index, rfl⟩⟩
  | some p =>
    obtain ⟨found, d⟩ := p
    rw [hfind] at h
    obtain ⟨i, m, hm, rfl, hname, rfl⟩ := find_member hfind
    dsimp only at h
    rcases hread : ty.read D z m.2 with (place | _) | a
    · rw [hread] at h
      obtain ⟨r, hr, heq⟩ := except_map_ok h
      cases heq
      refine ⟨_, ⟨_, hr⟩, ?_⟩
      cases place with
      | before => exact .inl ⟨i, rfl⟩
      | behind => exact .inl ⟨i + 1, rfl⟩
      | inside node => exact .inr ⟨m, hm, hname, rfl, hread⟩
    · rw [hread] at h
      cases h
    · rw [hread] at h
      obtain ⟨r, hr, heq⟩ := except_map_ok h
      cases heq
      exact ⟨_, ⟨_, hr⟩, .inl ⟨i + 1, rfl⟩⟩

/-- A member of the node has this name and this value. -/
theorem find_holds {n : Text} {found : Iterator} {d : Json.Value}
    (h : it.find n = some (found, d)) : it.Holds n d := by
  cases it with
  | value vs i => cases h
  | member ms i =>
    obtain ⟨_, m, hm, _, hname, hd⟩ := find_member h
    exact ⟨m, hm, hname, hd⟩

/-- A stop is loaded with the `transactionId` of the request itself, or, if its
`transactionData` is entered and cannot be loaded, with that of the node in the data where
loading broke off. -/
theorem stop_transaction_id {document : Json.Value} {v : stopTransactionRequest.Val D}
    (h : stopTransactionRequest.loadFrom D z document = .ok v) :
    ∃ ms node d, document = .object ms ∧ Iterator.Holds node "transactionId" d ∧
      getInt d = some (stopTransactionId D v) ∧
      ((∃ i, node = .member ms i) ∨ ∃ m ∈ ms, cstr m.1 = "transactionData" ∧ NodeOf m.2 node ∧
        (Ty.schemaArray (.record meterValueEntry) 65536 0).read D z m.2 =
          .error (.exception (.inside node))) := by
  rw [loadFrom_eq_read D z (by decide)] at h
  cases document with
  | object ms =>
    have hread := outcome_ok_iff.mp h
    obtain ⟨idTag, meterStop, reason, timestamp, transactionData, transactionId, _⟩ := v
    obtain ⟨_, hread, ⟨_, rfl⟩ | ⟨_, _, _, _, hbreak⟩⟩ := optional_from hread
    swap
    · exact absurd hbreak (read_minimal rfl _ _)
    obtain ⟨_, _, hfind, _, hread⟩ := required_from hread
    obtain ⟨_, _, _, rfl, _⟩ := find_member hfind
    obtain ⟨_, hread, ⟨_, rfl⟩ | ⟨_, _, _, _, hbreak⟩⟩ := optional_from hread
    swap
    · exact absurd hbreak (read_minimal rfl _ _)
    obtain ⟨_, _, hfind, _, hread⟩ := required_from hread
    obtain ⟨_, _, _, rfl, _⟩ := find_member hfind
    obtain ⟨node, hread, hnode⟩ := optional_from hread
    obtain ⟨_, d, hfind, hid, _⟩ := required_from hread
    refine ⟨ms, node, d, rfl, find_holds hfind, readValue_ok_iff.mp hid, ?_⟩
    refine hnode.imp_right fun ⟨m, hm, hname, _, hbreak⟩ => ⟨m, hm, hname, ?_, hbreak⟩
    exact read_breaks D z _ m.2 node hbreak
  | array vs => cases h
  | null => cases h
  | bool b => cases h
  | number t => cases h
  | string t => cases h

theorem stop_transaction_id_stray :
    ∃ v, stopTransactionRequest.loadFrom wholeDoubles utcMachine strayStop = .ok v ∧
      (stopTransactionId wholeDoubles v).val = 7 ∧
      ∃ ms node d, strayStop = .object ms ∧ Iterator.Holds node "transactionId" d ∧
        getInt d = some (stopTransactionId wholeDoubles v) ∧
        ((∃ i, node = .member ms i) ∨ ∃ m ∈ ms, cstr m.1 = "transactionData" ∧
          NodeOf m.2 node ∧
          (Ty.schemaArray (.record meterValueEntry) 65536 0).read wholeDoubles utcMachine m.2 =
            .error (.exception (.inside node))) := by
  have hseven : (stopTransactionRequest.loadFrom wholeDoubles utcMachine strayStop).toOption.map
      (fun v => (stopTransactionId wholeDoubles v).val) = some 7 := by decide +kernel
  cases hload : stopTransactionRequest.loadFrom wholeDoubles utcMachine strayStop with
  | error e =>
    rw [hload] at hseven
    cases hseven
  | ok v =>
    rw [hload] at hseven
    exact ⟨v, rfl, Option.some.inj hseven, stop_transaction_id hload⟩

end Stops

end UCLinux.Ocpp.Cereal
