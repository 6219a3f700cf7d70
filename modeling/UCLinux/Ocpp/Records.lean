import UCLinux.Ocpp.InputArchive
import UCLinux.Ocpp.OutputArchive
import UCLinux.Ocpp.TimestampTexts

/-!
The messages of the server in the archives. Those it loads are loaded as they are read, from
any document; those it writes are read again as they were if their texts are C strings and
their times are whole milliseconds of a clock the machine keeps.
-/

namespace UCLinux.Ocpp.Cereal

open Sql Rfc3339 Machine

section Program

/-- The messages `processOCPPRequestAction` and `processOCPPConfirmation` load. -/
def loadedMessages : List Fields :=
  [heartbeatRequest, bootNotificationRequest, authorizeRequest, startTransactionRequest,
    stopTransactionRequest, statusNotificationRequest, firmwareStatusNotificationRequest,
    meterValuesRequest, dataTransferRequest, setChargingProfileResponse, resetResponse,
    clearChargingProfileResponse, reserveNowResponse, getConfigurationResponse,
    getLocalListVersionResponse, dataTransferResponse]

/-- The answers and the requests of the server. -/
def savedMessages : List Fields :=
  [authorizeResponse, bootNotificationResponse, startTransactionResponse,
    stopTransactionResponse, setChargingProfileResponse, heartbeatResponse,
    dataTransferResponse, setChargingProfileRequest, resetRequest, updateFirmwareRequest,
    dataTransferRequest, reserveNowRequest, cancelReservationRequest, changeAvailabilityRequest,
    remoteStartTransactionRequest, remoteStopTransactionRequest, changeConfigurationRequest]

end Program

section Purpose

def Fields.names : Fields → List Text
  | .nil => []
  | .required name _ rest | .optional name _ rest => name :: rest.names

mutual

/-- The members of every record have names of their own, without NULs. -/
def Ty.wellNamed : Ty → Bool
  | .schemaArray elem _ _ => elem.wellNamed
  | .record fields => fields.wellNamed
  | _ => true

def Fields.wellNamed : Fields → Bool
  | .nil => true
  | .required name ty rest | .optional name ty rest =>
    !name.contains '\x00' && !rest.names.contains name && ty.wellNamed && rest.wellNamed

end

variable (D : Doubles) (z : Zone)

mutual

/-- What a value must be to be read again. -/
def Ty.Kept : (ty : Ty) → ty.Val D → Prop
  | .int | .bool | .double => fun _ => True
  | .string => fun (t : Text) => '\x00' ∉ t
  | .schemaString _ | .schemaEnum _ => fun t => '\x00' ∉ t.val
  | .dateTime => fun tp => tp.shown 0 3 = tp ∧ z.Keeps (tp.nanosSinceEpoch.toNat / nanosInSecond)
  | .schemaArray elem _ _ => fun (vs : List (elem.Val D)) => ∀ v ∈ vs, elem.Kept v
  | .record fields => fun v => fields.Kept v

def Fields.Kept : (fields : Fields) → fields.Val D → Prop
  | .nil => fun _ => True
  | .required _ ty rest => fun v => ty.Kept v.1 ∧ rest.Kept v.2
  | .optional _ ty rest => fun v => (∀ a ∈ v.1, ty.Kept a) ∧ rest.Kept v.2

end

end Purpose

section Reading

variable {α β γ : Type} {it : Iterator}

theorem joined_ok_iff {g : α → β → γ} {rest : Except (Failure Iterator) (β × Iterator)}
    {r : Except (Failure Place) α} {c : γ} :
    (∃ end', joined g it rest r = .ok (c, end')) ↔
      ∃ a b, r = .ok a ∧ (∃ end', rest = .ok (b, end')) ∧ g a b = c := by
  rcases r with (place | _) | a
  · simp [joined]
  · simp [joined]
  · rcases rest with e | ⟨b, end'⟩
    · simp [joined, Except.map]
    · simp [joined, Except.map]

theorem attempted_ok_iff {rest : Iterator → Except (Failure Iterator) (β × Iterator)}
    {r : Except (Failure Place) α} {a : α} {b : β} :
    (∃ end', attempted it rest r = .ok ((some a, b), end')) ↔
      r = .ok a ∧ ∃ end', rest it.next = .ok (b, end') := by
  rcases r with (place | _) | a'
  · cases h : rest (place.of it) <;> simp [attempted, h, Except.map]
  · simp [attempted]
  · rcases h : rest it.next with e | ⟨b', end'⟩
    · simp [attempted, h, Except.map]
    · simp [attempted, h, Except.map]

theorem enclosed_ok_iff {r : Except (Failure Iterator) (α × Iterator)} {a : α} :
    enclosed r = .ok a ↔ ∃ it, r = .ok (a, it) := by
  rcases r with (place | _) | ⟨a', it⟩ <;> simp [enclosed]

theorem readValue_ok_iff {get : Json.Value → Option α} {v : Json.Value} {a : α} :
    readValue get v = .ok a ↔ get v = some a := by
  unfold readValue
  cases get v <;> simp

theorem readChecked_ok_iff {check : Text → Option α} {t : Text} {a : α} :
    readChecked check (.string t) = .ok a ↔ check (cstr t) = some a := by
  unfold readChecked readValue getString
  dsimp only [Option.elim, Except.bind]
  cases check (cstr t) <;> simp

/-- A printed `int` is read as it. -/
theorem lexemeInt_decimal (n : Int) : lexemeInt (decimal n) = some n := by
  have hdigits : (Nat.toDigits 10 n.natAbs).all Char.isDigit = true :=
    List.all_eq_true.mpr isDigit_toDigits
  have hvalue : digitsValue (Nat.toDigits 10 n.natAbs) = n.natAbs := by
    rw [digitsValue_eq isDigit_toDigits, Nat.ofDigitChars_ten_toDigits]
  unfold decimal
  by_cases hneg : n < 0
  · have hread : lexemeInt ('-' :: Nat.toDigits 10 n.natAbs) =
        some (-digitsValue (Nat.toDigits 10 n.natAbs)) := if_pos ⟨Nat.toDigits_ne_nil, hdigits⟩
    rw [if_pos hneg, hread, hvalue]
    exact congrArg some (by omega)
  · rw [if_neg hneg]
    unfold lexemeInt
    split
    · next heq => exact absurd heq Nat.toDigits_ne_nil
    · next heq => exact absurd (heq ▸ List.mem_cons_self) (minus_not_mem_toDigits n.natAbs)
    · rw [if_pos hdigits, hvalue]
      exact congrArg some (by omega)

theorem getInt_decimal (n : CInt) : getInt (.number (decimal n.val)) = some n := by
  unfold getInt
  dsimp only
  rw [lexemeInt_decimal, Option.bind_some, dif_pos n.property]

theorem copy_eq_iff {maxSize : Nat} {t : { t : Text // t.length ≤ maxSize }} (hset : t.val ≠ []) :
    copy maxSize (cstr t.val) = some t ↔ '\x00' ∉ t.val := by
  rw [← cstr_eq_iff]
  unfold copy
  constructor
  · intro h
    split_ifs at h
    exact congrArg Subtype.val (Option.some.inj h)
  · intro h
    have hpos : ¬t.val.length < 1 := fun hlt =>
      hset (List.length_eq_zero_iff.mp (Nat.lt_one_iff.mp hlt))
    rw [h, dif_pos t.property, if_neg hpos]

theorem verify_eq_iff {names : List Text} {t : { t : Text // t = [] ∨ t ∈ names }}
    (hset : t.val ≠ []) : verify names (cstr t.val) = some t ↔ '\x00' ∉ t.val := by
  rw [← cstr_eq_iff]
  unfold verify
  constructor
  · intro h
    split_ifs at h
    exact congrArg Subtype.val (Option.some.inj h)
  · intro h
    rw [h, dif_pos (List.contains_iff_mem.mpr (t.property.resolve_left hset)), if_neg hset]

/-- The doubles that are whole numbers. -/
def wholeDoubles : Doubles where
  Double := Int
  print := decimal
  read := fun t => (lexemeInt t).getD 0
  isNumber := isNumber_decimal
  read_print := fun n => congrArg (·.getD 0) (lexemeInt_decimal n)

end Reading

section Exact

variable {D : Doubles} {z : Zone} {fields : Fields}

theorem tight_of_loaded : loadedMessages.all Fields.tight = true := by decide

/-- Every message the server loads is loaded as it is read, whatever document comes: with no
node that was left open in the way of the others, and with none read past its end. -/
theorem loaded_messages_exact (h : fields ∈ loadedMessages) (document : Json.Value) :
    fields.loadFrom D z document = outcome (fields.readFrom D z document) ∧
      fields.loadFrom D z document ≠ .error .outOfBounds := by
  have hexact := loadFrom_eq_read D z (List.all_eq_true.mp tight_of_loaded fields h) document
  refine ⟨hexact, ?_⟩
  rw [hexact]
  rcases fields.readFrom D z document with (_ | _) | _
  · exact fun heq => nomatch heq
  · exact fun heq => nomatch heq
  · exact fun heq => nomatch heq

/-- A stop whose meter values are not a list. -/
def strayStop : Json.Value :=
  .object [("meterStop", .number "10"), ("timestamp", .string "2018-11-22T12:04:18.868Z"),
    ("transactionData", .object [("transactionId", .number "7")]), ("transactionId", .number "5")]

theorem loaded_messages_exact_stray :
    stopTransactionRequest.loadFrom wholeDoubles utcMachine strayStop =
        outcome (stopTransactionRequest.readFrom wholeDoubles utcMachine strayStop) ∧
      stopTransactionRequest.loadFrom wholeDoubles utcMachine strayStop ≠ .error .outOfBounds :=
  loaded_messages_exact (by simp [loadedMessages]) strayStop

end Exact

section Surviving

variable {D : Doubles} {z : Zone}

theorem documents_cons {α : Type} {document : α → Option Json.Value} {a : α} {as : List α}
    {ds : List Json.Value} (h : documents document (a :: as) = some ds) :
    ∃ d rest, document a = some d ∧ documents document as = some rest ∧ ds = d :: rest := by
  obtain ⟨d, hd, hrest⟩ := Option.bind_eq_some_iff.mp h
  obtain ⟨rest, hds, heq⟩ := Option.map_eq_some_iff.mp hrest
  exact ⟨d, rest, hd, hds, heq.symm⟩

theorem readAll_documents {α : Type} {document : α → Option Json.Value} {Kept : α → Prop}
    {read : Json.Value → Except (Failure Place) α}
    (hread : ∀ a d, document a = some d → (read d = .ok a ↔ Kept a)) (all : List Json.Value)
    (as : List α) (ds : List Json.Value) (h : documents document as = some ds) (index : Nat) :
    (∃ it, readAll read all index ds = .ok (as, it)) ↔ ∀ a ∈ as, Kept a := by
  induction as generalizing ds index with
  | nil =>
    obtain rfl := Option.some.inj h
    simp [readAll]
  | cons a as ih =>
    obtain ⟨d, rest, hd, hrest, rfl⟩ := documents_cons h
    rw [List.forall_mem_cons, ← hread a d hd, ← ih rest hrest (index + 1)]
    refine joined_ok_iff.trans ?_
    constructor
    · rintro ⟨b, bs, hb, hbs, heq⟩
      obtain ⟨rfl, rfl⟩ := List.cons.inj heq
      exact ⟨hb, hbs⟩
    · rintro ⟨ha, has⟩
      exact ⟨a, as, ha, has, rfl⟩

theorem documents_length {α : Type} {document : α → Option Json.Value} {as : List α}
    {ds : List Json.Value} (h : documents document as = some ds) : ds.length = as.length := by
  induction as generalizing ds with
  | nil =>
    obtain rfl := Option.some.inj h
    rfl
  | cons a as ih =>
    obtain ⟨d, rest, _, hrest, rfl⟩ := documents_cons h
    rw [List.length_cons, List.length_cons, ih hrest]

/-- The current member is found if it has the name. -/
theorem find_current {pre ms : List (Text × Json.Value)} {name : Text} {d : Json.Value}
    (hname : '\x00' ∉ name) :
    (Iterator.member (pre ++ (name, d) :: ms) pre.length).find name =
      some (.member (pre ++ (name, d) :: ms) pre.length, d) := by
  have hcurrent : (pre ++ (name, d) :: ms)[pre.length]? = some (name, d) := by simp
  unfold Iterator.find
  dsimp only
  rw [if_pos (by simp [Iterator.name, cstr_of_no_nul hname]), Option.bind_some, hcurrent]
  rfl

theorem find_absent {ms : List (Text × Json.Value)} {name : Text} (index : Nat)
    (h : ∀ m ∈ ms, cstr m.1 ≠ name) : (Iterator.member ms index).find name = none := by
  have hnone : (ms.findIdx? fun m => cstr m.1 = name) = none :=
    List.findIdx?_eq_none_iff.mpr fun m hm => by simpa using h m hm
  unfold Iterator.find Iterator.name
  dsimp only
  rw [if_neg, hnone]
  · rfl
  · intro hcurrent
    obtain ⟨m, hm, heq⟩ := Option.map_eq_some_iff.mp hcurrent
    exact h m (List.mem_of_getElem? hm) heq

/-- What is written is what is there, under the names of the record. -/
theorem members_names : (fields : Fields) → (v : fields.Val D) → ∀ ms,
    fields.members D v = some ms → ∀ m ∈ ms, m.1 ∈ fields.names
  | .nil, _, ms, h, m, hm => by
    obtain rfl := Option.some.inj h
    cases hm
  | .required name ty rest, v, ms, h, m, hm => by
    obtain ⟨d, _, hrest⟩ := Option.bind_eq_some_iff.mp h
    obtain ⟨more, hmore, rfl⟩ := Option.map_eq_some_iff.mp hrest
    rcases List.mem_cons.mp hm with rfl | hm
    · exact List.mem_cons_self
    · exact List.mem_cons_of_mem _ (members_names rest v.2 more hmore m hm)
  | .optional name ty rest, (none, v), ms, h, m, hm =>
    List.mem_cons_of_mem _ (members_names rest v ms h m hm)
  | .optional name ty rest, (some a, v), ms, h, m, hm => by
    obtain ⟨d, _, hrest⟩ := Option.bind_eq_some_iff.mp h
    obtain ⟨more, hmore, rfl⟩ := Option.map_eq_some_iff.mp hrest
    rcases List.mem_cons.mp hm with rfl | hm
    · exact List.mem_cons_self
    · exact List.mem_cons_of_mem _ (members_names rest v more hmore m hm)

/-- The name of a member, apart from those of the rest. -/
theorem wellNamed_cons {name : Text} {ty : Ty} {rest : Fields}
    (h : (!name.contains '\x00' && !rest.names.contains name && ty.wellNamed && rest.wellNamed) =
      true) :
    '\x00' ∉ name ∧ name ∉ rest.names ∧ ty.wellNamed = true ∧ rest.wellNamed = true := by
  simp only [Bool.and_eq_true, Bool.not_eq_true', List.contains_eq_mem, decide_eq_false_iff_not]
    at h
  exact ⟨h.1.1.1, h.1.1.2, h.1.2, h.2⟩

theorem wellNamed_names {fields : Fields} (h : fields.wellNamed = true) :
    ∀ n ∈ fields.names, '\x00' ∉ n := by
  induction fields using Fields.names.induct with
  | case1 => simp [Fields.names]
  | case2 name ty rest ih =>
    obtain ⟨hname, _, _, hrest⟩ := wellNamed_cons h
    exact List.forall_mem_cons.mpr ⟨hname, ih hrest⟩
  | case3 name ty rest ih =>
    obtain ⟨hname, _, _, hrest⟩ := wellNamed_cons h
    exact List.forall_mem_cons.mpr ⟨hname, ih hrest⟩

theorem schemaArray_document {elem : Ty} {maxSize minSize : Nat}
    (helem : ∀ a d, elem.document D a = some d → (elem.read D z d = .ok a ↔ elem.Kept D z a))
    (vs : (Ty.schemaArray elem maxSize minSize).Val D) (d : Json.Value)
    (h : (Ty.schemaArray elem maxSize minSize).document D vs = some d) :
    (Ty.schemaArray elem maxSize minSize).read D z d = .ok vs ↔
      (Ty.schemaArray elem maxSize minSize).Kept D z vs := by
  unfold Ty.document at h
  split_ifs at h with hfits
  obtain ⟨ds, hds, rfl⟩ := Option.map_eq_some_iff.mp h
  have hread : (Ty.schemaArray elem maxSize minSize).read D z (.array ds) =
      if minSize ≤ ds.length ∧ ds.length ≤ maxSize then enclosed (readAll (elem.read D z) ds 0 ds)
      else .error (.exception (.inside (.value ds 0))) := by
    unfold Ty.read
    rfl
  rw [hread, documents_length hds, if_pos hfits]
  exact enclosed_ok_iff.trans (readAll_documents helem ds vs ds hds 0)

theorem dateTime_document (tp : TimePoint) (d : Json.Value)
    (h : Ty.dateTime.document D tp = some d) :
    Ty.dateTime.read D z d = .ok tp ↔ Ty.dateTime.Kept D z tp := by
  have hsaved := saveMinimal_eq tp
  have hnul := textOf_noNul 3 tp.nanosSinceEpoch.toNat
  have hloaded := loadMinimal_saved_iff z tp
  generalize textOf 3 tp.nanosSinceEpoch.toNat utcIndicator = t at hsaved hnul hloaded
  unfold Ty.document at h
  rw [hsaved] at h
  obtain rfl := Option.some.inj h
  refine Iff.trans ?_ hloaded
  unfold Ty.read readValue getString
  dsimp only [Option.elim, Except.bind]
  rw [cstr_of_no_nul hnul]
  rcases loadMinimal z t with e | tp'
  · simp
  · exact (Except.ok.injEq tp' tp).to_iff.trans (Except.ok.injEq tp' tp).to_iff.symm

/-- The names that were written are not those of the rest. -/
theorem behind_names {pre : List (Text × Json.Value)} {name : Text} {names : List Text}
    (hname : '\x00' ∉ name) (hfresh : name ∉ names)
    (hpre : ∀ m ∈ pre, ∀ n ∈ name :: names, cstr m.1 ≠ n) (d : Json.Value) :
    ∀ m ∈ pre ++ [(name, d)], ∀ n ∈ names, cstr m.1 ≠ n := by
  intro m hm n hn
  rcases List.mem_append.mp hm with hm | hm
  · exact hpre m hm n (List.mem_cons_of_mem _ hn)
  · obtain rfl := List.mem_singleton.mp hm
    rw [cstr_of_no_nul hname]
    exact fun heq => hfresh (heq ▸ hn)

theorem read_required {name : Text} {ty : Ty} {rest : Fields}
    {pre more : List (Text × Json.Value)} {d : Json.Value} (hname : '\x00' ∉ name)
    (a : ty.Val D) (v : rest.Val D) :
    (∃ it, (Fields.required name ty rest).read D z (.member (pre ++ (name, d) :: more) pre.length) =
        .ok ((a, v), it)) ↔
      ty.read D z d = .ok a ∧ ∃ it, rest.read D z (.member ((pre ++ [(name, d)]) ++ more)
        (pre ++ [(name, d)]).length) = .ok (v, it) := by
  rw [List.append_assoc, List.singleton_append, List.length_append, Fields.read,
    find_current hname]
  refine joined_ok_iff.trans ?_
  constructor
  · rintro ⟨a', v', ha, hv, heq⟩
    cases heq
    exact ⟨ha, hv⟩
  · rintro ⟨ha, hv⟩
    exact ⟨a, v, ha, hv, rfl⟩

theorem read_present {name : Text} {ty : Ty} {rest : Fields}
    {pre more : List (Text × Json.Value)} {d : Json.Value} (hname : '\x00' ∉ name)
    (a : ty.Val D) (v : rest.Val D) :
    (∃ it, (Fields.optional name ty rest).read D z (.member (pre ++ (name, d) :: more) pre.length) =
        .ok ((some a, v), it)) ↔
      ty.read D z d = .ok a ∧ ∃ it, rest.read D z (.member ((pre ++ [(name, d)]) ++ more)
        (pre ++ [(name, d)]).length) = .ok (v, it) := by
  rw [List.append_assoc, List.singleton_append, List.length_append, Fields.read,
    find_current hname]
  exact attempted_ok_iff

theorem read_absent {name : Text} {ty : Ty} {rest : Fields} {it : Iterator}
    (h : it.find name = none) (v : rest.Val D) :
    (∃ end', (Fields.optional name ty rest).read D z it = .ok ((none, v), end')) ↔
      ∃ end', rest.read D z it = .ok (v, end') := by
  rw [Fields.read, h]
  rcases rest.read D z it with e | ⟨v', end'⟩
  · simp [Except.map]
  · constructor
    · rintro ⟨_, heq⟩
      cases heq
      exact ⟨end', rfl⟩
    · rintro ⟨_, heq⟩
      cases heq
      exact ⟨end', rfl⟩

variable (D z)

mutual

/-- A value is read from its document just if it is one that is kept. -/
theorem read_document : (ty : Ty) → ty.wellNamed = true → ∀ v d, ty.document D v = some d →
    (ty.read D z d = .ok v ↔ ty.Kept D z v)
  | .int, _, n, d, h => by
    obtain rfl := Option.some.inj h
    exact readValue_ok_iff.trans (iff_of_true (getInt_decimal n) trivial)
  | .bool, _, b, d, h => by
    obtain rfl := Option.some.inj h
    exact readValue_ok_iff.trans (iff_of_true rfl trivial)
  | .double, _, x, d, h => by
    obtain rfl := Option.some.inj h
    exact readValue_ok_iff.trans (iff_of_true (congrArg some (D.read_print x)) trivial)
  | .string, _, t, d, h => by
    obtain rfl := Option.some.inj h
    exact readValue_ok_iff.trans (Option.some_inj.trans cstr_eq_iff)
  | .schemaString maxSize, _, t, d, h => by
    unfold Ty.document at h
    split_ifs at h with hset
    obtain rfl := Option.some.inj h
    exact readChecked_ok_iff.trans (copy_eq_iff hset)
  | .schemaEnum names, _, t, d, h => by
    unfold Ty.document at h
    split_ifs at h with hset
    obtain rfl := Option.some.inj h
    exact readChecked_ok_iff.trans (verify_eq_iff hset)
  | .dateTime, _, tp, d, h => dateTime_document tp d h
  | .schemaArray elem _ _, hnames, vs, d, h =>
    schemaArray_document (read_document elem hnames) vs d h
  | .record fields, hnames, v, d, h => by
    obtain ⟨ms, hms, rfl⟩ := Option.map_eq_some_iff.mp h
    have hread : (Ty.record fields).read D z (.object ms) =
        enclosed (fields.read D z (.member ms 0)) := by
      unfold Ty.read
      rfl
    rw [hread]
    exact enclosed_ok_iff.trans
      (read_members fields hnames v ms [] hms fun m hm => absurd hm List.not_mem_nil)

/-- And so are the members of a record, behind those that have other names. -/
theorem read_members : (fields : Fields) → fields.wellNamed = true → ∀ v ms pre,
    fields.members D v = some ms → (∀ m ∈ pre, ∀ n ∈ fields.names, cstr m.1 ≠ n) →
    ((∃ it, fields.read D z (.member (pre ++ ms) pre.length) = .ok (v, it)) ↔ fields.Kept D z v)
  | .nil, _, _, _, _, _, _ => iff_of_true ⟨_, rfl⟩ trivial
  | .required name ty rest, hnames, (a, v), ms, pre, h, hpre => by
    obtain ⟨hname, hfresh, hty, hrest⟩ := wellNamed_cons hnames
    obtain ⟨d, hd, hmore⟩ := Option.bind_eq_some_iff.mp h
    obtain ⟨more, hms, rfl⟩ := Option.map_eq_some_iff.mp hmore
    exact (read_required hname a v).trans (and_congr (read_document ty hty a d hd)
      (read_members rest hrest v more _ hms (behind_names hname hfresh hpre d)))
  | .optional name ty rest, hnames, (some a, v), ms, pre, h, hpre => by
    obtain ⟨hname, hfresh, hty, hrest⟩ := wellNamed_cons hnames
    obtain ⟨d, hd, hmore⟩ := Option.bind_eq_some_iff.mp h
    obtain ⟨more, hms, rfl⟩ := Option.map_eq_some_iff.mp hmore
    refine (read_present hname a v).trans ?_
    refine Iff.trans (and_congr (read_document ty hty a d hd)
      (read_members rest hrest v more _ hms (behind_names hname hfresh hpre d))) ?_
    exact and_congr_left' (by simp)
  | .optional name ty rest, hnames, (none, v), ms, pre, h, hpre => by
    obtain ⟨hname, hfresh, _, hrest⟩ := wellNamed_cons hnames
    have habsent : ∀ m ∈ pre ++ ms, cstr m.1 ≠ name := by
      intro m hm
      rcases List.mem_append.mp hm with hm | hm
      · exact hpre m hm name List.mem_cons_self
      · have hmem := members_names rest v ms h m hm
        rw [cstr_of_no_nul (wellNamed_names hrest _ hmem)]
        exact fun heq => hfresh (heq ▸ hmem)
    refine (read_absent (find_absent _ habsent) v).trans ?_
    refine (read_members rest hrest v ms pre h fun m hm n hn =>
      hpre m hm n (List.mem_cons_of_mem _ hn)).trans ?_
    exact (and_iff_right (by simp)).symm

end

theorem outcome_ok_iff {α : Type} {r : Except (Failure Iterator) (α × Iterator)} {a : α} :
    outcome (r.map Prod.fst) = .ok a ↔ ∃ it, r = .ok (a, it) := by
  rcases r with (_ | _) | ⟨a', it⟩ <;> simp [outcome, Except.map]

theorem loadFrom_members {fields : Fields} (hnames : fields.wellNamed = true)
    (htight : fields.tight = true) (v : fields.Val D) (ms : List (Text × Json.Value))
    (h : fields.members D v = some ms) :
    fields.loadFrom D z (.object ms) = .ok v ↔ fields.Kept D z v := by
  rw [loadFrom_eq_read D z htight]
  exact outcome_ok_iff.trans
    (read_members D z fields hnames v ms [] h fun m hm => absurd hm List.not_mem_nil)

theorem wellNamed_of_saved :
    (savedMessages.all fun fields => fields.wellNamed && fields.tight) = true := by decide

/-- A message of the server is written as a text of its document, and that document is
loaded as the message just if its texts are C strings and its times whole milliseconds of a
clock the machine keeps. -/
theorem saved_message_survives {fields : Fields} (h : fields ∈ savedMessages)
    (v : fields.Val D) :
    Written (fields.members D v) (fields.toText D v) ∧
      ∀ ms, fields.members D v = some ms →
        (fields.loadFrom D z (.object ms) = .ok v ↔ fields.Kept D z v) := by
  obtain ⟨hnames, htight⟩ :=
    Bool.and_eq_true_iff.mp (List.all_eq_true.mp wellNamed_of_saved fields h)
  exact ⟨toText_written D fields v, loadFrom_members D z hnames htight v⟩

/-- A tag that expires is accepted for transaction 7. -/
def acceptedStart : startTransactionResponse.Val wholeDoubles :=
  ((some (Rfc3339.setMillis 1542881058868), none, ⟨"Accepted", by decide⟩, ()), ⟨7, by decide⟩, ())

theorem saved_message_survives_start :
    Written (startTransactionResponse.members wholeDoubles acceptedStart)
        (startTransactionResponse.toText wholeDoubles acceptedStart) ∧
      ∀ ms, startTransactionResponse.members wholeDoubles acceptedStart = some ms →
        (startTransactionResponse.loadFrom wholeDoubles utcMachine (.object ms) =
            .ok acceptedStart ↔
          startTransactionResponse.Kept wholeDoubles utcMachine acceptedStart) :=
  saved_message_survives wholeDoubles utcMachine (by simp [savedMessages]) acceptedStart

end Surviving

end UCLinux.Ocpp.Cereal
