import UCLinux.Json.Compact
import UCLinux.Ocpp.InputArchive
import UCLinux.Ocpp.Literals

/-!
Saving a message as JSON. The writer puts the commas and the colons; the archive begins an
object or an array when the first thing is written into it, and an empty one when it is
finished. What is written is the text of a document without whitespace, and no text at all
for a message of which no member is there.
-/

namespace UCLinux.Ocpp.Cereal

open Sql Rfc3339 Machine

section Program

structure Level where
  inArray : Bool
  valueCount : Nat
  deriving DecidableEq, Repr

/-- The comma or the colon before what is written at this level. -/
def Level.sep (level : Level) : Text :=
  if level.valueCount = 0 then []
  else if level.inArray ∨ level.valueCount % 2 = 0 then [',']
  else [':']

/-- The writer of the JSON library, with the top of its stack first. -/
structure Writer where
  os : Text
  levelStack : List Level
  hasRoot : Bool
  deriving DecidableEq, Repr

namespace Writer

/-- `Prefix` -/
def separate (w : Writer) (isString : Bool) : Except Stop Writer :=
  match w.levelStack with
  | [] => if w.hasRoot then .error .exception else .ok { w with hasRoot := true }
  | level :: levels =>
    if ¬level.inArray ∧ level.valueCount % 2 = 0 ∧ ¬isString then .error .exception
    else
      .ok ⟨w.os ++ level.sep, { level with valueCount := level.valueCount + 1 } :: levels,
        w.hasRoot⟩

def append (w : Writer) (t : Text) : Writer := { w with os := w.os ++ t }

/-- A value that is written at once. -/
def scalar (w : Writer) (t : Text) : Except Stop Writer :=
  (w.separate false).map fun w => w.append t

def hexDigits : List Char := "0123456789ABCDEF".toList

def escape (c : Char) : Text :=
  if c = '"' ∨ c = '\\' then ['\\', c]
  else if c = '\x08' then ['\\', 'b']
  else if c = '\t' then ['\\', 't']
  else if c = '\n' then ['\\', 'n']
  else if c = '\x0c' then ['\\', 'f']
  else if c = '\r' then ['\\', 'r']
  else if c.toNat < 0x20 then
    ['\\', 'u', '0', '0', hexDigits.getD (c.toNat / 16) '0', hexDigits.getD (c.toNat % 16) '0']
  else [c]

def string (w : Writer) (s : Text) : Except Stop Writer :=
  (w.separate true).map fun w => w.append ('"' :: s.flatMap escape ++ ['"'])

def startObject (w : Writer) : Except Stop Writer :=
  (w.separate false).map fun w => ⟨w.os ++ ['{'], ⟨false, 0⟩ :: w.levelStack, w.hasRoot⟩

def startArray (w : Writer) : Except Stop Writer :=
  (w.separate false).map fun w => ⟨w.os ++ ['['], ⟨true, 0⟩ :: w.levelStack, w.hasRoot⟩

def endObject (w : Writer) : Except Stop Writer :=
  match w.levelStack with
  | ⟨false, valueCount⟩ :: levels =>
    if valueCount % 2 = 0 then .ok ⟨w.os ++ ['}'], levels, w.hasRoot⟩ else .error .exception
  | _ => .error .exception

def endArray (w : Writer) : Except Stop Writer :=
  match w.levelStack with
  | ⟨true, _⟩ :: levels => .ok ⟨w.os ++ [']'], levels, w.hasRoot⟩
  | _ => .error .exception

end Writer

inductive NodeType where
  | startObject
  | inObject
  | startArray
  | inArray
  deriving DecidableEq, Repr

/-- The stacks have their tops first. -/
structure JSONOutputArchive where
  itsWriter : Writer
  itsNextName : Option Text
  itsNameCounter : List Nat
  itsNodeStack : List NodeType
  deriving DecidableEq, Repr

namespace JSONOutputArchive

def opened : JSONOutputArchive := ⟨⟨[], [], false⟩, none, [0], [.startObject]⟩

/-- Writes the name of what is to come, counting those that have none. -/
def saveName (ar : JSONOutputArchive) (w : Writer) (nodes : List NodeType) :
    Except Stop JSONOutputArchive :=
  match ar.itsNextName, ar.itsNameCounter with
  | some name, counter =>
    (w.string name).map fun w => ⟨w, none, counter, nodes⟩
  | none, count :: counter =>
    (w.string ("value" ++ decimal count)).map fun w => ⟨w, none, (count + 1) :: counter, nodes⟩
  | none, [] => .error .outOfBounds

def writeName (ar : JSONOutputArchive) : Except Stop JSONOutputArchive :=
  match ar.itsNodeStack with
  | .startArray :: nodes =>
    ar.itsWriter.startArray.map fun w =>
      { ar with itsWriter := w, itsNodeStack := .inArray :: nodes }
  | .inArray :: _ => .ok ar
  | .startObject :: nodes =>
    ar.itsWriter.startObject.bind fun w => ar.saveName w (.inObject :: nodes)
  | .inObject :: nodes => ar.saveName ar.itsWriter (.inObject :: nodes)
  | [] => .error .outOfBounds

def startNode (ar : JSONOutputArchive) : Except Stop JSONOutputArchive :=
  ar.writeName.map fun ar =>
    { ar with
      itsNameCounter := 0 :: ar.itsNameCounter, itsNodeStack := .startObject :: ar.itsNodeStack }

/-- Ends the object or array, which is begun first if it is empty. -/
def finishNode (ar : JSONOutputArchive) : Except Stop JSONOutputArchive :=
  let written := match ar.itsNodeStack with
    | .startArray :: _ => ar.itsWriter.startArray.bind Writer.endArray
    | .inArray :: _ => ar.itsWriter.endArray
    | .startObject :: _ => ar.itsWriter.startObject.bind Writer.endObject
    | .inObject :: _ => ar.itsWriter.endObject
    | [] => .error .outOfBounds
  written.map fun w => ⟨w, ar.itsNextName, ar.itsNameCounter.tail, ar.itsNodeStack.tail⟩

def setNextName (ar : JSONOutputArchive) (name : Option Text) : JSONOutputArchive :=
  { ar with itsNextName := name }

def makeArray (ar : JSONOutputArchive) : JSONOutputArchive :=
  { ar with itsNodeStack := .startArray :: ar.itsNodeStack.tail }

/-- The name and the value of what is written at once. -/
def saveValue (ar : JSONOutputArchive) (write : Writer → Except Stop Writer) :
    Except Stop JSONOutputArchive :=
  ar.writeName.bind fun ar => (write ar.itsWriter).map fun w => { ar with itsWriter := w }

/-- The destructor, and what is in the stream then. -/
def closed (ar : JSONOutputArchive) : Except Stop Text :=
  match ar.itsNodeStack with
  | .inObject :: _ => ar.itsWriter.endObject.map Writer.os
  | .inArray :: _ => ar.itsWriter.endArray.map Writer.os
  | _ => .ok ar.itsWriter.os

end JSONOutputArchive

/-- `save_minimal` of a class that keeps a text. -/
def saveChecked (t : Text) (accepted : Bool) (ar : JSONOutputArchive) :
    Except Stop JSONOutputArchive :=
  if accepted then ar.saveValue fun w => w.string t else .error .exception

/-- The loop over the elements. -/
def saveAll {α : Type} (save : α → JSONOutputArchive → Except Stop JSONOutputArchive) :
    List α → JSONOutputArchive → Except Stop JSONOutputArchive
  | [], ar => .ok ar
  | a :: as, ar => (save a ar).bind (saveAll save as)

variable (D : Doubles)

mutual

/-- `archive(value)` -/
def Ty.save : (ty : Ty) → ty.Val D → JSONOutputArchive → Except Stop JSONOutputArchive
  | .int => fun n ar => ar.saveValue fun w => w.scalar (decimal n.val)
  | .bool => fun b ar => ar.saveValue fun w => w.scalar (Json.boolText b)
  | .double => fun x ar => ar.saveValue fun w => w.scalar (D.print x)
  | .string => fun t ar => ar.saveValue fun w => w.string t
  | .schemaString _ => fun t ar => saveChecked t.val (1 ≤ t.val.length) ar
  | .schemaEnum names => fun t ar => saveChecked t.val (names.contains t.val && t.val ≠ []) ar
  | .dateTime => fun tp ar =>
    match saveMinimal tp with
    | .ok t => ar.saveValue fun w => w.string t
    | .error _ => .error .foreign
  | .schemaArray elem maxSize minSize => fun vs ar =>
    ar.startNode.bind fun ar =>
      if minSize ≤ vs.length ∧ vs.length ≤ maxSize then
        (saveAll elem.save vs ar.makeArray).bind JSONOutputArchive.finishNode
      else .error .exception
  | .record fields => fun v ar =>
    ar.startNode.bind fun ar => (fields.save v ar).bind JSONOutputArchive.finishNode

/-- `serialize`: the members in turn. -/
def Fields.save : (fields : Fields) → fields.Val D → JSONOutputArchive →
    Except Stop JSONOutputArchive
  | .nil => fun _ ar => .ok ar
  | .required name ty rest => fun v ar =>
    (ty.save v.1 (ar.setNextName (some name))).bind (rest.save v.2)
  | .optional name ty rest => fun v ar =>
    match v.1 with
    | none => rest.save v.2 (ar.setNextName none)
    | some a => (ty.save a (ar.setNextName (some name))).bind (rest.save v.2)

end

/-- The text of a message. -/
def Fields.toText (fields : Fields) (v : fields.Val D) : Except Stop Text :=
  (fields.save D v .opened).bind JSONOutputArchive.closed

end Program

section Purpose

/-- The documents of the elements, if each has one. -/
def documents {α : Type} (document : α → Option Json.Value) : List α → Option (List Json.Value)
  | [] => some []
  | a :: as => (document a).bind fun d => (documents document as).map (d :: ·)

variable (D : Doubles)

mutual

/-- The document of a value; there is none for a value that is not set or too large. -/
def Ty.document : (ty : Ty) → ty.Val D → Option Json.Value
  | .int => fun n => some (.number (decimal n.val))
  | .bool => fun b => some (.bool b)
  | .double => fun x => some (.number (D.print x))
  | .string => fun t => some (.string t)
  | .schemaString _ => fun t => if t.val = [] then none else some (.string t.val)
  | .schemaEnum _ => fun t => if t.val = [] then none else some (.string t.val)
  | .dateTime => fun tp => (saveMinimal tp).toOption.map .string
  | .schemaArray elem maxSize minSize => fun vs =>
    if minSize ≤ vs.length ∧ vs.length ≤ maxSize then
      (documents elem.document vs).map .array
    else none
  | .record fields => fun v => (fields.members v).map .object

/-- The members that are there, in their order. -/
def Fields.members : (fields : Fields) → fields.Val D → Option (List (Text × Json.Value))
  | .nil => fun _ => some []
  | .required name ty rest => fun v =>
    (ty.document v.1).bind fun d => (rest.members v.2).map ((name, d) :: ·)
  | .optional name ty rest => fun v =>
    match v.1 with
    | none => rest.members v.2
    | some a => (ty.document a).bind fun d => (rest.members v.2).map ((name, d) :: ·)

end

/-- What the writer puts between the quotes. -/
def Escaped (s b : List Char) : Prop := b = s.flatMap Writer.escape

end Purpose

section Writing

variable {w w' : Writer} {t : Text}

/-- The writer when a value has been announced. -/
def Writer.begun (w : Writer) : Writer :=
  match w.levelStack with
  | [] => { w with hasRoot := true }
  | level :: levels =>
    ⟨w.os ++ level.sep, { level with valueCount := level.valueCount + 1 } :: levels, w.hasRoot⟩

/-- A value is due: it is the first, an element, or has its name. -/
def Writer.Due (w : Writer) : Prop :=
  match w.levelStack with
  | [] => w.hasRoot = false
  | level :: _ => level.inArray = true ∨ level.valueCount % 2 = 1

theorem separate_of_due (h : w.Due) (isString : Bool) : w.separate isString = .ok w.begun := by
  obtain ⟨os, levels, hasRoot⟩ := w
  cases levels with
  | nil =>
    obtain rfl : hasRoot = false := h
    rfl
  | cons level levels =>
    unfold Writer.separate Writer.begun
    dsimp only
    rw [if_neg]
    rintro ⟨harray, heven, _⟩
    rcases h with h | h
    · exact harray h
    · omega

theorem scalar_of_due (h : w.Due) : w.scalar t = .ok (w.begun.append t) := by
  unfold Writer.scalar
  rw [separate_of_due h]
  rfl

/-- A string between its quotes. -/
def quoted (t : Text) : Text := '"' :: t.flatMap Writer.escape ++ ['"']

theorem string_of_due (h : w.Due) : w.string t = .ok (w.begun.append (quoted t)) := by
  unfold Writer.string
  rw [separate_of_due h]
  rfl

/-- The writer in an object, behind members. -/
def Writer.inObject (w : Writer) (ms : List Text) : Writer :=
  ⟨w.begun.os ++ '{' :: Json.separated ms, ⟨false, 2 * ms.length⟩ :: w.begun.levelStack,
    w.begun.hasRoot⟩

/-- The writer in an array, behind elements. -/
def Writer.inArray (w : Writer) (ts : List Text) : Writer :=
  ⟨w.begun.os ++ '[' :: Json.separated ts, ⟨true, ts.length⟩ :: w.begun.levelStack,
    w.begun.hasRoot⟩

theorem separated_concat {ts : List Text} (h : ts ≠ []) (t : Text) :
    Json.separated (ts ++ [t]) = Json.separated ts ++ ',' :: t := by
  induction ts with
  | nil => exact absurd rfl h
  | cons a ts ih =>
    cases ts with
    | nil => rfl
    | cons b ts =>
      have hrest := ih (List.cons_ne_nil b ts)
      have hlonger : Json.separated (a :: b :: ts ++ [t]) =
          a ++ ',' :: Json.separated (b :: ts ++ [t]) := rfl
      have hfirst : Json.separated (a :: b :: ts) = a ++ ',' :: Json.separated (b :: ts) := rfl
      rw [hlonger, hrest, hfirst, List.append_assoc, List.cons_append]

theorem startObject_of_due (h : w.Due) : w.startObject = .ok (w.inObject []) := by
  unfold Writer.startObject
  rw [separate_of_due h]
  rfl

theorem startArray_of_due (h : w.Due) : w.startArray = .ok (w.inArray []) := by
  unfold Writer.startArray
  rw [separate_of_due h]
  rfl

theorem inArray_due (ts : List Text) : (w.inArray ts).Due := .inl rfl

/-- An element stands behind those that are there. -/
theorem inArray_element (ts : List Text) (t : Text) :
    (w.inArray ts).begun.append t = w.inArray (ts ++ [t]) := by
  unfold Writer.inArray Writer.begun Writer.append Level.sep
  dsimp only
  cases ts with
  | nil => simp [Json.separated]
  | cons a ts =>
    rw [separated_concat (List.cons_ne_nil a ts), List.length_append]
    simp

/-- A name is written in an object, and its value is due. -/
theorem inObject_name (ms : List Text) (n : Text) :
    ∃ named, (w.inObject ms).string n = .ok named ∧ named.Due ∧
      ∀ t, named.begun.append t = w.inObject (ms ++ [quoted n ++ ':' :: t]) := by
  have heven : 2 * ms.length % 2 = 0 := Nat.mul_mod_right 2 _
  have hodd : (2 * ms.length + 1) % 2 = 1 := by omega
  refine ⟨(w.inObject ms).begun.append (quoted n), ?_, .inr hodd, fun t => ?_⟩
  · unfold Writer.string Writer.separate Writer.inObject
    simp [Except.map, Writer.begun, quoted]
  · unfold Writer.inObject Writer.begun Writer.append Level.sep
    cases ms with
    | nil => simp [Json.separated]
    | cons m ms =>
      rw [separated_concat (List.cons_ne_nil m ms)]
      have hcolon : (2 * ms.length + 2 + 1) % 2 = 1 := by omega
      simp [List.length_append, hcolon, Nat.mul_add]

/-- The object is ended. -/
theorem inObject_end (ms : List Text) :
    (w.inObject ms).endObject = .ok (w.begun.append ('{' :: Json.separated ms ++ ['}'])) := by
  unfold Writer.endObject Writer.inObject Writer.append
  simp

theorem inArray_end (ts : List Text) :
    (w.inArray ts).endArray = .ok (w.begun.append ('[' :: Json.separated ts ++ [']'])) := by
  unfold Writer.endArray Writer.inArray Writer.append
  simp

end Writing

section Saving

variable {w : Writer} {ms ts : List Text} {counter : List Nat} {nodes : List NodeType}
  {ar : JSONOutputArchive} {after : Text → JSONOutputArchive} {t : Text}

/-- The archive in an object, behind these members. -/
def inObject (w : Writer) (counter : List Nat) (nodes : List NodeType) (ms : List Text) :
    JSONOutputArchive :=
  if ms = [] then ⟨w, none, counter, .startObject :: nodes⟩
  else ⟨w.inObject ms, none, counter, .inObject :: nodes⟩

/-- The archive in an array, behind these elements. -/
def inArray (w : Writer) (counter : List Nat) (nodes : List NodeType) (ts : List Text) :
    JSONOutputArchive :=
  if ts = [] then ⟨w, none, counter, .startArray :: nodes⟩
  else ⟨w.inArray ts, none, counter, .inArray :: nodes⟩

/-- The archive is to write a value, and this is what it is then. -/
def Awaits (ar : JSONOutputArchive) (after : Text → JSONOutputArchive) : Prop :=
  ∃ w counter nodes, ar.writeName = .ok ⟨w, none, counter, nodes⟩ ∧ w.Due ∧
    ∀ t, ⟨w.begun.append t, none, counter, nodes⟩ = after t

theorem awaits_member (hdue : w.Due) (counter : List Nat) (nodes : List NodeType)
    (ms : List Text) (n : Text) :
    Awaits ((inObject w counter nodes ms).setNextName (some n)) fun t =>
      inObject w counter nodes (ms ++ [quoted n ++ ':' :: t]) := by
  obtain ⟨named, hname, hvalue, hafter⟩ := inObject_name (w := w) ms n
  refine ⟨named, counter, .inObject :: nodes, ?_, hvalue, fun t => ?_⟩
  · unfold inObject
    by_cases hms : ms = []
    · subst hms
      rw [if_pos rfl]
      simp [JSONOutputArchive.setNextName, JSONOutputArchive.writeName,
        JSONOutputArchive.saveName, startObject_of_due hdue, Except.bind, hname, Except.map]
    · rw [if_neg hms]
      simp [JSONOutputArchive.setNextName, JSONOutputArchive.writeName,
        JSONOutputArchive.saveName, hname, Except.map]
  · rw [hafter]
    exact (if_neg (by simp)).symm

theorem awaits_element (hdue : w.Due) (counter : List Nat) (nodes : List NodeType)
    (ts : List Text) :
    Awaits (inArray w counter nodes ts) fun t => inArray w counter nodes (ts ++ [t]) := by
  refine ⟨w.inArray ts, counter, .inArray :: nodes, ?_, inArray_due ts, fun t => ?_⟩
  · unfold inArray
    by_cases hts : ts = []
    · subst hts
      rw [if_pos rfl]
      simp [JSONOutputArchive.writeName, startArray_of_due hdue, Except.map]
    · rw [if_neg hts]
      rfl
  · rw [inArray_element]
    exact (if_neg (by simp)).symm

/-- A value that is written at once. -/
theorem saveValue_of_awaits (h : Awaits ar after) {write : Writer → Except Stop Writer}
    (hwrite : ∀ w, Writer.Due w → write w = .ok (w.begun.append t)) :
    ar.saveValue write = .ok (after t) := by
  obtain ⟨w, counter, nodes, hname, hdue, hafter⟩ := h
  unfold JSONOutputArchive.saveValue
  rw [hname, ← hafter]
  simp [Except.bind, hwrite w hdue, Except.map]

theorem startNode_of_awaits (h : Awaits ar after) :
    ∃ w counter nodes, ar.startNode = .ok (inObject w (0 :: counter) nodes []) ∧ w.Due ∧
      ∀ t, ⟨w.begun.append t, none, counter, nodes⟩ = after t := by
  obtain ⟨w, counter, nodes, hname, hdue, hafter⟩ := h
  refine ⟨w, counter, nodes, ?_, hdue, hafter⟩
  unfold JSONOutputArchive.startNode
  rw [hname]
  rfl

theorem finishNode_object (hdue : w.Due) (count : Nat) (ms : List Text) :
    (inObject w (count :: counter) nodes ms).finishNode =
      .ok ⟨w.begun.append ('{' :: Json.separated ms ++ ['}']), none, counter, nodes⟩ := by
  have hend := inObject_end (w := w) ms
  unfold inObject JSONOutputArchive.finishNode
  by_cases hms : ms = []
  · subst hms
    simp [startObject_of_due hdue, Except.bind, hend, Except.map]
  · simp [hms, hend, Except.map]

theorem finishNode_array (hdue : w.Due) (count : Nat) (ts : List Text) :
    (inArray w (count :: counter) nodes ts).finishNode =
      .ok ⟨w.begun.append ('[' :: Json.separated ts ++ [']']), none, counter, nodes⟩ := by
  have hend := inArray_end (w := w) ts
  unfold inArray JSONOutputArchive.finishNode
  by_cases hts : ts = []
  · subst hts
    simp [startArray_of_due hdue, Except.bind, hend, Except.map]
  · simp [hts, hend, Except.map]

/-- How saving ends: the text of the document, or an exception if there is none. -/
inductive Wrote {δ τ : Type} (P : δ → τ → Prop) (after : τ → JSONOutputArchive) :
    Option δ → Except Stop JSONOutputArchive → Prop where
  | text (d : δ) (t : τ) (h : P d t) : Wrote P after (some d) (.ok (after t))
  | refused (e : Stop) (h : e ≠ .outOfBounds) : Wrote P after none (.error e)

/-- The text of a document without whitespace. -/
def PrintedValue (d : Json.Value) (t : Text) : Prop := Json.Printed Escaped (.value d) t

def PrintedMember (m : Text × Json.Value) (t : Text) : Prop :=
  ∃ x, PrintedValue m.2 x ∧ t = quoted m.1 ++ ':' :: x

theorem printed_string (s : Text) : PrintedValue (.string s) (quoted s) := .string rfl

theorem printed_array {ds : List Json.Value} (h : List.Forall₂ PrintedValue ds ts) :
    PrintedValue (.array ds) ('[' :: Json.separated ts ++ [']']) := by
  cases h with
  | nil => exact .emptyArray
  | @cons d t ds ts hd hds =>
    refine .array ?_
    induction hds generalizing d t with
    | nil => exact .lastElement (.padded hd)
    | cons hd' _ ih => exact .element (.padded hd) (ih hd')

theorem printed_object {ds : List (Text × Json.Value)} (h : List.Forall₂ PrintedMember ds ts) :
    PrintedValue (.object ds) ('{' :: Json.separated ts ++ ['}']) := by
  cases h with
  | nil => exact .emptyObject
  | @cons d t ds ts hd hds =>
    refine .object ?_
    induction hds generalizing d t with
    | nil =>
      obtain ⟨x, hx, rfl⟩ := hd
      exact .lastMember (.padded (printed_string d.1)) (.padded hx)
    | cons hd' _ ih =>
      obtain ⟨x, hx, rfl⟩ := hd
      exact .member (.padded (printed_string d.1)) (.padded hx) (ih hd')

/-- The elements are written one behind the other. -/
theorem saveAll_wrote {α : Type} {document : α → Option Json.Value}
    {save : α → JSONOutputArchive → Except Stop JSONOutputArchive}
    (hsave : ∀ a ar after, Awaits ar after → Wrote PrintedValue after (document a) (save a ar))
    (hdue : w.Due) (counter : List Nat) (nodes : List NodeType) (as : List α)
    (ts : List Text) :
    Wrote (List.Forall₂ PrintedValue) (fun more => inArray w counter nodes (ts ++ more))
      (documents document as) (saveAll save as (inArray w counter nodes ts)) := by
  induction as generalizing ts with
  | nil =>
    have hnone : Wrote (List.Forall₂ PrintedValue) (fun more => inArray w counter nodes (ts ++ more))
        (some []) (.ok (inArray w counter nodes (ts ++ []))) := .text [] [] .nil
    rwa [List.append_nil] at hnone
  | cons a as ih =>
    have hfirst := hsave a _ _ (awaits_element hdue counter nodes ts)
    unfold documents saveAll
    generalize document a = d at hfirst ⊢
    generalize save a (inArray w counter nodes ts) = out at hfirst ⊢
    cases hfirst with
    | refused e he => exact .refused e he
    | text d t ht =>
      have hrest := ih (ts ++ [t])
      dsimp only [Except.bind, Option.bind]
      generalize documents document as = ds at hrest ⊢
      generalize saveAll save as (inArray w counter nodes (ts ++ [t])) = out at hrest ⊢
      cases hrest with
      | refused e he => exact .refused e he
      | text ds more hmore =>
        rw [List.append_assoc]
        exact .text (d :: ds) (t :: more) (.cons ht hmore)

theorem Wrote.mono {δ τ τ' : Type} {P : δ → τ → Prop} {P' : δ → τ' → Prop}
    {after : τ → JSONOutputArchive} {after' : τ' → JSONOutputArchive} {d : Option δ}
    {out : Except Stop JSONOutputArchive} (h : Wrote P after d out)
    (himp : ∀ d t, P d t → ∃ t', P' d t' ∧ after t = after' t') : Wrote P' after' d out := by
  cases h with
  | refused e he => exact .refused e he
  | text d t ht =>
    obtain ⟨t', ht', heq⟩ := himp d t ht
    rw [heq]
    exact .text d t' ht'

theorem saveValue_wrote (h : Awaits ar after) {d : Json.Value} (ht : PrintedValue d t)
    {write : Writer → Except Stop Writer}
    (hwrite : ∀ w, Writer.Due w → write w = .ok (w.begun.append t)) :
    Wrote PrintedValue after (some d) (ar.saveValue write) := by
  rw [saveValue_of_awaits h hwrite]
  exact .text d t ht

/-- A text that is checked is one of those a text is kept for. -/
theorem saveChecked_wrote (h : Awaits ar after) {accepted : Bool} {unset : Prop}
    [Decidable unset] (haccepted : accepted = true ↔ ¬unset) :
    Wrote PrintedValue after (if unset then none else some (.string t))
      (saveChecked t accepted ar) := by
  unfold saveChecked
  by_cases hunset : unset
  · rw [if_pos hunset, if_neg fun hyes => haccepted.mp hyes hunset]
    exact .refused _ (by simp)
  · rw [if_neg hunset, if_pos (haccepted.mpr hunset)]
    exact saveValue_wrote h (printed_string t) fun w hdue => string_of_due hdue

theorem dateTime_wrote (h : Awaits ar after) (tp : TimePoint) (D : Doubles) :
    Wrote PrintedValue after (Ty.dateTime.document D tp) (Ty.dateTime.save D tp ar) := by
  unfold Ty.document Ty.save
  cases saveMinimal tp with
  | error e => exact .refused _ (by simp)
  | ok t => exact saveValue_wrote h (printed_string t) fun w hdue => string_of_due hdue

variable {D : Doubles}

theorem schemaArray_wrote {elem : Ty} (maxSize minSize : Nat)
    (helem : ∀ v ar after, Awaits ar after →
      Wrote PrintedValue after (elem.document D v) (elem.save D v ar))
    (h : Awaits ar after) (vs : List (elem.Val D)) :
    Wrote PrintedValue after ((Ty.schemaArray elem maxSize minSize).document D vs)
      ((Ty.schemaArray elem maxSize minSize).save D vs ar) := by
  obtain ⟨w, counter, nodes, hstart, hdue, hafter⟩ := startNode_of_awaits h
  unfold Ty.document Ty.save
  rw [hstart]
  dsimp only [Except.bind]
  by_cases hfits : minSize ≤ vs.length ∧ vs.length ≤ maxSize
  · rw [if_pos hfits, if_pos hfits]
    have hopen : (inObject w (0 :: counter) nodes []).makeArray =
        inArray w (0 :: counter) nodes [] := rfl
    have hvs := saveAll_wrote helem hdue (0 :: counter) nodes vs []
    rw [hopen]
    generalize documents (elem.document D) vs = ds at hvs ⊢
    generalize saveAll (elem.save D) vs (inArray w (0 :: counter) nodes []) = out at hvs ⊢
    cases hvs with
    | refused e he => exact .refused e he
    | text ds ts hts =>
      dsimp only [Option.map]
      rw [List.nil_append, finishNode_array hdue, hafter]
      exact .text _ _ (printed_array hts)
  · rw [if_neg hfits, if_neg hfits]
    exact .refused _ (by simp)

/-- How saving members ends that come behind others. -/
def WroteMembers (w : Writer) (counter : List Nat) (nodes : List NodeType) (ms : List Text) :
    Option (List (Text × Json.Value)) → Except Stop JSONOutputArchive → Prop :=
  Wrote (List.Forall₂ PrintedMember) fun more => inObject w counter nodes (ms ++ more)

theorem record_wrote {fields : Fields}
    (hfields : ∀ v w counter nodes ms, Writer.Due w →
      WroteMembers w counter nodes ms (fields.members D v)
        (fields.save D v (inObject w counter nodes ms)))
    (h : Awaits ar after) (v : fields.Val D) :
    Wrote PrintedValue after ((Ty.record fields).document D v) ((Ty.record fields).save D v ar) := by
  obtain ⟨w, counter, nodes, hstart, hdue, hafter⟩ := startNode_of_awaits h
  unfold Ty.document Ty.save
  rw [hstart]
  have hv : Wrote _ _ _ _ := hfields v w (0 :: counter) nodes [] hdue
  dsimp only [Except.bind]
  generalize fields.members D v = ds at hv ⊢
  generalize fields.save D v (inObject w (0 :: counter) nodes []) = out at hv ⊢
  cases hv with
  | refused e he => exact .refused e he
  | text ds ts hts =>
    dsimp only [Option.map]
    rw [List.nil_append, finishNode_object hdue, hafter]
    exact .text _ _ (printed_object hts)

/-- A member and those behind it. -/
theorem member_wrote {α : Type} {document : α → Option Json.Value}
    {save : α → JSONOutputArchive → Except Stop JSONOutputArchive} {fields : Fields}
    (hsave : ∀ a ar after, Awaits ar after → Wrote PrintedValue after (document a) (save a ar))
    (hfields : ∀ v w counter nodes ms, Writer.Due w →
      WroteMembers w counter nodes ms (fields.members D v)
        (fields.save D v (inObject w counter nodes ms)))
    (hdue : w.Due) (name : Text) (a : α) (v : fields.Val D) :
    WroteMembers w counter nodes ms
      ((document a).bind fun d => (fields.members D v).map ((name, d) :: ·))
      ((save a ((inObject w counter nodes ms).setNextName (some name))).bind
        (fields.save D v)) := by
  have hfirst := hsave a _ _ (awaits_member hdue counter nodes ms name)
  generalize document a = d at hfirst ⊢
  generalize save a _ = out at hfirst ⊢
  cases hfirst with
  | refused e he => exact .refused e he
  | text d t ht =>
    have hrest : Wrote _ _ _ _ :=
      hfields v w counter nodes (ms ++ [quoted name ++ ':' :: t]) hdue
    dsimp only [Except.bind, Option.bind]
    generalize fields.members D v = ds at hrest ⊢
    generalize fields.save D v _ = out at hrest ⊢
    cases hrest with
    | refused e he => exact .refused e he
    | text ds more hmore =>
      rw [List.append_assoc]
      exact .text ((name, d) :: ds) (_ :: more) (.cons ⟨t, ht, rfl⟩ hmore)

variable (D)

mutual

/-- A value is saved as the text of its document. -/
theorem save_wrote : (ty : Ty) → ∀ v ar after, Awaits ar after →
    Wrote PrintedValue after (ty.document D v) (ty.save D v ar)
  | .int, n, _, _, h =>
    saveValue_wrote h (.number (isNumber_decimal n.val)) fun _ hdue => scalar_of_due hdue
  | .bool, b, _, _, h => saveValue_wrote h (.bool b) fun _ hdue => scalar_of_due hdue
  | .double, x, _, _, h =>
    saveValue_wrote h (.number (D.isNumber x)) fun _ hdue => scalar_of_due hdue
  | .string, t, _, _, h => saveValue_wrote h (printed_string t) fun _ hdue => string_of_due hdue
  | .schemaString _, t, _, _, h => saveChecked_wrote h (by simp [Nat.one_le_iff_ne_zero])
  | .schemaEnum names, t, _, _, h => by
    refine saveChecked_wrote h ?_
    rw [Bool.and_eq_true_iff, decide_eq_true_iff]
    exact ⟨fun hboth => hboth.2, fun hset =>
      ⟨List.contains_iff_mem.mpr (t.property.resolve_left hset), hset⟩⟩
  | .dateTime, tp, _, _, h => dateTime_wrote h tp D
  | .schemaArray elem maxSize minSize, vs, _, _, h =>
    schemaArray_wrote maxSize minSize (save_wrote elem) h vs
  | .record fields, v, _, _, h => record_wrote (members_wrote fields) h v

/-- And the members of a record as theirs. -/
theorem members_wrote : (fields : Fields) → ∀ v w counter nodes ms, Writer.Due w →
    WroteMembers w counter nodes ms (fields.members D v)
      (fields.save D v (inObject w counter nodes ms))
  | .nil, _, w, counter, nodes, ms, _ => by
    have hnone : WroteMembers w counter nodes ms (some [])
        (.ok (inObject w counter nodes (ms ++ []))) := .text [] [] .nil
    rwa [List.append_nil] at hnone
  | .required name ty rest, v, w, counter, nodes, ms, hdue =>
    member_wrote (save_wrote ty) (members_wrote rest) hdue name v.1 v.2
  | .optional name ty rest, (none, v), w, counter, nodes, ms, hdue => by
    have hname : (inObject w counter nodes ms).setNextName none = inObject w counter nodes ms := by
      unfold inObject
      split_ifs <;> rfl
    unfold Fields.members Fields.save
    dsimp only
    rw [hname]
    exact members_wrote rest v w counter nodes ms hdue
  | .optional name ty rest, (some a, v), w, counter, nodes, ms, hdue =>
    member_wrote (save_wrote ty) (members_wrote rest) hdue name a v

end

end Saving

section Texts

variable {t : Text}

theorem fromHexToI_control : ∀ n < 0x20,
    fromHexToI ['0', '0', Writer.hexDigits.getD (n / 16) '0', Writer.hexDigits.getD (n % 16) '0'] =
      some n := by
  decide

theorem unescape_unicode {a b c d : Char} {n : Nat} (h : fromHexToI [a, b, c, d] = some n)
    (hn : n < 0xD800) (rest : Text) :
    unescape ('\\' :: 'u' :: a :: b :: c :: d :: rest) =
      (unescape rest).map (toUtf8 n ++ ·) := by
  simp [unescape, h, hn]

/-- What is written for a character is read as it. -/
theorem unescape_escape (c : Char) (rest : Text) :
    unescape (Writer.escape c ++ rest) = (unescape rest).map (c :: ·) := by
  unfold Writer.escape
  by_cases hquote : c = '"' ∨ c = '\\'
  · rw [if_pos hquote]
    rcases hquote with rfl | rfl <;> rfl
  rw [if_neg hquote]
  by_cases hbackspace : c = '\x08'
  · rw [if_pos hbackspace, hbackspace]
    rfl
  rw [if_neg hbackspace]
  by_cases htab : c = '\t'
  · rw [if_pos htab, htab]
    rfl
  rw [if_neg htab]
  by_cases hnewline : c = '\n'
  · rw [if_pos hnewline, hnewline]
    rfl
  rw [if_neg hnewline]
  by_cases hfeed : c = '\x0c'
  · rw [if_pos hfeed, hfeed]
    rfl
  rw [if_neg hfeed]
  by_cases hreturn : c = '\r'
  · rw [if_pos hreturn, hreturn]
    rfl
  rw [if_neg hreturn]
  by_cases hcontrol : c.toNat < 0x20
  · have hcode : toUtf8 c.toNat = [c] := by
      unfold toUtf8
      rw [if_pos (Nat.lt_trans hcontrol (by decide)), Char.ofNat_toNat]
    have hread := unescape_unicode (fromHexToI_control _ hcontrol)
      (Nat.lt_trans hcontrol (by decide)) rest
    rw [hcode] at hread
    rw [if_pos hcontrol]
    exact hread
  · rw [if_neg hcontrol]
    have hkeep : ¬(c = '"' ∨ c = '\\' ∨ c.toNat < 0x20) := by
      rintro (hq | hb | hlt)
      · exact hquote (.inl hq)
      · exact hquote (.inr hb)
      · exact hcontrol hlt
    obtain ⟨_, hslash⟩ := not_or.mp hquote
    rw [List.singleton_append, unescape.eq_def]
    split
    · cases ‹_ = []›
    · exact absurd (List.cons.inj ‹_›).1 hslash
    · exact absurd (List.cons.inj ‹_›).1 hslash
    · next heq =>
      obtain ⟨rfl, rfl⟩ := List.cons.inj heq
      rw [if_neg hkeep]

theorem unescape_escaped {s b : List Char} (h : Escaped s b) : unescape b = some s := by
  subst h
  induction s with
  | nil => rfl
  | cons c s ih =>
    rw [List.flatMap_cons, unescape_escape, ih]
    rfl

theorem PrintedValue.isText {d : Json.Value} (h : PrintedValue d t) :
    Json.IsText literals d t :=
  .of_value (h.derives fun _ _ => unescape_escaped)

/-- What is in the stream when the archive is closed. -/
theorem inObject_closed (ms : List Text) :
    (inObject ⟨[], [], false⟩ [0] [] ms).closed =
      .ok (if ms = [] then [] else '\x7b' :: Json.separated ms ++ ['\x7d']) := by
  have hend := inObject_end (w := ⟨[], [], false⟩) ms
  unfold inObject JSONOutputArchive.closed
  by_cases hms : ms = []
  · rw [if_pos hms, if_pos hms]
  · rw [if_neg hms, if_neg hms]
    simp [hend, Except.map, Writer.begun, Writer.append]

/-- How a message is written: as a text of its document, or as nothing when no member is
there; and not at all when one of them has no document. -/
inductive Written : Option (List (Text × Json.Value)) → Except Stop Text → Prop where
  | nothing : Written (some []) (.ok [])
  | text (ms : List (Text × Json.Value)) (t : Text) (hms : ms ≠ [])
    (ht : Json.IsText literals (.object ms) t) : Written (some ms) (.ok t)
  | refused (e : Stop) (h : e ≠ .outOfBounds) : Written none (.error e)

theorem toText_written (D : Doubles) (fields : Fields) (v : fields.Val D) :
    Written (fields.members D v) (fields.toText D v) := by
  have hdue : Writer.Due ⟨[], [], false⟩ := rfl
  have hall : Wrote _ _ _ _ := members_wrote D fields v ⟨[], [], false⟩ [0] [] [] hdue
  have hopen : inObject ⟨[], [], false⟩ [0] [] [] = JSONOutputArchive.opened := rfl
  unfold Fields.toText
  rw [hopen] at hall
  generalize fields.members D v = ds at hall ⊢
  generalize fields.save D v JSONOutputArchive.opened = out at hall ⊢
  cases hall with
  | refused e he => exact .refused e he
  | text ds ts hts =>
    dsimp only [Except.bind]
    rw [List.nil_append, inObject_closed]
    cases hts with
    | nil => exact .nothing
    | cons hd hds =>
      rw [if_neg (List.cons_ne_nil _ _)]
      exact .text _ _ (List.cons_ne_nil _ _) (printed_object (.cons hd hds)).isText

end Texts

end UCLinux.Ocpp.Cereal
