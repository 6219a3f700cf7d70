import UCLinux.Sql.Statement

/-!
The tokens of a statement text, as an SQL engine cuts it: words, names and
literals between quotes, single characters; blanks and comments are dropped. A
quote that is doubled within quotes stands for itself, any other ends them.

The shape of a statement is what is read when every spliced value is taken
whole into the literal it stands in. Doubling the quotes of the values gives a
text of that shape. Without it the text has that shape exactly when no value
holds a quote, nor a NUL, behind which a C string is not shown.
-/

namespace UCLinux.Sql

inductive Token where
  | word (t : Text)
  | name (t : Text)
  | literal (v : Text)
  | symbol (c : Char)
  deriving DecidableEq, Repr

/-- What a tokenizer is in the middle of. -/
inductive LexMode where
  | outside
  | word (t : Text)
  | quoted (q : Char) (v : Text)
  | closing (q : Char) (v : Text)
  | bracket (t : Text)
  | dash
  | slash
  | lineComment
  | blockComment (star : Bool)
  deriving DecidableEq, Repr

/-- The tokens read so far. -/
structure Lexer where
  tokens : List Token
  mode : LexMode
  deriving DecidableEq, Repr

/-- Letters, digits and what else can stand in a word. -/
def isWordChar (c : Char) : Bool :=
  c.isAlphanum || c = '_' || c = '$' || 128 ≤ c.toNat

def isSqlBlank (c : Char) : Bool :=
  c = ' ' || c = '\t' || c = '\n' || c = '\x0c' || c = '\r'

/-- Single quotes are those of a string. -/
def quotedToken (q : Char) (v : Text) : Token := if q = '\'' then .literal v else .name v

namespace Lexer

def start : Lexer := ⟨[], .outside⟩

/-- The first character of a token. -/
def fresh (ts : List Token) (c : Char) : Lexer :=
  if isSqlBlank c then ⟨ts, .outside⟩
  else if isWordChar c then ⟨ts, .word [c]⟩
  else if c = '\'' ∨ c = '"' ∨ c.toNat = 96 then ⟨ts, .quoted c []⟩
  else if c = '[' then ⟨ts, .bracket []⟩
  else if c = '-' then ⟨ts, .dash⟩
  else if c = '/' then ⟨ts, .slash⟩
  else ⟨ts ++ [.symbol c], .outside⟩

def step (s : Lexer) (c : Char) : Lexer :=
  match s.mode with
  | .outside => fresh s.tokens c
  | .word t =>
    if isWordChar c then ⟨s.tokens, .word (t ++ [c])⟩ else fresh (s.tokens ++ [.word t]) c
  | .quoted q v =>
    if c = q then ⟨s.tokens, .closing q v⟩ else ⟨s.tokens, .quoted q (v ++ [c])⟩
  | .closing q v =>
    if c = q then ⟨s.tokens, .quoted q (v ++ [c])⟩
    else fresh (s.tokens ++ [quotedToken q v]) c
  | .bracket t =>
    if c = ']' then ⟨s.tokens ++ [.name t], .outside⟩ else ⟨s.tokens, .bracket (t ++ [c])⟩
  | .dash =>
    if c = '-' then ⟨s.tokens, .lineComment⟩ else fresh (s.tokens ++ [.symbol '-']) c
  | .slash =>
    if c = '*' then ⟨s.tokens, .blockComment false⟩ else fresh (s.tokens ++ [.symbol '/']) c
  | .lineComment => ⟨s.tokens, if c = '\n' then .outside else .lineComment⟩
  | .blockComment star =>
    ⟨s.tokens, if star ∧ c = '/' then .outside else .blockComment (c = '*')⟩

def read (s : Lexer) (t : Text) : Lexer := t.foldl step s

/-- The tokens at the end of the text; `none` within quotes. -/
def finish (s : Lexer) : Option (List Token) :=
  match s.mode with
  | .outside | .lineComment | .blockComment _ => some s.tokens
  | .word t => some (s.tokens ++ [.word t])
  | .closing q v => some (s.tokens ++ [quotedToken q v])
  | .dash => some (s.tokens ++ [.symbol '-'])
  | .slash => some (s.tokens ++ [.symbol '/'])
  | .quoted _ _ | .bracket _ => none

/-- Taking a value whole into the quotes it stands in. -/
def splice (s : Lexer) (v : Text) : Lexer :=
  match s.mode with
  | .quoted q u => ⟨s.tokens, .quoted q (u ++ v)⟩
  | _ => s

def readPiece (s : Lexer) : Piece → Lexer
  | .sql t => s.read t
  | .number n => s.read (decimal n)
  | .value v => s.splice v

end Lexer

/-- The tokens of a text. -/
def lex (t : Text) : Option (List Token) := (Lexer.start.read t).finish

/-- The tokens of a statement whose values are taken whole. -/
def Stmt.shape (st : Stmt) : Option (List Token) :=
  (st.foldl Lexer.readPiece Lexer.start).finish

/-- The statement with other values. -/
def Stmt.fill : Stmt → List Text → Stmt
  | .value _ :: st, v :: vs => .value v :: Stmt.fill st vs
  | p :: st, vs => p :: Stmt.fill st vs
  | [], _ => []

/-- A value with its quotes doubled. -/
def escape (v : Text) : Text := v.flatMap fun c => if c = '\'' then ['\'', '\''] else [c]

namespace Lexer

variable {s : Lexer} {c q : Char} {t u v w : Text} {ts : List Token}

@[simp] theorem read_nil (s : Lexer) : s.read [] = s := rfl

@[simp] theorem read_cons (s : Lexer) (c : Char) (t : Text) :
    s.read (c :: t) = (s.step c).read t := rfl

theorem read_append (s : Lexer) (t u : Text) : s.read (t ++ u) = (s.read t).read u :=
  List.foldl_append

/-- Tokens that were read stay. -/
def Extends (ts : List Token) (s : Lexer) : Prop := ∃ more, s.tokens = ts ++ more

theorem Extends.refl (s : Lexer) : Extends s.tokens s := ⟨[], (List.append_nil _).symm⟩

theorem Extends.of_append {x : Token} (h : Extends (ts ++ [x]) s) : Extends ts s := by
  obtain ⟨more, hmore⟩ := h
  exact ⟨x :: more, by rw [hmore, List.append_assoc, List.singleton_append]⟩

theorem fresh_extends (ts : List Token) (c : Char) : Extends ts (fresh ts c) := by
  unfold fresh
  split_ifs
  all_goals first
    | exact ⟨[], (List.append_nil _).symm⟩
    | exact ⟨[.symbol c], rfl⟩

theorem step_extends (s : Lexer) (c : Char) : Extends s.tokens (s.step c) := by
  unfold step
  cases s.mode with
  | outside => exact fresh_extends _ _
  | word t =>
    dsimp only
    split_ifs
    · exact .refl _
    · exact (fresh_extends _ _).of_append
  | quoted q v =>
    dsimp only
    split_ifs <;> exact .refl _
  | closing q v =>
    dsimp only
    split_ifs
    · exact .refl _
    · exact (fresh_extends _ _).of_append
  | bracket t =>
    dsimp only
    split_ifs
    · exact ⟨[.name t], rfl⟩
    · exact .refl _
  | dash | slash =>
    dsimp only
    split_ifs
    · exact .refl _
    · exact (fresh_extends _ _).of_append
  | lineComment | blockComment star => exact .refl _

theorem Extends.read (h : Extends ts s) (t : Text) : Extends ts (s.read t) := by
  induction t generalizing s with
  | nil => exact h
  | cons c t ih =>
    obtain ⟨more, hmore⟩ := h
    obtain ⟨later, hlater⟩ := step_extends s c
    exact ih ⟨more ++ later, by rw [hlater, hmore, List.append_assoc]⟩

theorem Extends.finish {out : List Token} (h : Extends ts s) (hfinish : s.finish = some out) :
    ∃ more, out = ts ++ more := by
  obtain ⟨more, hmore⟩ := h
  unfold Lexer.finish at hfinish
  rw [hmore] at hfinish
  split at hfinish
  all_goals first
    | cases hfinish
      exact ⟨more, rfl⟩
    | cases hfinish
      exact ⟨_, List.append_assoc ..⟩
    | cases hfinish

/-- Within quotes, characters other than the quote are taken as they are. -/
theorem read_quoted (hv : q ∉ v) :
    (⟨ts, .quoted q u⟩ : Lexer).read v = ⟨ts, .quoted q (u ++ v)⟩ := by
  induction v generalizing u with
  | nil => rw [read_nil, List.append_nil]
  | cons c v ih =>
    rw [List.mem_cons, not_or] at hv
    have hstep : (⟨ts, .quoted q u⟩ : Lexer).step c = ⟨ts, .quoted q (u ++ [c])⟩ :=
      if_neg (Ne.symm hv.1)
    rw [read_cons, hstep, ih hv.2, List.append_assoc, List.singleton_append]

/-- A doubled quote stands for itself. -/
theorem read_escape (ts : List Token) (u v : Text) :
    (⟨ts, .quoted '\'' u⟩ : Lexer).read (escape v) = ⟨ts, .quoted '\'' (u ++ v)⟩ := by
  induction v generalizing u with
  | nil => rw [escape, List.flatMap_nil, read_nil, List.append_nil]
  | cons c v ih =>
    have hone : (⟨ts, .quoted '\'' u⟩ : Lexer).read
        (if c = '\'' then ['\'', '\''] else [c]) = ⟨ts, .quoted '\'' (u ++ [c])⟩ := by
      by_cases hc : c = '\''
      · rw [if_pos hc, hc]
        rfl
      · rw [if_neg hc]
        exact if_neg hc
    have hrest := ih (u ++ [c])
    unfold escape at hrest ⊢
    rw [List.flatMap_cons, read_append, hone, hrest, List.append_assoc, List.singleton_append]

/-- What follows a single quote within quotes: another one, or the end of the
literal. -/
theorem read_closing {out : List Token} (hfinish : ((⟨ts, .closing '\'' u⟩ : Lexer).read t).finish =
    some out) : (∃ t', t = '\'' :: t' ∧
      ((⟨ts, .quoted '\'' (u ++ ['\''])⟩ : Lexer).read t').finish = some out) ∨
    (t.head? ≠ some '\'' ∧ ∃ more, out = ts ++ .literal u :: more) := by
  cases t with
  | nil =>
    cases hfinish
    exact Or.inr ⟨by simp, [], rfl⟩
  | cons c t =>
    by_cases hc : c = '\''
    · rw [hc] at hfinish ⊢
      exact Or.inl ⟨t, rfl, hfinish⟩
    · have hstep : (⟨ts, .closing '\'' u⟩ : Lexer).step c = fresh (ts ++ [.literal u]) c :=
        if_neg hc
      rw [read_cons, hstep] at hfinish
      obtain ⟨more, hmore⟩ := ((fresh_extends (ts ++ [.literal u]) c).read t).finish hfinish
      refine Or.inr ⟨by simpa using hc, more, ?_⟩
      rw [hmore, List.append_assoc, List.singleton_append]

/-- The literal that is read within quotes is written with its quotes doubled
and ends with one that is not. -/
theorem literal_written {more : List Token}
    (hfinish : ((⟨ts, .quoted '\'' u⟩ : Lexer).read t).finish = some (ts ++ .literal w :: more)) :
    ∃ v r, w = u ++ v ∧ t = escape v ++ '\'' :: r ∧ r.head? ≠ some '\'' := by
  induction hlen : t.length using Nat.strongRecOn generalizing t u with
  | ind n ih =>
    cases t with
    | nil => cases hfinish
    | cons c t =>
      by_cases hc : c = '\''
      · rw [hc] at hfinish ⊢
        rw [read_cons] at hfinish
        rcases read_closing hfinish with ⟨t', rfl, hrest⟩ | ⟨hhead, more', hout⟩
        · obtain ⟨v, r, hw, ht, hr⟩ := ih t'.length (by simp only [← hlen, List.length_cons]; omega)
            hrest rfl
          refine ⟨'\'' :: v, r, by rw [hw, List.append_assoc, List.singleton_append], ?_, hr⟩
          rw [ht]
          rfl
        · have hw := List.append_cancel_left hout
          rw [List.cons.injEq, Token.literal.injEq] at hw
          exact ⟨[], t, by rw [hw.1, List.append_nil], rfl, hhead⟩
      · have hstep : (⟨ts, .quoted '\'' u⟩ : Lexer).step c = ⟨ts, .quoted '\'' (u ++ [c])⟩ :=
          if_neg hc
        rw [read_cons, hstep] at hfinish
        obtain ⟨v, r, hw, ht, hr⟩ := ih t.length (by simp only [← hlen, List.length_cons]; omega)
          hfinish rfl
        refine ⟨c :: v, r, by rw [hw, List.append_assoc, List.singleton_append], ?_, hr⟩
        rw [ht, escape, escape, List.flatMap_cons, if_neg hc]
        rfl

end Lexer

section Escape

variable {v x r rest : Text}

theorem escape_cons (c : Char) (v : Text) :
    escape (c :: v) = (if c = '\'' then ['\'', '\''] else [c]) ++ escape v :=
  List.flatMap_cons

theorem escape_of_not_mem (h : '\'' ∉ v) : escape v = v := by
  induction v with
  | nil => rfl
  | cons c v ih =>
    rw [List.mem_cons, not_or] at h
    rw [escape_cons, if_neg (Ne.symm h.1), ih h.2, List.singleton_append]

theorem mem_escape {c : Char} (h : c ∈ v) : c ∈ escape v := by
  refine List.mem_flatMap.mpr ⟨c, h, ?_⟩
  split
  · next heq => rw [heq]; exact List.mem_cons_self
  · exact List.mem_singleton.mpr rfl

/-- A text that is one quote behind its escaped form cannot catch up. -/
theorem quote_of_behind {n : Nat}
    (h : x ++ '\'' :: rest = List.replicate (n + 1) '\'' ++ (escape x ++ '\'' :: r)) :
    rest.head? = some '\'' := by
  induction x generalizing n with
  | nil =>
    rw [List.nil_append, List.replicate_succ, List.cons_append, List.cons.injEq] at h
    rw [h.2]
    cases n <;> rfl
  | cons c x ih =>
    rw [List.cons_append, List.replicate_succ, List.cons_append, List.cons.injEq] at h
    obtain ⟨hc, htail⟩ := h
    rw [escape_cons, if_pos hc] at htail
    apply ih (n := n + 1)
    rw [htail]
    simp [List.replicate_succ']

/-- A value that is written as if it were escaped has no quote. -/
theorem not_mem_of_written (h : v ++ '\'' :: rest = escape v ++ '\'' :: r)
    (hrest : rest.head? ≠ some '\'') : '\'' ∉ v := by
  induction v with
  | nil => exact List.not_mem_nil
  | cons c v ih =>
    rw [escape_cons] at h
    by_cases hc : c = '\''
    · rw [if_pos hc, List.cons_append, List.cons_append, List.cons_append, List.cons.injEq] at h
      exact absurd (quote_of_behind (n := 0) h.2) hrest
    · rw [if_neg hc, List.cons_append, List.cons_append, List.cons_append, List.cons.injEq] at h
      rw [List.mem_cons, not_or]
      exact ⟨Ne.symm hc, ih h.2⟩

end Escape

/-- Where a text stands between the tokens of a statement: `opened` and
`filled` are within the quotes of a value, before and behind it, `closed` is
behind them. -/
inductive Place where
  | outside
  | opened
  | within
  | closing
  | filled
  | closed
  | other
  deriving DecidableEq, Repr

namespace Place

/-- The first character of a token. What would begin a comment or a name in
quotes, end the statement or the text stands nowhere. -/
def fresh (c : Char) : Place :=
  if c = '\'' then .opened
  else if c = '"' ∨ c.toNat = 96 ∨ c = '[' ∨ c = '-' ∨ c = '/' ∨ c = ';' ∨ c = '\x00' then .other
  else .outside

def step (k : Place) (c : Char) : Place :=
  match k with
  | .outside => fresh c
  | .opened | .within =>
    if c = '\'' then .closing else if c = '\x00' then .other else .within
  | .closing => if c = '\'' then .within else fresh c
  | .filled => if c = '\'' then .closed else .other
  | .closed => if c = '\'' then .other else fresh c
  | .other => .other

def read (k : Place) (t : Text) : Place := t.foldl step k

/-- Where a statement can end. -/
def Ends (k : Place) : Prop := k = .outside ∨ k = .closing ∨ k = .closed

variable {k : Place} {c : Char} {t : Text}

@[simp] theorem read_cons (k : Place) (c : Char) (t : Text) :
    k.read (c :: t) = (k.step c).read t := rfl

theorem fresh_outside (hquote : c ≠ '\'') (hk : fresh c ≠ .other) : fresh c = .outside := by
  unfold fresh at hk ⊢
  rw [if_neg hquote] at hk ⊢
  split_ifs at hk ⊢
  · exact absurd rfl hk
  · rfl

theorem read_other (t : Text) : Place.other.read t = .other := by
  induction t with
  | nil => rfl
  | cons c t ih => exact ih

/-- What is read of a string literal is read of its characters. -/
theorem read_string {s : String} {l : List Char} (hs : s = String.ofList l) (k : Place) :
    k.read s.toList = k.read l := by
  rw [hs, String.toList_ofList]

end Place

/-- Every value of a statement stands alone between two quotes of its text. -/
inductive Stmt.Spliced : Place → Stmt → Prop where
  | nil {k : Place} (hends : k.Ends) : Spliced k []
  | sql {k : Place} {t : Text} {st : Stmt} (hst : Spliced (k.read t) st) :
      Spliced k (.sql t :: st)
  | number {n : Int} {st : Stmt} (hst : Spliced .outside st) :
      Spliced .outside (.number n :: st)
  | value {v : Text} {st : Stmt} (hst : Spliced .filled st) : Spliced .opened (.value v :: st)

namespace Stmt.Spliced

variable {k : Place} {st : Stmt} {s : String} {l : List Char}

/-- A fixed text and the value behind it. -/
theorem text_value {v : Text} (hs : s = String.ofList l) (hk : k.read l = .opened)
    (hst : Spliced .filled st) : Spliced k (.sql s.toList :: .value v :: st) := by
  apply sql
  rw [Place.read_string hs, hk]
  exact value hst

/-- A fixed text and the number behind it. -/
theorem text_number {n : Int} (hs : s = String.ofList l) (hk : k.read l = .outside)
    (hst : Spliced .outside st) : Spliced k (.sql s.toList :: .number n :: st) := by
  apply sql
  rw [Place.read_string hs, hk]
  exact number hst

/-- The text a statement ends with. -/
theorem text_end (hs : s = String.ofList l) (hk : (k.read l).Ends) :
    Spliced k [.sql s.toList] := by
  apply sql
  rw [Place.read_string hs]
  exact nil hk

theorem not_other (h : Spliced .other st) : False := by
  induction st with
  | nil =>
    cases h with
    | nil hends => rcases hends with h | h | h <;> cases h
  | cons p st ih =>
    cases h with
    | sql hst =>
      rw [Place.read_other] at hst
      exact ih hst

end Stmt.Spliced

/-- What a tokenizer is in the middle of at a place. -/
def Lexer.At (s : Lexer) : Place → Prop
  | .outside => s.mode = .outside ∨ ∃ t, s.mode = .word t
  | .opened => s.mode = .quoted '\'' []
  | .within | .filled => ∃ v, s.mode = .quoted '\'' v
  | .closing | .closed => ∃ v, s.mode = .closing '\'' v
  | .other => True

/-- A statement that goes on behind the first one is not begun. -/
def Lexer.One (s : Lexer) : Prop := .symbol ';' ∉ s.tokens

namespace Lexer

theorem start_at : start.At .outside := Or.inl rfl

theorem start_one : start.One := List.not_mem_nil

variable {s : Lexer} {k : Place} {c : Char} {t : Text} {ts : List Token}

theorem fresh_at (hk : Place.fresh c ≠ .other) (hone : .symbol ';' ∉ ts) :
    (fresh ts c).At (Place.fresh c) ∧ (fresh ts c).One := by
  unfold Place.fresh at hk ⊢
  by_cases hquote : c = '\''
  · rw [hquote]
    exact ⟨rfl, hone⟩
  · rw [if_neg hquote] at hk ⊢
    by_cases hspecial : c = '"' ∨ c.toNat = 96 ∨ c = '[' ∨ c = '-' ∨ c = '/' ∨ c = ';' ∨ c = '\x00'
    · exact absurd (if_pos hspecial) hk
    · rw [if_neg hspecial]
      simp only [not_or] at hspecial
      obtain ⟨hdouble, hback, hbracket, hdash, hslash, hend, _⟩ := hspecial
      unfold fresh
      split_ifs with hblank hword hquotes
      · exact ⟨Or.inl rfl, hone⟩
      · exact ⟨Or.inr ⟨[c], rfl⟩, hone⟩
      · exact absurd hquotes (by simp [hquote, hdouble, hback])
      · refine ⟨Or.inl rfl, fun hmem => ?_⟩
        rcases List.mem_append.mp hmem with hmem | hmem
        · exact hone hmem
        · exact hend (Token.symbol.inj (List.mem_singleton.mp hmem)).symm

theorem one_append {x : Token} (h : .symbol ';' ∉ ts) (hx : x ≠ .symbol ';') :
    .symbol ';' ∉ ts ++ [x] := by
  rw [List.mem_append, List.mem_singleton, not_or]
  exact ⟨h, hx.symm⟩

theorem quotedToken_ne (q : Char) (v : Text) (c : Char) : quotedToken q v ≠ .symbol c := by
  unfold quotedToken
  split <;> exact nofun

theorem quoted_step_at {v : Text} {k' : Place} (hone : (⟨ts, .quoted '\'' v⟩ : Lexer).One)
    (hk : (if c = '\'' then .closing else if c = '\x00' then .other else .within) = k')
    (hk' : k' ≠ .other) :
    ((⟨ts, .quoted '\'' v⟩ : Lexer).step c).At k' ∧
      ((⟨ts, .quoted '\'' v⟩ : Lexer).step c).One := by
  unfold step
  dsimp only
  split_ifs at hk ⊢
  · rw [← hk]
    exact ⟨⟨v, rfl⟩, hone⟩
  · exact absurd hk.symm hk'
  · rw [← hk]
    exact ⟨⟨v ++ [c], rfl⟩, hone⟩

theorem closing_step_at {v : Text} (hone : (⟨ts, .closing '\'' v⟩ : Lexer).One)
    (hc : c ≠ '\'') (hk : Place.fresh c ≠ .other) :
    ((⟨ts, .closing '\'' v⟩ : Lexer).step c).At (Place.fresh c) ∧
      ((⟨ts, .closing '\'' v⟩ : Lexer).step c).One := by
  unfold step
  dsimp only
  rw [if_neg hc]
  exact fresh_at hk (one_append hone (quotedToken_ne _ _ _))

/-- One character takes a tokenizer from place to place. -/
theorem step_at (hat : s.At k) (hone : s.One) (hk : k.step c ≠ .other) :
    (s.step c).At (k.step c) ∧ (s.step c).One := by
  obtain ⟨ts, m⟩ := s
  cases k with
  | other => exact absurd rfl hk
  | outside =>
    rcases hat with hmode | ⟨t, hmode⟩
    · cases hmode
      exact fresh_at hk hone
    · cases hmode
      unfold step
      dsimp only
      split_ifs with hword
      · have hquote : c ≠ '\'' := by
          rintro rfl
          exact absurd hword (by decide)
        have houtside : Place.outside.step c = .outside := Place.fresh_outside hquote hk
        rw [houtside]
        exact ⟨Or.inr ⟨t ++ [c], rfl⟩, hone⟩
      · exact fresh_at hk (one_append hone (by exact nofun))
  | opened =>
    cases hat
    exact quoted_step_at hone rfl hk
  | within =>
    obtain ⟨v, hmode⟩ := hat
    cases hmode
    exact quoted_step_at hone rfl hk
  | filled =>
    obtain ⟨v, hmode⟩ := hat
    cases hmode
    by_cases hc : c = '\''
    · rw [hc]
      exact ⟨⟨v, rfl⟩, hone⟩
    · exact absurd (if_neg hc) hk
  | closing =>
    obtain ⟨v, hmode⟩ := hat
    cases hmode
    by_cases hc : c = '\''
    · rw [hc]
      exact ⟨⟨v ++ ['\''], rfl⟩, hone⟩
    · have hplace : Place.closing.step c = Place.fresh c := if_neg hc
      rw [hplace] at hk ⊢
      exact closing_step_at hone hc hk
  | closed =>
    obtain ⟨v, hmode⟩ := hat
    cases hmode
    by_cases hc : c = '\''
    · exact absurd (if_pos hc) hk
    · have hplace : Place.closed.step c = Place.fresh c := if_neg hc
      rw [hplace] at hk ⊢
      exact closing_step_at hone hc hk

theorem read_at (hat : s.At k) (hone : s.One) (hk : k.read t ≠ .other) :
    (s.read t).At (k.read t) ∧ (s.read t).One := by
  induction t generalizing s k with
  | nil => exact ⟨hat, hone⟩
  | cons c t ih =>
    have hstep : k.step c ≠ .other := fun h => hk (by rw [Place.read_cons, h, Place.read_other])
    obtain ⟨hat', hone'⟩ := step_at hat hone hstep
    exact ih hat' hone' hk

/-- A fixed text has no NUL. -/
theorem noNul_of_place (hk : k.read t ≠ .other) : '\x00' ∉ t := by
  induction t generalizing k with
  | nil => exact List.not_mem_nil
  | cons c t ih =>
    rw [List.mem_cons, not_or]
    refine ⟨?_, ih hk⟩
    rintro rfl
    have hstep : k.step '\x00' = .other := by cases k <;> decide
    exact hk (by rw [Place.read_cons, hstep, Place.read_other])

theorem place_digits (ht : ∀ c ∈ t, c.isDigit = true) : Place.outside.read t = .outside := by
  induction t with
  | nil => rfl
  | cons c t ih =>
    have hdigit : ∀ d : Char, d.isDigit = false → c ≠ d := by
      rintro d hd rfl
      rw [ht c List.mem_cons_self] at hd
      cases hd
    have hback : c.toNat ≠ 96 := by
      have hc := ht c List.mem_cons_self
      simp only [Char.isDigit, Bool.and_eq_true, decide_eq_true_eq] at hc
      have hle : c.toNat ≤ 57 := hc.2
      omega
    have hstep : Place.outside.step c = .outside := by
      unfold Place.step Place.fresh
      dsimp only
      rw [if_neg (hdigit '\'' (by decide)), if_neg]
      simp only [not_or]
      exact ⟨hdigit _ (by decide), hback, hdigit _ (by decide), hdigit _ (by decide),
        hdigit _ (by decide), hdigit _ (by decide), hdigit _ (by decide)⟩
    rw [Place.read_cons, hstep]
    exact ih fun d hd => ht d (List.mem_cons_of_mem _ hd)

/-- A number that stands outside of quotes is read there. -/
theorem read_decimal (hat : s.At .outside) (hone : s.One) (n : Int) :
    (s.read (decimal n)).At .outside ∧ (s.read (decimal n)).One := by
  have hdigits : ∀ c ∈ Nat.toDigits 10 n.natAbs, c.isDigit = true := fun c hc =>
    Nat.isDigit_of_mem_toDigits (by decide) (by decide) hc
  have hplace := place_digits hdigits
  have hread {s : Lexer} (hat : s.At .outside) (hone : s.One) :
      (s.read (Nat.toDigits 10 n.natAbs)).At .outside ∧
        (s.read (Nat.toDigits 10 n.natAbs)).One := by
    have hread := read_at hat hone (t := Nat.toDigits 10 n.natAbs) (by rw [hplace]; decide)
    rwa [hplace] at hread
  unfold decimal
  split
  · -- the sign is a token of its own once a digit follows
    obtain ⟨d, ds, hds⟩ := List.exists_cons_of_ne_nil
      (Nat.toDigits_ne_nil (b := 10) (n := n.natAbs))
    have hdash : ∃ ts, .symbol ';' ∉ ts ∧ s.step '-' = ⟨ts, .dash⟩ := by
      obtain ⟨ts, m⟩ := s
      rcases hat with hmode | ⟨t, hmode⟩
      · cases hmode
        exact ⟨ts, hone, rfl⟩
      · cases hmode
        exact ⟨ts ++ [.word t], one_append hone (by exact nofun), rfl⟩
    obtain ⟨ts, hts, hstep⟩ := hdash
    have hd : d ≠ '-' := by
      rintro rfl
      exact absurd (hdigits '-' (hds ▸ List.mem_cons_self)) (by decide)
    have hnext : (⟨ts, .dash⟩ : Lexer).step d =
        (⟨ts ++ [.symbol '-'], .outside⟩ : Lexer).step d := if_neg hd
    rw [read_cons, hstep, hds, read_cons, hnext, ← read_cons, ← hds]
    exact hread (Or.inl rfl) (one_append hts (by decide))
  · exact hread hat hone

end Lexer

namespace Stmt

/-- The text of a statement whose values are written in some way. -/
def render (f : Text → Text) (st : Stmt) : Text :=
  st.flatMap fun
    | .value v => f v
    | p => p.text

theorem render_id (st : Stmt) : st.render id = st.text := by
  unfold render text
  congr 1
  funext p
  cases p <;> rfl

variable {f : Text → Text} {st st' : Stmt} {t v : Text} {n : Int}

@[simp] theorem render_sql : render f (.sql t :: st) = t ++ render f st := rfl

@[simp] theorem render_number : render f (.number n :: st) = decimal n ++ render f st := rfl

@[simp] theorem render_value : render f (.value v :: st) = f v ++ render f st := rfl

theorem text_cons_sql : text (.sql t :: st) = t ++ text st := rfl

theorem text_cons_number : text (.number n :: st) = decimal n ++ text st := rfl

theorem text_cons_value : text (.value v :: st) = v ++ text st := rfl

variable {k : Place}

/-- Behind the quote that ends a value stands no other. -/
theorem Spliced.closed_text (f : Text → Text) (h : Spliced .closed st) :
    (st.render f).head? ≠ some '\'' := by
  induction st with
  | nil => exact nofun
  | cons p st ih =>
    cases h with
    | sql hst =>
      rename_i t
      cases t with
      | nil => exact ih hst
      | cons c t =>
        intro hhead
        have hc : c = '\'' := Option.some.inj hhead
        rw [hc] at hst
        have hother : Place.closed.read ('\'' :: t) = .other := Place.read_other t
        rw [hother] at hst
        exact hst.not_other

/-- Behind a value stands one quote. -/
theorem Spliced.filled_text (f : Text → Text) (h : Spliced .filled st) :
    ∃ r, st.render f = '\'' :: r ∧ r.head? ≠ some '\'' := by
  induction st with
  | nil =>
    cases h with
    | nil hends => rcases hends with h | h | h <;> cases h
  | cons p st ih =>
    cases h with
    | sql hst =>
      rename_i t
      cases t with
      | nil => exact ih hst
      | cons c t =>
        by_cases hc : c = '\''
        · rw [hc] at hst ⊢
          have hclosed : Spliced .closed (.sql t :: st) := .sql hst
          exact ⟨t ++ render f st, rfl, hclosed.closed_text f⟩
        · have hother : Place.filled.read (c :: t) = .other := by
            have hstep : Place.filled.step c = .other := if_neg hc
            rw [Place.read_cons, hstep, Place.read_other]
          rw [hother] at hst
          exact hst.not_other.elim

variable {s : Lexer} {vs : List Text}

/-- Where a text is read as it stands in a statement, the reading goes on. -/
theorem Spliced.read_sql (h : Spliced (k.read t) st) (hat : s.At k) (hone : s.One) :
    (s.read t).At (k.read t) ∧ (s.read t).One ∧ '\x00' ∉ t := by
  have hk : k.read t ≠ .other := fun hother => (hother ▸ h).not_other
  obtain ⟨hat', hone'⟩ := Lexer.read_at hat hone hk
  exact ⟨hat', hone', Lexer.noNul_of_place hk⟩

/-- Doubling the quotes of its values gives a text of the statement's shape. -/
theorem Spliced.read_escaped (h : Spliced k st) (hat : s.At k) (hone : s.One) :
    st.foldl Lexer.readPiece s = s.read (render escape st) ∧
      ∃ k', k'.Ends ∧ (s.read (render escape st)).At k' ∧ (s.read (render escape st)).One := by
  induction h generalizing s with
  | @nil k hends => exact ⟨rfl, k, hends, hat, hone⟩
  | sql hst ih =>
    obtain ⟨hat', hone', _⟩ := hst.read_sql hat hone
    rw [render_sql, Lexer.read_append]
    exact ih hat' hone'
  | number hst ih =>
    obtain ⟨hat', hone'⟩ := Lexer.read_decimal hat hone _
    rw [render_number, Lexer.read_append]
    exact ih hat' hone'
  | @value v st hst ih =>
    obtain ⟨ts, m⟩ := s
    cases hat
    rw [render_value, Lexer.read_append, Lexer.read_escape]
    exact ih (s := ⟨ts, .quoted '\'' v⟩) ⟨v, rfl⟩ hone

/-- The end of a statement outside of quotes, or behind them. -/
theorem finish_at (hat : s.At k) (hends : k.Ends) : ∃ out, s.finish = some out ∧
    s.step ' ' = ⟨out, .outside⟩ ∧ (s.One → .symbol ';' ∉ out) := by
  obtain ⟨ts, m⟩ := s
  rcases hends with rfl | rfl | rfl
  · rcases hat with hmode | ⟨t, hmode⟩
    · cases hmode
      exact ⟨ts, rfl, rfl, id⟩
    · cases hmode
      exact ⟨ts ++ [.word t], rfl, rfl, fun hone => Lexer.one_append hone (by exact nofun)⟩
  all_goals
    obtain ⟨v, hmode⟩ := hat
    cases hmode
    exact ⟨ts ++ [.literal v], rfl, rfl, fun hone => Lexer.one_append hone (by exact nofun)⟩

/-- A value is shown by a text without a NUL, as it is when it has none
itself. -/
def Shown (v a : Text) : Prop := '\x00' ∉ a ∧ ('\x00' ∉ v → a = v)

theorem shown_cstr (v : Text) : Shown v (cstr v) := ⟨no_nul_cstr v, cstr_of_no_nul⟩

/-- A text that a literal can be read from between single quotes. -/
def Clean (v : Text) : Prop := '\'' ∉ v ∧ '\x00' ∉ v

theorem Spliced.noNul (h : Spliced k st) (hvalues : ∀ a ∈ st.values, '\x00' ∉ a) :
    '\x00' ∉ st.text := by
  induction h with
  | nil => exact List.not_mem_nil
  | @sql k t st hst ih =>
    have hk : k.read t ≠ .other := fun hother => (hother ▸ hst).not_other
    rw [text_cons_sql, List.mem_append, not_or]
    exact ⟨Lexer.noNul_of_place hk, ih hvalues⟩
  | @number n st hst ih =>
    rw [text_cons_number, List.mem_append, not_or]
    exact ⟨not_mem_decimal (by decide) (by decide) n, ih hvalues⟩
  | @value v st hst ih =>
    rw [text_cons_value, List.mem_append, not_or]
    exact ⟨hvalues v List.mem_cons_self, ih fun a ha => hvalues a (List.mem_cons_of_mem _ ha)⟩

@[simp] theorem fill_sql : fill (.sql t :: st) vs = .sql t :: fill st vs := by
  cases vs <;> rfl

@[simp] theorem fill_number : fill (.number n :: st) vs = .number n :: fill st vs := by
  cases vs <;> rfl

/-- What is spliced does not matter. -/
theorem Spliced.fill (h : Spliced k (st ++ st')) (vs : List Text) :
    Spliced k (fill st vs ++ st') := by
  induction st generalizing k vs with
  | nil => exact h
  | cons p st ih =>
    cases h with
    | sql hst =>
      rw [fill_sql]
      exact .sql (ih hst vs)
    | number hst =>
      rw [fill_number]
      exact .number (ih hst vs)
    | value hst =>
      cases vs with
      | nil => exact .value (ih hst [])
      | cons v vs => exact .value (ih hst vs)

@[simp] theorem fill_value {a : Text} : fill (.value a :: st) (v :: vs) = .value v :: fill st vs := rfl

/-- The quote behind a value ends its literal. -/
theorem Spliced.literal_ended {ts out : List Token} (f : Text → Text) (h : Spliced .filled st)
    (hfinish : ((⟨ts, .quoted '\'' v⟩ : Lexer).read (render f st)).finish = some out) :
    ∃ more, out = ts ++ .literal v :: more := by
  obtain ⟨r, hr, hhead⟩ := h.filled_text f
  rw [hr, Lexer.read_cons] at hfinish
  rcases Lexer.read_closing hfinish with ⟨t', ht', _⟩ | ⟨_, hmore⟩
  · rw [ht'] at hhead
    exact absurd rfl hhead
  · exact hmore

/-- A value that is read as another one shows: it is clean. -/
theorem clean_of_literal {ts out more : List Token} {a r : Text} (hshown : Shown v a)
    (hr : '\x00' ∉ r) (hhead : r.head? ≠ some '\'')
    (hfinish : ((⟨ts, .quoted '\'' []⟩ : Lexer).read (a ++ '\'' :: r)).finish = some out)
    (hout : out = ts ++ .literal v :: more) : Clean v ∧ a = v := by
  rw [hout] at hfinish
  obtain ⟨w, r', hw, htext, _⟩ := Lexer.literal_written hfinish
  rw [List.nil_append] at hw
  have hnul : '\x00' ∉ v := by
    intro hmem
    have hall : '\x00' ∈ a ++ '\'' :: r := by
      rw [htext, ← hw]
      exact List.mem_append.mpr (Or.inl (mem_escape hmem))
    rcases List.mem_append.mp hall with hmem | hmem
    · exact hshown.1 hmem
    · rcases List.mem_cons.mp hmem with heq | hmem
      · cases heq
      · exact hr hmem
  have hsame := hshown.2 hnul
  rw [hsame, ← hw] at htext
  exact ⟨⟨not_mem_of_written htext hhead, hnul⟩, hsame⟩

/-- Two statements that begin alike, one with its values shown and one with
their quotes doubled: when they have one list of tokens, the values are clean
and the rests are read from one place. -/
theorem clean_of_tokens {st₁ st₂ : Stmt} {out : List Token} (h₁ : Spliced k (st ++ st₁))
    (h₂ : Spliced k (st ++ st₂)) (hat : s.At k) (hone : s.One)
    (hshown : List.Forall₂ Shown vs st.values) (hnul : '\x00' ∉ text (st ++ st₁))
    (hread : (s.read (text (st ++ st₁))).finish = some out)
    (hescaped : (s.read (render escape (st.fill vs ++ st₂))).finish = some out) :
    (∀ v ∈ vs, Clean v) ∧ ∃ (s' : Lexer) (k' : Place), s'.At k' ∧ Spliced k' st₁ ∧ Spliced k' st₂ ∧
      (s'.read st₁.text).finish = some out ∧ (s'.read (render escape st₂)).finish = some out := by
  induction st generalizing k s vs with
  | nil =>
    cases hshown
    exact ⟨nofun, s, k, hat, h₁, h₂, hread, hescaped⟩
  | cons p st ih =>
    cases p with
    | sql t =>
      cases h₁ with
      | sql hst =>
        cases h₂ with
        | sql hst' =>
          obtain ⟨hat', hone', _⟩ := hst.read_sql hat hone
          rw [List.cons_append, text_cons_sql] at hnul hread
          rw [Lexer.read_append] at hread
          rw [fill_sql, List.cons_append, render_sql, Lexer.read_append] at hescaped
          exact ih hst hst' hat' hone' hshown (fun hmem => hnul (List.mem_append.mpr (Or.inr hmem)))
            hread hescaped
    | number n =>
      cases h₁ with
      | number hst =>
        cases h₂ with
        | number hst' =>
          obtain ⟨hat', hone'⟩ := Lexer.read_decimal hat hone n
          rw [List.cons_append, text_cons_number] at hnul hread
          rw [Lexer.read_append] at hread
          rw [fill_number, List.cons_append, render_number, Lexer.read_append] at hescaped
          exact ih hst hst' hat' hone' hshown (fun hmem => hnul (List.mem_append.mpr (Or.inr hmem)))
            hread hescaped
    | value a =>
      obtain ⟨v, vs, hva, hshown', rfl⟩ : ∃ v vs', Shown v a ∧
          List.Forall₂ Shown vs' (values st) ∧ vs = v :: vs' := by
        cases hshown with
        | cons hva hrest => exact ⟨_, _, hva, hrest, rfl⟩
      cases h₁ with
      | value hst =>
        cases h₂ with
        | value hst' =>
          obtain ⟨ts, m⟩ := s
          cases hat
          rw [List.cons_append, text_cons_value] at hnul hread
          rw [fill_value, List.cons_append, render_value, Lexer.read_append, Lexer.read_escape,
            List.nil_append] at hescaped
          have hrest : '\x00' ∉ text (st ++ st₁) := fun hmem =>
            hnul (List.mem_append.mpr (Or.inr hmem))
          obtain ⟨more, hout⟩ := (hst'.fill vs).literal_ended escape hescaped
          obtain ⟨r, hr, hhead⟩ := hst.filled_text id
          rw [render_id] at hr
          have hliteral := clean_of_literal (r := r) hva
            (fun hmem => hrest (hr ▸ List.mem_cons_of_mem _ hmem)) hhead (hr ▸ hread) hout
          obtain ⟨hclean, rfl⟩ := hliteral
          rw [Lexer.read_append, Lexer.read_quoted hclean.1, List.nil_append] at hread
          obtain ⟨hall, hlater⟩ := ih (s := ⟨ts, .quoted '\'' a⟩) hst hst' ⟨a, rfl⟩ hone
            hshown' hrest hread hescaped
          refine ⟨fun w hw => ?_, hlater⟩
          rcases List.mem_cons.mp hw with rfl | hw
          · exact hclean
          · exact hall w hw

/-- The text is one statement of the shape of `form`. -/
def LexesAs (st form : Stmt) : Prop :=
  ∃ out, form.shape = some out ∧ .symbol ';' ∉ out ∧ lex st.text = some out

theorem shape_eq (h : Spliced .outside st) : st.shape = lex (render escape st) := by
  unfold shape lex
  rw [(h.read_escaped Lexer.start_at Lexer.start_one).1]

/-- The tokens of a shape, none of which ends the statement. -/
theorem exists_shape (h : Spliced .outside st) :
    ∃ out, st.shape = some out ∧ .symbol ';' ∉ out := by
  obtain ⟨k', hends, hat, hone⟩ := (h.read_escaped Lexer.start_at Lexer.start_one).2
  obtain ⟨out, hfinish, _, hout⟩ := finish_at hat hends
  exact ⟨out, (shape_eq h).trans hfinish, hout hone⟩

theorem fill_of_clean (hshown : List.Forall₂ Shown vs st.values) (hclean : ∀ v ∈ vs, Clean v) :
    render escape (fill st vs) = text st := by
  induction st generalizing vs with
  | nil => rfl
  | cons p st ih =>
    cases p with
    | sql t =>
      rw [fill_sql, render_sql, ih hshown hclean]
      rfl
    | number n =>
      rw [fill_number, render_number, ih hshown hclean]
      rfl
    | value a =>
      cases hshown with
      | @cons v _ vs _ hva hrest =>
        obtain ⟨hquote, hnul⟩ := hclean v List.mem_cons_self
        have hfill : fill (.value a :: st) (v :: vs) = .value v :: fill st vs := rfl
        rw [hfill, render_value, escape_of_not_mem hquote, ← hva.2 hnul,
          ih hrest fun w hw => hclean w (List.mem_cons_of_mem _ hw)]
        rfl

theorem noNul_of_shown (hshown : List.Forall₂ Shown vs st.values) :
    ∀ a ∈ st.values, '\x00' ∉ a := by
  generalize st.values = as at hshown
  induction hshown with
  | nil => exact nofun
  | cons hva _ ih => exact List.forall_mem_cons.mpr ⟨hva.1, ih⟩

/-- A statement is read with the values it was given exactly when they are
clean. -/
theorem lexesAs_iff (h : Spliced .outside st) (hshown : List.Forall₂ Shown vs st.values) :
    LexesAs st (fill st vs) ↔ ∀ v ∈ vs, Clean v := by
  have happend : Spliced .outside (st ++ []) := by rwa [List.append_nil]
  have hfill : Spliced .outside (fill st vs) := by
    have := happend.fill vs
    rwa [List.append_nil] at this
  constructor
  · rintro ⟨out, hshape, _, hlex⟩
    rw [shape_eq hfill] at hshape
    have hnul := h.noNul (noNul_of_shown hshown)
    rw [← List.append_nil st] at hnul hlex
    rw [← List.append_nil (fill st vs)] at hshape
    exact (clean_of_tokens happend happend Lexer.start_at Lexer.start_one hshown hnul hlex
      hshape).1
  · intro hclean
    obtain ⟨out, hshape, hone⟩ := exists_shape hfill
    refine ⟨out, hshape, hone, ?_⟩
    rw [← hshape, shape_eq hfill, fill_of_clean hshown hclean]

/-- A statement that stops before a clause is not read as the one that goes
on. -/
theorem not_lexesAs_longer {t t' : Text} {tail : Stmt} (h : Spliced .outside st)
    (hlonger : Spliced .outside (st ++ .sql t :: tail)) (ht : t = ' ' :: ',' :: t')
    (hshown : List.Forall₂ Shown vs st.values) : ¬LexesAs st (fill st vs ++ .sql t :: tail) := by
  rintro ⟨out, hshape, _, hlex⟩
  have happend : Spliced .outside (st ++ []) := by rwa [List.append_nil]
  rw [shape_eq (hlonger.fill vs)] at hshape
  have hnul := h.noNul (noNul_of_shown hshown)
  rw [← List.append_nil st] at hnul hlex
  obtain ⟨_, s', k', hat, hend, _, hfinish, hmore⟩ := clean_of_tokens happend hlonger
    Lexer.start_at Lexer.start_one hshown hnul hlex hshape
  have hends : k'.Ends := by
    cases hend with
    | nil hends => exact hends
  obtain ⟨out', hfinish', hstep, _⟩ := finish_at hat hends
  have hnil : text [] = [] := rfl
  rw [hnil, Lexer.read_nil, hfinish'] at hfinish
  cases hfinish
  rw [render_sql, ht, List.cons_append, Lexer.read_cons, hstep, List.cons_append,
    Lexer.read_cons] at hmore
  have hcomma : (⟨out, .outside⟩ : Lexer).step ',' = ⟨out ++ [.symbol ','], .outside⟩ := rfl
  rw [hcomma] at hmore
  obtain ⟨more, hlength⟩ := ((Lexer.Extends.refl _).read _).finish hmore
  have := congrArg List.length hlength
  simp only [List.length_append, List.length_cons] at this
  omega

end Stmt

end UCLinux.Sql
