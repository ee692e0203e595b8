import Mathlib.Data.List.Chain

/-! Arithmetic in infix notation: sums of terms, terms of factors, factors with their signs. -/

namespace GhostMeter.Lib.Infix

inductive Sign
  | plus | minus
  deriving DecidableEq

inductive Scale
  | times | slash
  deriving DecidableEq

inductive Token (α : Type)
  | operand (a : α)
  | sign (s : Sign)
  | scale (o : Scale)
  | opening | closing
  deriving DecidableEq

inductive Expr (α : Type)
  | operand (a : α)
  | unary (s : Sign) (e : Expr α)
  | sum (l : Expr α) (s : Sign) (r : Expr α)
  | term (l : Expr α) (o : Scale) (r : Expr α)
  deriving DecidableEq

inductive Level
  | sum | term | factor

/-- The grammar: operators of one level associate to the left, and signs bind tighter than any. -/
inductive Derives {α : Type} : Level → List (Token α) → Expr α → Prop
  | sum (hl : Derives .sum ts l) (s : Sign) (hr : Derives .term ts' r) :
      Derives .sum (ts ++ .sign s :: ts') (.sum l s r)
  | ofTerm (h : Derives .term ts e) : Derives .sum ts e
  | term (hl : Derives .term ts l) (o : Scale) (hr : Derives .factor ts' r) :
      Derives .term (ts ++ .scale o :: ts') (.term l o r)
  | ofFactor (h : Derives .factor ts e) : Derives .term ts e
  | unary (s : Sign) (h : Derives .factor ts e) : Derives .factor (.sign s :: ts) (.unary s e)
  | operand (a : α) : Derives .factor [.operand a] (.operand a)
  | paren (h : Derives .sum ts e) : Derives .factor (.opening :: (ts ++ [.closing])) e

theorem Derives.ne_nil {α : Type} {level : Level} {ts : List (Token α)} {e : Expr α}
    (h : Derives level ts e) : ts ≠ [] := by
  induction h with
  | ofTerm _ ih | ofFactor _ ih => exact ih
  | _ => simp

/-- The nesting of an expression. -/
def Expr.depth {α : Type} : Expr α → ℕ
  | .operand _ => 0
  | .unary _ e => e.depth + 1
  | .sum l _ r | .term l _ r => max l.depth r.depth + 1

/-- How deep the brackets are nested, after `n` open ones. -/
def nestingFrom {α : Type} : ℕ → List (Token α) → ℕ
  | n, [] => n
  | n, .opening :: ts => nestingFrom (n + 1) ts
  | n, .closing :: ts => max n (nestingFrom (n - 1) ts)
  | n, _ :: ts => nestingFrom n ts

def nesting {α : Type} : List (Token α) → ℕ := nestingFrom 0

section Substitution

variable {α β : Type}

def Expr.bind (g : α → Expr β) : Expr α → Expr β
  | .operand a => g a
  | .unary s e => .unary s (e.bind g)
  | .sum l s r => .sum (l.bind g) s (r.bind g)
  | .term l o r => .term (l.bind g) o (r.bind g)

def Token.bind (f : α → List (Token β)) : Token α → List (Token β)
  | .operand a => f a
  | .sign s => [.sign s]
  | .scale o => [.scale o]
  | .opening => [.opening]
  | .closing => [.closing]

variable {f : α → List (Token β)} {g : α → Expr β} {level : Level} {ts : List (Token α)}
  {e : Expr α}

/-- An operand may be replaced by anything that is a factor. -/
theorem Derives.bind (h : ∀ a, Derives .factor (f a) (g a)) (hd : Derives level ts e) :
    Derives level (ts.flatMap (Token.bind f)) (e.bind g) := by
  induction hd with
  | sum _ s _ ihl ihr =>
    rw [List.flatMap_append, List.flatMap_cons]
    exact .sum ihl s ihr
  | ofTerm _ ih => exact .ofTerm ih
  | term _ o _ ihl ihr =>
    rw [List.flatMap_append, List.flatMap_cons]
    exact .term ihl o ihr
  | ofFactor _ ih => exact .ofFactor ih
  | unary s _ ih => exact .unary s ih
  | operand a =>
    rw [List.flatMap_cons, List.flatMap_nil, List.append_nil]
    exact h a
  | paren _ ih =>
    rw [List.flatMap_cons, List.flatMap_append]
    exact .paren ih

theorem Expr.depth_bind_le {n : ℕ} (h : ∀ a, (g a).depth ≤ n) (e : Expr α) :
    (e.bind g).depth ≤ e.depth + n := by
  induction e with
  | operand a => simpa [Expr.bind, Expr.depth] using h a
  | unary s e ih =>
    simp only [Expr.bind, Expr.depth]
    omega
  | sum l s r ihl ihr | term l o r ihl ihr =>
    simp only [Expr.bind, Expr.depth]
    omega

/-- What stands for an operand has no brackets. -/
def Unbracketed (ts : List (Token α)) : Prop := Token.opening ∉ ts ∧ Token.closing ∉ ts

theorem nestingFrom_append (n : ℕ) {us : List (Token α)} (h : Unbracketed us)
    (ts : List (Token α)) : nestingFrom n (us ++ ts) = nestingFrom n ts := by
  induction us with
  | nil => rfl
  | cons t us ih =>
    obtain ⟨hopening, hclosing⟩ := h
    rw [List.mem_cons, not_or] at hopening hclosing
    have hrest := ih ⟨hopening.2, hclosing.2⟩
    cases t with
    | opening => exact absurd rfl hopening.1
    | closing => exact absurd rfl hclosing.1
    | _ => exact hrest

/-- Replacing operands opens no bracket. -/
theorem nestingFrom_bind (h : ∀ a, Unbracketed (f a)) (n : ℕ) (ts : List (Token α)) :
    nestingFrom n (ts.flatMap (Token.bind f)) = nestingFrom n ts := by
  induction ts generalizing n with
  | nil => rfl
  | cons t ts ih =>
    rw [List.flatMap_cons]
    cases t with
    | operand a => exact (nestingFrom_append n (h a) _).trans (ih n)
    | sign s => exact ih n
    | scale o => exact ih n
    | opening => exact ih (n + 1)
    | closing => exact congrArg (max n) (ih (n - 1))

end Substitution

section Parser

variable {α : Type}

/-- What has been read before the operand that comes next. -/
inductive Frame (α : Type)
  | unary (s : Sign)
  | opening
  | sum (l : Expr α) (s : Sign)
  | term (l : Expr α) (o : Scale)

inductive State (α : Type)
  | operand (k : List (Frame α))
  | operator (k : List (Frame α)) (e : Expr α)

/-- The signs before a factor are applied as soon as it is complete. -/
def State.factor : List (Frame α) → Expr α → State α
  | .unary s :: k, e => State.factor k (.unary s e)
  | k, e => .operator k e

def terms : List (Frame α) → Expr α → List (Frame α) × Expr α
  | .term l o :: k, e => terms k (.term l o e)
  | k, e => (k, e)

def sums : List (Frame α) → Expr α → List (Frame α) × Expr α
  | .term l o :: k, e => sums k (.term l o e)
  | .sum l s :: k, e => sums k (.sum l s e)
  | k, e => (k, e)

def State.feed : State α → Token α → Option (State α)
  | .operand k, .sign s => some (.operand (.unary s :: k))
  | .operand k, .opening => some (.operand (.opening :: k))
  | .operand k, .operand a => some (State.factor k (.operand a))
  | .operator k e, .scale o => some (.operand (.term (terms k e).2 o :: (terms k e).1))
  | .operator k e, .sign s => some (.operand (.sum (sums k e).2 s :: (sums k e).1))
  | .operator k e, .closing =>
    match sums k e with
    | (.opening :: k, e) => some (State.factor k e)
    | _ => none
  | _, _ => none

def State.result : State α → Option (Expr α)
  | .operator k e =>
    match sums k e with
    | ([], e) => some e
    | _ => none
  | .operand _ => none

/-- A parser that looks at every token once. -/
def parse (ts : List (Token α)) : Option (Expr α) :=
  (ts.foldlM State.feed (.operand [])).bind State.result

/-- A sum is read up to the bracket before it. -/
def AtSum : List (Frame α) → Prop
  | [] | .opening :: _ => True
  | _ => False

def AtTerm : List (Frame α) → Prop
  | .term _ _ :: _ | .unary _ :: _ => False
  | _ => True

def AtFactor : List (Frame α) → Prop
  | .unary _ :: _ => False
  | _ => True

variable {k : List (Frame α)} {level : Level} {ts : List (Token α)} {e : Expr α}

theorem AtSum.atTerm (h : AtSum k) : AtTerm k := by
  match k, h with
  | [], _ | .opening :: _, _ => exact trivial

theorem AtTerm.atFactor (h : AtTerm k) : AtFactor k := by
  match k, h with
  | [], _ | .opening :: _, _ | .sum _ _ :: _, _ => exact trivial

theorem State.factor_of_atFactor (h : AtFactor k) : State.factor k e = .operator k e := by
  match k, h with
  | [], _ | .opening :: _, _ | .sum _ _ :: _, _ | .term _ _ :: _, _ => rfl

theorem terms_of_atTerm (h : AtTerm k) : terms k e = (k, e) := by
  match k, h with
  | [], _ | .opening :: _, _ | .sum _ _ :: _, _ => rfl

theorem sums_of_atSum (h : AtSum k) : sums k e = (k, e) := by
  match k, h with
  | [], _ | .opening :: _, _ => rfl

/-- What completes a sum completes its last term first. -/
theorem sums_terms (k : List (Frame α)) (e : Expr α) :
    sums (terms k e).1 (terms k e).2 = sums k e := by
  induction k generalizing e with
  | nil => rfl
  | cons x k ih =>
    cases x with
    | term l o => exact ih _
    | _ => rfl

/-- What the parser has read of a sum, a term or a factor after its tokens. -/
def Read : Level → List (Frame α) → List (Token α) → Expr α → Prop
  | .factor, k, ts, e => ts.foldlM State.feed (.operand k) = some (State.factor k e)
  | .term, k, ts, e => AtTerm k → ∃ k' v,
      ts.foldlM State.feed (.operand k) = some (.operator k' v) ∧ terms k' v = (k, e)
  | .sum, k, ts, e => AtSum k → ∃ k' v,
      ts.foldlM State.feed (.operand k) = some (.operator k' v) ∧ sums k' v = (k, e)

theorem read_of_derives (h : Derives level ts e) (k : List (Frame α)) : Read level k ts e := by
  induction h generalizing k with
  | @sum ts l ts' r _ s _ ihl ihr =>
    intro hk
    obtain ⟨k₁, v₁, hrun, hl⟩ := ihl k hk
    obtain ⟨k₂, v₂, hrun', hr⟩ := ihr (.sum l s :: k) trivial
    have hfeed : State.feed (.operator k₁ v₁) (.sign s) = some (.operand (.sum l s :: k)) := by
      rw [State.feed, hl]
    refine ⟨k₂, v₂, ?_, ?_⟩
    · rw [List.foldlM_append, hrun]
      change (List.foldlM State.feed (.operator k₁ v₁) (.sign s :: ts')) = _
      rw [List.foldlM_cons, hfeed]
      exact hrun'
    · rw [← sums_terms, hr]
      exact sums_of_atSum hk
  | ofTerm _ ih =>
    intro hk
    obtain ⟨k₁, v₁, hrun, hterm⟩ := ih k hk.atTerm
    refine ⟨k₁, v₁, hrun, ?_⟩
    rw [← sums_terms, hterm]
    exact sums_of_atSum hk
  | @term ts l ts' r _ o _ ihl ihr =>
    intro hk
    obtain ⟨k₁, v₁, hrun, hl⟩ := ihl k hk
    have hfeed : State.feed (.operator k₁ v₁) (.scale o) = some (.operand (.term l o :: k)) := by
      rw [State.feed, hl]
    refine ⟨.term l o :: k, r, ?_, terms_of_atTerm hk⟩
    rw [List.foldlM_append, hrun]
    change (List.foldlM State.feed (.operator k₁ v₁) (.scale o :: ts')) = _
    rw [List.foldlM_cons, hfeed]
    exact ihr _
  | ofFactor _ ih =>
    intro hk
    refine ⟨k, _, ?_, terms_of_atTerm hk⟩
    rw [ih k, State.factor_of_atFactor hk.atFactor]
  | unary s _ ih => exact ih (.unary s :: k)
  | operand a => rfl
  | @paren ts e _ ih =>
    obtain ⟨k₁, v₁, hrun, hsum⟩ := ih (.opening :: k) trivial
    have hfeed : State.feed (.operator k₁ v₁) .closing = some (State.factor k e) := by
      rw [State.feed, hsum]
    change (ts ++ [Token.closing]).foldlM State.feed (.operand (.opening :: k)) = _
    rw [List.foldlM_append, hrun]
    change [Token.closing].foldlM State.feed (.operator k₁ v₁) = _
    rw [List.foldlM_cons, hfeed]
    rfl

/-- The parser finds every derivation. -/
theorem parse_of_derives (h : Derives .sum ts e) : parse ts = some e := by
  obtain ⟨k, v, hrun, hsum⟩ := read_of_derives h [] trivial
  rw [parse, hrun, Option.bind_some, State.result, hsum]

/-- No text has two meanings. -/
theorem Derives.unique (h : Derives .sum ts e) {e' : Expr α} (h' : Derives .sum ts e') :
    e = e' :=
  Option.some.inj ((parse_of_derives h).symm.trans (parse_of_derives h'))

end Parser

section Text

variable {α : Type}

/-- The blanks that may follow a token. -/
def isBlank (c : Char) : Bool := c = ' ' || c = '\t' || c = '\x0c'

/-- The tokens of one character. -/
def Token.ofChar : Char → Option (Token α)
  | '+' => some (.sign .plus)
  | '-' => some (.sign .minus)
  | '*' => some (.scale .times)
  | '/' => some (.scale .slash)
  | '(' => some .opening
  | ')' => some .closing
  | _ => none

/-- A character that no operand starts with, and that ends the one before it. -/
def isMark (c : Char) : Bool := isBlank c || (Token.ofChar (α := Unit) c).isSome

def Token.Spells (spells : α → List Char → Prop) : Token α → List Char → Prop
  | .operand a, cs => spells a cs
  | t, cs => ∃ c, cs = [c] ∧ Token.ofChar c = some t

/-- The texts of a list of tokens. -/
inductive Text (spells : α → List Char → Prop) : List (Token α) → List Char → Prop
  | nil : Text spells [] []
  | cons {t : Token α} {ts : List (Token α)} {cs blanks rest : List Char}
      (ht : t.Spells spells cs) (hb : ∀ c ∈ blanks, isBlank c) (h : Text spells ts rest) :
      Text spells (t :: ts) (cs ++ (blanks ++ rest))

def Token.IsOperand : Token α → Prop
  | .operand _ => True
  | _ => False

/-- Between two operands there is another token. -/
def Apart (t t' : Token α) : Prop := ¬ (t.IsOperand ∧ t'.IsOperand)

theorem Derives.isChain {level : Level} {ts : List (Token α)} {e : Expr α}
    (h : Derives level ts e) : ts.IsChain Apart := by
  have left : ∀ {t : Token α} {ts}, ¬ t.IsOperand → ts.IsChain Apart →
      (t :: ts).IsChain Apart := by
    intro t ts ht hts
    exact List.isChain_cons.2 ⟨fun _ _ h => ht h.1, hts⟩
  have between : ∀ {t : Token α} {ts ts'}, ¬ t.IsOperand → ts.IsChain Apart →
      ts'.IsChain Apart → (ts ++ t :: ts').IsChain Apart := by
    intro t ts ts' ht hts hts'
    refine List.isChain_append.2 ⟨hts, left ht hts', ?_⟩
    intro x _ y hy h
    cases hy
    exact ht h.2
  induction h with
  | sum _ s _ ihl ihr => exact between id ihl ihr
  | ofTerm _ ih | ofFactor _ ih => exact ih
  | term _ o _ ihl ihr => exact between id ihl ihr
  | unary s _ ih => exact left id ih
  | operand a => exact List.isChain_singleton _
  | paren _ ih => exact left id (between id ih List.isChain_nil)

theorem Token.ofChar_eq {c : Char} {t : Token α} (h : Token.ofChar c = some t) :
    isMark c ∧ ¬ t.IsOperand ∧ ¬ isBlank c := by
  unfold Token.ofChar at h
  split at h <;> cases h <;> exact ⟨by decide, id, by decide⟩

/-- Every other token stands for itself when the operands are replaced. -/
theorem Token.ofChar_bind {β : Type} (f : α → List (Token β)) {c : Char} {t : Token α}
    (h : Token.ofChar c = some t) : ∃ t', t.bind f = [t'] ∧ Token.ofChar c = some t' := by
  unfold Token.ofChar at h
  split at h <;> cases h <;> exact ⟨_, rfl, rfl⟩

/-- The text ends, or goes on with what cannot belong to an operand. -/
def Stops (cs : List Char) : Prop := ∀ c ∈ cs.head?, isMark c

/-- A scanner takes every operand as a whole. -/
structure Scans (spells : α → List Char → Prop) (scan : List Char → Option (α × List Char)) :
    Prop where
  scan : spells a cs → Stops rest → scan (cs ++ rest) = some (a, rest)
  head : spells a cs → ∃ c ∈ cs.head?, ¬ isMark c

/-- The tokens of a text; every round takes at least one of its characters. -/
def lexFrom (scan : List Char → Option (α × List Char)) : ℕ → List Char → Option (List (Token α))
  | _, [] => some []
  | 0, _ => none
  | n + 1, c :: cs =>
    if isBlank c then lexFrom scan n cs
    else
      match Token.ofChar c with
      | some t => (lexFrom scan n cs).map (t :: ·)
      | none => (scan (c :: cs)).bind fun (a, rest) => (lexFrom scan n rest).map (.operand a :: ·)

def lex (scan : List Char → Option (α × List Char)) (cs : List Char) : Option (List (Token α)) :=
  lexFrom scan cs.length cs

variable {spells : α → List Char → Prop} {scan : List Char → Option (α × List Char)}
  {ts : List (Token α)} {cs rest : List Char} {e : Expr α}

theorem Token.Spells.of_char {t : Token α} {c : Char} (h : Token.ofChar c = some t) :
    t.Spells spells [c] := by
  cases t with
  | operand a => exact absurd trivial (Token.ofChar_eq h).2.1
  | _ => exact ⟨c, rfl, h⟩

theorem Text.stops {blanks : List Char} (hb : ∀ c ∈ blanks, isBlank c)
    (h : Text spells ts rest) (hapart : ∀ t ∈ ts.head?, ¬ t.IsOperand) :
    Stops (blanks ++ rest) := by
  cases blanks with
  | cons b blanks =>
    intro c hc
    cases hc
    rw [isMark, hb b (List.mem_cons_self ..), Bool.true_or]
  | nil =>
    cases h with
    | nil => exact fun c hc => nomatch hc
    | @cons t ts cs blanks rest ht _ _ =>
      have hoperand := hapart t rfl
      cases t with
      | operand a => exact absurd trivial hoperand
      | _ =>
        obtain ⟨c, rfl, hc⟩ := ht
        intro d hd
        cases hd
        exact (Token.ofChar_eq hc).1

theorem lexFrom_blanks {blanks : List Char} (hb : ∀ c ∈ blanks, isBlank c)
    (h : ∀ n, rest.length ≤ n → lexFrom scan n rest = some ts) (n : ℕ)
    (hn : (blanks ++ rest).length ≤ n) : lexFrom scan n (blanks ++ rest) = some ts := by
  induction blanks generalizing n with
  | nil => exact h n hn
  | cons b blanks ih =>
    obtain ⟨n, rfl⟩ : ∃ m, n = m + 1 := ⟨n - 1, by simp at hn; omega⟩
    rw [List.cons_append, lexFrom, if_pos (hb b (List.mem_cons_self ..))]
    refine ih (fun c hc => hb c (List.mem_cons_of_mem _ hc)) n ?_
    simpa using hn

/-- A text is split into the tokens it was put together from. -/
theorem Text.lexFrom_eq (hscan : Scans spells scan) (h : Text spells ts cs)
    (hchain : ts.IsChain Apart) : ∀ n, cs.length ≤ n → lexFrom scan n cs = some ts := by
  induction h with
  | nil =>
    intro n _
    cases n <;> rfl
  | @cons t ts cs blanks rest ht hb h ih =>
    obtain ⟨hapart, hchain⟩ := List.isChain_cons.1 hchain
    have hrest := lexFrom_blanks hb (ih hchain)
    intro n hn
    cases t with
    | operand a =>
      have hstops : Stops (blanks ++ rest) :=
        h.stops hb fun t' ht' hop => hapart t' ht' ⟨trivial, hop⟩
      have hread := hscan.scan ht hstops
      obtain ⟨c, hc, hmark⟩ := hscan.head ht
      obtain ⟨d, cs, rfl⟩ : ∃ d cs', cs = d :: cs' := by
        cases cs with
        | nil => cases hc
        | cons d cs => exact ⟨d, cs, rfl⟩
      cases hc
      obtain ⟨n, rfl⟩ : ∃ m, n = m + 1 := ⟨n - 1, by simp at hn; omega⟩
      have hblank : ¬ isBlank c := fun h => hmark (by rw [isMark, h, Bool.true_or])
      have hchar : Token.ofChar (α := α) c = none := by
        rcases ho : Token.ofChar (α := α) c with _ | t
        · rfl
        · exact absurd (Token.ofChar_eq ho).1 hmark
      rw [List.cons_append, lexFrom, if_neg hblank, hchar]
      change Option.bind (scan ((c :: cs) ++ (blanks ++ rest))) _ = _
      rw [hread, Option.bind_some]
      change (lexFrom scan n (blanks ++ rest)).map _ = _
      rw [hrest n (by simp at hn ⊢; omega)]
      rfl
    | _ =>
      obtain ⟨c, rfl, hc⟩ := ht
      obtain ⟨n, rfl⟩ : ∃ m, n = m + 1 := ⟨n - 1, by simp at hn; omega⟩
      rw [List.singleton_append, lexFrom, if_neg (Token.ofChar_eq hc).2.2, hc]
      change (lexFrom scan n (blanks ++ rest)).map _ = _
      rw [hrest n (by simpa using hn)]
      rfl

theorem Text.lex_eq (hscan : Scans spells scan) (h : Text spells ts cs)
    (hd : Derives .sum ts e) : lex scan cs = some ts :=
  h.lexFrom_eq hscan hd.isChain _ le_rfl

end Text

end GhostMeter.Lib.Infix
