import GhostMeter.Lib.PyRepr
import GhostMeter.Simulation.ExpressionParser

/-! The language of the expressions: literals and variables in braces under signs, the four
operators and brackets.  Pasting the values into a text of it keeps its meaning. -/

namespace GhostMeter.Simulation

open GhostMeter.Lib
open GhostMeter.Lib.Infix hiding Token
open GhostMeter.Lib.PyNumber

inductive Operand
  | literal (l : Literal)
  | var (name : String)

def Operand.Spells (isWord : Char → Bool) : Operand → List Char → Prop
  | .literal l, cs => IsLiteral l cs
  | .var name, cs =>
    name.toList ≠ [] ∧ (∀ c ∈ name.toList, isWord c) ∧ cs = '{' :: (name.toList ++ ['}'])

/-- The text is one of the language, with at most `limit` brackets open at once, and stands for
the expression. -/
def Spells (isWord : Char → Bool) (limit : ℕ) (text : String) (e : Expr Operand) : Prop :=
  ∃ ts, Text (Operand.Spells isWord) ts text.toList ∧ Derives .sum ts e ∧ nesting ts ≤ limit

def applySign : Sign → PyFloat → PyFloat
  | .plus, x => x
  | .minus, x => x.neg

def applySum : Sign → PyFloat → PyFloat → PyFloat
  | .plus, x, y => x.add y
  | .minus, x, y => x.sub y

def applyTerm : Scale → PyFloat → PyFloat → Except EvaluationError PyFloat
  | .times, x, y => .ok (x.mul y)
  | .slash, x, y => if y.isZero then .ok .zero else (x.div y).mapError .py

def Operand.denote (values : Dict String PyFloat) : Operand → Except EvaluationError PyFloat
  | .literal l => l.value.toFloat.mapError .py
  | .var name => .ok ((values name).getD .zero)

/-- What the documentation says an expression is worth: a variable without a value counts as
zero, and so does a quotient by zero. -/
def denote (values : Dict String PyFloat) : Expr Operand → Except EvaluationError PyFloat
  | .operand a => a.denote values
  | .unary s e => (denote values e).map (applySign s)
  | .sum l s r => do return applySum s (← denote values l) (← denote values r)
  | .term l o r => do applyTerm o (← denote values l) (← denote values r)

def signOp : Sign → UnaryOp
  | .plus => .uAdd
  | .minus => .uSub

def sumOp : Sign → BinaryOp
  | .plus => .add
  | .minus => .sub

def termOp : Scale → BinaryOp
  | .times => .mult
  | .slash => .div

/-- Python's tree of an arithmetic text. -/
def tree : Expr Literal → Ast
  | .operand l => .constant l.value
  | .unary s e => .unaryOp (signOp s) (tree e)
  | .sum l s r => .binOp (tree l) (sumOp s) (tree r)
  | .term l o r => .binOp (tree l) (termOp o) (tree r)

/-- The levels of a tree; each takes a call. -/
def Ast.height : Ast → ℕ
  | .constant _ | .other _ => 1
  | .unaryOp _ operand => operand.height + 1
  | .binOp left _ right => max left.height right.height + 1

theorem height_tree (e : Expr Literal) : (tree e).height = e.depth + 1 := by
  induction e with
  | operand l => rfl
  | unary s e ih => exact congrArg Nat.succ ih
  | sum l s r ihl ihr | term l o r ihl ihr =>
    rw [tree, Ast.height, ihl, ihr, Nat.succ_max_succ]
    rfl

/-- What the evaluation relies on: arithmetic nested no deeper than `limit`, its brackets
included, is parsed by the grammar of the language reference, and there are calls left for trees
of that depth; `str` of a finite float is a literal of the grammar. -/
structure ReadsArithmetic (syn : PythonSyntax) (limit : ℕ) : Prop where
  parse : ∀ {ts cs e}, Text IsLiteral ts cs → Derives .sum ts e → e.depth ≤ limit →
    nesting ts ≤ limit → syn.parse (String.ofList cs) = .ok (tree e)
  frames : limit + syn.warningFrames < syn.frames
  str : ∀ {m}, PyFloat.Representable m → ∃ d cs, IsLiteral (.float d) cs ∧
    PyFloat.ofDecimal d = .fin false m ∧ syn.str (.fin false m) = String.ofList cs ∧
    syn.str (.fin true m) = String.ofList ('-' :: cs)
  word : ¬ syn.isWord '}'

section Pasting

variable {syn : PythonSyntax} {values : Dict String PyFloat} {cs cs' us : List Char} {c : Char}

def piece (syn : PythonSyntax) (values : Dict String PyFloat) : Token → List Char
  | .text c => [c]
  | .var name => (replaceVar syn.str values name).toList

theorem substituted_toList (expression : String) :
    (substituted syn expression values).toList =
      (tokens syn.isWord expression).flatMap (piece syn values) := by
  rw [substituted, String.toList_join, List.flatMap_map]
  refine List.flatMap_congr fun t _ => ?_
  cases t with
  | text c => simp [piece]
  | var name => rfl

/-- The text after the values have been pasted into it. -/
def Pastes (syn : PythonSyntax) (values : Dict String PyFloat) (cs cs' : List Char) : Prop :=
  ∀ n, cs.length ≤ n → (tokensFrom syn.isWord n cs).flatMap (piece syn values) = cs'

theorem Pastes.nil : Pastes syn values [] [] := by
  intro n _
  cases n <;> rfl

theorem Pastes.cons (hc : c ≠ '{') (h : Pastes syn values cs cs') :
    Pastes syn values (c :: cs) (c :: cs') := by
  intro n hn
  obtain ⟨n, rfl⟩ : ∃ m, n = m + 1 := ⟨n - 1, by simp at hn; omega⟩
  have htokens : tokensFrom syn.isWord (n + 1) (c :: cs) =
      .text c :: tokensFrom syn.isWord n cs := by
    rw [tokensFrom]
    exact hc
  rw [htokens, List.flatMap_cons, h n (by simpa using hn)]
  rfl

theorem Pastes.append (hus : '{' ∉ us) (h : Pastes syn values cs cs') :
    Pastes syn values (us ++ cs) (us ++ cs') := by
  induction us with
  | nil => exact h
  | cons c us ih =>
    rw [List.mem_cons, not_or] at hus
    exact (ih hus.2).cons (Ne.symm hus.1)

theorem matchVariable_name {name : String} (hword : ¬ syn.isWord '}') (hne : name.toList ≠ [])
    (hname : ∀ c ∈ name.toList, syn.isWord c) (cs : List Char) :
    matchVariable syn.isWord (name.toList ++ '}' :: cs) = some (name, cs) := by
  have htake : (name.toList ++ '}' :: cs).takeWhile syn.isWord = name.toList := by
    rw [List.takeWhile_append_of_pos hname, List.takeWhile_cons_of_neg hword, List.append_nil]
  have hdrop : (name.toList ++ '}' :: cs).dropWhile syn.isWord = '}' :: cs := by
    rw [List.dropWhile_append_of_pos hname, List.dropWhile_cons_of_neg hword]
  rw [matchVariable, htake, hdrop]
  cases hlist : name.toList with
  | nil => exact absurd hlist hne
  | cons c us =>
    have heq : String.ofList (c :: us) = name := by rw [← hlist, String.ofList_toList]
    exact congrArg (fun name => some (name, cs)) heq

theorem Pastes.var {name : String} (hword : ¬ syn.isWord '}') (hne : name.toList ≠ [])
    (hname : ∀ c ∈ name.toList, syn.isWord c) (h : Pastes syn values cs cs') :
    Pastes syn values ('{' :: (name.toList ++ ['}']) ++ cs)
      ((replaceVar syn.str values name).toList ++ cs') := by
  intro n hn
  obtain ⟨n, rfl⟩ : ∃ m, n = m + 1 := ⟨n - 1, by simp at hn; omega⟩
  have hmatch := matchVariable_name hword hne hname cs
  have htokens : tokensFrom syn.isWord (n + 1) ('{' :: (name.toList ++ ['}']) ++ cs) =
      .var name :: tokensFrom syn.isWord n cs := by
    rw [List.cons_append, List.append_assoc, List.singleton_append, tokensFrom, hmatch]
  rw [htokens, List.flatMap_cons, h n (by simp at hn; omega)]
  rfl

/-- Where an operand stands, the pasted text has the tokens. -/
def PastesAs (syn : PythonSyntax) (values : Dict String PyFloat) (a : Operand)
    (ts : List (Infix.Token Literal)) : Prop :=
  ∀ {us blanks rest rest' ts'}, a.Spells syn.isWord us → (∀ c ∈ blanks, isBlank c) →
    Text IsLiteral ts' rest' → Pastes syn values rest rest' →
    ∃ us', Text IsLiteral (ts ++ ts') us' ∧ Pastes syn values (us ++ (blanks ++ rest)) us'

theorem brace_not_mem {blanks : List Char} (hb : ∀ c ∈ blanks, isBlank c) : '{' ∉ blanks :=
  fun hmem => absurd (hb _ hmem) (by decide)

variable {f : Operand → List (Infix.Token Literal)}

/-- Pasting turns the text of an expression into the text of the expression with the operands
replaced. -/
theorem Text.pastes {ts : List (Infix.Token Operand)} (hf : ∀ a, PastesAs syn values a (f a))
    (h : Text (Operand.Spells syn.isWord) ts cs) :
    ∃ cs', Text IsLiteral (ts.flatMap (Infix.Token.bind f)) cs' ∧
      Pastes syn values cs cs' := by
  induction h with
  | nil => exact ⟨[], .nil, .nil⟩
  | @cons t ts us blanks rest ht hb _ ih =>
    obtain ⟨rest', htext, hpastes⟩ := ih
    have hmark : ∀ {c}, us = [c] → Infix.Token.ofChar c = some t → ∃ cs',
        Text IsLiteral ((t :: ts).flatMap (Infix.Token.bind f)) cs' ∧
          Pastes syn values (us ++ (blanks ++ rest)) cs' := by
      rintro c rfl hc
      obtain ⟨t', hbind, hc'⟩ := Infix.Token.ofChar_bind f hc
      have hne : c ≠ '{' := by
        rintro rfl
        cases hc
      rw [List.flatMap_cons, hbind]
      exact ⟨_, .cons (.of_char hc') hb htext, (hpastes.append (brace_not_mem hb)).cons hne⟩
    cases t with
    | operand a =>
      rw [List.flatMap_cons]
      exact hf a ht hb htext hpastes
    | _ =>
      obtain ⟨c, hus, hc⟩ := ht
      exact hmark hus hc

theorem pastesAs_literal (l : Literal) : PastesAs syn values (.literal l) [.operand l] := by
  intro us blanks rest rest' ts' hus hb htext hpastes
  have hforeign : Foreign '{' := by decide
  have hbrace : '{' ∉ us := fun hmem => absurd (hforeign.mem_of_literal hus hmem) (by simp)
  exact ⟨_, .cons hus hb htext, (hpastes.append (brace_not_mem hb)).append hbrace⟩

theorem pastesAs_var (hword : ¬ syn.isWord '}') {name : String} {cs : List Char}
    {ts : List (Infix.Token Literal)} (hvalue : replaceVar syn.str values name = String.ofList cs)
    (htext : ∀ {blanks rest ts'}, (∀ c ∈ blanks, isBlank c) → Text IsLiteral ts' rest →
      Text IsLiteral (ts ++ ts') (cs ++ (blanks ++ rest))) :
    PastesAs syn values (.var name) ts := by
  rintro us blanks rest rest' ts' ⟨hne, hname, rfl⟩ hb hrest hpastes
  have hvar := (hpastes.append (brace_not_mem hb)).var hword hne hname
  rw [hvalue, String.toList_ofList] at hvar
  exact ⟨_, htext hb hrest, hvar⟩

theorem text_literal {l : Literal} {blanks rest : List Char} {ts : List (Infix.Token Literal)}
    (hl : IsLiteral l cs) (hb : ∀ c ∈ blanks, isBlank c) (h : Text IsLiteral ts rest) :
    Text IsLiteral ([.operand l] ++ ts) (cs ++ (blanks ++ rest)) :=
  .cons (t := .operand l) hl hb h

theorem text_negative {l : Literal} {blanks rest : List Char} {ts : List (Infix.Token Literal)}
    (hl : IsLiteral l cs) (hb : ∀ c ∈ blanks, isBlank c) (h : Text IsLiteral ts rest) :
    Text IsLiteral ([.sign .minus, .operand l] ++ ts) ('-' :: cs ++ (blanks ++ rest)) :=
  @Text.cons _ _ (.sign .minus) _ ['-'] [] _ ⟨'-', rfl, rfl⟩ (fun _ h => by cases h)
    (text_literal hl hb h)

variable {limit : ℕ}

/-- The factor that an operand becomes. -/
theorem Operand.exists_pastesAs (hsyn : ReadsArithmetic syn limit)
    (hvalues : ∀ name x, values name = some x → ∃ neg m, x = .fin neg m ∧ PyFloat.Representable m)
    (a : Operand) : ∃ ts e, Derives .factor ts e ∧ e.depth ≤ 1 ∧ Unbracketed ts ∧
      (∀ n, (tree e).height ≤ n → safeAstEval syn.warningFrames n (tree e) = a.denote values) ∧
      PastesAs syn values a ts := by
  have hsingle : ∀ l : Literal, Unbracketed [Infix.Token.operand l] := fun l => by
    simp [Unbracketed]
  cases a with
  | literal l =>
    refine ⟨_, _, .operand l, Nat.zero_le _, hsingle l, fun n hn => ?_, pastesAs_literal l⟩
    obtain ⟨n, rfl⟩ := Nat.exists_eq_add_of_le' hn
    cases l <;> rfl
  | var name =>
    rcases hname : values name with _ | x
    · obtain ⟨d, hd, hread⟩ := PyFloat.literal_reprMag (rfl : PyFloat.Representable 0)
      refine ⟨_, _, .operand (.float d), Nat.zero_le _, hsingle _, fun n hn => ?_,
        pastesAs_var hsyn.word (by rw [replaceVar, hname]; rfl) (text_literal hd)⟩
      obtain ⟨n, rfl⟩ := Nat.exists_eq_add_of_le' hn
      rw [Operand.denote, hname, tree, Literal.value, hread]
      rfl
    · obtain ⟨neg, m, rfl, hm⟩ := hvalues name x hname
      obtain ⟨d, cs, hd, hread, hpos, hneg⟩ := hsyn.str hm
      cases neg with
      | false =>
        refine ⟨_, _, .operand (.float d), Nat.zero_le _, hsingle _, fun n hn => ?_,
          pastesAs_var hsyn.word (by rw [replaceVar, hname]; exact hpos) (text_literal hd)⟩
        obtain ⟨n, rfl⟩ := Nat.exists_eq_add_of_le' hn
        rw [Operand.denote, hname, tree, Literal.value, hread]
        rfl
      | true =>
        -- A negative value is pasted with its sign, which binds tighter than any operator.
        refine ⟨_, _, .unary .minus (.operand (.float d)), le_rfl, by simp [Unbracketed],
          fun n hn => ?_,
          pastesAs_var hsyn.word (by rw [replaceVar, hname]; exact hneg) (text_negative hd)⟩
        obtain ⟨n, rfl⟩ := Nat.exists_eq_add_of_le' hn
        rw [Operand.denote, hname, tree, tree, Literal.value, hread]
        rfl

end Pasting

section Evaluation

variable {values : Dict String PyFloat} {g : Operand → Expr Literal}

/-- Evaluating the tree with the operands replaced gives what the expression denotes, with calls
left for the tree and for a warning. -/
theorem safeAstEval_bind {w : ℕ}
    (hg : ∀ a n, (tree (g a)).height ≤ n → safeAstEval w n (tree (g a)) = a.denote values)
    (e : Expr Operand) (n : ℕ) (hn : (tree (e.bind g)).height + w ≤ n) :
    safeAstEval w n (tree (e.bind g)) = denote values e := by
  induction e generalizing n with
  | operand a => exact hg a n ((Nat.le_add_right _ w).trans hn)
  | unary s e ih =>
    rw [Expr.bind, tree, Ast.height] at hn
    obtain ⟨n, rfl⟩ : ∃ m, n = m + 1 := ⟨n - 1, by omega⟩
    rw [denote, ← ih n (by omega), Expr.bind, tree]
    cases s
    · cases h : safeAstEval w n (tree (e.bind g)) <;> simp only [signOp, safeAstEval, h] <;> rfl
    · rfl
  | sum l s r ihl ihr =>
    rw [Expr.bind, tree, Ast.height] at hn
    obtain ⟨n, rfl⟩ : ∃ m, n = m + 1 := ⟨n - 1, by omega⟩
    rw [denote, ← ihl n (by omega), ← ihr n (by omega), Expr.bind, tree, safeAstEval]
    cases s <;> rfl
  | term l o r ihl ihr =>
    rw [Expr.bind, tree, Ast.height] at hn
    obtain ⟨n, rfl⟩ : ∃ m, n = m + 1 := ⟨n - 1, by omega⟩
    rw [denote, ← ihl n (by omega), ← ihr n (by omega), Expr.bind, tree, safeAstEval]
    cases o
    · rfl
    · have hroom : ¬ n < w := by omega
      refine bind_congr fun x => bind_congr fun y => ?_
      by_cases hzero : y.isZero <;> simp only [termOp, applyTerm, hzero, hroom] <;> rfl

variable {syn : PythonSyntax} {limit : ℕ} {expression : String} {e : Expr Operand}

theorem not_isSpace_of_ofChar {α : Type} {c : Char} {t : Infix.Token α}
    (h : Infix.Token.ofChar c = some t) : ¬ PyString.isSpace c := by
  unfold Infix.Token.ofChar at h
  split at h
  all_goals first | decide | cases h

/-- No expression is blank. -/
theorem Spells.strip_ne_empty (h : Spells syn.isWord limit expression e) :
    PyString.strip expression ≠ "" := by
  obtain ⟨ts, htext, hd, -⟩ := h
  suffices hchar : ∃ c ∈ expression.toList, ¬ PyString.isSpace c by
    obtain ⟨c, hc, hspace⟩ := hchar
    exact PyString.strip_ne_empty hc hspace
  generalize expression.toList = cs at htext
  cases htext with
  | nil => exact absurd hd.ne_nil (by simp)
  | @cons t ts us blanks rest ht _ _ =>
    suffices hchar : ∃ c ∈ us, ¬ PyString.isSpace c by
      obtain ⟨c, hc, hspace⟩ := hchar
      exact ⟨c, List.mem_append_left _ hc, hspace⟩
    cases t with
    | operand a =>
      cases a with
      | literal l =>
        obtain ⟨c, hc, hnumeral⟩ := head_of_literal ht
        exact ⟨c, List.mem_of_mem_head? hc, not_isSpace_of_isNumeral hnumeral⟩
      | var name =>
        obtain ⟨_, _, rfl⟩ := ht
        exact ⟨'{', List.mem_cons_self .., by decide⟩
    | _ =>
      obtain ⟨c, rfl, hc⟩ := ht
      exact ⟨c, List.mem_cons_self .., not_isSpace_of_ofChar hc⟩

/-- The evaluation of a text of the language, nested less deep than the limit, is what the text
denotes. -/
theorem parseAndEvaluate_eq_denote (hsyn : ReadsArithmetic syn limit)
    (hvalues : ∀ name x, values name = some x → ∃ neg m, x = .fin neg m ∧ PyFloat.Representable m)
    (h : Spells syn.isWord limit expression e) (hdepth : e.depth < limit) :
    parseAndEvaluate syn expression values = denote values e := by
  have hblank := h.strip_ne_empty
  obtain ⟨ts, htext, hd, hnesting⟩ := h
  choose f g hfactor hflat hunbracketed heval hpastes using
    Operand.exists_pastesAs hsyn hvalues
  obtain ⟨cs, hpasted, hcs⟩ := Text.pastes hpastes htext
  have hsubstituted : substituted syn expression values = String.ofList cs := by
    rw [← String.toList_inj, substituted_toList, String.toList_ofList]
    exact hcs _ le_rfl
  have hlimit : (e.bind g).depth ≤ limit := (Expr.depth_bind_le hflat e).trans hdepth
  have hbrackets : nesting (ts.flatMap (Infix.Token.bind f)) ≤ limit :=
    (nestingFrom_bind hunbracketed 0 ts).trans_le hnesting
  have hframes := hsyn.frames
  rw [parseAndEvaluate, if_neg hblank, hsubstituted,
    hsyn.parse hpasted (hd.bind hfactor) hlimit hbrackets]
  exact safeAstEval_bind heval e _ (by rw [height_tree]; omega)

/-- Python, as far as texts of the language over ASCII go. -/
def arithmeticSyntax : PythonSyntax where
  isWord := asciiWord
  str := PyFloat.repr
  parse text := (arithmetic text).elim (.error (.syntaxError "invalid syntax")) (.ok ∘ tree)
  frames := 900
  warningFrames := 30

theorem readsArithmetic : ReadsArithmetic arithmeticSyntax 100 where
  frames := by decide
  parse {_ cs _} ht hd _ _ := by
    change (arithmetic (String.ofList cs)).elim _ _ = _
    rw [arithmetic_eq ht hd]
    rfl
  str hm := by
    obtain ⟨d, hd, hread⟩ := PyFloat.literal_reprMag hm
    exact ⟨d, _, hd, hread, rfl, rfl⟩
  word := by decide

/-- Twice the difference of a negative value and a variable without one. -/
theorem parseAndEvaluate_eq_denote_doubled :
    parseAndEvaluate arithmeticSyntax "2 * ({x} - {y})"
      (fun name => if name = "x" then some (.fin true 3) else none) = .ok (.fin true 6) := by
  have hspells : Spells arithmeticSyntax.isWord 100 "2 * ({x} - {y})"
      (.term (.operand (.literal (.int 2))) .times
        (.sum (.operand (.var "x")) .minus (.operand (.var "y")))) := by
    refine ⟨_, ?_, .ofTerm (.term (.ofFactor (.operand _)) _ (.paren
      (.sum (.ofTerm (.ofFactor (.operand _))) _ (.ofFactor (.operand _))))), ?_⟩
    · have hspace : ∀ c ∈ [' '], isBlank c := List.forall_mem_singleton.2 rfl
      refine @Text.cons _ _ _ _ ['2'] [' '] _ rfl hspace ?_
      refine @Text.cons _ _ _ _ ['*'] [' '] _ ⟨'*', rfl, rfl⟩ hspace ?_
      refine @Text.cons _ _ _ _ ['('] [] _ ⟨'(', rfl, rfl⟩ (List.forall_mem_nil _) ?_
      refine @Text.cons _ _ _ _ ['{', 'x', '}'] [' '] _
        ⟨List.cons_ne_nil 'x' [], List.forall_mem_singleton.2 rfl, rfl⟩ hspace ?_
      refine @Text.cons _ _ _ _ ['-'] [' '] _ ⟨'-', rfl, rfl⟩ hspace ?_
      refine @Text.cons _ _ _ _ ['{', 'y', '}'] [] _
        ⟨List.cons_ne_nil 'y' [], List.forall_mem_singleton.2 rfl, rfl⟩ (List.forall_mem_nil _) ?_
      exact @Text.cons _ _ _ _ [')'] [] _ ⟨')', rfl, rfl⟩ (List.forall_mem_nil _) .nil
    · exact Nat.one_le_ofNat
  have hint : PyFloat.ofInt 2 = .ok (.fin false 2) := by decide +kernel
  have hsub : (PyFloat.fin true 3).sub .zero = .fin true 3 := by decide +kernel
  have hmul : (PyFloat.fin false 2).mul (.fin true 3) = .fin true 6 := by decide +kernel
  refine (parseAndEvaluate_eq_denote readsArithmetic ?_ hspells (by decide)).trans ?_
  · intro name x hx
    by_cases hname : name = "x"
    · rw [if_pos hname] at hx
      exact ⟨true, 3, (Option.some.inj hx).symm, by decide +kernel⟩
    · rw [if_neg hname] at hx
      cases hx
  · have hvalue : denote (fun name => if name = "x" then some (.fin true 3) else none)
        (.operand (.literal (.int 2))) = .ok (.fin false 2) :=
      congrArg (Except.mapError EvaluationError.py) hint
    simp only [denote] at hvalue ⊢
    rw [hvalue]
    change Except.ok ((PyFloat.fin false 2).mul ((PyFloat.fin true 3).sub .zero)) = _
    rw [hsub, hmul]

end Evaluation

section Safety

/-- A tree of numbers, signs and the four operators. -/
inductive Ast.IsArithmetic : Ast → Prop
  | bool (b : Bool) : IsArithmetic (.constant (.bool b))
  | int (h : PyFloat.ofInt n = .ok x) : IsArithmetic (.constant (.int n))
  | float (x : PyFloat) : IsArithmetic (.constant (.float x))
  | unary (s : Sign) (h : IsArithmetic operand) : IsArithmetic (.unaryOp (signOp s) operand)
  | sum (s : Sign) (hl : IsArithmetic left) (hr : IsArithmetic right) :
      IsArithmetic (.binOp left (sumOp s) right)
  | term (o : Scale) (hl : IsArithmetic left) (hr : IsArithmetic right) :
      IsArithmetic (.binOp left (termOp o) right)

/-- What the evaluation refuses a tree with. -/
def IsRefusal : EvaluationError → Prop
  | .expressionError _ => True
  | .py e => e = .overflowError
  | .attributeError | .recursionError | .memoryError => False

theorem isArithmetic_unaryOp {op : UnaryOp} {t : Ast} :
    (Ast.unaryOp op t).IsArithmetic ↔ (∃ s, op = signOp s) ∧ t.IsArithmetic := by
  constructor
  · intro h
    generalize hu : Ast.unaryOp op t = u at h
    cases h with
    | unary s h =>
      cases hu
      exact ⟨⟨s, rfl⟩, h⟩
    | _ => cases hu
  · rintro ⟨⟨s, rfl⟩, h⟩
    exact .unary s h

theorem isArithmetic_binOp {l r : Ast} {op : BinaryOp} :
    (Ast.binOp l op r).IsArithmetic ↔
      ((∃ s, op = sumOp s) ∨ ∃ o, op = termOp o) ∧ l.IsArithmetic ∧ r.IsArithmetic := by
  constructor
  · intro h
    generalize hu : Ast.binOp l op r = u at h
    cases h with
    | sum s hl hr =>
      cases hu
      exact ⟨.inl ⟨s, rfl⟩, hl, hr⟩
    | term o hl hr =>
      cases hu
      exact ⟨.inr ⟨o, rfl⟩, hl, hr⟩
    | _ => cases hu
  · rintro ⟨⟨s, rfl⟩ | ⟨o, rfl⟩, hl, hr⟩
    · exact .sum s hl hr
    · exact .term o hl hr

variable {w n : ℕ}

/-- An operator of two values gives a value, lacks the calls for its warning, or is refused. -/
theorem operator_or_refused (op : BinaryOp) (x y : PyFloat) :
    (((∃ s, op = sumOp s) ∨ ∃ o, op = termOp o) ∧
      ((∃ z, ∀ l r, safeAstEval w n l = .ok x → safeAstEval w n r = .ok y →
          safeAstEval w (n + 1) (.binOp l op r) = .ok z) ∨
        n < w ∧ ∀ l r, safeAstEval w n l = .ok x → safeAstEval w n r = .ok y →
          safeAstEval w (n + 1) (.binOp l op r) = .error .recursionError)) ∨
    (¬ ((∃ s, op = sumOp s) ∨ ∃ o, op = termOp o) ∧
      ∃ e, IsRefusal e ∧ ∀ l r, safeAstEval w n l = .ok x → safeAstEval w n r = .ok y →
        safeAstEval w (n + 1) (.binOp l op r) = .error e) := by
  cases op with
  | add =>
    exact .inl ⟨.inl ⟨.plus, rfl⟩, .inl ⟨_, fun l r hl hr => by rw [safeAstEval, hl, hr]; rfl⟩⟩
  | sub =>
    exact .inl ⟨.inl ⟨.minus, rfl⟩, .inl ⟨_, fun l r hl hr => by rw [safeAstEval, hl, hr]; rfl⟩⟩
  | mult =>
    exact .inl ⟨.inr ⟨.times, rfl⟩, .inl ⟨_, fun l r hl hr => by rw [safeAstEval, hl, hr]; rfl⟩⟩
  | div =>
    refine .inl ⟨.inr ⟨.slash, rfl⟩, ?_⟩
    by_cases hzero : y.isZero
    · by_cases hroom : n < w
      · refine .inr ⟨hroom, fun l r hl hr => ?_⟩
        rw [safeAstEval, hl, hr]
        exact (if_pos hzero).trans (if_pos hroom)
      · refine .inl ⟨.zero, fun l r hl hr => ?_⟩
        rw [safeAstEval, hl, hr]
        exact (if_pos hzero).trans (if_neg hroom)
    · obtain ⟨z, hz⟩ : ∃ z, x.div y = .ok z := by
        unfold PyFloat.div
        rw [if_neg hzero]
        exact ⟨_, rfl⟩
      refine .inl ⟨z, fun l r hl hr => ?_⟩
      rw [safeAstEval, hl, hr]
      refine (if_neg hzero).trans ?_
      rw [hz]
      rfl
  | other name =>
    refine .inr ⟨?_, .expressionError s!"Operator {name} not allowed", trivial,
      fun l r hl hr => by rw [safeAstEval, hl, hr]; rfl⟩
    rintro (⟨s, hs⟩ | ⟨o, ho⟩)
    · cases s <;> cases hs
    · cases o <;> cases ho

/-- How the evaluation of a tree ends with `n` calls left. -/
def Outcome (w n : ℕ) (t : Ast) : Prop :=
  (t.IsArithmetic ∧ t.height ≤ n ∧ ∃ x, safeAstEval w n t = .ok x) ∨
    (¬ t.IsArithmetic ∧ ∃ e, safeAstEval w n t = .error e ∧ IsRefusal e) ∨
    (n < t.height + w ∧ safeAstEval w n t = .error .recursionError)

theorem outcome_constant (value : Json) : Outcome w (n + 1) (.constant value) := by
  cases value with
  | bool b => exact .inl ⟨.bool b, Nat.le_add_left 1 n, _, rfl⟩
  | float x => exact .inl ⟨.float x, Nat.le_add_left 1 n, x, rfl⟩
  | int i =>
    rcases hi : PyFloat.round64 i.natAbs with _ | m
    · have hof : PyFloat.ofInt i = .error .overflowError := by rw [PyFloat.ofInt, hi]
      refine .inr (.inl ⟨?_, .py .overflowError, by rw [safeAstEval, Json.toFloat, hof]; rfl, rfl⟩)
      intro h
      cases h with
      | int h => cases hof.symm.trans h
    · have hof : PyFloat.ofInt i = .ok (.fin (i < 0) m) := by rw [PyFloat.ofInt, hi]
      refine .inl ⟨.int hof, Nat.le_add_left 1 n, .fin (i < 0) m, ?_⟩
      rw [safeAstEval, Json.toFloat, hof]
      rfl
  | _ => exact .inr (.inl ⟨fun h => (by cases h), _, rfl, trivial⟩)

theorem outcome_unaryOp {t : Ast} (ih : Outcome w n t) (op : UnaryOp) :
    Outcome w (n + 1) (.unaryOp op t) := by
  rw [Outcome, isArithmetic_unaryOp, Ast.height]
  cases op with
  | uAdd =>
    rcases ih with ⟨h, hheight, hx⟩ | ⟨h, he⟩ | ⟨hlt, he⟩
    · exact .inl ⟨⟨⟨.plus, rfl⟩, h⟩, Nat.succ_le_succ hheight, hx⟩
    · exact .inr (.inl ⟨fun hand => h hand.2, he⟩)
    · exact .inr (.inr ⟨by omega, he⟩)
  | uSub =>
    rcases ih with ⟨h, hheight, x, hx⟩ | ⟨h, e, he, hrefusal⟩ | ⟨hlt, he⟩
    · refine .inl ⟨⟨⟨.minus, rfl⟩, h⟩, Nat.succ_le_succ hheight, x.neg, ?_⟩
      rw [safeAstEval, hx]
      rfl
    · exact .inr (.inl ⟨fun hand => h hand.2, e, by rw [safeAstEval, he]; rfl, hrefusal⟩)
    · exact .inr (.inr ⟨by omega, by rw [safeAstEval, he]; rfl⟩)
  | other name =>
    refine .inr (.inl ⟨?_, _, rfl, trivial⟩)
    rintro ⟨⟨s, hs⟩, _⟩
    cases s <;> cases hs

/-- The left operand is evaluated first. -/
theorem outcome_binOp {l r : Ast} (ihl : Outcome w n l) (ihr : Outcome w n r) (op : BinaryOp) :
    Outcome w (n + 1) (.binOp l op r) := by
  rw [Outcome, isArithmetic_binOp, Ast.height]
  rcases ihl with ⟨hl, hheightl, x, hx⟩ | ⟨hl, e, he, hrefusal⟩ | ⟨hlt, he⟩
  · rcases ihr with ⟨hr, hheightr, y, hy⟩ | ⟨hr, e, he, hrefusal⟩ | ⟨hlt, he⟩
    · rcases operator_or_refused op x y with ⟨hop, ⟨z, hz⟩ | ⟨hroom, he⟩⟩ | ⟨hop, e, hrefusal, he⟩
      · exact .inl ⟨⟨hop, hl, hr⟩, by omega, z, hz _ _ hx hy⟩
      · exact .inr (.inr ⟨by omega, he _ _ hx hy⟩)
      · exact .inr (.inl ⟨fun h => hop h.1, e, he _ _ hx hy, hrefusal⟩)
    · exact .inr (.inl ⟨fun h => hr h.2.2, e, by rw [safeAstEval, hx, he]; rfl, hrefusal⟩)
    · exact .inr (.inr ⟨by omega, by rw [safeAstEval, hx, he]; rfl⟩)
  · exact .inr (.inl ⟨fun h => hl h.2.1, e, by rw [safeAstEval, he]; rfl, hrefusal⟩)
  · exact .inr (.inr ⟨by omega, by rw [safeAstEval, he]; rfl⟩)

theorem Ast.height_pos (t : Ast) : 0 < t.height := by
  cases t <;> exact Nat.succ_pos _

theorem outcome (w n : ℕ) (t : Ast) : Outcome w n t := by
  induction t generalizing n with
  | constant value =>
    cases n with
    | zero => exact .inr (.inr ⟨Nat.lt_add_right w (Ast.height_pos _), rfl⟩)
    | succ n => exact outcome_constant value
  | unaryOp op t ih =>
    cases n with
    | zero => exact .inr (.inr ⟨Nat.lt_add_right w (Ast.height_pos _), rfl⟩)
    | succ n => exact outcome_unaryOp (ih n) op
  | binOp l op r ihl ihr =>
    cases n with
    | zero => exact .inr (.inr ⟨Nat.lt_add_right w (Ast.height_pos _), rfl⟩)
    | succ n => exact outcome_binOp (ihl n) (ihr n) op
  | other typeName =>
    cases n with
    | zero => exact .inr (.inr ⟨Nat.lt_add_right w (Ast.height_pos _), rfl⟩)
    | succ n => exact .inr (.inl ⟨fun h => (by cases h), _, rfl, trivial⟩)

/-- Whatever the text, a value comes only of a tree of numbers, signs and the four operators that
the calls left are enough for, and it comes of every one that leaves calls for a warning. What the
evaluation raises itself is an `ExpressionError`, the overflow of an integer, or the
`RecursionError` of a tree that leaves none. -/
theorem parseAndEvaluate_safe (syn : PythonSyntax) (expression : String)
    (values : Dict String PyFloat) :
    (∀ x, parseAndEvaluate syn expression values = .ok x →
      PyString.strip expression ≠ "" ∧ ∃ t, syn.parse (substituted syn expression values) = .ok t ∧
        t.IsArithmetic ∧ t.height ≤ syn.frames) ∧
    (PyString.strip expression ≠ "" →
      ∀ t, syn.parse (substituted syn expression values) = .ok t → t.IsArithmetic →
        t.height + syn.warningFrames ≤ syn.frames →
        ∃ x, parseAndEvaluate syn expression values = .ok x) ∧
    ∀ e, parseAndEvaluate syn expression values = .error e → IsRefusal e ∨
      (e = .recursionError ∧
        (syn.parse (substituted syn expression values) = .error .recursionError ∨
          ∃ t, syn.parse (substituted syn expression values) = .ok t ∧
            syn.frames < t.height + syn.warningFrames)) ∨
      (e = .memoryError ∧
        syn.parse (substituted syn expression values) = .error .memoryError) ∨
      ∃ raised, e = .py raised ∧
        syn.parse (substituted syn expression values) = .error (.py raised) := by
  unfold parseAndEvaluate
  by_cases hblank : PyString.strip expression = ""
  · rw [if_pos hblank]
    refine ⟨fun x hx => (by cases hx), fun hne => absurd hblank hne, fun e he => ?_⟩
    cases he
    exact .inl trivial
  · rw [if_neg hblank]
    rcases syn.parse (substituted syn expression values) with e' | t
    · refine ⟨fun x hx => (by cases hx), fun _ t ht => (by cases ht), fun e he => ?_⟩
      cases he
      cases e' with
      | syntaxError text => exact .inl trivial
      | recursionError => exact .inr (.inl ⟨rfl, .inl rfl⟩)
      | memoryError => exact .inr (.inr (.inl ⟨rfl, rfl⟩))
      | py raised => exact .inr (.inr (.inr ⟨raised, rfl, rfl⟩))
    · dsimp only
      rcases outcome syn.warningFrames syn.frames t with
        ⟨ht, hheight, hx⟩ | ⟨ht, e, he, hrefusal⟩ | ⟨hlt, he⟩
      · refine ⟨fun _ _ => ⟨hblank, t, rfl, ht, hheight⟩, fun _ t' ht' _ _ => ?_, ?_⟩
        · cases ht'
          exact hx
        · obtain ⟨x, hx⟩ := hx
          intro e he
          cases hx.symm.trans he
      · refine ⟨fun x hx => (by cases hx.symm.trans he), fun _ t' ht' harith => ?_, ?_⟩
        · cases ht'
          exact absurd harith ht
        · intro e' he'
          cases he.symm.trans he'
          exact .inl hrefusal
      · refine ⟨fun x hx => (by cases hx.symm.trans he), fun _ t' ht' _ hroom => ?_, ?_⟩
        · cases ht'
          exact absurd hlt (not_lt.2 hroom)
        · intro e' he'
          cases he.symm.trans he'
          exact .inr (.inl ⟨rfl, .inr ⟨t, rfl, hlt⟩⟩)

end Safety

end GhostMeter.Simulation
