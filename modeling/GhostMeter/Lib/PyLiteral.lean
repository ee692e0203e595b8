import GhostMeter.Lib.Infix
import GhostMeter.Lib.PyInt

/-! The decimal literals of Python's source, and arithmetic over them. -/

namespace GhostMeter.Lib.PyNumber

inductive Literal
  | int (n : ℕ)
  | float (d : Decimal)

def Literal.value : Literal → Json
  | .int n => .int n
  | .float d => .float (.ofDecimal d)

/-- The digits before a decimal point; without any, there are some after it. -/
def wholePart : List Char → Option (List ℕ × List Char)
  | '.' :: cs => if (cs.head?.bind (digitOf 10)).isSome then some ([], '.' :: cs) else none
  | cs => digitPart 10 cs

/-- Only zero starts with a zero, and the digits of an integer are limited in number. -/
def IsInteger (whole : List ℕ) : Prop :=
  whole.length ≤ PyInt.maxStrDigits ∧ (whole.head? ≠ some 0 ∨ ∀ d ∈ whole, d = 0)

instance (whole : List ℕ) : Decidable (IsInteger whole) :=
  inferInstanceAs (Decidable (_ ∧ _))

/-- A literal after its whole part. -/
def literalTail (whole : List ℕ) : List Char → Option (Literal × List Char)
  | '.' :: cs => (pointFloat whole cs).map fun (d, rest) => (.float d, rest)
  | cs =>
    match optExponent cs with
    | some (true, e, rest) => some (.float ⟨ofDigits 10 whole, e⟩, rest)
    | some (false, _, rest) =>
      if IsInteger whole then some (.int (ofDigits 10 whole), rest) else none
    | none => none

def literal (cs : List Char) : Option (Literal × List Char) :=
  (wholePart cs).bind fun (whole, rest) => literalTail whole rest

/-- The texts of a literal. -/
def IsLiteral (l : Literal) (cs : List Char) : Prop := literal cs = some (l, [])

section Scanners

/-- The characters of literals, apart from the signs of exponents. -/
def isNumeral (c : Char) : Bool :=
  (digitOf 10 c).isSome || c = '_' || c = '.' || c = 'e' || c = 'E'

/-- The text ends, or does not go on with the number before it. -/
def Ends (cs : List Char) : Prop := ∀ c ∈ cs.head?, ¬ isNumeral c

variable {α : Type} {cs rest more : List Char} {vs whole : List ℕ} {c : Char} {l : Literal}

theorem Ends.digitOf (h : Ends (c :: cs)) : digitOf 10 c = none := by
  have hc := h c rfl
  simp only [isNumeral, Bool.or_eq_true, not_or] at hc
  exact Option.not_isSome_iff_eq_none.1 hc.1.1.1.1

theorem Ends.ne (h : Ends (c :: cs)) : c ≠ '_' ∧ c ≠ '.' ∧ c ≠ 'e' ∧ c ≠ 'E' := by
  have hc := h c rfl
  simp only [isNumeral, Bool.or_eq_true, not_or, decide_eq_true_eq] at hc
  exact ⟨hc.1.1.1.2, hc.1.1.2, hc.1.2, hc.2⟩

theorem digitTail_cons (hne : c ≠ '_') :
    digitTail 10 (c :: cs) = (digitOf 10 c).elim (some ([], c :: cs)) fun v =>
      (digitTail 10 cs).map fun (vs, rest) => (v :: vs, rest) := by
  rw [digitTail.eq_def]
  split
  next heq => exact absurd (List.cons.inj heq).1 hne
  next heq => exact absurd (List.cons.inj heq).1 hne
  next heq =>
    obtain ⟨rfl, rfl⟩ := List.cons.inj heq
    cases digitOf 10 _ <;> rfl
  next heq => cases heq

theorem digitTail_digit {v : ℕ} (h : digitOf 10 c = some v) :
    digitTail 10 (c :: cs) = (digitTail 10 cs).map fun (vs, rest) => (v :: vs, rest) := by
  have hne : c ≠ '_' := by
    rintro rfl
    cases h
  rw [digitTail_cons hne, h]
  rfl

theorem digitTail_other (hne : c ≠ '_') (h : digitOf 10 c = none) :
    digitTail 10 (c :: cs) = some ([], c :: cs) := by
  rw [digitTail_cons hne, h]
  rfl

theorem digitTail_ends (h : Ends more) : digitTail 10 more = some ([], more) := by
  cases more with
  | nil => rfl
  | cons c cs => exact digitTail_other h.ne.1 h.digitOf

/-- What ends a number may be put after it. -/
theorem digitTail_append (h : Ends more) (hcs : digitTail 10 cs = some (vs, rest)) :
    digitTail 10 (cs ++ more) = some (vs, rest ++ more) := by
  fun_induction digitTail 10 cs generalizing vs rest with
  | case1 c cs v hv ih =>
    obtain ⟨⟨ws, r⟩, hr, heq⟩ := Option.map_eq_some_iff.1 hcs
    cases heq
    simp only [List.cons_append, digitTail, hv, ih hr, Option.map_some]
  | case2 => cases hcs
  | case3 => cases hcs
  | case4 c cs h₁ h₂ v hv ih =>
    obtain ⟨⟨ws, r⟩, hr, heq⟩ := Option.map_eq_some_iff.1 hcs
    cases heq
    rw [List.cons_append, digitTail_digit hv, ih hr, Option.map_some]
  | case5 c cs h₁ h₂ hv =>
    cases hcs
    have hne : c ≠ '_' := by
      rintro rfl
      cases cs with
      | nil => exact h₂ rfl rfl
      | cons d ds => exact h₁ d ds rfl rfl
    rw [List.cons_append, digitTail_other hne hv]
  | case6 =>
    cases hcs
    exact digitTail_ends h

theorem digitPart_cons : digitPart 10 (c :: cs) =
    (digitOf 10 c).bind fun v => (digitTail 10 cs).map fun (vs, rest) => (v :: vs, rest) := by
  rw [digitPart]
  cases digitOf 10 c <;> rfl

theorem digitPart_append (h : Ends more) (hcs : digitPart 10 cs = some (vs, rest)) :
    digitPart 10 (cs ++ more) = some (vs, rest ++ more) := by
  cases cs with
  | nil => cases hcs
  | cons c cs =>
    rw [digitPart_cons] at hcs
    obtain ⟨v, hv, hcs⟩ := Option.bind_eq_some_iff.1 hcs
    obtain ⟨⟨ws, r⟩, hr, heq⟩ := Option.map_eq_some_iff.1 hcs
    cases heq
    rw [List.cons_append, digitPart_cons, hv, Option.bind_some, digitTail_append h hr]
    rfl

theorem fraction_append (h : Ends more) (hcs : fraction cs = some (vs, rest)) :
    fraction (cs ++ more) = some (vs, rest ++ more) := by
  cases cs with
  | nil =>
    cases hcs
    cases more with
    | nil => rfl
    | cons c cs => simp [fraction, h.digitOf]
  | cons c cs =>
    unfold fraction at hcs ⊢
    dsimp only [List.cons_append] at hcs ⊢
    split at hcs
    next hd =>
      rw [if_pos hd]
      exact digitPart_append h hcs
    next hd =>
      cases hcs
      rw [if_neg hd]
      rfl

theorem exponent_other (h : cs.head? ≠ some '+') (h' : cs.head? ≠ some '-') :
    exponent cs = (digitPart 10 cs).map fun (ds, rest) => ((ofDigits 10 ds : ℤ), rest) := by
  unfold exponent
  split
  next => exact absurd rfl h
  next => exact absurd rfl h'
  next => rfl

theorem exponent_append {e : ℤ} (h : Ends more) (hcs : exponent cs = some (e, rest)) :
    exponent (cs ++ more) = some (e, rest ++ more) := by
  unfold exponent at hcs
  split at hcs
  all_goals
    obtain ⟨⟨ds, r⟩, hr, heq⟩ := Option.map_eq_some_iff.1 hcs
    cases heq
  next cs => simp only [List.cons_append, exponent, digitPart_append h hr, Option.map_some]
  next cs => simp only [List.cons_append, exponent, digitPart_append h hr, Option.map_some]
  next h₁ h₂ =>
    cases cs with
    | nil => cases hr
    | cons c cs =>
      have hplus : (c :: cs ++ more).head? ≠ some '+' := by
        rintro heq
        cases heq
        exact h₁ cs rfl
      have hminus : (c :: cs ++ more).head? ≠ some '-' := by
        rintro heq
        cases heq
        exact h₂ cs rfl
      rw [exponent_other hplus hminus, digitPart_append h hr]
      rfl

theorem optExponent_other (h : cs.head? ≠ some 'e') (h' : cs.head? ≠ some 'E') :
    optExponent cs = some (false, 0, cs) := by
  unfold optExponent
  split
  next => exact absurd rfl h
  next => exact absurd rfl h'
  next => rfl

theorem Ends.optExponent (h : Ends cs) : optExponent cs = some (false, 0, cs) := by
  refine optExponent_other ?_ ?_ <;> intro hc
  · exact h 'e' hc (by decide)
  · exact h 'E' hc (by decide)

theorem optExponent_append {b : Bool} {e : ℤ} (h : Ends more)
    (hcs : optExponent cs = some (b, e, rest)) :
    optExponent (cs ++ more) = some (b, e, rest ++ more) := by
  unfold PyNumber.optExponent at hcs
  split at hcs
  next =>
    obtain ⟨⟨ds, r⟩, hr, heq⟩ := Option.map_eq_some_iff.1 hcs
    cases heq
    simp only [List.cons_append, PyNumber.optExponent, exponent_append h hr, Option.map_some]
  next =>
    obtain ⟨⟨ds, r⟩, hr, heq⟩ := Option.map_eq_some_iff.1 hcs
    cases heq
    simp only [List.cons_append, PyNumber.optExponent, exponent_append h hr, Option.map_some]
  next h₁ h₂ =>
    cases hcs
    cases cs with
    | nil => exact h.optExponent
    | cons c cs =>
      refine optExponent_other ?_ ?_ <;> intro heq <;> cases heq
      · exact h₁ cs rfl
      · exact h₂ cs rfl

theorem pointFloat_append {d : Decimal} (h : Ends more)
    (hcs : pointFloat whole cs = some (d, rest)) :
    pointFloat whole (cs ++ more) = some (d, rest ++ more) := by
  unfold pointFloat at hcs
  obtain ⟨⟨frac, r⟩, hfrac, hcs⟩ := Option.bind_eq_some_iff.1 hcs
  obtain ⟨⟨b, e, r'⟩, hexp, hcs⟩ := Option.bind_eq_some_iff.1 hcs
  cases hcs
  rw [pointFloat, fraction_append h hfrac]
  change (optExponent (r ++ more)).bind _ = _
  rw [optExponent_append h hexp]
  rfl

theorem wholePart_other (h : cs.head? ≠ some '.') : wholePart cs = digitPart 10 cs := by
  unfold wholePart
  split
  next => exact absurd rfl h
  next => rfl

theorem wholePart_append (h : Ends more) (hcs : wholePart cs = some (whole, rest)) :
    wholePart (cs ++ more) = some (whole, rest ++ more) := by
  unfold wholePart at hcs
  split at hcs
  next cs =>
    split at hcs
    next hd =>
      cases hcs
      cases cs with
      | nil => cases hd
      | cons c cs => exact if_pos hd
    next => cases hcs
  next h₁ =>
    cases cs with
    | nil => cases hcs
    | cons c cs =>
      have hne : (c :: cs ++ more).head? ≠ some '.' := by
        intro heq
        cases heq
        exact h₁ cs rfl
      rw [wholePart_other hne, digitPart_append h hcs]

/-- A literal that goes on with no point. -/
theorem literalTail_other (h : cs.head? ≠ some '.') : literalTail whole cs =
    (optExponent cs).bind fun (exp, e, rest) =>
      if exp then some (.float ⟨ofDigits 10 whole, e⟩, rest)
      else if IsInteger whole then some (.int (ofDigits 10 whole), rest) else none := by
  unfold literalTail
  split
  next => exact absurd rfl h
  next => rcases optExponent cs with _ | ⟨_ | _, e, rest⟩ <;> rfl

theorem Ends.literalTail (h : Ends cs) : literalTail whole cs =
    if IsInteger whole then some (.int (ofDigits 10 whole), cs) else none := by
  have hne : cs.head? ≠ some '.' := fun hc => h '.' hc (by decide)
  rw [literalTail_other hne, h.optExponent]
  rfl

theorem literalTail_append (h : Ends more) (hcs : literalTail whole cs = some (l, rest)) :
    literalTail whole (cs ++ more) = some (l, rest ++ more) := by
  cases cs with
  | nil =>
    have hnil : Ends [] := fun c hc => nomatch hc
    rw [hnil.literalTail] at hcs
    rw [List.nil_append, h.literalTail]
    split at hcs
    next hint =>
      cases hcs
      rw [if_pos hint, List.nil_append]
    next => cases hcs
  | cons c cs =>
    by_cases hc : c = '.'
    · subst hc
      obtain ⟨⟨d, r⟩, hr, heq⟩ := Option.map_eq_some_iff.1 hcs
      cases heq
      rw [List.cons_append, PyNumber.literalTail, pointFloat_append h hr]
      rfl
    · have hne : ∀ cs, (c :: cs).head? ≠ some '.' := by
        intro cs heq
        exact hc (Option.some.inj heq)
      rw [literalTail_other (hne _)] at hcs
      obtain ⟨⟨b, e, r⟩, hr, hcs⟩ := Option.bind_eq_some_iff.1 hcs
      rw [List.cons_append, literalTail_other (hne _), ← List.cons_append, optExponent_append h hr]
      cases b with
      | true =>
        cases hcs
        rfl
      | false =>
        by_cases hint : IsInteger whole
        · simp only [Bool.false_eq_true, if_false, if_pos hint] at hcs
          cases hcs
          simp only [Option.bind_some, Bool.false_eq_true, if_false, if_pos hint]
        · simp only [Bool.false_eq_true, if_false, if_neg hint] at hcs
          cases hcs

theorem literal_append (h : Ends more) (hcs : literal cs = some (l, rest)) :
    literal (cs ++ more) = some (l, rest ++ more) := by
  obtain ⟨⟨whole, r⟩, hwhole, hcs⟩ := Option.bind_eq_some_iff.1 hcs
  rw [literal, wholePart_append h hwhole, Option.bind_some]
  exact literalTail_append h hcs

/-- No literal has the character. -/
def Foreign (c : Char) : Prop := ¬ isNumeral c ∧ c ≠ '+' ∧ c ≠ '-'

instance (c : Char) : Decidable (Foreign c) := inferInstanceAs (Decidable (_ ∧ _))

variable {d : Char}

theorem Foreign.ne_digit (h : Foreign c) {v : ℕ} (hd : digitOf 10 d = some v) : c ≠ d := by
  rintro rfl
  refine h.1 ?_
  simp only [isNumeral, hd, Option.isSome_some, Bool.true_or]

theorem Foreign.mem_of_digitTail (h : Foreign c) (hcs : digitTail 10 cs = some (vs, rest))
    (hc : c ∈ cs) : c ∈ rest := by
  fun_induction digitTail 10 cs generalizing vs rest with
  | case1 d cs v hv ih =>
    obtain ⟨⟨ws, r⟩, hr, heq⟩ := Option.map_eq_some_iff.1 hcs
    cases heq
    rcases List.mem_cons.1 hc with rfl | hc
    · exact absurd (by decide) h.1
    · exact ih hr ((List.mem_cons.1 hc).resolve_left (h.ne_digit hv))
  | case2 => cases hcs
  | case3 => cases hcs
  | case4 d cs h₁ h₂ v hv ih =>
    obtain ⟨⟨ws, r⟩, hr, heq⟩ := Option.map_eq_some_iff.1 hcs
    cases heq
    exact ih hr ((List.mem_cons.1 hc).resolve_left (h.ne_digit hv))
  | case5 d cs h₁ h₂ hv =>
    cases hcs
    exact hc
  | case6 => cases hc

theorem Foreign.mem_of_digitPart (h : Foreign c) (hcs : digitPart 10 cs = some (vs, rest))
    (hc : c ∈ cs) : c ∈ rest := by
  cases cs with
  | nil => cases hc
  | cons d cs =>
    rw [digitPart_cons] at hcs
    obtain ⟨v, hv, hcs⟩ := Option.bind_eq_some_iff.1 hcs
    obtain ⟨⟨ws, r⟩, hr, heq⟩ := Option.map_eq_some_iff.1 hcs
    cases heq
    exact h.mem_of_digitTail hr ((List.mem_cons.1 hc).resolve_left (h.ne_digit hv))

theorem Foreign.mem_of_exponent {e : ℤ} (h : Foreign c) (hcs : exponent cs = some (e, rest))
    (hc : c ∈ cs) : c ∈ rest := by
  unfold exponent at hcs
  split at hcs
  all_goals
    obtain ⟨⟨ds, r⟩, hr, heq⟩ := Option.map_eq_some_iff.1 hcs
    cases heq
    refine h.mem_of_digitPart hr ?_
  · exact (List.mem_cons.1 hc).resolve_left h.2.1
  · exact (List.mem_cons.1 hc).resolve_left h.2.2
  · exact hc

theorem Foreign.mem_of_optExponent {b : Bool} {e : ℤ} (h : Foreign c)
    (hcs : optExponent cs = some (b, e, rest)) (hc : c ∈ cs) : c ∈ rest := by
  have hmark : ∀ d, isNumeral d → c ≠ d := fun d hd heq => h.1 (heq ▸ hd)
  unfold optExponent at hcs
  split at hcs
  next =>
    obtain ⟨⟨ds, r⟩, hr, heq⟩ := Option.map_eq_some_iff.1 hcs
    cases heq
    exact h.mem_of_exponent hr ((List.mem_cons.1 hc).resolve_left (hmark _ (by decide)))
  next =>
    obtain ⟨⟨ds, r⟩, hr, heq⟩ := Option.map_eq_some_iff.1 hcs
    cases heq
    exact h.mem_of_exponent hr ((List.mem_cons.1 hc).resolve_left (hmark _ (by decide)))
  next =>
    cases hcs
    exact hc

theorem Foreign.mem_of_fraction (h : Foreign c) (hcs : fraction cs = some (vs, rest))
    (hc : c ∈ cs) : c ∈ rest := by
  unfold fraction at hcs
  split at hcs
  next =>
    split at hcs
    next => exact h.mem_of_digitPart hcs hc
    next =>
      cases hcs
      exact hc
  next => cases hc

theorem Foreign.mem_of_pointFloat {d : Decimal} (h : Foreign c)
    (hcs : pointFloat whole cs = some (d, rest)) (hc : c ∈ cs) : c ∈ rest := by
  unfold pointFloat at hcs
  obtain ⟨⟨frac, r⟩, hfrac, hcs⟩ := Option.bind_eq_some_iff.1 hcs
  obtain ⟨⟨b, e, r'⟩, hexp, hcs⟩ := Option.bind_eq_some_iff.1 hcs
  cases hcs
  exact h.mem_of_optExponent hexp (h.mem_of_fraction hfrac hc)

theorem Foreign.mem_of_literalTail (h : Foreign c)
    (hcs : literalTail whole cs = some (l, rest)) (hc : c ∈ cs) : c ∈ rest := by
  by_cases hpoint : cs.head? = some '.'
  · cases cs with
    | nil => cases hc
    | cons d cs =>
      cases hpoint
      obtain ⟨⟨d, r⟩, hd, heq⟩ := Option.map_eq_some_iff.1 hcs
      cases heq
      refine h.mem_of_pointFloat hd ((List.mem_cons.1 hc).resolve_left ?_)
      rintro rfl
      exact absurd (by decide) h.1
  · rw [literalTail_other hpoint] at hcs
    obtain ⟨⟨b, e, r⟩, hr, hcs⟩ := Option.bind_eq_some_iff.1 hcs
    have hmem : r = rest := by
      dsimp only at hcs
      split at hcs
      · cases hcs
        rfl
      · split at hcs
        · cases hcs
          rfl
        · cases hcs
    exact hmem ▸ h.mem_of_optExponent hr hc

theorem Foreign.mem_of_literal (h : Foreign c) (hcs : literal cs = some (l, rest))
    (hc : c ∈ cs) : c ∈ rest := by
  obtain ⟨⟨whole, r⟩, hwhole, hcs⟩ := Option.bind_eq_some_iff.1 hcs
  refine h.mem_of_literalTail hcs ?_
  by_cases hpoint : cs.head? = some '.'
  · cases cs with
    | nil => cases hc
    | cons d cs =>
      cases hpoint
      by_cases hdigit : (cs.head?.bind (digitOf 10)).isSome
      · rw [wholePart, if_pos hdigit] at hwhole
        cases hwhole
        exact hc
      · rw [wholePart, if_neg hdigit] at hwhole
        cases hwhole
  · rw [wholePart_other hpoint] at hwhole
    exact h.mem_of_digitPart hwhole hc

/-- Marks go on with no literal. -/
theorem Ends.of_stops (h : Infix.Stops cs) : Ends cs := by
  intro c hc
  have hmark := h c hc
  simp only [Infix.isMark, Infix.isBlank, Bool.or_eq_true, decide_eq_true_eq] at hmark
  rcases hmark with ((rfl | rfl) | rfl) | hmark
  · decide
  · decide
  · decide
  · unfold Infix.Token.ofChar at hmark
    split at hmark
    all_goals first | decide | cases hmark

theorem head_of_literal (h : literal cs = some (l, rest)) : ∃ c ∈ cs.head?, isNumeral c := by
  obtain ⟨⟨whole, r⟩, hwhole, _⟩ := Option.bind_eq_some_iff.1 h
  cases cs with
  | nil => cases hwhole
  | cons c cs =>
    refine ⟨c, rfl, by_contra fun hc => ?_⟩
    have hends : Ends (c :: cs) := fun d hd => Option.some.inj hd ▸ hc
    have hpoint : (c :: cs).head? ≠ some '.' := fun h => hends.ne.2.1 (Option.some.inj h)
    rw [wholePart_other hpoint, digitPart_cons, hends.digitOf] at hwhole
    cases hwhole

theorem scans_literal : Infix.Scans IsLiteral literal where
  scan hl hrest := literal_append (Ends.of_stops hrest) hl
  head := by
    intro l cs hl
    obtain ⟨c, hc, hnumeral⟩ := head_of_literal hl
    refine ⟨c, hc, fun hmark => ?_⟩
    have hends : Ends [c] := Ends.of_stops fun d hd => Option.some.inj hd ▸ hmark
    exact hends c rfl hnumeral

theorem toNat_of_digitOf {v : ℕ} (h : digitOf 10 c = some v) : 48 ≤ c.toNat ∧ c.toNat < 58 := by
  obtain ⟨w, hw, hlt⟩ := Option.bind_eq_some_iff.1 h
  unfold digitVal at hw
  split at hw
  next hc =>
    have hval : 48 ≤ c.val ∧ c.val ≤ 57 := hc
    exact PyInt.toNat_of_isDigit (by simpa [Char.isDigit] using hval)
  next =>
    have hlarge : ¬ w < 10 := by
      split at hw
      · cases hw
        omega
      · split at hw
        · cases hw
          omega
        · cases hw
    rw [if_neg hlarge] at hlt
    cases hlt

theorem not_isSpace_of_isNumeral (h : isNumeral c) : ¬ PyString.isSpace c := by
  simp only [isNumeral, Bool.or_eq_true, decide_eq_true_eq] at h
  rcases h with (((h | rfl) | rfl) | rfl) | rfl
  · obtain ⟨v, hv⟩ := Option.isSome_iff_exists.1 h
    obtain ⟨hlo, hhi⟩ := toNat_of_digitOf hv
    rw [← Char.ofNat_toNat c]
    interval_cases c.toNat <;> decide
  all_goals decide

end Scanners

/-- The tree of an arithmetic text. -/
def arithmetic (text : String) : Option (Infix.Expr Literal) :=
  (Infix.lex literal text.toList).bind Infix.parse

theorem arithmetic_eq {ts : List (Infix.Token Literal)} {cs : List Char} {e : Infix.Expr Literal}
    (ht : Infix.Text IsLiteral ts cs) (hd : Infix.Derives .sum ts e) :
    arithmetic (String.ofList cs) = some e := by
  rw [arithmetic, String.toList_ofList, ht.lex_eq scans_literal hd, Option.bind_some,
    Infix.parse_of_derives hd]

end GhostMeter.Lib.PyNumber
