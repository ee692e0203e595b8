import GhostMeter.Lib.Binary
import GhostMeter.Lib.PyLiteral
import Mathlib.Algebra.Order.Floor.Semifield
import Mathlib.Data.Int.Log
import Mathlib.Data.List.TakeWhile
import Mathlib.Data.Nat.Digits.Defs
import Mathlib.Data.Nat.Prime.Basic
import Mathlib.Tactic.Ring

/-! `repr` of a float: the shortest decimal that is read back as the float. -/

namespace GhostMeter.Lib.PyFloat

open PyNumber

/-- The exact value of a magnitude of the format. -/
def exactDecimal (m : ℚ≥0) : Decimal :=
  ⟨m.num * 5 ^ m.den.log2, -(m.den.log2 : ℤ)⟩

/-- The decimals with a last place at `10 ^ scale` that may be read as the magnitude, the nearest
first. -/
def candidates (m : ℚ≥0) (scale : ℤ) : List Decimal :=
  let q := m / (10 : ℚ≥0) ^ scale
  [roundHalfEven q, ⌊q⌋₊, ⌊q⌋₊ + 1].map (⟨·, scale⟩)

def reads (m : ℚ≥0) (d : Decimal) : Bool := round64 d.value = some m

/-- The decimal of the fewest digits that is read as the magnitude; seventeen always do. -/
def shortest (m : ℚ≥0) : Decimal :=
  ((List.range 17).findSome? fun p => (candidates m (Int.log 10 m - p)).find? (reads m)).getD
    (exactDecimal m)

def digitChar (d : ℕ) : Char := Char.ofNat ('0'.toNat + d)

def digitChars (ds : List ℕ) : List Char := ds.map digitChar

/-- The digits of a number, the first the most significant. -/
def decimalDigits (n : ℕ) : List ℕ := (Nat.digits 10 n).reverse

/-- The exponent, of two digits at least. -/
def exponentText (e : ℤ) : List Char :=
  let ds := decimalDigits e.natAbs
  (if e < 0 then '-' else '+') :: digitChars (List.replicate (2 - ds.length) 0 ++ ds)

/-- The number `0.ds * 10 ^ point`. -/
def layout (ds : List ℕ) (point : ℤ) : List Char :=
  if point ≤ -4 ∨ 16 < point then
    digitChars (ds.take 1) ++ (if ds.length = 1 then [] else '.' :: digitChars (ds.drop 1)) ++
      'e' :: exponentText (point - 1)
  else if point ≤ 0 then '0' :: '.' :: digitChars (List.replicate (-point).toNat 0 ++ ds)
  else if ds.length ≤ point then
    digitChars (ds ++ List.replicate (point - ds.length).toNat 0) ++ ['.', '0']
  else digitChars (ds.take point.toNat) ++ '.' :: digitChars (ds.drop point.toNat)

/-- The digits without the zeros at the end. -/
def significant (n : ℕ) : List ℕ := ((Nat.digits 10 n).dropWhile (· = 0)).reverse

def reprMag (m : ℚ≥0) : List Char :=
  if m = 0 then ['0', '.', '0']
  else
    let d := shortest m
    layout (significant d.digits) (d.scale + (Nat.digits 10 d.digits).length)

def repr : PyFloat → String
  | .nan => "nan"
  | .inf neg => if neg then "-inf" else "inf"
  | .fin neg m => String.ofList (if neg then '-' :: reprMag m else reprMag m)

section Digits

variable {ds ws : List ℕ} {more : List Char} {d : ℕ}

theorem digitOf_digitChar (h : d < 10) : digitOf 10 (digitChar d) = some d := by
  have hall : ∀ d : Fin 10, digitOf 10 (digitChar d) = some d.val := by decide
  exact hall ⟨d, h⟩

theorem digitTail_digitChars (h : ∀ d ∈ ds, d < 10) (hmore : digitTail 10 more = some ([], more)) :
    digitTail 10 (digitChars ds ++ more) = some (ds, more) := by
  induction ds with
  | nil => exact hmore
  | cons d ds ih =>
    change digitTail 10 (digitChar d :: (digitChars ds ++ more)) = _
    rw [digitTail_digit (digitOf_digitChar (h d (List.mem_cons_self ..))),
      ih fun d hd => h d (List.mem_cons_of_mem _ hd)]
    rfl

theorem digitPart_digitChars (h : ∀ d ∈ ds, d < 10) (hne : ds ≠ [])
    (hmore : digitTail 10 more = some ([], more)) :
    digitPart 10 (digitChars ds ++ more) = some (ds, more) := by
  cases ds with
  | nil => exact absurd rfl hne
  | cons d ds =>
    change digitPart 10 (digitChar d :: (digitChars ds ++ more)) = _
    rw [digitPart_cons, digitOf_digitChar (h d (List.mem_cons_self ..)), Option.bind_some,
      digitTail_digitChars (fun d hd => h d (List.mem_cons_of_mem _ hd)) hmore]
    rfl

theorem fraction_digitChars (h : ∀ d ∈ ds, d < 10)
    (hmore : digitTail 10 more = some ([], more)) :
    fraction (digitChars ds ++ more) = some (ds, more) := by
  cases ds with
  | nil =>
    cases more with
    | nil => rfl
    | cons c cs =>
      rcases hc : digitOf 10 c with _ | v
      · simp [fraction, digitChars, hc]
      · rw [digitTail_digit hc] at hmore
        obtain ⟨⟨ws, r⟩, _, heq⟩ := Option.map_eq_some_iff.1 hmore
        cases heq
  | cons d ds =>
    have hd := digitOf_digitChar (h d (List.mem_cons_self ..))
    have hpart := digitPart_digitChars h (List.cons_ne_nil d ds) hmore
    change (if (digitOf 10 (digitChar d)).isSome then _ else _) = _
    rw [hd, Option.isSome_some, if_pos rfl]
    exact hpart

theorem ofDigits_append (ds ws : List ℕ) :
    ofDigits 10 (ds ++ ws) = ofDigits 10 ds * 10 ^ ws.length + ofDigits 10 ws := by
  induction ws using List.reverseRecOn with
  | nil => simp [ofDigits]
  | append_singleton ws d ih =>
    simp only [ofDigits, ← List.append_assoc, List.foldl_append, List.foldl_cons, List.foldl_nil,
      List.length_append, List.length_singleton] at ih ⊢
    rw [ih]
    ring

theorem ofDigits_replicate (n : ℕ) : ofDigits 10 (List.replicate n 0) = 0 := by
  induction n with
  | zero => rfl
  | succ n ih => rw [List.replicate_succ', ofDigits_append, ih]; rfl

theorem ofDigits_replicate_append (n : ℕ) (ds : List ℕ) :
    ofDigits 10 (List.replicate n 0 ++ ds) = ofDigits 10 ds := by
  rw [ofDigits_append, ofDigits_replicate, Nat.zero_mul, Nat.zero_add]

theorem ofDigits_reverse (ds : List ℕ) : ofDigits 10 ds.reverse = Nat.ofDigits 10 ds := by
  induction ds with
  | nil => rfl
  | cons d ds ih =>
    rw [List.reverse_cons, ofDigits_append, ih, Nat.ofDigits_cons]
    simp [ofDigits]
    ring

end Digits

section Layout

theorem decimalDigits_lt {n : ℕ} : ∀ d ∈ decimalDigits n, d < 10 := fun d hd =>
  Nat.digits_lt_base (by decide) (List.mem_reverse.1 hd)

theorem ofDigits_decimalDigits (n : ℕ) : ofDigits 10 (decimalDigits n) = n := by
  rw [decimalDigits, ofDigits_reverse, Nat.ofDigits_digits]

theorem lt_of_mem_replicate {n : ℕ} : ∀ d ∈ List.replicate n 0, d < 10 := by
  intro d hd
  rw [List.eq_of_mem_replicate hd]
  decide

theorem lt_of_mem_replicate_append {n : ℕ} {ds : List ℕ} (h : ∀ d ∈ ds, d < 10) :
    ∀ d ∈ List.replicate n 0 ++ ds, d < 10 :=
  fun d hd => (List.mem_append.1 hd).elim (lt_of_mem_replicate d) (h d)

theorem exponent_exponentText (e : ℤ) : exponent (exponentText e) = some (e, []) := by
  have hdigits := lt_of_mem_replicate_append (n := 2 - (decimalDigits e.natAbs).length)
    (@decimalDigits_lt e.natAbs)
  have hne : List.replicate (2 - (decimalDigits e.natAbs).length) 0 ++
      decimalDigits e.natAbs ≠ [] := by
    intro heq
    have hlen := congrArg List.length heq
    simp only [List.length_append, List.length_replicate, List.length_nil] at hlen
    omega
  have hpart := digitPart_digitChars hdigits hne (rfl : digitTail 10 [] = _)
  have hvalue : ofDigits 10 (List.replicate (2 - (decimalDigits e.natAbs).length) 0 ++
      decimalDigits e.natAbs) = e.natAbs := by
    rw [ofDigits_replicate_append, ofDigits_decimalDigits]
  rw [List.append_nil] at hpart
  unfold exponentText
  by_cases he : e < 0
  · simp only [if_pos he, exponent, hpart, Option.map_some, hvalue]
    rw [Int.ofNat_natAbs_of_nonpos he.le, Int.neg_neg]
  · simp only [if_neg he, exponent, hpart, Option.map_some, hvalue]
    rw [Int.natAbs_of_nonneg (not_lt.1 he)]

variable {ds ws : List ℕ} {cs : List Char}

theorem wholePart_digitChars (h : ∀ d ∈ ds, d < 10) (hne : ds ≠ [])
    (hcs : digitTail 10 cs = some ([], cs)) :
    wholePart (digitChars ds ++ cs) = some (ds, cs) := by
  have hpart := digitPart_digitChars h hne hcs
  cases ds with
  | nil => exact absurd rfl hne
  | cons d ds =>
    have hd := digitOf_digitChar (h d (List.mem_cons_self ..))
    refine (wholePart_other ?_).trans hpart
    intro heq
    rw [Option.some.inj heq] at hd
    cases hd

/-- Digits around a point, with what is read as the exponent. -/
theorem literal_point (hds : ∀ d ∈ ds, d < 10) (hne : ds ≠ []) (hws : ∀ d ∈ ws, d < 10)
    (hcs : digitTail 10 cs = some ([], cs)) {b : Bool} {e : ℤ}
    (hexp : optExponent cs = some (b, e, [])) :
    literal (digitChars ds ++ '.' :: (digitChars ws ++ cs)) =
      some (.float ⟨ofDigits 10 (ds ++ ws), e - ws.length⟩, []) := by
  rw [literal, wholePart_digitChars hds hne (digitTail_other (by decide) rfl), Option.bind_some]
  change (pointFloat ds (digitChars ws ++ cs)).map _ = _
  rw [pointFloat, fraction_digitChars hws hcs]
  change ((optExponent cs).bind _).map _ = _
  rw [hexp]
  rfl

theorem decimal_value (n : ℕ) (s : ℤ) : Decimal.value ⟨n, s⟩ = n * (10 : ℚ≥0) ^ s := rfl

/-- Digits before an exponent. -/
theorem literal_scientific (hne : ds ≠ []) (h : ∀ d ∈ ds, d < 10) (e : ℤ) :
    ∃ d : Decimal, IsLiteral (.float d) (digitChars (ds.take 1) ++
        (if ds.length = 1 then [] else '.' :: digitChars (ds.drop 1)) ++
        'e' :: exponentText e) ∧
      d.value = ofDigits 10 ds * (10 : ℚ≥0) ^ (e + 1 - ds.length) := by
  have hexp : optExponent ('e' :: exponentText e) = some (true, e, []) := by
    rw [optExponent, exponent_exponentText]
    rfl
  have htail : digitTail 10 ('e' :: exponentText e) = some ([], 'e' :: exponentText e) :=
    digitTail_other (by decide) rfl
  by_cases hone : ds.length = 1
  · refine ⟨⟨ofDigits 10 ds, e⟩, ?_, by rw [Decimal.value, hone]; simp⟩
    rw [if_pos hone, List.append_nil, List.take_of_length_le hone.le, IsLiteral, literal,
      wholePart_digitChars h hne htail, Option.bind_some]
    dsimp only
    rw [literalTail_other (by simp), hexp]
    rfl
  · refine ⟨⟨ofDigits 10 (ds.take 1 ++ ds.drop 1), e - (ds.drop 1).length⟩, ?_, ?_⟩
    · rw [if_neg hone, List.append_assoc, List.cons_append]
      exact literal_point (fun d hd => h d (List.mem_of_mem_take hd)) (by simp [hne])
        (fun d hd => h d (List.mem_of_mem_drop hd)) htail hexp
    · have hlen : 0 < ds.length := List.length_pos_of_ne_nil hne
      rw [List.take_append_drop, Decimal.value]
      congr 2
      simp only [List.length_drop]
      omega

/-- Digits with zeros up to the point. -/
theorem literal_whole (hne : ds ≠ []) (h : ∀ d ∈ ds, d < 10) (n : ℕ) :
    ∃ d : Decimal, IsLiteral (.float d)
        (digitChars (ds ++ List.replicate n 0) ++ '.' :: digitChars (List.replicate 1 0)) ∧
      d.value = ofDigits 10 ds * (10 : ℚ≥0) ^ n := by
  have ten_ne : (10 : ℚ≥0) ≠ 0 := by norm_num
  have hws : ∀ d ∈ ds ++ List.replicate n 0, d < 10 := fun d hd =>
    (List.mem_append.1 hd).elim (h d) (lt_of_mem_replicate d)
  have hread := literal_point hws (by simp [hne]) (@lt_of_mem_replicate 1)
    (rfl : digitTail 10 [] = _) (rfl : optExponent [] = _)
  rw [List.append_nil] at hread
  refine ⟨_, hread, ?_⟩
  rw [decimal_value, ofDigits_append, ofDigits_append, ofDigits_replicate,
    ofDigits_replicate, Nat.add_zero, Nat.add_zero, mul_assoc, ← pow_add,
    List.length_replicate, List.length_replicate, Nat.cast_mul, mul_assoc, Nat.cast_pow,
    Nat.cast_ofNat, ← zpow_natCast, ← zpow_add₀ ten_ne, ← zpow_natCast]
  congr 2
  push_cast
  omega

/-- The text of a number is a literal of its value. -/
theorem literal_layout (hne : ds ≠ []) (h : ∀ d ∈ ds, d < 10) (point : ℤ) :
    ∃ d : Decimal, IsLiteral (.float d) (layout ds point) ∧
      d.value = ofDigits 10 ds * (10 : ℚ≥0) ^ (point - ds.length) := by
  unfold layout
  split
  next hpoint =>
    obtain ⟨d, hd, hvalue⟩ := literal_scientific hne h (point - 1)
    exact ⟨d, hd, by rw [hvalue, sub_add_cancel]⟩
  next hpoint =>
    split
    next hneg =>
      have hread := literal_point (@lt_of_mem_replicate 1) (List.cons_ne_nil 0 [])
        (@lt_of_mem_replicate_append (-point).toNat ds h) (rfl : digitTail 10 [] = _)
        (rfl : optExponent [] = _)
      rw [List.append_nil] at hread
      refine ⟨_, hread, ?_⟩
      rw [decimal_value, ofDigits_replicate_append 1, ofDigits_replicate_append,
        List.length_append, List.length_replicate]
      congr 2
      omega
    next hpos =>
      split
      next hwhole =>
        obtain ⟨d, hd, hvalue⟩ := literal_whole hne h (point - ds.length).toNat
        refine ⟨d, hd, ?_⟩
        rw [hvalue, ← zpow_natCast, Int.toNat_of_nonneg (by omega)]
      next hinside =>
        have htake : ∀ d ∈ ds.take point.toNat, d < 10 := fun d hd => h d (List.mem_of_mem_take hd)
        have hdrop : ∀ d ∈ ds.drop point.toNat, d < 10 := fun d hd => h d (List.mem_of_mem_drop hd)
        have hread := literal_point htake (by simp [hne]; omega) hdrop
          (rfl : digitTail 10 [] = _) (rfl : optExponent [] = _)
        rw [List.append_nil] at hread
        refine ⟨_, hread, ?_⟩
        rw [List.take_append_drop, Decimal.value]
        congr 2
        simp only [List.length_drop]
        omega

end Layout

section Shortest

variable {m : ℚ≥0}

/-- The denominators of the format are powers of two. -/
theorem den_of_representable (h : Representable m) : m.den = 2 ^ m.den.log2 := by
  have two_ne : (2 : ℚ≥0) ≠ 0 := by norm_num
  suffices hpow : ∃ k, m.den = 2 ^ k by
    obtain ⟨k, hk⟩ := hpow
    rw [hk, Nat.log2_two_pow]
  by_cases hm : m = 0
  · exact ⟨0, by rw [hm]; rfl⟩
  · obtain ⟨n, hn, _⟩ :=
      BinaryFormat.exists_significand hm ((BinaryFormat.round_binary64 m).trans h)
    generalize binary64.lastPlace m = z at hn
    have hmul : m * 2 ^ (-z).toNat = (n * 2 ^ z.toNat : ℕ) := by
      rw [hn, mul_assoc, ← zpow_natCast, ← zpow_add₀ two_ne, Nat.cast_mul, Nat.cast_pow,
        Nat.cast_ofNat, ← zpow_natCast]
      congr 2
      omega
    have hcross : m.num * 2 ^ (-z).toNat = n * 2 ^ z.toNat * m.den := by
      have hq : (m.num : ℚ≥0) * 2 ^ (-z).toNat = (n * 2 ^ z.toNat : ℕ) * m.den := by
        rw [← hmul, ← NNRat.mul_den_eq_num]
        ring
      exact_mod_cast hq
    have hdvd : m.den ∣ 2 ^ (-z).toNat :=
      m.coprime_num_den.symm.dvd_of_dvd_mul_left (hcross ▸ Dvd.intro_left _ rfl)
    obtain ⟨k, _, hk⟩ := (Nat.dvd_prime_pow Nat.prime_two).1 hdvd
    exact ⟨k, hk⟩

theorem exactDecimal_value (h : Representable m) : (exactDecimal m).value = m := by
  have hden := den_of_representable h
  have hpos : (m.den : ℚ≥0) ≠ 0 := by exact_mod_cast m.den_pos.ne'
  refine mul_right_cancel₀ hpos ?_
  rw [NNRat.mul_den_eq_num, exactDecimal, Decimal.value, zpow_neg, zpow_natCast]
  generalize m.den.log2 = k at hden
  have hten : (10 : ℚ≥0) ^ k ≠ 0 := by positivity
  have hfactor : (m.den : ℚ≥0) * 5 ^ k = 10 ^ k := by
    rw [hden, Nat.cast_pow, Nat.cast_ofNat, ← mul_pow]
    norm_num
  field_simp
  push_cast
  rw [← hfactor]
  ring

/-- What is written is read back. -/
theorem shortest_reads (h : Representable m) : round64 (shortest m).value = some m := by
  unfold shortest
  rcases hfind : (List.range 17).findSome? fun p =>
      (candidates m (Int.log 10 m - p)).find? (reads m) with _ | d
  · rw [Option.getD_none, exactDecimal_value h]
    exact h
  · obtain ⟨p, _, hp⟩ := List.exists_of_findSome?_eq_some hfind
    have hread : reads m d := List.find?_some hp
    exact of_decide_eq_true hread

theorem ofDigits_significant (n : ℕ) :
    ofDigits 10 (significant n) * 10 ^ ((Nat.digits 10 n).length - (significant n).length) =
      n := by
  let zeros := (Nat.digits 10 n).takeWhile (· = 0)
  have hsplit : zeros ++ (significant n).reverse = Nat.digits 10 n := by
    rw [significant, List.reverse_reverse]
    exact List.takeWhile_append_dropWhile ..
  have hzero : ∀ d ∈ zeros, d = 0 := by
    intro d hd
    exact of_decide_eq_true (List.mem_takeWhile_imp (p := fun x => decide (x = 0)) hd)
  have hzeros : zeros = List.replicate zeros.length 0 := List.eq_replicate_of_mem hzero
  have hlen : (Nat.digits 10 n).length - (significant n).length = zeros.length := by
    rw [← hsplit, List.length_append, List.length_reverse, Nat.add_sub_cancel]
  have hvalue : Nat.ofDigits 10 (zeros ++ (significant n).reverse) = n := by
    rw [hsplit, Nat.ofDigits_digits]
  rw [Nat.ofDigits_append, hzeros, Nat.ofDigits_replicate_zero, Nat.zero_add, ← ofDigits_reverse,
    List.reverse_reverse, List.length_replicate] at hvalue
  rw [hlen, Nat.mul_comm, hvalue]

theorem significant_ne_nil {n : ℕ} (h : n ≠ 0) : significant n ≠ [] := by
  intro heq
  have hvalue := ofDigits_significant n
  rw [heq] at hvalue
  exact h (hvalue.symm.trans (Nat.zero_mul _))

theorem significant_lt {n : ℕ} : ∀ d ∈ significant n, d < 10 := fun d hd =>
  Nat.digits_lt_base (by decide) ((List.dropWhile_suffix _).subset (List.mem_reverse.1 hd))

/-- A magnitude is written as a literal of it. -/
theorem literal_reprMag (h : Representable m) :
    ∃ d, IsLiteral (.float d) (reprMag m) ∧ ofDecimal d = .fin false m := by
  have hof : ∀ d : Decimal, round64 d.value = some m → ofDecimal d = .fin false m := by
    intro d hd
    rw [ofDecimal, ofMag, hd]
  unfold reprMag
  split
  next hm =>
    subst hm
    have hzero : ∀ d ∈ [0], d < 10 := by decide
    have hread := literal_point hzero (List.cons_ne_nil 0 []) hzero
      (rfl : digitTail 10 [] = _) (rfl : optExponent [] = _)
    refine ⟨_, hread, hof _ ?_⟩
    have hvalue : ofDigits 10 ([0] ++ [0]) = 0 := rfl
    rw [decimal_value, hvalue, Nat.cast_zero, zero_mul]
    exact h
  next hm =>
    have hreads := shortest_reads h
    have hne : (shortest m).digits ≠ 0 := by
      intro hzero
      rw [Decimal.value, hzero, Nat.cast_zero, zero_mul] at hreads
      exact hm (Option.some.inj hreads).symm
    obtain ⟨d, hd, hvalue⟩ := literal_layout (significant_ne_nil hne) significant_lt
      ((shortest m).scale + (Nat.digits 10 (shortest m).digits).length)
    refine ⟨d, hd, hof d ?_⟩
    have hlen : (significant (shortest m).digits).length ≤
        (Nat.digits 10 (shortest m).digits).length := by
      rw [significant, List.length_reverse]
      exact (List.dropWhile_suffix _).length_le
    have heq : d.value = (shortest m).value := by
      have hscale : (shortest m).scale + (Nat.digits 10 (shortest m).digits).length -
          (significant (shortest m).digits).length = (shortest m).scale +
          ((Nat.digits 10 (shortest m).digits).length -
            (significant (shortest m).digits).length : ℕ) := by
        omega
      rw [hvalue, hscale, zpow_add₀ (by norm_num), zpow_natCast, Decimal.value]
      conv_rhs => rw [← ofDigits_significant (shortest m).digits]
      push_cast
      ring
    rw [heq, hreads]

end Shortest

end GhostMeter.Lib.PyFloat
