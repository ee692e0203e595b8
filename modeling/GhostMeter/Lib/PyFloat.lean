import GhostMeter.Lib.PyNumber
import Mathlib.Tactic.Linarith

/-! Python floats: IEEE 754 binary64 with exact rationals for the finite magnitudes, so that
signed zeros, infinities and NaN are told apart and comparisons with integers are exact. -/

namespace GhostMeter.Lib

inductive PyError
  | typeError | overflowError | zeroDivisionError | structError
  | keyError (key : String)
  | valueError (message : String)
  | runtimeError (message : String)
  deriving DecidableEq

inductive PyFloat
  | nan
  | inf (neg : Bool)
  | fin (neg : Bool) (mag : ℚ≥0)
  deriving DecidableEq

namespace PyFloat

def floorLog2 (q : ℚ≥0) : ℤ :=
  let l : ℤ := q.num.log2 - q.den.log2
  if (2 : ℚ≥0) ^ l ≤ q then l else l - 1

def roundHalfEven (q : ℚ≥0) : ℕ :=
  let n := ⌊q⌋₊
  if 2 * q < 2 * n + 1 then n
  else if 2 * n + 1 < 2 * q then n + 1
  else if n % 2 = 0 then n else n + 1

/-- The binary64 magnitude nearest to `q`, ties to even; `none` on overflow. -/
def round64 (q : ℚ≥0) : Option ℚ≥0 :=
  if q = 0 then some 0
  else
    let ulp := (2 : ℚ≥0) ^ max (floorLog2 q - 52) (-1074)
    let m := roundHalfEven (q / ulp) * ulp
    if m < 2 ^ 1024 then some m else none

/-- The finite magnitudes of the format. -/
def Representable (q : ℚ≥0) : Prop := round64 q = some q

instance (q : ℚ≥0) : Decidable (Representable q) :=
  inferInstanceAs (Decidable (_ = _))

def ofMag (neg : Bool) (q : ℚ≥0) : PyFloat :=
  match round64 q with
  | some m => .fin neg m
  | none => .inf neg

def zero : PyFloat := .fin false 0

def signed (neg : Bool) (mag : ℚ≥0) : ℚ := if neg then -(mag : ℚ) else mag

/-- The exact value of a finite float. -/
def toRat : PyFloat → Option ℚ
  | .fin s m => some (signed s m)
  | _ => none

def ofRat (q : ℚ) : PyFloat := ofMag (q < 0) q.nnabs

def neg : PyFloat → PyFloat
  | .nan => .nan
  | .inf s => .inf (!s)
  | .fin s m => .fin (!s) m

def abs : PyFloat → PyFloat
  | .nan => .nan
  | .inf _ => .inf false
  | .fin _ m => .fin false m

def add : PyFloat → PyFloat → PyFloat
  | .nan, _ => .nan
  | _, .nan => .nan
  | .inf s, .inf t => if s = t then .inf s else .nan
  | .inf s, .fin _ _ => .inf s
  | .fin _ _, .inf t => .inf t
  | .fin s m, .fin t n =>
    if signed s m + signed t n = 0 then .fin (s && t) 0 else ofRat (signed s m + signed t n)

def sub (x y : PyFloat) : PyFloat := add x (neg y)

def mul : PyFloat → PyFloat → PyFloat
  | .nan, _ => .nan
  | _, .nan => .nan
  | .inf s, .inf t => .inf (s ^^ t)
  | .inf s, .fin t n => if n = 0 then .nan else .inf (s ^^ t)
  | .fin s m, .inf t => if m = 0 then .nan else .inf (s ^^ t)
  | .fin s m, .fin t n => ofMag (s ^^ t) (m * n)

def isZero : PyFloat → Bool
  | .fin _ m => m = 0
  | _ => false

/-- `x / y`, which raises when `y` is zero. -/
def div (x y : PyFloat) : Except PyError PyFloat :=
  if y.isZero then .error .zeroDivisionError
  else
    .ok <| match x, y with
    | .nan, _ => .nan
    | _, .nan => .nan
    | .inf _, .inf _ => .nan
    | .inf s, .fin t _ => .inf (s ^^ t)
    | .fin s _, .inf t => .fin (s ^^ t) 0
    | .fin s m, .fin t n => ofMag (s ^^ t) (m / n)

/-- `x < y`; every comparison with NaN is false. -/
def lt : PyFloat → PyFloat → Bool
  | .nan, _ => false
  | _, .nan => false
  | .inf s, .inf t => s && !t
  | .inf s, .fin _ _ => s
  | .fin _ _, .inf t => !t
  | .fin s m, .fin t n => signed s m < signed t n

def le : PyFloat → PyFloat → Bool
  | .nan, _ => false
  | _, .nan => false
  | .inf s, .inf t => s || !t
  | .inf s, .fin _ _ => s
  | .fin _ _, .inf t => !t
  | .fin s m, .fin t n => signed s m ≤ signed t n

/-- `float(n)` of an integer. -/
def ofInt (n : ℤ) : Except PyError PyFloat :=
  match round64 n.natAbs with
  | some m => .ok (.fin (n < 0) m)
  | none => .error .overflowError

def ofDecimal (d : PyNumber.Decimal) : PyFloat := ofMag false d.value

/-- `int(x)` of a finite float: truncation towards zero. -/
def trunc : PyFloat → ℤ
  | .fin s m => if s then -(⌊m⌋₊ : ℤ) else ⌊m⌋₊
  | _ => 0

def toInt : PyFloat → Except PyError ℤ
  | .nan => .error (.valueError "cannot convert float NaN to integer")
  | .inf _ => .error .overflowError
  | x => .ok x.trunc

def isNan : PyFloat → Bool
  | .nan => true
  | _ => false

def isFinite : PyFloat → Bool
  | .fin _ _ => true
  | _ => false

/-- An integer as an exact value, to be compared with. -/
def exact (n : ℤ) : PyFloat := .fin (n < 0) n.natAbs

/-- `min(x, y)`: the first of equals. -/
def min (x y : PyFloat) : PyFloat := if y.lt x then y else x

/-- `max(x, y)`: the first of equals. -/
def max (x y : PyFloat) : PyFloat := if x.lt y then y else x

section OfString

open PyNumber

/-- A decimal digit of any script as the one of ASCII. -/
def toAscii (c : Char) : Char := (decimal c).elim c fun d => Char.ofNat ('0'.toNat + d)

/-- The unsigned part of the argument of `float`. -/
def ofUnsigned (cs : List Char) : Option PyFloat :=
  if cs.map Char.toLower ∈ ["inf".toList, "infinity".toList] then some (.inf false)
  else if cs.map Char.toLower = "nan".toList then some .nan
  else do
    let (whole, rest) ← match cs with
      | '.' :: c :: _ => if (digitOf 10 c).isSome then some ([], cs) else none
      | _ => digitPart 10 cs
    let (d, rest) ← match rest with
      | '.' :: rest => pointFloat whole rest
      | rest => (optExponent rest).map fun (_, e, rest) => (⟨ofDigits 10 whole, e⟩, rest)
    if rest = [] then some (ofDecimal d) else none

/-- `float(s)` of a string. -/
def ofString (s : String) : Except PyError PyFloat :=
  let notAFloat := .valueError "could not convert string to float"
  match (strip s.toList).map toAscii with
  | '+' :: cs => (ofUnsigned cs).elim (.error notAFloat) .ok
  | '-' :: cs => (ofUnsigned cs).elim (.error notAFloat) fun x => .ok x.neg
  | cs => (ofUnsigned cs).elim (.error notAFloat) .ok

end OfString

@[simp] theorem neg_neg (x : PyFloat) : x.neg.neg = x := by
  cases x <;> simp [neg]

theorem signed_exact (n : ℤ) : signed (n < 0) n.natAbs = n := by
  unfold signed
  rcases lt_or_ge n 0 with h | h
  · simp only [h, decide_true, if_true, NNRat.cast_natCast]
    rw [← Int.cast_natCast, Int.ofNat_natAbs_of_nonpos h.le]
    simp
  · simp only [not_lt.2 h, decide_false, Bool.false_eq_true, if_false, NNRat.cast_natCast]
    rw [← Int.cast_natCast, Int.natAbs_of_nonneg h]

@[simp] theorem exact_le_exact {m n : ℤ} : (exact m).le (exact n) ↔ m ≤ n := by
  simp only [le, exact, signed_exact, decide_eq_true_eq, Int.cast_le]

theorem zero_eq_exact : zero = exact 0 := by
  simp [zero, exact]

theorem trunc_bounds (s : Bool) (m : ℚ≥0) : ∃ k : ℕ, (fin s m).trunc = (if s then -(k : ℤ) else k) ∧
    (k : ℚ) ≤ m ∧ (m : ℚ) < k + 1 :=
  ⟨⌊m⌋₊, rfl, by exact_mod_cast Nat.floor_le m.2, by exact_mod_cast Nat.lt_floor_add_one m⟩

/-- Truncation stays on the same side of every integer. -/
theorem trunc_le_of_le {x : PyFloat} {n : ℤ} (hfin : x.isFinite) (h : x.le (exact n)) :
    x.trunc ≤ n := by
  cases x with
  | fin s m =>
    obtain ⟨k, hk, hle, hlt⟩ := trunc_bounds s m
    simp only [le, exact, signed_exact, decide_eq_true_eq] at h
    rw [hk]
    cases s with
    | false =>
      have hm : (m : ℚ) ≤ n := h
      have hn : ((k : ℤ) : ℚ) ≤ n := by
        push_cast
        linarith
      exact_mod_cast hn
    | true =>
      have hm : -(m : ℚ) ≤ n := h
      have hn : ((-k - 1 : ℤ) : ℚ) < n := by
        push_cast
        linarith
      have : (-k - 1 : ℤ) < n := by exact_mod_cast hn
      simp only [if_true]
      omega
  | _ => cases hfin

theorem le_trunc_of_le {x : PyFloat} {n : ℤ} (hfin : x.isFinite) (h : (exact n).le x) :
    n ≤ x.trunc := by
  cases x with
  | fin s m =>
    obtain ⟨k, hk, hle, hlt⟩ := trunc_bounds s m
    simp only [le, exact, signed_exact, decide_eq_true_eq] at h
    rw [hk]
    cases s with
    | false =>
      have hm : (n : ℚ) ≤ m := h
      have hn : (n : ℚ) < (k + 1 : ℤ) := by
        push_cast
        linarith
      have : n < (k + 1 : ℤ) := by exact_mod_cast hn
      simp only [Bool.false_eq_true, if_false]
      omega
    | true =>
      have hm : (n : ℚ) ≤ -m := h
      have hn : (n : ℚ) ≤ ((-k : ℤ) : ℚ) := by
        push_cast
        linarith
      exact_mod_cast hn
  | _ => cases hfin

theorem le_total_of_finite {x y : PyFloat} (hx : x.isFinite) (hy : y.isFinite)
    (h : ¬ x.le y) : y.le x := by
  cases x <;> cases y <;> simp_all [isFinite, le]
  exact h.le

theorem le_of_lt {x y : PyFloat} (h : x.lt y) : x.le y := by
  cases x <;> cases y <;> simp_all [lt, le]
  exact h.le

theorem le_refl_left {x y : PyFloat} (h : x.le y) : x.le x := by
  cases x <;> cases y <;> simp_all [le]

theorem le_refl_right {x y : PyFloat} (h : x.le y) : y.le y := by
  cases x <;> cases y <;> simp_all [le]

theorem le_trans {x y z : PyFloat} (h : x.le y) (h' : y.le z) : x.le z := by
  cases x <;> cases y <;> cases z
  case fin.fin.fin s m t n u k =>
    simp only [le, decide_eq_true_eq] at h h' ⊢
    exact h.trans h'
  all_goals grind [le]

/-- A clamped float is between the bounds. -/
theorem clamp_mem {lo hi : PyFloat} (h : lo.le hi) (x : PyFloat) :
    lo.le (lo.max (hi.min x)) ∧ (lo.max (hi.min x)).le hi := by
  have hmin : (hi.min x).le hi ∧ (hi.min x).le (hi.min x) := by
    unfold min
    split
    next hx => exact ⟨le_of_lt hx, le_refl_left (le_of_lt hx)⟩
    next => exact ⟨le_refl_right h, le_refl_right h⟩
  unfold max
  split
  next hlt => exact ⟨le_of_lt hlt, hmin.1⟩
  next => exact ⟨le_refl_left h, h⟩

theorem lt_of_not_le {x y : PyFloat} (hx : x.isFinite) (hy : y.isFinite) (h : ¬ x.le y) :
    y.lt x := by
  cases x <;> cases y <;> simp_all [isFinite, lt, le]

theorem lt_eq_false_of_le {x y : PyFloat} (h : x.le y) : y.lt x = false := by
  cases x <;> cases y <;> simp_all [lt, le]
  grind

/-- `min(max(x, lo), hi)` leaves what is between the bounds. -/
theorem clamp_of_mem {lo hi x : PyFloat} (hlo : lo.le x) (hhi : x.le hi) :
    (x.max lo).min hi = x := by
  rw [max, lt_eq_false_of_le hlo, if_neg (by simp), min, lt_eq_false_of_le hhi, if_neg (by simp)]

theorem clamp_of_finite {lo hi x : PyFloat} (h : lo.le hi) (hlo : lo.isFinite)
    (hhi : hi.isFinite) (hx : x.isFinite) :
    lo.le ((x.max lo).min hi) ∧ ((x.max lo).min hi).le hi := by
  by_cases hbelow : lo.le x
  · by_cases habove : x.le hi
    · rw [clamp_of_mem hbelow habove]
      exact ⟨hbelow, habove⟩
    · rw [max, lt_eq_false_of_le hbelow, if_neg (by simp), min,
        if_pos (lt_of_not_le hx hhi habove)]
      exact ⟨h, le_refl_right h⟩
  · rw [max, if_pos (lt_of_not_le hlo hx hbelow), min, lt_eq_false_of_le h, if_neg (by simp)]
    exact ⟨le_refl_left h, h⟩

end PyFloat

/-- A value decoded from JSON. -/
inductive Json
  | null
  | bool (b : Bool)
  | int (n : ℤ)
  | float (x : PyFloat)
  | str (s : String)
  | arr (xs : List Json)
  | obj (fields : List (String × Json))

/-- `float(v)` of a JSON value. -/
def Json.toFloat : Json → Except PyError PyFloat
  | .null => .error .typeError
  | .bool b => .ok (if b then .fin false 1 else .zero)
  | .int n => PyFloat.ofInt n
  | .float x => .ok x
  | .str s => PyFloat.ofString s
  | .arr _ => .error .typeError
  | .obj _ => .error .typeError

/-- A JSON object, as the dictionary it decodes to. -/
abbrev Params := List (String × Json)

/-- `params[key]`. -/
def Params.getItem (params : Params) (key : String) : Except PyError Json :=
  match params.lookup key with
  | some v => .ok v
  | none => .error (.keyError key)

/-- `params.get(key, default)`. -/
def Params.getD (params : Params) (key : String) (default : Json) : Json :=
  (params.lookup key).getD default

/-- `params[key] = v`. -/
def Params.set (params : Params) (key : String) (v : Json) : Params :=
  if (params.lookup key).isSome then params.map fun e => if e.1 = key then (key, v) else e
  else params ++ [(key, v)]

theorem Params.lookup_set (params : Params) (key key' : String) (v : Json) :
    (params.set key v).lookup key' = if key' = key then some v else params.lookup key' := by
  have hmap : ∀ params : Params,
      (params.map fun e => if e.1 = key then (key, v) else e).lookup key' =
        if key' = key then (params.lookup key).map fun _ => v else params.lookup key' := by
    intro params
    induction params with
    | nil => simp
    | cons e params ih =>
      obtain ⟨k, w⟩ := e
      simp only [List.map_cons, List.lookup_cons]
      grind
  unfold Params.set
  split
  next h =>
    obtain ⟨w, hw⟩ := Option.isSome_iff_exists.1 h
    rw [hmap, hw, Option.map_some]
  next h =>
    have hnone : params.lookup key = none := Option.not_isSome_iff_eq_none.1 h
    rw [List.lookup_append]
    by_cases hkey : key' = key
    · rw [hkey, if_pos rfl, hnone, List.lookup_cons_self, Option.none_or]
    · rw [if_neg hkey, List.lookup_cons, beq_false_of_ne hkey, List.lookup_nil, Option.or_none]

end GhostMeter.Lib
