import GhostMeter.Lib.PyFloat
import Mathlib.Algebra.Order.Field.Power
import Mathlib.Tactic.FieldSimp
import Mathlib.Tactic.Linarith
import Mathlib.Tactic.Positivity
import Mathlib.Tactic.Ring

/-! The IEEE 754 binary interchange formats: rounding into a format, and its bit patterns. -/

namespace GhostMeter.Lib

/-- A format, by the widths of its exponent and fraction fields. -/
structure BinaryFormat where
  exponentBits : ℕ
  fractionBits : ℕ
  exponent_ge : 2 ≤ exponentBits
  fraction_pos : 0 < fractionBits

def binary32 : BinaryFormat := ⟨8, 23, by decide, by decide⟩
def binary64 : BinaryFormat := ⟨11, 52, by decide, by decide⟩

namespace BinaryFormat

open PyFloat

variable (f : BinaryFormat)

def bias : ℤ := 2 ^ (f.exponentBits - 1) - 1

/-- The exponent of the last place of the subnormal numbers. -/
def minExp : ℤ := 1 - f.bias - f.fractionBits

/-- The exponent of the last place of numbers as large as `m`. -/
def lastPlace (m : ℚ≥0) : ℤ := Max.max (floorLog2 m - f.fractionBits) f.minExp

/-- The nearest magnitude of the format, ties to even; `none` on overflow. -/
def round (q : ℚ≥0) : Option ℚ≥0 :=
  if q = 0 then some 0
  else
    let ulp := (2 : ℚ≥0) ^ f.lastPlace q
    let m := roundHalfEven (q / ulp) * ulp
    if m < 2 ^ (f.bias + 1) then some m else none

/-- The format has the number. -/
def Holds : PyFloat → Prop
  | .fin _ m => f.round m = some m
  | _ => True

instance : (x : PyFloat) → Decidable (f.Holds x)
  | .fin _ m => inferInstanceAs (Decidable (f.round m = some m))
  | .nan => isTrue trivial
  | .inf _ => isTrue trivial

/-- The exponent field of infinities and NaNs, with an empty fraction. -/
def infinite : ℕ := (2 ^ f.exponentBits - 1) * 2 ^ f.fractionBits

def packMag (m : ℚ≥0) : ℕ :=
  if m = 0 then 0
  else (f.lastPlace m - f.minExp).toNat * 2 ^ f.fractionBits + ⌊m / 2 ^ f.lastPlace m⌋₊

def unpackMag (k : ℕ) : ℚ≥0 :=
  if k < 2 ^ f.fractionBits then k * 2 ^ f.minExp
  else (2 ^ f.fractionBits + k % 2 ^ f.fractionBits : ℕ) *
    2 ^ (f.minExp + (k / 2 ^ f.fractionBits : ℕ) - 1)

def signBit (neg : Bool) : ℕ := if neg then 2 ^ (f.exponentBits + f.fractionBits) else 0

/-- The bit pattern of a number of the format. -/
def pack : PyFloat → ℕ
  | .nan => f.infinite + 2 ^ (f.fractionBits - 1)
  | .inf neg => f.signBit neg + f.infinite
  | .fin neg m => f.signBit neg + f.packMag m

/-- The number with the bit pattern. -/
def unpack (k : ℕ) : PyFloat :=
  let neg : Bool := 2 ^ (f.exponentBits + f.fractionBits) ≤ k
  let r := k % 2 ^ (f.exponentBits + f.fractionBits)
  if r = f.infinite then .inf neg
  else if f.infinite < r then .nan
  else .fin neg (f.unpackMag r)

end BinaryFormat

namespace PyFloat

theorem floorLog2_spec {q : ℚ≥0} (hq : 0 < q) :
    (2 : ℚ≥0) ^ floorLog2 q ≤ q ∧ q < 2 ^ (floorLog2 q + 1) := by
  have two_ne : (2 : ℚ≥0) ≠ 0 := by norm_num
  have hden : (0 : ℚ≥0) < q.den := by exact_mod_cast q.den_pos
  have hquot : q * q.den = q.num := NNRat.mul_den_eq_num q
  have hn : (2 : ℚ≥0) ^ (q.num.log2 : ℤ) ≤ q.num := by
    exact_mod_cast Nat.log2_self_le (by simpa using hq.ne')
  have hn' : (q.num : ℚ≥0) < 2 ^ ((q.num.log2 : ℤ) + 1) := by
    exact_mod_cast (Nat.lt_log2_self (n := q.num))
  have hd : (2 : ℚ≥0) ^ (q.den.log2 : ℤ) ≤ q.den := by
    exact_mod_cast Nat.log2_self_le q.den_pos.ne'
  have hd' : (q.den : ℚ≥0) < 2 ^ ((q.den.log2 : ℤ) + 1) := by
    exact_mod_cast (Nat.lt_log2_self (n := q.den))
  have hdef : floorLog2 q = if (2 : ℚ≥0) ^ ((q.num.log2 : ℤ) - q.den.log2) ≤ q then
      (q.num.log2 : ℤ) - q.den.log2 else (q.num.log2 : ℤ) - q.den.log2 - 1 := rfl
  generalize (q.num.log2 : ℤ) = a at *
  generalize (q.den.log2 : ℤ) = b at *
  have hlo : (2 : ℚ≥0) ^ (a - b - 1) ≤ q := by
    refine le_of_mul_le_mul_right ?_ hden
    calc (2 : ℚ≥0) ^ (a - b - 1) * q.den ≤ 2 ^ (a - b - 1) * 2 ^ (b + 1) := by gcongr
      _ = 2 ^ a := by rw [← zpow_add₀ two_ne]; congr 1; ring
      _ ≤ q * q.den := hquot ▸ hn
  have hhi : q < (2 : ℚ≥0) ^ (a - b + 1) := by
    refine lt_of_mul_lt_mul_right ?_ hden.le
    calc q * q.den < 2 ^ (a + 1) := hquot ▸ hn'
      _ = 2 ^ (a - b + 1) * 2 ^ b := by rw [← zpow_add₀ two_ne]; congr 1; ring
      _ ≤ 2 ^ (a - b + 1) * q.den := by gcongr
  rw [hdef]
  split
  next h => exact ⟨h, hhi⟩
  next h => exact ⟨hlo, by simpa using not_le.1 h⟩

theorem roundHalfEven_natCast (n : ℕ) : roundHalfEven (n : ℚ≥0) = n := by
  have hlt : (2 : ℚ≥0) * n < 2 * n + 1 := lt_add_one _
  simp [roundHalfEven, hlt]

theorem roundHalfEven_le {q : ℚ≥0} {n : ℕ} (h : q < n) : roundHalfEven q ≤ n := by
  have hfloor : ⌊q⌋₊ < n := (Nat.floor_lt' (by rintro rfl; simp at h)).2 h
  simp only [roundHalfEven]
  split_ifs <;> omega

theorem le_roundHalfEven {q : ℚ≥0} {n : ℕ} (h : n ≤ q) : n ≤ roundHalfEven q := by
  have hfloor : n ≤ ⌊q⌋₊ := Nat.le_floor h
  simp only [roundHalfEven]
  split_ifs <;> omega

theorem roundHalfEven_mono {q q' : ℚ≥0} (h : q ≤ q') : roundHalfEven q ≤ roundHalfEven q' := by
  have hfloor : ⌊q⌋₊ ≤ ⌊q'⌋₊ := Nat.floor_mono h
  rcases hfloor.eq_or_lt with heq | hlt
  · have hdouble : 2 * q ≤ 2 * q' := by gcongr
    have hup : 2 * (⌊q⌋₊ : ℚ≥0) + 1 < 2 * q → 2 * (⌊q⌋₊ : ℚ≥0) + 1 < 2 * q' :=
      fun hlt => hlt.trans_le hdouble
    have hdown : 2 * q' < 2 * (⌊q⌋₊ : ℚ≥0) + 1 → 2 * q < 2 * (⌊q⌋₊ : ℚ≥0) + 1 :=
      hdouble.trans_lt
    simp only [roundHalfEven, ← heq]
    split_ifs <;> first | omega | tauto
  · simp only [roundHalfEven]
    split_ifs <;> omega

/-- Rounding goes up to an even number from the midpoint below it on. -/
theorem even_le_roundHalfEven {q : ℚ≥0} {n : ℕ} (h : q < (2 * (n + 1) : ℕ)) :
    2 * (n + 1) ≤ roundHalfEven q ↔ ((2 * (2 * n + 1) + 1 : ℕ) : ℚ≥0) ≤ 2 * q := by
  have hfloor : ⌊q⌋₊ < 2 * (n + 1) := (Nat.floor_lt' (by omega)).2 h
  have hq : (⌊q⌋₊ : ℚ≥0) ≤ q := Nat.floor_le q.2
  have hcast : ((2 * (2 * n + 1) + 1 : ℕ) : ℚ≥0) = 2 * (2 * n + 1 : ℕ) + 1 := by push_cast; ring
  constructor
  · intro hle
    have hk : ⌊q⌋₊ = 2 * n + 1 := by
      simp only [roundHalfEven] at hle
      split_ifs at hle <;> omega
    simp only [roundHalfEven, hk] at hle
    split at hle
    next => omega
    next hlt => exact hcast ▸ not_lt.1 hlt
  · intro hle
    rw [hcast] at hle
    have hk : ⌊q⌋₊ = 2 * n + 1 := by
      have hge : ((2 * n + 1 : ℕ) : ℚ≥0) ≤ q := by
        refine le_of_mul_le_mul_left ?_ (show (0 : ℚ≥0) < 2 by norm_num)
        exact le_self_add.trans hle
      have := Nat.le_floor hge
      omega
    simp only [roundHalfEven, hk, if_neg (not_lt.2 hle)]
    split
    next => omega
    next =>
      rw [if_neg (by omega)]
      omega

end PyFloat

namespace BinaryFormat

open PyFloat

variable {f : BinaryFormat} {m : ℚ≥0}

theorem round_binary64 (q : ℚ≥0) : binary64.round q = round64 q := by
  have hbias : binary64.bias + 1 = (1024 : ℕ) := by decide
  have hmin : binary64.minExp = -1074 := by decide
  simp only [round, round64, lastPlace, hbias, hmin, zpow_natCast]
  rfl

theorem round_eq_some (hm : m ≠ 0) (h : f.round m = some m) :
    roundHalfEven (m / 2 ^ f.lastPlace m) * (2 : ℚ≥0) ^ f.lastPlace m = m ∧
      m < 2 ^ (f.bias + 1) := by
  simp only [round, if_neg hm] at h
  split at h
  next hlt =>
    have heq := Option.some.inj h
    exact ⟨heq, heq ▸ hlt⟩
  next => cases h

/-- A number of the format is an integer multiple of its last place, and a number that is not
subnormal uses all of its digits. -/
theorem exists_significand (hm : m ≠ 0) (h : f.round m = some m) :
    ∃ n : ℕ, m = n * 2 ^ f.lastPlace m ∧ n < 2 ^ (f.fractionBits + 1) ∧
      (f.lastPlace m = f.minExp ∨ 2 ^ f.fractionBits ≤ n) := by
  have two_ne : (2 : ℚ≥0) ≠ 0 := by norm_num
  obtain ⟨hlo, hhi⟩ := floorLog2_spec (pos_iff_ne_zero.2 hm)
  obtain ⟨heq, -⟩ := round_eq_some hm h
  have hulp : (0 : ℚ≥0) < 2 ^ f.lastPlace m := by positivity
  refine ⟨roundHalfEven (m / 2 ^ f.lastPlace m), heq.symm, ?_, ?_⟩
  · have hlast : floorLog2 m + 1 ≤ f.lastPlace m + (f.fractionBits + 1 : ℕ) := by
      have := le_max_left (floorLog2 m - f.fractionBits) f.minExp
      unfold lastPlace
      push_cast
      linarith
    generalize roundHalfEven (m / 2 ^ f.lastPlace m) = n at heq
    have hlt : (n : ℚ≥0) * 2 ^ f.lastPlace m < 2 ^ (f.fractionBits + 1) * 2 ^ f.lastPlace m :=
      calc (n : ℚ≥0) * 2 ^ f.lastPlace m = m := heq
        _ < 2 ^ (floorLog2 m + 1) := hhi
        _ ≤ 2 ^ (f.lastPlace m + (f.fractionBits + 1 : ℕ)) := by gcongr; norm_num
        _ = 2 ^ (f.fractionBits + 1) * 2 ^ f.lastPlace m := by
          rw [add_comm, zpow_add₀ two_ne, zpow_natCast]
    exact_mod_cast lt_of_mul_lt_mul_right hlt hulp.le
  · rcases max_choice (floorLog2 m - f.fractionBits) f.minExp with hmax | hmax
    · have hlast : f.lastPlace m = floorLog2 m - f.fractionBits := hmax
      refine Or.inr ?_
      generalize roundHalfEven (m / 2 ^ f.lastPlace m) = n at heq
      have hle : (2 : ℚ≥0) ^ f.fractionBits * 2 ^ f.lastPlace m ≤ n * 2 ^ f.lastPlace m :=
        calc (2 : ℚ≥0) ^ f.fractionBits * 2 ^ f.lastPlace m = 2 ^ floorLog2 m := by
              rw [← zpow_natCast, ← zpow_add₀ two_ne, hlast]
              congr 1
              ring
          _ ≤ m := hlo
          _ = n * 2 ^ f.lastPlace m := heq.symm
      exact_mod_cast le_of_mul_le_mul_right hle hulp
    · exact Or.inl hmax

theorem minExp_le_lastPlace : f.minExp ≤ f.lastPlace m := le_max_right _ _

theorem lastPlace_le_of_lt (hm : m ≠ 0) {e : ℤ} (he : f.minExp ≤ e)
    (h : m < 2 ^ (e + f.fractionBits + 1)) : f.lastPlace m ≤ e := by
  have hlog : floorLog2 m < e + f.fractionBits + 1 :=
    (zpow_lt_zpow_iff_right₀ (by norm_num)).1
      ((floorLog2_spec (pos_iff_ne_zero.2 hm)).1.trans_lt h)
  exact max_le (by linarith) he

/-- A multiple of a place that is fine enough is kept. -/
theorem round_of_multiple (hm : m ≠ 0) (hlt : m < 2 ^ (f.bias + 1)) {e : ℤ} {n : ℕ}
    (hn : m = n * 2 ^ e) (he : f.lastPlace m ≤ e) : f.round m = some m := by
  have two_ne : (2 : ℚ≥0) ≠ 0 := by norm_num
  obtain ⟨k, rfl⟩ : ∃ k : ℕ, e = f.lastPlace m + k := ⟨(e - f.lastPlace m).toNat, by omega⟩
  have hdiv : m / 2 ^ f.lastPlace m = (n * 2 ^ k : ℕ) := by
    rw [div_eq_iff (by positivity)]
    conv_lhs => rw [hn]
    push_cast
    rw [zpow_add₀ two_ne, zpow_natCast]
    ring
  have hmul : ((n * 2 ^ k : ℕ) : ℚ≥0) * 2 ^ f.lastPlace m = m := by
    rw [← hdiv, div_mul_cancel₀ _ (by positivity)]
  simp only [round, if_neg hm, hdiv, roundHalfEven_natCast, hmul, if_pos hlt]

/-- What rounding gives is in the format. -/
theorem round_round {q : ℚ≥0} (h : f.round q = some m) : f.round m = some m := by
  have two_ne : (2 : ℚ≥0) ≠ 0 := by norm_num
  by_cases hq : q = 0
  · simp only [round, if_pos hq, Option.some.injEq] at h
    simp [round, ← h]
  by_cases hm : m = 0
  · simp [round, hm]
  simp only [round, if_neg hq] at h
  split at h
  next hlt =>
    obtain rfl := Option.some.inj h
    have hfine : q / 2 ^ f.lastPlace q < (2 ^ (f.fractionBits + 1) : ℕ) := by
      rw [div_lt_iff₀ (by positivity)]
      refine (floorLog2_spec (pos_iff_ne_zero.2 hq)).2.trans_le ?_
      push_cast
      rw [← zpow_natCast, ← zpow_add₀ two_ne]
      refine zpow_le_zpow_right₀ (by norm_num) ?_
      have := le_max_left (floorLog2 q - f.fractionBits) f.minExp
      unfold lastPlace
      push_cast
      linarith
    have hle := roundHalfEven_le hfine
    generalize roundHalfEven (q / 2 ^ f.lastPlace q) = n at *
    rcases hle.lt_or_eq with hn | rfl
    · refine round_of_multiple hm hlt rfl (lastPlace_le_of_lt hm minExp_le_lastPlace ?_)
      rw [add_assoc, add_comm, zpow_add₀ two_ne]
      have hcast : (n : ℚ≥0) < 2 ^ ((f.fractionBits : ℤ) + 1) := by exact_mod_cast hn
      gcongr
    · -- a carry into the next place
      have heq : ((2 ^ (f.fractionBits + 1) : ℕ) : ℚ≥0) * 2 ^ f.lastPlace q =
          (2 ^ f.fractionBits : ℕ) * 2 ^ (f.lastPlace q + 1) := by
        push_cast
        rw [zpow_add₀ two_ne, zpow_one]
        ring
      refine round_of_multiple hm hlt heq (lastPlace_le_of_lt hm ?_ ?_)
      · exact minExp_le_lastPlace.trans (Int.le_add_one le_rfl)
      · push_cast
        rw [← zpow_natCast, ← zpow_add₀ two_ne]
        refine zpow_lt_zpow_right₀ (by norm_num) ?_
        push_cast
        linarith
  next => cases h

/-- The last place of a number that does not overflow. -/
theorem lastPlace_le (hm : m ≠ 0) (h : f.round m = some m) :
    f.lastPlace m - f.minExp ≤ 2 ^ f.exponentBits - 3 := by
  have hlog : floorLog2 m < f.bias + 1 := by
    have hlt := (floorLog2_spec (pos_iff_ne_zero.2 hm)).1.trans_lt (round_eq_some hm h).2
    exact (zpow_lt_zpow_iff_right₀ (by norm_num)).1 hlt
  have hbias : 2 * f.bias = 2 ^ f.exponentBits - 2 := by
    obtain ⟨e, he⟩ : ∃ e, f.exponentBits = e + 1 :=
      ⟨f.exponentBits - 1, by have := f.exponent_ge; omega⟩
    simp only [bias, he, Nat.add_sub_cancel, pow_succ]
    ring
  have hpow : (2 : ℤ) ^ 2 ≤ 2 ^ f.exponentBits := pow_le_pow_right₀ (by norm_num) f.exponent_ge
  rcases max_choice (floorLog2 m - f.fractionBits) f.minExp with hmax | hmax
  · have hlast : f.lastPlace m = floorLog2 m - f.fractionBits := hmax
    rw [hlast, minExp]
    linarith
  · have hlast : f.lastPlace m = f.minExp := hmax
    rw [hlast]
    linarith

/-- The fields of a packed magnitude. -/
theorem packMag_eq (hm : m ≠ 0) (h : f.round m = some m) :
    ∃ t n : ℕ, f.packMag m = t * 2 ^ f.fractionBits + n ∧ m = n * 2 ^ (f.minExp + t) ∧
      n < 2 ^ (f.fractionBits + 1) ∧ (t = 0 ∨ 2 ^ f.fractionBits ≤ n) ∧
      t + 3 ≤ 2 ^ f.exponentBits := by
  obtain ⟨n, hn, hlt, hnormal⟩ := exists_significand hm h
  have hle := minExp_le_lastPlace (f := f) (m := m)
  have hfloor : ⌊m / 2 ^ f.lastPlace m⌋₊ = n := by
    have hdiv : m / 2 ^ f.lastPlace m = n := (div_eq_iff (by positivity)).2 hn
    rw [hdiv, Nat.floor_natCast]
  have ht : f.minExp + ((f.lastPlace m - f.minExp).toNat : ℤ) = f.lastPlace m := by omega
  refine ⟨(f.lastPlace m - f.minExp).toNat, n, ?_, ?_, hlt, ?_, ?_⟩
  · rw [packMag, if_neg hm, hfloor]
  · rwa [ht]
  · exact hnormal.imp_left fun heq => by omega
  · have hlast := lastPlace_le hm h
    have hpow : ((2 ^ f.exponentBits : ℕ) : ℤ) = 2 ^ f.exponentBits := by push_cast; rfl
    omega

theorem packMag_lt (h : f.round m = some m) : f.packMag m < f.infinite := by
  by_cases hm : m = 0
  · have : 2 ^ 2 ≤ 2 ^ f.exponentBits := Nat.pow_le_pow_right (by norm_num) f.exponent_ge
    simp only [packMag, if_pos hm, infinite]
    exact Nat.mul_pos (by omega) (by positivity)
  · obtain ⟨t, n, hk, -, hlt, -, ht⟩ := packMag_eq hm h
    rw [hk, infinite]
    calc t * 2 ^ f.fractionBits + n < t * 2 ^ f.fractionBits + 2 ^ (f.fractionBits + 1) := by omega
      _ = (t + 2) * 2 ^ f.fractionBits := by ring
      _ ≤ (2 ^ f.exponentBits - 1) * 2 ^ f.fractionBits := Nat.mul_le_mul_right _ (by omega)

theorem unpackMag_packMag (h : f.round m = some m) : f.unpackMag (f.packMag m) = m := by
  by_cases hm : m = 0
  · simp [packMag, unpackMag, hm]
  · obtain ⟨t, n, hk, hmag, hlt, hnormal, -⟩ := packMag_eq hm h
    have hpos : 0 < 2 ^ f.fractionBits := by positivity
    rw [hk, unpackMag]
    by_cases hn : n < 2 ^ f.fractionBits
    · obtain rfl : t = 0 := hnormal.resolve_right (not_le.2 hn)
      rw [if_pos (by simpa using hn)]
      simpa using hmag.symm
    · -- a normal number: its first digit is implicit
      obtain ⟨r, rfl⟩ : ∃ r, n = 2 ^ f.fractionBits + r := ⟨n - 2 ^ f.fractionBits, by omega⟩
      have hr : r < 2 ^ f.fractionBits := by
        rw [pow_succ] at hlt
        omega
      have hsum : t * 2 ^ f.fractionBits + (2 ^ f.fractionBits + r) =
          r + (t + 1) * 2 ^ f.fractionBits := by ring
      rw [hsum, if_neg (by nlinarith), Nat.add_mul_mod_self_right, Nat.mod_eq_of_lt hr,
        Nat.add_mul_div_right _ _ hpos, Nat.div_eq_of_lt hr]
      conv_rhs => rw [hmag]
      congr 2
      push_cast
      ring

/-- The midpoint between the largest number and the next power of two. -/
def overflow (f : BinaryFormat) : ℚ≥0 :=
  (2 * (2 * (2 ^ f.fractionBits - 1) + 1) + 1 : ℕ) * 2 ^ (f.bias - f.fractionBits - 1)

theorem one_le_bias : 1 ≤ f.bias := by
  have hpow : (2 : ℤ) ^ 1 ≤ 2 ^ (f.exponentBits - 1) :=
    pow_le_pow_right₀ (by norm_num) (by have := f.exponent_ge; omega)
  unfold bias
  linarith

/-- Rounding does not leave the powers of two that a number is between. -/
theorem rounded_le {k : ℤ} (h : m < 2 ^ k) (hk : f.lastPlace m ≤ k) :
    roundHalfEven (m / 2 ^ f.lastPlace m) * (2 : ℚ≥0) ^ f.lastPlace m ≤ 2 ^ k := by
  have two_ne : (2 : ℚ≥0) ≠ 0 := by norm_num
  obtain ⟨i, rfl⟩ : ∃ i : ℕ, k = f.lastPlace m + i := ⟨(k - f.lastPlace m).toNat, by omega⟩
  rw [zpow_add₀ two_ne, zpow_natCast, mul_comm] at h ⊢
  gcongr
  have hlt : m / 2 ^ f.lastPlace m < (2 ^ i : ℕ) := by
    rw [div_lt_iff₀ (by positivity)]
    push_cast
    exact h
  exact_mod_cast roundHalfEven_le hlt

theorem le_rounded {k : ℤ} (h : 2 ^ k ≤ m) (hk : f.lastPlace m ≤ k) :
    2 ^ k ≤ roundHalfEven (m / 2 ^ f.lastPlace m) * (2 : ℚ≥0) ^ f.lastPlace m := by
  have two_ne : (2 : ℚ≥0) ≠ 0 := by norm_num
  obtain ⟨i, rfl⟩ : ∃ i : ℕ, k = f.lastPlace m + i := ⟨(k - f.lastPlace m).toNat, by omega⟩
  rw [zpow_add₀ two_ne, zpow_natCast, mul_comm] at h ⊢
  gcongr
  have hle : ((2 ^ i : ℕ) : ℚ≥0) ≤ m / 2 ^ f.lastPlace m := by
    rw [le_div_iff₀ (by positivity)]
    push_cast
    exact h
  exact_mod_cast le_roundHalfEven hle

theorem lastPlace_mono {m' : ℚ≥0} (hm : m ≠ 0) (h : m ≤ m') : f.lastPlace m ≤ f.lastPlace m' := by
  have hm' : 0 < m' := (pos_iff_ne_zero.2 hm).trans_le h
  have hlog : floorLog2 m < floorLog2 m' + 1 :=
    (zpow_lt_zpow_iff_right₀ (by norm_num)).1 (((floorLog2_spec (pos_iff_ne_zero.2 hm)).1.trans
      h).trans_lt (floorLog2_spec hm').2)
  unfold lastPlace
  omega

/-- Rounding is monotone: where the last place changes, a power of two lies between. -/
theorem round_mono {m' r r' : ℚ≥0} (hle : m ≤ m') (h : f.round m = some r)
    (h' : f.round m' = some r') : r ≤ r' := by
  by_cases hm : m = 0
  · simp only [round, if_pos hm] at h
    cases h
    exact zero_le
  have hm' : m' ≠ 0 := ((pos_iff_ne_zero.2 hm).trans_le hle).ne'
  obtain rfl : roundHalfEven (m / 2 ^ f.lastPlace m) * (2 : ℚ≥0) ^ f.lastPlace m = r := by
    simp only [round, if_neg hm] at h
    split at h
    · exact Option.some.inj h
    · cases h
  obtain rfl : roundHalfEven (m' / 2 ^ f.lastPlace m') * (2 : ℚ≥0) ^ f.lastPlace m' = r' := by
    simp only [round, if_neg hm'] at h'
    split at h'
    · exact Option.some.inj h'
    · cases h'
  rcases (lastPlace_mono (f := f) hm hle).eq_or_lt with heq | hlt
  · rw [← heq]
    gcongr
    exact roundHalfEven_mono (by gcongr)
  · obtain ⟨hlo', -⟩ := floorLog2_spec (pos_iff_ne_zero.2 hm')
    obtain ⟨-, hhi⟩ := floorLog2_spec (pos_iff_ne_zero.2 hm)
    have hmin := minExp_le_lastPlace (f := f) (m := m)
    have hlog : floorLog2 m + 1 ≤ floorLog2 m' ∧ f.lastPlace m' ≤ floorLog2 m' := by
      unfold lastPlace at hlt hmin ⊢
      omega
    have hbelow : m < 2 ^ floorLog2 m' := hhi.trans_le (zpow_le_zpow_right₀ (by norm_num) hlog.1)
    exact (rounded_le hbelow (hlt.le.trans hlog.2)).trans (le_rounded hlo' hlog.2)

/-- Rounding overflows from the midpoint on. -/
theorem round_eq_none_iff : f.round m = none ↔ f.overflow ≤ m := by
  have two_ne : (2 : ℚ≥0) ≠ 0 := by norm_num
  obtain ⟨n, hn⟩ : ∃ n, 2 ^ f.fractionBits = n + 1 :=
    ⟨2 ^ f.fractionBits - 1, by have : 0 < 2 ^ f.fractionBits := by positivity
                                omega⟩
  have hnq : ((2 : ℚ≥0)) ^ (f.fractionBits : ℤ) = n + 1 := by
    rw [zpow_natCast]
    exact_mod_cast hn
  have hover : f.overflow = (2 * (2 * n + 1) + 1 : ℕ) * 2 ^ (f.bias - f.fractionBits - 1) := by
    simp [overflow, hn]
  have hbias := one_le_bias (f := f)
  -- the midpoint lies between two powers of two
  have htop : (2 : ℚ≥0) ^ (f.bias + 1) = (4 * (n + 1)) * 2 ^ (f.bias - f.fractionBits - 1) := by
    have hexp : f.bias + 1 = (f.fractionBits : ℤ) + 2 + (f.bias - f.fractionBits - 1) := by ring
    have hfour : (2 : ℚ≥0) ^ (2 : ℤ) = 4 := by norm_num
    rw [hexp, zpow_add₀ two_ne, zpow_add₀ two_ne, hnq, hfour]
    ring
  have hbot : (2 : ℚ≥0) ^ f.bias = (2 * (n + 1)) * 2 ^ (f.bias - f.fractionBits - 1) := by
    have hexp : f.bias = (f.fractionBits : ℤ) + 1 + (f.bias - f.fractionBits - 1) := by ring
    conv_lhs => rw [hexp]
    rw [zpow_add₀ two_ne, zpow_add₀ two_ne, hnq, zpow_one]
    ring
  have hulp : (0 : ℚ≥0) < 2 ^ (f.bias - f.fractionBits - 1) := by positivity
  by_cases hm : m = 0
  · subst hm
    have : 0 < f.overflow := by rw [hover]; positivity
    simp [round, this.ne']
  have hround : f.round m = none ↔
      2 ^ (f.bias + 1) ≤ roundHalfEven (m / 2 ^ f.lastPlace m) * (2 : ℚ≥0) ^ f.lastPlace m := by
    simp only [round, if_neg hm]
    rw [← not_lt]
    split <;> simp_all
  rw [hround]
  obtain ⟨hlo, hhi⟩ := floorLog2_spec (pos_iff_ne_zero.2 hm)
  have hmin : f.minExp ≤ f.bias - f.fractionBits := by
    unfold minExp
    linarith
  rcases lt_or_ge m (2 ^ f.bias) with hsmall | hlarge
  · have hlast : f.lastPlace m ≤ f.bias := lastPlace_le_of_lt hm (by omega)
      (hsmall.trans (zpow_lt_zpow_right₀ (by norm_num) (by omega)))
    have hbelow : (2 : ℚ≥0) ^ f.bias < 2 ^ (f.bias + 1) :=
      zpow_lt_zpow_right₀ (by norm_num) (by omega)
    refine iff_of_false (not_le.2 ((rounded_le hsmall hlast).trans_lt hbelow)) (not_le.2 ?_)
    refine hsmall.trans_le ?_
    rw [hbot, hover]
    gcongr
    norm_cast
    omega
  rcases lt_or_ge m (2 ^ (f.bias + 1)) with hmid | hhuge
  · have hlog : floorLog2 m = f.bias := by
      have h₁ := (zpow_lt_zpow_iff_right₀ (by norm_num)).1 (hlo.trans_lt hmid)
      have h₂ := (zpow_lt_zpow_iff_right₀ (by norm_num)).1 (hlarge.trans_lt hhi)
      omega
    have hlast : f.lastPlace m = f.bias - f.fractionBits := by
      rw [lastPlace, hlog]
      exact max_eq_left hmin
    have hexp : (2 : ℚ≥0) ^ (f.bias - f.fractionBits) = 2 * 2 ^ (f.bias - f.fractionBits - 1) := by
      conv_lhs => rw [show f.bias - f.fractionBits = 1 + (f.bias - f.fractionBits - 1) by ring]
      rw [zpow_add₀ two_ne, zpow_one]
    have hpow : (2 : ℚ≥0) ^ (f.bias + 1) = (2 * (n + 1) : ℕ) * 2 ^ f.lastPlace m := by
      rw [htop, hlast, hexp]
      push_cast
      ring
    have hpos : (0 : ℚ≥0) < 2 ^ f.lastPlace m := by positivity
    have hquot : m / 2 ^ f.lastPlace m < (2 * (n + 1) : ℕ) := by
      rw [div_lt_iff₀ hpos, ← hpow]
      exact hmid
    rw [hpow, mul_le_mul_iff_left₀ hpos, Nat.cast_le, even_le_roundHalfEven hquot, hover,
      ← mul_div_assoc, le_div_iff₀ hpos, hlast, hexp, mul_left_comm,
      mul_le_mul_iff_right₀ (by norm_num)]
  · refine iff_of_true ?_ ?_
    · have hlog := (zpow_lt_zpow_iff_right₀ (by norm_num)).1 (hhuge.trans_lt hhi)
      have hlast : f.lastPlace m ≤ floorLog2 m := max_le (by omega) (by omega)
      exact (zpow_le_zpow_right₀ (by norm_num) (by omega)).trans (le_rounded hlo hlast)
    · refine le_trans ?_ hhuge
      rw [hover, htop]
      gcongr
      norm_cast
      omega

theorem infinite_add : f.infinite + 2 ^ f.fractionBits = 2 ^ (f.exponentBits + f.fractionBits) := by
  have hpos : 0 < 2 ^ f.exponentBits := by positivity
  rw [infinite, pow_add, ← Nat.succ_mul, Nat.succ_eq_add_one, Nat.sub_add_cancel hpos]

theorem signBit_fields (neg : Bool) {r : ℕ} (hr : r < 2 ^ (f.exponentBits + f.fractionBits)) :
    decide (2 ^ (f.exponentBits + f.fractionBits) ≤ f.signBit neg + r) = neg ∧
      (f.signBit neg + r) % 2 ^ (f.exponentBits + f.fractionBits) = r := by
  cases neg with
  | true => simp [signBit, Nat.mod_eq_of_lt hr]
  | false => simp [signBit, Nat.mod_eq_of_lt hr, hr]

theorem pack_lt {x : PyFloat} (h : f.Holds x) :
    f.pack x < 2 ^ (f.exponentBits + f.fractionBits + 1) := by
  have hinf := infinite_add (f := f)
  have hpos : 0 < 2 ^ f.fractionBits := by positivity
  have hsign : ∀ neg, f.signBit neg ≤ 2 ^ (f.exponentBits + f.fractionBits) := by
    intro neg
    cases neg <;> simp [signBit]
  rw [pow_succ]
  cases x with
  | nan =>
    have : 2 ^ (f.fractionBits - 1) ≤ 2 ^ f.fractionBits :=
      Nat.pow_le_pow_right (by norm_num) (Nat.sub_le _ _)
    simp only [pack]
    omega
  | inf neg =>
    have := hsign neg
    simp only [pack]
    omega
  | fin neg m =>
    have := hsign neg
    have := packMag_lt (f := f) (m := m) h
    simp only [pack]
    omega

/-- The bit pattern of a number of the format determines it. -/
theorem unpack_pack {x : PyFloat} (h : f.Holds x) : f.unpack (f.pack x) = x := by
  have hinf := infinite_add (f := f)
  have hpos : 0 < 2 ^ f.fractionBits := by positivity
  cases x with
  | nan =>
    have hfrac : 2 ^ (f.fractionBits - 1) < 2 ^ f.fractionBits :=
      Nat.pow_lt_pow_right (by norm_num) (Nat.sub_lt f.fraction_pos (by norm_num))
    have hquiet : 0 < 2 ^ (f.fractionBits - 1) := by positivity
    have hmod : (f.infinite + 2 ^ (f.fractionBits - 1)) %
        2 ^ (f.exponentBits + f.fractionBits) = f.infinite + 2 ^ (f.fractionBits - 1) :=
      Nat.mod_eq_of_lt (by omega)
    simp [unpack, pack, hmod]
  | inf neg =>
    obtain ⟨hneg, hmod⟩ := signBit_fields (f := f) neg (r := f.infinite) (by omega)
    simp only [unpack, pack, hmod, if_true]
    exact congrArg PyFloat.inf hneg
  | fin neg m =>
    have hlt := packMag_lt (f := f) (m := m) h
    obtain ⟨hneg, hmod⟩ := signBit_fields (f := f) neg (r := f.packMag m) (by omega)
    simp only [unpack, pack, hmod, if_neg hlt.ne, if_neg hlt.not_gt, unpackMag_packMag h]
    exact congrArg (PyFloat.fin · m) hneg

/-- A number of the format bounds what rounds from below it. -/
theorem exists_round_le {c : ℚ≥0} (hle : m ≤ c) (hc : f.round c = some c) :
    ∃ r, f.round m = some r ∧ r ≤ c := by
  cases h : f.round m with
  | none =>
    have hnone := round_eq_none_iff.2 ((round_eq_none_iff.1 h).trans hle)
    rw [hc] at hnone
    cases hnone
  | some r => exact ⟨r, rfl, round_mono hle h hc⟩

theorem overflow_binary64 : binary64.overflow = (2 ^ 1024 - 2 ^ 970 : ℕ) := by
  decide +kernel

end BinaryFormat

/-- `float(n)` raises from the midpoint above the largest number on. -/
theorem PyFloat.exists_ofInt_iff (n : ℤ) :
    (∃ x, PyFloat.ofInt n = .ok x) ↔ n.natAbs < 2 ^ 1024 - 2 ^ 970 := by
  have hround : PyFloat.round64 n.natAbs = none ↔ 2 ^ 1024 - 2 ^ 970 ≤ n.natAbs := by
    rw [← BinaryFormat.round_binary64, BinaryFormat.round_eq_none_iff,
      BinaryFormat.overflow_binary64, Nat.cast_le]
  rw [← not_le, ← hround, PyFloat.ofInt]
  cases PyFloat.round64 n.natAbs with
  | none => simp
  | some m => simp

/-- Integers of up to 53 bits are floats. -/
theorem PyFloat.ofInt_of_lt {n : ℤ} (h : n.natAbs < 2 ^ 53) :
    PyFloat.ofInt n = .ok (PyFloat.exact n) := by
  have hround : PyFloat.round64 (n.natAbs : ℚ≥0) = some (n.natAbs : ℚ≥0) := by
    rw [← BinaryFormat.round_binary64]
    by_cases hn : (n.natAbs : ℚ≥0) = 0
    · rw [hn, BinaryFormat.round, if_pos rfl]
    have hmin : binary64.minExp ≤ 0 := by decide
    have hexp : (0 : ℤ) + binary64.fractionBits + 1 = (53 : ℕ) := by decide
    have hbias : binary64.bias + 1 = (1024 : ℕ) := by decide
    have hlt : (n.natAbs : ℚ≥0) < 2 ^ 53 := by exact_mod_cast h
    refine BinaryFormat.round_of_multiple hn ?_ (by rw [zpow_zero, mul_one])
      (BinaryFormat.lastPlace_le_of_lt hn hmin ?_)
    · rw [hbias, zpow_natCast]
      exact hlt.trans (pow_lt_pow_right₀ (by norm_num) (by norm_num))
    · rwa [hexp, zpow_natCast]
  rw [PyFloat.ofInt, hround, PyFloat.exact]

/-- A quotient of numbers that are not negative is between zero and the quotient of the bounds. -/
theorem PyFloat.exists_div {x : PyFloat} {k c : ℕ} (hk : k ≠ 0)
    (hc : PyFloat.round64 c = some (c : ℚ≥0)) (hlo : PyFloat.zero.le x)
    (hhi : x.le (PyFloat.exact (c * k))) :
    ∃ q, x.div (PyFloat.exact k) = .ok q ∧ PyFloat.zero.le q ∧ q.le (PyFloat.exact c) := by
  cases x with
  | nan => cases hlo
  | inf s => cases s with
    | false => cases hhi
    | true => cases hlo
  | fin s m =>
    have hlo' : (0 : ℚ) ≤ PyFloat.signed s m := by
      simpa [PyFloat.le, PyFloat.zero, PyFloat.signed] using hlo
    have hhi' : PyFloat.signed s m ≤ ((c * k : ℤ) : ℚ) := by
      simpa only [PyFloat.le, PyFloat.exact, PyFloat.signed_exact, decide_eq_true_eq] using hhi
    have hkq : (k : ℚ≥0) ≠ 0 := Nat.cast_ne_zero.2 hk
    have hzero : s = true → m = 0 := by
      rintro rfl
      have hneg : (m : ℚ) ≤ 0 := by simpa [PyFloat.signed] using hlo'
      exact_mod_cast hneg.antisymm m.2
    have hm : m ≤ c * k := by
      cases s with
      | false => exact_mod_cast hhi'
      | true => rw [hzero rfl]; exact zero_le
    have hquot : m / k ≤ c := (div_le_iff₀ (pos_iff_ne_zero.2 hkq)).2 hm
    rw [← BinaryFormat.round_binary64] at hc
    obtain ⟨r, hr, hle⟩ := BinaryFormat.exists_round_le hquot hc
    have hdiv : (PyFloat.fin s m).div (PyFloat.exact k) = .ok (.fin s r) := by
      have hpos : ¬ (k : ℤ) < 0 := by omega
      rw [BinaryFormat.round_binary64] at hr
      simp [PyFloat.div, PyFloat.exact, PyFloat.isZero, hk, hpos, PyFloat.ofMag, hr]
    have hsigned : 0 ≤ PyFloat.signed s r ∧ PyFloat.signed s r ≤ c := by
      cases s with
      | false => exact ⟨r.2, by exact_mod_cast hle⟩
      | true =>
        rw [hzero rfl, zero_div, BinaryFormat.round, if_pos rfl] at hr
        cases hr
        simp [PyFloat.signed]
    refine ⟨_, hdiv, ?_, ?_⟩
    · simpa [PyFloat.le, PyFloat.zero, PyFloat.signed] using hsigned.1
    · simpa only [PyFloat.le, PyFloat.exact, PyFloat.signed_exact, decide_eq_true_eq,
        Int.cast_natCast] using hsigned.2

end GhostMeter.Lib
