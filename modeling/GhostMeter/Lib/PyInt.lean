import GhostMeter.Lib.PyFloat
import Mathlib.Tactic.IntervalCases

/-! `int` of a string. -/

namespace GhostMeter.Lib.PyInt

open PyNumber

/-- Digits with single underscores between them. -/
def digits : List Char → Option (List ℕ)
  | [] => none
  | [c] => (decimal c).map ([·])
  | c :: '_' :: cs => do return (← decimal c) :: (← digits cs)
  | c :: cs => do return (← decimal c) :: (← digits cs)

/-- The limit that Python sets on the digits. -/
def maxStrDigits : ℕ := 4300

def ofUnsigned (cs : List Char) : Except PyError ℕ :=
  match digits cs with
  | none => .error (.valueError "invalid literal for int() with base 10")
  | some ds =>
    if ds.length > maxStrDigits then
      .error (.valueError "Exceeds the limit (4300 digits) for integer string conversion")
    else .ok (ofDigits 10 ds)

/-- `int(s)`. -/
def ofString (s : String) : Except PyError ℤ :=
  match strip s.toList with
  | '+' :: cs => (ofUnsigned cs).map (↑)
  | '-' :: cs => (ofUnsigned cs).map fun n => -(n : ℤ)
  | cs => (ofUnsigned cs).map (↑)

example : ofString " -1_0\n" = .ok (-10) := by decide

section Canonical

variable {c : Char} {cs : List Char} {n : ℕ}

theorem toNat_of_isDigit (h : c.isDigit) : 48 ≤ c.toNat ∧ c.toNat < 58 := by
  simp only [Char.isDigit, Bool.and_eq_true, decide_eq_true_eq] at h
  have h₁ : 48 ≤ c.toNat := h.1
  have h₂ : c.toNat ≤ 57 := h.2
  omega

theorem decimal_of_isDigit (h : c.isDigit) : decimal c = some (c.toNat - '0'.toNat) := by
  have := toNat_of_isDigit h
  rw [decimal, zeros, List.find?_cons_of_pos (by simpa using this)]
  rfl

theorem not_isSpace_of_isDigit (h : c.isDigit) : isSpace c = false := by
  obtain ⟨hlo, hhi⟩ := toNat_of_isDigit h
  rw [← Char.ofNat_toNat c]
  interval_cases c.toNat <;> rfl

theorem digits_of_isDigit (hne : cs ≠ []) (h : ∀ c ∈ cs, c.isDigit) :
    digits cs = some (cs.map fun c => c.toNat - '0'.toNat) := by
  induction cs using digits.induct with
  | case1 => exact absurd rfl hne
  | case2 c =>
    rw [digits, decimal_of_isDigit (h c (by simp))]
    rfl
  | case3 c cs _ => exact absurd (h '_' (by simp)) (by decide)
  | case4 c cs hnil hsep ih =>
    have htail := ih hnil fun c' hc' => h c' (List.mem_cons_of_mem _ hc')
    rw [digits, decimal_of_isDigit (h c (by simp)), htail]
    · rfl
    · exact hnil
    · exact hsep

theorem strip_of_isDigit (h : ∀ c ∈ cs, c.isDigit) : strip cs = cs := by
  have hkeep : ∀ l : List Char, (∀ c ∈ l, c.isDigit) → l.dropWhile isSpace = l := by
    intro l hl
    cases l with
    | nil => rfl
    | cons c l => rw [List.dropWhile_cons, not_isSpace_of_isDigit (hl c (by simp))]; rfl
  rw [strip, hkeep cs h, hkeep _ fun c hc => h c (List.mem_reverse.1 hc), List.reverse_reverse]

theorem ofUnsigned_toDigits (n : ℕ) :
    ofUnsigned (Nat.toDigits 10 n) =
      if (Nat.toDigits 10 n).length > maxStrDigits then
        .error (.valueError "Exceeds the limit (4300 digits) for integer string conversion")
      else .ok n := by
  have hdigits := digits_of_isDigit Nat.toDigits_ne_nil
    fun c (hc : c ∈ Nat.toDigits 10 n) => Nat.isDigit_of_mem_toDigits (by decide) (by decide) hc
  have hvalue : ofDigits 10 ((Nat.toDigits 10 n).map fun c => c.toNat - '0'.toNat) = n := by
    rw [ofDigits, List.foldl_map]
    exact Nat.ofDigitChars_ten_toDigits
  simp only [ofUnsigned, hdigits, List.length_map, hvalue]

/-- `int(str(n))`. -/
theorem ofString_toDigits (n : ℕ) :
    ofString (String.ofList (Nat.toDigits 10 n)) =
      if (Nat.toDigits 10 n).length > maxStrDigits then
        .error (.valueError "Exceeds the limit (4300 digits) for integer string conversion")
      else .ok (n : ℤ) := by
  have hdigit : ∀ c ∈ Nat.toDigits 10 n, c.isDigit := fun c hc =>
    Nat.isDigit_of_mem_toDigits (by decide) (by decide) hc
  rw [ofString, String.toList_ofList, strip_of_isDigit hdigit]
  have hvalue := ofUnsigned_toDigits n
  revert hdigit hvalue
  generalize Nat.toDigits 10 n = cs
  intro hdigit hvalue
  split
  next => exact absurd (hdigit '+' (by simp)) (by decide)
  next => exact absurd (hdigit '-' (by simp)) (by decide)
  next =>
    rw [hvalue]
    split <;> rfl

end Canonical

end GhostMeter.Lib.PyInt

/-- `int(v)` of a JSON value. -/
def GhostMeter.Lib.Json.toInt : Json → Except PyError ℤ
  | .bool b => .ok (if b then 1 else 0)
  | .int n => .ok n
  | .float x => x.toInt
  | .str s => PyInt.ofString s
  | .null | .arr _ | .obj _ => .error .typeError
