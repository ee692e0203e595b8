import GhostMeter.Lib.PyString
import Mathlib.Data.NNRat.Floor

/-! Numerals as Python spells them: digit groups with single underscores, decimal fractions
and exponents.  Every scanner returns the value read and the characters that follow it. -/

namespace GhostMeter.Lib.PyNumber

-- The bases of the formats, so that their literals contain no proofs of their own.
instance atLeastTwo_two : Nat.AtLeastTwo 2 := ⟨le_rfl⟩

instance atLeastTwo_ten : Nat.AtLeastTwo 10 := ⟨by decide⟩

/-- The zeros of the decimal digits of Unicode, each followed by the other nine. -/
def zeros : List ℕ := [
  0x30, 0x660, 0x6f0, 0x7c0, 0x966, 0x9e6, 0xa66, 0xae6, 0xb66, 0xbe6, 0xc66, 0xce6, 0xd66, 0xde6,
  0xe50, 0xed0, 0xf20, 0x1040, 0x1090, 0x17e0, 0x1810, 0x1946, 0x19d0, 0x1a80, 0x1a90, 0x1b50,
  0x1bb0, 0x1c40, 0x1c50, 0xa620, 0xa8d0, 0xa900, 0xa9d0, 0xa9f0, 0xaa50, 0xabf0, 0xff10, 0x104a0,
  0x10d30, 0x11066, 0x110f0, 0x11136, 0x111d0, 0x112f0, 0x11450, 0x114d0, 0x11650, 0x116c0,
  0x11730, 0x118e0, 0x11950, 0x11c50, 0x11d50, 0x11da0, 0x11f50, 0x16a60, 0x16ac0, 0x16b50,
  0x1d7ce, 0x1d7d8, 0x1d7e2, 0x1d7ec, 0x1d7f6, 0x1e140, 0x1e2f0, 0x1e4f0, 0x1e950, 0x1fbf0]

def decimal (c : Char) : Option ℕ :=
  (zeros.find? fun z => z ≤ c.toNat ∧ c.toNat < z + 10).map (c.toNat - ·)

/-- What `int` and `float` strip: unlike `str.strip`, not the separators of ASCII. -/
def isSpace (c : Char) : Bool := PyString.isSpace c && !('\x1c' ≤ c && c ≤ '\x1f')

def strip (cs : List Char) : List Char :=
  ((cs.dropWhile isSpace).reverse.dropWhile isSpace).reverse

def digitVal (c : Char) : Option ℕ :=
  if '0' ≤ c ∧ c ≤ '9' then some (c.toNat - '0'.toNat)
  else if 'a' ≤ c ∧ c ≤ 'f' then some (c.toNat - 'a'.toNat + 10)
  else if 'A' ≤ c ∧ c ≤ 'F' then some (c.toNat - 'A'.toNat + 10)
  else none

def digitOf (base : ℕ) (c : Char) : Option ℕ :=
  (digitVal c).bind fun v => if v < base then some v else none

/-- What follows the first digit of `digit (["_"] digit)*`. -/
def digitTail (base : ℕ) : List Char → Option (List ℕ × List Char)
  | '_' :: c :: cs =>
    match digitOf base c with
    | some v => (digitTail base cs).map fun (vs, rest) => (v :: vs, rest)
    | none => none
  | ['_'] => none
  | c :: cs =>
    match digitOf base c with
    | some v => (digitTail base cs).map fun (vs, rest) => (v :: vs, rest)
    | none => some ([], c :: cs)
  | [] => some ([], [])

def digitPart (base : ℕ) : List Char → Option (List ℕ × List Char)
  | c :: cs =>
    match digitOf base c with
    | some v => (digitTail base cs).map fun (vs, rest) => (v :: vs, rest)
    | none => none
  | [] => none

def ofDigits (base : ℕ) (ds : List ℕ) : ℕ := ds.foldl (fun n d => base * n + d) 0

/-- The decimal number `digits * 10 ^ scale`. -/
structure Decimal where
  digits : ℕ
  scale : ℤ
  deriving DecidableEq

def Decimal.value (d : Decimal) : ℚ≥0 := d.digits * (10 : ℚ≥0) ^ d.scale

/-- The digits after a decimal point, of which there may be none. -/
def fraction (cs : List Char) : Option (List ℕ × List Char) :=
  match cs with
  | c :: _ => if (digitOf 10 c).isSome then digitPart 10 cs else some ([], cs)
  | [] => some ([], [])

/-- The signed digits after an exponent mark. -/
def exponent : List Char → Option (ℤ × List Char)
  | '+' :: cs => (digitPart 10 cs).map fun (ds, rest) => ((ofDigits 10 ds : ℤ), rest)
  | '-' :: cs => (digitPart 10 cs).map fun (ds, rest) => (-(ofDigits 10 ds : ℤ), rest)
  | cs => (digitPart 10 cs).map fun (ds, rest) => ((ofDigits 10 ds : ℤ), rest)

/-- The optional exponent of a decimal number; the flag tells whether there was one. -/
def optExponent : List Char → Option (Bool × ℤ × List Char)
  | 'e' :: cs => (exponent cs).map fun (e, rest) => (true, e, rest)
  | 'E' :: cs => (exponent cs).map fun (e, rest) => (true, e, rest)
  | cs => some (false, 0, cs)

/-- `[digitpart] "." [digitpart] [exponent]`, from the point on. -/
def pointFloat (whole : List ℕ) (cs : List Char) : Option (Decimal × List Char) := do
  let (frac, rest) ← fraction cs
  let (_, e, rest) ← optExponent rest
  return (⟨ofDigits 10 (whole ++ frac), e - frac.length⟩, rest)

end GhostMeter.Lib.PyNumber
