import GhostMeter.Lib.PyFloat
import GhostMeter.Protocols.Base

/-! The values that the SNMP agent answers with. -/

namespace GhostMeter.Protocols

open GhostMeter.Lib

/-- The integer classes of pysnmp: the integer that the object made of a number represents;
numbers out of the range of the class are rejected. -/
structure Rfc1902 where
  integer32 : ℤ → Except PyError ℤ
  gauge32 : ℤ → Except PyError ℤ
  integer32_ok : ∀ n k, integer32 n = .ok k ↔ (-2147483648 ≤ n ∧ n ≤ 2147483647) ∧ k = n
  gauge32_ok : ∀ n k, gauge32 n = .ok k ↔ (0 ≤ n ∧ n ≤ 4294967295) ∧ k = n

/-- `round(x, digits)`. -/
def roundDigits (digits : ℕ) : PyFloat → PyFloat
  | .fin neg m => .ofMag neg (PyFloat.roundHalfEven (m * 10 ^ digits) / 10 ^ digits)
  | x => x

inductive SnmpValue
  | integer32 (n : ℤ)
  | gauge32 (n : ℤ)
  /-- The `str` of a float. -/
  | text (x : PyFloat)
  deriving DecidableEq

def toSnmpValue (lib : Rfc1902) (value : PyFloat) : DataType → Except PyError SnmpValue
  | .int16 | .int32 => do return .integer32 (← lib.integer32 (← value.toInt))
  | .uint16 | .uint32 => do return .gauge32 (← lib.gauge32 (← value.toInt))
  | _ => .ok (.text (roundDigits 4 value))

/-- The integer that a client reads. -/
def SnmpValue.integer : SnmpValue → Option ℤ
  | integer32 n => some n
  | gauge32 n => some n
  | text _ => none

end GhostMeter.Protocols
