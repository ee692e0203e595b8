import GhostMeter.Protocols.ModbusEncoding
import GhostMeter.Protocols.OpcUa
import GhostMeter.Protocols.Snmp

/-! One value, as Modbus, SNMP and OPC UA serve it. -/

namespace GhostMeter.Protocols

open GhostMeter.Lib GhostMeter.Lib.Bytes

/-- One of the types that the schemas accept. -/
def DataType.Valid (dataType : DataType) : Prop := ∀ name, dataType ≠ .other name

def ByteOrder.Valid (byteOrder : ByteOrder) : Prop := ∀ name, byteOrder ≠ .other name

/-- The range of an integer type. -/
def DataType.range (dataType : DataType) : Option (ℤ × ℤ) := (typeMap dataType).1.intRange

/-- The nearest number of the range. -/
def saturate (range : ℤ × ℤ) (n : ℤ) : ℤ := max range.1 (min range.2 n)

/-- Every protocol serves the value, and an integer type as the same integer: the truncated
value, saturated. -/
structure ServedAlike (lib : Rfc1902) (value : PyFloat) (dataType : DataType)
    (byteOrder : ByteOrder) : Prop where
  modbus : ∃ words, encodeValue value dataType byteOrder = .ok words ∧
    ∀ range, dataType.range = some range →
      decodeValue words dataType byteOrder = some (.int (saturate range value.trunc))
  snmp : ∃ v, toSnmpValue lib value dataType = .ok v ∧
    ∀ range, dataType.range = some range → v.integer = some (saturate range value.trunc)
  opcua : ∀ range, dataType.range = some range →
    coerceToRange value (typeMap dataType).1 = .int (saturate range value.trunc)

/-- The truncated value is in the range of an integer type, and a single-precision one does not
round to infinity. -/
def InRange (value : PyFloat) (dataType : DataType) : Prop :=
  (∀ range, dataType.range = some range → range.1 ≤ value.trunc ∧ value.trunc ≤ range.2) ∧
    (dataType = .float32 → ∀ neg m, value = .fin neg m → m < 2 ^ 128 - 2 ^ 103)

variable {lib : Rfc1902} {value : PyFloat} {dataType : DataType} {byteOrder : ByteOrder}

theorem saturate_of_mem {range : ℤ × ℤ} {n : ℤ} (h : range.1 ≤ n ∧ n ≤ range.2) :
    saturate range n = n := by
  simp [saturate, h.1, h.2]

theorem isFinite_exact (n : ℤ) : (PyFloat.exact n).isFinite := rfl

/-- OPC UA serves the saturated integer. -/
theorem coerceToRange_int {vtype : VariantType} {range : ℤ × ℤ} (hfin : value.isFinite)
    (hrange : vtype.intRange = some range) :
    coerceToRange value vtype = .int (saturate range value.trunc) := by
  obtain ⟨lo, hi⟩ := range
  have hle : lo ≤ hi := by cases vtype <;> cases hrange <;> norm_num
  have hnan : value.isNan = false := by cases value <;> simp_all [PyFloat.isFinite, PyFloat.isNan]
  simp only [coerceToRange, hrange, hnan, Bool.false_eq_true, if_false, saturate]
  split
  next h =>
    have := PyFloat.trunc_le_of_le hfin h
    rw [max_eq_left ((min_le_right _ _).trans this)]
  next hlo =>
    have := PyFloat.le_trunc_of_le hfin
      (PyFloat.le_total_of_finite hfin (isFinite_exact lo) hlo)
    split
    next h =>
      rw [min_eq_left (PyFloat.le_trunc_of_le hfin h), max_eq_right hle]
    next hhi =>
      have := PyFloat.trunc_le_of_le hfin
        (PyFloat.le_total_of_finite (isFinite_exact hi) hfin hhi)
      rw [min_eq_right this, max_eq_right ‹lo ≤ value.trunc›]

theorem toInt_of_finite (hfin : value.isFinite) : value.toInt = .ok value.trunc := by
  cases value <;> first | rfl | cases hfin

theorem applyByteOrder_isOk (hbo : byteOrder.Valid) (words : List ℕ) :
    ∃ words', applyByteOrder words byteOrder = .ok words' := by
  cases byteOrder with
  | other name => exact absurd rfl (hbo name)
  | _ => exact ⟨_, rfl⟩

theorem binary32_overflow : binary32.overflow = 2 ^ 128 - 2 ^ 103 := by decide +kernel

theorem packSingle_isOk_iff (hfin : value.isFinite) :
    (∃ raw, packSingle value = .ok raw) ↔ ∀ neg m, value = .fin neg m → m < 2 ^ 128 - 2 ^ 103 := by
  cases value with
  | fin neg m =>
    have hnone := BinaryFormat.round_eq_none_iff (f := binary32) (m := m)
    rw [binary32_overflow] at hnone
    simp only [packSingle, single, PyFloat.fin.injEq, and_imp, forall_eq', forall_apply_eq_imp_iff]
    cases hround : binary32.round m with
    | none => exact iff_of_false (by rintro ⟨_, ⟨⟩⟩) (not_lt.2 (hnone.1 hround))
    | some m' =>
      refine iff_of_true ⟨_, rfl⟩ (not_le.1 fun h => ?_)
      cases (hnone.2 h).symm.trans hround
  | _ => cases hfin

/-- When `encode_value` returns. -/
theorem encodeValue_isOk_iff (hfin : value.isFinite) (hdt : dataType.Valid)
    (hbo : byteOrder.Valid) (hne : dataType ≠ .uint16) :
    (∃ words, encodeValue value dataType byteOrder = .ok words) ↔ InRange value dataType := by
  have hwords : ∀ {x : Except PyError (List ℕ)},
      (∃ words, (x >>= fun raw => applyByteOrder (toWords raw) byteOrder) = .ok words) ↔
        ∃ raw, x = .ok raw := by
    intro x
    simp only [bind_ok_iff]
    constructor
    · rintro ⟨_, raw, hraw, -⟩
      exact ⟨raw, hraw⟩
    · rintro ⟨raw, hraw⟩
      obtain ⟨words, h⟩ := applyByteOrder_isOk hbo (toWords raw)
      exact ⟨words, raw, hraw, h⟩
  have hif : ∀ {c : Prop} [Decidable c] {raw : List ℕ},
      (∃ r, (if c then Except.ok raw else .error PyError.structError) = .ok r) ↔ c := by
    intro c _ raw
    split <;> simp_all
  cases dataType with
  | int16 =>
    have hpure : ∀ {x : Except PyError (List ℕ)},
        (∃ words, (x >>= fun raw => pure (toWords raw)) = .ok words) ↔ ∃ raw, x = .ok raw := by
      intro x
      cases x with
      | ok raw => exact iff_of_true ⟨_, rfl⟩ ⟨_, rfl⟩
      | error e => exact iff_of_false (by rintro ⟨_, ⟨⟩⟩) (by rintro ⟨_, ⟨⟩⟩)
    simp only [encodeValue, toInt_of_finite hfin]
    refine hpure.trans (hif.trans ?_)
    simp [InRange, DataType.range, typeMap, VariantType.intRange]
    omega
  | uint16 => exact absurd rfl hne
  | int32 =>
    simp only [encodeValue, toInt_of_finite hfin]
    refine hwords.trans (hif.trans ?_)
    simp [InRange, DataType.range, typeMap, VariantType.intRange]
    omega
  | uint32 =>
    simp only [encodeValue, toInt_of_finite hfin]
    refine hwords.trans (hif.trans ?_)
    simp [InRange, DataType.range, typeMap, VariantType.intRange]
    omega
  | float32 =>
    simp only [encodeValue]
    refine hwords.trans ((packSingle_isOk_iff hfin).trans ?_)
    simp [InRange, DataType.range, typeMap, VariantType.intRange]
  | float64 =>
    simp only [encodeValue]
    refine hwords.trans ?_
    simp [packDouble, InRange, DataType.range, typeMap, VariantType.intRange]
  | other name => exact absurd rfl (hdt name)

theorem InRange.saturate (h : InRange value dataType) {range : ℤ × ℤ}
    (hrange : dataType.range = some range) :
    Protocols.saturate range value.trunc = value.trunc :=
  saturate_of_mem (h.1 range hrange)

theorem InRange.held (h : InRange value dataType) {range : ℤ × ℤ}
    (hrange : dataType.range = some range) :
    Protocols.held value dataType = some (.int value.trunc) := by
  cases dataType with
  | uint16 =>
    have hmem := h.1 (0, 65535) rfl
    rw [Protocols.held, Int.emod_eq_of_lt hmem.1 (by have := hmem.2; omega)]
  | float32 => cases hrange
  | float64 => cases hrange
  | other name => cases hrange
  | _ => rfl

theorem InRange.snmp (h : InRange value dataType) (hfin : value.isFinite) :
    ∃ v, toSnmpValue lib value dataType = .ok v ∧
      ∀ range, dataType.range = some range → v.integer = some value.trunc := by
  have hsigned : (-2147483648 ≤ value.trunc ∧ value.trunc ≤ 2147483647) →
      lib.integer32 value.trunc = .ok value.trunc := fun hn => (lib.integer32_ok _ _).2 ⟨hn, rfl⟩
  have hunsigned : (0 ≤ value.trunc ∧ value.trunc ≤ 4294967295) →
      lib.gauge32 value.trunc = .ok value.trunc := fun hn => (lib.gauge32_ok _ _).2 ⟨hn, rfl⟩
  cases dataType with
  | int16 =>
    have hmem := h.1 (-32768, 32767) rfl
    simp only [toSnmpValue, toInt_of_finite hfin, bind_ok_iff]
    exact ⟨_, ⟨_, rfl, _, hsigned (by omega), rfl⟩, fun _ _ => rfl⟩
  | int32 =>
    have hmem := h.1 (-2147483648, 2147483647) rfl
    simp only [toSnmpValue, toInt_of_finite hfin, bind_ok_iff]
    exact ⟨_, ⟨_, rfl, _, hsigned (by omega), rfl⟩, fun _ _ => rfl⟩
  | uint16 =>
    have hmem := h.1 (0, 65535) rfl
    simp only [toSnmpValue, toInt_of_finite hfin, bind_ok_iff]
    exact ⟨_, ⟨_, rfl, _, hunsigned (by omega), rfl⟩, fun _ _ => rfl⟩
  | uint32 =>
    have hmem := h.1 (0, 4294967295) rfl
    simp only [toSnmpValue, toInt_of_finite hfin, bind_ok_iff]
    exact ⟨_, ⟨_, rfl, _, hunsigned (by omega), rfl⟩, fun _ _ => rfl⟩
  | _ => exact ⟨_, rfl, by rintro _ ⟨⟩⟩

theorem encodeValue_uint16 (hfin : value.isFinite) :
    encodeValue value .uint16 byteOrder = .ok [(value.trunc % 65536).toNat] := by
  simp only [encodeValue, toInt_of_finite hfin]
  rfl

/-- SNMP rejects negative numbers, and does not saturate. -/
theorem inRange_of_snmp_uint16 (hfin : value.isFinite) {v : SnmpValue}
    (h : toSnmpValue lib value .uint16 = .ok v)
    (hsat : v.integer = some (saturate (0, 65535) value.trunc)) : InRange value .uint16 := by
  simp only [toSnmpValue, toInt_of_finite hfin, bind_ok_iff] at h
  obtain ⟨n, hn, k, hk, hv⟩ := h
  obtain rfl := Except.ok.inj hn
  obtain ⟨hmem, rfl⟩ := (lib.gauge32_ok _ _).1 hk
  obtain rfl := Except.ok.inj hv
  have heq : value.trunc = max 0 (min 65535 value.trunc) := Option.some.inj hsat
  refine ⟨?_, by rintro ⟨⟩⟩
  rintro _ ⟨⟩
  exact ⟨hmem.1, by omega⟩

/-- Every protocol serves a finite float alike exactly when it is in the range of its type. -/
theorem servedAlike_iff (lib : Rfc1902) (value : PyFloat) (hfin : value.isFinite)
    (hfloat : binary64.Holds value) (dataType : DataType) (hdt : dataType.Valid)
    (byteOrder : ByteOrder) (hbo : byteOrder.Valid) :
    ServedAlike lib value dataType byteOrder ↔ InRange value dataType := by
  constructor
  · intro h
    by_cases hne : dataType = .uint16
    · subst hne
      obtain ⟨v, hv, hsat⟩ := h.snmp
      exact inRange_of_snmp_uint16 hfin hv (hsat _ rfl)
    · obtain ⟨words, hwords, -⟩ := h.modbus
      exact (encodeValue_isOk_iff hfin hdt hbo hne).1 ⟨words, hwords⟩
  · intro h
    constructor
    · obtain ⟨words, hwords⟩ : ∃ words, encodeValue value dataType byteOrder = .ok words := by
        by_cases hne : dataType = .uint16
        · subst hne
          exact ⟨_, encodeValue_uint16 hfin⟩
        · exact (encodeValue_isOk_iff hfin hdt hbo hne).2 h
      refine ⟨words, hwords, fun range hrange => ?_⟩
      rw [(encodeValue_encodes hfloat hwords).decode.1, h.held hrange, h.saturate hrange]
    · obtain ⟨v, hv, hinteger⟩ := h.snmp hfin
      exact ⟨v, hv, fun range hrange => (hinteger range hrange).trans (by rw [h.saturate hrange])⟩
    · exact fun range hrange => coerceToRange_int hfin hrange

/-- Classes with the documented ranges. -/
def rfc1902 : Rfc1902 where
  integer32 n :=
    if -2147483648 ≤ n ∧ n ≤ 2147483647 then .ok n else .error (.valueError "value out of range")
  gauge32 n := if 0 ≤ n ∧ n ≤ 4294967295 then .ok n else .error (.valueError "value out of range")
  integer32_ok n k := by split <;> simp_all [eq_comm]
  gauge32_ok n k := by split <;> simp_all [eq_comm]

theorem servedAlike_iff_voltage :
    ServedAlike rfc1902 (.fin false (461 / 2)) .int16 .bigEndian ↔
      InRange (.fin false (461 / 2)) .int16 :=
  servedAlike_iff rfc1902 (.fin false (461 / 2)) rfl (by decide +kernel) .int16
    (by rintro _ ⟨⟩) .bigEndian (by rintro _ ⟨⟩)

/-- A spike of 99999 on a signed 16-bit register. -/
theorem spike_not_servedAlike : ¬ ∀ (lib : Rfc1902) (value : PyFloat) (dataType : DataType)
    (byteOrder : ByteOrder), value.isFinite → binary64.Holds value → dataType.Valid →
      byteOrder.Valid → ServedAlike lib value dataType byteOrder := by
  intro h
  obtain ⟨words, hwords, -⟩ := (h rfc1902 (.fin false 99999) .int16 .bigEndian rfl
    (by decide +kernel) (by rintro _ ⟨⟩) (by rintro _ ⟨⟩)).modbus
  have herror : encodeValue (.fin false 99999) .int16 .bigEndian = .error .structError := by
    decide +kernel
  cases herror.symm.trans hwords

end GhostMeter.Protocols
