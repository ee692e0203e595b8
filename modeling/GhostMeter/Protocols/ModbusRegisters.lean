import GhostMeter.Lib.Loop
import GhostMeter.Lib.Slice
import GhostMeter.Protocols.ServedValues

/-! Values in the datastores of a Modbus slave. -/

namespace GhostMeter.Protocols

open GhostMeter.Lib GhostMeter.Lib.Bytes

/-- The datastore of a function code. -/
def ModbusDeviceContext.block (ctx : ModbusDeviceContext) (functionCode : ℤ) : List ℕ :=
  if functionCode = 3 then ctx.hr else ctx.ir

/-- The server adds one to every address. -/
structure ModbusDeviceContext.Covers (ctx : ModbusDeviceContext) (functionCode address : ℤ)
    (count : ℕ) : Prop where
  function_code_valid : functionCode = 3 ∨ functionCode = 4
  address_nonneg : 0 ≤ address
  length : address + 1 + count ≤ (ctx.block functionCode).length

/-- What `pymodbus` documents of `setValues` and `getValues`, on addresses within a datastore. -/
structure Pymodbus where
  setValues : ModbusDeviceContext → ℤ → ℤ → List ℕ → ModbusDeviceContext
  getValues : ModbusDeviceContext → ℤ → ℤ → ℕ → List ℕ
  block_setValues (ctx : ModbusDeviceContext) (functionCode address : ℤ) (words : List ℕ)
    (other : ℤ) : ctx.Covers functionCode address words.length → other = 3 ∨ other = 4 →
      (setValues ctx functionCode address words).block other =
        if other = functionCode then Slice.set (ctx.block other) (address + 1).toNat words
        else ctx.block other
  getValues_eq (ctx : ModbusDeviceContext) (functionCode address : ℤ) (count : ℕ) :
    ctx.Covers functionCode address count →
      getValues ctx functionCode address count =
        Slice.get (ctx.block functionCode) (address + 1).toNat count

namespace Pymodbus

variable {lib : Pymodbus} {ctx : ModbusDeviceContext} {functionCode address : ℤ}
  {words : List ℕ}

theorem length_block_setValues (h : ctx.Covers functionCode address words.length) {other : ℤ}
    (hother : other = 3 ∨ other = 4) :
    ((lib.setValues ctx functionCode address words).block other).length =
      (ctx.block other).length := by
  rw [lib.block_setValues ctx _ _ _ other h hother]
  split
  next heq =>
    have := h.length
    have := h.address_nonneg
    exact Slice.length_set (by rw [heq]; omega)
  next => rfl

/-- A write keeps every range that a datastore covers. -/
theorem covers_setValues (h : ctx.Covers functionCode address words.length) {other start : ℤ}
    {count : ℕ} (hother : ctx.Covers other start count) :
    (lib.setValues ctx functionCode address words).Covers other start count where
  function_code_valid := hother.function_code_valid
  address_nonneg := hother.address_nonneg
  length := by
    rw [length_block_setValues h hother.function_code_valid]
    exact hother.length

theorem getValues_setValues (h : ctx.Covers functionCode address words.length) :
    lib.getValues (lib.setValues ctx functionCode address words) functionCode address
      words.length = words := by
  have := h.length
  have := h.address_nonneg
  rw [lib.getValues_eq _ _ _ _ (covers_setValues h h),
    lib.block_setValues ctx _ _ _ _ h h.function_code_valid, if_pos rfl]
  exact Slice.get_set_self (by omega)

/-- A write leaves the ranges that it does not meet. -/
theorem getValues_setValues_of_disjoint (h : ctx.Covers functionCode address words.length)
    {other start : ℤ} {count : ℕ} (hother : ctx.Covers other start count)
    (hd : other = functionCode → start + count ≤ address ∨ address + words.length ≤ start) :
    lib.getValues (lib.setValues ctx functionCode address words) other start count =
      lib.getValues ctx other start count := by
  rw [lib.getValues_eq _ _ _ _ (covers_setValues h hother), lib.getValues_eq _ _ _ _ hother,
    lib.block_setValues ctx _ _ _ other h hother.function_code_valid]
  split
  next heq =>
    have := h.length
    have := h.address_nonneg
    have := hother.address_nonneg
    have := hd heq
    exact Slice.get_set_of_disjoint (by rw [heq]; omega) (by omega)
  next => rfl

end Pymodbus

namespace ModbusTcpAdapter

def updateRegister (lib : Pymodbus) (a : ModbusTcpAdapter) (device : UUID)
    (address functionCode : ℤ) (value : PyFloat) (dataType : DataType) (byteOrder : ByteOrder) :
    Except PyError ModbusTcpAdapter :=
  match a.deviceToSlave device with
  | none => .error (.valueError s!"Device {device} not registered")
  | some slave =>
    match a.slaveContexts slave with
    | none => .error (.keyError s!"{slave}")
    | some ctx => do
      let words ← encodeValue value dataType byteOrder
      return { a with objects := a.objects.modify ctx (lib.setValues · functionCode address words) }

/-- The datastores of a registered device. -/
def contextOf (a : ModbusTcpAdapter) (device : UUID) : Option ModbusDeviceContext :=
  (a.updated device).bind (a.objects[·]?)

variable {lib : Pymodbus} {a a' : ModbusTcpAdapter} {device : UUID} {ctx : ModbusDeviceContext}
  {address functionCode : ℤ} {value : PyFloat} {dataType : DataType} {byteOrder : ByteOrder}

/-- What `update_register` does for a registered device. -/
theorem updateRegister_eq (h : a.contextOf device = some ctx) :
    (∃ e, encodeValue value dataType byteOrder = .error e ∧
      a.updateRegister lib device address functionCode value dataType byteOrder = .error e) ∨
    ∃ words a', encodeValue value dataType byteOrder = .ok words ∧
      a.updateRegister lib device address functionCode value dataType byteOrder = .ok a' ∧
      a'.contextOf device = some (lib.setValues ctx functionCode address words) := by
  simp only [contextOf, updated, Option.bind_eq_some_iff] at h
  obtain ⟨ref, ⟨slave, hslave, href⟩, hctx⟩ := h
  simp only [updateRegister, hslave, href]
  cases hwords : encodeValue value dataType byteOrder with
  | error e => exact Or.inl ⟨e, rfl, rfl⟩
  | ok words =>
    refine Or.inr ⟨words, _, rfl, rfl, ?_⟩
    simp [contextOf, updated, hslave, href, hctx]

end ModbusTcpAdapter

section Encodable

variable {value : PyFloat} {dataType : DataType} {byteOrder : ByteOrder} {words : List ℕ}

theorem length_applyByteOrder {words' : List ℕ} (h : applyByteOrder words byteOrder = .ok words') :
    words'.length = words.length := by
  cases byteOrder with
  | other name => cases h
  | _ => simp [← Except.ok.inj h]

theorem length_encodeValue (h : encodeValue value dataType byteOrder = .ok words) :
    (words.length : ℤ) = dataType.registerCount := by
  cases dataType with
  | int16 =>
    simp only [encodeValue, bind_ok_iff] at h
    obtain ⟨n, -, raw, hraw, hwords⟩ := h
    rw [← Except.ok.inj hwords, (packSigned_ok hraw).2.2, length_toWords, length_toBytes]
    rfl
  | uint16 =>
    simp only [encodeValue, bind_ok_iff] at h
    obtain ⟨n, -, hwords⟩ := h
    rw [← Except.ok.inj hwords]
    rfl
  | int32 =>
    simp only [encodeValue, bind_ok_iff] at h
    obtain ⟨n, -, raw, hraw, hwords⟩ := h
    rw [length_applyByteOrder hwords, (packSigned_ok hraw).2.2, length_toWords, length_toBytes]
    rfl
  | uint32 =>
    simp only [encodeValue, bind_ok_iff] at h
    obtain ⟨n, -, raw, hraw, hwords⟩ := h
    rw [length_applyByteOrder hwords, (packUnsigned_ok hraw).2.2, length_toWords, length_toBytes]
    rfl
  | float32 =>
    simp only [encodeValue, packSingle, bind_ok_iff] at h
    obtain ⟨raw, hraw, hwords⟩ := h
    cases hx : single value with
    | error e => simp [hx, Except.map] at hraw
    | ok x =>
      simp only [hx, Except.map, Except.ok.injEq] at hraw
      rw [length_applyByteOrder hwords, ← hraw, length_toWords, length_toBytes]
      rfl
  | float64 =>
    simp only [encodeValue, packDouble, bind_ok_iff] at h
    obtain ⟨raw, hraw, hwords⟩ := h
    rw [length_applyByteOrder hwords, ← Except.ok.inj hraw, length_toWords, length_toBytes]
    rfl
  | other name => cases h

/-- The values that `encode_value` takes: an integer type needs a finite one, and all types but
unsigned 16-bit integers and doubles need it in their range. -/
structure Fits (value : PyFloat) (dataType : DataType) : Prop where
  finite : dataType.range.isSome → value.isFinite
  inRange : value.isFinite → dataType ≠ .uint16 → InRange value dataType

theorem encodeValue_isOk_iff_fits (hdt : dataType.Valid) (hbo : byteOrder.Valid) :
    (∃ words, encodeValue value dataType byteOrder = .ok words) ↔ Fits value dataType := by
  by_cases hfin : value.isFinite
  · by_cases hne : dataType = .uint16
    · subst hne
      exact iff_of_true ⟨_, encodeValue_uint16 hfin⟩ ⟨fun _ => hfin, fun _ h => absurd rfl h⟩
    · rw [encodeValue_isOk_iff hfin hdt hbo hne]
      exact ⟨fun h => ⟨fun _ => hfin, fun _ _ => h⟩, fun h => h.inRange hfin hne⟩
  · have hfits : Fits value dataType ↔ dataType.range = none := by
      refine ⟨fun h => ?_, fun h => ⟨by simp [h], fun hf => absurd hf hfin⟩⟩
      by_contra hsome
      exact hfin (h.finite (Option.isSome_iff_ne_none.2 hsome))
    have hint : ∃ e, value.toInt = .error e := by
      cases value with
      | fin neg m => exact absurd rfl hfin
      | _ => exact ⟨_, rfl⟩
    have hsingle : ∃ x, single value = .ok x := by
      cases value with
      | fin neg m => exact absurd rfl hfin
      | _ => exact ⟨_, rfl⟩
    obtain ⟨e, he⟩ := hint
    obtain ⟨x, hx⟩ := hsingle
    rw [hfits]
    cases dataType with
    | float32 =>
      refine iff_of_true ?_ rfl
      simp only [encodeValue, packSingle, hx]
      exact applyByteOrder_isOk hbo _
    | float64 => exact iff_of_true (applyByteOrder_isOk hbo _) rfl
    | other name => exact absurd rfl (hdt name)
    | _ =>
      refine iff_of_false ?_ (by rintro ⟨⟩)
      simp only [encodeValue, he]
      rintro ⟨_, ⟨⟩⟩

end Encodable

namespace ModbusTcpAdapter

/-- Every register of the function code, with its words, lies within the datastore. -/
theorem le_blockSize {registers : List RegisterInfo} {functionCode : ℤ} {r : RegisterInfo}
    (hr : r ∈ registers) (hfc : r.functionCode = functionCode) :
    r.address + r.dataType.registerCount + 1 ≤ blockSize registers functionCode := by
  refine foldl_invariant
    (P := fun done size => r ∈ done → r.address + r.dataType.registerCount + 1 ≤ size)
    ?_ (by simp) hr
  intro done e rest size _ hsize hmem
  rcases List.mem_append.1 hmem with hmem | hmem
  · refine (hsize hmem).trans ?_
    split
    · exact le_max_left _ _
    · exact le_rfl
  · rw [List.mem_singleton] at hmem
    rw [← hmem, if_pos hfc]
    exact le_max_right _ _

end ModbusTcpAdapter

end GhostMeter.Protocols
