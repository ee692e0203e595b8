import GhostMeter.Lib.Binary
import GhostMeter.Lib.Bytes
import GhostMeter.Lib.Check
import GhostMeter.Protocols.ModbusTcp

/-! The encoding of values as Modbus registers. -/

namespace GhostMeter.Protocols

open GhostMeter.Lib GhostMeter.Lib.Bytes

/-- `struct.pack` of a signed integer in `w` bytes. -/
def packSigned (w : ℕ) (n : ℤ) : Except PyError (List ℕ) :=
  if -256 ^ w ≤ 2 * n ∧ 2 * n < 256 ^ w then .ok (toBytes w (ofInt w n)) else .error .structError

/-- `struct.pack` of an unsigned integer in `w` bytes. -/
def packUnsigned (w : ℕ) (n : ℤ) : Except PyError (List ℕ) :=
  if 0 ≤ n ∧ n < 256 ^ w then .ok (toBytes w (ofInt w n)) else .error .structError

/-- The single-precision float nearest to a float. -/
def single : PyFloat → Except PyError PyFloat
  | .fin neg m =>
    match binary32.round m with
    | some m => .ok (.fin neg m)
    | none => .error .overflowError
  | x => .ok x

def packSingle (value : PyFloat) : Except PyError (List ℕ) :=
  (single value).map fun x => toBytes 4 (binary32.pack x)

def packDouble (value : PyFloat) : Except PyError (List ℕ) :=
  .ok (toBytes 8 (binary64.pack value))

def applyByteOrder (words : List ℕ) : ByteOrder → Except PyError (List ℕ)
  | .bigEndian => .ok words
  | .littleEndian => .ok (words.map swapBytes).reverse
  | .bigEndianWordSwap => .ok (words.map swapBytes)
  | .littleEndianWordSwap => .ok words.reverse
  | .other name => .error (.valueError s!"Unsupported byte order: {name}")

def encodeValue (value : PyFloat) (dataType : DataType) (byteOrder : ByteOrder) :
    Except PyError (List ℕ) :=
  match dataType with
  | .int16 => do return toWords (← packSigned 2 (← value.toInt))
  | .uint16 => do return [((← value.toInt) % 65536).toNat]
  | .int32 => do applyByteOrder (toWords (← packSigned 4 (← value.toInt))) byteOrder
  | .uint32 => do applyByteOrder (toWords (← packUnsigned 4 (← value.toInt))) byteOrder
  | .float32 => do applyByteOrder (toWords (← packSingle value)) byteOrder
  | .float64 => do applyByteOrder (toWords (← packDouble value)) byteOrder
  | .other name => .error (.valueError s!"Unsupported data type: {name}")

section Decode

/-- The documented orders of the bytes `A B C D` of a value: as they are, `D C B A`,
`B A D C` and `C D A B`. -/
def ByteOrder.permute : ByteOrder → List ℕ → List ℕ
  | bigEndian, bytes => bytes
  | littleEndian, bytes => bytes.reverse
  | bigEndianWordSwap, bytes => swapPairs bytes
  | littleEndianWordSwap, bytes => swapPairs bytes.reverse
  | other _, bytes => bytes

/-- One register has no word order. -/
def DataType.permute (dataType : DataType) (byteOrder : ByteOrder) (bytes : List ℕ) : List ℕ :=
  if dataType.registerCount = 1 then bytes else byteOrder.permute bytes

/-- A value that a client reads. -/
inductive Decoded
  | int (n : ℤ)
  | float (x : PyFloat)
  deriving DecidableEq

def decodeBytes (bytes : List ℕ) : DataType → Option Decoded
  | .int16 => some (.int (toInt 2 (ofBytes bytes)))
  | .uint16 => some (.int (ofBytes bytes))
  | .int32 => some (.int (toInt 4 (ofBytes bytes)))
  | .uint32 => some (.int (ofBytes bytes))
  | .float32 => some (.float (binary32.unpack (ofBytes bytes)))
  | .float64 => some (.float (binary64.unpack (ofBytes bytes)))
  | .other _ => none

def decodeValue (words : List ℕ) (dataType : DataType) (byteOrder : ByteOrder) : Option Decoded :=
  decodeBytes (dataType.permute byteOrder (ofWords words)) dataType

/-- The bytes of a value, the most significant first. -/
def bigEndianBytes (value : PyFloat) : DataType → Option (List ℕ)
  | .int16 | .uint16 => some (toBytes 2 (ofInt 2 value.trunc))
  | .int32 | .uint32 => some (toBytes 4 (ofInt 4 value.trunc))
  | .float32 => (packSingle value).toOption
  | .float64 => (packDouble value).toOption
  | .other _ => none

/-- The value as the data type has it: truncated, or the packed float. -/
def represented (value : PyFloat) : DataType → Option Decoded
  | .int16 | .uint16 | .int32 | .uint32 => some (.int value.trunc)
  | .float32 => (single value).toOption.map .float
  | .float64 => some (.float value)
  | .other _ => none

/-- What the registers of a value hold: an unsigned 16-bit one drops the higher bits. -/
def held (value : PyFloat) : DataType → Option Decoded
  | .uint16 => some (.int (value.trunc % 65536))
  | dataType => represented value dataType

/-- The words are an encoding that decodes to `decoded`. -/
structure Encodes (value : PyFloat) (dataType : DataType) (byteOrder : ByteOrder)
    (decoded : Option Decoded) (words : List ℕ) : Prop where
  length : words.length = dataType.registerCount
  range : ∀ w ∈ words, w ≤ 65535
  bytes : some (ofWords words) =
    (bigEndianBytes value dataType).map (dataType.permute byteOrder)
  decode : decodeValue words dataType byteOrder = decoded ∧ decoded.isSome

section Permute

variable {dataType : DataType} {byteOrder : ByteOrder} {raw bytes words : List ℕ}
  {value : PyFloat} {decoded : Decoded}

theorem length_permute : (byteOrder.permute bytes).length = bytes.length := by
  cases byteOrder <;> simp [ByteOrder.permute]

theorem mem_permute {b : ℕ} : b ∈ byteOrder.permute bytes ↔ b ∈ bytes := by
  cases byteOrder <;> simp [ByteOrder.permute, mem_swapPairs]

theorem permute_permute (h : Even bytes.length) :
    byteOrder.permute (byteOrder.permute bytes) = bytes := by
  cases byteOrder with
  | littleEndianWordSwap =>
    rw [ByteOrder.permute, ByteOrder.permute, reverse_swapPairs (by simpa using h),
      List.reverse_reverse, swapPairs_swapPairs]
  | _ => simp [ByteOrder.permute]

/-- Every byte order permutes the bytes as documented. -/
theorem applyByteOrder_ok (hlt : ∀ b ∈ bytes, b < 256) (heven : Even bytes.length)
    (h : applyByteOrder (toWords bytes) byteOrder = .ok words) :
    words = toWords (byteOrder.permute bytes) := by
  cases byteOrder with
  | bigEndian => exact (Except.ok.inj h).symm
  | littleEndian =>
    rw [← Except.ok.inj h, map_swapBytes_toWords hlt, reverse_toWords (by simpa using heven),
      reverse_swapPairs heven, swapPairs_swapPairs]
    rfl
  | bigEndianWordSwap => rw [← Except.ok.inj h, map_swapBytes_toWords hlt]; rfl
  | littleEndianWordSwap => rw [← Except.ok.inj h, reverse_toWords heven]; rfl
  | other name => cases h

/-- Words made of a value's bytes, in the order of the data type, encode it. -/
theorem encodes_toWords (hlt : ∀ b ∈ raw, b < 256)
    (hlength : (raw.length : ℤ) = 2 * dataType.registerCount)
    (hraw : bigEndianBytes value dataType = some raw)
    (hdecode : decodeBytes raw dataType = some decoded) :
    Encodes value dataType byteOrder (some decoded) (toWords (dataType.permute byteOrder raw)) := by
  have heven : Even raw.length := by
    rw [← Int.even_coe_nat, hlength]
    exact even_two_mul _
  have hlen : (dataType.permute byteOrder raw).length = raw.length := by
    unfold DataType.permute
    split
    · rfl
    · exact length_permute
  have hperm : ∀ b ∈ dataType.permute byteOrder raw, b < 256 := by
    unfold DataType.permute
    split
    · exact hlt
    · exact fun b hb => hlt b (mem_permute.1 hb)
  have hbytes : ofWords (toWords (dataType.permute byteOrder raw)) =
      dataType.permute byteOrder raw := ofWords_toWords hperm (hlen ▸ heven)
  constructor
  · rw [length_toWords, hlen]
    omega
  · exact fun w hw => Nat.le_of_lt_succ (toWords_lt hperm w hw)
  · rw [hbytes, hraw]
    rfl
  · have hback : dataType.permute byteOrder (dataType.permute byteOrder raw) = raw := by
      unfold DataType.permute
      split
      · rfl
      · exact permute_permute heven
    rw [decodeValue, hbytes, hback]
    exact ⟨hdecode, rfl⟩

end Permute

section Encode

variable {value : PyFloat} {dataType : DataType} {byteOrder : ByteOrder} {words : List ℕ}

theorem toInt_ok {n : ℤ} (h : value.toInt = .ok n) : n = value.trunc := by
  cases value with
  | fin neg m => exact (Except.ok.inj h).symm
  | _ => cases h

theorem ofInt_lt (w : ℕ) (n : ℤ) : ofInt w n < 256 ^ w := by
  have hpos : (0 : ℤ) < 256 ^ w := by positivity
  have hlt := Int.emod_lt_of_pos n hpos
  rw [ofInt, Int.toNat_lt (Int.emod_nonneg _ hpos.ne')]
  exact_mod_cast hlt

theorem ofBytes_ofInt (w : ℕ) (n : ℤ) : ofBytes (toBytes w (ofInt w n)) = ofInt w n := by
  rw [ofBytes_toBytes, Nat.mod_eq_of_lt (ofInt_lt w n)]

theorem ofInt_eq {w : ℕ} {n : ℤ} (hlo : 0 ≤ n) (hhi : n < 256 ^ w) : (ofInt w n : ℤ) = n := by
  rw [ofInt, Int.emod_eq_of_lt hlo hhi, Int.toNat_of_nonneg hlo]

theorem single_holds {x : PyFloat} (h : single value = .ok x) : binary32.Holds x := by
  cases value with
  | fin neg m =>
    simp only [single] at h
    split at h
    next m' hm =>
      obtain rfl := Except.ok.inj h
      exact BinaryFormat.round_round hm
    next => cases h
  | _ => cases h; trivial

theorem unpack_toBytes {f : BinaryFormat} {w : ℕ} {x : PyFloat} (hx : f.Holds x)
    (hw : 8 * w = f.exponentBits + f.fractionBits + 1) :
    f.unpack (ofBytes (toBytes w (f.pack x))) = x := by
  have hlt : f.pack x < 256 ^ w := by
    have := BinaryFormat.pack_lt hx
    rwa [← hw, pow_mul] at this
  rw [ofBytes_toBytes, Nat.mod_eq_of_lt hlt, BinaryFormat.unpack_pack hx]

theorem packSigned_ok {w : ℕ} {n : ℤ} {raw : List ℕ} (h : packSigned w n = .ok raw) :
    -256 ^ w ≤ 2 * n ∧ 2 * n < 256 ^ w ∧ raw = toBytes w (ofInt w n) := by
  unfold packSigned at h
  split at h
  next hn => exact ⟨hn.1, hn.2, (Except.ok.inj h).symm⟩
  next => cases h

theorem packUnsigned_ok {w : ℕ} {n : ℤ} {raw : List ℕ} (h : packUnsigned w n = .ok raw) :
    0 ≤ n ∧ n < 256 ^ w ∧ raw = toBytes w (ofInt w n) := by
  unfold packUnsigned at h
  split at h
  next hn => exact ⟨hn.1, hn.2, (Except.ok.inj h).symm⟩
  next => cases h

theorem toWords_two (k : ℕ) (hk : k < 65536) : toWords (toBytes 2 k) = [k] := by
  simp only [toBytes, toWords, List.cons.injEq, and_true]
  omega

/-- An encoding of one word. -/
theorem encodes_of_word {raw : List ℕ} {decoded : Decoded}
    (hcount : dataType.registerCount = 1) (hlt : ∀ b ∈ raw, b < 256)
    (hlength : (raw.length : ℤ) = 2 * dataType.registerCount)
    (hraw : bigEndianBytes value dataType = some raw)
    (hdecode : decodeBytes raw dataType = some decoded) :
    Encodes value dataType byteOrder (some decoded) (toWords raw) := by
  have hperm : dataType.permute byteOrder raw = raw := if_pos hcount
  exact hperm ▸ encodes_toWords hlt hlength hraw hdecode

/-- An encoding of several words, in the byte order that is asked for. -/
theorem encodes_of_raw {raw : List ℕ} {decoded : Decoded}
    (hcount : dataType.registerCount ≠ 1) (hlt : ∀ b ∈ raw, b < 256)
    (hlength : (raw.length : ℤ) = 2 * dataType.registerCount)
    (hraw : bigEndianBytes value dataType = some raw)
    (hdecode : decodeBytes raw dataType = some decoded)
    (h : applyByteOrder (toWords raw) byteOrder = .ok words) :
    Encodes value dataType byteOrder (some decoded) words := by
  have heven : Even raw.length := by
    rw [← Int.even_coe_nat, hlength]
    exact even_two_mul _
  have hperm : dataType.permute byteOrder raw = byteOrder.permute raw := if_neg hcount
  rw [applyByteOrder_ok hlt heven h, ← hperm]
  exact encodes_toWords hlt hlength hraw hdecode

/-- What `encode_value` returns is an encoding, which decodes to what the registers hold. -/
theorem encodeValue_encodes (hfloat : binary64.Holds value)
    (h : encodeValue value dataType byteOrder = .ok words) :
    Encodes value dataType byteOrder (held value dataType) words := by
  cases dataType with
  | int16 =>
    simp only [encodeValue, bind_ok_iff] at h
    obtain ⟨n, hn, raw, hraw, hwords⟩ := h
    obtain ⟨hlo, hhi, rfl⟩ := packSigned_ok hraw
    obtain rfl := Except.ok.inj hwords
    rw [toInt_ok hn] at *
    refine encodes_of_word rfl toBytes_lt (by simp [DataType.registerCount]) rfl ?_
    rw [decodeBytes, ofBytes_ofInt, toInt_ofInt (by decide) hlo hhi]
  | uint16 =>
    simp only [encodeValue, bind_ok_iff] at h
    obtain ⟨n, hn, hwords⟩ := h
    obtain rfl := Except.ok.inj hwords
    rw [toInt_ok hn]
    have hlt : ofInt 2 value.trunc < 65536 := ofInt_lt 2 _
    have hwords : [(value.trunc % 65536).toNat] = toWords (toBytes 2 (ofInt 2 value.trunc)) :=
      (toWords_two _ hlt).symm
    rw [hwords]
    refine encodes_of_word rfl toBytes_lt (by simp [DataType.registerCount]) rfl ?_
    rw [decodeBytes, ofBytes_ofInt]
    exact congrArg (fun k => some (Decoded.int k))
      (Int.toNat_of_nonneg (Int.emod_nonneg _ (by norm_num)))
  | int32 =>
    simp only [encodeValue, bind_ok_iff] at h
    obtain ⟨n, hn, raw, hraw, hwords⟩ := h
    obtain ⟨hlo, hhi, rfl⟩ := packSigned_ok hraw
    rw [toInt_ok hn] at *
    refine encodes_of_raw (by decide) toBytes_lt (by simp [DataType.registerCount]) rfl ?_ hwords
    rw [decodeBytes, ofBytes_ofInt, toInt_ofInt (by decide) hlo hhi]
  | uint32 =>
    simp only [encodeValue, bind_ok_iff] at h
    obtain ⟨n, hn, raw, hraw, hwords⟩ := h
    obtain ⟨hlo, hhi, rfl⟩ := packUnsigned_ok hraw
    rw [toInt_ok hn] at *
    refine encodes_of_raw (by decide) toBytes_lt (by simp [DataType.registerCount]) rfl ?_ hwords
    rw [decodeBytes, ofBytes_ofInt, ofInt_eq hlo hhi]
  | float32 =>
    simp only [encodeValue, packSingle, bind_ok_iff] at h
    obtain ⟨raw, hraw, hwords⟩ := h
    cases hx : single value with
    | error e => simp [hx, Except.map] at hraw
    | ok x =>
      simp only [hx, Except.map, Except.ok.injEq] at hraw
      subst hraw
      have hheld : held value .float32 = some (.float x) := by
        simp [held, represented, hx, Except.toOption]
      rw [hheld]
      refine encodes_of_raw (by decide) toBytes_lt (by simp [DataType.registerCount])
        (by simp [bigEndianBytes, packSingle, hx, Except.map, Except.toOption]) ?_ hwords
      rw [decodeBytes, unpack_toBytes (single_holds hx) (by decide)]
  | float64 =>
    simp only [encodeValue, packDouble, bind_ok_iff] at h
    obtain ⟨raw, hraw, hwords⟩ := h
    obtain rfl := Except.ok.inj hraw
    refine encodes_of_raw (by decide) toBytes_lt (by simp [DataType.registerCount]) rfl ?_ hwords
    rw [decodeBytes, unpack_toBytes hfloat (by decide)]
  | other name => cases h

/-- For every float, `encode_value` raises, or returns words whose bytes are the big-endian
ones in the documented order, and which decode to the truncated value or the packed float; an
unsigned 16-bit register holds the last 16 bits of the truncated value. -/
theorem encodeValue_roundTrip (value : PyFloat) (hfloat : binary64.Holds value)
    (dataType : DataType) (byteOrder : ByteOrder) :
    (∃ e, encodeValue value dataType byteOrder = .error e) ∨
      ∃ words, encodeValue value dataType byteOrder = .ok words ∧
        Encodes value dataType byteOrder (held value dataType) words := by
  cases h : encodeValue value dataType byteOrder with
  | error e => exact Or.inl ⟨e, rfl⟩
  | ok words => exact Or.inr ⟨words, rfl, encodeValue_encodes hfloat h⟩

theorem encodeValue_roundTrip_energy :
    (∃ e, encodeValue (.fin true 100000) .int32 .littleEndianWordSwap = .error e) ∨
      ∃ words, encodeValue (.fin true 100000) .int32 .littleEndianWordSwap = .ok words ∧
        Encodes (.fin true 100000) .int32 .littleEndianWordSwap
          (held (.fin true 100000) .int32) words :=
  encodeValue_roundTrip (.fin true 100000) (by decide +kernel) .int32 .littleEndianWordSwap

/-- 70000 in an unsigned 16-bit register. -/
theorem uint16_drops_bits : ¬ ∀ (value : PyFloat) (dataType : DataType) (byteOrder : ByteOrder),
    value.isFinite → binary64.Holds value →
      (∃ e, encodeValue value dataType byteOrder = .error e) ∨
        ∃ words, encodeValue value dataType byteOrder = .ok words ∧
          Encodes value dataType byteOrder (represented value dataType) words := by
  intro h
  have hwords : encodeValue (.fin false 70000) .uint16 .bigEndian = .ok [4464] := by decide +kernel
  rcases h (.fin false 70000) .uint16 .bigEndian rfl (by decide +kernel) with
    ⟨e, he⟩ | ⟨words, hw, henc⟩
  · rw [hwords] at he
    cases he
  · obtain rfl := Except.ok.inj (hwords.symm.trans hw)
    have hdecode : decodeValue [4464] .uint16 .bigEndian = represented (.fin false 70000) .uint16 :=
      henc.decode.1
    exact absurd hdecode (by decide +kernel)

end Encode

end Decode

end GhostMeter.Protocols
