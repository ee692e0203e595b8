import GhostMeter.Lib.Check
import GhostMeter.Protocols.Base
import Mathlib.Data.Finset.Basic

/-! The OPC UA adapter.  The server is the part of asyncua that the adapter relies on: a node
with a value callback serves every read from it, and a write stores the value and removes
the callback. -/

namespace GhostMeter.Protocols

open GhostMeter.Lib GhostMeter.Simulation

inductive VariantType
  | int16 | uint16 | int32 | uint32 | float | double
  deriving DecidableEq

/-- A Python number, as it is put in a variant. -/
inductive OpcNumber
  | int (n : ℤ)
  | float (x : PyFloat)
  deriving DecidableEq

structure Variant where
  value : OpcNumber
  vtype : VariantType
  deriving DecidableEq

/-- The Python types that make a node's first value out of zero. -/
inductive Caster | int | float

def Caster.zero : Caster → OpcNumber
  | int => .int 0
  | float => .float .zero

/-- `_TYPE_MAP`, with the fallback of its lookups. -/
def typeMap : DataType → VariantType × Caster
  | .int16 => (.int16, .int)
  | .uint16 => (.uint16, .int)
  | .int32 => (.int32, .int)
  | .uint32 => (.uint32, .int)
  | .float32 => (.float, .float)
  | .float64 => (.double, .float)
  | .other _ => (.double, .float)

/-- `_INT_RANGES`. -/
def VariantType.intRange : VariantType → Option (ℤ × ℤ)
  | int16 => some (-32768, 32767)
  | uint16 => some (0, 65535)
  | int32 => some (-2147483648, 2147483647)
  | uint32 => some (0, 4294967295)
  | float => none
  | double => none

/-- `_FLOAT32_MAX`. -/
def float32Max : PyFloat := .ofDecimal ⟨34028234663852886, 22⟩

/-- The value that a node of the type can hold; the guards leave only finite floats to the
conversion. -/
def coerceToRange (num : PyFloat) (vtype : VariantType) : OpcNumber :=
  match vtype.intRange with
  | some (lo, hi) =>
    if num.isNan then .int 0
    else if num.le (.exact lo) then .int lo
    else if PyFloat.le (.exact hi) num then .int hi
    else .int num.trunc
  | none =>
    if vtype = .float ∧ ¬ num.isNan then .float (float32Max.neg.max (float32Max.min num))
    else .float num

/-- The value a node starts with. -/
def VariantType.zero (vtype : VariantType) : OpcNumber :=
  if vtype.intRange.isSome then .int 0 else .float .zero

/-- `(device_id, address, function_code)`. -/
abbrev NodeKey := UUID × ℤ × ℤ

instance : LawfulBEq NodeKey := inferInstance

/-- What `_make_fault_callback` closes over. -/
structure FaultCallback where
  device : UUID
  key : NodeKey
  deriving DecidableEq

/-- A variable node of the server. -/
structure Node where
  name : String
  description : Option String
  vtype : VariantType
  value : Variant
  callback : Option FaultCallback := none

def Node.writeValue (n : Node) (v : Variant) : Node := { n with value := v, callback := none }

def Node.setValueCallback (n : Node) (cb : FaultCallback) : Node := { n with callback := some cb }

inductive StatusCode | badDeviceFailure | badTimeout | badCommunicationError
  deriving DecidableEq

inductive DataValue
  | good (v : Variant)
  | bad (status : StatusCode)
  deriving DecidableEq

structure OpcUaAdapter where
  /-- The server and the folder are there: a successful `start` sets both. -/
  started : Bool := false
  deviceObjects : Dict UUID String := Dict.empty
  nodes : Dict NodeKey Node := Dict.empty
  deviceMeta : Dict UUID String := Dict.empty
  lastValues : Dict NodeKey Variant := Dict.empty
  faulted : Finset UUID := ∅

namespace OpcUaAdapter

def start (a : OpcUaAdapter) : OpcUaAdapter := { a with started := true }

def applyFault (a : OpcUaAdapter) (device : UUID) : OpcUaAdapter :=
  if ¬ a.started ∨ device ∈ a.faulted then a
  else { a with
    nodes := fun key =>
      if key.1 = device then (a.nodes key).map (·.setValueCallback ⟨device, key⟩)
      else a.nodes key
    faulted := insert device a.faulted }

/-- The cached value of a node. -/
def lastValue (a : OpcUaAdapter) (key : NodeKey) : Variant :=
  (a.lastValues key).getD ⟨.int 0, .double⟩

def removeFault (a : OpcUaAdapter) (device : UUID) : OpcUaAdapter :=
  if device ∉ a.faulted then a
  else { a with
    nodes := fun key =>
      if key.1 = device then (a.nodes key).map (·.writeValue (a.lastValue key))
      else a.nodes key
    faulted := a.faulted.erase device }

/-- One round of the loop over the registers of a new device. -/
def addRegister (device : UUID) (a : OpcUaAdapter) (reg : RegisterInfo) : OpcUaAdapter :=
  let key : NodeKey := (device, reg.address, reg.functionCode)
  let (vtype, caster) := typeMap reg.dataType
  let name := (reg.name.filter (· ≠ "")).getD s!"reg_{reg.address}"
  { a with
    nodes := a.nodes.set key {
      name
      description := reg.unit.filter (· ≠ "")
      vtype
      value := ⟨caster.zero, vtype⟩ }
    lastValues := a.lastValues.set key ⟨caster.zero, vtype⟩ }

def displayName (a : OpcUaAdapter) (device : UUID) (slave : ℤ) : String :=
  match (a.deviceMeta device).filter (· ≠ "") with
  | some name => s!"{name} (#{slave})"
  | none => s!"Device_{slave}"

/-- The object of a device and the nodes of its registers. -/
def createNodes (a : OpcUaAdapter) (device : UUID) (slave : ℤ) (registers : List RegisterInfo) :
    OpcUaAdapter :=
  registers.foldl (addRegister device)
    { a with deviceObjects := a.deviceObjects.set device (a.displayName device slave) }

def doAddDevice (faults : FaultSimulator) (a : OpcUaAdapter) (device : UUID) (slave : ℤ)
    (registers : List RegisterInfo) : OpcUaAdapter × Except PyError Unit :=
  if ¬ a.started then (a, .error (.runtimeError "OPC UA server not started"))
  else
    let a := a.createNodes device slave registers
    let a := if (faults.getFault device).isSome then a.applyFault device else a
    (a, .ok ())

def doRemoveDevice (a : OpcUaAdapter) (device : UUID) : OpcUaAdapter where
  started := a.started
  deviceObjects := a.deviceObjects.pop device
  nodes := fun key => if key.1 = device then none else a.nodes key
  deviceMeta := a.deviceMeta.pop device
  lastValues := fun key => if key.1 = device then none else a.lastValues key
  faulted := a.faulted.erase device

def updateRegister (a : OpcUaAdapter) (device : UUID) (address functionCode : ℤ)
    (value : PyFloat) (dataType : DataType) : OpcUaAdapter :=
  let key : NodeKey := (device, address, functionCode)
  match a.nodes key with
  | none => a
  | some node =>
    let vtype := (typeMap dataType).1
    let coerced : Variant := ⟨coerceToRange value vtype, vtype⟩
    let a := { a with lastValues := a.lastValues.set key coerced }
    if device ∈ a.faulted then a
    else { a with nodes := a.nodes.set key (node.writeValue coerced) }

/-- What the fault callback of a node returns, with the drawn `random.random()`. -/
def faultCallback (faults : FaultSimulator) (a : OpcUaAdapter) (cb : FaultCallback)
    (random : PyFloat) : Except PyError DataValue :=
  let good := .ok (.good (a.lastValue cb.key))
  match faults.getFault cb.device with
  | none => good
  | some fault =>
    match fault.faultType with
    | .exception => .ok (.bad .badDeviceFailure)
    | .timeout => .ok (.bad .badTimeout)
    | .delay => good
    | .intermittent => do
      if random.lt (← getFailureRate fault.params) then return .bad .badCommunicationError
      else good
    | .other _ => good

/-- A read of a node. -/
def read (faults : FaultSimulator) (a : OpcUaAdapter) (node : Node) (random : PyFloat) :
    Except PyError DataValue :=
  match node.callback with
  | some cb => a.faultCallback faults cb random
  | none => .ok (.good node.value)

section Faults

variable (a : OpcUaAdapter) (device : UUID)

@[simp] theorem started_applyFault : (a.applyFault device).started = a.started := by
  unfold applyFault
  split <;> rfl

@[simp] theorem deviceObjects_applyFault :
    (a.applyFault device).deviceObjects = a.deviceObjects := by
  unfold applyFault
  split <;> rfl

@[simp] theorem lastValues_applyFault : (a.applyFault device).lastValues = a.lastValues := by
  unfold applyFault
  split <;> rfl

@[simp] theorem started_removeFault : (a.removeFault device).started = a.started := by
  unfold removeFault
  split <;> rfl

@[simp] theorem deviceObjects_removeFault :
    (a.removeFault device).deviceObjects = a.deviceObjects := by
  unfold removeFault
  split <;> rfl

@[simp] theorem lastValues_removeFault : (a.removeFault device).lastValues = a.lastValues := by
  unfold removeFault
  split <;> rfl

variable {a device}

theorem faulted_applyFault (h : a.started = true) :
    (a.applyFault device).faulted = insert device a.faulted := by
  unfold applyFault
  split
  next hc => exact (Finset.insert_eq_of_mem (hc.resolve_left (not_not.2 h))).symm
  next => rfl

@[simp] theorem faulted_removeFault :
    (a.removeFault device).faulted = a.faulted.erase device := by
  unfold removeFault
  split
  next hc => exact (Finset.erase_eq_of_notMem hc).symm
  next => rfl

/-- A node after `apply_fault`: only its callback may be new. -/
theorem nodes_applyFault {key : NodeKey} {node' : Node}
    (h : (a.applyFault device).nodes key = some node') :
    ∃ node, a.nodes key = some node ∧ node'.vtype = node.vtype ∧ node'.value = node.value ∧
      (node'.callback = node.callback ∨ node'.callback = some ⟨device, key⟩) ∧
      (key.1 = device → a.started = true → device ∉ a.faulted →
        node'.callback = some ⟨device, key⟩) ∧
      (key.1 ≠ device → node'.callback = node.callback) := by
  unfold applyFault at h
  split at h
  next hc =>
    refine ⟨node', h, rfl, rfl, Or.inl rfl, fun _ hs hd => ?_, fun _ => rfl⟩
    exact absurd hc (by simp [hs, hd])
  next =>
    simp only at h
    split at h
    next hkey =>
      obtain ⟨node, hnode, rfl⟩ := Option.map_eq_some_iff.1 h
      exact ⟨node, hnode, rfl, rfl, Or.inr rfl, fun _ _ _ => rfl, fun hne => absurd hkey hne⟩
    next hkey => exact ⟨node', h, rfl, rfl, Or.inl rfl, fun hk => absurd hk hkey, fun _ => rfl⟩

/-- A node after `remove_fault`: unchanged, or rewritten with its cached value. -/
theorem nodes_removeFault {key : NodeKey} {node' : Node}
    (h : (a.removeFault device).nodes key = some node') :
    ∃ node, a.nodes key = some node ∧
      if key.1 = device ∧ device ∈ a.faulted then node' = node.writeValue (a.lastValue key)
      else node' = node := by
  unfold removeFault at h
  split at h
  next hc => exact ⟨node', h, by simp [hc]⟩
  next hc =>
    simp only at h
    split at h
    next hkey =>
      obtain ⟨node, hnode, rfl⟩ := Option.map_eq_some_iff.1 h
      exact ⟨node, hnode, by simp [hkey, not_not.1 hc]⟩
    next hkey => exact ⟨node', h, by simp [hkey]⟩

theorem nodes_applyFault_eq_none_iff {key : NodeKey} :
    (a.applyFault device).nodes key = none ↔ a.nodes key = none := by
  unfold applyFault
  split
  next => rfl
  next =>
    simp only
    split
    next => exact Option.map_eq_none_iff
    next => rfl

theorem nodes_removeFault_eq_none_iff {key : NodeKey} :
    (a.removeFault device).nodes key = none ↔ a.nodes key = none := by
  unfold removeFault
  split
  next => rfl
  next =>
    simp only
    split
    next => exact Option.map_eq_none_iff
    next => rfl

theorem value_of_faultCallback {faults : FaultSimulator} {a : OpcUaAdapter} {cb : FaultCallback}
    {random : PyFloat} {v : Variant} (h : a.faultCallback faults cb random = .ok (.good v)) :
    v = a.lastValue cb.key := by
  have hgood : ∀ {r : Except PyError DataValue}, r = .ok (.good (a.lastValue cb.key)) →
      r = .ok (.good v) → v = a.lastValue cb.key := by
    rintro _ rfl heq
    exact (DataValue.good.inj (Except.ok.inj heq)).symm
  unfold faultCallback at h
  simp only at h
  split at h
  next => exact hgood rfl h
  next fault _ =>
    split at h
    next => cases h
    next => cases h
    next => exact hgood rfl h
    next =>
      obtain ⟨rate, -, h⟩ := bind_ok_iff.1 h
      split at h
      next => cases h
      next => exact hgood rfl h
    next => exact hgood rfl h

end Faults

section AddRegisters

variable {device : UUID} {a : OpcUaAdapter}

/-- The keys of the nodes that the registers of a device get. -/
def nodeKeys (device : UUID) (registers : List RegisterInfo) : List NodeKey :=
  registers.map fun reg => (device, reg.address, reg.functionCode)

theorem zero_typeMap (dataType : DataType) :
    (typeMap dataType).2.zero = (typeMap dataType).1.zero := by
  cases dataType <;> rfl

theorem addRegisters_frame (registers : List RegisterInfo) :
    (registers.foldl (addRegister device) a).started = a.started ∧
      (registers.foldl (addRegister device) a).deviceObjects = a.deviceObjects ∧
      (registers.foldl (addRegister device) a).faulted = a.faulted := by
  induction registers generalizing a with
  | nil => exact ⟨rfl, rfl, rfl⟩
  | cons reg registers ih => exact ih

/-- The nodes of the new registers start at zero, and all others stay as they were. -/
theorem addRegisters_nodes (registers : List RegisterInfo) (key : NodeKey) :
    (key ∉ nodeKeys device registers ∧
        (registers.foldl (addRegister device) a).nodes key = a.nodes key ∧
        (registers.foldl (addRegister device) a).lastValues key = a.lastValues key) ∨
      key ∈ nodeKeys device registers ∧
        ∃ node, (registers.foldl (addRegister device) a).nodes key = some node ∧
          node.callback = none ∧ node.value = ⟨node.vtype.zero, node.vtype⟩ ∧
          (registers.foldl (addRegister device) a).lastValues key = some node.value := by
  induction registers generalizing a with
  | nil => exact Or.inl ⟨by simp [nodeKeys], rfl, rfl⟩
  | cons reg registers ih =>
    rw [List.foldl_cons]
    rcases ih (a := addRegister device a reg) with ⟨hno, hnodes, hlast⟩ | ⟨hmem, hnode⟩
    · by_cases hkey : key = (device, reg.address, reg.functionCode)
      · refine Or.inr ⟨by simp [nodeKeys, hkey], ?_⟩
        rw [hnodes, hlast, hkey]
        simp [addRegister, zero_typeMap]
      · refine Or.inl ⟨?_, ?_, ?_⟩
        · simpa [nodeKeys, hkey] using hno
        · exact hnodes.trans (Dict.set_of_ne _ _ hkey)
        · exact hlast.trans (Dict.set_of_ne _ _ hkey)
    · exact Or.inr ⟨List.mem_cons_of_mem _ hmem, hnode⟩

theorem createNodes_frame (slave : ℤ) (registers : List RegisterInfo) :
    (a.createNodes device slave registers).started = a.started ∧
      (a.createNodes device slave registers).deviceObjects =
        a.deviceObjects.set device (a.displayName device slave) ∧
      (a.createNodes device slave registers).faulted = a.faulted :=
  addRegisters_frame registers

theorem createNodes_nodes (slave : ℤ) (registers : List RegisterInfo) (key : NodeKey) :
    (key ∉ nodeKeys device registers ∧
        (a.createNodes device slave registers).nodes key = a.nodes key ∧
        (a.createNodes device slave registers).lastValues key = a.lastValues key) ∨
      key ∈ nodeKeys device registers ∧
        ∃ node, (a.createNodes device slave registers).nodes key = some node ∧
          node.callback = none ∧ node.value = ⟨node.vtype.zero, node.vtype⟩ ∧
          (a.createNodes device slave registers).lastValues key = some node.value :=
  addRegisters_nodes registers key

theorem mem_nodeKeys {registers : List RegisterInfo} {key : NodeKey}
    (h : key ∈ nodeKeys device registers) : key.1 = device := by
  obtain ⟨reg, -, rfl⟩ := List.mem_map.1 h
  rfl

end AddRegisters

end OpcUaAdapter

end GhostMeter.Protocols
