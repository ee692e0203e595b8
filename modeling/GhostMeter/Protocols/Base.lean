import GhostMeter.Simulation.FaultSimulator

/-! What the protocol adapters share: register descriptors, statistics, and the template
methods of the base class. -/

namespace GhostMeter.Protocols

open GhostMeter.Lib GhostMeter.Simulation

inductive Protocol
  | modbusTcp | mqtt | snmp | opcua | bacnet
  | other (name : String)
  deriving DecidableEq

def Protocol.name : Protocol → String
  | modbusTcp => "modbus_tcp"
  | mqtt => "mqtt"
  | snmp => "snmp"
  | opcua => "opcua"
  | bacnet => "bacnet"
  | other name => name

/-- `get_supported_fault_types`, in the order of their names. -/
def Protocol.supportedFaultTypes : Protocol → List FaultType
  | mqtt => [.delay, .intermittent, .timeout]
  | _ => [.delay, .exception, .intermittent, .timeout]

inductive DataType
  | int16 | uint16 | int32 | uint32 | float32 | float64
  | other (name : String)
  deriving DecidableEq

def DataType.isKnown : DataType → Bool
  | other _ => false
  | _ => true

theorem DataType.isKnown_iff (dataType : DataType) :
    dataType.isKnown = true ↔ ∀ n, dataType ≠ .other n := by
  cases dataType <;> simp [isKnown]

inductive ByteOrder
  | bigEndian | littleEndian | bigEndianWordSwap | littleEndianWordSwap
  | other (name : String)
  deriving DecidableEq

def ByteOrder.isKnown : ByteOrder → Bool
  | other _ => false
  | _ => true

theorem ByteOrder.isKnown_iff (byteOrder : ByteOrder) :
    byteOrder.isKnown = true ↔ ∀ n, byteOrder ≠ .other n := by
  cases byteOrder <;> simp [isKnown]

structure RegisterInfo where
  address : ℤ
  functionCode : ℤ
  dataType : DataType
  byteOrder : ByteOrder
  oid : Option String := none
  name : Option String := none
  unit : Option String := none
  deriving DecidableEq

structure DeviceStats where
  requestCount : ℕ := 0
  successCount : ℕ := 0
  errorCount : ℕ := 0
  totalResponseMs : ℚ := 0

/-- An exception of an adapter. -/
inductive AdapterError
  | app (e : AppException)
  | py (e : PyError)
  deriving DecidableEq

/-- The base class over the state `α` of a subclass. -/
structure ProtocolAdapter (α : Type) where
  state : α
  deviceStats : Dict UUID DeviceStats := Dict.empty

namespace ProtocolAdapter

variable {α ε : Type}

def addDevice (doAddDevice : α → UUID → ℤ → List RegisterInfo → α × Except ε Unit)
    (a : ProtocolAdapter α) (device : UUID) (slave : ℤ) (registers : List RegisterInfo) :
    ProtocolAdapter α × Except ε Unit :=
  let stats := a.deviceStats.set device {}
  match doAddDevice a.state device slave registers with
  | (state, .ok ()) => ({ state, deviceStats := stats }, .ok ())
  | (state, .error e) => ({ state, deviceStats := stats.pop device }, .error e)

def removeDevice (doRemoveDevice : α → UUID → α) (a : ProtocolAdapter α) (device : UUID) :
    ProtocolAdapter α where
  state := doRemoveDevice a.state device
  deviceStats := a.deviceStats.pop device

/-- The same for a subclass whose teardown may raise: the statistics then stay. -/
def removeDeviceOrRaise (doRemoveDevice : α → UUID → α × Except ε Unit) (a : ProtocolAdapter α)
    (device : UUID) : ProtocolAdapter α × Except ε Unit :=
  match doRemoveDevice a.state device with
  | (state, .ok ()) => ({ state, deviceStats := a.deviceStats.pop device }, .ok ())
  | (state, .error e) => ({ a with state }, .error e)

@[simp] theorem state_removeDeviceOrRaise (doRemoveDevice : α → UUID → α × Except ε Unit)
    (a : ProtocolAdapter α) (device : UUID) :
    (a.removeDeviceOrRaise doRemoveDevice device).1.state = (doRemoveDevice a.state device).1 := by
  unfold removeDeviceOrRaise
  rcases doRemoveDevice a.state device with ⟨state, _ | _⟩ <;> rfl

theorem result_removeDeviceOrRaise (doRemoveDevice : α → UUID → α × Except ε Unit)
    (a : ProtocolAdapter α) (device : UUID) :
    (a.removeDeviceOrRaise doRemoveDevice device).2 = (doRemoveDevice a.state device).2 := by
  unfold removeDeviceOrRaise
  rcases doRemoveDevice a.state device with ⟨state, _ | _⟩ <;> rfl

@[simp] theorem state_addDevice
    (doAddDevice : α → UUID → ℤ → List RegisterInfo → α × Except ε Unit)
    (a : ProtocolAdapter α) (device : UUID) (slave : ℤ) (registers : List RegisterInfo) :
    (a.addDevice doAddDevice device slave registers).1.state =
      (doAddDevice a.state device slave registers).1 := by
  unfold addDevice
  rcases doAddDevice a.state device slave registers with ⟨state, _ | _⟩ <;> rfl

theorem result_addDevice
    (doAddDevice : α → UUID → ℤ → List RegisterInfo → α × Except ε Unit)
    (a : ProtocolAdapter α) (device : UUID) (slave : ℤ) (registers : List RegisterInfo) :
    (a.addDevice doAddDevice device slave registers).2 =
      (doAddDevice a.state device slave registers).2 := by
  unfold addDevice
  rcases doAddDevice a.state device slave registers with ⟨state, _ | _⟩ <;> rfl

/-- What a failed add does to the adapter: its statistics of the device are gone. -/
theorem addDevice_eq_self_iff
    {doAddDevice : α → UUID → ℤ → List RegisterInfo → α × Except ε Unit}
    {a : ProtocolAdapter α} {device : UUID} {slave : ℤ} {registers : List RegisterInfo} {e : ε}
    (h : (a.addDevice doAddDevice device slave registers).2 = .error e) :
    (a.addDevice doAddDevice device slave registers).1 = a ↔
      a.deviceStats device = none ∧ (doAddDevice a.state device slave registers).1 = a.state := by
  rw [result_addDevice] at h
  unfold addDevice
  rcases hadd : doAddDevice a.state device slave registers with ⟨state, _ | _⟩
  · have hpop : (a.deviceStats.set device {}).pop device = a.deviceStats.pop device := by
      rw [Dict.set, Dict.pop, Dict.pop, Function.update_idem]
    simp only [hpop]
    constructor
    · intro ha
      have hstats := congrFun (congrArg ProtocolAdapter.deviceStats ha) device
      exact ⟨hstats.symm.trans (Dict.pop_self ..), congrArg ProtocolAdapter.state ha⟩
    · rintro ⟨hstats, rfl⟩
      rw [Dict.pop_eq_self hstats]
  · rw [hadd] at h
    cases h

@[simp] theorem state_removeDevice (doRemoveDevice : α → UUID → α) (a : ProtocolAdapter α)
    (device : UUID) :
    (a.removeDevice doRemoveDevice device).state = doRemoveDevice a.state device := rfl

end ProtocolAdapter

end GhostMeter.Protocols
