import GhostMeter.Protocols.ModbusTcp
import GhostMeter.Protocols.OpcUa

/-! The registration of devices with an adapter, as the services rely on it. -/

namespace GhostMeter.Protocols

open GhostMeter.Lib GhostMeter.Simulation

/-- What a subclass does to the registration of a device: a failed add leaves no trace. -/
structure DeviceRegistry (α ε : Type) where
  doAddDevice : α → UUID → ℤ → List RegisterInfo → α × Except ε Unit
  doRemoveDevice : α → UUID → α
  registered : α → UUID → Prop
  registered_of_ok : ∀ a device slave registers,
    (doAddDevice a device slave registers).2 = .ok () →
      registered (doAddDevice a device slave registers).1 device
  not_registered_of_error : ∀ a device slave registers e, ¬ registered a device →
    (doAddDevice a device slave registers).2 = .error e →
      ¬ registered (doAddDevice a device slave registers).1 device
  not_registered_remove : ∀ a device, ¬ registered (doRemoveDevice a device) device

def modbusRegistry : DeviceRegistry ModbusTcpAdapter PyError where
  doAddDevice := ModbusTcpAdapter.doAddDevice
  doRemoveDevice := ModbusTcpAdapter.doRemoveDevice
  registered a device := (a.deviceToSlave device).isSome
  registered_of_ok a device slave registers h := by
    unfold ModbusTcpAdapter.doAddDevice at h ⊢
    cases hcontext : a.context with
    | none => simp [hcontext] at h
    | some devices =>
      by_cases hslave : (a.slaveContexts slave).isSome
      · simp [hcontext, hslave] at h
      · simp [hslave]
  not_registered_of_error a device slave registers e hno h := by
    unfold ModbusTcpAdapter.doAddDevice at h ⊢
    cases hcontext : a.context with
    | none => simpa using hno
    | some devices =>
      by_cases hslave : (a.slaveContexts slave).isSome
      · simpa [hslave] using hno
      · simp [hcontext, hslave] at h
  not_registered_remove a device := by
    unfold ModbusTcpAdapter.doRemoveDevice
    cases h : a.deviceToSlave device with
    | none => simp [h]
    | some slave => simp

def opcUaRegistry (faults : FaultSimulator) : DeviceRegistry OpcUaAdapter PyError where
  doAddDevice := OpcUaAdapter.doAddDevice faults
  doRemoveDevice := OpcUaAdapter.doRemoveDevice
  registered a device := (a.deviceObjects device).isSome
  registered_of_ok a device slave registers h := by
    unfold OpcUaAdapter.doAddDevice at h ⊢
    by_cases hstarted : a.started
    · simp only [hstarted, not_true_eq_false, if_false]
      split
      · simp [(OpcUaAdapter.createNodes_frame slave registers).2.1]
      · simp [(OpcUaAdapter.createNodes_frame slave registers).2.1]
    · simp [hstarted] at h
  not_registered_of_error a device slave registers e hno h := by
    unfold OpcUaAdapter.doAddDevice at h ⊢
    by_cases hstarted : a.started
    · simp [hstarted] at h
    · simpa [hstarted] using hno
  not_registered_remove a device := by
    simp [OpcUaAdapter.doRemoveDevice]

end GhostMeter.Protocols
