import GhostMeter.Protocols.Base

/-! The protocol manager, over whatever the adapters of the protocols do. -/

namespace GhostMeter.Protocols

open GhostMeter.Lib

/-- The methods that the subclasses provide; an exception is its text. -/
structure AdapterMethods (α : Type) where
  doAddDevice : Protocol → α → UUID → ℤ → List RegisterInfo → α × Except String Unit
  doRemoveDevice : Protocol → α → UUID → α × Except String Unit
  /-- `set_device_meta` of the OPC UA and the BACnet adapter. -/
  setDeviceMeta : α → UUID → String → α

structure ProtocolManager (α : Type) where
  adapters : Dict Protocol (ProtocolAdapter α) := Dict.empty
  isRunning : Bool := false

namespace ProtocolManager

variable {α : Type} (methods : AdapterMethods α) (m : ProtocolManager α)

def getAdapter (protocol : Protocol) : Option (ProtocolAdapter α) := m.adapters protocol

def setDeviceMeta (protocol : Protocol) (device : UUID) (name : String) : ProtocolManager α :=
  match m.getAdapter protocol with
  | none => m
  | some a => { m with
      adapters := m.adapters.set protocol
        { a with state := methods.setDeviceMeta a.state device name } }

def addDevice (protocol : Protocol) (device : UUID) (slave : ℤ) (registers : List RegisterInfo) :
    ProtocolManager α × Except String Unit :=
  match m.getAdapter protocol with
  | none => (m, .error s!"Protocol adapter not registered: '{protocol.name}'")
  | some a =>
    let (a, result) := a.addDevice (methods.doAddDevice protocol) device slave registers
    ({ m with adapters := m.adapters.set protocol a }, result)

def removeDevice (protocol : Protocol) (device : UUID) :
    ProtocolManager α × Except String Unit :=
  match m.getAdapter protocol with
  | none => (m, .error s!"Protocol adapter not registered: '{protocol.name}'")
  | some a =>
    let (a, result) := a.removeDeviceOrRaise (methods.doRemoveDevice protocol) device
    ({ m with adapters := m.adapters.set protocol a }, result)

/-- The device is registered with the adapter of the protocol. -/
def Registered (m : ProtocolManager α) (protocol : Protocol) (device : UUID) : Prop :=
  ∃ a stats, m.getAdapter protocol = some a ∧ a.deviceStats device = some stats

/-- The adapter of the protocol, if it has the device, removes it without an exception. -/
def TearsDown (protocol : Protocol) (device : UUID) : Prop :=
  ∀ a, m.getAdapter protocol = some a → (a.deviceStats device).isSome →
    (methods.doRemoveDevice protocol a.state device).2 = .ok ()

section Registered

variable {methods} {m m' : ProtocolManager α} {protocol p : Protocol} {device d : UUID}
  {slave : ℤ} {registers : List RegisterInfo}

theorem registered_of_none (h : m.getAdapter protocol = none) : ¬ m.Registered protocol d := by
  rintro ⟨a, _, ha, _⟩
  simp [h] at ha

/-- One adapter is exchanged. -/
theorem registered_set {a : ProtocolAdapter α} (running : Bool) :
    Registered { adapters := m.adapters.set protocol a, isRunning := running } p d ↔
      if p = protocol then (a.deviceStats d).isSome = true else m.Registered p d := by
  simp only [Registered, getAdapter, Dict.set_apply]
  split
  next => simp [Option.isSome_iff_exists]
  next => rfl

theorem registered_iff {a : ProtocolAdapter α} (h : m.getAdapter protocol = some a) :
    m.Registered protocol d ↔ (a.deviceStats d).isSome := by
  simp [Registered, h, Option.isSome_iff_exists]

/-- Only the teardown of a registered device counts. -/
theorem registered_of_not_tearsDown (h : ¬ m.TearsDown methods protocol d) :
    m.Registered protocol d := by
  simp only [TearsDown, not_forall] at h
  obtain ⟨a, ha, hstats, -⟩ := h
  exact (registered_iff ha).2 hstats

theorem registered_setDeviceMeta (name : String) :
    (m.setDeviceMeta methods protocol device name).Registered p d ↔ m.Registered p d := by
  unfold setDeviceMeta
  cases h : m.getAdapter protocol with
  | none => rfl
  | some a =>
    rw [registered_set]
    split
    next hp => rw [hp, registered_iff h]
    next => rfl

theorem isRunning_setDeviceMeta (name : String) :
    (m.setDeviceMeta methods protocol device name).isRunning = m.isRunning := by
  unfold setDeviceMeta
  split <;> rfl

theorem isRunning_addDevice :
    (m.addDevice methods protocol device slave registers).1.isRunning = m.isRunning := by
  unfold addDevice
  split <;> rfl

theorem isRunning_removeDevice :
    (m.removeDevice methods protocol device).1.isRunning = m.isRunning := by
  unfold removeDevice
  split <;> rfl

/-- What becomes of the registrations when a device is added. -/
theorem registered_addDevice :
    (∃ e, (m.addDevice methods protocol device slave registers).2 = .error e ∧
      (¬ m.Registered protocol device → ∀ p d,
        (m.addDevice methods protocol device slave registers).1.Registered p d ↔
          m.Registered p d)) ∨
    ((m.addDevice methods protocol device slave registers).2 = .ok () ∧ ∀ p d,
      (m.addDevice methods protocol device slave registers).1.Registered p d ↔
        (p = protocol ∧ d = device) ∨ m.Registered p d) := by
  unfold addDevice
  cases h : m.getAdapter protocol with
  | none => exact Or.inl ⟨_, rfl, fun _ _ _ => Iff.rfl⟩
  | some a =>
    simp only [ProtocolAdapter.addDevice, registered_set]
    rcases methods.doAddDevice protocol a.state device slave registers with ⟨state, e | u⟩
    · refine Or.inl ⟨e, rfl, fun hno p d => ?_⟩
      split
      next hp =>
        subst hp
        rw [registered_iff h] at hno ⊢
        simp only [Dict.pop_apply, Dict.set_apply]
        split
        next hd => simpa [hd] using hno
        next => rfl
      next => rfl
    · refine Or.inr ⟨rfl, fun p d => ?_⟩
      split
      next hp =>
        subst hp
        rw [registered_iff h]
        simp only [Dict.set_apply]
        split
        next hd => simp [hd]
        next hd => simp [hd]
      next hp => simp [hp]

/-- A device that is removed stays registered if the adapter raises. -/
theorem registered_removeDevice :
    (m.removeDevice methods protocol device).1.Registered p d ↔
      m.Registered p d ∧ ¬ (p = protocol ∧ d = device ∧ m.TearsDown methods protocol device) := by
  unfold removeDevice
  cases h : m.getAdapter protocol with
  | none =>
    refine (and_iff_left_of_imp ?_).symm
    rintro hreg ⟨rfl, rfl, -⟩
    exact registered_of_none h hreg
  | some a =>
    simp only [registered_set, ProtocolAdapter.removeDeviceOrRaise, TearsDown, h,
      Option.some.injEq, forall_eq']
    rcases methods.doRemoveDevice protocol a.state device with ⟨state, e | u⟩
    · -- the statistics stay
      split
      next hp =>
        subst hp
        rw [registered_iff h]
        refine (and_iff_left_of_imp ?_).symm
        rintro hstats ⟨-, rfl, htears⟩
        cases htears hstats
      next hp => simp [hp]
    · split
      next hp =>
        subst hp
        rw [registered_iff h]
        simp only [Dict.pop_apply]
        split
        next hd => simp [hd]
        next hd => simp [hd]
      next hp => simp [hp]

end Registered

end ProtocolManager

end GhostMeter.Protocols
