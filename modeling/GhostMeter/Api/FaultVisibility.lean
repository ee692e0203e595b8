import GhostMeter.Api.FaultRoutes
import GhostMeter.Lib.Run

/-! What clients read from the OPC UA nodes while faults are set and cleared, and devices
come and go. -/

namespace GhostMeter.Api

open GhostMeter.Lib GhostMeter.Simulation GhostMeter.Protocols

inductive FaultEvent
  | setFault (device : UUID) (data : FaultConfig)
  | clearFault (device : UUID)
  | addDevice (device : UUID) (slave : ℤ) (registers : List RegisterInfo)
  | removeDevice (device : UUID)
  | updateRegister (device : UUID) (address functionCode : ℤ) (value : PyFloat)
      (dataType : DataType)

/-- The fault state with, for every node, the last value pushed since it was added. -/
structure FaultRun extends FaultControl where
  pushed : Dict NodeKey PyFloat := Dict.empty

namespace FaultRun

/-- The adapter started and the manager running, without any device. -/
def started : FaultRun where
  isRunning := true
  opcua := { state := OpcUaAdapter.start {} }

/-- One operation.  A device is added to the adapter of its protocol, and a register is
pushed with its own data type. -/
def step (protocols : Dict UUID Protocol) (s : FaultRun) : FaultEvent → Option FaultRun
  | .setFault device data => some { s with
      toFaultControl := (s.toFaultControl.setFault protocols device data).1 }
  | .clearFault device => some { s with
      toFaultControl := (s.toFaultControl.clearFault protocols device).1 }
  | .addDevice device slave registers =>
    if protocols device = some .opcua then
      some { s with
        opcua := (s.opcua.addDevice (OpcUaAdapter.doAddDevice s.faults) device slave registers).1
        pushed := fun key =>
          if key ∈ OpcUaAdapter.nodeKeys device registers then none else s.pushed key }
    else none
  | .removeDevice device => some { s with
      opcua := s.opcua.removeDevice OpcUaAdapter.doRemoveDevice device
      pushed := fun key => if key.1 = device then none else s.pushed key }
  | .updateRegister device address functionCode value dataType =>
    match s.opcua.state.nodes (device, address, functionCode) with
    | none => some s
    | some node =>
      if (typeMap dataType).1 = node.vtype then
        some { s with
          opcua := { s.opcua with state :=
            s.opcua.state.updateRegister device address functionCode value dataType }
          pushed := s.pushed.set (device, address, functionCode) value }
      else none

/-- The last value pushed for a node, as the node can hold it, or zero. -/
def expected (s : FaultRun) (key : NodeKey) (node : Node) : Variant where
  value := (s.pushed key).elim node.vtype.zero (coerceToRange · node.vtype)
  vtype := node.vtype

/-- A fault of a registered device is seen at each of its nodes, and without one the node
shows the last value pushed. -/
def Visible (s : FaultRun) : Prop :=
  ∀ key node, (s.opcua.state.deviceObjects key.1).isSome → s.opcua.state.nodes key = some node →
    ((s.faults.getFault key.1).isSome → node.callback = some ⟨key.1, key⟩) ∧
      (s.faults.getFault key.1 = none →
        ∀ random, s.opcua.state.read s.faults node random = .ok (.good (s.expected key node)))

/-- A device with registers is not added while the adapter takes it for a faulted one. -/
def AddsUnfaulted (s : FaultRun) (e : FaultEvent) : Prop :=
  ∀ device slave registers, e = .addDevice device slave registers → registers ≠ [] →
    device ∉ s.opcua.state.faulted

/-- What every operation keeps: the adapter serves OPC UA devices, takes only devices with a
fault for faulted, and all such among the registered ones, and caches what it was pushed. -/
structure Registry (protocols : Dict UUID Protocol) (s : FaultRun) : Prop where
  running : s.isRunning = true
  started : s.opcua.state.started = true
  opcua : ∀ device, (s.opcua.state.deviceObjects device).isSome →
    protocols device = some .opcua
  registered : ∀ key, (s.opcua.state.nodes key).isSome →
    (s.opcua.state.deviceObjects key.1).isSome
  faulted : ∀ device, device ∈ s.opcua.state.faulted →
    protocols device = some .opcua ∧ (s.faults device).isSome
  known : ∀ device, (s.opcua.state.deviceObjects device).isSome → (s.faults device).isSome →
    device ∈ s.opcua.state.faulted
  cached : ∀ key node, s.opcua.state.nodes key = some node →
    s.opcua.state.lastValues key = some (s.expected key node)

/-- The invariant: the nodes of a device have its fault callback exactly while the adapter
takes it for faulted, and for a registered device it is right about that. -/
structure Inv (protocols : Dict UUID Protocol) (s : FaultRun) : Prop
    extends Registry protocols s where
  attached : ∀ key node, s.opcua.state.nodes key = some node →
    key.1 ∈ s.opcua.state.faulted → node.callback = some ⟨key.1, key⟩
  detached : ∀ key node, s.opcua.state.nodes key = some node →
    key.1 ∉ s.opcua.state.faulted → node.callback = none ∧ node.value = s.expected key node

variable {protocols : Dict UUID Protocol} {s s' : FaultRun} {e : FaultEvent}

theorem Inv.visible (h : Inv protocols s) : Visible s := by
  intro key node hreg hnode
  refine ⟨fun hfault => h.attached key node hnode (h.known _ hreg hfault), fun hnone random => ?_⟩
  have hnot : key.1 ∉ s.opcua.state.faulted := fun hmem => by
    simpa [show s.faults key.1 = none from hnone] using (h.faulted _ hmem).2
  obtain ⟨hcallback, hvalue⟩ := h.detached key node hnode hnot
  simp [OpcUaAdapter.read, hcallback, hvalue]

theorem inv_started : Inv protocols started := by
  constructor
  · constructor <;> simp [started, OpcUaAdapter.start]
  all_goals simp [started, OpcUaAdapter.start]

theorem Registry.unregistered (h : Registry protocols s) {device : UUID}
    (hopc : protocols device ≠ some .opcua) : s.opcua.state.deviceObjects device = none := by
  by_contra hreg
  exact hopc (h.opcua device (Option.isSome_iff_ne_none.2 hreg))

theorem Registry.congr (h : Registry protocols s) (hrunning : s'.isRunning = s.isRunning)
    (hfaults : s'.faults = s.faults) (hpushed : s'.pushed = s.pushed)
    (hstate : s'.opcua.state = s.opcua.state) : Registry protocols s' := by
  obtain ⟨⟨running, faults, state, stats⟩, pushed⟩ := s'
  simp only at hrunning hfaults hpushed hstate
  subst hrunning hfaults hpushed hstate
  exact { h with }

/-- Any change to the faults keeps the invariant, as long as no registered device starts or
stops having a fault behind the adapter's back. -/
theorem Registry.setFaults (h : Registry protocols s) {faults : FaultSimulator}
    (hfaulted : ∀ device ∈ s.opcua.state.faulted, (faults device).isSome)
    (hknown : ∀ device, (s.opcua.state.deviceObjects device).isSome →
      (faults device).isSome → device ∈ s.opcua.state.faulted) :
    Registry protocols { s with faults } :=
  { h with
    faulted := fun device hmem => ⟨(h.faulted device hmem).1, hfaulted device hmem⟩
    known := hknown }

theorem Registry.applyFault (h : Registry protocols s) {device : UUID}
    (hopc : protocols device = some .opcua) (data : FaultConfig) :
    Registry protocols { s with
      faults := s.faults.set device data
      opcua := { s.opcua with state := s.opcua.state.applyFault device } } := by
  have hmem := @OpcUaAdapter.faulted_applyFault _ device h.started
  constructor
  · exact h.running
  · simpa using h.started
  · simpa using h.opcua
  · intro key hkey
    obtain ⟨node', hnode'⟩ := Option.isSome_iff_exists.1 hkey
    obtain ⟨node, hnode, -⟩ := OpcUaAdapter.nodes_applyFault hnode'
    simpa using h.registered key (by simp [hnode])
  · intro device' hd
    simp only [hmem, Finset.mem_insert] at hd
    by_cases heq : device' = device
    · subst heq
      exact ⟨hopc, by simp⟩
    · simp only [Dict.set_of_ne _ _ heq]
      exact h.faulted device' (hd.resolve_left heq)
  · intro device' hreg hfault
    simp only [hmem, Finset.mem_insert]
    by_cases heq : device' = device
    · exact Or.inl heq
    · simp only [Dict.set_of_ne _ _ heq] at hfault
      exact Or.inr (h.known device' (by simpa using hreg) hfault)
  · intro key node' hnode'
    obtain ⟨node, hnode, hvtype, -⟩ := OpcUaAdapter.nodes_applyFault hnode'
    simpa [expected, hvtype] using h.cached key node hnode

theorem Registry.removeFault (h : Registry protocols s) {device : UUID} :
    Registry protocols { s with
      faults := s.faults.pop device
      opcua := { s.opcua with state := s.opcua.state.removeFault device } } := by
  constructor
  · exact h.running
  · simpa using h.started
  · simpa using h.opcua
  · intro key hkey
    obtain ⟨node', hnode'⟩ := Option.isSome_iff_exists.1 hkey
    obtain ⟨node, hnode, -⟩ := OpcUaAdapter.nodes_removeFault hnode'
    simpa using h.registered key (by simp [hnode])
  · intro device' hd
    simp only [OpcUaAdapter.faulted_removeFault, Finset.mem_erase] at hd
    simp only [Dict.pop_of_ne _ hd.1]
    exact h.faulted device' hd.2
  · intro device' hreg hfault
    by_cases heq : device' = device
    · simp [heq] at hfault
    · simp only [Dict.pop_of_ne _ heq] at hfault
      simpa [heq] using h.known device' (by simpa using hreg) hfault
  · intro key node' hnode'
    obtain ⟨node, hnode, heq⟩ := OpcUaAdapter.nodes_removeFault hnode'
    have hvtype : node'.vtype = node.vtype := by
      split at heq <;> simp [heq, Node.writeValue]
    simpa [expected, hvtype] using h.cached key node hnode

/-- What `set-fault` does: a call that is refused does nothing, and only the adapter of OPC UA
devices hears of one that is not. -/
theorem step_setFault (h : Registry protocols s) {device : UUID} {data : FaultConfig}
    (hs : s.step protocols (.setFault device data) = some s') :
    (s' = s ∧ (s.toFaultControl.setFault protocols device data).2.isOk = false) ∨
    (protocols device ≠ some .opcua ∧ s' = { s with faults := s.faults.set device data }) ∨
    protocols device = some .opcua ∧ s' = { s with
      faults := s.faults.set device data
      opcua := { s.opcua with state := s.opcua.state.applyFault device } } := by
  simp only [step, Option.some.injEq] at hs
  subst hs
  unfold FaultControl.setFault getDeviceProtocol
  cases hprotocol : protocols device with
  | none => exact Or.inl ⟨rfl, rfl⟩
  | some protocol =>
    simp only
    split
    · exact Or.inl ⟨rfl, rfl⟩
    by_cases hopc : protocol = .opcua
    · subst hopc
      refine Or.inr (Or.inr ⟨rfl, ?_⟩)
      simp [FaultControl.hook, h.running, FaultSimulator.setFault]
    · refine Or.inr (Or.inl ⟨by simpa using hopc, ?_⟩)
      simp [FaultControl.hook, hopc, FaultSimulator.setFault]

theorem step_clearFault (h : Registry protocols s) {device : UUID}
    (hs : s.step protocols (.clearFault device) = some s') :
    s' = s ∨ (protocols device ≠ some .opcua ∧ s' = { s with faults := s.faults.pop device }) ∨
    protocols device = some .opcua ∧ s' = { s with
      faults := s.faults.pop device
      opcua := { s.opcua with state := s.opcua.state.removeFault device } } := by
  simp only [step, Option.some.injEq] at hs
  subst hs
  unfold FaultControl.clearFault getDeviceProtocol
  cases hprotocol : protocols device with
  | none => exact Or.inl rfl
  | some protocol =>
    by_cases hopc : protocol = .opcua
    · subst hopc
      refine Or.inr (Or.inr ⟨rfl, ?_⟩)
      simp [FaultControl.hook, h.running, FaultSimulator.clearFault]
    · refine Or.inr (Or.inl ⟨by simpa using hopc, ?_⟩)
      simp [FaultControl.hook, hopc, FaultSimulator.clearFault]

/-- A fault on a device that the adapter does not serve. -/
theorem Registry.setFaultElsewhere (h : Registry protocols s) {device : UUID}
    (hopc : protocols device ≠ some .opcua) (data : FaultConfig) :
    Registry protocols { s with faults := s.faults.set device data } := by
  refine h.setFaults (fun device' hd => ?_) fun device' hreg hfault => ?_
  · simp only [Dict.set_apply]
    split
    · rfl
    · exact (h.faulted device' hd).2
  · have hne : device' ≠ device := by
      rintro rfl
      simp [h.unregistered hopc] at hreg
    simp only [Dict.set_of_ne _ _ hne] at hfault
    exact h.known device' hreg hfault

theorem Registry.clearFaultElsewhere (h : Registry protocols s) {device : UUID}
    (hopc : protocols device ≠ some .opcua) :
    Registry protocols { s with faults := s.faults.pop device } := by
  refine h.setFaults (fun device' hd => ?_) fun device' hreg hfault => ?_
  · have hne : device' ≠ device := by
      rintro rfl
      exact hopc (h.faulted device' hd).1
    simp only [Dict.pop_of_ne _ hne]
    exact (h.faulted device' hd).2
  · simp only [Dict.pop_apply] at hfault
    split at hfault
    · simp at hfault
    · exact h.known device' hreg hfault

/-- The nodes that are left once a device is removed. -/
theorem nodes_removeDevice {device : UUID} {key : NodeKey} {node : Node}
    (h : (OpcUaAdapter.doRemoveDevice s.opcua.state device).nodes key = some node) :
    key.1 ≠ device ∧ s.opcua.state.nodes key = some node := by
  simp only [OpcUaAdapter.doRemoveDevice] at h
  split at h
  · cases h
  next hkey => exact ⟨hkey, h⟩

theorem Registry.removeDevice (h : Registry protocols s) (device : UUID) :
    Registry protocols { s with
      opcua := s.opcua.removeDevice OpcUaAdapter.doRemoveDevice device
      pushed := fun key => if key.1 = device then none else s.pushed key } := by
  constructor
  · exact h.running
  · exact h.started
  · intro device' hreg
    simp only [ProtocolAdapter.removeDevice, OpcUaAdapter.doRemoveDevice, Dict.pop_apply] at hreg
    split at hreg
    · simp at hreg
    · exact h.opcua device' hreg
  · intro key hkey
    obtain ⟨node, hnode⟩ := Option.isSome_iff_exists.1 hkey
    obtain ⟨hne, hnode⟩ := nodes_removeDevice hnode
    simp only [ProtocolAdapter.removeDevice, OpcUaAdapter.doRemoveDevice, Dict.pop_of_ne _ hne]
    exact h.registered key (by simp [hnode])
  · intro device' hd
    exact h.faulted device' (Finset.mem_of_mem_erase hd)
  · intro device' hreg hfault
    simp only [ProtocolAdapter.removeDevice, OpcUaAdapter.doRemoveDevice, Dict.pop_apply] at hreg
    split at hreg
    · simp at hreg
    next hne => exact Finset.mem_erase.2 ⟨hne, h.known device' hreg hfault⟩
  · intro key node hnode
    obtain ⟨hne, hnode⟩ := nodes_removeDevice hnode
    simpa [OpcUaAdapter.doRemoveDevice, expected, hne] using h.cached key node hnode

theorem step_addDevice (h : Registry protocols s) {device : UUID} {slave : ℤ}
    {registers : List RegisterInfo}
    (hs : s.step protocols (.addDevice device slave registers) = some s') :
    protocols device = some .opcua ∧ s'.isRunning = s.isRunning ∧ s'.faults = s.faults ∧
      (s'.pushed = fun key =>
        if key ∈ OpcUaAdapter.nodeKeys device registers then none else s.pushed key) ∧
      s'.opcua.state =
        if (s.faults device).isSome then
          (s.opcua.state.createNodes device slave registers).applyFault device
        else s.opcua.state.createNodes device slave registers := by
  simp only [step] at hs
  split at hs
  next hopc =>
    cases hs
    refine ⟨hopc, rfl, rfl, rfl, ?_⟩
    simp only [ProtocolAdapter.state_addDevice, OpcUaAdapter.doAddDevice, h.started,
      not_true_eq_false, if_false]
    rfl
  next => cases hs

theorem Registry.createNodes (h : Registry protocols s) {device : UUID} (slave : ℤ)
    (registers : List RegisterInfo) (hopc : protocols device = some .opcua)
    {faults : FaultSimulator} (hfaulted : ∀ device ∈ s.opcua.state.faulted, (faults device).isSome)
    (hknown : ∀ device', device' = device ∨ (s.opcua.state.deviceObjects device').isSome →
      (faults device').isSome → device' ∈ s.opcua.state.faulted) :
    Registry protocols { s with
      faults
      opcua := { s.opcua with state := s.opcua.state.createNodes device slave registers }
      pushed := fun key =>
        if key ∈ OpcUaAdapter.nodeKeys device registers then none else s.pushed key } := by
  obtain ⟨hstarted, hobjects, hsame⟩ :=
    @OpcUaAdapter.createNodes_frame device s.opcua.state slave registers
  have hnodes := @OpcUaAdapter.createNodes_nodes device s.opcua.state slave registers
  constructor
  · exact h.running
  · exact hstarted.trans h.started
  · intro device' hreg
    simp only [hobjects, Dict.set_apply] at hreg
    split at hreg
    next heq => exact heq ▸ hopc
    next => exact h.opcua device' hreg
  · intro key hkey
    simp only [hobjects, Dict.set_apply]
    split
    · rfl
    next hne =>
      rcases hnodes key with ⟨-, hold, -⟩ | ⟨hmem, -⟩
      · exact h.registered key (hold ▸ hkey)
      · exact absurd (OpcUaAdapter.mem_nodeKeys hmem) hne
  · intro device' hmem
    simp only [hsame] at hmem
    exact ⟨(h.faulted device' hmem).1, hfaulted device' hmem⟩
  · intro device' hreg hfault
    simp only [hobjects, Dict.set_apply] at hreg
    simp only [hsame]
    split at hreg
    next heq => exact hknown device' (Or.inl heq) hfault
    next => exact hknown device' (Or.inr hreg) hfault
  · intro key node hnode
    rcases hnodes key with ⟨hno, hold, hlast⟩ | ⟨hmem, node', hnode', -, hvalue, hlast⟩
    · simpa [expected, hno, hlast] using h.cached key node (hold ▸ hnode)
    · obtain rfl : node' = node := Option.some.inj (hnode'.symm.trans hnode)
      simp [expected, hmem, hlast, hvalue]

/-- A device that is added while it is taken for faulted only gets its nodes. -/
theorem step_addFaulted (h : Registry protocols s) {device : UUID} {slave : ℤ}
    {registers : List RegisterInfo} (hd : device ∈ s.opcua.state.faulted)
    (hs : s.step protocols (.addDevice device slave registers) = some s') :
    s'.opcua.state = s.opcua.state.createNodes device slave registers := by
  obtain ⟨-, -, -, -, hstate⟩ := step_addDevice h hs
  obtain ⟨-, -, hsame⟩ := @OpcUaAdapter.createNodes_frame device s.opcua.state slave registers
  rw [hstate, if_pos (h.faulted device hd).2]
  simp [OpcUaAdapter.applyFault, hsame, hd]

/-- The state that `add_device` has made the nodes in, before it attaches a fault. -/
def created (s : FaultRun) (device : UUID) (slave : ℤ) (registers : List RegisterInfo) :
    FaultRun :=
  { s with
    faults := if device ∈ s.opcua.state.faulted then s.faults else s.faults.pop device
    opcua := { s.opcua with state := s.opcua.state.createNodes device slave registers }
    pushed := fun key =>
      if key ∈ OpcUaAdapter.nodeKeys device registers then none else s.pushed key }

theorem Registry.created (h : Registry protocols s) {device : UUID} (slave : ℤ)
    (registers : List RegisterInfo) (hopc : protocols device = some .opcua) :
    Registry protocols (s.created device slave registers) := by
  by_cases hd : device ∈ s.opcua.state.faulted
  · rw [FaultRun.created, if_pos hd]
    refine h.createNodes slave registers hopc (fun d hmem => (h.faulted d hmem).2) ?_
    rintro d (rfl | hreg) hfault
    · exact hd
    · exact h.known d hreg hfault
  · rw [FaultRun.created, if_neg hd]
    refine h.createNodes slave registers hopc (fun d hmem => ?_) fun d hreg hfault => ?_
    · have hne : d ≠ device := fun heq => hd (heq ▸ hmem)
      rw [Dict.pop_of_ne _ hne]
      exact (h.faulted d hmem).2
    · rw [Dict.pop_apply] at hfault
      split at hfault
      · simp at hfault
      next hne => exact h.known d (hreg.resolve_left hne) hfault

/-- An add makes the nodes, and attaches the fault of a device that is not taken for faulted. -/
theorem step_created (h : Registry protocols s) {device : UUID} {slave : ℤ}
    {registers : List RegisterInfo}
    (hs : s.step protocols (.addDevice device slave registers) = some s') :
    protocols device = some .opcua ∧ s'.isRunning = s.isRunning ∧
      (s'.faults = (s.created device slave registers).faults ∧
          s'.opcua.state = (s.created device slave registers).opcua.state ∨
        ∃ data, s'.faults = (s.created device slave registers).faults.set device data ∧
          s'.opcua.state =
            (s.created device slave registers).opcua.state.applyFault device) ∧
      s'.pushed = (s.created device slave registers).pushed := by
  obtain ⟨hopc, hrunning, hfaults, hpushed, hstate⟩ := step_addDevice h hs
  refine ⟨hopc, hrunning, ?_, hpushed⟩
  by_cases hd : device ∈ s.opcua.state.faulted
  · refine Or.inl ⟨?_, step_addFaulted h hd hs⟩
    rw [hfaults, created, if_pos hd]
  · simp only [created, if_neg hd]
    cases hfault : s.faults device with
    | none => exact Or.inl ⟨by rw [hfaults, Dict.pop_eq_self hfault], by simp [hstate, hfault]⟩
    | some data =>
      exact Or.inr ⟨data, by rw [hfaults, Dict.set_pop_self hfault], by simp [hstate, hfault]⟩

theorem Registry.addDevice (h : Registry protocols s) {device : UUID} {slave : ℤ}
    {registers : List RegisterInfo}
    (hs : s.step protocols (.addDevice device slave registers) = some s') :
    Registry protocols s' := by
  obtain ⟨hopc, hrunning, ⟨hfaults, hstate⟩ | ⟨data, hfaults, hstate⟩, hpushed⟩ :=
    step_created h hs
  · exact (h.created slave registers hopc).congr hrunning hfaults hpushed hstate
  · exact ((h.created slave registers hopc).applyFault hopc data).congr hrunning hfaults hpushed
      hstate

/-- What an update of a node does. -/
theorem step_updateRegister {device : UUID} {address functionCode : ℤ} {value : PyFloat}
    {dataType : DataType}
    (hs : s.step protocols (.updateRegister device address functionCode value dataType) =
      some s') :
    (s' = s ∧ s.opcua.state.nodes (device, address, functionCode) = none) ∨
    ∃ node, s.opcua.state.nodes (device, address, functionCode) = some node ∧
      s'.isRunning = s.isRunning ∧ s'.faults = s.faults ∧
      s'.pushed = s.pushed.set (device, address, functionCode) value ∧
      s'.opcua.state = { s.opcua.state with
        lastValues := s.opcua.state.lastValues.set (device, address, functionCode)
          ⟨coerceToRange value node.vtype, node.vtype⟩
        nodes := if device ∈ s.opcua.state.faulted then s.opcua.state.nodes
          else s.opcua.state.nodes.set (device, address, functionCode)
            (node.writeValue ⟨coerceToRange value node.vtype, node.vtype⟩) } := by
  simp only [step] at hs
  cases hnode : s.opcua.state.nodes (device, address, functionCode) with
  | none =>
    rw [hnode] at hs
    exact Or.inl ⟨(Option.some.inj hs).symm, rfl⟩
  | some node =>
    simp only [hnode] at hs
    split at hs
    next hvtype =>
      cases hs
      refine Or.inr ⟨node, rfl, rfl, rfl, rfl, ?_⟩
      simp only [OpcUaAdapter.updateRegister, hnode, hvtype]
      split <;> rfl
    next => cases hs

theorem Registry.updateRegister (h : Registry protocols s) {device : UUID}
    {address functionCode : ℤ} {value : PyFloat} {dataType : DataType}
    (hs : s.step protocols (.updateRegister device address functionCode value dataType) =
      some s') : Registry protocols s' := by
  obtain ⟨rfl, -⟩ | ⟨node, hnode, hrunning, hfaults, hpushed, hstate⟩ := step_updateRegister hs
  · exact h
  · have hold : ∀ key node', s'.opcua.state.nodes key = some node' →
        ∃ node₀, s.opcua.state.nodes key = some node₀ ∧ node'.vtype = node₀.vtype := by
      intro key node' hnode'
      rw [hstate] at hnode'
      simp only at hnode'
      split at hnode'
      next => exact ⟨node', hnode', rfl⟩
      next =>
        rw [Dict.set_apply] at hnode'
        split at hnode'
        next hkey =>
          obtain rfl := Option.some.inj hnode'
          exact ⟨node, hkey ▸ hnode, rfl⟩
        next => exact ⟨node', hnode', rfl⟩
    constructor
    · exact hrunning.trans h.running
    · rw [hstate]
      exact h.started
    · rw [hstate]
      exact h.opcua
    · intro key hkey
      obtain ⟨node', hnode'⟩ := Option.isSome_iff_exists.1 hkey
      obtain ⟨node₀, hnode₀, -⟩ := hold key node' hnode'
      rw [hstate]
      exact h.registered key (by simp [hnode₀])
    · rw [hstate, hfaults]
      exact h.faulted
    · rw [hstate, hfaults]
      exact h.known
    · intro key node' hnode'
      obtain ⟨node₀, hnode₀, hvtype⟩ := hold key node' hnode'
      have hcached := h.cached key node₀ hnode₀
      simp only [expected, hstate, hpushed, hvtype, Dict.set_apply] at hcached ⊢
      split
      next hkey =>
        obtain rfl : node = node₀ := Option.some.inj (hnode.symm.trans (hkey ▸ hnode₀))
        rfl
      next => exact hcached

theorem Registry.step (h : Registry protocols s) (hs : s.step protocols e = some s') :
    Registry protocols s' := by
  cases e with
  | setFault device data =>
    obtain ⟨rfl, -⟩ | ⟨hopc, rfl⟩ | ⟨hopc, rfl⟩ := step_setFault h hs
    · exact h
    · exact h.setFaultElsewhere hopc data
    · exact h.applyFault hopc data
  | clearFault device =>
    obtain rfl | ⟨hopc, rfl⟩ | ⟨-, rfl⟩ := step_clearFault h hs
    · exact h
    · exact h.clearFaultElsewhere hopc
    · exact h.removeFault
  | addDevice device slave registers => exact h.addDevice hs
  | removeDevice device =>
    cases hs
    exact h.removeDevice device
  | updateRegister device address functionCode value dataType => exact h.updateRegister hs

theorem Inv.applyFault (h : Inv protocols s) {device : UUID}
    (hopc : protocols device = some .opcua) (data : FaultConfig) :
    Inv protocols { s with
      faults := s.faults.set device data
      opcua := { s.opcua with state := s.opcua.state.applyFault device } } := by
  have hmem := @OpcUaAdapter.faulted_applyFault _ device h.started
  refine ⟨h.toRegistry.applyFault hopc data, ?_, ?_⟩
  · intro key node' hnode' hd
    simp only [hmem, Finset.mem_insert] at hd
    obtain ⟨node, hnode, -, -, hor, hnew, hold⟩ := OpcUaAdapter.nodes_applyFault hnode'
    by_cases hkey : key.1 = device
    · by_cases hin : device ∈ s.opcua.state.faulted
      · rcases hor with hor | hor
        · rw [hor, h.attached key node hnode (hkey ▸ hin)]
        · rw [hor, hkey]
      · rw [hnew hkey h.started hin, hkey]
    · rw [hold hkey, h.attached key node hnode (hd.resolve_left hkey)]
  · intro key node' hnode' hd
    simp only [hmem, Finset.mem_insert, not_or] at hd
    obtain ⟨node, hnode, hvtype, hvalue, -, -, hold⟩ := OpcUaAdapter.nodes_applyFault hnode'
    obtain ⟨hcallback, hval⟩ := h.detached key node hnode hd.2
    exact ⟨(hold hd.1).trans hcallback, by simpa [expected, hvtype, hvalue] using hval⟩

theorem Inv.removeFault (h : Inv protocols s) {device : UUID} :
    Inv protocols { s with
      faults := s.faults.pop device
      opcua := { s.opcua with state := s.opcua.state.removeFault device } } := by
  refine ⟨h.toRegistry.removeFault, ?_, ?_⟩
  · intro key node' hnode' hd
    simp only [OpcUaAdapter.faulted_removeFault, Finset.mem_erase] at hd
    obtain ⟨node, hnode, heq⟩ := OpcUaAdapter.nodes_removeFault hnode'
    rw [if_neg fun hc => hd.1 hc.1] at heq
    exact heq ▸ h.attached key node hnode hd.2
  · intro key node' hnode' hd
    simp only [OpcUaAdapter.faulted_removeFault, Finset.mem_erase] at hd
    obtain ⟨node, hnode, heq⟩ := OpcUaAdapter.nodes_removeFault hnode'
    split at heq
    next =>
      have hlast : s.opcua.state.lastValue key = s.expected key node := by
        simp [OpcUaAdapter.lastValue, h.cached key node hnode]
      subst heq
      exact ⟨rfl, hlast⟩
    next hc =>
      refine heq ▸ h.detached key node hnode fun hmem => ?_
      by_cases hkey : key.1 = device
      · exact hc ⟨hkey, hkey ▸ hmem⟩
      · exact hd ⟨hkey, hmem⟩

theorem Inv.removeDevice (h : Inv protocols s) (device : UUID) :
    Inv protocols { s with
      opcua := s.opcua.removeDevice OpcUaAdapter.doRemoveDevice device
      pushed := fun key => if key.1 = device then none else s.pushed key } := by
  refine ⟨h.toRegistry.removeDevice device, ?_, ?_⟩
  · intro key node hnode hd
    exact h.attached key node (nodes_removeDevice hnode).2 (Finset.mem_of_mem_erase hd)
  · intro key node hnode hd
    obtain ⟨hne, hnode⟩ := nodes_removeDevice hnode
    have hnot : key.1 ∉ s.opcua.state.faulted := fun hmem => hd (Finset.mem_erase.2 ⟨hne, hmem⟩)
    simpa [expected, hne] using h.detached key node hnode hnot

theorem Inv.congr (h : Inv protocols s) (hrunning : s'.isRunning = s.isRunning)
    (hfaults : s'.faults = s.faults) (hpushed : s'.pushed = s.pushed)
    (hstate : s'.opcua.state = s.opcua.state) : Inv protocols s' := by
  obtain ⟨⟨running, faults, state, stats⟩, pushed⟩ := s'
  simp only at hrunning hfaults hpushed hstate
  subst hrunning hfaults hpushed hstate
  exact { h with }

/-- New nodes start detached, as a device that is not taken for faulted has them. -/
theorem Inv.created (h : Inv protocols s) {device : UUID} (slave : ℤ)
    (registers : List RegisterInfo) (hopc : protocols device = some .opcua)
    (hnew : registers ≠ [] → device ∉ s.opcua.state.faulted) :
    Inv protocols (s.created device slave registers) := by
  obtain ⟨-, -, hsame⟩ :=
    @OpcUaAdapter.createNodes_frame device s.opcua.state slave registers
  have hnodes := @OpcUaAdapter.createNodes_nodes device s.opcua.state slave registers
  have hfresh : ∀ key ∈ OpcUaAdapter.nodeKeys device registers,
      key.1 ∉ s.opcua.state.faulted := by
    intro key hkey
    rw [OpcUaAdapter.mem_nodeKeys hkey]
    refine hnew ?_
    rintro rfl
    cases hkey
  refine ⟨h.toRegistry.created slave registers hopc, ?_, ?_⟩
  · intro key node hnode hmem
    simp only [FaultRun.created, hsame] at hmem
    rcases hnodes key with ⟨-, hold, -⟩ | ⟨hkey, -⟩
    · exact h.attached key node (hold ▸ hnode) hmem
    · exact absurd hmem (hfresh key hkey)
  · intro key node hnode hmem
    simp only [FaultRun.created, hsame] at hmem
    rcases hnodes key with ⟨hno, hold, -⟩ | ⟨hkey, node', hnode', hcallback, hvalue, -⟩
    · simpa [FaultRun.created, expected, hno] using h.detached key node (hold ▸ hnode) hmem
    · obtain rfl : node' = node := Option.some.inj (hnode'.symm.trans hnode)
      exact ⟨hcallback, by simp [FaultRun.created, expected, hkey, hvalue]⟩

theorem Inv.updateRegister (h : Inv protocols s) {device : UUID} {address functionCode : ℤ}
    {value : PyFloat} {dataType : DataType}
    (hs : s.step protocols (.updateRegister device address functionCode value dataType) =
      some s') : Inv protocols s' := by
  have hreg := h.toRegistry.updateRegister hs
  obtain ⟨rfl, -⟩ | ⟨node, hnode, -, -, hpushed, hstate⟩ := step_updateRegister hs
  · exact h
  refine ⟨hreg, ?_, ?_⟩
  · intro key node' hnode' hmem
    simp only [hstate] at hnode' hmem
    split at hnode'
    next => exact h.attached key node' hnode' hmem
    next hd =>
      have hkey : key ≠ (device, address, functionCode) := by
        rintro rfl
        exact hd hmem
      rw [Dict.set_of_ne _ _ hkey] at hnode'
      exact h.attached key node' hnode' hmem
  · intro key node' hnode' hn
    simp only [hstate] at hnode' hn
    by_cases hkey : key = (device, address, functionCode)
    · subst hkey
      rw [if_neg hn, Dict.set_self] at hnode'
      obtain rfl := Option.some.inj hnode'
      simp [expected, hpushed, Node.writeValue]
    · have hold : s.opcua.state.nodes key = some node' := by
        split at hnode'
        next => exact hnode'
        next => rwa [Dict.set_of_ne _ _ hkey] at hnode'
      simpa [expected, hpushed, Dict.set_of_ne _ _ hkey] using h.detached key node' hold hn

theorem Inv.step (h : Inv protocols s) (hs : s.step protocols e = some s')
    (hnew : AddsUnfaulted s e) : Inv protocols s' := by
  have hregistry := h.toRegistry.step hs
  cases e with
  | setFault device data =>
    obtain ⟨rfl, -⟩ | ⟨-, rfl⟩ | ⟨hopc, rfl⟩ := step_setFault h.toRegistry hs
    · exact h
    · exact ⟨hregistry, h.attached, h.detached⟩
    · exact h.applyFault hopc data
  | clearFault device =>
    obtain rfl | ⟨-, rfl⟩ | ⟨-, rfl⟩ := step_clearFault h.toRegistry hs
    · exact h
    · exact ⟨hregistry, h.attached, h.detached⟩
    · exact h.removeFault
  | addDevice device slave registers =>
    obtain ⟨hopc, hrunning, ⟨hfaults, hstate⟩ | ⟨data, hfaults, hstate⟩, hpushed⟩ :=
      step_created h.toRegistry hs
    · exact (h.created slave registers hopc (hnew device slave registers rfl)).congr hrunning
        hfaults hpushed hstate
    · exact ((h.created slave registers hopc (hnew device slave registers rfl)).applyFault hopc
        data).congr hrunning hfaults hpushed hstate
  | removeDevice device =>
    cases hs
    exact h.removeDevice device
  | updateRegister device address functionCode value dataType => exact h.updateRegister hs

/-- A device with registers that is added while taken for faulted hides its fault at once. -/
theorem addsUnfaulted_of_visible (h : Inv protocols s) (hs : s.step protocols e = some s')
    (hv : Visible s') : AddsUnfaulted s e := by
  rintro device slave registers rfl hne hd
  obtain ⟨-, -, hfaults, -, -⟩ := step_addDevice h.toRegistry hs
  obtain ⟨reg, hreg⟩ := List.exists_mem_of_ne_nil registers hne
  have hsome : (s.faults device).isSome := (h.faulted device hd).2
  obtain ⟨-, hobjects, -⟩ :=
    @OpcUaAdapter.createNodes_frame device s.opcua.state slave registers
  -- `apply_fault` leaves the new nodes as they are
  have hsame := step_addFaulted h.toRegistry hd hs
  have hmem : (device, reg.address, reg.functionCode) ∈ OpcUaAdapter.nodeKeys device registers :=
    List.mem_map.2 ⟨reg, hreg, rfl⟩
  obtain ⟨-, node, hnode, hcallback, -⟩ := (OpcUaAdapter.createNodes_nodes (a := s.opcua.state)
    slave registers (device, reg.address, reg.functionCode)).resolve_left fun hc => hc.1 hmem
  have hseen := (hv (device, reg.address, reg.functionCode) node (by simp [hsame, hobjects])
    (hsame ▸ hnode)).1 (by simpa [hfaults, FaultSimulator.getFault] using hsome)
  exact absurd (hcallback.symm.trans hseen) (by simp)

/-- In every run, faults are visible throughout exactly when no device with registers is ever
added while the adapter takes it for a faulted one. -/
theorem always_visible_iff (protocols : Dict UUID Protocol) (es : List FaultEvent) :
    Always (step protocols) Visible started es ↔
      EachStep (step protocols) (fun s e _ => AddsUnfaulted s e) started es := by
  rw [Always, and_iff_right (@inv_started protocols).visible]
  refine eachStep_iff (J := Inv protocols) ?_ ?_ inv_started
  · exact fun s e s' h hs hnew => h.step hs hnew
  · exact fun s e s' h hs =>
      ⟨addsUnfaulted_of_visible h hs, fun hnew => (h.step hs hnew).visible⟩

/-- A fault is set on a stopped device, which is then started. -/
def faultThenAdd : List FaultEvent := [
  .setFault 1 { faultType := .exception, params := [] },
  .addDevice 1 1 [{
    address := 0, functionCode := 3, dataType := .uint16, byteOrder := .bigEndian }]]

theorem fault_hidden :
    ¬ ∀ protocols es, Always (step protocols) Visible started es := by
  intro h
  have hv := (h (fun _ => some .opcua) faultThenAdd).of_exec rfl
  exact absurd ((hv (1, 0, 3) _ rfl rfl).1 rfl) (by simp)

end FaultRun

end GhostMeter.Api
