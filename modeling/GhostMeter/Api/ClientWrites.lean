import GhostMeter.Api.FaultVisibility
import GhostMeter.Lib.Check
import Mathlib.Data.Set.Insert

/-! Client writes to the OPC UA nodes, between the updates of the engine and the routes that set
and clear faults: who owns the value that clients read. -/

namespace GhostMeter.Protocols

/-- A write that the server accepts from a client: like any other, it removes the callback. -/
def OpcUaAdapter.clientWrite (a : OpcUaAdapter) (key : NodeKey) (v : Variant) : OpcUaAdapter :=
  { a with nodes := a.nodes.modify key (·.writeValue v) }

end GhostMeter.Protocols

namespace GhostMeter.Api

open GhostMeter.Lib GhostMeter.Simulation GhostMeter.Protocols

inductive WriteEvent
  | fault (e : FaultEvent)
  | clientWrite (key : NodeKey) (v : Variant)

/-- The fault state, with the nodes that the engine has updated since the last client write to
them, and the ones that it has updated or whose device has got a fault since then. -/
structure WriteRun extends FaultRun where
  updated : Set NodeKey := ∅
  renewed : Set NodeKey := ∅

namespace WriteRun

/-- The event updates the node. -/
def Updates : FaultEvent → NodeKey → Prop
  | .updateRegister device address functionCode _ _, key => key = (device, address, functionCode)
  | _, _ => False

/-- The event updates the node, or sets a fault on its device. -/
def Renews (protocols : Dict UUID Protocol) (s : WriteRun) : FaultEvent → NodeKey → Prop
  | .setFault device data, key =>
    key.1 = device ∧ (s.toFaultControl.setFault protocols device data).2.isOk
  | e, key => Updates e key

/-- The nodes that the event makes. -/
def creates : FaultEvent → List NodeKey
  | .addDevice device _ registers => OpcUaAdapter.nodeKeys device registers
  | _ => []

/-- A client write is accepted at a node of its own type. -/
def step (protocols : Dict UUID Protocol) (s : WriteRun) : WriteEvent → Option WriteRun
  | .fault e => (s.toFaultRun.step protocols e).map fun r => {
      toFaultRun := r
      updated := {key | (key ∈ s.updated ∨ Updates e key) ∧ key ∉ creates e}
      renewed := {key | (key ∈ s.renewed ∨ Renews protocols s e key) ∧ key ∉ creates e} }
  | .clientWrite key v =>
    match s.opcua.state.nodes key with
    | none => none
    | some node =>
      if v.vtype = node.vtype then
        some { s with
          opcua := { s.opcua with state := s.opcua.state.clientWrite key v }
          updated := s.updated \ {key}
          renewed := s.renewed \ {key} }
      else none

def started : WriteRun where
  toFaultRun := FaultRun.started

/-- Once the engine has updated a node after a client write to it, reads give the value that the
engine has pushed; while its device has a fault, a node that was renewed after the last client
write is read through its callback. -/
def EngineOwns (s : WriteRun) : Prop :=
  ∀ key node, s.opcua.state.nodes key = some node →
    (key ∈ s.updated → ∀ random v,
      s.opcua.state.read s.faults node random = .ok (.good v) → v = s.expected key node) ∧
    (key ∈ s.renewed → (s.faults.getFault key.1).isSome → node.callback = some ⟨key.1, key⟩)

/-- A node of a device that the adapter takes for faulted has no callback. -/
def Displaced (s : WriteRun) (key : NodeKey) : Prop :=
  key.1 ∈ s.opcua.state.faulted ∧
    ∃ node, s.opcua.state.nodes key = some node ∧ node.callback = none

/-- No update, and no fault that is set, comes to a node that is displaced. -/
def Undisplaced (protocols : Dict UUID Protocol) (s : WriteRun) (e : WriteEvent) : Prop :=
  ∀ fe, e = .fault fe → ∀ key, Renews protocols s fe key → ¬ s.Displaced key

/-- The invariant: a renewed node has its callback exactly while the adapter takes its device for
faulted, and an updated one holds what was pushed whenever it has none. -/
structure Inv (protocols : Dict UUID Protocol) (s : WriteRun) : Prop
    extends FaultRun.Registry protocols s.toFaultRun where
  updated_renewed : s.updated ⊆ s.renewed
  callback : ∀ key node cb, s.opcua.state.nodes key = some node → node.callback = some cb →
    cb = ⟨key.1, key⟩ ∧ key.1 ∈ s.opcua.state.faulted
  attached : ∀ key node, s.opcua.state.nodes key = some node → key.1 ∈ s.opcua.state.faulted →
    key ∈ s.renewed → node.callback = some ⟨key.1, key⟩
  detached : ∀ key node, s.opcua.state.nodes key = some node → key.1 ∉ s.opcua.state.faulted →
    key ∈ s.updated → node.value = s.expected key node

variable {protocols : Dict UUID Protocol} {s s' : WriteRun} {e : WriteEvent}

theorem Inv.engineOwns (h : Inv protocols s) : EngineOwns s := by
  intro key node hnode
  constructor
  · intro hupdated random v hread
    cases hcallback : node.callback with
    | some cb =>
      obtain ⟨rfl, -⟩ := h.callback key node cb hnode hcallback
      simp only [OpcUaAdapter.read, hcallback] at hread
      rw [OpcUaAdapter.value_of_faultCallback hread, OpcUaAdapter.lastValue,
        h.cached key node hnode, Option.getD_some]
    | none =>
      have hnot : key.1 ∉ s.opcua.state.faulted := fun hmem => by
        have hattached := h.attached key node hnode hmem (h.updated_renewed hupdated)
        rw [hcallback] at hattached
        cases hattached
      simp only [OpcUaAdapter.read, hcallback] at hread
      rw [← DataValue.good.inj (Except.ok.inj hread)]
      exact h.detached key node hnode hnot hupdated
  · intro hrenewed hfault
    have hreg := h.registered key (by simp [hnode])
    exact h.attached key node hnode (h.known key.1 hreg hfault) hrenewed

theorem inv_started : Inv protocols started := by
  refine ⟨FaultRun.inv_started.toRegistry, ?_, ?_, ?_, ?_⟩
  all_goals simp [started, FaultRun.started, OpcUaAdapter.start]

theorem Inv.congr (h : Inv protocols s) (hrunning : s'.isRunning = s.isRunning)
    (hfaults : s'.faults = s.faults) (hpushed : s'.pushed = s.pushed)
    (hstate : s'.opcua.state = s.opcua.state) (hupdated : s'.updated = s.updated)
    (hrenewed : s'.renewed = s.renewed) : Inv protocols s' := by
  obtain ⟨⟨⟨running, faults, state, stats⟩, pushed⟩, updated, renewed⟩ := s'
  simp only at hrunning hfaults hpushed hstate hupdated hrenewed
  subst hrunning hfaults hpushed hstate hupdated hrenewed
  exact { h with }

section Faults

variable {device : UUID}

/-- A fault elsewhere: the adapter does not hear of it. -/
theorem Inv.setFaults (h : Inv protocols s) {faults : FaultSimulator} {renewed : Set NodeKey}
    (hregistry : FaultRun.Registry protocols { s.toFaultRun with faults })
    (hopc : protocols device ≠ some .opcua) (hsub : s.renewed ⊆ renewed)
    (hnew : ∀ key ∈ renewed, key ∈ s.renewed ∨ key.1 = device) :
    Inv protocols { s with faults, renewed } := by
  refine ⟨hregistry, h.updated_renewed.trans hsub, h.callback, ?_, h.detached⟩
  intro key node hnode hmem hrenewed
  refine h.attached key node hnode hmem ((hnew key hrenewed).resolve_right ?_)
  rintro rfl
  exact hopc (h.faulted _ hmem).1

theorem Inv.applyFault (h : Inv protocols s) (hopc : protocols device = some .opcua)
    (data : FaultConfig) {renewed : Set NodeKey} (hsub : s.renewed ⊆ renewed)
    (hnew : ∀ key ∈ renewed, key ∈ s.renewed ∨ key.1 = device ∧ ¬ s.Displaced key) :
    Inv protocols { s with
      faults := s.faults.set device data
      opcua := { s.opcua with state := s.opcua.state.applyFault device }
      renewed } := by
  have hmem := @OpcUaAdapter.faulted_applyFault _ device h.started
  refine ⟨h.toRegistry.applyFault hopc data, h.updated_renewed.trans hsub, ?_, ?_, ?_⟩
  · intro key node' cb hnode' hcb
    simp only [hmem, Finset.mem_insert]
    obtain ⟨node, hnode, -, -, hor, -, hold⟩ := OpcUaAdapter.nodes_applyFault hnode'
    by_cases hkey : key.1 = device
    · rcases hor with hsame | hset
      · obtain ⟨hown, -⟩ := h.callback key node cb hnode (hsame.symm.trans hcb)
        exact ⟨hown, Or.inl hkey⟩
      · rw [hset] at hcb
        exact ⟨hkey ▸ (Option.some.inj hcb).symm, Or.inl hkey⟩
    · obtain ⟨hown, hin⟩ := h.callback key node cb hnode ((hold hkey).symm.trans hcb)
      exact ⟨hown, Or.inr hin⟩
  · intro key node' hnode' hin hrenewed
    simp only [hmem, Finset.mem_insert] at hin
    obtain ⟨node, hnode, -, -, hor, hset, hold⟩ := OpcUaAdapter.nodes_applyFault hnode'
    by_cases hkey : key.1 = device
    · by_cases hfaulted : device ∈ s.opcua.state.faulted
      · rcases hor with hsame | hset
        · rw [hsame]
          rcases hnew key hrenewed with hold | ⟨-, hdisplaced⟩
          · exact h.attached key node hnode (hkey ▸ hfaulted) hold
          · cases hcallback : node.callback with
            | none => exact absurd ⟨hkey ▸ hfaulted, node, hnode, hcallback⟩ hdisplaced
            | some cb => rw [(h.callback key node cb hnode hcallback).1]
        · rw [hset, hkey]
      · rw [hset hkey h.started hfaulted, hkey]
    · rw [hold hkey]
      exact h.attached key node hnode (hin.resolve_left hkey)
        ((hnew key hrenewed).resolve_right fun hd => hkey hd.1)
  · intro key node' hnode' hin hupdated
    simp only [hmem, Finset.mem_insert, not_or] at hin
    obtain ⟨node, hnode, hvtype, hvalue, -, -, -⟩ := OpcUaAdapter.nodes_applyFault hnode'
    simpa [FaultRun.expected, hvtype, hvalue] using h.detached key node hnode hin.2 hupdated

theorem Inv.removeFault (h : Inv protocols s) :
    Inv protocols { s with
      faults := s.faults.pop device
      opcua := { s.opcua with state := s.opcua.state.removeFault device } } := by
  refine ⟨h.toRegistry.removeFault, h.updated_renewed, ?_, ?_, ?_⟩
  · intro key node' cb hnode' hcb
    simp only [OpcUaAdapter.faulted_removeFault, Finset.mem_erase]
    obtain ⟨node, hnode, heq⟩ := OpcUaAdapter.nodes_removeFault hnode'
    split at heq
    next =>
      rw [heq] at hcb
      cases hcb
    next hc =>
      obtain ⟨hown, hin⟩ := h.callback key node cb hnode (heq ▸ hcb)
      exact ⟨hown, fun hkey => hc ⟨hkey, hkey ▸ hin⟩, hin⟩
  · intro key node' hnode' hin hrenewed
    simp only [OpcUaAdapter.faulted_removeFault, Finset.mem_erase] at hin
    obtain ⟨node, hnode, heq⟩ := OpcUaAdapter.nodes_removeFault hnode'
    rw [if_neg fun hc => hin.1 hc.1] at heq
    exact heq ▸ h.attached key node hnode hin.2 hrenewed
  · intro key node' hnode' hin hupdated
    simp only [OpcUaAdapter.faulted_removeFault, Finset.mem_erase] at hin
    obtain ⟨node, hnode, heq⟩ := OpcUaAdapter.nodes_removeFault hnode'
    split at heq
    next =>
      have hlast : s.opcua.state.lastValue key = s.expected key node := by
        simp [OpcUaAdapter.lastValue, h.cached key node hnode]
      subst heq
      exact hlast
    next hc =>
      refine heq ▸ h.detached key node hnode (fun hmem => ?_) hupdated
      by_cases hkey : key.1 = device
      · exact hc ⟨hkey, hkey ▸ hmem⟩
      · exact hin ⟨hkey, hmem⟩

theorem Inv.removeDevice (h : Inv protocols s) (device : UUID) :
    Inv protocols { s with
      opcua := s.opcua.removeDevice OpcUaAdapter.doRemoveDevice device
      pushed := fun key => if key.1 = device then none else s.pushed key } := by
  refine ⟨h.toRegistry.removeDevice device, h.updated_renewed, ?_, ?_, ?_⟩
  · intro key node cb hnode hcb
    obtain ⟨hne, hnode⟩ := FaultRun.nodes_removeDevice hnode
    obtain ⟨hown, hin⟩ := h.callback key node cb hnode hcb
    exact ⟨hown, Finset.mem_erase.2 ⟨hne, hin⟩⟩
  · intro key node hnode hin
    exact h.attached key node (FaultRun.nodes_removeDevice hnode).2 (Finset.mem_of_mem_erase hin)
  · intro key node hnode hin hupdated
    obtain ⟨hne, hnode⟩ := FaultRun.nodes_removeDevice hnode
    have hnot : key.1 ∉ s.opcua.state.faulted := fun hmem => hin (Finset.mem_erase.2 ⟨hne, hmem⟩)
    simpa [FaultRun.expected, hne] using h.detached key node hnode hnot hupdated

theorem Inv.created (h : Inv protocols s) (slave : ℤ) (registers : List RegisterInfo)
    (hopc : protocols device = some .opcua) {updated renewed : Set NodeKey}
    (hupdated : ∀ key ∈ updated, key ∈ s.updated ∧ key ∉ OpcUaAdapter.nodeKeys device registers)
    (hrenewed : ∀ key ∈ renewed, key ∈ s.renewed ∧ key ∉ OpcUaAdapter.nodeKeys device registers)
    (hsub : updated ⊆ renewed) :
    Inv protocols { s with
      toFaultRun := s.toFaultRun.created device slave registers, updated, renewed } := by
  obtain ⟨-, -, hsame⟩ := @OpcUaAdapter.createNodes_frame device s.opcua.state slave registers
  have hnodes := @OpcUaAdapter.createNodes_nodes device s.opcua.state slave registers
  refine ⟨h.toRegistry.created slave registers hopc, hsub, ?_, ?_, ?_⟩
  · intro key node cb hnode hcb
    simp only [FaultRun.created, hsame]
    rcases hnodes key with ⟨-, hold, -⟩ | ⟨-, node', hnode', hcallback, -⟩
    · exact h.callback key node cb (hold ▸ hnode) hcb
    · obtain rfl : node' = node := Option.some.inj (hnode'.symm.trans hnode)
      cases hcallback.symm.trans hcb
  · intro key node hnode hin hmem
    simp only [FaultRun.created, hsame] at hin
    obtain ⟨hold, hno⟩ := hrenewed key hmem
    rcases hnodes key with ⟨-, hnode', -⟩ | ⟨hkey, -⟩
    · exact h.attached key node (hnode' ▸ hnode) hin hold
    · exact absurd hkey hno
  · intro key node hnode hin hmem
    simp only [FaultRun.created, hsame] at hin
    obtain ⟨hold, hno⟩ := hupdated key hmem
    rcases hnodes key with ⟨-, hnode', -⟩ | ⟨hkey, -⟩
    · simpa [FaultRun.created, FaultRun.expected, hno] using
        h.detached key node (hnode' ▸ hnode) hin hold
    · exact absurd hkey hno

end Faults

section Writes

/-- The nodes after a client write: it has made the one that it is about its own. -/
theorem nodes_clientWrite {a : OpcUaAdapter} {key key' : NodeKey} {v : Variant} {node' : Node}
    (h : (a.clientWrite key v).nodes key' = some node') :
    ∃ node, a.nodes key' = some node ∧
      if key' = key then node' = node.writeValue v else node' = node := by
  simp only [OpcUaAdapter.clientWrite, Dict.modify_apply] at h
  split at h
  next hkey =>
    obtain ⟨node, hnode, rfl⟩ := Option.map_eq_some_iff.1 h
    exact ⟨node, hkey ▸ hnode, by simp [hkey]⟩
  next hkey => exact ⟨node', h, by simp [hkey]⟩

theorem Inv.clientWrite (h : Inv protocols s) (key : NodeKey) (v : Variant) :
    Inv protocols { s with
      opcua := { s.opcua with state := s.opcua.state.clientWrite key v }
      updated := s.updated \ {key}
      renewed := s.renewed \ {key} } := by
  refine ⟨⟨h.running, h.started, h.opcua, ?_, h.faulted, h.known, ?_⟩,
    Set.sdiff_subset_sdiff_left h.updated_renewed, ?_, ?_, ?_⟩
  · intro key' hkey'
    obtain ⟨node', hnode'⟩ := Option.isSome_iff_exists.1 hkey'
    obtain ⟨node, hnode, -⟩ := nodes_clientWrite hnode'
    exact h.registered key' (by simp [hnode])
  · intro key' node' hnode'
    obtain ⟨node, hnode, heq⟩ := nodes_clientWrite hnode'
    have hvtype : node'.vtype = node.vtype := by
      split at heq <;> simp [heq, Node.writeValue]
    simpa [OpcUaAdapter.clientWrite, FaultRun.expected, hvtype] using h.cached key' node hnode
  · intro key' node' cb hnode' hcb
    obtain ⟨node, hnode, heq⟩ := nodes_clientWrite hnode'
    split at heq
    next =>
      rw [heq] at hcb
      cases hcb
    next => exact h.callback key' node cb hnode (heq ▸ hcb)
  · intro key' node' hnode' hin hrenewed
    obtain ⟨node, hnode, heq⟩ := nodes_clientWrite hnode'
    rw [if_neg (Set.mem_singleton_iff.not.1 hrenewed.2)] at heq
    exact heq ▸ h.attached key' node hnode hin hrenewed.1
  · intro key' node' hnode' hin hupdated
    obtain ⟨node, hnode, heq⟩ := nodes_clientWrite hnode'
    rw [if_neg (Set.mem_singleton_iff.not.1 hupdated.2)] at heq
    exact heq ▸ h.detached key' node hnode hin hupdated.1

theorem Inv.updateRegister (h : Inv protocols s) {r : FaultRun} {device : UUID}
    {address functionCode : ℤ} {value : PyFloat} {dataType : DataType}
    (hs : s.toFaultRun.step protocols
      (.updateRegister device address functionCode value dataType) = some r)
    (hdisplaced : ¬ s.Displaced (device, address, functionCode)) :
    Inv protocols { s with
      toFaultRun := r
      updated := insert (device, address, functionCode) s.updated
      renewed := insert (device, address, functionCode) s.renewed } := by
  have hregistry := h.toRegistry.updateRegister hs
  have hsub := Set.insert_subset_insert (a := (device, address, functionCode)) h.updated_renewed
  obtain ⟨rfl, hnone⟩ | ⟨node, hnode, -, -, hpushed, hstate⟩ := FaultRun.step_updateRegister hs
  · refine ⟨hregistry, hsub, h.callback, ?_, ?_⟩
    · intro key node hnode hin hrenewed
      refine h.attached key node hnode hin (hrenewed.resolve_left ?_)
      rintro rfl
      cases hnone.symm.trans hnode
    · intro key node hnode hin hupdated
      refine h.detached key node hnode hin (hupdated.resolve_left ?_)
      rintro rfl
      cases hnone.symm.trans hnode
  · -- the node itself keeps its callback, or gets the value
    have hcases : ∀ key node', r.opcua.state.nodes key = some node' →
        key ≠ (device, address, functionCode) ∧ s.opcua.state.nodes key = some node' ∨
        key = (device, address, functionCode) ∧
          (device ∈ s.opcua.state.faulted ∧ node' = node ∨
            device ∉ s.opcua.state.faulted ∧
              node' = node.writeValue ⟨coerceToRange value node.vtype, node.vtype⟩) := by
      intro key node' hnode'
      simp only [hstate] at hnode'
      by_cases hkey : key = (device, address, functionCode)
      · subst hkey
        refine Or.inr ⟨rfl, ?_⟩
        split at hnode'
        next hd => exact Or.inl ⟨hd, Option.some.inj (hnode'.symm.trans hnode)⟩
        next hd =>
          rw [Dict.set_self] at hnode'
          exact Or.inr ⟨hd, (Option.some.inj hnode').symm⟩
      · refine Or.inl ⟨hkey, ?_⟩
        split at hnode'
        next => exact hnode'
        next => rwa [Dict.set_of_ne _ _ hkey] at hnode'
    refine ⟨hregistry, hsub, ?_, ?_, ?_⟩
    · intro key node' cb hnode' hcb
      simp only [hstate]
      rcases hcases key node' hnode' with ⟨-, hold⟩ | ⟨rfl, ⟨-, rfl⟩ | ⟨-, rfl⟩⟩
      · exact h.callback key node' cb hold hcb
      · exact h.callback _ node' cb hnode hcb
      · cases hcb
    · intro key node' hnode' hin hrenewed
      simp only [hstate] at hin
      rcases hcases key node' hnode' with ⟨hne, hold⟩ | ⟨rfl, ⟨hd, rfl⟩ | ⟨hd, rfl⟩⟩
      · exact h.attached key node' hold hin (hrenewed.resolve_left hne)
      · cases hcallback : node'.callback with
        | none => exact absurd ⟨hd, node', hnode, hcallback⟩ hdisplaced
        | some cb => rw [(h.callback _ node' cb hnode hcallback).1]
      · exact absurd hin hd
    · intro key node' hnode' hin hupdated
      simp only [hstate] at hin
      rcases hcases key node' hnode' with ⟨hne, hold⟩ | ⟨rfl, ⟨hd, rfl⟩ | ⟨hd, rfl⟩⟩
      · simpa [FaultRun.expected, hpushed, Dict.set_of_ne _ _ hne] using
          h.detached key node' hold hin (hupdated.resolve_left hne)
      · exact absurd hd hin
      · simp [FaultRun.expected, hpushed, Node.writeValue]

end Writes

theorem Inv.step (h : Inv protocols s) (hs : s.step protocols e = some s')
    (hguard : Undisplaced protocols s e) : Inv protocols s' := by
  cases e with
  | clientWrite key v =>
    simp only [WriteRun.step] at hs
    split at hs
    next => cases hs
    next node _ =>
      split at hs
      next =>
        cases hs
        exact h.clientWrite key v
      next => cases hs
  | fault e =>
    obtain ⟨r, hr, rfl⟩ := Option.map_eq_some_iff.1 hs
    have hguard := hguard e rfl
    have hsub : {key | (key ∈ s.updated ∨ Updates e key) ∧ key ∉ creates e} ⊆
        {key | (key ∈ s.renewed ∨ Renews protocols s e key) ∧ key ∉ creates e} := by
      refine fun key hkey => ⟨hkey.1.imp (fun hm => h.updated_renewed hm) fun hu => ?_, hkey.2⟩
      cases e <;> first | exact hu | exact hu.elim
    cases e with
    | setFault device data =>
      have hupdated : {key | (key ∈ s.updated ∨ Updates (.setFault device data) key) ∧
          key ∉ creates (.setFault device data)} = s.updated := by
        simp [Updates, creates]
      rw [hupdated] at hsub ⊢
      obtain ⟨rfl, hok⟩ | ⟨hopc, rfl⟩ | ⟨hopc, rfl⟩ := FaultRun.step_setFault h.toRegistry hr
      · refine h.congr rfl rfl rfl rfl rfl ?_
        simp [Renews, creates, hok]
      · refine h.setFaults (h.toRegistry.setFaultElsewhere hopc data) hopc ?_ ?_
        · exact fun key hkey => ⟨Or.inl hkey, by simp [creates]⟩
        · exact fun key hkey => hkey.1.imp_right And.left
      · refine h.applyFault hopc data ?_ ?_
        · exact fun key hkey => ⟨Or.inl hkey, by simp [creates]⟩
        · exact fun key hkey => hkey.1.imp_right fun hr => ⟨hr.1, hguard key hr⟩
    | clearFault device =>
      have hupdated : {key | (key ∈ s.updated ∨ Updates (.clearFault device) key) ∧
          key ∉ creates (.clearFault device)} = s.updated := by
        simp [Updates, creates]
      have hrenewed : {key | (key ∈ s.renewed ∨ Renews protocols s (.clearFault device) key) ∧
          key ∉ creates (.clearFault device)} = s.renewed := by
        simp [Renews, Updates, creates]
      rw [hupdated, hrenewed]
      obtain rfl | ⟨hopc, rfl⟩ | ⟨-, rfl⟩ := FaultRun.step_clearFault h.toRegistry hr
      · exact h
      · exact h.setFaults (h.toRegistry.clearFaultElsewhere hopc) hopc subset_rfl fun _ => Or.inl
      · exact h.removeFault
    | addDevice device slave registers =>
      obtain ⟨hopc, hrunning, hcases, hpushed⟩ := FaultRun.step_created h.toRegistry hr
      have hcreated := h.created slave registers hopc
        (fun key hkey => ⟨hkey.1.resolve_right id, hkey.2⟩)
        (fun key hkey => ⟨hkey.1.resolve_right id, hkey.2⟩) hsub
      obtain ⟨hfaults, hstate⟩ | ⟨data, hfaults, hstate⟩ := hcases
      · exact hcreated.congr hrunning hfaults hpushed hstate rfl rfl
      · exact (hcreated.applyFault hopc data subset_rfl fun _ => Or.inl).congr hrunning hfaults
          hpushed hstate rfl rfl
    | removeDevice device =>
      have hupdated : {key | (key ∈ s.updated ∨ Updates (.removeDevice device) key) ∧
          key ∉ creates (.removeDevice device)} = s.updated := by
        simp [Updates, creates]
      have hrenewed : {key | (key ∈ s.renewed ∨ Renews protocols s (.removeDevice device) key) ∧
          key ∉ creates (.removeDevice device)} = s.renewed := by
        simp [Renews, Updates, creates]
      rw [hupdated, hrenewed]
      cases hr
      exact h.removeDevice device
    | updateRegister device address functionCode value dataType =>
      have hkeys : ∀ keys : Set NodeKey,
          {key | (key ∈ keys ∨ key = (device, address, functionCode)) ∧
            key ∉ ([] : List NodeKey)} = insert (device, address, functionCode) keys := by
        intro keys
        ext key
        simp [or_comm]
      have hinv := h.updateRegister hr (hguard _ rfl)
      rw [← hkeys, ← hkeys] at hinv
      exact hinv

/-- An update or a fault that comes to a displaced node leaves it displaced. -/
theorem undisplaced_of_engineOwns (h : Inv protocols s) (hs : s.step protocols e = some s')
    (howns : EngineOwns s') : Undisplaced protocols s e := by
  rintro e rfl key hrenews ⟨hd, node, hnode, hcallback⟩
  obtain ⟨r, hr, rfl⟩ := Option.map_eq_some_iff.1 hs
  have hfault : (s.faults key.1).isSome := (h.faulted key.1 hd).2
  -- the node is as it was, and so is what the adapter holds of its device
  have hseen : r.opcua.state.nodes key = some node ∧ (r.faults key.1).isSome ∧
      key ∉ creates e := by
    cases e with
    | setFault device data =>
      obtain ⟨rfl, -⟩ := hrenews
      obtain ⟨rfl, -⟩ | ⟨hopc, rfl⟩ | ⟨hopc, rfl⟩ := FaultRun.step_setFault h.toRegistry hr
      · exact ⟨hnode, hfault, by simp [creates]⟩
      · exact absurd (h.faulted _ hd).1 hopc
      · refine ⟨?_, by simp, by simp [creates]⟩
        rw [OpcUaAdapter.applyFault, if_pos (Or.inr hd)]
        exact hnode
    | updateRegister device address functionCode value dataType =>
      obtain rfl : key = (device, address, functionCode) := hrenews
      obtain ⟨rfl, -⟩ | ⟨node', hnode', -, hfaults, -, hstate⟩ :=
        FaultRun.step_updateRegister hr
      · exact ⟨hnode, hfault, by simp [creates]⟩
      · refine ⟨?_, hfaults ▸ hfault, by simp [creates]⟩
        simp only [hstate]
        rw [if_pos hd]
        exact hnode
    | _ => exact hrenews.elim
  have hattached := (howns key node hseen.1).2 ⟨Or.inr hrenews, hseen.2.2⟩ hseen.2.1
  rw [hcallback] at hattached
  cases hattached

/-- In every run, the engine owns its values throughout exactly when no update and no fault that
is set comes to a node that a client write has displaced. -/
theorem always_engineOwns_iff (protocols : Dict UUID Protocol) (es : List WriteEvent) :
    Always (step protocols) EngineOwns started es ↔
      EachStep (step protocols) (fun s e _ => Undisplaced protocols s e) started es := by
  rw [Always, and_iff_right (@inv_started protocols).engineOwns]
  refine eachStep_iff (J := Inv protocols) ?_ ?_ inv_started
  · exact fun s e s' h hs hguard => h.step hs hguard
  · exact fun s e s' h hs =>
      ⟨undisplaced_of_engineOwns h hs, fun hguard => (h.step hs hguard).engineOwns⟩

/-- A client writes to a node of a faulted device, and the engine updates the node. -/
def writeWhileFaulted : List WriteEvent := [
  .fault (.addDevice 1 1 [{
    address := 0, functionCode := 3, dataType := .uint16, byteOrder := .bigEndian }]),
  .fault (.setFault 1 { faultType := .exception, params := [] }),
  .clientWrite (1, 0, 3) ⟨.int 7, .uint16⟩,
  .fault (.updateRegister 1 0 3 (.exact 5) .uint16)]

theorem client_value_stays :
    ¬ ∀ protocols es, Always (step protocols) EngineOwns started es := by
  intro h
  have howns := (h (fun _ => some .opcua) writeWhileFaulted).of_exec rfl
  have hvalue := (howns (1, 0, 3) _ rfl).1 ⟨Or.inr rfl, by simp [creates]⟩ .zero
    ⟨.int 7, .uint16⟩ rfl
  exact absurd (congrArg Variant.value hvalue) (by decide)

end WriteRun

end GhostMeter.Api
