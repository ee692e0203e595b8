import GhostMeter.Lib.Table
import GhostMeter.Protocols.BacnetAgent
import GhostMeter.Protocols.ModbusTcp
import GhostMeter.Protocols.OpcUa
import GhostMeter.Protocols.SnmpMaps

/-! What an add that raises leaves behind, in each of the adapters with registrations. -/

namespace GhostMeter.Protocols

open GhostMeter.Lib GhostMeter.Simulation

namespace ModbusTcpAdapter

/-- `_do_add_device`, where the datastores may raise: they are created after the checks and
before anything is registered. -/
def doAddDeviceOrRaise (datastores : Option PyError) (a : ModbusTcpAdapter) (device : UUID)
    (slave : ℤ) (registers : List RegisterInfo) : ModbusTcpAdapter × Except PyError Unit :=
  match a.doAddDevice device slave registers, datastores with
  | (_, .ok ()), some e => (a, .error e)
  | result, _ => result

variable {datastores : Option PyError} {a : ModbusTcpAdapter} {device : UUID} {slave : ℤ}
  {registers : List RegisterInfo} {e : PyError}

theorem doAddDevice_of_error (h : (a.doAddDevice device slave registers).2 = .error e) :
    (a.doAddDevice device slave registers).1 = a := by
  unfold doAddDevice at h ⊢
  split
  next => rfl
  next hctx =>
    split
    next => rfl
    next hfree => simp [hctx, hfree] at h

theorem doAddDeviceOrRaise_of_error
    (h : (a.doAddDeviceOrRaise datastores device slave registers).2 = .error e) :
    (a.doAddDeviceOrRaise datastores device slave registers).1 = a := by
  unfold doAddDeviceOrRaise at h ⊢
  split
  next => rfl
  next hno =>
    split at h
    next hadd => exact absurd hadd (hno _ _ · rfl)
    next => exact doAddDevice_of_error h

end ModbusTcpAdapter

namespace SnmpAdapter

/-- An OID of the registers is in the map of another device. -/
def OidTaken (a : SnmpAdapter) (device : UUID) (registers : List RegisterInfo) : Prop :=
  ∃ oid ∈ (oidsToAdd registers).map Prod.fst, ∃ owner name,
    a.oidMap.get oid = some (owner, name) ∧ owner ≠ device

/-- The maps hold the OIDs of the registers already, each with its last name and type. -/
structure Holds (a : SnmpAdapter) (device : UUID) (registers : List RegisterInfo) : Prop where
  oids : a.deviceOids device = some ((oidsToAdd registers).map Prod.fst)
  last (oid : String) (reg : String × RegisterInfo) :
    Table.find Prod.fst (oidsToAdd registers).reverse oid = some reg →
      a.oidMap.get oid = some (device, (reg.2.name.filter (· ≠ "")).getD reg.1) ∧
        a.oidDataTypes oid = some reg.2.dataType

variable {a : SnmpAdapter} {device : UUID} {slave : ℤ} {registers : List RegisterInfo}
  {oids : List (String × RegisterInfo)} {e : AdapterError}

theorem oidTaken_iff : a.OidTaken device registers ↔
    ¬ ∀ oid ∈ (oidsToAdd registers).map Prod.fst, a.checkConflict device oid = .ok () := by
  simp only [OidTaken, checkConflict_ok_iff]
  push Not
  rfl

theorem addOids_oidMap : (oids.foldl (addOid device) a).oidMap.get =
    oids.foldl (fun m reg => m.set reg.1 (device, (reg.2.name.filter (· ≠ "")).getD reg.1))
      a.oidMap.get := by
  induction oids generalizing a with
  | nil => rfl
  | cons reg oids ih => exact ih

theorem addOids_oidDataTypes : (oids.foldl (addOid device) a).oidDataTypes =
    oids.foldl (fun m reg => m.set reg.1 reg.2.dataType) a.oidDataTypes := by
  induction oids generalizing a with
  | nil => rfl
  | cons reg oids ih => exact ih

theorem addOids_keys (h : ∀ reg ∈ oids, reg.1 ∈ a.oidMap.keys) :
    (oids.foldl (addOid device) a).oidMap.keys = a.oidMap.keys := by
  induction oids generalizing a with
  | nil => rfl
  | cons reg oids ih =>
    have hkeys : (addOid device a reg).oidMap.keys = a.oidMap.keys :=
      OrderedDict.keys_set_of_mem _ (h reg List.mem_cons_self)
    rw [List.foldl_cons, ih fun r hr => hkeys ▸ h r (List.mem_cons_of_mem _ hr), hkeys]

theorem added_eq_self_iff :
    a.added device (oidsToAdd registers) = a ↔ a.Holds device registers := by
  constructor
  · intro h
    have hdevices := congrFun (congrArg deviceOids h) device
    refine ⟨hdevices.symm.trans (Dict.set_self ..), fun oid reg hreg => ⟨?_, ?_⟩⟩
    · have hmap := congrArg (·.oidMap.get) h
      exact Table.foldl_set_eq_self_iff.1 (addOids_oidMap.symm.trans hmap) oid reg hreg
    · have htypes := congrArg oidDataTypes h
      exact Table.foldl_set_eq_self_iff.1 (addOids_oidDataTypes.symm.trans htypes) oid reg hreg
  · intro h
    have hkeys : ∀ reg ∈ oidsToAdd registers, reg.1 ∈ a.oidMap.keys := by
      intro reg hreg
      cases hlast : Table.find Prod.fst (oidsToAdd registers).reverse reg.1 with
      | none =>
        exact absurd rfl (Table.find_eq_none_iff.1 hlast reg (List.mem_reverse.2 hreg))
      | some last =>
        rw [OrderedDict.mem_keys, (h.last _ _ hlast).1]
        rfl
    have hmap : ((oidsToAdd registers).foldl (addOid device) a).oidMap = a.oidMap := by
      refine OrderedDict.ext (addOids_keys hkeys) ?_
      rw [addOids_oidMap]
      exact Table.foldl_set_eq_self_iff.2 fun oid reg hreg => (h.last oid reg hreg).1
    have htypes : ((oidsToAdd registers).foldl (addOid device) a).oidDataTypes =
        a.oidDataTypes := by
      rw [addOids_oidDataTypes]
      exact Table.foldl_set_eq_self_iff.2 fun oid reg hreg => (h.last oid reg hreg).2
    have hdevices : a.deviceOids.set device ((oidsToAdd registers).map Prod.fst) =
        a.deviceOids := by
      rw [Dict.set, ← h.oids, Function.update_eq_self]
    obtain ⟨-, hsorted, hsortedKeys⟩ := @addOids_frame a device (oidsToAdd registers)
    rw [added, hmap, htypes, hdevices, hsorted, hsortedKeys]

theorem doAddDevice_eq_self_iff (h : (a.doAddDevice device slave registers).2 = .error e) :
    (a.doAddDevice device slave registers).1 = a ↔
      a.OidTaken device registers ∨ a.Holds device registers := by
  rcases doAddDevice_cases a device slave registers with
    ⟨_, hadd, htaken⟩ | ⟨hfree, ⟨_, _, hadd⟩ | ⟨_, _, hadd⟩⟩
  · simp only [hadd, true_iff]
    exact Or.inl (oidTaken_iff.2 htaken)
  · rw [hadd, added_eq_self_iff]
    exact (or_iff_right fun htaken => oidTaken_iff.1 htaken hfree).symm
  · rw [hadd] at h
    cases h

end SnmpAdapter

/-- Where asyncua raises while a device is added; a description that fails is left out. -/
structure AsyncuaErrors where
  addObject : Option PyError := none
  addVariable : ℕ → Option PyError := fun _ => none
  writeDescription : ℕ → Option PyError := fun _ => none
  setWritable : ℕ → Option PyError := fun _ => none
  /-- With the nodes that have their callback by then. -/
  setValueCallback : Option (Finset NodeKey × PyError) := none

/-- The adapter with the objects in the folder of its server. -/
structure OpcUaServer where
  adapter : OpcUaAdapter
  folder : List String := []

namespace OpcUaAdapter

/-- `addRegister` of the register at a position. -/
def addRegisterOrRaise (lib : AsyncuaErrors) (device : UUID) (a : OpcUaAdapter)
    (reg : RegisterInfo × ℕ) : OpcUaAdapter × Except PyError Unit :=
  match lib.addVariable reg.2 with
  | some e => (a, .error e)
  | none =>
    let shown := if (lib.writeDescription reg.2).isSome then { reg.1 with unit := none } else reg.1
    let added := addRegister device a shown
    match lib.setWritable reg.2 with
    | some e => ({ added with lastValues := a.lastValues }, .error e)
    | none => (added, .ok ())

def addRegistersOrRaise (lib : AsyncuaErrors) (device : UUID) :
    List (RegisterInfo × ℕ) → OpcUaAdapter → OpcUaAdapter × Except PyError Unit
  | [], a => (a, .ok ())
  | reg :: registers, a =>
    match addRegisterOrRaise lib device a reg with
    | (a, .error e) => (a, .error e)
    | (a, .ok ()) => addRegistersOrRaise lib device registers a

def applyFaultOrRaise (lib : AsyncuaErrors) (a : OpcUaAdapter) (device : UUID) :
    OpcUaAdapter × Except PyError Unit :=
  match lib.setValueCallback with
  | none => (a.applyFault device, .ok ())
  | some (done, e) =>
    if ¬ a.started ∨ device ∈ a.faulted then (a, .ok ())
    else
      ({ a with
        nodes := fun key =>
          if key.1 = device ∧ key ∈ done then (a.nodes key).map (·.setValueCallback ⟨device, key⟩)
          else a.nodes key }, .error e)

end OpcUaAdapter

namespace OpcUaServer

def doAddDevice (lib : AsyncuaErrors) (faults : FaultSimulator) (s : OpcUaServer) (device : UUID)
    (slave : ℤ) (registers : List RegisterInfo) : OpcUaServer × Except PyError Unit :=
  if ¬ s.adapter.started then (s, .error (.runtimeError "OPC UA server not started"))
  else
    match lib.addObject with
    | some e => (s, .error e)
    | none =>
      let name := s.adapter.displayName device slave
      let a := { s.adapter with deviceObjects := s.adapter.deviceObjects.set device name }
      let (a, result) := match a.addRegistersOrRaise lib device registers.zipIdx with
        | (a, .error e) => (a, .error e)
        | (a, .ok ()) =>
          if (faults.getFault device).isSome then a.applyFaultOrRaise lib device else (a, .ok ())
      ({ adapter := a, folder := s.folder ++ [name] }, result)

variable {lib : AsyncuaErrors} {faults : FaultSimulator} {s : OpcUaServer} {device : UUID}
  {slave : ℤ} {registers : List RegisterInfo}

/-- Once the object is in the folder it stays there. -/
theorem doAddDevice_eq_self_iff :
    (s.doAddDevice lib faults device slave registers).1 = s ↔
      s.adapter.started = false ∨ lib.addObject.isSome := by
  unfold doAddDevice
  split
  next hstart => simp [hstart]
  next hstart =>
    split
    next e' hobj => simp [hobj]
    next hobj =>
      have hgrows : s.folder ++ [s.adapter.displayName device slave] ≠ s.folder := by simp
      simp only [hobj, Option.isSome_none, Bool.false_eq_true, or_false]
      exact iff_of_false (fun hs => hgrows (congrArg folder hs)) (by simpa using hstart)

end OpcUaServer

namespace OpcUaAdapter

theorem addRegistersOrRaise_eq (device : UUID) (registers : List (RegisterInfo × ℕ))
    (a : OpcUaAdapter) : addRegistersOrRaise {} device registers a =
      ((registers.map Prod.fst).foldl (addRegister device) a, .ok ()) := by
  induction registers generalizing a with
  | nil => rfl
  | cons reg registers ih => exact ih _

/-- Where the library raises nothing, the add is the one of the adapter alone. -/
theorem doAddDevice_server (faults : FaultSimulator) (s : OpcUaServer) (device : UUID) (slave : ℤ)
    (registers : List RegisterInfo) :
    (s.adapter.doAddDevice faults device slave registers) =
      ((s.doAddDevice {} faults device slave registers).1.adapter,
        (s.doAddDevice {} faults device slave registers).2) := by
  unfold doAddDevice OpcUaServer.doAddDevice
  split
  next => rfl
  next =>
    simp only [addRegistersOrRaise_eq, List.zipIdx_map_fst, applyFaultOrRaise, createNodes]
    split <;> rfl

end OpcUaAdapter

namespace BacnetAdapter

variable {lib : BacpypesErrors} {a : BacnetAdapter} {device : UUID} {slave : ℤ}
  {registers : List RegisterInfo} {e : AdapterError}

/-- `from_object_list` is reached, and raises once the node is on the virtual network. -/
def LeavesNode (lib : BacpypesErrors) (slave : ℤ) : Prop :=
  (lib.deviceObject = none ∧ (0 ≤ slave ∧ slave ≤ 255) ∧ lib.networkPort = none) ∧
    ∃ e, lib.fromObjectList = some (true, e)

theorem attach_dropStaleApp_ne_self (app : DeviceApplication) :
    (a.dropStaleApp device).attachVlanNode app ≠ a := by
  intro h
  have happs := congrFun (congrArg deviceApps h) device
  have hnone : a.deviceApps device = none := by
    rw [← happs]
    exact (congrFun deviceApps_dropStaleApp device).trans (Dict.pop_self ..)
  rw [dropStaleApp_eq_self_iff.2 hnone] at h
  exact attachVlanNode_ne_self app h

theorem doAddDevice_eq_self_iff (h : (a.doAddDevice lib device slave registers).2 = .error e) :
    (a.doAddDevice lib device slave registers).1 = a ↔
      a.running = false ∨ a.InstanceTaken device slave ∨
        a.deviceApps device = none ∧ ¬ LeavesNode lib slave := by
  unfold doAddDevice at h ⊢
  split
  next hrun => simp [hrun]
  next hrun =>
    rw [if_neg hrun] at h
    rw [instanceTaken_iff, or_iff_right (by simpa using hrun)]
    cases hcheck : a.checkInstance device slave with
    | error e' => simp
    | ok u =>
      simp only [hcheck] at h ⊢
      rw [or_iff_right (by simp)]
      cases hcore : (a.dropStaleApp device).coreObjects device slave lib with
      | error e' =>
        have hleaves : ¬ LeavesNode lib slave := by
          rintro ⟨hok, -⟩
          obtain ⟨app, happ⟩ := (coreObjects_eq_ok_iff (a := a.dropStaleApp device)).2 hok
          rw [hcore] at happ
          cases happ
        rw [dropStaleApp_eq_self_iff, and_iff_left hleaves]
      | ok app =>
        have hreached := (coreObjects_eq_ok_iff (a := a.dropStaleApp device)).1 ⟨app, hcore⟩
        simp only [hcore] at h ⊢
        split
        next attached e' hlist =>
          cases attached with
          | true =>
            simp only [if_true]
            exact iff_of_false (attach_dropStaleApp_ne_self app)
              fun hno => hno.2 ⟨hreached, e', hlist⟩
          | false =>
            have hleaves : ¬ LeavesNode lib slave := by simp [LeavesNode, hlist]
            rw [if_neg (by simp), dropStaleApp_eq_self_iff, and_iff_left hleaves]
        next hlist =>
          have hleaves : ¬ LeavesNode lib slave := by simp [LeavesNode, hlist]
          rw [hlist] at h
          simp only at h
          cases hobjs : analogInputs lib registers with
          | error e' => simp only [detach_attach, dropStaleApp_eq_self_iff, and_iff_left hleaves]
          | ok objs =>
            rw [hobjs] at h
            cases h

end BacnetAdapter

/-- Each add that raises leaves the adapter as it was exactly if it has no statistics of the
device and the condition holds. -/
def UndoneIff {α ε : Type} (doAddDevice : α → UUID → ℤ → List RegisterInfo → α × Except ε Unit)
    (condition : α → UUID → ℤ → List RegisterInfo → Prop) : Prop :=
  ∀ (a : ProtocolAdapter α) (device : UUID) (slave : ℤ) (registers : List RegisterInfo) (e : ε),
    (a.addDevice doAddDevice device slave registers).2 = .error e →
      ((a.addDevice doAddDevice device slave registers).1 = a ↔
        a.deviceStats device = none ∧ condition a.state device slave registers)

theorem addDevice_undoneIff (datastores : Option PyError) (asyncua : AsyncuaErrors)
    (faults : FaultSimulator) (bacpypes : BacpypesErrors) :
    (UndoneIff (ModbusTcpAdapter.doAddDeviceOrRaise datastores) fun _ _ _ _ => True) ∧
    (UndoneIff SnmpAdapter.doAddDevice fun a device _ registers =>
      a.OidTaken device registers ∨ a.Holds device registers) ∧
    (UndoneIff (OpcUaServer.doAddDevice asyncua faults) fun s _ _ _ =>
      s.adapter.started = false ∨ asyncua.addObject.isSome) ∧
    (UndoneIff (BacnetAdapter.doAddDevice bacpypes) fun a device slave _ =>
      a.running = false ∨ a.InstanceTaken device slave ∨
        a.deviceApps device = none ∧ ¬ BacnetAdapter.LeavesNode bacpypes slave) := by
  refine ⟨fun a device slave registers e h => ?_, fun a device slave registers e h => ?_,
    fun a device slave registers e h => ?_, fun a device slave registers e h => ?_⟩
  all_goals
    rw [ProtocolAdapter.addDevice_eq_self_iff h]
    rw [ProtocolAdapter.result_addDevice] at h
  · rw [ModbusTcpAdapter.doAddDeviceOrRaise_of_error h]
    simp
  · rw [SnmpAdapter.doAddDevice_eq_self_iff h]
  · rw [OpcUaServer.doAddDevice_eq_self_iff]
  · rw [BacnetAdapter.doAddDevice_eq_self_iff h]

/-- A device that is registered as slave 1. -/
def registered : ProtocolAdapter ModbusTcpAdapter :=
  (ProtocolAdapter.addDevice ModbusTcpAdapter.doAddDevice { state := ModbusTcpAdapter.start {} }
    1 1 []).1

theorem addDevice_undoneIff_registered :
    ((registered.addDevice (ModbusTcpAdapter.doAddDeviceOrRaise none) 1 1 []).1 = registered ↔
      registered.deviceStats 1 = none ∧ True) ∧
    ((ProtocolAdapter.addDevice SnmpAdapter.doAddDevice { state := {} } 1 1
        [{ SnmpAdapter.battery with oid := some "1.x" }]).1 = { state := {} } ↔
      (none : Option DeviceStats) = none ∧
        (SnmpAdapter.OidTaken {} 1 [{ SnmpAdapter.battery with oid := some "1.x" }] ∨
          SnmpAdapter.Holds {} 1 [{ SnmpAdapter.battery with oid := some "1.x" }])) ∧
    ((ProtocolAdapter.addDevice (OpcUaServer.doAddDevice {} Dict.empty)
        { state := { adapter := {} } } 1 1 []).1 = { state := { adapter := {} } } ↔
      (none : Option DeviceStats) = none ∧ (false = false ∨ (none : Option PyError).isSome)) ∧
    ((ProtocolAdapter.addDevice (BacnetAdapter.doAddDevice {})
        { state := { running := true } } 1 300 []).1 = { state := { running := true } } ↔
      (none : Option DeviceStats) = none ∧
        (true = false ∨ BacnetAdapter.InstanceTaken { running := true } 1 300 ∨
          (none : Option DeviceApplication) = none ∧ ¬ BacnetAdapter.LeavesNode {} 300)) :=
  ⟨(addDevice_undoneIff none {} Dict.empty {}).1 registered 1 1 [] _ rfl,
    (addDevice_undoneIff none {} Dict.empty {}).2.1 { state := {} } 1 1 _ _ rfl,
    (addDevice_undoneIff none {} Dict.empty {}).2.2.1 { state := { adapter := {} } } 1 1 [] _ rfl,
    (addDevice_undoneIff none {} Dict.empty {}).2.2.2 { state := { running := true } } 1 300 [] _
      rfl⟩

theorem stats_lost :
    (registered.addDevice ModbusTcpAdapter.doAddDevice 1 1 []).2 =
        .error (.valueError "Slave ID 1 already registered") ∧
      (registered.addDevice ModbusTcpAdapter.doAddDevice 1 1 []).1 ≠ registered := by
  have hfails : (registered.addDevice ModbusTcpAdapter.doAddDevice 1 1 []).2 =
      .error (.valueError "Slave ID 1 already registered") := by decide
  refine ⟨hfails, fun h => ?_⟩
  have hstats := ((ProtocolAdapter.addDevice_eq_self_iff hfails).1 h).1
  cases hstats

end GhostMeter.Protocols
