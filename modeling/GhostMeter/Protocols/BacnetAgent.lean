import GhostMeter.Lib.Loop
import GhostMeter.Protocols.Base

/-! The BACnet adapter: each device is an application with a node on the virtual network. -/

namespace GhostMeter.Protocols

open GhostMeter.Lib

/-- `_UNIT_MAP`, with the fallback of its lookups. -/
def engineeringUnits : String → String
  | "V" => "volts"
  | "A" => "amperes"
  | "W" => "watts"
  | "kW" => "kilowatts"
  | "kWh" => "kilowatt-hours"
  | "Wh" => "watt-hours"
  | "Hz" => "hertz"
  | "%" => "percent"
  | "°C" => "degrees-celsius"
  | "VA" => "volt-amperes"
  | "var" => "volt-amperes-reactive"
  | _ => "no-units"

structure AnalogInput where
  objectName : String
  presentValue : PyFloat
  units : String
  deriving DecidableEq

structure DeviceApplication where
  deviceInstance : ℤ
  objectName : String
  macAddress : ℤ
  deriving DecidableEq

structure BacnetAdapter where
  /-- The router application is there, and the adapter is running. -/
  running : Bool := false
  base : ℤ := 100000
  /-- The applications whose nodes are on the virtual network. -/
  vlan : List DeviceApplication := []
  deviceApps : Dict UUID DeviceApplication := Dict.empty
  objects : Dict (UUID × ℤ) AnalogInput := Dict.empty
  instanceOwner : Dict ℤ UUID := Dict.empty
  deviceMeta : Dict UUID String := Dict.empty

/-- Where bacpypes3 raises while a device is added. -/
structure BacpypesErrors where
  deviceObject : Option PyError := none
  networkPort : Option PyError := none
  /-- With whether the node is on the virtual network by then. -/
  fromObjectList : Option (Bool × PyError) := none
  /-- For the register at a position, the analog input or its `add_object`. -/
  addObject : ℕ → Option PyError := fun _ => none

namespace BacnetAdapter

variable (a : BacnetAdapter) (device : UUID) (slave : ℤ)

def checkInstance : Except AppException Unit :=
  match a.instanceOwner (a.base + slave) with
  | none => .ok ()
  | some owner =>
    if owner = device then .ok ()
    else .error (conflictException
      (s!"BACnet device instance {a.base + slave} (slave {slave}) is already registered " ++
        "by another device")
      "BACNET_INSTANCE_CONFLICT")

def attachVlanNode (app : DeviceApplication) : BacnetAdapter := { a with vlan := app :: a.vlan }

/-- `_detach_vlan_nodes`. -/
def detachVlanNodes (app : DeviceApplication) : BacnetAdapter :=
  { a with vlan := a.vlan.erase app }

def dropStaleApp : BacnetAdapter :=
  match a.deviceApps device with
  | none => a
  | some app => { a with deviceApps := a.deviceApps.pop device }.detachVlanNodes app

def displayName : String :=
  ((a.deviceMeta device).filter (· ≠ "")).getD s!"Device_{slave}"

/-- The device object and the network port; `bytes` rejects a slave that is not one. -/
def coreObjects (lib : BacpypesErrors) : Except PyError DeviceApplication :=
  match lib.deviceObject with
  | some e => .error e
  | none =>
    if slave < 0 ∨ 255 < slave then .error (.valueError "bytes must be in range(0, 256)")
    else
      match lib.networkPort with
      | some e => .error e
      | none => .ok ⟨a.base + slave, a.displayName device slave, slave⟩

end BacnetAdapter

def RegisterInfo.analogInput (reg : RegisterInfo) : AnalogInput where
  objectName := (reg.name.filter (· ≠ "")).getD s!"reg_{reg.address}"
  presentValue := .zero
  units := engineeringUnits (reg.unit.getD "")

/-- One round of the loop over the registers, which skips an address it has had. -/
def addAnalogInput (lib : BacpypesErrors) (objs : Dict ℤ AnalogInput) (reg : RegisterInfo × ℕ) :
    Except PyError (Dict ℤ AnalogInput) :=
  if (objs reg.1.address).isSome then .ok objs
  else
    match lib.addObject reg.2 with
    | some e => .error e
    | none => .ok (objs.set reg.1.address reg.1.analogInput)

def analogInputs (lib : BacpypesErrors) (registers : List RegisterInfo) :
    Except PyError (Dict ℤ AnalogInput) :=
  registers.zipIdx.foldlM (addAnalogInput lib) Dict.empty

section AnalogInputs

variable {lib : BacpypesErrors} {registers : List RegisterInfo} {objs : Dict ℤ AnalogInput}

/-- No `add_object` raises for a register whose address is the first of its kind. -/
def ObjectsAccepted (lib : BacpypesErrors) (registers : List RegisterInfo) : Prop :=
  ∀ done reg rest, registers = done ++ reg :: rest → reg.address ∉ done.map (·.address) →
    lib.addObject done.length = none

/-- The object at an address is made of the first register there. -/
theorem analogInputs_apply (h : analogInputs lib registers = .ok objs) (addr : ℤ) :
    objs addr = (registers.find? (·.address = addr)).map RegisterInfo.analogInput := by
  have hinv := foldlM_invariant (f := addAnalogInput lib)
    (P := fun done objs => ∀ addr, objs addr =
      ((done.map Prod.fst).find? (·.address = addr)).map RegisterInfo.analogInput)
    (fun done reg objs objs' ih hround addr => ?_) (fun _ => rfl) h
  · simpa only [List.zipIdx_map_fst] using hinv addr
  · rw [List.map_append, List.find?_append]
    unfold addAnalogInput at hround
    split at hround
    next hsome =>
      obtain rfl := Except.ok.inj hround
      rw [ih] at hsome ⊢
      by_cases haddr : reg.1.address = addr
      · subst haddr
        obtain ⟨first, hfirst⟩ := Option.isSome_iff_exists.1 (Option.isSome_map.symm.trans hsome)
        rw [hfirst, Option.some_or]
      · simp [haddr]
    next hnone =>
      split at hround
      next => cases hround
      next =>
        obtain rfl := Except.ok.inj hround
        rw [Dict.set_apply]
        by_cases haddr : reg.1.address = addr
        · subst haddr
          have hfind : (done.map Prod.fst).find? (·.address = reg.1.address) = none := by
            simpa [ih] using hnone
          rw [if_pos rfl, hfind]
          simp
        · rw [if_neg (Ne.symm haddr), ih]
          simp [haddr]

theorem isSome_analogInputs (h : analogInputs lib registers = .ok objs) (addr : ℤ) :
    (objs addr).isSome ↔ addr ∈ registers.map (·.address) := by
  rw [analogInputs_apply h]
  simp

theorem analogInputs_isOk_iff :
    (∃ objs, analogInputs lib registers = .ok objs) ↔ ObjectsAccepted lib registers := by
  constructor
  · rintro ⟨objs, h⟩ done reg rest rfl hnew
    rw [analogInputs, List.zipIdx_append, List.foldlM_append, bind_ok_iff] at h
    obtain ⟨before, hbefore, hrest⟩ := h
    rw [List.zipIdx_cons, List.foldlM_cons, bind_ok_iff] at hrest
    obtain ⟨after, hround, -⟩ := hrest
    have hnone : ¬ (before reg.address).isSome := fun hsome =>
      hnew ((isSome_analogInputs hbefore _).1 hsome)
    rw [addAnalogInput, if_neg hnone, Nat.zero_add] at hround
    split at hround
    next => cases hround
    next hlib => exact hlib
  · intro h
    have hloop := foldlM_progress (f := addAnalogInput lib) (l := registers.zipIdx)
      (s := Dict.empty)
      (P := fun done objs => ∀ addr, (objs addr).isSome ↔ addr ∈ done.map (·.1.address))
      (fun done reg rest objs hsplit ih => ?_) (by simp)
    · obtain ⟨objs, hobjs, -⟩ := hloop
      exact ⟨objs, hobjs⟩
    · have hregs := congrArg (List.map Prod.fst) hsplit
      rw [List.zipIdx_map_fst, List.map_append, List.map_cons] at hregs
      have hpos : reg.2 = done.length := by
        have hget := congrArg (·[done.length]?) hsplit
        simp only [List.getElem?_zipIdx, List.getElem?_append_right le_rfl, Nat.sub_self,
          List.getElem?_cons_zero, Option.map_eq_some_iff, Nat.zero_add] at hget
        obtain ⟨_, -, rfl⟩ := hget
        rfl
      by_cases hold : (objs reg.1.address).isSome
      · refine ⟨objs, if_pos hold, fun addr => ?_⟩
        simp only [List.map_append, List.mem_append, ih addr, List.map_cons, List.map_nil,
          List.mem_singleton]
        exact ⟨Or.inl, fun hor => hor.elim id fun heq => heq ▸ (ih _).1 hold⟩
      · have hlib : lib.addObject reg.2 = none := by
          have hlen : reg.2 = (done.map Prod.fst).length := by rw [hpos, List.length_map]
          rw [hlen]
          refine h _ _ _ hregs fun hmem => hold ((ih _).2 ?_)
          simpa [List.map_map] using hmem
        refine ⟨objs.set reg.1.address reg.1.analogInput, ?_, fun addr => ?_⟩
        · rw [addAnalogInput, if_neg hold, hlib]
        · rw [Dict.set_apply, List.map_append, List.mem_append, ← ih addr]
          split <;> simp_all

end AnalogInputs

namespace BacnetAdapter

/-- What a successful add registers; the broadcast after it is best-effort. -/
def registerApp (a : BacnetAdapter) (device : UUID) (app : DeviceApplication)
    (objs : Dict ℤ AnalogInput) : BacnetAdapter :=
  { a with
    deviceApps := a.deviceApps.set device app
    instanceOwner := a.instanceOwner.set app.deviceInstance device
    objects := fun key =>
      if key.1 = device then (objs key.2).or (a.objects key) else a.objects key }

def doAddDevice (lib : BacpypesErrors) (a : BacnetAdapter) (device : UUID) (slave : ℤ)
    (registers : List RegisterInfo) : BacnetAdapter × Except AdapterError Unit :=
  if ¬ a.running then (a, .error (.py (.runtimeError "BACnet adapter not started")))
  else
    match a.checkInstance device slave with
    | .error e => (a, .error (.app e))
    | .ok () =>
      let a := a.dropStaleApp device
      match a.coreObjects device slave lib with
      | .error e => (a, .error (.py e))
      | .ok app =>
        match lib.fromObjectList with
        | some (attached, e) => (if attached then a.attachVlanNode app else a, .error (.py e))
        | none =>
          let a := a.attachVlanNode app
          match analogInputs lib registers with
          | .error e => (a.detachVlanNodes app, .error (.py e))
          | .ok objs => (a.registerApp device app objs, .ok ())

def doRemoveDevice (a : BacnetAdapter) (device : UUID) : BacnetAdapter :=
  let a := a.dropStaleApp device
  { a with
    objects := fun key => if key.1 = device then none else a.objects key
    instanceOwner := fun inst => (a.instanceOwner inst).filter (· ≠ device)
    deviceMeta := a.deviceMeta.pop device }

variable {lib : BacpypesErrors} {a : BacnetAdapter} {device : UUID} {slave : ℤ}

@[simp] theorem detach_attach (app : DeviceApplication) :
    (a.attachVlanNode app).detachVlanNodes app = a := by
  simp [attachVlanNode, detachVlanNodes]

theorem attachVlanNode_ne_self (app : DeviceApplication) : a.attachVlanNode app ≠ a := fun h =>
  List.cons_ne_self _ _ (congrArg vlan h)

@[simp] theorem deviceApps_dropStaleApp :
    (a.dropStaleApp device).deviceApps = a.deviceApps.pop device := by
  unfold dropStaleApp
  split
  next h => exact (Dict.pop_eq_self h).symm
  next => rfl

theorem dropStaleApp_eq_self_iff : a.dropStaleApp device = a ↔ a.deviceApps device = none := by
  constructor
  · intro h
    have happs := congrFun (congrArg deviceApps h) device
    rwa [deviceApps_dropStaleApp, Dict.pop_self, eq_comm] at happs
  · intro h
    simp [dropStaleApp, h]

theorem checkInstance_eq_error_iff :
    (∃ e, a.checkInstance device slave = .error e) ↔
      ∃ owner, a.instanceOwner (a.base + slave) = some owner ∧ owner ≠ device := by
  unfold checkInstance
  cases a.instanceOwner (a.base + slave) with
  | none => simp
  | some owner => by_cases h : owner = device <;> simp [h]

/-- The instance of the slave belongs to another device. -/
def InstanceTaken (a : BacnetAdapter) (device : UUID) (slave : ℤ) : Prop :=
  ∃ owner, a.instanceOwner (a.base + slave) = some owner ∧ owner ≠ device

theorem coreObjects_eq_ok_iff :
    (∃ app, a.coreObjects device slave lib = .ok app) ↔
      lib.deviceObject = none ∧ (0 ≤ slave ∧ slave ≤ 255) ∧ lib.networkPort = none := by
  unfold coreObjects
  split
  next h => simp [h]
  next h =>
    split
    next hslave => simp; omega
    next hslave =>
      split
      next hport => simp [hport]
      next hport => simp [h, hport]; omega

theorem instanceTaken_iff :
    a.InstanceTaken device slave ↔ ∃ e, a.checkInstance device slave = .error e :=
  checkInstance_eq_error_iff.symm

end BacnetAdapter

end GhostMeter.Protocols
