import GhostMeter.Lib.Run
import GhostMeter.Protocols.BacnetAgent

/-! The registrations of the BACnet adapter, in every order of devices added, added again and
removed. -/

namespace GhostMeter.Protocols

open GhostMeter.Lib

inductive BacnetCall
  | addDevice (lib : BacpypesErrors) (device : UUID) (slave : ℤ) (registers : List RegisterInfo)
  | removeDevice (device : UUID)

/-- What an add was given. -/
structure Registration where
  slave : ℤ
  registers : List RegisterInfo

namespace BacnetAdapter

/-- Nothing raises while the application of a device is built. -/
structure Buildable (lib : BacpypesErrors) (slave : ℤ) (registers : List RegisterInfo) : Prop where
  core : lib.deviceObject = none ∧ (0 ≤ slave ∧ slave ≤ 255) ∧ lib.networkPort = none
  objectList : lib.fromObjectList = none
  objects : ObjectsAccepted lib registers

variable {lib : BacpypesErrors} {a : BacnetAdapter} {device : UUID} {slave : ℤ}
  {registers : List RegisterInfo}

theorem dropStaleApp_frame : (a.dropStaleApp device).base = a.base ∧
    (a.dropStaleApp device).instanceOwner = a.instanceOwner ∧
    (a.dropStaleApp device).objects = a.objects := by
  unfold dropStaleApp
  split <;> exact ⟨rfl, rfl, rfl⟩

theorem coreObjects_instance {app : DeviceApplication}
    (h : a.coreObjects device slave lib = .ok app) : app.deviceInstance = a.base + slave := by
  unfold coreObjects at h
  split at h
  next => cases h
  next =>
    split at h
    next => cases h
    next =>
      split at h
      next => cases h
      next =>
        obtain rfl := Except.ok.inj h
        rfl

/-- A failed add that has come to the old application of its device. -/
structure Dropped (a a' : BacnetAdapter) (device : UUID) : Prop where
  base : a'.base = a.base
  deviceApps : a'.deviceApps = a.deviceApps.pop device
  instanceOwner : a'.instanceOwner = a.instanceOwner
  objects : a'.objects = a.objects

/-- A successful add. -/
structure Added (a a' : BacnetAdapter) (device : UUID) (slave : ℤ)
    (registers : List RegisterInfo) : Prop where
  base : a'.base = a.base
  deviceApps : ∃ app, a'.deviceApps = a.deviceApps.set device app
  instanceOwner : a'.instanceOwner = a.instanceOwner.set (a.base + slave) device
  objects : ∃ objs : Dict ℤ AnalogInput,
    (∀ addr, objs addr = (registers.find? (·.address = addr)).map RegisterInfo.analogInput) ∧
    a'.objects = fun key =>
      if key.1 = device then (objs key.2).or (a.objects key) else a.objects key

/-- What an add does: it is refused, it fails after the old application is gone, or it
succeeds. -/
theorem doAddDevice_cases (lib : BacpypesErrors) (a : BacnetAdapter) (device : UUID) (slave : ℤ)
    (registers : List RegisterInfo) :
    ((∃ e, a.doAddDevice lib device slave registers = (a, .error e)) ∧
      (a.running = false ∨ a.InstanceTaken device slave)) ∨
    (¬ (a.running = false ∨ a.InstanceTaken device slave) ∧
      ((∃ a' e, a.doAddDevice lib device slave registers = (a', .error e) ∧
          ¬ Buildable lib slave registers ∧ Dropped a a' device) ∨
        ∃ a', a.doAddDevice lib device slave registers = (a', .ok ()) ∧
          Buildable lib slave registers ∧ Added a a' device slave registers)) := by
  obtain ⟨hbase, howner, hobjects⟩ := @dropStaleApp_frame a device
  have happs := @deviceApps_dropStaleApp a device
  have hdropped (vlan : List DeviceApplication) :
      Dropped a { a.dropStaleApp device with vlan } device := ⟨hbase, happs, howner, hobjects⟩
  unfold doAddDevice
  split
  next hrun =>
    have hrun : a.running = false := by simpa using hrun
    exact Or.inl ⟨⟨_, rfl⟩, Or.inl hrun⟩
  next hrun =>
    have hrefused : a.running = false ∨ a.InstanceTaken device slave ↔
        ∃ e, a.checkInstance device slave = .error e := by
      rw [instanceTaken_iff, or_iff_right (by simpa using hrun)]
    rw [hrefused]
    cases hcheck : a.checkInstance device slave with
    | error e => exact Or.inl ⟨⟨_, rfl⟩, e, rfl⟩
    | ok u =>
      refine Or.inr ⟨by simp, ?_⟩
      cases hcore : (a.dropStaleApp device).coreObjects device slave lib with
      | error e =>
        refine Or.inl ⟨a.dropStaleApp device, .py e, ?_, fun hbuild => ?_, hdropped _⟩
        · simp only [hcore]
        · obtain ⟨app, happ⟩ := (coreObjects_eq_ok_iff (a := a.dropStaleApp device)).2 hbuild.core
          cases hcore.symm.trans happ
      | ok app =>
        have hinst := coreObjects_instance hcore
        simp only [hcore]
        have hcore := coreObjects_eq_ok_iff.1 ⟨app, hcore⟩
        cases hlist : lib.fromObjectList with
        | some failure =>
          refine Or.inl ⟨_, _, rfl, fun hbuild => ?_, ?_⟩
          · cases hlist.symm.trans hbuild.objectList
          · split
            next => exact hdropped _
            next => exact hdropped _
        | none =>
          cases hobjs : analogInputs lib registers with
          | error e =>
            refine Or.inl ⟨a.dropStaleApp device, .py e, ?_, fun hbuild => ?_, hdropped _⟩
            · simp only [detach_attach]
            · obtain ⟨objs, hok⟩ := analogInputs_isOk_iff.2 hbuild.objects
              cases hobjs.symm.trans hok
          | ok objs =>
            have hbuild : Buildable lib slave registers :=
              ⟨hcore, hlist, analogInputs_isOk_iff.1 ⟨objs, hobjs⟩⟩
            refine Or.inr ⟨_, rfl, hbuild, hbase, ⟨app, ?_⟩, ?_, objs, ?_, ?_⟩
            · show ((a.dropStaleApp device).deviceApps.set device app) = _
              rw [happs, Dict.pop, Dict.set, Dict.set, Function.update_idem]
            · show ((a.dropStaleApp device).instanceOwner.set app.deviceInstance device) = _
              rw [howner, hinst, hbase]
            · exact analogInputs_apply hobjs
            · show (fun key : UUID × ℤ => if key.1 = device then
                (objs key.2).or ((a.dropStaleApp device).objects key)
                else (a.dropStaleApp device).objects key) = _
              rw [hobjects]

end BacnetAdapter

/-- The owners and the objects are those of the registered devices: one instance for each of
them, and the addresses of its registers. -/
structure Agrees (base : ℤ) (registration : Dict UUID Registration) (owner : Dict ℤ UUID)
    (objects : Dict (UUID × ℤ) AnalogInput) : Prop where
  owner : ∀ inst device, owner inst = some device ↔
    ∃ reg, registration device = some reg ∧ inst = base + reg.slave
  distinct : ∀ device device' reg reg', registration device = some reg →
    registration device' = some reg' → base + reg.slave = base + reg'.slave → device = device'
  objects : ∀ device addr, (objects (device, addr)).isSome ↔
    ∃ reg, registration device = some reg ∧ addr ∈ reg.registers.map (·.address)

namespace Agrees

variable {base : ℤ} {registration : Dict UUID Registration} {owner : Dict ℤ UUID}
  {objects : Dict (UUID × ℤ) AnalogInput} {device : UUID} {slave : ℤ}
  {registers : List RegisterInfo}

theorem of_owner_objects
    (howner : ∀ inst device, owner inst = some device ↔
      ∃ reg, registration device = some reg ∧ inst = base + reg.slave)
    (hobjects : ∀ device addr, (objects (device, addr)).isSome ↔
      ∃ reg, registration device = some reg ∧ addr ∈ reg.registers.map (·.address)) :
    Agrees base registration owner objects := by
  refine ⟨howner, fun device device' reg reg' hreg hreg' heq => ?_, hobjects⟩
  have h := (howner _ _).2 ⟨reg, hreg, rfl⟩
  have h' := (howner _ _).2 ⟨reg', hreg', rfl⟩
  rw [heq] at h
  exact Option.some.inj (h.symm.trans h')

theorem empty : Agrees base Dict.empty Dict.empty Dict.empty :=
  of_owner_objects (by simp) (by simp)

/-- A device is forgotten, and its instance and its objects with it. -/
theorem remove (h : Agrees base registration owner objects) (device : UUID) :
    Agrees base (registration.pop device) (fun inst => (owner inst).filter (· ≠ device))
      (fun key => if key.1 = device then none else objects key) := by
  refine of_owner_objects (fun inst d => ?_) (fun d addr => ?_)
  · simp only [Option.filter_eq_some_iff, decide_eq_true_eq, h.owner, Dict.pop_apply]
    by_cases hd : d = device <;> simp [hd]
  · rw [Dict.pop_apply]
    by_cases hd : d = device
    · simp [hd]
    · simpa [hd] using h.objects d addr

/-- Only the registration is gone. -/
theorem pop_iff (h : Agrees base registration owner objects) (device : UUID) :
    Agrees base (registration.pop device) owner objects ↔ registration device = none := by
  constructor
  · intro h'
    cases hreg : registration device with
    | none => rfl
    | some reg =>
      obtain ⟨reg', hreg', -⟩ := (h'.owner _ _).1 ((h.owner _ _).2 ⟨reg, hreg, rfl⟩)
      simp at hreg'
  · intro hnone
    rwa [Dict.pop_eq_self hnone]

/-- A new registration agrees with the maps that it is added to exactly if it is the device's
first, or repeats the slave and has all the addresses. -/
theorem set_iff (h : Agrees base registration owner objects)
    (hfree : ∀ d, owner (base + slave) = some d → d = device) {objs : Dict ℤ AnalogInput}
    (hobjs : ∀ addr, (objs addr).isSome ↔ addr ∈ registers.map (·.address)) :
    Agrees base (registration.set device ⟨slave, registers⟩) (owner.set (base + slave) device)
        (fun key => if key.1 = device then (objs key.2).or (objects key) else objects key) ↔
      ∀ reg, registration device = some reg →
        slave = reg.slave ∧ reg.registers.map (·.address) ⊆ registers.map (·.address) := by
  constructor
  · intro h' reg hreg
    have hslave : base + reg.slave = base + slave := by
      by_contra hne
      have howner : owner.set (base + slave) device (base + reg.slave) = some device := by
        rw [Dict.set_of_ne _ _ hne]
        exact (h.owner _ _).2 ⟨reg, hreg, rfl⟩
      obtain ⟨reg', hreg', heq⟩ := (h'.owner _ _).1 howner
      rw [Dict.set_self] at hreg'
      obtain rfl := Option.some.inj hreg'
      exact hne heq
    refine ⟨by omega, fun addr haddr => ?_⟩
    have hobject : ((objs addr).or (objects (device, addr))).isSome := by
      rw [Option.isSome_or, Bool.or_eq_true]
      exact Or.inr ((h.objects _ _).2 ⟨reg, hreg, haddr⟩)
    obtain ⟨reg', hreg', hmem⟩ := (h'.objects device addr).1 (by simpa using hobject)
    rw [Dict.set_self] at hreg'
    obtain rfl := Option.some.inj hreg'
    exact hmem
  · intro hkeep
    refine of_owner_objects (fun inst d => ?_) (fun d addr => ?_)
    · by_cases hd : d = device
      · subst hd
        simp only [Dict.set_self, Option.some.injEq, exists_eq_left']
        by_cases hinst : inst = base + slave
        · simp [hinst]
        · rw [Dict.set_of_ne _ _ hinst, iff_false_right hinst, h.owner]
          rintro ⟨reg, hreg, rfl⟩
          exact hinst (by rw [(hkeep reg hreg).1])
      · rw [Dict.set_of_ne _ _ hd]
        by_cases hinst : inst = base + slave
        · subst hinst
          rw [Dict.set_self, Option.some.injEq, ← h.owner]
          exact iff_of_false (Ne.symm hd) fun hother => hd (hfree d hother)
        · rw [Dict.set_of_ne _ _ hinst, h.owner]
    · by_cases hd : d = device
      · subst hd
        simp only [if_true, Dict.set_self, Option.some.injEq, exists_eq_left', Option.isSome_or,
          Bool.or_eq_true, hobjs, h.objects]
        refine or_iff_left_of_imp ?_
        rintro ⟨reg, hreg, hmem⟩
        exact (hkeep reg hreg).2 hmem
      · simpa [hd, Dict.set_of_ne] using h.objects d addr

end Agrees

/-- The adapter, with what the latest successful add of each device was given. -/
structure BacnetRun where
  adapter : ProtocolAdapter BacnetAdapter
  latest : Dict UUID Registration := Dict.empty

namespace BacnetRun

open BacnetAdapter

/-- Whether a call raises or not, it leaves a state. -/
def step (s : BacnetRun) : BacnetCall → Option BacnetRun
  | .addDevice lib device slave registers =>
    let (adapter, result) := s.adapter.addDevice (doAddDevice lib) device slave registers
    match result with
    | .ok () => some ⟨adapter, s.latest.set device ⟨slave, registers⟩⟩
    | .error _ => some ⟨adapter, s.latest⟩
  | .removeDevice device => some { s with adapter := s.adapter.removeDevice doRemoveDevice device }

/-- The latest successful add of a device that is registered. -/
def registration (s : BacnetRun) : Dict UUID Registration := fun device =>
  (s.adapter.state.deviceApps device).bind fun _ => s.latest device

structure Consistent (s : BacnetRun) : Prop where
  apps : ∀ device, (s.registration device).isSome ↔ (s.adapter.state.deviceApps device).isSome
  agrees : Agrees s.adapter.state.base s.registration s.adapter.state.instanceOwner
    s.adapter.state.objects

/-- An add of a registered device is refused before its application is dropped, or nothing raises
in it and it repeats the slave and all the addresses of the latest one. -/
def KeepsRegistration (s : BacnetRun) : BacnetCall → Prop
  | .addDevice lib device slave registers => ∀ reg, s.registration device = some reg →
    s.adapter.state.running = false ∨ s.adapter.state.InstanceTaken device slave ∨
      (Buildable lib slave registers ∧ slave = reg.slave ∧
        reg.registers.map (·.address) ⊆ registers.map (·.address))
  | .removeDevice _ => True

variable {s s' : BacnetRun} {c : BacnetCall}

theorem step_addDevice {lib : BacpypesErrors} {device : UUID} {slave : ℤ}
    {registers : List RegisterInfo} {a' : BacnetAdapter} {result : Except AdapterError Unit}
    (hadd : s.adapter.state.doAddDevice lib device slave registers = (a', result))
    (hstep : step s (.addDevice lib device slave registers) = some s') :
    s'.adapter.state = a' ∧
      s'.latest = match result with
        | .ok () => s.latest.set device ⟨slave, registers⟩
        | .error _ => s.latest := by
  have hstate := s.adapter.state_addDevice (doAddDevice lib) device slave registers
  have hresult := s.adapter.result_addDevice (doAddDevice lib) device slave registers
  rw [hadd] at hstate hresult
  simp only [step] at hstep
  rw [hresult] at hstep
  cases result with
  | ok u =>
    obtain rfl := Option.some.inj hstep
    exact ⟨hstate, rfl⟩
  | error e =>
    obtain rfl := Option.some.inj hstep
    exact ⟨hstate, rfl⟩

theorem Consistent.congr (h : Consistent s) (hstate : s'.adapter.state = s.adapter.state)
    (hlatest : s'.latest = s.latest) : Consistent s' := by
  have hreg : s'.registration = s.registration := by
    unfold registration
    rw [hstate, hlatest]
  refine ⟨?_, ?_⟩
  · rw [hreg, hstate]
    exact h.apps
  · rw [hreg, hstate]
    exact h.agrees

theorem registration_pop {device : UUID}
    (happs : s'.adapter.state.deviceApps = s.adapter.state.deviceApps.pop device)
    (hlatest : s'.latest = s.latest) : s'.registration = s.registration.pop device := by
  funext d
  simp only [registration, happs, hlatest, Dict.pop_apply]
  split <;> rfl

theorem registration_set {device : UUID} {app : DeviceApplication} {reg : Registration}
    (happs : s'.adapter.state.deviceApps = s.adapter.state.deviceApps.set device app)
    (hlatest : s'.latest = s.latest.set device reg) :
    s'.registration = s.registration.set device reg := by
  funext d
  simp only [registration, happs, hlatest, Dict.set_apply]
  split <;> rfl

theorem consistent_iff_agrees
    (happs : ∀ d, (s.registration d).isSome ↔ (s.adapter.state.deviceApps d).isSome) :
    Consistent s ↔ Agrees s.adapter.state.base s.registration s.adapter.state.instanceOwner
      s.adapter.state.objects :=
  ⟨Consistent.agrees, fun h => ⟨happs, h⟩⟩

theorem Consistent.removeDevice (h : Consistent s) {device : UUID}
    (hstep : step s (.removeDevice device) = some s') : Consistent s' := by
  obtain rfl := Option.some.inj hstep
  obtain ⟨hbase, howner, hobjects⟩ := @dropStaleApp_frame s.adapter.state device
  have happs := @deviceApps_dropStaleApp s.adapter.state device
  have hreg : BacnetRun.registration
      { s with adapter := s.adapter.removeDevice doRemoveDevice device } =
        s.registration.pop device := registration_pop happs rfl
  refine ⟨fun d => ?_, ?_⟩
  · show _ ↔ ((s.adapter.state.dropStaleApp device).deviceApps d).isSome
    rw [hreg, happs, Dict.pop_apply, Dict.pop_apply]
    split
    next => exact Iff.rfl
    next => exact h.apps d
  · rw [hreg]
    simp only [ProtocolAdapter.state_removeDevice, doRemoveDevice, hbase, howner, hobjects]
    exact h.agrees.remove device

theorem consistent_addDevice_iff {lib : BacpypesErrors} {device : UUID} {slave : ℤ}
    {registers : List RegisterInfo} (h : Consistent s)
    (hstep : step s (.addDevice lib device slave registers) = some s') :
    Consistent s' ↔ KeepsRegistration s (.addDevice lib device slave registers) := by
  simp only [KeepsRegistration]
  rcases doAddDevice_cases lib s.adapter.state device slave registers with
    ⟨⟨e, hadd⟩, hrefused⟩ | ⟨hreached, ⟨a', e, hadd, hbuild, hdrop⟩ | ⟨a', hadd, hbuild, hadded⟩⟩
  · obtain ⟨hstate, hlatest⟩ := step_addDevice hadd hstep
    exact iff_of_true (h.congr hstate hlatest) fun _ _ => or_assoc.1 (Or.inl hrefused)
  · -- the old application is gone, the owner and the objects are still there
    obtain ⟨hstate, hlatest⟩ := step_addDevice hadd hstep
    have hreg : s'.registration = s.registration.pop device :=
      registration_pop (hstate ▸ hdrop.deviceApps) hlatest
    have happs : ∀ d, (s'.registration d).isSome ↔ (s'.adapter.state.deviceApps d).isSome := by
      intro d
      rw [hreg, hstate, hdrop.deviceApps, Dict.pop_apply, Dict.pop_apply]
      split
      next => exact Iff.rfl
      next => exact h.apps d
    rw [consistent_iff_agrees happs, hreg, hstate, hdrop.base, hdrop.instanceOwner, hdrop.objects,
      h.agrees.pop_iff device]
    constructor
    · intro hnone reg hsome
      cases hnone.symm.trans hsome
    · intro hkeep
      by_contra hsome
      obtain ⟨reg, hsome⟩ := Option.ne_none_iff_exists'.1 hsome
      rcases or_assoc.2 (hkeep reg hsome) with hrefused | ⟨hbuilt, -⟩
      · exact hreached hrefused
      · exact hbuild hbuilt
  · obtain ⟨hstate, hlatest⟩ := step_addDevice hadd hstep
    obtain ⟨app, happs⟩ := hadded.deviceApps
    obtain ⟨objs, hobjs, hobjects⟩ := hadded.objects
    have hreg : s'.registration = s.registration.set device ⟨slave, registers⟩ :=
      registration_set (hstate ▸ happs) hlatest
    have hfree : ∀ d, s.adapter.state.instanceOwner (s.adapter.state.base + slave) = some d →
        d = device := by
      intro d hd
      by_contra hne
      exact hreached (Or.inr ⟨d, hd, hne⟩)
    have hkeys : ∀ addr, (objs addr).isSome ↔ addr ∈ registers.map (·.address) := by
      intro addr
      rw [hobjs]
      simp
    have hset := h.agrees.set_iff hfree hkeys
    have hagrees : Consistent s' ↔ ∀ reg, s.registration device = some reg →
        slave = reg.slave ∧ reg.registers.map (·.address) ⊆ registers.map (·.address) := by
      rw [← hset]
      constructor
      · intro h'
        have hagrees := h'.agrees
        rwa [hreg, hstate, hadded.base, hadded.instanceOwner, hobjects] at hagrees
      · intro hagrees
        refine ⟨fun d => ?_, ?_⟩
        · rw [hreg, hstate, happs, Dict.set_apply, Dict.set_apply]
          split
          next => exact Iff.rfl
          next => exact h.apps d
        · rwa [hreg, hstate, hadded.base, hadded.instanceOwner, hobjects]
    rw [hagrees]
    refine forall_congr' fun reg => forall_congr' fun _ => ⟨fun hsame => ?_, fun hkeep => ?_⟩
    · exact Or.inr (Or.inr ⟨hbuild, hsame⟩)
    · exact ((or_assoc.2 hkeep).resolve_left hreached).2

/-- The owners and the objects stay those of the registered devices exactly when every add of a
registered device is refused at once, or succeeds with the same slave and no address less. -/
theorem always_registered_iff (running : Bool) (base : ℤ) (calls : List BacnetCall) :
    Always step Consistent { adapter := { state := { running, base } } } calls ↔
      EachStep step (fun s c _ => KeepsRegistration s c)
        { adapter := { state := { running, base } } } calls := by
  refine always_iff_eachStep (J := fun _ => True) (fun _ _ _ _ _ => trivial) ?_ trivial
    ⟨by simp [registration], Agrees.empty⟩
  intro s c s' _ h hstep
  cases c with
  | addDevice lib device slave registers => exact consistent_addDevice_iff h hstep
  | removeDevice device => exact iff_of_true (h.removeDevice hstep) trivial

/-- A device that is added again as another slave. -/
def movedDevice : List BacnetCall := [.addDevice {} 1 1 [], .addDevice {} 1 2 []]

theorem instance_kept :
    ¬ ∀ calls, Always step Consistent { adapter := { state := { running := true } } } calls := by
  intro h
  obtain ⟨hfirst, hrest⟩ := (h movedDevice).2 _ rfl
  obtain ⟨hagain, -⟩ := hrest _ rfl
  have hkeep : KeepsRegistration _ (.addDevice {} 1 2 []) :=
    (consistent_addDevice_iff hfirst rfl).1 hagain
  obtain hrun | ⟨owner, howner, hne⟩ | ⟨-, hslave, -⟩ := hkeep ⟨1, []⟩ rfl
  · cases hrun
  · cases howner
  · cases hslave

end BacnetRun

end GhostMeter.Protocols
