import GhostMeter.Backend
import GhostMeter.Lib.Check

/-! The life of a device: its row, its registration with the adapter of its protocol, and its
simulation.  MQTT publishing and scenarios, which `start_device` and `stop_device` see to on
the way, are left out: nothing here depends on them. -/

namespace GhostMeter

open GhostMeter.Lib GhostMeter.Simulation GhostMeter.Protocols

def RegisterDefinition.toInfo (r : RegisterDefinition) : RegisterInfo where
  address := r.address
  functionCode := r.functionCode
  dataType := r.dataType
  byteOrder := r.byteOrder
  oid := r.oid
  name := some r.name
  unit := r.unit

/-- The configs of a device are unique by register name, which is a `String(100)`. -/
def SimulationProfile.Expandable (profile : SimulationProfile) : Prop :=
  (profile.configs.map (·.registerName)).Nodup ∧
    ∀ cfg ∈ profile.configs, cfg.registerName.length ≤ 100

instance (profile : SimulationProfile) : Decidable profile.Expandable :=
  inferInstanceAs (Decidable (_ ∧ _))

namespace Services

/-- The ports of the settings. -/
structure Settings where
  modbusPort : ℤ := 502
  snmpPort : ℤ := 10161
  opcuaPort : ℤ := 4840
  bacnetPort : ℤ := 47808
  mqttNominalPort : ℤ := 1883

/-- `_resolve_port`; a protocol without a port raises a `KeyError`. -/
def Settings.resolvePort (settings : Settings) : Protocol → Option ℤ
  | .modbusTcp => some settings.modbusPort
  | .snmp => some settings.snmpPort
  | .opcua => some settings.opcuaPort
  | .bacnet => some settings.bacnetPort
  | .mqtt => some settings.mqttNominalPort
  | .other _ => none

/-- `_PROTOCOL_SLAVE_ID_MAX`. -/
def protocolSlaveIdMax : Protocol → Option ℤ
  | .modbusTcp => some 247
  | .bacnet => some 247
  | _ => none

def validateSlaveIdCeiling (protocol : Protocol) (slave : ℤ) : Except AppException Unit :=
  match protocolSlaveIdMax protocol with
  | none => .ok ()
  | some limit => raiseIf (slave > limit)
      (validationException s!"Slave ID must be between 1 and {limit} for {protocol.name} devices")

/-- The devices but `exclude` are searched. -/
def checkSlaveIdAvailable (db : Database) (slave port : ℤ) (exclude : Option UUID) :
    Except AppException Unit :=
  raiseIf (∃ d ∈ db.devices, d.slaveId = slave ∧ d.port = port ∧ some d.id ≠ exclude)
    (validationException s!"Slave ID {slave} is already in use on port {port}")

structure DeviceCreate where
  templateId : UUID
  name : String
  slaveId : ℤ
  description : Option String := none
  /-- Absent, null, or an id. -/
  profileId : Option (Option UUID) := none
  slave_pos : 1 ≤ slaveId

structure DeviceUpdate where
  name : String
  slaveId : ℤ
  description : Option String := none
  slave_pos : 1 ≤ slaveId

/-- `_resolve_and_apply_profile`, up to the profile it resolves. -/
def resolveProfile (db : Database) (template : UUID) :
    Option (Option UUID) → Except AppException (Option SimulationProfile)
  | some none => .ok none
  | some (some profile) =>
    match db.simulationProfiles.find? (·.id = profile) with
    | none => .error (notFoundException "Simulation profile not found" "PROFILE_NOT_FOUND")
    | some p =>
      if p.templateId ≠ template then
        .error (validationException "Profile does not belong to the device's template")
      else .ok (some p)
  | none => .ok (db.simulationProfiles.find? fun p => p.templateId = template ∧ p.isDefault)

def applyProfileToDevice (db : Database) (profile : SimulationProfile) (device : UUID) :
    Except RequestError Database :=
  if profile.Expandable then .ok (profile.configs.foldl (·.insertConfig device) db)
  else .error .unhandled

/-- What the columns of a device can hold: a `String(200)`, an `Integer`, and texts without NUL. -/
def Storable (name : String) (slave : ℤ) (description : Option String) : Prop :=
  (name.length ≤ 200 ∧ '\x00' ∉ name.toList) ∧ slave < 2 ^ 31 ∧
    ∀ text ∈ description, '\x00' ∉ text.toList

instance (name : String) (slave : ℤ) (description : Option String) :
    Decidable (Storable name slave description) :=
  inferInstanceAs (Decidable (_ ∧ _ ∧ _))

def insertDevice (db : Database) (d : DeviceInstance) : Database :=
  { db with devices := db.devices ++ [{ d with id := db.nextId }], nextId := db.nextId + 1 }

/-- The port that a create or an update gives its device, once the checks before it pass. -/
def checkDevice (settings : Settings) (db : Database) (protocol : Protocol) (slave : ℤ)
    (exclude : Option UUID) : Except RequestError ℤ := do
  (validateSlaveIdCeiling protocol slave).mapError .app
  match settings.resolvePort protocol with
  | none => .error .unhandled
  | some port =>
    (checkSlaveIdAvailable db slave port exclude).mapError .app
    return port

/-- The row is committed before the profile is resolved. -/
def createDevice (settings : Settings) (db : Database) (data : DeviceCreate) :
    Database × Except RequestError UUID :=
  match (db.getTemplate data.templateId).mapError RequestError.app with
  | .error e => (db, .error e)
  | .ok template =>
    match checkDevice settings db template.protocol data.slaveId none with
    | .error e => (db, .error e)
    | .ok port =>
      if ¬ Storable data.name data.slaveId data.description then (db, .error .unhandled)
      else
        let device := db.nextId
        let db := insertDevice db {
          id := device, templateId := data.templateId, name := data.name, slaveId := data.slaveId,
          status := .stopped, port, description := data.description }
        match resolveProfile db data.templateId data.profileId with
        | .error e => (db, .error (.app e))
        | .ok none => (db, .ok device)
        | .ok (some profile) =>
          match applyProfileToDevice db profile device with
          | .error e => (db, .error e)
          | .ok db => (db, .ok device)

def checkNotRunning (d : DeviceInstance) (action : String) : Except AppException Unit :=
  raiseIf (d.status = .running)
    (conflictException s!"Cannot {action} a running device" "DEVICE_RUNNING")

def updateDevice (settings : Settings) (db : Database) (device : UUID) (data : DeviceUpdate) :
    Except RequestError Database := do
  let d ← (db.getDeviceOr404 device).mapError .app
  (checkNotRunning d "update").mapError .app
  let template ← (db.getTemplate d.templateId).mapError .app
  let port ← checkDevice settings db template.protocol data.slaveId (some device)
  return db.updateDevice device fun d => { d with
    name := data.name, slaveId := data.slaveId, port, description := data.description }

/-- The row goes with everything that refers to it. -/
def deleteRow (db : Database) (device : UUID) : Database :=
  { db with
    devices := db.devices.filter (·.id ≠ device)
    simulationConfigs := db.simulationConfigs.filter (·.deviceId ≠ device)
    anomalySchedules := db.anomalySchedules.filter (·.deviceId ≠ device)
    mqttPublishConfigs := db.mqttPublishConfigs.filter (·.deviceId ≠ device) }

def deleteDevice (db : Database) (device : UUID) : Except AppException Database := do
  let d ← db.getDeviceOr404 device
  checkNotRunning d "delete"
  return deleteRow db device

variable {α : Type} (methods : AdapterMethods α)

/-- The device's registration with the adapter of its template's protocol. -/
def addToAdapter (s : Backend α) (device : DeviceInstance) (template : DeviceTemplate) :
    ProtocolManager α × Except String Unit :=
  let registerInfos := (s.db.registersOf template.id).map (·.toInfo)
  let manager :=
    if template.protocol = .opcua ∨ template.protocol = .bacnet then
      s.manager.setDeviceMeta methods template.protocol device.id device.name
    else s.manager
  manager.addDevice methods template.protocol device.id device.slaveId registerInfos

/-- An exception is its text; one out of the engine's start would only be logged. -/
def registerDeviceRuntime (s : Backend α) (device : DeviceInstance) (template : DeviceTemplate) :
    Backend α × Except String Unit :=
  if ¬ s.manager.isRunning then (s, .ok ())
  else
    match addToAdapter methods s device template with
    | (manager, .error e) => ({ s with manager }, .error e)
    | (manager, .ok ()) => (({ s with manager } : Backend α).startSimulation device.id, .ok ())

/-- One round of the loop of `resume_running_devices`: a failure is only logged. -/
def resumeDevice (s : Backend α) (device : DeviceInstance) : Backend α :=
  match s.db.getTemplate device.templateId with
  | .error _ => s
  | .ok template => (registerDeviceRuntime methods s device template).1

def resumeRunningDevices (s : Backend α) : Backend α :=
  (s.db.devices.filter (·.status = .running)).foldl (resumeDevice methods) s

def startDevice (s : Backend α) (device : UUID) : Backend α × Except AppException DeviceInstance :=
  match s.db.getDeviceOr404 device with
  | .error e => (s, .error e)
  | .ok d =>
    if d.status ≠ .stopped then
      (s, .error (conflictException s!"Device is already {d.status.name}"
        "INVALID_STATE_TRANSITION"))
    else
      match s.db.getTemplate d.templateId with
      | .error e => (s, .error e)
      | .ok template =>
        match registerDeviceRuntime methods s d template with
        | (s, .error e) =>
          ({ s with db := s.db.setStatus device .error },
            .error (conflictException s!"Failed to start device: {e}" "PROTOCOL_ERROR"))
        | (s, .ok ()) =>
          ({ s with db := s.db.setStatus device .running }, .ok { d with status := .running })

/-- What fails on the way is logged or ignored. -/
def stopDevice (s : Backend α) (device : UUID) : Backend α × Except AppException DeviceInstance :=
  match s.db.getDeviceOr404 device with
  | .error e => (s, .error e)
  | .ok d =>
    if d.status = .stopped then
      (s, .error (conflictException "Device is already stopped" "INVALID_STATE_TRANSITION"))
    else
      let s := (s.stopSimulation device).1
      let stopped (s : Backend α) : Backend α × Except AppException DeviceInstance :=
        ({ s with db := s.db.setStatus device .stopped }, .ok { d with status := .stopped })
      if s.manager.isRunning then
        match s.db.getTemplate d.templateId with
        | .error e => (s, .error e)
        | .ok template => stopped { s with
            manager := (s.manager.removeDevice methods template.protocol device).1 }
      else stopped s

/-- What a start does. -/
theorem startDevice_cases (s : Backend α) (device : UUID) :
    ((startDevice methods s device).1 = s ∧
      ∀ d, s.db.findDevice device = some d → d.status = .stopped →
        s.db.findTemplate d.templateId = none) ∨
    ∃ d template, s.db.findDevice device = some d ∧ d.status = .stopped ∧
      s.db.findTemplate d.templateId = some template ∧
      ((s.manager.isRunning = false ∧
          (startDevice methods s device).1 = { s with db := s.db.setStatus device .running }) ∨
        (s.manager.isRunning = true ∧
          (∃ e, (addToAdapter methods s d template).2 = .error e) ∧
          (startDevice methods s device).1 =
            { s with
              manager := (addToAdapter methods s d template).1
              db := s.db.setStatus device .error }) ∨
        (s.manager.isRunning = true ∧ (addToAdapter methods s d template).2 = .ok () ∧
          (startDevice methods s device).1 =
            { s with
              manager := (addToAdapter methods s d template).1
              engine := (s.startSimulation device).engine
              db := s.db.setStatus device .running })) := by
  unfold startDevice Database.getDeviceOr404
  cases hd : s.db.findDevice device with
  | none => exact Or.inl ⟨rfl, by simp⟩
  | some d =>
    have hid : d.id = device := Table.key_of_find hd
    by_cases hstatus : d.status = .stopped
    · cases ht : s.db.findTemplate d.templateId with
      | none =>
        refine Or.inl ⟨by simp [hstatus, Database.getTemplate, ht], ?_⟩
        rintro _ ⟨⟩ -
        exact ht
      | some template =>
        refine Or.inr ⟨d, template, rfl, hstatus, ht, ?_⟩
        simp only [Database.getTemplate, ht, hstatus, ne_eq, not_true_eq_false, if_false,
          registerDeviceRuntime]
        by_cases hrun : s.manager.isRunning = true
        · refine Or.inr ?_
          simp only [hrun, not_true_eq_false, if_false]
          rcases addToAdapter methods s d template with ⟨manager, e | u⟩
          · exact Or.inl ⟨trivial, ⟨e, rfl⟩, rfl⟩
          · exact Or.inr ⟨trivial, rfl, by simp [Backend.startSimulation, hid]⟩
        · exact Or.inl ⟨by simpa using hrun, by simp [hrun]⟩
    · exact Or.inl ⟨by simp [hstatus], by rintro _ ⟨⟩ h; exact absurd h hstatus⟩

/-- What a stop does. -/
theorem stopDevice_cases (s : Backend α) (device : UUID) :
    ((stopDevice methods s device).1 = s ∧
      ∀ d, s.db.findDevice device = some d → d.status = .stopped) ∨
    ∃ d, s.db.findDevice device = some d ∧ d.status ≠ .stopped ∧
      ((s.manager.isRunning = true ∧ s.db.findTemplate d.templateId = none ∧
          (stopDevice methods s device).1 = (s.stopSimulation device).1) ∨
        (s.manager.isRunning = false ∧
          (stopDevice methods s device).1 =
            { s with
              engine := (s.stopSimulation device).1.engine
              db := s.db.setStatus device .stopped }) ∨
        ∃ template, s.manager.isRunning = true ∧
          s.db.findTemplate d.templateId = some template ∧
          (stopDevice methods s device).1 =
            { s with
              engine := (s.stopSimulation device).1.engine
              db := s.db.setStatus device .stopped
              manager := (s.manager.removeDevice methods template.protocol device).1 }) := by
  unfold stopDevice Database.getDeviceOr404
  cases hd : s.db.findDevice device with
  | none => exact Or.inl ⟨rfl, by simp⟩
  | some d =>
    by_cases hstatus : d.status = .stopped
    · exact Or.inl ⟨by simp [hstatus], by rintro _ ⟨⟩; exact hstatus⟩
    · refine Or.inr ⟨d, rfl, hstatus, ?_⟩
      simp only [hstatus, if_false, Backend.stopSimulation, Database.getTemplate]
      by_cases hrun : s.manager.isRunning = true
      · cases ht : s.db.findTemplate d.templateId with
        | none => exact Or.inl ⟨hrun, rfl, by simp [hrun]⟩
        | some template => exact Or.inr (Or.inr ⟨template, hrun, rfl, by simp [hrun]⟩)
      · exact Or.inr (Or.inl ⟨by simpa using hrun, by simp [hrun]⟩)

theorem isRunning_addToAdapter (s : Backend α) (d : DeviceInstance) (template : DeviceTemplate) :
    (addToAdapter methods s d template).1.isRunning = s.manager.isRunning := by
  rw [addToAdapter, ProtocolManager.isRunning_addDevice]
  split
  next => exact ProtocolManager.isRunning_setDeviceMeta _
  next => rfl

/-- What becomes of the registrations. -/
theorem registered_addToAdapter (s : Backend α) (d : DeviceInstance) (template : DeviceTemplate) :
    (∃ e, (addToAdapter methods s d template).2 = .error e ∧
      (¬ s.manager.Registered template.protocol d.id → ∀ p device,
        (addToAdapter methods s d template).1.Registered p device ↔
          s.manager.Registered p device)) ∨
    ((addToAdapter methods s d template).2 = .ok () ∧ ∀ p device,
      (addToAdapter methods s d template).1.Registered p device ↔
        (p = template.protocol ∧ device = d.id) ∨ s.manager.Registered p device) := by
  have hmeta : ∀ p device, (if template.protocol = .opcua ∨ template.protocol = .bacnet then
        s.manager.setDeviceMeta methods template.protocol d.id d.name
      else s.manager).Registered p device ↔ s.manager.Registered p device := by
    intro p device
    split
    next => exact ProtocolManager.registered_setDeviceMeta _
    next => rfl
  have hadd := @ProtocolManager.registered_addDevice α methods
    (if template.protocol = .opcua ∨ template.protocol = .bacnet then
      s.manager.setDeviceMeta methods template.protocol d.id d.name else s.manager)
    template.protocol d.id d.slaveId ((s.db.registersOf template.id).map (·.toInfo))
  simp only [hmeta] at hadd
  exact hadd

end Services

end GhostMeter
