import GhostMeter.Lib.Table
import GhostMeter.Protocols.Base
import GhostMeter.Simulation.AnomalyInjector

/-! The rows of the database.  Timestamps are left out: nothing modelled reads them. -/

namespace GhostMeter

open GhostMeter.Lib GhostMeter.Simulation GhostMeter.Protocols

structure RegisterDefinition where
  id : UUID
  templateId : UUID
  name : String
  address : ℤ
  functionCode : ℤ
  dataType : DataType
  byteOrder : ByteOrder
  scaleFactor : PyFloat
  unit : Option String
  description : Option String
  sortOrder : ℤ
  oid : Option String

structure DeviceTemplate where
  id : UUID
  name : String
  protocol : Protocol
  description : Option String
  isBuiltin : Bool

inductive DeviceStatus
  | stopped | running | error
  deriving DecidableEq

def DeviceStatus.name : DeviceStatus → String
  | stopped => "stopped"
  | running => "running"
  | error => "error"

structure DeviceInstance where
  id : UUID
  templateId : UUID
  name : String
  slaveId : ℤ
  status : DeviceStatus
  port : ℤ
  description : Option String

inductive DataMode
  | static | random | dailyCurve | computed | accumulator
  | other (name : String)
  deriving DecidableEq

def DataMode.isKnown : DataMode → Bool
  | other _ => false
  | _ => true

theorem DataMode.isKnown_iff (dataMode : DataMode) :
    dataMode.isKnown = true ↔ ∀ name, dataMode ≠ .other name := by
  cases dataMode <;> simp [isKnown]

/-- What a simulation config says about its register. -/
structure ConfigEntry where
  registerName : String
  dataMode : DataMode
  modeParams : Params := []
  isEnabled : Bool := true
  updateIntervalMs : ℤ := 1000

structure SimulationConfig extends ConfigEntry where
  id : UUID
  deviceId : UUID

structure SimulationProfile where
  id : UUID
  templateId : UUID
  name : String
  description : Option String
  isBuiltin : Bool
  isDefault : Bool
  configs : List ConfigEntry

structure ScenarioStep where
  id : UUID
  registerName : String
  anomalyType : AnomalyType
  anomalyParams : Params
  triggerAtSeconds : ℤ
  durationSeconds : ℤ
  sortOrder : ℤ

/-- A scenario, with its steps in the order of the relationship. -/
structure Scenario where
  id : UUID
  templateId : UUID
  name : String
  description : Option String
  isBuiltin : Bool
  totalDurationSeconds : ℤ
  steps : List ScenarioStep

structure AnomalySchedule extends ScheduleEntry where
  id : UUID
  deviceId : UUID
  isEnabled : Bool

structure MqttBrokerSettings where
  id : UUID
  name : String
  host : String
  port : ℤ
  username : String
  password : String
  clientId : String
  useTls : Bool

inductive PayloadMode
  | batch | perRegister
  | other (name : String)
  deriving DecidableEq

structure MqttPublishConfig where
  id : UUID
  deviceId : UUID
  brokerId : UUID
  topicTemplate : String
  payloadMode : PayloadMode
  publishIntervalSeconds : ℤ
  qos : ℤ
  retain : Bool
  enabled : Bool

/-- The unique constraint of the table, as of the other tables with a `key`. -/
def DeviceInstance.key (d : DeviceInstance) : ℤ × ℤ := (d.slaveId, d.port)

def RegisterDefinition.key (r : RegisterDefinition) : UUID × String := (r.templateId, r.name)

def SimulationConfig.key (c : SimulationConfig) : UUID × String := (c.deviceId, c.registerName)

def AnomalySchedule.key (s : AnomalySchedule) : UUID × String × ℤ :=
  (s.deviceId, s.registerName, s.triggerAfterSeconds)

def MqttPublishConfig.key (m : MqttPublishConfig) : UUID × UUID := (m.deviceId, m.brokerId)

structure Database where
  templates : List DeviceTemplate := []
  registers : List RegisterDefinition := []
  devices : List DeviceInstance := []
  simulationConfigs : List SimulationConfig := []
  simulationProfiles : List SimulationProfile := []
  scenarios : List Scenario := []
  anomalySchedules : List AnomalySchedule := []
  mqttBrokers : List MqttBrokerSettings := []
  mqttPublishConfigs : List MqttPublishConfig := []
  /-- The next id that `uuid4` generates; the rows have smaller ones. -/
  nextId : UUID := 0

namespace Database

def findDevice (db : Database) (device : UUID) : Option DeviceInstance :=
  Table.find DeviceInstance.id db.devices device

def findTemplate (db : Database) (template : UUID) : Option DeviceTemplate :=
  Table.find DeviceTemplate.id db.templates template

def templateNamed (db : Database) : Dict String DeviceTemplate :=
  Table.find DeviceTemplate.name db.templates

def deviceAt (db : Database) : Dict (ℤ × ℤ) DeviceInstance :=
  Table.find DeviceInstance.key db.devices

def brokerNamed (db : Database) : Dict String MqttBrokerSettings :=
  Table.find MqttBrokerSettings.name db.mqttBrokers

def registerNamed (db : Database) : Dict (UUID × String) RegisterDefinition :=
  Table.find RegisterDefinition.key db.registers

def publishConfigFor (db : Database) : Dict (UUID × UUID) MqttPublishConfig :=
  Table.find MqttPublishConfig.key db.mqttPublishConfigs

/-- `template.registers`, in the order of the relationship. -/
def registersOf (db : Database) (template : UUID) : List RegisterDefinition :=
  (db.registers.filter (·.templateId = template)).mergeSort (·.sortOrder ≤ ·.sortOrder)

def updateDevice (db : Database) (device : UUID) (f : DeviceInstance → DeviceInstance) :
    Database :=
  { db with devices := Table.update DeviceInstance.id db.devices device f }

def setStatus (db : Database) (device : UUID) (status : DeviceStatus) : Database :=
  db.updateDevice device fun d => { d with status }

def insertConfig (db : Database) (device : UUID) (cfg : ConfigEntry) : Database :=
  { db with
    simulationConfigs := db.simulationConfigs ++
      [{ toConfigEntry := cfg, id := db.nextId, deviceId := device }]
    nextId := db.nextId + 1 }

/-- `_get_device_or_404`, and `_get_device_raw` of the device service. -/
def getDeviceOr404 (db : Database) (device : UUID) : Except AppException DeviceInstance :=
  match db.findDevice device with
  | some d => .ok d
  | none => .error (notFoundException "Device not found" "DEVICE_NOT_FOUND")

def getTemplate (db : Database) (template : UUID) : Except AppException DeviceTemplate :=
  match db.findTemplate template with
  | some t => .ok t
  | none => .error (notFoundException "Template not found" "TEMPLATE_NOT_FOUND")

/-- The enabled configs stored for a device. -/
def storedEnabled (db : Database) (device : UUID) : List SimulationConfig :=
  db.simulationConfigs.filter fun c => c.deviceId = device ∧ c.isEnabled

/-- The configs that `_load_device_data` returns. -/
def enabledConfigs (db : Database) (device : UUID) : List SimulationConfig :=
  match db.findDevice device with
  | none => []
  | some _ => db.storedEnabled device

/-- `_load_anomaly_schedules`. -/
def enabledSchedules (db : Database) (device : UUID) : List ScheduleEntry :=
  (db.anomalySchedules.filter fun s => s.deviceId = device ∧ s.isEnabled).map
    fun s => s.toScheduleEntry

variable {db : Database} {device d : UUID}

theorem findDevice_updateDevice {f : DeviceInstance → DeviceInstance} (hf : ∀ r, (f r).id = r.id) :
    (db.updateDevice device f).findDevice d =
      (db.findDevice d).map fun r => if r.id = device then f r else r :=
  Table.find_update hf

theorem findDevice_setStatus (status : DeviceStatus) :
    (db.setStatus device status).findDevice d =
      (db.findDevice d).map fun r => if r.id = device then { r with status } else r :=
  findDevice_updateDevice fun _ => rfl

theorem findDevice_setStatus_self (status : DeviceStatus) :
    (db.setStatus device status).findDevice device =
      (db.findDevice device).map fun r => { r with status } :=
  Table.find_update_self fun _ => rfl

theorem findDevice_setStatus_of_ne (status : DeviceStatus) (h : d ≠ device) :
    (db.setStatus device status).findDevice d = db.findDevice d :=
  Table.find_update_of_ne (fun _ => rfl) h

theorem enabledConfigs_setStatus (status : DeviceStatus) :
    (db.setStatus device status).enabledConfigs = db.enabledConfigs := by
  funext d
  unfold Database.enabledConfigs
  rw [findDevice_setStatus]
  cases db.findDevice d <;> rfl

theorem enabledConfigs_of_found (h : (db.findDevice d).isSome) :
    db.enabledConfigs d = db.storedEnabled d := by
  unfold enabledConfigs
  cases hd : db.findDevice d with
  | none => simp [hd] at h
  | some r => rfl

theorem enabledConfigs_congr {db' : Database} (hf : db'.findDevice d = db.findDevice d)
    (hs : db'.storedEnabled d = db.storedEnabled d) :
    db'.enabledConfigs d = db.enabledConfigs d := by
  unfold enabledConfigs
  rw [hf, hs]

theorem getTemplate_ok_iff {template : UUID} {t : DeviceTemplate} :
    db.getTemplate template = .ok t ↔ db.findTemplate template = some t := by
  rw [getTemplate]
  cases db.findTemplate template <;> simp

/-- The rows that a run of inserts appends. -/
theorem insertConfigs (db : Database) (device : UUID) (entries : List ConfigEntry) :
    ∃ rows : List SimulationConfig, rows.map (·.toConfigEntry) = entries ∧
      rows.map (·.id) = List.range' db.nextId rows.length ∧ (∀ r ∈ rows, r.deviceId = device) ∧
      entries.foldl (·.insertConfig device) db =
        { db with
          simulationConfigs := db.simulationConfigs ++ rows
          nextId := db.nextId + entries.length } := by
  induction entries generalizing db with
  | nil => exact ⟨[], rfl, rfl, by simp, by simp⟩
  | cons e entries ih =>
    obtain ⟨rows, hrows, hids, hdevice, hdb⟩ := ih (db.insertConfig device e)
    refine ⟨⟨e, db.nextId, device⟩ :: rows, by simp [hrows], ?_, by simpa using hdevice, ?_⟩
    · rw [List.map_cons, hids, List.length_cons, List.range'_succ]
      rfl
    rw [List.foldl_cons, hdb]
    simp [Database.insertConfig, Nat.add_assoc, Nat.add_comm 1]

end Database

end GhostMeter
