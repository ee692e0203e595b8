import GhostMeter.Models

/-! The documents of the system export and import. -/

namespace GhostMeter.Schemas

open GhostMeter.Lib GhostMeter.Simulation GhostMeter.Protocols

structure RegisterExport where
  name : String
  address : ℤ
  functionCode : ℤ
  dataType : DataType
  byteOrder : ByteOrder
  scaleFactor : PyFloat
  unit : Option String := none
  description : Option String := none
  sortOrder : ℤ := 0

structure TemplateExport where
  name : String
  protocol : Protocol
  description : Option String := none
  isBuiltin : Bool
  registers : List RegisterExport

structure DeviceExport where
  name : String
  templateName : String
  slaveId : ℤ
  port : ℤ := 502
  description : Option String := none

structure SimulationConfigExport where
  deviceName : String
  registerName : String
  dataMode : DataMode
  modeParams : Params := []
  isEnabled : Bool := true
  updateIntervalMs : ℤ := 1000

structure AnomalyScheduleExport where
  deviceName : String
  registerName : String
  anomalyType : AnomalyType
  anomalyParams : Params := []
  triggerAfterSeconds : ℤ
  durationSeconds : ℤ
  isEnabled : Bool := true

structure MqttBrokerSettingsExport where
  name : String := "default"
  host : String := "localhost"
  port : ℤ := 1883
  username : String := ""
  password : String := ""
  clientId : String := "ghostmeter"
  useTls : Bool := false

structure MqttPublishConfigExport where
  deviceName : String
  brokerName : String := "default"
  topicTemplate : String
  payloadMode : PayloadMode
  publishIntervalSeconds : ℤ
  qos : ℤ
  retain : Bool
  enabled : Bool

/-- `SystemExport` without the time it was taken at. -/
structure SystemExport where
  version : String := "1.0"
  templates : List TemplateExport
  devices : List DeviceExport
  simulationConfigs : List SimulationConfigExport
  anomalySchedules : List AnomalyScheduleExport
  mqttBrokers : List MqttBrokerSettingsExport := []
  mqttPublishConfigs : List MqttPublishConfigExport := []

/-- A document as the schema accepts it. -/
structure SystemImport where
  version : String
  templates : List TemplateExport := []
  devices : List DeviceExport := []
  simulationConfigs : List SimulationConfigExport := []
  anomalySchedules : List AnomalyScheduleExport := []
  mqttBrokers : List MqttBrokerSettingsExport := []
  /-- Of an export that knows one broker only. -/
  mqttBrokerSettings : Option MqttBrokerSettingsExport := none
  mqttPublishConfigs : List MqttPublishConfigExport := []
  version_valid : version = "1.0"

/-- An export, read back as an import document. -/
def SystemExport.toImport (e : SystemExport) (h : e.version = "1.0") : SystemImport where
  version := e.version
  templates := e.templates
  devices := e.devices
  simulationConfigs := e.simulationConfigs
  anomalySchedules := e.anomalySchedules
  mqttBrokers := e.mqttBrokers
  mqttPublishConfigs := e.mqttPublishConfigs
  version_valid := h

structure ImportResult where
  templatesCreated : ℕ := 0
  templatesUpdated : ℕ := 0
  templatesSkipped : ℕ := 0
  devicesCreated : ℕ := 0
  devicesUpdated : ℕ := 0
  simulationConfigsSet : ℕ := 0
  anomalySchedulesSet : ℕ := 0
  mqttBrokersSet : ℕ := 0
  mqttPublishConfigsSet : ℕ := 0
  deriving DecidableEq

end GhostMeter.Schemas
