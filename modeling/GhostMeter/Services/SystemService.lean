import GhostMeter.Schemas.System
import GhostMeter.Services.TemplateService

/-! Export and import of the whole configuration. -/

namespace GhostMeter

open GhostMeter.Lib GhostMeter.Simulation GhostMeter.Protocols GhostMeter.Schemas

def RegisterDefinition.toExport (r : RegisterDefinition) : RegisterExport where
  name := r.name
  address := r.address
  functionCode := r.functionCode
  dataType := r.dataType
  byteOrder := r.byteOrder
  scaleFactor := r.scaleFactor
  unit := r.unit
  description := r.description
  sortOrder := r.sortOrder

def DeviceTemplate.toExport (db : Database) (t : DeviceTemplate) : TemplateExport where
  name := t.name
  protocol := t.protocol
  description := t.description
  isBuiltin := t.isBuiltin
  registers := (db.registersOf t.id).map (·.toExport)

def DeviceInstance.toExport (d : DeviceInstance) (templateName : String) : DeviceExport where
  name := d.name
  templateName := templateName
  slaveId := d.slaveId
  port := d.port
  description := d.description

def SimulationConfig.toExport (c : SimulationConfig) (deviceName : String) :
    SimulationConfigExport where
  deviceName := deviceName
  registerName := c.registerName
  dataMode := c.dataMode
  modeParams := c.modeParams
  isEnabled := c.isEnabled
  updateIntervalMs := c.updateIntervalMs

def AnomalySchedule.toExport (s : AnomalySchedule) (deviceName : String) :
    AnomalyScheduleExport where
  deviceName := deviceName
  registerName := s.registerName
  anomalyType := s.anomalyType
  anomalyParams := s.anomalyParams
  triggerAfterSeconds := s.triggerAfterSeconds
  durationSeconds := s.durationSeconds
  isEnabled := s.isEnabled

def MqttBrokerSettings.toExport (b : MqttBrokerSettings) : MqttBrokerSettingsExport where
  name := b.name
  host := b.host
  port := b.port
  username := b.username
  password := b.password
  clientId := b.clientId
  useTls := b.useTls

def MqttPublishConfig.toExport (m : MqttPublishConfig) (deviceName brokerName : String) :
    MqttPublishConfigExport where
  deviceName := deviceName
  brokerName := brokerName
  topicTemplate := m.topicTemplate
  payloadMode := m.payloadMode
  publishIntervalSeconds := m.publishIntervalSeconds
  qos := m.qos
  retain := m.retain
  enabled := m.enabled

/-- The row that an import makes of a register; its ids are still to come. -/
def Schemas.RegisterExport.toRow (r : RegisterExport) : RegisterDefinition where
  id := 0
  templateId := 0
  name := r.name
  address := r.address
  functionCode := r.functionCode
  dataType := r.dataType
  byteOrder := r.byteOrder
  scaleFactor := r.scaleFactor
  unit := r.unit
  description := r.description
  sortOrder := r.sortOrder
  oid := none

namespace Services

section Export

/-- The devices joined with the names of their templates. -/
def deviceRows (db : Database) : List (DeviceInstance × String) :=
  db.devices.filterMap fun d => (db.findTemplate d.templateId).map fun t => (d, t.name)

/-- `device_id_to_name`: the dictionary that the loop over the joined rows builds. -/
def deviceIdToName (db : Database) : Dict UUID String :=
  (deviceRows db).foldl (fun names row => names.set row.1.id row.1.name) Dict.empty

def brokerIdToName (db : Database) : Dict UUID String :=
  db.mqttBrokers.foldl (fun names b => names.set b.id b.name) Dict.empty

/-- The export of the rows of a table that refer to a device. -/
def exportRows {α β : Type} (names : Dict UUID String) (deviceId : α → UUID)
    (toExport : α → String → β) (rows : List α) : List β :=
  rows.filterMap fun r => (names (deviceId r)).map (toExport r)

def exportSystem (db : Database) : SystemExport where
  version := "1.0"
  templates := db.templates.map (·.toExport db)
  devices := (deviceRows db).map fun row => row.1.toExport row.2
  simulationConfigs := exportRows (deviceIdToName db) (·.deviceId) SimulationConfig.toExport
    db.simulationConfigs
  anomalySchedules := exportRows (deviceIdToName db) (·.deviceId) AnomalySchedule.toExport
    db.anomalySchedules
  mqttBrokers := (db.mqttBrokers.mergeSort (·.name ≤ ·.name)).map (·.toExport)
  mqttPublishConfigs := db.mqttPublishConfigs.filterMap fun m =>
    (deviceIdToName db m.deviceId).bind fun deviceName =>
      (brokerIdToName db m.brokerId).map (m.toExport deviceName)

end Export

section Import

/-- The transaction of an import, and the dictionaries it goes by. -/
structure ImportState where
  db : Database
  templateNameToId : Dict String UUID := Dict.empty
  deviceNameToId : Dict String UUID := Dict.empty
  brokerNameToId : Dict String UUID := Dict.empty
  simDevicesCleared : List String := []
  schedDevicesCleared : List String := []
  result : ImportResult := {}

/-- One round of step 1; `existing` are the templates before the import. -/
def importTemplate (existing : Dict String DeviceTemplate) (s : ImportState)
    (t : TemplateExport) : Except RequestError ImportState :=
  match t.isBuiltin, existing t.name with
  | true, found => .ok { s with
      templateNameToId := match found with
        | some e => s.templateNameToId.set t.name e.id
        | none => s.templateNameToId
      result := { s.result with templatesSkipped := s.result.templatesSkipped + 1 } }
  | false, some e => do
    let db := { s.db with
      templates := Table.update DeviceTemplate.name s.db.templates t.name fun row =>
        { row with protocol := t.protocol, description := t.description }
      registers := s.db.registers.filter (·.templateId ≠ e.id) }
    let db ← insertRegisters db e.id (t.registers.map (·.toRow))
    return { s with
      db
      templateNameToId := s.templateNameToId.set t.name e.id
      result := { s.result with templatesUpdated := s.result.templatesUpdated + 1 } }
  | false, none => do
    constraint (∀ row ∈ s.db.templates, row.name ≠ t.name)
    let template := s.db.nextId
    let db := { s.db with
      templates := s.db.templates ++ [{
        id := template
        name := t.name
        protocol := t.protocol
        description := t.description
        isBuiltin := false }]
      nextId := s.db.nextId + 1 }
    let db ← insertRegisters db template (t.registers.map (·.toRow))
    return { s with
      db
      templateNameToId := s.templateNameToId.set t.name template
      result := { s.result with templatesCreated := s.result.templatesCreated + 1 } }

/-- The templates that the document does not name. -/
def mapOtherTemplates (existing : List DeviceTemplate) (s : ImportState) : ImportState :=
  { s with templateNameToId := existing.foldl (fun ids t =>
      if (ids t.name).isSome then ids else ids.set t.name t.id) s.templateNameToId }

/-- One round of step 2; `existing` are the devices before the import. -/
def importDevice (existing : Dict (ℤ × ℤ) DeviceInstance) (s : ImportState) (d : DeviceExport) :
    Except RequestError ImportState :=
  match s.templateNameToId d.templateName with
  | none => .error (.app (validationException
      s!"Device '{d.name}' references unknown template '{d.templateName}'"))
  | some template =>
    match existing (d.slaveId, d.port) with
    | some e => .ok { s with
        db := { s.db with
          devices := Table.update DeviceInstance.key s.db.devices (d.slaveId, d.port) fun row =>
            { row with
              name := d.name
              templateId := template
              description := d.description
              status := if row.status = .running then .stopped else row.status } }
        deviceNameToId := s.deviceNameToId.set d.name e.id
        result := { s.result with devicesUpdated := s.result.devicesUpdated + 1 } }
    | none => do
      constraint (∀ row ∈ s.db.devices, row.key ≠ (d.slaveId, d.port))
      let device := s.db.nextId
      return { s with
        db := { s.db with
          devices := s.db.devices ++ [{
            id := device
            templateId := template
            name := d.name
            slaveId := d.slaveId
            status := .stopped
            port := d.port
            description := d.description }]
          nextId := s.db.nextId + 1 }
        deviceNameToId := s.deviceNameToId.set d.name device
        result := { s.result with devicesCreated := s.result.devicesCreated + 1 } }

/-- The devices that the document does not name, by the names they have now. -/
def mapOtherDevices (existing : List DeviceInstance) (s : ImportState) : ImportState :=
  { s with deviceNameToId := existing.foldl (fun ids e =>
      match s.db.findDevice e.id with
      | some d => if (ids d.name).isSome then ids else ids.set d.name d.id
      | none => ids) s.deviceNameToId }

/-- A new row of a table whose rows belong to devices: the device loses its old rows when it
gets its first new one, and what each row is about is unique for the device. -/
def replaceRow {α ι : Type} [DecidableEq ι] (key : α → UUID × ι) (rows : List α)
    (cleared : List String) (name : String) (row : α) :
    Except RequestError (List α × List String) :=
  let (rows, cleared) :=
    if name ∈ cleared then (rows, cleared)
    else (rows.filter fun r => (key r).1 ≠ (key row).1, name :: cleared)
  do
    constraint (∀ r ∈ rows, key r ≠ key row)
    return (rows ++ [row], cleared)

/-- One round of step 3. -/
def importSimulationConfig (s : ImportState) (c : SimulationConfigExport) :
    Except RequestError ImportState :=
  match s.deviceNameToId c.deviceName with
  | none => .ok s
  | some device => do
    let (simulationConfigs, simDevicesCleared) ← replaceRow SimulationConfig.key
      s.db.simulationConfigs s.simDevicesCleared c.deviceName {
        id := s.db.nextId
        deviceId := device
        registerName := c.registerName
        dataMode := c.dataMode
        modeParams := c.modeParams
        isEnabled := c.isEnabled
        updateIntervalMs := c.updateIntervalMs }
    return { s with
      db := { s.db with simulationConfigs, nextId := s.db.nextId + 1 }
      simDevicesCleared
      result := { s.result with simulationConfigsSet := s.result.simulationConfigsSet + 1 } }

/-- One round of step 4. -/
def importAnomalySchedule (s : ImportState) (e : AnomalyScheduleExport) :
    Except RequestError ImportState :=
  match s.deviceNameToId e.deviceName with
  | none => .ok s
  | some device => do
    let (anomalySchedules, schedDevicesCleared) ← replaceRow AnomalySchedule.key
      s.db.anomalySchedules s.schedDevicesCleared e.deviceName {
        id := s.db.nextId
        deviceId := device
        registerName := e.registerName
        anomalyType := e.anomalyType
        anomalyParams := e.anomalyParams
        triggerAfterSeconds := e.triggerAfterSeconds
        durationSeconds := e.durationSeconds
        isEnabled := e.isEnabled }
    return { s with
      db := { s.db with anomalySchedules, nextId := s.db.nextId + 1 }
      schedDevicesCleared
      result := { s.result with anomalySchedulesSet := s.result.anomalySchedulesSet + 1 } }

/-- One round of step 5. -/
def importBroker (s : ImportState) (b : MqttBrokerSettingsExport) : ImportState :=
  let result := { s.result with mqttBrokersSet := s.result.mqttBrokersSet + 1 }
  match s.db.brokerNamed b.name with
  | none =>
    let broker := s.db.nextId
    { s with
      db := { s.db with
        mqttBrokers := s.db.mqttBrokers ++ [{
          id := broker
          name := b.name
          host := b.host
          port := b.port
          username := b.username
          password := b.password
          clientId := b.clientId
          useTls := b.useTls }]
        nextId := s.db.nextId + 1 }
      brokerNameToId := s.brokerNameToId.set b.name broker
      result }
  | some e =>
    { s with
      db := { s.db with
        mqttBrokers := Table.update MqttBrokerSettings.name s.db.mqttBrokers b.name fun row =>
          { row with
            host := b.host
            port := b.port
            username := b.username
            password := if b.password ≠ "****" then b.password else row.password
            clientId := b.clientId
            useTls := b.useTls } }
      brokerNameToId := s.brokerNameToId.set b.name e.id
      result }

/-- The brokers that the document does not name. -/
def mapOtherBrokers (s : ImportState) : ImportState :=
  { s with brokerNameToId := s.db.mqttBrokers.foldl (fun ids b =>
      if (ids b.name).isSome then ids else ids.set b.name b.id) s.brokerNameToId }

/-- One round of step 6. -/
def importPublishConfig (s : ImportState) (m : MqttPublishConfigExport) : ImportState :=
  match s.deviceNameToId m.deviceName, s.brokerNameToId m.brokerName with
  | some device, some broker =>
    let result := { s.result with mqttPublishConfigsSet := s.result.mqttPublishConfigsSet + 1 }
    match s.db.publishConfigFor (device, broker) with
    | none =>
      { s with
        db := { s.db with
          mqttPublishConfigs := s.db.mqttPublishConfigs ++ [{
            id := s.db.nextId
            deviceId := device
            brokerId := broker
            topicTemplate := m.topicTemplate
            payloadMode := m.payloadMode
            publishIntervalSeconds := m.publishIntervalSeconds
            qos := m.qos
            retain := m.retain
            enabled := m.enabled }]
          nextId := s.db.nextId + 1 }
        result }
    | some _ =>
      { s with
        db := { s.db with
          mqttPublishConfigs :=
            Table.update MqttPublishConfig.key s.db.mqttPublishConfigs (device, broker) fun row =>
              { row with
                topicTemplate := m.topicTemplate
                payloadMode := m.payloadMode
                publishIntervalSeconds := m.publishIntervalSeconds
                qos := m.qos
                retain := m.retain
                enabled := m.enabled } }
        result }
  | _, _ => s

def brokerExports (data : SystemImport) : List MqttBrokerSettingsExport :=
  data.mqttBrokers ++ (data.mqttBrokerSettings.map fun b => { b with name := "default" }).toList

/-- The whole import, up to its commit: an error leaves the database as it was. -/
def importSystem (db : Database) (data : SystemImport) :
    Except RequestError (Database × ImportResult) := do
  let s : ImportState := { db }
  let s ← data.templates.foldlM (importTemplate db.templateNamed) s
  let s := mapOtherTemplates db.templates s
  let s ← data.devices.foldlM (importDevice db.deviceAt) s
  let s := mapOtherDevices db.devices s
  let s ← data.simulationConfigs.foldlM importSimulationConfig s
  let s ← data.anomalySchedules.foldlM importAnomalySchedule s
  let s := (brokerExports data).foldl importBroker s
  let s := mapOtherBrokers s
  let s := data.mqttPublishConfigs.foldl importPublishConfig s
  return (s.db, s.result)

end Import

end Services

end GhostMeter
