import GhostMeter.Backend
import GhostMeter.Lib.Check

/-! The simulation configs of a device, and the reload of its simulation after a write. -/

namespace GhostMeter.Services

open GhostMeter.Lib GhostMeter.Simulation

/-- A config as the schema accepts it. -/
structure SimulationConfigCreate extends ConfigEntry where
  mode_valid : ∀ name, dataMode ≠ .other name
  interval_ge : 100 ≤ updateIntervalMs
  interval_le : updateIntervalMs ≤ 60000

theorem static_known : ∀ name, DataMode.static ≠ .other name := DataMode.static.isKnown_iff.1 rfl
theorem computed_known : ∀ name, DataMode.computed ≠ .other name :=
  DataMode.computed.isKnown_iff.1 rfl

theorem default_interval_ge : (100 : ℤ) ≤ 1000 := by norm_num
theorem default_interval_le : (1000 : ℤ) ≤ 60000 := by norm_num

def templateRegisterNames (db : Database) (template : UUID) : List String :=
  (db.registersOf template).map (·.name)

def registerMissing (registerName : String) : AppException :=
  validationException s!"Register '{registerName}' not found in device template"

/-- The loop over `seen`. -/
def checkDuplicates (seen : List String) : List SimulationConfigCreate → Except AppException Unit
  | [] => .ok ()
  | cfg :: rest =>
    if cfg.registerName ∈ seen then
      .error (validationException
        s!"Duplicate register_name '{cfg.registerName}' in request")
    else checkDuplicates (cfg.registerName :: seen) rest

/-- The checks of `set_simulation_configs`. -/
def checkConfigs (db : Database) (device : UUID) (configs : List SimulationConfigCreate) :
    Except AppException Unit := do
  let d ← db.getDeviceOr404 device
  let validNames := templateRegisterNames db d.templateId
  checkAll (fun cfg => raiseIf (cfg.registerName ∉ validNames) (registerMissing cfg.registerName))
    configs
  checkDuplicates [] configs

/-- The checks of `update_simulation_config`. -/
def checkConfig (db : Database) (device : UUID) (registerName : String) :
    Except AppException Unit := do
  let d ← db.getDeviceOr404 device
  raiseIf (registerName ∉ templateRegisterNames db d.templateId) (registerMissing registerName)

def deleteConfigs (db : Database) (device : UUID) : Database :=
  { db with simulationConfigs := db.simulationConfigs.filter (·.deviceId ≠ device) }

def setConfigs (db : Database) (device : UUID) (configs : List SimulationConfigCreate) :
    Database :=
  configs.foldl (fun db cfg => db.insertConfig device cfg.toConfigEntry) (deleteConfigs db device)

/-- The row of the device's register, if any, takes everything from the request but its
register name. -/
def upsertConfig (db : Database) (device : UUID) (registerName : String) (data : ConfigEntry) :
    Database :=
  if db.simulationConfigs.any fun c => c.deviceId = device ∧ c.registerName = registerName then
    { db with simulationConfigs := db.simulationConfigs.map fun c =>
        if c.deviceId = device ∧ c.registerName = registerName then
          { c with toConfigEntry := { data with registerName := c.registerName } }
        else c }
  else db.insertConfig device { data with registerName }

variable {α : Type}

def reloadIfRunning (s : Backend α) (device : UUID) : Backend α × Except RequestError Unit :=
  if s.engine.isDeviceSimulating device then
    match s.reloadSimulation device with
    | (s, true) => (s, .ok ())
    | (s, false) => (s, .error .unhandled)
  else (s, .ok ())

/-- A write of a device's configs: the checks, the commit, the reload, and the answer. -/
def writeConfigs {β : Type} (s : Backend α) (device : UUID) (check : Except AppException Unit)
    (write : Database → Database) (answer : Database → β) : Backend α × Except RequestError β :=
  match check with
  | .error e => (s, .error (.app e))
  | .ok () =>
    let (s, result) := reloadIfRunning { s with db := write s.db } device
    (s, result.map fun _ => answer s.db)

def setSimulationConfigs (s : Backend α) (device : UUID)
    (configs : List SimulationConfigCreate) :
    Backend α × Except RequestError (List SimulationConfig) :=
  writeConfigs s device (checkConfigs s.db device configs)
    (fun db => setConfigs db device configs)
    fun db => db.simulationConfigs.filter (·.deviceId = device)

def updateSimulationConfig (s : Backend α) (device : UUID) (registerName : String)
    (configData : SimulationConfigCreate) :
    Backend α × Except RequestError (Option SimulationConfig) :=
  writeConfigs s device (checkConfig s.db device registerName)
    (fun db => upsertConfig db device registerName configData.toConfigEntry)
    fun db => db.simulationConfigs.find? fun c =>
      c.deviceId = device ∧ c.registerName = registerName

def deleteSimulationConfigs (s : Backend α) (device : UUID) :
    Backend α × Except RequestError Unit :=
  writeConfigs s device ((s.db.getDeviceOr404 device).map fun _ => ())
    (fun db => deleteConfigs db device) fun _ => ()

end GhostMeter.Services
