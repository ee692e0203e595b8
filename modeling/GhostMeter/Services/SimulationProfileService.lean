import GhostMeter.Lib.PyString
import GhostMeter.Services.SimulationService

/-! Simulation profiles of templates. -/

namespace GhostMeter.Services

open GhostMeter.Lib

structure SimulationProfileCreate where
  templateId : UUID
  name : String
  description : Option String := none
  isDefault : Bool := false
  configs : List SimulationConfigCreate
  name_not_empty : name ≠ ""
  name_length : name.length ≤ 200

structure SimulationProfileUpdate where
  name : Option String := none
  description : Option String := none
  isDefault : Option Bool := none
  configs : Option (List SimulationConfigCreate) := none
  name_not_empty : name ≠ some ""
  name_length : ∀ n, name = some n → n.length ≤ 200

/-- A profile as it comes from a file. -/
structure ProfileFile where
  name : String := ""
  description : Option String := none
  configs : List ConfigEntry := []

def getProfileOr404 (db : Database) (profile : UUID) : Except AppException SimulationProfile :=
  match Table.find SimulationProfile.id db.simulationProfiles profile with
  | some p => .ok p
  | none => .error (notFoundException "Simulation profile not found" "PROFILE_NOT_FOUND")

/-- A name is unique for its template, and so is a default profile; `e` is the text of the
`IntegrityError`. -/
def commitOrRaiseConflict (db : Database) (name e : String) : Except AppException Database := do
  raiseIf (¬ (db.simulationProfiles.map fun p => (p.templateId, p.name)).Nodup)
    (conflictException s!"Profile name '{name}' already exists for this template"
      "PROFILE_NAME_CONFLICT")
  raiseIf (¬ ((db.simulationProfiles.filter (·.isDefault)).map (·.templateId)).Nodup)
    (validationException s!"Database constraint violation: {e}")
  return db

def clearExistingDefault (db : Database) (template : UUID) : Database :=
  { db with simulationProfiles := db.simulationProfiles.map fun p =>
      if p.templateId = template ∧ p.isDefault then { p with isDefault := false } else p }

def createProfile (db : Database) (data : SimulationProfileCreate) (e : String) :
    Except AppException Database := do
  let _ ← db.getTemplate data.templateId
  let db := if data.isDefault then clearExistingDefault db data.templateId else db
  commitOrRaiseConflict { db with
      simulationProfiles := db.simulationProfiles ++ [{
        id := db.nextId
        templateId := data.templateId
        name := data.name
        description := data.description
        isBuiltin := false
        isDefault := data.isDefault
        configs := data.configs.map (·.toConfigEntry) }]
      nextId := db.nextId + 1 } data.name e

def SimulationProfileUpdate.apply (data : SimulationProfileUpdate) (p : SimulationProfile) :
    SimulationProfile :=
  { p with
    name := data.name.getD p.name
    description := data.description.or p.description
    isDefault := data.isDefault.getD p.isDefault
    configs := (data.configs.map fun configs => configs.map (·.toConfigEntry)).getD p.configs }

/-- The flush writes changed rows in the order of their ids: `newFirst` says that the new
default comes before the old one, which is then still there. -/
def updateProfile (db : Database) (profile : UUID) (data : SimulationProfileUpdate)
    (newFirst : Bool) (e : String) : Except AppException Database := do
  let p ← getProfileOr404 db profile
  raiseIf (p.isBuiltin = true ∧ data.configs.isSome) (forbiddenException
    "Cannot modify configs of a built-in profile" "BUILTIN_PROFILE_IMMUTABLE")
  raiseIf (newFirst = true ∧ data.isDefault = some true ∧ ∃ old ∈ db.simulationProfiles,
      old.templateId = p.templateId ∧ old.isDefault = true ∧ old.id ≠ profile)
    (validationException s!"Database constraint violation: {e}")
  let db := if data.isDefault = some true then clearExistingDefault db p.templateId else db
  commitOrRaiseConflict { db with
      simulationProfiles :=
        Table.update SimulationProfile.id db.simulationProfiles profile data.apply }
    (data.name.getD p.name) e

def deleteProfile (db : Database) (profile : UUID) : Except AppException Database := do
  let p ← getProfileOr404 db profile
  raiseIf (p.isBuiltin = true) (forbiddenException "Cannot delete a built-in profile"
    "BUILTIN_PROFILE_IMMUTABLE")
  return { db with simulationProfiles := db.simulationProfiles.filter (·.id ≠ profile) }

instance (dataMode : DataMode) : Decidable (∀ name, dataMode ≠ .other name) :=
  decidable_of_iff _ dataMode.isKnown_iff

/-- A config entry, put through the schema; one that it does not accept raises. -/
def validateConfig (cfg : ConfigEntry) : Except RequestError SimulationConfigCreate :=
  if h : (∀ name, cfg.dataMode ≠ .other name) ∧ 100 ≤ cfg.updateIntervalMs ∧
      cfg.updateIntervalMs ≤ 60000 then
    .ok { toConfigEntry := cfg, mode_valid := h.1, interval_ge := h.2.1, interval_le := h.2.2 }
  else .error .unhandled

def importProfile (db : Database) (template : UUID) (data : ProfileFile) (e : String) :
    Except RequestError Database := do
  let name := PyString.strip data.name
  (raiseIf (name = "") (validationException "Profile name is required")).mapError .app
  (raiseIf (data.configs = []) (validationException
    "Profile must have at least one config entry")).mapError .app
  let configs ← data.configs.mapM validateConfig
  if h : name ≠ "" ∧ name.length ≤ 200 then
    (createProfile db {
        templateId := template
        name
        description := data.description
        configs
        name_not_empty := h.1
        name_length := h.2 } e).mapError .app
  else .error .unhandled

end GhostMeter.Services
