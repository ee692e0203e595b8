import GhostMeter.Services.ScenarioService
import GhostMeter.Services.SimulationService

/-! Scenarios in the database. -/

namespace GhostMeter.Services

open GhostMeter.Lib

structure ScenarioCreate where
  templateId : UUID
  name : String
  description : Option String := none
  steps : List ScenarioStepCreate

structure ScenarioUpdate where
  name : String
  description : Option String := none
  steps : List ScenarioStepCreate

structure ScenarioExport where
  name : String
  description : Option String
  templateName : String
  steps : List ScenarioStepCreate

def getScenarioOr404 (db : Database) (scenario : UUID) : Except AppException Scenario :=
  match Table.find Scenario.id db.scenarios scenario with
  | some s => .ok s
  | none => .error (notFoundException "Scenario not found" "SCENARIO_NOT_FOUND")

/-- The rows of a scenario's steps, with the ids that they get. -/
def buildSteps : UUID → List ScenarioStepCreate → List ScenarioStep
  | _, [] => []
  | next, step :: steps =>
    { id := next
      registerName := step.registerName
      anomalyType := step.anomalyType
      anomalyParams := step.anomalyParams
      triggerAtSeconds := step.triggerAtSeconds
      durationSeconds := step.durationSeconds
      sortOrder := step.sortOrder } :: buildSteps (next + 1) steps

/-- The steps as the relationship orders them. -/
def scenarioSteps (next : UUID) (steps : List ScenarioStepCreate) : List ScenarioStep :=
  (buildSteps next steps).mergeSort (·.sortOrder ≤ ·.sortOrder)

/-- A name is unique for its template; nothing catches the violation. -/
def scenarioNameFree (db : Database) (template : UUID) (name : String) (exclude : Option UUID) :
    Except RequestError Unit :=
  if ∃ s ∈ db.scenarios, s.templateId = template ∧ s.name = name ∧ some s.id ≠ exclude then
    .error .unhandled
  else .ok ()

def createScenario (db : Database) (data : ScenarioCreate) (isBuiltin : Bool) :
    Except RequestError Database := do
  let template ← (db.getTemplate data.templateId).mapError .app
  (validateSteps data.steps (templateRegisterNames db template.id)).mapError .app
  scenarioNameFree db data.templateId data.name none
  return { db with
    scenarios := db.scenarios ++ [{
      id := db.nextId
      templateId := data.templateId
      name := data.name
      description := data.description
      isBuiltin
      totalDurationSeconds := computeTotalDuration data.steps
      steps := scenarioSteps (db.nextId + 1) data.steps }]
    nextId := db.nextId + 1 + data.steps.length }

def updateScenario (db : Database) (scenario : UUID) (data : ScenarioUpdate) :
    Except RequestError Database := do
  let s ← (getScenarioOr404 db scenario).mapError .app
  (raiseIf (s.isBuiltin = true) (conflictException "Built-in scenarios cannot be modified"
    "BUILTIN_PROTECTED")).mapError .app
  let template ← (db.getTemplate s.templateId).mapError .app
  (validateSteps data.steps (templateRegisterNames db template.id)).mapError .app
  scenarioNameFree db s.templateId data.name (some scenario)
  return { db with
    scenarios := Table.update Scenario.id db.scenarios scenario fun s =>
      { s with
        name := data.name
        description := data.description
        totalDurationSeconds := computeTotalDuration data.steps
        steps := scenarioSteps db.nextId data.steps }
    nextId := db.nextId + data.steps.length }

def deleteScenario (db : Database) (scenario : UUID) : Except AppException Database := do
  let s ← getScenarioOr404 db scenario
  raiseIf (s.isBuiltin = true) (conflictException "Built-in scenarios cannot be deleted"
    "BUILTIN_PROTECTED")
  return { db with scenarios := db.scenarios.filter (·.id ≠ scenario) }

def importScenario (db : Database) (data : ScenarioExport) : Except RequestError Database :=
  match db.templateNamed data.templateName with
  | none => .error (.app (notFoundException s!"Template '{data.templateName}' not found"
      "TEMPLATE_NOT_FOUND"))
  | some template => createScenario db {
      templateId := template.id
      name := data.name
      description := data.description
      steps := data.steps } false

end GhostMeter.Services
