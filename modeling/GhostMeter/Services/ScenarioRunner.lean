import GhostMeter.Lib.Run
import GhostMeter.Services.ScenarioService
import Mathlib.Data.Finset.Basic
import Mathlib.Data.Rat.Cast.Order

/-! The scenario executor: the loop that drives one scenario's timeline through the anomaly
injector.  The clock is outside: a run of the loop is given by the elapsed times at which
its body runs. -/

namespace GhostMeter.Services

open GhostMeter.Lib GhostMeter.Simulation

structure StepInfo where
  registerName : String
  anomalyType : AnomalyType
  anomalyParams : Params
  triggerAtSeconds : ℤ
  durationSeconds : ℤ

namespace StepInfo

def endAt (s : StepInfo) : ℤ := s.triggerAtSeconds + s.durationSeconds

/-- The elapsed time `t` lies in the step's window. -/
def Covers (s : StepInfo) (t : ℚ) : Prop := (s.triggerAtSeconds : ℚ) ≤ t ∧ t < s.endAt

/-- The anomaly the step injects. -/
def anomaly (s : StepInfo) : AnomalyState :=
  { anomalyType := s.anomalyType, params := s.anomalyParams }

end StepInfo

def ScenarioStepCreate.toStepInfo (s : ScenarioStepCreate) : StepInfo where
  registerName := s.registerName
  anomalyType := s.anomalyType
  anomalyParams := s.anomalyParams
  triggerAtSeconds := s.triggerAtSeconds
  durationSeconds := s.durationSeconds

inductive ScenarioStatus | running | completed
  deriving DecidableEq

structure RunningScenario where
  scenarioId : UUID
  scenarioName : String
  totalDurationSeconds : ℤ
  steps : List StepInfo
  status : ScenarioStatus := .running
  activeAnomalies : Finset String := ∅

/-- The variables of the loop: the shared injector and the runner's entries, the scenario
object it drives, and the indices of the steps already triggered. -/
structure Timeline where
  injector : AnomalyInjector
  /-- The devices with an entry, and the scenario it is for. -/
  entries : Dict UUID UUID
  running : RunningScenario
  triggered : Finset ℕ := ∅
  left : Bool := false

namespace Timeline

/-- `ScenarioRunner.start`: a fresh entry and the loop's variables before its first body. -/
def start (injector : AnomalyInjector) (entries : Dict UUID UUID) (device scenarioId : UUID)
    (scenarioName : String) (totalDurationSeconds : ℤ) (steps : List StepInfo) :
    Except PyError Timeline :=
  if (entries device).isSome then
    .error (.runtimeError s!"Device {device} already has a running scenario")
  else
    .ok {
      injector
      entries := entries.set device scenarioId
      running := { scenarioId, scenarioName, totalDurationSeconds, steps } }

def trigger (device : UUID) (s : Timeline) (step : StepInfo) (i : ℕ) : Timeline :=
  { s with
    injector := s.injector.inject device step.registerName step.anomalyType step.anomalyParams
    running := { s.running with
      activeAnomalies := insert step.registerName s.running.activeAnomalies }
    triggered := insert i s.triggered }

def release (device : UUID) (s : Timeline) (step : StepInfo) : Timeline :=
  { s with
    injector := s.injector.remove device step.registerName
    running := { s.running with
      activeAnomalies := s.running.activeAnomalies.erase step.registerName } }

/-- One round of the loop that activates the steps that should start. -/
def activateStep (device : UUID) (elapsed : ℚ) (s : Timeline) (entry : StepInfo × ℕ) :
    Timeline :=
  if entry.2 ∉ s.triggered ∧ (entry.1.triggerAtSeconds : ℚ) ≤ elapsed then
    s.trigger device entry.1 entry.2
  else s

/-- One round of the loop that deactivates the steps that should end. -/
def deactivateStep (device : UUID) (elapsed : ℚ) (s : Timeline) (entry : StepInfo × ℕ) :
    Timeline :=
  if entry.2 ∈ s.triggered ∧ (entry.1.endAt : ℚ) ≤ elapsed ∧
      entry.1.registerName ∈ s.running.activeAnomalies then
    s.release device entry.1
  else s

def activate (device : UUID) (elapsed : ℚ) (s : Timeline) : Timeline :=
  s.running.steps.zipIdx.foldl (activateStep device elapsed) s

def deactivate (device : UUID) (elapsed : ℚ) (s : Timeline) : Timeline :=
  s.running.steps.zipIdx.foldl (deactivateStep device elapsed) s

def checkComplete (device : UUID) (elapsed : ℚ) (s : Timeline) : Timeline :=
  if (s.running.totalDurationSeconds : ℚ) ≤ elapsed ∧ s.running.activeAnomalies = ∅ then
    { s with
      running := { s.running with status := .completed }
      entries := s.entries.pop device
      left := true }
  else s

/-- One run of the loop's body. -/
def body (device : UUID) (elapsed : ℚ) (s : Timeline) : Timeline :=
  ((s.activate device elapsed).deactivate device elapsed).checkComplete device elapsed

/-- The body runs until the loop has been left by its `break`. -/
def drive (device : UUID) (s : Timeline) (elapsed : ℚ) : Option Timeline :=
  if s.left then none else some (s.body device elapsed)

end Timeline

end GhostMeter.Services
