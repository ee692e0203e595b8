import GhostMeter.Lib.Check
import GhostMeter.Simulation.AnomalyInjector

/-! What the schemas ask of an anomaly: the rules that real-time injections, schedules and
scenario steps share, and those of a schedule. -/

namespace GhostMeter

open GhostMeter.Lib GhostMeter.Simulation

def Simulation.AnomalyType.name : AnomalyType → String
  | spike => "spike"
  | drift => "drift"
  | flatline => "flatline"
  | outOfRange => "out_of_range"
  | dataLoss => "data_loss"
  | other name => name

/-- A JSON value as an operand of `<=`; a comparison of anything but a number raises. -/
def Lib.Json.number : Json → Except PyError PyFloat
  | .bool b => .ok (.exact (if b then 1 else 0))
  | .int n => .ok (.exact n)
  | .float x => .ok x
  | .null | .str _ | .arr _ | .obj _ => .error .typeError

namespace Schemas

/-- `_REQUIRED_PARAMS`. -/
def requiredParams : AnomalyType → List String
  | .spike => ["multiplier", "probability"]
  | .drift => ["drift_per_second", "max_drift"]
  | .flatline => []
  | .outOfRange => ["value"]
  | .dataLoss => []
  | .other _ => []

/-- The message goes on with the set of the types, in no fixed order. -/
def validateAnomalyType : AnomalyType → Except PyError Unit
  | .other _ => .error (.valueError "anomaly_type must be one of ")
  | .spike | .drift | .flatline | .outOfRange | .dataLoss => .ok ()

def validateParams (anomalyType : AnomalyType) (params : Params) : Except PyError Unit := do
  checkAll (fun param => raiseIf ((params.lookup param).isNone = true)
    (.valueError s!"anomaly_type '{anomalyType.name}' requires param '{param}'"))
    (requiredParams anomalyType)
  match anomalyType with
  | .spike =>
    let multiplier ← (← params.getItem "multiplier").number
    raiseIf (multiplier.le (.exact 0) = true) (.valueError "multiplier must be > 0")
    let prob ← (← params.getItem "probability").number
    raiseIf (¬ (PyFloat.le (.exact 0) prob = true ∧ prob.le (.exact 1) = true))
      (.valueError "probability must be between 0 and 1")
  | .drift =>
    let maxDrift ← (← params.getItem "max_drift").number
    raiseIf (maxDrift.le (.exact 0) = true) (.valueError "max_drift must be > 0")
  | .flatline | .outOfRange | .dataLoss | .other _ => return ()

/-- What `AnomalyParamsBase` accepts. -/
structure AnomalyParamsBase (anomalyType : AnomalyType) (params : Params) : Prop where
  validType : validateAnomalyType anomalyType = .ok ()
  validParams : validateParams anomalyType params = .ok ()

/-- `AnomalyScheduleCreate`. -/
def validateSchedule (e : ScheduleEntry) : Except PyError Unit := do
  validateAnomalyType e.anomalyType
  raiseIf (e.triggerAfterSeconds < 0) (.valueError "trigger_after_seconds must be >= 0")
  raiseIf (e.durationSeconds ≤ 0) (.valueError "duration_seconds must be > 0")
  validateParams e.anomalyType e.anomalyParams

end Schemas

end GhostMeter
