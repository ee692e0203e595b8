import GhostMeter.Exceptions
import GhostMeter.Lib.Dict
import GhostMeter.Lib.PyFloat

/-! The communication faults set on devices. -/

namespace GhostMeter.Simulation

open GhostMeter.Lib

inductive FaultType
  | delay | timeout | exception | intermittent
  | other (name : String)
  deriving DecidableEq

def FaultType.name : FaultType → String
  | delay => "delay"
  | timeout => "timeout"
  | exception => "exception"
  | intermittent => "intermittent"
  | other name => name

structure FaultConfig where
  faultType : FaultType
  params : Params

/-- `_device_faults`. -/
abbrev FaultSimulator := Dict UUID FaultConfig

namespace FaultSimulator

def setFault (f : FaultSimulator) (device : UUID) (config : FaultConfig) : FaultSimulator :=
  f.set device config

def clearFault (f : FaultSimulator) (device : UUID) : FaultSimulator := f.pop device

def getFault (f : FaultSimulator) (device : UUID) : Option FaultConfig := f device

end FaultSimulator

/-- The failure rate of an intermittent fault; an integer too large for a float is the one
malformed value that is not replaced by the default. -/
def getFailureRate (params : Params) : Except PyError PyFloat := do
  let half := PyFloat.ofRat (1 / 2)
  let rate ← match (params.getD "failure_rate" (.float half)).toFloat with
    | .ok rate => .ok (if rate.isFinite then rate else half)
    | .error .typeError => .ok half
    | .error (.valueError _) => .ok half
    | .error e => .error e
  return (rate.max .zero).min (.exact 1)

/-- The seconds of a delay fault, up to ten; an integer too large for a float raises. -/
def getDelaySeconds (params : Params) : Except PyError PyFloat := do
  let halfSecond := PyFloat.exact 500
  let delay ← match (params.getD "delay_ms" (.int 500)).toFloat with
    | .ok delay => .ok (if delay.isFinite then delay else halfSecond)
    | .error .typeError => .ok halfSecond
    | .error (.valueError _) => .ok halfSecond
    | .error e => .error e
  ((delay.max .zero).min (.exact 10000)).div (.exact 1000)

end GhostMeter.Simulation
