import GhostMeter.Models
import GhostMeter.Simulation.ExpressionParser

/-! The data generator: the value of a register by its data mode and its parameters. -/

namespace GhostMeter.Simulation

open GhostMeter.Lib

/-- The engine always gives the hour. -/
structure GeneratorContext where
  currentValues : Dict String PyFloat
  elapsedSeconds : PyFloat
  currentHourUtc : PyFloat

/-- What the generator takes from Python: its syntax, and `math.sin`. -/
structure PythonLib extends PythonSyntax where
  sin : PyFloat → Except PyError PyFloat

/-- The draws of one round: `random.gauss(0, sigma)`, `random.uniform(a, b)` and
`random.random()`. -/
structure Draw where
  gauss : PyFloat → PyFloat
  uniform : PyFloat → PyFloat → PyFloat
  random : PyFloat

/-- `math.pi`. -/
def pi : PyFloat := .fin false (884279719003555 / 281474976710656)

/-- `float(params[key])`. -/
def floatItem (params : Params) (key : String) : Except PyError PyFloat := do
  (← params.getItem key).toFloat

def generateStatic (params : Params) : Except PyError PyFloat := floatItem params "value"

def generateRandom (params : Params) (draw : Draw) : Except PyError PyFloat := do
  let base ← floatItem params "base"
  let amplitude ← floatItem params "amplitude"
  match params.getD "distribution" (.str "uniform") with
  | .str "gaussian" =>
    let sigma ← amplitude.div (.fin false 3)
    return base.add (draw.gauss sigma)
  | _ => return base.add (draw.uniform amplitude.neg amplitude)

def generateDailyCurve (lib : PythonLib) (params : Params) (context : GeneratorContext) :
    Except PyError PyFloat := do
  let base ← floatItem params "base"
  let amplitude ← floatItem params "amplitude"
  let peakHour ← (params.getD "peak_hour" (.int 14)).toFloat
  let angle ←
    (pi.mul ((context.currentHourUtc.sub peakHour).add (.fin false 6))).div (.fin false 12)
  return base.add (amplitude.mul (← lib.sin angle))

/-- `bool(v)` of a value that is not a string. -/
def truthy : Json → Bool
  | .null => false
  | .bool b => b
  | .int n => n ≠ 0
  | .float x => ¬ x.isZero
  | .str s => s ≠ ""
  | .arr xs => ¬ xs.isEmpty
  | .obj fields => ¬ fields.isEmpty

/-- An expression that is not a string is empty or has no `strip`. -/
def generateComputed (syn : PythonSyntax) (params : Params) (values : Dict String PyFloat) :
    Except EvaluationError PyFloat := do
  match ← (params.getItem "expression").mapError .py with
  | .str expression => parseAndEvaluate syn expression values
  | v => .error (if truthy v then .attributeError else .expressionError "Empty expression")

def generateAccumulator (params : Params) (context : GeneratorContext) :
    Except PyError PyFloat := do
  let startValue ← (params.getD "start_value" (.float .zero)).toFloat
  let increment ← floatItem params "increment_per_second"
  return startValue.add (increment.mul context.elapsedSeconds)

def generate (lib : PythonLib) (mode : DataMode) (params : Params) (context : GeneratorContext)
    (draw : Draw) : Except EvaluationError PyFloat :=
  match mode with
  | .static => (generateStatic params).mapError .py
  | .random => (generateRandom params draw).mapError .py
  | .dailyCurve => (generateDailyCurve lib params context).mapError .py
  | .computed => generateComputed lib.toPythonSyntax params context.currentValues
  | .accumulator => (generateAccumulator params context).mapError .py
  | .other name => .error (.py (.valueError s!"Unknown data mode: {name}"))

/-- The expression of a computed register. -/
def expressionOf (c : ConfigEntry) : Option String :=
  match c.dataMode, c.modeParams.lookup "expression" with
  | .computed, some (.str expression) => some expression
  | _, _ => none

/-- The registers that a config refers to. -/
def referencesOf (isWord : Char → Bool) (c : ConfigEntry) : List String :=
  ((expressionOf c).map (references isWord)).getD []

variable {lib : PythonLib} {c : ConfigEntry} {context : GeneratorContext} {draw : Draw}

end GhostMeter.Simulation
