import GhostMeter.Lib.Loop
import GhostMeter.Simulation.DataGenerator
import GhostMeter.Simulation.DeviceLoop

/-! The order of evaluation in a tick of `_run_device`: the registers are generated by their sort
order, over the values that the tick has made so far. -/

namespace GhostMeter.Simulation

open GhostMeter.Lib GhostMeter.Protocols

/-- What surrounds the work on one register: the draws, the answer of the adapter to the raw
value, and what others do to the injector while the answer is awaited. -/
structure Round where
  draw : Draw
  written : PyFloat → Except PyError Unit
  meanwhile : AnomalyInjector → AnomalyInjector

/-- A tick under way, with what the generator has returned so far. -/
structure Tick where
  values : Dict String PyFloat
  injector : AnomalyInjector
  hadError : Bool := false
  generated : List (SimulationConfig × Except EvaluationError PyFloat) := []

namespace Tick

variable (lib : PythonLib) (device : UUID) (elapsed : ℚ) (hour : PyFloat)

/-- The value of a register after the anomalies is divided by the scale factor, stored and
written. -/
def store (t : Tick) (name : String) (reg : RegisterMeta) (value : PyFloat) (r : Round) : Tick :=
  match reg.rawValue value with
  | .error _ => { t with hadError := true }
  | .ok raw =>
    { t with
      values := t.values.set name value
      injector := r.meanwhile t.injector
      hadError := t.hadError || (r.written raw matches .error _) }

/-- The work on one register. -/
def round (t : Tick) (c : SimulationConfig) (reg : RegisterMeta) (r : Round) : Tick :=
  let generated := generate lib c.dataMode c.modeParams {
    currentValues := t.values
    elapsedSeconds := .ofRat elapsed
    currentHourUtc := hour } r.draw
  let t := { t with generated := t.generated ++ [(c, generated)] }
  match generated with
  | .error _ => { t with hadError := true }
  | .ok value =>
    match t.injector.apply device c.registerName value elapsed r.draw.random with
    | (injector, .error _) => { t with injector, hadError := true }
    | (injector, .ok value) => store { t with injector } c.registerName reg value r

/-- The loop over the valid configs. -/
def run (registers : Dict String RegisterMeta) (t : Tick)
    (work : List (SimulationConfig × Round)) : Tick :=
  work.foldl (fun t p =>
    match registers p.1.registerName with
    | some reg => t.round lib device elapsed hour p.1 reg p.2
    | none => t) t

end Tick

/-- A tick from the current values, with a round for each of the valid configs. -/
def runTick (lib : PythonLib) (device : UUID) (registers : Dict String RegisterMeta)
    (configs : List SimulationConfig) (elapsed : ℚ) (hour : PyFloat) (values : Dict String PyFloat)
    (injector : AnomalyInjector) (rounds : List Round) : Tick :=
  Tick.run lib device elapsed hour registers { values, injector }
    ((validConfigs registers configs).zip rounds)

section Rounds

variable {lib : PythonLib} {device : UUID} {elapsed : ℚ} {hour : PyFloat}
  {registers : Dict String RegisterMeta} {reg : RegisterMeta} {t : Tick} {c : SimulationConfig}
  {r : Round} {name : String}

end Rounds

section Order

variable {lib : PythonLib} {device : UUID} {elapsed : ℚ} {hour : PyFloat}
  {registers : Dict String RegisterMeta} {configs loaded : List SimulationConfig}
  {values : Dict String PyFloat} {injector : AnomalyInjector} {rounds rounds' : List Round}

theorem mem_validConfigs {c : SimulationConfig} : c ∈ validConfigs registers configs ↔
    c ∈ configs ∧ (registers c.registerName).isSome := by
  rw [validConfigs, List.mem_filter, List.mem_mergeSort]

/-- Whatever a round makes, the loop of a Modbus device makes of some outcome. -/
theorem exists_outcome {pymodbus : Pymodbus} {t : Tick} {c : SimulationConfig} {reg : RegisterMeta}
    {r : Round} {s : DeviceLoop} (h : s.values = t.values) :
    ∃ outcome, (s.updateValue pymodbus device c.registerName reg outcome).1.values =
      (t.round lib device elapsed hour c reg r).values := by
  have hraise : ∀ e, (s.updateValue pymodbus device c.registerName reg (.error e)).1.values =
      t.values := fun _ => h
  have hstore : ∀ value injector generated,
      (s.updateValue pymodbus device c.registerName reg (.ok value)).1.values =
        (Tick.store { t with injector, generated } c.registerName reg value r).values := by
    intro value injector generated
    obtain ⟨raw, hraw⟩ := rawValue_isOk reg value
    simp only [DeviceLoop.updateValue, Tick.store, hraw]
    split <;> exact congrArg (Dict.set · c.registerName value) h
  unfold Tick.round
  dsimp only
  split
  next => exact ⟨.error .typeError, hraise _⟩
  next value =>
    split
    next => exact ⟨.error .typeError, hraise _⟩
    next injector value _ => exact ⟨.ok value, hstore value injector _⟩

/-- The values of a tick are those of a tick of the loop of a Modbus device. -/
theorem exists_outcomes {pymodbus : Pymodbus} {work : List (SimulationConfig × Round)} {t : Tick}
    {s : DeviceLoop × Bool} (h : s.1.values = t.values) :
    ∃ outcomes, outcomes.length = work.length ∧
      (((work.map Prod.fst).zip outcomes).foldl
          (DeviceLoop.updateConfig pymodbus device registers) s).1.values =
        (t.run lib device elapsed hour registers work).values := by
  induction work generalizing s t with
  | nil => exact ⟨[], rfl, h⟩
  | cons p work ih =>
    cases hreg : registers p.1.registerName with
    | none =>
      obtain ⟨outcomes, hlength, hvalues⟩ := ih h
      refine ⟨.error .typeError :: outcomes, congrArg Nat.succ hlength, ?_⟩
      simpa only [List.map_cons, List.zip_cons_cons, List.foldl_cons, DeviceLoop.updateConfig,
        Tick.run, hreg] using hvalues
    | some reg =>
      obtain ⟨outcome, houtcome⟩ := @exists_outcome lib device elapsed hour pymodbus t p.1 reg p.2
        s.1 h
      obtain ⟨outcomes, hlength, hvalues⟩ := @ih (t.round lib device elapsed hour p.1 reg p.2)
        (DeviceLoop.updateConfig pymodbus device registers s (p.1, outcome))
        (by simpa only [DeviceLoop.updateConfig, hreg] using houtcome)
      refine ⟨outcome :: outcomes, congrArg Nat.succ hlength, ?_⟩
      simpa only [List.map_cons, List.zip_cons_cons, List.foldl_cons, Tick.run, hreg] using hvalues

end Order

end GhostMeter.Simulation
