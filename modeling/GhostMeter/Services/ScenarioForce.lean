import GhostMeter.Services.ScenarioTimeline
import GhostMeter.Simulation.EngineCleanup

/-! A scenario on a running device, between ticks of the simulation and writes of simulation
configs, which reload the engine: whether its anomalies stay in force. -/

namespace GhostMeter.Services

open GhostMeter.Lib GhostMeter.Simulation

/-- The engine with the injector that the runner shares, and the loop of the scenario, once it
has been started. -/
structure ScenarioForce where
  engine : SimulationEngine
  timeline : Option Timeline := none

/-- The arguments of a call of `apply`. -/
structure ApplyCall where
  registerName : String
  value : PyFloat
  elapsed : ℚ
  random : PyFloat

namespace ScenarioForce

inductive Event
  | startScenario (scenarioId : UUID) (scenarioName : String) (totalDurationSeconds : ℤ)
      (steps : List StepInfo)
  /-- The body of the scenario's loop. -/
  | timelineStep (elapsed : ℚ)
  /-- A tick of a task, with the calls of `apply` that it makes. -/
  | tick (t : TaskRef) (hadError : Bool) (values : Dict String PyFloat) (calls : List ApplyCall)
  /-- `_reload_if_running`, after a write of a device's configs has been committed. -/
  | writeConfigs (device : UUID)
  /-- Another step of the engine that nobody calls for. -/
  | engine (e : EngineEvent)

/-- A step that goes on with what has been called before, apart from the ticks. -/
def goesOn : EngineEvent → Bool
  | .startDevice _ | .stopDevice _ | .reloadDevice _ | .tick .. => false
  | _ => true

def applyCalls (inj : AnomalyInjector) (device : UUID) (calls : List ApplyCall) :
    AnomalyInjector :=
  calls.foldl (fun inj c => (inj.apply device c.registerName c.value c.elapsed c.random).1) inj

/-- The steps of a run in which a scenario is started on the device once. -/
def step (device : UUID) (s : ScenarioForce) : Event → Option ScenarioForce
  | .startScenario scenarioId scenarioName totalDurationSeconds steps =>
    match s.timeline, Timeline.start s.engine.injector Dict.empty device scenarioId scenarioName
        totalDurationSeconds steps with
    | none, .ok timeline => some { s with timeline := some timeline }
    | _, _ => none
  | .timelineStep elapsed =>
    match s.timeline with
    | none => none
    | some timeline =>
      ({ timeline with injector := s.engine.injector }.drive device elapsed).map
        fun timeline : Timeline =>
          { engine := { s.engine with injector := timeline.injector }
            timeline := some timeline }
  | .tick t hadError values calls =>
    match s.engine.tasks[t]? with
    | none => none
    | some task =>
      (s.engine.step (.tick t hadError values
        (applyCalls s.engine.injector task.device calls))).map fun engine => { s with engine }
  | .writeConfigs d =>
    if s.engine.isDeviceSimulating d then
      (s.engine.step (.reloadDevice d)).map fun engine => { s with engine }
    else some s
  | .engine e =>
    if goesOn e then (s.engine.step e).map fun engine => { s with engine } else none

/-- The registers in `active_anomalies`. -/
def active (s : ScenarioForce) : Finset String :=
  s.timeline.elim ∅ (·.running.activeAnomalies)

/-- Every register in `active_anomalies` has a real-time anomaly. -/
def InForce (device : UUID) (s : ScenarioForce) : Prop :=
  ∀ r ∈ s.active, (s.engine.injector.getActive device r).isSome

def IsTimelineStep (e : Event) : Prop := ∃ elapsed, e = .timelineStep elapsed

/-- A register of the scenario that has lost its anomaly. -/
def Lost (device : UUID) (s : ScenarioForce) (r : String) : Prop :=
  r ∈ s.active ∧ s.engine.injector.getActive device r = none

/-- The device's anomalies are cleared in the step: a reload stops its simulation. -/
def Clears (device : UUID) (s : ScenarioForce) : Event → Prop
  | .writeConfigs d => s.engine.isDeviceSimulating d ∧
      s.engine.clears (.reloadDevice d) = some device
  | .engine e => s.engine.clears e = some device
  | _ => False

/-- The timeline step starts or ends a step of the scenario on the register. -/
def Settles (s : ScenarioForce) (e : Event) (r : String) : Prop :=
  ∃ elapsed timeline step i, e = .timelineStep elapsed ∧ s.timeline = some timeline ∧
    (step, i) ∈ timeline.running.steps.zipIdx ∧ step.registerName = r ∧
    ((i ∉ timeline.triggered ∧ (step.triggerAtSeconds : ℚ) ≤ elapsed) ∨
      (i ∈ timeline.triggered ∧ (step.endAt : ℚ) ≤ elapsed))

variable {device : UUID} {s s' : ScenarioForce} {e : Event} {r : String}

theorem isSome_getActive_applyCalls (inj : AnomalyInjector) (d : UUID) (calls : List ApplyCall) :
    ((applyCalls inj d calls).getActive device r).isSome = (inj.getActive device r).isSome := by
  induction calls generalizing inj with
  | nil => rfl
  | cons c calls ih =>
    rw [applyCalls, List.foldl_cons]
    exact (ih _).trans (AnomalyInjector.isSome_getActive_apply ..)

/-- What a step of the engine other than a tick does to the device's anomalies. -/
theorem getActive_step {s s' : SimulationEngine} {e : EngineEvent}
    (htick : ∀ t hadError values injector, e ≠ .tick t hadError values injector)
    (hs : s.step e = some s') : s'.injector.getActive device =
      if s.clears e = some device then Dict.empty else s.injector.getActive device := by
  have hactive := (SimulationEngine.injector_step htick hs).active
  unfold AnomalyInjector.getActive
  cases hclears : s.clears e with
  | none => rw [hactive, hclears, Option.elim_none, if_neg (by simp)]
  | some d =>
    rw [hactive, hclears, Option.elim_some]
    by_cases hd : d = device
    · simp [hd]
    · simp [hd, Dict.pop_of_ne _ (Ne.symm hd)]

/-- Before the next timeline step, a register of the scenario loses its anomaly exactly in the
steps that clear the device's. -/
theorem lost_step (hs : step device s e = some s') (he : ¬ IsTimelineStep e) :
    s'.Lost device r ↔ s.Lost device r ∨ Clears device s e ∧ r ∈ s.active := by
  -- the scenario is the same, and so are the anomalies unless they are cleared
  have hengine : ∀ {e' : EngineEvent} {engine : SimulationEngine},
      (∀ t hadError values injector, e' ≠ .tick t hadError values injector) →
      s.engine.step e' = some engine →
      (({ s with engine } : ScenarioForce).Lost device r ↔
        s.Lost device r ∨ s.engine.clears e' = some device ∧ r ∈ s.active) := by
    intro e' engine htick hstep
    have hactive : ({ s with engine } : ScenarioForce).active = s.active := rfl
    simp only [Lost, hactive, getActive_step htick hstep]
    split
    next hclears => simp +contextual [hclears]
    next hclears => simp [hclears]
  cases e with
  | timelineStep elapsed => exact absurd ⟨elapsed, rfl⟩ he
  | startScenario scenarioId scenarioName totalDurationSeconds steps =>
    simp only [step] at hs
    split at hs
    next timeline hnone hstart =>
      cases hs
      simp only [Timeline.start] at hstart
      split at hstart
      next => cases hstart
      next =>
        obtain rfl := Except.ok.inj hstart
        simp [Lost, active, hnone, Clears]
    next => cases hs
  | tick t hadError values calls =>
    simp only [step] at hs
    split at hs
    next => cases hs
    next task htask =>
      obtain ⟨engine, hengine, rfl⟩ := Option.map_eq_some_iff.1 hs
      have hactive : ({ s with engine } : ScenarioForce).active = s.active := rfl
      have hsome := @isSome_getActive_applyCalls device r s.engine.injector task.device calls
      rw [← SimulationEngine.injector_tick hengine] at hsome
      simp only [Lost, hactive, Clears, false_and, or_false]
      refine and_congr_right fun _ => ?_
      rw [← Option.not_isSome_iff_eq_none, ← Option.not_isSome_iff_eq_none, hsome]
  | writeConfigs d =>
    simp only [step] at hs
    split at hs
    next hsim =>
      obtain ⟨engine, hstep, rfl⟩ := Option.map_eq_some_iff.1 hs
      simpa only [Clears, hsim, true_and] using hengine (by simp) hstep
    next hsim =>
      cases hs
      simp [Clears, hsim]
  | engine e =>
    simp only [step] at hs
    split at hs
    next hgoes =>
      obtain ⟨engine, hstep, rfl⟩ := Option.map_eq_some_iff.1 hs
      exact hengine (by rintro t hadError values injector rfl; cases hgoes) hstep
    next => cases hs

/-- A step that ends in the body was triggered before, or is triggered by the body. -/
theorem settles_of_expires {timeline : Timeline} {elapsed : ℚ}
    (h : Timeline.Expires elapsed (timeline.activate device elapsed)
      timeline.running.steps.zipIdx r) :
    ∃ step i, (step, i) ∈ timeline.running.steps.zipIdx ∧ step.registerName = r ∧
      ((i ∉ timeline.triggered ∧ (step.triggerAtSeconds : ℚ) ≤ elapsed) ∨
        (i ∈ timeline.triggered ∧ (step.endAt : ℚ) ≤ elapsed)) := by
  obtain ⟨step, i, hmem, hr, htriggered, hend⟩ := h
  refine ⟨step, i, hmem, hr, ?_⟩
  by_cases hi : i ∈ timeline.triggered
  · exact Or.inr ⟨hi, hend⟩
  · rw [Timeline.activate, Timeline.foldl_activate_triggered] at htriggered
    obtain ⟨step', hmem', hle⟩ := htriggered.resolve_left hi
    exact Or.inl ⟨hi, by rwa [Timeline.mem_zipIdx_right hmem hmem']⟩

/-- The body of the loop leaves every register in force exactly when it starts or ends a step
on each that has lost its anomaly. -/
theorem inForce_body {timeline : Timeline} {elapsed : ℚ} :
    (∀ r ∈ (timeline.body device elapsed).running.activeAnomalies,
        ((timeline.body device elapsed).realtime device r).isSome) ↔
      ∀ r ∈ timeline.running.activeAnomalies, timeline.realtime device r = none →
        ∃ step i, (step, i) ∈ timeline.running.steps.zipIdx ∧ step.registerName = r ∧
          ((i ∉ timeline.triggered ∧ (step.triggerAtSeconds : ℚ) ≤ elapsed) ∨
            (i ∈ timeline.triggered ∧ (step.endAt : ℚ) ≤ elapsed)) := by
  have hregister := @Timeline.foldl_activate_register device elapsed _
    (Timeline.zipIdx_nodup timeline.running.steps) timeline
  constructor
  · intro h r hr hnone
    by_contra hno
    have hexpires : ¬ Timeline.Expires elapsed (timeline.activate device elapsed)
        timeline.running.steps.zipIdx r := fun hexp => hno (settles_of_expires hexp)
    rcases hregister r with ⟨hactive, hsame, -⟩ | ⟨-, step, i, hfires, hname, -⟩
    · have hsome := h r (Timeline.active_body r |>.2 ⟨hactive.2 hr, hexpires⟩)
      rw [Timeline.realtime_body hexpires] at hsome
      simp [Timeline.activate, hsame, hnone] at hsome
    · exact hno ⟨step, i, hfires.1, hname, Or.inl hfires.2⟩
  · intro h r hr
    obtain ⟨hr, hexpires⟩ := (Timeline.active_body r).1 hr
    rw [Timeline.realtime_body hexpires]
    rcases hregister r with ⟨hactive, hsame, hno⟩ | ⟨-, step, i, -, -, hsome⟩
    · rw [Timeline.activate, hsame, ← Option.ne_none_iff_isSome]
      intro hnone
      obtain ⟨step, i, hmem, hname, hstep | hstep⟩ := h r (hactive.1 hr) hnone
      · exact hno step i ⟨hmem, hstep⟩ hname
      · have htriggered : i ∈ (timeline.activate device elapsed).triggered :=
          (Timeline.foldl_activate_triggered _ _ i).2 (Or.inl hstep.1)
        exact hexpires ⟨step, i, hmem, hname, htriggered, hstep.2⟩
    · simp [Timeline.activate, hsome]

theorem inForce_timelineStep (hs : step device s e = some s') (he : IsTimelineStep e) :
    s'.InForce device ↔ ∀ r, s.Lost device r → s.Settles e r := by
  obtain ⟨elapsed, rfl⟩ := he
  simp only [step] at hs
  split at hs
  next => cases hs
  next timeline htimeline =>
    obtain ⟨timeline', hdrive, rfl⟩ := Option.map_eq_some_iff.1 hs
    simp only [Timeline.drive] at hdrive
    split at hdrive
    next => cases hdrive
    next =>
      obtain rfl := Option.some.inj hdrive
      have hactive : s.active = timeline.running.activeAnomalies := by
        simp [active, htimeline]
      refine inForce_body.trans (forall_congr' fun r => ?_)
      rw [Lost, hactive, and_imp]
      refine imp_congr_right fun _ => imp_congr_right fun _ => ?_
      constructor
      · rintro ⟨step, i, h⟩
        exact ⟨elapsed, timeline, step, i, rfl, htimeline, h⟩
      · rintro ⟨_, timeline', step, i, ⟨⟩, htimeline', h⟩
        obtain rfl := Option.some.inj (htimeline.symm.trans htimeline')
        exact ⟨step, i, h⟩

/-- In every run, every timeline step leaves the scenario in force exactly when, whenever a
reload clears the device's anomalies, the next timeline step starts or ends a step of the
scenario on each register that the scenario holds. -/
theorem eachStep_inForce_iff (device : UUID) (engine : SimulationEngine) (es : List Event) :
    EachStep (step device) (fun _ e s' => IsTimelineStep e → s'.InForce device) { engine } es ↔
      EachRest (step device) (fun s e s' es => ¬ IsTimelineStep e →
        ∀ r, Clears device s e ∧ r ∈ s.active →
          SettledNext (step device) IsTimelineStep Settles r s' es) { engine } es := by
  have hcheck : ∀ s e s', step device s e = some s' → IsTimelineStep e →
      (s'.InForce device ↔ ∀ r, s.Lost device r → s.Settles e r) :=
    fun _ _ _ => inForce_timelineStep
  have hclear : ∀ s e s', step device s e = some s' → IsTimelineStep e → s'.InForce device →
      ∀ r, ¬ s'.Lost device r := by
    intro s e s' _ _ hforce r hlost
    simpa [hlost.2] using hforce r hlost.1
  have hstart : ∀ r, ¬ ({ engine } : ScenarioForce).Lost device r := by
    rintro r ⟨hr, -⟩
    simp [active] at hr
  have hraise : ∀ s e s', step device s e = some s' → ¬ IsTimelineStep e →
      ∀ r, s'.Lost device r ↔ s.Lost device r ∨ Clears device s e ∧ r ∈ s.active :=
    fun _ _ _ hs he _ => lost_step hs he
  rw [eachStep_checkpoint_iff hcheck hclear hraise]
  exact and_iff_right fun r hr => absurd hr (hstart r)

/-- A scenario that takes the data of a register away for ten seconds. -/
def lossSteps : List StepInfo := [{
  registerName := "voltage"
  anomalyType := .dataLoss
  anomalyParams := []
  triggerAtSeconds := 0
  durationSeconds := 10 }]

/-- The configs are written after the first second of the scenario. -/
def writeDuringScenario : List Event := [
  .engine (.taskBegins 0), .startScenario 5 "outage" 10 lossSteps, .timelineStep 0,
  .writeConfigs 1, .engine (.taskCancelled 0), .engine (.resumeStop 0)]

theorem scenario_not_inForce : ¬ ∀ device engine es,
    EachStep (step device) (fun _ e s' => IsTimelineStep e → s'.InForce device) { engine } es := by
  intro h
  have hlast := (h 1 (({} : SimulationEngine).launch 1 0 [SimulationEngine.someConfig] [])
    (writeDuringScenario ++ [.timelineStep 1])).last rfl rfl
  have hforce := hlast ⟨1, rfl⟩ "voltage" (by decide)
  cases hforce

end ScenarioForce

end GhostMeter.Services
