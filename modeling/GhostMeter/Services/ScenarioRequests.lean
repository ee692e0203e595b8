import GhostMeter.Services.DeviceRequests
import GhostMeter.Services.ScenarioForce
import Mathlib.Data.Finset.Sort
import Mathlib.Data.String.Basic

/-! Start and stop requests for the scenarios of one device and for the device itself, between
the steps of the timelines.  A request runs from one await to the next; what the adapter makes
of a start is part of the event. -/

namespace GhostMeter

open GhostMeter.Lib GhostMeter.Simulation

namespace Services

/-- A scenario that the runner has started, with its `_drive_timeline` task. -/
structure ScenarioTask where
  running : RunningScenario
  triggered : Finset ℕ := ∅
  status : TaskStatus := .running

/-- A request that has passed its check of the status, by what it awaits next. -/
inductive ScenarioRequest
  /-- The route `start_scenario`: the rest of the device, then the scenario. -/
  | loadingDevice
  | loadingScenario
  /-- `runner.stop`, of the route `stop_scenario` or in `stop_device`: the task it has
  cancelled. -/
  | stoppingScenario (t : TaskRef) (halts : Bool)
  | device (r : DeviceRequest)
  | finished

namespace ScenarioRequest

/-- The scenario whose anomalies the request has still to clear. -/
def scenario : ScenarioRequest → Option TaskRef
  | stoppingScenario t _ => some t
  | _ => none

/-- The request has been through the runner's entry, and has not ended. -/
def clearing : ScenarioRequest → Bool
  | stoppingScenario .. => true
  | device r => r.halting
  | _ => false

end ScenarioRequest

/-- The row's status, the engine with the injector that the runner shares, the runner's entry
for the device, and the requests. -/
structure ScenarioLifecycle where
  status : DeviceStatus
  engine : SimulationEngine
  scenarios : List ScenarioTask := []
  entry : Option TaskRef := none
  requests : List ScenarioRequest := []

namespace ScenarioLifecycle

variable (device : UUID)

inductive Event
  | startScenario
  /-- The device is there: the look at the runner's entry. -/
  | checkEntry (i : ℕ)
  /-- `runner.start`. -/
  | scenarioLoaded (i : ℕ) (scenarioId : UUID) (scenarioName : String)
      (totalDurationSeconds : ℤ) (steps : List StepInfo)
  /-- There is no such scenario, or it is for another template. -/
  | scenarioRefused (i : ℕ)
  | stopScenario
  /-- The end of `runner.stop`. -/
  | scenarioAwaited (i : ℕ)
  | timelineStep (t : TaskRef) (elapsed : ℚ)
  | timelineCancelled (t : TaskRef)
  | startDevice
  | stopDevice
  /-- The template is loaded: `register_device_runtime` registers the device, or the adapter
  raises, or the protocol manager is not running. -/
  | registered (i : ℕ)
  | registrationFailed (i : ℕ)
  | managerStopped (i : ℕ)
  | dataLoaded (i : ℕ) (configs : List SimulationConfig)
  | schedulesLoaded (i : ℕ) (schedules : List ScheduleEntry)
  | loadFailed (i : ℕ)
  /-- MQTT publishing is stopped: the scenario, then the engine's `stop_device`. -/
  | halt (i : ℕ)
  | taskAwaited (i : ℕ)
  /-- The commit of the status. -/
  | commit (i : ℕ)
  /-- A task of the engine goes on: its first step, a tick without an error, or its end once
  cancelled. -/
  | taskBegins (t : TaskRef)
  | tick (t : TaskRef) (values : Dict String PyFloat) (calls : List ApplyCall)
  | taskCancelled (t : TaskRef)

/-- The request at `i` goes on to its next await. -/
def await (s : ScenarioLifecycle) (i : ℕ) (r : ScenarioRequest) : ScenarioLifecycle :=
  { s with requests := s.requests.set i r }

/-- The request at `i` commits the status and ends. -/
def finish (s : ScenarioLifecycle) (i : ℕ) (status : DeviceStatus) : ScenarioLifecycle :=
  { s with status }.await i .finished

def arrive (s : ScenarioLifecycle) (r : ScenarioRequest) : ScenarioLifecycle :=
  { s with requests := s.requests ++ [r] }

/-- `active_anomalies` of a scenario. -/
def activeOf (s : ScenarioLifecycle) (t : TaskRef) : Finset String :=
  (s.scenarios[t]?).elim ∅ (·.running.activeAnomalies)

/-- `active_anomalies` of the scenario in the runner's entry. -/
def active (s : ScenarioLifecycle) : Finset String := s.entry.elim ∅ s.activeOf

/-- The real-time anomalies of the device. -/
def realtime (s : ScenarioLifecycle) : Dict String AnomalyState :=
  s.engine.injector.getActive device

/-- The loop's variables; the entry is in the lifecycle. -/
def loop (s : ScenarioLifecycle) (task : ScenarioTask) : Timeline where
  injector := s.engine.injector
  entries := Dict.empty.set device task.running.scenarioId
  running := task.running
  triggered := task.triggered

def removeAll (injector : AnomalyInjector) (registers : Finset String) : AnomalyInjector :=
  (registers.sort (· ≤ ·)).foldl (fun injector r => injector.remove device r) injector

/-- The end of `runner.stop`, after the task. -/
def clearScenario (s : ScenarioLifecycle) (t : TaskRef) (task : ScenarioTask) :
    ScenarioLifecycle :=
  { s with
    engine := { s.engine with
      injector := removeAll device s.engine.injector task.running.activeAnomalies }
    scenarios := s.scenarios.set t { task with
      running := { task.running with activeAnomalies := ∅, status := .completed } } }

/-- `runner.stop` up to its end, or to the task that it awaits. -/
def stopScenario (s : ScenarioLifecycle) : ScenarioLifecycle × Option TaskRef :=
  match s.entry with
  | none => (s, none)
  | some t =>
    let s := { s with entry := none }
    match s.scenarios[t]? with
    | none => (s, none)
    | some task =>
      if task.status.done then (s.clearScenario device t task, none)
      else ({ s with scenarios := s.scenarios.set t { task with status := .cancelling } }, some t)

/-- The engine's `stop_device`, in the request at `i`, up to its next await. -/
def haltEngine (s : ScenarioLifecycle) (i : ℕ) : ScenarioLifecycle :=
  match s.engine.stopDevice device with
  | (engine, .suspended t) => { s with engine }.await i (.device (.awaitingTask t))
  | (engine, _) => { s with engine }.await i (.device .committing)

def step (s : ScenarioLifecycle) : Event → Option ScenarioLifecycle
  | .startScenario => some (if s.status = .running then s.arrive .loadingDevice else s)
  | .checkEntry i =>
    match s.requests[i]? with
    | some .loadingDevice =>
      some (s.await i (if s.entry.isSome then .finished else .loadingScenario))
    | _ => none
  | .scenarioLoaded i scenarioId scenarioName totalDurationSeconds steps =>
    match s.requests[i]? with
    | some .loadingScenario =>
      let task : ScenarioTask :=
        { running := { scenarioId, scenarioName, totalDurationSeconds, steps } }
      some (
        if s.entry.isSome then s.await i .finished
        else { s with
          scenarios := s.scenarios ++ [task]
          entry := some s.scenarios.length }.await i .finished)
    | _ => none
  | .scenarioRefused i =>
    match s.requests[i]? with
    | some .loadingScenario => some (s.await i .finished)
    | _ => none
  | .stopScenario =>
    match s.stopScenario device with
    | (s, some t) => some (s.arrive (.stoppingScenario t false))
    | (s, none) => some s
  | .scenarioAwaited i =>
    match s.requests[i]? with
    | some (.stoppingScenario t halts) =>
      match s.scenarios[t]? with
      | some task =>
        if task.status.done then
          let s := s.clearScenario device t task
          some (if halts then s.haltEngine device i else s.await i .finished)
        else none
      | none => none
    | _ => none
  | .timelineStep t elapsed =>
    match s.scenarios[t]? with
    | some task =>
      if task.status = .running then
        let timeline := (s.loop device task).body device elapsed
        some { s with
          engine := { s.engine with injector := timeline.injector }
          scenarios := s.scenarios.set t {
            running := timeline.running
            triggered := timeline.triggered
            status := if timeline.left then .returned else .running }
          entry := if timeline.left then none else s.entry }
      else none
    | none => none
  | .timelineCancelled t =>
    match s.scenarios[t]? with
    | some task =>
      if task.status = .cancelling then
        some { s with scenarios := s.scenarios.set t { task with status := .returned } }
      else none
    | none => none
  | .startDevice =>
    some (if s.status = .stopped then s.arrive (.device .starting) else s)
  | .stopDevice =>
    some (if s.status = .stopped then s else s.arrive (.device .stopping))
  | .registered i =>
    match s.requests[i]? with
    | some (.device .starting) =>
      some (s.await i (.device (
        if (s.engine.deviceStates device).isSome then .publishing else .loadingData)))
    | _ => none
  | .registrationFailed i =>
    match s.requests[i]? with
    | some (.device .starting) => some (s.await i (.device .failing))
    | _ => none
  | .managerStopped i =>
    match s.requests[i]? with
    | some (.device .starting) => some (s.await i (.device .publishing))
    | _ => none
  | .dataLoaded i configs =>
    match s.requests[i]? with
    | some (.device .loadingData) =>
      some (s.await i (.device (
        if configs.isEmpty then .publishing else .loadingSchedules configs)))
    | _ => none
  | .schedulesLoaded i schedules =>
    match s.requests[i]? with
    | some (.device (.loadingSchedules configs)) =>
      some ({ s with engine := s.engine.launch device 0 configs schedules }.await i
        (.device .publishing))
    | _ => none
  | .loadFailed i =>
    match s.requests[i]? with
    | some (.device .loadingData) | some (.device (.loadingSchedules _)) =>
      some (s.await i (.device .publishing))
    | _ => none
  | .halt i =>
    match s.requests[i]? with
    | some (.device .stopping) =>
      match s.stopScenario device with
      | (s, some t) => some (s.await i (.stoppingScenario t true))
      | (s, none) => some (s.haltEngine device i)
    | _ => none
  | .taskAwaited i =>
    match s.requests[i]? with
    | some (.device (.awaitingTask t)) =>
      match s.engine.tasks[t]? with
      | some task =>
        match task.status with
        | .cancelled | .returned =>
          some ({ s with engine := s.engine.clearDevice device }.await i (.device .committing))
        | .crashed => some (s.await i (.device .committing))
        | _ => none
      | none => none
    | _ => none
  | .commit i =>
    match s.requests[i]? with
    | some (.device .publishing) => some (s.finish i .running)
    | some (.device .failing) => some (s.finish i .error)
    | some (.device .committing) => some (s.finish i .stopped)
    | _ => none
  | .taskBegins t => (s.engine.step (.taskBegins t)).map fun engine => { s with engine }
  | .tick t values calls =>
    match s.engine.tasks[t]? with
    | some task =>
      (s.engine.step (.tick t false values
        (ScenarioForce.applyCalls s.engine.injector task.device calls))).map
        fun engine => { s with engine }
    | none => none
  | .taskCancelled t => (s.engine.step (.taskCancelled t)).map fun engine => { s with engine }

/-- All requests have ended. -/
def Quiet (s : ScenarioLifecycle) : Prop := ∀ r ∈ s.requests, r = .finished

/-- A scenario runs on a running device only, and the device's real-time anomalies are its
own. -/
structure Settled (s : ScenarioLifecycle) : Prop where
  running : s.entry.isSome → s.status = .running
  anomalies : ∀ r, (s.realtime device r).isSome ↔ r ∈ s.active

/-- Requests keep apart: a scenario starts only while the device is running and no request that
has been through the runner's entry is still under way, and a start fails only without one. -/
def Apart (s : ScenarioLifecycle) : Event → Prop
  | .scenarioLoaded .. =>
    s.entry = none → s.status = .running ∧ ∀ r ∈ s.requests, r.clearing = false
  | .commit i => s.requests[i]? = some (.device .failing) → s.entry = none
  | _ => True

structure Inv (s : ScenarioLifecycle) : Prop where
  entry : ∀ t, s.entry = some t → s.status = .running ∧
    (∀ r ∈ s.requests, r.clearing = false) ∧
      ∃ task, s.scenarios[t]? = some task ∧ task.status = .running
  live : ∀ t task, s.scenarios[t]? = some task → task.status = .running → s.entry = some t
  synced : s.entry.isSome → ∀ r, (s.realtime device r).isSome ↔ r ∈ s.active
  pending : s.entry = none → ∀ r, (s.realtime device r).isSome →
    ∃ x ∈ s.requests, ∃ t, x.scenario = some t ∧ r ∈ s.activeOf t

section Inv

variable {device} {s s' : ScenarioLifecycle} {e : Event} {i : ℕ} {r r' : ScenarioRequest}
  {t : TaskRef} {task : ScenarioTask}

theorem clearing_of_scenario (h : r.scenario = some t) : r.clearing = true := by
  cases r <;> first | rfl | cases h

theorem getActive_removeAll (injector : AnomalyInjector) (registers : Finset String)
    (r : String) : (removeAll device injector registers).getActive device r =
      if r ∈ registers then none else injector.getActive device r := by
  have hfold : ∀ (l : List String) (injector : AnomalyInjector),
      (l.foldl (fun injector r => injector.remove device r) injector).getActive device r =
        if r ∈ l then none else injector.getActive device r := by
    intro l
    induction l with
    | nil => exact fun _ => rfl
    | cons r' l ih =>
      intro injector
      rw [List.foldl_cons, ih, AnomalyInjector.getActive_remove, Dict.pop_apply]
      by_cases hr : r = r' <;> simp [hr]
  simpa [removeAll] using hfold (registers.sort (· ≤ ·)) injector

/-- An entry is left alone by every request under way. -/
theorem Inv.entry_eq_none (h : Inv device s) (hi : s.requests[i]? = some r)
    (hr : r.clearing = true) : s.entry = none := by
  cases hentry : s.entry with
  | none => rfl
  | some t =>
    have hno := (h.entry t hentry).2.1 r (List.mem_of_getElem? hi)
    rw [hr] at hno
    cases hno

/-- A request goes on that has nothing more to clear. -/
theorem Inv.await (h : Inv device s) (hi : s.requests[i]? = some r)
    (hr : ∀ t, r.scenario = some t → s.activeOf t = ∅)
    (hr' : r'.clearing = true → s.entry = none) : Inv device (s.await i r') := by
  constructor
  · intro t ht
    obtain ⟨hstatus, hclearing, htask⟩ := h.entry t ht
    refine ⟨hstatus, ?_, htask⟩
    intro x hx
    rcases List.mem_or_eq_of_mem_set hx with hx | rfl
    · exact hclearing x hx
    · cases hx' : x.clearing with
      | false => rfl
      | true => cases ht.symm.trans (hr' hx')
  · exact h.live
  · exact h.synced
  · intro hentry register hsome
    obtain ⟨x, hx, t, ht, hmem⟩ := h.pending hentry register hsome
    obtain ⟨j, hj⟩ := List.mem_iff_getElem?.1 hx
    refine ⟨x, ?_, t, ht, hmem⟩
    by_cases hij : i = j
    · subst hij
      obtain rfl := Option.some.inj (hi.symm.trans hj)
      rw [hr t ht] at hmem
      cases hmem
    · exact List.mem_of_getElem? ((List.getElem?_set_ne hij).trans hj)

theorem Inv.arrive (h : Inv device s) (hr : r.clearing = false) : Inv device (s.arrive r) := by
  constructor
  · intro t ht
    obtain ⟨hstatus, hclearing, htask⟩ := h.entry t ht
    refine ⟨hstatus, ?_, htask⟩
    intro x hx
    rcases List.mem_append.1 hx with hx | hx
    · exact hclearing x hx
    · rwa [List.mem_singleton.1 hx]
  · exact h.live
  · exact h.synced
  · intro hentry register hsome
    obtain ⟨x, hx, t, ht⟩ := h.pending hentry register hsome
    exact ⟨x, List.mem_append_left _ hx, t, ht⟩

/-- The engine goes on, and takes no anomaly away while a scenario runs. -/
theorem Inv.engine (h : Inv device s) {engine : SimulationEngine}
    (hsome : ∀ r, (engine.injector.getActive device r).isSome → (s.realtime device r).isSome)
    (hkeeps : s.entry.isSome → ∀ r, (s.realtime device r).isSome →
      (engine.injector.getActive device r).isSome) : Inv device { s with engine } where
  entry := h.entry
  live := h.live
  synced hentry r :=
    ⟨fun hr => (h.synced hentry r).1 (hsome r hr),
      fun hr => hkeeps hentry r ((h.synced hentry r).2 hr)⟩
  pending hentry r hr := h.pending hentry r (hsome r hr)

/-- A request goes on that neither has nor had anything to clear. -/
theorem Inv.advance (h : Inv device s) (hi : s.requests[i]? = some r) (hr : r.scenario = none)
    (hr' : r'.clearing = false) : Inv device (s.await i r') := by
  refine h.await hi (fun t ht => ?_) fun hclearing => ?_
  · cases hr.symm.trans ht
  · cases hr'.symm.trans hclearing

theorem Inv.background (h : Inv device s) {e : EngineEvent} {engine : SimulationEngine}
    (htick : ∀ t hadError values injector, e ≠ .tick t hadError values injector)
    (hs : s.engine.step e = some engine) (hclears : s.engine.clears e = none) :
    Inv device { s with engine } := by
  have hsame := @ScenarioForce.getActive_step device _ _ _ htick hs
  rw [hclears, if_neg nofun] at hsame
  refine h.engine (fun r hr => ?_) fun _ r hr => ?_
  · rwa [hsame] at hr
  · rwa [hsame]

theorem Inv.status (h : Inv device s) {status : DeviceStatus}
    (hstatus : s.entry.isSome → status = .running) : Inv device { s with status } where
  entry t ht := ⟨hstatus (ht ▸ rfl), (h.entry t ht).2⟩
  live := h.live
  synced := h.synced
  pending := h.pending

/-- `runner.stop` takes the entry away, and goes on as a request. -/
theorem Inv.popped (h : Inv device s) (hentry : s.entry = some t)
    (htask : s.scenarios[t]? = some task) {requests : List ScenarioRequest} {halts : Bool}
    (hmem : .stoppingScenario t halts ∈ requests) :
    Inv device { s with
      entry := none
      scenarios := s.scenarios.set t { task with status := .cancelling }
      requests } := by
  have hlength : t < s.scenarios.length := (List.getElem?_eq_some_iff.1 htask).1
  constructor
  · exact nofun
  · intro t' task' htask' hrunning
    by_cases ht : t = t'
    · subst ht
      rw [List.getElem?_set_self hlength] at htask'
      obtain rfl := Option.some.inj htask'
      cases hrunning
    · rw [List.getElem?_set_ne ht] at htask'
      exact absurd (Option.some.inj (hentry.symm.trans (h.live t' task' htask' hrunning))) ht
  · exact nofun
  · intro _ r hr
    refine ⟨_, hmem, t, rfl, ?_⟩
    have hactive := (h.synced (hentry ▸ rfl) r).1 hr
    rw [active, hentry, Option.elim_some, activeOf, htask] at hactive
    rw [activeOf, List.getElem?_set_self hlength]
    exact hactive

theorem stopScenario_cases (h : Inv device s) :
    (s.entry = none ∧ s.stopScenario device = (s, none)) ∨
    ∃ t task, s.entry = some t ∧ s.scenarios[t]? = some task ∧ s.stopScenario device =
      ({ s with
        entry := none
        scenarios := s.scenarios.set t { task with status := .cancelling } }, some t) := by
  cases hentry : s.entry with
  | none => exact Or.inl ⟨rfl, by rw [stopScenario, hentry]⟩
  | some t =>
    obtain ⟨-, -, task, htask, hrunning⟩ := h.entry t hentry
    refine Or.inr ⟨t, task, rfl, htask, ?_⟩
    simp [stopScenario, hentry, htask, hrunning, TaskStatus.done]

theorem activeOf_clearScenario (htask : s.scenarios[t]? = some task) (t' : TaskRef) :
    (s.clearScenario device t task).activeOf t' = if t' = t then ∅ else s.activeOf t' := by
  have hlength : t < s.scenarios.length := (List.getElem?_eq_some_iff.1 htask).1
  simp only [activeOf, clearScenario]
  by_cases ht : t' = t
  · rw [ht, List.getElem?_set_self hlength, if_pos rfl]
    rfl
  · rw [List.getElem?_set_ne (Ne.symm ht), if_neg ht]

theorem Inv.clearScenario (h : Inv device s) (hentry : s.entry = none)
    (htask : s.scenarios[t]? = some task) : Inv device (s.clearScenario device t task) := by
  have hlength : t < s.scenarios.length := (List.getElem?_eq_some_iff.1 htask).1
  constructor
  · intro t' ht'
    cases hentry.symm.trans ht'
  · intro t' task' htask' hrunning
    by_cases ht : t = t'
    · subst ht
      rw [ScenarioLifecycle.clearScenario, List.getElem?_set_self hlength] at htask'
      obtain rfl := Option.some.inj htask'
      exact h.live t task htask hrunning
    · rw [ScenarioLifecycle.clearScenario, List.getElem?_set_ne ht] at htask'
      exact h.live t' task' htask' hrunning
  · intro hsome
    rw [ScenarioLifecycle.clearScenario, hentry] at hsome
    cases hsome
  · intro _ r hr
    rw [realtime, ScenarioLifecycle.clearScenario, getActive_removeAll] at hr
    split at hr
    next => cases hr
    next hno =>
      obtain ⟨x, hx, t', ht', hmem⟩ := h.pending hentry r hr
      refine ⟨x, hx, t', ht', ?_⟩
      rw [activeOf_clearScenario htask, if_neg]
      · exact hmem
      · rintro rfl
        rw [activeOf, htask] at hmem
        exact hno hmem

/-- The engine's `stop_device` adds no anomaly. -/
theorem Inv.haltEngine (h : Inv device s) (hi : s.requests[i]? = some r)
    (hr : ∀ t, r.scenario = some t → s.activeOf t = ∅) (hentry : s.entry = none) :
    Inv device (s.haltEngine device i) := by
  have hsome : ∀ r, ((s.engine.stopDevice device).1.injector.getActive device r).isSome →
      (s.realtime device r).isSome := by
    intro r
    have hactive := (@SimulationEngine.injector_stopDevice s.engine device).active
    rw [AnomalyInjector.getActive, hactive, realtime, AnomalyInjector.getActive]
    cases s.engine.clears (.stopDevice device) with
    | some d =>
      rw [Option.elim_some]
      by_cases hdevice : device = d
      · subst hdevice
        simp
      · rw [Dict.pop_of_ne _ hdevice]
        exact id
    | none => exact id
  have hengine : Inv device { s with engine := (s.engine.stopDevice device).1 } :=
    h.engine hsome fun hno => by
      rw [hentry] at hno
      cases hno
  rw [ScenarioLifecycle.haltEngine]
  cases hstop : s.engine.stopDevice device with
  | mk engine outcome =>
    rw [hstop] at hengine
    cases outcome <;> exact hengine.await hi hr fun _ => hentry

theorem active_eq_empty_of_left {timeline : Timeline} {elapsed : ℚ}
    (hleft : timeline.left = false) (h : (timeline.body device elapsed).left = true) :
    (timeline.body device elapsed).running.activeAnomalies = ∅ := by
  obtain ⟨hframe, -⟩ := @Timeline.deactivate_activate_frame device elapsed timeline
  rw [Timeline.body, Timeline.checkComplete] at h
  rw [Timeline.body, Timeline.activeAnomalies_checkComplete]
  split at h
  next hcomplete => exact hcomplete.2
  next => cases hleft.symm.trans (hframe.symm.trans h)

theorem Inv.timelineStep (h : Inv device s) (htask : s.scenarios[t]? = some task)
    (hrunning : task.status = .running) {timeline : Timeline}
    (hsynced : Timeline.Synced device timeline)
    (hleft : timeline.left = true → timeline.running.activeAnomalies = ∅) :
    Inv device { s with
      engine := { s.engine with injector := timeline.injector }
      scenarios := s.scenarios.set t {
        running := timeline.running
        triggered := timeline.triggered
        status := if timeline.left then .returned else .running }
      entry := if timeline.left then none else s.entry } := by
  have hlength : t < s.scenarios.length := (List.getElem?_eq_some_iff.1 htask).1
  have hentry := h.live t task htask hrunning
  obtain ⟨hstatus, hclearing, -⟩ := h.entry t hentry
  have hlive : ∀ t' task', t ≠ t' → s.scenarios[t']? = some task' → task'.status ≠ .running := by
    intro t' task' ht htask' hrunning'
    exact ht (Option.some.inj (hentry.symm.trans (h.live t' task' htask' hrunning')))
  cases hl : timeline.left with
  | true =>
    constructor
    · exact nofun
    · intro t' task' htask' hrunning'
      by_cases ht : t = t'
      · subst ht
        rw [List.getElem?_set_self hlength] at htask'
        obtain rfl := Option.some.inj htask'
        cases hrunning'
      · rw [List.getElem?_set_ne ht] at htask'
        exact absurd hrunning' (hlive t' task' ht htask')
    · exact nofun
    · intro _ r hr
      have hmem := (hsynced r).2 hr
      rw [hleft hl] at hmem
      cases hmem
  | false =>
    constructor
    · intro t' ht'
      obtain rfl := Option.some.inj (hentry.symm.trans ht')
      exact ⟨hstatus, hclearing, _, List.getElem?_set_self hlength, rfl⟩
    · intro t' task' htask' hrunning'
      by_cases ht : t = t'
      · exact ht ▸ hentry
      · rw [List.getElem?_set_ne ht] at htask'
        exact absurd hrunning' (hlive t' task' ht htask')
    · intro _ r
      have hactive : ({ s with
          engine := { s.engine with injector := timeline.injector }
          scenarios := s.scenarios.set t {
            running := timeline.running, triggered := timeline.triggered, status := .running }
          } : ScenarioLifecycle).active = timeline.running.activeAnomalies := by
        rw [active, hentry, Option.elim_some, activeOf, List.getElem?_set_self hlength]
        rfl
      exact (hsynced r).symm.trans (hactive ▸ Iff.rfl)
    · intro hnone
      cases hnone.symm.trans hentry

theorem Inv.timelineCancelled (h : Inv device s) (htask : s.scenarios[t]? = some task)
    (hcancelling : task.status = .cancelling) :
    Inv device { s with scenarios := s.scenarios.set t { task with status := .returned } } := by
  have hlength : t < s.scenarios.length := (List.getElem?_eq_some_iff.1 htask).1
  have hactive : ({ s with
      scenarios := s.scenarios.set t { task with status := .returned } }
        : ScenarioLifecycle).activeOf = s.activeOf := by
    funext t'
    simp only [activeOf]
    by_cases ht : t = t'
    · rw [← ht, List.getElem?_set_self hlength, htask]
      rfl
    · rw [List.getElem?_set_ne ht]
  constructor
  · intro t' ht'
    obtain ⟨hstatus, hclearing, task', htask', hrunning⟩ := h.entry t' ht'
    refine ⟨hstatus, hclearing, task', ?_, hrunning⟩
    rw [List.getElem?_set_ne]
    · exact htask'
    · rintro rfl
      obtain rfl := Option.some.inj (htask.symm.trans htask')
      cases hcancelling.symm.trans hrunning
  · intro t' task' htask' hrunning
    by_cases ht : t = t'
    · subst ht
      rw [List.getElem?_set_self hlength] at htask'
      obtain rfl := Option.some.inj htask'
      cases hrunning
    · rw [List.getElem?_set_ne ht] at htask'
      exact h.live t' task' htask' hrunning
  · intro hsome r
    refine (h.synced hsome r).trans ?_
    rw [active, active, hactive]
  · intro hentry r hr
    obtain ⟨x, hx, t', ht', hmem⟩ := h.pending hentry r hr
    exact ⟨x, hx, t', ht', hactive.symm ▸ hmem⟩

theorem Inv.launch (h : Inv device s) (hentry : s.entry = none) (hstatus : s.status = .running)
    (hclearing : ∀ r ∈ s.requests, r.clearing = false)
    (hrunning : task.status = .running) (hactive : task.running.activeAnomalies = ∅) :
    Inv device { s with
      scenarios := s.scenarios ++ [task]
      entry := some s.scenarios.length } := by
  have hself : (s.scenarios ++ [task])[s.scenarios.length]? = some task := by simp
  constructor
  · intro t ht
    obtain rfl := Option.some.inj ht
    exact ⟨hstatus, hclearing, task, hself, hrunning⟩
  · intro t task' htask' hrunning'
    rw [List.getElem?_append] at htask'
    split at htask'
    next => cases hentry.symm.trans (h.live t task' htask' hrunning')
    next hge =>
      have hlt := (List.getElem?_eq_some_iff.1 htask').1
      rw [List.length_singleton] at hlt
      have ht : s.scenarios.length = t := by omega
      exact congrArg some ht
  · intro _ r
    have hempty : ({ s with
        scenarios := s.scenarios ++ [task]
        entry := some s.scenarios.length } : ScenarioLifecycle).active = ∅ := by
      rw [active, Option.elim_some, activeOf, hself, Option.elim_some, hactive]
    rw [hempty]
    refine iff_of_false (fun hr => ?_) (Finset.notMem_empty r)
    obtain ⟨x, hx, t, ht, -⟩ := h.pending hentry r hr
    have hno := hclearing x hx
    rw [clearing_of_scenario ht] at hno
    cases hno
  · exact nofun

theorem inv_step (h : Inv device s) (hapart : s.Apart e) (hs : s.step device e = some s') :
    Inv device s' := by
  cases e with
  | startScenario =>
    obtain rfl := Option.some.inj hs
    split
    next => exact h.arrive rfl
    next => exact h
  | checkEntry i =>
    simp only [step] at hs
    split at hs
    next hi =>
      obtain rfl := Option.some.inj hs
      refine h.advance hi rfl ?_
      split <;> rfl
    next => cases hs
  | scenarioLoaded i scenarioId scenarioName totalDurationSeconds steps =>
    simp only [step] at hs
    split at hs
    next hi =>
      obtain rfl := Option.some.inj hs
      split
      next => exact h.advance hi rfl rfl
      next hno =>
        have hentry := Option.not_isSome_iff_eq_none.1 hno
        obtain ⟨hstatus, hclearing⟩ := hapart hentry
        refine (h.launch hentry hstatus hclearing rfl rfl).advance hi rfl rfl
    next => cases hs
  | scenarioRefused i =>
    simp only [step] at hs
    split at hs
    next hi =>
      obtain rfl := Option.some.inj hs
      exact h.advance hi rfl rfl
    next => cases hs
  | stopScenario =>
    rcases stopScenario_cases h with ⟨-, hstop⟩ | ⟨t, task, hentry, htask, hstop⟩
    · simp only [step, hstop] at hs
      exact Option.some.inj hs ▸ h
    · simp only [step, hstop] at hs
      obtain rfl := Option.some.inj hs
      exact h.popped hentry htask (List.mem_append_right _ (List.mem_singleton_self _))
  | scenarioAwaited i =>
    simp only [step] at hs
    split at hs
    next t halts hi =>
      split at hs
      next task htask =>
        split at hs
        next =>
          have hentry := h.entry_eq_none hi rfl
          have hclear := h.clearScenario hentry htask
          have hempty : ∀ t', (ScenarioRequest.stoppingScenario t halts).scenario = some t' →
              (s.clearScenario device t task).activeOf t' = ∅ := by
            rintro _ ⟨⟩
            rw [activeOf_clearScenario htask, if_pos rfl]
          obtain rfl := Option.some.inj hs
          split
          next => exact hclear.haltEngine hi hempty hentry
          next => exact hclear.await hi hempty fun hr => by cases hr
        next => cases hs
      next => cases hs
    next => cases hs
  | timelineStep t elapsed =>
    simp only [step] at hs
    split at hs
    next task htask =>
      split at hs
      next hrunning =>
        have hentry := h.live t task htask hrunning
        have hsynced : Timeline.Synced device (s.loop device task) := by
          intro r
          have hactive := h.synced (hentry ▸ rfl) r
          rw [active, hentry, Option.elim_some, activeOf, htask] at hactive
          exact hactive.symm
        obtain rfl := Option.some.inj hs
        exact h.timelineStep htask hrunning (Timeline.synced_body hsynced)
          (active_eq_empty_of_left rfl)
      next => cases hs
    next => cases hs
  | timelineCancelled t =>
    simp only [step] at hs
    split at hs
    next task htask =>
      split at hs
      next hcancelling =>
        obtain rfl := Option.some.inj hs
        exact h.timelineCancelled htask hcancelling
      next => cases hs
    next => cases hs
  | startDevice =>
    obtain rfl := Option.some.inj hs
    split
    next => exact h.arrive rfl
    next => exact h
  | stopDevice =>
    obtain rfl := Option.some.inj hs
    split
    next => exact h
    next => exact h.arrive rfl
  | registered i =>
    simp only [step] at hs
    split at hs
    next hi =>
      obtain rfl := Option.some.inj hs
      refine h.advance hi rfl ?_
      split <;> rfl
    next => cases hs
  | registrationFailed i =>
    simp only [step] at hs
    split at hs
    next hi =>
      obtain rfl := Option.some.inj hs
      exact h.advance hi rfl rfl
    next => cases hs
  | managerStopped i =>
    simp only [step] at hs
    split at hs
    next hi =>
      obtain rfl := Option.some.inj hs
      exact h.advance hi rfl rfl
    next => cases hs
  | dataLoaded i configs =>
    simp only [step] at hs
    split at hs
    next hi =>
      obtain rfl := Option.some.inj hs
      refine h.advance hi rfl ?_
      split <;> rfl
    next => cases hs
  | schedulesLoaded i schedules =>
    simp only [step] at hs
    split at hs
    next configs hi =>
      obtain rfl := Option.some.inj hs
      have hengine : Inv device { s with
          engine := s.engine.launch device 0 configs schedules } :=
        h.engine (fun _ => id) fun _ _ => id
      exact hengine.advance hi rfl rfl
    next => cases hs
  | loadFailed i =>
    simp only [step] at hs
    split at hs
    next hi =>
      obtain rfl := Option.some.inj hs
      exact h.advance hi rfl rfl
    next hi =>
      obtain rfl := Option.some.inj hs
      exact h.advance hi rfl rfl
    next => cases hs
  | halt i =>
    simp only [step] at hs
    split at hs
    next hi =>
      have hlength : i < s.requests.length := (List.getElem?_eq_some_iff.1 hi).1
      rcases stopScenario_cases h with ⟨hentry, hstop⟩ | ⟨t, task, hentry, htask, hstop⟩
      · simp only [hstop] at hs
        obtain rfl := Option.some.inj hs
        exact h.haltEngine hi (fun t ht => by cases ht) hentry
      · simp only [hstop] at hs
        obtain rfl := Option.some.inj hs
        exact h.popped hentry htask (List.mem_set hlength _)
    next => cases hs
  | taskAwaited i =>
    simp only [step] at hs
    split at hs
    next t hi =>
      have hentry := h.entry_eq_none hi rfl
      have hclear : Inv device { s with engine := s.engine.clearDevice device } := by
        refine h.engine (fun r hr => ?_) fun hsome => ?_
        · simp [SimulationEngine.clearDevice, AnomalyInjector.clearDevice,
            AnomalyInjector.getActive] at hr
        · rw [hentry] at hsome
          cases hsome
      split at hs
      next =>
        split at hs
        next =>
          obtain rfl := Option.some.inj hs
          exact hclear.await hi (fun t ht => by cases ht) fun _ => hentry
        next =>
          obtain rfl := Option.some.inj hs
          exact hclear.await hi (fun t ht => by cases ht) fun _ => hentry
        next =>
          obtain rfl := Option.some.inj hs
          exact h.await hi (fun t ht => by cases ht) fun _ => hentry
        next => cases hs
      next => cases hs
    next => cases hs
  | commit i =>
    simp only [step] at hs
    split at hs
    next hi =>
      obtain rfl := Option.some.inj hs
      exact (h.status fun _ => rfl).advance hi rfl rfl
    next hi =>
      obtain rfl := Option.some.inj hs
      refine (h.status fun hsome => ?_).advance hi rfl rfl
      rw [hapart hi] at hsome
      cases hsome
    next hi =>
      obtain rfl := Option.some.inj hs
      refine (h.status fun hsome => ?_).advance hi rfl rfl
      rw [h.entry_eq_none hi rfl] at hsome
      cases hsome
    next => cases hs
  | taskBegins t =>
    obtain ⟨engine, hengine, rfl⟩ := Option.map_eq_some_iff.1 hs
    exact h.background (by simp) hengine rfl
  | tick t values calls =>
    simp only [step] at hs
    split at hs
    next task htask =>
      obtain ⟨engine, hengine, rfl⟩ := Option.map_eq_some_iff.1 hs
      have hsome : ∀ r, (engine.injector.getActive device r).isSome =
          (s.realtime device r).isSome := by
        intro r
        rw [SimulationEngine.injector_tick hengine]
        exact ScenarioForce.isSome_getActive_applyCalls ..
      exact h.engine (fun r hr => hsome r ▸ hr) fun _ r hr => (hsome r).symm ▸ hr
    next => cases hs
  | taskCancelled t =>
    obtain ⟨engine, hengine, rfl⟩ := Option.map_eq_some_iff.1 hs
    exact h.background (by simp) hengine rfl

theorem Inv.settled (h : Inv device s) (hquiet : s.Quiet) : s.Settled device := by
  constructor
  · intro hsome
    obtain ⟨t, ht⟩ := Option.isSome_iff_exists.1 hsome
    exact (h.entry t ht).1
  · intro r
    cases hentry : s.entry with
    | some t => exact h.synced (hentry ▸ rfl) r
    | none =>
      rw [active, hentry]
      refine iff_of_false (fun hr => ?_) (Finset.notMem_empty r)
      obtain ⟨x, hx, t, ht, -⟩ := h.pending hentry r hr
      rw [hquiet x hx] at ht
      cases ht

end Inv

/-- No request has come yet, no scenario runs, and the device has no real-time anomaly. -/
structure Ready (s : ScenarioLifecycle) : Prop where
  requests : s.requests = []
  scenarios : s.scenarios = []
  entry : s.entry = none
  realtime : s.realtime device = Dict.empty

variable {device}

theorem Ready.inv {s : ScenarioLifecycle} (h : s.Ready device) : Inv device s where
  entry := by simp [h.entry]
  live := by simp [h.scenarios]
  synced := by simp [h.entry]
  pending := by simp [h.realtime]

/-- In a run whose requests keep apart, whenever all requests have ended a scenario runs on a
running device only, and the device's real-time anomalies are those of its scenario. -/
theorem scenario_settled_of_apart {s : ScenarioLifecycle} (h : s.Ready device)
    (events : List Event) (hapart : EachStep (step device) (fun s e _ => s.Apart e) s events) :
    EachStep (step device) (fun _ _ s' => s'.Quiet → s'.Settled device) s events :=
  hapart.guarded (J := Inv device)
    (fun _ _ _ hinv hs hg => ⟨inv_step hinv hg hs, (inv_step hinv hg hs).settled⟩) h.inv

/-- A running device without a simulation. -/
def runningMeter : ScenarioLifecycle where
  status := .running
  engine := {}

theorem ready_runningMeter : runningMeter.Ready 7 := ⟨rfl, rfl, rfl, rfl⟩

/-- A scenario runs for a second and is stopped. -/
theorem scenario_settled_of_apart_turns :
    EachStep (step 7) (fun _ _ s' => s'.Quiet → s'.Settled 7) runningMeter
      [.startScenario, .checkEntry 0, .scenarioLoaded 0 5 "outage" 10 ScenarioForce.lossSteps,
        .timelineStep 0 1, .stopScenario, .timelineCancelled 0, .scenarioAwaited 1] := by
  apply scenario_settled_of_apart ready_runningMeter
  rintro _ ⟨⟩
  refine ⟨trivial, ?_⟩
  rintro _ ⟨⟩
  refine ⟨trivial, ?_⟩
  rintro _ ⟨⟩
  refine ⟨fun _ => ⟨rfl, List.forall_mem_singleton.2 rfl⟩, ?_⟩
  rintro _ ⟨⟩
  refine ⟨trivial, ?_⟩
  rintro _ ⟨⟩
  refine ⟨trivial, ?_⟩
  rintro _ ⟨⟩
  refine ⟨trivial, ?_⟩
  rintro _ ⟨⟩
  exact ⟨trivial, trivial⟩

/-- The device is stopped while the route that has found it running loads the scenario: it starts
on the stopped device. -/
theorem late_scenario_not_settled : runningMeter.Ready 7 ∧
    ¬ EachStep (step 7) (fun _ _ s' => s'.Quiet → s'.Settled 7) runningMeter
      [.startScenario, .checkEntry 0, .stopDevice, .halt 1, .commit 1,
        .scenarioLoaded 0 5 "outage" 10 ScenarioForce.lossSteps] := by
  refine ⟨ready_runningMeter, fun h => ?_⟩
  obtain ⟨-, h⟩ := h _ rfl
  obtain ⟨-, h⟩ := h _ rfl
  obtain ⟨-, h⟩ := h _ rfl
  obtain ⟨-, h⟩ := h _ rfl
  obtain ⟨-, h⟩ := h _ rfl
  obtain ⟨hsettled, -⟩ := h _ rfl
  have hquiet := hsettled (List.forall_mem_cons.2 ⟨rfl, List.forall_mem_singleton.2 rfl⟩)
  cases hquiet.running rfl

end ScenarioLifecycle

end Services

end GhostMeter
