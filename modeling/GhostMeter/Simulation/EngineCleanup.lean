import GhostMeter.Simulation.EngineStops

/-! What `stop_device` leaves of a device: its current values and what the anomaly injector
holds for it.  Anomalies come and go between the steps of the engine. -/

namespace GhostMeter.Simulation

open GhostMeter.Lib

namespace SimulationEngine

def getCurrentValues (s : SimulationEngine) (device : UUID) : Dict String PyFloat :=
  (s.deviceValues device).getD Dict.empty

/-- Nothing is left of the device. -/
structure Clean (s : SimulationEngine) (device : UUID) : Prop where
  values : s.getCurrentValues device = Dict.empty
  realtime : s.injector.getActive device = Dict.empty
  schedules : s.injector.getSchedules device = []
  scheduled : s.injector.getScheduled device = Dict.empty

/-- The task has been cancelled, or is about to be. -/
def Waits (s : SimulationEngine) (t : TaskRef) : Prop :=
  ∃ task, s.tasks[t]? = some task ∧ (task.status = .cancelling ∨ task.status = .cancelled)

/-- Every suspended `stop_device` has cancelled the task that it awaits. -/
def StoppingWaits (s : SimulationEngine) : Prop :=
  ∀ device t reload, .stopping device t reload ∈ s.coroutines → s.Waits t

end SimulationEngine

namespace CleanupRun

inductive Event
  | engine (e : EngineEvent)
  | inject (device : UUID) (register : String) (anomalyType : AnomalyType) (params : Params)
  | remove (device : UUID) (register : String)

def step (s : SimulationEngine) : Event → Option SimulationEngine
  | .engine e => s.step e
  | .inject device register anomalyType params =>
    some { s with injector := s.injector.inject device register anomalyType params }
  | .remove device register => some { s with injector := s.injector.remove device register }

/-- In this step a call of `stop_device` for the device ends. -/
def StopFinishes (s : SimulationEngine) (e : Event) (device : UUID) : Prop :=
  match e with
  | .engine (.stopDevice d) | .engine (.reloadDevice d) =>
    d = device ∧ ∀ t, (s.stopDevice d).2 ≠ .suspended t
  | .engine (.resumeStop i) => ∃ t reload, s.coroutines[i]? = some (.stopping device t reload)
  | _ => False

/-- The step calls `stop_device` for the device, which has no entry, or one whose task has
crashed. -/
def StopsCrashed (s : SimulationEngine) (e : Event) (device : UUID) : Prop :=
  match e with
  | .engine (.stopDevice d) | .engine (.reloadDevice d) =>
    d = device ∧ ∀ t task, s.held device = some t → s.tasks[t]? = some task →
      task.status = .crashed
  | _ => False

end CleanupRun

namespace SimulationEngine

variable {s s' : SimulationEngine} {e : EngineEvent} {t t' : TaskRef} {device d : UUID}

theorem clean_clearDevice : (s.clearDevice device).Clean device where
  values := by simp [getCurrentValues, clearDevice]
  realtime := by simp [AnomalyInjector.getActive, AnomalyInjector.clearDevice, clearDevice]
  schedules := by simp [AnomalyInjector.getSchedules, AnomalyInjector.clearDevice, clearDevice]
  scheduled := by simp [AnomalyInjector.getScheduled, AnomalyInjector.clearDevice, clearDevice]

theorem clean_congr (hvalues : s'.deviceValues = s.deviceValues)
    (hinjector : s'.injector = s.injector) : s'.Clean d ↔ s.Clean d := by
  constructor
  · intro h
    exact ⟨by simpa [getCurrentValues, hvalues] using h.values, hinjector ▸ h.realtime,
      hinjector ▸ h.schedules, hinjector ▸ h.scheduled⟩
  · intro h
    exact ⟨by simpa [getCurrentValues, hvalues] using h.values, hinjector ▸ h.realtime,
      hinjector ▸ h.schedules, hinjector ▸ h.scheduled⟩

theorem clean_startDevice : (s.startDevice device).Clean d ↔ s.Clean d := by
  unfold startDevice
  split <;> exact clean_congr rfl rfl

/-- A task that changes, but stays cancelled if it was. -/
theorem Waits.set (h : s.Waits t) {task task' : SimTask} (htask : s.tasks[t']? = some task)
    (htasks : s'.tasks = s.tasks.set t' task')
    (hstatus : task.status = .cancelling ∨ task.status = .cancelled →
      task'.status = .cancelling ∨ task'.status = .cancelled) : s'.Waits t := by
  obtain ⟨old, hold, hcancel⟩ := h
  by_cases heq : t' = t
  · subst heq
    obtain rfl : task = old := Option.some.inj (htask.symm.trans hold)
    exact ⟨task', htasks ▸ getElem?_setTask _ htask, hstatus hcancel⟩
  · exact ⟨old, htasks ▸ (List.getElem?_set_ne heq).trans hold, hcancel⟩

theorem Waits.step (h : s.Waits t) (hs : s.step e = some s') : s'.Waits t := by
  cases tasks_step hs with
  | keeps htasks => simpa only [Waits, htasks] using h
  | creates task htasks hstatus =>
    obtain ⟨old, hold, hcancel⟩ := h
    refine ⟨old, ?_, hcancel⟩
    rw [htasks]
    exact (List.getElem?_append_left (List.getElem?_eq_some_iff.1 hold).1).trans hold
  | changes t' task task' htask htasks hdevice hstatus =>
    exact h.set htask htasks hstatus.stays_cancelled

/-- A stop that has just been called, and has to wait, has cancelled its task. -/
theorem waits_of_suspended (hstop : (s.stopDevice d).2 = .suspended t)
    (htasks : s'.tasks = (s.stopDevice d).1.tasks) : s'.Waits t := by
  have hpair : s.stopDevice d = ((s.stopDevice d).1, .suspended t) := Prod.ext rfl hstop
  obtain ⟨task, htask, heq⟩ := stopDevice_suspended hpair
  refine ⟨{ task with status := .cancelling }, ?_, Or.inl rfl⟩
  rw [htasks.trans (congrArg SimulationEngine.tasks heq)]
  exact getElem?_setTask (s := s.popState d) _ htask

theorem stopping_step {reload : Bool} (hs : s.step e = some s')
    (h : .stopping device t reload ∈ s'.coroutines) :
    .stopping device t reload ∈ s.coroutines ∨ s'.Waits t := by
  refine (coroutines_step hs h).imp_right fun hnew => ?_
  generalize hc : Coroutine.stopping device t reload = c at hnew
  cases hnew with
  | stops d t' hstop =>
    obtain ⟨rfl, rfl, rfl⟩ := Coroutine.stopping.inj hc
    rcases step_stopDevice hs with ⟨hnot, -⟩ | ⟨t, -, rfl⟩
    · exact absurd hstop (hnot _)
    · exact waits_of_suspended hstop rfl
  | stopsFirst d t' hstop =>
    obtain ⟨rfl, rfl, rfl⟩ := Coroutine.stopping.inj hc
    rcases step_reloadDevice hs with ⟨hraised, -⟩ | ⟨hreturned, -⟩ | ⟨t, -, rfl⟩
    · cases hraised.symm.trans hstop
    · cases hreturned.symm.trans hstop
    · exact waits_of_suspended hstop rfl
  | _ => cases hc

theorem StoppingWaits.step (h : s.StoppingWaits) (hs : s.step e = some s') : s'.StoppingWaits := by
  intro device t reload hc
  rcases stopping_step hs hc with hc | hwaits
  · exact (h device t reload hc).step hs
  · exact hwaits

/-- The device whose state the step clears. -/
def clears (s : SimulationEngine) : EngineEvent → Option UUID
  | .stopDevice device | .reloadDevice device =>
    match s.deviceStates device, (s.stopDevice device).2 with
    | some _, .returned => some device
    | _, _ => none
  | .resumeStop i =>
    match s.coroutines[i]? with
    | some (.stopping device t _) =>
      if (s.tasks[t]?).any (·.status = .crashed) then none else some device
    | _ => none
  | _ => none

theorem injector_startDevice : (s.startDevice d).injector = s.injector := by
  unfold startDevice
  split <;> rfl

/-- What a step other than a tick does to the injector. -/
inductive InjectorStep (inj : AnomalyInjector) : Option UUID → AnomalyInjector → Prop
  | keeps : InjectorStep inj none inj
  | clears (device : UUID) : InjectorStep inj (some device) (inj.clearDevice device)
  | loads (device : UUID) (schedules : List ScheduleEntry) :
      InjectorStep inj none (inj.loadSchedules device schedules)

theorem injector_stopDevice :
    InjectorStep s.injector (s.clears (.stopDevice device)) (s.stopDevice device).1.injector := by
  cases hstate : s.deviceStates device with
  | none =>
    simp only [clears, stopDevice, hstate]
    exact .keeps
  | some state =>
    simp only [clears, hstate]
    rcases stopDevice_cases s device with ⟨hheld, -⟩ | ⟨t, -, ⟨-, hstop⟩ | ⟨task, -, hstop⟩⟩
    · simp [held, hstate] at hheld
    · rw [hstop]
      exact .keeps
    · rcases hstop with ⟨-, hstop⟩ | ⟨-, -, hstop⟩ | ⟨-, hstop⟩ <;> rw [hstop]
      · exact .keeps
      · exact .clears device
      · exact .keeps

/-- Apart from the ticks, a step clears a device, loads its schedules, or leaves the injector. -/
theorem injector_step (htick : ∀ t hadError values injector, e ≠ .tick t hadError values injector)
    (hs : s.step e = some s') : InjectorStep s.injector (s.clears e) s'.injector := by
  cases e with
  | tick t hadError values injector => exact absurd rfl (htick t hadError values injector)
  | startDevice d =>
    cases hs
    rw [injector_startDevice]
    exact .keeps
  | stopDevice d =>
    rcases step_stopDevice hs with ⟨-, rfl⟩ | ⟨t, -, rfl⟩
    · exact injector_stopDevice
    · exact injector_stopDevice
  | reloadDevice d =>
    rcases step_reloadDevice hs with ⟨-, rfl⟩ | ⟨-, rfl⟩ | ⟨t, -, rfl⟩
    · exact injector_stopDevice
    · rw [injector_startDevice]
      exact injector_stopDevice
    · exact injector_stopDevice
  | dataLoaded i configs =>
    obtain ⟨d, restartCount, launcher, -, rfl | rfl⟩ := step_dataLoaded hs
    · exact .keeps
    · exact .keeps
  | schedulesLoaded i schedules =>
    obtain ⟨d, restartCount, launcher, configs, -, rfl⟩ := step_schedulesLoaded hs
    exact .loads _ _
  | loadFailed i =>
    obtain ⟨d, restartCount, launcher, -, rfl⟩ := step_loadFailed hs
    cases launcher with
    | startDevice => exact .keeps
    | delayedRestart => exact .keeps
  | wake i =>
    obtain ⟨d, restartCount, -, rfl⟩ := step_wake hs
    exact .keeps
  | resumeStop i =>
    obtain ⟨d, t, reload, task, hi, htask, ⟨hstatus, rfl⟩ | ⟨hstatus, rfl⟩⟩ :=
      step_resumeStop hs
    · simp only [clears, hi, htask, Option.any_some, hstatus, decide_true, if_true]
      exact .keeps
    · have hnot : task.status ≠ .crashed := by
        rcases hstatus with hstatus | hstatus <;> simp [hstatus]
      simp only [clears, hi, htask, Option.any_some, hnot, decide_false, Bool.false_eq_true,
        if_false]
      cases reload with
      | false => exact .clears d
      | true =>
        rw [if_pos rfl, injector_startDevice]
        exact .clears d
  | errorSet i written =>
    obtain ⟨d, -, rfl⟩ := step_errorSet hs
    exact .keeps
  | onTaskDone i =>
    obtain ⟨t, task, -, -, rfl⟩ := step_onTaskDone hs
    unfold onTaskDone
    split
    · simp only
      split <;> exact .keeps
    · exact .keeps
    · exact .keeps
  | taskBegins t =>
    obtain ⟨task, -, -, rfl⟩ := step_taskBegins hs
    exact .keeps
  | taskCrashes t | taskErrorSet t written | taskCancelled t =>
    obtain ⟨task, -, -, rfl⟩ := step_ending rfl hs
    exact .keeps

theorem injector_tick {hadError : Bool} {values : Dict String PyFloat} {injector : AnomalyInjector}
    (hs : s.step (.tick t hadError values injector) = some s') : s'.injector = injector := by
  obtain ⟨task, -, -, rfl⟩ := step_tick hs
  rfl

theorem InjectorStep.active {inj inj' : AnomalyInjector} {cleared : Option UUID}
    (h : InjectorStep inj cleared inj') :
    inj'.active = cleared.elim inj.active inj.active.pop := by
  cases h <;> rfl

end SimulationEngine

namespace CleanupRun

open SimulationEngine

variable {s s' : SimulationEngine} {e : Event} {device : UUID}

theorem stoppingWaits_step (h : s.StoppingWaits) (hs : step s e = some s') :
    s'.StoppingWaits := by
  cases e with
  | engine e => exact h.step hs
  | inject d register anomalyType params =>
    cases hs
    exact h
  | remove d register =>
    cases hs
    exact h

/-- Of a call, what its stop does with the device. -/
theorem clean_stopDevice_iff (hnot : ∀ t, (s.stopDevice device).2 ≠ .suspended t) :
    (s.stopDevice device).1.Clean device ↔
      ((∀ t task, s.held device = some t → s.tasks[t]? = some task → task.status = .crashed) →
        s.Clean device) := by
  have hpop : (s.popState device).Clean device ↔ s.Clean device := clean_congr rfl rfl
  rcases stopDevice_cases s device with
    ⟨hheld, hstop⟩ | ⟨t, hheld, ⟨htask, hstop⟩ | ⟨task, htask, hstop⟩⟩
  · rw [hstop]
    exact ⟨fun h _ => h, fun h => h fun t task ht => by simp [hheld] at ht⟩
  · rw [hstop]
    refine hpop.trans ⟨fun h _ => h, fun h => h fun t' task ht' htask' => ?_⟩
    obtain rfl := Option.some.inj (hheld.symm.trans ht')
    simp [htask] at htask'
  · rcases hstop with ⟨hstatus, hstop⟩ | ⟨-, hstatus, hstop⟩ | ⟨-, hstop⟩
    · rw [hstop]
      refine hpop.trans ⟨fun h _ => h, fun h => h fun t' task' ht' htask' => ?_⟩
      obtain rfl := Option.some.inj (hheld.symm.trans ht')
      exact Option.some.inj (htask.symm.trans htask') ▸ hstatus
    · rw [hstop]
      exact iff_of_true clean_clearDevice fun h => absurd (h t task hheld htask) hstatus
    · exact absurd (by rw [hstop]) (hnot t)

/-- A stop that is suspended has found a task that has not crashed. -/
theorem not_crashed_of_suspended (hstop : (s.stopDevice device).2 = .suspended t) :
    ¬ ∀ t task, s.held device = some t → s.tasks[t]? = some task → task.status = .crashed := by
  intro h
  rcases stopDevice_cases s device with ⟨-, hstop'⟩ | ⟨t, ht, ⟨-, hstop'⟩ | ⟨task, htask, hstop'⟩⟩
  · simp [hstop'] at hstop
  · simp [hstop'] at hstop
  · have hcrashed := h t task ht htask
    rcases hstop' with ⟨-, hstop'⟩ | ⟨-, -, hstop'⟩ | ⟨hdone, -⟩
    · simp [hstop'] at hstop
    · simp [hstop'] at hstop
    · simp [hcrashed, TaskStatus.done] at hdone

/-- A stop that finishes leaves nothing of the device exactly when, if it finds no entry or a
crashed task, there is nothing of it before. -/
theorem clean_step_iff (hwaits : s.StoppingWaits) (hs : step s e = some s') :
    (StopFinishes s e device → s'.Clean device) ↔ (StopsCrashed s e device → s.Clean device) := by
  cases e with
  | engine e =>
    cases e with
    | stopDevice d =>
      by_cases hd : d = device
      · subst hd
        rcases step_stopDevice hs with ⟨hnot, rfl⟩ | ⟨t, ht, -⟩
        · have hclean := clean_stopDevice_iff hnot
          exact ⟨fun h hcrash => hclean.1 (h ⟨rfl, hnot⟩) hcrash.2,
            fun h _ => hclean.2 fun hcrash => h ⟨rfl, hcrash⟩⟩
        · refine iff_of_true (fun h => absurd ht (h.2 t)) fun h => ?_
          exact absurd h.2 (not_crashed_of_suspended ht)
      · exact iff_of_true (fun h => absurd h.1 hd) fun h => absurd h.1 hd
    | reloadDevice d =>
      by_cases hd : d = device
      · subst hd
        have hends (hnot : ∀ t, (s.stopDevice d).2 ≠ .suspended t)
            (hclean : s'.Clean d ↔ (s.stopDevice d).1.Clean d) :
            (StopFinishes s (.engine (.reloadDevice d)) d → s'.Clean d) ↔
              (StopsCrashed s (.engine (.reloadDevice d)) d → s.Clean d) := by
          rw [hclean, clean_stopDevice_iff hnot]
          exact ⟨fun h hcrash => h ⟨rfl, hnot⟩ hcrash.2, fun h _ hcrash => h ⟨rfl, hcrash⟩⟩
        rcases step_reloadDevice hs with ⟨hraised, rfl⟩ | ⟨hreturned, rfl⟩ | ⟨t, ht, -⟩
        · exact hends (by simp [hraised]) Iff.rfl
        · exact hends (by simp [hreturned]) clean_startDevice
        · refine iff_of_true (fun h => absurd ht (h.2 t)) fun h => ?_
          exact absurd h.2 (not_crashed_of_suspended ht)
      · exact iff_of_true (fun h => absurd h.1 hd) fun h => absurd h.1 hd
    | resumeStop i =>
      refine iff_of_true ?_ fun h => h.elim
      rintro ⟨t, reload, hi⟩
      obtain ⟨task, htask, hstatus⟩ := hwaits device t reload (List.mem_of_getElem? hi)
      obtain ⟨_, _, _, _, hi', htask', hresume⟩ := step_resumeStop hs
      cases hi.symm.trans hi'
      cases htask.symm.trans htask'
      rcases hresume with ⟨hcrashed, -⟩ | ⟨-, rfl⟩
      · simp [hcrashed] at hstatus
      · cases reload with
        | false => exact clean_clearDevice
        | true => exact clean_startDevice.2 clean_clearDevice
    | _ => exact iff_of_true (fun h => h.elim) fun h => h.elim
  | _ => exact iff_of_true (fun h => h.elim) fun h => h.elim

/-- In every run, every stop that finishes leaves nothing of the device exactly when every stop
that finds no entry, or the entry of a crashed task, finds nothing else of it either. -/
theorem eachStop_clean_iff (es : List Event) (device : UUID) :
    EachStep step (fun s e s' => StopFinishes s e device → s'.Clean device) {} es ↔
      EachStep step (fun s e _ => StopsCrashed s e device → s.Clean device) {} es :=
  eachStep_iff (J := SimulationEngine.StoppingWaits)
    (fun _ _ _ hwaits hs _ => stoppingWaits_step hwaits hs)
    (fun _ _ _ hwaits hs => clean_step_iff hwaits hs) (by rintro _ _ _ ⟨⟩)

/-- An anomaly is injected, and five failed ticks end the simulation. -/
def errorExit : List Event := [
  .engine (.startDevice 1), .engine (.dataLoaded 0 [someConfig]),
  .engine (.schedulesLoaded 0 []), .engine (.taskBegins 0), .inject 1 "voltage" .dataLoss [],
  failedTick, failedTick, failedTick, failedTick, failedTick,
  .engine (.taskErrorSet 0 true), .engine (.onTaskDone 0)]
where
  failedTick : Event := .engine (.tick 0 true Dict.empty
    (({} : AnomalyInjector).inject 1 "voltage" .dataLoss []))

theorem stop_leaves_anomaly : ¬ ∀ es device,
    EachStep step (fun s e s' => StopFinishes s e device → s'.Clean device) {} es := by
  intro h
  have hlast := (h (errorExit ++ [.engine (.stopDevice 1)]) 1).last rfl rfl
  have hclean := hlast ⟨rfl, fun _ => nofun⟩
  cases congrFun hclean.realtime "voltage"

end CleanupRun

end GhostMeter.Simulation
