import GhostMeter.Simulation.EngineTasks

/-! The engine's calls, each run to its end before anything else happens, as the services
make them one after another. -/

namespace GhostMeter.Simulation.SimulationEngine

open GhostMeter.Lib

/-- `start_device`, with what it loads. -/
def startNow (s : SimulationEngine) (device : UUID) (configs : List SimulationConfig)
    (schedules : List ScheduleEntry) : SimulationEngine :=
  if (s.deviceStates device).isSome then s
  else if configs = [] then s
  else s.launch device 0 configs schedules

/-- `stop_device`, and whether it returned; a task it has to wait for is cancelled. -/
def stopNow (s : SimulationEngine) (device : UUID) : SimulationEngine × Bool :=
  match s.stopDevice device with
  | (s, .returned) => (s, true)
  | (s, .raised) => (s, false)
  | (s, .suspended t) =>
    match s.tasks[t]? with
    | some task => ((s.finish t task .cancelled).clearDevice device, true)
    | none => (s, false)

/-- `reload_device`, and whether it returned. -/
def reloadNow (s : SimulationEngine) (device : UUID) (configs : List SimulationConfig)
    (schedules : List ScheduleEntry) : SimulationEngine × Bool :=
  match s.stopNow device with
  | (s, true) => (s.startNow device configs schedules, true)
  | (s, false) => (s, false)

def isDeviceSimulating (s : SimulationEngine) (device : UUID) : Bool :=
  (s.deviceStates device).isSome

variable {s s' : SimulationEngine} {device : UUID}

section Steps

theorem exec_cons {e : EngineEvent} {es : List EngineEvent} (h : s.step e = some s') :
    exec SimulationEngine.step s (e :: es) = exec SimulationEngine.step s' es := by
  simp [exec, h]

theorem complete_spawn (c : Coroutine) : (s.spawn c).complete s.coroutines.length = s := by
  simp only [complete, spawn]
  rw [List.eraseIdx_append_of_length_le le_rfl]
  simp

theorem getElem?_spawn (c : Coroutine) :
    (s.spawn c).coroutines[s.coroutines.length]? = some c := by
  simp [spawn]

theorem getElem?_setTask {t : TaskRef} {task : SimTask} (task' : SimTask)
    (htask : s.tasks[t]? = some task) : (s.setTask t task').tasks[t]? = some task' := by
  simp [setTask, (List.getElem?_eq_some_iff.1 htask).1]

/-- The rest of a `start_device` that nothing interrupts. -/
theorem exec_startDevice (device : UUID) (configs : List SimulationConfig)
    (schedules : List ScheduleEntry) :
    ∃ es, exec SimulationEngine.step (s.startDevice device) es =
      some (s.startNow device configs schedules) := by
  unfold startNow startDevice
  split
  next => exact ⟨[], rfl⟩
  next =>
    split
    next hempty =>
      have hload : (s.spawn (.loadingData device 0 .startDevice)).step
          (.dataLoaded s.coroutines.length configs) = some s := by
        simp only [SimulationEngine.step, getElem?_spawn, if_pos hempty, complete_spawn]
      exact ⟨[.dataLoaded s.coroutines.length configs], exec_cons hload⟩
    next hsome =>
      have hload : (s.spawn (.loadingData device 0 .startDevice)).step
          (.dataLoaded s.coroutines.length configs) =
          some (s.spawn (.loadingSchedules device 0 .startDevice configs)) := by
        simp [SimulationEngine.step, hsome, advance, spawn]
      have hlaunch : (s.spawn (.loadingSchedules device 0 .startDevice configs)).step
          (.schedulesLoaded s.coroutines.length schedules) =
          some (s.launch device 0 configs schedules) := by
        simp only [SimulationEngine.step, getElem?_spawn, complete_spawn]
      exact ⟨[.dataLoaded s.coroutines.length configs,
        .schedulesLoaded s.coroutines.length schedules],
        (exec_cons hload).trans (exec_cons hlaunch)⟩

theorem exec_startNow (device : UUID) (configs : List SimulationConfig)
    (schedules : List ScheduleEntry) :
    ∃ es, exec SimulationEngine.step s es = some (s.startNow device configs schedules) := by
  obtain ⟨es, hes⟩ := exec_startDevice (s := s) device configs schedules
  exact ⟨.startDevice device :: es, (exec_cons rfl).trans hes⟩

/-- A suspended stop: its task ends, and it goes on. -/
theorem exec_stopping (device : UUID) {t : TaskRef} {task : SimTask}
    (htask : s.tasks[t]? = some task) (hstatus : task.status = .cancelling) :
    exec SimulationEngine.step (s.spawn (.stopping device t false))
        [.taskCancelled t, .resumeStop s.coroutines.length] =
      some ((s.finish t task .cancelled).clearDevice device) := by
  have hcancel : SimulationEngine.step (s.spawn (.stopping device t false)) (.taskCancelled t) =
      some ((s.finish t task .cancelled).spawn (.stopping device t false)) := by
    simp [SimulationEngine.step, setTask, spawn, finish, htask, hstatus]
  have hdone : ((s.finish t task .cancelled).spawn (.stopping device t false)).tasks[t]? =
      some { task with status := .cancelled } := getElem?_setTask _ htask
  have hcor : (s.finish t task .cancelled).coroutines.length = s.coroutines.length := rfl
  rw [exec_cons hcancel]
  simp only [exec, SimulationEngine.step, ← hcor, getElem?_spawn, hdone, complete_spawn]
  rfl

/-- What a stop does, by the task in the device's entry. -/
theorem stopDevice_cases (s : SimulationEngine) (device : UUID) :
    (s.held device = none ∧ s.stopDevice device = (s, .returned)) ∨
    ∃ t, s.held device = some t ∧
      ((s.tasks[t]? = none ∧ s.stopDevice device = (s.popState device, .raised)) ∨
      ∃ task, s.tasks[t]? = some task ∧
        ((task.status = .crashed ∧ s.stopDevice device = (s.popState device, .raised)) ∨
        (task.status.done = true ∧ task.status ≠ .crashed ∧
          s.stopDevice device = ((s.popState device).clearDevice device, .returned)) ∨
        (task.status.done = false ∧ s.stopDevice device =
          ((s.popState device).setTask t { task with status := .cancelling }, .suspended t)))) := by
  cases hstate : s.deviceStates device with
  | none => exact Or.inl ⟨by simp [held, hstate], by simp [stopDevice, hstate]⟩
  | some state =>
    refine Or.inr ⟨state.task, by simp [held, hstate], ?_⟩
    have hpop : (s.popState device).tasks = s.tasks := rfl
    cases htask : s.tasks[state.task]? with
    | none => exact Or.inl ⟨rfl, by simp [stopDevice, hstate, hpop, htask]⟩
    | some task =>
      refine Or.inr ⟨task, rfl, ?_⟩
      cases hstatus : task.status with
      | crashed => exact Or.inl ⟨rfl, by simp [stopDevice, hstate, hpop, htask, hstatus]⟩
      | cancelled | returned =>
        exact Or.inr (Or.inl ⟨rfl, by simp, by simp [stopDevice, hstate, hpop, htask, hstatus]⟩)
      | created | running | settingError | cancelling =>
        exact Or.inr (Or.inr ⟨rfl, by simp [stopDevice, hstate, hpop, htask, hstatus]⟩)

theorem stopDevice_suspended {t : TaskRef} (h : s.stopDevice device = (s', .suspended t)) :
    ∃ task, s.tasks[t]? = some task ∧
      s' = (s.popState device).setTask t { task with status := .cancelling } := by
  rcases stopDevice_cases s device with ⟨-, h'⟩ | ⟨t', -, ⟨-, h'⟩ | ⟨task, htask, h'⟩⟩
  · simp [h] at h'
  · simp [h] at h'
  · rcases h' with ⟨-, h'⟩ | ⟨-, -, h'⟩ | ⟨-, h'⟩
    · simp [h] at h'
    · simp [h] at h'
    · obtain ⟨rfl, ⟨⟩⟩ := Prod.mk.inj (h.symm.trans h')
      exact ⟨task, htask, rfl⟩

/-- The events of a `stop_device` that nothing interrupts. -/
theorem exec_stopNow (device : UUID) :
    ∃ es, exec SimulationEngine.step s es = some (s.stopNow device).1 := by
  unfold stopNow
  split
  next s' h => exact ⟨[.stopDevice device], by simp [exec, SimulationEngine.step, h]⟩
  next s' h => exact ⟨[.stopDevice device], by simp [exec, SimulationEngine.step, h]⟩
  next s' t h =>
    obtain ⟨task, htask, rfl⟩ := stopDevice_suspended h
    have hset := getElem?_setTask (s := s.popState device) { task with status := .cancelling } htask
    rw [hset]
    refine ⟨[.stopDevice device, .taskCancelled t, .resumeStop s.coroutines.length], ?_⟩
    have hstop : s.step (.stopDevice device) = some (((s.popState device).setTask t
        { task with status := .cancelling }).spawn (.stopping device t false)) := by
      simp only [SimulationEngine.step, h]
    exact (exec_cons hstop).trans (exec_stopping device hset rfl)

end Steps

/-- What a stop that nothing interrupts does. -/
theorem stopNow_cases (s : SimulationEngine) (device : UUID) :
    (s.held device = none ∧ s.stopNow device = (s, true)) ∨
    ∃ t, s.held device = some t ∧
      ((s.tasks[t]? = none ∧ s.stopNow device = (s.popState device, false)) ∨
      ∃ task, s.tasks[t]? = some task ∧
        ((task.status = .crashed ∧ s.stopNow device = (s.popState device, false)) ∨
        (task.status.done = true ∧ task.status ≠ .crashed ∧
          s.stopNow device = ((s.popState device).clearDevice device, true)) ∨
        (task.status.done = false ∧ s.stopNow device =
          (((s.popState device).finish t task .cancelled).clearDevice device, true)))) := by
  rcases stopDevice_cases s device with ⟨hnone, h⟩ | ⟨t, ht, ⟨htask, h⟩ | ⟨task, htask, h⟩⟩
  · exact Or.inl ⟨hnone, by simp [stopNow, h]⟩
  · exact Or.inr ⟨t, ht, Or.inl ⟨htask, by simp [stopNow, h]⟩⟩
  · refine Or.inr ⟨t, ht, Or.inr ⟨task, htask, ?_⟩⟩
    rcases h with ⟨hstatus, h⟩ | ⟨hdone, hstatus, h⟩ | ⟨hdone, h⟩
    · exact Or.inl ⟨hstatus, by simp [stopNow, h]⟩
    · exact Or.inr (Or.inl ⟨hdone, hstatus, by simp [stopNow, h]⟩)
    · have hset :=
        getElem?_setTask (s := s.popState device) { task with status := .cancelling } htask
      refine Or.inr (Or.inr ⟨hdone, ?_⟩)
      simp only [stopNow, h, hset]
      simp [finish, setTask, List.set_set]

/-- The device has an entry, or a task that goes on without one. -/
def HasTask (s : SimulationEngine) (device : UUID) : Prop :=
  (s.deviceStates device).isSome ∨ ∃ t, s.Live t device

/-- The device that the step launches a task for. -/
def launches (s : SimulationEngine) : EngineEvent → Option UUID
  | .schedulesLoaded i _ =>
    match s.coroutines[i]? with
    | some (.loadingSchedules device _ _ _) => some device
    | _ => none
  | _ => none

section HasTask

variable {d : UUID}

theorem hasTask_launch {restartCount : ℕ} {configs : List SimulationConfig}
    {schedules : List ScheduleEntry} :
    (s.launch device restartCount configs schedules).HasTask d ↔ d = device ∨ s.HasTask d := by
  constructor
  · rintro (hsome | ⟨t, task, htask, hdevice, hlive⟩)
    · simp only [launch, Dict.set_apply] at hsome
      split at hsome
      next hd => exact Or.inl hd
      next => exact Or.inr (Or.inl hsome)
    · rcases Nat.lt_or_ge t s.tasks.length with hlt | hge
      · exact Or.inr (Or.inr ⟨t, task, (List.getElem?_append_left hlt).symm.trans htask,
          hdevice, hlive⟩)
      · have hnew : task ∈ [({ device, configs } : SimTask)] := by
          rw [launch, List.getElem?_append_right hge] at htask
          exact List.mem_of_getElem? htask
        rw [List.mem_singleton.1 hnew] at hdevice
        exact Or.inl hdevice.symm
  · rintro (rfl | hsome | ⟨t, task, htask, hrest⟩)
    · exact Or.inl (by simp [launch])
    · refine Or.inl ?_
      simp only [launch, Dict.set_apply]
      split <;> simp [hsome]
    · exact Or.inr ⟨t, task, (List.getElem?_append_left
        (List.getElem?_eq_some_iff.1 htask).1).trans htask, hrest⟩

theorem hasTask_startNow {configs : List SimulationConfig} {schedules : List ScheduleEntry}
    (h : (s.startNow device configs schedules).HasTask d) : d = device ∨ s.HasTask d := by
  unfold startNow at h
  split at h
  next => exact Or.inr h
  next =>
    split at h
    next => exact Or.inr h
    next => exact hasTask_launch.1 h

/-- A stop leaves the device's tasks that its entry does not hold. -/
theorem hasTask_stopNow :
    ((s.stopNow device).1.HasTask device ↔ ∃ t, s.Live t device ∧ s.held device ≠ some t) ∧
      ((s.stopNow device).1.HasTask d → s.HasTask d) := by
  have hpop : ((s.popState device).deviceStates device) = none := by simp [popState]
  have hpopd : ∀ d, ((s.popState device).deviceStates d).isSome → (s.deviceStates d).isSome := by
    intro d hd
    simp only [popState, Dict.pop_apply] at hd
    split at hd
    next => cases hd
    next => exact hd
  rcases stopNow_cases s device with ⟨hnone, hstop⟩ | ⟨t, ht, hstop⟩
  · have hentry : s.deviceStates device = none := by simpa [held] using hnone
    rw [hstop]
    exact ⟨by simp [HasTask, hentry, hnone], id⟩
  · have hdone : ∀ s' : SimulationEngine, s'.tasks = s.tasks →
        s'.deviceStates = (s.popState device).deviceStates → ¬ s.Live t device →
        (s'.HasTask device ↔ ∃ t, s.Live t device ∧ s.held device ≠ some t) ∧
          (s'.HasTask d → s.HasTask d) := by
      intro s' htasks hstates hno
      simp only [HasTask, Live, TaskIn, htasks, hstates, hpop, Option.isSome_none,
        Bool.false_eq_true, false_or]
      refine ⟨exists_congr fun t' => (and_iff_left_of_imp ?_).symm, Or.imp_left (hpopd d)⟩
      rintro hlive hheld
      obtain rfl := Option.some.inj (ht.symm.trans hheld)
      exact hno hlive
    rcases hstop with ⟨hnone, hstop⟩ | ⟨task, htask, hstop⟩
    · rw [hstop]
      refine hdone _ rfl rfl ?_
      rintro ⟨task, htask, -⟩
      simp [hnone] at htask
    · have hlive : s.Live t device → task.status.live = true := by
        rintro ⟨task', htask', -, hlive⟩
        exact Option.some.inj (htask.symm.trans htask') ▸ hlive
      rcases hstop with ⟨hcrash, hstop⟩ | ⟨hfin, -, hstop⟩ | ⟨hfin, hstop⟩
      · rw [hstop]
        exact hdone _ rfl rfl fun h => by simpa [hcrash, TaskStatus.live] using hlive h
      · rw [hstop]
        refine hdone _ rfl rfl fun h => ?_
        have := hlive h
        cases hst : task.status <;> simp [hst, TaskStatus.live, TaskStatus.done] at this hfin
      · -- the held task is cancelled
        have hcancel : ∀ t' d', ((s.stopNow device).1.Live t' d') ↔ t' ≠ t ∧ s.Live t' d' := by
          intro t' d'
          rw [hstop]
          constructor
          · intro hl
            have hset : (s.setTask t { task with status := .cancelled }).Live t' d' := hl
            rcases taskIn_setTask hset with ⟨-, -, hl⟩ | hl
            · simp [TaskStatus.live] at hl
            · exact hl
          · rintro ⟨hne, task', htask', hrest⟩
            exact ⟨task', (List.getElem?_set_ne (Ne.symm hne)).trans htask', hrest⟩
        have hstates : (s.stopNow device).1.deviceStates = (s.popState device).deviceStates := by
          rw [hstop]
          rfl
        simp only [HasTask, hcancel, hstates, hpop, Option.isSome_none, Bool.false_eq_true,
          false_or, ht, ne_eq, Option.some.injEq]
        exact ⟨exists_congr fun t' => by rw [and_comm, eq_comm],
          Or.imp (hpopd d) (Exists.imp fun _ => And.right)⟩

theorem deviceStates_startDevice : (s.startDevice d).deviceStates = s.deviceStates := by
  unfold startDevice
  split <;> rfl

theorem deviceStates_stopDevice :
    ((s.stopDevice device).1.deviceStates d).isSome → (s.deviceStates d).isSome := by
  have hpop : (s.deviceStates.pop device d).isSome → (s.deviceStates d).isSome := by
    rw [Dict.pop_apply]
    split <;> simp
  rcases stopDevice_cases s device with ⟨-, h⟩ | ⟨t, -, ⟨-, h⟩ | ⟨task, -, h⟩⟩
  · rw [h]; exact id
  · rw [h]; exact hpop
  · rcases h with ⟨-, h⟩ | ⟨-, -, h⟩ | ⟨-, h⟩ <;> rw [h] <;> exact hpop

/-- Only a launch makes an entry. -/
theorem deviceStates_step {e : EngineEvent} (hs : s.step e = some s')
    (hd : (s'.deviceStates d).isSome) : (s.deviceStates d).isSome ∨ s.launches e = some d := by
  cases e with
  | startDevice device =>
    cases hs
    exact Or.inl (deviceStates_startDevice ▸ hd)
  | stopDevice device =>
    refine Or.inl (@deviceStates_stopDevice s device d ?_)
    rcases step_stopDevice hs with ⟨-, rfl⟩ | ⟨t, -, rfl⟩
    · exact hd
    · exact hd
  | reloadDevice device =>
    refine Or.inl (@deviceStates_stopDevice s device d ?_)
    rcases step_reloadDevice hs with ⟨-, rfl⟩ | ⟨-, rfl⟩ | ⟨t, -, rfl⟩
    · exact hd
    · rwa [deviceStates_startDevice] at hd
    · exact hd
  | dataLoaded i configs =>
    obtain ⟨device, restartCount, launcher, -, rfl | rfl⟩ := step_dataLoaded hs
    · exact Or.inl hd
    · exact Or.inl hd
  | schedulesLoaded i schedules =>
    obtain ⟨device, restartCount, launcher, configs, hi, rfl⟩ := step_schedulesLoaded hs
    simp only [launch, complete, Dict.set_apply] at hd
    split at hd
    next hdev => exact Or.inr (by simp [launches, hi, hdev])
    next => exact Or.inl hd
  | loadFailed i =>
    obtain ⟨device, restartCount, launcher, -, rfl⟩ := step_loadFailed hs
    cases launcher with
    | startDevice => exact Or.inl hd
    | delayedRestart => exact Or.inl hd
  | wake i =>
    obtain ⟨device, restartCount, -, rfl⟩ := step_wake hs
    simp only [advance, popState, Dict.pop_apply] at hd
    split at hd
    next => cases hd
    next => exact Or.inl hd
  | resumeStop i =>
    obtain ⟨device, t, reload, task, -, -, ⟨-, rfl⟩ | ⟨-, rfl⟩⟩ := step_resumeStop hs
    · exact Or.inl hd
    · cases reload with
      | false => exact Or.inl hd
      | true =>
        rw [if_pos rfl, deviceStates_startDevice] at hd
        exact Or.inl hd
  | errorSet i written =>
    obtain ⟨device, -, rfl⟩ := step_errorSet hs
    exact Or.inl hd
  | onTaskDone i =>
    obtain ⟨t, task, -, -, rfl⟩ := step_onTaskDone hs
    rw [(onTaskDone_cases task).2] at hd
    split at hd
    next =>
      simp only [Dict.pop_apply] at hd
      split at hd
      next => cases hd
      next => exact Or.inl hd
    next => exact Or.inl hd
  | taskBegins t =>
    obtain ⟨task, -, -, rfl⟩ := step_taskBegins hs
    exact Or.inl hd
  | tick t hadError values injector =>
    obtain ⟨task, -, -, rfl⟩ := step_tick hs
    exact Or.inl hd
  | taskCrashes t | taskErrorSet t written | taskCancelled t =>
    obtain ⟨task, -, -, rfl⟩ := step_ending rfl hs
    exact Or.inl hd

/-- Only a launch gives a device a task. -/
theorem hasTask_step {e : EngineEvent} (hs : s.step e = some s') :
    (∀ d, s'.HasTask d → s.HasTask d ∨ s.launches e = some d) ∧
      ∀ d, s.launches e = some d → s'.HasTask d := by
  constructor
  · rintro d (hd | ⟨t, ht⟩)
    · exact (deviceStates_step hs hd).imp_left Or.inl
    · rcases step_cases hs with ⟨-, hkeeps⟩ | ⟨device, -, htasks, -⟩ |
        ⟨device, task, state, -, ⟨i, schedules, restartCount, launcher, rfl, hi⟩, -⟩
      · exact Or.inl (Or.inr ⟨t, (hkeeps t d ht).1⟩)
      · exact Or.inl (Or.inr ⟨t, by simpa only [Live, TaskIn, htasks] using ht⟩)
      · simp only [SimulationEngine.step, hi, Option.some.injEq] at hs
        subst hs
        refine (hasTask_launch.1 (Or.inr ⟨t, ht⟩)).symm.imp id fun hd => ?_
        simp [launches, hi, hd]
  · intro d hd
    cases e with
    | schedulesLoaded i schedules =>
      simp only [launches] at hd
      split at hd
      next device restartCount launcher configs hi =>
        cases hd
        simp only [SimulationEngine.step, hi, Option.some.injEq] at hs
        subst hs
        exact hasTask_launch.2 (Or.inl rfl)
      next => cases hd
    | _ => cases hd

end HasTask

end GhostMeter.Simulation.SimulationEngine
