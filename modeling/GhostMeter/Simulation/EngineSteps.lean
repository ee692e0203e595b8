import GhostMeter.Simulation.EngineCalls

/-! What one step of the engine can do to its tasks, to its coroutines and to the callbacks that
are still to run. -/

namespace GhostMeter.Simulation.SimulationEngine

open GhostMeter.Lib

variable {s s' : SimulationEngine} {e : EngineEvent}

section Tasks

@[simp] theorem tasks_startDevice {d : UUID} : (s.startDevice d).tasks = s.tasks := by
  unfold startDevice
  split <;> rfl

@[simp] theorem callbacks_startDevice {d : UUID} : (s.startDevice d).callbacks = s.callbacks := by
  unfold startDevice
  split <;> rfl

theorem onTaskDone_tasks {task : SimTask} :
    (s.onTaskDone task).tasks = s.tasks ∧ (s.onTaskDone task).callbacks = s.callbacks := by
  unfold onTaskDone
  split
  · simp only
    split <;> exact ⟨rfl, rfl⟩
  · exact ⟨rfl, rfl⟩
  · exact ⟨rfl, rfl⟩

/-- How the status of a task changes in a step of the engine. -/
inductive StatusStep : EngineEvent → TaskStatus → TaskStatus → Prop
  | begins (t : TaskRef) : StatusStep (.taskBegins t) .created .running
  | ticks {e : EngineEvent} : StatusStep e .running .running
  | fails {e : EngineEvent} : StatusStep e .running .settingError
  | crashes {e : EngineEvent} {status : TaskStatus} (h : status = .created ∨ status = .running) :
      StatusStep e status .crashed
  | returns {e : EngineEvent} : StatusStep e .settingError .returned
  | cancels {e : EngineEvent} {status : TaskStatus} (h : status.done = false) :
      StatusStep e status .cancelling
  | ends {e : EngineEvent} : StatusStep e .cancelling .cancelled

theorem StatusStep.stays_cancelled {status status' : TaskStatus}
    (h : StatusStep e status status') (hcancel : status = .cancelling ∨ status = .cancelled) :
    status' = .cancelling ∨ status' = .cancelled := by
  cases h with
  | cancels => exact Or.inl rfl
  | ends => exact Or.inr rfl
  | crashes hstatus => rcases hstatus with rfl | rfl <;> simp at hcancel
  | begins | ticks | fails | returns => simp at hcancel

/-- What a step of the engine does to its tasks. -/
inductive TasksStep (s : SimulationEngine) (e : EngineEvent) (s' : SimulationEngine) : Prop
  | keeps (htasks : s'.tasks = s.tasks)
  | creates (task : SimTask) (htasks : s'.tasks = s.tasks ++ [task])
      (hstatus : task.status = .created)
  | changes (t : TaskRef) (task task' : SimTask) (htask : s.tasks[t]? = some task)
      (htasks : s'.tasks = s.tasks.set t task') (hdevice : task'.device = task.device)
      (hstatus : StatusStep e task.status task'.status)

theorem tasks_stopDevice (e : EngineEvent) (d : UUID) :
    TasksStep s e (s.stopDevice d).1 := by
  rcases stopDevice_cases s d with ⟨-, hstop⟩ | ⟨t, -, ⟨-, hstop⟩ | ⟨task, htask, hstop⟩⟩
  · exact .keeps (by rw [hstop])
  · exact .keeps (by rw [hstop]; rfl)
  · rcases hstop with ⟨-, hstop⟩ | ⟨-, -, hstop⟩ | ⟨hdone, hstop⟩
    · exact .keeps (by rw [hstop]; rfl)
    · exact .keeps (by rw [hstop]; rfl)
    · exact .changes t task { task with status := .cancelling } htask (by rw [hstop]; rfl) rfl
        (.cancels hdone)

theorem TasksStep.congr {s'' : SimulationEngine} (h : TasksStep s e s')
    (htasks : s''.tasks = s'.tasks) : TasksStep s e s'' := by
  cases h with
  | keeps h => exact .keeps (htasks.trans h)
  | creates task h hstatus => exact .creates task (htasks.trans h) hstatus
  | changes t task task' htask h hdevice hstatus =>
    exact .changes t task task' htask (htasks.trans h) hdevice hstatus

theorem tasks_step (hs : s.step e = some s') : TasksStep s e s' := by
  cases e with
  | startDevice d =>
    cases hs
    exact .keeps tasks_startDevice
  | stopDevice d =>
    refine (tasks_stopDevice _ d).congr ?_
    rcases step_stopDevice hs with ⟨-, rfl⟩ | ⟨t, -, rfl⟩
    · rfl
    · rfl
  | reloadDevice d =>
    refine (tasks_stopDevice _ d).congr ?_
    rcases step_reloadDevice hs with ⟨-, rfl⟩ | ⟨-, rfl⟩ | ⟨t, -, rfl⟩
    · rfl
    · exact tasks_startDevice
    · rfl
  | dataLoaded i configs =>
    obtain ⟨d, restartCount, launcher, -, rfl | rfl⟩ := step_dataLoaded hs
    · exact .keeps rfl
    · exact .keeps rfl
  | schedulesLoaded i schedules =>
    obtain ⟨d, restartCount, launcher, configs, -, rfl⟩ := step_schedulesLoaded hs
    exact .creates _ rfl rfl
  | loadFailed i =>
    obtain ⟨d, restartCount, launcher, -, rfl⟩ := step_loadFailed hs
    cases launcher with
    | startDevice => exact .keeps rfl
    | delayedRestart => exact .keeps rfl
  | wake i =>
    obtain ⟨d, restartCount, -, rfl⟩ := step_wake hs
    exact .keeps rfl
  | resumeStop i =>
    obtain ⟨d, t, reload, task, -, -, ⟨-, rfl⟩ | ⟨-, rfl⟩⟩ := step_resumeStop hs
    · exact .keeps rfl
    · cases reload with
      | false => exact .keeps rfl
      | true => exact .keeps tasks_startDevice
  | errorSet i written =>
    obtain ⟨d, -, rfl⟩ := step_errorSet hs
    exact .keeps rfl
  | onTaskDone i =>
    obtain ⟨t, task, -, -, rfl⟩ := step_onTaskDone hs
    exact .keeps onTaskDone_tasks.1
  | tick t hadError values injector =>
    obtain ⟨task, htask, hstatus, rfl⟩ := step_tick hs
    refine .changes t task _ htask rfl rfl ?_
    rw [hstatus]
    dsimp only
    split
    · exact .fails
    · exact .ticks
  | taskBegins t =>
    obtain ⟨task, htask, hstatus, rfl⟩ := step_taskBegins hs
    refine .changes t task _ htask rfl rfl ?_
    rw [hstatus]
    exact .begins t
  | taskCrashes t =>
    obtain ⟨task, htask, hstatus, rfl⟩ := step_taskCrashes hs
    exact .changes t task _ htask rfl rfl (.crashes hstatus)
  | taskErrorSet t written =>
    obtain ⟨task, htask, hstatus, rfl⟩ := step_taskErrorSet hs
    refine .changes t task _ htask rfl rfl ?_
    rw [hstatus]
    exact .returns
  | taskCancelled t =>
    obtain ⟨task, htask, hstatus, rfl⟩ := step_taskCancelled hs
    refine .changes t task _ htask rfl rfl ?_
    rw [hstatus]
    exact .ends

/-- A task after a step was there, or is new, or has changed. -/
theorem TasksStep.taskIn {p : TaskStatus → Prop} (h : TasksStep s e s') {t : TaskRef}
    {device : UUID} (ht : TaskIn p s' t device) :
    TaskIn p s t device ∨ p .created ∨ ∃ task status, s.tasks[t]? = some task ∧
      task.device = device ∧ StatusStep e task.status status ∧ p status := by
  cases h with
  | keeps htasks =>
    refine Or.inl ?_
    simpa only [TaskIn, htasks] using ht
  | creates task htasks hstatus =>
    obtain ⟨old, hold, hrest⟩ := ht
    rw [htasks] at hold
    rcases Nat.lt_or_ge t s.tasks.length with hlt | hge
    · exact Or.inl ⟨old, (List.getElem?_append_left hlt).symm.trans hold, hrest⟩
    · rw [List.getElem?_append_right hge] at hold
      obtain rfl := List.mem_singleton.1 (List.mem_of_getElem? hold)
      exact Or.inr (Or.inl (hstatus ▸ hrest.2))
  | changes t' task task' htask htasks hdevice hstatus =>
    have hset : TaskIn p (s.setTask t' task') t device := by
      simpa only [TaskIn, setTask, htasks] using ht
    rcases taskIn_setTask hset with ⟨rfl, hd, hp⟩ | ⟨-, ht⟩
    · exact Or.inr (Or.inr ⟨task, _, htask, hdevice.symm.trans hd, hstatus, hp⟩)
    · exact Or.inl ht

end Tasks

section Coroutines

/-- A coroutine that a step starts, or takes to its next await. -/
inductive Spawned (s : SimulationEngine) : EngineEvent → Coroutine → Prop
  | starts (device : UUID) : Spawned s (.startDevice device) (.loadingData device 0 .startDevice)
  | stops (device : UUID) (t : TaskRef) (h : (s.stopDevice device).2 = .suspended t) :
      Spawned s (.stopDevice device) (.stopping device t false)
  | reloads (device : UUID) :
      Spawned s (.reloadDevice device) (.loadingData device 0 .startDevice)
  | stopsFirst (device : UUID) (t : TaskRef) (h : (s.stopDevice device).2 = .suspended t) :
      Spawned s (.reloadDevice device) (.stopping device t true)
  | loads {i : ℕ} {device : UUID} {restartCount : ℕ} {launcher : Launcher}
      (configs : List SimulationConfig)
      (hi : s.coroutines[i]? = some (.loadingData device restartCount launcher)) :
      Spawned s (.dataLoaded i configs) (.loadingSchedules device restartCount launcher configs)
  | loadFails {i : ℕ} {c : Coroutine} (hi : s.coroutines[i]? = some c)
      (hc : ∀ t reload, c ≠ .stopping c.device t reload) :
      Spawned s (.loadFailed i) (.settingError c.device)
  | wakes {i : ℕ} {device : UUID} {restartCount : ℕ}
      (hi : s.coroutines[i]? = some (.sleeping device restartCount)) :
      Spawned s (.wake i) (.loadingData device restartCount .delayedRestart)
  | resumes {i : ℕ} {device : UUID} {t : TaskRef}
      (hi : s.coroutines[i]? = some (.stopping device t true)) :
      Spawned s (.resumeStop i) (.loadingData device 0 .startDevice)
  | givesUp {i : ℕ} {t : TaskRef} {task : SimTask} (hi : s.callbacks[i]? = some t)
      (htask : s.tasks[t]? = some task) (hstatus : task.status = .crashed) :
      Spawned s (.onTaskDone i) (.settingError task.device)
  | restarts {i : ℕ} {t : TaskRef} {task : SimTask} (restartCount : ℕ)
      (hi : s.callbacks[i]? = some t) (htask : s.tasks[t]? = some task)
      (hstatus : task.status = .crashed) :
      Spawned s (.onTaskDone i) (.sleeping task.device restartCount)

variable {c : Coroutine} {d : UUID}

theorem mem_complete {i : ℕ} (hc : c ∈ (s.complete i).coroutines) : c ∈ s.coroutines :=
  List.mem_of_mem_eraseIdx hc

theorem mem_advance {i : ℕ} {c' : Coroutine} (hc : c ∈ (s.advance i c').coroutines) :
    c ∈ s.coroutines ∨ c = c' :=
  List.mem_or_eq_of_mem_set hc

theorem mem_spawn {c' : Coroutine} (hc : c ∈ (s.spawn c').coroutines) :
    c ∈ s.coroutines ∨ c = c' :=
  (List.mem_append.1 hc).imp_right List.mem_singleton.1

theorem mem_startDevice (hc : c ∈ (s.startDevice d).coroutines) :
    c ∈ s.coroutines ∨ c = .loadingData d 0 .startDevice := by
  unfold startDevice at hc
  split at hc
  · exact Or.inl hc
  · exact mem_spawn hc

/-- `stop_device` itself starts nothing and finishes nothing. -/
theorem stopDevice_frame (d : UUID) :
    (s.stopDevice d).1.coroutines = s.coroutines ∧ (s.stopDevice d).1.callbacks = s.callbacks := by
  rcases stopDevice_cases s d with ⟨-, hstop⟩ | ⟨t, -, ⟨-, hstop⟩ | ⟨task, -, hstop⟩⟩
  · rw [hstop]
    exact ⟨rfl, rfl⟩
  · rw [hstop]
    exact ⟨rfl, rfl⟩
  · rcases hstop with ⟨-, hstop⟩ | ⟨-, -, hstop⟩ | ⟨-, hstop⟩
    all_goals
      rw [hstop]
      exact ⟨rfl, rfl⟩

theorem coroutines_step (hs : s.step e = some s') (hc : c ∈ s'.coroutines) :
    c ∈ s.coroutines ∨ Spawned s e c := by
  cases e with
  | startDevice d =>
    cases hs
    refine (mem_startDevice hc).imp_right ?_
    rintro rfl
    exact .starts d
  | stopDevice d =>
    have hframe := (@stopDevice_frame s d).1
    rcases step_stopDevice hs with ⟨-, rfl⟩ | ⟨t, ht, rfl⟩
    · exact Or.inl (hframe ▸ hc)
    · refine (mem_spawn hc).imp (fun hc => hframe ▸ hc) ?_
      rintro rfl
      exact .stops d t ht
  | reloadDevice d =>
    have hframe := (@stopDevice_frame s d).1
    rcases step_reloadDevice hs with ⟨-, rfl⟩ | ⟨-, rfl⟩ | ⟨t, ht, rfl⟩
    · exact Or.inl (hframe ▸ hc)
    · refine (mem_startDevice hc).imp (fun hc => hframe ▸ hc) ?_
      rintro rfl
      exact .reloads d
    · refine (mem_spawn hc).imp (fun hc => hframe ▸ hc) ?_
      rintro rfl
      exact .stopsFirst d t ht
  | dataLoaded i configs =>
    obtain ⟨d, restartCount, launcher, hi, rfl | rfl⟩ := step_dataLoaded hs
    · exact Or.inl (mem_complete hc)
    · refine (mem_advance hc).imp_right ?_
      rintro rfl
      exact .loads configs hi
  | schedulesLoaded i schedules =>
    obtain ⟨d, restartCount, launcher, configs, -, rfl⟩ := step_schedulesLoaded hs
    exact Or.inl (mem_complete hc)
  | loadFailed i =>
    obtain ⟨d, restartCount, launcher, hi, rfl⟩ := step_loadFailed hs
    cases launcher with
    | startDevice => exact Or.inl (mem_complete hc)
    | delayedRestart =>
      refine (mem_advance hc).imp_right ?_
      rintro rfl
      rcases hi with hi | ⟨configs, hi⟩
      · exact .loadFails hi (by simp)
      · exact .loadFails hi (by simp)
  | wake i =>
    obtain ⟨d, restartCount, hi, rfl⟩ := step_wake hs
    refine (mem_advance hc).imp_right ?_
    rintro rfl
    exact .wakes hi
  | resumeStop i =>
    obtain ⟨d, t, reload, task, hi, -, ⟨-, rfl⟩ | ⟨-, rfl⟩⟩ := step_resumeStop hs
    · exact Or.inl (mem_complete hc)
    · cases reload with
      | false => exact Or.inl (mem_complete hc)
      | true =>
        refine (mem_startDevice hc).imp mem_complete ?_
        rintro rfl
        exact .resumes hi
  | errorSet i written =>
    obtain ⟨d, -, rfl⟩ := step_errorSet hs
    exact Or.inl (mem_complete hc)
  | onTaskDone i =>
    obtain ⟨t, task, hi, htask, rfl⟩ := step_onTaskDone hs
    unfold onTaskDone at hc
    split at hc
    next hstatus =>
      simp only at hc
      split at hc
      · refine (mem_spawn hc).imp_right ?_
        rintro rfl
        exact .givesUp hi htask hstatus
      · refine (mem_spawn hc).imp_right ?_
        rintro rfl
        exact .restarts _ hi htask hstatus
    · exact Or.inl hc
    · exact Or.inl hc
  | taskBegins t =>
    obtain ⟨task, -, -, rfl⟩ := step_taskBegins hs
    exact Or.inl hc
  | tick t hadError values injector =>
    obtain ⟨task, -, -, rfl⟩ := step_tick hs
    exact Or.inl hc
  | taskCrashes t | taskErrorSet t written | taskCancelled t =>
    obtain ⟨task, -, -, rfl⟩ := step_ending rfl hs
    exact Or.inl hc

/-- A callback that is new is that of a task that was not done. -/
theorem callbacks_step (hs : s.step e = some s') {t : TaskRef} (ht : t ∈ s'.callbacks) :
    t ∈ s.callbacks ∨ ∃ task, s.tasks[t]? = some task ∧ task.status.done = false := by
  cases e with
  | startDevice d =>
    cases hs
    exact Or.inl (callbacks_startDevice ▸ ht)
  | stopDevice d =>
    have hframe := (@stopDevice_frame s d).2
    rcases step_stopDevice hs with ⟨-, rfl⟩ | ⟨t', -, rfl⟩
    · exact Or.inl (hframe ▸ ht)
    · exact Or.inl (hframe ▸ ht)
  | reloadDevice d =>
    have hframe := (@stopDevice_frame s d).2
    rcases step_reloadDevice hs with ⟨-, rfl⟩ | ⟨-, rfl⟩ | ⟨t', -, rfl⟩
    · exact Or.inl (hframe ▸ ht)
    · rw [callbacks_startDevice] at ht
      exact Or.inl (hframe ▸ ht)
    · exact Or.inl (hframe ▸ ht)
  | dataLoaded i configs =>
    obtain ⟨d, restartCount, launcher, -, rfl | rfl⟩ := step_dataLoaded hs
    · exact Or.inl ht
    · exact Or.inl ht
  | schedulesLoaded i schedules =>
    obtain ⟨d, restartCount, launcher, configs, -, rfl⟩ := step_schedulesLoaded hs
    exact Or.inl ht
  | loadFailed i =>
    obtain ⟨d, restartCount, launcher, -, rfl⟩ := step_loadFailed hs
    cases launcher with
    | startDevice => exact Or.inl ht
    | delayedRestart => exact Or.inl ht
  | wake i =>
    obtain ⟨d, restartCount, -, rfl⟩ := step_wake hs
    exact Or.inl ht
  | resumeStop i =>
    obtain ⟨d, t', reload, task, -, -, ⟨-, rfl⟩ | ⟨-, rfl⟩⟩ := step_resumeStop hs
    · exact Or.inl ht
    · cases reload with
      | false => exact Or.inl ht
      | true =>
        rw [if_pos rfl, callbacks_startDevice] at ht
        exact Or.inl ht
  | errorSet i written =>
    obtain ⟨d, -, rfl⟩ := step_errorSet hs
    exact Or.inl ht
  | onTaskDone i =>
    obtain ⟨t', task, -, -, rfl⟩ := step_onTaskDone hs
    rw [onTaskDone_tasks.2] at ht
    exact Or.inl (List.mem_of_mem_eraseIdx ht)
  | taskBegins t' =>
    obtain ⟨task, -, -, rfl⟩ := step_taskBegins hs
    exact Or.inl ht
  | tick t' hadError values injector =>
    obtain ⟨task, -, -, rfl⟩ := step_tick hs
    exact Or.inl ht
  | taskCrashes t' | taskErrorSet t' written | taskCancelled t' =>
    obtain ⟨task, htask, hdone, rfl⟩ := step_ending rfl hs
    refine (List.mem_append.1 ht).imp_right fun ht => ?_
    rw [List.mem_singleton.1 ht]
    exact ⟨task, htask, hdone⟩

end Coroutines

end GhostMeter.Simulation.SimulationEngine
