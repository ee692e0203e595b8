import GhostMeter.Simulation.EngineCalls

/-! The engine in a run without errors: it simulates the devices that have entries, with the
configs they have. -/

namespace GhostMeter.Simulation.SimulationEngine

open GhostMeter.Lib

/-- The task in the device's entry is live and simulates the device. -/
def Simulates (s : SimulationEngine) (device : UUID) (task : SimTask) : Prop :=
  ∃ t, s.held device = some t ∧ s.tasks[t]? = some task ∧ task.device = device ∧
    task.status.live = true

/-- The engine of a run without errors: an entry holds a task that ticks with the device's
configs, and the only tasks that have finished were cancelled. -/
structure Serving (s : SimulationEngine) (configs : UUID → List SimulationConfig) : Prop where
  entry : ∀ d t, s.held d = some t → configs d ≠ [] ∧
    ∃ task, s.tasks[t]? = some task ∧ task.device = d ∧ task.configs = configs d ∧
      (task.status = .created ∨ task.status = .running)
  callback : ∀ t ∈ s.callbacks, ∃ task, s.tasks[t]? = some task ∧ task.status = .cancelled

variable {s s' : SimulationEngine} {configs configs' : UUID → List SimulationConfig}
  {device d : UUID} {t : TaskRef} {task : SimTask}

theorem Serving.simulates_iff (h : Serving s configs) :
    (∃ task, s.Simulates d task) ↔ (s.held d).isSome := by
  constructor
  · rintro ⟨task, t, ht, -⟩
    simp [ht]
  · intro hsome
    obtain ⟨t, ht⟩ := Option.isSome_iff_exists.1 hsome
    obtain ⟨-, task, htask, hdevice, -, hstatus⟩ := h.entry d t ht
    refine ⟨task, t, ht, htask, hdevice, ?_⟩
    rcases hstatus with hstatus | hstatus <;> simp [hstatus, TaskStatus.live]

theorem Serving.configs_eq (h : Serving s configs) (hs : s.Simulates d task) :
    task.configs = configs d ∧ configs d ≠ [] := by
  obtain ⟨t, ht, htask, -⟩ := hs
  obtain ⟨hne, task', htask', -, hconfigs, -⟩ := h.entry d t ht
  obtain rfl : task = task' := Option.some.inj (htask.symm.trans htask')
  exact ⟨hconfigs, hne⟩

/-- Configs of a device without an entry may change. -/
theorem Serving.congr (h : Serving s configs) (hd : s.held device = none)
    (hc : ∀ d ≠ device, configs' d = configs d) : Serving s configs' := by
  refine ⟨fun d t ht => ?_, h.callback⟩
  have hne : d ≠ device := by
    rintro rfl
    simp [hd] at ht
  rw [hc d hne]
  exact h.entry d t ht

theorem held_launch (restartCount : ℕ) (cs : List SimulationConfig)
    (schedules : List ScheduleEntry) :
    (s.launch device restartCount cs schedules).held d =
      if d = device then some s.tasks.length else s.held d := by
  simp only [held, launch, Dict.set_apply]
  split <;> rfl

theorem live_launch {restartCount : ℕ} {cs : List SimulationConfig}
    {schedules : List ScheduleEntry} (h : (s.launch device restartCount cs schedules).Live t d) :
    (t = s.tasks.length ∧ d = device) ∨ s.Live t d := by
  obtain ⟨task, htask, hdevice, hlive⟩ := h
  simp only [launch, List.getElem?_append] at htask
  split at htask
  next => exact Or.inr ⟨task, htask, hdevice, hlive⟩
  next hle =>
    obtain ⟨hlt, rfl⟩ := List.getElem?_eq_some_iff.1 htask
    simp only [List.length_singleton, Nat.lt_one_iff] at hlt
    refine Or.inl ⟨Nat.le_antisymm (Nat.sub_eq_zero_iff_le.1 hlt) (Nat.not_lt.1 hle), ?_⟩
    simpa [hlt] using hdevice.symm

theorem held_popState : (s.popState device).held d = if d = device then none else s.held d := by
  simp only [held, popState, Dict.pop_apply]
  split <;> rfl

theorem Serving.startNow (h : Serving s configs) (schedules : List ScheduleEntry) :
    Serving (s.startNow device (configs device) schedules) configs := by
  unfold SimulationEngine.startNow
  split
  next => exact h
  next =>
    split
    next => exact h
    next hne =>
      have hold : ∀ {t : TaskRef} {task : SimTask}, s.tasks[t]? = some task →
          (s.launch device 0 (configs device) schedules).tasks[t]? = some task := fun ht =>
        (List.getElem?_append_left (List.getElem?_eq_some_iff.1 ht).1).trans ht
      constructor
      · intro d t ht
        rw [held_launch] at ht
        split at ht
        next hd =>
          cases ht
          subst hd
          exact ⟨hne, { device := d, configs := configs d }, by simp [launch], rfl, rfl, Or.inl rfl⟩
        next =>
          obtain ⟨hne', task, htask, hrest⟩ := h.entry d t ht
          exact ⟨hne', task, hold htask, hrest⟩
      · intro t ht
        obtain ⟨task, htask, hstatus⟩ := h.callback t ht
        exact ⟨task, hold htask, hstatus⟩

theorem held_startNow (cs : List SimulationConfig) (schedules : List ScheduleEntry) :
    (s.startNow device cs schedules).held d =
      if d = device ∧ s.held device = none ∧ cs ≠ [] then some s.tasks.length else s.held d := by
  have hentry : s.held device = none ↔ s.deviceStates device = none := by simp [held]
  unfold SimulationEngine.startNow
  split
  next hsome =>
    rw [if_neg]
    intro hd
    simp [hentry.1 hd.2.1] at hsome
  next hnone =>
    split
    next hempty => simp [hempty]
    next hne =>
      rw [held_launch]
      simp only [hentry, Option.not_isSome_iff_eq_none.1 hnone, hne, ne_eq, not_false_eq_true,
        and_self, and_true]

theorem getElem?_finish_of_ne {t' : TaskRef} {status : TaskStatus} (h : t' ≠ t) :
    (s.finish t task status).tasks[t']? = s.tasks[t']? := by
  simp [finish, setTask, List.getElem?_set_ne h.symm]

/-- A stop cancels the device's task and takes its entry away. -/
theorem Serving.stopNow (h : Serving s configs) (hc : ∀ d ≠ device, configs' d = configs d) :
    Serving (s.stopNow device).1 configs' ∧ (s.stopNow device).2 = true ∧
      ∀ d, (s.stopNow device).1.held d = if d = device then none else s.held d := by
  rcases stopNow_cases s device with ⟨hnone, hstop⟩ | ⟨t, ht, hstop⟩
  · rw [hstop]
    refine ⟨h.congr hnone hc, rfl, fun d => ?_⟩
    split
    next hd => rw [hd, hnone]
    next => rfl
  · obtain ⟨-, task, htask, hdevice, -, hstatus⟩ := h.entry device t ht
    -- the task goes on, so the stop waits for it
    have hdone : task.status.done = false := by
      rcases hstatus with hstatus | hstatus <;> simp [hstatus, TaskStatus.done]
    have hres : s.stopNow device =
        (((s.popState device).finish t task .cancelled).clearDevice device, true) := by
      rcases hstop with ⟨hno, -⟩ | ⟨task', htask', hstop⟩
      · simp [htask] at hno
      · obtain rfl : task = task' := Option.some.inj (htask.symm.trans htask')
        rcases hstop with ⟨hcrash, -⟩ | ⟨hdone', -⟩ | ⟨-, hstop⟩
        · simp [hcrash, TaskStatus.done] at hdone
        · simp [hdone] at hdone'
        · exact hstop
    have hheld : ∀ d, (s.stopNow device).1.held d = if d = device then none else s.held d :=
      fun d => by rw [hres]; exact held_popState
    refine ⟨?_, by rw [hres], hheld⟩
    rw [hres] at hheld ⊢
    constructor
    · intro d t' ht'
      rw [hheld] at ht'
      split at ht'
      next => cases ht'
      next hd =>
        obtain ⟨hne, task', htask', hdevice', hrest⟩ := h.entry d t' ht'
        have htt : t' ≠ t := by
          rintro rfl
          obtain rfl : task = task' := Option.some.inj (htask.symm.trans htask')
          exact hd (hdevice'.symm.trans hdevice)
        rw [hc d hd]
        exact ⟨hne, task', (getElem?_finish_of_ne htt).trans htask', hdevice', hrest⟩
    · intro t' ht'
      by_cases htt : t' = t
      · subst htt
        exact ⟨_, getElem?_setTask _ htask, rfl⟩
      · have hmem : t' ∈ s.callbacks := by
          simpa [finish, clearDevice, popState, setTask, htt] using ht'
        obtain ⟨task', htask', hstatus'⟩ := h.callback t' hmem
        exact ⟨task', (getElem?_finish_of_ne htt).trans htask', hstatus'⟩

/-- A reload leaves the device with a task exactly when it has configs now. -/
theorem Serving.reloadNow (h : Serving s configs) (hc : ∀ d ≠ device, configs' d = configs d)
    (schedules : List ScheduleEntry) :
    Serving (s.reloadNow device (configs' device) schedules).1 configs' ∧
      (∀ d ≠ device, (s.reloadNow device (configs' device) schedules).1.held d = s.held d) ∧
      (((s.reloadNow device (configs' device) schedules).1.held device).isSome ↔
        configs' device ≠ []) := by
  obtain ⟨hserving, hreturned, hheld⟩ := h.stopNow hc
  have hres : s.reloadNow device (configs' device) schedules =
      ((s.stopNow device).1.startNow device (configs' device) schedules, true) := by
    unfold SimulationEngine.reloadNow
    rw [← Prod.mk.eta (p := s.stopNow device), hreturned]
  rw [hres]
  refine ⟨hserving.startNow schedules, fun d hd => ?_, ?_⟩
  · rw [held_startNow, if_neg (fun h => hd h.1), hheld, if_neg hd]
  · rw [held_startNow, hheld, if_pos rfl]
    simp

/-- A task begins or ticks without an error, or the callback of a finished task runs. -/
inductive Calm : EngineEvent → Prop
  | taskBegins (t : TaskRef) : Calm (.taskBegins t)
  | tick (t : TaskRef) (values : Dict String PyFloat) (injector : AnomalyInjector) :
    Calm (.tick t false values injector)
  | onTaskDone (i : ℕ) : Calm (.onTaskDone i)

theorem Serving.setTask (h : Serving s configs) {task' : SimTask} (htask : s.tasks[t]? = some task)
    (htasks : s'.tasks = (s.setTask t task').tasks) (hheld : s'.held = s.held)
    (hcallbacks : s'.callbacks = s.callbacks) (hlive : task.status ≠ .cancelled)
    (hdevice : task'.device = task.device) (hconfigs : task'.configs = task.configs)
    (hstatus : task'.status = .created ∨ task'.status = .running) : Serving s' configs := by
  have hother : ∀ t' ≠ t, s'.tasks[t']? = s.tasks[t']? := by
    intro t' ht'
    simp [htasks, SimulationEngine.setTask, List.getElem?_set_ne ht'.symm]
  constructor
  · intro d t' ht'
    rw [hheld] at ht'
    obtain ⟨hne, task₀, htask₀, hdevice₀, hconfigs₀, hstatus₀⟩ := h.entry d t' ht'
    by_cases htt : t' = t
    · subst htt
      obtain rfl : task = task₀ := Option.some.inj (htask.symm.trans htask₀)
      exact ⟨hne, task', by rw [htasks]; exact getElem?_setTask _ htask, hdevice.trans hdevice₀,
        hconfigs.trans hconfigs₀, hstatus⟩
    · exact ⟨hne, task₀, (hother t' htt).trans htask₀, hdevice₀, hconfigs₀, hstatus₀⟩
  · intro t' ht'
    rw [hcallbacks] at ht'
    obtain ⟨task₀, htask₀, hstatus₀⟩ := h.callback t' ht'
    have htt : t' ≠ t := by
      rintro rfl
      exact hlive (Option.some.inj (htask.symm.trans htask₀) ▸ hstatus₀)
    exact ⟨task₀, (hother t' htt).trans htask₀, hstatus₀⟩

theorem Serving.calm (h : Serving s configs) {e : EngineEvent} (he : Calm e)
    (hs : s.step e = some s') : Serving s' configs ∧ s'.held = s.held := by
  cases he with
  | taskBegins t =>
    obtain ⟨task, htask, hstatus, rfl⟩ := step_taskBegins hs
    exact ⟨h.setTask htask rfl rfl rfl (by simp [hstatus]) rfl rfl (Or.inr rfl), rfl⟩
  | tick t values injector =>
    obtain ⟨task, htask, hstatus, rfl⟩ := step_tick hs
    exact ⟨h.setTask htask rfl rfl rfl (by simp [hstatus]) rfl rfl
      (Or.inr (by simp [nextErrorCount])), rfl⟩
  | onTaskDone i =>
    obtain ⟨t, task, hi, htask, rfl⟩ := step_onTaskDone hs
    obtain ⟨task', htask', hstatus⟩ := h.callback t (List.mem_of_getElem? hi)
    obtain rfl : task = task' := Option.some.inj (htask.symm.trans htask')
    simp only [onTaskDone, hstatus]
    exact ⟨⟨h.entry, fun t ht => h.callback t (List.mem_of_mem_eraseIdx ht)⟩, rfl⟩

end GhostMeter.Simulation.SimulationEngine
