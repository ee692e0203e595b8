import GhostMeter.Simulation.EngineServing
import GhostMeter.Simulation.EngineSteps

/-! The entries of the engine: each holds a task of its own device, so that a stop of one device
leaves the tasks of the others alone. -/

namespace GhostMeter.Simulation.SimulationEngine

open GhostMeter.Lib

/-- Every entry holds a task of its device. -/
def Owned (s : SimulationEngine) : Prop :=
  ∀ d t, s.held d = some t → ∃ task, s.tasks[t]? = some task ∧ task.device = d

variable {s s' : SimulationEngine} {e : EngineEvent} {device d : UUID} {t : TaskRef}

section Entries

/-- Every entry was there before. -/
def Within (s s' : SimulationEngine) : Prop :=
  ∀ d state, s'.deviceStates d = some state → s.deviceStates d = some state

theorem within_of_eq (h : s'.deviceStates = s.deviceStates) : Within s s' :=
  fun _ _ hd => h ▸ hd

theorem within_pop (h : s'.deviceStates = s.deviceStates.pop device) : Within s s' := by
  intro d state hd
  rw [h, Dict.pop_apply] at hd
  split at hd
  next => cases hd
  next => exact hd

theorem within_stopDevice : Within s (s.stopDevice device).1 := by
  rcases stopDevice_cases s device with ⟨-, h⟩ | ⟨t, -, ⟨-, h⟩ | ⟨task, -, h⟩⟩
  · rw [h]; exact within_of_eq rfl
  · rw [h]; exact within_pop rfl
  · rcases h with ⟨-, h⟩ | ⟨-, -, h⟩ | ⟨-, h⟩ <;> rw [h] <;> exact within_pop rfl

theorem Within.trans {s'' : SimulationEngine} (h : Within s s') (h' : Within s' s'') :
    Within s s'' := fun d state hd => h d state (h' d state hd)

/-- Only a launch makes an entry, and it is for the task that it appends. -/
theorem entries_step (hs : s.step e = some s') :
    Within s s' ∨ ∃ i device restartCount configs schedules,
      s' = (s.complete i).launch device restartCount configs schedules := by
  cases e with
  | startDevice device =>
    cases hs
    exact Or.inl (within_of_eq deviceStates_startDevice)
  | stopDevice device =>
    refine Or.inl ((@within_stopDevice s device).trans ?_)
    rcases step_stopDevice hs with ⟨-, rfl⟩ | ⟨t, -, rfl⟩
    · exact within_of_eq rfl
    · exact within_of_eq rfl
  | reloadDevice device =>
    refine Or.inl ((@within_stopDevice s device).trans ?_)
    rcases step_reloadDevice hs with ⟨-, rfl⟩ | ⟨-, rfl⟩ | ⟨t, -, rfl⟩
    · exact within_of_eq rfl
    · exact within_of_eq deviceStates_startDevice
    · exact within_of_eq rfl
  | dataLoaded i configs =>
    obtain ⟨device, restartCount, launcher, -, rfl | rfl⟩ := step_dataLoaded hs
    · exact Or.inl (within_of_eq rfl)
    · exact Or.inl (within_of_eq rfl)
  | schedulesLoaded i schedules =>
    obtain ⟨device, restartCount, launcher, configs, -, rfl⟩ := step_schedulesLoaded hs
    exact Or.inr ⟨i, device, restartCount, configs, schedules, rfl⟩
  | loadFailed i =>
    obtain ⟨device, restartCount, launcher, -, rfl⟩ := step_loadFailed hs
    cases launcher with
    | startDevice => exact Or.inl (within_of_eq rfl)
    | delayedRestart => exact Or.inl (within_of_eq rfl)
  | wake i =>
    obtain ⟨device, restartCount, -, rfl⟩ := step_wake hs
    exact Or.inl (within_pop rfl)
  | resumeStop i =>
    obtain ⟨device, t, reload, task, -, -, ⟨-, rfl⟩ | ⟨-, rfl⟩⟩ := step_resumeStop hs
    · exact Or.inl (within_of_eq rfl)
    · cases reload with
      | false => exact Or.inl (within_of_eq rfl)
      | true => exact Or.inl (within_of_eq deviceStates_startDevice)
  | errorSet i written =>
    obtain ⟨device, -, rfl⟩ := step_errorSet hs
    exact Or.inl (within_of_eq rfl)
  | onTaskDone i =>
    obtain ⟨t, task, -, -, rfl⟩ := step_onTaskDone hs
    have hstates := (@onTaskDone_cases { s with callbacks := s.callbacks.eraseIdx i } task).2
    split at hstates
    next => exact Or.inl (within_pop hstates)
    next => exact Or.inl (within_of_eq hstates)
  | taskBegins t =>
    obtain ⟨task, -, -, rfl⟩ := step_taskBegins hs
    exact Or.inl (within_of_eq rfl)
  | tick t hadError values injector =>
    obtain ⟨task, -, -, rfl⟩ := step_tick hs
    exact Or.inl (within_of_eq rfl)
  | taskCrashes t | taskErrorSet t written | taskCancelled t =>
    obtain ⟨task, -, -, rfl⟩ := step_ending rfl hs
    exact Or.inl (within_of_eq rfl)

/-- A task stays its device's. -/
theorem device_step (hs : s.step e = some s') {task : SimTask} (htask : s.tasks[t]? = some task) :
    ∃ task', s'.tasks[t]? = some task' ∧ task'.device = task.device := by
  cases tasks_step hs with
  | keeps htasks => exact ⟨task, htasks ▸ htask, rfl⟩
  | creates new htasks =>
    refine ⟨task, ?_, rfl⟩
    rw [htasks]
    exact (List.getElem?_append_left (List.getElem?_eq_some_iff.1 htask).1).trans htask
  | changes t' old new hold htasks hdevice =>
    rw [htasks]
    by_cases heq : t' = t
    · subst heq
      obtain rfl := Option.some.inj (htask.symm.trans hold)
      exact ⟨new, by simp [(List.getElem?_eq_some_iff.1 htask).1], hdevice⟩
    · exact ⟨task, (List.getElem?_set_ne heq).trans htask, rfl⟩

theorem Owned.step (h : s.Owned) (hs : s.step e = some s') : s'.Owned := by
  intro d t ht
  rcases entries_step hs with hwithin | ⟨i, device, restartCount, configs, schedules, rfl⟩
  · obtain ⟨state, hstate, rfl⟩ := Option.map_eq_some_iff.1 ht
    obtain ⟨task, htask, rfl⟩ := h d state.task (by rw [held, hwithin d state hstate]; rfl)
    exact device_step hs htask
  · rw [held_launch] at ht
    split at ht
    next hd =>
      cases ht
      exact ⟨{ device, configs }, by simp [launch, complete], hd.symm⟩
    next =>
      obtain ⟨task, htask, hdevice⟩ := h d t ht
      exact ⟨task, (List.getElem?_append_left (List.getElem?_eq_some_iff.1 htask).1).trans htask,
        hdevice⟩

theorem Owned.exec (h : s.Owned) {es : List EngineEvent}
    (hexec : exec SimulationEngine.step s es = some s') : s'.Owned :=
  exec_invariant (fun _ _ _ hs hstep => hs.step hstep) h hexec

theorem Owned.startNow (h : s.Owned) (configs : List SimulationConfig)
    (schedules : List ScheduleEntry) : (s.startNow device configs schedules).Owned := by
  obtain ⟨es, hes⟩ := exec_startNow (s := s) device configs schedules
  exact h.exec hes

theorem Owned.stopNow (h : s.Owned) : (s.stopNow device).1.Owned := by
  obtain ⟨es, hes⟩ := exec_stopNow (s := s) device
  exact h.exec hes

end Entries

/-- A stop takes the device's entry and the task in it, and no other. -/
theorem Owned.stopNow_other (h : s.Owned) (hne : d ≠ device) :
    (s.stopNow device).1.held d = s.held d ∧ ((s.stopNow device).1.Live t d ↔ s.Live t d) := by
  have hpop : ∀ s' : SimulationEngine, s'.tasks = s.tasks →
      s'.deviceStates = (s.popState device).deviceStates →
      s'.held d = s.held d ∧ (s'.Live t d ↔ s.Live t d) := by
    intro s' htasks hstates
    refine ⟨?_, by simp only [Live, TaskIn, htasks]⟩
    rw [held, hstates]
    exact held_popState.trans (if_neg hne)
  rcases stopNow_cases s device with ⟨-, hstop⟩ | ⟨t', ht', hstop⟩
  · rw [hstop]
    exact ⟨rfl, Iff.rfl⟩
  · rcases hstop with ⟨-, hstop⟩ | ⟨task, htask, ⟨-, hstop⟩ | ⟨-, -, hstop⟩ | ⟨-, hstop⟩⟩
    · rw [hstop]
      exact hpop _ rfl rfl
    · rw [hstop]
      exact hpop _ rfl rfl
    · rw [hstop]
      exact hpop _ rfl rfl
    · rw [hstop]
      refine ⟨held_popState.trans (if_neg hne), ?_⟩
      -- the task that is cancelled is another device's
      obtain ⟨task', htask', hdevice⟩ := h device t' ht'
      obtain rfl := Option.some.inj (htask.symm.trans htask')
      constructor
      · intro hlive
        have hset : (s.setTask t' { task with status := .cancelled }).Live t d := hlive
        rcases taskIn_setTask hset with ⟨-, -, hl⟩ | ⟨-, hl⟩
        · simp [TaskStatus.live] at hl
        · exact hl
      · rintro ⟨other, hother, hrest⟩
        refine ⟨other, (getElem?_finish_of_ne ?_).trans hother, hrest⟩
        rintro rfl
        obtain rfl := Option.some.inj (htask.symm.trans hother)
        exact hne (hrest.1.symm.trans hdevice)

theorem Owned.hasTask_stopNow_other (h : s.Owned) (hne : d ≠ device) :
    (s.stopNow device).1.HasTask d ↔ s.HasTask d := by
  have hentry : ∀ s : SimulationEngine, (s.deviceStates d).isSome ↔ (s.held d).isSome := by
    intro s
    rw [held, Option.isSome_map]
  have hheld := (h.stopNow_other (t := 0) hne).1
  simp only [HasTask, hentry, hheld, fun t => (h.stopNow_other (t := t) hne).2]

end GhostMeter.Simulation.SimulationEngine
