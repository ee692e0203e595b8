import GhostMeter.Lib.Run
import GhostMeter.Simulation.Engine

/-! Which steps of the engine lose a running task: at most one simulation of a device is
live, and it is the one in the device's entry. -/

namespace GhostMeter.Simulation.SimulationEngine

open GhostMeter.Lib

/-- The task `t` simulates the device, with a status in `p`. -/
def TaskIn (p : TaskStatus → Prop) (s : SimulationEngine) (t : TaskRef) (device : UUID) : Prop :=
  ∃ task, s.tasks[t]? = some task ∧ task.device = device ∧ p task.status

/-- The task `t` simulates the device and goes on. -/
def Live : SimulationEngine → TaskRef → UUID → Prop := TaskIn (·.live = true)

/-- The task in the device's entry. -/
def held (s : SimulationEngine) (device : UUID) : Option TaskRef :=
  (s.deviceStates device).map (·.task)

/-- A device has at most one live task, and that one can be reached through its entry. -/
def OneLive (s : SimulationEngine) : Prop :=
  ∀ device t, s.Live t device →
    s.held device = some t ∧ ∀ t', s.Live t' device → t' = t

/-- `_on_task_done` pops the device's entry. -/
def popsState (s : SimulationEngine) (task : SimTask) : Bool :=
  match task.status with
  | .crashed => (s.deviceStates task.device).elim 0 (·.restartCount) + 1 > maxRestartAttempts
  | .returned => true
  | _ => false

/-- The device whose entry a step overwrites or pops without stopping its task. -/
def displaces (s : SimulationEngine) : EngineEvent → Option UUID
  | .schedulesLoaded i _ =>
    match s.coroutines[i]? with
    | some (.loadingSchedules device _ _ _) => some device
    | _ => none
  | .wake i =>
    match s.coroutines[i]? with
    | some (.sleeping device _) => some device
    | _ => none
  | .onTaskDone i =>
    match (s.callbacks[i]?).bind (s.tasks[·]?) with
    | some task => if s.popsState task then some task.device else none
    | none => none
  | _ => none

/-- The entry that the step displaces, if any, does not hold a live task. -/
def DisplacesDone (s : SimulationEngine) (e : EngineEvent) : Prop :=
  ∀ device, s.displaces e = some device → ∀ t, s.held device = some t → ¬ s.Live t device

variable {s s' : SimulationEngine} {e : EngineEvent} {t t' : TaskRef} {device : UUID}

section Steps

variable {i : ℕ}

theorem step_stopDevice (hs : s.step (.stopDevice device) = some s') :
    (∀ t, (s.stopDevice device).2 ≠ .suspended t) ∧ s' = (s.stopDevice device).1 ∨
      ∃ t, (s.stopDevice device).2 = .suspended t ∧
        s' = (s.stopDevice device).1.spawn (.stopping device t false) := by
  simp only [step] at hs
  split at hs
  next t hstop =>
    rw [hstop]
    exact .inr ⟨t, rfl, (Option.some.inj hs).symm⟩
  next hreturned hstop =>
    rw [hstop]
    exact .inl ⟨hreturned, (Option.some.inj hs).symm⟩

theorem step_reloadDevice (hs : s.step (.reloadDevice device) = some s') :
    ((s.stopDevice device).2 = .raised ∧ s' = (s.stopDevice device).1) ∨
    ((s.stopDevice device).2 = .returned ∧ s' = (s.stopDevice device).1.startDevice device) ∨
      ∃ t, (s.stopDevice device).2 = .suspended t ∧
        s' = (s.stopDevice device).1.spawn (.stopping device t true) := by
  simp only [step] at hs
  split at hs
  next t hstop =>
    rw [hstop]
    exact .inr (.inr ⟨t, rfl, (Option.some.inj hs).symm⟩)
  next hstop =>
    rw [hstop]
    exact .inr (.inl ⟨rfl, (Option.some.inj hs).symm⟩)
  next hstop =>
    rw [hstop]
    exact .inl ⟨rfl, (Option.some.inj hs).symm⟩

theorem step_dataLoaded {configs : List SimulationConfig}
    (hs : s.step (.dataLoaded i configs) = some s') :
    ∃ device restartCount launcher,
      s.coroutines[i]? = some (.loadingData device restartCount launcher) ∧
      (s' = s.complete i ∨
        s' = s.advance i (.loadingSchedules device restartCount launcher configs)) := by
  simp only [step] at hs
  split at hs
  next hi =>
    refine ⟨_, _, _, hi, ?_⟩
    split at hs
    · exact .inl (Option.some.inj hs).symm
    · exact .inr (Option.some.inj hs).symm
  next => cases hs

theorem step_schedulesLoaded {schedules : List ScheduleEntry}
    (hs : s.step (.schedulesLoaded i schedules) = some s') :
    ∃ device restartCount launcher configs,
      s.coroutines[i]? = some (.loadingSchedules device restartCount launcher configs) ∧
      s' = (s.complete i).launch device restartCount configs schedules := by
  simp only [step] at hs
  split at hs
  next hi => exact ⟨_, _, _, _, hi, (Option.some.inj hs).symm⟩
  next => cases hs

theorem step_loadFailed (hs : s.step (.loadFailed i) = some s') :
    ∃ device restartCount launcher,
      (s.coroutines[i]? = some (.loadingData device restartCount launcher) ∨ ∃ configs,
        s.coroutines[i]? = some (.loadingSchedules device restartCount launcher configs)) ∧
      s' = s.launchFailed i device launcher := by
  simp only [step] at hs
  split at hs
  next hi => exact ⟨_, _, _, .inl hi, (Option.some.inj hs).symm⟩
  next hi => exact ⟨_, _, _, .inr ⟨_, hi⟩, (Option.some.inj hs).symm⟩
  next => cases hs

theorem step_wake (hs : s.step (.wake i) = some s') :
    ∃ device restartCount, s.coroutines[i]? = some (.sleeping device restartCount) ∧
      s' = (s.popState device).advance i
        (.loadingData device restartCount .delayedRestart) := by
  simp only [step] at hs
  split at hs
  next hi => exact ⟨_, _, hi, (Option.some.inj hs).symm⟩
  next => cases hs

/-- A stop goes on once its task is done; a crash of the task is raised in it. -/
theorem step_resumeStop (hs : s.step (.resumeStop i) = some s') :
    ∃ device t reload task, s.coroutines[i]? = some (.stopping device t reload) ∧
      s.tasks[t]? = some task ∧
      (task.status = .crashed ∧ s' = s.complete i ∨
        (task.status = .cancelled ∨ task.status = .returned) ∧
          s' = if reload then ((s.complete i).clearDevice device).startDevice device
            else (s.complete i).clearDevice device) := by
  simp only [step] at hs
  split at hs
  next hi =>
    split at hs
    next htask =>
      refine ⟨_, _, _, _, hi, htask, ?_⟩
      split at hs
      next hstatus => exact .inr ⟨.inl hstatus, (Option.some.inj hs).symm⟩
      next hstatus => exact .inr ⟨.inr hstatus, (Option.some.inj hs).symm⟩
      next hstatus => exact .inl ⟨hstatus, (Option.some.inj hs).symm⟩
      next => cases hs
    next => cases hs
  next => cases hs

theorem step_errorSet {written : Bool} (hs : s.step (.errorSet i written) = some s') :
    ∃ device, s.coroutines[i]? = some (.settingError device) ∧ s' = s.complete i := by
  simp only [step] at hs
  split at hs
  next hi => exact ⟨_, hi, (Option.some.inj hs).symm⟩
  next => cases hs

theorem step_onTaskDone (hs : s.step (.onTaskDone i) = some s') :
    ∃ t task, s.callbacks[i]? = some t ∧ s.tasks[t]? = some task ∧
      s' = { s with callbacks := s.callbacks.eraseIdx i }.onTaskDone task := by
  simp only [step] at hs
  split at hs
  next hi =>
    obtain ⟨task, htask, rfl⟩ := Option.map_eq_some_iff.1 hs
    exact ⟨_, task, hi, htask, rfl⟩
  next => cases hs

theorem step_taskBegins (hs : s.step (.taskBegins t) = some s') :
    ∃ task, s.tasks[t]? = some task ∧ task.status = .created ∧
      s' = { s.setTask t { task with status := .running } with
        deviceValues := s.deviceValues.set task.device Dict.empty } := by
  simp only [step] at hs
  split at hs
  next task htask =>
    split at hs
    next hstatus => exact ⟨task, htask, hstatus, (Option.some.inj hs).symm⟩
    next => cases hs
  next => cases hs

theorem step_tick {hadError : Bool} {values : Dict String PyFloat} {injector : AnomalyInjector}
    (hs : s.step (.tick t hadError values injector) = some s') :
    ∃ task, s.tasks[t]? = some task ∧ task.status = .running ∧
      s' = { s.setTask t { task with
          errorCount := nextErrorCount task hadError
          status := if nextErrorCount task hadError ≥ 5 then .settingError else .running } with
        deviceValues := s.deviceValues.set task.device values
        injector } := by
  simp only [step] at hs
  split at hs
  next task htask =>
    split at hs
    next hstatus => exact ⟨task, htask, hstatus, (Option.some.inj hs).symm⟩
    next => cases hs
  next => cases hs

theorem step_taskCrashes (hs : s.step (.taskCrashes t) = some s') :
    ∃ task, s.tasks[t]? = some task ∧ (task.status = .created ∨ task.status = .running) ∧
      s' = s.finish t task .crashed := by
  simp only [step] at hs
  split at hs
  next task htask =>
    split at hs
    next hstatus => exact ⟨task, htask, hstatus, (Option.some.inj hs).symm⟩
    next => cases hs
  next => cases hs

theorem step_taskErrorSet {written : Bool} (hs : s.step (.taskErrorSet t written) = some s') :
    ∃ task, s.tasks[t]? = some task ∧ task.status = .settingError ∧
      s' = s.finish t task .returned := by
  simp only [step] at hs
  split at hs
  next task htask =>
    split at hs
    next hstatus => exact ⟨task, htask, hstatus, (Option.some.inj hs).symm⟩
    next => cases hs
  next => cases hs

theorem step_taskCancelled (hs : s.step (.taskCancelled t) = some s') :
    ∃ task, s.tasks[t]? = some task ∧ task.status = .cancelling ∧
      s' = s.finish t task .cancelled := by
  simp only [step] at hs
  split at hs
  next task htask =>
    split at hs
    next hstatus => exact ⟨task, htask, hstatus, (Option.some.inj hs).symm⟩
    next => cases hs
  next => cases hs

/-- The task that an event ends, and how it ends. -/
def ending : EngineEvent → Option (TaskRef × TaskStatus)
  | .taskCrashes t => some (t, .crashed)
  | .taskErrorSet t _ => some (t, .returned)
  | .taskCancelled t => some (t, .cancelled)
  | _ => none

theorem step_ending {status : TaskStatus} (he : ending e = some (t, status))
    (hs : s.step e = some s') :
    ∃ task, s.tasks[t]? = some task ∧ task.status.done = false ∧ s' = s.finish t task status := by
  cases e with
  | taskCrashes =>
    cases he
    obtain ⟨task, htask, hstatus | hstatus, hs⟩ := step_taskCrashes hs
    · exact ⟨task, htask, by rw [hstatus]; rfl, hs⟩
    · exact ⟨task, htask, by rw [hstatus]; rfl, hs⟩
  | taskErrorSet =>
    cases he
    obtain ⟨task, htask, hstatus, hs⟩ := step_taskErrorSet hs
    exact ⟨task, htask, by rw [hstatus]; rfl, hs⟩
  | taskCancelled =>
    cases he
    obtain ⟨task, htask, hstatus, hs⟩ := step_taskCancelled hs
    exact ⟨task, htask, by rw [hstatus]; rfl, hs⟩
  | _ => cases he

end Steps

theorem oneLive_iff :
    s.OneLive ↔ ∀ device t, s.Live t device → s.held device = some t := by
  refine ⟨fun h device t ht => (h device t ht).1, fun h device t ht => ⟨h device t ht, ?_⟩⟩
  intro t' ht'
  exact Option.some.inj ((h device t' ht').symm.trans (h device t ht))

/-- What is live after the step was live before, and is held if it was held. -/
def Keeps (s s' : SimulationEngine) : Prop :=
  ∀ t device, s'.Live t device →
    s.Live t device ∧ (s.held device = some t → s'.held device = some t)

theorem Keeps.oneLive (h : Keeps s s') (hs : s.OneLive) : s'.OneLive := by
  rw [oneLive_iff] at hs ⊢
  intro device t ht
  obtain ⟨hlive, hheld⟩ := h t device ht
  exact hheld (hs device t hlive)

theorem keeps_of_eq (htasks : s'.tasks = s.tasks) (hstates : s'.deviceStates = s.deviceStates) :
    Keeps s s' := by
  intro t device ht
  simp only [Live, TaskIn, held, htasks, hstates] at ht ⊢
  exact ⟨ht, id⟩

theorem taskIn_setTask {p : TaskStatus → Prop} {task : SimTask}
    (h : TaskIn p (s.setTask t task) t' device) :
    (t' = t ∧ task.device = device ∧ p task.status) ∨ (t' ≠ t ∧ TaskIn p s t' device) := by
  obtain ⟨task', htask', hdevice, hlive⟩ := h
  simp only [setTask, List.getElem?_set] at htask'
  split at htask'
  next heq =>
    split at htask'
    · cases htask'
      exact Or.inl ⟨heq.symm, hdevice, hlive⟩
    · cases htask'
  next hne => exact Or.inr ⟨Ne.symm hne, task', htask', hdevice, hlive⟩

/-- A task that stops being live, or changes while it is live. -/
theorem keeps_setTask {task task' : SimTask} (htask : s.tasks[t]? = some task)
    (htasks : s'.tasks = (s.setTask t task').tasks) (hstates : s'.deviceStates = s.deviceStates)
    (hdevice : task'.device = task.device)
    (hstatus : task'.status.live = true → task.status.live = true) : Keeps s s' := by
  intro t' device ht'
  have ht : (s.setTask t task').Live t' device := by
    simpa only [Live, TaskIn, htasks] using ht'
  refine ⟨?_, fun h => by simpa only [held, hstates] using h⟩
  rcases taskIn_setTask ht with ⟨rfl, hd, hl⟩ | ⟨-, hl⟩
  · exact ⟨task, htask, hdevice.symm.trans hd, hstatus hl⟩
  · exact hl

theorem keeps_stopDevice : Keeps s (s.stopDevice device).1 := by
  unfold stopDevice
  cases hstate : s.deviceStates device with
  | none => exact fun _ _ h => ⟨h, id⟩
  | some state =>
    have hheld : s.held device = some state.task := by simp [held, hstate]
    -- every other task keeps its entry
    have hother : ∀ t d, t ≠ state.task → s.held d = some t →
        (s.popState device).held d = some t := by
      intro t d hne hd
      have hdev : d ≠ device := by
        rintro rfl
        exact hne (Option.some.inj (hd.symm.trans hheld))
      simpa [held, popState, Dict.pop_of_ne _ hdev] using hd
    cases htask : (s.popState device).tasks[state.task]? with
    | none =>
      simp only [htask]
      intro t d ht
      refine ⟨ht, hother t d ?_⟩
      rintro rfl
      obtain ⟨task, hsome, -⟩ := ht
      exact absurd (htask.symm.trans hsome) (by simp)
    | some task =>
      -- the entry's task is done, or its cancellation is requested now
      have hdone : ∀ t d, task.status.live = false → s.Live t d → t ≠ state.task := by
        rintro t d hstatus ⟨task', hsome, -, hlive⟩ rfl
        obtain rfl : task = task' := Option.some.inj (htask.symm.trans hsome)
        exact absurd (hstatus.symm.trans hlive) (by simp)
      have hcancel : ∀ t d, (s.setTask state.task { task with status := .cancelling }).Live t d →
          t ≠ state.task ∧ s.Live t d := by
        intro t d ht
        rcases taskIn_setTask ht with ⟨-, -, hl⟩ | h
        · exact absurd hl (by simp [TaskStatus.live])
        · exact h
      simp only [htask]
      intro t d ht
      split at ht
      next hst => exact ⟨ht, hother t d (hdone t d (by simp [hst, TaskStatus.live]) ht)⟩
      next hst => exact ⟨ht, hother t d (hdone t d (by simp [hst, TaskStatus.live]) ht)⟩
      next hst => exact ⟨ht, hother t d (hdone t d (by simp [hst, TaskStatus.live]) ht)⟩
      next hn => exact ⟨(hcancel t d ht).2, hother t d (hcancel t d ht).1⟩

theorem Keeps.trans {s'' : SimulationEngine} (h : Keeps s s') (h' : Keeps s' s'') :
    Keeps s s'' := by
  intro t device ht
  obtain ⟨ht', hheld'⟩ := h' t device ht
  obtain ⟨ht, hheld⟩ := h t device ht'
  exact ⟨ht, fun hs => hheld' (hheld hs)⟩

theorem keeps_startDevice : Keeps s (s.startDevice device) := by
  unfold startDevice
  split <;> exact keeps_of_eq rfl rfl

theorem keeps_launchFailed (i : ℕ) (launcher : Launcher) :
    Keeps s (s.launchFailed i device launcher) := by
  cases launcher <;> exact keeps_of_eq rfl rfl

/-- `_on_task_done` changes no task, and the entries only when it pops one. -/
theorem onTaskDone_cases (task : SimTask) :
    (s.onTaskDone task).tasks = s.tasks ∧
      (s.onTaskDone task).deviceStates =
        if s.popsState task then s.deviceStates.pop task.device else s.deviceStates := by
  unfold onTaskDone popsState
  cases task.status
  case crashed =>
    simp only [decide_eq_true_eq]
    split <;> exact ⟨rfl, rfl⟩
  all_goals exact ⟨rfl, rfl⟩

/-- A step keeps the live tasks and their entries, or pops or overwrites one entry. -/
theorem step_cases (hs : s.step e = some s') :
    (s.displaces e = none ∧ Keeps s s') ∨
    (∃ device, s.displaces e = some device ∧ s'.tasks = s.tasks ∧
      s'.deviceStates = s.deviceStates.pop device) ∨
    ∃ device task state, s.displaces e = some device ∧
      (∃ i schedules restartCount launcher, e = .schedulesLoaded i schedules ∧
        s.coroutines[i]? = some (.loadingSchedules device restartCount launcher task.configs)) ∧
      task.device = device ∧ task.status.live = true ∧ state.task = s.tasks.length ∧
      s'.tasks = s.tasks ++ [task] ∧
      s'.deviceStates = s.deviceStates.set device state := by
  cases e with
  | startDevice device =>
    cases hs
    exact Or.inl ⟨rfl, keeps_startDevice⟩
  | stopDevice device =>
    refine Or.inl ⟨rfl, (@keeps_stopDevice s device).trans ?_⟩
    rcases step_stopDevice hs with ⟨-, rfl⟩ | ⟨t, -, rfl⟩
    · exact keeps_of_eq rfl rfl
    · exact keeps_of_eq rfl rfl
  | reloadDevice device =>
    refine Or.inl ⟨rfl, (@keeps_stopDevice s device).trans ?_⟩
    rcases step_reloadDevice hs with ⟨-, rfl⟩ | ⟨-, rfl⟩ | ⟨t, -, rfl⟩
    · exact keeps_of_eq rfl rfl
    · exact keeps_startDevice
    · exact keeps_of_eq rfl rfl
  | dataLoaded i configs =>
    refine Or.inl ⟨rfl, ?_⟩
    obtain ⟨device, restartCount, launcher, -, rfl | rfl⟩ := step_dataLoaded hs
    · exact keeps_of_eq rfl rfl
    · exact keeps_of_eq rfl rfl
  | schedulesLoaded i schedules =>
    obtain ⟨device, restartCount, launcher, configs, hi, rfl⟩ := step_schedulesLoaded hs
    exact Or.inr (Or.inr ⟨_, _, _, by simp only [displaces, hi], ⟨i, schedules, _, _, rfl, hi⟩,
      rfl, rfl, rfl, rfl, rfl⟩)
  | loadFailed i =>
    obtain ⟨device, restartCount, launcher, -, rfl⟩ := step_loadFailed hs
    exact Or.inl ⟨rfl, keeps_launchFailed _ _⟩
  | wake i =>
    obtain ⟨device, restartCount, hi, rfl⟩ := step_wake hs
    exact Or.inr (Or.inl ⟨_, by simp only [displaces, hi], rfl, rfl⟩)
  | resumeStop i =>
    refine Or.inl ⟨rfl, ?_⟩
    obtain ⟨device, t, reload, task, -, -, ⟨-, rfl⟩ | ⟨-, rfl⟩⟩ := step_resumeStop hs
    · exact keeps_of_eq rfl rfl
    · have hclear : Keeps s ((s.complete i).clearDevice device) := keeps_of_eq rfl rfl
      cases reload with
      | false => exact hclear
      | true => exact hclear.trans keeps_startDevice
  | errorSet i written =>
    obtain ⟨device, -, rfl⟩ := step_errorSet hs
    exact Or.inl ⟨rfl, keeps_of_eq rfl rfl⟩
  | onTaskDone i =>
    obtain ⟨t, task, hi, htask, rfl⟩ := step_onTaskDone hs
    obtain ⟨htasks, hstates⟩ :=
      @onTaskDone_cases { s with callbacks := s.callbacks.eraseIdx i } task
    have hpops : ({ s with callbacks := s.callbacks.eraseIdx i } : SimulationEngine).popsState
        task = s.popsState task := rfl
    rw [hpops] at hstates
    cases hp : s.popsState task with
    | true =>
      refine Or.inr (Or.inl ⟨task.device, ?_, htasks, by simpa [hp] using hstates⟩)
      simp [displaces, hi, htask, hp]
    | false =>
      refine Or.inl ⟨?_, keeps_of_eq htasks (by simpa [hp] using hstates)⟩
      simp [displaces, hi, htask, hp]
  | taskBegins t =>
    obtain ⟨task, htask, hstatus, rfl⟩ := step_taskBegins hs
    exact Or.inl ⟨rfl, keeps_setTask htask rfl rfl rfl (by simp [hstatus, TaskStatus.live])⟩
  | tick t hadError values injector =>
    obtain ⟨task, htask, hstatus, rfl⟩ := step_tick hs
    exact Or.inl ⟨rfl, keeps_setTask htask rfl rfl rfl (by simp [hstatus, TaskStatus.live])⟩
  | taskCrashes t | taskErrorSet t written | taskCancelled t =>
    obtain ⟨task, htask, -, rfl⟩ := step_ending rfl hs
    exact Or.inl ⟨rfl, keeps_setTask htask rfl rfl rfl (by simp [TaskStatus.live])⟩

theorem displacesDone_iff (hlive : s.OneLive) (hs : s.step e = some s') :
    s'.OneLive ↔ s.DisplacesDone e := by
  have hheld := oneLive_iff.1 hlive
  rcases step_cases hs with ⟨hnone, hkeeps⟩ | ⟨device, hdis, htasks, hstates⟩ |
    ⟨device, task, state, hdis, -, hdevice, hstatus, hnew, htasks, hstates⟩
  · exact iff_of_true (hkeeps.oneLive hlive) fun device hd => by simp [hnone] at hd
  · have hsame : ∀ t d, s'.Live t d ↔ s.Live t d := fun t d => by simp only [Live, TaskIn, htasks]
    rw [oneLive_iff]
    constructor
    · rintro h d hd t ht hl
      obtain rfl : device = d := Option.some.inj (hdis.symm.trans hd)
      have := h device t ((hsame t device).2 hl)
      simp [held, hstates] at this
    · intro h d t ht
      have hl := (hsame t d).1 ht
      have hne : d ≠ device := by
        rintro rfl
        exact h d hdis t (hheld d t hl) hl
      simpa [held, hstates, Dict.pop_of_ne _ hne] using hheld d t hl
  · have hlater : ∀ t d, s'.Live t d ↔ s.Live t d ∨ (t = s.tasks.length ∧ d = device) := by
      intro t d
      simp only [Live, TaskIn, htasks]
      rcases Nat.lt_trichotomy t s.tasks.length with hlt | rfl | hgt
      · simp [List.getElem?_append_left hlt, hlt.ne]
      · simp only [List.getElem?_concat_length, List.getElem?_eq_none le_rfl, Option.some.injEq,
          exists_eq_left', reduceCtorEq, false_and, exists_false, false_or, true_and, hstatus,
          hdevice, and_true, eq_comm]
      · have hlen : (s.tasks ++ [task]).length ≤ t := by simpa using Nat.succ_le_of_lt hgt
        simp [List.getElem?_eq_none hlen, List.getElem?_eq_none hgt.le, hgt.ne']
    rw [oneLive_iff]
    constructor
    · rintro h d hd t ht ⟨old, hold, hlive⟩
      obtain rfl : device = d := Option.some.inj (hdis.symm.trans hd)
      have hl : s'.Live t device := (hlater t device).2 (Or.inl ⟨old, hold, hlive⟩)
      have heq : s.tasks.length = t := by simpa [held, hstates, hnew] using h device t hl
      exact absurd (List.getElem?_eq_some_iff.1 hold).1 (by omega)
    · intro h d t ht
      rcases (hlater t d).1 ht with hl | ⟨rfl, rfl⟩
      · have hne : d ≠ device := by
          rintro rfl
          exact h d hdis t (hheld d t hl) hl
        simpa [held, hstates, Dict.set_of_ne _ _ hne] using hheld d t hl
      · simp [held, hstates, hnew]

theorem oneLive_init : OneLive {} := by
  rintro device t ⟨task, htask, -⟩
  simp at htask

/-- In every interleaving, a device has at most one live task, which its entry holds, at
every point exactly when no step overwrites or pops an entry whose task is live. -/
theorem always_oneLive_iff (es : List EngineEvent) :
    Always step OneLive {} es ↔ EachStep step (fun s e _ => s.DisplacesDone e) {} es :=
  @always_iff_eachStep _ _ _ (fun _ => True) _ _ _ _ (fun _ _ _ _ _ => trivial)
    (fun _ _ _ _ hlive hs => displacesDone_iff hlive hs) trivial oneLive_init

/-- Some configuration, enabled and as the schema fills it in. -/
def someConfig : SimulationConfig :=
  { id := 1, deviceId := 1, registerName := "voltage", dataMode := .static, modeParams := [],
    isEnabled := true, updateIntervalMs := 1000 }

/-- Two starts of one device, each checking for an entry before the other registers. -/
def doubleStart : List EngineEvent := [
  .startDevice 1, .startDevice 1, .dataLoaded 0 [someConfig], .dataLoaded 1 [someConfig],
  .schedulesLoaded 0 [], .schedulesLoaded 0 []]

theorem two_live_tasks : ¬ ∀ es, Always step OneLive {} es := by
  intro h
  have hlive := (h doubleStart).of_exec rfl
  have hfirst := (hlive 1 0 ⟨_, rfl, rfl, rfl⟩).2 1 ⟨_, rfl, rfl, rfl⟩
  exact absurd hfirst (by decide)

end GhostMeter.Simulation.SimulationEngine
