import GhostMeter.Simulation.EngineSteps

/-! What a stopped device can still be in for: pending crash callbacks, delayed restarts and
launches that were under way when `stop_device` returned. -/

namespace GhostMeter.Simulation.SimulationEngine

open GhostMeter.Lib

/-- The event is a call that asks for a simulation of the device. -/
def Requests (e : EngineEvent) (device : UUID) : Prop :=
  e = .startDevice device ∨ e = .reloadDevice device

/-- In this step a call of `stop_device` for the device returns. -/
def StopReturns (s : SimulationEngine) (e : EngineEvent) (device : UUID) : Prop :=
  match e with
  | .stopDevice d => d = device ∧ (s.stopDevice d).2 = .returned
  | .resumeStop i => ∃ t task, s.coroutines[i]? = some (.stopping device t false) ∧
      s.tasks[t]? = some task ∧ (task.status = .cancelled ∨ task.status = .returned)
  | _ => False

/-- The step launches a task for the device, runs a tick of it or sets its status to error. -/
def Disturbs (s : SimulationEngine) (e : EngineEvent) (device : UUID) : Prop :=
  match e with
  | .schedulesLoaded i _ => ∃ restartCount launcher configs,
      s.coroutines[i]? = some (.loadingSchedules device restartCount launcher configs)
  | .tick t _ _ _ => ∃ task, s.tasks[t]? = some task ∧ task.device = device
  | .errorSet i written => written = true ∧ s.coroutines[i]? = some (.settingError device)
  | .taskErrorSet t written => written = true ∧
      ∃ task, s.tasks[t]? = some task ∧ task.device = device
  | _ => False

/-- After every return of `stop_device` that no later call asks to undo, the device is left
alone. -/
def StaysStopped (device : UUID) : SimulationEngine → List EngineEvent → Prop :=
  EachRest step fun s e s' es => s.StopReturns e device → (∀ e' ∈ es, ¬ Requests e' device) →
    EachStep step (fun s e _ => ¬ s.Disturbs e device) s' es

/-- The task crashed while it simulated the device. -/
def Crashed : SimulationEngine → TaskRef → UUID → Prop := TaskIn (· = .crashed)

/-- Nothing is under way for the device but other calls of `stop_device`: no launch, delayed
restart, error write or reload, no live task, and no crash whose callback is to run. -/
structure Quiet (s : SimulationEngine) (device : UUID) : Prop where
  coroutines : ∀ c ∈ s.coroutines, c.device = device → ∃ t, c = .stopping device t false
  tasks : ∀ t, ¬ s.Live t device
  callbacks : ∀ t ∈ s.callbacks, ¬ s.Crashed t device

variable {s s' : SimulationEngine} {e : EngineEvent} {device : UUID}

theorem Quiet.not_disturbs (h : s.Quiet device) (hs : s.step e = some s') :
    ¬ s.Disturbs e device := by
  intro hd
  cases e with
  | schedulesLoaded i schedules =>
    obtain ⟨restartCount, launcher, configs, hi⟩ := hd
    obtain ⟨t, ht⟩ := h.coroutines _ (List.mem_of_getElem? hi) rfl
    cases ht
  | tick t hadError values injector =>
    obtain ⟨task, htask, hdevice⟩ := hd
    simp only [step, htask] at hs
    split at hs
    next hst => exact h.tasks t ⟨task, htask, hdevice, by simp [hst, TaskStatus.live]⟩
    next => cases hs
  | errorSet i written =>
    obtain ⟨t, ht⟩ := h.coroutines _ (List.mem_of_getElem? hd.2) rfl
    cases ht
  | taskErrorSet t written =>
    obtain ⟨-, task, htask, hdevice⟩ := hd
    simp only [step, htask] at hs
    split at hs
    next hst => exact h.tasks t ⟨task, htask, hdevice, by simp [hst, TaskStatus.live]⟩
    next => cases hs
  | _ => exact hd

/-- The step launches no task for the device. -/
theorem Quiet.not_live (h : s.Quiet device) (hs : s.step e = some s') (t : TaskRef) :
    ¬ s'.Live t device := by
  rcases step_cases hs with ⟨-, hkeeps⟩ | ⟨d, -, htasks, -⟩ |
    ⟨d, task, state, -, ⟨i, schedules, restartCount, launcher, -, hi⟩, hdevice, -, -, htasks, -⟩
  · exact fun ht => h.tasks t (hkeeps t device ht).1
  · simpa only [Live, TaskIn, htasks] using h.tasks t
  · have hne : d ≠ device := by
      rintro rfl
      obtain ⟨t, ht⟩ := h.coroutines _ (List.mem_of_getElem? hi) rfl
      cases ht
    rintro ⟨task', htask', hd, hlive⟩
    rw [htasks, List.getElem?_append] at htask'
    split at htask'
    · exact h.tasks t ⟨task', htask', hd, hlive⟩
    · obtain rfl := List.mem_singleton.1 (List.mem_of_getElem? htask')
      exact hne (hdevice.symm.trans hd)

/-- A step that brings nothing up for the device leaves it quiet. -/
theorem Quiet.mono (h : s.Quiet device) (hs : s.step e = some s')
    (hcoroutines : ∀ c ∈ s'.coroutines, c ∈ s.coroutines ∨ c.device ≠ device ∨
      ∃ t, c = .stopping device t false)
    (hcallbacks : ∀ t ∈ s'.callbacks, s'.Crashed t device →
      t ∈ s.callbacks ∧ s.Crashed t device) : s'.Quiet device where
  coroutines c hc hd := by
    rcases hcoroutines c hc with hold | hne | hstop
    · exact h.coroutines c hold hd
    · exact absurd hd hne
    · exact hstop
  tasks := h.not_live hs
  callbacks t ht hcrashed :=
    h.callbacks t (hcallbacks t ht hcrashed).1 (hcallbacks t ht hcrashed).2

/-- A coroutine that is not just a call of `stop_device` is another device's. -/
theorem Quiet.ne_of_mem (h : s.Quiet device) {i : ℕ} {c : Coroutine}
    (hi : s.coroutines[i]? = some c) (hc : ∀ t, c ≠ .stopping device t false) :
    c.device ≠ device := by
  intro hd
  obtain ⟨t, ht⟩ := h.coroutines c (List.mem_of_getElem? hi) hd
  exact hc t ht

theorem Quiet.coroutines_step (h : s.Quiet device) (hs : s.step e = some s')
    (hcalls : ¬ Requests e device) {c : Coroutine} (hc : c ∈ s'.coroutines) :
    c ∈ s.coroutines ∨ c.device ≠ device ∨ ∃ t, c = .stopping device t false := by
  refine (SimulationEngine.coroutines_step hs hc).imp_right fun hnew => ?_
  cases hnew with
  | starts d => exact Or.inl fun hd => hcalls (Or.inl (hd ▸ rfl))
  | reloads d | stopsFirst d t _ => exact Or.inl fun hd => hcalls (Or.inr (hd ▸ rfl))
  | stops d t _ =>
    by_cases hd : d = device
    · subst hd
      exact Or.inr ⟨t, rfl⟩
    · exact Or.inl hd
  | loads _ hi | wakes hi | resumes hi =>
    have hne := h.ne_of_mem hi (by simp)
    exact Or.inl hne
  | loadFails hi hnot =>
    have hne := h.ne_of_mem hi fun t heq => hnot t false (by rw [heq]; rfl)
    exact Or.inl hne
  | givesUp hi htask hstatus | restarts _ hi htask hstatus =>
    exact Or.inl fun hd => h.callbacks _ (List.mem_of_getElem? hi) ⟨_, htask, hd, hstatus⟩

theorem StatusStep.live_of_crashed {status : TaskStatus} (h : StatusStep e status .crashed) :
    status.live = true := by
  cases h with
  | crashes hstatus => rcases hstatus with rfl | rfl <;> rfl

theorem Quiet.callbacks_step (h : s.Quiet device) (hs : s.step e = some s') {t : TaskRef}
    (ht : t ∈ s'.callbacks) (hcrashed : s'.Crashed t device) :
    t ∈ s.callbacks ∧ s.Crashed t device := by
  -- a task that crashes now has been live
  have hcrashed : s.Crashed t device := by
    rcases (tasks_step hs).taskIn hcrashed with
      hcrashed | hcreated | ⟨task, _, htask, hd, hstatus, rfl⟩
    · exact hcrashed
    · cases hcreated
    · exact absurd ⟨task, htask, hd, hstatus.live_of_crashed⟩ (h.tasks t)
  refine ⟨(SimulationEngine.callbacks_step hs ht).resolve_right ?_, hcrashed⟩
  rintro ⟨task, htask, hnot⟩
  obtain ⟨task', htask', -, hstatus⟩ := hcrashed
  obtain rfl := Option.some.inj (htask.symm.trans htask')
  rw [hstatus] at hnot
  cases hnot

theorem Quiet.step (h : s.Quiet device) (hs : s.step e = some s')
    (hcalls : ¬ Requests e device) : s'.Quiet device :=
  h.mono hs (fun _ => h.coroutines_step hs hcalls) fun _ => h.callbacks_step hs

theorem Quiet.run (h : s.Quiet device) {es : List EngineEvent}
    (hcalls : ∀ e ∈ es, ¬ Requests e device) :
    EachStep SimulationEngine.step (fun s e _ => ¬ s.Disturbs e device) s es := by
  induction es generalizing s with
  | nil => trivial
  | cons e es ih =>
    intro s' hs
    refine ⟨h.not_disturbs hs, ih (h.step hs (hcalls e (by simp))) ?_⟩
    exact fun e' he' => hcalls e' (List.mem_cons_of_mem _ he')

theorem StopReturns.not_requests (h : s.StopReturns e device) : ¬ Requests e device := by
  rintro (rfl | rfl) <;> exact h

/-- In every run, a device stays stopped if whenever `stop_device` returns for good nothing
else is under way for it. -/
theorem staysStopped_of_quiet (es : List EngineEvent) (device : UUID)
    (hquiet : EachRest step (fun s e _ es => s.StopReturns e device →
      (∀ e' ∈ es, ¬ Requests e' device) → s.Quiet device) {} es) :
    StaysStopped device {} es :=
  hquiet.mono fun _ _ _ _ hs h hstop hcalls =>
    ((h hstop hcalls).step hs hstop.not_requests).run hcalls

/-- The device is stopped between two ticks. -/
theorem staysStopped_afterTick :
    StaysStopped 1 {} [.startDevice 1, .dataLoaded 0 [someConfig], .schedulesLoaded 0 [],
      .taskBegins 0, .tick 0 false Dict.empty {}, .stopDevice 1, .taskCancelled 0, .resumeStop 0,
      .onTaskDone 0] := by
  refine staysStopped_of_quiet _ _ ?_
  rintro _ ⟨⟩
  refine ⟨fun h => h.elim, ?_⟩
  rintro _ ⟨⟩
  refine ⟨fun h => h.elim, ?_⟩
  rintro _ ⟨⟩
  refine ⟨fun h => h.elim, ?_⟩
  rintro _ ⟨⟩
  refine ⟨fun h => h.elim, ?_⟩
  rintro _ ⟨⟩
  refine ⟨fun h => h.elim, ?_⟩
  rintro _ ⟨⟩
  refine ⟨(fun h => nomatch h.2), ?_⟩
  rintro _ ⟨⟩
  refine ⟨fun h => h.elim, ?_⟩
  rintro _ ⟨⟩
  refine ⟨fun _ _ => ⟨?_, ?_, ?_⟩, ?_⟩
  · rintro c hc -
    exact ⟨0, List.mem_singleton.1 hc⟩
  · rintro (_ | t) ⟨task, ⟨⟩, -, hlive⟩
    cases hlive
  · rintro t ht ⟨task, htask, -, hst⟩
    obtain rfl := List.mem_singleton.1 ht
    cases htask
    cases hst
  · rintro _ ⟨⟩
    exact ⟨fun h => h.elim, trivial⟩

/-- The device is stopped while a delayed restart loads its data. -/
def stopDuringRestart : List EngineEvent := [
  .startDevice 1, .dataLoaded 0 [someConfig], .schedulesLoaded 0 [], .taskCrashes 0,
  .onTaskDone 0, .wake 0, .stopDevice 1, .dataLoaded 0 [someConfig], .schedulesLoaded 0 []]

theorem restarted_after_stop : ¬ ∀ device es, StaysStopped device {} es := by
  intro h
  obtain ⟨-, h₁⟩ := h 1 stopDuringRestart _ rfl
  obtain ⟨-, h₂⟩ := h₁ _ rfl
  obtain ⟨-, h₃⟩ := h₂ _ rfl
  obtain ⟨-, h₄⟩ := h₃ _ rfl
  obtain ⟨-, h₅⟩ := h₄ _ rfl
  obtain ⟨-, h₆⟩ := h₅ _ rfl
  obtain ⟨hstop, -⟩ := h₆ _ rfl
  have hrest := hstop ⟨rfl, rfl⟩ (by simp [Requests])
  exact ((hrest _ rfl).2 _ rfl).1 ⟨_, _, _, rfl⟩

end GhostMeter.Simulation.SimulationEngine
