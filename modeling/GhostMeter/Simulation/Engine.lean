import GhostMeter.Models

/-! The simulation engine: its tasks, its coroutines, and what each does between two awaits.
An event is one such piece; what the database, the data generator or the adapter makes of it
is part of the event. -/

namespace GhostMeter.Simulation

open GhostMeter.Lib

/-- `MAX_RESTART_ATTEMPTS`. -/
def maxRestartAttempts : ℕ := 5

/-- How far a `_run_device` task has come. -/
inductive TaskStatus
  | created
  | running
  /-- It awaits `_set_device_error` after its last tick. -/
  | settingError
  /-- It is unfinished, and its cancellation has been requested. -/
  | cancelling
  | cancelled | crashed | returned
  deriving DecidableEq

namespace TaskStatus

/-- The task goes on unless someone stops it. -/
def live : TaskStatus → Bool
  | created | running | settingError => true
  | _ => false

/-- `task.done()`. -/
def done : TaskStatus → Bool
  | cancelled | crashed | returned => true
  | _ => false

end TaskStatus

structure SimTask where
  device : UUID
  configs : List SimulationConfig
  errorCount : ℕ := 0
  status : TaskStatus := .created

/-- A task, by its place among the tasks created so far. -/
abbrev TaskRef := ℕ

structure DeviceTaskState where
  task : TaskRef
  restartCount : ℕ := 0
  deriving DecidableEq

/-- Who awaits `_launch_device_task`. -/
inductive Launcher | startDevice | delayedRestart
  deriving DecidableEq

/-- A coroutine of the engine, suspended at an await. -/
inductive Coroutine
  | loadingData (device : UUID) (restartCount : ℕ) (launcher : Launcher)
  | loadingSchedules (device : UUID) (restartCount : ℕ) (launcher : Launcher)
      (configs : List SimulationConfig)
  /-- `_delayed_restart`, asleep. -/
  | sleeping (device : UUID) (restartCount : ℕ)
  /-- `_set_device_error`, outside of the device's own task. -/
  | settingError (device : UUID)
  /-- `stop_device`, or `reload_device` in it, awaiting the task it has cancelled. -/
  | stopping (device : UUID) (task : TaskRef) (reload : Bool)

def Coroutine.device : Coroutine → UUID
  | loadingData device _ _ => device
  | loadingSchedules device _ _ _ => device
  | sleeping device _ => device
  | settingError device => device
  | stopping device _ _ => device

structure SimulationEngine where
  tasks : List SimTask := []
  deviceStates : Dict UUID DeviceTaskState := Dict.empty
  deviceValues : Dict UUID (Dict String PyFloat) := Dict.empty
  injector : AnomalyInjector := {}
  coroutines : List Coroutine := []
  /-- The finished tasks whose `_on_task_done` is still to run. -/
  callbacks : List TaskRef := []

inductive EngineEvent
  | startDevice (device : UUID)
  | stopDevice (device : UUID)
  | reloadDevice (device : UUID)
  | dataLoaded (i : ℕ) (configs : List SimulationConfig)
  | schedulesLoaded (i : ℕ) (schedules : List ScheduleEntry)
  | loadFailed (i : ℕ)
  | wake (i : ℕ)
  | resumeStop (i : ℕ)
  /-- `_set_device_error` ends; it has written the status, or found no row or failed. -/
  | errorSet (i : ℕ) (written : Bool)
  | onTaskDone (i : ℕ)
  | taskBegins (t : TaskRef)
  /-- A tick, with what it leaves in the device's values and in the injector. -/
  | tick (t : TaskRef) (hadError : Bool) (values : Dict String PyFloat)
      (injector : AnomalyInjector)
  | taskCrashes (t : TaskRef)
  | taskErrorSet (t : TaskRef) (written : Bool)
  | taskCancelled (t : TaskRef)

namespace SimulationEngine

def spawn (s : SimulationEngine) (c : Coroutine) : SimulationEngine :=
  { s with coroutines := s.coroutines ++ [c] }

def setTask (s : SimulationEngine) (t : TaskRef) (task : SimTask) : SimulationEngine :=
  { s with tasks := s.tasks.set t task }

def startDevice (s : SimulationEngine) (device : UUID) : SimulationEngine :=
  if (s.deviceStates device).isSome then s else s.spawn (.loadingData device 0 .startDevice)

/-- The end of `_launch_device_task`, once everything is loaded. -/
def launch (s : SimulationEngine) (device : UUID) (restartCount : ℕ)
    (configs : List SimulationConfig) (schedules : List ScheduleEntry) : SimulationEngine :=
  { s with
    injector := s.injector.loadSchedules device schedules
    tasks := s.tasks ++ [{ device, configs }]
    deviceStates := s.deviceStates.set device { task := s.tasks.length, restartCount } }

/-- The device has no entry any more. -/
def popState (s : SimulationEngine) (device : UUID) : SimulationEngine :=
  { s with deviceStates := s.deviceStates.pop device }

def onTaskDone (s : SimulationEngine) (task : SimTask) : SimulationEngine :=
  match task.status with
  | .crashed =>
    let restartCount := ((s.deviceStates task.device).elim 0 (·.restartCount)) + 1
    if restartCount > maxRestartAttempts then
      (s.popState task.device).spawn (.settingError task.device)
    else s.spawn (.sleeping task.device restartCount)
  | .returned => s.popState task.device
  | _ => s

/-- The cleanup of `stop_device`, after the task. -/
def clearDevice (s : SimulationEngine) (device : UUID) : SimulationEngine :=
  { s with
    deviceValues := s.deviceValues.pop device
    injector := s.injector.clearDevice device }

/-- `stop_device` up to its first suspension or its end. -/
inductive StopOutcome
  | returned
  | raised
  | suspended (task : TaskRef)

/-- A task that is done is not waited for: awaiting it returns or raises at once. -/
def stopDevice (s : SimulationEngine) (device : UUID) : SimulationEngine × StopOutcome :=
  match s.deviceStates device with
  | none => (s, .returned)
  | some state =>
    let s := s.popState device
    match s.tasks[state.task]? with
    | none => (s, .raised)
    | some task =>
      match task.status with
      | .cancelled | .returned => (s.clearDevice device, .returned)
      | .crashed => (s, .raised)
      | _ => (s.setTask state.task { task with status := .cancelling }, .suspended state.task)

/-- A task that has just finished schedules its callback. -/
def finish (s : SimulationEngine) (t : TaskRef) (task : SimTask) (status : TaskStatus) :
    SimulationEngine :=
  { s.setTask t { task with status } with callbacks := s.callbacks ++ [t] }

/-- The coroutine at `i` goes on to its next await. -/
def advance (s : SimulationEngine) (i : ℕ) (c : Coroutine) : SimulationEngine :=
  { s with coroutines := s.coroutines.set i c }

/-- The coroutine at `i` ends. -/
def complete (s : SimulationEngine) (i : ℕ) : SimulationEngine :=
  { s with coroutines := s.coroutines.eraseIdx i }

/-- An exception out of `_launch_device_task`: `start_device` passes it on. -/
def launchFailed (s : SimulationEngine) (i : ℕ) (device : UUID) : Launcher → SimulationEngine
  | .startDevice => s.complete i
  | .delayedRestart => s.advance i (.settingError device)

/-- `error_count` after a tick. -/
def nextErrorCount (task : SimTask) (hadError : Bool) : ℕ :=
  if hadError then task.errorCount + 1 else 0

def step (s : SimulationEngine) : EngineEvent → Option SimulationEngine
  | .startDevice device => some (s.startDevice device)
  | .stopDevice device =>
    match s.stopDevice device with
    | (s, .suspended t) => some (s.spawn (.stopping device t false))
    | (s, _) => some s
  | .reloadDevice device =>
    match s.stopDevice device with
    | (s, .suspended t) => some (s.spawn (.stopping device t true))
    | (s, .returned) => some (s.startDevice device)
    | (s, .raised) => some s
  | .dataLoaded i configs =>
    match s.coroutines[i]? with
    | some (.loadingData device restartCount launcher) =>
      if configs = [] then some (s.complete i)
      else some (s.advance i (.loadingSchedules device restartCount launcher configs))
    | _ => none
  | .schedulesLoaded i schedules =>
    match s.coroutines[i]? with
    | some (.loadingSchedules device restartCount _ configs) =>
      some ((s.complete i).launch device restartCount configs schedules)
    | _ => none
  | .loadFailed i =>
    match s.coroutines[i]? with
    | some (.loadingData device _ launcher) => some (s.launchFailed i device launcher)
    | some (.loadingSchedules device _ launcher _) => some (s.launchFailed i device launcher)
    | _ => none
  | .wake i =>
    match s.coroutines[i]? with
    | some (.sleeping device restartCount) =>
      some ((s.popState device).advance i (.loadingData device restartCount .delayedRestart))
    | _ => none
  | .resumeStop i =>
    match s.coroutines[i]? with
    | some (.stopping device t reload) =>
      match s.tasks[t]? with
      | some task =>
        match task.status with
        | .cancelled | .returned =>
          let s := (s.complete i).clearDevice device
          some (if reload then s.startDevice device else s)
        | .crashed => some (s.complete i)
        | _ => none
      | none => none
    | _ => none
  | .errorSet i _ =>
    match s.coroutines[i]? with
    | some (.settingError _) => some (s.complete i)
    | _ => none
  | .onTaskDone i =>
    match s.callbacks[i]? with
    | some t => s.tasks[t]?.map fun task =>
      { s with callbacks := s.callbacks.eraseIdx i }.onTaskDone task
    | none => none
  | .taskBegins t =>
    match s.tasks[t]? with
    | some task =>
      if task.status = .created then
        some { s.setTask t { task with status := .running } with
          deviceValues := s.deviceValues.set task.device Dict.empty }
      else none
    | none => none
  | .tick t hadError values injector =>
    match s.tasks[t]? with
    | some task =>
      if task.status = .running then
        let errorCount := nextErrorCount task hadError
        let status := if errorCount ≥ 5 then TaskStatus.settingError else .running
        some { s.setTask t { task with errorCount, status } with
          deviceValues := s.deviceValues.set task.device values
          injector }
      else none
    | none => none
  | .taskCrashes t =>
    match s.tasks[t]? with
    | some task =>
      if task.status = .created ∨ task.status = .running then some (s.finish t task .crashed)
      else none
    | none => none
  | .taskErrorSet t _ =>
    match s.tasks[t]? with
    | some task =>
      if task.status = .settingError then some (s.finish t task .returned) else none
    | none => none
  | .taskCancelled t =>
    match s.tasks[t]? with
    | some task =>
      if task.status = .cancelling then some (s.finish t task .cancelled) else none
    | none => none

end SimulationEngine

end GhostMeter.Simulation
