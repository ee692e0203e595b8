import Mathlib.Data.List.Basic

/-! Background tasks of an event loop: all that there were, known by their places in a list. -/

universe u

namespace GhostMeter.Lib

/-- A background task; it has no place once it is done. -/
structure AsyncTask (α : Type u) where
  place : Option α
  cancelled : Bool := false

variable {α : Type u}

namespace AsyncTask

def done (task : AsyncTask α) : Bool := task.place.isNone

/-- It goes on, and nobody has cancelled it. -/
def live (task : AsyncTask α) : Bool := task.place.isSome && !task.cancelled

def finish (task : AsyncTask α) : AsyncTask α := { task with place := none }

def moveTo (task : AsyncTask α) (place : α) : AsyncTask α := { task with place := some place }

def cancel (task : AsyncTask α) : AsyncTask α := { task with cancelled := true }

variable {task : AsyncTask α} {place : α}

@[simp] theorem live_finish : task.finish.live = false := rfl

@[simp] theorem live_cancel : task.cancel.live = false := Bool.and_false _

@[simp] theorem live_moveTo : (task.moveTo place).live = !task.cancelled := rfl

theorem live_of_place (h : task.place = some place) : task.live = !task.cancelled := by
  rw [live, h]
  rfl

end AsyncTask

variable {tasks : List (AsyncTask α)} {task : AsyncTask α} {t t' : ℕ} {place place' : α}

/-- The task is done, or there is none. -/
def isDone (tasks : List (AsyncTask α)) (t : ℕ) : Bool := (tasks[t]?).all AsyncTask.done

def LiveAt (tasks : List (AsyncTask α)) (t : ℕ) : Prop :=
  ∃ task, tasks[t]? = some task ∧ task.live = true

theorem not_liveAt_of_isDone (h : isDone tasks t = true) : ¬ LiveAt tasks t := by
  rintro ⟨task, htask, hlive⟩
  rw [isDone, htask] at h
  have hdone : task.place.isNone = true := h
  simp only [AsyncTask.live, Bool.and_eq_true] at hlive
  rw [Option.isNone_iff_eq_none] at hdone
  simp [hdone] at hlive

theorem liveAt_append : LiveAt (tasks ++ [task]) t ↔
    LiveAt tasks t ∨ (t = tasks.length ∧ task.live = true) := by
  simp only [LiveAt, List.getElem?_append, List.getElem?_singleton]
  constructor
  · rintro ⟨task', htask', hlive⟩
    split at htask'
    next => exact Or.inl ⟨task', htask', hlive⟩
    next hlength =>
      split at htask'
      next hzero =>
        obtain rfl := Option.some.inj htask'
        exact Or.inr ⟨by omega, hlive⟩
      next => cases htask'
  · rintro (⟨task', htask', hlive⟩ | ⟨rfl, hlive⟩)
    · have hlength := (List.getElem?_eq_some_iff.1 htask').1
      exact ⟨task', by rw [if_pos hlength, htask'], hlive⟩
    · exact ⟨task, by simp, hlive⟩

theorem liveAt_set {task' : AsyncTask α} (h : tasks[t]? = some task') :
    LiveAt (tasks.set t task) t' ↔
      (t' = t ∧ task.live = true) ∨ (t' ≠ t ∧ LiveAt tasks t') := by
  have hlength := (List.getElem?_eq_some_iff.1 h).1
  by_cases ht : t' = t
  · subst ht
    simp [LiveAt, hlength]
  · simp [LiveAt, List.getElem?_set_ne (Ne.symm ht), ht]

/-- Where a task goes on to, nobody has cancelled another one. -/
theorem map_cancelled_set {task' : AsyncTask α} (h : tasks[t]? = some task')
    (hcancelled : task.cancelled = task'.cancelled) :
    (tasks.set t task).map AsyncTask.cancelled = tasks.map AsyncTask.cancelled := by
  refine List.ext_getElem? fun i => ?_
  rw [List.getElem?_map, List.getElem?_map, List.getElem?_set]
  split
  next hi =>
    subst hi
    rw [if_pos (List.getElem?_eq_some_iff.1 h).1, h]
    exact congrArg some hcancelled
  next => rfl

theorem liveAt_modify_cancel :
    LiveAt (tasks.modify t AsyncTask.cancel) t' ↔ t' ≠ t ∧ LiveAt tasks t' := by
  simp only [LiveAt, List.getElem?_modify]
  by_cases ht : t = t'
  · subst ht
    simp
  · simp [ht, Ne.symm ht]

theorem liveAt_set_finish (h : tasks[t]? = some task) :
    LiveAt (tasks.set t task.finish) t' ↔ t' ≠ t ∧ LiveAt tasks t' := by
  simp [liveAt_set h]

/-- A task stays live, or not, where it goes on to. -/
theorem liveAt_set_moveTo (h : tasks[t]? = some task) (hplace : task.place = some place) :
    LiveAt (tasks.set t (task.moveTo place')) t' ↔ LiveAt tasks t' := by
  rw [liveAt_set h]
  by_cases ht : t' = t
  · subst ht
    simp [LiveAt, h, AsyncTask.live_of_place hplace]
  · simp [ht]

end GhostMeter.Lib
