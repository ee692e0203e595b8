import GhostMeter.Exceptions
import GhostMeter.Lib.Dict
import GhostMeter.Lib.PyFloat

/-! The anomaly injector: the in-memory anomalies of every device and their effect on the
generated values.  Elapsed times are finite floats and stand as their exact values. -/

namespace GhostMeter.Simulation

open GhostMeter.Lib

inductive AnomalyType
  | spike | drift | flatline | outOfRange | dataLoss
  | other (name : String)
  deriving DecidableEq

structure AnomalyState where
  anomalyType : AnomalyType
  params : Params
  /-- `none` until `apply` has seen the anomaly. -/
  activatedAt : Option ℚ := none
  frozenValue : Option PyFloat := none

structure ScheduleEntry where
  registerName : String
  anomalyType : AnomalyType
  anomalyParams : Params
  triggerAfterSeconds : ℤ
  durationSeconds : ℤ

theorem atStart_nonneg : (0 : ℤ) ≤ 0 := le_rfl
theorem tenSeconds_pos : (0 : ℤ) < 10 := by norm_num
theorem tenSeconds_nonneg : (0 : ℤ) ≤ 10 := tenSeconds_pos.le

def ScheduleEntry.start (e : ScheduleEntry) : ℚ := e.triggerAfterSeconds

def ScheduleEntry.stop (e : ScheduleEntry) : ℚ :=
  (e.triggerAfterSeconds + e.durationSeconds : ℤ)

structure AnomalyInjector where
  active : Dict UUID (Dict String AnomalyState) := Dict.empty
  schedules : Dict UUID (List ScheduleEntry) := Dict.empty
  scheduledActive : Dict UUID (Dict String AnomalyState) := Dict.empty

namespace AnomalyInjector

/-- `_active.get(device_id, {})`. -/
def getActive (inj : AnomalyInjector) (device : UUID) : Dict String AnomalyState :=
  (inj.active device).getD Dict.empty

/-- `_scheduled_active.get(device_id, {})`. -/
def getScheduled (inj : AnomalyInjector) (device : UUID) : Dict String AnomalyState :=
  (inj.scheduledActive device).getD Dict.empty

/-- `_schedules.get(device_id, [])`. -/
def getSchedules (inj : AnomalyInjector) (device : UUID) : List ScheduleEntry :=
  (inj.schedules device).getD []

def setActive (inj : AnomalyInjector) (device : UUID) (register : String)
    (st : AnomalyState) : AnomalyInjector :=
  { inj with active := inj.active.set device ((inj.getActive device).set register st) }

def setScheduled (inj : AnomalyInjector) (device : UUID) (register : String)
    (st : AnomalyState) : AnomalyInjector :=
  { inj with
    scheduledActive := inj.scheduledActive.set device ((inj.getScheduled device).set register st) }

def inject (inj : AnomalyInjector) (device : UUID) (register : String)
    (anomalyType : AnomalyType) (params : Params) : AnomalyInjector :=
  inj.setActive device register { anomalyType, params }

def remove (inj : AnomalyInjector) (device : UUID) (register : String) : AnomalyInjector :=
  match inj.active device with
  | some anomalies => { inj with active := inj.active.set device (anomalies.pop register) }
  | none => inj

def clearRealtime (inj : AnomalyInjector) (device : UUID) : AnomalyInjector :=
  { inj with active := inj.active.pop device }

def clearDevice (inj : AnomalyInjector) (device : UUID) : AnomalyInjector where
  active := inj.active.pop device
  schedules := inj.schedules.pop device
  scheduledActive := inj.scheduledActive.pop device

def loadSchedules (inj : AnomalyInjector) (device : UUID) (schedules : List ScheduleEntry) :
    AnomalyInjector :=
  { inj with
    schedules := inj.schedules.set device schedules
    scheduledActive := inj.scheduledActive.pop device }

/-- The first schedule of the register whose window contains the elapsed time. -/
def activeSchedule (schedules : List ScheduleEntry) (register : String) (elapsed : ℚ) :
    Option ScheduleEntry :=
  schedules.find? fun e => e.registerName = register ∧ e.start ≤ elapsed ∧ elapsed < e.stop

def updateScheduledAnomalies (inj : AnomalyInjector) (device : UUID) (register : String)
    (elapsed : ℚ) : AnomalyInjector :=
  let schedules := inj.getSchedules device
  if schedules.isEmpty then inj
  else
    let anomalies := inj.getScheduled device
    let anomalies' :=
      match activeSchedule schedules register elapsed with
      | some e =>
        if (anomalies register).isSome then anomalies
        else anomalies.set register
          { anomalyType := e.anomalyType, params := e.anomalyParams, activatedAt := some elapsed }
      | none => anomalies.pop register
    { inj with scheduledActive := inj.scheduledActive.set device anomalies' }

/-- The effect of one anomaly on a value, with the drawn `random.random()`; a raised
exception leaves the state as it was. -/
def applyAnomaly (st : AnomalyState) (value : PyFloat) (elapsed : ℚ) (random : PyFloat) :
    Except PyError (AnomalyState × PyFloat) :=
  match st.anomalyType with
  | .spike => do
    let prob ← (st.params.getD "probability" (.float (.ofRat (1 / 10)))).toFloat
    let mult ← (st.params.getD "multiplier" (.float (.ofRat 2))).toFloat
    return (st, if random.lt prob then value.mul mult else value)
  | .drift => do
    let driftRate ← (← st.params.getItem "drift_per_second").toFloat
    let maxDrift ← (← st.params.getItem "max_drift").toFloat
    let activatedAt := st.activatedAt.getD elapsed
    let drift := driftRate.mul (.ofRat (elapsed - activatedAt))
    let drift :=
      if maxDrift.abs.lt drift.abs then
        if PyFloat.zero.le driftRate then maxDrift else maxDrift.neg
      else drift
    return ({ st with activatedAt := some activatedAt }, value.add drift)
  | .flatline =>
    match st.params.lookup "value" with
    | some v => do return (st, ← v.toFloat)
    | none =>
      let frozen := st.frozenValue.getD value
      .ok ({ st with frozenValue := some frozen }, frozen)
  | .outOfRange => do return (st, ← (← st.params.getItem "value").toFloat)
  | .dataLoss => .ok (st, .zero)
  | .other _ => .ok (st, value)

def apply (inj : AnomalyInjector) (device : UUID) (register : String) (value : PyFloat)
    (elapsed : ℚ) (random : PyFloat) : AnomalyInjector × Except PyError PyFloat :=
  match inj.getActive device register with
  | some st =>
    match applyAnomaly st value elapsed random with
    | .ok (st', out) => (inj.setActive device register st', .ok out)
    | .error e => (inj, .error e)
  | none =>
    let inj := inj.updateScheduledAnomalies device register elapsed
    match inj.getScheduled device register with
    | some st =>
      match applyAnomaly st value elapsed random with
      | .ok (st', out) => (inj.setScheduled device register st', .ok out)
      | .error e => (inj, .error e)
    | none => (inj, .ok value)

def clearAll (_ : AnomalyInjector) : AnomalyInjector := {}

section Lookup

variable (inj : AnomalyInjector) (device : UUID) (register : String)

@[simp] theorem getActive_setActive (st : AnomalyState) :
    (inj.setActive device register st).getActive device =
      (inj.getActive device).set register st := by
  simp [setActive, getActive]

@[simp] theorem getActive_inject (anomalyType : AnomalyType) (params : Params) :
    (inj.inject device register anomalyType params).getActive device =
      (inj.getActive device).set register { anomalyType, params } :=
  getActive_setActive ..

@[simp] theorem getActive_remove :
    (inj.remove device register).getActive device = (inj.getActive device).pop register := by
  unfold remove getActive
  cases h : inj.active device with
  | some anomalies => simp
  | none =>
    funext r
    by_cases hr : r = register
    · simp [h, hr]
    · simp [h, Dict.pop_of_ne _ hr]

theorem getActive_setActive_of_ne {device' : UUID} (h : device' ≠ device) (st : AnomalyState) :
    (inj.setActive device register st).getActive device' = inj.getActive device' := by
  simp [setActive, getActive, Dict.set_of_ne _ _ h]

theorem getActive_remove_of_ne {device' : UUID} (h : device' ≠ device) :
    (inj.remove device register).getActive device' = inj.getActive device' := by
  unfold remove
  cases inj.active device with
  | some anomalies => simp [getActive, Dict.set_of_ne _ _ h]
  | none => rfl

@[simp] theorem getScheduled_setScheduled (st : AnomalyState) :
    (inj.setScheduled device register st).getScheduled device =
      (inj.getScheduled device).set register st := by
  simp [setScheduled, getScheduled]

theorem getScheduled_setScheduled_of_ne {device' : UUID} (h : device' ≠ device)
    (st : AnomalyState) :
    (inj.setScheduled device register st).getScheduled device' = inj.getScheduled device' := by
  simp [setScheduled, getScheduled, Dict.set_of_ne _ _ h]

@[simp] theorem getScheduled_setActive (st : AnomalyState) (device' : UUID) :
    (inj.setActive device register st).getScheduled device' = inj.getScheduled device' := rfl

@[simp] theorem getActive_setScheduled (st : AnomalyState) (device' : UUID) :
    (inj.setScheduled device register st).getActive device' = inj.getActive device' := rfl

@[simp] theorem getScheduled_remove (device' : UUID) :
    (inj.remove device register).getScheduled device' = inj.getScheduled device' := by
  unfold remove
  split <;> rfl

@[simp] theorem getSchedules_remove (device' : UUID) :
    (inj.remove device register).getSchedules device' = inj.getSchedules device' := by
  unfold remove
  split <;> rfl

@[simp] theorem getSchedules_loadSchedules (schedules : List ScheduleEntry) :
    (inj.loadSchedules device schedules).getSchedules device = schedules := by
  simp [loadSchedules, getSchedules]

@[simp] theorem getScheduled_loadSchedules (schedules : List ScheduleEntry) :
    (inj.loadSchedules device schedules).getScheduled device = Dict.empty := by
  simp [loadSchedules, getScheduled]

@[simp] theorem getActive_updateScheduledAnomalies (elapsed : ℚ) (device' : UUID) :
    (inj.updateScheduledAnomalies device register elapsed).getActive device' =
      inj.getActive device' := by
  unfold updateScheduledAnomalies
  simp only
  split <;> rfl

theorem isSome_getActive_setActive {st st₀ : AnomalyState}
    (h : inj.getActive device register = some st₀) (device' : UUID) (register' : String) :
    ((inj.setActive device register st).getActive device' register').isSome =
      (inj.getActive device' register').isSome := by
  by_cases hd : device' = device
  · subst hd
    rw [getActive_setActive, Dict.set_apply]
    split
    next hr => rw [hr, h]; rfl
    next => rfl
  · rw [getActive_setActive_of_ne _ _ _ hd]

/-- `apply` neither adds a real-time anomaly nor takes one away. -/
theorem isSome_getActive_apply (value : PyFloat) (elapsed : ℚ) (random : PyFloat)
    (device' : UUID) (register' : String) :
    ((inj.apply device register value elapsed random).1.getActive device' register').isSome =
      (inj.getActive device' register').isSome := by
  unfold apply
  split
  next st hst =>
    split
    next => exact isSome_getActive_setActive _ _ _ hst _ _
    next => rfl
  next =>
    simp only
    split
    next => split <;> simp
    next => simp

end Lookup

end AnomalyInjector

end GhostMeter.Simulation
