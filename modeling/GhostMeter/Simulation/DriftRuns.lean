import GhostMeter.Lib.Binary
import GhostMeter.Schemas.Anomaly
import GhostMeter.Simulation.EngineCleanup
import GhostMeter.Simulation.ScheduledAnomalies

/-! The offsets of drift anomalies, in runs of the engine and the injector on one clock. -/

namespace GhostMeter.Simulation

open GhostMeter.Lib

namespace AnomalyInjector

/-- What a drift adds to a value after the time since it was activated. -/
def driftOffset (driftRate maxDrift : PyFloat) (timeSince : ℚ) : PyFloat :=
  let drift := driftRate.mul (.ofRat timeSince)
  if maxDrift.abs.lt drift.abs then
    if PyFloat.zero.le driftRate then maxDrift else maxDrift.neg
  else drift

def offset (st : AnomalyState) (elapsed : ℚ) : Except PyError PyFloat := do
  let driftRate ← (← st.params.getItem "drift_per_second").toFloat
  let maxDrift ← (← st.params.getItem "max_drift").toFloat
  return driftOffset driftRate maxDrift (elapsed - st.activatedAt.getD elapsed)

/-- A drift adds its offset. -/
theorem applyAnomaly_drift {st : AnomalyState} (h : st.anomalyType = .drift) (value : PyFloat)
    (elapsed : ℚ) (random : PyFloat) :
    (applyAnomaly st value elapsed random).map Prod.snd =
      (offset st elapsed).map (value.add ·) := by
  simp only [applyAnomaly, h, offset, bind, Except.bind]
  cases st.params.getItem "drift_per_second" with
  | error e => rfl
  | ok rate =>
    simp only []
    cases rate.toFloat with
    | error e => rfl
    | ok rate =>
      simp only []
      cases st.params.getItem "max_drift" with
      | error e => rfl
      | ok maxDrift =>
        simp only []
        cases maxDrift.toFloat <;> rfl

end AnomalyInjector

/-- The offset is zero, or has the sign of the rate. -/
def Direction (rate offset : PyFloat) : Prop :=
  offset.isZero ∨ (PyFloat.zero.lt rate ∧ PyFloat.zero.lt offset) ∨
    (rate.lt .zero ∧ offset.lt .zero)

theorem direction_fin {neg : Bool} {m r : ℚ≥0} (h : r ≠ 0 → m ≠ 0) :
    Direction (.fin neg m) (.fin neg r) := by
  by_cases hr : r = 0
  · exact Or.inl (by simp [PyFloat.isZero, hr])
  · have hm : 0 < m := pos_iff_ne_zero.2 (h hr)
    have hr : 0 < r := pos_iff_ne_zero.2 hr
    cases neg with
    | false =>
      refine Or.inr (Or.inl ⟨?_, ?_⟩)
      · simpa [PyFloat.zero, PyFloat.lt, PyFloat.signed] using hm
      · simpa [PyFloat.zero, PyFloat.lt, PyFloat.signed] using hr
    | true =>
      refine Or.inr (Or.inr ⟨?_, ?_⟩)
      · simpa [PyFloat.zero, PyFloat.lt, PyFloat.signed] using hm
      · simpa [PyFloat.zero, PyFloat.lt, PyFloat.signed] using hr

theorem Direction.of_fin {neg : Bool} {m n : ℚ≥0} {offset : PyFloat} (hn : n = 0 → m = 0)
    (h : Direction (.fin neg m) offset) : Direction (.fin neg n) offset := by
  by_cases hzero : n = 0
  · rwa [hzero, ← hn hzero]
  have hpos : 0 < n := pos_iff_ne_zero.2 hzero
  rcases h with h | ⟨hrate, h⟩ | ⟨hrate, h⟩
  · exact Or.inl h
  · cases neg with
    | false => exact Or.inr (Or.inl ⟨by simpa [PyFloat.zero, PyFloat.lt, PyFloat.signed], h⟩)
    | true => simp [PyFloat.zero, PyFloat.lt, PyFloat.signed] at hrate
  · cases neg with
    | false => simp [PyFloat.zero, PyFloat.lt, PyFloat.signed] at hrate
    | true => exact Or.inr (Or.inr ⟨by simpa [PyFloat.zero, PyFloat.lt, PyFloat.signed], h⟩)

theorem direction_inf {neg : Bool} {m : ℚ≥0} (hm : m ≠ 0) :
    Direction (.fin neg m) (.inf neg) := by
  have hm : 0 < m := pos_iff_ne_zero.2 hm
  cases neg with
  | false =>
    refine Or.inr (Or.inl ⟨?_, rfl⟩)
    simpa [PyFloat.zero, PyFloat.lt, PyFloat.signed] using hm
  | true =>
    refine Or.inr (Or.inr ⟨?_, rfl⟩)
    simpa [PyFloat.zero, PyFloat.lt, PyFloat.signed] using hm

/-- A float from zero on, infinity included. -/
def Unsigned : PyFloat → Prop
  | .nan => False
  | .inf neg | .fin neg _ => neg = false

theorem unsigned_of_zero_lt {x : PyFloat} (h : PyFloat.zero.lt x) : Unsigned x := by
  cases x with
  | nan => cases h
  | inf neg => simpa [PyFloat.lt, PyFloat.zero, Unsigned] using h
  | fin neg m =>
    cases neg with
    | false => rfl
    | true => simp [PyFloat.lt, PyFloat.zero, PyFloat.signed] at h

/-- The raw drift: it has the sign of the rate, and is zero when that is. -/
theorem mul_ofRat_cases {neg : Bool} {m t : ℚ≥0} {time : ℚ} (htime : 0 ≤ time)
    (ht : PyFloat.round64 time.nnabs = some t) :
    (∃ r, (PyFloat.fin neg m).mul (.ofRat time) = .fin neg r ∧ (r ≠ 0 → m ≠ 0)) ∨
      (PyFloat.fin neg m).mul (.ofRat time) = .inf neg ∧ m ≠ 0 := by
  have hof : PyFloat.ofRat time = .fin false t := by
    simp [PyFloat.ofRat, PyFloat.ofMag, ht, htime]
  have hzero : m = 0 → PyFloat.round64 (m * t) = some 0 := by
    rintro rfl
    rw [zero_mul, PyFloat.round64, if_pos rfl]
  rw [hof, PyFloat.mul, PyFloat.ofMag, Bool.xor_false]
  cases hround : PyFloat.round64 (m * t) with
  | none =>
    refine Or.inr ⟨rfl, fun hm => ?_⟩
    cases hround.symm.trans (hzero hm)
  | some r =>
    refine Or.inl ⟨r, rfl, fun hr hm => hr ?_⟩
    exact Option.some.inj (hround.symm.trans (hzero hm))

/-- The cap, with the sign of the rate. -/
theorem cap_eq (neg : Bool) {m q : ℚ≥0} (hm : m ≠ 0) :
    (if PyFloat.zero.le (.fin neg m) then PyFloat.fin false q else (PyFloat.fin false q).neg) =
      .fin neg q := by
  cases neg with
  | false => simp [PyFloat.zero, PyFloat.le, PyFloat.signed]
  | true => simp [PyFloat.zero, PyFloat.le, PyFloat.signed, PyFloat.neg, hm]

/-- A finite rate and a time that is not negative: the cap keeps the sign of the drift. -/
theorem driftOffset_bounded {rate maxDrift : PyFloat} {time : ℚ} {t : ℚ≥0}
    (hrate : rate.isFinite) (hmax : Unsigned maxDrift) (htime : 0 ≤ time)
    (ht : PyFloat.round64 time.nnabs = some t) :
    Direction rate (AnomalyInjector.driftOffset rate maxDrift time) ∧
      (AnomalyInjector.driftOffset rate maxDrift time).abs.le maxDrift := by
  cases rate with
  | nan => cases hrate
  | inf neg => cases hrate
  | fin neg m =>
    have hcapped : ∀ q : ℚ≥0, m ≠ 0 → Direction (.fin neg m) (.fin neg q) ∧
        (PyFloat.fin neg q).abs.le (.fin false q) := by
      intro q hm
      exact ⟨direction_fin fun _ => hm, by simp [PyFloat.abs, PyFloat.le]⟩
    have hraw : (∃ r, (PyFloat.fin neg m).mul (.ofRat time) = .fin neg r ∧ (r ≠ 0 → m ≠ 0)) ∨
        (PyFloat.fin neg m).mul (.ofRat time) = .inf neg ∧ m ≠ 0 := mul_ofRat_cases htime ht
    unfold AnomalyInjector.driftOffset
    cases maxDrift with
    | nan => cases hmax
    | inf s =>
      obtain rfl : s = false := hmax
      rcases hraw with ⟨r, hdrift, hr⟩ | ⟨hdrift, hm⟩
      · rw [hdrift]
        exact ⟨direction_fin hr, rfl⟩
      · rw [hdrift]
        exact ⟨direction_inf hm, rfl⟩
    | fin s q =>
      obtain rfl : s = false := hmax
      rcases hraw with ⟨r, hdrift, hr⟩ | ⟨hdrift, hm⟩
      · rw [hdrift]
        by_cases hlt : q < r
        · have hm : m ≠ 0 := hr (pos_of_gt hlt).ne'
          have hcap : (PyFloat.fin false q).abs.lt (PyFloat.fin neg r).abs = true := by
            simpa [PyFloat.abs, PyFloat.lt, PyFloat.signed] using hlt
          simp only [hcap, if_true, cap_eq neg hm]
          exact hcapped q hm
        · have hcap : (PyFloat.fin false q).abs.lt (PyFloat.fin neg r).abs = false := by
            simpa [PyFloat.abs, PyFloat.lt, PyFloat.signed] using hlt
          simp only [hcap, Bool.false_eq_true, if_false]
          refine ⟨direction_fin hr, ?_⟩
          simpa [PyFloat.abs, PyFloat.le, PyFloat.signed] using hlt
      · rw [hdrift]
        have hcap : (PyFloat.fin false q).abs.lt (PyFloat.inf neg).abs = true := rfl
        simp only [hcap, if_true, cap_eq neg hm]
        exact hcapped q hm

section Numbers

variable {j : Json} {x y : PyFloat}

/-- The float of a JSON number is the number itself, but for an integer that is rounded. -/
theorem number_cases (hx : j.number = .ok x) (hy : j.toFloat = .ok y) :
    y = x ∨ ∃ (n : ℤ) (m : ℚ≥0), x = .exact n ∧ PyFloat.round64 n.natAbs = some m ∧
      y = .fin (n < 0) m := by
  cases j with
  | null | str _ | arr _ | obj _ => cases hx
  | float z =>
    cases hx
    cases hy
    exact Or.inl rfl
  | bool b =>
    cases hx
    cases hy
    cases b <;> simp [PyFloat.exact, PyFloat.zero]
  | int n =>
    cases hx
    simp only [Json.toFloat, PyFloat.ofInt] at hy
    split at hy
    next m hround =>
      cases hy
      exact Or.inr ⟨n, m, rfl, hround, rfl⟩
    next => cases hy

/-- The float of a JSON number has no other sign. -/
theorem direction_number (hx : j.number = .ok x) (hy : j.toFloat = .ok y) {offset : PyFloat}
    (h : Direction y offset) : Direction x offset := by
  rcases number_cases hx hy with rfl | ⟨n, m, rfl, hround, rfl⟩
  · exact h
  · refine h.of_fin fun hn => ?_
    rw [hn, PyFloat.round64, if_pos rfl] at hround
    exact (Option.some.inj hround).symm

theorem isFinite_number (hx : j.number = .ok x) (hy : j.toFloat = .ok y) (h : x.isFinite) :
    y.isFinite := by
  rcases number_cases hx hy with rfl | ⟨n, m, rfl, -, rfl⟩
  · exact h
  · rfl

theorem unsigned_number (hx : j.number = .ok x) (hy : j.toFloat = .ok y) (h : PyFloat.zero.lt x) :
    Unsigned y := by
  rcases number_cases hx hy with rfl | ⟨n, m, rfl, -, rfl⟩
  · exact unsigned_of_zero_lt h
  · have hn := unsigned_of_zero_lt h
    exact hn

end Numbers

namespace AnomalyInjector

/-- A drift anomaly of the device, real-time or scheduled, has been activated at `a`. -/
def Activated (inj : AnomalyInjector) (device : UUID) (a : ℚ) : Prop :=
  ∃ register st, (inj.getActive device register = some st ∨
    inj.getScheduled device register = some st) ∧
    st.anomalyType = .drift ∧ st.activatedAt = some a

variable {inj inj' : AnomalyInjector} {device d : UUID} {register : String} {a elapsed : ℚ}

theorem Activated.mono (h : inj'.Activated d a)
    (hactive : ∀ r st, inj'.getActive d r = some st → st.activatedAt = some a →
      inj.getActive d r = some st)
    (hscheduled : ∀ r st, inj'.getScheduled d r = some st → inj.getScheduled d r = some st) :
    inj.Activated d a := by
  obtain ⟨register, st, hst, htype, ha⟩ := h
  exact ⟨register, st, hst.imp (fun hst => hactive _ _ hst ha) (hscheduled _ _), htype, ha⟩

/-- A device that has been popped has nothing any more. -/
theorem pop_getD_some {V : Type} {anomalies : Dict UUID (Dict String V)} {r : String} {v : V}
    (h : ((anomalies.pop device) d).getD Dict.empty r = some v) :
    (anomalies d).getD Dict.empty r = some v := by
  rw [Dict.pop_apply] at h
  split at h
  · cases h
  · exact h

theorem activated_clearRealtime (h : (inj.clearRealtime device).Activated d a) :
    inj.Activated d a :=
  h.mono (fun _ _ h _ => pop_getD_some h) fun _ _ => id

theorem activated_remove (h : (inj.remove device register).Activated d a) : inj.Activated d a := by
  refine h.mono (fun r st hst _ => ?_) fun r st hst => ?_
  · by_cases hd : d = device
    · subst hd
      rw [getActive_remove, Dict.pop_apply] at hst
      split at hst
      · cases hst
      · exact hst
    · rwa [getActive_remove_of_ne _ _ _ hd] at hst
  · rwa [getScheduled_remove] at hst

/-- A new anomaly is not activated. -/
theorem activated_inject {anomalyType : AnomalyType} {params : Params}
    (h : (inj.inject device register anomalyType params).Activated d a) : inj.Activated d a := by
  refine h.mono (fun r st hst ha => ?_) fun _ _ => id
  by_cases hd : d = device
  · subst hd
    rw [getActive_inject, Dict.set_apply] at hst
    split at hst
    · cases hst
      cases ha
    · exact hst
  · rwa [inject, getActive_setActive_of_ne _ _ _ hd] at hst

theorem activated_injectorStep {cleared : Option UUID}
    (hstep : SimulationEngine.InjectorStep inj cleared inj') (h : inj'.Activated d a) :
    inj.Activated d a := by
  cases hstep with
  | keeps => exact h
  | clears device =>
    exact h.mono (fun _ _ h _ => pop_getD_some h) fun _ _ => pop_getD_some
  | loads device schedules => exact h.mono (fun _ _ h _ => h) fun _ _ => pop_getD_some

/-- The anomaly that `apply` uses was activated before, or by a schedule that begins now. -/
theorem activatedAt_used {st : AnomalyState} (h : inj.used device register elapsed = some st)
    (htype : st.anomalyType = .drift) (ha : st.activatedAt = some a) :
    inj.Activated device a ∨ a = elapsed := by
  rcases used_cases h with hactive | ⟨-, hst | ⟨e, -, -, rfl⟩⟩
  · exact Or.inl ⟨register, st, Or.inl hactive, htype, ha⟩
  · exact Or.inl ⟨register, st, Or.inr hst, htype, ha⟩
  · exact Or.inr (Option.some.inj ha).symm

/-- What the anomaly that `apply` uses becomes. -/
theorem activatedAt_applied {value random : PyFloat} {st st' : AnomalyState}
    (hused : inj.used device register elapsed = some st)
    (hst' : (match applyAnomaly st value elapsed random with
      | .ok (st', _) => st'
      | .error _ => st) = st')
    (htype : st'.anomalyType = .drift) (ha : st'.activatedAt = some a) :
    inj.Activated device a ∨ a = elapsed := by
  split at hst'
  next out happly =>
    obtain ⟨htype', -, hat, -⟩ := applyAnomaly_state happly
    subst hst'
    rw [htype'] at htype
    rcases hat with hat | ⟨-, hat⟩
    · exact activatedAt_used hused htype (hat ▸ ha)
    · exact Or.inr (Option.some.inj (ha.symm.trans hat))
  next =>
    subst hst'
    exact activatedAt_used hused htype ha

/-- What `apply` activates, it activates now. -/
theorem activated_apply {value random : PyFloat}
    (h : (inj.apply device register value elapsed random).1.Activated d a) :
    inj.Activated d a ∨ d = device ∧ a = elapsed := by
  obtain ⟨r, st', hst', htype, ha⟩ := h
  by_cases hsame : d = device ∧ r = register
  · obtain ⟨rfl, rfl⟩ := hsame
    refine Or.imp_right (And.intro rfl) ?_
    rcases hst' with hst' | hst'
    · rw [getActive_apply, if_pos ⟨rfl, rfl⟩] at hst'
      obtain ⟨st, hst, hst'⟩ := Option.map_eq_some_iff.1 hst'
      have hused : inj.used d r elapsed = some st := by simp [used, hst]
      exact activatedAt_applied hused hst' htype ha
    · cases hactive : inj.getActive d r with
      | some st =>
        rw [getScheduled_apply_of_active _ _ _ _ _ _ (by simp [hactive])] at hst'
        exact Or.inl ⟨r, st', Or.inr hst', htype, ha⟩
      | none =>
        rw [getScheduled_apply _ _ _ _ _ _ hactive] at hst'
        obtain ⟨st, hst, hst'⟩ := Option.map_eq_some_iff.1 hst'
        exact activatedAt_applied hst hst' htype ha
  · refine Or.inl ⟨r, st', hst'.imp (fun hst' => ?_) fun hst' => ?_, htype, ha⟩
    · rwa [getActive_apply, if_neg hsame] at hst'
    · rwa [getScheduled_apply_of_ne _ _ _ _ _ _ fun h => hsame ⟨h.1.symm, h.2.symm⟩] at hst'

end AnomalyInjector

namespace SimulationEngine

variable {s s' : SimulationEngine} {e : EngineEvent} {t : TaskRef} {device : UUID}

/-- The task is in the loop of `_run_device`. -/
def Running : SimulationEngine → TaskRef → UUID → Prop := TaskIn (· = .running)

theorem StatusStep.was_running {status status' : TaskStatus}
    (h : StatusStep e status status') (hbegins : ∀ t, e ≠ .taskBegins t)
    (hrunning : status' = .running) : status = .running := by
  cases h with
  | begins t => exact absurd rfl (hbegins t)
  | ticks => rfl
  | _ => cases hrunning

/-- Only by its own first step does a task come into its loop. -/
theorem running_step (hbegins : ∀ t, e ≠ .taskBegins t) (hs : s.step e = some s')
    (h : s'.Running t device) : s.Running t device := by
  rcases (tasks_step hs).taskIn h with h | hcreated | ⟨task, status, htask, hd, hstatus, hrunning⟩
  · exact h
  · cases hcreated
  · exact ⟨task, htask, hd, hstatus.was_running hbegins hrunning⟩

theorem running_taskBegins {t' : TaskRef} (hs : s.step (.taskBegins t') = some s') :
    ∃ task, s.tasks[t']? = some task ∧ s'.injector = s.injector ∧
      ∀ t device, s'.Running t device →
        t = t' ∧ task.device = device ∨ t ≠ t' ∧ s.Running t device := by
  obtain ⟨task, htask, -, rfl⟩ := step_taskBegins hs
  refine ⟨task, htask, rfl, fun t device h => ?_⟩
  have hset : (s.setTask t' { task with status := .running }).Running t device := h
  exact (taskIn_setTask hset).imp_left fun h => ⟨h.1, h.2.1⟩

end SimulationEngine

/-- The first moment that `datetime` cannot tell: the year 10000, from the year 1 on. -/
def datetimeEnd : ℚ := 315537897600

/-- `timedelta.total_seconds()`. -/
def totalSeconds (d : ℚ) : ℚ := ((PyFloat.ofRat d).toRat).getD 0

theorem exists_round64 {d : ℚ} (h : 0 ≤ d) (hd : d ≤ datetimeEnd) :
    ∃ r, PyFloat.round64 d.nnabs = some r ∧ totalSeconds d = r := by
  have hoverflow : datetimeEnd.nnabs < binary64.overflow := by decide +kernel
  have hle : d.nnabs ≤ datetimeEnd.nnabs := by
    rw [← NNRat.coe_le_coe, Rat.coe_nnabs, Rat.coe_nnabs, abs_of_nonneg h]
    exact hd.trans (le_abs_self _)
  obtain ⟨r, hr⟩ : ∃ r, PyFloat.round64 d.nnabs = some r := by
    rw [← Option.ne_none_iff_exists', ← BinaryFormat.round_binary64, Ne,
      BinaryFormat.round_eq_none_iff, not_le]
    exact hle.trans_lt hoverflow
  refine ⟨r, hr, ?_⟩
  simp [totalSeconds, PyFloat.ofRat, PyFloat.ofMag, hr, PyFloat.toRat, PyFloat.signed, h]

theorem totalSeconds_mono {d d' : ℚ} (h : 0 ≤ d) (hle : d ≤ d') (hd : d' ≤ datetimeEnd) :
    totalSeconds d ≤ totalSeconds d' := by
  obtain ⟨r, hr, hsec⟩ := exists_round64 h (hle.trans hd)
  obtain ⟨r', hr', hsec'⟩ := exists_round64 (h.trans hle) hd
  rw [hsec, hsec', NNRat.coe_le_coe]
  rw [← BinaryFormat.round_binary64] at hr hr'
  refine BinaryFormat.round_mono ?_ hr hr'
  rwa [← NNRat.coe_le_coe, Rat.coe_nnabs, Rat.coe_nnabs, abs_of_nonneg h,
    abs_of_nonneg (h.trans hle)]

theorem totalSeconds_nonneg {d : ℚ} (h : 0 ≤ d) (hd : d ≤ datetimeEnd) : 0 ≤ totalSeconds d := by
  obtain ⟨r, -, hsec⟩ := exists_round64 h hd
  exact hsec ▸ r.2

theorem totalSeconds_le {d : ℚ} (h : 0 ≤ d) (hd : d ≤ datetimeEnd) :
    totalSeconds d ≤ datetimeEnd := by
  have hend : totalSeconds datetimeEnd = datetimeEnd := by decide +kernel
  exact (totalSeconds_mono h hd le_rfl).trans_eq hend

/-- What a `_run_device` task keeps between two awaits. -/
structure RunLocals where
  startTime : ℚ
  /-- `context.elapsed_seconds`, in a tick. -/
  elapsed : Option ℚ := none

/-- The engine and the injector on the clock of the host, in seconds. -/
structure DriftRun where
  engine : SimulationEngine := {}
  now : ℚ := 0
  locals : Dict TaskRef RunLocals := Dict.empty

namespace DriftRun

inductive Event
  /-- Any other step of the engine. -/
  | engine (e : EngineEvent)
  | clock (now : ℚ)
  | taskBegins (t : TaskRef)
  | tickBegins (t : TaskRef)
  /-- The tick applies the register's anomaly to the value that it has generated. -/
  | apply (t : TaskRef) (register : String) (value random : PyFloat)
  | tickEnds (t : TaskRef) (hadError : Bool) (values : Dict String PyFloat)
  | inject (device : UUID) (register : String) (anomalyType : AnomalyType) (params : Params)
  | remove (device : UUID) (register : String)
  | clearRealtime (device : UUID)

/-- The device of a task that is in its loop, with the task's locals. -/
def running (s : DriftRun) (t : TaskRef) : Option (UUID × RunLocals) :=
  match s.engine.tasks[t]?, s.locals t with
  | some task, some locals => if task.status = .running then some (task.device, locals) else none
  | _, _ => none

/-- The device of a task that is in a tick, with the elapsed time of that tick. -/
def ticking (s : DriftRun) (t : TaskRef) : Option (UUID × ℚ) :=
  (s.running t).bind fun p => p.2.elapsed.map fun elapsed => (p.1, elapsed)

def setInjector (s : DriftRun) (injector : AnomalyInjector) : DriftRun :=
  { s with engine := { s.engine with injector } }

def step (s : DriftRun) : Event → Option DriftRun
  | .engine (.taskBegins _) => none
  | .engine (.tick _ _ _ _) => none
  | .engine e => (s.engine.step e).map fun engine => { s with engine }
  | .clock now => if s.now ≤ now ∧ now < datetimeEnd then some { s with now } else none
  | .taskBegins t => (s.engine.step (.taskBegins t)).map fun engine =>
    { s with engine, locals := s.locals.set t { startTime := s.now } }
  | .tickBegins t => (s.running t).bind fun p =>
    if p.2.elapsed.isSome then none
    else
      let elapsed := totalSeconds (s.now - p.2.startTime)
      some { s with locals := s.locals.set t { p.2 with elapsed := some elapsed } }
  | .apply t register value random => (s.ticking t).map fun p =>
    s.setInjector (s.engine.injector.apply p.1 register value p.2 random).1
  | .tickEnds t hadError values => (s.ticking t).bind fun _ =>
    (s.engine.step (.tick t hadError values s.engine.injector)).map fun engine =>
      { s with engine, locals := s.locals.modify t fun l => { l with elapsed := none } }
  | .inject device register anomalyType params =>
    some (s.setInjector (s.engine.injector.inject device register anomalyType params))
  | .remove device register => some (s.setInjector (s.engine.injector.remove device register))
  | .clearRealtime device => some (s.setInjector (s.engine.injector.clearRealtime device))

/-- A drift anomaly that the schema accepts, with its numbers. -/
structure Accepted (st : AnomalyState) (rate maxDrift : PyFloat) : Prop where
  drift : st.anomalyType = .drift
  valid : Schemas.validateParams .drift st.params = .ok ()
  driftPerSecond : (st.params.getItem "drift_per_second" >>= Json.number) = .ok rate
  cap : (st.params.getItem "max_drift" >>= Json.number) = .ok maxDrift
  pos : PyFloat.zero.lt maxDrift

/-- The step applies this anomaly to a value, this long after the task began. -/
def Applies (s : DriftRun) (e : Event) (device : UUID) (register : String) (value : PyFloat)
    (elapsed : ℚ) (random : PyFloat) (st : AnomalyState) : Prop :=
  ∃ t, e = .apply t register value random ∧ s.ticking t = some (device, elapsed) ∧
    s.engine.injector.used device register elapsed = some st

/-- What `apply` adds for a drift is bounded, and does not go against the drift's direction. -/
def DriftBounded (s : DriftRun) (e : Event) : Prop :=
  ∀ device register value elapsed random st, s.Applies e device register value elapsed random st →
    ∀ rate maxDrift, Accepted st rate maxDrift →
      (s.engine.injector.apply device register value elapsed random).2 =
        (AnomalyInjector.offset st elapsed).map (value.add ·) ∧
      ∀ offset, AnomalyInjector.offset st elapsed = .ok offset →
        Direction rate offset ∧ offset.abs.le maxDrift

/-- The rate is finite, and the cap is no integer that `float` rounds up. -/
def Exact (st : AnomalyState) (rate maxDrift : PyFloat) : Prop :=
  rate.isFinite ∧
    ∀ cap, (st.params.getItem "max_drift" >>= Json.toFloat) = .ok cap → cap.le maxDrift

/-- A task begins while it is the device's only one, and no drift of the device has been
activated before. -/
def BeginsFresh (s : DriftRun) (e : Event) : Prop :=
  ∀ t task, e = .taskBegins t → s.engine.tasks[t]? = some task →
    (∀ t', ¬ s.engine.Running t' task.device) ∧
    ∀ a, ¬ s.engine.injector.Activated task.device a

def AppliesExact (s : DriftRun) (e : Event) : Prop :=
  ∀ device register value elapsed random st, s.Applies e device register value elapsed random st →
    ∀ rate maxDrift, Accepted st rate maxDrift → Exact st rate maxDrift

section Invariant

variable {s s' : DriftRun} {e : Event} {t : TaskRef} {device : UUID} {locals : RunLocals}

theorem running_eq_some_iff : s.running t = some (device, locals) ↔
    s.engine.Running t device ∧ s.locals t = some locals := by
  unfold running
  constructor
  · intro h
    split at h
    next task locals' htask hlocals =>
      split at h
      next hstatus =>
        cases h
        exact ⟨⟨task, htask, rfl, hstatus⟩, hlocals⟩
      next => cases h
    next => cases h
  · rintro ⟨⟨task, htask, rfl, hstatus⟩, hlocals⟩
    rw [htask, hlocals]
    exact if_pos hstatus

theorem ticking_eq_some_iff {elapsed : ℚ} : s.ticking t = some (device, elapsed) ↔
    ∃ locals, s.engine.Running t device ∧ s.locals t = some locals ∧
      locals.elapsed = some elapsed := by
  constructor
  · intro h
    obtain ⟨⟨d, locals⟩, hrunning, h⟩ := Option.bind_eq_some_iff.1 h
    obtain ⟨e, he, h⟩ := Option.map_eq_some_iff.1 h
    cases h
    obtain ⟨hrunning, hlocals⟩ := running_eq_some_iff.1 hrunning
    exact ⟨locals, hrunning, hlocals, he⟩
  · rintro ⟨locals, hrunning, hlocals, he⟩
    simp [ticking, running_eq_some_iff.2 ⟨hrunning, hlocals⟩, he]

/-- The time since the task began. -/
def since (s : DriftRun) (locals : RunLocals) : ℚ := totalSeconds (s.now - locals.startTime)

/-- The device's drifts were activated after the task began, and before its tick. -/
structure Timed (s : DriftRun) (device : UUID) (locals : RunLocals) : Prop where
  start : 0 ≤ locals.startTime ∧ locals.startTime ≤ s.now
  elapsed : ∀ e, locals.elapsed = some e → 0 ≤ e ∧ e ≤ s.since locals
  activated : ∀ a, s.engine.injector.Activated device a →
    0 ≤ a ∧ a ≤ s.since locals ∧ ∀ e, locals.elapsed = some e → a ≤ e

structure Inv (s : DriftRun) : Prop where
  clock : 0 ≤ s.now ∧ s.now ≤ datetimeEnd
  one : ∀ t t' device, s.engine.Running t device → s.engine.Running t' device → t = t'
  timed : ∀ t device, s.engine.Running t device →
    ∃ locals, s.locals t = some locals ∧ s.Timed device locals

theorem Timed.congr (h : s.Timed device locals) (hnow : s'.now = s.now)
    (hactivated : ∀ a, s'.engine.injector.Activated device a →
      s.engine.injector.Activated device a) : s'.Timed device locals where
  start := hnow ▸ h.start
  elapsed := by simpa only [since, hnow] using h.elapsed
  activated a ha := by simpa only [since, hnow] using h.activated a (hactivated a ha)

/-- A step that neither begins a task nor activates a drift. -/
theorem Inv.engine (h : Inv s) {engine : SimulationEngine}
    (hrunning : ∀ t d, engine.Running t d → s.engine.Running t d)
    (hactivated : ∀ d a, engine.injector.Activated d a → s.engine.injector.Activated d a) :
    Inv { s with engine } where
  clock := h.clock
  one t t' d ht ht' := h.one t t' d (hrunning t d ht) (hrunning t' d ht')
  timed t d ht := by
    obtain ⟨locals, hlocals, htimed⟩ := h.timed t d (hrunning t d ht)
    exact ⟨locals, hlocals, htimed.congr rfl (hactivated d)⟩

theorem Inv.setInjector (h : Inv s) {injector : AnomalyInjector}
    (hactivated : ∀ d a, injector.Activated d a → s.engine.injector.Activated d a) :
    Inv (s.setInjector injector) :=
  h.engine (fun _ _ h => h) hactivated

theorem Inv.setClock (h : Inv s) {now : ℚ} (hle : s.now ≤ now) (hend : now < datetimeEnd) :
    Inv { s with now } where
  clock := ⟨h.clock.1.trans hle, hend.le⟩
  one := h.one
  timed t d ht := by
    obtain ⟨locals, hlocals, htimed⟩ := h.timed t d ht
    obtain ⟨hstart, hnow⟩ := htimed.start
    have hsince : s.since locals ≤ DriftRun.since { s with now } locals :=
      totalSeconds_mono (by linarith) (by linarith) (by linarith)
    refine ⟨locals, hlocals, ⟨hstart, hnow.trans hle⟩, fun e he => ?_, fun a ha => ?_⟩
    · exact (htimed.elapsed e he).imp_right hsince.trans'
    · obtain ⟨hpos, hle, hrest⟩ := htimed.activated a ha
      exact ⟨hpos, hle.trans hsince, hrest⟩

theorem Inv.taskBegins (h : Inv s) (hfresh : s.BeginsFresh (.taskBegins t))
    {engine : SimulationEngine} (hs : s.engine.step (.taskBegins t) = some engine) :
    Inv { s with engine, locals := s.locals.set t { startTime := s.now } } := by
  obtain ⟨task, htask, hinj, hrunning⟩ := SimulationEngine.running_taskBegins hs
  obtain ⟨halone, hnone⟩ := hfresh t task rfl htask
  refine ⟨h.clock, fun t₁ t₂ d h₁ h₂ => ?_, fun t₁ d h₁ => ?_⟩
  · rcases hrunning t₁ d h₁ with ⟨rfl, rfl⟩ | ⟨-, hold₁⟩
    · rcases hrunning t₂ _ h₂ with ⟨rfl, -⟩ | ⟨-, hold₂⟩
      · rfl
      · exact absurd hold₂ (halone t₂)
    · rcases hrunning t₂ d h₂ with ⟨rfl, rfl⟩ | ⟨-, hold₂⟩
      · exact absurd hold₁ (halone t₁)
      · exact h.one t₁ t₂ d hold₁ hold₂
  · rcases hrunning t₁ d h₁ with ⟨rfl, rfl⟩ | ⟨hne, hold₁⟩
    · refine ⟨{ startTime := s.now }, Dict.set_self .., ⟨h.clock.1, le_rfl⟩, nofun, fun a ha => ?_⟩
      rw [hinj] at ha
      exact absurd ha (hnone a)
    · obtain ⟨locals, hlocals, htimed⟩ := h.timed t₁ d hold₁
      exact ⟨locals, (Dict.set_of_ne _ _ hne).trans hlocals,
        htimed.congr rfl fun a ha => by rwa [hinj] at ha⟩

theorem Inv.tickBegins (h : Inv s) (hrunning : s.running t = some (device, locals)) :
    Inv { s with locals := s.locals.set t { locals with elapsed := some (s.since locals) } } := by
  obtain ⟨ht, hlocals⟩ := running_eq_some_iff.1 hrunning
  refine ⟨h.clock, h.one, fun t₁ d h₁ => ?_⟩
  obtain ⟨locals₁, hlocals₁, htimed⟩ := h.timed t₁ d h₁
  by_cases hne : t₁ = t
  · subst hne
    obtain rfl := Option.some.inj (hlocals₁.symm.trans hlocals)
    obtain ⟨hstart, hnow⟩ := htimed.start
    refine ⟨_, Dict.set_self .., htimed.start, fun e he => ?_, fun a ha => ?_⟩
    · obtain rfl := Option.some.inj he
      exact ⟨totalSeconds_nonneg (by linarith) (by linarith [h.clock.2]), le_rfl⟩
    · obtain ⟨hpos, hle, -⟩ := htimed.activated a ha
      refine ⟨hpos, hle, fun e he => ?_⟩
      exact hle.trans_eq (Option.some.inj he)
  · exact ⟨locals₁, (Dict.set_of_ne _ _ hne).trans hlocals₁, htimed.congr rfl fun _ => id⟩

theorem Inv.apply (h : Inv s) {elapsed : ℚ} (htick : s.ticking t = some (device, elapsed))
    (register : String) (value random : PyFloat) :
    Inv (s.setInjector (s.engine.injector.apply device register value elapsed random).1) := by
  obtain ⟨locals, ht, hlocals, he⟩ := ticking_eq_some_iff.1 htick
  refine ⟨h.clock, h.one, fun t₁ d h₁ => ?_⟩
  obtain ⟨locals₁, hlocals₁, htimed⟩ := h.timed t₁ d h₁
  refine ⟨locals₁, hlocals₁, htimed.start, htimed.elapsed, fun a ha => ?_⟩
  rcases AnomalyInjector.activated_apply ha with ha | ⟨rfl, rfl⟩
  · exact htimed.activated a ha
  · -- the task that applies is the only one of its device
    obtain rfl := h.one t₁ t d h₁ ht
    obtain rfl := Option.some.inj (hlocals₁.symm.trans hlocals)
    obtain ⟨hpos, hle⟩ := htimed.elapsed a he
    exact ⟨hpos, hle, fun e he' => (Option.some.inj (he.symm.trans he')).le⟩

theorem Inv.tickEnds (h : Inv s) {hadError : Bool} {values : Dict String PyFloat}
    {engine : SimulationEngine}
    (hs : s.engine.step (.tick t hadError values s.engine.injector) = some engine) :
    Inv { s with engine, locals := s.locals.modify t fun l => { l with elapsed := none } } := by
  have hinv : Inv { s with engine } :=
    h.engine (fun _ _ => SimulationEngine.running_step (by simp) hs)
      fun _ _ ha => by rwa [SimulationEngine.injector_tick hs] at ha
  refine ⟨hinv.clock, hinv.one, fun t₁ d h₁ => ?_⟩
  obtain ⟨locals, hlocals, htimed⟩ := hinv.timed t₁ d h₁
  by_cases hne : t₁ = t
  · refine ⟨{ locals with elapsed := none }, ?_, htimed.start, nofun, fun a ha => ?_⟩
    · refine (Dict.modify_apply ..).trans ?_
      rw [if_pos hne, ← hne]
      exact congrArg (Option.map _) hlocals
    · obtain ⟨hpos, hle, -⟩ := htimed.activated a ha
      exact ⟨hpos, hle, nofun⟩
  · exact ⟨locals, (Dict.modify_apply ..).trans ((if_neg hne).trans hlocals),
      htimed.congr rfl fun _ => id⟩

theorem Inv.step (h : Inv s) (hfresh : s.BeginsFresh e) (hs : step s e = some s') : Inv s' := by
  cases e with
  | engine e =>
    have hcases : (∀ t, e ≠ .taskBegins t) ∧
        (∀ t hadError values injector, e ≠ .tick t hadError values injector) ∧
        ∃ engine, s.engine.step e = some engine ∧ s' = { s with engine } := by
      cases e
      case taskBegins => cases hs
      case tick => cases hs
      all_goals
        simp only [DriftRun.step] at hs
        obtain ⟨engine, hengine, rfl⟩ := Option.map_eq_some_iff.1 hs
        exact ⟨by simp, by simp, engine, hengine, rfl⟩
    obtain ⟨hbegins, htick, engine, hengine, rfl⟩ := hcases
    have hinjector := SimulationEngine.injector_step htick hengine
    exact h.engine (fun _ _ => SimulationEngine.running_step hbegins hengine)
      fun _ _ => AnomalyInjector.activated_injectorStep hinjector
  | clock now =>
    simp only [step] at hs
    split at hs
    next hnow =>
      cases hs
      exact h.setClock hnow.1 hnow.2
    next => cases hs
  | taskBegins t =>
    obtain ⟨engine, hengine, rfl⟩ := Option.map_eq_some_iff.1 hs
    exact h.taskBegins hfresh hengine
  | tickBegins t =>
    obtain ⟨⟨device, locals⟩, hrunning, hs⟩ := Option.bind_eq_some_iff.1 hs
    split at hs
    next => cases hs
    next =>
      cases hs
      exact h.tickBegins hrunning
  | apply t register value random =>
    obtain ⟨⟨device, elapsed⟩, htick, rfl⟩ := Option.map_eq_some_iff.1 hs
    exact h.apply htick register value random
  | tickEnds t hadError values =>
    obtain ⟨-, -, hs⟩ := Option.bind_eq_some_iff.1 hs
    obtain ⟨engine, hengine, rfl⟩ := Option.map_eq_some_iff.1 hs
    exact h.tickEnds hengine
  | inject device register anomalyType params =>
    cases hs
    exact h.setInjector fun _ _ => AnomalyInjector.activated_inject
  | remove device register =>
    cases hs
    exact h.setInjector fun _ _ => AnomalyInjector.activated_remove
  | clearRealtime device =>
    cases hs
    exact h.setInjector fun _ _ => AnomalyInjector.activated_clearRealtime

theorem inv_init : Inv {} where
  clock := ⟨le_rfl, by decide +kernel⟩
  one _ _ _ := by rintro ⟨_, h, _⟩; cases h
  timed _ _ := by rintro ⟨_, h, _⟩; cases h

/-- A drift that is applied was activated earlier in the run of its task. -/
theorem Inv.driftBounded (h : Inv s) (hexact : s.AppliesExact e) : s.DriftBounded e := by
  intro device register value elapsed random st happlies rate maxDrift haccepted
  obtain ⟨hfinite, hcap⟩ := hexact _ _ _ _ _ _ happlies _ _ haccepted
  obtain ⟨t, rfl, htick, hused⟩ := happlies
  refine ⟨?_, fun offset hoffset => ?_⟩
  · rw [AnomalyInjector.apply_snd, hused]
    exact AnomalyInjector.applyAnomaly_drift haccepted.drift value elapsed random
  obtain ⟨locals, ht, hlocals, he⟩ := ticking_eq_some_iff.1 htick
  obtain ⟨locals', hlocals', htimed⟩ := h.timed t device ht
  obtain rfl := Option.some.inj (hlocals'.symm.trans hlocals)
  obtain ⟨hpos, hsince⟩ := htimed.elapsed elapsed he
  -- the time since the activation
  have hactivated : 0 ≤ st.activatedAt.getD elapsed ∧ st.activatedAt.getD elapsed ≤ elapsed := by
    cases ha : st.activatedAt with
    | none => exact ⟨hpos, le_rfl⟩
    | some a =>
      rcases AnomalyInjector.activatedAt_used hused haccepted.drift ha with ha | rfl
      · obtain ⟨hpos, -, hle⟩ := htimed.activated a ha
        exact ⟨hpos, hle elapsed he⟩
      · exact ⟨hpos, le_rfl⟩
  obtain ⟨hstart, hnow⟩ := htimed.start
  have hend : s.since locals' ≤ datetimeEnd :=
    totalSeconds_le (by linarith) (by linarith [h.clock.2])
  obtain ⟨r, hround, -⟩ := exists_round64 (sub_nonneg.2 hactivated.2) (by linarith)
  -- the numbers of the params, and their floats
  obtain ⟨rateJson, hrateItem, hrate⟩ := bind_ok_iff.1 haccepted.driftPerSecond
  obtain ⟨capJson, hcapItem, hmax⟩ := bind_ok_iff.1 haccepted.cap
  simp only [AnomalyInjector.offset, hrateItem, hcapItem, bind_ok_iff] at hoffset
  obtain ⟨_, ⟨⟩, rateFloat, hrateFloat, _, ⟨⟩, capFloat, hcapFloat, hoffset⟩ := hoffset
  cases hoffset
  obtain ⟨hdirection, hbound⟩ := driftOffset_bounded (isFinite_number hrate hrateFloat hfinite)
    (unsigned_number hmax hcapFloat haccepted.pos) (sub_nonneg.2 hactivated.2) hround
  refine ⟨direction_number hrate hrateFloat hdirection, PyFloat.le_trans hbound (hcap _ ?_)⟩
  rw [hcapItem]
  exact hcapFloat

end Invariant

/-- In a run where every task begins fresh and the numbers are exact, the drifts are bounded. -/
theorem driftBounded_of_fresh (events : List Event)
    (h : EachStep step (fun s e _ => s.BeginsFresh e ∧ s.AppliesExact e) {} events) :
    EachStep step (fun s e _ => s.DriftBounded e) {} events :=
  EachStep.guarded (fun _ _ _ hinv hs hcond =>
    ⟨hinv.step hcond.1 hs, hinv.driftBounded hcond.2⟩) inv_init h

theorem condition_of_other {s : DriftRun} {e : Event} (hbegins : ∀ t, e ≠ .taskBegins t)
    (happly : ∀ t register value random, e ≠ .apply t register value random) :
    s.BeginsFresh e ∧ s.AppliesExact e := by
  refine ⟨fun t _ he => absurd he (hbegins t), fun _ register value _ random _ h => ?_⟩
  obtain ⟨t, he, -⟩ := h
  exact absurd he (happly t register value random)

/-- A drift that is activated, and applied again when it has reached its cap. -/
def drifting : List Event := [
  .engine (.startDevice 1), .engine (.dataLoaded 0 [SimulationEngine.someConfig]),
  .engine (.schedulesLoaded 0 []), .taskBegins 0,
  .inject 1 "voltage" .drift
    [("drift_per_second", .float (.fin true 1)), ("max_drift", .float (.fin false 50))],
  .clock 10, .tickBegins 0, .apply 0 "voltage" .zero .zero, .tickEnds 0 false Dict.empty,
  .clock 100, .tickBegins 0, .apply 0 "voltage" .zero .zero]

theorem driftBounded_of_fresh_drifting :
    EachStep step (fun s e _ => s.DriftBounded e) {} drifting := by
  refine driftBounded_of_fresh drifting ?_
  have happly : ∀ st : AnomalyState, st.params =
      [("drift_per_second", .float (.fin true 1)), ("max_drift", .float (.fin false 50))] →
      ∀ rate maxDrift, Accepted st rate maxDrift → Exact st rate maxDrift := by
    intro st hparams rate maxDrift haccepted
    have hrate := haccepted.driftPerSecond
    have hcap := haccepted.cap
    rw [hparams] at hrate hcap
    cases hrate
    cases hcap
    refine ⟨rfl, fun cap hcap => ?_⟩
    rw [hparams] at hcap
    cases hcap
    decide +kernel
  have hother : ∀ {s s' : DriftRun} {e : Event} {events : List Event}, step s e = some s' →
      (match e with | .taskBegins _ | .apply .. => False | _ => True) →
      EachStep step (fun s e _ => s.BeginsFresh e ∧ s.AppliesExact e) s' events →
      EachStep step (fun s e _ => s.BeginsFresh e ∧ s.AppliesExact e) s (e :: events) :=
    fun hs hne h => .cons hs (condition_of_other (by rintro _ rfl; exact hne)
      (by rintro _ _ _ _ rfl; exact hne)) h
  refine hother rfl trivial (hother rfl trivial (hother rfl trivial ?_))
  refine .cons rfl ⟨?_, ?_⟩ ?_
  · rintro _ _ ⟨⟩ ⟨⟩
    refine ⟨?_, ?_⟩
    · rintro (_ | t) ⟨task, htask, -, hstatus⟩
      · cases htask
        cases hstatus
      · cases htask
    · rintro _ ⟨register, st, hst | hst, -⟩ <;> cases hst
  · rintro _ _ _ _ _ _ ⟨t, ht, -⟩
    cases ht
  refine hother rfl trivial (hother rfl trivial (hother rfl trivial ?_))
  refine .cons rfl ⟨nofun, ?_⟩ ?_
  · rintro _ _ _ _ _ st ⟨_, ⟨⟩, htick, hused⟩
    cases htick
    cases hused
    exact happly _ rfl
  refine hother rfl trivial (hother rfl trivial (hother rfl trivial ?_))
  refine .cons rfl ⟨nofun, ?_⟩ trivial
  rintro _ _ _ _ _ st ⟨_, ⟨⟩, htick, hused⟩
  cases htick
  cases hused
  exact happly _ rfl

/-- One second, and a tick of the task that applies the register's anomaly and then fails. -/
def failedTick (t : TaskRef) (now : ℚ) : List Event := [
  .clock now, .tickBegins t, .apply t "voltage" .zero .zero, .tickEnds t true Dict.empty]

/-- A simulation that goes into its error exit, and is started again.  The drift stays. -/
def restarted : List Event := [
  .engine (.startDevice 1), .engine (.dataLoaded 0 [SimulationEngine.someConfig]),
  .engine (.schedulesLoaded 0 []), .taskBegins 0,
  .inject 1 "voltage" .drift
    [("drift_per_second", .float (.fin false 1)), ("max_drift", .float (.fin false 50))]] ++
  failedTick 0 10 ++ failedTick 0 11 ++ failedTick 0 12 ++ failedTick 0 13 ++ failedTick 0 14 ++ [
  .engine (.taskErrorSet 0 true), .engine (.onTaskDone 0),
  .engine (.startDevice 1), .engine (.dataLoaded 0 [SimulationEngine.someConfig]),
  .engine (.schedulesLoaded 0 []), .taskBegins 1, .tickBegins 1]

theorem drift_turns_round :
    ¬ ∀ events, EachStep step (fun s e _ => s.DriftBounded e) {} events := by
  intro h
  have hlast := (h (restarted ++ [.apply 1 "voltage" .zero .zero])).last rfl rfl
  have happlied := hlast 1 "voltage" .zero _ .zero _ ⟨1, rfl, rfl, rfl⟩ (.fin false 1)
    (.fin false 50)
  obtain ⟨-, hbounded⟩ := happlied ⟨rfl, rfl, rfl, rfl, by decide +kernel⟩
  obtain ⟨hdirection, -⟩ := hbounded (.fin true 10) (by decide +kernel)
  revert hdirection
  unfold Direction
  decide +kernel

end DriftRun

end GhostMeter.Simulation
