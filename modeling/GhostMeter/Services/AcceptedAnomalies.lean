import GhostMeter.Lib.Binary
import GhostMeter.Schemas.Anomaly
import GhostMeter.Services.AnomalyService
import GhostMeter.Services.ScenarioRunner

/-! Accepted anomalies at run time.  The schema asks for the presence and the sign of some
params; `apply` converts each of them with `float` on every call, and raises what that
raises. -/

namespace GhostMeter.Lib

/-- `float` reads the value. -/
def Json.Readable : Json → Prop
  | .null | .arr _ | .obj _ => False
  | .bool _ | .float _ => True
  | .int n => n.natAbs < 2 ^ 1024 - 2 ^ 970
  | .str s => ∃ x, PyFloat.ofString s = .ok x

theorem Json.exists_toFloat_iff (v : Json) : (∃ x, v.toFloat = .ok x) ↔ v.Readable := by
  cases v with
  | int n => exact PyFloat.exists_ofInt_iff n
  | str s => exact Iff.rfl
  | bool b => exact iff_of_true ⟨_, rfl⟩ trivial
  | float x => exact iff_of_true ⟨_, rfl⟩ trivial
  | null => simp [Json.toFloat, Json.Readable]
  | arr xs => simp [Json.toFloat, Json.Readable]
  | obj fields => simp [Json.toFloat, Json.Readable]

/-- A number between 0 and 1 converts. -/
theorem Json.readable_of_number {v : Json} {x : PyFloat} (h : v.number = .ok x)
    (h0 : (PyFloat.exact 0).le x = true) (h1 : x.le (.exact 1) = true) : v.Readable := by
  cases v with
  | int n =>
    cases h
    have hlo : 0 ≤ n := PyFloat.exact_le_exact.1 h0
    have hhi : n ≤ 1 := PyFloat.exact_le_exact.1 h1
    have hbound : n.natAbs ≤ 1 := by omega
    exact hbound.trans_lt (by decide +kernel)
  | bool b => trivial
  | float x => trivial
  | _ => cases h

end GhostMeter.Lib

namespace GhostMeter.Schemas

open GhostMeter.Lib GhostMeter.Simulation

/-- The params that `apply` converts and the schema does not make convertible. -/
def convertedParams : AnomalyType → List String
  | .spike => ["multiplier"]
  | .drift => ["drift_per_second", "max_drift"]
  | .flatline => ["value"]
  | .outOfRange => ["value"]
  | .dataLoss => []
  | .other _ => []

/-- `float` reads each of them that is given. -/
def Convertible (anomalyType : AnomalyType) (params : Params) : Prop :=
  ∀ key ∈ convertedParams anomalyType, ∀ v, params.lookup key = some v → v.Readable

variable {anomalyType : AnomalyType} {params : Params}

theorem AnomalyParamsBase.lookup (h : AnomalyParamsBase anomalyType params) (key : String)
    (hkey : key ∈ requiredParams anomalyType) : ∃ v, params.lookup key = some v := by
  have hparams := h.validParams
  simp only [validateParams, andThen_ok_iff, checkAll_ok_iff, raiseIf_ok_iff] at hparams
  have hsome := hparams.1 key hkey
  rwa [Option.isNone_iff_eq_none, ← Ne, Option.ne_none_iff_exists'] at hsome

/-- The check of the probability leaves nothing to `apply`. -/
theorem AnomalyParamsBase.readable_probability (h : AnomalyParamsBase .spike params) {v : Json}
    (hv : params.lookup "probability" = some v) : v.Readable := by
  have hparams := h.validParams
  simp only [validateParams, bind_ok_iff, raiseIf_ok_iff, Params.getItem, hv, not_not] at hparams
  obtain ⟨-, -, -, -, -, -, -, -, _, ⟨⟩, x, hx, h0, h1⟩ := hparams
  exact Json.readable_of_number hx h0 h1

theorem AnomalyParamsBase.of_schedule {e : ScheduleEntry} (h : validateSchedule e = .ok ()) :
    AnomalyParamsBase e.anomalyType e.anomalyParams := by
  simp only [validateSchedule, andThen_ok_iff] at h
  exact ⟨h.1, h.2.2.2⟩

end GhostMeter.Schemas

namespace GhostMeter.Services

open GhostMeter.Lib GhostMeter.Simulation GhostMeter.Schemas

section Anomaly

variable {anomalyType : AnomalyType} {params : Params}

theorem convertible_iff_of_singleton {key : String} {v : Json}
    (hkeys : convertedParams anomalyType = [key]) (hv : params.lookup key = some v) :
    Convertible anomalyType params ↔ ∃ x, v.toFloat = .ok x := by
  simp [Convertible, hkeys, hv, v.exists_toFloat_iff]

theorem exists_pure_ok {α : Type} (a : α) : ∃ b, (pure a : Except PyError α) = .ok b := ⟨a, rfl⟩

/-- An accepted anomaly raises on a value exactly when a param does not convert, whatever the
value and the moment. -/
theorem exists_applyAnomaly_iff {st : AnomalyState}
    (h : AnomalyParamsBase st.anomalyType st.params) (value : PyFloat) (elapsed : ℚ)
    (random : PyFloat) :
    (∃ out, AnomalyInjector.applyAnomaly st value elapsed random = .ok out) ↔
      Convertible st.anomalyType st.params := by
  obtain ⟨anomalyType, params, activatedAt, frozenValue⟩ := st
  change AnomalyParamsBase anomalyType params at h
  change _ ↔ Convertible anomalyType params
  cases anomalyType with
  | spike =>
    obtain ⟨prob, hprob⟩ := h.lookup "probability" (by simp [requiredParams])
    obtain ⟨mult, hmult⟩ := h.lookup "multiplier" (by simp [requiredParams])
    obtain ⟨x, hx⟩ := prob.exists_toFloat_iff.2 (h.readable_probability hprob)
    rw [convertible_iff_of_singleton rfl hmult]
    simp only [AnomalyInjector.applyAnomaly, Params.getD, hprob, hmult, Option.getD_some, hx,
      exists_bind_ok_iff, exists_pure_ok, and_true, Except.ok.injEq, exists_eq_left']
  | drift =>
    obtain ⟨rate, hrate⟩ := h.lookup "drift_per_second" (by simp [requiredParams])
    obtain ⟨cap, hcap⟩ := h.lookup "max_drift" (by simp [requiredParams])
    have hconv : Convertible .drift params ↔
        (∃ x, rate.toFloat = .ok x) ∧ ∃ x, cap.toFloat = .ok x := by
      simp [Convertible, convertedParams, hrate, hcap, Json.exists_toFloat_iff]
    rw [hconv]
    simp only [AnomalyInjector.applyAnomaly, Params.getItem, hrate, hcap, exists_bind_ok_iff,
      exists_pure_ok, and_true, Except.ok.injEq, exists_eq_left', exists_and_right]
  | flatline =>
    cases hv : params.lookup "value" with
    | none =>
      refine iff_of_true ?_ (by simp [Convertible, convertedParams, hv])
      simp only [AnomalyInjector.applyAnomaly, hv]
      exact ⟨_, rfl⟩
    | some v =>
      rw [convertible_iff_of_singleton rfl hv]
      simp only [AnomalyInjector.applyAnomaly, hv, exists_bind_ok_iff, exists_pure_ok, and_true]
  | outOfRange =>
    obtain ⟨v, hv⟩ := h.lookup "value" (by simp [requiredParams])
    rw [convertible_iff_of_singleton rfl hv]
    simp only [AnomalyInjector.applyAnomaly, Params.getItem, hv, exists_bind_ok_iff,
      exists_pure_ok, and_true, Except.ok.injEq, exists_eq_left']
  | dataLoss => exact iff_of_true ⟨_, rfl⟩ (by simp [Convertible, convertedParams])
  | other name => exact absurd h.validType (by simp [validateAnomalyType])

end Anomaly

/-- What a call of `apply` gets: a finite value of the register, a time since the start, and
the drawn `random.random()`. -/
structure Reading where
  value : PyFloat
  elapsed : ℚ
  random : PyFloat
  finite : value.isFinite = true
  elapsed_nonneg : 0 ≤ elapsed

section Readings

variable (device : UUID) (register : String)

def applyReading (inj : AnomalyInjector) (r : Reading) : AnomalyInjector × Except PyError PyFloat :=
  inj.apply device register r.value r.elapsed r.random

def applyStep (inj : AnomalyInjector) (r : Reading) : Option AnomalyInjector :=
  some (applyReading device register inj r).1

/-- In every sequence of calls for the register, each call returns a number. -/
def NeverFails (inj : AnomalyInjector) : Prop :=
  ∀ readings : List Reading, EachStep (applyStep device register)
    (fun inj r _ => ∃ x, (applyReading device register inj r).2 = .ok x) inj readings

/-- The anomaly is accepted, and its params convert. -/
def Harmless (anomalyType : AnomalyType) (params : Params) : Prop :=
  AnomalyParamsBase anomalyType params ∧ Convertible anomalyType params

/-- The register has a real-time anomaly, which is harmless. -/
def Forced (inj : AnomalyInjector) : Prop :=
  ∃ st, inj.getActive device register = some st ∧ Harmless st.anomalyType st.params

/-- The register has harmless schedules only. -/
structure Scheduled (inj : AnomalyInjector) : Prop where
  unforced : inj.getActive device register = none
  cached : ∀ st, inj.getScheduled device register = some st → Harmless st.anomalyType st.params
  schedules : ∀ e ∈ inj.getSchedules device, e.registerName = register →
    Harmless e.anomalyType e.anomalyParams

variable {device register} {inj : AnomalyInjector}

theorem exists_applyReading_iff (r : Reading) {st : AnomalyState}
    (hused : inj.used device register r.elapsed = some st)
    (h : AnomalyParamsBase st.anomalyType st.params) :
    (∃ x, (applyReading device register inj r).2 = .ok x) ↔
      Convertible st.anomalyType st.params := by
  rw [applyReading, AnomalyInjector.apply_snd, hused, AnomalyInjector.effect,
    ← exists_applyAnomaly_iff h r.value r.elapsed r.random]
  cases AnomalyInjector.applyAnomaly st r.value r.elapsed r.random <;> simp [Except.map]

theorem Forced.apply (h : Forced device register inj) (r : Reading) :
    Forced device register (applyReading device register inj r).1 ∧
      ∃ x, (applyReading device register inj r).2 = .ok x := by
  obtain ⟨st, hst, hvalid, hconv⟩ := h
  have hused : inj.used device register r.elapsed = some st := by
    rw [AnomalyInjector.used, hst]
  refine ⟨?_, (exists_applyReading_iff r hused hvalid).2 hconv⟩
  obtain ⟨htype, hparams⟩ := AnomalyInjector.applied_same st r.value r.elapsed r.random rfl
  have hactive := AnomalyInjector.getActive_apply inj device register r.elapsed r.value r.random
    (d := device) (r := register)
  rw [if_pos ⟨rfl, rfl⟩, hst, Option.map_some] at hactive
  refine ⟨_, hactive, ?_⟩
  rw [htype, hparams]
  exact ⟨hvalid, hconv⟩

theorem Scheduled.used (h : Scheduled device register inj) {elapsed : ℚ} {st : AnomalyState}
    (hused : inj.used device register elapsed = some st) :
    Harmless st.anomalyType st.params := by
  rcases AnomalyInjector.used_cases hused with hactive | ⟨-, hst | ⟨e, he, hname, rfl⟩⟩
  · cases hactive.symm.trans h.unforced
  · exact h.cached st hst
  · exact h.schedules e he hname

theorem Scheduled.apply (h : Scheduled device register inj) (r : Reading) :
    Scheduled device register (applyReading device register inj r).1 ∧
      ∃ x, (applyReading device register inj r).2 = .ok x := by
  refine ⟨⟨?_, fun st' hst' => ?_, ?_⟩, ?_⟩
  · rw [applyReading, AnomalyInjector.getActive_apply, if_pos ⟨rfl, rfl⟩, h.unforced,
      Option.map_none]
  · rw [applyReading, AnomalyInjector.getScheduled_apply _ _ _ _ _ _ h.unforced] at hst'
    obtain ⟨st, hused, happlied⟩ := Option.map_eq_some_iff.1 hst'
    obtain ⟨htype, hparams⟩ := AnomalyInjector.applied_same st r.value r.elapsed r.random happlied
    rw [htype, hparams]
    exact h.used hused
  · rw [applyReading, AnomalyInjector.getSchedules_apply]
    exact h.schedules
  · cases hused : inj.used device register r.elapsed with
    | some st => exact (exists_applyReading_iff r hused (h.used hused).1).2 (h.used hused).2
    | none =>
      rw [applyReading, AnomalyInjector.apply_snd, hused]
      exact ⟨_, rfl⟩

/-- What one call keeps and answers, every sequence of them does. -/
theorem neverFails_of_invariant {J : AnomalyInjector → Prop}
    (happly : ∀ inj, J inj → ∀ r, J (applyReading device register inj r).1 ∧
      ∃ x, (applyReading device register inj r).2 = .ok x) (h : J inj) :
    NeverFails device register inj := by
  intro readings
  refine EachStep.guarded (J := J) (fun inj r inj' hJ hstep _ => ?_) h (eachStep_true _ _)
  cases hstep
  exact happly inj hJ r

/-- A call that finds an accepted anomaly returns only if its params convert. -/
theorem NeverFails.convertible (h : NeverFails device register inj) (r : Reading)
    {st : AnomalyState} (hused : inj.used device register r.elapsed = some st)
    (hvalid : AnomalyParamsBase st.anomalyType st.params) :
    Convertible st.anomalyType st.params :=
  (exists_applyReading_iff r hused hvalid).1 ((h [r] _ rfl).1)

/-- A call at this moment. -/
def Reading.at (elapsed : ℚ) (h : 0 ≤ elapsed) : Reading :=
  { value := .zero, elapsed, random := .zero, finite := rfl, elapsed_nonneg := h }

theorem neverFails_inject_iff {anomalyType : AnomalyType} {params : Params}
    (h : AnomalyParamsBase anomalyType params) :
    NeverFails device register (inj.inject device register anomalyType params) ↔
      Convertible anomalyType params := by
  have hactive : (inj.inject device register anomalyType params).getActive device register =
      some { anomalyType, params } := by
    rw [AnomalyInjector.getActive_inject, Dict.set_self]
  constructor
  · intro hnever
    have hused : (inj.inject device register anomalyType params).used device register 0 =
        some { anomalyType, params } := by
      rw [AnomalyInjector.used, hactive]
    exact hnever.convertible (.at 0 le_rfl) hused h
  · intro hconv
    exact neverFails_of_invariant (J := Forced device register) (fun _ hJ r => hJ.apply r)
      ⟨_, hactive, h, hconv⟩

/-- A freshly loaded schedule begins with the first call in its window. -/
theorem used_loadSchedules {schedules : List AnomalyScheduleCreate} {s : AnomalyScheduleCreate}
    (hcheck : ∀ s ∈ schedules, checkOverlap schedules s.registerName = .ok ())
    (hactive : inj.getActive device register = none) (hs : s ∈ schedules)
    (hname : s.registerName = register) :
    (inj.loadSchedules device (toEntries schedules)).used device register s.start =
      some (Watch.fresh s.toScheduleEntry s.start) := by
  have hmem : s.toScheduleEntry ∈ toEntries schedules := List.mem_map_of_mem hs
  have hcovers : s.Covers s.start := by
    refine ⟨le_rfl, ?_⟩
    have := s.duration_pos
    simp only [ScheduleEntry.start, ScheduleEntry.stop, Int.cast_lt]
    omega
  have hactive' : (inj.loadSchedules device (toEntries schedules)).getActive device register =
      none := hactive
  simp only [AnomalyInjector.used, hactive']
  rw [AnomalyInjector.getScheduled_update, AnomalyInjector.getSchedules_loadSchedules,
    (Watch.activeSchedule_eq_some_iff (disjoint_toEntries hcheck)).2 ⟨hmem, hname, hcovers⟩,
    AnomalyInjector.getScheduled_loadSchedules]
  · rfl
  · rw [AnomalyInjector.getSchedules_loadSchedules]
    exact List.ne_nil_of_mem hmem

theorem neverFails_loadSchedules_iff {schedules : List AnomalyScheduleCreate}
    (hvalid : ∀ s ∈ schedules, validateSchedule s.toScheduleEntry = .ok ())
    (hcheck : ∀ s ∈ schedules, checkOverlap schedules s.registerName = .ok ())
    (hactive : inj.getActive device register = none) :
    NeverFails device register (inj.loadSchedules device (toEntries schedules)) ↔
      ∀ s ∈ schedules, s.registerName = register →
        Convertible s.anomalyType s.anomalyParams := by
  constructor
  · intro hnever s hs hname
    have hstart : 0 ≤ s.start := Int.cast_nonneg s.trigger_nonneg
    exact hnever.convertible (.at s.start hstart) (used_loadSchedules hcheck hactive hs hname)
      (.of_schedule (hvalid s hs))
  · intro hconv
    refine neverFails_of_invariant (J := Scheduled device register) (fun _ hJ r => hJ.apply r)
      ⟨hactive, fun st hst => ?_, ?_⟩
    · rw [AnomalyInjector.getScheduled_loadSchedules] at hst
      cases hst
    · rw [AnomalyInjector.getSchedules_loadSchedules, toEntries, List.forall_mem_map]
      exact fun s hs hname => ⟨.of_schedule (hvalid s hs), hconv s hs hname⟩

variable (device register inj)

/-- Accepted anomalies never fail on their register exactly when their params convert: the
anomaly of a real-time injection, those of the schedules of a batch, and that of a scenario
step once it is triggered. -/
theorem apply_neverFails_iff :
    (∀ anomalyType params, AnomalyParamsBase anomalyType params →
      (NeverFails device register (inj.inject device register anomalyType params) ↔
        Convertible anomalyType params)) ∧
    (∀ schedules : List AnomalyScheduleCreate,
      (∀ s ∈ schedules, validateSchedule s.toScheduleEntry = .ok ()) →
      (∀ s ∈ schedules, checkOverlap schedules s.registerName = .ok ()) →
      inj.getActive device register = none →
      (NeverFails device register (inj.loadSchedules device (toEntries schedules)) ↔
        ∀ s ∈ schedules, s.registerName = register →
          Convertible s.anomalyType s.anomalyParams)) ∧
    ∀ (timeline : Timeline) (step : ScenarioStepCreate) (i : ℕ), step.registerName = register →
      AnomalyParamsBase step.anomalyType step.anomalyParams →
      (NeverFails device register (timeline.trigger device step.toStepInfo i).injector ↔
        Convertible step.anomalyType step.anomalyParams) := by
  refine ⟨fun _ _ h => neverFails_inject_iff h, fun _ hvalid hcheck hactive => ?_, ?_⟩
  · exact neverFails_loadSchedules_iff hvalid hcheck hactive
  · rintro timeline step i rfl h
    exact neverFails_inject_iff h

end Readings

theorem apply_neverFails_touching :
    NeverFails 1 "voltage"
        (AnomalyInjector.inject {} 1 "voltage" .spike
          [("multiplier", .int 3), ("probability", .bool true)]) ∧
      NeverFails 1 "voltage"
        (AnomalyInjector.loadSchedules {} 1 (toEntries touchingSchedules)) := by
  constructor
  · refine ((apply_neverFails_iff 1 "voltage" {}).1 _ _ ⟨rfl, by decide +kernel⟩).2 ?_
    intro key hkey v hv
    obtain rfl := List.mem_singleton.1 hkey
    cases hv
    exact (by decide +kernel : (3 : ℤ).natAbs < 2 ^ 1024 - 2 ^ 970)
  · refine ((apply_neverFails_iff 1 "voltage" {}).2.1 touchingSchedules (by decide)
      checkOverlap_touching rfl).2 ?_
    intro s hs hname key hkey v hv
    rcases List.mem_cons.1 hs with rfl | hs
    · cases hkey
    · obtain rfl := List.mem_singleton.1 hs
      obtain rfl := List.mem_singleton.1 hkey
      cases hv
      exact (by decide +kernel : (1 : ℤ).natAbs < 2 ^ 1024 - 2 ^ 970)

/-- A value that is no number is accepted, and raises on the first call. -/
theorem outOfRange_raises :
    AnomalyParamsBase .outOfRange [("value", .str "high")] ∧
      (AnomalyInjector.apply
        (AnomalyInjector.inject {} 1 "voltage" .outOfRange [("value", .str "high")])
        1 "voltage" (.exact 230) 0 .zero).2 =
          .error (.valueError "could not convert string to float") :=
  ⟨⟨rfl, by decide +kernel⟩, by decide +kernel⟩

end GhostMeter.Services
