import GhostMeter.Services.ScenarioRequests

/-! How a scenario ends, by itself or by `ScenarioRunner.stop`, and what it leaves behind. -/

namespace GhostMeter.Services.Timeline

open GhostMeter.Lib GhostMeter.Simulation

/-- `ScenarioRunner.stop`: without an entry there is nothing to stop; else the loop is cancelled at
its sleep. -/
def stop (device : UUID) (s : Timeline) : Timeline :=
  if (s.entries device).isSome then
    { s with
      injector := ScenarioLifecycle.removeAll device s.injector s.running.activeAnomalies
      entries := s.entries.pop device
      running := { s.running with activeAnomalies := ∅, status := .completed }
      left := true }
  else s

inductive Event
  | body (elapsed : ℚ)
  | stop

def step (device : UUID) (s : Timeline) : Event → Option Timeline
  | .body elapsed => s.drive device elapsed
  | .stop => some (s.stop device)

/-- The loop has injected an anomaly on the register. -/
def Injected (s : Timeline) (r : String) : Prop :=
  ∃ step i, (step, i) ∈ s.running.steps.zipIdx ∧ i ∈ s.triggered ∧ step.registerName = r

/-- No anomaly of the loop is left on a register that is not active, and the registers that it has
injected none on are as it has found them. -/
structure Held (device : UUID) (found : Dict String AnomalyState) (s : Timeline) : Prop where
  injected : ∀ r ∈ s.running.activeAnomalies, s.Injected r
  released : ∀ r, s.Injected r → r ∉ s.running.activeAnomalies → s.realtime device r = none
  untouched : ∀ r, ¬ s.Injected r → s.realtime device r = found r

/-- The scenario is over: the entry is gone, and the registers of the device are as the loop has
found them, or without an anomaly. -/
structure Ended (device : UUID) (found : Dict String AnomalyState) (s : Timeline) : Prop where
  entry : s.entries device = none
  status : s.running.status = .completed
  active : s.running.activeAnomalies = ∅
  removed : ∀ r, s.Injected r → s.realtime device r = none
  untouched : ∀ r, ¬ s.Injected r → s.realtime device r = found r

variable {device : UUID} {elapsed : ℚ} {s s' : Timeline} {found : Dict String AnomalyState}

theorem injected_trigger {step : StepInfo} {i : ℕ} (hmem : (step, i) ∈ s.running.steps.zipIdx)
    {r : String} : (s.trigger device step i).Injected r ↔ s.Injected r ∨ r = step.registerName := by
  constructor
  · rintro ⟨step', j, hmem', hj, rfl⟩
    rcases Finset.mem_insert.1 hj with rfl | hj
    · exact Or.inr (congrArg _ (mem_zipIdx_right hmem' hmem))
    · exact Or.inl ⟨step', j, hmem', hj, rfl⟩
  · rintro (⟨step', j, hmem', hj, rfl⟩ | rfl)
    · exact ⟨step', j, hmem', Finset.mem_insert_of_mem hj, rfl⟩
    · exact ⟨step, i, hmem, Finset.mem_insert_self .., rfl⟩

theorem Held.activateStep (h : Held device found s) {entry : StepInfo × ℕ}
    (hmem : entry ∈ s.running.steps.zipIdx) :
    Held device found (activateStep device elapsed s entry) := by
  obtain ⟨step, i⟩ := entry
  unfold Timeline.activateStep
  split
  next =>
    constructor
    · intro r hr
      rw [injected_trigger hmem]
      rcases Finset.mem_insert.1 hr with rfl | hr
      · exact Or.inr rfl
      · exact Or.inl (h.injected r hr)
    · intro r hinj hr
      rw [activeAnomalies_trigger, Finset.mem_insert, not_or] at hr
      rw [realtime_trigger, Dict.set_of_ne _ _ hr.1]
      exact h.released r (((injected_trigger hmem).1 hinj).resolve_right hr.1) hr.2
    · intro r hinj
      rw [injected_trigger hmem, not_or] at hinj
      rw [realtime_trigger, Dict.set_of_ne _ _ hinj.2]
      exact h.untouched r hinj.1
  next => exact h

theorem Held.deactivateStep (h : Held device found s) (entry : StepInfo × ℕ) :
    Held device found (deactivateStep device elapsed s entry) := by
  unfold Timeline.deactivateStep
  split
  next hc =>
    constructor
    · intro r hr
      exact h.injected r (Finset.mem_of_mem_erase hr)
    · intro r hinj hr
      rw [realtime_release, Dict.pop_apply]
      split
      next => rfl
      next hne => exact h.released r hinj fun hr' => hr (Finset.mem_erase.2 ⟨hne, hr'⟩)
    · intro r hinj
      have hne : r ≠ entry.1.registerName := by
        rintro rfl
        exact hinj (h.injected _ hc.2.2)
      rw [realtime_release, Dict.pop_of_ne _ hne]
      exact h.untouched r hinj
  next => exact h

theorem Held.activate (h : Held device found s) :
    Held device found (s.activate device elapsed) := by
  have hloop : Held device found (s.activate device elapsed) ∧
      (s.activate device elapsed).running.steps = s.running.steps := by
    refine List.foldlRecOn (motive := fun b => Held device found b ∧
      b.running.steps = s.running.steps) _ _ ⟨h, rfl⟩ ?_
    rintro b ⟨hb, hsteps⟩ entry hmem
    refine ⟨hb.activateStep (hsteps ▸ hmem), ?_⟩
    rw [← hsteps, Timeline.activateStep]
    split <;> rfl
  exact hloop.1

theorem Held.deactivate (h : Held device found s) :
    Held device found (s.deactivate device elapsed) :=
  List.foldlRecOn _ _ h fun _ hb entry _ => hb.deactivateStep entry

theorem Held.body (h : Held device found s) : Held device found (s.body device elapsed) := by
  have hloops : Held device found ((s.activate device elapsed).deactivate device elapsed) :=
    h.activate.deactivate
  unfold Timeline.body checkComplete
  split
  next => exact { hloops with }
  next => exact hloops

/-- The total is the latest end of a step. -/
def Bounded (s : Timeline) : Prop :=
  ∀ step ∈ s.running.steps, step.endAt ≤ s.running.totalDurationSeconds

/-- Once the total has passed, every step has been released. -/
theorem active_body_eq_empty (h : Held device found s) (hbounded : s.Bounded)
    (htotal : (s.running.totalDurationSeconds : ℚ) ≤ elapsed) :
    (s.body device elapsed).running.activeAnomalies = ∅ := by
  rw [Finset.eq_empty_iff_forall_notMem]
  intro r hr
  obtain ⟨hactive, hexpires⟩ := (active_body r).1 hr
  obtain ⟨step, i, hmem, hi, hname⟩ := h.activate.injected r hactive
  rw [steps_activate] at hmem
  refine hexpires ⟨step, i, hmem, hname, hi, le_trans ?_ htotal⟩
  exact_mod_cast hbounded step (List.fst_mem_of_mem_zipIdx hmem)

/-- What the check at the end of a body makes of the loop. -/
theorem body_cases (hleft : s.left = false) :
    ((s.body device elapsed).left = true ∧ (s.body device elapsed).entries device = none ∧
        (s.body device elapsed).running.status = .completed ∧
        (s.body device elapsed).running.activeAnomalies = ∅) ∨
      (s.body device elapsed).left = false ∧
        (s.body device elapsed).entries = s.entries ∧
        ¬ ((s.running.totalDurationSeconds : ℚ) ≤ elapsed ∧
          (s.body device elapsed).running.activeAnomalies = ∅) := by
  obtain ⟨hl, hentries, htotal⟩ := @deactivate_activate_frame device elapsed s
  unfold body checkComplete
  split
  next hc => exact Or.inl ⟨rfl, Dict.pop_self .., rfl, hc.2⟩
  next hc => exact Or.inr ⟨hl.trans hleft, hentries, by rwa [htotal] at hc⟩

theorem left_body_iff (h : Held device found s) (hbounded : s.Bounded) (hleft : s.left = false) :
    (s.body device elapsed).left = true ↔ (s.running.totalDurationSeconds : ℚ) ≤ elapsed := by
  constructor
  · exact total_le_of_left hleft
  · intro htotal
    rcases @body_cases device elapsed s hleft with ⟨hleft', -⟩ | ⟨-, -, hnot⟩
    · exact hleft'
    · exact absurd ⟨htotal, active_body_eq_empty h hbounded htotal⟩ hnot

/-- The invariant: the entry is there until the loop has been left. -/
structure Inv (device : UUID) (found : Dict String AnomalyState) (s : Timeline) : Prop where
  held : Held device found s
  bounded : s.Bounded
  entry : s.left = false → (s.entries device).isSome
  ended : s.left = true → Ended device found s

theorem Held.ended (h : Held device found s) (hentry : s.entries device = none)
    (hstatus : s.running.status = .completed) (hactive : s.running.activeAnomalies = ∅) :
    Ended device found s where
  entry := hentry
  status := hstatus
  active := hactive
  removed r hr := h.released r hr (hactive ▸ Finset.notMem_empty r)
  untouched := h.untouched

theorem Inv.body (h : Inv device found s) (hleft : s.left = false) :
    Inv device found (s.body device elapsed) := by
  have hheld : Held device found (s.body device elapsed) := h.held.body
  have hbounded : (s.body device elapsed).Bounded := by
    rw [Bounded, steps_body, total_body]
    exact h.bounded
  rcases @body_cases device elapsed s hleft with ⟨hleft', hentry, hstatus, hactive⟩ |
    ⟨hleft', hentries, -⟩
  · refine ⟨hheld, hbounded, fun hf => ?_, fun _ => hheld.ended hentry hstatus hactive⟩
    cases hleft'.symm.trans hf
  · refine ⟨hheld, hbounded, fun _ => hentries ▸ h.entry hleft, fun ht => ?_⟩
    cases hleft'.symm.trans ht

theorem Held.stop (h : Held device found s) : Held device found (s.stop device) := by
  unfold Timeline.stop
  split
  next =>
    have hrealtime : ∀ r, (ScenarioLifecycle.removeAll device s.injector
        s.running.activeAnomalies).getActive device r =
          if r ∈ s.running.activeAnomalies then none else s.realtime device r :=
      ScenarioLifecycle.getActive_removeAll s.injector s.running.activeAnomalies
    constructor
    · intro r hr
      cases Finset.notMem_empty r hr
    · intro r hinj _
      rw [realtime, hrealtime]
      split
      next => rfl
      next hr => exact h.released r hinj hr
    · intro r hinj
      have hr : r ∉ s.running.activeAnomalies := fun hr => hinj (h.injected r hr)
      rw [realtime, hrealtime, if_neg hr]
      exact h.untouched r hinj
  next => exact h

theorem Inv.stop (h : Inv device found s) :
    Inv device found (s.stop device) ∧ (s.stop device).left = true := by
  by_cases hentry : (s.entries device).isSome
  · have hheld : Held device found (s.stop device) := h.held.stop
    rw [Timeline.stop, if_pos hentry] at hheld ⊢
    refine ⟨⟨hheld, h.bounded, ?_, ?_⟩, rfl⟩
    · rintro ⟨⟩
    · exact fun _ => hheld.ended (Dict.pop_self ..) rfl rfl
  · rw [Timeline.stop, if_neg hentry]
    exact ⟨h, by simpa using mt h.entry hentry⟩

theorem inv_start {injector : AnomalyInjector} {entries : Dict UUID UUID} {scenarioId : UUID}
    {scenarioName : String} {steps : List ScenarioStepCreate}
    (h : start injector entries device scenarioId scenarioName (computeTotalDuration steps)
      (steps.map ScenarioStepCreate.toStepInfo) = .ok s) :
    Inv device (injector.getActive device) s ∧ s.left = false ∧
      s.running.totalDurationSeconds = computeTotalDuration steps := by
  unfold start at h
  split at h
  next => cases h
  next =>
    obtain rfl := Except.ok.inj h
    refine ⟨⟨⟨?_, ?_, ?_⟩, ?_, ?_, ?_⟩, rfl, rfl⟩
    · intro r hr
      cases Finset.notMem_empty r hr
    · rintro r ⟨step, i, -, hi, -⟩
      cases Finset.notMem_empty i hi
    · exact fun _ _ => rfl
    · simp only [Bounded, List.forall_mem_map]
      exact fun step hstep => le_computeTotalDuration hstep
    · simp
    · rintro ⟨⟩

/-- The loop ends in the body whose elapsed time has reached the total, or with `stop`, and then the
scenario is over. -/
structure EndsRightly (device : UUID) (found : Dict String AnomalyState) (total : ℤ) (e : Event)
    (s' : Timeline) : Prop where
  body : ∀ elapsed, e = .body elapsed → (s'.left = true ↔ (total : ℚ) ≤ elapsed)
  stop : e = .stop → s'.left = true
  ended : s'.left = true → Ended device found s'

theorem Inv.step {total : ℤ} {e : Event} (h : Inv device found s)
    (htotal : s.running.totalDurationSeconds = total) (hs : s.step device e = some s') :
    (Inv device found s' ∧ s'.running.totalDurationSeconds = total) ∧
      EndsRightly device found total e s' := by
  cases e with
  | body elapsed =>
    simp only [Timeline.step, drive] at hs
    split at hs
    next => cases hs
    next hleft =>
      obtain rfl := Option.some.inj hs
      have hleft : s.left = false := by simpa using hleft
      have hinv : Inv device found (s.body device elapsed) := h.body hleft
      refine ⟨⟨hinv, total_body.trans htotal⟩, ?_, by rintro ⟨⟩, hinv.ended⟩
      rintro _ ⟨⟩
      rw [left_body_iff h.held h.bounded hleft, htotal]
  | stop =>
    obtain rfl := Option.some.inj hs
    obtain ⟨hinv, hleft⟩ := h.stop
    refine ⟨⟨hinv, ?_⟩, by rintro _ ⟨⟩, fun _ => hleft, hinv.ended⟩
    rw [Timeline.stop]
    split <;> exact htotal

/-- Before the total the loop goes on. -/
theorem exec_drive {total : ℤ} {times : List ℚ} (h : Inv device found s) (hleft : s.left = false)
    (htotal : s.running.totalDurationSeconds = total) (htimes : ∀ t ∈ times, t < total) :
    ∃ s', exec (drive device) s times = some s' ∧ Inv device found s' ∧ s'.left = false ∧
      s'.running.totalDurationSeconds = total := by
  induction times generalizing s with
  | nil => exact ⟨s, rfl, h, hleft, htotal⟩
  | cons t times ih =>
    obtain ⟨ht, hrest⟩ := List.forall_mem_cons.1 htimes
    have hdrive : drive device s t = some (s.body device t) := by simp [drive, hleft]
    have hnot : ¬ (s.body device t).left = true := by
      rw [left_body_iff h.held h.bounded hleft, htotal]
      exact not_le.2 ht
    obtain ⟨s', hs', hinv⟩ := ih (h.body hleft) (by simpa using hnot)
      (total_body.trans htotal) hrest
    refine ⟨s', ?_, hinv⟩
    rw [exec, hdrive, Option.bind_some, hs']

theorem exists_first {times : List ℚ} {total : ℚ} (h : ∃ t ∈ times, total ≤ t) :
    ∃ before t after, times = before ++ t :: after ∧ (∀ u ∈ before, u < total) ∧ total ≤ t := by
  obtain ⟨t, ht⟩ : ∃ t, times.find? (total ≤ ·) = some t := by
    rw [← Option.isSome_iff_exists, List.find?_isSome]
    simpa using h
  obtain ⟨hle, before, after, heq, hbefore⟩ := List.find?_eq_some_iff_append.1 ht
  exact ⟨before, t, after, heq, by simpa using hbefore, by simpa using hle⟩

/-- For every step list, from any real-time anomalies and entries of other devices, with `stop`
anywhere: the loop ends in exactly the first body that has reached the total, if one does. -/
theorem start_endsRightly {injector : AnomalyInjector} {entries : Dict UUID UUID}
    {device scenarioId : UUID} {scenarioName : String} {steps : List ScenarioStepCreate}
    {s : Timeline}
    (hstart : start injector entries device scenarioId scenarioName (computeTotalDuration steps)
      (steps.map ScenarioStepCreate.toStepInfo) = .ok s) :
    (∀ events, EachStep (step device) (fun _ e s' => EndsRightly device
        (injector.getActive device) (computeTotalDuration steps) e s') s events) ∧
      ∀ times : List ℚ, (∃ t ∈ times, (computeTotalDuration steps : ℚ) ≤ t) →
        ∃ before t after s', times = before ++ t :: after ∧
          (∀ u ∈ before, u < (computeTotalDuration steps : ℚ)) ∧
          exec (drive device) s (before ++ [t]) = some s' ∧ s'.left = true ∧
          Ended device (injector.getActive device) s' := by
  obtain ⟨hinv, hleft, htotal⟩ := inv_start hstart
  constructor
  · intro events
    refine EachStep.guarded (J := fun s => Inv device (injector.getActive device) s ∧
        s.running.totalDurationSeconds = computeTotalDuration steps) ?_ ⟨hinv, htotal⟩
      (eachStep_true s events)
    rintro s e s' ⟨hinv, htotal⟩ hs -
    exact hinv.step htotal hs
  · intro times hreach
    obtain ⟨before, t, after, heq, hbefore, ht⟩ := exists_first hreach
    obtain ⟨s₁, hs₁, hinv₁, hleft₁, htotal₁⟩ := exec_drive hinv hleft htotal hbefore
    have hleft₂ : (s₁.body device t).left = true := by
      rw [left_body_iff hinv₁.held hinv₁.bounded hleft₁, htotal₁]
      exact ht
    refine ⟨before, t, after, s₁.body device t, heq, hbefore, ?_, hleft₂, ?_⟩
    · simp [exec_append, hs₁, exec, drive, hleft₁]
    · exact (hinv₁.body hleft₁).ended hleft₂

theorem start_endsRightly_touching :
    (∀ events, EachStep (step 1) (fun _ e s' => EndsRightly 1
        (({} : AnomalyInjector).getActive 1) (computeTotalDuration touchingSteps) e s')
        touchingLoop events) ∧
      ∀ times : List ℚ, (∃ t ∈ times, (computeTotalDuration touchingSteps : ℚ) ≤ t) →
        ∃ before t after s', times = before ++ t :: after ∧
          (∀ u ∈ before, u < (computeTotalDuration touchingSteps : ℚ)) ∧
          exec (drive 1) touchingLoop (before ++ [t]) = some s' ∧ s'.left = true ∧
          Ended 1 (({} : AnomalyInjector).getActive 1) s' :=
  start_endsRightly start_touching

end GhostMeter.Services.Timeline
